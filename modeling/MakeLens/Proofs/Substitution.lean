import Mathlib.Data.List.Basic
import MakeLens.Index.Expansion

/-! # Substitution in one pass

    A value is a row of plain characters and references. Replacing its references
    one after the other inside the text, with a cursor that jumps behind each
    replacement, gives the same as replacing them all in one pass from left to
    right over the text as it was: nothing that was put in is looked at again.
-/

namespace MakeLens

/-! ## Section 1: The references of a value -/

/-- A part of a value: a plain character, or a reference as it is written, with the
    name between its brackets. -/
inductive Segment where
  | plain (c : Char)
  | reference (written : List Char) (name : String)
  deriving DecidableEq, Repr

/-- The parts of a value from left to right. A reference is taken wherever one
    starts, and the next part starts behind it. -/
def segments : List Char → List Segment
  | [] => []
  | c :: rest =>
    match referencedName? (c :: rest) with
    | some name =>
      .reference ((c :: rest).take (name.length + 3)) (String.ofList name) ::
        segments ((c :: rest).drop (name.length + 3))
    | none => .plain c :: segments rest
termination_by text => text.length
decreasing_by
  · simp only [List.length_drop, List.length_cons]
    omega
  · simp

/-- The name a part refers to. -/
def Segment.name? : Segment → Option String
  | .plain _ => none
  | .reference _ name => some name

/-- A part with its reference replaced. It stays as written where `resolve` gives
    nothing for its name. -/
def Segment.render (resolve : String → Option (List Char)) : Segment → List Char
  | .plain c => [c]
  | .reference written name => (resolve name).getD written

/-- The names that a value refers to, from left to right. -/
def references (text : List Char) : List String :=
  (segments text).filterMap Segment.name?

/-- A value with every reference replaced, in one pass over the value as it is. -/
def replaceReferences (resolve : String → Option (List Char)) (text : List Char) : List Char :=
  (segments text).flatMap (Segment.render resolve)

theorem replaceReferences_nil (resolve : String → Option (List Char)) :
    replaceReferences resolve [] = [] := by
  unfold replaceReferences segments
  rfl

theorem replaceReferences_cons_of_none {resolve : String → Option (List Char)} {c : Char}
    {rest : List Char} (h : referencedName? (c :: rest) = none) :
    replaceReferences resolve (c :: rest) = c :: replaceReferences resolve rest := by
  unfold replaceReferences
  rw [segments, h]
  rfl

theorem replaceReferences_cons_of_some {resolve : String → Option (List Char)} {c : Char}
    {rest name : List Char} (h : referencedName? (c :: rest) = some name) :
    replaceReferences resolve (c :: rest) =
      (resolve (String.ofList name)).getD ((c :: rest).take (name.length + 3)) ++
        replaceReferences resolve ((c :: rest).drop (name.length + 3)) := by
  unfold replaceReferences
  rw [segments, h]
  rfl

/-- Only the names that a value refers to count. -/
theorem replaceReferences_congr {resolve other : String → Option (List Char)} {text : List Char}
    (h : ∀ name ∈ references text, resolve name = other name) :
    replaceReferences resolve text = replaceReferences other text := by
  unfold replaceReferences
  apply List.flatMap_congr
  intro segment hmem
  cases segment with
  | plain c => rfl
  | reference written name =>
    have hname : name ∈ references text := List.mem_filterMap.2 ⟨_, hmem, rfl⟩
    show (resolve name).getD written = (other name).getD written
    rw [h name hname]

/-! ## Section 2: Replacing inside the text -/

theorem replaceReferences_of_firstOccurrence?_none {resolve : String → Option (List Char)}
    {offset : Nat} {text : List Char} (h : firstOccurrence? offset text = none) :
    replaceReferences resolve text = text := by
  induction text generalizing offset with
  | nil => exact replaceReferences_nil resolve
  | cons c rest ih =>
    rw [firstOccurrence?] at h
    split at h
    · cases h
    · next hname => rw [replaceReferences_cons_of_none hname, ih h]

/-- Up to its first reference a text stays as it is. -/
theorem replaceReferences_of_firstOccurrence?_some (resolve : String → Option (List Char))
    {offset : Nat} {text : List Char} {o : Occurrence} (h : firstOccurrence? offset text = some o) :
    ∃ front written tail, text = front ++ (written ++ tail) ∧
      o.start = offset + front.length ∧ o.stop = offset + (front ++ written).length ∧
      replaceReferences resolve text =
        front ++ ((resolve o.name).getD written ++ replaceReferences resolve tail) := by
  induction text generalizing offset with
  | nil => simp [firstOccurrence?] at h
  | cons c rest ih =>
    rw [firstOccurrence?] at h
    split at h
    · next name hname =>
      cases h
      have hlength := referencedName?_length_lt hname
      refine ⟨[], (c :: rest).take (name.length + 3), (c :: rest).drop (name.length + 3),
        ?_, rfl, ?_, ?_⟩
      · rw [List.nil_append, List.take_append_drop]
      · rw [List.nil_append, List.length_take]
        show offset + name.length + 3 = _
        omega
      · exact replaceReferences_cons_of_some hname
    · next hname =>
      obtain ⟨front, written, tail, rfl, hstart, hstop, hreplace⟩ := ih h
      refine ⟨c :: front, written, tail, rfl, ?_, ?_, ?_⟩
      · rw [hstart, List.length_cons]
        omega
      · rw [hstop, List.cons_append, List.length_cons]
        omega
      · rw [replaceReferences_cons_of_none hname, hreplace]
        rfl

/-- What stands before the cursor stays, what stands behind it is replaced in one
    pass. The induction is on the length of the text behind the cursor: what is put
    in goes before it. -/
theorem substituteFrom_append (resolve : String → Option (List Char)) (before text : List Char) :
    substituteFrom resolve (before ++ text) before.length =
      before ++ replaceReferences resolve text := by
  induction hlength : text.length using Nat.strongRecOn generalizing before text with
  | _ n ih =>
    have hnext : nextOccurrence? (before ++ text) before.length =
        firstOccurrence? before.length text := by
      unfold nextOccurrence?
      rw [List.drop_left]
    rw [substituteFrom]
    split
    · next hnone =>
      rw [hnext] at hnone
      rw [replaceReferences_of_firstOccurrence?_none hnone]
    · next o hsome =>
      rw [hnext] at hsome
      have hbounds := firstOccurrence?_bounds hsome
      obtain ⟨front, written, tail, rfl, hstart, hstop, hreplace⟩ :=
        replaceReferences_of_firstOccurrence?_some resolve hsome
      have hshorter : tail.length < n := by
        simp only [List.length_append] at hstop hlength
        omega
      rw [hreplace]
      cases hresolve : resolve o.name with
      | none =>
        -- the reference stays and the cursor goes behind it
        have hsplit : before ++ (front ++ (written ++ tail)) =
            (before ++ front ++ written) ++ tail := by
          simp only [List.append_assoc]
        have hcursor : o.stop = (before ++ front ++ written).length := by
          simp only [List.length_append] at hstop ⊢
          omega
        simp only
        rw [hsplit, hcursor, ih tail.length hshorter _ tail rfl]
        simp only [Option.getD_none, List.append_assoc]
      | some replacement =>
        have htake : (before ++ (front ++ (written ++ tail))).take o.start = before ++ front := by
          rw [hstart, ← List.append_assoc, ← List.length_append, List.take_left]
        have hdrop : (before ++ (front ++ (written ++ tail))).drop o.stop = tail := by
          rw [hstop, ← List.append_assoc front, ← List.append_assoc before, ← List.length_append,
            List.drop_left]
        have hcursor : o.start + replacement.length = (before ++ front ++ replacement).length := by
          simp only [List.length_append]
          omega
        simp only
        rw [htake, hdrop, hcursor, ih tail.length hshorter _ tail rfl]
        simp only [Option.getD_some, List.append_assoc]

/-- Replacing inside the text is replacing in one pass. -/
theorem substitute_eq_replaceReferences (resolve : String → Option (List Char))
    (text : List Char) : substitute resolve text = replaceReferences resolve text :=
  substituteFrom_append resolve [] text

end MakeLens
