import MakeLens.Text.WordClass
import MakeLens.Index.Definition

/-! # Expansion

  The value of a name with every `$(NAME)` and `$` + `{NAME}` in it replaced by the
  value of that name. An inner reference is resolved at the place of the definition
  whose value holds it, so expansion follows the chain of definitions across files.

  The definitions being expanded are remembered; a reference that leads back to one
  of them, or beyond the greatest depth, stays as written.
-/

namespace MakeLens

/-! ### References in a value -/

/-- A reference in a text: the characters from `start` up to `stop` and the name
    between the brackets. -/
structure Occurrence where
  start : Nat
  stop : Nat
  name : String
  deriving DecidableEq, Repr

/-- The name referenced at the start of a text: `$`, an opening bracket, word
    characters and a closing bracket. -/
def referencedName? : List Char → Option (List Char)
  | '$' :: opening :: rest =>
    let name := rest.takeWhile isWordChar
    match rest.dropWhile isWordChar with
    | closing :: _ =>
      if (opening = '(' ∨ opening = '\x7b') ∧ name ≠ [] ∧ (closing = ')' ∨ closing = '\x7d') then
        some name
      else none
    | [] => none
  | _ => none

/-- The first reference in a text that starts at `offset`. -/
def firstOccurrence? (offset : Nat) : List Char → Option Occurrence
  | [] => none
  | c :: rest =>
    match referencedName? (c :: rest) with
    | some name => some ⟨offset, offset + name.length + 3, String.ofList name⟩
    | none => firstOccurrence? (offset + 1) rest

/-- The first reference of a text at or after `cursor`. -/
def nextOccurrence? (text : List Char) (cursor : Nat) : Option Occurrence :=
  firstOccurrence? cursor (text.drop cursor)

theorem referencedName?_length_lt {text name : List Char} (h : referencedName? text = some name) :
    name.length + 3 ≤ text.length := by
  unfold referencedName? at h
  split at h
  · next opening rest =>
    simp only at h
    split at h
    · next closing after heq =>
      split at h
      · cases h
        have hsplit := congrArg List.length
          (List.takeWhile_append_dropWhile (p := isWordChar) (l := rest))
        rw [heq] at hsplit
        simp only [List.length_append, List.length_cons] at hsplit ⊢
        omega
      · simp at h
    · simp at h
  · simp at h

theorem firstOccurrence?_bounds {offset : Nat} {text : List Char} {o : Occurrence}
    (h : firstOccurrence? offset text = some o) :
    offset ≤ o.start ∧ o.start < o.stop ∧ o.stop ≤ offset + text.length := by
  induction text generalizing offset with
  | nil => simp [firstOccurrence?] at h
  | cons c rest ih =>
    rw [firstOccurrence?] at h
    split at h
    · next name hname =>
      cases h
      have := referencedName?_length_lt hname
      simp only at *
      omega
    · have := ih h
      simp only [List.length_cons]
      omega

theorem nextOccurrence?_bounds {text : List Char} {cursor : Nat} {o : Occurrence}
    (h : nextOccurrence? text cursor = some o) :
    cursor ≤ o.start ∧ o.start < o.stop ∧ o.stop ≤ text.length := by
  have := firstOccurrence?_bounds h
  simp only [List.length_drop] at this
  omega

/-- Replaces the references of `text` from `cursor` on, one after the other, in the
    text itself. The search goes on behind the replacement, or behind the reference
    where `resolve` gives none. -/
def substituteFrom (resolve : String → Option (List Char)) (text : List Char) (cursor : Nat) :
    List Char :=
  match _h : nextOccurrence? text cursor with
  | none => text
  | some o =>
    match resolve o.name with
    | some replacement =>
      substituteFrom resolve (text.take o.start ++ replacement ++ text.drop o.stop)
        (o.start + replacement.length)
    | none => substituteFrom resolve text o.stop
termination_by text.length - cursor
decreasing_by
  · have := nextOccurrence?_bounds _h
    simp only [List.length_append, List.length_take, List.length_drop]
    omega
  · have := nextOccurrence?_bounds _h
    omega

/-- Replaces all references of a text. -/
def substitute (resolve : String → Option (List Char)) (text : List Char) : List Char :=
  substituteFrom resolve text 0

/-! ### Expansion of a name -/

/-- A definition being expanded. Its file is that of an entity, in plain form. -/
structure Site where
  name : String
  file : FilePath
  line : UInt32
  deriving DecidableEq, Repr

namespace Cache

/-- The expansion of a name at a line of a file inside the expansion of the sites in
    `opened`, entering at most `room` more. -/
def expandInside (cache : Cache) :
    (room : Nat) → (opened : List Site) → String → FilePath → UInt32 → Option (List Char)
  | 0, _, _, _, _ => none
  | room + 1, opened, name, file, line =>
    match cache.definition? name file line with
    | none => none
    | some e =>
      let site : Site := ⟨name, e.file, e.line⟩
      if site ∈ opened then none
      else some (substitute
        (fun inner => cache.expandInside room (site :: opened) inner e.file e.line)
        e.value.toList)

/-- The expansion of a name as seen from a line of a file, entering at most `depth`
    definitions at a time. -/
def expand (cache : Cache) (depth : Nat) (name : String) (file : FilePath) (line : UInt32) :
    Option (List Char) :=
  cache.expandInside depth [] name file line

end Cache

end MakeLens
