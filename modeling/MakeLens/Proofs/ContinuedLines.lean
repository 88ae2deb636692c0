import MakeLens.Proofs.LineCut
import MakeLens.Proofs.PhysicalLines

/-! # Continued lines

    Lines are joined from the last one upwards, each of them with what the line below has
    become by then. Here it is said line by line, from above, what comes out of this.

    Line `i` is *continued* if there is a line below it and it ends with a backslash, blanks
    apart. What it becomes, `joinedAt lines i`, is the part before the backslash and behind it
    what line `i + 1` becomes, less its leading blanks; a line that is not continued stays as
    it is. The slot of a line is empty where the line above is continued.

    * `getElem?_joinContinued`: every slot is the one that this says;
    * `joinedAt_chain`: a row of continued lines, however long, is folded into its first
      line.
-/

namespace MakeLens

/-! ## Section 1: What a line becomes -/

/-- There is a line below line `i`, and line `i` ends with a backslash, blanks apart. -/
def Continued (lines : List (List Char)) (i : Nat) : Prop :=
  i + 1 < lines.length ∧ (trimEnd (lines.getD i [])).getLast? = some '\\'

instance (lines : List (List Char)) (i : Nat) : Decidable (Continued lines i) :=
  inferInstanceAs (Decidable (_ ∧ _))

/-- The part of a line before the backslash at its end, blanks apart. -/
def lineHead (line : List Char) : List Char :=
  (trimEnd line).dropLast

/-- What line `i` becomes, the lines below it taken in as far as they are to be. -/
def joinedAt (lines : List (List Char)) (i : Nat) : List Char :=
  if Continued lines i then
    lineHead (lines.getD i []) ++ trimStart (joinedAt lines (i + 1))
  else lines.getD i []
termination_by lines.length - i
decreasing_by
  next hcontinued =>
    have := hcontinued.1
    omega

/-- What stands in the slot of line `i`. -/
def slotAt (lines : List (List Char)) (i : Nat) : List Char :=
  if 0 < i ∧ Continued lines (i - 1) then [] else joinedAt lines i

section slots

variable {line head : List Char} {rest lines : List (List Char)} {i : Nat}

theorem continuationHead?_eq_some_iff :
    continuationHead? line = some head ↔
      (trimEnd line).getLast? = some '\\' ∧ lineHead line = head := by
  unfold continuationHead? lineHead
  by_cases h : (trimEnd line).getLast? = some '\\' <;> simp [h]

theorem continuationHead?_eq_none_iff :
    continuationHead? line = none ↔ (trimEnd line).getLast? ≠ some '\\' := by
  unfold continuationHead?
  by_cases h : (trimEnd line).getLast? = some '\\' <;> simp [h]

theorem continued_zero : Continued (line :: rest) 0 ↔
    rest ≠ [] ∧ (trimEnd line).getLast? = some '\\' := by
  simp [Continued, List.length_pos_iff]

theorem continued_succ : Continued (line :: rest) (i + 1) ↔ Continued rest i := by
  simp [Continued]

theorem joinedAt_of_continued (h : Continued lines i) :
    joinedAt lines i = lineHead (lines.getD i []) ++ trimStart (joinedAt lines (i + 1)) := by
  rw [joinedAt, if_pos h]

theorem joinedAt_of_not_continued (h : ¬ Continued lines i) :
    joinedAt lines i = lines.getD i [] := by
  rw [joinedAt, if_neg h]

/-- What stands above a line has no part in what it becomes. -/
theorem joinedAt_succ (line : List Char) (rest : List (List Char)) (i : Nat) :
    joinedAt (line :: rest) (i + 1) = joinedAt rest i := by
  fun_induction joinedAt rest i with
  | case1 i hcontinued ih =>
    rw [joinedAt_of_continued (continued_succ.2 hcontinued), ih]
    rfl
  | case2 i huncontinued =>
    rw [joinedAt_of_not_continued (mt continued_succ.1 huncontinued)]
    rfl

theorem slotAt_succ_succ (line : List Char) (rest : List (List Char)) (i : Nat) :
    slotAt (line :: rest) (i + 2) = slotAt rest (i + 1) := by
  have hcontinued : Continued (line :: rest) (i + 1) ↔ Continued rest i := continued_succ
  simp [slotAt, hcontinued, joinedAt_succ]

/-- The slots below a line that is not continued are those of the lines below alone. -/
theorem slotAt_succ_of_not_continued (h : ¬ Continued (line :: rest) 0) (i : Nat) :
    slotAt (line :: rest) (i + 1) = slotAt rest i := by
  cases i with
  | zero => simp [slotAt, h, joinedAt_succ]
  | succ i => exact slotAt_succ_succ line rest i

end slots

/-! ## Section 2: Every slot -/

/-- There is nothing for the last line to take in. -/
theorem joinContinued_singleton (line : List Char) : joinContinued [line] = [line] := by
  unfold joinContinued
  cases continuationHead? line <;> rfl

/-- The induction is on the lines, from above. The slot of the first line has the second
    one's joined text in it if it is continued, and then the second slot is emptied; all
    other slots are left as they are. -/
theorem getElem?_joinContinued {lines : List (List Char)} {i : Nat} (h : i < lines.length) :
    (joinContinued lines)[i]? = some (slotAt lines i) := by
  induction lines generalizing i with
  | nil => cases h
  | cons line rest ih =>
    by_cases hcontinued : Continued (line :: rest) 0
    · obtain ⟨hne, hbackslash⟩ := continued_zero.1 hcontinued
      have hhead := continuationHead?_eq_some_iff.2 ⟨hbackslash, rfl⟩
      have hfirst := ih (List.length_pos_iff.2 hne)
      cases hjoined : joinContinued rest with
      | nil =>
        rw [hjoined] at hfirst
        cases hfirst
      | cons next after =>
        rw [hjoined] at hfirst
        have hnext : next = joinedAt rest 0 := by simpa [slotAt] using hfirst
        rw [joinContinued_cons_of_continued hhead hjoined]
        rcases i with _ | _ | i
        · simp [slotAt, joinedAt_of_continued hcontinued, joinedAt_succ, hnext]
        · -- the slot of the line that was taken in
          simp [slotAt, hcontinued]
        · rw [slotAt_succ_succ, ← ih (Nat.lt_of_succ_lt_succ h), hjoined]
          rfl
    · have hkept : joinContinued (line :: rest) = line :: joinContinued rest := by
        by_cases hbackslash : (trimEnd line).getLast? = some '\\'
        · -- a backslash on the last line
          have hlast : rest = [] := by
            by_contra hne
            exact hcontinued (continued_zero.2 ⟨hne, hbackslash⟩)
          rw [hlast, joinContinued_singleton]
          rfl
        · exact joinContinued_cons_of_uncontinued rest (continuationHead?_eq_none_iff.2 hbackslash)
      rw [hkept]
      cases i with
      | zero => simp [slotAt, joinedAt_of_not_continued hcontinued]
      | succ i =>
        rw [slotAt_succ_of_not_continued hcontinued]
        exact ih (Nat.lt_of_succ_lt_succ h)

/-- All slots at once. -/
theorem joinContinued_eq_map_slotAt (lines : List (List Char)) :
    joinContinued lines = (List.range lines.length).map (slotAt lines) := by
  apply List.ext_getElem?
  intro i
  by_cases h : i < lines.length
  · rw [getElem?_joinContinued h, List.getElem?_map, List.getElem?_range h]
    rfl
  · have hbeyond : lines.length ≤ i := Nat.le_of_not_lt h
    rw [List.getElem?_eq_none (by rwa [length_joinContinued]),
      List.getElem?_eq_none (by rwa [List.length_map, List.length_range])]

/-! ## Section 3: The last line and chains -/

/-- A backslash on the last line continues nothing. -/
theorem not_continued_last (lines : List (List Char)) : ¬ Continued lines (lines.length - 1) := by
  intro h
  have := h.1
  omega

theorem joinedAt_last {lines : List (List Char)} {last : List Char}
    (h : lines.getLast? = some last) : joinedAt lines (lines.length - 1) = last := by
  rw [joinedAt_of_not_continued (not_continued_last lines), List.getD_eq_getElem?_getD,
    ← List.getLast?_eq_getElem?, h]
  rfl

/-- A row of continued lines is folded into its first line, together with the line that ends
    it. -/
theorem joinedAt_chain {lines : List (List Char)} {i count : Nat}
    (hcontinued : ∀ j, i ≤ j → j < i + count → Continued lines j)
    (hlast : ¬ Continued lines (i + count)) :
    joinedAt lines i = (List.range' i count).foldr
      (fun j below => lineHead (lines.getD j []) ++ trimStart below)
      (lines.getD (i + count) []) := by
  induction count generalizing i with
  | zero => exact joinedAt_of_not_continued hlast
  | succ count ih =>
    -- the chain without its first line ends at the same place
    have hend : i + (count + 1) = i + 1 + count := by omega
    rw [hend] at hcontinued hlast ⊢
    rw [joinedAt_of_continued (hcontinued i (Nat.le_refl i) (by omega)),
      ih (fun j hj => hcontinued j (by omega)) hlast, List.range'_succ, List.foldr_cons]

/-! ## Section 4: The logical lines of a text -/

/-- The logical lines of a text, in terms of its physical lines.
    1. The physical lines are the parts of the text between its line feeds, each without one
       carriage return at its end and without its comment.
    2. There is one slot for each of them. A slot is empty where the line above is continued,
       and otherwise holds what its line becomes.
    3. The last line stays as it is, also with a backslash at its end.
    4. A chain of continued lines, of any length, is folded into the line that starts it: the
       parts before the backslashes, one behind the other, and then the line that ends the
       chain, less the leading blanks of what follows in each place. -/
theorem logicalLines_slots (text : List Char) :
    let lines := (physicalLines text).map stripComment
    (['\n'].intercalate (pieces '\n' text) = text ∧ (∀ raw ∈ pieces '\n' text, '\n' ∉ raw) ∧
      List.Forall₂ LineFrom (pieces '\n' text) lines) ∧
    (lines.length = text.count '\n' + 1 ∧
      logicalLines text = (List.range (text.count '\n' + 1)).map fun i =>
        if 0 < i ∧ Continued lines (i - 1) then [] else joinedAt lines i) ∧
    (∀ last, lines.getLast? = some last → joinedAt lines (lines.length - 1) = last) ∧
    ∀ i count, (∀ j, i ≤ j → j < i + count → Continued lines j) →
      ¬ Continued lines (i + count) →
      joinedAt lines i = (List.range' i count).foldr
        (fun j below => lineHead (lines.getD j []) ++ trimStart below)
        (lines.getD (i + count) []) := by
  intro lines
  have hlength : lines.length = text.count '\n' + 1 := by
    rw [List.length_map, length_physicalLines]
  refine ⟨⟨intercalate_pieces '\n' text, fun _ => separator_not_mem_of_mem_pieces,
    lineFrom_physicalLines text⟩, ⟨hlength, ?_⟩, fun _ => joinedAt_last, fun _ _ => joinedAt_chain⟩
  rw [← hlength]
  exact joinContinued_eq_map_slotAt lines

-- blank lines and lines of a backslash alone in a chain, and a backslash that continues nothing
example : logicalLines "A = 1 \\\n \\\r\n\\ # x\n   2 \\\n\nB \\".toList =
    ["A = 1 2 ".toList, [], [], [], [], "B \\".toList] := by
  decide +kernel

end MakeLens
