import MakeLens.Proofs.LineCut
import MakeLens.Proofs.LineForms
import MakeLens.Proofs.NormalPath

/-! # Positions of names

    An entity tells where its name stands, by the number of a line and two columns. The
    columns count characters of the logical line, which is not what the editor shows:
    comments are cut off it, and the lines below may have been taken in. But nothing is
    ever put in front of a line. What a physical line has of its own in its logical line
    is how both begin, and up to there the columns are right for both.

    Numbers have 32 bits. A text with fewer than 2 ^ 32 characters has lines and columns
    that fit, since no logical line is longer than the whole text.
-/

namespace MakeLens

/-! ## Section 1: What stays of a line -/

/-- What the line `number` of lines without comments has of its own in its logical line:
    the part before its continuation backslash, if there is a line below to take in, and
    otherwise all of it. -/
def ownPart? (lines : List (List Char)) (number : Nat) : Option (List Char) :=
  lines[number]?.map fun line =>
    if number + 1 < lines.length then (continuationHead? line).getD line else line

theorem ownPart?_succ (line : List Char) (rest : List (List Char)) (number : Nat) :
    ownPart? (line :: rest) (number + 1) = ownPart? rest number := by
  simp [ownPart?]

/-- A slot is empty, or it begins with what its line has of its own, and that is all of it
    where the line is not continued. -/
theorem joinContinued_getElem? {lines : List (List Char)} {number : Nat} {logical : List Char}
    (h : (joinContinued lines)[number]? = some logical) :
    logical = [] ∨ ∃ line own, lines[number]? = some line ∧ ownPart? lines number = some own ∧
      own <+: logical ∧ (continuationHead? line = none → logical = line) := by
  induction lines generalizing number with
  | nil => cases h
  | cons line rest ih =>
    cases hhead : continuationHead? line with
    | none =>
      rw [joinContinued_cons_of_uncontinued rest hhead] at h
      cases number with
      | zero =>
        cases h
        exact Or.inr ⟨logical, logical, rfl, by simp [ownPart?, hhead], List.prefix_refl logical,
          fun _ => rfl⟩
      | succ number =>
        rw [ownPart?_succ]
        exact ih h
    | some head =>
      cases hjoined : joinContinued rest with
      | nil =>
        -- there is no line below, so the backslash stays
        have hlength := length_joinContinued rest
        rw [hjoined] at hlength
        have hrest : rest = [] := List.eq_nil_of_length_eq_zero hlength.symm
        subst hrest
        rw [joinContinued, hhead, hjoined] at h
        cases number with
        | zero =>
          cases h
          exact Or.inr ⟨logical, logical, rfl, by simp [ownPart?], List.prefix_refl logical,
            fun _ => rfl⟩
        | succ number => cases h
      | cons next after =>
        rw [joinContinued_cons_of_continued hhead hjoined] at h
        have hbelow : 0 < rest.length := by
          rw [← length_joinContinued rest, hjoined]
          exact Nat.succ_pos _
        rcases number with _ | _ | number
        · cases h
          refine Or.inr ⟨line, head, rfl, by simp [ownPart?, hhead, hbelow],
            List.prefix_append _ _, ?_⟩
          intro hnone
          rw [hhead] at hnone
          cases hnone
        · -- the slot of the line that was taken in
          cases h
          exact Or.inl rfl
        · rw [ownPart?_succ]
          apply ih
          rw [hjoined]
          exact h

/-- What is cut off a line is nothing, or starts with a `#`. -/
theorem exists_comment (escaped : Bool) (line : List Char) :
    ∃ comment, beforeComment escaped line ++ comment = line ∧
      StartsOutside (fun c => c != '#') comment := by
  induction line generalizing escaped with
  | nil => exact ⟨[], rfl, startsOutside_nil _⟩
  | cons c rest ih =>
    unfold beforeComment
    split
    · next hmark => exact ⟨c :: rest, rfl, startsOutside_cons (by simp [hmark.1])⟩
    · obtain ⟨comment, heq, hcomment⟩ := ih (c == '\\')
      exact ⟨comment, by rw [List.cons_append, heq], hcomment⟩

theorem stripComment_isPrefix (line : List Char) : stripComment line <+: line := by
  obtain ⟨comment, heq, -⟩ := exists_comment false line
  exact ⟨comment, heq⟩

theorem trimEnd_isPrefix (line : List Char) : trimEnd line <+: line := by
  have h : line.reverse.dropWhile isBlank <:+ line.reverse := List.dropWhile_suffix _
  unfold trimEnd
  rw [← List.reverse_suffix, List.reverse_reverse]
  exact h

theorem continuationHead?_isPrefix {line head : List Char} (h : continuationHead? line = some head) :
    head <+: line := by
  unfold continuationHead? at h
  simp only at h
  split at h
  · cases h
    exact (List.dropLast_prefix _).trans (trimEnd_isPrefix line)
  · cases h

/-- What a line has of its own is how it begins. -/
theorem ownPart?_isPrefix {lines : List (List Char)} {number : Nat} {line own : List Char}
    (hline : lines[number]? = some line) (h : ownPart? lines number = some own) : own <+: line := by
  simp only [ownPart?, hline, Option.map_some, Option.some.injEq] at h
  rw [← h]
  split
  · cases hhead : continuationHead? line with
    | none => exact List.prefix_refl line
    | some head => exact continuationHead?_isPrefix hhead
  · exact List.prefix_refl line

/-! ## Section 2: Lengths -/

/-- How many characters the lines have together. -/
def totalLength (lines : List (List Char)) : Nat :=
  lines.flatten.length

@[simp] theorem totalLength_cons (line : List Char) (rest : List (List Char)) :
    totalLength (line :: rest) = line.length + totalLength rest :=
  List.length_append

theorem length_le_totalLength {line : List Char} {lines : List (List Char)} (h : line ∈ lines) :
    line.length ≤ totalLength lines := by
  induction lines with
  | nil => cases h
  | cons first rest ih =>
    rw [totalLength_cons]
    rcases List.mem_cons.1 h with rfl | hrest
    · omega
    · have := ih hrest
      omega

theorem totalLength_map_le {f : List Char → List Char} (hf : ∀ line, (f line).length ≤ line.length)
    (lines : List (List Char)) : totalLength (lines.map f) ≤ totalLength lines := by
  induction lines with
  | nil => exact Nat.le_refl _
  | cons line rest ih =>
    have hline := hf line
    rw [List.map_cons, totalLength_cons, totalLength_cons]
    omega

theorem length_trimStart_le (line : List Char) : (trimStart line).length ≤ line.length :=
  (List.dropWhile_suffix _).length_le

/-- Joining drops characters and moves others, and adds none. -/
theorem totalLength_joinContinued_le (lines : List (List Char)) :
    totalLength (joinContinued lines) ≤ totalLength lines := by
  induction lines with
  | nil => exact Nat.le_refl _
  | cons line rest ih =>
    unfold joinContinued
    split
    · next head next after hhead hjoined =>
      have hline := (continuationHead?_isPrefix hhead).length_le
      have hnext := length_trimStart_le next
      rw [hjoined, totalLength_cons] at ih
      simp only [totalLength_cons, List.length_append, List.length_nil]
      omega
    · rw [totalLength_cons, totalLength_cons]
      omega

/-- The pieces and the separators between them are the whole text. -/
theorem totalLength_pieces (separator : Char) (text : List Char) :
    totalLength (pieces separator text) + (pieces separator text).length = text.length + 1 := by
  induction text with
  | nil => rfl
  | cons c rest ih =>
    unfold pieces
    split
    · rw [totalLength_cons, List.length_cons, List.length_cons, List.length_nil]
      omega
    · split
      · next hnil =>
        rw [hnil] at ih
        cases ih
      · next first others hcut =>
        rw [hcut, totalLength_cons, List.length_cons] at ih
        simp only [totalLength_cons, List.length_cons]
        omega

theorem length_dropReturn_le (line : List Char) : (dropReturn line).length ≤ line.length := by
  unfold dropReturn
  split
  · exact (List.dropLast_prefix line).length_le
  · exact Nat.le_refl _

theorem length_physicalLines_le (text : List Char) :
    (physicalLines text).length ≤ text.length + 1 := by
  have h := totalLength_pieces '\n' text
  unfold physicalLines
  rw [List.length_map]
  omega

/-- No logical line is longer than the text. -/
theorem length_le_of_mem_logicalLines {text logical : List Char} (h : logical ∈ logicalLines text) :
    logical.length ≤ text.length := by
  have hcut := totalLength_pieces '\n' text
  have hpieces : 0 < (pieces '\n' text).length := List.length_pos_iff.2 (pieces_ne_nil _ _)
  calc
    logical.length ≤ totalLength (logicalLines text) := length_le_totalLength h
    _ ≤ totalLength ((physicalLines text).map stripComment) := totalLength_joinContinued_le _
    _ ≤ totalLength (physicalLines text) :=
      totalLength_map_le (fun line => (stripComment_isPrefix line).length_le) _
    _ ≤ totalLength (pieces '\n' text) := totalLength_map_le length_dropReturn_le _
    _ ≤ text.length := by omega

/-! ## Section 3: Positions -/

theorem extract_middle (before name after : List Char) :
    (before ++ (name ++ after)).extract before.length (before.length + name.length) = name := by
  simp [List.extract_eq_take_drop]

/-- The characters up to `stop` are those of any text that begins in the same way. -/
theorem extract_of_isPrefix {front text : List Char} {start stop : Nat} (h : front <+: text)
    (hstop : stop ≤ front.length) : text.extract start stop = front.extract start stop := by
  obtain ⟨rest, rfl⟩ := h
  rw [List.extract_eq_take_drop, List.extract_eq_take_drop]
  by_cases hstart : start ≤ stop
  · rw [List.drop_append_of_le_length (by omega), List.take_append_of_le_length]
    rw [List.length_drop]
    omega
  · have hnone : stop - start = 0 := by omega
    rw [hnone, List.take_zero, List.take_zero]

/-- Where an entity of a text comes from: a fact of a logical line and its number. -/
theorem exists_line_of_mem_entities {text : List Char} {file : FilePath} {e : Entity}
    (h : e ∈ (scan text file).entities) :
    ∃ number logical fact, (logicalLines text)[number]? = some logical ∧
      fact ∈ classify logical ∧ Entity.ofFact? file (UInt32.ofNat number) fact = some e := by
  obtain ⟨⟨line, fact⟩, hfact, he⟩ := List.mem_filterMap.1 h
  obtain ⟨number, logical, hlogical, rfl, hclass⟩ := exists_line_of_mem_numberedFacts hfact
  exact ⟨number, logical, fact, hlogical, hclass, he⟩

/-- The name of an entity between the parts of its logical line, in a text short enough
    for 32 bits. -/
theorem exists_delimited_of_mem_entities {text : List Char} (hshort : text.length < UInt32.size)
    {file : FilePath} {e : Entity} (h : e ∈ (scan text file).entities) :
    ∃ logical before after, (logicalLines text)[e.line.toNat]? = some logical ∧
      Delimited e.kind logical before e.name.toList after ∧ e.column.toNat = before.length := by
  obtain ⟨number, logical, fact, hlogical, hfact, he⟩ := exists_line_of_mem_entities h
  obtain ⟨before, after, hstands, hcolumn⟩ := delimited_of_mem_classify hfact he
  have hnumber : number < UInt32.size := by
    have hindex := (List.getElem?_eq_some_iff.1 hlogical).1
    have hcount := length_physicalLines_le text
    rw [length_logicalLines] at hindex
    omega
  have hline : e.line.toNat = number := by
    obtain ⟨name, kind, value, column, rfl⟩ := Entity.ofFact?_eq_make he
    exact UInt32.toNat_ofNat_of_lt' hnumber
  have hbefore : before.length < UInt32.size := by
    have hlength := length_le_of_mem_logicalLines (List.mem_of_getElem? hlogical)
    have hparts := congrArg List.length hstands.line_eq
    rw [List.length_append] at hparts
    omega
  refine ⟨logical, before, after, hline ▸ hlogical, hstands, ?_⟩
  rw [hcolumn, UInt32.toNat_ofNat_of_lt' hbefore]

/-- The end column does not wrap where 32 bits can hold it. -/
theorem Entity.toNat_endColumn {e : Entity} (h : e.column.toNat + e.name.length < UInt32.size) :
    e.location.endColumn.toNat = e.column.toNat + e.name.length := by
  show (e.column + UInt32.ofNat e.name.length).toNat = _
  rw [UInt32.toNat_add, UInt32.toNat_ofNat_of_lt' (by omega)]
  exact Nat.mod_eq_of_lt h

/-- Every entity of a text with fewer than 2 ^ 32 characters names a line of the text and
    the columns from `start` to `stop` there:
    1. between them are as many characters as the name has, all of them on the logical
       line, and they are the name;
    2. where they lie in what the physical line has of its own in its logical line, the
       characters of the physical line are the name as well. -/
theorem entities_scan_positions {text : List Char} (hshort : text.length < UInt32.size)
    (file : FilePath) :
    ∀ e ∈ (scan text file).entities, ∃ logical physical own,
      (logicalLines text)[e.line.toNat]? = some logical ∧
      (physicalLines text)[e.line.toNat]? = some physical ∧
      ownPart? ((physicalLines text).map stripComment) e.line.toNat = some own ∧
      e.location.startLine = e.line ∧ e.location.endLine = e.line ∧
      let start := e.location.startColumn.toNat
      let stop := e.location.endColumn.toNat
      stop = start + e.name.length ∧ stop ≤ logical.length ∧
      logical.extract start stop = e.name.toList ∧
      (stop ≤ own.length → physical.extract start stop = e.name.toList) := by
  intro e he
  obtain ⟨logical, before, after, hlogical, hstands, hcolumn⟩ :=
    exists_delimited_of_mem_entities hshort he
  have hwidth : e.name.toList.length = e.name.length := String.length_toList
  have hlength : before.length + e.name.length ≤ logical.length := by
    have hparts := congrArg List.length hstands.line_eq
    rw [List.length_append, List.length_append, hwidth] at hparts
    omega
  have hstop : e.location.endColumn.toNat = before.length + e.name.length := by
    have hline := length_le_of_mem_logicalLines (List.mem_of_getElem? hlogical)
    rw [Entity.toNat_endColumn (by omega), hcolumn]
  have hname : logical.extract before.length (before.length + e.name.length) = e.name.toList := by
    rw [hstands.line_eq, ← hwidth]
    exact extract_middle before e.name.toList after
  -- a slot with a name in it was not taken in by the line above
  obtain ⟨stripped, own, hstripped, hown, hfront, -⟩ :=
    (joinContinued_getElem? hlogical).resolve_left hstands.line_ne_nil
  have howned := ownPart?_isPrefix hstripped hown
  rw [List.getElem?_map] at hstripped
  obtain ⟨physical, hphysical, rfl⟩ := Option.map_eq_some_iff.1 hstripped
  refine ⟨logical, physical, own, hlogical, hphysical, hown, rfl, rfl, ?_⟩
  have hstart : e.location.startColumn.toNat = before.length := hcolumn
  simp only [hstart, hstop]
  refine ⟨trivial, hlength, hname, ?_⟩
  intro hinside
  rw [extract_of_isPrefix (howned.trans (stripComment_isPrefix physical)) hinside,
    ← extract_of_isPrefix hfront hinside]
  exact hname

/-! ### A text whose second line takes in the third -/

/-- A rule with a comment, and a line beyond ASCII that goes on below. -/
def continuedCalls : List Char :=
  "all: é # every\né $(X) $(call ü,1) \\ # more\n  $(call f,2)".toList

theorem continuedCalls_positions :
    let file := FilePath.ofString "/w/Makefile"
    continuedCalls.length < UInt32.size ∧
    (scan continuedCalls file).entities.map (fun e => (e.name, e.line.toNat, e.column.toNat)) =
      [("all", 0, 0), ("X", 1, 4), ("ü", 1, 14), ("f", 1, 26)] ∧
    ∀ e ∈ (scan continuedCalls file).entities, ∃ logical physical own,
      (logicalLines continuedCalls)[e.line.toNat]? = some logical ∧
      (physicalLines continuedCalls)[e.line.toNat]? = some physical ∧
      ownPart? ((physicalLines continuedCalls).map stripComment) e.line.toNat = some own ∧
      e.location.startLine = e.line ∧ e.location.endLine = e.line ∧
      let start := e.location.startColumn.toNat
      let stop := e.location.endColumn.toNat
      stop = start + e.name.length ∧ stop ≤ logical.length ∧
      logical.extract start stop = e.name.toList ∧
      (stop ≤ own.length → physical.extract start stop = e.name.toList) := by
  intro file
  have hshort : continuedCalls.length < UInt32.size := by decide +kernel
  exact ⟨hshort, by decide +kernel, entities_scan_positions hshort file⟩

end MakeLens
