import MakeLens.Proofs.WordSpans

/-! # A cursor at the end of a line

    A line as the editor counts it keeps its break, and a cursor beyond the line is put back
    behind all of its characters. On the last line of a text there is no break, so this is
    the end of what can be seen. On any other line it is behind the break, one or two
    characters further, where no word stands.

    * `lineBody_eq_self_iff`: the last line is the one without a break;
    * `hasSymbolAt_lineBreak`: a break has no symbol characters;
    * `wordOnLine?_lineEnd`: a cursor at the end of a line finds the word that ends there;
    * `wordAt?_beyond`: a cursor beyond the end finds this word on the last line only.
-/

namespace MakeLens

/-! ## Section 1: The break of a line -/

theorem lineBody_cons {c : Char} (h : ¬isLineBreak c = true) (rest : List Char) :
    lineBody (c :: rest) = c :: lineBody rest := by
  simp [lineBody, h]

theorem lineBody_cons_ne {c : Char} (h : isLineBreak c = true) (rest : List Char) :
    lineBody (c :: rest) ≠ c :: rest := by
  simp [lineBody, h]

/-- The lines of a text: some lines with a break, and then one line without. -/
theorem editorLines_eq_append (text : List Char) :
    ∃ broken last, editorLines text = broken ++ [last] ∧
      (∀ line ∈ broken, lineBody line ≠ line) ∧ lineBody last = last := by
  fun_induction editorLines text with
  | case1 => exact ⟨[], [], rfl, List.forall_mem_nil _, rfl⟩
  | case2 rest ih =>
    obtain ⟨broken, last, hlines, hbroken, hlast⟩ := ih
    refine ⟨['\r', '\n'] :: broken, last, by rw [hlines, List.cons_append], ?_, hlast⟩
    exact List.forall_mem_cons.2 ⟨lineBody_cons_ne rfl _, hbroken⟩
  | case3 c rest hpair hbreak ih =>
    obtain ⟨broken, last, hlines, hbroken, hlast⟩ := ih
    refine ⟨[c] :: broken, last, by rw [hlines, List.cons_append], ?_, hlast⟩
    exact List.forall_mem_cons.2 ⟨lineBody_cons_ne hbreak _, hbroken⟩
  | case4 c rest hpair hbreak hnone ih =>
    -- there is always a last line
    obtain ⟨broken, last, hlines, -⟩ := ih
    rw [hnone] at hlines
    simp at hlines
  | case5 c rest hpair hbreak first lines hlines ih =>
    obtain ⟨broken, last, hrest, hbroken, hlast⟩ := ih
    rw [hlines] at hrest
    cases broken with
    | nil =>
      rw [List.nil_append] at hrest
      obtain ⟨rfl, rfl⟩ := List.cons.inj hrest
      exact ⟨[], c :: first, rfl, List.forall_mem_nil _, by rw [lineBody_cons hbreak, hlast]⟩
    | cons line more =>
      rw [List.cons_append] at hrest
      obtain ⟨rfl, rfl⟩ := List.cons.inj hrest
      obtain ⟨hfirst, hmore⟩ := List.forall_mem_cons.1 hbroken
      refine ⟨(c :: first) :: more, last, rfl, List.forall_mem_cons.2 ⟨?_, hmore⟩, hlast⟩
      rw [lineBody_cons hbreak, ne_eq, List.cons_inj_right]
      exact hfirst

/-- The last line of a text is the one without a break. -/
theorem lineBody_eq_self_iff {text line : List Char} {number : Nat}
    (h : (editorLines text)[number]? = some line) :
    lineBody line = line ↔ number + 1 = (editorLines text).length := by
  obtain ⟨broken, last, hlines, hbroken, hlast⟩ := editorLines_eq_append text
  rw [hlines] at h ⊢
  rw [List.length_append, List.length_singleton, Nat.add_right_cancel_iff]
  by_cases hnumber : number < broken.length
  · rw [List.getElem?_append_left hnumber] at h
    have hbreak := hbroken line (List.mem_of_getElem? h)
    exact ⟨fun hwhole => absurd hwhole hbreak, fun hend => by omega⟩
  · rw [List.getElem?_append_right (by omega), List.getElem?_singleton] at h
    split at h
    · cases h
      exact ⟨fun _ => by omega, fun _ => hlast⟩
    · cases h

theorem length_lineBody_le (line : List Char) : (lineBody line).length ≤ line.length :=
  (List.takeWhile_prefix _).length_le

/-- The break of a line has no symbol characters, and behind it there is nothing. -/
theorem hasSymbolAt_lineBreak {text line : List Char} (hline : line ∈ editorLines text)
    {place : Nat} (h : (lineBody line).length ≤ place) : hasSymbolAt line place = false := by
  refine hasSymbolAt_eq_false fun c hc => ?_
  rw [← lineBody_append line, List.getElem?_append_right h] at hc
  have hbreak := isLineBreak_of_mem_editorLines hline (List.mem_of_getElem? hc)
  exact isSymbolChar_of_isBlank (isBlank_of_isLineBreak hbreak)

/-! ## Section 2: The end of a line -/

section lineEnd

variable {text line : List Char} {column : Nat} {span : WordSpan}

/-- A word ends before the break. -/
theorem WordSpan.IsWordOf.stop_le_lineBody (hline : line ∈ editorLines text)
    (hword : span.IsWordOf line) : span.stop ≤ (lineBody line).length := by
  rcases Nat.lt_or_ge (lineBody line).length span.stop with hbeyond | hwithin
  · have hlong := hword.start_lt_stop
    have hlast := hword.symbols (span.stop - 1) (by omega) (by omega)
    rw [hasSymbolAt_lineBreak hline (by omega)] at hlast
    cases hlast
  · exact hwithin

/-- A cursor at the end of a line finds the word that ends there. -/
theorem wordOnLine?_lineEnd (hline : line ∈ editorLines text) :
    wordOnLine? line (lineBody line).length = some span ↔
      span.IsWordOf line ∧ span.stop = (lineBody line).length := by
  rw [wordOnLine?_eq_some_iff, Nat.min_eq_left (length_lineBody_le line)]
  constructor
  · intro ⟨hword, _, hstop⟩
    exact ⟨hword, Nat.le_antisymm (hword.stop_le_lineBody hline) hstop⟩
  · intro ⟨hword, hstop⟩
    have hlong := hword.start_lt_stop
    exact ⟨hword, by omega, by omega⟩

theorem wordOnLine?_lineEnd_eq_none (hline : line ∈ editorLines text) :
    wordOnLine? line (lineBody line).length = none ↔
      ∀ place, place + 1 = (lineBody line).length → hasSymbolAt line place = false := by
  rw [wordOnLine?_eq_none_iff, Nat.min_eq_left (length_lineBody_le line)]
  simp [hasSymbolAt_lineBreak hline (Nat.le_refl _)]

/-- A cursor in the break or behind it finds nothing. -/
theorem wordOnLine?_lineBreak (hline : line ∈ editorLines text)
    (hbroken : (lineBody line).length < line.length) (h : (lineBody line).length < column) :
    wordOnLine? line column = none := by
  rw [wordOnLine?_eq_none_iff]
  refine ⟨hasSymbolAt_lineBreak hline (by omega), ?_⟩
  intro place hplace
  exact hasSymbolAt_lineBreak hline (by omega)

/-- On a line without a break all cursors beyond its end are at its end. -/
theorem wordOnLine?_unbroken (hwhole : lineBody line = line)
    (h : (lineBody line).length ≤ column) :
    wordOnLine? line column = wordOnLine? line (lineBody line).length := by
  rw [hwhole] at h ⊢
  unfold wordOnLine?
  rw [Nat.min_eq_right h, Nat.min_self]

end lineEnd

/-! ## Section 3: A cursor beyond the end -/

/-- The positions on a line of a text whose column is not before the end of the line, that is,
    behind the characters before its break.
    1. At the end itself the word that ends there is given, if there is one.
    2. On the last line all columns beyond the end give the same.
    3. On any other line no column beyond the end gives a word.
    4. So a column counts as the end exactly if it is the end, or the line is the last one, or
       no word ends there. -/
theorem wordAt?_beyond {text line : List Char} {number column : Nat}
    (hline : (editorLines text)[number]? = some line)
    (hbeyond : (lineBody line).length ≤ column) :
    let lineEnd := (lineBody line).length
    (∀ touched, wordAt? text number lineEnd = some touched ↔
      ∃ span : WordSpan, span.found = touched ∧ span.IsWordOf line ∧ span.stop = lineEnd) ∧
    (number + 1 = (editorLines text).length →
      wordAt? text number column = wordAt? text number lineEnd) ∧
    (number + 1 ≠ (editorLines text).length → column ≠ lineEnd →
      wordAt? text number column = none) ∧
    (wordAt? text number column = wordAt? text number lineEnd ↔
      column = lineEnd ∨ number + 1 = (editorLines text).length ∨
      ∀ place, place + 1 = lineEnd → hasSymbolAt line place = false) := by
  intro lineEnd
  have hmem : line ∈ editorLines text := List.mem_of_getElem? hline
  simp only [wordAt?_of_line hline]
  have hlast : number + 1 = (editorLines text).length →
      wordOnLine? line column = wordOnLine? line lineEnd := by
    intro hnumber
    exact wordOnLine?_unbroken ((lineBody_eq_self_iff hline).2 hnumber) hbeyond
  have hother : number + 1 ≠ (editorLines text).length → column ≠ lineEnd →
      wordOnLine? line column = none := by
    intro hnumber hcolumn
    have hbroken : (lineBody line).length ≠ line.length := by
      intro hlength
      have hwhole := (List.takeWhile_prefix _).eq_of_length hlength
      exact hnumber ((lineBody_eq_self_iff hline).1 hwhole)
    have hle := length_lineBody_le line
    exact wordOnLine?_lineBreak hmem (by omega) (by omega)
  refine ⟨?_, ?_, ?_, ?_⟩
  · intro touched
    rw [Option.map_eq_some_iff]
    simp only [lineEnd, wordOnLine?_lineEnd hmem]
    exact exists_congr fun span => and_comm
  · intro hnumber
    rw [hlast hnumber]
  · intro hnumber hcolumn
    rw [hother hnumber hcolumn, Option.map_none]
  · rw [← wordOnLine?_lineEnd_eq_none hmem]
    by_cases hcolumn : column = lineEnd
    · simp [hcolumn]
    by_cases hnumber : number + 1 = (editorLines text).length
    · simp [hlast hnumber, hnumber]
    · -- beyond a break there is no word, so what is left to compare is a word before it
      rw [hother hnumber hcolumn, or_iff_right hcolumn, or_iff_right hnumber, Option.map_none,
        eq_comm, Option.map_eq_none_iff]

/-! ### One word at three ends -/

/-- Three lines that end in the same word: before a line feed, before a carriage return with a
    line feed, and at the end of the text. -/
def threeEnds : List Char :=
  "A = CC\nB: CC\r\nC: CC".toList

/-- The last line gives its word for a cursor far beyond it, the first one gives nothing. -/
theorem wordAt?_threeEnds :
    let last := "C: CC".toList
    (editorLines threeEnds)[2]? = some last ∧ (lineBody last).length = 5 ∧
    wordAt? threeEnds 2 9 = wordAt? threeEnds 2 5 ∧
    wordAt? threeEnds 2 5 = some ⟨"CC", 3, 5⟩ ∧
    let first := "A = CC\n".toList
    (editorLines threeEnds)[0]? = some first ∧ (lineBody first).length = 6 ∧
    wordAt? threeEnds 0 9 = none := by
  intro last
  have hlast : (editorLines threeEnds)[2]? = some last := by decide
  have hfirst : (editorLines threeEnds)[0]? = some "A = CC\n".toList := by decide
  have hbeyondLast : (lineBody last).length ≤ 9 := by decide
  have hbeyondFirst : (lineBody "A = CC\n".toList).length ≤ 9 := by decide
  have hsame := (wordAt?_beyond hlast hbeyondLast).2.1 (by decide)
  have hnothing := (wordAt?_beyond hfirst hbeyondFirst).2.2.1 (by decide) (by decide)
  exact ⟨hlast, by decide, hsame, by decide, hfirst, by decide, hnothing⟩

/-- One column behind the end of the first two lines there is no word, though at the end
    there is. -/
theorem wordAt?_threeEnds_breaks :
    (editorLines threeEnds)[0]? = some "A = CC\n".toList ∧
    (lineBody "A = CC\n".toList).length = 6 ∧
    wordAt? threeEnds 0 6 = some ⟨"CC", 4, 6⟩ ∧ wordAt? threeEnds 0 7 = none ∧
    (editorLines threeEnds)[1]? = some "B: CC\r\n".toList ∧
    (lineBody "B: CC\r\n".toList).length = 5 ∧
    wordAt? threeEnds 1 5 = some ⟨"CC", 3, 5⟩ ∧ wordAt? threeEnds 1 6 = none := by
  decide

end MakeLens
