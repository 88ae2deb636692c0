import MakeLens.Proofs.CursorWord
import MakeLens.Proofs.NamePositions

/-! # Two ways of counting lines

    The index cuts a text at line feeds, a word is looked up on the lines that the editor
    counts. A carriage return before a line feed makes no difference. Any other break is
    one that only the editor counts, a stray break: each of them moves all lines behind it
    up by one for the editor, while the index goes on counting as before.

    The editor's lines are those that the index would find if every stray break was a line
    feed (`map_lineBody_editorLines`). So both count alike exactly in the texts without
    stray breaks (`wordAt?_lines`).
-/

namespace MakeLens

/-! ## Section 1: Stray breaks -/

/-- Whether a character is a break that only the editor counts, given what follows it. -/
def isStrayBreak (c : Char) (rest : List Char) : Bool :=
  isLineBreak c && c != '\n' && !(c == '\r' && rest.head? == some '\n')

/-- How many breaks of a text only the editor counts. -/
def strayBreaks : List Char → Nat
  | [] => 0
  | c :: rest => (if isStrayBreak c rest then 1 else 0) + strayBreaks rest

/-- A text with a line feed in the place of every stray break. -/
def withFeeds : List Char → List Char
  | [] => []
  | c :: rest => (if isStrayBreak c rest then '\n' else c) :: withFeeds rest

/-- An editor's line without its break. -/
def lineBody (line : List Char) : List Char :=
  line.takeWhile fun c => !isLineBreak c

theorem withFeeds_eq_self {text : List Char} (h : strayBreaks text = 0) :
    withFeeds text = text := by
  induction text with
  | nil => rfl
  | cons c rest ih =>
    unfold strayBreaks at h
    split at h
    · omega
    · next hplain =>
      unfold withFeeds
      rw [if_neg hplain, ih (by omega)]

/-! ## Section 2: Physical lines, character by character -/

theorem physicalLines_feed (rest : List Char) :
    physicalLines ('\n' :: rest) = [] :: physicalLines rest := by
  unfold physicalLines
  rw [pieces, if_pos rfl]
  rfl

theorem physicalLines_return_feed (rest : List Char) :
    physicalLines ('\r' :: '\n' :: rest) = [] :: physicalLines rest := by
  have hcut : pieces '\n' ('\r' :: '\n' :: rest) = ['\r'] :: pieces '\n' rest := by
    rw [pieces, if_neg (by decide), pieces, if_pos rfl]
  unfold physicalLines
  rw [hcut]
  rfl

theorem dropReturn_cons {c : Char} (h : c ≠ '\r') (line : List Char) :
    dropReturn (c :: line) = c :: dropReturn line := by
  cases line with
  | nil => simp [dropReturn, h]
  | cons d rest =>
    unfold dropReturn
    rw [List.getLast?_cons_cons]
    split
    · rw [List.dropLast_cons_of_ne_nil (List.cons_ne_nil d rest)]
    · rfl

theorem pieces_cons_of_ne {c separator : Char} (h : c ≠ separator) (rest : List Char) :
    ∃ first others, pieces separator rest = first :: others ∧
      pieces separator (c :: rest) = (c :: first) :: others := by
  obtain ⟨first, others, hcut⟩ := List.exists_cons_of_ne_nil (pieces_ne_nil separator rest)
  refine ⟨first, others, hcut, ?_⟩
  rw [pieces, if_neg h, hcut]

theorem physicalLines_cons {c : Char} (hfeed : c ≠ '\n') (hreturn : c ≠ '\r') (rest : List Char) :
    ∃ first others, physicalLines rest = first :: others ∧
      physicalLines (c :: rest) = (c :: first) :: others := by
  obtain ⟨first, others, hrest, hcons⟩ := pieces_cons_of_ne hfeed rest
  refine ⟨dropReturn first, others.map dropReturn, ?_, ?_⟩
  · unfold physicalLines
    rw [hrest, List.map_cons]
  · unfold physicalLines
    rw [hcons, List.map_cons, dropReturn_cons hreturn]

/-- Every stray break stands for one line more. -/
theorem length_physicalLines_withFeeds (text : List Char) :
    (physicalLines (withFeeds text)).length = (physicalLines text).length + strayBreaks text := by
  unfold physicalLines
  rw [List.length_map, List.length_map]
  induction text with
  | nil => rfl
  | cons c rest ih =>
    unfold withFeeds strayBreaks
    by_cases hstray : isStrayBreak c rest = true
    · have hfeed : c ≠ '\n' := by
        rintro rfl
        simp [isStrayBreak] at hstray
      obtain ⟨first, others, hrest, hcons⟩ := pieces_cons_of_ne hfeed rest
      rw [if_pos hstray, if_pos hstray, pieces, if_pos rfl, List.length_cons, ih, hcons, hrest,
        List.length_cons, List.length_cons]
      omega
    · rw [if_neg hstray, if_neg hstray]
      by_cases hfeed : c = '\n'
      · rw [pieces, if_pos hfeed, pieces, if_pos hfeed, List.length_cons, List.length_cons, ih]
        omega
      · obtain ⟨first, others, hrest, hcons⟩ := pieces_cons_of_ne hfeed rest
        obtain ⟨first', others', hrest', hcons'⟩ := pieces_cons_of_ne hfeed (withFeeds rest)
        rw [hrest, hrest', List.length_cons, List.length_cons] at ih
        rw [hcons, hcons', List.length_cons, List.length_cons]
        omega

/-! ## Section 3: The editor's lines -/

/-- A break that is no line feed and does not belong to one is stray. -/
theorem isStrayBreak_of_isLineBreak {c : Char} {rest : List Char} (hbreak : isLineBreak c = true)
    (hfeed : c ≠ '\n') (hpair : ∀ after, c = '\r' → rest = '\n' :: after → False) :
    isStrayBreak c rest = true := by
  have hnext : ¬(c = '\r' ∧ rest.head? = some '\n') := by
    rintro ⟨hreturn, hhead⟩
    obtain ⟨after, hrest⟩ := List.head?_eq_some_iff.1 hhead
    exact hpair after hreturn hrest
  simpa [isStrayBreak, hbreak, hfeed] using Decidable.not_and_iff_not_or_not.1 hnext

/-- The editor's lines are those of the text in which every stray break is a line feed. -/
theorem map_lineBody_editorLines (text : List Char) :
    (editorLines text).map lineBody = physicalLines (withFeeds text) := by
  fun_induction editorLines text with
  | case1 => rfl
  | case2 rest ih =>
    have hkept : withFeeds ('\r' :: '\n' :: rest) = '\r' :: '\n' :: withFeeds rest := rfl
    rw [hkept, physicalLines_return_feed, ← ih]
    rfl
  | case3 c rest hpair hbreak ih =>
    have hfed : withFeeds (c :: rest) = '\n' :: withFeeds rest := by
      by_cases hfeed : c = '\n'
      · rw [hfeed]
        rfl
      · rw [withFeeds, if_pos (isStrayBreak_of_isLineBreak hbreak hfeed hpair)]
    rw [hfed, physicalLines_feed, ← ih, List.map_cons]
    simp [lineBody, hbreak]
  | case4 c rest hpair hbreak hnone ih =>
    -- there is always a last line
    obtain ⟨first, others, hrest⟩ :=
      List.exists_cons_of_ne_nil (pieces_ne_nil '\n' (withFeeds rest))
    unfold physicalLines at ih
    rw [hnone, hrest] at ih
    cases ih
  | case5 c rest hpair hbreak line lines hlines ih =>
    have hfeed : c ≠ '\n' := by
      rintro rfl
      exact hbreak rfl
    have hreturn : c ≠ '\r' := by
      rintro rfl
      exact hbreak rfl
    have hkept : withFeeds (c :: rest) = c :: withFeeds rest := by
      rw [withFeeds, if_neg]
      simp [isStrayBreak, hbreak]
    obtain ⟨first, others, hrest, hcons⟩ := physicalLines_cons hfeed hreturn (withFeeds rest)
    rw [hlines, hrest, List.map_cons] at ih
    obtain ⟨hfirst, hothers⟩ := List.cons.inj ih
    rw [hkept, hcons, ← hfirst, ← hothers, List.map_cons]
    simp [lineBody, hbreak]

/-- The break of a line ends it. -/
theorem isLineBreak_of_mem_editorLines {text line : List Char} {c : Char}
    (hline : line ∈ editorLines text) (hc : c ∈ line.dropWhile fun c => !isLineBreak c) :
    isLineBreak c = true := by
  fun_induction editorLines text generalizing line with
  | case1 =>
    cases List.mem_singleton.1 hline
    cases hc
  | case2 rest ih =>
    rcases List.mem_cons.1 hline with rfl | hrest
    · have hpair : ['\r', '\n'].all isLineBreak = true := rfl
      exact List.all_eq_true.1 hpair c ((List.dropWhile_suffix _).subset hc)
    · exact ih hrest hc
  | case3 d rest hpair hbreak ih =>
    rcases List.mem_cons.1 hline with rfl | hrest
    · rw [List.mem_singleton.1 ((List.dropWhile_suffix _).subset hc)]
      exact hbreak
    · exact ih hrest hc
  | case4 d rest hpair hbreak hnone ih =>
    rw [List.mem_singleton.1 hline, List.dropWhile_cons, if_pos (by simp [hbreak])] at hc
    cases hc
  | case5 d rest hpair hbreak first lines hlines ih =>
    rcases List.mem_cons.1 hline with rfl | hrest
    · -- the first character is no break
      rw [List.dropWhile_cons, if_pos (by simp [hbreak])] at hc
      exact ih (hlines ▸ List.mem_cons_self) hc
    · exact ih (hlines ▸ List.mem_cons_of_mem _ hrest) hc

theorem isBlank_of_isLineBreak {c : Char} (h : isLineBreak c = true) : isBlank c = true := by
  simp only [isLineBreak, isBlank, Bool.or_eq_true, Bool.and_eq_true, decide_eq_true_eq,
    beq_iff_eq] at h ⊢
  omega

/-- A line is its body and its break. -/
theorem lineBody_append (line : List Char) :
    lineBody line ++ line.dropWhile (fun c => !isLineBreak c) = line :=
  List.takeWhile_append_dropWhile

/-- A word on an editor's line ends before the line's break. -/
theorem WordSpan.Covers.stop_le_lineBody {text shown before after : List Char} {span : WordSpan}
    (h : span.Covers shown before after) (hline : shown ∈ editorLines text) :
    span.stop ≤ (lineBody shown).length := by
  obtain ⟨front, last, hlast⟩ : ∃ front last, span.word.toList = front ++ [last] :=
    ⟨_, _, (List.dropLast_concat_getLast h.word_ne_nil).symm⟩
  have hget : shown[span.stop - 1]? = some last := by
    rw [h.line_eq, h.stop_eq, hlast, List.getElem?_append_right]
    · simp
    · simp
  rcases Nat.lt_or_ge (lineBody shown).length span.stop with hbeyond | hinside
  · -- the last character of the word would be one of the break
    rw [← lineBody_append shown, List.getElem?_append_right (by omega)] at hget
    have hbreak := isLineBreak_of_mem_editorLines hline (List.mem_of_getElem? hget)
    have hsymbol := h.word_chars last (by simp [hlast])
    rw [isSymbolChar_of_isBlank (isBlank_of_isLineBreak hbreak)] at hsymbol
    cases hsymbol
  · exact hinside

/-- So it is made of characters of the line's body. -/
theorem extract_lineBody {text shown before after : List Char} {span : WordSpan}
    (hline : shown ∈ editorLines text) (h : span.Covers shown before after) :
    (lineBody shown).extract span.start span.stop = span.word.toList := by
  have hword : shown.extract span.start span.stop = span.word.toList := by
    rw [h.line_eq, h.start_eq, h.stop_eq]
    exact extract_middle before span.word.toList after
  rw [← extract_of_isPrefix ⟨_, lineBody_append shown⟩ (h.stop_le_lineBody hline)]
  exact hword

/-- The lines of a text on which words are looked up, and those of the index:
    1. with or without a word on it, the line that is looked at is the one that the index
       would find under this number if every stray break was a line feed, and any word that
       is found is the part of this line between two places, whose numbers modulo 2 ^ 32 are
       the columns given: the places themselves on a line of fewer than 2 ^ 32 characters;
    2. this line is the one that the index does find, for all numbers, exactly where the
       text has no stray break, that is, where nothing has to be replaced. -/
theorem wordAt?_lines (text : List Char) :
    (∀ number column,
      (editorLines text)[number]?.map lineBody = (physicalLines (withFeeds text))[number]? ∧
      ∀ touched, wordAt? text number column = some touched →
        ∃ (line : List Char) (span : WordSpan),
          (physicalLines (withFeeds text))[number]? = some line ∧ span.found = touched ∧
          line.extract span.start span.stop = touched.word.toList ∧
          (line.length < UInt32.size →
            touched.start.toNat = span.start ∧ touched.stop.toNat = span.stop)) ∧
    ((∀ number : Nat, (editorLines text)[number]?.map lineBody = (physicalLines text)[number]?) ↔
      strayBreaks text = 0) ∧
    (strayBreaks text = 0 → withFeeds text = text) := by
  have hlines : ∀ number : Nat,
      (editorLines text)[number]?.map lineBody = (physicalLines (withFeeds text))[number]? := by
    intro number
    rw [← map_lineBody_editorLines, List.getElem?_map]
  refine ⟨fun number column => ⟨hlines number, ?_⟩, ⟨?_, ?_⟩, withFeeds_eq_self⟩
  · intro touched htouched
    obtain ⟨line, hline, hfound⟩ := Option.bind_eq_some_iff.1 htouched
    obtain ⟨span, hword, rfl⟩ := Option.map_eq_some_iff.1 hfound
    obtain ⟨before, after, hcovers⟩ := wordOnLine?_eq_some hword
    have hmem := List.mem_of_getElem? hline
    refine ⟨lineBody line, span, ?_, rfl, extract_lineBody hmem hcovers, ?_⟩
    · rw [← hlines number, hline]
      rfl
    · intro hshort
      have hstop := hcovers.stop_le_lineBody hmem
      exact WordSpan.toNat_found hcovers.start_le_stop (by omega)
  · intro hsame
    have heq : (editorLines text).map lineBody = physicalLines text := by
      apply List.ext_getElem?
      intro number
      rw [List.getElem?_map]
      exact hsame number
    have hlength := length_physicalLines_withFeeds text
    rw [← map_lineBody_editorLines, heq] at hlength
    omega
  · intro hnone number
    rw [hlines, withFeeds_eq_self hnone]

/-! ### A form feed -/

/-- Two lines for the index, three for the editor. -/
def formFed : List Char :=
  "X\x0c\nCC := gcc".toList

/-- The second line of the index is the editor's third, and where the editor counts the
    second one there is no word. -/
theorem wordAt?_formFed :
    (physicalLines formFed)[1]? = some "CC := gcc".toList ∧ (physicalLines formFed)[2]? = none ∧
    wordAt? formFed 1 0 = none ∧ wordAt? formFed 2 0 = some ⟨"CC", 0, 2⟩ := by
  decide

end MakeLens
