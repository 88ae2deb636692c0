import MakeLens.Proofs.EditorLines

/-! # The words of a line

    The word that a cursor touches is looked for from the cursor, in both directions. The
    outcome does not depend on where in the word the search begins: a line has its words,
    which are its maximal runs of symbol characters, and a cursor touches a word if it is in
    it or at one of its ends.

    * `WordSpan.IsWordOf.eq_or_apart`: between two words of a line there is a character that
      belongs to neither, so no cursor touches both;
    * `wordOnLine?_eq_some_iff`: what is found is the word that the cursor touches;
    * `wordOnLine?_eq_none_iff`: nothing is found where there is no symbol character at the
      cursor or before it.

    The editor is told the ends of the word as numbers of 32 bits. These are its places on a
    line that such numbers can measure (`wordAt?_eq_some_iff_of_short`), and its places modulo
    2 ^ 32 on any other.
-/

namespace MakeLens

/-! ## Section 1: Words by their places -/

/-- The span is a word of a line: one or more symbol characters, and none right before them
    or right behind them. -/
structure WordSpan.IsWordOf (span : WordSpan) (chars : List Char) : Prop where
  start_lt_stop : span.start < span.stop
  word_eq : span.word.toList = chars.extract span.start span.stop
  symbols : ∀ place, span.start ≤ place → place < span.stop → hasSymbolAt chars place = true
  before : ∀ place, place + 1 = span.start → hasSymbolAt chars place = false
  behind : hasSymbolAt chars span.stop = false

theorem hasSymbolAt_eq_false {chars : List Char} {place : Nat}
    (h : ∀ c, chars[place]? = some c → isSymbolChar c = false) :
    hasSymbolAt chars place = false := by
  refine Bool.eq_false_iff.2 fun hsymbol => ?_
  obtain ⟨c, hc, htrue⟩ := hasSymbolAt_iff.1 hsymbol
  rw [h c hc] at htrue
  cases htrue

namespace WordSpan

variable {chars before after : List Char} {span a b : WordSpan}

/-- A maximal run between its neighbours is a word by its places. -/
theorem Covers.isWordOf (h : span.Covers chars before after) : span.IsWordOf chars where
  start_lt_stop := by
    have hlong := List.length_pos_iff.2 h.word_ne_nil
    rw [h.start_eq, h.stop_eq]
    omega
  word_eq := by
    rw [h.line_eq, h.start_eq, h.stop_eq]
    exact (extract_middle before span.word.toList after).symm
  symbols := by
    intro place hstart hstop
    rw [h.start_eq] at hstart
    rw [h.stop_eq] at hstop
    have hinside : place - before.length < span.word.toList.length := by omega
    refine hasSymbolAt_iff.2 ⟨_, ?_, h.word_chars _ (List.getElem_mem hinside)⟩
    rw [h.line_eq, List.getElem?_append_right hstart, List.getElem?_append_left hinside,
      List.getElem?_eq_getElem hinside]
  before := by
    intro place hplace
    rw [h.start_eq] at hplace
    refine hasSymbolAt_eq_false fun c hc => h.before_outside c ?_
    rw [h.line_eq, List.getElem?_append_left (by omega)] at hc
    rw [List.getLast?_eq_getElem?, ← hplace]
    exact hc
  behind := by
    refine hasSymbolAt_eq_false fun c hc => h.after_outside c ?_
    rw [h.line_eq, h.stop_eq, ← List.append_assoc, ← List.length_append,
      List.getElem?_append_right (Nat.le_refl _), Nat.sub_self] at hc
    rw [List.head?_eq_getElem?]
    exact hc

/-- A word is on the line. -/
theorem IsWordOf.stop_le (h : span.IsWordOf chars) : span.stop ≤ chars.length := by
  have hlong := h.start_lt_stop
  obtain ⟨c, hc, -⟩ := hasSymbolAt_iff.1 (h.symbols (span.stop - 1) (by omega) (by omega))
  have hlast := (List.getElem?_eq_some_iff.1 hc).1
  omega

theorem IsWordOf.word_chars (h : span.IsWordOf chars) :
    ∀ c ∈ span.word.toList, isSymbolChar c = true := by
  intro c hc
  rw [h.word_eq, List.extract_eq_take_drop] at hc
  obtain ⟨i, hi⟩ := List.mem_iff_getElem?.1 hc
  rw [List.getElem?_take, List.getElem?_drop] at hi
  split at hi
  · next hlt =>
    obtain ⟨d, hd, hsymbol⟩ := hasSymbolAt_iff.1 (h.symbols (span.start + i) (by omega) (by omega))
    rw [hi] at hd
    cases hd
    exact hsymbol
  · cases hi

/-! ### Two words of one line -/

/-- The character before the later word does not belong to the earlier one. -/
theorem IsWordOf.stop_lt_start (ha : a.IsWordOf chars) (hb : b.IsWordOf chars)
    (h : a.start < b.start) : a.stop < b.start := by
  rcases Nat.lt_or_ge a.stop b.start with hapart | hmeet
  · exact hapart
  · have hin := ha.symbols (b.start - 1) (by omega) (by omega)
    rw [hb.before (b.start - 1) (by omega)] at hin
    cases hin

/-- Of two words with the same start neither ends before the other. -/
theorem IsWordOf.stop_le_stop (ha : a.IsWordOf chars) (hb : b.IsWordOf chars)
    (h : a.start = b.start) : a.stop ≤ b.stop := by
  rcases Nat.lt_or_ge b.stop a.stop with hbeyond | hwithin
  · have hlong := hb.start_lt_stop
    have hin := ha.symbols b.stop (by omega) hbeyond
    rw [hb.behind] at hin
    cases hin
  · exact hwithin

theorem IsWordOf.eq_of_start (ha : a.IsWordOf chars) (hb : b.IsWordOf chars)
    (h : a.start = b.start) : a = b := by
  have hstop : a.stop = b.stop :=
    Nat.le_antisymm (ha.stop_le_stop hb h) (hb.stop_le_stop ha h.symm)
  have hword : a.word = b.word := by
    rw [← String.toList_inj, ha.word_eq, hb.word_eq, h, hstop]
  obtain ⟨word, start, stop⟩ := a
  obtain ⟨word', start', stop'⟩ := b
  rw [WordSpan.mk.injEq]
  exact ⟨hword, h, hstop⟩

theorem IsWordOf.eq_or_apart (ha : a.IsWordOf chars) (hb : b.IsWordOf chars) :
    a = b ∨ a.stop < b.start ∨ b.stop < a.start := by
  rcases Nat.lt_trichotomy a.start b.start with hlt | heq | hgt
  · exact Or.inr (Or.inl (ha.stop_lt_start hb hlt))
  · exact Or.inl (ha.eq_of_start hb heq)
  · exact Or.inr (Or.inr (hb.stop_lt_start ha hgt))

end WordSpan

/-! ## Section 2: The word that a cursor touches -/

section cursor

variable {chars : List Char} {cursor column place : Nat} {span : WordSpan}

/-- The search begins at the cursor or at the character before it. -/
theorem near_of_anchor? (h : anchor? chars cursor = some place) :
    place = cursor ∨ place + 1 = cursor := by
  unfold anchor? at h
  split at h
  · cases h
    exact Or.inl rfl
  · split at h
    · next hbefore =>
      cases h
      omega
    · cases h

/-- A cursor that touches a word begins the search in it. -/
theorem exists_anchor? (hword : span.IsWordOf chars) (hstart : span.start ≤ cursor)
    (hstop : cursor ≤ span.stop) :
    ∃ place, anchor? chars cursor = some place ∧ span.start ≤ place ∧ place < span.stop := by
  have hlong := hword.start_lt_stop
  unfold anchor?
  rcases Nat.lt_or_ge cursor span.stop with hin | hend
  · exact ⟨cursor, if_pos (hword.symbols cursor hstart hin), hstart, hin⟩
  · -- the cursor is behind the last character
    have hcursor : cursor = span.stop := by omega
    have hlast := hword.symbols (cursor - 1) (by omega) (by omega)
    refine ⟨cursor - 1, ?_, by omega, by omega⟩
    rw [if_neg (by simp [hcursor, hword.behind]), if_pos ⟨by omega, hlast⟩]

/-- The word that is found is the one that the cursor touches. -/
theorem wordOnLine?_eq_some_iff :
    wordOnLine? chars column = some span ↔
      span.IsWordOf chars ∧ span.start ≤ min column chars.length ∧
        min column chars.length ≤ span.stop := by
  unfold wordOnLine?
  generalize min column chars.length = cursor
  constructor
  · intro h
    obtain ⟨place, hanchor, rfl⟩ := Option.map_eq_some_iff.1 h
    obtain ⟨before, after, hcovers, hstart, hstop⟩ :=
      wordAround_covers (hasSymbolAt_of_anchor? hanchor)
    rcases near_of_anchor? hanchor with rfl | rfl
    · exact ⟨hcovers.isWordOf, hstart, Nat.le_of_lt hstop⟩
    · exact ⟨hcovers.isWordOf, Nat.le_succ_of_le hstart, hstop⟩
  · rintro ⟨hword, hstart, hstop⟩
    obtain ⟨place, hanchor, hfrom, hto⟩ := exists_anchor? hword hstart hstop
    obtain ⟨before, after, hcovers, hstart', hstop'⟩ :=
      wordAround_covers (hasSymbolAt_of_anchor? hanchor)
    rw [hanchor, Option.map_some]
    -- both words hold the character at which the search begins
    rcases hcovers.isWordOf.eq_or_apart hword with heq | hless | hgreater
    · rw [heq]
    · omega
    · omega

theorem wordOnLine?_eq_none_iff :
    wordOnLine? chars column = none ↔
      hasSymbolAt chars (min column chars.length) = false ∧
        ∀ place, place + 1 = min column chars.length → hasSymbolAt chars place = false := by
  unfold wordOnLine?
  generalize min column chars.length = cursor
  rw [Option.map_eq_none_iff]
  unfold anchor?
  by_cases hat : hasSymbolAt chars cursor = true
  · simp [hat]
  by_cases hbefore : 0 < cursor ∧ hasSymbolAt chars (cursor - 1) = true
  · rw [if_neg hat, if_pos hbefore]
    simp only [reduceCtorEq, false_iff, not_and]
    intro _ hnone
    have hfalse := hnone (cursor - 1) (by omega)
    rw [hbefore.2] at hfalse
    cases hfalse
  · rw [if_neg hat, if_neg hbefore]
    simp only [true_iff]
    refine ⟨Bool.eq_false_iff.2 hat, ?_⟩
    rintro place rfl
    exact Bool.eq_false_iff.2 fun hsymbol => hbefore ⟨by omega, hsymbol⟩

end cursor

/-! ## Section 3: The word at a position -/

/-- The places of a word, as the editor is told them. -/
def FoundWord.span (touched : FoundWord) : WordSpan :=
  ⟨touched.word, touched.start.toNat, touched.stop.toNat⟩

theorem FoundWord.found_span (touched : FoundWord) : touched.span.found = touched := by
  unfold FoundWord.span WordSpan.found
  rw [UInt32.ofNat_toNat, UInt32.ofNat_toNat]

theorem WordSpan.span_found {span : WordSpan} (h : span.start ≤ span.stop)
    (hshort : span.stop < UInt32.size) : span.found.span = span := by
  obtain ⟨hstart, hstop⟩ := WordSpan.toNat_found h hshort
  unfold FoundWord.span
  rw [hstart, hstop]
  rfl

section position

variable {text chars : List Char} {number column : Nat} {touched : FoundWord}

theorem wordAt?_of_line (hline : (editorLines text)[number]? = some chars) :
    wordAt? text number column = (wordOnLine? chars column).map WordSpan.found := by
  unfold wordAt?
  rw [hline, Option.bind_some]

/-- The word that is given is the one that the cursor touches, its places modulo 2 ^ 32. -/
theorem wordAt?_eq_some_iff (hline : (editorLines text)[number]? = some chars) :
    wordAt? text number column = some touched ↔
      ∃ span : WordSpan, span.found = touched ∧ span.IsWordOf chars ∧
        span.start ≤ min column chars.length ∧ min column chars.length ≤ span.stop := by
  rw [wordAt?_of_line hline, Option.map_eq_some_iff]
  simp only [wordOnLine?_eq_some_iff]
  constructor
  · intro ⟨span, hspan, hfound⟩
    exact ⟨span, hfound, hspan⟩
  · intro ⟨span, hfound, hspan⟩
    exact ⟨span, hspan, hfound⟩

/-- Where the columns can number all characters of the line, they are the places. -/
theorem wordAt?_eq_some_iff_of_short (hline : (editorLines text)[number]? = some chars)
    (hshort : chars.length < UInt32.size) :
    wordAt? text number column = some touched ↔
      touched.span.IsWordOf chars ∧ touched.start.toNat ≤ min column chars.length ∧
        min column chars.length ≤ touched.stop.toNat := by
  rw [wordAt?_eq_some_iff hline]
  constructor
  · intro ⟨span, hfound, hword, hstart, hstop⟩
    have hlong := hword.start_lt_stop
    have hend := hword.stop_le
    have hplaces : touched.span = span := by
      rw [← hfound]
      exact WordSpan.span_found (by omega) (by omega)
    rw [← hplaces] at hword hstart hstop
    exact ⟨hword, hstart, hstop⟩
  · intro h
    exact ⟨touched.span, touched.found_span, h⟩

end position

/-- The words that the positions on a line of a text give.
    1. On a line of fewer than 2 ^ 32 characters a word that is given is a word of the line,
       made of its characters from column `start` up to column `stop`. All of them are symbol
       characters, and the characters next to them, if there are any, are none. The cursor,
       put back to the end of the line if it is beyond it, is in the word or at one of its
       ends, and all positions that are there give this word. Two positions give the same
       word, or words with a character between them.
    2. On a line of any length the words that are given are those at whose places the cursor
       is, and the columns are the places modulo 2 ^ 32.
    3. No word is given exactly where there is no such line, or neither the character at the
       cursor nor the one before it is a symbol character. -/
theorem wordAt?_touched (text : List Char) (number : Nat) :
    (∀ chars, (editorLines text)[number]? = some chars → chars.length < UInt32.size →
      (∀ column touched, wordAt? text number column = some touched →
        touched.start < touched.stop ∧ touched.span.IsWordOf chars ∧
        (∀ c ∈ touched.word.toList, isSymbolChar c = true) ∧
        (touched.start.toNat ≤ min column chars.length ∧
          min column chars.length ≤ touched.stop.toNat) ∧
        ∀ other, touched.start.toNat ≤ other → other ≤ touched.stop.toNat →
          wordAt? text number other = some touched) ∧
      ∀ column other touched touched', wordAt? text number column = some touched →
        wordAt? text number other = some touched' →
        touched = touched' ∨ touched.stop < touched'.start ∨ touched'.stop < touched.start) ∧
    (∀ chars, (editorLines text)[number]? = some chars → ∀ column touched,
      wordAt? text number column = some touched ↔
        ∃ span : WordSpan, span.found = touched ∧ span.IsWordOf chars ∧
          span.start ≤ min column chars.length ∧ min column chars.length ≤ span.stop) ∧
    ∀ column, wordAt? text number column = none ↔
      (editorLines text)[number]? = none ∨
      ∃ chars, (editorLines text)[number]? = some chars ∧
        hasSymbolAt chars (min column chars.length) = false ∧
        ∀ place, place + 1 = min column chars.length → hasSymbolAt chars place = false := by
  refine ⟨?_, fun chars hline column touched => wordAt?_eq_some_iff hline, ?_⟩
  · intro chars hline hshort
    have hiff : ∀ column (touched : FoundWord), wordAt? text number column = some touched ↔
        touched.span.IsWordOf chars ∧ touched.start.toNat ≤ min column chars.length ∧
          min column chars.length ≤ touched.stop.toNat :=
      fun _ _ => wordAt?_eq_some_iff_of_short hline hshort
    constructor
    · intro column touched hfound
      obtain ⟨hword, hstart, hstop⟩ := (hiff column touched).1 hfound
      have hlong : touched.start.toNat < touched.stop.toNat := hword.start_lt_stop
      have hend : touched.stop.toNat ≤ chars.length := hword.stop_le
      refine ⟨UInt32.lt_iff_toNat_lt.2 hlong, hword, hword.word_chars, ⟨hstart, hstop⟩, ?_⟩
      intro other hfrom hto
      exact (hiff other touched).2 ⟨hword, by omega, by omega⟩
    · intro column other touched touched' hfound hfound'
      have hword := ((hiff column touched).1 hfound).1
      have hword' := ((hiff other touched').1 hfound').1
      rcases hword.eq_or_apart hword' with heq | hless | hgreater
      · left
        rw [← touched.found_span, heq, touched'.found_span]
      · exact Or.inr (Or.inl (UInt32.lt_iff_toNat_lt.2 hless))
      · exact Or.inr (Or.inr (UInt32.lt_iff_toNat_lt.2 hgreater))
  · intro column
    cases hline : (editorLines text)[number]? with
    | none => simp [wordAt?, hline]
    | some chars =>
      rw [wordAt?_of_line hline, Option.map_eq_none_iff, wordOnLine?_eq_none_iff]
      simp

/-! ### A line of 2 ^ 32 characters -/

/-- Without a break there is one line. -/
theorem editorLines_of_unbroken {text : List Char} (h : ∀ c ∈ text, isLineBreak c = false) :
    editorLines text = [text] := by
  fun_induction editorLines text with
  | case1 => rfl
  | case2 rest ih =>
    have hreturn := h '\r' List.mem_cons_self
    cases hreturn
  | case3 c rest hpair hbreak ih =>
    rw [h c List.mem_cons_self] at hbreak
    cases hbreak
  | case4 c rest hpair hbreak hnone ih =>
    rw [hnone] at ih
    cases ih fun d hd => h d (List.mem_cons_of_mem _ hd)
  | case5 c rest hpair hbreak line lines hlines ih =>
    rw [hlines] at ih
    cases ih fun d hd => h d (List.mem_cons_of_mem _ hd)
    rfl

/-- A word that is a line by itself ends at the line's length, modulo 2 ^ 32. -/
theorem wordAt?_replicate {length : Nat} (h : 0 < length) :
    wordAt? (List.replicate length 'a') 0 0 =
      some ⟨String.ofList (List.replicate length 'a'), 0, UInt32.ofNat length⟩ := by
  have hline : (editorLines (List.replicate length 'a'))[0]? =
      some (List.replicate length 'a') := by
    rw [editorLines_of_unbroken]
    · rfl
    · intro c hc
      rw [(List.mem_replicate.1 hc).2]
      rfl
  have hrun : ∀ c ∈ List.replicate length 'a', isSymbolChar c = true := by
    intro c hc
    rw [(List.mem_replicate.1 hc).2]
    decide
  have hne : List.replicate length 'a' ≠ [] := by
    rw [Ne, List.replicate_eq_nil_iff]
    omega
  -- nothing before the word and nothing behind it
  have hfound : wordOnLine? ([] ++ (List.replicate length 'a' ++ [])) ([] : List Char).length = _ :=
    wordOnLine?_of_run hne hrun (fun c hc => by cases hc) (fun c hc => by cases hc)
  rw [List.nil_append, List.append_nil, List.length_nil, List.length_replicate, Nat.zero_add]
    at hfound
  rw [wordAt?_of_line hline, hfound]
  rfl

/-- A word of 2 ^ 32 characters ends at the column where it starts. -/
theorem wordAt?_wraps :
    let text := List.replicate UInt32.size 'a'
    let touched : FoundWord := ⟨String.ofList text, 0, 0⟩
    wordAt? text 0 0 = some touched ∧ ¬touched.start < touched.stop := by
  intro text touched
  have hlong : 0 < UInt32.size := by decide
  have hfound := wordAt?_replicate hlong
  have hwrap : UInt32.ofNat UInt32.size = 0 := by decide
  rw [hwrap] at hfound
  refine ⟨hfound, ?_⟩
  show ¬(0 : UInt32) < 0
  decide

-- both ends of a word, a cursor beyond the line, and two words with one character between them
example : (List.range 9).map (fun column => (wordAt? "é\n a=bc".toList 1 column).map
    fun span => (span.word, span.start, span.stop)) =
    [none, some ("a", 1, 2), some ("a", 1, 2), some ("bc", 3, 5), some ("bc", 3, 5),
      some ("bc", 3, 5), some ("bc", 3, 5), some ("bc", 3, 5), some ("bc", 3, 5)] := by
  decide +kernel

end MakeLens
