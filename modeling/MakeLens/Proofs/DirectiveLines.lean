import MakeLens.Proofs.LineForms

/-! # Include lines and reference lines

    Both forms leave no choice. The words of an include directive are taken apart by blanks
    a second time, after the directive has been recognised, and come out as they were put
    together (`spaced_words`, `Spaced.words_eq`). In a reference every part ends where the
    next one begins, so the name and its place are determined (`reference?_eq_some_iff`).

    As with rules and assignments, a reading says how the line is put together, and nothing
    about how the parts are found.
-/

namespace MakeLens

/-! ## Section 1: Words between blanks -/

/-- The text is made of the words, each of them behind blanks, and of blanks at the end. -/
inductive Spaced (p : Char → Bool) : List (List Char) → List Char → Prop where
  | done {trailing : List Char} (htrailing : ∀ c ∈ trailing, isBlank c = true) :
      Spaced p [] trailing
  | next {gap word rest : List Char} {more : List (List Char)} (hgap : IsRun isBlank gap)
      (hword : IsRun p word) (hrest : Spaced p more rest) :
      Spaced p (word :: more) (gap ++ (word ++ rest))

/-- The characters that a word is made of. -/
def isInk (c : Char) : Bool := !isBlank c

theorem isInk_of_isBlank {c : Char} (h : isBlank c = true) : isInk c = false := by
  simp [isInk, h]

section spaced

variable {p : Char → Bool} {text rest : List Char}

theorem words_cons_of_blank {c : Char} (hc : isBlank c = true) (rest : List Char) :
    words (c :: rest) = words rest := by
  rw [words.eq_def]
  simp only [hc, if_true]

theorem words_singleton {c : Char} (hc : isBlank c = false) : words [c] = [[c]] := by
  rw [words.eq_def]
  simp only [hc, Bool.false_eq_true, if_false]

theorem words_cons_before_blank {c d : Char} (hc : isBlank c = false) (hd : isBlank d = true)
    (rest : List Char) : words (c :: d :: rest) = [c] :: words (d :: rest) := by
  rw [words.eq_def]
  simp only [hc, hd, Bool.false_eq_true, if_false, if_true]

theorem words_cons_before_ink {c d : Char} (hc : isBlank c = false) (hd : isBlank d = false)
    {rest word : List Char} {more : List (List Char)} (h : words (d :: rest) = word :: more) :
    words (c :: d :: rest) = (c :: word) :: more := by
  rw [words.eq_def]
  simp only [hc, hd, h, Bool.false_eq_true, if_false]

theorem words_blanks {blanks : List Char} (hblanks : ∀ c ∈ blanks, isBlank c = true)
    (rest : List Char) : words (blanks ++ rest) = words rest := by
  induction blanks with
  | nil => rfl
  | cons c blanks ih =>
    rw [List.cons_append, words_cons_of_blank (hblanks c List.mem_cons_self)]
    exact ih fun d hd => hblanks d (List.mem_cons_of_mem c hd)

/-- A run of characters that are not blank is one word. -/
theorem words_run {word : List Char} (hword : IsRun isInk word)
    (hrest : StartsOutside isInk rest) : words (word ++ rest) = word :: words rest := by
  obtain ⟨hne, hmem⟩ := hword
  induction word with
  | nil => exact absurd rfl hne
  | cons c word ih =>
    have hc : isBlank c = false := by simpa [isInk] using hmem c List.mem_cons_self
    by_cases hlast : word = []
    · -- the last character of the word stands before a blank or at the end
      subst hlast
      cases rest with
      | nil => exact words_singleton hc
      | cons d rest =>
        have hd : isBlank d = true := by simpa [isInk] using hrest d rfl
        exact words_cons_before_blank hc hd rest
    · have htail := ih hlast fun d hd => hmem d (List.mem_cons_of_mem c hd)
      obtain ⟨d, word, rfl⟩ := List.exists_cons_of_ne_nil hlast
      have hd : isBlank d = false := by simpa [isInk] using hmem d (by simp)
      exact words_cons_before_ink hc hd htail

theorem Spaced.startsOutside {more : List (List Char)} (h : Spaced p more text) :
    StartsOutside isInk text := by
  cases h with
  | done htrailing => exact startsOutside_of_forall fun c hc => isInk_of_isBlank (htrailing c hc)
  | next hgap hword hrest => exact hgap.startsOutside (fun _ => isInk_of_isBlank) _

/-- Taking the text apart gives the words that it was put together from. -/
theorem Spaced.words_eq (hp : ∀ c, p c = true → isBlank c = false) {more : List (List Char)}
    (h : Spaced p more text) : words text = more := by
  induction h with
  | @done trailing htrailing =>
    have hnone := words_blanks htrailing []
    rwa [List.append_nil] at hnone
  | next hgap hword hrest ih =>
    have hink : IsRun isInk _ := ⟨hword.ne_nil, fun c hc => by simp [isInk, hp c (hword.mem c hc)]⟩
    rw [words_blanks hgap.mem, words_run hink hrest.startsOutside, ih]

/-- A text is blank, or has a first word. -/
theorem blank_or_first_word (text : List Char) :
    (∀ c ∈ text, isBlank c = true) ∨ ∃ gap word rest, text = gap ++ (word ++ rest) ∧
      (∀ c ∈ gap, isBlank c = true) ∧ IsRun isInk word ∧ StartsOutside isInk rest := by
  have hsplit : text.takeWhile isBlank ++ text.dropWhile isBlank = text :=
    List.takeWhile_append_dropWhile
  have hfirst := startsOutside_dropWhile isBlank text
  generalize hbody : text.dropWhile isBlank = body at hsplit hfirst
  cases body with
  | nil =>
    refine Or.inl fun c hc => ?_
    rw [← hsplit, List.append_nil] at hc
    exact of_mem_takeWhile hc
  | cons c body =>
    have hink : isInk c = true := by simp [isInk, hfirst c rfl]
    refine Or.inr ⟨text.takeWhile isBlank, (c :: body).takeWhile isInk,
      (c :: body).dropWhile isInk, ?_, fun _ => of_mem_takeWhile,
      ⟨by simp [hink], fun _ => of_mem_takeWhile⟩, startsOutside_dropWhile _ _⟩
    rw [List.takeWhile_append_dropWhile, hsplit]

/-- A text that does not start with a word is made of its words. -/
theorem spaced_words (hstart : StartsOutside isInk text)
    (hmem : ∀ c ∈ text, isBlank c = false → p c = true) : Spaced p (words text) text := by
  -- the induction is on the length, since a gap and a word are taken off at a time
  induction hlength : text.length using Nat.strongRecOn generalizing text with
  | ind length ih =>
    rcases blank_or_first_word text with hblank | ⟨gap, word, rest, rfl, hgap, hword, hrest⟩
    · have hnone := words_blanks hblank []
      rw [List.append_nil] at hnone
      rw [hnone]
      exact .done hblank
    · have hne : gap ≠ [] := by
        rintro rfl
        obtain ⟨c, word, rfl⟩ := List.exists_cons_of_ne_nil hword.ne_nil
        have hc := hword.mem c List.mem_cons_self
        rw [hstart c rfl] at hc
        cases hc
      have hp : IsRun p word := by
        refine ⟨hword.ne_nil, fun c hc => hmem c (by simp [hc]) ?_⟩
        simpa [isInk] using hword.mem c hc
      have hshorter : rest.length < length := by
        have hlong := List.length_pos_iff.2 hne
        rw [← hlength, List.length_append, List.length_append]
        omega
      rw [words_blanks hgap, words_run hword hrest]
      exact .next ⟨hne, hgap⟩ hp
        (ih rest.length hshorter hrest (fun c hc => hmem c (by simp [hc])) rfl)

end spaced

/-! ## Section 2: Include directives -/

/-- The words that an include directive starts with. -/
def includeKeywords : List (List Char) :=
  ["include".toList, "-include".toList, "sinclude".toList]

/-- The line reads as an include directive: a keyword and one or more paths, each behind
    blanks, with blanks at the end or without. -/
def ReadsAsInclusion (line : List Char) (paths : List (List Char)) : Prop :=
  ∃ keyword ∈ includeKeywords, ∃ text, line = keyword ++ text ∧ paths ≠ [] ∧
    Spaced isNameChar paths text

section inclusions

variable {line text : List Char} {paths : List (List Char)}

theorem afterBlanks?_of_run {gap rest : List Char} (hgap : IsRun isBlank gap) :
    afterBlanks? (gap ++ rest) = some (trimStart (gap ++ rest)) := by
  obtain ⟨c, gap, rfl⟩ := List.exists_cons_of_ne_nil hgap.ne_nil
  simp [afterBlanks?, hgap.mem c List.mem_cons_self]

/-- Behind a keyword the paths are looked for. -/
theorem inclusion?_keyword {keyword : List Char} (h : keyword ∈ includeKeywords) :
    inclusion? (keyword ++ text) = (afterBlanks? text).bind fun list =>
      if list ≠ [] ∧ list.all (fun c => isNameChar c || isBlank c) then some (words list)
      else none := by
  simp only [includeKeywords, List.mem_cons, List.not_mem_nil, or_false] at h
  rcases h with rfl | rfl | rfl
  · rfl
  · rfl
  · rfl

/-- Without a keyword there is no directive. -/
theorem exists_keyword (h : inclusion? line = some paths) :
    ∃ keyword ∈ includeKeywords, ∃ text, line = keyword ++ text := by
  unfold inclusion? at h
  obtain ⟨after, hafter, -⟩ := Option.bind_eq_some_iff.1 h
  split at hafter
  · exact ⟨"-include".toList, by decide, after,
      congrArg (List.cons '-') (afterKeyword?_eq_some hafter)⟩
  · exact ⟨"sinclude".toList, by decide, after,
      congrArg (List.cons 's') (afterKeyword?_eq_some hafter)⟩
  · exact ⟨"include".toList, by decide, after, afterKeyword?_eq_some hafter⟩

theorem Spaced.mem {p : Char → Bool} (h : Spaced p paths text) :
    ∀ c ∈ text, (p c || isBlank c) = true := by
  induction h with
  | done htrailing =>
    intro c hc
    simp [htrailing c hc]
  | next hgap hword _ ih =>
    intro c hc
    rcases List.mem_append.1 hc with hc | hc
    · simp [hgap.mem c hc]
    · rcases List.mem_append.1 hc with hc | hc
      · simp [hword.mem c hc]
      · exact ih c hc

theorem words_trimStart (text : List Char) : words (trimStart text) = words text := by
  have hsplit : text.takeWhile isBlank ++ trimStart text = text :=
    List.takeWhile_append_dropWhile
  have hblanks : ∀ c ∈ text.takeWhile isBlank, isBlank c = true := fun _ => of_mem_takeWhile
  have hwords := words_blanks hblanks (trimStart text)
  rw [hsplit] at hwords
  exact hwords.symm

/-- A character of a text is blank or stands behind its leading blanks. -/
theorem mem_trimStart {c : Char} (hc : c ∈ text) (hink : isBlank c = false) :
    c ∈ trimStart text := by
  have hsplit : text.takeWhile isBlank ++ trimStart text = text :=
    List.takeWhile_append_dropWhile
  rw [← hsplit] at hc
  rcases List.mem_append.1 hc with hblank | hrest
  · rw [of_mem_takeWhile hblank] at hink
    cases hink
  · exact hrest

/-- The directive is found exactly where the line reads as one, with the paths of the
    reading. -/
theorem inclusion?_eq_some_iff : inclusion? line = some paths ↔ ReadsAsInclusion line paths := by
  constructor
  · intro h
    obtain ⟨keyword, hkeyword, text, rfl⟩ := exists_keyword h
    rw [inclusion?_keyword hkeyword] at h
    obtain ⟨list, hlist, h⟩ := Option.bind_eq_some_iff.1 h
    obtain ⟨⟨blank, after, htext, hblank⟩, rfl⟩ := afterBlanks?_eq_some hlist
    split at h
    · next hparts =>
      obtain ⟨hne, hall⟩ := hparts
      cases h
      have hstart : StartsOutside isInk text := by
        rw [htext]
        exact startsOutside_cons (isInk_of_isBlank hblank)
      have hname : ∀ c ∈ text, isBlank c = false → isNameChar c = true := by
        intro c hc hink
        have hclass := List.all_eq_true.1 hall c (mem_trimStart hc hink)
        simpa [hink] using hclass
      have hspaced := spaced_words hstart hname
      rw [words_trimStart]
      refine ⟨keyword, hkeyword, text, rfl, fun hnone => ?_, hspaced⟩
      -- without a word the text would be blank
      rw [hnone] at hspaced
      cases hspaced with
      | done htrailing =>
        have htrim := trimStart_blanks htrailing (startsOutside_nil isBlank)
        rw [List.append_nil] at htrim
        exact hne htrim
    · cases h
  · rintro ⟨keyword, hkeyword, text, rfl, hne, hspaced⟩
    have hwords : words (trimStart text) = paths := by
      rw [words_trimStart]
      exact hspaced.words_eq fun c => isBlank_of_isNameChar
    have hall : (trimStart text).all (fun c => isNameChar c || isBlank c) = true :=
      List.all_eq_true.2 fun c hc => hspaced.mem c ((List.dropWhile_sublist _).subset hc)
    have hsome : trimStart text ≠ [] := by
      intro hnone
      rw [hnone] at hwords
      exact hne hwords.symm
    rw [inclusion?_keyword hkeyword]
    cases hspaced with
    | done => exact absurd rfl hne
    | next hgap _ _ =>
      rw [afterBlanks?_of_run hgap, Option.bind_some, if_pos ⟨hsome, hall⟩, hwords]

theorem ReadsAsInclusion.unique {other : List (List Char)} (h : ReadsAsInclusion line paths)
    (hother : ReadsAsInclusion line other) : paths = other := by
  rw [← inclusion?_eq_some_iff] at h hother
  exact Option.some.inj (h.symm.trans hother)

end inclusions

/-! ## Section 3: References -/

/-- The line reads as a reference to a name: a word, a gap, an opened name, at most a closing
    bracket, blanks, and a rest without line feed. -/
def ReadsAsReference (line word gap name : List Char) : Prop :=
  ∃ opening closing blanks rest,
    line = word ++ (gap ++ '$' :: opening :: (name ++ (closing ++ (blanks ++ rest)))) ∧
    IsRun isNameChar word ∧ IsRun isBlank gap ∧ (opening = '(' ∨ opening = '{') ∧
    IsRun isReferenceChar name ∧ (closing = [] ∨ closing = [')'] ∨ closing = ['}']) ∧
    IsRun isBlank blanks ∧ '\n' ∉ rest

section references

variable {line word gap name : List Char} {column : Nat}

theorem isReferenceChar_of_isBlank {c : Char} (h : isBlank c = true) :
    isReferenceChar c = false := by
  simp [isReferenceChar, isNameChar_of_isBlank h]

/-- Behind the name the closing bracket is taken off, if there is one. -/
theorem closed_eq {closing text : List Char}
    (hclosing : closing = [] ∨ closing = [')'] ∨ closing = ['}'])
    (htext : StartsOutside isInk text) :
    (match closing ++ text with
      | c :: after => if c = ')' ∨ c = '}' then after else c :: after
      | [] => []) = text := by
  rcases hclosing with rfl | rfl | rfl
  · cases text with
    | nil => rfl
    | cons c text =>
      have hblank := htext c rfl
      have hc : ¬(c = ')' ∨ c = '}') := by
        rintro (rfl | rfl)
        · exact absurd hblank (by decide)
        · exact absurd hblank (by decide)
      simp [hc]
  · rfl
  · rfl

theorem ReadsAsReference.reference?_eq (h : ReadsAsReference line word gap name) :
    reference? line = some (name, word.length + gap.length + 2) := by
  obtain ⟨opening, closing, blanks, rest, rfl, hword, hgap, hopening, hname, hclosing, hblanks,
    hrest⟩ := h
  have hlead : StartsOutside isNameChar
      (gap ++ '$' :: opening :: (name ++ (closing ++ (blanks ++ rest)))) :=
    hgap.startsOutside (fun _ => isNameChar_of_isBlank) _
  have hdollar : StartsOutside isBlank
      ('$' :: opening :: (name ++ (closing ++ (blanks ++ rest)))) := startsOutside_cons (by decide)
  have htail : StartsOutside isInk (blanks ++ rest) :=
    hblanks.startsOutside (fun _ => isInk_of_isBlank) _
  have hbehind : StartsOutside isReferenceChar (closing ++ (blanks ++ rest)) := by
    rcases hclosing with rfl | rfl | rfl
    · exact htail.of_imp fun c hc => isReferenceChar_of_isBlank (by simpa [isInk] using hc)
    · exact startsOutside_cons (by decide)
    · exact startsOutside_cons (by decide)
  have hfeed : '\n' ∉ trimStart (blanks ++ rest) := by
    have htrim : trimStart (blanks ++ rest) = trimStart rest :=
      List.dropWhile_append_of_pos hblanks.mem
    rw [htrim]
    exact fun hmem => hrest ((List.dropWhile_sublist _).subset hmem)
  unfold reference?
  rw [takeWhile_run hword.mem hlead, dropWhile_run hword.mem hlead, takeWhile_run hgap.mem hdollar,
    dropWhile_run hgap.mem hdollar]
  simp only [hword.ne_nil, hgap.ne_nil, or_self, if_false]
  rw [takeWhile_run hname.mem hbehind, dropWhile_run hname.mem hbehind,
    if_pos ⟨hopening, hname.ne_nil⟩]
  have hafter := (congrArg afterBlanks? (closed_eq hclosing htail)).trans
    (afterBlanks?_of_run hblanks)
  refine Option.bind_eq_some_iff.2 ⟨trimStart (blanks ++ rest), hafter, ?_⟩
  rw [if_neg hfeed]

theorem reference?_eq_some_iff :
    reference? line = some (name, column) ↔
      ∃ word gap, ReadsAsReference line word gap name ∧
        column = word.length + gap.length + 2 := by
  constructor
  · intro h
    obtain ⟨word, gap, opening, closing, text, hline, hword, hwords, hgap, hgaps, hopening, hname,
      hnames, hclosing, ⟨blank, after, htext, hblank⟩, hfeed, hcolumn⟩ := reference?_eq_some h
    refine ⟨word, gap, ⟨opening, closing, text.takeWhile isBlank, trimStart text, ?_,
      ⟨hword, hwords⟩, ⟨hgap, hgaps⟩, hopening, ⟨hname, hnames⟩, hclosing,
      ⟨?_, fun _ => of_mem_takeWhile⟩, hfeed⟩, hcolumn⟩
    · unfold trimStart
      rw [List.takeWhile_append_dropWhile, hline]
      simp
    · rw [htext]
      simp [hblank]
  · rintro ⟨word, gap, hreads, rfl⟩
    exact hreads.reference?_eq

end references

/-! ## Section 4: The include and reference facts of a line -/

section facts

variable {line : List Char}

theorem inclusion_mem_classify_iff {paths : List String} :
    Fact.inclusion paths ∈ classify line ↔
      ∃ tokens, ReadsAsInclusion line tokens ∧ paths = tokens.map String.ofList := by
  rw [mem_classify_iff_mem_facts]
  show _ ∈ ((inclusion? line).map _).toList ↔ _
  simp only [Option.mem_toList, Option.map_eq_some_iff, inclusion?_eq_some_iff,
    Fact.inclusion.injEq, eq_comm (b := paths)]

theorem reference_mem_classify_iff {name : String} {column : UInt32} :
    Fact.reference name column ∈ classify line ↔
      ∃ word gap chars, ReadsAsReference line word gap chars ∧ name = String.ofList chars ∧
        column = UInt32.ofNat (word.length + gap.length + 2) := by
  rw [mem_classify_iff_mem_facts]
  show _ ∈ ((reference? line).map _).toList ↔ _
  rw [Option.mem_toList, Option.map_eq_some_iff]
  constructor
  · rintro ⟨⟨chars, place⟩, hfound, hfact⟩
    obtain ⟨word, gap, hreads, rfl⟩ := reference?_eq_some_iff.1 hfound
    cases hfact
    exact ⟨word, gap, chars, hreads, rfl, rfl⟩
  · rintro ⟨word, gap, chars, hreads, rfl, rfl⟩
    exact ⟨_, hreads.reference?_eq, rfl⟩

end facts

/-- The include and reference facts of a line.
    1. There is an include directive exactly if the line reads as one. Its paths are the
       words of the reading, in their order, and the line cannot be read with others; there
       is no second directive.
    2. There is a reference exactly if the line reads as one. Its name is that of the
       reading, and its column is behind the word, the gap, the `$` and the opening bracket.
       The line cannot be read with another name or column; there is no second reference. -/
theorem classify_directives (line : List Char) :
    ((∀ paths, Fact.inclusion paths ∈ classify line ↔
        ∃ tokens, ReadsAsInclusion line tokens ∧ paths = tokens.map String.ofList) ∧
      (∀ tokens other, ReadsAsInclusion line tokens → ReadsAsInclusion line other →
        tokens = other) ∧
      ((classify line).filter fun fact => fact.pass = .inclusion).length ≤ 1) ∧
    (∀ name column, Fact.reference name column ∈ classify line ↔
      ∃ word gap chars, ReadsAsReference line word gap chars ∧ name = String.ofList chars ∧
        column = UInt32.ofNat (word.length + gap.length + 2)) ∧
    (∀ word gap chars word' gap' chars', ReadsAsReference line word gap chars →
      ReadsAsReference line word' gap' chars' →
      chars = chars' ∧ word.length + gap.length + 2 = word'.length + gap'.length + 2) ∧
    ((classify line).filter fun fact => fact.pass = .reference).length ≤ 1 := by
  refine ⟨⟨fun _ => inclusion_mem_classify_iff, fun _ _ => ReadsAsInclusion.unique, ?_⟩,
    fun _ _ => reference_mem_classify_iff, ?_, ?_⟩
  · rw [filter_classify]
    exact length_facts_le_one (by decide) line
  · intro word gap chars word' gap' chars' hreads hother
    have hsame := hreads.reference?_eq.symm.trans hother.reference?_eq
    exact Prod.mk.inj (Option.some.inj hsame)
  · rw [filter_classify]
    exact length_facts_le_one (by decide) line

-- words between different blanks, and a name that no bracket closes
example : classify "-include\t a.mk  $(B)/é.mk a.mk ".toList =
      [.inclusion ["a.mk", "$(B)/é.mk", "a.mk"]] ∧
    classify "cc \t$\x7bX -o".toList = [.reference "X" 6] := by
  decide +kernel

end MakeLens
