import MakeLens.Proofs.EditorLines

/-! # From an entity to the word at its place

    A name is cut out of a line twice: by the grammar when the file is scanned, and by
    the word under the cursor when the editor asks. Where the name has symbol characters
    only, both cut it at the same places, whatever the kind of the entity: the grammar
    leaves it between characters that end a word, and so do the comment and the line break
    that the grammar does not see.

    There is one exception. The question mark of a `?=` is a symbol character, so right
    behind a name it becomes part of the word under the cursor. The grammar gives it to the
    operator.
-/

namespace MakeLens

/-! ## Section 1: The line around a name -/

/-- The editor shows a line as its kept part, a comment and a break. Either of the latter
    ends a word. -/
theorem exists_editorLine {text physical : List Char} {number : Nat}
    (hbreaks : strayBreaks text = 0) (h : (physicalLines text)[number]? = some physical) :
    ∃ comment lineBreak, physical = stripComment physical ++ comment ∧
      (editorLines text)[number]? = some (physical ++ lineBreak) ∧
      StartsOutside isSymbolChar comment ∧ StartsOutside isSymbolChar lineBreak := by
  have hbody : (editorLines text)[number]?.map lineBody = some physical := by
    rw [← List.getElem?_map, map_lineBody_editorLines, withFeeds_eq_self hbreaks]
    exact h
  obtain ⟨line, hline, hphysical⟩ := Option.map_eq_some_iff.1 hbody
  obtain ⟨comment, hsplit, hcomment⟩ := exists_comment false physical
  refine ⟨comment, line.dropWhile fun c => !isLineBreak c, hsplit.symm, ?_, ?_, ?_⟩
  · rw [hline, ← hphysical]
    exact congrArg some List.takeWhile_append_dropWhile.symm
  · refine hcomment.of_imp fun c hc => ?_
    have hsharp : c = '#' := by simpa using hc
    rw [hsharp]
    decide
  · refine (startsOutside_dropWhile _ line).of_imp fun c hc => ?_
    exact isSymbolChar_of_isBlank (isBlank_of_isLineBreak (by simpa using hc))

/-- The slot of a line that is not continued is the line without its comment. -/
theorem logical_of_uncontinued {text physical logical : List Char} {number : Nat}
    (hlogical : (logicalLines text)[number]? = some logical) (hne : logical ≠ [])
    (hphysical : (physicalLines text)[number]? = some physical)
    (huncontinued : continuationHead? (stripComment physical) = none) :
    logical = stripComment physical := by
  obtain ⟨line, own, hline, -, -, hall⟩ := (joinContinued_getElem? hlogical).resolve_left hne
  rw [List.getElem?_map, hphysical] at hline
  cases hline
  exact hall huncontinued

/-! ## Section 2: The word at an entity's place -/

theorem not_prefix_of_startsOutside {text : List Char} (h : StartsOutside isSymbolChar text) :
    ¬['?', '='] <+: text := by
  rintro ⟨rest, rfl⟩
  have hmark := h '?' rfl
  revert hmark
  decide

section delimited

variable {kind : EntityKind} {line before name after : List Char}

/-- The name is a word where a word ends behind it. -/
theorem wordOnLine?_delimited (h : Delimited kind line before name after)
    (hname : ∀ c ∈ name, isSymbolChar c = true) (hafter : StartsOutside isSymbolChar after)
    {rest : List Char} (hrest : StartsOutside isSymbolChar rest) :
    wordOnLine? (line ++ rest) before.length =
      some ⟨String.ofList name, before.length, before.length + name.length⟩ := by
  have hline : line ++ rest = before ++ (name ++ (after ++ rest)) := by
    rw [h.line_eq, List.append_assoc, List.append_assoc]
  rw [hline]
  exact wordOnLine?_of_run h.name_ne_nil hname h.before_outside (hafter.append hrest)

/-- Before a `?=` the word goes on up to the `=`. -/
theorem wordOnLine?_conditional (h : Delimited kind line before name after)
    (hname : ∀ c ∈ name, isSymbolChar c = true) (hafter : ['?', '='] <+: after)
    (rest : List Char) :
    wordOnLine? (line ++ rest) before.length =
      some ⟨String.ofList (name ++ ['?']), before.length, before.length + (name.length + 1)⟩ := by
  obtain ⟨value, hvalue⟩ := hafter
  have hline : line ++ rest = before ++ ((name ++ ['?']) ++ ('=' :: (value ++ rest))) := by
    rw [h.line_eq, ← hvalue]
    simp
  have hrun : ∀ c ∈ name ++ ['?'], isSymbolChar c = true := by
    intro c hc
    rcases List.mem_append.1 hc with hc | hc
    · exact hname c hc
    · rw [List.mem_singleton.1 hc]
      decide
  have hend : StartsOutside isSymbolChar ('=' :: (value ++ rest)) := startsOutside_cons (by decide)
  have hword := wordOnLine?_of_run (by simp) hrun h.before_outside hend
  rw [← hline, List.length_append] at hword
  exact hword

end delimited

/-- Take a text with fewer than 2 ^ 32 characters and no line breaks but LF and CRLF, and an
    entity of it whose name has symbol characters only, on a line that is not continued. A
    cursor at the start of the name finds
    1. the name, with the range of the entity's location, unless a `?=` follows right behind
       the name;
    2. the name with the question mark, one character further, where it does; the entity is
       then an assignment. -/
theorem wordAt?_entity {text : List Char} (hshort : text.length < UInt32.size)
    (hbreaks : strayBreaks text = 0) {file : FilePath} {e : Entity}
    (he : e ∈ (scan text file).entities) (hname : ∀ c ∈ e.name.toList, isSymbolChar c = true)
    {physical : List Char} (hphysical : (physicalLines text)[e.line.toNat]? = some physical)
    (huncontinued : continuationHead? (stripComment physical) = none) :
    let start := e.location.startColumn
    let stop := e.location.endColumn
    (¬['?', '='] <+: physical.drop stop.toNat →
      wordAt? text e.line.toNat e.column.toNat = some ⟨e.name, start, stop⟩) ∧
    (['?', '='] <+: physical.drop stop.toNat →
      e.kind = .assignment ∧ (stop + 1).toNat = stop.toNat + 1 ∧
      wordAt? text e.line.toNat e.column.toNat = some ⟨e.name ++ "?", start, stop + 1⟩) := by
  intro start stop
  obtain ⟨logical, before, after, hlogical, hstands, hcolumn⟩ :=
    exists_delimited_of_mem_entities hshort he
  obtain rfl := logical_of_uncontinued hlogical hstands.line_ne_nil hphysical huncontinued
  obtain ⟨comment, lineBreak, hsplit, hline, hcomment, hbreak⟩ :=
    exists_editorLine hbreaks hphysical
  have hlength := length_le_of_mem_logicalLines (List.mem_of_getElem? hlogical)
  have hparts := congrArg List.length hstands.line_eq
  rw [List.length_append, List.length_append] at hparts
  have hstop : stop.toNat = before.length + e.name.toList.length := by
    dsimp only [stop]
    rw [Entity.toNat_endColumn, hcolumn, String.length_toList]
    rw [hcolumn, ← String.length_toList]
    omega
  have hbehind : physical.drop (before.length + e.name.toList.length) = after ++ comment := by
    have hwhole : physical = (before ++ e.name.toList) ++ (after ++ comment) := by
      rw [hsplit, hstands.line_eq]
      simp
    rw [hwhole, List.drop_left' (List.length_append)]
  have hword : ∀ span, wordOnLine? (stripComment physical ++ (comment ++ lineBreak)) before.length =
      some span → wordAt? text e.line.toNat e.column.toNat = some span.found := by
    intro span hspan
    rw [← List.append_assoc, ← hsplit] at hspan
    unfold wordAt?
    rw [hline, hcolumn, Option.bind_some, hspan]
    rfl
  -- the places as the entity has them
  have hstart : UInt32.ofNat before.length = start := by
    rw [← hcolumn]
    exact UInt32.ofNat_toNat
  have hend : UInt32.ofNat (before.length + e.name.toList.length) = stop := by
    rw [← hstop]
    exact UInt32.ofNat_toNat
  rw [hstop, hbehind]
  rcases hstands.after_outside with hafter | ⟨hkind, hmark⟩
  · have hnone := not_prefix_of_startsOutside (hafter.append hcomment)
    refine ⟨fun _ => ?_, fun hprefix => absurd hprefix hnone⟩
    have hfound := hword _ (wordOnLine?_delimited hstands hname hafter (hcomment.append hbreak))
    unfold WordSpan.found at hfound
    rw [String.ofList_toList, hstart, hend] at hfound
    exact hfound
  · have hprefix : ['?', '='] <+: after ++ comment := hmark.trans (List.prefix_append _ _)
    have hroom : stop.toNat + 1 < UInt32.size := by
      have hlong := hmark.length_le
      simp only [List.length_cons, List.length_nil] at hlong
      omega
    refine ⟨fun hnone => absurd hprefix hnone, fun _ => ⟨hkind, ?_, ?_⟩⟩
    · rw [← hstop, UInt32.toNat_add]
      exact Nat.mod_eq_of_lt hroom
    · have hfound := hword _ (wordOnLine?_conditional hstands hname hmark (comment ++ lineBreak))
      unfold WordSpan.found at hfound
      rw [String.ofList_append, String.ofList_toList, hstart, ← Nat.add_assoc,
        UInt32.ofNat_add, hend] at hfound
      exact hfound

/-! ### A call before a comment, and an operator without a blank -/

/-- Two lines, one of them beyond ASCII, with different breaks. -/
def glued : List Char :=
  "é $(X) $(call f-1,2)# é\r\nCC?=gcc\n".toList

theorem wordAt?_glued_call :
    let file := FilePath.ofString "/w/Makefile"
    let e := Entity.make "f-1" .call "" file 0 14
    let physical := "é $(X) $(call f-1,2)# é".toList
    glued.length < UInt32.size ∧ strayBreaks glued = 0 ∧ e ∈ (scan glued file).entities ∧
    (∀ c ∈ e.name.toList, isSymbolChar c = true) ∧
    (physicalLines glued)[e.line.toNat]? = some physical ∧
    continuationHead? (stripComment physical) = none ∧
    wordAt? glued e.line.toNat e.column.toNat =
      some ⟨e.name, e.location.startColumn, e.location.endColumn⟩ := by
  intro file e physical
  have hshort : glued.length < UInt32.size := by decide +kernel
  have hbreaks : strayBreaks glued = 0 := by decide +kernel
  have he : e ∈ (scan glued file).entities := by decide +kernel
  have hname : ∀ c ∈ e.name.toList, isSymbolChar c = true :=
    List.all_eq_true.1 (by decide +kernel)
  have hphysical : (physicalLines glued)[e.line.toNat]? = some physical := by decide +kernel
  have huncontinued : continuationHead? (stripComment physical) = none := by decide +kernel
  have hword := wordAt?_entity hshort hbreaks he hname hphysical huncontinued
  exact ⟨hshort, hbreaks, he, hname, hphysical, huncontinued, hword.1 (by decide +kernel)⟩

/-- On the second line the word under the cursor is no name of the index. -/
theorem wordAt?_glued_assignment :
    let file := FilePath.ofString "/w/Makefile"
    let e := Entity.make "CC" .assignment "gcc" file 1 0
    e ∈ (scan glued file).entities ∧ (∀ c ∈ e.name.toList, isSymbolChar c = true) ∧
    strayBreaks glued = 0 ∧ (physicalLines glued)[1]? = some "CC?=gcc".toList ∧
    continuationHead? (stripComment "CC?=gcc".toList) = none ∧
    wordAt? glued e.line.toNat e.column.toNat = some ⟨"CC?", 0, 3⟩ ∧
    (FileIndex.ofText file glued).lookup "CC?" = [] := by
  intro file e
  have hname : ∀ c ∈ e.name.toList, isSymbolChar c = true :=
    List.all_eq_true.1 (by decide +kernel)
  exact ⟨by decide +kernel, hname, by decide +kernel⟩

end MakeLens
