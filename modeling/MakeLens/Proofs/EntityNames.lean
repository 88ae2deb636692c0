import MakeLens.Proofs.CallSites
import MakeLens.Proofs.CursorWord
import MakeLens.Proofs.DirectiveLines
import MakeLens.Proofs.NamePositions
import MakeLens.Proofs.PrimaryLines

/-! # The names of entities

    A name should hold no blank and none of `:`, `#` and `=`: these end a symbol name on a line
    of a build file, and they end the word under a cursor. Every pattern cuts the names of its
    kind by a class of characters of its own (`EntityKind.nameClass`), and all classes but one
    lie within that of names.

    The exception is the class of calls, which leaves the three signs in. A call with such a
    name is one of a function that cannot be defined, and no cursor finds it.
-/

namespace MakeLens

/-! ## Section 1: The classes of characters -/

/-- The characters that a name of a kind can have. -/
def EntityKind.nameClass : EntityKind → Char → Bool
  | .target => isNameChar
  | .assignment => isNameChar
  | .reference => isReferenceChar
  | .function => isNameChar
  | .call => isCallChar

/-- A name as it should be: some characters, and none of them a blank, `:`, `#` or `=`. -/
structure WellNamed (name : String) : Prop where
  ne_empty : name ≠ ""
  chars : ∀ c ∈ name.toList, isBlank c = false ∧ c ≠ ':' ∧ c ≠ '#' ∧ c ≠ '='

theorem isNameChar_iff {c : Char} :
    isNameChar c = true ↔ isBlank c = false ∧ c ≠ ':' ∧ c ≠ '#' ∧ c ≠ '=' := by
  simp only [isNameChar, Bool.not_eq_true', Bool.or_eq_false_iff, beq_eq_false_iff_ne]
  constructor
  · rintro ⟨⟨⟨hcolon, hsharp⟩, hequals⟩, hblank⟩
    exact ⟨hblank, hcolon, hsharp, hequals⟩
  · rintro ⟨hblank, hcolon, hsharp, hequals⟩
    exact ⟨⟨⟨hcolon, hsharp⟩, hequals⟩, hblank⟩

theorem isNameChar_of_isSymbolChar {c : Char} (h : isSymbolChar c = true) :
    isNameChar c = true := by
  by_cases hname : isNameChar c = true
  · exact hname
  · rw [isSymbolChar_of_not_nameChar (by simpa using hname)] at h
    cases h

/-- The classes of all kinds but calls lie within that of names. -/
theorem isNameChar_of_nameClass {kind : EntityKind} (hkind : kind ≠ .call) {c : Char}
    (h : kind.nameClass c = true) : isNameChar c = true := by
  cases kind with
  | call => exact absurd rfl hkind
  | reference =>
    have hboth : (isNameChar c && _) = true := h
    exact (Bool.and_eq_true_iff.1 hboth).1
  | _ => exact h

theorem isBlank_of_nameClass {kind : EntityKind} {c : Char} (h : kind.nameClass c = true) :
    isBlank c = false := by
  by_cases hkind : kind = .call
  · subst hkind
    exact isBlank_of_isCallChar h
  · exact isBlank_of_isNameChar (isNameChar_of_nameClass hkind h)

theorem IsRun.ofList {p : Char → Bool} {chars : List Char} (h : IsRun p chars) :
    IsRun p (String.ofList chars).toList := by
  rw [String.toList_ofList]
  exact h

theorem wellNamed_of_isRun {p : Char → Bool} {name : String} (h : IsRun p name.toList)
    (hp : ∀ c, p c = true → isNameChar c = true) : WellNamed name where
  ne_empty := by
    rintro rfl
    exact h.ne_nil rfl
  chars := fun c hc => isNameChar_iff.1 (hp c (h.mem c hc))

/-! ## Section 2: Names on a line -/

/-- The name of an entity is cut by the class of its kind, and a target is none of the special
    ones. -/
theorem name_of_mem_classify {line : List Char} {fact : Fact} {file : FilePath} {number : UInt32}
    {e : Entity} (h : fact ∈ classify line) (he : Entity.ofFact? file number fact = some e) :
    IsRun e.kind.nameClass e.name.toList ∧ (e.kind = .target → e.name ∉ specialTargets) := by
  cases fact with
  | target name column =>
    obtain ⟨⟨chars, ⟨_, _, -, hname, -⟩, rfl⟩, -, hspecial⟩ := target_mem_classify_iff.1 h
    cases he
    exact ⟨hname.ofList, fun _ => hspecial⟩
  | assignment name column value =>
    obtain ⟨chars, text, hassigns, rfl, -, -⟩ := assignment_mem_classify_iff.1 h
    obtain ⟨_, _, -, hname, -⟩ := hassigns.reads
    cases he
    exact ⟨hname.ofList, fun hkind => by cases hkind⟩
  | reference name column =>
    obtain ⟨word, gap, chars, ⟨_, _, _, _, -, -, -, -, hname, -⟩, rfl, -⟩ :=
      reference_mem_classify_iff.1 h
    cases he
    exact ⟨hname.ofList, fun hkind => by cases hkind⟩
  | function name column =>
    rw [mem_classify_iff_mem_facts] at h
    obtain ⟨⟨chars, place⟩, hfound, hfact⟩ := Option.map_eq_some_iff.1 (Option.mem_toList.1 h)
    obtain ⟨_, _, -, -, -, hne, hchars, -⟩ := functionName?_eq_some hfound
    cases hfact
    cases he
    exact ⟨IsRun.ofList ⟨hne, hchars⟩, fun hkind => by cases hkind⟩
  | call name column =>
    rw [mem_classify_iff_mem_facts] at h
    obtain ⟨⟨chars, place⟩, hfound, hfact⟩ := List.mem_map.1 h
    obtain ⟨_, _, _, -, hcall, -⟩ := mem_callsFrom hfound
    obtain ⟨_, _, -, -, hname, -⟩ := callName?_eq_some_iff.1 hcall
    cases hfact
    cases he
    exact ⟨hname.ofList, fun hkind => by cases hkind⟩
  | specialTarget name => cases he
  | inclusion paths => cases he

/-! ## Section 3: Names of a text -/

section names

variable {text : List Char} {file : FilePath} {e : Entity}

theorem name_of_mem_entities (h : e ∈ (scan text file).entities) :
    IsRun e.kind.nameClass e.name.toList ∧ (e.kind = .target → e.name ∉ specialTargets) := by
  obtain ⟨number, logical, fact, -, hfact, he⟩ := exists_line_of_mem_entities h
  exact name_of_mem_classify hfact he

theorem wellNamed_of_kind (h : e ∈ (scan text file).entities) (hkind : e.kind ≠ .call) :
    WellNamed e.name :=
  wellNamed_of_isRun (name_of_mem_entities h).1 fun _ => isNameChar_of_nameClass hkind

theorem wellNamed_of_isDefinition (h : e ∈ (scan text file).entities)
    (hdefinition : e.isDefinition = true) : WellNamed e.name := by
  refine wellNamed_of_kind h fun hkind => ?_
  unfold Entity.isDefinition at hdefinition
  rw [hkind] at hdefinition
  cases hdefinition

/-- The word under a cursor is a name as it should be. -/
theorem wellNamed_of_wordAt? {number column : Nat} {touched : FoundWord}
    (h : wordAt? text number column = some touched) : WellNamed touched.word := by
  obtain ⟨chars, -, hfound⟩ := Option.bind_eq_some_iff.1 h
  obtain ⟨span, hword, rfl⟩ := Option.map_eq_some_iff.1 hfound
  obtain ⟨before, after, hcovers⟩ := wordOnLine?_eq_some hword
  have hrun : IsRun isSymbolChar span.word.toList := ⟨hcovers.word_ne_nil, hcovers.word_chars⟩
  exact wellNamed_of_isRun hrun fun _ => isNameChar_of_isSymbolChar

end names

/-- The name of an entity.
    1. It is not empty and has no blank.
    2. It has no `:`, `#` and `=` either, unless the entity is a call. A target has none of the
       special names.
    3. The name of a call has no comma, no round bracket and no `$`.
    4. Where a call has a name with one of the three signs, no definition of any text has this
       name, and no cursor in any text finds it. -/
theorem entities_scan_names {text : List Char} {file : FilePath} {e : Entity}
    (he : e ∈ (scan text file).entities) :
    (e.name ≠ "" ∧ ∀ c ∈ e.name.toList, isBlank c = false) ∧
    ((e.kind ≠ .call → WellNamed e.name) ∧ (e.kind = .target → e.name ∉ specialTargets)) ∧
    (e.kind = .call → ∀ c ∈ e.name.toList, c ≠ ',' ∧ c ≠ '(' ∧ c ≠ ')' ∧ c ≠ '$') ∧
    (¬WellNamed e.name → e.kind = .call ∧
      (∀ other path, ∀ d ∈ (scan other path).entities, d.isDefinition = true →
        d.name ≠ e.name) ∧
      ∀ other number column touched, wordAt? other number column = some touched →
        touched.word ≠ e.name) := by
  obtain ⟨hrun, hspecial⟩ := name_of_mem_entities he
  refine ⟨⟨?_, fun c hc => isBlank_of_nameClass (hrun.mem c hc)⟩,
    ⟨wellNamed_of_kind he, hspecial⟩, ?_, ?_⟩
  · intro hempty
    rw [hempty] at hrun
    exact hrun.ne_nil rfl
  · intro hkind c hc
    have hcall : isCallChar c = true := by
      have hclass := hrun.mem c hc
      rw [hkind] at hclass
      exact hclass
    simp only [isCallChar, Bool.not_eq_true', Bool.or_eq_false_iff, beq_eq_false_iff_ne] at hcall
    obtain ⟨⟨⟨⟨hcomma, hopen⟩, hclose⟩, hdollar⟩, -⟩ := hcall
    exact ⟨hcomma, hopen, hclose, hdollar⟩
  · -- definitions and words under a cursor have names as they should be
    intro hill
    refine ⟨?_, ?_, ?_⟩
    · by_cases hkind : e.kind = .call
      · exact hkind
      · exact absurd (wellNamed_of_kind he hkind) hill
    · intro other path d hd hdefinition hsame
      exact hill (hsame ▸ wellNamed_of_isDefinition hd hdefinition)
    · intro other number column touched htouched hsame
      exact hill (hsame ▸ wellNamed_of_wordAt? htouched)

/-! ### A call of a name with a colon -/

/-- Entities of all kinds, and a special target. -/
def namedKinds : List Char :=
  ".PHONY: é\né: a\nCC?=gcc\ncc $(CFLAGS) -c\ndefine log\n\t$(call log,1)$(call ns:log,2)".toList

/-- The last call keeps the colon in its name. -/
theorem namedKinds_illNamed :
    let file := FilePath.ofString "/w/Makefile"
    (scan namedKinds file).entities.map (fun e => (e.kind, e.name)) =
      [(.target, "é"), (.assignment, "CC"), (.reference, "CFLAGS"), (.function, "log"),
        (.call, "log"), (.call, "ns:log")] ∧
    ':' ∈ "ns:log".toList ∧ ¬WellNamed "ns:log" := by
  intro file
  have hcolon : ':' ∈ "ns:log".toList := by decide
  exact ⟨by decide +kernel, hcolon, fun hname => (hname.chars ':' hcolon).2.1 rfl⟩

/-- So it names nothing that could be defined or looked up. -/
theorem namedKinds_names :
    let file := FilePath.ofString "/w/Makefile"
    let e := Entity.make "ns:log" .call "" file 5 21
    e ∈ (scan namedKinds file).entities ∧ ¬WellNamed e.name ∧
    (∀ other path, ∀ d ∈ (scan other path).entities, d.isDefinition = true →
      d.name ≠ "ns:log") ∧
    ∀ other number column touched, wordAt? other number column = some touched →
      touched.word ≠ "ns:log" := by
  intro file e
  have he : e ∈ (scan namedKinds file).entities := by decide +kernel
  have hill : ¬WellNamed e.name := fun hname => (hname.chars ':' (by decide)).2.1 rfl
  obtain ⟨-, -, -, hlost⟩ := entities_scan_names he
  exact ⟨he, hill, (hlost hill).2⟩

end MakeLens
