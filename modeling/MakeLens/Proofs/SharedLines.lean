import MakeLens.Proofs.DirectiveLines
import MakeLens.Proofs.NamePositions
import MakeLens.Proofs.PrimaryLines

/-! # Facts that share a line

    Five passes go over a line, and none of them looks at what another one has found. Still
    not everything can stand on one line.

    * A rule, an assignment and a reference are told apart by the first sign behind the first
      word of the line: a colon, an operator or a `$` (`signBehindWord?`).
    * A line with an include directive has neither a colon nor an `=`, and so it is no rule and
      no assignment.
    * An include directive and the opening of a function start with different letters.

    All other passes can find something on the same line (`exists_shared_line`).
-/

namespace MakeLens

/-! ## Section 1: The order of the passes -/

/-- The passes in their order. -/
def LinePass.order : List LinePass :=
  [.primary, .reference, .inclusion, .function, .call]

/-- The number of passes before a pass. -/
def LinePass.rank : LinePass → Nat
  | .primary => 0
  | .reference => 1
  | .inclusion => 2
  | .function => 3
  | .call => 4

theorem classify_eq_flatMap (line : List Char) :
    classify line = LinePass.order.flatMap (LinePass.facts line) := by
  simp [classify, LinePass.order, LinePass.facts]

/-- Facts come in the order of the passes, and only calls come more than once. -/
theorem pairwise_classify (line : List Char) :
    (classify line).Pairwise fun a b =>
      a.pass.rank < b.pass.rank ∨ a.pass = .call ∧ b.pass = .call := by
  rw [classify_eq_flatMap, List.pairwise_flatMap]
  constructor
  · intro pass _
    by_cases hcall : pass = .call
    · refine List.pairwise_of_forall_mem_list fun a ha b hb => Or.inr ?_
      rw [pass_of_mem_facts ha, pass_of_mem_facts hb]
      exact ⟨hcall, hcall⟩
    · have hone := length_facts_le_one hcall line
      match hfacts : pass.facts line with
      | [] => exact List.Pairwise.nil
      | [a] => exact List.pairwise_singleton _ a
      | a :: b :: rest =>
        rw [hfacts] at hone
        simp at hone
  · have hranks : LinePass.order.Pairwise fun p q => p.rank < q.rank := by decide
    refine hranks.imp fun hlt a ha b hb => Or.inl ?_
    rw [pass_of_mem_facts ha, pass_of_mem_facts hb]
    exact hlt

/-! ## Section 2: Passes that exclude each other -/

/-- The pass finds something on a line. -/
def LinePass.Finds (pass : LinePass) (line : List Char) : Prop :=
  ∃ fact ∈ classify line, fact.pass = pass

/-- The passes that do not find something on the same line. -/
def exclusivePasses : List (LinePass × LinePass) :=
  [(.primary, .reference), (.primary, .inclusion), (.inclusion, .function)]

def LinePass.Excludes (pass other : LinePass) : Prop :=
  (pass, other) ∈ exclusivePasses ∨ (other, pass) ∈ exclusivePasses

instance (pass other : LinePass) : Decidable (pass.Excludes other) :=
  inferInstanceAs (Decidable (_ ∨ _))

/-- The first sign behind the first word of a line, blanks apart. -/
def signBehindWord? (line : List Char) : Option Char :=
  (trimStart (line.dropWhile isNameChar)).head?

section exclusive

variable {line name text word gap : List Char} {paths : List (List Char)}

theorem ReadsAsRule.sign (h : ReadsAsRule line name) : signBehindWord? line = some ':' := by
  obtain ⟨blanks, rest, rfl, hname, hblanks, -⟩ := h
  have hcolon : StartsOutside isNameChar (':' :: rest) := startsOutside_cons (by decide)
  have hbehind := startsOutside_blanks (fun _ => isNameChar_of_isBlank) hblanks hcolon
  unfold signBehindWord?
  rw [dropWhile_run hname.mem hbehind, trimStart_blanks hblanks (startsOutside_cons (by decide))]
  rfl

/-- The sign is that of the operator, or the `=` of a `?=` whose question mark counts as the
    end of the word. -/
theorem ReadsAsAssignment.sign (h : ReadsAsAssignment line name text) :
    ∃ sign ∈ [':', '=', '?'], signBehindWord? line = some sign := by
  obtain ⟨blanks, operator, rfl, hname, hblanks, hoperator, -⟩ := h
  unfold signBehindWord?
  by_cases hglued : blanks = [] ∧ operator = ['?', '=']
  · obtain ⟨rfl, rfl⟩ := hglued
    have hline : name ++ ([] ++ (['?', '='] ++ text)) = (name ++ ['?']) ++ '=' :: text := by simp
    have hrun : IsRun isNameChar (name ++ ['?']) := hname.concat (by decide)
    rw [hline, dropWhile_run hrun.mem (startsOutside_cons (by decide))]
    exact ⟨'=', by decide, rfl⟩
  · have hbehind := startsOutside_parted hblanks hoperator hglued text
    have hblank := (startsOutside_operator hoperator text).1
    rw [dropWhile_run hname.mem hbehind, trimStart_blanks hblanks hblank]
    rcases operator_cases hoperator with rfl | rfl | ⟨more, rfl⟩
    · exact ⟨'?', by decide, rfl⟩
    · exact ⟨'=', by decide, rfl⟩
    · exact ⟨':', by decide, rfl⟩

theorem ReadsAsReference.sign (h : ReadsAsReference line word gap name) :
    signBehindWord? line = some '$' := by
  obtain ⟨opening, closing, blanks, rest, rfl, hword, hgap, -⟩ := h
  have hbehind : StartsOutside isNameChar
      (gap ++ '$' :: opening :: (name ++ (closing ++ (blanks ++ rest)))) :=
    hgap.startsOutside (fun _ => isNameChar_of_isBlank) _
  unfold signBehindWord?
  rw [dropWhile_run hword.mem hbehind,
    trimStart_blanks hgap.mem (startsOutside_cons (by decide))]
  rfl

theorem ReadsAsRule.colon_mem (h : ReadsAsRule line name) : ':' ∈ line := by
  obtain ⟨blanks, rest, rfl, -⟩ := h
  simp

/-- An include directive is made of name characters and blanks. -/
theorem ReadsAsInclusion.mem (h : ReadsAsInclusion line paths) :
    ∀ c ∈ line, (isNameChar c || isBlank c) = true := by
  obtain ⟨keyword, hkeyword, text, rfl, -, hspaced⟩ := h
  have hword : keyword.all isNameChar = true :=
    (by decide : ∀ keyword ∈ includeKeywords, keyword.all isNameChar = true) keyword hkeyword
  intro c hc
  rcases List.mem_append.1 hc with hc | hc
  · rw [List.all_eq_true.1 hword c hc]
    rfl
  · exact hspaced.mem c hc

/-- The first letter of an include directive is not that of `define`. -/
theorem ReadsAsInclusion.head? (h : ReadsAsInclusion line paths) : line.head? ≠ some 'd' := by
  obtain ⟨keyword, hkeyword, text, rfl, -⟩ := h
  simp only [includeKeywords, List.mem_cons, List.not_mem_nil, or_false] at hkeyword
  rcases hkeyword with rfl | rfl | rfl
  · simp
  · simp
  · simp

/-! ### What a pass has read -/

theorem reads_of_finds_primary (h : LinePass.primary.Finds line) :
    (∃ name, ReadsAsRule line name) ∨ ∃ name text, ReadsAsAssignment line name text := by
  obtain ⟨fact, hmem, hpass⟩ := h
  rw [mem_classify_primary hpass, primaryFact?_eq_some_iff] at hmem
  rcases hmem with ⟨name, hreads, -⟩ | ⟨name, text, hassigns, -⟩
  · exact Or.inl ⟨name, hreads⟩
  · exact Or.inr ⟨name, text, hassigns.reads⟩

theorem reads_of_finds_reference (h : LinePass.reference.Finds line) :
    ∃ word gap name, ReadsAsReference line word gap name := by
  obtain ⟨fact, hmem, hpass⟩ := h
  cases fact with
  | reference name column =>
    obtain ⟨word, gap, chars, hreads, -⟩ := reference_mem_classify_iff.1 hmem
    exact ⟨word, gap, chars, hreads⟩
  | _ => cases hpass

theorem reads_of_finds_inclusion (h : LinePass.inclusion.Finds line) :
    ∃ paths, ReadsAsInclusion line paths := by
  obtain ⟨fact, hmem, hpass⟩ := h
  cases fact with
  | inclusion paths =>
    obtain ⟨tokens, hreads, -⟩ := inclusion_mem_classify_iff.1 hmem
    exact ⟨tokens, hreads⟩
  | _ => cases hpass

theorem head?_of_finds_function (h : LinePass.function.Finds line) : line.head? = some 'd' := by
  obtain ⟨fact, hmem, hpass⟩ := h
  rw [mem_classify_iff_mem_facts, hpass] at hmem
  obtain ⟨⟨name, column⟩, hfound, -⟩ := Option.map_eq_some_iff.1 (Option.mem_toList.1 hmem)
  obtain ⟨gap, rest, rfl, -⟩ := functionName?_eq_some hfound
  rfl

/-! ### The three exclusions -/

theorem not_finds_reference (h : LinePass.primary.Finds line) :
    ¬LinePass.reference.Finds line := by
  intro hreference
  obtain ⟨word, gap, name, hreads⟩ := reads_of_finds_reference hreference
  -- a rule has one of the signs of an assignment
  have hprimary : ∃ sign ∈ [':', '=', '?'], signBehindWord? line = some sign := by
    rcases reads_of_finds_primary h with ⟨name, hrule⟩ | ⟨name, text, hassigns⟩
    · exact ⟨':', by decide, hrule.sign⟩
    · exact hassigns.sign
  obtain ⟨sign, hmem, hsign⟩ := hprimary
  rw [hreads.sign] at hsign
  cases hsign
  exact absurd hmem (by decide)

theorem not_finds_inclusion (h : LinePass.primary.Finds line) :
    ¬LinePass.inclusion.Finds line := by
  intro hinclusion
  obtain ⟨paths, hreads⟩ := reads_of_finds_inclusion hinclusion
  rcases reads_of_finds_primary h with ⟨name, hrule⟩ | ⟨name, text, hassigns⟩
  · exact absurd (hreads.mem ':' hrule.colon_mem) (by decide)
  · exact absurd (hreads.mem '=' hassigns.equals_mem) (by decide)

theorem not_finds_function (h : LinePass.inclusion.Finds line) :
    ¬LinePass.function.Finds line := by
  intro hfunction
  obtain ⟨paths, hreads⟩ := reads_of_finds_inclusion h
  exact hreads.head? (head?_of_finds_function hfunction)

theorem LinePass.Excludes.not_finds {pass other : LinePass} (h : pass.Excludes other)
    (hpass : pass.Finds line) : ¬other.Finds line := by
  intro hother
  simp only [LinePass.Excludes, exclusivePasses, List.mem_cons, Prod.mk.injEq,
    List.not_mem_nil, or_false] at h
  rcases h with (⟨rfl, rfl⟩ | ⟨rfl, rfl⟩ | ⟨rfl, rfl⟩) | ⟨rfl, rfl⟩ | ⟨rfl, rfl⟩ | ⟨rfl, rfl⟩
  · exact not_finds_reference hpass hother
  · exact not_finds_inclusion hpass hother
  · exact not_finds_function hpass hother
  · exact not_finds_reference hother hpass
  · exact not_finds_inclusion hother hpass
  · exact not_finds_function hother hpass

end exclusive

/-! ### Lines that are shared -/

/-- Lines on which two or three passes find something. The question mark of the first one is
    the name of a function as well as a part of the operator `?=`. -/
def sharedLines : List (List Char) :=
  ["define ?=".toList, "a:$(call f".toList, "include $(call f".toList, "define $(call ?=".toList]

theorem passes_sharedLines :
    sharedLines.map (fun line => (classify line).map Fact.pass) =
      [[.primary, .function], [.primary, .call], [.reference, .inclusion, .call],
        [.reference, .function, .call]] := by
  decide +kernel

/-- Passes that do not exclude each other find something on one of these lines. -/
theorem exists_shared_line {pass other : LinePass} (h : ¬pass.Excludes other) :
    ∃ line, pass.Finds line ∧ other.Finds line := by
  have hpair : ∃ passes ∈ [[.primary, .function], [.primary, .call],
      [.reference, .inclusion, .call], [.reference, .function, .call]],
      pass ∈ passes ∧ other ∈ passes := by
    revert h
    cases pass <;> cases other <;> decide
  rw [← passes_sharedLines] at hpair
  obtain ⟨passes, hmem, hpass, hother⟩ := hpair
  obtain ⟨line, -, rfl⟩ := List.mem_map.1 hmem
  exact ⟨line, List.mem_map.1 hpass, List.mem_map.1 hother⟩

/-! ## Section 3: What a line gives to the scan -/

section scanned

variable {text : List Char} {file : FilePath}

theorem pass_of_ofFact? {number : UInt32} {fact : Fact} {e : Entity}
    (h : Entity.ofFact? file number fact = some e) (hkind : e.kind = .reference) :
    fact.pass = .reference := by
  cases fact with
  | reference => rfl
  | specialTarget => cases h
  | inclusion => cases h
  | _ =>
    cases h
    cases hkind

theorem pass_of_mem_includedPaths {fact : Fact} {path : String} (h : path ∈ fact.includedPaths) :
    fact.pass = .inclusion := by
  cases fact with
  | inclusion => rfl
  | _ => cases h

/-- A reference comes from a line that is no rule and no assignment. -/
theorem exists_line_of_reference {e : Entity} (h : e ∈ (scan text file).entities)
    (hkind : e.kind = .reference) :
    ∃ number logical, (logicalLines text)[number]? = some logical ∧
      e.line = UInt32.ofNat number ∧ ¬LinePass.primary.Finds logical := by
  obtain ⟨number, logical, fact, hlogical, hfact, he⟩ := exists_line_of_mem_entities h
  refine ⟨number, logical, hlogical, ?_, fun hprimary => ?_⟩
  · obtain ⟨name, kind, value, column, rfl⟩ := Entity.ofFact?_eq_make he
    rfl
  · exact not_finds_reference hprimary ⟨fact, hfact, pass_of_ofFact? he hkind⟩

/-- An included path comes from a line that is no rule and no assignment. -/
theorem exists_line_of_mem_includes {directive : UInt32 × String}
    (h : directive ∈ (scan text file).includes) :
    ∃ number logical, (logicalLines text)[number]? = some logical ∧
      directive.1 = UInt32.ofNat number ∧ ¬LinePass.primary.Finds logical := by
  obtain ⟨⟨line, fact⟩, hfact, hpath⟩ := List.mem_flatMap.1 h
  obtain ⟨number, logical, hlogical, rfl, hclass⟩ := exists_line_of_mem_numberedFacts hfact
  obtain ⟨path, hmem, rfl⟩ := List.mem_map.1 hpath
  refine ⟨number, logical, hlogical, rfl, fun hprimary => ?_⟩
  exact not_finds_inclusion hprimary ⟨fact, hclass, pass_of_mem_includedPaths hmem⟩

/-- Where 32 bits can number the lines, a number belongs to one line only. -/
theorem logical_eq_of_number_eq (hlines : FewLines text) {number other : Nat}
    {logical logical' : List Char} (h : (logicalLines text)[number]? = some logical)
    (hother : (logicalLines text)[other]? = some logical')
    (heq : UInt32.ofNat number = UInt32.ofNat other) : logical = logical' := by
  have hfew : (logicalLines text).length < UInt32.size := by
    rw [length_logicalLines]
    exact hlines
  have hnumber := (List.getElem?_eq_some_iff.1 h).1
  have hnumber' := (List.getElem?_eq_some_iff.1 hother).1
  have hsame := congrArg UInt32.toNat heq
  rw [UInt32.toNat_ofNat_of_lt' (by omega), UInt32.toNat_ofNat_of_lt' (by omega)] at hsame
  rw [hsame, hother] at h
  exact (Option.some.inj h).symm

end scanned

/-- Which facts can share a line.
    1. The facts of a line are at most one primary fact, then at most one reference, then at
       most one include directive, then at most one function, then the calls.
    2. A line with a primary fact has no reference and no include directive, and a line with an
       include directive has no function. For any other two passes there is a line on which
       both find something.
    3. So every reference and every included path of a scan comes from a line that is no rule
       and no assignment. Where 32 bits can number the lines, this means that there is none
       with the number of a rule or an assignment. -/
theorem classify_sharing :
    (∀ line, (classify line).Pairwise fun a b =>
      a.pass.rank < b.pass.rank ∨ a.pass = .call ∧ b.pass = .call) ∧
    ((∀ line, LinePass.primary.Finds line →
        ¬LinePass.reference.Finds line ∧ ¬LinePass.inclusion.Finds line) ∧
      (∀ line, LinePass.inclusion.Finds line → ¬LinePass.function.Finds line) ∧
      ∀ pass other : LinePass, (∃ line, pass.Finds line ∧ other.Finds line) ↔
        ¬pass.Excludes other) ∧
    ∀ text file,
      (∀ e ∈ (scan text file).entities, e.kind = .reference →
        ∃ number logical, (logicalLines text)[number]? = some logical ∧
          e.line = UInt32.ofNat number ∧ ¬LinePass.primary.Finds logical) ∧
      (∀ directive ∈ (scan text file).includes,
        ∃ number logical, (logicalLines text)[number]? = some logical ∧
          directive.1 = UInt32.ofNat number ∧ ¬LinePass.primary.Finds logical) ∧
      (FewLines text → ∀ number logical, (logicalLines text)[number]? = some logical →
        LinePass.primary.Finds logical →
        (∀ e ∈ (scan text file).entities, e.line = UInt32.ofNat number → e.kind ≠ .reference) ∧
        ∀ directive ∈ (scan text file).includes, directive.1 ≠ UInt32.ofNat number) := by
  refine ⟨pairwise_classify, ⟨?_, fun _ => not_finds_function, ?_⟩, ?_⟩
  · intro line hprimary
    exact ⟨not_finds_reference hprimary, not_finds_inclusion hprimary⟩
  · intro pass other
    refine ⟨?_, exists_shared_line⟩
    rintro ⟨line, hpass, hother⟩ hexcludes
    exact hexcludes.not_finds hpass hother
  · intro text file
    refine ⟨fun _ => exists_line_of_reference, fun _ => exists_line_of_mem_includes, ?_⟩
    intro hlines number logical hlogical hprimary
    constructor
    · intro e he hnumber hkind
      obtain ⟨other, logical', hother, hline, hnone⟩ := exists_line_of_reference he hkind
      rw [logical_eq_of_number_eq hlines hlogical hother (hnumber.symm.trans hline)] at hprimary
      exact hnone hprimary
    · intro directive hdirective hnumber
      obtain ⟨other, logical', hother, hline, hnone⟩ := exists_line_of_mem_includes hdirective
      rw [logical_eq_of_number_eq hlines hlogical hother (hnumber.symm.trans hline)] at hprimary
      exact hnone hprimary

end MakeLens
