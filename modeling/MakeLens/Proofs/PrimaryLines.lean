import MakeLens.Proofs.LineForms

/-! # Rule lines and assignment lines

    A line can be read as a rule, as an assignment, or as neither. A reading puts the line
    together from its parts and does not say how they are found, so there may be more than
    one: `A?=x` assigns to `A` by `?=` and to `A?` by `=`. The primary pass finds

    * the only reading as a rule, if there is one (`targetName?_eq_some_iff`);
    * of the readings as an assignment the one with the shortest name
      (`assignment?_eq_some_iff`). The name of any other reading has one question mark more,
      and its value is the same (`ReadsAsAssignment.exists_assignment?`).

    No line has readings of both kinds, for an assignment has an `=` where a rule has none.
-/

namespace MakeLens

/-! ## Section 1: Rules -/

/-- The line reads as a rule: a name, blanks, a colon and a rest without `=`. -/
def ReadsAsRule (line name : List Char) : Prop :=
  ∃ blanks rest, line = name ++ (blanks ++ ':' :: rest) ∧ IsRun isNameChar name ∧
    (∀ c ∈ blanks, isBlank c = true) ∧ '=' ∉ rest

section rules

variable {line name : List Char}

theorem targetName?_eq_some_iff : targetName? line = some name ↔ ReadsAsRule line name := by
  constructor
  · intro h
    obtain ⟨blanks, rest, hline, hne, hname, hblanks, hrest⟩ := targetName?_eq_some h
    exact ⟨blanks, rest, hline, ⟨hne, hname⟩, hblanks, hrest⟩
  · rintro ⟨blanks, rest, rfl, hname, hblanks, hrest⟩
    have hcolon : StartsOutside isNameChar (':' :: rest) := startsOutside_cons (by decide)
    have hbehind := startsOutside_blanks (fun _ => isNameChar_of_isBlank) hblanks hcolon
    have htrim : trimStart (blanks ++ ':' :: rest) = ':' :: rest :=
      trimStart_blanks hblanks (startsOutside_cons (by decide))
    unfold targetName?
    rw [takeWhile_run hname.mem hbehind, dropWhile_run hname.mem hbehind, htrim]
    simp [hname.ne_nil, hrest]

theorem ReadsAsRule.unique {other : List Char} (h : ReadsAsRule line name)
    (hother : ReadsAsRule line other) : name = other := by
  rw [← targetName?_eq_some_iff] at h hother
  exact Option.some.inj (h.symm.trans hother)

theorem IsRun.equals_not_mem (h : IsRun isNameChar name) : '=' ∉ name := by
  intro hmem
  exact absurd (h.mem '=' hmem) (by decide)

theorem ReadsAsRule.equals_not_mem (h : ReadsAsRule line name) : '=' ∉ line := by
  obtain ⟨blanks, rest, rfl, hname, hblanks, hrest⟩ := h
  have hgap : '=' ∉ blanks := fun hmem => absurd (hblanks '=' hmem) (by decide)
  simp [hname.equals_not_mem, hgap, hrest]

end rules

/-! ## Section 2: Assignments -/

/-- The line reads as an assignment of a text to a name: the name, blanks, an operator and
    the text, which has no line feed. -/
def ReadsAsAssignment (line name text : List Char) : Prop :=
  ∃ blanks operator, line = name ++ (blanks ++ (operator ++ text)) ∧ IsRun isNameChar name ∧
    (∀ c ∈ blanks, isBlank c = true) ∧ operator ∈ operators ∧ '\n' ∉ text

/-- The line assigns a text to a name: of its readings this is the one with the shortest
    name. -/
structure AssignsTo (line name text : List Char) : Prop where
  reads : ReadsAsAssignment line name text
  least : ∀ other text', ReadsAsAssignment line other text' → name.length ≤ other.length

section assignments

variable {line name text blanks operator : List Char}

theorem afterOperator?_append (h : operator ∈ operators) (text : List Char) :
    afterOperator? (operator ++ text) = some text := by
  simp only [operators, List.mem_cons, List.not_mem_nil, or_false] at h
  rcases h with rfl | rfl | rfl | rfl | rfl
  · rfl
  · rfl
  · rfl
  · rfl
  · rfl

theorem equals_mem_operator (h : operator ∈ operators) : '=' ∈ operator :=
  (by decide : ∀ operator ∈ operators, '=' ∈ operator) operator h

theorem operator_cases (h : operator ∈ operators) :
    operator = ['?', '='] ∨ operator = ['='] ∨ ∃ more, operator = ':' :: more := by
  simp only [operators, List.mem_cons, List.not_mem_nil, or_false] at h
  rcases h with rfl | rfl | rfl | rfl | rfl
  · exact Or.inr (Or.inr ⟨_, rfl⟩)
  · exact Or.inr (Or.inr ⟨_, rfl⟩)
  · exact Or.inr (Or.inr ⟨_, rfl⟩)
  · exact Or.inl rfl
  · exact Or.inr (Or.inl rfl)

/-- No operator starts with a blank, and `?=` is the only one that a name could go on
    with. -/
theorem startsOutside_operator (h : operator ∈ operators) (text : List Char) :
    StartsOutside isBlank (operator ++ text) ∧
      (operator = ['?', '='] ∨ StartsOutside isNameChar (operator ++ text)) := by
  rcases operator_cases h with rfl | rfl | ⟨more, rfl⟩
  · exact ⟨startsOutside_cons (by decide), Or.inl rfl⟩
  · exact ⟨startsOutside_cons (by decide), Or.inr (startsOutside_cons (by decide))⟩
  · exact ⟨startsOutside_cons (by decide), Or.inr (startsOutside_cons (by decide))⟩

/-- A name ends before blanks and before an operator, unless this is a `?=` right behind
    it. -/
theorem startsOutside_parted (hblanks : ∀ c ∈ blanks, isBlank c = true)
    (hoperator : operator ∈ operators) (hglued : ¬(blanks = [] ∧ operator = ['?', '=']))
    (text : List Char) : StartsOutside isNameChar (blanks ++ (operator ++ text)) := by
  by_cases hnone : blanks = []
  · rw [hnone]
    exact (startsOutside_operator hoperator text).2.resolve_left fun heq => hglued ⟨hnone, heq⟩
  · have hrun : IsRun isBlank blanks := ⟨hnone, hblanks⟩
    exact hrun.startsOutside (fun _ => isNameChar_of_isBlank) _

/-- The first character is `=` only if this is the operator and no blanks are before it. -/
theorem eq_equals_of_head? (hblanks : ∀ c ∈ blanks, isBlank c = true)
    (hoperator : operator ∈ operators) (h : (blanks ++ (operator ++ text)).head? = some '=') :
    blanks = [] ∧ operator = ['='] := by
  by_cases hnone : blanks = []
  · subst hnone
    rcases operator_cases hoperator with rfl | rfl | ⟨more, rfl⟩
    · simp at h
    · exact ⟨rfl, rfl⟩
    · simp at h
  · obtain ⟨blank, more, rfl⟩ := List.exists_cons_of_ne_nil hnone
    have hblank := hblanks blank List.mem_cons_self
    have hfirst : blank = '=' := by simpa using h
    rw [hfirst] at hblank
    exact absurd hblank (by decide)

theorem ReadsAsAssignment.equals_mem (h : ReadsAsAssignment line name text) : '=' ∈ line := by
  obtain ⟨blanks, operator, rfl, -, -, hoperator, -⟩ := h
  simp [equals_mem_operator hoperator]

theorem readsAsAssignment_of_assignment? {value : List Char}
    (h : assignment? line = some (name, value)) :
    ∃ text, ReadsAsAssignment line name text ∧ value = trimStart text := by
  obtain ⟨blanks, operator, text, hline, hne, hname, hblanks, hoperator, hfeed, hvalue⟩ :=
    assignment?_eq_some h
  exact ⟨text, ⟨blanks, operator, hline, ⟨hne, hname⟩, hblanks, hoperator, hfeed⟩, hvalue⟩

/-- A `?=` right behind the name is the operator, although its question mark could be the
    end of the name. -/
theorem assignment?_conditional (hname : IsRun isNameChar name) (hfeed : '\n' ∉ text) :
    assignment? (name ++ '?' :: '=' :: text) = some (name, trimStart text) := by
  have hline : name ++ '?' :: '=' :: text = (name ++ ['?']) ++ '=' :: text := by simp
  have hrun : IsRun isNameChar (name ++ ['?']) := hname.concat (by decide)
  have hequals : StartsOutside isNameChar ('=' :: text) := startsOutside_cons (by decide)
  unfold assignment?
  rw [hline, takeWhile_run hrun.mem hequals, dropWhile_run hrun.mem hequals]
  simp [hname.ne_nil, hfeed]

/-- The name is taken as a whole where the next character cannot belong to it, unless it ends
    with the question mark of a `?=`. -/
theorem assignment?_parted (hname : IsRun isNameChar name)
    (hblanks : ∀ c ∈ blanks, isBlank c = true) (hoperator : operator ∈ operators)
    (hbehind : StartsOutside isNameChar (blanks ++ (operator ++ text)))
    (hmark : ¬(name.dropLast ≠ [] ∧ name.getLast? = some '?' ∧
      (blanks ++ (operator ++ text)).head? = some '=')) (hfeed : '\n' ∉ text) :
    assignment? (name ++ (blanks ++ (operator ++ text))) = some (name, trimStart text) := by
  have hvalue : afterOperator? (trimStart (blanks ++ (operator ++ text))) = some text := by
    rw [trimStart_blanks hblanks (startsOutside_operator hoperator text).1,
      afterOperator?_append hoperator]
  unfold assignment?
  rw [takeWhile_run hname.mem hbehind, dropWhile_run hname.mem hbehind]
  simp only [if_neg hmark, if_pos hname.ne_nil, hvalue, Option.map_some, if_neg hfeed]

/-- Where a line reads as an assignment, one is found. It has the text of the reading, and
    its name is that of the reading or one question mark shorter. -/
theorem ReadsAsAssignment.exists_assignment? (h : ReadsAsAssignment line name text) :
    ∃ shortest, assignment? line = some (shortest, trimStart text) ∧
      (name = shortest ∨ name = shortest ++ ['?']) := by
  obtain ⟨blanks, operator, rfl, hname, hblanks, hoperator, hfeed⟩ := h
  by_cases hglued : blanks = [] ∧ operator = ['?', '=']
  · -- the run of name characters is one question mark longer than the name
    obtain ⟨rfl, rfl⟩ := hglued
    exact ⟨name, assignment?_conditional hname hfeed, Or.inl rfl⟩
  by_cases hmark : name.dropLast ≠ [] ∧ name.getLast? = some '?' ∧
      (blanks ++ (operator ++ text)).head? = some '='
  · -- the reading takes the question mark of a `?=` for the end of the name
    obtain ⟨hne, hlast, hequals⟩ := hmark
    obtain ⟨front, rfl⟩ := List.getLast?_eq_some_iff.1 hlast
    obtain ⟨rfl, rfl⟩ := eq_equals_of_head? hblanks hoperator hequals
    have hfront : IsRun isNameChar front :=
      ⟨by simpa using hne, fun c hc => hname.mem c (List.mem_append_left _ hc)⟩
    refine ⟨front, ?_, Or.inr rfl⟩
    rw [List.append_assoc]
    exact assignment?_conditional hfront hfeed
  · have hbehind := startsOutside_parted hblanks hoperator hglued text
    exact ⟨name, assignment?_parted hname hblanks hoperator hbehind hmark hfeed, Or.inl rfl⟩

/-- What is found is the reading with the shortest name. -/
theorem assignment?_eq_some_iff {value : List Char} :
    assignment? line = some (name, value) ↔
      ∃ text, AssignsTo line name text ∧ value = trimStart text := by
  constructor
  · intro h
    obtain ⟨text, hreads, hvalue⟩ := readsAsAssignment_of_assignment? h
    refine ⟨text, ⟨hreads, ?_⟩, hvalue⟩
    intro other text' hother
    obtain ⟨shortest, hfound, hname⟩ := hother.exists_assignment?
    obtain ⟨rfl, -⟩ := Prod.mk.inj (Option.some.inj (h.symm.trans hfound))
    rcases hname with rfl | rfl
    · exact Nat.le_refl _
    · simp
  · rintro ⟨text, hassigns, rfl⟩
    obtain ⟨shortest, hfound, hname⟩ := hassigns.reads.exists_assignment?
    obtain ⟨text', hshortest, -⟩ := readsAsAssignment_of_assignment? hfound
    have hle := hassigns.least shortest text' hshortest
    rcases hname with rfl | rfl
    · exact hfound
    · -- a name with one question mark more would not be the shortest
      rw [List.length_append, List.length_singleton] at hle
      omega

end assignments

/-! ## Section 3: The primary fact of a line -/

section primary

variable {line : List Char}

theorem ofTarget_eq_target_iff {chars : List Char} {name : String} {column : UInt32} :
    Fact.ofTarget chars = .target name column ↔
      name = String.ofList chars ∧ column = 0 ∧ name ∉ specialTargets := by
  unfold Fact.ofTarget
  by_cases hspecial : String.ofList chars ∈ specialTargets
  · simp only [if_pos hspecial, reduceCtorEq, false_iff]
    rintro ⟨rfl, -, hnot⟩
    exact hnot hspecial
  · simp only [if_neg hspecial, Fact.target.injEq]
    constructor
    · rintro ⟨rfl, rfl⟩
      exact ⟨rfl, rfl, hspecial⟩
    · rintro ⟨rfl, rfl, -⟩
      exact ⟨rfl, rfl⟩

theorem ofTarget_eq_specialTarget_iff {chars : List Char} {name : String} :
    Fact.ofTarget chars = .specialTarget name ↔
      name = String.ofList chars ∧ name ∈ specialTargets := by
  unfold Fact.ofTarget
  by_cases hspecial : String.ofList chars ∈ specialTargets
  · simp only [if_pos hspecial, Fact.specialTarget.injEq]
    constructor
    · rintro rfl
      exact ⟨rfl, hspecial⟩
    · rintro ⟨rfl, -⟩
      rfl
  · simp only [if_neg hspecial, reduceCtorEq, false_iff]
    rintro ⟨rfl, hin⟩
    exact hspecial hin

theorem ofTarget_ne_assignment (chars : List Char) (name : String) (column : UInt32)
    (value : String) : Fact.ofTarget chars ≠ .assignment name column value := by
  unfold Fact.ofTarget
  by_cases hspecial : String.ofList chars ∈ specialTargets
  · simp [hspecial]
  · simp [hspecial]

/-- A line that reads as an assignment does not read as a rule. -/
theorem ReadsAsRule.not_readsAsAssignment {chars name text : List Char}
    (h : ReadsAsRule line chars) : ¬ReadsAsAssignment line name text :=
  fun hassigns => h.equals_not_mem hassigns.equals_mem

/-- The primary fact comes from the reading as a rule, or from the shortest reading as an
    assignment. -/
theorem primaryFact?_eq_some_iff {fact : Fact} :
    primaryFact? line = some fact ↔
      (∃ chars, ReadsAsRule line chars ∧ fact = .ofTarget chars) ∨
      ∃ chars text, AssignsTo line chars text ∧
        fact = .assignment (String.ofList chars) 0 (String.ofList (trimStart text)) := by
  unfold primaryFact?
  split
  · next chars hchars =>
    have hreads := targetName?_eq_some_iff.1 hchars
    constructor
    · intro h
      exact Or.inl ⟨chars, hreads, (Option.some.inj h).symm⟩
    · rintro (⟨other, hother, rfl⟩ | ⟨name, text, hassigns, -⟩)
      · rw [hreads.unique hother]
      · exact absurd hassigns.reads hreads.not_readsAsAssignment
  · next hnone =>
    have hnot : ∀ chars, ¬ReadsAsRule line chars := by
      intro chars hreads
      rw [targetName?_eq_some_iff.2 hreads] at hnone
      cases hnone
    constructor
    · intro h
      obtain ⟨⟨name, value⟩, hfound, rfl⟩ := Option.map_eq_some_iff.1 h
      obtain ⟨text, hassigns, rfl⟩ := assignment?_eq_some_iff.1 hfound
      exact Or.inr ⟨name, text, hassigns, rfl⟩
    · rintro (⟨chars, hreads, -⟩ | ⟨name, text, hassigns, rfl⟩)
      · exact absurd hreads (hnot chars)
      · rw [assignment?_eq_some_iff.2 ⟨text, hassigns, rfl⟩]
        rfl

theorem mem_classify_primary {fact : Fact} (h : fact.pass = .primary) :
    fact ∈ classify line ↔ primaryFact? line = some fact := by
  rw [mem_classify_iff_mem_facts, h]
  exact Option.mem_toList

theorem target_mem_classify_iff {name : String} {column : UInt32} :
    Fact.target name column ∈ classify line ↔
      (∃ chars, ReadsAsRule line chars ∧ name = String.ofList chars) ∧ column = 0 ∧
        name ∉ specialTargets := by
  rw [mem_classify_primary rfl, primaryFact?_eq_some_iff]
  constructor
  · rintro (⟨chars, hreads, hfact⟩ | ⟨_, _, -, hfact⟩)
    · obtain ⟨hname, hcolumn, hspecial⟩ := ofTarget_eq_target_iff.1 hfact.symm
      exact ⟨⟨chars, hreads, hname⟩, hcolumn, hspecial⟩
    · cases hfact
  · rintro ⟨⟨chars, hreads, hname⟩, hcolumn, hspecial⟩
    exact Or.inl ⟨chars, hreads, (ofTarget_eq_target_iff.2 ⟨hname, hcolumn, hspecial⟩).symm⟩

theorem specialTarget_mem_classify_iff {name : String} :
    Fact.specialTarget name ∈ classify line ↔
      (∃ chars, ReadsAsRule line chars ∧ name = String.ofList chars) ∧ name ∈ specialTargets := by
  rw [mem_classify_primary rfl, primaryFact?_eq_some_iff]
  constructor
  · rintro (⟨chars, hreads, hfact⟩ | ⟨_, _, -, hfact⟩)
    · obtain ⟨hname, hspecial⟩ := ofTarget_eq_specialTarget_iff.1 hfact.symm
      exact ⟨⟨chars, hreads, hname⟩, hspecial⟩
    · cases hfact
  · rintro ⟨⟨chars, hreads, hname⟩, hspecial⟩
    exact Or.inl ⟨chars, hreads, (ofTarget_eq_specialTarget_iff.2 ⟨hname, hspecial⟩).symm⟩

theorem assignment_mem_classify_iff {name : String} {column : UInt32} {value : String} :
    Fact.assignment name column value ∈ classify line ↔
      ∃ chars text, AssignsTo line chars text ∧ name = String.ofList chars ∧ column = 0 ∧
        value = String.ofList (trimStart text) := by
  rw [mem_classify_primary rfl, primaryFact?_eq_some_iff]
  constructor
  · rintro (⟨chars, -, hfact⟩ | ⟨chars, text, hassigns, hfact⟩)
    · exact absurd hfact.symm (ofTarget_ne_assignment chars name column value)
    · cases hfact
      exact ⟨chars, text, hassigns, rfl, rfl, rfl⟩
  · rintro ⟨chars, text, hassigns, rfl, rfl, rfl⟩
    exact Or.inr ⟨chars, text, hassigns, rfl⟩

/-- A line that reads as an assignment is found to be one. -/
theorem ReadsAsAssignment.exists_assignsTo {name text : List Char}
    (h : ReadsAsAssignment line name text) : ∃ shortest text', AssignsTo line shortest text' := by
  obtain ⟨shortest, hfound, -⟩ := h.exists_assignment?
  obtain ⟨text', hassigns, -⟩ := assignment?_eq_some_iff.1 hfound
  exact ⟨shortest, text', hassigns⟩

/-- A reading whose name does not end with a question mark is the shortest one. -/
theorem ReadsAsAssignment.assignment?_of_no_mark {name text : List Char}
    (h : ReadsAsAssignment line name text) (hmark : name.getLast? ≠ some '?') :
    assignment? line = some (name, trimStart text) := by
  obtain ⟨shortest, hfound, hname⟩ := h.exists_assignment?
  rcases hname with rfl | rfl
  · exact hfound
  · exact absurd (List.getLast?_concat) hmark

theorem facts_primary_of_assignment? {name value : List Char}
    (h : assignment? line = some (name, value)) :
    ((classify line).filter fun fact => fact.pass = .primary) =
      [.assignment (String.ofList name) 0 (String.ofList value)] := by
  obtain ⟨text, hassigns, rfl⟩ := assignment?_eq_some_iff.1 h
  have hfact := primaryFact?_eq_some_iff.2 (Or.inr ⟨name, text, hassigns, rfl⟩)
  rw [filter_classify]
  show (primaryFact? line).toList = _
  rw [hfact]
  rfl

end primary

/-- The primary fact of a line.
    1. There is a target exactly if the line reads as a rule, and the name of the rule is the
       only one that it can be read with. The target stands at column 0 under this name; it
       is a special target if the name is one of theirs.
    2. There is an assignment exactly if the line reads as one. It stands at column 0 under
       the shortest name that the line can be read with, and its value is the text of this
       reading without leading blanks.
    3. No line reads as both, and a line has at most one primary fact.
    4. A name that does not end with a question mark, an operator and a text make up the
       assignment of this text to this name, with or without blanks around the operator, as
       long as there is no line feed behind it. -/
theorem classify_primary (line : List Char) :
    ((∀ name column, Fact.target name column ∈ classify line ↔
        (∃ chars, ReadsAsRule line chars ∧ name = String.ofList chars) ∧ column = 0 ∧
          name ∉ specialTargets) ∧
      (∀ name, Fact.specialTarget name ∈ classify line ↔
        (∃ chars, ReadsAsRule line chars ∧ name = String.ofList chars) ∧ name ∈ specialTargets) ∧
      ∀ chars other, ReadsAsRule line chars → ReadsAsRule line other → chars = other) ∧
    (((∃ name column value, Fact.assignment name column value ∈ classify line) ↔
        ∃ chars text, ReadsAsAssignment line chars text) ∧
      ∀ name column value, Fact.assignment name column value ∈ classify line ↔
        ∃ chars text, AssignsTo line chars text ∧ name = String.ofList chars ∧ column = 0 ∧
          value = String.ofList (trimStart text)) ∧
    ((∀ chars name text, ReadsAsRule line chars → ¬ReadsAsAssignment line name text) ∧
      ((classify line).filter fun fact => fact.pass = .primary).length ≤ 1) ∧
    ∀ chars blanks operator gap text, IsRun isNameChar chars → chars.getLast? ≠ some '?' →
      (∀ c ∈ blanks, isBlank c = true) → operator ∈ operators →
      (∀ c ∈ gap, isBlank c = true) → '\n' ∉ gap ++ text →
      line = chars ++ (blanks ++ (operator ++ (gap ++ text))) →
      ((classify line).filter fun fact => fact.pass = .primary) =
        [.assignment (String.ofList chars) 0 (String.ofList (trimStart text))] := by
  refine ⟨⟨fun _ _ => target_mem_classify_iff, fun _ => specialTarget_mem_classify_iff,
    fun _ _ => ReadsAsRule.unique⟩, ⟨?_, fun _ _ _ => assignment_mem_classify_iff⟩,
    ⟨fun _ _ _ => ReadsAsRule.not_readsAsAssignment, ?_⟩, ?_⟩
  · constructor
    · rintro ⟨name, column, value, hmem⟩
      obtain ⟨chars, text, hassigns, -⟩ := assignment_mem_classify_iff.1 hmem
      exact ⟨chars, text, hassigns.reads⟩
    · rintro ⟨chars, text, hreads⟩
      obtain ⟨shortest, text', hassigns⟩ := hreads.exists_assignsTo
      exact ⟨_, _, _, assignment_mem_classify_iff.2 ⟨shortest, text', hassigns, rfl, rfl, rfl⟩⟩
  · rw [filter_classify]
    exact length_facts_le_one (by decide) line
  · intro chars blanks operator gap text hname hmark hblanks hoperator hgap hfeed hline
    have hreads : ReadsAsAssignment line chars (gap ++ text) :=
      ⟨blanks, operator, hline, hname, hblanks, hoperator, hfeed⟩
    have hvalue : trimStart (gap ++ text) = trimStart text :=
      List.dropWhile_append_of_pos hgap
    rw [facts_primary_of_assignment? (hreads.assignment?_of_no_mark hmark), hvalue]

-- a question mark can be the whole name, the end of the name, or part of the operator
example : classify "?=1".toList = [.assignment "?" 0 "1"] ∧
    classify "A? =1".toList = [.assignment "A?" 0 "1"] ∧
    classify "A??= :=1".toList = [.assignment "A?" 0 ":=1"] := by
  decide +kernel

end MakeLens
