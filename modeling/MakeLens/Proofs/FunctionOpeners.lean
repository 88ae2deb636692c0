import MakeLens.Proofs.PrimaryLines

/-! # Lines that open a function

    A `define` line gives the function a name as an assignment gives one to a variable, with
    the same operators. The two forms divide a name from a `?=` right behind it in different
    ways. An assignment takes the shortest name that leaves an operator, so the question mark
    goes to the operator. An opener takes the longest run of name characters, so the question
    mark stays with the name and the operator is `=`: the function is opened under a name that
    the line does not mean (`classify_glued_opener`).

    Everywhere else, that is with a blank before the operator, with another operator or with
    none, both agree on the name (`classify_opener`).
-/

namespace MakeLens

section openers

variable {line gap name rest blanks operator trailing : List Char}

/-- The line that opens a function, from its parts. -/
def openerLine (gap name blanks operator trailing : List Char) : List Char :=
  ['d', 'e', 'f', 'i', 'n', 'e'] ++ (gap ++ (name ++ (blanks ++ (operator ++ trailing))))

/-- The longest run of name characters is the name, whatever is behind it. -/
theorem functionName?_of_run (hgap : IsRun isBlank gap) (hname : IsRun isNameChar name)
    (hrest : StartsOutside isNameChar rest)
    (htail : ∀ c ∈ (afterOperator? (trimStart rest)).getD (trimStart rest), isBlank c = true) :
    functionName? (['d', 'e', 'f', 'i', 'n', 'e'] ++ (gap ++ (name ++ rest))) =
      some (name, 6 + gap.length) := by
  have hbody : StartsOutside isBlank (name ++ rest) :=
    hname.startsOutside (fun _ => isBlank_of_isNameChar) rest
  have hafter : afterKeyword? ['d', 'e', 'f', 'i', 'n', 'e']
      (['d', 'e', 'f', 'i', 'n', 'e'] ++ (gap ++ (name ++ rest))) = some (gap ++ (name ++ rest)) :=
    afterKeyword?_append _ _
  unfold functionName?
  rw [hafter]
  show (if _ then _ else _) = _
  rw [takeWhile_run hgap.mem hbody, dropWhile_run hgap.mem hbody, takeWhile_run hname.mem hrest,
    dropWhile_run hname.mem hrest]
  exact if_pos ⟨hgap.ne_nil, hname.ne_nil, List.all_eq_true.2 htail⟩

/-- Behind a name, its blanks and at most an operator only blanks are left. -/
theorem blank_of_tail (hblanks : ∀ c ∈ blanks, isBlank c = true)
    (hoperator : operator = [] ∨ operator ∈ operators)
    (htrailing : ∀ c ∈ trailing, isBlank c = true) :
    let rest := trimStart (blanks ++ (operator ++ trailing))
    ∀ c ∈ (afterOperator? rest).getD rest, isBlank c = true := by
  intro rest
  rcases hoperator with rfl | hoperator
  · -- without an operator the blanks before it and behind it are one run
    have hall : ∀ c ∈ blanks ++ trailing, isBlank c = true := by
      intro c hc
      exact (List.mem_append.1 hc).elim (hblanks c) (htrailing c)
    have hnone := trimStart_blanks hall (startsOutside_nil isBlank)
    rw [List.append_nil] at hnone
    have hrest : rest = [] := hnone
    rw [hrest]
    intro c hc
    cases hc
  · have hrest : rest = operator ++ trailing :=
      trimStart_blanks hblanks (startsOutside_operator hoperator trailing).1
    rw [hrest, afterOperator?_append hoperator]
    exact htrailing

/-- A `?=` right behind the name is not taken for the operator. -/
theorem functionName?_glued (hgap : IsRun isBlank gap) (hname : IsRun isNameChar name)
    (htrailing : ∀ c ∈ trailing, isBlank c = true) :
    functionName? (openerLine gap name [] ['?', '='] trailing) =
      some (name ++ ['?'], 6 + gap.length) := by
  have hrun : IsRun isNameChar (name ++ ['?']) := hname.concat (by decide)
  have hequals : StartsOutside isNameChar ('=' :: trailing) := startsOutside_cons (by decide)
  have hnone : ∀ c ∈ ([] : List Char), isBlank c = true := by simp
  have hoperator : ['='] = [] ∨ ['='] ∈ operators := Or.inr (by decide)
  have hline : openerLine gap name [] ['?', '='] trailing =
      ['d', 'e', 'f', 'i', 'n', 'e'] ++ (gap ++ ((name ++ ['?']) ++ '=' :: trailing)) := by
    simp [openerLine]
  rw [hline]
  exact functionName?_of_run hgap hrun hequals (blank_of_tail hnone hoperator htrailing)

/-- In every other case the name is the one that the line was made with. -/
theorem functionName?_parted (hgap : IsRun isBlank gap) (hname : IsRun isNameChar name)
    (hblanks : ∀ c ∈ blanks, isBlank c = true) (hoperator : operator = [] ∨ operator ∈ operators)
    (htrailing : ∀ c ∈ trailing, isBlank c = true)
    (hglued : ¬(blanks = [] ∧ operator = ['?', '='])) :
    functionName? (openerLine gap name blanks operator trailing) =
      some (name, 6 + gap.length) := by
  have hbehind : StartsOutside isNameChar (blanks ++ (operator ++ trailing)) := by
    rcases hoperator with rfl | hoperator
    · have htail : StartsOutside isNameChar trailing :=
        startsOutside_of_forall fun c hc => isNameChar_of_isBlank (htrailing c hc)
      exact startsOutside_blanks (fun _ => isNameChar_of_isBlank) hblanks htail
    · exact startsOutside_parted hblanks hoperator hglued trailing
  exact functionName?_of_run hgap hname hbehind (blank_of_tail hblanks hoperator htrailing)

theorem facts_function_of_functionName? {column : Nat}
    (h : functionName? line = some (name, column)) :
    ((classify line).filter fun fact => fact.pass = .function) =
      [.function (String.ofList name) (UInt32.ofNat column)] := by
  rw [filter_classify]
  show ((functionName? line).map _).toList = _
  rw [h]
  rfl

end openers

/-- A line that opens a function, made of `define`, blanks, a name, at most an operator, and
    blanks around the operator.
    1. Unless a `?=` is right behind the name, the line opens one function, under this name
       and at its column.
    2. Right before a `?=` the name goes on with the question mark. The line opens one function
       under this longer name, at the same column.
    3. An assignment with the same name, blanks and operator is to the name alone, in both
       cases, if the name does not end with a question mark of its own and the blanks behind
       the operator hold no line feed. -/
theorem classify_opener {gap name blanks operator trailing : List Char}
    (hgap : IsRun isBlank gap) (hname : IsRun isNameChar name)
    (hblanks : ∀ c ∈ blanks, isBlank c = true) (hoperator : operator = [] ∨ operator ∈ operators)
    (htrailing : ∀ c ∈ trailing, isBlank c = true) :
    let opened := (classify (openerLine gap name blanks operator trailing)).filter
      fun fact => fact.pass = .function
    (¬(blanks = [] ∧ operator = ['?', '=']) →
      opened = [.function (String.ofList name) (UInt32.ofNat (6 + gap.length))]) ∧
    (blanks = [] ∧ operator = ['?', '='] →
      opened = [.function (String.ofList (name ++ ['?'])) (UInt32.ofNat (6 + gap.length))]) ∧
    (operator ∈ operators → name.getLast? ≠ some '?' → '\n' ∉ trailing →
      ((classify (name ++ (blanks ++ (operator ++ trailing)))).filter
        fun fact => fact.pass = .primary) = [.assignment (String.ofList name) 0 ""]) := by
  intro opened
  refine ⟨fun hglued => ?_, fun hglued => ?_, fun hassigns hmark hfeed => ?_⟩
  · exact facts_function_of_functionName?
      (functionName?_parted hgap hname hblanks hoperator htrailing hglued)
  · obtain ⟨rfl, rfl⟩ := hglued
    exact facts_function_of_functionName? (functionName?_glued hgap hname htrailing)
  · have hreads : ReadsAsAssignment (name ++ (blanks ++ (operator ++ trailing))) name trailing :=
      ⟨blanks, operator, rfl, hname, hblanks, hassigns, hfeed⟩
    have hvalue : trimStart trailing = [] := by
      have htrim := trimStart_blanks htrailing (startsOutside_nil isBlank)
      rwa [List.append_nil] at htrim
    rw [facts_primary_of_assignment? (hreads.assignment?_of_no_mark hmark), hvalue]

/-! ### A `?=` with and without a blank before it -/

theorem classify_parted_opener :
    IsRun isBlank " \t".toList ∧ IsRun isNameChar "log-é".toList ∧ ['?', '='] ∈ operators ∧
    openerLine " \t".toList "log-é".toList [' '] ['?', '='] [' '] = "define \tlog-é ?= ".toList ∧
    ((classify "define \tlog-é ?= ".toList).filter fun fact => fact.pass = .function) =
      [.function "log-é" 8] := by
  have hgap : IsRun isBlank " \t".toList := by decide +kernel
  have hname : IsRun isNameChar "log-é".toList := by decide +kernel
  have hblank : ∀ c ∈ [' '], isBlank c = true := List.all_eq_true.1 (by decide)
  have hoperator : ['?', '='] ∈ operators := by decide
  have hopened := classify_opener hgap hname hblank (Or.inr hoperator) hblank
  exact ⟨hgap, hname, hoperator, by decide +kernel, hopened.1 (by decide)⟩

/-- Without the blank the line opens a function `A?`, where the same name and operator assign
    to `A`. -/
theorem classify_glued_opener :
    IsRun isBlank [' '] ∧ IsRun isNameChar ['A'] ∧ ['A'].getLast? ≠ some '?' ∧
    ['?', '='] ∈ operators ∧ openerLine [' '] ['A'] [] ['?', '='] [] = "define A?=".toList ∧
    classify "define A?=".toList = [.function "A?" 7] ∧
    classify "A?=".toList = [.assignment "A" 0 ""] := by
  decide +kernel

end MakeLens
