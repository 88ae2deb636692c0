import MakeLens.Cursor
import MakeLens.Entity

/-! # The forms of a line

    Each pass over a line looks for one form. Here every form is written out as the
    parts that make up the line, so that whatever is to be said about a name, where it
    stands and what is around it, can be read off these parts.

    * `targetName?_eq_some` and its like: the parts of a line on which a form was found;
    * `mem_classify`: the passes that a fact can come from;
    * `filter_classify`: the facts of a line that come from one pass are what this pass finds;
    * `Delimited`: the name of an entity stands where its column says, between characters
      that belong to no word. There is one exception: a `?=` right behind the name of an
      assignment, whose question mark could as well be part of a word.
-/

namespace MakeLens

/-! ## Section 1: Runs of characters -/

/-- No character of the class `p` comes first. -/
def StartsOutside (p : Char → Bool) (text : List Char) : Prop :=
  ∀ c, text.head? = some c → p c = false

/-- A text of the class `p` that is not empty. -/
structure IsRun (p : Char → Bool) (text : List Char) : Prop where
  ne_nil : text ≠ []
  mem : ∀ c ∈ text, p c = true

instance (p : Char → Bool) (text : List Char) : Decidable (IsRun p text) :=
  decidable_of_iff (text ≠ [] ∧ text.all p = true)
    ⟨fun h => ⟨h.1, List.all_eq_true.1 h.2⟩, fun h => ⟨h.ne_nil, List.all_eq_true.2 h.mem⟩⟩

/-- No character of the class `p` comes last. -/
def EndsOutside (p : Char → Bool) (text : List Char) : Prop :=
  ∀ c, text.getLast? = some c → p c = false

section runs

variable {p q : Char → Bool} {c : Char} {text rest : List Char}

theorem startsOutside_nil (p : Char → Bool) : StartsOutside p [] := by
  intro c h
  cases h

theorem startsOutside_cons (h : p c = false) : StartsOutside p (c :: rest) := by
  intro d hd
  cases hd
  exact h

theorem startsOutside_of_forall (h : ∀ c ∈ text, p c = false) : StartsOutside p text :=
  fun c hc => h c (List.mem_of_mem_head? hc)

theorem StartsOutside.append (htext : StartsOutside p text) (hrest : StartsOutside p rest) :
    StartsOutside p (text ++ rest) := by
  cases text with
  | nil => exact hrest
  | cons c text => exact startsOutside_cons (htext c rfl)

theorem StartsOutside.of_imp (h : StartsOutside p text) (himp : ∀ c, p c = false → q c = false) :
    StartsOutside q text :=
  fun c hc => himp c (h c hc)

/-- A run of one class keeps a class outside that has no character in common with it. -/
theorem IsRun.startsOutside (h : IsRun p text) (hq : ∀ c, p c = true → q c = false)
    (rest : List Char) : StartsOutside q (text ++ rest) := by
  obtain ⟨c, text, rfl⟩ := List.exists_cons_of_ne_nil h.ne_nil
  exact startsOutside_cons (hq c (h.mem c List.mem_cons_self))

theorem IsRun.concat (h : IsRun p text) (hc : p c = true) : IsRun p (text ++ [c]) := by
  refine ⟨by simp, fun d hd => ?_⟩
  rcases List.mem_append.1 hd with hd | hd
  · exact h.mem d hd
  · rw [List.mem_singleton.1 hd]
    exact hc

theorem startsOutside_dropWhile (p : Char → Bool) (text : List Char) :
    StartsOutside p (text.dropWhile p) := by
  intro c h
  have hfirst := List.head?_dropWhile_not p text
  rw [h] at hfirst
  exact hfirst

theorem of_mem_takeWhile (h : c ∈ text.takeWhile p) : p c = true :=
  List.all_eq_true.1 List.all_takeWhile c h

/-- A run of the class is taken as a whole, and nothing else is. -/
theorem takeWhile_run (htext : ∀ c ∈ text, p c = true) (hrest : StartsOutside p rest) :
    (text ++ rest).takeWhile p = text := by
  rw [List.takeWhile_append_of_pos htext]
  cases rest with
  | nil => simp
  | cons c rest => simp [hrest c rfl]

/-- Behind such a run nothing is dropped. -/
theorem dropWhile_run (htext : ∀ c ∈ text, p c = true) (hrest : StartsOutside p rest) :
    (text ++ rest).dropWhile p = rest := by
  rw [List.dropWhile_append_of_pos htext]
  cases rest with
  | nil => simp
  | cons c rest => simp [hrest c rfl]

theorem endsOutside_nil (p : Char → Bool) : EndsOutside p [] := by
  intro c h
  cases h

theorem endsOutside_append (hne : rest ≠ []) (hrest : ∀ c ∈ rest, p c = false) :
    EndsOutside p (text ++ rest) := by
  intro c h
  obtain ⟨front, last, rfl⟩ : ∃ front last, rest = front ++ [last] :=
    ⟨_, _, (List.dropLast_concat_getLast hne).symm⟩
  rw [← List.append_assoc, List.getLast?_concat] at h
  cases h
  exact hrest c (by simp)

/-- A character that `lead` does not hold comes behind it. -/
theorem length_le_of_not_mem {lead before rest after : List Char} {c : Char}
    (h : before ++ c :: after = lead ++ rest) (hc : c ∉ lead) : lead.length ≤ before.length := by
  rcases List.append_eq_append_iff.1 h with ⟨more, hlead, hafter⟩ | ⟨more, hbefore, -⟩
  · cases more with
    | nil => simp [hlead]
    | cons d more =>
      cases hafter
      exact absurd (hlead ▸ by simp) hc
  · rw [hbefore, List.length_append]
    omega

end runs

/-! ### Classes of characters -/

theorem isNameChar_of_isBlank {c : Char} (h : isBlank c = true) : isNameChar c = false := by
  simp [isNameChar, h]

theorem isBlank_of_isNameChar {c : Char} (h : isNameChar c = true) : isBlank c = false := by
  by_cases hblank : isBlank c = true
  · rw [isNameChar_of_isBlank hblank] at h
    cases h
  · simpa using hblank

theorem isSymbolChar_of_isBlank {c : Char} (h : isBlank c = true) : isSymbolChar c = false := by
  simp [isSymbolChar, h]

theorem isSymbolChar_of_not_nameChar {c : Char} (h : isNameChar c = false) :
    isSymbolChar c = false := by
  simp only [isNameChar, Bool.not_eq_false', Bool.or_eq_true, beq_iff_eq] at h
  rcases h with ((rfl | rfl) | rfl) | h
  · decide
  · decide
  · decide
  · exact isSymbolChar_of_isBlank h

theorem isSymbolChar_of_not_callChar {c : Char} (h : isCallChar c = false) :
    isSymbolChar c = false := by
  simp only [isCallChar, Bool.not_eq_false', Bool.or_eq_true, beq_iff_eq] at h
  rcases h with (((rfl | rfl) | rfl) | rfl) | h
  · decide
  · decide
  · decide
  · decide
  · exact isSymbolChar_of_isBlank h

/-! ### Blanks -/

section blanks

variable {p : Char → Bool} {blanks rest : List Char}

/-- Blanks part a name from whatever follows, and where there are none, it parts
    itself. -/
theorem startsOutside_blanks (hp : ∀ c, isBlank c = true → p c = false)
    (hblanks : ∀ c ∈ blanks, isBlank c = true) (hrest : StartsOutside p rest) :
    StartsOutside p (blanks ++ rest) :=
  (startsOutside_of_forall fun c hc => hp c (hblanks c hc)).append hrest

theorem trimStart_blanks (hblanks : ∀ c ∈ blanks, isBlank c = true)
    (hrest : StartsOutside isBlank rest) : trimStart (blanks ++ rest) = rest :=
  dropWhile_run hblanks hrest

end blanks

/-! ## Section 2: The parts of a line -/

section forms

variable {line name value : List Char} {column : Nat}

theorem afterKeyword?_eq_some {keyword text rest : List Char}
    (h : afterKeyword? keyword text = some rest) : text = keyword ++ rest := by
  fun_induction afterKeyword? keyword text with
  | case1 text =>
    cases h
    rfl
  | case2 => cases h
  | case3 k keyword text ih => rw [List.cons_append, ← ih h]
  | case4 => cases h

theorem afterKeyword?_append (keyword text : List Char) :
    afterKeyword? keyword (keyword ++ text) = some text := by
  induction keyword with
  | nil => rfl
  | cons k keyword ih => simp [afterKeyword?, ih]

theorem afterOperator?_eq_some {text rest : List Char} (h : afterOperator? text = some rest) :
    ∃ operator ∈ operators, text = operator ++ rest := by
  obtain ⟨operator, hmem, hafter⟩ := List.exists_of_findSome?_eq_some h
  exact ⟨operator, hmem, afterKeyword?_eq_some hafter⟩

/-- A rule line is a name, blanks, a colon and a rest without `=`. -/
theorem targetName?_eq_some (h : targetName? line = some name) :
    ∃ blanks rest, line = name ++ (blanks ++ ':' :: rest) ∧ name ≠ [] ∧
      (∀ c ∈ name, isNameChar c = true) ∧ (∀ c ∈ blanks, isBlank c = true) ∧ '=' ∉ rest := by
  unfold targetName? at h
  simp only at h
  split at h
  · next rest hrest =>
    split at h
    · next hname =>
      cases h
      refine ⟨(line.dropWhile isNameChar).takeWhile isBlank, rest, ?_, hname.1,
        fun _ => of_mem_takeWhile, fun _ => of_mem_takeWhile, hname.2⟩
      unfold trimStart at hrest
      rw [← hrest, List.takeWhile_append_dropWhile, List.takeWhile_append_dropWhile]
    · cases h
  · cases h

/-- An assignment line is a name, blanks, an operator and a text without line feed. -/
theorem assignment?_eq_some (h : assignment? line = some (name, value)) :
    ∃ blanks operator text, line = name ++ (blanks ++ (operator ++ text)) ∧ name ≠ [] ∧
      (∀ c ∈ name, isNameChar c = true) ∧ (∀ c ∈ blanks, isBlank c = true) ∧
      operator ∈ operators ∧ '\n' ∉ text ∧ value = trimStart text := by
  unfold assignment? at h
  simp only at h
  have hline : line.takeWhile isNameChar ++ line.dropWhile isNameChar = line :=
    List.takeWhile_append_dropWhile
  split at h
  · next found text hsplit =>
    split at h
    · cases h
    · next hfeed =>
      cases h
      split at hsplit
      · next hmark =>
        -- the run ends with the question mark of the operator
        obtain ⟨hne, hlast, hequals⟩ := hmark
        cases hsplit
        obtain ⟨front, hrun⟩ := List.getLast?_eq_some_iff.1 hlast
        obtain ⟨after, hrest⟩ := List.head?_eq_some_iff.1 hequals
        refine ⟨[], ['?', '='], _, ?_, hne, ?_, by simp, by decide, hfeed, rfl⟩
        · rw [hrun, hrest] at hline
          rw [hrun, hrest, List.dropLast_concat, ← hline]
          simp
        · exact fun c hc => of_mem_takeWhile ((List.dropLast_prefix _).subset hc)
      · split at hsplit
        · next hne =>
          obtain ⟨after, hafter, heq⟩ := Option.map_eq_some_iff.1 hsplit
          cases heq
          obtain ⟨operator, hoperator, hrest⟩ := afterOperator?_eq_some hafter
          refine ⟨(line.dropWhile isNameChar).takeWhile isBlank, operator, _, ?_, hne,
            fun _ => of_mem_takeWhile, fun _ => of_mem_takeWhile, hoperator, hfeed, rfl⟩
          unfold trimStart at hrest
          rw [← hrest, List.takeWhile_append_dropWhile, hline]
        · cases hsplit
  · cases h

theorem afterBlanks?_eq_some {text rest : List Char} (h : afterBlanks? text = some rest) :
    (∃ blank after, text = blank :: after ∧ isBlank blank = true) ∧ rest = trimStart text := by
  unfold afterBlanks? at h
  split at h
  · next hblank =>
    cases h
    refine ⟨?_, rfl⟩
    cases text with
    | nil => cases hblank
    | cons c after => exact ⟨c, after, rfl, hblank⟩
  · cases h

/-- Behind a referenced name a closing bracket is taken, where there is one. -/
theorem exists_closing (text : List Char) :
    ∃ closing rest, text = closing ++ rest ∧
      (closing = [] ∨ closing = [')'] ∨ closing = ['}']) ∧
      rest = match text with
        | c :: after => if c = ')' ∨ c = '}' then after else c :: after
        | [] => [] := by
  cases text with
  | nil => exact ⟨[], [], rfl, Or.inl rfl, rfl⟩
  | cons c after =>
    by_cases hclosing : c = ')' ∨ c = '}'
    · refine ⟨[c], after, rfl, ?_, by simp [hclosing]⟩
      rcases hclosing with rfl | rfl
      · exact Or.inr (Or.inl rfl)
      · exact Or.inr (Or.inr rfl)
    · exact ⟨[], c :: after, rfl, Or.inl rfl, by simp [hclosing]⟩

/-- A reference line is a word, blanks, an opened name, a closing bracket or none, and a
    text that starts with a blank. -/
theorem reference?_eq_some (h : reference? line = some (name, column)) :
    ∃ word gap opening closing text,
      line = (word ++ (gap ++ ['$', opening])) ++ (name ++ (closing ++ text)) ∧ word ≠ [] ∧
      (∀ c ∈ word, isNameChar c = true) ∧ gap ≠ [] ∧ (∀ c ∈ gap, isBlank c = true) ∧
      (opening = '(' ∨ opening = '{') ∧ name ≠ [] ∧ (∀ c ∈ name, isReferenceChar c = true) ∧
      (closing = [] ∨ closing = [')'] ∨ closing = ['}']) ∧
      (∃ blank rest, text = blank :: rest ∧ isBlank blank = true) ∧ '\n' ∉ trimStart text ∧
      column = word.length + gap.length + 2 := by
  unfold reference? at h
  simp only at h
  split at h
  · cases h
  · next hlead =>
    obtain ⟨hword, hgap⟩ := not_or.1 hlead
    split at h
    · next opening rest hrest =>
      split at h
      · next hopened =>
        obtain ⟨closing, text, hclosed, hclosing, htext⟩ :=
          exists_closing (rest.dropWhile isReferenceChar)
        obtain ⟨tail, htail, h⟩ := Option.bind_eq_some_iff.1 h
        have hafter : afterBlanks? text = some tail := by
          rw [htext]
          exact htail
        obtain ⟨hblank, rfl⟩ := afterBlanks?_eq_some hafter
        split at h
        · cases h
        · next hfeed =>
          cases h
          refine ⟨_, _, opening, closing, text, ?_, hword, fun _ => of_mem_takeWhile, hgap,
            fun _ => of_mem_takeWhile, hopened.1, hopened.2, fun _ => of_mem_takeWhile, hclosing,
            hblank, hfeed, rfl⟩
          rw [← hclosed, List.takeWhile_append_dropWhile, List.append_assoc, List.append_assoc]
          show line = _ ++ (_ ++ '$' :: opening :: rest)
          rw [← hrest, List.takeWhile_append_dropWhile, List.takeWhile_append_dropWhile]
      · cases h
    · cases h

/-- A line that opens a function is `define`, blanks, a name, and at most an operator
    behind it. -/
theorem functionName?_eq_some (h : functionName? line = some (name, column)) :
    ∃ gap rest, line = ['d', 'e', 'f', 'i', 'n', 'e'] ++ (gap ++ (name ++ rest)) ∧ gap ≠ [] ∧
      (∀ c ∈ gap, isBlank c = true) ∧ name ≠ [] ∧ (∀ c ∈ name, isNameChar c = true) ∧
      StartsOutside isNameChar rest ∧
      (∀ c ∈ (afterOperator? (trimStart rest)).getD (trimStart rest), isBlank c = true) ∧
      column = 6 + gap.length := by
  unfold functionName? at h
  obtain ⟨after, hafter, h⟩ := Option.bind_eq_some_iff.1 h
  simp only at h
  split at h
  · next hparts =>
    cases h
    refine ⟨after.takeWhile isBlank, (after.dropWhile isBlank).dropWhile isNameChar, ?_, hparts.1,
      fun _ => of_mem_takeWhile, hparts.2.1, fun _ => of_mem_takeWhile,
      startsOutside_dropWhile _ _, List.all_eq_true.1 hparts.2.2, rfl⟩
    rw [List.takeWhile_append_dropWhile, List.takeWhile_append_dropWhile]
    exact afterKeyword?_eq_some hafter
  · cases h

/-- A call is `$(call`, blanks and a name. -/
theorem callName?_eq_some {text : List Char} (h : callName? text = some (name, column)) :
    ∃ gap rest, text = ['$', '(', 'c', 'a', 'l', 'l'] ++ (gap ++ (name ++ rest)) ∧ gap ≠ [] ∧
      (∀ c ∈ gap, isBlank c = true) ∧ name ≠ [] ∧ (∀ c ∈ name, isCallChar c = true) ∧
      StartsOutside isCallChar rest ∧ column = 6 + gap.length := by
  unfold callName? at h
  obtain ⟨after, hafter, h⟩ := Option.bind_eq_some_iff.1 h
  simp only at h
  split at h
  · next hparts =>
    cases h
    refine ⟨after.takeWhile isBlank, (after.dropWhile isBlank).dropWhile isCallChar, ?_, hparts.1,
      fun _ => of_mem_takeWhile, hparts.2, fun _ => of_mem_takeWhile,
      startsOutside_dropWhile _ _, rfl⟩
    rw [List.takeWhile_append_dropWhile, List.takeWhile_append_dropWhile]
    exact afterKeyword?_eq_some hafter
  · cases h

/-- A call of a text stands somewhere in it. -/
theorem mem_callsFrom {offset : Nat} {text : List Char}
    (h : (name, column) ∈ callsFrom offset text) :
    ∃ before rest place, text = before ++ rest ∧ callName? rest = some (name, place) ∧
      column = offset + before.length + place := by
  induction text generalizing offset with
  | nil => cases h
  | cons c text ih =>
    have htail : (name, column) ∈ callsFrom (offset + 1) text →
        ∃ before rest place, c :: text = before ++ rest ∧ callName? rest = some (name, place) ∧
          column = offset + before.length + place := by
      intro hmem
      obtain ⟨before, rest, place, rfl, hcall, hcolumn⟩ := ih hmem
      refine ⟨c :: before, rest, place, rfl, hcall, ?_⟩
      rw [List.length_cons]
      omega
    unfold callsFrom at h
    split at h
    · next found place hcall =>
      rcases List.mem_cons.1 h with heq | hmem
      · cases heq
        exact ⟨[], c :: text, place, rfl, hcall, rfl⟩
      · exact htail hmem
    · exact htail h

end forms

/-! ## Section 3: The facts of a line -/

/-- A fact of a line comes from one of the passes. -/
theorem mem_classify {line : List Char} {fact : Fact} :
    fact ∈ classify line ↔
      (∃ name, targetName? line = some name ∧ fact = .ofTarget name) ∨
      (∃ name value, targetName? line = none ∧ assignment? line = some (name, value) ∧
        fact = .assignment (String.ofList name) 0 (String.ofList value)) ∨
      (∃ name column, reference? line = some (name, column) ∧
        fact = .reference (String.ofList name) (UInt32.ofNat column)) ∨
      (∃ paths, inclusion? line = some paths ∧ fact = .inclusion (paths.map String.ofList)) ∨
      (∃ name column, functionName? line = some (name, column) ∧
        fact = .function (String.ofList name) (UInt32.ofNat column)) ∨
      ∃ name column, (name, column) ∈ callsFrom 0 line ∧
        fact = .call (String.ofList name) (UInt32.ofNat column) := by
  have hprimary : primaryFact? line = some fact ↔
      (∃ name, targetName? line = some name ∧ fact = .ofTarget name) ∨
      ∃ name value, targetName? line = none ∧ assignment? line = some (name, value) ∧
        fact = .assignment (String.ofList name) 0 (String.ofList value) := by
    unfold primaryFact?
    cases targetName? line with
    | some name => simp [eq_comm]
    | none => simp [Option.map_eq_some_iff, eq_comm (a := fact)]
  simp only [classify, List.mem_append, Option.mem_toList, hprimary, Option.map_eq_some_iff,
    List.mem_map, Prod.exists, or_assoc, eq_comm (b := fact)]

/-- The passes over a line, in their order. -/
inductive LinePass where
  | primary
  | reference
  | inclusion
  | function
  | call
  deriving DecidableEq

/-- The pass that a fact comes from. -/
def Fact.pass : Fact → LinePass
  | .target _ _ => .primary
  | .specialTarget _ => .primary
  | .assignment _ _ _ => .primary
  | .reference _ _ => .reference
  | .inclusion _ => .inclusion
  | .function _ _ => .function
  | .call _ _ => .call

/-- What a pass finds on a line. -/
def LinePass.facts (line : List Char) : LinePass → List Fact
  | .primary => (primaryFact? line).toList
  | .reference => ((reference? line).map fun (name, column) =>
      Fact.reference (String.ofList name) (UInt32.ofNat column)).toList
  | .inclusion =>
      ((inclusion? line).map fun paths => Fact.inclusion (paths.map String.ofList)).toList
  | .function => ((functionName? line).map fun (name, column) =>
      Fact.function (String.ofList name) (UInt32.ofNat column)).toList
  | .call => (callsFrom 0 line).map fun (name, column) =>
      Fact.call (String.ofList name) (UInt32.ofNat column)

theorem pass_ofTarget (name : List Char) : (Fact.ofTarget name).pass = .primary := by
  unfold Fact.ofTarget
  simp only
  split
  · rfl
  · rfl

theorem pass_of_mem_facts {line : List Char} {pass : LinePass} {fact : Fact}
    (h : fact ∈ pass.facts line) : fact.pass = pass := by
  cases pass with
  | primary =>
    have hprimary : primaryFact? line = some fact := Option.mem_toList.1 h
    unfold primaryFact? at hprimary
    split at hprimary
    · cases hprimary
      exact pass_ofTarget _
    · obtain ⟨_, -, rfl⟩ := Option.map_eq_some_iff.1 hprimary
      rfl
  | call =>
    obtain ⟨_, -, rfl⟩ := List.mem_map.1 h
    rfl
  | _ =>
    obtain ⟨_, -, rfl⟩ := Option.map_eq_some_iff.1 (Option.mem_toList.1 h)
    rfl

/-- The facts that come from a pass are what the pass finds, in the same order. -/
theorem filter_classify (line : List Char) (pass : LinePass) :
    (classify line).filter (fun fact => fact.pass = pass) = pass.facts line := by
  have hparts : classify line = LinePass.primary.facts line ++ LinePass.reference.facts line ++
      LinePass.inclusion.facts line ++ LinePass.function.facts line ++
      LinePass.call.facts line := rfl
  have hfilter : ∀ other : LinePass, (other.facts line).filter (fun fact => fact.pass = pass) =
      if other = pass then other.facts line else [] := by
    intro other
    by_cases heq : other = pass
    · rw [if_pos heq, List.filter_eq_self]
      intro fact hmem
      simp [pass_of_mem_facts hmem, heq]
    · rw [if_neg heq, List.filter_eq_nil_iff]
      intro fact hmem
      simp [pass_of_mem_facts hmem, heq]
  rw [hparts]
  simp only [List.filter_append, hfilter]
  cases pass with
  | _ => simp

theorem mem_classify_iff_mem_facts {line : List Char} {fact : Fact} :
    fact ∈ classify line ↔ fact ∈ fact.pass.facts line := by
  rw [← filter_classify, List.mem_filter]
  simp

/-- A line can have any number of calls. Of everything else it has at most one. -/
theorem length_facts_le_one {pass : LinePass} (h : pass ≠ .call) (line : List Char) :
    (pass.facts line).length ≤ 1 := by
  cases pass with
  | call => exact absurd rfl h
  | _ => exact Option.length_toList_le

/-- How the name of an entity stands on a line: what is before it and behind it belongs
    to no word, but for a `?=` right behind the name of an assignment. -/
structure Delimited (kind : EntityKind) (line before name after : List Char) : Prop where
  line_eq : line = before ++ (name ++ after)
  name_ne_nil : name ≠ []
  before_outside : EndsOutside isSymbolChar before
  after_outside :
    StartsOutside isSymbolChar after ∨ kind = .assignment ∧ ['?', '='] <+: after

theorem Delimited.line_ne_nil {kind : EntityKind} {line before name after : List Char}
    (h : Delimited kind line before name after) : line ≠ [] := by
  rw [h.line_eq]
  exact List.append_ne_nil_of_right_ne_nil before
    (List.append_ne_nil_of_left_ne_nil h.name_ne_nil after)

section delimited

variable {line name value : List Char} {column : Nat}

theorem delimited_target (h : targetName? line = some name) :
    ∃ after, Delimited .target line [] name after := by
  obtain ⟨blanks, rest, hline, hne, -, hblanks, -⟩ := targetName?_eq_some h
  have hcolon : StartsOutside isSymbolChar (':' :: rest) := startsOutside_cons (by decide)
  exact ⟨_, hline, hne, endsOutside_nil _, Or.inl
    (startsOutside_blanks (fun _ => isSymbolChar_of_isBlank) hblanks hcolon)⟩

theorem delimited_assignment (h : assignment? line = some (name, value)) :
    ∃ after, Delimited .assignment line [] name after := by
  obtain ⟨blanks, operator, text, hline, hne, -, hblanks, hoperator, -, -⟩ := assignment?_eq_some h
  refine ⟨_, hline, hne, endsOutside_nil _, ?_⟩
  cases blanks with
  | cons c blanks =>
    exact Or.inl (startsOutside_cons (isSymbolChar_of_isBlank (hblanks c List.mem_cons_self)))
  | nil =>
    simp only [operators, List.mem_cons, List.not_mem_nil, or_false] at hoperator
    rcases hoperator with rfl | rfl | rfl | rfl | rfl
    · exact Or.inl (startsOutside_cons (by decide))
    · exact Or.inl (startsOutside_cons (by decide))
    · exact Or.inl (startsOutside_cons (by decide))
    · exact Or.inr ⟨rfl, List.prefix_append _ _⟩
    · exact Or.inl (startsOutside_cons (by decide))

theorem delimited_reference (h : reference? line = some (name, column)) :
    ∃ before after, Delimited .reference line before name after ∧ before.length = column := by
  obtain ⟨word, gap, opening, closing, text, hline, -, -, -, -, hopening, hne, -, hclosing,
    ⟨blank, rest, rfl, hblank⟩, -, rfl⟩ := reference?_eq_some h
  have hbefore : EndsOutside isSymbolChar (word ++ (gap ++ ['$', opening])) := by
    intro c hc
    have hlast : (word ++ (gap ++ ['$', opening])).getLast? = some opening := by simp
    rw [hlast] at hc
    cases hc
    rcases hopening with rfl | rfl
    · decide
    · decide
  have htext : StartsOutside isSymbolChar (blank :: rest) :=
    startsOutside_cons (isSymbolChar_of_isBlank hblank)
  have hafter : StartsOutside isSymbolChar (closing ++ blank :: rest) := by
    rcases hclosing with rfl | rfl | rfl
    · exact htext
    · exact startsOutside_cons (by decide)
    · exact startsOutside_cons (by decide)
  refine ⟨_, _, ⟨hline, hne, hbefore, Or.inl hafter⟩, ?_⟩
  simp only [List.length_append, List.length_cons, List.length_nil]
  omega

theorem delimited_function (h : functionName? line = some (name, column)) :
    ∃ before after, Delimited .function line before name after ∧ before.length = column := by
  obtain ⟨gap, rest, hline, hgap, hblanks, hne, -, hrest, -, rfl⟩ := functionName?_eq_some h
  refine ⟨['d', 'e', 'f', 'i', 'n', 'e'] ++ gap, rest,
    ⟨by rw [hline, List.append_assoc], hne, ?_, Or.inl ?_⟩, ?_⟩
  · exact endsOutside_append hgap fun c hc => isSymbolChar_of_isBlank (hblanks c hc)
  · exact hrest.of_imp fun c => isSymbolChar_of_not_nameChar
  · simp only [List.length_append, List.length_cons, List.length_nil]

theorem delimited_call (h : (name, column) ∈ callsFrom 0 line) :
    ∃ before after, Delimited .call line before name after ∧ before.length = column := by
  obtain ⟨front, text, place, rfl, hcall, rfl⟩ := mem_callsFrom h
  obtain ⟨gap, rest, rfl, hgap, hblanks, hne, -, hrest, rfl⟩ := callName?_eq_some hcall
  refine ⟨front ++ (['$', '(', 'c', 'a', 'l', 'l'] ++ gap), rest,
    ⟨by simp only [List.append_assoc], hne, ?_, Or.inl ?_⟩, ?_⟩
  · rw [← List.append_assoc]
    exact endsOutside_append hgap fun c hc => isSymbolChar_of_isBlank (hblanks c hc)
  · exact hrest.of_imp fun c => isSymbolChar_of_not_callChar
  · simp only [List.length_append, List.length_cons, List.length_nil]
    omega

/-- The name of every entity of a line, where its column says. -/
theorem delimited_of_mem_classify {fact : Fact} {file : FilePath} {number : UInt32} {e : Entity}
    (h : fact ∈ classify line) (he : Entity.ofFact? file number fact = some e) :
    ∃ before after, Delimited e.kind line before e.name.toList after ∧
      e.column = UInt32.ofNat before.length := by
  rcases mem_classify.1 h with ⟨name, hname, rfl⟩ | ⟨name, value, -, hname, rfl⟩ |
    ⟨name, column, hname, rfl⟩ | ⟨paths, -, rfl⟩ | ⟨name, column, hname, rfl⟩ |
    ⟨name, column, hname, rfl⟩
  · obtain ⟨after, hafter⟩ := delimited_target hname
    unfold Fact.ofTarget at he
    simp only at he
    split at he
    · cases he
    · cases he
      exact ⟨[], after, by simpa [Entity.make] using hafter, rfl⟩
  · obtain ⟨after, hafter⟩ := delimited_assignment hname
    cases he
    exact ⟨[], after, by simpa [Entity.make] using hafter, rfl⟩
  · obtain ⟨before, after, hafter, rfl⟩ := delimited_reference hname
    cases he
    exact ⟨before, after, by simpa [Entity.make] using hafter, rfl⟩
  · cases he
  · obtain ⟨before, after, hafter, rfl⟩ := delimited_function hname
    cases he
    exact ⟨before, after, by simpa [Entity.make] using hafter, rfl⟩
  · obtain ⟨before, after, hafter, rfl⟩ := delimited_call hname
    cases he
    exact ⟨before, after, by simpa [Entity.make] using hafter, rfl⟩

end delimited

end MakeLens
