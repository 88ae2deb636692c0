import MakeLens.Proofs.LineForms

/-! # The word around a cursor

    The word that a cursor touches is a maximal run of symbol characters. It is found by
    looking in both directions from one character of it, and every character of the run
    leads to the same word.

    * `wordAround_eq`: the word around any character of a maximal run is the run;
    * `wordOnLine?_eq_some`: whatever is found on a line is such a run;
    * `wordOnLine?_of_run`: a cursor at the start of a run finds it.
-/

namespace MakeLens

/-! ## Section 1: Maximal runs -/

/-- A span on a line between what is before it and what is behind it: its word is a
    maximal run of symbol characters. -/
structure WordSpan.Covers (span : WordSpan) (line before after : List Char) : Prop where
  line_eq : line = before ++ (span.word.toList ++ after)
  start_eq : span.start = before.length
  stop_eq : span.stop = before.length + span.word.toList.length
  word_ne_nil : span.word.toList ≠ []
  word_chars : ∀ c ∈ span.word.toList, isSymbolChar c = true
  before_outside : EndsOutside isSymbolChar before
  after_outside : StartsOutside isSymbolChar after

theorem WordSpan.Covers.start_le_stop {span : WordSpan} {line before after : List Char}
    (h : span.Covers line before after) : span.start ≤ span.stop := by
  rw [h.start_eq, h.stop_eq]
  exact Nat.le_add_right _ _

/-- Places that numbers of 32 bits can tell are told as they are. -/
theorem WordSpan.toNat_found {span : WordSpan} (h : span.start ≤ span.stop)
    (hshort : span.stop < UInt32.size) :
    span.found.start.toNat = span.start ∧ span.found.stop.toNat = span.stop :=
  ⟨UInt32.toNat_ofNat_of_lt' (by omega), UInt32.toNat_ofNat_of_lt' hshort⟩

theorem EndsOutside.reverse {p : Char → Bool} {text : List Char} (h : EndsOutside p text) :
    StartsOutside p text.reverse := by
  intro c hc
  rw [List.head?_reverse] at hc
  exact h c hc

theorem StartsOutside.reverse {p : Char → Bool} {text : List Char} (h : StartsOutside p text) :
    EndsOutside p text.reverse := by
  intro c hc
  rw [List.getLast?_reverse] at hc
  exact h c hc

/-- The run is found from any place in it: `left` is the part before the place, `right`
    the one behind it. -/
theorem wordAround_eq {before left right after : List Char}
    (hleft : ∀ c ∈ left, isSymbolChar c = true) (hright : ∀ c ∈ right, isSymbolChar c = true)
    (hbefore : EndsOutside isSymbolChar before) (hafter : StartsOutside isSymbolChar after) :
    wordAround (before ++ (left ++ (right ++ after))) (before.length + left.length) =
      ⟨String.ofList (left ++ right), before.length, before.length + (left ++ right).length⟩ := by
  have hsplit : before ++ (left ++ (right ++ after)) = (before ++ left) ++ (right ++ after) := by
    rw [List.append_assoc]
  have hplace : (before ++ left).length = before.length + left.length := List.length_append
  have hback : ((before ++ left).reverse.takeWhile isSymbolChar).reverse = left := by
    rw [List.reverse_append, takeWhile_run _ hbefore.reverse, List.reverse_reverse]
    intro c hc
    exact hleft c (List.mem_reverse.1 hc)
  have hforth : (right ++ after).takeWhile isSymbolChar = right := takeWhile_run hright hafter
  unfold wordAround
  rw [hsplit, List.take_left' hplace, List.drop_left' hplace, hback, hforth, List.length_append]
  simp only [WordSpan.mk.injEq, true_and]
  omega

theorem hasSymbolAt_iff {chars : List Char} {place : Nat} :
    hasSymbolAt chars place = true ↔ ∃ c, chars[place]? = some c ∧ isSymbolChar c = true := by
  unfold hasSymbolAt
  cases chars[place]? with
  | none => simp
  | some c => simp

/-- A symbol character belongs to a maximal run. -/
theorem exists_run_of_hasSymbolAt {chars : List Char} {place : Nat}
    (h : hasSymbolAt chars place = true) :
    ∃ before left right after, chars = before ++ (left ++ (right ++ after)) ∧
      place = before.length + left.length ∧ right ≠ [] ∧
      (∀ c ∈ left, isSymbolChar c = true) ∧ (∀ c ∈ right, isSymbolChar c = true) ∧
      EndsOutside isSymbolChar before ∧ StartsOutside isSymbolChar after := by
  obtain ⟨c, hc, hsymbol⟩ := hasSymbolAt_iff.1 h
  have hplace : place < chars.length := (List.getElem?_eq_some_iff.1 hc).1
  have hdrop : chars.drop place = c :: chars.drop (place + 1) := by
    rw [List.drop_eq_getElem_cons hplace, (List.getElem?_eq_some_iff.1 hc).2]
  have hfront : ((chars.take place).reverse.dropWhile isSymbolChar).reverse ++
      ((chars.take place).reverse.takeWhile isSymbolChar).reverse = chars.take place := by
    rw [← List.reverse_append, List.takeWhile_append_dropWhile, List.reverse_reverse]
  refine ⟨((chars.take place).reverse.dropWhile isSymbolChar).reverse,
    ((chars.take place).reverse.takeWhile isSymbolChar).reverse,
    (chars.drop place).takeWhile isSymbolChar, (chars.drop place).dropWhile isSymbolChar,
    ?_, ?_, ?_, ?_, fun _ => of_mem_takeWhile, ?_, startsOutside_dropWhile _ _⟩
  · rw [List.takeWhile_append_dropWhile, ← List.append_assoc, hfront, List.take_append_drop]
  · rw [← List.length_append, hfront, List.length_take]
    omega
  · rw [hdrop, List.takeWhile_cons, if_pos hsymbol]
    exact List.cons_ne_nil _ _
  · intro d hd
    exact of_mem_takeWhile (List.mem_reverse.1 hd)
  · exact (startsOutside_dropWhile _ _).reverse

/-! ## Section 2: What a cursor finds -/

theorem hasSymbolAt_of_anchor? {line : List Char} {cursor place : Nat}
    (h : anchor? line cursor = some place) : hasSymbolAt line place = true := by
  unfold anchor? at h
  split at h
  · next hat =>
    cases h
    exact hat
  · split at h
    · next hbefore =>
      cases h
      exact hbefore.2
    · cases h

/-- The word around a symbol character is a maximal run with this character in it. -/
theorem wordAround_covers {line : List Char} {place : Nat} (h : hasSymbolAt line place = true) :
    ∃ before after, (wordAround line place).Covers line before after ∧
      (wordAround line place).start ≤ place ∧ place < (wordAround line place).stop := by
  obtain ⟨before, left, right, after, rfl, rfl, hne, hleft, hright, hbefore, hafter⟩ :=
    exists_run_of_hasSymbolAt h
  rw [wordAround_eq hleft hright hbefore hafter]
  refine ⟨before, after, ⟨?_, rfl, ?_, ?_, ?_, hbefore, hafter⟩, Nat.le_add_right _ _, ?_⟩
  · rw [String.toList_ofList, List.append_assoc]
  · rw [String.toList_ofList]
  · rw [String.toList_ofList]
    exact List.append_ne_nil_of_right_ne_nil left hne
  · rw [String.toList_ofList]
    intro c hc
    exact (List.mem_append.1 hc).elim (hleft c) (hright c)
  · have hlong := List.length_pos_iff.2 hne
    show before.length + left.length < before.length + (left ++ right).length
    rw [List.length_append]
    omega

/-- What is found on a line is a maximal run of symbol characters. -/
theorem wordOnLine?_eq_some {line : List Char} {column : Nat} {span : WordSpan}
    (h : wordOnLine? line column = some span) : ∃ before after, span.Covers line before after := by
  obtain ⟨place, hanchor, rfl⟩ := Option.map_eq_some_iff.1 h
  obtain ⟨before, after, hcovers, -⟩ := wordAround_covers (hasSymbolAt_of_anchor? hanchor)
  exact ⟨before, after, hcovers⟩

/-- A cursor at the start of a maximal run finds it. -/
theorem wordOnLine?_of_run {before run after : List Char} (hne : run ≠ [])
    (hrun : ∀ c ∈ run, isSymbolChar c = true) (hbefore : EndsOutside isSymbolChar before)
    (hafter : StartsOutside isSymbolChar after) :
    wordOnLine? (before ++ (run ++ after)) before.length =
      some ⟨String.ofList run, before.length, before.length + run.length⟩ := by
  have hcursor : min before.length (before ++ (run ++ after)).length = before.length := by
    rw [List.length_append]
    omega
  have hanchor : anchor? (before ++ (run ++ after)) before.length = some before.length := by
    obtain ⟨c, rest, rfl⟩ := List.exists_cons_of_ne_nil hne
    have hsymbol : hasSymbolAt (before ++ (c :: rest ++ after)) before.length = true := by
      simp [hasSymbolAt, hrun c List.mem_cons_self]
    unfold anchor?
    rw [if_pos hsymbol]
  -- nothing of the run is before the cursor
  have haround : wordAround (before ++ ([] ++ (run ++ after))) (before.length + 0) =
      ⟨String.ofList run, before.length, before.length + run.length⟩ :=
    wordAround_eq (List.forall_mem_nil _) hrun hbefore hafter
  unfold wordOnLine?
  rw [hcursor, hanchor, Option.map_some]
  exact congrArg some haround

end MakeLens
