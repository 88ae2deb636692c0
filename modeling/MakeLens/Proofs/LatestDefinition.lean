import MakeLens.Proofs.QueryAgreement

/-! # Which definition is in effect

    The search for the definition of a name goes through the definitions of the file and
    stops at the first one below the line; where it has found none, it goes through the
    included files and keeps the last definition of the last file that has one.

    The early stop looks as if it could miss a definition. It does not: the entities of a
    file stand in the order of their lines, and so do those with one name and of some
    kinds. So the search finds the last of all definitions of the name at or above the
    line, which is also one with the greatest line.
-/

namespace MakeLens

/-! ## Section 1: The last member with a property -/

/-- `x` is the last member of `xs` with the property `p`. -/
def IsLast {α : Type} (p : α → Prop) (xs : List α) (x : α) : Prop :=
  ∃ before after, xs = before ++ x :: after ∧ p x ∧ ∀ y ∈ after, ¬ p y

section last

variable {α β : Type} {xs : List α} {x : α}

theorem IsLast.mem {p : α → Prop} (h : IsLast p xs x) : x ∈ xs := by
  obtain ⟨before, after, rfl, -, -⟩ := h
  simp

theorem IsLast.holds {p : α → Prop} (h : IsLast p xs x) : p x := by
  obtain ⟨before, after, -, hx, -⟩ := h
  exact hx

/-- Along a list that ascends, no member with the property goes beyond the last one. -/
theorem IsLast.le_of_pairwise {p : α → Prop} {r : α → α → Prop} (h : IsLast p xs x)
    (hascend : xs.Pairwise r) (hrefl : r x x) {y : α} (hy : y ∈ xs) (hp : p y) : r y x := by
  obtain ⟨before, after, rfl, -, hafter⟩ := h
  rcases List.mem_append.1 hy with hbefore | hy
  · exact (List.pairwise_append.1 hascend).2.2 y hbefore x List.mem_cons_self
  · rcases List.mem_cons.1 hy with heq | hmem
    · rw [heq]
      exact hrefl
    · exact absurd hp (hafter y hmem)

/-- The last member that a function gives something for. -/
theorem getLast?_filterMap_eq_some_iff {f : α → Option β} {y : β} :
    (xs.filterMap f).getLast? = some y ↔
      ∃ x, IsLast (fun x => f x ≠ none) xs x ∧ f x = some y := by
  rw [List.getLast?_filterMap, List.findSome?_eq_some_iff]
  constructor
  · intro ⟨after, x, before, hsplit, hx, hafter⟩
    refine ⟨x, ⟨before.reverse, after.reverse, ?_, by simp [hx], ?_⟩, hx⟩
    · rw [← List.reverse_reverse xs, hsplit]
      simp
    · intro z hz hne
      exact hne (hafter z (List.mem_reverse.1 hz))
  · intro ⟨x, ⟨before, after, hsplit, _, hafter⟩, hx⟩
    refine ⟨after.reverse, x, before.reverse, by simp [hsplit], hx, ?_⟩
    intro z hz
    by_contra hne
    exact hafter z (List.mem_reverse.1 hz) hne

theorem getLast?_filter_eq_some_iff {p : α → Prop} [DecidablePred p] :
    (xs.filter fun x => decide (p x)).getLast? = some x ↔ IsLast p xs x := by
  rw [List.getLast?_filter, List.find?_eq_some_iff_append]
  constructor
  · intro ⟨hx, after, before, hsplit, hafter⟩
    refine ⟨before.reverse, after.reverse, ?_, of_decide_eq_true hx, ?_⟩
    · rw [← List.reverse_reverse xs, hsplit]
      simp
    · intro z hz
      have hnot := hafter z (List.mem_reverse.1 hz)
      simpa using hnot
  · intro ⟨before, after, hsplit, hx, hafter⟩
    refine ⟨decide_eq_true hx, after.reverse, before.reverse, by simp [hsplit], ?_⟩
    intro z hz
    simpa using hafter z (List.mem_reverse.1 hz)

/-- A list has one last member with the property. -/
theorem IsLast.unique {p : α → Prop} {y : α} (hx : IsLast p xs x) (hy : IsLast p xs y) :
    x = y := by
  classical
  rw [← getLast?_filter_eq_some_iff] at hx hy
  exact Option.some.inj (hx.symm.trans hy)

theorem exists_isLast {p : α → Prop} (h : ∃ x ∈ xs, p x) : ∃ x, IsLast p xs x := by
  classical
  obtain ⟨y, hy, hp⟩ := h
  have hne : (xs.filter fun x => decide (p x)) ≠ [] :=
    List.ne_nil_of_mem (List.mem_filter.2 ⟨hy, decide_eq_true hp⟩)
  exact ⟨_, getLast?_filter_eq_some_iff.1 (List.getLast?_eq_some_getLast hne)⟩

end last

/-! ## Section 2: The definitions of one file -/

/-- `e` is called `name` and is of a kind that defines. -/
def Entity.DefinesName (name : String) (e : Entity) : Prop :=
  e.name = name ∧ (e.kind = .target ∨ e.kind = .assignment ∨ e.kind = .function)

instance (name : String) (e : Entity) : Decidable (e.DefinesName name) :=
  inferInstanceAs (Decidable (_ ∧ _))

/-- In the order of lines, stopping at the first entity below a line keeps all that stand
    at or above it. -/
theorem takeWhile_line_eq_filter {entities : List Entity}
    (hascend : entities.Pairwise fun a b => a.line ≤ b.line) (line : UInt32) :
    entities.takeWhile (fun e => e.line ≤ line) = entities.filter fun e => e.line ≤ line := by
  induction entities with
  | nil => rfl
  | cons first rest ih =>
    obtain ⟨hfirst, hrest⟩ := List.pairwise_cons.1 hascend
    by_cases hline : first.line ≤ line
    · simp only [List.takeWhile_cons, List.filter_cons, hline, decide_true, if_true, ih hrest]
    · -- all the others stand further down
      have hnone : rest.filter (fun e => e.line ≤ line) = [] := by
        rw [List.filter_eq_nil_iff]
        intro e he hle
        exact hline (UInt32.le_trans (hfirst e he) (of_decide_eq_true hle))
      simp [hline, hnone]

/-- With the definitions in the order of lines the search that stops early finds what a
    search through all of them finds. -/
theorem FileIndex.nearestDefinition?_eq_filter {index : FileIndex} {name : String}
    (hascend : (index.definitions name).Pairwise fun a b => a.line ≤ b.line) (line : UInt32) :
    index.nearestDefinition? name line =
      ((index.definitions name).filter fun e => e.line ≤ line).getLast? := by
  unfold nearestDefinition?
  rw [takeWhile_line_eq_filter hascend line]

theorem FileIndex.definitions_ofText (file : FilePath) (text : List Char) (name : String) :
    (ofText file text).definitions name =
      (ofText file text).entities.filter fun e => e.DefinesName name := by
  have hsame : ∀ e : Entity, (e.isDefinition && e.name == name) = decide (e.DefinesName name) := by
    intro e
    rw [Bool.eq_iff_iff, Bool.and_eq_true, beq_iff_eq, decide_eq_true_eq]
    unfold Entity.DefinesName Entity.isDefinition
    rw [EntityKind.isDefinition_iff, and_comm]
  rw [ofText, definitions_make]
  simp only [hsame]
  rfl

namespace Cache

variable {cache : Cache} {name : String} {file : FilePath} {line : UInt32} {e : Entity}

theorem FewLinesAt.entities_ascend (hlines : cache.FewLinesAt file) :
    (cache.entitiesOf file).Pairwise fun a b => a.line ≤ b.line := by
  unfold entitiesOf
  cases hget : cache.get? file with
  | none => exact List.Pairwise.nil
  | some entry =>
    obtain ⟨text, hfew, rfl⟩ := hlines entry hget
    exact pairwise_entities_scan hfew file

/-- What a file itself provides: the last definition of the name at or above the line. -/
theorem nearest_eq_some_iff (hlines : cache.FewLinesAt file) :
    ((cache.get? file).bind fun index => index.nearestDefinition? name line) = some e ↔
      IsLast (fun x => x.DefinesName name ∧ x.line ≤ line) (cache.entitiesOf file) e := by
  rw [← getLast?_filter_eq_some_iff]
  unfold entitiesOf
  cases hget : cache.get? file with
  | none => rfl
  | some entry =>
    have hascend : (entry.definitions name).Pairwise fun a b => a.line ≤ b.line :=
      hlines.definitions_ascend hget
    obtain ⟨text, -, rfl⟩ := hlines entry hget
    rw [Option.bind_some, FileIndex.nearestDefinition?_eq_filter hascend,
      FileIndex.definitions_ofText, List.filter_filter]
    simp only [Option.map_some, Option.getD_some, Bool.decide_and, Bool.and_comm]

/-- What an included file provides: its last definition of the name, on whatever line. -/
theorem last_eq_some_iff (htexts : cache.FromTexts) :
    ((cache.get? file).bind fun index => index.lastDefinition? name) = some e ↔
      IsLast (Entity.DefinesName name) (cache.entitiesOf file) e := by
  rw [← getLast?_filter_eq_some_iff]
  unfold entitiesOf
  cases hget : cache.get? file with
  | none => rfl
  | some entry =>
    obtain ⟨text, rfl⟩ := htexts file entry hget
    rw [Option.bind_some, FileIndex.lastDefinition?, FileIndex.definitions_ofText]
    rfl

theorem last_ne_none_iff (htexts : cache.FromTexts) :
    ((cache.get? file).bind fun index => index.lastDefinition? name) ≠ none ↔
      ∃ x ∈ cache.entitiesOf file, x.DefinesName name := by
  rw [Option.ne_none_iff_exists']
  constructor
  · intro ⟨e, he⟩
    have hlast := (last_eq_some_iff htexts).1 he
    exact ⟨e, hlast.mem, hlast.holds⟩
  · intro hsome
    obtain ⟨e, hlast⟩ := exists_isLast hsome
    exact ⟨e, (last_eq_some_iff htexts).2 hlast⟩

/-! ## Section 3: The definition in effect -/

/-- A definition of the file itself is in effect wherever there is one. -/
theorem definition?_of_own (hlines : cache.FewLinesAt file)
    (h : IsLast (fun x => x.DefinesName name ∧ x.line ≤ line) (cache.entitiesOf file) e) :
    cache.definition? name file line = some e := by
  unfold definition?
  rw [(nearest_eq_some_iff hlines).2 h]

theorem definition?_of_no_own (hlines : cache.FewLinesAt file)
    (hnone : ∀ x ∈ cache.entitiesOf file, ¬ (x.DefinesName name ∧ x.line ≤ line)) :
    cache.definition? name file line = cache.includedDefinition? name file := by
  have hnearest :
      ((cache.get? file).bind fun index => index.nearestDefinition? name line) = none := by
    rw [Option.eq_none_iff_forall_ne_some]
    intro e he
    have hlast := (nearest_eq_some_iff hlines).1 he
    exact hnone e hlast.mem hlast.holds
  unfold definition?
  rw [hnearest]

/-- The included files provide the last definition of the last one of them that has any. -/
theorem includedDefinition?_eq_some_iff (htexts : cache.FromTexts) :
    cache.includedDefinition? name file = some e ↔
      ∃ included, IsLast (fun seen => ∃ x ∈ cache.entitiesOf seen, x.DefinesName name)
          (cache.includeClosure file) included ∧
        IsLast (Entity.DefinesName name) (cache.entitiesOf included) e := by
  unfold includedDefinition?
  rw [getLast?_filterMap_eq_some_iff]
  simp only [last_ne_none_iff htexts, last_eq_some_iff htexts]

end Cache

/-- The definition of a name in effect at a line of a file, after any run, where 32 bits can
    number the lines of the file:
    1. if the file has definitions of the name at or above the line, the last of all
       these, and none of them has a greater line;
    2. if it has none, the last definition of the last file of the include closure that
       has any, on whatever line;
    3. if there is none there either, nothing;
    4. so the search that stops at the first definition below the line finds what going
       through all of them finds. -/
theorem Index.definition?_latest (steps : List (Disk × Operation)) (name : String)
    (file : FilePath) (line : UInt32)
    (hlines : (Index.empty.run steps).cache.FewLinesAt file) :
    let cache := (Index.empty.run steps).cache
    let Qualifies := fun e : Entity => e.DefinesName name ∧ e.line ≤ line
    let Provides := fun seen : FilePath => ∃ e ∈ cache.entitiesOf seen, e.DefinesName name
    ((∃ e ∈ cache.entitiesOf file, Qualifies e) →
      ∃ e, cache.definition? name file line = some e ∧ IsLast Qualifies (cache.entitiesOf file) e ∧
        ∀ x ∈ cache.entitiesOf file, Qualifies x → x.line ≤ e.line) ∧
    ((∀ e ∈ cache.entitiesOf file, ¬ Qualifies e) →
      (∃ seen ∈ cache.includeClosure file, Provides seen) →
      ∃ included e, cache.definition? name file line = some e ∧
        IsLast Provides (cache.includeClosure file) included ∧
        IsLast (Entity.DefinesName name) (cache.entitiesOf included) e) ∧
    ((∀ e ∈ cache.entitiesOf file, ¬ Qualifies e) →
      (∀ seen ∈ cache.includeClosure file, ¬ Provides seen) →
      cache.definition? name file line = none) ∧
    ∀ entry, cache.get? file = some entry →
      entry.nearestDefinition? name line =
        (entry.entities.filter fun e => e.DefinesName name ∧ e.line ≤ line).getLast? := by
  intro cache Qualifies Provides
  have htexts : cache.FromTexts := run_fromTexts steps
  refine ⟨?_, ?_, ?_, ?_⟩
  · intro hown
    obtain ⟨e, hlast⟩ := exists_isLast hown
    refine ⟨e, Cache.definition?_of_own hlines hlast, hlast, ?_⟩
    intro x hx hqualifies
    exact hlast.le_of_pairwise hlines.entities_ascend (UInt32.le_refl _) hx hqualifies
  · intro hnone hprovided
    obtain ⟨included, hincluded⟩ := exists_isLast hprovided
    obtain ⟨e, hlast⟩ := exists_isLast hincluded.holds
    refine ⟨included, e, ?_, hincluded, hlast⟩
    rw [Cache.definition?_of_no_own hlines hnone]
    exact (Cache.includedDefinition?_eq_some_iff htexts).2 ⟨included, hincluded, hlast⟩
  · intro hnone hbare
    rw [Cache.definition?_of_no_own hlines hnone, Option.eq_none_iff_forall_ne_some]
    intro e he
    obtain ⟨included, hincluded, -⟩ := (Cache.includedDefinition?_eq_some_iff htexts).1 he
    exact hbare included hincluded.mem hincluded.holds
  · intro entry hget
    have hascend : (entry.definitions name).Pairwise fun a b => a.line ≤ b.line :=
      hlines.definitions_ascend hget
    obtain ⟨text, -, rfl⟩ := hlines entry hget
    rw [FileIndex.nearestDefinition?_eq_filter hascend, FileIndex.definitions_ofText,
      List.filter_filter]
    simp only [Bool.decide_and, Bool.and_comm]

/-! ### Definitions above and below the line, and in an included file -/

/-- Three definitions of `A` in a file, and two of `B` in the file that it includes. -/
def latestRun : List (Disk × Operation) :=
  [(oneFileDisk "B = 3\n\n\n\n\nB: c",
    .reindex (.ofString "Makefile") "A = 1\nA = 2\nuse $(A) now\nA: b\ninclude a.mk".toList)]

/-- At the third line the second `A` is in effect, not the use of it on the line itself; and
    `B` is the rule of the included file, although that stands further down there. -/
theorem definition?_latestRun :
    let cache := (Index.empty.run latestRun).cache
    let main := FilePath.ofString "/w/Makefile"
    let included := FilePath.ofString "/w/a.mk"
    cache.FewLinesAt main ∧
    cache.definition? "A" main 2 = some ⟨"A", .assignment, "2", main, 1, 0⟩ ∧
    cache.definition? "B" main 2 = some ⟨"B", .target, "", included, 5, 0⟩ := by
  intro cache main included
  have hentry : cache.get? main =
      some (.ofText main "A = 1\nA = 2\nuse $(A) now\nA: b\ninclude a.mk".toList) := by
    decide +kernel
  have hlines : cache.FewLinesAt main := by
    intro entry hget
    rw [hentry] at hget
    cases hget
    exact ⟨_, by decide +kernel, rfl⟩
  have hclosure : cache.includeClosure main = [included] := by
    apply Cache.includeClosure_eq_singleton
    · decide +kernel
    · decide +kernel
    · decide +kernel
  have hA : IsLast (fun e => e.DefinesName "A" ∧ e.line ≤ 2) (cache.entitiesOf main)
      ⟨"A", .assignment, "2", main, 1, 0⟩ := by
    rw [← getLast?_filter_eq_some_iff]
    decide +kernel
  have hB : IsLast (Entity.DefinesName "B") (cache.entitiesOf included)
      ⟨"B", .target, "", included, 5, 0⟩ := by
    rw [← getLast?_filter_eq_some_iff]
    decide +kernel
  refine ⟨hlines, ?_, ?_⟩
  · obtain ⟨e, hdef, hlast, -⟩ :=
      (Index.definition?_latest latestRun "A" main 2 hlines).1 ⟨_, hA.mem, hA.holds⟩
    rw [hdef, hlast.unique hA]
  · have hnone : ∀ e ∈ cache.entitiesOf main, ¬ (e.DefinesName "B" ∧ e.line ≤ 2) := by
      decide +kernel
    obtain ⟨seen, e, hdef, hseen, hlast⟩ :=
      (Index.definition?_latest latestRun "B" main 2 hlines).2.1 hnone
        ⟨included, hclosure ▸ List.mem_singleton_self included, _, hB.mem, hB.holds⟩
    have hmem := hseen.mem
    rw [hclosure] at hmem
    obtain rfl := List.mem_singleton.1 hmem
    rw [hdef, hlast.unique hB]

end MakeLens
