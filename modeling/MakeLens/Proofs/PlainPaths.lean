import MakeLens.Index.Lookup
import MakeLens.Proofs.IncludeClosure
import MakeLens.Proofs.Runs
import MakeLens.Proofs.ScanEntities

/-! # Plain paths

    A path means its components, and a path can be spelled in many ways: with more separators
    than needed and with a `.` where it makes no difference. The cache compares paths as they
    are spelled. For plain paths this comes to the same, since there is one plain path for
    every list of components, and all paths that the index stores or compares are plain.

    * `plain_eq_plain_iff`: plain forms are equal exactly where the components are;
    * `run_onPlainPaths`: after every run all paths in the cache are plain;
    * `run_lookup`: so a path that is asked for finds the entry with its components, however
      it is spelled.
-/

namespace MakeLens

/-! ## Section 1: The plain form -/

namespace FilePath

/-- A path in its plain form. -/
def IsPlain (path : FilePath) : Prop :=
  path.plain = path

theorem InnerComponent.isPiece {c : Component} (h : InnerComponent c) : IsPiece c.bytes := by
  rcases h with rfl | ⟨bytes, hname, rfl⟩
  · exact ⟨by decide, by decide, by decide⟩
  · exact hname.isPiece

theorem innerComponent?_bytes {c : Component} (h : InnerComponent c) :
    innerComponent? c.bytes = some c := by
  rcases h with rfl | ⟨bytes, hname, rfl⟩
  · rfl
  · exact innerComponent?_of_isName hname

/-- Components past the start of a path can be read off their spelling. -/
theorem filterMap_bytes {inner : List Component} (h : ∀ c ∈ inner, InnerComponent c) :
    (inner.map Component.bytes).filterMap innerComponent? = inner := by
  induction inner with
  | nil => rfl
  | cons c rest ih =>
    rw [List.map_cons, List.filterMap_cons, innerComponent?_bytes (h c List.mem_cons_self),
      ih fun d hd => h d (List.mem_cons_of_mem _ hd)]

theorem ofComponents_inner {inner : List Component} (h : ∀ c ∈ inner, InnerComponent c) :
    ofComponents inner = ⟨spell (inner.map Component.bytes)⟩ := by
  cases inner with
  | nil => rfl
  | cons c rest =>
    rcases h c List.mem_cons_self with rfl | ⟨bytes, -, rfl⟩
    · rfl
    · rfl

/-- The plain form means the same. -/
theorem components_plain (path : FilePath) : path.plain.components = path.components := by
  obtain ⟨start, inner, hsplit, hstart, hinner⟩ := path.components_eq
  have hpieces : ∀ p ∈ inner.map Component.bytes, IsPiece p := by
    intro p hp
    obtain ⟨c, hc, rfl⟩ := List.mem_map.1 hp
    exact (hinner c hc).isPiece
  unfold plain
  rw [hsplit]
  rcases hstart with rfl | rfl | rfl
  · rw [List.nil_append, ofComponents_inner hinner, components_spell_pieces hpieces,
      filterMap_bytes hinner]
  · show (FilePath.mk (slash :: spell (inner.map Component.bytes))).components = _
    rw [components_slash_spell_pieces hpieces, filterMap_bytes hinner]
    rfl
  · -- a `.` at the start is a piece that counts there only
    show (FilePath.mk (spell ([dot] :: inner.map Component.bytes))).components = _
    have hrelative :
        (FilePath.mk (spell ([dot] :: inner.map Component.bytes))).isAbsolute = false :=
      isAbsolute_spell_cons (by decide) (by decide) _
    have hcut : pieces slash (spell ([dot] :: inner.map Component.bytes)) =
        [dot] :: inner.map Component.bytes := by
      refine pieces_spell (by simp) ?_
      intro p hp
      rcases List.mem_cons.1 hp with rfl | hp
      · decide
      · exact (hpieces p hp).slash_not_mem
    have hdot : innerComponent? [dot] = none := rfl
    unfold components
    rw [hrelative, hcut]
    simp [hdot, filterMap_bytes hinner]

theorem plain_plain (path : FilePath) : path.plain.IsPlain := by
  show ofComponents path.plain.components = ofComponents path.components
  rw [components_plain]

/-- Two paths have the same plain form exactly where they mean the same. -/
theorem plain_eq_plain_iff {path other : FilePath} :
    path.plain = other.plain ↔ path.components = other.components := by
  constructor
  · intro h
    rw [← components_plain path, h, components_plain]
  · intro h
    exact congrArg ofComponents h

/-- Among plain paths, equal spelling is equal meaning. -/
theorem IsPlain.eq_iff {path other : FilePath} (h : path.IsPlain) (h' : other.IsPlain) :
    path = other ↔ path.components = other.components := by
  rw [← plain_eq_plain_iff, h, h']

theorem IsNormal.isPlain {path : FilePath} (h : path.IsNormal) : path.IsPlain := by
  obtain ⟨cs, hcs, heq⟩ := path.exists_normalComponents
  have hpath : path = ofComponents cs := h.symm.trans heq
  show ofComponents path.components = path
  rw [hpath, components_ofComponents hcs]

end FilePath

/-! ## Section 2: The paths in a cache -/

/-- All paths in an entry stored under `path`, and `path` itself, are plain. -/
structure FileIndex.OnPlainPaths (path : FilePath) (entry : FileIndex) : Prop where
  isPlain : path.IsPlain
  path_eq : entry.path = path
  includes_isPlain : ∀ file ∈ entry.includes, file.IsPlain
  file_eq : ∀ e ∈ entry.entities, e.file = path

/-- All paths in a cache are plain. -/
def Cache.OnPlainPaths (cache : Cache) : Prop :=
  ∀ path entry, cache.get? path = some entry → entry.OnPlainPaths path

/-- The paths that an index stores are normal, and so they are plain. -/
theorem Index.run_onPlainPaths (steps : List (Disk × Operation)) :
    (Index.empty.run steps).cache.OnPlainPaths := by
  have hstart : ∀ file entry, Index.empty.cache.get? file = some entry →
      FileIndex.OnPlainPaths file entry := by
    intro file entry h
    cases h
  intro path entry h
  refine Index.run_invariant steps ?_ Index.empty hstart h
  rintro step - file built ⟨hnormal, content, rfl, -⟩
  refine ⟨hnormal.isPlain, rfl, ?_, ?_⟩
  · intro target htarget
    exact (mem_includes_ofText.1 htarget).isNormal.isPlain
  · intro e he
    obtain ⟨name, kind, value, line, column, rfl⟩ := mem_entities_scan he
    rfl

/-! ## Section 3: Looking up -/

namespace Cache

variable {cache : Cache} {path : FilePath}

/-- A path finds the entry whose path has the same components. -/
theorem entryAt?_eq_some_iff (h : cache.OnPlainPaths) {entry : FileIndex} :
    cache.entryAt? path = some entry ↔
      ∃ key, cache.get? key = some entry ∧ key.components = path.components := by
  unfold entryAt?
  constructor
  · intro hentry
    exact ⟨path.plain, hentry, path.components_plain⟩
  · intro ⟨key, hentry, hsame⟩
    have hkey : path.plain = key := by
      rw [← FilePath.plain_eq_plain_iff.2 hsame]
      exact (h key entry hentry).isPlain
    rw [hkey]
    exact hentry

/-- With the entry of a path no other one is dropped, and it is gone under every
    spelling. -/
theorem get?_removeAt (h : cache.OnPlainPaths) (key : FilePath) :
    (cache.removeAt path).1.get? key =
      if key.components = path.components then none else cache.get? key := by
  show (cache.remove path.plain).get? key = _
  rw [get?_remove]
  by_cases hkey : key = path.plain
  · rw [if_pos hkey, if_pos (by rw [hkey, path.components_plain])]
  · rw [if_neg hkey]
    split
    · next hsame =>
      -- a path that is not plain has no entry anyway
      cases hget : cache.get? key with
      | none => rfl
      | some entry =>
        have hplain : key = path.plain := by
          rw [← FilePath.plain_eq_plain_iff.2 hsame]
          exact (h key entry hget).isPlain.symm
        exact absurd hplain hkey
    · rfl

/-- The closure of a file holds plain paths, and no spelling of the file itself. -/
theorem mem_closureAt (h : cache.OnPlainPaths) {file : FilePath}
    (hmem : file ∈ cache.closureAt path) :
    file.IsPlain ∧ file.components ≠ path.components := by
  have hplain : file.IsPlain := by
    -- the last step to the file is a directive of some entry
    have hlink : ∃ including, cache.Links including file := by
      cases reached_of_mem_includeClosure hmem with
      | single hlink => exact ⟨_, hlink⟩
      | tail _ hlink => exact ⟨_, hlink⟩
    obtain ⟨including, entry, hentry, hincluded⟩ := hlink
    exact (h including entry hentry).includes_isPlain file hincluded
  refine ⟨hplain, ?_⟩
  intro hsame
  have hstart : file = path.plain := by
    rw [← FilePath.plain_eq_plain_iff.2 hsame]
    exact hplain.symm
  exact not_mem_seen_of_mem_explore cache _ _ hmem (List.mem_singleton.2 hstart)

end Cache

/-- After any run, a file is looked up by the components of its path:
    1. the entry found is the one stored under a path with these components;
    2. the entry dropped is this one as well, and all other entries stay;
    3. the closure has no path with these components, and no two with the same ones. -/
theorem Index.run_lookup (steps : List (Disk × Operation)) (path : FilePath) :
    let cache := (Index.empty.run steps).cache
    (∀ entry, cache.entryAt? path = some entry ↔
      ∃ key, cache.get? key = some entry ∧ key.components = path.components) ∧
    (∀ key, (cache.removeAt path).1.get? key =
      if key.components = path.components then none else cache.get? key) ∧
    (∀ file ∈ cache.closureAt path, file.components ≠ path.components) ∧
    (cache.closureAt path).Pairwise fun file other => file.components ≠ other.components := by
  intro cache
  have hplain : cache.OnPlainPaths := Index.run_onPlainPaths steps
  refine ⟨fun entry => Cache.entryAt?_eq_some_iff hplain, Cache.get?_removeAt hplain,
    fun file hfile => (Cache.mem_closureAt hplain hfile).2, ?_⟩
  have hnodup : (cache.closureAt path).Nodup := Cache.nodup_explore _ _ _
  refine hnodup.imp_of_mem ?_
  intro file other hfile hother hne hsame
  exact hne (((Cache.mem_closureAt hplain hfile).1.eq_iff
    (Cache.mem_closureAt hplain hother).1).2 hsame)

-- a `.` counts at the start of a relative path only, and a `..` everywhere
example : (FilePath.ofString "//w/.//a.mk/.").plain = .ofString "/w/a.mk" ∧
    (FilePath.ofString "./w//../a.mk/").plain = .ofString "./w/../a.mk" := by
  decide +kernel

end MakeLens
