import MakeLens.Proofs.ReadablePaths

/-! # Absolute paths

    Normalising keeps the root of a path: a `..` takes away names only. So the form
    under which the index knows a file is absolute as long as there is a working
    directory, and so is every file that an absolute file other than the root directory
    itself includes. The root has no directory above it, but it is no file either.
-/

namespace MakeLens

namespace FilePath

/-! ## Section 1: The root stays -/

/-- The components of a path from the root start with it. -/
theorem components_of_isAbsolute {path : FilePath} (h : path.isAbsolute = true) :
    ∃ inner, path.components = .root :: inner ∧ ∀ c ∈ inner, InnerComponent c := by
  unfold components
  cases hcut : pieces slash path.bytes with
  | nil => exact absurd hcut (pieces_ne_nil _ _)
  | cons first rest =>
    refine ⟨(first :: rest).filterMap innerComponent?, by simp [h], ?_⟩
    intro c hc
    obtain ⟨piece, hpiece, hinner⟩ := List.mem_filterMap.1 hc
    exact innerComponent_of_mem_pieces (hcut ▸ hpiece) hinner

/-- Names above the root. -/
def RootedStack (stack : List Component) : Prop :=
  ∃ names : List (List UInt8), stack = names.map .name ++ [.root]

theorem resolveStep_rooted {stack : List Component} {c : Component} (h : RootedStack stack)
    (hc : InnerComponent c) : RootedStack (resolveStep stack c) := by
  obtain ⟨names, rfl⟩ := h
  rcases hc with rfl | ⟨bytes, -, rfl⟩
  · cases names with
    | nil => exact ⟨[], rfl⟩
    | cons name names => exact ⟨names, rfl⟩
  · exact ⟨bytes :: names, rfl⟩

theorem foldl_resolveStep_rooted {inner stack : List Component} (h : RootedStack stack)
    (hinner : ∀ c ∈ inner, InnerComponent c) : RootedStack (inner.foldl resolveStep stack) := by
  induction inner generalizing stack with
  | nil => exact h
  | cons c rest ih =>
    rw [List.foldl_cons]
    exact ih (resolveStep_rooted h (hinner c List.mem_cons_self))
      fun d hd => hinner d (List.mem_cons_of_mem _ hd)

theorem isAbsolute_normalize {path : FilePath} (h : path.isAbsolute = true) :
    path.normalize.isAbsolute = true := by
  obtain ⟨inner, hcomponents, hinner⟩ := components_of_isAbsolute h
  have hroot : RootedStack (resolveStep [] .root) := ⟨[], rfl⟩
  obtain ⟨names, hstack⟩ := foldl_resolveStep_rooted hroot hinner
  unfold normalize
  rw [hcomponents, List.foldl_cons, hstack, List.reverse_append]
  rfl

/-! ## Section 2: Joining -/

theorem isAbsolute_join {base path : FilePath} (h : base.isAbsolute = true) :
    (base.join path).isAbsolute = true := by
  obtain ⟨bytes⟩ := base
  cases bytes with
  | nil => cases h
  | cons b rest =>
    -- what follows the base leaves its first byte where it is
    unfold join
    split
    · next hpath => simpa using hpath
    · split
      · exact h
      · exact h

theorem isAbsolute_absolute {workingDirectory : FilePath} (h : workingDirectory.isAbsolute = true)
    (path : FilePath) : (absolute (some workingDirectory) path).isAbsolute = true := by
  unfold absolute
  split
  · next hpath => exact isAbsolute_normalize hpath
  · exact isAbsolute_normalize (isAbsolute_join h)

/-- An absolute normal path other than the root has a parent, and this one is
    absolute. -/
theorem exists_parent {path : FilePath} (hnormal : path.IsNormal) (h : path.isAbsolute = true)
    (hroot : path ≠ ⟨[slash]⟩) :
    ∃ parent, path.parent? = some parent ∧ parent.isAbsolute = true := by
  obtain ⟨names, hnames, rfl | rfl⟩ := hnormal.exists_names
  · rw [isAbsolute_spell hnames] at h
    cases h
  · have hne : names ≠ [] := by
      rintro rfl
      exact hroot rfl
    obtain ⟨front, last, rfl⟩ : ∃ front last, names = front ++ [last] :=
      ⟨_, _, (List.dropLast_concat_getLast hne).symm⟩
    refine ⟨ofComponents (.root :: front.map .name), ?_, rfl⟩
    have hcomponents : (FilePath.mk (slash :: spell (front ++ [last]))).components =
        (.root :: front.map .name) ++ [.name last] := by
      rw [components_slash_spell hnames, List.map_append]
      rfl
    unfold parent?
    rw [hcomponents, List.getLast?_concat, List.dropLast_concat]

theorem isAbsolute_resolveInclude {including : FilePath} (hnormal : including.IsNormal)
    (h : including.isAbsolute = true) (hroot : including ≠ ⟨[slash]⟩) (target : String) :
    (including.resolveInclude target).isAbsolute = true := by
  obtain ⟨parent, hparent, habsolute⟩ := exists_parent hnormal h hroot
  unfold resolveInclude
  simp only
  split
  · next htarget => exact isAbsolute_normalize htarget
  · rw [hparent]
    exact isAbsolute_normalize (isAbsolute_join habsolute)

end FilePath

/-! ## Section 3: Paths on a disk -/

namespace Disk

/-- The working directory is given from the root. -/
theorem isAbsolute_workingDirectory {disk : Disk} {workingDirectory : FilePath}
    (h : disk.workingDirectory? = some workingDirectory) : workingDirectory.isAbsolute = true := by
  unfold workingDirectory? at h
  split at h
  · cases h
    rfl
  · cases h
    rfl
  · cases h

theorem isAbsolute_absolute {disk : Disk} (h : disk.workingDirectory?.isSome = true)
    (path : FilePath) : (disk.absolute path).isAbsolute = true := by
  obtain ⟨workingDirectory, hworking⟩ := Option.isSome_iff_exists.1 h
  unfold absolute
  rw [hworking]
  exact FilePath.isAbsolute_absolute (isAbsolute_workingDirectory hworking) path

/-- Only without a working directory is a path known under a relative form. -/
theorem isAbsolute_or_gone (disk : Disk) (path : FilePath) :
    (disk.absolute path).isAbsolute = true ∨ disk.workingDirectory? = none := by
  cases hworking : disk.workingDirectory? with
  | none => exact Or.inr rfl
  | some workingDirectory => exact Or.inl (isAbsolute_absolute (by rw [hworking]; rfl) path)

/-- A normal path is known under itself, unless it is relative to a working directory. -/
theorem absolute_eq_self {disk : Disk} {path : FilePath} (hnormal : path.IsNormal)
    (h : path.isAbsolute = true ∨ disk.workingDirectory? = none) : disk.absolute path = path := by
  unfold absolute FilePath.absolute
  rcases h with habsolute | hgone
  · rw [if_pos habsolute]
    exact hnormal
  · rw [hgone]
    split
    · exact hnormal
    · exact hnormal

theorem absolute_absolute (disk : Disk) (path : FilePath) :
    disk.absolute (disk.absolute path) = disk.absolute path :=
  absolute_eq_self (disk.isNormal_absolute path) (disk.isAbsolute_or_gone path)

/-- The root is a directory. -/
theorem text?_root (disk : Disk) : disk.text? ⟨[slash]⟩ = none := rfl

end Disk

end MakeLens
