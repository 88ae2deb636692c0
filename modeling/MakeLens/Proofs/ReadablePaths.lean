import MakeLens.Proofs.NormalPath

/-! # The readable paths of a disk

    A file is known by at most two normal paths: one from the root and one from
    the working directory. So the normal paths that can be read at all stand in a
    list twice as long as the disk has nodes. This is what bounds the nesting of a
    build pass.
-/

namespace MakeLens.Disk

/-! ## Section 1: Reading a text -/

/-- The text that a disk holds at a path, where it can be read. -/
def text? (disk : Disk) (path : FilePath) : Option (List Char) :=
  match disk.read path with
  | .bytes bytes => some (Utf8.decodeLossy bytes)
  | _ => none

theorem text?_eq_some_iff {disk : Disk} {path : FilePath} {text : List Char} :
    disk.text? path = some text ↔
      ∃ bytes, disk.read path = .bytes bytes ∧ Utf8.decodeLossy bytes = text := by
  unfold text?
  constructor
  · intro h
    split at h
    · next bytes hread => exact ⟨bytes, hread, Option.some.inj h⟩
    · simp at h
  · rintro ⟨bytes, hread, rfl⟩
    rw [hread]

theorem text?_of_bytes {disk : Disk} {path : FilePath} {bytes : List UInt8}
    (h : disk.read path = .bytes bytes) : disk.text? path = some (Utf8.decodeLossy bytes) :=
  text?_eq_some_iff.2 ⟨bytes, h, rfl⟩

theorem text?_of_missing {disk : Disk} {path : FilePath} (h : disk.read path = .missing) :
    disk.text? path = none := by
  unfold text?
  rw [h]

theorem text?_of_fault {disk : Disk} {path : FilePath} {cause : ReadFault}
    (h : disk.read path = .fault cause) : disk.text? path = none := by
  unfold text?
  rw [h]

/-! ## Section 2: Walking names -/

/-- A walk over proper names that ends at a node has found it where the names
    lead. -/
theorem node?_of_walk_names {disk : Disk} {names : List (List UInt8)} {here : Place} {node : Node}
    (hnames : ∀ n ∈ names, FilePath.IsName n) (h : disk.walk here names = .reached node) :
    disk.node? (here ++ names) = some node := by
  induction names generalizing here with
  | nil =>
    rw [List.append_nil]
    unfold walk at h
    split at h
    · next found hfound =>
      cases h
      exact hfound
    · cases h
  | cons name rest ih =>
    have hname := hnames name List.mem_cons_self
    have hrest : ∀ n ∈ rest, FilePath.IsName n := fun n hn => hnames n (List.mem_cons_of_mem _ hn)
    unfold walk at h
    split at h
    · cases h
    · cases h
    · cases h
    · rw [if_neg hname.ne_nil] at h
      cases h
    · -- a proper name goes one step down
      rw [if_neg (not_or.2 ⟨hname.ne_nil, hname.ne_current⟩), if_neg hname.ne_parent] at h
      split at h
      · cases h
      · have hfound := ih hrest h
        rw [List.append_assoc, List.singleton_append] at hfound
        exact hfound

/-- A file stands among the nodes of its disk. -/
theorem mem_nodes_of_node?_file {disk : Disk} {place : Place} {bytes : List UInt8}
    (h : disk.node? place = some (.file bytes)) : (place, Node.file bytes) ∈ disk.nodes := by
  unfold node? at h
  split at h
  · -- the root is a directory
    simp at h
  · obtain ⟨⟨found, node⟩, hfind, hnode⟩ := Option.map_eq_some_iff.1 h
    have hmem := List.mem_of_find?_eq_some hfind
    have hplace : found = place := by simpa using List.find?_some hfind
    have hfile : node = .file bytes := hnode
    rw [← hplace, ← hfile]
    exact hmem

/-- Where a path that reads as bytes leads. -/
theorem follow_of_read_bytes {disk : Disk} {path : FilePath} {bytes : List UInt8}
    (h : disk.read path = .bytes bytes) : disk.follow path = .reached (.file bytes) := by
  unfold read at h
  split at h
  · next found hfollow =>
    cases h
    exact hfollow
  · cases h
  · cases h
  · cases h
  · cases h
  · cases h

/-- A path that leads somewhere is walked from the root or from the working directory. -/
theorem walk_of_follow {disk : Disk} {path : FilePath} {node : Node}
    (h : disk.follow path = .reached node) :
    disk.walk (if path.isAbsolute then [] else disk.workingPlace) (pieces slash path.bytes) =
      .reached node := by
  unfold follow at h
  split at h
  · cases h
  · split at h
    · cases h
    · split at h
      · cases h
      · split at h
        · next habsolute =>
          rw [if_pos habsolute]
          exact h
        · next hrelative =>
          rw [if_neg hrelative]
          exact h

/-- Whatever a walk goes through, it ends at some place of the disk. -/
theorem exists_node?_of_walk {disk : Disk} {parts : List (List UInt8)} {here : Place} {node : Node}
    (h : disk.walk here parts = .reached node) : ∃ place, disk.node? place = some node := by
  induction parts generalizing here with
  | nil =>
    unfold walk at h
    split at h
    · next found hfound =>
      cases h
      exact ⟨here, hfound⟩
    · cases h
  | cons part rest ih =>
    unfold walk at h
    split at h
    · cases h
    · cases h
    · cases h
    · split at h
      · exact ih h
      · cases h
    · split at h
      · exact ih h
      · split at h
        · exact ih h
        · split at h
          · cases h
          · exact ih h

/-- Every text that can be read is the content of a file of the disk. -/
theorem exists_file_of_text? {disk : Disk} {path : FilePath} {text : List Char}
    (h : disk.text? path = some text) :
    ∃ place bytes, (place, Node.file bytes) ∈ disk.nodes ∧ Utf8.decodeLossy bytes = text := by
  obtain ⟨bytes, hread, htext⟩ := text?_eq_some_iff.1 h
  obtain ⟨place, hnode⟩ := exists_node?_of_walk (walk_of_follow (follow_of_read_bytes hread))
  exact ⟨place, bytes, mem_nodes_of_node?_file hnode, htext⟩

/-! ## Section 3: The list of readable paths -/

/-- The two normal paths that can lead to a place: from the root and from the
    working directory. -/
def pathsTo (disk : Disk) (place : Place) : List FilePath :=
  [⟨slash :: FilePath.spell place⟩, ⟨FilePath.spell (place.drop disk.workingPlace.length)⟩]

/-- The normal paths that can lead to a node of the disk. -/
def nodePaths (disk : Disk) : List FilePath :=
  disk.nodes.flatMap fun node => disk.pathsTo node.1

theorem length_nodePaths (disk : Disk) : disk.nodePaths.length = 2 * disk.nodes.length := by
  unfold nodePaths
  induction disk.nodes with
  | nil => rfl
  | cons node rest ih =>
    rw [List.flatMap_cons, List.length_append, ih, List.length_cons]
    show 2 + 2 * rest.length = 2 * (rest.length + 1)
    omega

/-- A normal path from the root that reads as bytes leads to one of the nodes. -/
theorem mem_nodePaths_of_root {disk : Disk} {names : List (List UInt8)} {bytes : List UInt8}
    (hnames : ∀ n ∈ names, FilePath.IsName n)
    (h : disk.follow ⟨slash :: FilePath.spell names⟩ = .reached (.file bytes)) :
    (⟨slash :: FilePath.spell names⟩ : FilePath) ∈ disk.nodePaths := by
  have hcut : pieces slash (slash :: FilePath.spell names) =
      [] :: pieces slash (FilePath.spell names) := by
    rw [pieces, if_pos rfl]
  have hwalk : disk.walk [] (pieces slash (FilePath.spell names)) = .reached (.file bytes) := by
    have hfull := walk_of_follow h
    rw [show (FilePath.mk (slash :: FilePath.spell names)).isAbsolute = true from rfl,
      if_pos rfl] at hfull
    change disk.walk [] (pieces slash (slash :: FilePath.spell names)) = _ at hfull
    rw [hcut] at hfull
    -- the empty piece before the first separator stays at the root
    exact hfull
  cases names with
  | nil =>
    -- the root alone
    cases hwalk
  | cons name rest =>
    rw [FilePath.pieces_spell (by simp) fun n hn => (hnames n hn).slash_not_mem] at hwalk
    have hnode := node?_of_walk_names hnames hwalk
    rw [List.nil_append] at hnode
    have hmem := mem_nodes_of_node?_file hnode
    exact List.mem_flatMap.2 ⟨_, hmem, List.mem_cons_self⟩

/-- The same for a normal path from the working directory. -/
theorem mem_nodePaths_of_working {disk : Disk} {names : List (List UInt8)} {bytes : List UInt8}
    (hnames : ∀ n ∈ names, FilePath.IsName n)
    (h : disk.follow ⟨FilePath.spell names⟩ = .reached (.file bytes)) :
    (⟨FilePath.spell names⟩ : FilePath) ∈ disk.nodePaths := by
  cases names with
  | nil =>
    -- the empty path leads nowhere
    cases h
  | cons name rest =>
    have habs := FilePath.isAbsolute_spell hnames
    have hcut : pieces slash (FilePath.spell (name :: rest)) = name :: rest :=
      FilePath.pieces_spell (by simp) fun n hn => (hnames n hn).slash_not_mem
    have hwalk : disk.walk disk.workingPlace (name :: rest) = .reached (.file bytes) := by
      have hfull := walk_of_follow h
      rw [habs, if_neg (by simp), hcut] at hfull
      exact hfull
    have hmem := mem_nodes_of_node?_file (node?_of_walk_names hnames hwalk)
    refine List.mem_flatMap.2 ⟨_, hmem, ?_⟩
    unfold pathsTo
    rw [List.drop_left]
    exact List.mem_cons_of_mem _ List.mem_cons_self

/-- Every normal path with a text leads to one of the nodes. -/
theorem mem_nodePaths {disk : Disk} {path : FilePath} {text : List Char} (hnormal : path.IsNormal)
    (h : disk.text? path = some text) : path ∈ disk.nodePaths := by
  obtain ⟨bytes, hread, -⟩ := text?_eq_some_iff.1 h
  have hfollow := follow_of_read_bytes hread
  obtain ⟨names, hnames, rfl | rfl⟩ := hnormal.exists_names
  · exact mem_nodePaths_of_working hnames hfollow
  · exact mem_nodePaths_of_root hnames hfollow

end MakeLens.Disk
