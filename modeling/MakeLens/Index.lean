import MakeLens.Index.Pass
import MakeLens.Index.Expansion

/-! # The symbol index

  The index that an editor queries: a cache of file indices and the greatest depth of
  expansion. Every operation takes paths relative to the working directory of the
  disk and reads the disk only where the cache has no entry, or where it is told that
  a file has changed.
-/

namespace MakeLens

/-- A cache and the depth of expansion in effect. -/
structure Index where
  cache : Cache
  depth : Nat
  /-- At least the queried definition itself is expanded. -/
  depth_pos : 0 < depth

namespace Index

/-- The depth of expansion unless settings say otherwise. -/
def defaultDepth : Nat := 64

/-- The index before any file is known. -/
def empty : Index where
  cache := .empty
  depth := defaultDepth
  depth_pos := by decide

/-- Sets the depth of expansion; less than one counts as one. -/
def setDepth (index : Index) (depth : Nat) : Index :=
  { index with depth := max depth 1, depth_pos := by omega }

/-- Puts another cache in the index. -/
def withCache (index : Index) (cache : Cache) : Index :=
  { index with cache := cache }

/-- The entities of one text in line order. Neither cache nor disk has a part in
    this. -/
def symbols (disk : Disk) (path : FilePath) (text : List Char) : List Entity :=
  (scan text (disk.absolute path)).entities

/-! ### Keeping entries

    The first three operations take a path in the form under which the cache knows
    it; the others bring any path into this form. -/

/-- Puts the scan of a text in the place of a path's entry. -/
def takeText (index : Index) (disk : Disk) (path : FilePath) (text : List Char) :
    Index × Option ReadFailure :=
  let pass := Pass.indexText disk (.start index.cache) path text
  (index.withCache pass.cache, pass.failure?)

/-- Puts the scan of a file in the place of its entry. A failure on the file itself
    changes nothing. -/
def takeFile (index : Index) (disk : Disk) (path : FilePath) : Index × Option ReadFailure :=
  match Pass.indexFile disk (.start index.cache) path with
  | (_, some failure) => (index, some failure)
  | (pass, none) => (index.withCache pass.cache, pass.failure?)

/-- Makes sure that a path has an entry. One that is there stays. -/
def provide (index : Index) (disk : Disk) (path : FilePath) (text : Option (List Char)) :
    Index × Option ReadFailure :=
  if index.cache.contains path then (index, none)
  else match text with
    | some text => index.takeText disk path text
    | none => index.takeFile disk path

/-- Puts the scan of a text in the place of a file's entry. -/
def reindex (index : Index) (disk : Disk) (path : FilePath) (text : List Char) :
    Index × Option ReadFailure :=
  index.takeText disk (disk.absolute path) text

/-- Makes sure that a file has an entry: from `text` where it is given, from the disk
    otherwise. An entry that is there stays. -/
def ensure (index : Index) (disk : Disk) (path : FilePath) (text : Option (List Char)) :
    Index × Option ReadFailure :=
  index.provide disk (disk.absolute path) text

/-- Scans a file again. A file that is gone loses its entry. A failure on an included file
    is returned at the very end. -/
def invalidate (index : Index) (disk : Disk) (path : FilePath) : Index × Option ReadFailure :=
  let path := disk.absolute path
  match Pass.indexFile disk (.start index.cache) path with
  | (_, some failure) => (index, some failure)
  | (pass, none) =>
    -- the disk is asked a second time, whether there is anything at the path
    let cache := if disk.pathExists path then pass.cache else pass.cache.remove path
    (index.withCache cache, pass.failure?)

/-! ### Queries -/

/-- The locations of all entities with a name that a file sees: its own first, then
    those of the included files in discovery order. -/
def locations (cache : Cache) (path : FilePath) (name : String) : List Location :=
  (path :: cache.includeClosure path).flatMap fun file =>
    (((cache.get? file).map fun index => index.lookup name).getD []).map Entity.location

/-- Where a name occurs, as seen from a file. A file without an entry is read
    first. -/
def definitions (index : Index) (disk : Disk) (path : FilePath) (name : String) :
    Index × List Location :=
  let path := disk.absolute path
  -- a failure leaves the query with what the cache has
  let (ready, _) := index.provide disk path none
  (ready, locations ready.cache path name)

/-- The expanded value of a name at a line of a file. A file without an entry is read
    first. -/
def hoverValue (index : Index) (disk : Disk) (path : FilePath) (name : String) (line : UInt32) :
    Index × Option (List Char) :=
  let path := disk.absolute path
  let (ready, _) := index.provide disk path none
  (ready, ready.cache.expand ready.depth name path line)

/-- The include closure of a file. -/
def includeSet (index : Index) (disk : Disk) (path : FilePath) : List FilePath :=
  index.cache.includeClosure (disk.absolute path)

/-- Whether a file has an entry. -/
def isIndexed (index : Index) (disk : Disk) (path : FilePath) : Bool :=
  index.cache.contains (disk.absolute path)

end Index

end MakeLens
