import MakeLens.Disk
import MakeLens.Index.Cache

/-! # The build pass

  Indexing a file scans it, resolves its include directives, indexes every included
  file that the cache does not hold yet, and stores the file's own entry last. The
  files being indexed are remembered, so that a circular include is not entered
  again. A read fault on an included file is noted and does not stop the pass.
-/

namespace MakeLens

/-- A file that could not be read, and why. -/
structure ReadFailure where
  path : FilePath
  cause : ReadFault
  deriving DecidableEq, Repr

/-- The wording of a failure. -/
def ReadFailure.message (failure : ReadFailure) : String :=
  "Failed to read " ++ failure.path.display ++ ": " ++ failure.cause.message

/-- The state of a pass. -/
structure Pass where
  cache : Cache
  /-- The files being indexed, innermost first. -/
  inProgress : List FilePath
  /-- The failures met on included files, first to last. -/
  failures : List ReadFailure

namespace Pass

/-- A pass over a cache that has not begun. -/
def start (cache : Cache) : Pass where
  cache := cache
  inProgress := []
  failures := []

/-- Makes sure that an included file has an entry. Entries that are there are
    trusted, and files being indexed are not entered again; `index` takes in the text
    of any other file. -/
def visitInclude (disk : Disk) (index : Pass → FilePath → List Char → Pass) (pass : Pass)
    (file : FilePath) : Pass :=
  if pass.cache.contains file || file ∈ pass.inProgress then pass
  else match disk.read file with
    | .bytes bytes => index pass file (Utf8.decodeLossy bytes)
    | .missing => pass
    | .fault cause => { pass with failures := pass.failures ++ [⟨file, cause⟩] }

/-- Indexes `text` as the content of `path`, entering included files at most `room`
    levels deep. -/
def indexNested (disk : Disk) : (room : Nat) → Pass → FilePath → List Char → Pass
  | 0, pass, _, _ => pass
  | room + 1, pass, path, text =>
    let path := path.normalize
    if path ∈ pass.inProgress then pass
    else
      let index := FileIndex.ofText path text
      let entered := { pass with inProgress := path :: pass.inProgress }
      let visited := index.includes.foldl (visitInclude disk (indexNested disk room)) entered
      { visited with
        cache := visited.cache.insert index
        inProgress := visited.inProgress.erase path }

/-- How deep a pass can nest. A file has at most two normalised paths, one from the
    root and one from the working directory, and no path is entered twice. -/
def nesting (disk : Disk) : Nat :=
  2 * disk.nodes.length + 1

/-- Indexes `text` as the content of `path`, with everything it includes. -/
def indexText (disk : Disk) (pass : Pass) (path : FilePath) (text : List Char) : Pass :=
  indexNested disk (nesting disk) pass path text

/-- Indexes the file at `path`, with everything it includes. A file that does not
    exist changes nothing; one that cannot be read is the failure returned. -/
def indexFile (disk : Disk) (pass : Pass) (path : FilePath) : Pass × Option ReadFailure :=
  match disk.read path with
  | .bytes bytes => (indexText disk pass path (Utf8.decodeLossy bytes), none)
  | .missing => (pass, none)
  | .fault cause => (pass, some ⟨path, cause⟩)

/-- The first failure met on an included file. -/
def failure? (pass : Pass) : Option ReadFailure :=
  pass.failures.head?

end Pass

end MakeLens
