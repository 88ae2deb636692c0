import MakeLens.Scan

/-! # The index of one file

  A file's entities in line order, grouped by name for lookup, and the files it
  includes directly.
-/

namespace MakeLens

/-- A file's entities and the files it includes. -/
structure FileIndex where
  path : FilePath
  /-- All entities, in line order. -/
  entities : List Entity
  /-- For each name its positions in `entities`, ascending. -/
  groups : List (String × List Nat)
  /-- The files included directly, in the order of their directives. -/
  includes : List FilePath
  deriving DecidableEq, Repr

namespace FileIndex

/-- Adds a position to the group of a name. -/
def addPosition (name : String) (position : Nat) :
    List (String × List Nat) → List (String × List Nat)
  | [] => [(name, [position])]
  | (n, positions) :: rest =>
    if n = name then (n, positions ++ [position]) :: rest
    else (n, positions) :: addPosition name position rest

/-- The groups of a list of entities. -/
def groupByName (entities : List Entity) : List (String × List Nat) :=
  entities.zipIdx.foldl (fun groups (e, position) => addPosition e.name position groups) []

/-- The index of a file with the given entities and includes. -/
def make (path : FilePath) (entities : List Entity) (includes : List FilePath) : FileIndex where
  path := path
  entities := entities
  groups := groupByName entities
  includes := includes

/-- The positions of the entities with a name. -/
def positions (index : FileIndex) (name : String) : List Nat :=
  ((index.groups.find? fun g => g.1 == name).map Prod.snd).getD []

/-- The entities with a name, in line order. -/
def lookup (index : FileIndex) (name : String) : List Entity :=
  (index.positions name).filterMap fun position => index.entities[position]?

/-- Whether some entity has a name. -/
def contains (index : FileIndex) (name : String) : Bool :=
  index.groups.any fun g => g.1 == name

/-- How many different names the entities have. -/
def symbolCount (index : FileIndex) : Nat :=
  index.groups.length

/-- The entities that define a name, in line order. -/
def definitions (index : FileIndex) (name : String) : List Entity :=
  (index.lookup name).filter Entity.isDefinition

end FileIndex

/-- The files that a scan of `path` includes, in the order of the directives. A path
    with an unexpanded `$` names no file. -/
def Scan.includedFiles (s : Scan) (path : FilePath) : List FilePath :=
  (s.includes.filter fun i => !i.2.toList.contains '$').map fun i => path.resolveInclude i.2

/-- The index of a file from its text. -/
def FileIndex.ofText (path : FilePath) (text : List Char) : FileIndex :=
  let s := scan text path
  .make path s.entities (s.includedFiles path)

end MakeLens
