import MakeLens.Index.Expansion

/-! # Looking up a file under any spelling

  A file is the same file under every spelling of its path with the same components. The
  cache knows it under the plain one: every path that the index itself stores, compares
  or looks up is normalised, and so it is plain. A path that is asked for from outside is
  made plain first.
-/

namespace MakeLens.Cache

/-- The entry of a file, however its path is spelled. -/
def entryAt? (cache : Cache) (path : FilePath) : Option FileIndex :=
  cache.get? path.plain

/-- Drops the entry of a file and returns it. -/
def removeAt (cache : Cache) (path : FilePath) : Cache × Option FileIndex :=
  (cache.remove path.plain, cache.entryAt? path)

/-- The files that a file includes, directly or not, in discovery order. -/
def closureAt (cache : Cache) (path : FilePath) : List FilePath :=
  cache.includeClosure path.plain

/-- The definition of a name in effect at a line of a file. -/
def definitionAt? (cache : Cache) (name : String) (path : FilePath) (line : UInt32) :
    Option Entity :=
  cache.definition? name path.plain line

/-- The expansion of a name as seen from a line of a file. -/
def expandAt (cache : Cache) (depth : Nat) (name : String) (path : FilePath) (line : UInt32) :
    Option (List Char) :=
  cache.expand depth name path.plain line

end MakeLens.Cache
