import MakeLens.Index.Closure

/-! # The definition in effect

  What a name means at a line of a file: the last definition in the file at or above
  the line, or else the last one among the included files in discovery order. Uses
  of the name never count.
-/

namespace MakeLens

/-- The last definition of a name at or above a line. -/
def FileIndex.nearestDefinition? (index : FileIndex) (name : String) (line : UInt32) :
    Option Entity :=
  ((index.definitions name).takeWhile fun e => e.line ≤ line).getLast?

/-- The last definition of a name. -/
def FileIndex.lastDefinition? (index : FileIndex) (name : String) : Option Entity :=
  (index.definitions name).getLast?

namespace Cache

/-- The definition of a name that the included files of a file provide. -/
def includedDefinition? (cache : Cache) (name : String) (file : FilePath) : Option Entity :=
  ((cache.includeClosure file).filterMap fun path =>
    (cache.get? path).bind fun index => index.lastDefinition? name).getLast?

/-- The definition of a name in effect at a line of a file. -/
def definition? (cache : Cache) (name : String) (file : FilePath) (line : UInt32) :
    Option Entity :=
  match (cache.get? file).bind fun index => index.nearestDefinition? name line with
  | some e => some e
  | none => cache.includedDefinition? name file

end Cache

end MakeLens
