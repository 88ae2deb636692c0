import MakeLens.Line.Logical
import MakeLens.Entity

/-! # Scanning a build file

  A scan reads a text from top to bottom and yields its entities and its include
  directives in line order. It looks at nothing but the text.
-/

namespace MakeLens

/-- Everything found in one scan. -/
structure Scan where
  /-- The entities, in line order. -/
  entities : List Entity
  /-- The included paths as written, each with its line, in line order. -/
  includes : List (UInt32 × String)
  deriving DecidableEq, Repr

/-- The facts of a text, each with the number of its logical line. -/
def numberedFacts (text : List Char) : List (UInt32 × Fact) :=
  (logicalLines text).zipIdx.flatMap fun (line, number) =>
    if line.all isBlank then []
    else (classify line).map fun fact => (UInt32.ofNat number, fact)

/-- The paths that a fact includes. -/
def Fact.includedPaths : Fact → List String
  | .inclusion paths => paths
  | _ => []

/-- Scans a text as the content of `file`. -/
def scan (text : List Char) (file : FilePath) : Scan :=
  let facts := numberedFacts text
  { entities := facts.filterMap fun (line, fact) => Entity.ofFact? file line fact
    includes := facts.flatMap fun (line, fact) => fact.includedPaths.map fun path => (line, path) }

end MakeLens
