import MakeLens.Path
import MakeLens.Line.Grammar

/-! # Entities

  An entity is one named symbol occurrence in a build file: what it is called,
  what kind of occurrence it is, and where it stands.
-/

namespace MakeLens

/-- The kinds of symbol occurrence. -/
inductive EntityKind where
  /-- A target of a rule. -/
  | target
  /-- A variable that is assigned. -/
  | assignment
  /-- A variable that is used after a leading word. -/
  | reference
  /-- A function that is defined. -/
  | function
  /-- A function that is called. -/
  | call
  deriving DecidableEq, Repr

namespace EntityKind

/-- Whether the occurrence introduces the name rather than using it. -/
def isDefinition : EntityKind → Bool
  | .target | .assignment | .function => true
  | .reference | .call => false

/-- The word for a kind in answers. -/
def label : EntityKind → String
  | .target => "target"
  | .assignment => "variable"
  | .reference => "reference"
  | .function => "function"
  | .call => "call"

/-- The kind a word stands for. -/
def ofLabel? (label : String) : Option EntityKind :=
  [.target, .assignment, .reference, .function, .call].find? fun kind => kind.label == label

end EntityKind

/-- The place of a symbol name: a range of characters on one line of a file. -/
structure Location where
  file : FilePath
  startLine : UInt32
  startColumn : UInt32
  endLine : UInt32
  endColumn : UInt32
  deriving DecidableEq, Repr

/-- One named symbol occurrence. -/
structure Entity where
  name : String
  kind : EntityKind
  /-- The assigned text; empty for everything but assignments. -/
  value : String
  file : FilePath
  line : UInt32
  column : UInt32
  deriving DecidableEq, Repr

namespace Entity

/-- An entity whose value is kept only for an assignment, without its leading
    blanks. -/
def make (name : String) (kind : EntityKind) (value : String) (file : FilePath)
    (line column : UInt32) : Entity where
  name := name
  kind := kind
  value := match kind with
    | .assignment => String.ofList (trimStart value.toList)
    | _ => ""
  file := file
  line := line
  column := column

/-- Whether the occurrence introduces its name. -/
def isDefinition (e : Entity) : Bool :=
  e.kind.isDefinition

/-- The place of the name. -/
def location (e : Entity) : Location where
  file := e.file
  startLine := e.line
  startColumn := e.column
  endLine := e.line
  endColumn := e.column + UInt32.ofNat e.name.length

/-- The entity a fact of a line gives rise to. -/
def ofFact? (file : FilePath) (line : UInt32) : Fact → Option Entity
  | .target name column => some (make name .target "" file line column)
  | .assignment name column value => some (make name .assignment value file line column)
  | .reference name column => some (make name .reference "" file line column)
  | .function name column => some (make name .function "" file line column)
  | .call name column => some (make name .call "" file line column)
  | .specialTarget _ => none
  | .inclusion _ => none

end Entity

end MakeLens
