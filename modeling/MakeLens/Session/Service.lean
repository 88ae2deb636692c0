import MakeLens.Documents
import MakeLens.Index

/-! # The index by URI

  Editors name files by URIs. Every operation of the index is available for the file
  that a URI names, and refused for a URI that names none. An open document is
  asked for in the same way.
-/

namespace MakeLens

/-- Why an operation on a document failed. -/
inductive ServiceError where
  /-- No open document has the URI. -/
  | documentNotFound (uri : String)
  /-- The URI names no file. -/
  | notAFile (uri : String)
  /-- A file could not be read. -/
  | index (failure : ReadFailure)
  deriving DecidableEq, Repr

namespace ServiceError

/-- The wording of an error. -/
def message : ServiceError → String
  | .documentNotFound uri => "Document not found: " ++ uri
  | .notAFile uri => "Not a file URI: " ++ uri
  | .index failure => failure.message

/-- Whether the user should hear of an error. -/
def isReportable : ServiceError → Bool
  | .index _ => true
  | _ => false

end ServiceError

/-- The file that a URI names. -/
def Uri.file (uri : Uri) : Except ServiceError FilePath :=
  match uri.filePath? with
  | some path => .ok path
  | none => .error (.notAFile uri.text)

namespace Service

/-- The answer of an operation that may have met a failure. -/
def ofFailure : Option ReadFailure → Except ServiceError Unit
  | some failure => .error (.index failure)
  | none => .ok ()

/-- Runs an operation on the file that a URI names; without a file nothing changes. -/
def onFile {α : Type} (index : Index) (uri : Uri)
    (operation : FilePath → Index × Except ServiceError α) : Index × Except ServiceError α :=
  match uri.file with
  | .ok path => operation path
  | .error e => (index, .error e)

/-- The entities of a text as the content of a file. -/
def symbols (disk : Disk) (uri : Uri) (text : List Char) : Except ServiceError (List Entity) :=
  uri.file.map fun path => Index.symbols disk path text

/-- Makes sure that a file has an entry. -/
def ensure (index : Index) (disk : Disk) (uri : Uri) (text : Option (List Char)) :
    Index × Except ServiceError Unit :=
  onFile index uri fun path => (index.ensure disk path text).map id ofFailure

/-- Puts the scan of a text in the place of a file's entry. -/
def reindex (index : Index) (disk : Disk) (uri : Uri) (text : List Char) :
    Index × Except ServiceError Unit :=
  onFile index uri fun path => (index.reindex disk path text).map id ofFailure

/-- Scans a file again. -/
def invalidate (index : Index) (disk : Disk) (uri : Uri) : Index × Except ServiceError Unit :=
  onFile index uri fun path => (index.invalidate disk path).map id ofFailure

/-- Where a name occurs, as seen from a file. -/
def definitions (index : Index) (disk : Disk) (uri : Uri) (name : String) :
    Index × Except ServiceError (List Location) :=
  onFile index uri fun path => (index.definitions disk path name).map id .ok

/-- The expanded value of a name at a line of a file. -/
def hoverValue (index : Index) (disk : Disk) (uri : Uri) (name : String) (line : UInt32) :
    Index × Except ServiceError (Option (List Char)) :=
  onFile index uri fun path => (index.hoverValue disk path name line).map id .ok

end Service

/-- The open document of a URI. -/
def Documents.require (documents : Documents) (uri : Uri) : Except ServiceError Document :=
  match documents.get? uri with
  | some document => .ok document
  | none => .error (.documentNotFound uri.text)

end MakeLens
