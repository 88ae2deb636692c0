import MakeLens.Documents
import MakeLens.Entity
import MakeLens.Json

/-! # Messages of a session

  What an editor tells the server, what the server answers, and what it says without
  being asked.
-/

namespace MakeLens

/-- What an editor tells the server. -/
inductive Event where
  /-- The session begins. -/
  | started (folders : List Uri) (root : Option Uri) (options : Option Json)
  /-- The editor is ready. `rejection` is its answer to the registration that follows,
      where it refuses it. -/
  | ready (rejection : Option String)
  /-- The session is about to end. -/
  | shutdown
  /-- A document was opened. -/
  | opened (uri : Uri) (language : String) (version : Int) (text : List Char)
  /-- An open document was changed. -/
  | changed (uri : Uri) (version : Int) (changes : List Change)
  /-- A document was saved. -/
  | saved (uri : Uri)
  /-- A document was closed. -/
  | closed (uri : Uri)
  /-- Watched files have changed on disk. -/
  | watchedFilesChanged (uris : List Uri)
  /-- The outline of a document is asked for. -/
  | symbols (uri : Uri)
  /-- The places of the name at a position are asked for. -/
  | definition (uri : Uri) (line column : UInt32)
  /-- The value of the name at a position is asked for. -/
  | hover (uri : Uri) (line column : UInt32)

/-- A range of characters. -/
structure Range where
  startLine : UInt32
  startColumn : UInt32
  endLine : UInt32
  endColumn : UInt32
  deriving DecidableEq, Repr

/-- A range in a document. -/
structure Link where
  uri : String
  range : Range
  deriving DecidableEq, Repr

/-- A line of an outline. -/
structure Symbol where
  name : String
  kind : EntityKind
  link : Link
  deriving DecidableEq, Repr

/-- The value of a name, and the name's own range. -/
structure HoverText where
  value : String
  range : Range
  deriving DecidableEq, Repr

/-- How serious a notice is. -/
inductive Severity where
  | error
  | warning
  | info
  deriving DecidableEq, Repr

/-- What the server says without being asked. -/
inductive Notice where
  /-- A line for the log. -/
  | log (severity : Severity) (text : String)
  /-- A line for the user. -/
  | alert (severity : Severity) (text : String)
  /-- The wish to hear of changes of settings files. -/
  | watchSettings
  deriving DecidableEq, Repr

/-- The answer to an event. -/
inductive Answer where
  /-- The event asks for no answer. -/
  | silent
  /-- What the server can do. -/
  | capabilities
  /-- The session may end. -/
  | farewell
  | symbols (found : Option (List Symbol))
  | definition (found : Option (List Link))
  | hover (found : Option HoverText)
  deriving DecidableEq, Repr

/-- The answer to an event and the notices sent on the way. -/
structure Response where
  answer : Answer
  notices : List Notice
  deriving DecidableEq, Repr

/-- The range of a location. -/
def Location.range (l : Location) : Range :=
  ⟨l.startLine, l.startColumn, l.endLine, l.endColumn⟩

end MakeLens
