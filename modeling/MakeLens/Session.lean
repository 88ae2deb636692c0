import MakeLens.Cursor
import MakeLens.Settings.Load
import MakeLens.Session.Message
import MakeLens.Session.Service

/-! # A session

  The server as a state machine: a state and an event give the next state and a
  response. The disk is whatever it is at the time of the event.
-/

namespace MakeLens

/-- The state of a session. -/
structure Session where
  documents : Documents
  index : Index
  settings : SettingsStore
  /-- The directory of the workspace, known once the session has begun. -/
  root : Option FilePath

namespace Session

/-- The state before the first event. -/
def fresh : Session where
  documents := .empty
  index := .empty
  settings := .empty
  root := none

/-! ### Settings -/

/-- The workspace's directory: that of the first folder, else the root, else the
    working directory. A `.` stands for a working directory that is gone. -/
def chooseRoot (disk : Disk) (folders : List Uri) (root : Option Uri) : FilePath :=
  let asked := (folders.head?.bind Uri.filePath?).orElse fun _ => root.bind Uri.filePath?
  (asked.orElse fun _ => disk.workingDirectory?).getD (.ofString ".")

/-- Loads the settings of the workspace and puts the depth of expansion into effect. -/
def reload (s : Session) (disk : Disk) : Session × List Notice :=
  match s.root with
  | none => (s, [])
  | some root =>
    match s.settings.load disk root with
    | (store, .ok settings) =>
      ({ s with
          settings := store
          index := s.index.setDepth settings.index.maxExpansionDepth },
        [.log .info ("Loaded configuration from " ++ root.display)])
    | (store, .error e) =>
      ({ s with settings := store }, [.alert .warning ("makefile-lsp: " ++ e.message)])

/-- Whether a URI names a settings file. -/
def isSettingsFile (uri : Uri) : Bool :=
  uri.filePath?.any fun path => path.fileName? == some (Utf8.encode Settings.fileName)

/-! ### Documents -/

/-- Whether a document is a build file. -/
def isBuildDocument (s : Session) (uri : Uri) (language : Option String) : Bool :=
  uri.filePath?.any fun path => s.settings.current.isBuildFile path language

/-- The language of an open document. -/
def language? (s : Session) (uri : Uri) : Option String :=
  (s.documents.get? uri).map Document.language

/-- The text of a document: that of the open document, or else that on disk. -/
def documentText? (s : Session) (disk : Disk) (uri : Uri) : Option (List Char) :=
  match s.documents.get? uri with
  | some document => some document.text
  | none =>
    match uri.filePath?.map disk.read with
    | some (.bytes bytes) => some (Utf8.decodeLossy bytes)
    | _ => none

/-- Takes over the index after an operation, with a notice where the user should hear
    of an error. -/
def absorb (s : Session) (outcome : Index × Except ServiceError Unit) : Session × List Notice :=
  ({ s with index := outcome.1 },
    match outcome.2 with
    | .ok _ => []
    | .error e => if e.isReportable then [.alert .warning e.message] else [])

/-- A document was opened. -/
def onOpened (s : Session) (disk : Disk) (uri : Uri) (language : String) (version : Int)
    (text : List Char) : Session × List Notice :=
  let next := { s with documents := s.documents.opened uri language text version }
  if s.isBuildDocument uri (some language) then
    next.absorb (Service.ensure s.index disk uri (some text))
  else (next, [])

/-- A document was changed. -/
def onChanged (s : Session) (disk : Disk) (uri : Uri) (version : Int) (changes : List Change) :
    Session × List Notice :=
  match s.documents.update uri changes version with
  | (_, none) => (s, [])
  | (documents, some text) =>
    let next := { s with documents := documents }
    if next.isBuildDocument uri (next.language? uri) then
      if s.settings.current.index.reindexOnChange then
        next.absorb (Service.reindex s.index disk uri text)
      else next.absorb (Service.ensure s.index disk uri (some text))
    else (next, [])

/-- A document was saved. -/
def onSaved (s : Session) (disk : Disk) (uri : Uri) : Session × List Notice :=
  if s.isBuildDocument uri (s.language? uri) then
    s.absorb (Service.invalidate s.index disk uri)
  else (s, [])

/-! ### Queries -/

/-- The outline of a document: the definitions of its text. -/
def outline (s : Session) (disk : Disk) (uri : Uri) : Option (List Symbol) :=
  if s.settings.current.features.documentSymbols then do
    let text ← s.documentText? disk uri
    let entities ← (Service.symbols disk uri text).toOption
    some ((entities.filter Entity.isDefinition).map fun e =>
      ⟨e.name, e.kind, ⟨uri.text, e.location.range⟩⟩)
  else none

/-- The word at a position of a document. -/
def wordAtPosition? (s : Session) (disk : Disk) (uri : Uri) (line column : UInt32) :
    Option FoundWord := do
  let text ← s.documentText? disk uri
  wordAt? text line.toNat column.toNat

/-- The places of the name at a position. -/
def findDefinition (s : Session) (disk : Disk) (uri : Uri) (line column : UInt32) :
    Session × Option (List Link) :=
  match if s.settings.current.features.definition then s.wordAtPosition? disk uri line column
      else none with
  | none => (s, none)
  | some touched =>
    let (index, found) := Service.definitions s.index disk uri touched.word
    let links := (found.toOption.getD []).filterMap fun l =>
      (Uri.ofFilePath? l.file).map fun uri => Link.mk uri l.range
    ({ s with index := index }, if links.isEmpty then none else some links)

/-- A hover in the words of the editor. -/
def hoverMarkdown (name value : String) : String :=
  "```makefile\n" ++ name ++ "\n```\nexpands to:\n```makefile\n" ++ value ++ "\n```"

/-- The value of the name at a position. -/
def findHover (s : Session) (disk : Disk) (uri : Uri) (line column : UInt32) :
    Session × Option HoverText :=
  match if s.settings.current.features.hover then s.wordAtPosition? disk uri line column
      else none with
  | none => (s, none)
  | some touched =>
    let (index, found) := Service.hoverValue s.index disk uri touched.word line
    ({ s with index := index },
      (found.toOption.bind id).map fun value =>
        ⟨hoverMarkdown touched.word (String.ofList value),
          ⟨line, touched.start, line, touched.stop⟩⟩)

/-! ### Events -/

/-- A state with notices, after an event that asks for no answer. -/
def silently (next : Session × List Notice) : Session × Response :=
  (next.1, ⟨.silent, next.2⟩)

/-- The notices around the registration for changes of settings files. -/
def registration (rejection : Option String) : List Notice :=
  .watchSettings :: match rejection with
    | some reason =>
      [.log .error ("Failed to register watcher: Server error: " ++ reason)]
    | none => []

/-- The state and the response after an event. -/
def step (s : Session) (disk : Disk) : Event → Session × Response
  | .started folders root options =>
    ({ s with
        root := some (chooseRoot disk folders root)
        settings := { s.settings with initial := options } },
      ⟨.capabilities, []⟩)
  | .ready rejection =>
    let (next, notices) := s.reload disk
    (next, ⟨.silent, .log .info "makefile-lsp initialized!" :: notices ++ registration rejection⟩)
  | .shutdown => (s, ⟨.farewell, []⟩)
  | .opened uri language version text => silently (s.onOpened disk uri language version text)
  | .changed uri version changes => silently (s.onChanged disk uri version changes)
  | .saved uri => silently (s.onSaved disk uri)
  | .closed uri => silently ({ s with documents := s.documents.close uri }, [])
  | .watchedFilesChanged uris =>
    if uris.any isSettingsFile then
      let (next, notices) := s.reload disk
      (next, ⟨.silent, .log .info "Reloading configuration..." :: notices⟩)
    else (s, ⟨.silent, []⟩)
  | .symbols uri => (s, ⟨.symbols (s.outline disk uri), []⟩)
  | .definition uri line column =>
    let (next, found) := s.findDefinition disk uri line column
    (next, ⟨.definition found, []⟩)
  | .hover uri line column =>
    let (next, found) := s.findHover disk uri line column
    (next, ⟨.hover found, []⟩)

end Session

end MakeLens
