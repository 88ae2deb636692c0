import MakeLens.Session

/-! # A session on the wire

  Answers and notices as JSON, in the shapes of the Language Server Protocol. Members
  that have no value are left out.
-/

namespace MakeLens

/-- The place of a character. -/
def positionJson (line column : UInt32) : Json :=
  .ofMembers [("line", .int line.toNat), ("character", .int column.toNat)]

/-- A range as JSON. -/
def Range.toJson (r : Range) : Json :=
  .ofMembers [("start", positionJson r.startLine r.startColumn),
    ("end", positionJson r.endLine r.endColumn)]

/-- A link as JSON. -/
def Link.toJson (l : Link) : Json :=
  .ofMembers [("uri", .str l.uri), ("range", l.range.toJson)]

/-- The number by which editors know the kind of a defining entity; what defines
    nothing has none. -/
def symbolNumber? : EntityKind → Option Nat
  | .target => some 8
  | .assignment => some 13
  | .function => some 12
  | .reference => none
  | .call => none

/-- A line of an outline as JSON. -/
def Symbol.toJson? (s : Symbol) : Option Json :=
  (symbolNumber? s.kind).map fun number =>
    .ofMembers [("name", .str s.name), ("kind", .int number), ("location", s.link.toJson)]

/-- A hover as JSON. -/
def HoverText.toJson (h : HoverText) : Json :=
  .ofMembers [
    ("contents", .ofMembers [("kind", .str "markdown"), ("value", .str h.value)]),
    ("range", h.range.toJson)]

/-- What the server can do, as JSON. -/
def capabilitiesJson : Json :=
  .ofMembers [
    ("capabilities", .ofMembers [
      ("definitionProvider", .bool true),
      ("documentSymbolProvider", .bool true),
      ("hoverProvider", .bool true),
      ("textDocumentSync", .ofMembers [
        ("change", .int 1),
        ("openClose", .bool true),
        ("save", .ofMembers [("includeText", .bool false)])])]),
    ("serverInfo", .ofMembers [("name", .str "makefile-lsp"), ("version", .str "0.1.0")])]

/-- An answer as JSON, where one is due. -/
def Answer.toJson? : Answer → Option Json
  | .silent => none
  | .capabilities => some capabilitiesJson
  | .farewell => some .null
  | .symbols found => some ((found.map fun l => .arr (l.filterMap Symbol.toJson?)).getD .null)
  | .definition found => some ((found.map fun l => .arr (l.map Link.toJson)).getD .null)
  | .hover found => some ((found.map HoverText.toJson).getD .null)

/-- The number of a severity. -/
def Severity.number : Severity → Nat
  | .error => 1
  | .warning => 2
  | .info => 3

/-- A line of text as JSON. -/
def messageJson (severity : Severity) (text : String) : Json :=
  .ofMembers [("type", .int severity.number), ("message", .str text)]

/-- The registration for changes of settings files, as JSON. -/
def registrationJson : Json :=
  .ofMembers [("registrations", .arr [.ofMembers [
    ("id", .str "makefile-lsp-config-watcher"),
    ("method", .str "workspace/didChangeWatchedFiles"),
    ("registerOptions", .ofMembers [("watchers", .arr [
      .ofMembers [("globPattern", .str ("**/" ++ Settings.fileName))]])])]])]

/-- A notice as JSON. -/
def Notice.toJson : Notice → Json
  | .log severity text =>
    .ofMembers [("method", .str "window/logMessage"), ("params", messageJson severity text)]
  | .alert severity text =>
    .ofMembers [("method", .str "window/showMessage"), ("params", messageJson severity text)]
  | .watchSettings =>
    .ofMembers [("method", .str "client/registerCapability"), ("params", registrationJson)]

/-- A response as JSON: its answer and its notices, where there are any. -/
def Response.toJson (r : Response) : Json :=
  .ofMembers (
    (r.answer.toJson?.map fun answer => ("result", answer)).toList ++
    if r.notices.isEmpty then [] else [("client", .arr (r.notices.map Notice.toJson))])

end MakeLens
