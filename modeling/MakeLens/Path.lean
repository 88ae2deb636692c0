import MakeLens.Text.Blank
import MakeLens.Text.Utf8

/-! # File paths

  A path keeps the bytes it was spelled with. Its meaning is its list of
  components: repeated separators and `.` components inside a path do not count,
  a `.` at the start of a relative path does.

  `normalize` brings a path into the form under which the index stores it: no
  `.` and no `..` component, each `..` having taken away the name before it.
-/

namespace MakeLens

/-- A file path as its bytes, separated by `/`. -/
structure FilePath where
  bytes : List UInt8
  deriving DecidableEq, Repr

/-- One component of a path. -/
inductive Component where
  /-- The root directory, first component of an absolute path. -/
  | root
  /-- A leading `.`. -/
  | current
  /-- A `..`. -/
  | parent
  /-- The name of an entry. -/
  | name (bytes : List UInt8)
  deriving DecidableEq, Repr

/-- The separator of components. -/
def slash : UInt8 := 0x2F

/-- The full stop. -/
def dot : UInt8 := 0x2E

/-- The spelling of a component. -/
def Component.bytes : Component → List UInt8
  | .root => []
  | .current => [dot]
  | .parent => [dot, dot]
  | .name bytes => bytes

namespace FilePath

/-! ### Spelling -/

/-- The path with the given spelling. -/
def ofString (text : String) : FilePath :=
  ⟨Utf8.encode text⟩

/-- A path for the eye: malformed bytes are replaced. -/
def display (path : FilePath) : String :=
  String.ofList (Utf8.decodeLossy path.bytes)

/-- Whether a path starts at the root. -/
def isAbsolute (path : FilePath) : Bool :=
  path.bytes.head? == some slash

/-! ### Components -/

/-- The component a piece between separators stands for, past the start. -/
def innerComponent? (piece : List UInt8) : Option Component :=
  if piece = [] ∨ piece = [dot] then none
  else if piece = [dot, dot] then some .parent
  else some (.name piece)

/-- The components of a path. -/
def components (path : FilePath) : List Component :=
  match pieces slash path.bytes with
  | [] => []
  | first :: rest =>
    let start := if path.isAbsolute then [.root] else if first = [dot] then [.current] else []
    start ++ (first :: rest).filterMap innerComponent?

/-- Spells pieces with a separator between them. -/
def spell : List (List UInt8) → List UInt8
  | [] => []
  | [piece] => piece
  | piece :: rest => piece ++ slash :: spell rest

/-- The plainest path with the given components. -/
def ofComponents : List Component → FilePath
  | .root :: rest => ⟨slash :: spell (rest.map Component.bytes)⟩
  | components => ⟨spell (components.map Component.bytes)⟩

/-- The path without redundant separators and `.` components. Two paths mean the
    same file exactly when their plain forms are equal. -/
def plain (path : FilePath) : FilePath :=
  ofComponents path.components

/-- The directory a path lies in, unless it is empty or the root. -/
def parent? (path : FilePath) : Option FilePath :=
  match path.components.getLast? with
  | none | some .root => none
  | some _ => some (ofComponents path.components.dropLast)

/-- The name of the entry a path leads to, unless it ends otherwise. -/
def fileName? (path : FilePath) : Option (List UInt8) :=
  match path.components.getLast? with
  | some (.name bytes) => some bytes
  | _ => none

/-- The path `path` as seen from the directory `base`. -/
def join (base path : FilePath) : FilePath :=
  if path.isAbsolute || base.bytes.isEmpty then path
  else if base.bytes.getLast? == some slash then ⟨base.bytes ++ path.bytes⟩
  else ⟨base.bytes ++ slash :: path.bytes⟩

/-! ### Normal form -/

/-- Adds a component to a reversed normal form. A `..` takes away the name before
    it; where there is none it is dropped. -/
def resolveStep (stack : List Component) : Component → List Component
  | .parent => match stack with
    | .name _ :: below => below
    | _ => stack
  | .current => stack
  | component => component :: stack

/-- Resolves `.` and `..` without looking at any disk. -/
def normalize (path : FilePath) : FilePath :=
  ofComponents (path.components.foldl resolveStep []).reverse

/-- The normal form of a path as seen from the working directory. A relative path stays
    relative where there is none. -/
def absolute (workingDirectory? : Option FilePath) (path : FilePath) : FilePath :=
  if path.isAbsolute then path.normalize
  else match workingDirectory? with
    | some workingDirectory => (workingDirectory.join path).normalize
    | none => path.normalize

/-- The file that `target`, written in an include directive of `including`, means:
    relative to the directory of the including file. -/
def resolveInclude (including : FilePath) (target : String) : FilePath :=
  let target := ofString target
  if target.isAbsolute then target.normalize
  else ((including.parent?.getD ⟨[]⟩).join target).normalize

end FilePath

end MakeLens
