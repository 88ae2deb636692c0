import MakeLens.Path

/-! # The disk

  A disk is a finite tree of files and directories together with a working
  directory. Reading a path walks it from left to right, through `..` and `.` as
  they come, and ends in the file's bytes, in a fault, or nowhere.

  The index reads a disk and never changes it; `write` and `remove` are what
  happens on it in between. What the system refuses to give out, for whatever reason,
  stands on the disk with the words of the refusal.
-/

namespace MakeLens

/-- A place on the disk: the names from the root to it. -/
abbrev Place := List (List UInt8)

/-- What stands at a place. -/
inductive Node where
  | file (bytes : List UInt8)
  | directory
  /-- A file that the system refuses to read, in the system's words. -/
  | sealedFile (reason : String)
  /-- A directory that the system lets nobody into, in the system's words. -/
  | sealedDirectory (reason : String)
  deriving DecidableEq, Repr

/-- Why an existing path cannot be read. -/
inductive ReadFault where
  /-- The path holds a zero byte. -/
  | zeroByte
  /-- A file stands where the path needs a directory. -/
  | notDirectory
  /-- The path, or a name in it, is longer than any can be. -/
  | nameTooLong
  /-- The path leads to a directory. -/
  | isDirectory
  /-- The system refuses to read what the path leads to or through, in its own words. -/
  | refused (reason : String)
  deriving DecidableEq, Repr

/-- The wording of a fault. -/
def ReadFault.message : ReadFault → String
  | .zeroByte => "file name contained an unexpected NUL byte"
  | .notDirectory => "Not a directory (os error 20)"
  | .nameTooLong => "File name too long (os error 36)"
  | .isDirectory => "Is a directory (os error 21)"
  | .refused reason => reason

/-- How reading a path ends. -/
inductive ReadOutcome where
  | bytes (content : List UInt8)
  /-- There is nothing at the path. -/
  | missing
  | fault (cause : ReadFault)
  deriving DecidableEq, Repr

/-- Files and directories, and the directory that relative paths start from. The
    root is always there. -/
structure Disk where
  nodes : List (Place × Node)
  workingPlace : Place
  deriving Repr

namespace Disk

/-- The longest name an entry can have, in bytes. -/
def maxName : Nat := 255

/-- The length from which on a path is too long, in bytes. -/
def maxPath : Nat := 4096

/-! ### Looking -/

/-- What stands at a place. -/
def node? (disk : Disk) (place : Place) : Option Node :=
  if place = [] then some .directory
  else (disk.nodes.find? fun n => n.1 == place).map Prod.snd

/-- Where a walk ends. -/
inductive WalkEnd where
  | reached (node : Node)
  | nowhere
  | stopped (cause : ReadFault)

/-- Walks the pieces of a path from a place. -/
def walk (disk : Disk) (here : Place) : List (List UInt8) → WalkEnd
  | [] => match disk.node? here with
    | some node => .reached node
    | none => .nowhere
  | piece :: rest => match disk.node? here with
    | none => .nowhere
    | some (.file _) | some (.sealedFile _) => .stopped .notDirectory
    | some (.sealedDirectory reason) =>
      -- separators at the end of a path ask for no entry of the directory
      if piece = [] then disk.walk here rest else .stopped (.refused reason)
    | some .directory =>
      if piece = [] ∨ piece = [dot] then disk.walk here rest
      else if piece = [dot, dot] then disk.walk here.dropLast rest
      else if maxName < piece.length then .stopped .nameTooLong
      else disk.walk (here ++ [piece]) rest

/-- Follows a path. -/
def follow (disk : Disk) (path : FilePath) : WalkEnd :=
  if path.bytes = [] then .nowhere
  else if 0 ∈ path.bytes then .stopped .zeroByte
  else if maxPath ≤ path.bytes.length then .stopped .nameTooLong
  else if path.isAbsolute then disk.walk [] (pieces slash path.bytes)
  else disk.walk disk.workingPlace (pieces slash path.bytes)

/-- Reads the file at a path. -/
def read (disk : Disk) (path : FilePath) : ReadOutcome :=
  match disk.follow path with
  | .reached (.file bytes) => .bytes bytes
  | .reached .directory => .fault .isDirectory
  | .reached (.sealedFile reason) | .reached (.sealedDirectory reason) => .fault (.refused reason)
  | .nowhere => .missing
  | .stopped cause => .fault cause

/-- Whether there is a file or a directory at a path. -/
def pathExists (disk : Disk) (path : FilePath) : Bool :=
  match disk.follow path with
  | .reached _ => true
  | _ => false

/-- The path of the working directory. -/
def workingPath (disk : Disk) : FilePath :=
  FilePath.ofComponents (.root :: disk.workingPlace.map Component.name)

/-- The working directory, as long as it is there. A process whose working directory was
    removed is told no path for it. -/
def workingDirectory? (disk : Disk) : Option FilePath :=
  match disk.node? disk.workingPlace with
  | some .directory | some (.sealedDirectory _) => some disk.workingPath
  | _ => none

/-- The form under which the index knows a path: normalised, and absolute as long as the
    working directory is there. -/
def absolute (disk : Disk) (path : FilePath) : FilePath :=
  FilePath.absolute disk.workingDirectory? path

/-! ### Changing -/

/-- The names of components that are nothing but names. -/
def names? : List Component → Option Place
  | [] => some []
  | .name bytes :: rest => (names? rest).map (bytes :: ·)
  | _ :: _ => none

/-- The place a path means when it lies strictly below the working directory and
    climbs nowhere. -/
def placeBelow? (disk : Disk) (path : FilePath) : Option Place :=
  let full := disk.workingPath.join path
  match full.components with
  | .root :: rest => do
    let place ← names? rest
    if disk.workingPlace.isPrefixOf place ∧ disk.workingPlace.length < place.length ∧
        0 ∉ path.bytes ∧ full.bytes.length < maxPath ∧ place.all (·.length ≤ maxName) then
      some place
    else none
  | _ => none

/-- Puts a node at a place. -/
def put (disk : Disk) (place : Place) (node : Node) : Disk :=
  { disk with nodes := (place, node) :: disk.nodes.filter fun n => n.1 != place }

/-- Makes the directories on the way from `above` through `names`, unless something other
    than a directory that can be entered is in the way. -/
def makeDirectories (disk : Disk) (above : Place) : Place → Option Disk
  | [] => some disk
  | name :: rest =>
    let here := above ++ [name]
    match disk.node? here with
    | some .directory => disk.makeDirectories here rest
    | some _ => none
    | none => (disk.put here .directory).makeDirectories here rest

/-- Writes a file, with the directories above it, in the place of a file that is
    there. -/
def writeFile (disk : Disk) (path : FilePath) (content : List UInt8) : Option Disk := do
  let place ← disk.placeBelow? path
  let made ← disk.makeDirectories [] place.dropLast
  match made.node? place with
  | some .directory | some (.sealedDirectory _) => none
  | _ => some (made.put place (.file content))

/-- Makes a directory with the directories above it. -/
def writeDirectory (disk : Disk) (path : FilePath) : Option Disk := do
  let place ← disk.placeBelow? path
  disk.makeDirectories [] place

/-- Removes a file, or a directory with everything below it. -/
def remove (disk : Disk) (path : FilePath) : Option Disk := do
  let place ← disk.placeBelow? path
  let _ ← disk.node? place
  some { disk with nodes := disk.nodes.filter fun n => !place.isPrefixOf n.1 }

/-- A disk that holds nothing but an empty working directory below the root. -/
def empty (workspace : List UInt8) : Disk where
  nodes := [([workspace], .directory)]
  workingPlace := [workspace]

end Disk

end MakeLens
