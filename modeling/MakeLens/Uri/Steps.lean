import MakeLens.Text.Blank
import MakeLens.Uri.Percent

/-! # Paths of URIs

  A path is a row of steps from the root. Steps that mean the directory itself or the
  one above are taken while the path is read. The first step of a file may be a drive,
  and no path leaves a drive once it is there.
-/

namespace MakeLens

/-- The path of a URI. -/
inductive UriPath where
  /-- A text without steps, as in `mailto:` URIs. -/
  | rootless (text : String)
  /-- The steps from the root. -/
  | steps (names : List String)
  deriving DecidableEq, Repr

namespace Uri

/-- The text of a path. -/
def pathText : UriPath → String
  | .rootless text => text
  | .steps names => String.join (names.map fun name => "/" ++ name)

/-! ### Steps -/

/-- A lower-case ASCII letter for an upper-case one. -/
def lower (text : List Char) : List Char :=
  text.map Char.toLower

/-- Whether a character parts the steps of a path. -/
def isSeparator (special : Bool) (c : Char) : Bool :=
  c == '/' || (special && c == '\\')

/-- Whether a step means the directory itself. -/
def isHere (step : List Char) : Bool :=
  let step := lower step
  step == ['.'] || step == ['%', '2', 'e']

/-- Whether a step means the directory above. -/
def isAbove (step : List Char) : Bool :=
  let here : List (List Char) := [['.'], ['%', '2', 'e']]
  here.any fun a => here.any fun b => lower step == a ++ b

/-- Whether a step is a drive letter with its colon or bar. -/
def isDrive (step : List Char) : Bool :=
  match step with
  | [letter, mark] => letter.isAlpha && (mark == ':' || mark == '|')
  | _ => false

/-- Whether a step starts with a drive, alone or before a backslash. -/
def leadsToDrive (step : List Char) : Bool :=
  isDrive step || (isDrive (step.take 2) && (step.drop 2).head? == some '\\')

/-- The directory above, for steps in reverse. No path leaves a drive. -/
def dropStep (steps : List (List Char)) : List (List Char) :=
  match steps with
  | step :: rest => if leadsToDrive step then steps else rest
  | [] => []

/-- The steps of a path, in reverse, and whether one of them has given a file a drive. -/
structure Walk where
  steps : List (List Char)
  onDrive : Bool

/-- Adds the steps of a path to those before them. A `.` or `..` at the end leaves an
    empty step behind, and the first step of a file may be its drive. -/
def addSteps (isFile : Bool) (walk : Walk) : List (List Char) → Walk
  | [] => walk
  | step :: rest =>
    let closing (steps : List (List Char)) : Walk :=
      { walk with steps := if rest.isEmpty then [] :: steps else steps }
    if isAbove step then addSteps isFile (closing (dropStep walk.steps)) rest
    else if isHere step then addSteps isFile (closing walk.steps) rest
    else if isFile && walk.steps.isEmpty && isDrive step then
      addSteps isFile ⟨[step.take 1 ++ [':']], true⟩ rest
    else addSteps isFile { walk with steps := encodeText pathSet step :: walk.steps } rest

/-- The walk along a path after its root. -/
def walkPath (isFile special : Bool) (text : List Char) : Walk :=
  let unified := text.map fun c => if isSeparator special c then '/' else c
  addSteps isFile ⟨[], false⟩ (pieces '/' unified)

/-- The path of a walk. The path of a file does not start with empty steps. -/
def Walk.path (walk : Walk) (isFile : Bool) : UriPath :=
  let steps := walk.steps.reverse
  let steps := if isFile then steps.dropWhile List.isEmpty else steps
  .steps ((if steps.isEmpty then [[]] else steps).map String.ofList)

/-- The path after an authority. -/
def pathAfter (special : Bool) (text : List Char) : UriPath :=
  match text with
  | [] => .steps (if special then [""] else [])
  | c :: rest =>
    (walkPath false special (if isSeparator special c then rest else text)).path false

end Uri

end MakeLens
