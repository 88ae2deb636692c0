import MakeLens.Text.Blank

/-! # Logical lines

  A build file is read in logical lines. Each physical line is cut before its
  comment, and a line that ends with a backslash takes in the line below it.

  The result keeps one slot per physical line: a line that was taken in by the
  line above leaves an empty slot, so slot numbers are the line numbers that an
  editor shows.
-/

namespace MakeLens

/-- A line without one carriage return at its end. -/
def dropReturn (line : List Char) : List Char :=
  if line.getLast? = some '\r' then line.dropLast else line

/-- The physical lines of a text: cut at each line feed, less one carriage
    return at the end of each. -/
def physicalLines (text : List Char) : List (List Char) :=
  (pieces '\n' text).map dropReturn

/-- What stands before the first `#` that no backslash precedes. `escaped` tells
    whether the character before the line's rest is a backslash. -/
def beforeComment (escaped : Bool) : List Char → List Char
  | [] => []
  | c :: rest =>
    if c = '#' ∧ escaped = false then [] else c :: beforeComment (c == '\\') rest

/-- A line without its comment. -/
def stripComment (line : List Char) : List Char :=
  beforeComment false line

/-- The part of a line before its continuation backslash, when the line ends
    with one, blanks apart. -/
def continuationHead? (line : List Char) : Option (List Char) :=
  let trimmed := trimEnd line
  if trimmed.getLast? = some '\\' then some trimmed.dropLast else none

/-- Joins continued lines from the last one upwards. The backslash and the
    leading blanks of the line below disappear, and the slot below is left
    empty. A backslash on the last line continues nothing and stays. -/
def joinContinued : List (List Char) → List (List Char)
  | [] => []
  | line :: rest =>
    match continuationHead? line, joinContinued rest with
    | some head, next :: after => (head ++ trimStart next) :: [] :: after
    | _, joined => line :: joined

/-- The logical lines of a text, one slot per physical line. -/
def logicalLines (text : List Char) : List (List Char) :=
  joinContinued ((physicalLines text).map stripComment)

end MakeLens
