/-! # Lines as an editor counts them

  A position that an editor sends counts lines that end at any of eight breaks:
  LF, CR, CRLF, VT, FF, NEL, LS and PS. A line keeps its break, and a break at
  the end of the text is followed by one more, empty line.
-/

namespace MakeLens

/-- Whether a character alone ends a line in an editor. -/
def isLineBreak (c : Char) : Bool :=
  let n := c.toNat
  (0x0A ≤ n && n ≤ 0x0D) || n == 0x85 || n == 0x2028 || n == 0x2029

/-- The lines of a text as an editor counts them, each with its break. -/
def editorLines : List Char → List (List Char)
  | [] => [[]]
  | '\r' :: '\n' :: rest => ['\r', '\n'] :: editorLines rest
  | c :: rest =>
    if isLineBreak c then [c] :: editorLines rest
    else match editorLines rest with
      | [] => [[c]]
      | line :: lines => (c :: line) :: lines

end MakeLens
