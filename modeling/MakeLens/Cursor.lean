import MakeLens.Text.Blank
import MakeLens.Text.Editor

/-! # The word at a cursor

  The symbol name that a position in an open text touches. A cursor right behind the
  last character of a name still touches it, and a cursor beyond a line counts as being
  behind its last character, which on all lines but the last belongs to the break.
-/

namespace MakeLens

/-- The characters of a symbol name under a cursor: no blank and none of `:`, `#`, `=`,
    `$`, the comma and the round and curly brackets. -/
def isSymbolChar (c : Char) : Bool :=
  !(isBlank c || c == ':' || c == '#' || c == '=' || c == '$' || c == '(' || c == ')' ||
    c == '\x7b' || c == '\x7d' || c == ',')

/-- A word on a line: the characters from `start` up to `stop`. -/
structure WordSpan where
  word : String
  start : Nat
  stop : Nat
  deriving DecidableEq, Repr

/-- Whether a line has a symbol character at an offset. -/
def hasSymbolAt (chars : List Char) (offset : Nat) : Bool :=
  (chars[offset]?.map isSymbolChar).getD false

/-- The character that a cursor touches: the one at it, or else the one before it. -/
def anchor? (line : List Char) (cursor : Nat) : Option Nat :=
  if hasSymbolAt line cursor then some cursor
  else if 0 < cursor ∧ hasSymbolAt line (cursor - 1) then some (cursor - 1)
  else none

/-- The word around a symbol character of a line. -/
def wordAround (line : List Char) (anchor : Nat) : WordSpan :=
  let before := ((line.take anchor).reverse.takeWhile isSymbolChar).reverse
  let after := (line.drop anchor).takeWhile isSymbolChar
  ⟨String.ofList (before ++ after), anchor - before.length, anchor + after.length⟩

/-- The word that a cursor on a line touches. -/
def wordOnLine? (line : List Char) (column : Nat) : Option WordSpan :=
  (anchor? line (min column line.length)).map (wordAround line)

/-- A word as the editor is told of it, between two columns of its line. -/
structure FoundWord where
  word : String
  start : UInt32
  stop : UInt32
  deriving DecidableEq, Repr

/-- A word for the editor. Its columns are the places modulo 2 ^ 32. -/
def WordSpan.found (span : WordSpan) : FoundWord :=
  ⟨span.word, UInt32.ofNat span.start, UInt32.ofNat span.stop⟩

/-- The word at a position of a text. -/
def wordAt? (text : List Char) (line column : Nat) : Option FoundWord :=
  (editorLines text)[line]?.bind fun chars => (wordOnLine? chars column).map WordSpan.found

end MakeLens
