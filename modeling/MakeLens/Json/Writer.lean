import MakeLens.Decimal.Shortest
import MakeLens.Json

/-! # Writing JSON

  The compact text of a value. In a string, quotes, backslashes and controls are
  escaped, and everything else stands as it is.
-/

namespace MakeLens.Json

/-- A hexadecimal digit. -/
def hexDigit (n : Nat) : Char :=
  (Nat.toDigits 16 (n % 16)).headD '0'

/-- The escape of a character by its code point, in four digits. -/
def unicodeEscape (n : Nat) : List Char :=
  ['\\', 'u', hexDigit (n / 0x1000), hexDigit (n / 0x100), hexDigit (n / 0x10), hexDigit n]

/-- A character as it stands in a string. -/
def escapeChar (c : Char) : List Char :=
  if c = '"' then ['\\', '"']
  else if c = '\\' then ['\\', '\\']
  else if c = '\n' then ['\\', 'n']
  else if c = '\r' then ['\\', 'r']
  else if c = '\t' then ['\\', 't']
  else if c.toNat < 0x20 then unicodeEscape c.toNat
  else [c]

/-- A string with its quotes. -/
def writeString (s : String) : String :=
  "\"" ++ String.ofList (s.toList.flatMap escapeChar) ++ "\""

mutual

/-- The text of a value. -/
def write : Json → String
  | .null => "null"
  | .bool b => if b then "true" else "false"
  | .int n => toString n
  | .real bits => Decimal.textOfBits bits
  | .str s => writeString s
  | .arr items => "[" ++ ",".intercalate (writeItems items) ++ "]"
  | .obj members => "\x7b" ++ ",".intercalate (writeMembers members) ++ "\x7d"

/-- The texts of array items. -/
def writeItems : List Json → List String
  | [] => []
  | item :: rest => write item :: writeItems rest

/-- The texts of object members. -/
def writeMembers : List (String × Json) → List String
  | [] => []
  | (key, value) :: rest => (writeString key ++ ":" ++ write value) :: writeMembers rest

end

end MakeLens.Json
