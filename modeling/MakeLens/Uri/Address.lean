import MakeLens.Json.Reader
import MakeLens.Text.Blank

/-! # Numeric addresses

  A server can also be named by its number. A number of 32 bits is written as four
  decimal numbers with dots, and read also with fewer numbers, of which the last fills
  the places left, and in octal and hexadecimal digits. A number of 128 bits is written
  as eight hexadecimal groups with colons, of which one row of zeros may be left out.
-/

namespace MakeLens.Address

/-! ### Addresses with dots -/

/-- The value of digits in a base; no digits are zero. -/
def numberInBase? (base : Nat) (digits : List Char) : Option Nat :=
  digits.foldlM (fun n c => do
    let digit ← Json.hexValue? c
    if digit < base then some (n * base + digit) else none) 0

/-- The number that a part spells: in hexadecimal digits after `0x`, in octal ones after
    another zero, and in decimal ones otherwise. -/
def part? : List Char → Option Nat
  | [] => none
  | '0' :: mark :: digits =>
    if mark = 'x' ∨ mark = 'X' then numberInBase? 16 digits
    else numberInBase? 8 (mark :: digits)
  | digits => numberInBase? 10 digits

/-- The parts of a text between dots; a dot at the end does not count. -/
def parts (text : List Char) : List (List Char) :=
  let found := pieces '.' text
  if found.getLast? = some [] then found.dropLast else found

/-- Whether a text can only be an address: its last part is a number. -/
def endsInNumber (text : List Char) : Bool :=
  match (parts text).getLast? with
  | some last => (last ≠ [] && last.all Char.isDigit) || (part? last).isSome
  | none => false

/-- The address that a text with dots spells. -/
def dotted? (text : List Char) : Option Nat := do
  let numbers ← (parts text).mapM part?
  let last ← numbers.getLast?
  let before := numbers.dropLast
  let room := Nat.pow 256 (4 - before.length)
  if before.length ≤ 3 ∧ before.all (· < 256) ∧ last < room then
    some (before.foldl (fun n part => n * 256 + part) 0 * room + last)
  else none

/-- The text of an address with dots. -/
def dottedText (address : Nat) : List Char :=
  let part (shift : Nat) : List Char := Nat.toDigits 10 (address / shift % 256)
  ['.'].intercalate [part 0x1000000, part 0x10000, part 0x100, part 1]

/-! ### Addresses with colons -/

/-- A group of up to four hexadecimal digits. -/
def group? (digits : List Char) : Option Nat :=
  if digits = [] ∨ 4 < digits.length then none else Json.hexNumber? digits

/-- A decimal number of eight bits without leading zeros. -/
def byte? (digits : List Char) : Option Nat :=
  if digits = [] ∨ !digits.all Char.isDigit ∨ (digits.head? = some '0' ∧ 1 < digits.length) then
    none
  else
    let n := Json.decimalNumber digits
    if n < 256 then some n else none

/-- The two groups that four decimal numbers with dots stand for. -/
def dottedGroups? (text : List Char) : Option (List Nat) := do
  match ← (pieces '.' text).mapM byte? with
  | [a, b, c, d] => some [a * 256 + b, c * 256 + d]
  | _ => none

/-- The groups of a text; the last may be written with dots where `atEnd` holds. -/
def groups? (atEnd : Bool) (text : List Char) : Option (List Nat) := do
  if text = [] then some []
  else
    let found := pieces ':' text
    let last := found.getLast?.getD []
    if atEnd && last.contains '.' then
      let before ← found.dropLast.mapM group?
      let tail ← dottedGroups? last
      some (before ++ tail)
    else found.mapM group?

/-- A text before and after its first two colons in a row. -/
def splitAtGap : List Char → Option (List Char × List Char)
  | [] => none
  | c :: rest =>
    if c = ':' ∧ rest.head? = some ':' then some ([], rest.drop 1)
    else (splitAtGap rest).map fun (before, after) => (c :: before, after)

/-- The eight groups that a text spells. Two colons in a row stand for one group of zero
    or more. -/
def colons? (text : List Char) : Option (List Nat) := do
  match splitAtGap text with
  | none =>
    let groups ← groups? true text
    if groups.length = 8 then some groups else none
  | some (before, after) =>
    let first ← groups? false before
    let last ← groups? true after
    let count := first.length + last.length
    if count ≤ 7 then some (first ++ List.replicate (8 - count) 0 ++ last) else none

/-- How many groups are zero from a place on. -/
def zerosFrom (groups : List Nat) (i : Nat) : Nat :=
  ((groups.drop i).takeWhile (· == 0)).length

/-- The text of groups with colons between them. -/
def groupsText (groups : List Nat) : List Char :=
  [':'].intercalate (groups.map (Nat.toDigits 16))

/-- The text of an address with colons: its first longest row of two zeros or more is
    left out. -/
def colonsText (groups : List Nat) : List Char :=
  let places := List.range groups.length
  let longest := (places.map (zerosFrom groups)).foldl max 0
  match places.find? fun i => zerosFrom groups i == longest with
  | some i =>
    if 2 ≤ longest then
      groupsText (groups.take i) ++ [':', ':'] ++ groupsText (groups.drop (i + longest))
    else groupsText groups
  | none => groupsText groups

end MakeLens.Address
