import MakeLens.Json.Reader
import MakeLens.Toml

/-! # TOML scalars

  Truth values, numbers, dates and times, each read from the whole of a word.
-/

namespace MakeLens.Toml

/-! ### Numbers -/

/-- Digits without the underscores between them. An underscore stands between two
    digits. -/
def plainDigits? (isDigit : Char → Bool) : List Char → Option (List Char)
  | [] => none
  | [c] => if isDigit c then some [c] else none
  | c :: '_' :: rest => if isDigit c then (plainDigits? isDigit rest).map (c :: ·) else none
  | c :: rest => if isDigit c then (plainDigits? isDigit rest).map (c :: ·) else none

/-- The value of digits in a base. -/
def valueInBase (base : Nat) (digits : List Char) : Nat :=
  digits.foldl (fun n c => n * base + (Json.hexValue? c).getD 0) 0

/-- A whole number that fits into 64 bits with sign. -/
def int64? (n : Int) : Option Value :=
  if -0x8000000000000000 ≤ n ∧ n < 0x8000000000000000 then some (.int n) else none

/-- A number with a base of its own: after `0x`, `0o` or `0b`, without sign. -/
def based? (base : Nat) (digits : List Char) : Option Value := do
  let isDigit (c : Char) : Bool := match Json.hexValue? c with
    | some n => n < base
    | none => false
  let plain ← plainDigits? isDigit digits
  int64? (valueInBase base plain)

/-- The sign of a word, and the word after it. -/
def splitSign : List Char → Option Bool × List Char
  | '-' :: rest => (some true, rest)
  | '+' :: rest => (some false, rest)
  | rest => (none, rest)

/-- The digits of a whole part: no zero leads another digit. -/
def wholeDigits? (digits : List Char) : Option (List Char) := do
  let plain ← plainDigits? Char.isDigit digits
  if plain.head? = some '0' ∧ plain.length > 1 then none else some plain

/-- The exponent after its mark. -/
def exponent? (text : List Char) : Option Int := do
  let (sign, digits) := splitSign text
  let plain ← plainDigits? Char.isDigit digits
  let n : Int := (min (Json.decimalNumber plain) 100000 : Nat)
  some (if sign = some true then -n else n)

/-- The encodings of infinity and of no number. -/
def infinityBits (negative : Bool) : UInt64 :=
  if negative then 0xFFF0000000000000 else 0x7FF0000000000000

/-- The double nearest to a decimal, unless it is too large. -/
def real? (negative : Bool) (digits : List Char) (exponent : Int) : Option Value :=
  let size := Float.ofScientific (Json.decimalNumber digits) (exponent < 0) exponent.natAbs
  if size.isFinite then some (.real (if negative then -size else size).toBits) else none

/-- Whether a character marks an exponent. -/
def isExponentMark (c : Char) : Bool :=
  c == 'e' || c == 'E'

/-- A decimal number: a whole number, or one with a fraction or an exponent. -/
def decimal? (negative : Bool) (body : List Char) : Option Value :=
  let isWhole (c : Char) : Bool := c.isDigit || c == '_'
  match body.dropWhile isWhole with
  | [] => do
    let whole ← wholeDigits? body
    let n : Int := Json.decimalNumber whole
    int64? (if negative then -n else n)
  | '.' :: after => do
    let whole ← wholeDigits? (body.takeWhile isWhole)
    let fraction ← plainDigits? Char.isDigit (after.takeWhile isWhole)
    let exponent ← match after.dropWhile isWhole with
      | [] => some 0
      | mark :: rest => if isExponentMark mark then exponent? rest else none
    real? negative (whole ++ fraction) (exponent - (fraction.length : Int))
  | mark :: rest => do
    let whole ← wholeDigits? (body.takeWhile isWhole)
    let exponent ← if isExponentMark mark then exponent? rest else none
    real? negative whole exponent

/-- A number. -/
def number? (word : List Char) : Option Value :=
  match word with
  | '0' :: 'x' :: digits => based? 16 digits
  | '0' :: 'o' :: digits => based? 8 digits
  | '0' :: 'b' :: digits => based? 2 digits
  | _ =>
    let (sign, body) := splitSign word
    let negative := sign = some true
    if body = ['i', 'n', 'f'] then some (.real (infinityBits negative))
    else if body = ['n', 'a', 'n'] then some (.real 0x7FF8000000000000)
    else decimal? negative body

/-! ### Dates and times -/

/-- A number of exactly `count` digits at the start of a text. -/
def fixedNumber? (count : Nat) (text : List Char) : Option (Nat × List Char) :=
  let digits := text.take count
  if digits.length = count ∧ digits.all Char.isDigit then
    some (Json.decimalNumber digits, text.drop count)
  else none

/-- The text after a character, when it starts with it. -/
def after? (c : Char) : List Char → Option (List Char)
  | d :: rest => if d = c then some rest else none
  | [] => none

/-- A number padded with zeros. -/
def padded (width n : Nat) : String :=
  let digits := Nat.toDigits 10 n
  String.ofList (List.replicate (width - digits.length) '0' ++ digits)

/-- How many days a month has. -/
def daysIn (year month : Nat) : Nat :=
  if month = 2 then
    if year % 4 = 0 ∧ (year % 100 ≠ 0 ∨ year % 400 = 0) then 29 else 28
  else if month = 4 ∨ month = 6 ∨ month = 9 ∨ month = 11 then 30
  else 31

/-- A date at the start of a text. -/
def date? (text : List Char) : Option (String × List Char) := do
  let (year, rest) ← fixedNumber? 4 text
  let rest ← after? '-' rest
  let (month, rest) ← fixedNumber? 2 rest
  let rest ← after? '-' rest
  let (day, rest) ← fixedNumber? 2 rest
  if 1 ≤ month ∧ month ≤ 12 ∧ 1 ≤ day ∧ day ≤ daysIn year month then
    some (padded 4 year ++ "-" ++ padded 2 month ++ "-" ++ padded 2 day, rest)
  else none

/-- The fraction of a second, as it is written back: nine digits count, and zeros at
    the end are left out. -/
def fractionText (digits : List Char) : String :=
  match ((digits.take 9).reverse.dropWhile (· == '0')).reverse with
  | [] => ""
  | kept => "." ++ String.ofList kept

/-- A time at the start of a text. The seconds may be left out. -/
def time? (text : List Char) : Option (String × List Char) := do
  let (hour, rest) ← fixedNumber? 2 text
  let rest ← after? ':' rest
  let (minute, rest) ← fixedNumber? 2 rest
  let (second, fraction, rest) ← match rest with
    | ':' :: rest => do
      let (second, rest) ← fixedNumber? 2 rest
      match rest with
      | '.' :: digits =>
        if digits.takeWhile Char.isDigit = [] then none
        else some (second, fractionText (digits.takeWhile Char.isDigit),
          digits.dropWhile Char.isDigit)
      | _ => some (second, "", rest)
    | _ => some (0, "", rest)
  if hour ≤ 23 ∧ minute ≤ 59 ∧ second ≤ 60 then
    some (padded 2 hour ++ ":" ++ padded 2 minute ++ ":" ++ padded 2 second ++ fraction, rest)
  else none

/-- The offset from universal time that ends a text; nothing is no offset. -/
def offset? : List Char → Option String
  | [] => some ""
  | ['Z'] | ['z'] => some "Z"
  | sign :: text => do
    if sign = '+' ∨ sign = '-' then
      let (hours, rest) ← fixedNumber? 2 text
      let rest ← after? ':' rest
      let (minutes, rest) ← fixedNumber? 2 rest
      if rest = [] ∧ hours ≤ 23 ∧ minutes ≤ 59 then
        let sign := if sign = '-' ∧ 0 < hours + minutes then "-" else "+"
        some (sign ++ padded 2 hours ++ ":" ++ padded 2 minutes)
      else none
    else none

/-- A date, a time, or a date with a time and perhaps an offset. -/
def dateTime? (word : List Char) : Option Value :=
  match date? word with
  | some (date, []) => some (.dateTime date)
  | some (date, separator :: rest) => do
    if separator = 'T' ∨ separator = 't' ∨ separator = ' ' then
      let (time, rest) ← time? rest
      let offset ← offset? rest
      some (.dateTime (date ++ "T" ++ time ++ offset))
    else none
  | none =>
    match time? word with
    | some (time, []) => some (.dateTime time)
    | _ => none

/-! ### Words -/

/-- Whether a word is laid out as a date or a time. -/
def looksLikeDateTime (word : List Char) : Bool :=
  (word.drop 4).head? == some '-' && (word.take 4).all Char.isDigit ||
  (word.drop 2).head? == some ':'

/-- The value of a word. -/
def scalar? (word : List Char) : Option Value :=
  if word = ['t', 'r', 'u', 'e'] then some (.bool true)
  else if word = ['f', 'a', 'l', 's', 'e'] then some (.bool false)
  else if looksLikeDateTime word then dateTime? word
  else number? word

end MakeLens.Toml
