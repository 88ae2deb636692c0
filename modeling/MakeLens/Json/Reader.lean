import MakeLens.Json

/-! # Reading JSON

  A reader of JSON texts. It takes a value off the front of the text and gives
  the rest back. Nesting is bounded by the length of the text, since every level
  takes at least one character.
-/

namespace MakeLens.Json

/-- Drops the characters JSON allows between tokens. -/
def skipSpace (text : List Char) : List Char :=
  text.dropWhile fun c => c == ' ' || c == '\t' || c == '\n' || c == '\r'

/-! ### Strings -/

/-- The value of a hexadecimal digit. -/
def hexValue? (c : Char) : Option Nat :=
  if '0' ≤ c ∧ c ≤ '9' then some (c.toNat - '0'.toNat)
  else if 'a' ≤ c ∧ c ≤ 'f' then some (c.toNat - 'a'.toNat + 10)
  else if 'A' ≤ c ∧ c ≤ 'F' then some (c.toNat - 'A'.toNat + 10)
  else none

/-- The value of a run of hexadecimal digits. -/
def hexNumber? (digits : List Char) : Option Nat :=
  digits.foldlM (fun n c => (hexValue? c).map (n * 16 + ·)) 0

/-- The character of a simple escape. -/
def escaped? : Char → Option Char
  | '"' => some '"'
  | '\\' => some '\\'
  | '/' => some '/'
  | 'b' => some '\x08'
  | 'f' => some '\x0C'
  | 'n' => some '\n'
  | 'r' => some '\r'
  | 't' => some '\t'
  | _ => none

/-- The rest of a string after its opening quote, and the text after it. Two
    escaped halves of a surrogate pair make one character. -/
def readString : List Char → Option (List Char × List Char)
  | [] => none
  | '"' :: rest => some ([], rest)
  | '\\' :: 'u' :: a :: b :: c :: d :: '\\' :: 'u' :: e :: f :: g :: h :: rest => do
    let high ← hexNumber? [a, b, c, d]
    if 0xD800 ≤ high ∧ high < 0xDC00 then
      let low ← hexNumber? [e, f, g, h]
      if 0xDC00 ≤ low ∧ low < 0xE000 then
        let (text, after) ← readString rest
        some (Char.ofNat (0x10000 + (high - 0xD800) * 0x400 + (low - 0xDC00)) :: text, after)
      else none
    else if 0xDC00 ≤ high ∧ high < 0xE000 then none
    else
      let (text, after) ← readString ('\\' :: 'u' :: e :: f :: g :: h :: rest)
      some (Char.ofNat high :: text, after)
  | '\\' :: 'u' :: a :: b :: c :: d :: rest => do
    let n ← hexNumber? [a, b, c, d]
    if 0xD800 ≤ n ∧ n < 0xE000 then none
    else
      let (text, after) ← readString rest
      some (Char.ofNat n :: text, after)
  | '\\' :: e :: rest => do
    let c ← escaped? e
    let (text, after) ← readString rest
    some (c :: text, after)
  | c :: rest =>
    if c = '\\' ∨ c.toNat < 0x20 then none
    else do
      let (text, after) ← readString rest
      some (c :: text, after)

/-! ### Numbers -/

/-- The value of a run of decimal digits. -/
def decimalNumber (digits : List Char) : Nat :=
  digits.foldl (fun n c => n * 10 + (c.toNat - '0'.toNat)) 0

/-- The leading digits that fit into 64 bits, and how many digits were left
    out. -/
def leadingDigits (digits : List Char) : Nat × Nat :=
  digits.foldl (fun (n, dropped) c =>
    let next := n * 10 + (c.toNat - '0'.toNat)
    if dropped = 0 ∧ next < 0x10000000000000000 then (next, 0) else (n, dropped + 1)) (0, 0)

/-- A number times a power of ten. Powers beyond 10^308 are no doubles: a negative one
    is divided out in steps, and a positive one leaves every number but zero out of
    range. -/
def timesTen (size : Float) (power : Int) : Float :=
  if power.natAbs ≤ 308 then
    let scale : Float := Float.ofScientific 1 false power.natAbs
    if 0 ≤ power then size * scale else size / scale
  else if size == 0 then size
  else if 0 ≤ power then 1 / 0
  else timesTen (size / 1e308) (power + 308)
termination_by power.natAbs
decreasing_by omega

/-- A number with a fraction or an exponent, or a whole number beyond 64 bits: the
    leading digits as a double, times a power of ten. -/
def real? (negative : Bool) (whole fraction : List Char) (exponent : Int) : Option Json :=
  let (digits, dropped) := leadingDigits (whole ++ fraction)
  let power := exponent - (fraction.length : Int) + (dropped : Int)
  let size := timesTen (Float.ofNat digits) power
  let value := if negative then -size else size
  if value.isFinite then some (.real value.toBits) else none

/-- The sign and digits of an exponent, and the text after it. -/
def readExponent? (text : List Char) : Option (Int × List Char) :=
  let (negative, digits) : Bool × List Char := match text with
    | '-' :: rest => (true, rest)
    | '+' :: rest => (false, rest)
    | rest => (false, rest)
  let run := digits.takeWhile Char.isDigit
  if run = [] then none
  else
    let n : Int := (min (decimalNumber run) 100000 : Nat)
    some (if negative then -n else n, digits.dropWhile Char.isDigit)

/-- A number at the start of a text. -/
def readNumber? (text : List Char) : Option (Json × List Char) := do
  let (negative, body) : Bool × List Char := match text with
    | '-' :: rest => (true, rest)
    | rest => (false, rest)
  let whole := body.takeWhile Char.isDigit
  let rest := body.dropWhile Char.isDigit
  if whole = [] ∨ (whole.head? = some '0' ∧ whole.length > 1) then none
  else
    let (fraction, rest) ← match rest with
      | '.' :: after =>
        if after.takeWhile Char.isDigit = [] then none
        else some (some (after.takeWhile Char.isDigit), after.dropWhile Char.isDigit)
      | _ => some (none, rest)
    let (exponent, rest) ← match rest with
      | c :: after =>
        if c = 'e' ∨ c = 'E' then (readExponent? after).map fun (n, rest) => (some n, rest)
        else some (none, rest)
      | [] => some (none, rest)
    match fraction, exponent with
    | none, none =>
      let n : Int := if negative then -(decimalNumber whole : Int) else decimalNumber whole
      if whole = ['0'] ∧ negative then (real? true whole [] 0).map (·, rest)
      else if -0x8000000000000000 ≤ n ∧ n < 0x10000000000000000 then some (.int n, rest)
      else (real? negative whole [] 0).map (·, rest)
    | _, _ => (real? negative whole (fraction.getD []) (exponent.getD 0)).map (·, rest)

/-! ### Values -/

/-- The text after a literal, when it starts with it. -/
def afterLiteral? (literal : String) (text : List Char) : Option (List Char) :=
  let literal := literal.toList
  if literal.isPrefixOf text then some (text.drop literal.length) else none

mutual

/-- A value at the start of a text, nested at most `depth` levels. -/
def readValue? : (depth : Nat) → List Char → Option (Json × List Char)
  | 0, _ => none
  | depth + 1, text =>
    match skipSpace text with
    | '"' :: rest => (readString rest).map fun (s, after) => (.str (String.ofList s), after)
    | '[' :: rest =>
      match skipSpace rest with
      | ']' :: after => some (.arr [], after)
      | _ => (readItems? depth rest).map fun (items, after) => (.arr items, after)
    | '\x7b' :: rest =>
      match skipSpace rest with
      | '\x7d' :: after => some (.obj [], after)
      | _ => (readMembers? depth rest).map fun (members, after) => (ofMembers members, after)
    | 't' :: rest => (afterLiteral? "rue" rest).map (.bool true, ·)
    | 'f' :: rest => (afterLiteral? "alse" rest).map (.bool false, ·)
    | 'n' :: rest => (afterLiteral? "ull" rest).map (.null, ·)
    | other => readNumber? other

/-- The items of an array up to its closing bracket. -/
def readItems? : (depth : Nat) → List Char → Option (List Json × List Char)
  | 0, _ => none
  | depth + 1, text => do
    let (item, rest) ← readValue? depth text
    match skipSpace rest with
    | ',' :: more =>
      let (items, after) ← readItems? depth more
      some (item :: items, after)
    | ']' :: after => some ([item], after)
    | _ => none

/-- The members of an object up to its closing brace. -/
def readMembers? : (depth : Nat) → List Char → Option (List (String × Json) × List Char)
  | 0, _ => none
  | depth + 1, text =>
    match skipSpace text with
    | '"' :: rest => do
      let (key, rest) ← readString rest
      match skipSpace rest with
      | ':' :: rest =>
        let (value, rest) ← readValue? depth rest
        match skipSpace rest with
        | ',' :: more =>
          let (members, after) ← readMembers? depth more
          some ((String.ofList key, value) :: members, after)
        | '\x7d' :: after => some ([(String.ofList key, value)], after)
        | _ => none
      | _ => none
    | _ => none

end

/-- The value a text spells, when it spells exactly one. -/
def read? (text : String) : Option Json :=
  let text := text.toList
  match readValue? (text.length + 1) text with
  | some (value, rest) => if skipSpace rest = [] then some value else none
  | none => none

end MakeLens.Json
