/-! # Punycode

  Labels of domain names with characters beyond ASCII are sent in ASCII. The ASCII
  characters of the label come first; after the last hyphen, numbers say which of the
  others to insert where. A number counts the places passed over since the last
  insertion, trying every position for one code point and then those for the next.
  It is written in base 36, the lowest digit first, and ends with the first digit below
  a threshold, which moves with the numbers seen.
-/

namespace MakeLens.Punycode

/-! ### Digits -/

/-- The character of a digit: the letters, then the decimal digits. -/
def digitChar (digit : Nat) : Char :=
  if digit < 26 then Char.ofNat ('a'.toNat + digit) else Char.ofNat ('0'.toNat + (digit - 26))

/-- The digit of a character in lower case. -/
def digit? (c : Char) : Option Nat :=
  if c.isLower then some (c.toNat - 'a'.toNat)
  else if c.isDigit then some (c.toNat - '0'.toNat + 26)
  else none

/-- The threshold of the digit at a place, which is counted in steps of 36. -/
def threshold (bias place : Nat) : Nat :=
  min 26 (max 1 (place - bias))

/-- The threshold is never zero, so every number ends. -/
theorem threshold_pos (bias place : Nat) : 1 ≤ threshold bias place := by
  unfold threshold
  omega

/-- The bias for a damped number, on top of the places before. -/
def biasOf (number before : Nat) : Nat :=
  if 455 < number then biasOf (number / 35) (before + 36)
  else before + 36 * number / (number + 38)
termination_by number
decreasing_by omega

/-- The bias after a number that brought a label to the given length. The first number of
    a label says more about the script than about the distance to the next. -/
def nextBias (number length : Nat) (isFirst : Bool) : Nat :=
  let damped := if isFirst then number / 700 else number / 2
  biasOf (damped + damped / length) 0

/-! ### Encoding -/

/-- The digits of a number from a place on. -/
def encodeNumber (bias place number : Nat) : List Char :=
  let least := threshold bias place
  if number < least then [digitChar number]
  else
    digitChar (least + (number - least) % (36 - least)) ::
      encodeNumber bias (place + 36) ((number - least) / (36 - least))
termination_by number
decreasing_by
  have low := threshold_pos bias place
  have := Nat.div_le_self (number - threshold bias place) (36 - threshold bias place)
  omega

/-- How far the encoding of a label has come. -/
structure Encoder where
  written : List Char
  /-- The places passed over since the last insertion. -/
  passed : Nat
  bias : Nat
  /-- How many characters of the label are dealt with. -/
  count : Nat

/-- Passes over one character of the label while code point `n` is inserted, in a label
    with `plain` characters of ASCII. -/
def Encoder.pass (plain n : Nat) (e : Encoder) (c : Char) : Encoder :=
  if c.toNat < n then { e with passed := e.passed + 1 }
  else if c.toNat = n then
    { written := e.written ++ encodeNumber e.bias 36 e.passed
      passed := 0
      bias := nextBias e.passed (e.count + 1) (e.count = plain)
      count := e.count + 1 }
  else e

/-- Inserts the code points of a label from `n` on, which are given in ascending
    order. -/
def insertAll (label : List Char) (plain n : Nat) (e : Encoder) : List Nat → Encoder
  | [] => e
  | code :: rest =>
    let e := { e with passed := e.passed + (code - n) * (e.count + 1) }
    let e := label.foldl (Encoder.pass plain code) e
    insertAll label plain (code + 1) { e with passed := e.passed + 1 } rest

/-- The ASCII spelling of a label. -/
def encode (label : List Char) : List Char :=
  let plain := label.filter fun c => c.toNat < 0x80
  let others := (label.filter fun c => 0x80 ≤ c.toNat).map Char.toNat
  let start : Encoder := ⟨[], 0, 72, plain.length⟩
  let codes := (others.mergeSort (· ≤ ·)).eraseDups
  plain ++ (if plain.isEmpty then [] else ['-']) ++
    (insertAll label plain.length 0x80 start codes).written

/-! ### Decoding -/

/-- How far the decoding of a label has come. -/
structure Decoder where
  label : List Char
  /-- The code point that is inserted next. -/
  code : Nat
  /-- Where it is inserted, should the number being read be zero. -/
  position : Nat
  /-- The number being read, on top of the position. -/
  number : Nat
  weight : Nat
  place : Nat
  bias : Nat

/-- Reads one digit. The last digit of a number inserts a character. -/
def Decoder.read? (d : Decoder) (digit : Nat) : Option Decoder :=
  let number := d.number + digit * d.weight
  let least := threshold d.bias d.place
  if number < 0x100000000 then
    if digit < least then
      let length := d.label.length + 1
      let code := d.code + number / length
      let position := number % length
      if code < 0xD800 ∨ (0xE000 ≤ code ∧ code < 0x110000) then
        some {
          label := d.label.insertIdx position (Char.ofNat code)
          code := code
          position := position + 1
          number := position + 1
          weight := 1
          place := 36
          bias := nextBias (number - d.position) length (d.position = 0) }
      else none
    else
      let weight := d.weight * (36 - least)
      if weight < 0x100000000 then
        some { d with number := number, weight := weight, place := d.place + 36 }
      else none
  else none

/-- The label that an ASCII spelling in lower case stands for. -/
def decode? (text : List Char) : Option (List Char) := do
  let tail := (text.reverse.takeWhile (· != '-')).reverse
  let head := (text.take (text.length - tail.length)).dropLast
  let tail := if head.isEmpty then text else tail
  let digits ← tail.mapM digit?
  let d ← digits.foldlM Decoder.read? ⟨head, 0x80, 0, 0, 1, 36, 72⟩
  if d.place = 36 then some d.label else none

end MakeLens.Punycode
