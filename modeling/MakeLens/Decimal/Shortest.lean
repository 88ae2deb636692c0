/-! # Shortest decimals

  The decimal text of a double-precision number. A finite number is m · 2^q; the
  reals that round to it form an interval around it, whose ends belong to it when
  m is even. `shortest` is the decimal with the fewest digits in this interval,
  and of those the one nearest to the number.
-/

namespace MakeLens

/-- A finite double-precision number: `mantissa · 2^exponent`, with its sign. -/
structure Binary where
  negative : Bool
  mantissa : Nat
  exponent : Int
  /-- The gap to the number below is half the gap to the one above. -/
  narrowBelow : Bool
  deriving DecidableEq, Repr

namespace Binary

/-- The number with the given encoding, unless it is infinite or no number. -/
def ofBits? (bits : UInt64) : Option Binary :=
  let n := bits.toNat
  let fraction : Nat := n % 0x10000000000000
  let field : Nat := n / 0x10000000000000 % 0x800
  let negative := 0x8000000000000000 ≤ n
  if field = 2047 then none
  else if field = 0 then some ⟨negative, fraction, -1074, false⟩
  else some ⟨negative, 0x10000000000000 + fraction, (field : Int) - 1075, fraction = 0 && 1 < field⟩

/-- Four times the number's size, as a fraction over `denominator`; the interval
    ends are whole numbers of the same fraction. -/
def quarters (b : Binary) : Nat × Nat × Nat × Nat :=
  let up := Nat.pow 2 (b.exponent - 2).toNat
  let down := Nat.pow 2 (2 - b.exponent).toNat
  let low := 4 * b.mantissa - (if b.narrowBelow then 1 else 2)
  (low * up, 4 * b.mantissa * up, (4 * b.mantissa + 2) * up, down)

end Binary

/-- A decimal `digits · 10^exponent`. -/
structure Decimal where
  digits : Nat
  exponent : Int
  deriving DecidableEq, Repr

namespace Decimal

/-- How many decimal digits a number is written with. -/
def digitCount (n : Nat) : Nat :=
  (Nat.toDigits 10 n).length

/-- The size of `num / den` against `digits · 10^exponent`, as two whole numbers
    to compare. -/
def scaled (num den digits : Nat) (exponent : Int) : Nat × Nat :=
  (num * Nat.pow 10 (-exponent).toNat, digits * Nat.pow 10 exponent.toNat * den)

/-- The place of the leading digit of `num / den`. -/
def leadingPlace (num den : Nat) : Int :=
  (digitCount (num * Nat.pow 10 400 / den) : Int) - 401

/-- The decimal on the grid of `places` digits that stands for the number, if the
    grid has a point in the interval. -/
def onGrid? (b : Binary) (places : Nat) : Option Decimal :=
  let (low, mid, high, den) := b.quarters
  let exponent := leadingPlace mid den - (places : Int) + 1
  let floor := (mid * Nat.pow 10 (-exponent).toNat) / (Nat.pow 10 exponent.toNat * den)
  let inside (digits : Nat) : Bool :=
    let (l, point) := scaled low den digits exponent
    let (h, _) := scaled high den digits exponent
    if b.mantissa % 2 = 0 then l ≤ point && point ≤ h else l < point && point < h
  let (value, below) := scaled mid den floor exponent
  let (_, above) := scaled mid den (floor + 1) exponent
  let upper := value - below > above - value ||
    (value - below = above - value && floor % 2 = 1)
  match inside floor, inside (floor + 1) with
  | true, true => some ⟨if upper then floor + 1 else floor, exponent⟩
  | true, false => some ⟨floor, exponent⟩
  | false, true => some ⟨floor + 1, exponent⟩
  | false, false => none

/-- The shortest decimal that reads back as the number. -/
def shortest (b : Binary) : Decimal :=
  if b.mantissa = 0 then ⟨0, 0⟩
  else ((List.range 17).findSome? fun i => onGrid? b (i + 1)).getD ⟨0, 0⟩

/-! ### Layout -/

/-- A text of `n` zeros. -/
def zeros (n : Nat) : String :=
  String.ofList (List.replicate n '0')

/-- The text of an exponent: its mark, its sign and its size. -/
def exponentText (place : Int) : String :=
  "e" ++ (if place < 0 then "-" else "+") ++ toString place.natAbs

/-- Writes a decimal. A leading digit between 10^-5 and 10^15 is written
    positionally, with `.0` after a whole number; beyond that an exponent with its
    sign follows the digits. -/
def layout (d : Decimal) : String :=
  let padded := (Nat.toDigits 10 d.digits)
  let digits := (padded.reverse.dropWhile (· == '0')).reverse
  let place : Int := d.exponent + (padded.length : Int) - 1
  let text := String.ofList digits
  if digits = [] then "0.0"
  else if (digits.length : Int) - 1 ≤ place ∧ place ≤ 15 then
    text ++ zeros (place + 1 - digits.length).toNat ++ ".0"
  else if 0 ≤ place ∧ place ≤ 15 then
    String.ofList (digits.take (place + 1).toNat) ++ "." ++
      String.ofList (digits.drop (place + 1).toNat)
  else if -5 ≤ place ∧ place < 0 then "0." ++ zeros (-place - 1).toNat ++ text
  else match digits with
    | [c] => String.ofList [c] ++ exponentText place
    | c :: rest => String.ofList [c] ++ "." ++ String.ofList rest ++ exponentText place
    | [] => "0.0"

/-- The text of the double-precision number with the given encoding. -/
def textOfBits (bits : UInt64) : String :=
  match Binary.ofBits? bits with
  | some b => (if b.negative then "-" else "") ++ (shortest b).layout
  | none => "null"

end Decimal

end MakeLens
