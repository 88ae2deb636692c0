import MakeLens.Toml.Scalar

/-! # TOML values as JSON

  Dates become their text, and numbers that JSON does not have become `null`. A date
  can also be given as a table: its first key in ascending order is `dateKey`, and the
  value there is a text that spells the date.
-/

namespace MakeLens.Toml

/-- Whether an encoding is that of an infinity or of no number. -/
def isNotFinite (bits : UInt64) : Bool :=
  bits.toNat / 0x10000000000000 % 0x800 == 2047

/-- The key of a table that stands for a date. -/
def dateKey : String := "$__toml_private_datetime"

/-- What a table that stands for a date gives as its date. -/
def markedDate? : Members → Option Value
  | (key, value) :: _ => if key = dateKey then some value else none
  | [] => none

/-- The date that a text spells, in its normal spelling. -/
def Value.spelledDate? : Value → Option String
  | .str s => match dateTime? s.toList with
    | some (.dateTime date) => some date
    | _ => none
  | _ => none

mutual

/-- A value as JSON, unless a table in it stands for a date and does not spell one. The
    other members of a table that stands for a date do not count. -/
def Value.toJson? : Value → Option Json
  | .str s => some (.str s)
  | .int n => some (.int n)
  | .real bits => some (if isNotFinite bits then .null else .real bits)
  | .bool b => some (.bool b)
  | .dateTime s => some (.str s)
  | .arr _ items => (itemsToJson? items).map .arr
  | .table _ members =>
    match markedDate? members with
    | some value => value.spelledDate?.map .str
    | none => (membersToJson? members).map .obj

/-- Array items as JSON. -/
def itemsToJson? : List Value → Option (List Json)
  | [] => some []
  | item :: rest => do
    let first ← item.toJson?
    let others ← itemsToJson? rest
    some (first :: others)

/-- Table members as JSON. -/
def membersToJson? : List (String × Value) → Option (List (String × Json))
  | [] => some []
  | (key, value) :: rest => do
    let first ← value.toJson?
    let others ← membersToJson? rest
    some ((key, first) :: others)

end

end MakeLens.Toml
