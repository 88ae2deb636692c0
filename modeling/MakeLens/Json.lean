/-! # JSON values

  The dynamic values that settings and messages are made of. Whole numbers are
  kept apart from numbers with a fraction or exponent, which are held as the
  encoding of a double. The members of an object are kept in ascending order of
  their keys, each key once.
-/

namespace MakeLens

/-- A JSON value. -/
inductive Json where
  | null
  | bool (b : Bool)
  /-- A whole number. -/
  | int (n : Int)
  /-- A finite double-precision number, by its encoding. -/
  | real (bits : UInt64)
  | str (s : String)
  | arr (items : List Json)
  | obj (members : List (String × Json))
  deriving Inhabited, Repr

namespace Json

/-- Puts a member into ascending members, replacing the one with the same key. -/
def putMember {α : Type} (key : String) (value : α) : List (String × α) → List (String × α)
  | [] => [(key, value)]
  | (k, v) :: rest =>
    if key < k then (key, value) :: (k, v) :: rest
    else if key = k then (key, value) :: rest
    else (k, v) :: putMember key value rest

/-- The value of a member. -/
def member? {α : Type} (key : String) (members : List (String × α)) : Option α :=
  (members.find? fun m => m.1 == key).map Prod.snd

/-- An object with the given members; of equal keys the last counts. -/
def ofMembers (members : List (String × Json)) : Json :=
  .obj (members.foldl (fun done (key, value) => putMember key value done) [])

/-- Whether a value is `null`. -/
def isNull : Json → Bool
  | .null => true
  | _ => false

/-- The member of an object. -/
def get? (key : String) : Json → Option Json
  | .obj members => member? key members
  | _ => none

/-- The text of a string value. -/
def str? : Json → Option String
  | .str s => some s
  | _ => none

/-- The items of an array. -/
def items? : Json → Option (List Json)
  | .arr items => some items
  | _ => none

/-- The whole number of a value. -/
def int? : Json → Option Int
  | .int n => some n
  | _ => none

end Json

end MakeLens
