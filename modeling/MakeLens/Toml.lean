import MakeLens.Json

/-! # TOML documents

  The values of a TOML document and the rules by which its lines build up tables. A
  table remembers how it came to be, because that decides who may still add to it:
  nothing extends an inline table, a header may complete a table that was only
  implied by longer headers, and a dotted key extends what dotted keys have made.
-/

namespace MakeLens.Toml

/-- How a table came to be. -/
inductive Form where
  /-- By its own header, or as an element of an array of tables. -/
  | header
  /-- As a step of a longer header. -/
  | implied
  /-- As a step of a dotted key. -/
  | dotted
  /-- Between braces; it is complete. -/
  | inline
  deriving DecidableEq, Repr

/-- A TOML value. -/
inductive Value where
  | str (s : String)
  | int (n : Int)
  /-- A double-precision number by its encoding, infinities and no-numbers
      included. -/
  | real (bits : UInt64)
  | bool (b : Bool)
  /-- A date, a time or both, in its normal spelling. -/
  | dateTime (s : String)
  /-- An array; `ofTables` holds when headers have made it. -/
  | arr (ofTables : Bool) (items : List Value)
  | table (form : Form) (members : List (String × Value))
  deriving Inhabited, Repr

/-- The members of a table. -/
abbrev Members := List (String × Value)

/-! ### Building tables -/

/-- Changes the table that a path leads to, seen from a table. Missing steps are made.
    A header walks into the last element of an array of tables; a dotted key does not
    walk into a table that has its own header. -/
def update (byDots : Bool) :
    (path : List String) → (Form → Members → Option (Form × Members)) →
    Form → Members → Option (Form × Members)
  | [], change, form, members => change form members
  | key :: rest, change, form, members => do
    let enter (f : Form) (ms : Members) : Option Value :=
      (update byDots rest change f ms).map fun (f, ms) => .table f ms
    let entered ← match Json.member? key members with
      | none => enter (if byDots then .dotted else .implied) []
      | some (.table f ms) =>
        if f = .inline ∨ (byDots ∧ f = .header) then none else enter f ms
      | some (.arr true items) =>
        match items.getLast? with
        | some (.table f ms) =>
          (enter f ms).map fun last => .arr true (items.dropLast ++ [last])
        | _ => none
      | some _ => none
    some (form, Json.putMember key entered members)

/-- Gives a key of a table its value. A dotted key ends in a table made by dots, any
    other in one that is not, and no key has a value twice. -/
def assign (path : List String) (key : String) (value : Value) (form : Form)
    (members : Members) : Option (Form × Members) :=
  update true path (fun f ms =>
    if (f == .dotted) == path.isEmpty then none
    else if (Json.member? key ms).isSome then none
    else some (f, Json.putMember key value ms)) form members

/-- A document being read: its top table and the path of the table that the last
    header opened. -/
structure Document where
  top : Members
  current : List String

namespace Document

/-- Opens the table of a header. -/
def openTable (doc : Document) (path : List String) (key : String) : Option Document := do
  let (_, top) ← update false path (fun f ms =>
    match Json.member? key ms with
    | none => some (f, Json.putMember key (.table .header []) ms)
    | some (.table .implied inner) => some (f, Json.putMember key (.table .header inner) ms)
    | some _ => none) .header doc.top
  some ⟨top, path ++ [key]⟩

/-- Opens a new element of an array of tables. -/
def openElement (doc : Document) (path : List String) (key : String) : Option Document := do
  let (_, top) ← update false path (fun f ms =>
    match Json.member? key ms with
    | none => some (f, Json.putMember key (.arr true [.table .header []]) ms)
    | some (.arr true items) =>
      some (f, Json.putMember key (.arr true (items ++ [.table .header []])) ms)
    | some _ => none) .header doc.top
  some ⟨top, path ++ [key]⟩

/-- Gives a key of the current table its value. -/
def assign (doc : Document) (path : List String) (key : String) (value : Value) :
    Option Document := do
  let (_, top) ← update false doc.current (Toml.assign path key value) .header doc.top
  some { doc with top := top }

end Document

end MakeLens.Toml
