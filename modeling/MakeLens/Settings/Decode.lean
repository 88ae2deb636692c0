import MakeLens.Decimal.Shortest
import MakeLens.Text.Quoted
import MakeLens.Settings

/-! # Settings from JSON

  A group of settings is an object, whose members may be missing, or an array of the
  fields in their order, which may be short. What is missing keeps its default, and
  keys that mean nothing are passed over. The first value of the wrong type is the
  error: members are looked at in ascending order of their keys.
-/

namespace MakeLens

/-- Why a JSON value is no settings. -/
inductive DecodeError where
  /-- A value of another type than the field's. -/
  | wrongType (found : Json) (wanted : String)
  /-- A negative number where a count is due. -/
  | negative (n : Int)
  /-- An array with more items than there are fields. -/
  | tooManyItems (count : Nat)

/-- A value as errors call it. -/
def Json.describe : Json → String
  | .null => "null"
  | .bool b => "boolean `" ++ (if b then "true" else "false") ++ "`"
  | .int n => "integer `" ++ toString n ++ "`"
  | .real bits => "floating point `" ++ Decimal.textOfBits bits ++ "`"
  | .str s => "string " ++ quoted s
  | .arr _ => "sequence"
  | .obj _ => "map"

/-- What a count is called in errors. -/
def countName : String := "usize"

/-- The wording of an error. -/
def DecodeError.message : DecodeError → String
  | .wrongType found wanted => "invalid type: " ++ found.describe ++ ", expected " ++ wanted
  | .negative n => "invalid value: integer `" ++ toString n ++ "`, expected " ++ countName
  | .tooManyItems count =>
    "invalid length " ++ toString count ++ ", expected fewer elements in array"

namespace Settings

/-! ### Fields -/

/-- A truth value. -/
def decodeBool : Json → Except DecodeError Bool
  | .bool b => .ok b
  | found => .error (.wrongType found "a boolean")

/-- A count. -/
def decodeCount : Json → Except DecodeError Nat
  | .int n => if 0 ≤ n then .ok n.toNat else .error (.negative n)
  | found => .error (.wrongType found countName)

/-- A text. -/
def decodeText : Json → Except DecodeError String
  | .str s => .ok s
  | found => .error (.wrongType found "a string")

/-- A list of texts. -/
def decodeTexts : Json → Except DecodeError (List String)
  | .arr items => items.mapM decodeText
  | found => .error (.wrongType found "a sequence")

/-! ### Groups -/

/-- A field of a group: its key, and what a value for it does to the group. -/
structure Field (α : Type) where
  key : String
  set : α → Json → Except DecodeError α

/-- Reads a group that starts out as `initial`. -/
def decodeGroup {α : Type} (name : String) (fields : List (Field α)) (initial : α) :
    Json → Except DecodeError α
  | .obj members => members.foldlM (fun group (key, value) =>
      match fields.find? fun field => field.key == key with
      | some field => field.set group value
      | none => .ok group) initial
  | .arr items => do
    let group ← (fields.zip items).foldlM
      (fun group (field, value) => field.set group value) initial
    if fields.length < items.length then .error (.tooManyItems items.length) else .ok group
  | found => .error (.wrongType found ("struct " ++ name))

/-- Reads the features. -/
def decodeFeatures : Json → Except DecodeError FeatureSettings :=
  decodeGroup "FeatureConfig"
    [⟨"hover", fun group value => do return { group with hover := ← decodeBool value }⟩,
     ⟨"definition", fun group value => do return { group with definition := ← decodeBool value }⟩,
     ⟨"document_symbols", fun group value => do
        return { group with documentSymbols := ← decodeBool value }⟩]
    default.features

/-- Reads how the index behaves. -/
def decodeIndex : Json → Except DecodeError IndexSettings :=
  decodeGroup "IndexConfig"
    [⟨"max_expansion_depth", fun group value => do
        return { group with maxExpansionDepth := ← decodeCount value }⟩,
     ⟨"reindex_on_change", fun group value => do
        return { group with reindexOnChange := ← decodeBool value }⟩]
    default.index

/-- Reads which files count as build files. -/
def decodeWorkspace : Json → Except DecodeError WorkspaceSettings :=
  decodeGroup "WorkspaceConfig"
    [⟨"file_patterns", fun group value => do
        return { group with filePatterns := ← decodeTexts value }⟩]
    default.workspace

/-- Reads all settings. -/
def decode : Json → Except DecodeError Settings :=
  decodeGroup "MakefileLspConfig"
    [⟨"features", fun group value => do return { group with features := ← decodeFeatures value }⟩,
     ⟨"index", fun group value => do return { group with index := ← decodeIndex value }⟩,
     ⟨"workspace", fun group value => do
        return { group with workspace := ← decodeWorkspace value }⟩]
    default

end Settings

end MakeLens
