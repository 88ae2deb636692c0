import MakeLens.Disk
import MakeLens.Settings.Decode
import MakeLens.Settings.Overlay
import MakeLens.Toml.Conversion
import MakeLens.Toml.Reader

/-! # Loading settings

  The settings in effect come from three layers: the defaults, over them what the
  editor sent when it started, and over that the settings file of the workspace. Only
  a load that succeeds changes the settings.
-/

namespace MakeLens

/-- Why settings could not be loaded. -/
inductive LoadError where
  /-- The settings file cannot be read. -/
  | unreadable (cause : ReadFault)
  /-- The settings file is not UTF-8. -/
  | notText
  /-- The settings file is not TOML. -/
  | malformed
  /-- The layers together are no settings. -/
  | undecodable (cause : DecodeError)

/-- The wording of an error. -/
def LoadError.message : LoadError → String
  | .unreadable cause => "Failed to read config: " ++ cause.message
  | .notText => "Failed to read config: stream did not contain valid UTF-8"
  | .malformed => "Failed to parse config"
  | .undecodable cause => "Failed to deserialize merged config: " ++ cause.message

/-- The settings in effect, and what the editor sent when it started. -/
structure SettingsStore where
  current : Settings
  initial : Option Json

namespace SettingsStore

/-- The store before anything was loaded. -/
def empty : SettingsStore where
  current := .default
  initial := none

/-- The layer of the settings file in a directory; none when there is no file. -/
def fileLayer (disk : Disk) (root : FilePath) : Except LoadError (Option Json) :=
  let path := root.join (.ofString Settings.fileName)
  if disk.pathExists path then
    match disk.read path with
    | .bytes bytes =>
      match Utf8.decode? bytes with
      | none => .error .notText
      | some text =>
        match (Toml.read? text).bind fun members => (Toml.Value.table .header members).toJson? with
        | none => .error .malformed
        | some layer => .ok (some layer)
    | .fault cause => .error (.unreadable cause)
    | .missing => .ok none
  else .ok none

/-- A value with a layer over it, where there is one. -/
def layered (base : Json) (layer : Option Json) : Json :=
  match layer with
  | some top => base.overlay top
  | none => base

/-- The settings that the layers give. -/
def resolve (store : SettingsStore) (disk : Disk) (root : FilePath) :
    Except LoadError Settings := do
  let file ← fileLayer disk root
  let merged := layered (layered Settings.default.toJson store.initial) file
  match Settings.decode merged with
  | .ok settings => .ok settings
  | .error cause => .error (.undecodable cause)

/-- Loads the settings of the workspace at `root`. -/
def load (store : SettingsStore) (disk : Disk) (root : FilePath) :
    SettingsStore × Except LoadError Settings :=
  match store.resolve disk root with
  | .ok settings => ({ store with current := settings }, .ok settings)
  | .error cause => (store, .error cause)

end SettingsStore

end MakeLens
