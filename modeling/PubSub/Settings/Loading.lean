import PubSub.Json.Reader
import PubSub.Settings.Decoding
import PubSub.Settings.Toml.Reader
import PubSub.Text.ByteOrderMark

/-! # Loading settings

The settings come from one file, in TOML or in JSON, and from the environment, which wins.

* **`Files`** — the files of the working directory, by path.
* **`Json.toSetting`** — a JSON value as a setting.
* **`Settings.load`** — the settings, or why there are none. -/

namespace PubSub

/-- The **files** of the working directory: texts by their paths. -/
abbrev Files := List (String × String)

/-- The text of a file. -/
def Files.get? (files : Files) (path : String) : Option String :=
  (files.find? fun file => file.1 == path).map (·.2)

/-! ## (1) JSON values as settings -/

/-- A numeral as a setting: an integer if it is worth one, else a real number. -/
def Numeral.toSetting (n : Numeral) : Setting :=
  match n.value? with
  | some (.integer i) => .integer i
  | some (.real negative x) => .real (.finite negative x)
  | none => .null

mutual

/-- A JSON value as a **setting**. Of several members with one name the last counts. -/
def Json.toSetting : Json → Setting
  | .null => .null
  | .bool b => .bool b
  | .number n => n.toSetting
  | .string s => .text s
  | .array items => .list (itemsToSettingList items)
  | .object members => .table (membersToEntries members [])

/-- The items of an array. -/
def itemsToSettingList : List Json → List Setting
  | [] => []
  | item :: items => item.toSetting :: itemsToSettingList items

/-- The members of an object, laid into `entries`. -/
def membersToEntries : List (String × Json) → List (String × Setting) → List (String × Setting)
  | [], entries => entries
  | (name, value) :: members, entries =>
    membersToEntries members (Setting.updateEntry (fun _ => value.toSetting) name entries)

end

/-! ## (2) Files -/

/-- Why there are **no settings**. -/
inductive SettingsError
  /-- The file is not written in its format. -/
  | malformedFile (path : String)
  /-- Some value is not what it should be. -/
  | unusableValue
  deriving DecidableEq, Repr

/-- The wording of an error. -/
def SettingsError.message : SettingsError → String
  | malformedFile path => "configuration file " ++ path ++ " is malformed"
  | unusableValue => "configuration value of the wrong kind"

/-- The file in TOML. -/
def tomlPath : String := "config/default.toml"

/-- The file in JSON, read if there is none in TOML. -/
def jsonPath : String := "config/default.json"

/-- The entries of a TOML text. -/
def readToml (path text : String) : Except SettingsError (List (String × Setting)) :=
  match Toml.parse? (dropByteOrderMark text.toList) with
  | some entries => .ok entries
  | none => .error (.malformedFile path)

/-- The entries of a JSON text, which must be an object. -/
def readJson (path text : String) : Except SettingsError (List (String × Setting)) :=
  match Json.parse? (dropByteOrderMark text.toList) with
  | some (.object members) => .ok (membersToEntries members [])
  | _ => .error (.malformedFile path)

/-- The entries of the **file**; without a file there are none. -/
def Files.settings (files : Files) : Except SettingsError (List (String × Setting)) :=
  match files.get? tomlPath, files.get? jsonPath with
  | some text, _ => readToml tomlPath text
  | none, some text => readJson jsonPath text
  | none, none => .ok []

/-! ## (3) The settings -/

/-- **Load the settings**: the environment is laid over the file. -/
def Settings.load (files : Files) (env : Environment) : Except SettingsError Settings :=
  match files.settings with
  | .error e => .error e
  | .ok entries =>
    let tree := Setting.assignAll env.overlay (Setting.assignAll entries (.table []))
    match Settings.ofTree? tree with
    | some settings => .ok settings
    | none => .error .unusableValue

end PubSub
