import PubSub.Protocol.Request
import PubSub.Settings.Environment

/-! # From the tree to the settings

* **`Settings`** — everything that can be set.
* **`Setting.toCode?`, `toBool?`, `toText?`, `toTexts?`** — readings of a value; values of other kinds
  are converted where that makes sense.
* **`Settings.ofTree?`** — the settings of a tree. What is not set, or set to null, keeps its default;
  `none` if some value cannot be read. -/

namespace PubSub

/-- The **settings** of the program. -/
structure Settings where
  /-- What concerns requests and subscriptions. -/
  registry : RegistrySettings
  /-- The name of the level of the log. -/
  logLevel : String
  deriving DecidableEq, Repr

/-- The settings that hold where nothing is set. -/
def Settings.default : Settings := ⟨.default, "info"⟩

namespace Setting

/-! ## (1) Reading values -/

/-- The words for yes, in lower case. -/
def yesWords : List String := ["true", "on", "yes"]

/-- The words for no, in lower case. -/
def noWords : List String := ["false", "off", "no"]

/-- A text in lower case. -/
def lowerText (s : String) : String := String.ofList (lowerCase s.toList)

/-- Digits behind a plus sign that may be left out. -/
def readNatural? (s : String) : Option Nat :=
  let digits := match s.toList with
    | '+' :: rest => rest
    | cs => cs
  if digits.isEmpty || !digits.all Char.isDigit then none
  else some (Nat.ofDigitChars 10 digits 0)

/-- A natural number: that of an integer, the nearest of another number, 1 and 0 for truth values, and
what a text says. -/
def toNatural? : Setting → Option Nat
  | integer i => if 0 ≤ i then some i.toNat else none
  | real x => some x.toWord
  | bool b => some (if b then 1 else 0)
  | text s =>
    if yesWords.contains (lowerText s) then some 1
    else if noWords.contains (lowerText s) then some 0
    else readNatural? s
  | null | list _ | table _ => none

/-- The **code** of a level, a natural number below 256. -/
def toCode? (v : Setting) : Option UInt8 :=
  match v.toNatural? with
  | some n => if n < 256 then some (UInt8.ofNat n) else none
  | none => none

/-- A **truth value**; a number is true unless it is zero. -/
def toBool? : Setting → Option Bool
  | bool b => some b
  | integer i => some (i != 0)
  | real x => some x.isNonzero
  | text s =>
    if lowerText s = "1" || yesWords.contains (lowerText s) then some true
    else if lowerText s = "0" || noWords.contains (lowerText s) then some false
    else none
  | null | list _ | table _ => none

/-- A **text**; numbers and truth values are written out. -/
def toText? : Setting → Option String
  | text s => some s
  | bool b => some (if b then "true" else "false")
  | integer i => some (toString i)
  | real x => some x.plainText
  | null | list _ | table _ => none

/-- A **list of texts**. -/
def toTexts? : Setting → Option (List String)
  | list items => items.mapM toText?
  | _ => none

/-- A reading of a value that may be absent or null: the outer `none` is a failure. -/
def optional {α : Type} (read : Setting → Option α) : Option Setting → Option (Option α)
  | none | some null => some none
  | some v => (read v).map some

/-! ## (2) Reading groups

A group of settings is a table. A list is also understood, with the settings in the order of their
declaration. -/

/-- The settings of a group in the order of their declaration, each with its value if it has one.
`none` if the value is no group, or a list that is too short. -/
def group? (names : List String) : Setting → Option (List (Option Setting))
  | table entries => some (names.map (find? entries))
  | list items => if items.length < names.length then none else some ((items.take names.length).map some)
  | _ => none

/-- The group of the registry. -/
def registryGroup? (v : Setting) : Option RegistrySettings :=
  match v.group? ["default_level", "check_exists", "deny_prefixes"] with
  | some [level, exist, prefixes] =>
    match optional toCode? level, optional toBool? exist, optional toTexts? prefixes with
    | some level, some exist, some prefixes =>
      let default := RegistrySettings.default
      some ⟨level.getD default.defaultLevel, exist.getD default.checkExists,
        prefixes.getD default.denyPrefixes⟩
    | _, _, _ => none
  | _ => none

/-- The group of the log. -/
def loggingGroup? (v : Setting) : Option String :=
  match v.group? ["level"] with
  | some [level] => (optional toText? level).map (·.getD Settings.default.logLevel)
  | _ => none

end Setting

/-- The **settings of a tree**. -/
def Settings.ofTree? (tree : Setting) : Option Settings :=
  let default := Settings.default
  match Setting.optional Setting.registryGroup? (Setting.find? tree.entries "registry"),
    Setting.optional Setting.loggingGroup? (Setting.find? tree.entries "logging") with
  | some registry, some level =>
    some ⟨registry.getD default.registry, level.getD default.logLevel⟩
  | _, _ => none

end PubSub
