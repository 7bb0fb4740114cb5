import PubSub.Settings.Setting

/-! # Settings in environment variables

A variable whose name begins with `TOPICREG__` holds a setting: the rest of the name is the path to
it, with `__` between the parts. Names are compared without regard to case.

* **`Environment`** — names and values of variables.
* **`Environment.settingKey?`** — the key that a variable's name stands for.
* **`Environment.settingOf`** — what the value of a variable means: a truth value, an integer or a
  number if it reads as one, else a text, or a list of texts for a key that holds a list.
* **`Environment.overlay`** — the settings of all variables. -/

namespace PubSub

/-- The **environment**: variables with their values. -/
abbrev Environment := List (String × String)

/-- Lower case, for words of ASCII letters. The Kelvin sign is the only other character whose lower
case is such a letter. -/
def lowerCase (cs : List Char) : List Char :=
  cs.map fun c => if c == '\u212A' then 'k' else c.toLower

namespace Environment

/-- The value of a variable. -/
def get? (env : Environment) (name : String) : Option String :=
  (env.find? fun item => item.1 == name).map (·.2)

/-- The beginning of the names of settings, in lower case. -/
def namePrefix : List Char := "topicreg__".toList

/-- Replace each pair of underscores by a point, from left to right. -/
def pointPairs : List Char → List Char
  | '_' :: '_' :: rest => '.' :: pointPairs rest
  | c :: rest => c :: pointPairs rest
  | [] => []

/-- The **key** that a variable's name stands for, if it is the name of a setting. -/
def settingKey? (name : String) : Option String :=
  let lower := lowerCase name.toList
  if namePrefix.isPrefixOf lower then
    some (String.ofList (pointPairs (lower.drop namePrefix.length)))
  else none

/-- The key whose values are lists. -/
def listKey : String := "registry.deny_prefixes"

/-- A truth value, without regard to case. -/
def readBool? (cs : List Char) : Option Bool :=
  if lowerCase cs = "true".toList then some true
  else if lowerCase cs = "false".toList then some false
  else none

/-- An integer of 64 bits: a sign that may be left out, and digits. -/
def readInteger? (cs : List Char) : Option Int :=
  let (negative, digits) := Binary64.splitSign cs
  if digits.isEmpty || !digits.all Char.isDigit then none
  else
    let n : Int := Nat.ofDigitChars 10 digits 0
    let i := if negative then -n else n
    if isSigned i then some i else none

/-- The texts between the commas. -/
def splitList (s : String) : Setting :=
  .list ((s.toList.splitOn ',').map fun item => .text (String.ofList item))

/-- **What a value means** under a key. -/
def settingOf (key value : String) : Setting :=
  let cs := value.toList
  match readBool? cs, readInteger? cs, Binary64.read? cs with
  | some b, _, _ => .bool b
  | none, some i, _ => .integer i
  | none, none, some x => .real x
  | none, none, none => if key = listKey then splitList value else .text value

/-- The **settings** of all variables, in their order. -/
def overlay (env : Environment) : List (String × Setting) :=
  env.filterMap fun item => (settingKey? item.1).map fun key => (key, settingOf key item.2)

end Environment

end PubSub
