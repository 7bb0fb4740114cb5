import PubSub.Number.Binary64

/-! # Settings as a tree

Files and environment variables are gathered into one tree before anything is made of them.

* **`Setting`** — a value of the tree; a table lists its names once each.
* **`Setting.merge`** — lay a value over another: tables are merged name by name, anything else
  replaces what was there.
* **`SettingPath`** — a way into the tree, such as `registry.deny_prefixes[0]`.
* **`Setting.assign`** — lay a value over what a path leads to, making tables and lists on the way. -/

namespace PubSub

/-! ## (1) Values -/

/-- A **value** of the tree of settings. -/
inductive Setting
  | null
  | bool (b : Bool)
  | integer (i : Int)
  | real (x : Binary64)
  | text (s : String)
  | list (items : List Setting)
  | table (entries : List (String × Setting))
  deriving Repr

namespace Setting

/-- The entries of a table; other values have none. -/
def entries : Setting → List (String × Setting)
  | table entries => entries
  | _ => []

/-- The items of a list; other values have none. -/
def items : Setting → List Setting
  | list items => items
  | _ => []

/-- The entry of a name. -/
def find? (entries : List (String × Setting)) (name : String) : Option Setting :=
  (entries.find? fun entry => entry.1 == name).map (·.2)

/-- Change the entry of a name; a name that is not there enters as null. -/
def updateEntry (f : Setting → Setting) (name : String) :
    List (String × Setting) → List (String × Setting)
  | [] => [(name, f null)]
  | (other, value) :: rest =>
    if other = name then (other, f value) :: rest else (other, value) :: updateEntry f name rest

mutual

/-- **Merge**: lay the first value over the second. -/
def merge : Setting → Setting → Setting
  | table incoming, present => table (mergeEntries incoming present.entries)
  | value, _ => value

/-- Lay entries over those of a table, one after the other. -/
def mergeEntries : List (String × Setting) → List (String × Setting) → List (String × Setting)
  | [], present => present
  | (name, value) :: rest, present => mergeEntries rest (updateEntry (merge value) name present)

end

end Setting

/-! ## (2) Paths -/

/-- One **step** of a path. -/
inductive SettingStep
  /-- To the entry of a name. -/
  | child (name : String)
  /-- To the item at a position; negative positions count from the end. -/
  | item (index : Int)
  deriving DecidableEq, Repr

/-- A **path** into the tree. -/
abbrev SettingPath := List SettingStep

namespace SettingPath

/-- The characters of a name in a path. -/
def isNameChar (c : Char) : Bool := c.isAlphanum || c == '_' || c == '-'

/-- The name in front, which is not empty, and the rest. -/
def readName? (cs : List Char) : Option (String × List Char) :=
  match cs.takeWhile isNameChar with
  | [] => none
  | name => some (String.ofList name, cs.dropWhile isNameChar)

/-- Whether the character is a blank that may stand around an index. -/
def isIndexBlank (c : Char) : Bool := c == ' ' || c == '\t'

/-- An index of 64 bits, blanks around it, its closing bracket, and the rest. -/
def readIndex? (cs : List Char) : Option (Int × List Char) :=
  let (negative, cs) := match cs.dropWhile isIndexBlank with
    | '-' :: rest => (true, rest)
    | rest => (false, rest)
  match cs.takeWhile Char.isDigit, (cs.dropWhile Char.isDigit).dropWhile isIndexBlank with
  | d :: ds, ']' :: rest =>
    let n : Int := Nat.ofDigitChars 10 (d :: ds) 0
    let index := if negative then -n else n
    if isSigned index then some (index, rest) else none
  | _, _ => none

/-- The steps behind the first name; `limit` bounds their number. -/
def readSteps? : (limit : Nat) → List Char → Option SettingPath
  | _, [] => some []
  | limit + 1, '.' :: rest =>
    match readName? rest with
    | some (name, rest) => (readSteps? limit rest).map (.child name :: ·)
    | none => none
  | limit + 1, '[' :: rest =>
    match readIndex? rest with
    | some (index, rest) => (readSteps? limit rest).map (.item index :: ·)
    | none => none
  | _, _ => none

/-- **Read** a path: a name, and then names behind points and indices in brackets. -/
def read? (s : String) : Option SettingPath :=
  match readName? s.toList with
  | some (name, rest) => (readSteps? s.length rest).map (.child name :: ·)
  | none => none

/-- The path that a key names; a key that is not written as a path is the name of an entry. -/
def ofKey (key : String) : SettingPath := (read? key).getD [.child key]

end SettingPath

namespace Setting

/-- Change the item at a position, which may lie beyond either end of the list. -/
def updateItem (f : Setting → Setting) (index : Int) (items : List Setting) : List Setting :=
  if 0 ≤ index then
    let n := index.toNat
    let padded := items ++ List.replicate (n + 1 - items.length) null
    padded.modify n f
  else if index.natAbs ≤ items.length then items.modify (items.length - index.natAbs) f
  else
    let missing := index.natAbs - items.length
    f null :: (List.replicate (missing - 1) null ++ items)

/-- Change what a path leads to. What is no table or list where the path needs one gives way to an
empty one. -/
def update (f : Setting → Setting) : SettingPath → Setting → Setting
  | [], value => f value
  | .child name :: path, value => table (updateEntry (update f path) name value.entries)
  | .item index :: path, value => list (updateItem (update f path) index value.items)

/-- **Assign**: lay a value over what the key's path leads to. -/
def assign (key : String) (value : Setting) (tree : Setting) : Setting :=
  update (merge value) (SettingPath.ofKey key) tree

/-- Assign entries one after the other. -/
def assignAll (entries : List (String × Setting)) (tree : Setting) : Setting :=
  entries.foldl (fun tree entry => assign entry.1 entry.2 tree) tree

end Setting

end PubSub
