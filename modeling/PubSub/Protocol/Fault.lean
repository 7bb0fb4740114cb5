import PubSub.Json.Basic
import PubSub.Protocol.Request
import PubSub.Text.Quoted

/-! # Faults of request lines

Why a line is not a request.

* **`Found`** — what kind of value stands in the text; **`Wanted`** — what should have stood there.
* **`ShapeError`** — a JSON text of the wrong shape; `ShapeError.message` words it.
* **`Fault`** — no JSON text at all, or one of the wrong shape. -/

namespace PubSub

/-- What was **found** in the text. -/
inductive Found
  | null
  | bool (b : Bool)
  | number (n : Numeral)
  | string (s : String)
  | sequence
  | map
  deriving DecidableEq, Repr

namespace Found

/-- What is found where a value stands. -/
def ofJson : Json → Found
  | .null => null
  | .bool b => bool b
  | .number n => number n
  | .string s => string s
  | .array _ => sequence
  | .object _ => map

/-- The wording of a number: integers and others are told apart. -/
def numberText (n : Numeral) : String :=
  match n.value? with
  | some (.integer i) => "integer `" ++ toString i ++ "`"
  | some value => "floating point `" ++ value.text ++ "`"
  | none => "number"

/-- The wording of what was found. -/
def text : Found → String
  | null => "null"
  | bool b => "boolean `" ++ (if b then "true" else "false") ++ "`"
  | number n => numberText n
  | string s => "string " ++ quote s
  | sequence => "sequence"
  | map => "map"

end Found

/-- What was **wanted** in its place. -/
inductive Wanted
  | request
  | tag
  | clientId
  | code
  | position
  | sequence
  | string
  | boolean
  deriving DecidableEq, Repr

/-- The wording of what was wanted. -/
def Wanted.text : Wanted → String
  | request => "internally tagged enum ClientMessage"
  | tag => "variant identifier"
  | clientId => "i64"
  | code => "u8"
  | position => "usize"
  | sequence => "a sequence"
  | string => "a string"
  | boolean => "a boolean"

/-- What is **wrong with the shape** of a JSON text. -/
inductive ShapeError
  /-- A value of the wrong kind. -/
  | invalidType (found : Found) (wanted : Wanted)
  /-- An integer out of the range of its field. -/
  | outOfRange (value : Int) (wanted : Wanted)
  /-- A field is missing. -/
  | missingField (name : String)
  /-- A field is given twice. -/
  | duplicateField (name : String)
  /-- There is no such verb. -/
  | unknownVerb (tag : String)
  /-- A request written as an array ends before its fields are complete. -/
  | tooFewItems (given : Nat) (verb : Verb)
  /-- A request written as an array has more items than fields. -/
  | tooManyItems (given : Nat) (verb : Verb)
  deriving DecidableEq, Repr

/-- A count of elements. -/
def elementsText (n : Nat) : String :=
  if n = 1 then "1 element" else toString n ++ " elements"

/-- The verbs' tags, each between accents, with commas between them. -/
def tagListText : String :=
  ", ".intercalate (Verb.all.map fun v => "`" ++ v.tag ++ "`")

/-- The wording of a shape error. -/
def ShapeError.message : ShapeError → String
  | invalidType found wanted => "invalid type: " ++ found.text ++ ", expected " ++ wanted.text
  | outOfRange value wanted =>
    "invalid value: integer `" ++ toString value ++ "`, expected " ++ wanted.text
  | missingField name => "missing field `" ++ name ++ "`"
  | duplicateField name => "duplicate field `" ++ name ++ "`"
  | unknownVerb tag => "unknown variant `" ++ tag ++ "`, expected one of " ++ tagListText
  | tooFewItems given verb =>
    "invalid length " ++ toString given ++ ", expected struct variant ClientMessage::" ++
      verb.caption ++ " with " ++ elementsText verb.fields.length
  | tooManyItems given verb =>
    "invalid length " ++ toString given ++ ", expected " ++ elementsText verb.fields.length ++
      " in sequence"

/-- Why a line is **not a request**. -/
inductive Fault
  /-- The line is not a JSON text. -/
  | malformed
  /-- The line is a JSON text of the wrong shape. -/
  | shape (error : ShapeError)
  deriving DecidableEq, Repr

/-- The wording of a fault. -/
def Fault.message : Fault → String
  | malformed => "invalid request: <syntax>"
  | shape error => "invalid request: " ++ error.message

end PubSub
