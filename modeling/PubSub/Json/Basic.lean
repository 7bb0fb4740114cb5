import PubSub.Json.Numeral

/-! # JSON values

* **`Json`** — the values; the members of an object keep their order and may repeat a name.
* **`Json.isComposite`** — whether a value is an array or an object. -/

namespace PubSub

/-- A **JSON value**. -/
inductive Json
  | null
  | bool (b : Bool)
  | number (n : Numeral)
  | string (s : String)
  | array (items : List Json)
  | object (members : List (String × Json))
  deriving Repr

namespace Json

/-- The number of an integer. -/
def int (i : Int) : Json := number (.ofInt i)

/-- The number of a natural number. -/
def nat (n : Nat) : Json := number (.ofNat n)

/-- A text, or null. -/
def stringOrNull : Option String → Json
  | some s => string s
  | none => null

/-- Whether the value is an array or an object. -/
def isComposite : Json → Bool
  | array _ | object _ => true
  | _ => false

end Json

end PubSub
