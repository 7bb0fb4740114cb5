import PubSub.Json.Basic

/-! # Writing JSON

* **`Json.render`** — the compact text of a value: no blanks, members in their order.
* **`Json.escape`** — the text between the quotes of a string: a quote, a backslash and the control
  characters below U+0020 are escaped, all else stands for itself. -/

namespace PubSub

namespace Json

/-! ## (1) Strings -/

/-- The two hexadecimal digits, in lower case, of a number below 256. -/
def hexPair (n : Nat) : List Char := [Nat.digitChar (n / 16), Nat.digitChar (n % 16)]

/-- One character inside a string. -/
def escapeChar (c : Char) : List Char :=
  if c = '"' then ['\\', '"']
  else if c = '\\' then ['\\', '\\']
  else if c = '\x08' then ['\\', 'b']
  else if c = '\t' then ['\\', 't']
  else if c = '\n' then ['\\', 'n']
  else if c = '\x0c' then ['\\', 'f']
  else if c = '\r' then ['\\', 'r']
  else if c.toNat < 0x20 then '\\' :: 'u' :: '0' :: '0' :: hexPair c.toNat
  else [c]

/-- The text between the quotes of a string. -/
def escape (cs : List Char) : List Char := cs.flatMap escapeChar

@[simp] theorem escape_nil : escape [] = [] := rfl

/-- A text is escaped character by character. -/
@[simp] theorem escape_cons (c : Char) (cs : List Char) :
    escape (c :: cs) = escapeChar c ++ escape cs := by
  simp [escape]

/-- A string in quotes. -/
def renderString (s : String) : List Char := '"' :: escape s.toList ++ ['"']

/-! ## (2) Values -/

mutual

/-- The characters of a value. -/
def render : Json → List Char
  | null => ['n', 'u', 'l', 'l']
  | bool true => ['t', 'r', 'u', 'e']
  | bool false => ['f', 'a', 'l', 's', 'e']
  | number n => n.chars
  | string s => renderString s
  | array items => '[' :: renderItems items
  | object members => '\x7b' :: renderMembers members

/-- The items of an array and the closing bracket. -/
def renderItems : List Json → List Char
  | [] => [']']
  | [item] => render item ++ [']']
  | item :: items => render item ++ ',' :: renderItems items

/-- The members of an object and the closing brace. -/
def renderMembers : List (String × Json) → List Char
  | [] => ['\x7d']
  | [(name, value)] => renderString name ++ ':' :: render value ++ ['\x7d']
  | (name, value) :: members => renderString name ++ ':' :: render value ++ ',' :: renderMembers members

end

/-- The **compact text** of a value. -/
def text (j : Json) : String := String.ofList j.render

end Json

end PubSub
