import PubSub.Json.Basic

/-! # Reading JSON

Readers take a text as a list of characters and return what they read together with the rest, or
`none` if the text is malformed. Arrays and objects may be nested to a bounded depth, and numbers
must be within the range of binary64.

* **`Json.readString`** — a string, up to and with its closing quote.
* **`Json.readNumeral`** — a numeral.
* **`Json.readScalar`** — any value but an array or an object.
* **`Json.read limit depth`** — a value with at most `depth` arrays and objects around any part of
  it; `limit` bounds the number of items of any one of them, and the length of the text is always
  enough.
* **`Json.parse?`** — a whole text as one value. -/

namespace PubSub

namespace Json

/-- The blanks allowed between the tokens of a text. -/
def isSpace (c : Char) : Bool := c == ' ' || c == '\n' || c == '\t' || c == '\r'

/-- Drop the blanks in front. -/
def skipSpace (cs : List Char) : List Char := cs.dropWhile isSpace

/-! ## (1) Strings -/

/-- The characters of a string up to its closing quote, still escaped, and what follows the quote. -/
def spanString : List Char → Option (List Char × List Char)
  | [] => none
  | '"' :: rest => some ([], rest)
  | '\\' :: c :: rest => (spanString rest).map fun (body, rest) => ('\\' :: c :: body, rest)
  | c :: rest => (spanString rest).map fun (body, rest) => (c :: body, rest)

/-- The worth of a hexadecimal digit. -/
def hexDigit? (c : Char) : Option Nat :=
  if c.isDigit then some (c.toNat - '0'.toNat)
  else if 'a' ≤ c && c ≤ 'f' then some (c.toNat - 'a'.toNat + 10)
  else if 'A' ≤ c && c ≤ 'F' then some (c.toNat - 'A'.toNat + 10)
  else none

/-- The worth of four hexadecimal digits. -/
def hexQuad? (a b c d : Char) : Option Nat := do
  let a ← hexDigit? a
  let b ← hexDigit? b
  let c ← hexDigit? c
  let d ← hexDigit? d
  pure (((a * 16 + b) * 16 + c) * 16 + d)

/-- Whether a 16-bit unit is the first half of a pair. -/
def isHighHalf (n : Nat) : Bool := 0xD800 ≤ n && n < 0xDC00

/-- Whether a 16-bit unit is the second half of a pair. -/
def isLowHalf (n : Nat) : Bool := 0xDC00 ≤ n && n < 0xE000

/-- The character of a pair of halves. -/
def joinHalves (high low : Nat) : Char :=
  Char.ofNat (0x10000 + (high - 0xD800) * 0x400 + (low - 0xDC00))

/-- The character of a one-letter escape. -/
def shortEscape? : Char → Option Char
  | '"' => some '"'
  | '\\' => some '\\'
  | '/' => some '/'
  | 'b' => some '\x08'
  | 'f' => some '\x0c'
  | 'n' => some '\n'
  | 'r' => some '\r'
  | 't' => some '\t'
  | _ => none

/-- Undo the escapes of a string. Both halves of a pair must be there; control characters must be
escaped. -/
def unescape : List Char → Option (List Char)
  | [] => some []
  | '\\' :: 'u' :: a :: b :: c :: d :: rest =>
    match hexQuad? a b c d with
    | none => none
    | some n =>
      if isHighHalf n then
        match rest with
        | '\\' :: 'u' :: e :: f :: g :: h :: rest =>
          match hexQuad? e f g h with
          | none => none
          | some m => if isLowHalf m then (unescape rest).map (joinHalves n m :: ·) else none
        | _ => none
      else if isLowHalf n then none
      else (unescape rest).map (Char.ofNat n :: ·)
  | '\\' :: c :: rest =>
    match shortEscape? c with
    | none => none
    | some c => (unescape rest).map (c :: ·)
  | c :: rest => if c.toNat < 0x20 || c == '\\' then none else (unescape rest).map (c :: ·)

/-- The rest of a **string** after its opening quote. -/
def readString (cs : List Char) : Option (String × List Char) := do
  let (body, rest) ← spanString cs
  let chars ← unescape body
  pure (String.ofList chars, rest)

/-! ## (2) Numerals -/

/-- The digits in front, and the rest. -/
def spanDigits (cs : List Char) : List Char × List Char :=
  (cs.takeWhile Char.isDigit, cs.dropWhile Char.isDigit)

/-- The number that digits denote. -/
def ofDigits (ds : List Char) : Nat := Nat.ofDigitChars 10 ds 0

/-- The whole part: digits without a zero in front, unless it is the only one. -/
def readWhole (cs : List Char) : Option (Nat × List Char) :=
  match spanDigits cs with
  | ([], _) => none
  | ('0' :: _ :: _, _) => none
  | (ds, rest) => some (ofDigits ds, rest)

/-- The fraction, if a point follows: at least one digit. -/
def readFraction : List Char → Option (Option (List Char) × List Char)
  | '.' :: rest =>
    match spanDigits rest with
    | ([], _) => none
    | (ds, rest) => some (some ds, rest)
  | rest => some (none, rest)

/-- An exponent after its mark: a sign that may be left out, and at least one digit. -/
def readExponentDigits (cs : List Char) : Option (Int × List Char) :=
  let (negative, cs) := match cs with
    | '-' :: rest => (true, rest)
    | '+' :: rest => (false, rest)
    | rest => (false, rest)
  match spanDigits cs with
  | ([], _) => none
  | (ds, rest) =>
    let n : Int := ofDigits ds
    some (if negative then -n else n, rest)

/-- The exponent, if its mark follows. -/
def readExponent (cs : List Char) : Option (Option Int × List Char) :=
  match cs with
  | 'e' :: rest => (readExponentDigits rest).map fun (e, rest) => (some e, rest)
  | 'E' :: rest => (readExponentDigits rest).map fun (e, rest) => (some e, rest)
  | rest => some (none, rest)

/-- A **numeral** within range. -/
def readNumeral (cs : List Char) : Option (Numeral × List Char) := do
  let (negative, cs) := match cs with
    | '-' :: rest => (true, rest)
    | rest => (false, rest)
  let (whole, cs) ← readWhole cs
  let (fraction, cs) ← readFraction cs
  let (exponent, cs) ← readExponent cs
  let n : Numeral := ⟨negative, whole, fraction, exponent⟩
  if n.value?.isSome then pure (n, cs) else none

/-! ## (3) Values -/

/-- Read a fixed word. -/
def readWord (word : List Char) (cs : List Char) : Option (List Char) :=
  if word.isPrefixOf cs then some (cs.drop word.length) else none

/-- A **scalar**: any value but an array or an object. -/
def readScalar (cs : List Char) : Option (Json × List Char) :=
  match cs with
  | '"' :: rest => (readString rest).map fun (s, rest) => (string s, rest)
  | 'n' :: rest => (readWord ['u', 'l', 'l'] rest).map fun rest => (null, rest)
  | 't' :: rest => (readWord ['r', 'u', 'e'] rest).map fun rest => (bool true, rest)
  | 'f' :: rest => (readWord ['a', 'l', 's', 'e'] rest).map fun rest => (bool false, rest)
  | cs => (readNumeral cs).map fun (n, rest) => (number n, rest)

/-- A reader of one item. It meets no blanks in front. -/
abbrev ItemReader (α : Type) := List Char → Option (α × List Char)

/-- At least one item, with commas between them, up to and with the closing character. -/
def readItems {α : Type} (item : ItemReader α) (close : Char) :
    (limit : Nat) → List Char → Option (List α × List Char)
  | 0, _ => none
  | limit + 1, cs =>
    match item (skipSpace cs) with
    | none => none
    | some (x, rest) =>
      match skipSpace rest with
      | ',' :: rest => (readItems item close limit rest).map fun (xs, rest) => (x :: xs, rest)
      | c :: rest => if c = close then some ([x], rest) else none
      | [] => none

/-- Items, with commas between them, up to and with the closing character; there may be none. -/
def readSequence {α : Type} (item : ItemReader α) (close : Char) (limit : Nat) (cs : List Char) :
    Option (List α × List Char) :=
  match skipSpace cs with
  | c :: rest => if c = close then some ([], rest) else readItems item close limit (c :: rest)
  | [] => none

/-- The name of a member. -/
def readName (cs : List Char) : Option (String × List Char) :=
  match skipSpace cs with
  | '"' :: rest => readString rest
  | _ => none

/-- The colon behind a name; the blanks around it are dropped. -/
def readColon (cs : List Char) : Option (List Char) :=
  match skipSpace cs with
  | ':' :: rest => some (skipSpace rest)
  | _ => none

/-- A member of an object. -/
def readMember (value : ItemReader Json) : ItemReader (String × Json) := fun cs => do
  let (name, rest) ← readName cs
  let rest ← readColon rest
  let (value, rest) ← value rest
  pure ((name, value), rest)

/-- A **value** that nests at most `depth` arrays and objects. -/
def read (limit : Nat) : (depth : Nat) → ItemReader Json
  | 0, cs => match cs with
    | '[' :: _ | '\x7b' :: _ => none
    | cs => readScalar cs
  | depth + 1, cs => match cs with
    | '[' :: rest =>
      (readSequence (read limit depth) ']' limit rest).map fun (items, rest) => (array items, rest)
    | '\x7b' :: rest =>
      (readSequence (readMember (read limit depth)) '\x7d' limit rest).map fun (members, rest) =>
        (object members, rest)
    | cs => readScalar cs

/-- The greatest number of arrays and objects around any part of a text. -/
def maxDepth : Nat := 127

/-- A **whole text** as one value, with blanks around it. -/
def parse? (cs : List Char) : Option Json :=
  match read cs.length maxDepth (skipSpace cs) with
  | some (j, rest) => if (skipSpace rest).isEmpty then some j else none
  | none => none

end Json

end PubSub
