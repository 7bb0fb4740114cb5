import PubSub.Number.Shortest
import PubSub.Number.Word

/-! # Binary64 numbers

* **`Binary64`** — a finite number, an infinity, or no number at all.
* **`Binary64.ofDecimal`** — a decimal rounded to the format.
* **`Binary64.read?`** — reading a text as a number, special values included.
* **`Binary64.toWord`** — the nearest natural number of 64 bits.
* **`Binary64.plainText`** — the shortest positional text that reads back. -/

namespace PubSub

/-- A **number of the binary64 format**. -/
inductive Binary64
  | finite (negative : Bool) (magnitude : Magnitude)
  | infinite (negative : Bool)
  | nan
  deriving DecidableEq, Repr

namespace Binary64

/-- Change the sign to the one given. -/
def ofMagnitude (negative : Bool) : Option Magnitude → Binary64
  | some x => finite negative x
  | none => infinite negative

/-- Decimal exponents beyond this bound leave the range of the format. -/
def decimalBound : Int := 400

/-- **Round a decimal**, the number `significand · 10 ^ exponent`. -/
def ofDecimal (negative : Bool) (significand : Nat) (exponent : Int) : Binary64 :=
  if significand = 0 then finite negative .zero
  else
    let leading := exponent + (Nat.toDigits 10 significand).length
    if decimalBound < leading then infinite negative
    else if leading < -decimalBound then finite negative .zero
    else
      ofMagnitude negative
        (Magnitude.ofRatio? (significand * Nat.pow 10 exponent.toNat) (Nat.pow 10 (-exponent).toNat))

/-- Whether the value is an infinity. -/
def isInfinite : Binary64 → Bool
  | infinite _ => true
  | _ => false

/-- Whether the value differs from zero; what is no number does. -/
def isNonzero : Binary64 → Bool
  | finite _ x => !x.isZero
  | infinite _ | nan => true

/-- The nearest natural number, a half going up, cut off at 0 and at `2 ^ 64 - 1`. What is no number
becomes 0. -/
def toWord : Binary64 → Nat
  | finite negative x => if negative then 0 else min ((2 * x.num + x.den) / (2 * x.den)) (wordBound - 1)
  | infinite negative => if negative then 0 else wordBound - 1
  | nan => 0

/-- The positional text, without a point if the value is whole. -/
def plainText : Binary64 → String
  | finite negative x => signed negative x.plainText
  | infinite negative => signed negative "inf"
  | nan => "NaN"

/-! ## Reading -/

/-- A sign in front, if there is one: whether it is a minus, and the rest. -/
def splitSign : List Char → Bool × List Char
  | '-' :: rest => (true, rest)
  | '+' :: rest => (false, rest)
  | rest => (false, rest)

/-- The exponent of a decimal: nothing at all, or a mark, a sign that may be left out, and digits. -/
def readExponent? : List Char → Option Int
  | [] => some 0
  | c :: rest =>
    if c == 'e' || c == 'E' then
      let (negative, digits) := splitSign rest
      if digits.isEmpty || !digits.all Char.isDigit then none
      else
        let n : Int := Nat.ofDigitChars 10 digits 0
        some (if negative then -n else n)
    else none

/-- A decimal without its sign: digits around a point that may be left out, at least one of them, and
an exponent that may be left out. -/
def readDecimal? (negative : Bool) (cs : List Char) : Option Binary64 :=
  let whole := cs.takeWhile Char.isDigit
  let (fraction, rest) := match cs.dropWhile Char.isDigit with
    | '.' :: rest => (rest.takeWhile Char.isDigit, rest.dropWhile Char.isDigit)
    | rest => ([], rest)
  let digits := whole ++ fraction
  if digits.isEmpty then none
  else
    (readExponent? rest).map fun exponent =>
      ofDecimal negative (Nat.ofDigitChars 10 digits 0) (exponent - fraction.length)

/-- **Read a number**: a sign that may be left out, and a decimal or a special value, the latter
without regard to case. -/
def read? (cs : List Char) : Option Binary64 :=
  let (negative, rest) := splitSign cs
  let word := String.ofList (rest.map Char.toLower)
  if word = "inf" || word = "infinity" then some (infinite negative)
  else if word = "nan" then some nan
  else readDecimal? negative rest

end Binary64

end PubSub
