/-! # Magnitudes of binary64

Numbers with a point are held in the binary64 format. All arithmetic here is exact arithmetic on
natural numbers followed by one rounding.

* **`Magnitude`** — a finite absolute value `mantissa · 2 ^ exponent` of the format.
* **`Magnitude.ofRatio? num den`** — `num / den` rounded to nearest, a tie going to the even
  mantissa; `none` beyond the largest finite value.
* **`Magnitude.mul?`, `Magnitude.div?`** — one operation, one rounding. -/

namespace PubSub

/-- A finite **magnitude**, `mantissa · 2 ^ exponent`. In the values built here the mantissa has at
most 53 bits and the exponent is the least possible one, but never below -1074. -/
structure Magnitude where
  mantissa : Nat
  exponent : Int
  deriving DecidableEq, Repr

namespace Magnitude

/-- The least exponent. -/
def minExponent : Int := -1074

/-- The greatest exponent. -/
def maxExponent : Int := 971

/-- The number of bits of a mantissa. -/
def precision : Nat := 53

/-- The least number with more bits than a mantissa. -/
def mantissaBound : Nat := Nat.pow 2 precision

/-- The least mantissa that has all its bits. -/
def leastFullMantissa : Nat := Nat.pow 2 (precision - 1)

/-- Zero. -/
def zero : Magnitude := ⟨0, minExponent⟩

/-- Whether the value is zero. -/
def isZero (x : Magnitude) : Bool := x.mantissa == 0

/-- The numerator of the value as a ratio. -/
def num (x : Magnitude) : Nat := x.mantissa * Nat.pow 2 x.exponent.toNat

/-- The denominator of the value as a ratio. -/
def den (x : Magnitude) : Nat := Nat.pow 2 (-x.exponent).toNat

/-! ## (1) Rounding -/

/-- The quotient rounded to the nearest natural number, a half going to the even one. -/
def roundHalfEven (num den : Nat) : Nat :=
  let q := num / den
  let twice := 2 * (num % den)
  if twice < den || (twice == den && q % 2 == 0) then q else q + 1

/-- The quotient `num / (den · 2 ^ e)`, rounded. -/
def roundAt (num den : Nat) (e : Int) : Nat :=
  roundHalfEven (num * Nat.pow 2 (-e).toNat) (den * Nat.pow 2 e.toNat)

/-- **Round** a ratio to the format; `none` if it is too large. The exponent is the one at which the
quotient has 53 bits, as far as the least exponent allows. -/
def ofRatio? (num den : Nat) : Option Magnitude :=
  if num = 0 then some zero
  else
    let low := max minExponent ((Nat.log2 num : Int) - (Nat.log2 den : Int) - precision)
    let wide := mantissaBound ≤ num * Nat.pow 2 (-low).toNat / (den * Nat.pow 2 low.toNat)
    let e := if wide then low + 1 else low
    let m := roundAt num den e
    let x : Magnitude := if m = mantissaBound then ⟨leastFullMantissa, e + 1⟩ else ⟨m, e⟩
    if maxExponent < x.exponent then none else some x

/-- A natural number, rounded. -/
def ofNat? (n : Nat) : Option Magnitude := ofRatio? n 1

/-! ## (2) Arithmetic -/

/-- The product, rounded once. -/
def mul? (x y : Magnitude) : Option Magnitude := ofRatio? (x.num * y.num) (x.den * y.den)

/-- The quotient by a value other than zero, rounded once. -/
def div? (x y : Magnitude) : Option Magnitude := ofRatio? (x.num * y.den) (x.den * y.num)

end Magnitude

end PubSub
