import PubSub.Number.Magnitude

/-! # Shortest decimal texts

* **`Magnitude.shortest x`** — the decimal with the fewest digits that reads back as `x`, of several
  the one nearest to `x`. It is found on the grids of 1, 2, … significant digits: on each the two
  neighbours of `x` are tried against the interval of reals that round to `x`.
* **`Magnitude.text`** — that decimal with at least one place behind the point; positional from
  `0.00001` up to below `10 ^ 16`, in exponent notation outside.
* **`Magnitude.plainText`** — that decimal always positional, and without a point if it is whole. -/

namespace PubSub

/-- A **decimal**: `digits · 10 ^ exponent`, the digits without a zero at either end. -/
structure Decimal where
  /-- The significant digits, most significant first. -/
  digits : List Char
  /-- The power of ten that the last digit counts. -/
  exponent : Int
  deriving DecidableEq, Repr

namespace Magnitude

/-! ## (1) The interval of a magnitude

Everything is measured in quarters of the last binary place, so that the ends of the interval are
whole: `x` is at `4 · mantissa`. -/

/-- The numerator of a quarter of the last place. -/
def quarterNum (x : Magnitude) : Nat := Nat.pow 2 (x.exponent - 2).toNat

/-- The denominator of a quarter of the last place. -/
def quarterDen (x : Magnitude) : Nat := Nat.pow 2 (2 - x.exponent).toNat

/-- The lower end in quarters. Below a power of two the next magnitude is half as far away. -/
def lowQuarters (x : Magnitude) : Nat :=
  if x.mantissa = leastFullMantissa ∧ minExponent < x.exponent then 4 * x.mantissa - 1
  else 4 * x.mantissa - 2

/-- The upper end in quarters. -/
def highQuarters (x : Magnitude) : Nat := 4 * x.mantissa + 2

/-- Whether `c · 10 ^ k` rounds to `x`; the ends count if the mantissa is even. -/
def roundsTo (x : Magnitude) (c : Nat) (k : Int) : Bool :=
  let value := c * Nat.pow 10 k.toNat * x.quarterDen
  let unit := x.quarterNum * Nat.pow 10 (-k).toNat
  let low := x.lowQuarters * unit
  let high := x.highQuarters * unit
  if x.mantissa % 2 = 0 then low ≤ value && value ≤ high else low < value && value < high

/-! ## (2) The search -/

/-- The exponent of the leading decimal digit of a magnitude other than zero. -/
def leadingExponent (x : Magnitude) : Int :=
  let num := x.num
  let den := x.den
  if den ≤ num then ((Nat.toDigits 10 (num / den)).length : Int) - 1
  else
    let n := (Nat.toDigits 10 (den / num)).length
    if den ≤ num * Nat.pow 10 (n - 1) then -((n : Int) - 1) else -(n : Int)

/-- The point of the grid `10 ^ k` that reads back as `x` and is nearest to it, if there is one; a
tie goes to the even point. -/
def nearestOnGrid (x : Magnitude) (k : Int) : Option Nat :=
  let num := x.num * Nat.pow 10 (-k).toNat
  let den := x.den * Nat.pow 10 k.toNat
  let below := num / den
  let twice := 2 * (num % den)
  let preferBelow := twice < den || (twice == den && below % 2 == 0)
  match x.roundsTo below k, x.roundsTo (below + 1) k with
  | true, true => some (if preferBelow then below else below + 1)
  | true, false => some below
  | false, true => some (below + 1)
  | false, false => none

/-- Try grids of ever more digits, `steps` of them, beginning with `10 ^ k`. -/
def searchGrids (x : Magnitude) : (steps : Nat) → (k : Int) → Nat × Int
  | 0, k => (x.num * Nat.pow 10 (-k).toNat / (x.den * Nat.pow 10 k.toNat), k)
  | steps + 1, k =>
    match x.nearestOnGrid k with
    | some c => (c, k)
    | none => searchGrids x steps (k - 1)

/-- Digits read from the right, with the zeros at the right end counted into the exponent. -/
def dropZeros : List Char → Int → Decimal
  | '0' :: rest, k => dropZeros rest (k + 1)
  | digits, k => ⟨digits.reverse, k⟩

/-- The **shortest decimal** that reads back as the magnitude, which is not zero. Seventeen digits
always suffice. -/
def shortest (x : Magnitude) : Decimal :=
  let (c, k) := x.searchGrids 17 x.leadingExponent
  dropZeros (Nat.toDigits 10 c).reverse k

end Magnitude

/-! ## (3) Writing decimals -/

namespace Decimal

/-- The exponent of the first digit. -/
def leading (d : Decimal) : Int := (d.digits.length : Int) - 1 + d.exponent

/-- The digits before the point and those behind it, in positional notation. -/
def positional (d : Decimal) : List Char × List Char :=
  if 0 ≤ d.exponent then (d.digits ++ List.replicate d.exponent.toNat '0', [])
  else if 0 ≤ d.leading then d.digits.splitAt (d.leading.toNat + 1)
  else (['0'], List.replicate (-d.leading - 1).toNat '0' ++ d.digits)

/-- Exponent notation: one digit before the point, the exponent always signed. -/
def scientific (d : Decimal) : List Char :=
  let fraction := match d.digits.tail with
    | [] => []
    | rest => '.' :: rest
  let sign := if d.leading < 0 then '-' else '+'
  d.digits.take 1 ++ fraction ++ 'e' :: sign :: Nat.toDigits 10 d.leading.natAbs

end Decimal

namespace Magnitude

/-- The exponents of the first digit that are written positionally. -/
def isPositional (leading : Int) : Bool := -5 ≤ leading && leading ≤ 15

/-- The text with at least one place behind the point, or an exponent. -/
def text (x : Magnitude) : String :=
  if x.isZero then "0.0"
  else
    let d := x.shortest
    if isPositional d.leading then
      let (whole, fraction) := d.positional
      String.ofList (whole ++ '.' :: (if fraction.isEmpty then ['0'] else fraction))
    else String.ofList d.scientific

/-- The positional text, without a point if the value is whole. -/
def plainText (x : Magnitude) : String :=
  if x.isZero then "0"
  else
    let (whole, fraction) := x.shortest.positional
    String.ofList (whole ++ (if fraction.isEmpty then [] else '.' :: fraction))

end Magnitude

/-- A text behind a minus sign if `negative`. -/
def signed (negative : Bool) (text : String) : String := if negative then "-" ++ text else text

end PubSub
