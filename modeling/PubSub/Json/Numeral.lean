import PubSub.Number.Shortest
import PubSub.Number.Word

/-! # Numerals

A number in a JSON text is kept as it is written; what it is worth is computed from that.

* **`Numeral`** — sign, whole part, digits behind the point, exponent.
* **`Numeral.value?`** — its worth as a `Number`: an integer if it is written as one and fits 64
  bits, else a binary64 magnitude; `none` if that is out of range.
* **`Numeral.ofInt`** — the numeral of an integer. -/

namespace PubSub

/-- A **numeral**, as written. -/
structure Numeral where
  /-- Whether a minus sign stands in front. -/
  negative : Bool
  /-- The whole part. -/
  whole : Nat
  /-- The digits behind the point, if there is a point. -/
  fraction : Option (List Char)
  /-- The exponent, if there is one. -/
  exponent : Option Int
  deriving DecidableEq, Repr

/-- What a numeral is **worth**. -/
inductive Number
  /-- An integer between `-2 ^ 63` and `2 ^ 64 - 1`. -/
  | integer (i : Int)
  /-- A number in the binary64 format. -/
  | real (negative : Bool) (magnitude : Magnitude)
  deriving DecidableEq, Repr

/-- The text of a number in messages. -/
def Number.text : Number → String
  | integer i => toString i
  | real negative x => signed negative x.text

namespace Numeral

/-- The numeral of an integer. -/
def ofInt (i : Int) : Numeral := ⟨i < 0, i.natAbs, none, none⟩

/-- The numeral of a natural number. -/
def ofNat (n : Nat) : Numeral := ⟨false, n, none, none⟩

/-- A natural number is its own numeral, without a sign. -/
@[simp] theorem ofInt_natCast (n : Nat) : ofInt n = ofNat n := by
  simp only [ofInt, ofNat, Int.natAbs_natCast, Numeral.mk.injEq, decide_eq_false_iff_not, and_true]
  omega

/-- The characters of a numeral. -/
def chars (n : Numeral) : List Char :=
  let sign := if n.negative then ['-'] else []
  let fraction := match n.fraction with
    | some digits => '.' :: digits
    | none => []
  let exponent := match n.exponent with
    | some e => 'e' :: (if e < 0 then ['-'] else []) ++ Nat.toDigits 10 e.natAbs
    | none => []
  sign ++ Nat.toDigits 10 n.whole ++ fraction ++ exponent

/-! ## (1) Real worth

The digits are gathered into a significand of 64 bits; digits for which there is no room are left
out. The significand is rounded to binary64 and then multiplied or divided by a power of ten, itself
rounded, with a second rounding. -/

/-- Gather digits into a significand while there is room; the digits left over are returned too. -/
def gather (significand : Nat) : List Char → Nat × List Char
  | [] => (significand, [])
  | d :: ds =>
    let next := 10 * significand + (d.toNat - '0'.toNat)
    if next < wordBound then gather next ds else (significand, d :: ds)

/-- The greatest power of ten applied in one step. -/
def maxPower : Nat := 308

/-- `10 ^ k` in the binary64 format. -/
def powerOfTen? (k : Nat) : Option Magnitude := Magnitude.ofNat? (Nat.pow 10 k)

/-- `x · 10 ^ k`; `none` beyond the greatest finite value. -/
def scaleUp? (x : Magnitude) (k : Nat) : Option Magnitude :=
  if k ≤ maxPower then (powerOfTen? k).bind x.mul?
  else if x.isZero then some .zero
  else none

/-- Divide by the greatest power of ten `times` times, rounding after each; zero stays zero. -/
def divideRepeatedly? : (times : Nat) → Magnitude → Option Magnitude
  | 0, x => some x
  | times + 1, x =>
    if x.isZero then some .zero
    else ((powerOfTen? maxPower).bind x.div?).bind (divideRepeatedly? times)

/-- `x / 10 ^ k`, in steps of at most `10 ^ 308`. -/
def scaleDown? (x : Magnitude) (k : Nat) : Option Magnitude :=
  (divideRepeatedly? (k / maxPower) x).bind fun y => (powerOfTen? (k % maxPower)).bind y.div?

/-- The magnitude of a numeral in the binary64 format. -/
def magnitude? (n : Numeral) : Option Magnitude :=
  let digits := n.fraction.getD []
  let (significand, spilled) := gather 0 (Nat.toDigits 10 n.whole)
  let (significand, unread) := gather significand digits
  let places : Int := (digits.length : Int) - unread.length
  let power := (spilled.length : Int) - places + n.exponent.getD 0
  (Magnitude.ofNat? significand).bind fun x =>
    if 0 ≤ power then scaleUp? x power.natAbs else scaleDown? x power.natAbs

/-! ## (2) Worth -/

/-- Whether the numeral is written without point and exponent. -/
def isWhole (n : Numeral) : Bool := n.fraction.isNone && n.exponent.isNone

/-- The integer that the numeral is worth, if it is written as one and fits 64 bits: below `2 ^ 64`
without a sign; from `-1` down to `-2 ^ 63` with one. -/
def integer? (n : Numeral) : Option Int :=
  if !n.isWhole then none
  else if n.negative then if 0 < n.whole && n.whole ≤ signedBound then some (-n.whole) else none
  else if n.whole < wordBound then some n.whole
  else none

/-- The **worth** of a numeral; `none` if it is out of range. -/
def value? (n : Numeral) : Option Number :=
  match n.integer? with
  | some i => some (.integer i)
  | none => n.magnitude?.map (.real n.negative)

/-- An integer of 64 bits is worth itself. -/
theorem value?_ofInt {i : Int} (low : -(signedBound : Int) ≤ i) (high : i < (wordBound : Int)) :
    (ofInt i).value? = some (.integer i) := by
  have h : (ofInt i).integer? = some i := by
    unfold integer? isWhole ofInt
    by_cases hi : i < 0
    · have bounds : 0 < i.natAbs ∧ i.natAbs ≤ signedBound := by omega
      have back : -(i.natAbs : Int) = i := by omega
      simp only [Option.isNone_none, Bool.and_self, Bool.not_true, Bool.false_eq_true, if_false, hi,
        decide_true, if_true, bounds]
      rw [back]
    · have bound : i.natAbs < wordBound := by omega
      have back : (i.natAbs : Int) = i := by omega
      simp only [Option.isNone_none, Bool.and_self, Bool.not_true, Bool.false_eq_true, if_false, hi,
        decide_false, bound, if_true]
      rw [back]
  simp [value?, h]

end Numeral

end PubSub
