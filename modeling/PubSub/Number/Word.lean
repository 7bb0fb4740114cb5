/-! # Integers of 64 bits

* **`wordBound`** — the least number that does not fit 64 bits.
* **`signedBound`** — the same for 64 bits of which one is the sign.
* **`isSigned i`** — whether `i` fits 64 bits with a sign. -/

namespace PubSub

/-- The least number that does not fit 64 bits, `2 ^ 64`. -/
def wordBound : Nat := 18446744073709551616

/-- The least number that does not fit 64 bits with a sign, `2 ^ 63`. -/
def signedBound : Nat := 9223372036854775808

/-- Whether an integer fits 64 bits with a sign. -/
def isSigned (i : Int) : Bool := -(signedBound : Int) ≤ i && i < (signedBound : Int)

/-- The bound counts the values of the type. -/
theorem wordBound_eq_size : wordBound = UInt64.size := rfl

/-- The words are the numbers below the bound. -/
theorem toNat_lt_wordBound (n : UInt64) : n.toNat < wordBound := by
  rw [wordBound_eq_size]
  exact n.toNat_lt_size

end PubSub
