/-! # Blank characters and trimming

Titles and request lines are trimmed of the characters that Unicode calls white space.

* **`isBlank c`** — membership in the Unicode property `White_Space` (25 characters).
* **`trim p cs`** — drop the characters satisfying `p` from both ends of `cs`. -/

namespace PubSub

/-! ## (1) The property `White_Space` -/

/-- The Unicode property `White_Space`: the controls U+0009 to U+000D, the space, U+0085, U+00A0,
U+1680, the spaces U+2000 to U+200A, the two separators U+2028 and U+2029, U+202F, U+205F and
U+3000. -/
def isBlank (c : Char) : Bool :=
  let n := c.toNat
  (0x09 ≤ n && n ≤ 0x0D) || n == 0x20 || n == 0x85 || n == 0xA0 || n == 0x1680 ||
    (0x2000 ≤ n && n ≤ 0x200A) || n == 0x2028 || n == 0x2029 || n == 0x202F || n == 0x205F ||
    n == 0x3000

/-! ## (2) Trimming both ends -/

/-- **Trim**: drop the leading and the trailing characters that satisfy `p`. -/
def trim (p : Char → Bool) (cs : List Char) : List Char :=
  ((cs.dropWhile p).reverse.dropWhile p).reverse

@[simp] theorem trim_nil (p : Char → Bool) : trim p [] = [] := rfl

end PubSub
