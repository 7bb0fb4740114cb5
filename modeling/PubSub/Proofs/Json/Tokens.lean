import PubSub.Json.Printer
import PubSub.Json.Reader

/-! # Writing and reading back strings and numerals

The tokens of a JSON text are read back as they were written, and no written character is a control
character.

* **`Json.escapeChar_cases`** — the three ways in which a character of a string is written.
* **`Json.readString_escape`** — a string is read back, up to and with its closing quote.
* **`Numeral.IsReadable`** — a numeral that the reader can deliver: digits behind the point, and a
  worth within range.
* **`Json.readNumeral_chars`** — such a numeral is read back, if what follows ends it. -/

namespace PubSub

namespace Json

/-! ## (1) Strings -/

/-- A character is written by a short escape, by its number, or as itself. -/
theorem escapeChar_cases (c : Char) :
    (∃ d, escapeChar c = ['\\', d] ∧ d ≠ 'u' ∧ 0x20 ≤ d.toNat ∧ shortEscape? d = some c) ∨
      (escapeChar c = '\\' :: 'u' :: '0' :: '0' :: hexPair c.toNat ∧ c.toNat < 0x20) ∨
      (escapeChar c = [c] ∧ c ≠ '"' ∧ c ≠ '\\' ∧ 0x20 ≤ c.toNat) := by
  by_cases hquote : c = '"'
  · subst hquote
    exact Or.inl ⟨'"', rfl, by decide, by decide, rfl⟩
  by_cases hbackslash : c = '\\'
  · subst hbackslash
    exact Or.inl ⟨'\\', rfl, by decide, by decide, rfl⟩
  by_cases hbackspace : c = '\x08'
  · subst hbackspace
    exact Or.inl ⟨'b', rfl, by decide, by decide, rfl⟩
  by_cases htab : c = '\t'
  · subst htab
    exact Or.inl ⟨'t', rfl, by decide, by decide, rfl⟩
  by_cases hfeed : c = '\n'
  · subst hfeed
    exact Or.inl ⟨'n', rfl, by decide, by decide, rfl⟩
  by_cases hform : c = '\x0c'
  · subst hform
    exact Or.inl ⟨'f', rfl, by decide, by decide, rfl⟩
  by_cases hreturn : c = '\r'
  · subst hreturn
    exact Or.inl ⟨'r', rfl, by decide, by decide, rfl⟩
  -- For all characters without a short escape the code point decides.
  have hother : escapeChar c =
      if c.toNat < 0x20 then '\\' :: 'u' :: '0' :: '0' :: hexPair c.toNat else [c] := by
    rw [escapeChar, if_neg hquote, if_neg hbackslash, if_neg hbackspace, if_neg htab, if_neg hfeed,
      if_neg hform, if_neg hreturn]
  by_cases hlow : c.toNat < 0x20
  · exact Or.inr (Or.inl ⟨by rw [hother, if_pos hlow], hlow⟩)
  · exact Or.inr (Or.inr ⟨by rw [hother, if_neg hlow], hquote, hbackslash, Nat.le_of_not_lt hlow⟩)

/-- The two digits of a control character are read back. -/
theorem hexQuad?_hexPair : ∀ n < 0x20,
    hexQuad? '0' '0' (Nat.digitChar (n / 16)) (Nat.digitChar (n % 16)) = some n := by decide

/-- A hexadecimal digit stands for itself in a string. -/
theorem digitChar_ne : ∀ n < 16, Nat.digitChar n ≠ '"' ∧ Nat.digitChar n ≠ '\\' ∧
    0x20 ≤ (Nat.digitChar n).toNat := by decide

/-- The two digits of a control character stand for themselves in a string. -/
theorem hexPair_ne {n : Nat} (hn : n < 0x20) {d : Char} (hd : d ∈ hexPair n) :
    d ≠ '"' ∧ d ≠ '\\' ∧ 0x20 ≤ d.toNat := by
  rw [hexPair, List.mem_cons, List.mem_singleton] at hd
  rcases hd with rfl | rfl
  · exact digitChar_ne (n / 16) (by omega)
  · exact digitChar_ne (n % 16) (by omega)

/-- A character that stands for itself belongs to the string. -/
theorem spanString_cons {c : Char} (hquote : c ≠ '"') (hbackslash : c ≠ '\\') (cs : List Char) :
    spanString (c :: cs) = (spanString cs).map fun (body, rest) => (c :: body, rest) := by
  rw [spanString]
  · exact hquote
  · exact fun _ _ h => absurd h hbackslash

/-- **A written character** belongs to the string. -/
theorem spanString_escapeChar_append (c : Char) (cs : List Char) :
    spanString (escapeChar c ++ cs) =
      (spanString cs).map fun (body, rest) => (escapeChar c ++ body, rest) := by
  rcases escapeChar_cases c with ⟨d, hc, -⟩ | ⟨hc, hlow⟩ | ⟨hc, hquote, hbackslash, -⟩
  · rw [hc]
    exact spanString.eq_3 d cs
  · have hhigh := hexPair_ne hlow (List.mem_cons_self ..)
    have hlast := hexPair_ne hlow (List.mem_cons_of_mem _ (List.mem_cons_self ..))
    have hzero : '0' ≠ '"' ∧ '0' ≠ '\\' := by decide
    rw [hc, hexPair, List.cons_append, List.cons_append, spanString.eq_3, List.cons_append,
      spanString_cons hzero.1 hzero.2, List.cons_append, spanString_cons hzero.1 hzero.2,
      List.cons_append, spanString_cons hhigh.1 hhigh.2.1, List.cons_append,
      spanString_cons hlast.1 hlast.2.1]
    simp only [Option.map_map, List.nil_append]
    rfl
  · rw [hc, List.singleton_append, spanString_cons hquote hbackslash]
    rfl

/-- **A written character** is read back. -/
theorem unescape_escapeChar_append (c : Char) (cs : List Char) :
    unescape (escapeChar c ++ cs) = (unescape cs).map (c :: ·) := by
  rcases escapeChar_cases c with ⟨d, hc, hd, -, hshort⟩ | ⟨hc, hlow⟩ | ⟨hc, -, hbackslash, hlow⟩
  · rw [hc, List.cons_append, List.singleton_append, unescape, hshort]
    exact fun _ _ _ _ _ h => absurd h hd
  · -- What is written by its number is too small for one half of a pair.
    have hhigh : isHighHalf c.toNat = false := by
      simp only [isHighHalf, Bool.and_eq_false_iff, decide_eq_false_iff_not]
      omega
    have hsecond : isLowHalf c.toNat = false := by
      simp only [isLowHalf, Bool.and_eq_false_iff, decide_eq_false_iff_not]
      omega
    rw [hc, hexPair]
    simp only [List.cons_append, List.nil_append]
    rw [unescape]
    simp only [hexQuad?_hexPair c.toNat hlow, hhigh, hsecond, Bool.false_eq_true, if_false,
      Char.ofNat_toNat]
  · rw [hc, List.singleton_append, unescape]
    · rw [if_neg]
      simp only [Bool.or_eq_true, decide_eq_true_eq, beq_iff_eq, not_or]
      exact ⟨Nat.not_lt.mpr hlow, hbackslash⟩
    · exact fun a b c d rest h => absurd h hbackslash
    · exact fun c rest h => absurd h hbackslash

/-- The quote that ends a string is found behind its escaped characters: none of these is a quote
alone. -/
theorem spanString_escape (cs rest : List Char) :
    spanString (escape cs ++ '"' :: rest) = some (escape cs, rest) := by
  induction cs with
  | nil => rfl
  | cons c cs ih =>
    rw [escape_cons, List.append_assoc, spanString_escapeChar_append, ih]
    rfl

/-- **Escaping loses nothing.** -/
theorem unescape_escape (cs : List Char) : unescape (escape cs) = some cs := by
  induction cs with
  | nil => rfl
  | cons c cs ih =>
    rw [escape_cons, unescape_escapeChar_append, ih]
    rfl

/-- **A written string is read back**, up to and with its closing quote. -/
theorem readString_escape (s : String) (rest : List Char) :
    readString (escape s.toList ++ '"' :: rest) = some (s, rest) := by
  simp only [readString, spanString_escape, unescape_escape, Option.bind_eq_bind, Option.bind_some,
    String.ofList_toList]
  rfl

/-- A written character is no control character. -/
theorem visible_of_mem_escapeChar {c d : Char} (h : d ∈ escapeChar c) : 0x20 ≤ d.toNat := by
  rcases escapeChar_cases c with ⟨e, hc, -, he, -⟩ | ⟨hc, hlow⟩ | ⟨hc, -, -, hlow⟩
  · rw [hc, List.mem_cons, List.mem_singleton] at h
    rcases h with rfl | rfl
    · decide
    · exact he
  · rw [hc] at h
    simp only [List.mem_cons] at h
    rcases h with rfl | rfl | rfl | rfl | h
    · decide
    · decide
    · decide
    · decide
    · exact (hexPair_ne hlow h).2.2
  · rw [hc, List.mem_singleton] at h
    rwa [h]

end Json

/-! ## (2) Numerals -/

namespace Numeral

/-- The characters of a fraction, with the point in front. -/
def fractionChars : Option (List Char) → List Char
  | some digits => '.' :: digits
  | none => []

/-- The characters of an exponent, with its mark in front. -/
def exponentChars : Option Int → List Char
  | some e => 'e' :: (if e < 0 then ['-'] else []) ++ Nat.toDigits 10 e.natAbs
  | none => []

/-- The written form of a numeral: sign, whole part, fraction and exponent, each if it is there. -/
theorem chars_eq (n : Numeral) :
    n.chars = (if n.negative then ['-'] else []) ++ Nat.toDigits 10 n.whole ++
      fractionChars n.fraction ++ exponentChars n.exponent := by
  obtain ⟨negative, whole, fraction, exponent⟩ := n
  cases fraction <;> cases exponent <;> rfl

/-- A numeral is **printable** if there is at least one digit behind the point, and nothing but
digits. -/
def IsPrintable (n : Numeral) : Prop :=
  ∀ digits, n.fraction = some digits → digits ≠ [] ∧ ∀ d ∈ digits, d.isDigit = true

/-- A numeral is **readable** if it is printable and its worth is within range. -/
structure IsReadable (n : Numeral) : Prop where
  printable : n.IsPrintable
  inRange : n.value?.isSome = true

/-- The numeral of an integer has no point. -/
theorem isPrintable_ofInt (i : Int) : (ofInt i).IsPrintable := fun _ h => nomatch h

/-- The numeral of an integer of 64 bits is readable. -/
theorem isReadable_ofInt {i : Int} (low : -(signedBound : Int) ≤ i) (high : i < (wordBound : Int)) :
    (ofInt i).IsReadable where
  printable := isPrintable_ofInt i
  inRange := by rw [value?_ofInt low high]; rfl

end Numeral

namespace Json

/-! ### The parts of a numeral

What follows a part must not begin with a character that the part could go on with. -/

/-- The text does not begin with a digit. -/
def EndsDigits (cs : List Char) : Prop := ∀ c, cs.head? = some c → c.isDigit = false

/-- The text **ends a numeral**: a numeral in front of it does not go on. -/
def EndsNumeral (cs : List Char) : Prop :=
  ∀ c, cs.head? = some c → c.isDigit = false ∧ c ≠ '.' ∧ c ≠ 'e' ∧ c ≠ 'E'

/-- A numeral may stand at the end of the text. -/
theorem endsNumeral_nil : EndsNumeral [] := nofun

/-- A numeral ends before any character that cannot go on with it. -/
theorem endsNumeral_cons {c : Char} (h : c.isDigit = false ∧ c ≠ '.' ∧ c ≠ 'e' ∧ c ≠ 'E')
    (cs : List Char) : EndsNumeral (c :: cs) := by
  intro d hd
  obtain rfl := Option.some.inj hd
  exact h

/-- Digits are read up to the first other character. -/
theorem spanDigits_append {ds cs : List Char} (hds : ∀ d ∈ ds, d.isDigit = true)
    (hcs : EndsDigits cs) : spanDigits (ds ++ cs) = (ds, cs) := by
  have hstop : cs.takeWhile Char.isDigit = [] ∧ cs.dropWhile Char.isDigit = cs := by
    cases cs with
    | nil => exact ⟨rfl, rfl⟩
    | cons c cs => simp [hcs c rfl]
  rw [spanDigits, List.takeWhile_append_of_pos hds, List.dropWhile_append_of_pos hds, hstop.1,
    hstop.2, List.append_nil]

/-- The written form of a natural number has digits only. -/
theorem isDigit_of_mem_toDigits {n : Nat} : ∀ d ∈ Nat.toDigits 10 n, d.isDigit = true :=
  fun _ => Nat.isDigit_of_mem_toDigits (by decide) (by decide)

/-- The decimal digits of a positive number do not begin with zero. -/
theorem head?_toDigits_ne {n : Nat} (h : 0 < n) : (Nat.toDigits 10 n).head? ≠ some '0' := by
  induction n using Nat.strongRecOn with
  | _ n ih =>
    rw [Nat.toDigits_eq_if (by decide)]
    by_cases hsmall : n < 10
    · have hdigit : ∀ m < 10, 0 < m → Nat.digitChar m ≠ '0' := by decide
      rw [if_pos hsmall, List.head?_cons]
      exact fun heq => hdigit n hsmall h (Option.some.inj heq)
    · have hfirst := ih (n / 10) (by omega) (by omega)
      rw [if_neg hsmall, List.head?_append]
      cases hhead : (Nat.toDigits 10 (n / 10)).head? with
      | none => exact absurd (List.head?_eq_none_iff.mp hhead) Nat.toDigits_ne_nil
      | some d =>
        rw [hhead] at hfirst
        exact hfirst

/-- **The whole part** is read back. -/
theorem readWhole_toDigits (n : Nat) {cs : List Char} (hcs : EndsDigits cs) :
    readWhole (Nat.toDigits 10 n ++ cs) = some (n, cs) := by
  have hspan := spanDigits_append (isDigit_of_mem_toDigits (n := n)) hcs
  have hzero : ∀ d ds, Nat.toDigits 10 n = '0' :: d :: ds → False := by
    intro d ds hds
    rcases Nat.eq_zero_or_pos n with rfl | hpos
    · rw [Nat.toDigits_zero] at hds
      cases hds
    · exact head?_toDigits_ne hpos (by rw [hds]; rfl)
  rw [readWhole, hspan]
  split
  · rename_i heq
    exact absurd (Prod.mk.inj heq).1 Nat.toDigits_ne_nil
  · rename_i d ds rest heq
    exact (hzero d ds (Prod.mk.inj heq).1).elim
  · rename_i heq
    obtain ⟨rfl, rfl⟩ := Prod.mk.inj heq
    rw [ofDigits, Nat.ofDigitChars_ten_toDigits]

/-- **The fraction** is read back. -/
theorem readFraction_fractionChars {fraction : Option (List Char)}
    (hfraction : ∀ ds, fraction = some ds → ds ≠ [] ∧ ∀ d ∈ ds, d.isDigit = true)
    {cs : List Char} (hcs : EndsDigits cs) (hpoint : cs.head? ≠ some '.') :
    readFraction (Numeral.fractionChars fraction ++ cs) = some (fraction, cs) := by
  cases fraction with
  | none =>
    cases cs with
    | nil => rfl
    | cons c cs =>
      rw [Numeral.fractionChars, List.nil_append, readFraction]
      rintro rest ⟨rfl, -⟩
      exact hpoint rfl
  | some ds =>
    obtain ⟨hne, hds⟩ := hfraction ds rfl
    rw [Numeral.fractionChars, List.cons_append, readFraction, spanDigits_append hds hcs]
    cases ds with
    | nil => exact absurd rfl hne
    | cons d ds => rfl

/-- The digits of an exponent are read back with their sign. -/
theorem readExponentDigits_toDigits (e : Int) {cs : List Char} (hcs : EndsDigits cs) :
    readExponentDigits ((if e < 0 then ['-'] else []) ++ (Nat.toDigits 10 e.natAbs ++ cs)) =
      some (e, cs) := by
  have hdigit := isDigit_of_mem_toDigits (n := e.natAbs)
  have hworth : ofDigits (Nat.toDigits 10 e.natAbs) = e.natAbs := Nat.ofDigitChars_ten_toDigits
  have hspan := spanDigits_append hdigit hcs
  obtain ⟨d, ds, hds⟩ := List.exists_cons_of_ne_nil (Nat.toDigits_ne_nil (n := e.natAbs) (b := 10))
  rw [hds] at hdigit hworth hspan ⊢
  rw [List.cons_append] at hspan ⊢
  by_cases he : e < 0
  · have hback : -(e.natAbs : Int) = e := by omega
    rw [if_pos he, List.singleton_append]
    simp only [readExponentDigits, hspan, hworth, hback, if_true]
  · have hback : (e.natAbs : Int) = e := by omega
    -- The first digit must not be taken for a sign.
    have hminus : d ≠ '-' := by
      rintro rfl
      exact absurd (hdigit _ (List.mem_cons_self ..)) (by decide)
    have hplus : d ≠ '+' := by
      rintro rfl
      exact absurd (hdigit _ (List.mem_cons_self ..)) (by decide)
    rw [if_neg he, List.nil_append]
    simp [readExponentDigits, hspan, hworth, hback, hminus, hplus]

/-- **The exponent** is read back. -/
theorem readExponent_exponentChars (exponent : Option Int) {cs : List Char}
    (hcs : EndsNumeral cs) :
    readExponent (Numeral.exponentChars exponent ++ cs) = some (exponent, cs) := by
  cases exponent with
  | none =>
    cases cs with
    | nil => rfl
    | cons c cs =>
      obtain ⟨-, -, hlower, hupper⟩ := hcs c rfl
      rw [Numeral.exponentChars, List.nil_append, readExponent]
      · rintro rest ⟨rfl, -⟩
        exact hlower rfl
      · rintro rest ⟨rfl, -⟩
        exact hupper rfl
  | some e =>
    rw [Numeral.exponentChars, List.cons_append, List.cons_append, readExponent, List.append_assoc,
      readExponentDigits_toDigits e fun c hc => (hcs c hc).1]
    rfl

/-- An exponent, or what ends a numeral, ends the digits in front. -/
theorem endsDigits_exponentChars_append (exponent : Option Int) {cs : List Char}
    (hcs : EndsNumeral cs) :
    EndsDigits (Numeral.exponentChars exponent ++ cs) ∧
      (Numeral.exponentChars exponent ++ cs).head? ≠ some '.' := by
  cases exponent with
  | none => exact ⟨fun c hc => (hcs c hc).1, fun hpoint => (hcs '.' hpoint).2.1 rfl⟩
  | some e =>
    refine ⟨fun c hc => ?_, nofun⟩
    obtain rfl := Option.some.inj hc
    decide

/-- What ends the digits behind a fraction ends those in front of it: a fraction begins with a
point. -/
theorem endsDigits_fractionChars_append (fraction : Option (List Char)) {cs : List Char}
    (hcs : EndsDigits cs) : EndsDigits (Numeral.fractionChars fraction ++ cs) := by
  cases fraction with
  | none => exact hcs
  | some ds =>
    intro c hc
    obtain rfl := Option.some.inj hc
    decide

/-- The reader delivers a numeral when its parts have been read, one after the other. -/
theorem readNumeral_of_parts {n : Numeral} {cs rest rest' rest'' : List Char}
    (hwhole : readWhole cs = some (n.whole, rest))
    (hfraction : readFraction rest = some (n.fraction, rest'))
    (hexponent : readExponent rest' = some (n.exponent, rest''))
    (hrange : n.value?.isSome = true) (hcs : cs.head? ≠ some '-') :
    readNumeral ((if n.negative then ['-'] else []) ++ cs) = some (n, rest'') := by
  obtain ⟨negative, whole, fraction, exponent⟩ := n
  cases negative with
  | true =>
    simp only [readNumeral, if_true, List.singleton_append, hwhole, hfraction, hexponent,
      Option.bind_eq_bind, Option.bind_some, hrange]
    rfl
  | false =>
    cases cs with
    | nil => exact absurd hwhole nofun
    | cons c cs =>
      have hc : c ≠ '-' := fun h => hcs (congrArg some h)
      simp [readNumeral, hc, hwhole, hfraction, hexponent, hrange]

/-- **A numeral is read back**, if what follows ends it. -/
theorem readNumeral_chars {n : Numeral} (hn : n.IsReadable) {cs : List Char}
    (hcs : EndsNumeral cs) : readNumeral (n.chars ++ cs) = some (n, cs) := by
  obtain ⟨hstop, hpoint⟩ := endsDigits_exponentChars_append n.exponent hcs
  have hwhole := readWhole_toDigits n.whole (endsDigits_fractionChars_append n.fraction hstop)
  have hfraction := readFraction_fractionChars hn.printable hstop hpoint
  have hexponent := readExponent_exponentChars n.exponent hcs
  have hdigit := isDigit_of_mem_toDigits (n := n.whole)
  rw [Numeral.chars_eq, List.append_assoc, List.append_assoc, List.append_assoc]
  refine readNumeral_of_parts hwhole hfraction hexponent hn.inRange fun hminus => ?_
  obtain ⟨d, ds, hds⟩ := List.exists_cons_of_ne_nil (Nat.toDigits_ne_nil (n := n.whole) (b := 10))
  rw [hds] at hminus hdigit
  obtain rfl := Option.some.inj hminus
  exact absurd (hdigit _ (List.mem_cons_self ..)) (by decide)

/-- A numeral is written with digits and three more characters. -/
theorem isDigit_or_of_mem_chars {n : Numeral} (hn : n.IsPrintable) {c : Char} (hc : c ∈ n.chars) :
    c.isDigit = true ∨ c ∈ ['-', '.', 'e'] := by
  obtain ⟨negative, whole, fraction, exponent⟩ := n
  rw [Numeral.chars_eq, List.mem_append, List.mem_append, List.mem_append] at hc
  -- Sign, whole part, fraction and exponent, in the order of writing.
  rcases hc with ((hsign | hwhole) | hfraction) | hexponent
  · cases negative with
    | false => cases hsign
    | true => exact Or.inr (by rw [List.mem_singleton.mp hsign]; decide)
  · exact Or.inl (isDigit_of_mem_toDigits c hwhole)
  · cases fraction with
    | none => cases hfraction
    | some ds =>
      rcases List.mem_cons.mp hfraction with rfl | hmem
      · exact Or.inr (by decide)
      · exact Or.inl ((hn ds rfl).2 c hmem)
  · cases exponent with
    | none => cases hexponent
    | some e =>
      rcases List.mem_append.mp hexponent with hmark | hdigits
      · have hmarks : ∀ d ∈ ['e', '-'], d ∈ ['-', '.', 'e'] := by simp
        refine Or.inr (hmarks c ?_)
        by_cases he : e < 0
        · rwa [if_pos he] at hmark
        · rw [if_neg he] at hmark
          exact List.mem_cons.mpr (Or.inl (List.mem_singleton.mp hmark))
      · exact Or.inl (isDigit_of_mem_toDigits c hdigits)

/-- A written numeral has no control character. -/
theorem visible_of_mem_chars {n : Numeral} (hn : n.IsPrintable) {c : Char} (hc : c ∈ n.chars) :
    0x20 ≤ c.toNat := by
  rcases isDigit_or_of_mem_chars hn hc with hdigit | hother
  · simp only [Char.isDigit, Bool.and_eq_true, decide_eq_true_eq, UInt32.le_iff_toNat_le] at hdigit
    exact Nat.le_trans (by decide) hdigit.1
  · have hvisible : ∀ d ∈ ['-', '.', 'e'], 0x20 ≤ d.toNat := by simp
    exact hvisible c hother

end Json

end PubSub
