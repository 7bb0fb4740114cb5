import PubSub.Settings.Setting

/-! # TOML scalars

Numbers, truth values and dates are written without quotes. They are read from the whole run of
characters that may belong to them.

* **`Toml.scalar?`** — the setting that such a run denotes, if it is a number or a truth value.
* **`Toml.moment?`** — the normal text of a date or time that such a run denotes. -/

namespace PubSub

namespace Toml

/-! ## (1) Integers -/

/-- The digits of a number without the underscores between them; an underscore needs a digit on both
sides. -/
def joinDigits? (isDigit : Char → Bool) (cs : List Char) : Option (List Char) :=
  let groups := cs.splitOn '_'
  if groups.all fun g => !g.isEmpty && g.all isDigit then some groups.flatten else none

/-- Decimal digits behind a sign, which may be left out, without a zero in front, unless it is the only
one. Between a sign and the digits an underscore may stand, and then the zero may too. -/
def wholeDigits? (cs : List Char) : Option (List Char) :=
  match cs with
  | '+' :: '_' :: rest | '-' :: '_' :: rest => joinDigits? Char.isDigit rest
  | cs =>
    match joinDigits? Char.isDigit (Binary64.splitSign cs).2 with
    | some ('0' :: _ :: _) => none
    | digits => digits

/-- The worth of a digit up to `f`. -/
def digitValue (c : Char) : Nat :=
  if c.isDigit then c.toNat - '0'.toNat else c.toLower.toNat - 'a'.toNat + 10

/-- Whether the character is a digit to the given base. -/
def isDigitOf (base : Nat) (c : Char) : Bool :=
  (c.isDigit || ('a' ≤ c.toLower && c.toLower ≤ 'f')) && digitValue c < base

/-- A number to the given base. -/
def based? (base : Nat) (cs : List Char) : Option Int :=
  (joinDigits? (isDigitOf base) cs).map fun ds =>
    (ds.foldl (fun n d => n * base + digitValue d) 0 : Nat)

/-- An integer, of any size. -/
def integer? (cs : List Char) : Option Int :=
  match cs with
  | '0' :: 'x' :: rest => based? 16 rest
  | '0' :: 'o' :: rest => based? 8 rest
  | '0' :: 'b' :: rest => based? 2 rest
  | cs =>
    (wholeDigits? cs).map fun ds =>
      let n : Int := Nat.ofDigitChars 10 ds 0
      if (Binary64.splitSign cs).1 then -n else n

/-! ## (2) Numbers with a point or an exponent -/

/-- A fraction behind its point: digits, or none if there is no point. -/
def fractionDigits? : List Char → Option (List Char)
  | [] => some []
  | '.' :: rest => joinDigits? Char.isDigit rest
  | _ => none

/-- An exponent behind its mark, or 0 if there is none. -/
def exponent? : List Char → Option Int
  | [] => some 0
  | _ :: rest =>
    let (negative, rest) := Binary64.splitSign rest
    (joinDigits? Char.isDigit rest).map fun ds =>
      let n : Int := Nat.ofDigitChars 10 ds 0
      if negative then -n else n

/-- Whether the character marks an exponent. -/
def isExponentMark (c : Char) : Bool := c == 'e' || c == 'E'

/-- A number of the binary64 format; a finite one must stay finite when rounded. -/
def real? (cs : List Char) : Option Binary64 :=
  let (negative, rest) := Binary64.splitSign cs
  if rest = ['i', 'n', 'f'] then some (.infinite negative)
  else if rest = ['n', 'a', 'n'] then some .nan
  else
    let mantissa := cs.takeWhile (!isExponentMark ·)
    match wholeDigits? (mantissa.takeWhile (· != '.')), fractionDigits? (mantissa.dropWhile (· != '.')),
      exponent? (rest.dropWhile (!isExponentMark ·)) with
    | some whole, some fraction, some exponent =>
      let x := Binary64.ofDecimal negative (Nat.ofDigitChars 10 (whole ++ fraction) 0)
        (exponent - fraction.length)
      if x.isInfinite then none else some x
    | _, _, _ => none

/-! ## (3) Dates and times -/

/-- Exactly `n` digits in front, as a number, and the rest. -/
def fixedDigits? (n : Nat) (cs : List Char) : Option (Nat × List Char) :=
  let ds := cs.take n
  if ds.length = n && ds.all Char.isDigit then some (Nat.ofDigitChars 10 ds 0, cs.drop n) else none

/-- The text of a number with at least two digits. -/
def twoDigits (n : Nat) : List Char := if n < 10 then '0' :: Nat.toDigits 10 n else Nat.toDigits 10 n

/-- The number of days of a month. -/
def daysInMonth (year month : Nat) : Nat :=
  if month = 2 then
    if year % 4 = 0 && (year % 100 != 0 || year % 400 = 0) then 29 else 28
  else if month = 4 || month = 6 || month = 9 || month = 11 then 30
  else 31

/-- A date, as its text, and the rest. -/
def date? (cs : List Char) : Option (List Char × List Char) :=
  match fixedDigits? 4 cs with
  | some (year, '-' :: rest) =>
    match fixedDigits? 2 rest with
    | some (month, '-' :: rest) =>
      match fixedDigits? 2 rest with
      | some (day, rest) =>
        if 1 ≤ month && month ≤ 12 && 1 ≤ day && day ≤ daysInMonth year month then
          some (cs.take 10, rest)
        else none
      | none => none
    | _ => none
  | _ => none

/-- The decimals of a second behind their point: nine at most, without zeros at the end, but at least
one. -/
def decimals (ds : List Char) : List Char :=
  match ((ds.take 9).reverse.dropWhile (· == '0')).reverse with
  | [] => ['.', '0']
  | kept => '.' :: kept

/-- The seconds of a time with their colon, which may be left out altogether, and the rest. -/
def seconds? (cs : List Char) : Option (List Char × List Char) :=
  match cs with
  | ':' :: rest =>
    match fixedDigits? 2 rest with
    | some (second, rest) =>
      if 60 < second then none
      else
        match rest with
        | '.' :: rest =>
          match rest.takeWhile Char.isDigit with
          | [] => none
          | ds => some (':' :: twoDigits second ++ decimals ds, rest.dropWhile Char.isDigit)
        | rest => some (':' :: twoDigits second, rest)
    | none => none
  | cs => some ([], cs)

/-- A time of day, as its text, and the rest. -/
def time? (cs : List Char) : Option (List Char × List Char) :=
  match fixedDigits? 2 cs with
  | some (hour, ':' :: rest) =>
    match fixedDigits? 2 rest with
    | some (minute, rest) =>
      if 23 < hour || 59 < minute then none
      else
        (seconds? rest).map fun (seconds, rest) =>
          (twoDigits hour ++ ':' :: twoDigits minute ++ seconds, rest)
    | none => none
  | _ => none

/-- The text of an offset; one of zero counts as ahead. -/
def offsetText (behind : Bool) (hour minute : Nat) : List Char :=
  let sign := if behind && (hour != 0 || minute != 0) then '-' else '+'
  sign :: twoDigits hour ++ ':' :: twoDigits minute

/-- The offset of a time zone, as its text, up to the end; it may be left out. -/
def offset? : List Char → Option (List Char)
  | [] => some []
  | ['Z'] | ['z'] => some ['Z']
  | sign :: rest =>
    if sign == '+' || sign == '-' then
      match fixedDigits? 2 rest with
      | some (hour, ':' :: rest) =>
        match fixedDigits? 2 rest with
        | some (minute, []) =>
          if 23 < hour || 59 < minute then none
          else some (offsetText (sign == '-') hour minute)
        | _ => none
      | _ => none
    else none

/-- A date with a time behind it. -/
def dateTime? (cs : List Char) : Option (List Char) :=
  match date? cs with
  | some (date, []) => some date
  | some (date, mark :: rest) =>
    if mark == 'T' || mark == 't' || mark == ' ' then
      match time? rest with
      | some (time, rest) => (offset? rest).map fun offset => date ++ 'T' :: time ++ offset
      | none => none
    else none
  | none => none

/-- A date, a time of day, or both. -/
def moment? (cs : List Char) : Option (List Char) :=
  match dateTime? cs with
  | some text => some text
  | none =>
    match time? cs with
    | some (time, []) => some time
    | _ => none

/-! ## (4) All scalars -/

/-- The **number or truth value** that a run of characters denotes. -/
def scalar? (cs : List Char) : Option Setting :=
  if cs = ['t', 'r', 'u', 'e'] then some (.bool true)
  else if cs = ['f', 'a', 'l', 's', 'e'] then some (.bool false)
  else
    match integer? cs with
    | some i => if isSigned i then some (.integer i) else none
    | none => (real? cs).map .real

/-- The characters that a run without quotes may hold. -/
def isScalarChar (c : Char) : Bool :=
  c.isAlphanum || c == '+' || c == '-' || c == '_' || c == '.' || c == ':'

/-- The **run of characters** of a scalar, and the rest. A blank belongs to it between a date and a
time. -/
def spanScalar (cs : List Char) : List Char × List Char :=
  let run := cs.takeWhile isScalarChar
  match cs.dropWhile isScalarChar with
  | ' ' :: d :: rest =>
    if d.isDigit && run.length = 10 && (date? run).isSome then
      (run ++ ' ' :: (d :: rest).takeWhile isScalarChar, (d :: rest).dropWhile isScalarChar)
    else (run, ' ' :: d :: rest)
  | rest => (run, rest)

end Toml

end PubSub
