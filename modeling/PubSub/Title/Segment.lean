/-! # Title segments

A title is a path of segments. A segment is a word, or one of the two wildcards.

* **`Segment`** — `literal word`, `single` (written `+`, stands for one word) and `multi`
  (written `#`, stands for one or more words).
* **`Segment.ofText` / `Segment.text`** — reading and writing, inverse to each other:
  `text_ofText` holds for every text, so a segment and its text determine one another.
* **`isWordChar`, `isWord`** — the words, over letters, digits, `_` and `-` of ASCII. -/

namespace PubSub

/-! ## (1) Words -/

/-- The characters a word may hold: ASCII digits and letters, `_` and `-`. -/
def isWordChar (c : Char) : Bool :=
  c.isDigit || c.isAlpha || c == '_' || c == '-'

/-- A **word** is a non-empty text over the word characters. -/
def isWord (cs : List Char) : Bool := !cs.isEmpty && cs.all isWordChar

@[simp] theorem isWord_nil : isWord [] = false := rfl

@[simp] theorem isWord_cons (c : Char) (cs : List Char) :
    isWord (c :: cs) = (isWordChar c && cs.all isWordChar) := rfl

/-- The separator between the segments of a title; a canonical title also begins with it. -/
def separator : Char := '/'

/-! ## (2) Segments -/

/-- One **segment** of a title. -/
inductive Segment
  /-- The word itself. -/
  | literal (word : String)
  /-- `+`, the wildcard for exactly one word. -/
  | single
  /-- `#`, the wildcard for one or more words up to the end of the title. -/
  | multi
  deriving DecidableEq, Repr

namespace Segment

/-- The written form of a segment. -/
def text : Segment → String
  | literal word => word
  | single => "+"
  | multi => "#"

/-- Read a segment: `+` and `#` alone are the wildcards, any other text is a literal. -/
def ofText (s : String) : Segment :=
  if s = "+" then single else if s = "#" then multi else literal s

@[simp] theorem text_literal (word : String) : (literal word).text = word := rfl

@[simp] theorem text_single : single.text = "+" := rfl

@[simp] theorem text_multi : multi.text = "#" := rfl

/-- Writing what was read gives the text back. -/
@[simp] theorem text_ofText (s : String) : (ofText s).text = s := by
  unfold ofText
  split
  · simp_all
  · split <;> simp_all

/-- Whether the segment is one of the two wildcards. -/
def isWildcard : Segment → Bool
  | literal _ => false
  | single | multi => true

@[simp] theorem isWildcard_literal (word : String) : (literal word).isWildcard = false := rfl

@[simp] theorem isWildcard_single : single.isWildcard = true := rfl

@[simp] theorem isWildcard_multi : multi.isWildcard = true := rfl

/-- A segment may stand in a title if it is a wildcard or its text is a word. -/
def isValid : Segment → Bool
  | literal word => isWord word.toList
  | single | multi => true

@[simp] theorem isValid_single : single.isValid = true := rfl

@[simp] theorem isValid_multi : multi.isValid = true := rfl

end Segment

end PubSub
