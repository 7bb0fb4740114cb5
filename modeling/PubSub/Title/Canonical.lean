import PubSub.Text.Blank
import PubSub.Title.Segment

/-! # Canonical titles

Clients write titles loosely: `a/b`, `/a//b/`, `+`, `a/+/#`. This file turns each into the one form
under which it is indexed: every segment behind a separator, wildcards as segments of their own.

* **`Title`** — a list of segments, with its text (`Title.text`) and kind (`Title.isWildcard`).
* **`Title.canonicalize raw`** — the title that `raw` names, or the first rule it breaks.
* **`Title.canonicalizeConcrete raw`** — the same for the title of a publication, which names one
  topic and so may hold no wildcard.
* **`TitleError`** — the rules, one constructor each; `TitleError.message` is the only place that
  words them. -/

namespace PubSub

/-! ## (1) Titles -/

/-- The longest canonical title, in bytes of UTF-8. -/
def maxTitleLength : Nat := 254

/-- A **title**: the segments in order. -/
structure Title where
  /-- The segments, from the root down. -/
  segments : List Segment
  deriving DecidableEq, Repr

namespace Title

/-- The characters of the canonical text: each segment behind a separator. -/
def chars (t : Title) : List Char := t.segments.flatMap fun s => separator :: s.text.toList

/-- The **canonical text** of a title, under which it is indexed. -/
def text (t : Title) : String := String.ofList t.chars

/-- Whether the title holds a wildcard, and so may cover other titles. -/
def isWildcard (t : Title) : Bool := t.segments.any Segment.isWildcard

@[simp] theorem chars_nil : chars ⟨[]⟩ = [] := rfl

/-- A title is written segment by segment, each behind a separator. -/
@[simp] theorem chars_cons (s : Segment) (ss : List Segment) :
    chars ⟨s :: ss⟩ = separator :: (s.text.toList ++ chars ⟨ss⟩) := by
  simp [chars]

/-- The text of a title has its characters. -/
@[simp] theorem toList_text (t : Title) : t.text.toList = t.chars := by
  simp [text]

end Title

/-! ## (2) What can be wrong with a title -/

/-- The **rules a raw title can break**. -/
inductive TitleError
  /-- The raw title is the separator alone. -/
  | root
  /-- The raw title is empty. -/
  | empty
  /-- The raw title holds `#` more than once. -/
  | multipleHash
  /-- Only blanks and separators are left after trimming. -/
  | trimmedEmpty
  /-- The segment is neither a word nor a wildcard. -/
  | invalidSegment (segment : String)
  /-- There is no segment. -/
  | noSegments
  /-- A segment follows `#`. -/
  | hashNotLast
  /-- The canonical text is longer than `maxTitleLength`. -/
  | tooLong (length : Nat)
  /-- The title of a publication holds a wildcard. -/
  | wildcardPublish
  deriving DecidableEq, Repr

/-- The wording of a broken rule. -/
def TitleError.message : TitleError → String
  | root => "\"/\" is the root topic"
  | empty => "topic title is empty"
  | multipleHash => "\"#\" may appear only once"
  | trimmedEmpty => "topic title is empty after trimming"
  | invalidSegment segment => segment ++ " --> segment must match [0-9a-zA-Z_-]+"
  | noSegments => "topic title has no segments"
  | hashNotLast => "\"#\" must be the last segment"
  | tooLong length =>
    "topic title is " ++ toString length ++ " bytes, limit is " ++ toString maxTitleLength
  | wildcardPublish => "publish title may not contain wildcards"

/-! ## (3) Preparing the raw text

Three rewritings make the wildcards of a raw text stand alone: the run of `+` and separators around
the `#` shrinks to the `#`, every wildcard is put between separators, and the ends are trimmed. -/

/-- The characters that a `#` absorbs when they touch it. -/
def isRunChar (c : Char) : Bool := c == '+' || c == separator

/-- **Shrink the run around the `#`** to the `#` itself; a text without `#` stays as it is. -/
def shrinkRun (cs : List Char) : List Char :=
  match cs.dropWhile (· != '#') with
  | [] => cs
  | hash :: after =>
    let before := cs.takeWhile (· != '#')
    (before.reverse.dropWhile isRunChar).reverse ++ hash :: after.dropWhile isRunChar

/-- **Isolate the wildcards**: put each between two separators. -/
def isolateWildcards (cs : List Char) : List Char :=
  cs.flatMap fun c => if c == '#' || c == '+' then [separator, c, separator] else [c]

/-- The raw text with its wildcards standing alone and its ends trimmed, first of blanks and then
of separators. -/
def prepare (cs : List Char) : List Char :=
  trim (· == separator) (trim isBlank (isolateWildcards (shrinkRun cs)))

/-! ## (4) Canonicalization -/

/-- The non-empty pieces between separators, each read as a segment. -/
def splitSegments (cs : List Char) : List Segment :=
  ((cs.splitOn separator).filter (!·.isEmpty)).map fun piece => Segment.ofText (String.ofList piece)

/-- Whether every `#` is the last of its list. -/
def hashLast : List Segment → Bool
  | [] => true
  | [_] => true
  | s :: ss => s != Segment.multi && hashLast ss

namespace Title

/-- Accept segments as a title if all rules hold: every segment valid, at least one of them, `#`
only at the end, and the length within bounds. The first rule that fails is reported. -/
def ofSegments (segments : List Segment) : Except TitleError Title :=
  match segments.find? (!·.isValid) with
  | some s => .error (.invalidSegment s.text)
  | none =>
    if segments.isEmpty then .error .noSegments
    else if !hashLast segments then .error .hashNotLast
    else
      let title : Title := ⟨segments⟩
      let length := title.text.utf8ByteSize
      if maxTitleLength < length then .error (.tooLong length) else .ok title

/-- **Canonicalize** a raw title: the title it names, or the first rule that it breaks. -/
def canonicalize (raw : String) : Except TitleError Title :=
  if raw = "/" then .error .root
  else if raw = "" then .error .empty
  else if 1 < raw.toList.count '#' then .error .multipleHash
  else
    let prepared := prepare raw.toList
    if prepared.isEmpty then .error .trimmedEmpty else ofSegments (splitSegments prepared)

/-- Canonicalize the title of a publication, which may hold no wildcard. -/
def canonicalizeConcrete (raw : String) : Except TitleError Title :=
  match canonicalize raw with
  | .error e => .error e
  | .ok title => if title.isWildcard then .error .wildcardPublish else .ok title

end Title

end PubSub
