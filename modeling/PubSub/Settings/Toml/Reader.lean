import PubSub.Settings.Toml.Document
import PubSub.Settings.Toml.Scalar
import PubSub.Text.ByteOrderMark

/-! # Reading TOML

* **`Toml.readKey`** — a dotted key.
* **`Toml.readValue limit depth`** — a value with at most `depth` lists and tables around any part of
  it.
* **`Toml.parse?`** — a whole document as the entries of its root table. -/

namespace PubSub

namespace Toml

/-! ## (1) Blanks, comments and line ends -/

/-- The blanks inside a line. -/
def isInlineBlank (c : Char) : Bool := c == ' ' || c == '\t'

/-- Drop the blanks in front. -/
def skipInline (cs : List Char) : List Char := cs.dropWhile isInlineBlank

/-- The control characters that may stand neither in comments nor in texts. -/
def isForbidden (c : Char) : Bool := (c.toNat < 0x20 && c != '\t') || c.toNat == 0x7F

/-- The rest behind a line break, if there is one in front. -/
def lineBreak? : List Char → Option (List Char)
  | '\n' :: rest => some rest
  | '\r' :: '\n' :: rest => some rest
  | _ => none

/-- Drop a comment, if there is one in front. -/
def skipComment (cs : List Char) : List Char :=
  match cs with
  | '#' :: rest => rest.dropWhile fun c => !isForbidden c
  | cs => cs

/-- The rest behind the **end of a line**: blanks and a comment may stand before it, and the end of
the text is one too. -/
def lineEnd? (cs : List Char) : Option (List Char) :=
  match skipComment (skipInline cs) with
  | [] => some []
  | rest => lineBreak? rest

/-- Drop blanks, comments and line breaks; `limit` bounds the number of lines. -/
def skipLines : (limit : Nat) → List Char → List Char
  | 0, cs => cs
  | limit + 1, cs =>
    let rest := skipComment (skipInline cs)
    match lineBreak? rest with
    | some rest => skipLines limit rest
    | none => rest

/-! ## (2) Texts -/

/-- The character with a number, if there is one. -/
def charOf? (n : Nat) : Option Char := if n.isValidChar then some (Char.ofNat n) else none

/-- The character that hexadecimal digits denote. -/
def hexChar? (ds : List Char) : Option Char :=
  if ds.all (isDigitOf 16) then charOf? (ds.foldl (fun n d => n * 16 + digitValue d) 0) else none

/-- The character of a one-letter escape. -/
def shortEscape? : Char → Option Char
  | 'b' => some '\x08'
  | 't' => some '\t'
  | 'n' => some '\n'
  | 'f' => some '\x0c'
  | 'r' => some '\r'
  | 'e' => some '\x1b'
  | '"' => some '"'
  | '\\' => some '\\'
  | _ => none

/-- What is read of a text so far, with one more character in front. -/
def push (c : Option Char) (read : Option (List Char × List Char)) : Option (List Char × List Char) :=
  match c, read with
  | some c, some (cs, rest) => some (c :: cs, rest)
  | _, _ => none

/-- A text between quotes, behind the first. -/
def readQuoted : List Char → Option (List Char × List Char)
  | [] => none
  | '"' :: rest => some ([], rest)
  | '\\' :: 'u' :: a :: b :: c :: d :: rest => push (hexChar? [a, b, c, d]) (readQuoted rest)
  | '\\' :: 'U' :: a :: b :: c :: d :: e :: f :: g :: h :: rest =>
    push (hexChar? [a, b, c, d, e, f, g, h]) (readQuoted rest)
  | '\\' :: 'x' :: a :: b :: rest => push (hexChar? [a, b]) (readQuoted rest)
  | '\\' :: c :: rest => push (shortEscape? c) (readQuoted rest)
  | c :: rest => if isForbidden c || c == '\\' then none else push (some c) (readQuoted rest)

/-- A text between apostrophes, behind the first. -/
def readLiteral : List Char → Option (List Char × List Char)
  | [] => none
  | '\'' :: rest => some ([], rest)
  | c :: rest => if isForbidden c then none else push (some c) (readLiteral rest)

/-- Whether a backslash before these characters joins the line with the next. -/
def joinsLines (cs : List Char) : Bool := (lineBreak? (skipInline cs)).isSome

/-- A text of several lines between triple quotes, behind the first three. With `joining`, blanks and
line breaks in front are dropped. -/
def readQuotedLines (joining : Bool) : List Char → Option (List Char × List Char)
  | [] => none
  | '"' :: '"' :: '"' :: '"' :: '"' :: rest => some (['"', '"'], rest)
  | '"' :: '"' :: '"' :: '"' :: rest => some (['"'], rest)
  | '"' :: '"' :: '"' :: rest => some ([], rest)
  | '\\' :: 'u' :: a :: b :: c :: d :: rest =>
    push (hexChar? [a, b, c, d]) (readQuotedLines false rest)
  | '\\' :: 'U' :: a :: b :: c :: d :: e :: f :: g :: h :: rest =>
    push (hexChar? [a, b, c, d, e, f, g, h]) (readQuotedLines false rest)
  | '\\' :: 'x' :: a :: b :: rest => push (hexChar? [a, b]) (readQuotedLines false rest)
  | '\\' :: c :: rest =>
    if joinsLines (c :: rest) then readQuotedLines true rest
    else push (shortEscape? c) (readQuotedLines false rest)
  | '\r' :: '\n' :: rest =>
    if joining then readQuotedLines true rest
    else push (some '\r') (push (some '\n') (readQuotedLines false rest))
  | c :: rest =>
    if joining && (isInlineBlank c || c == '\n') then readQuotedLines true rest
    else if c == '\\' || (isForbidden c && c != '\n') then none
    else push (some c) (readQuotedLines false rest)

/-- A text of several lines between triple apostrophes, behind the first three. -/
def readLiteralLines : List Char → Option (List Char × List Char)
  | [] => none
  | '\'' :: '\'' :: '\'' :: '\'' :: '\'' :: rest => some (['\'', '\''], rest)
  | '\'' :: '\'' :: '\'' :: '\'' :: rest => some (['\''], rest)
  | '\'' :: '\'' :: '\'' :: rest => some ([], rest)
  | '\r' :: '\n' :: rest => push (some '\r') (push (some '\n') (readLiteralLines rest))
  | c :: rest =>
    if isForbidden c && c != '\n' then none else push (some c) (readLiteralLines rest)

/-- Drop the line break directly behind triple quotes. -/
def dropFirstBreak (cs : List Char) : List Char := (lineBreak? cs).getD cs

/-- A text, of one line or several, if a quote or an apostrophe stands in front. -/
def readText (cs : List Char) : Option (String × List Char) :=
  let read := match cs with
    | '"' :: '"' :: '"' :: rest => readQuotedLines false (dropFirstBreak rest)
    | '\'' :: '\'' :: '\'' :: rest => readLiteralLines (dropFirstBreak rest)
    | '"' :: rest => readQuoted rest
    | '\'' :: rest => readLiteral rest
    | _ => none
  read.map fun (text, rest) => (String.ofList text, rest)

/-! ## (3) Keys -/

/-- The characters of a key without quotes. -/
def isKeyChar (c : Char) : Bool := c.isAlphanum || c == '_' || c == '-'

/-- One part of a key. -/
def readKeyPart (cs : List Char) : Option (String × List Char) :=
  let read := match cs with
    | '"' :: rest => readQuoted rest
    | '\'' :: rest => readLiteral rest
    | cs =>
      match cs.takeWhile isKeyChar with
      | [] => none
      | name => some (name, cs.dropWhile isKeyChar)
  read.map fun (name, rest) => (String.ofList name, rest)

/-- Parts of a key with points between them; `limit` bounds their number. -/
def readParts : (limit : Nat) → List Char → Option (List String × List Char)
  | 0, _ => none
  | limit + 1, cs =>
    match readKeyPart (skipInline cs) with
    | none => none
    | some (name, rest) =>
      match skipInline rest with
      | '.' :: rest => (readParts limit rest).map fun (path, rest) => (name :: path, rest)
      | rest => some ([name], rest)

/-- The greatest number of parts of a key, and of lists and tables around any part of a value. -/
def maxDepth : Nat := 80

/-- A **key**: parts with points between them. -/
def readKey (cs : List Char) : Option (List String × List Char) := readParts maxDepth cs

/-! ## (4) Values -/

/-- A reader of one value. -/
abbrev ValueReader := List Char → Option (TomlNode × List Char)

/-- The items of a list behind its bracket; blanks, comments and line breaks may stand between them,
and a comma behind the last. -/
def readListItems (value : ValueReader) (lines : Nat) :
    (limit : Nat) → List Char → Option (List TomlNode × List Char)
  | 0, _ => none
  | limit + 1, cs =>
    match skipLines lines cs with
    | ']' :: rest => some ([], rest)
    | cs =>
      match value cs with
      | none => none
      | some (item, rest) =>
        match skipLines lines rest with
        | ',' :: rest =>
          (readListItems value lines limit rest).map fun (items, rest) => (item :: items, rest)
        | ']' :: rest => some ([item], rest)
        | _ => none

/-- An equals sign in front, with blanks, comments and line breaks around it, is dropped. -/
def skipEquals (lines : Nat) (cs : List Char) : Option (List Char) :=
  match skipLines lines cs with
  | '=' :: rest => some (skipLines lines rest)
  | _ => none

/-- The entries of an inline table behind its brace, laid into `entries`. -/
def readInlineEntries (value : ValueReader) (lines : Nat) :
    (limit : Nat) → TomlEntries → List Char → Option (TomlEntries × List Char)
  | 0, _, _ => none
  | limit + 1, entries, cs =>
    match skipLines lines cs with
    | '\x7d' :: rest => some (entries, rest)
    | cs =>
      match readKey cs with
      | none => none
      | some (key, rest) =>
        match (skipEquals lines rest).bind value with
        | none => none
        | some (v, rest) =>
          match TomlEntries.assign v key entries with
          | none => none
          | some entries =>
            match skipLines lines rest with
            | ',' :: rest => readInlineEntries value lines limit entries rest
            | '\x7d' :: rest => some (entries, rest)
            | _ => none

/-- A value that is neither a list nor a table. -/
def readSimple (cs : List Char) : Option (TomlNode × List Char) :=
  match readText cs with
  | some (text, rest) => some (.value (.text text), rest)
  | none =>
    let (run, rest) := spanScalar cs
    match scalar? run with
    | some v => some (.value v, rest)
    | none => (moment? run).map fun text => (.moment text, rest)

/-- A **value** with at most `depth` lists and tables around any part of it. -/
def readValue (limit : Nat) : (depth : Nat) → ValueReader
  | 0, cs => match cs with
    | '[' :: _ | '\x7b' :: _ => none
    | cs => readSimple cs
  | depth + 1, cs => match cs with
    | '[' :: rest =>
      (readListItems (readValue limit depth) limit limit rest).map fun (items, rest) =>
        (.list items, rest)
    | '\x7b' :: rest =>
      (readInlineEntries (readValue limit depth) limit limit [] rest).map fun (entries, rest) =>
        (.table .inline entries, rest)
    | cs => readSimple cs

/-! ## (5) Documents -/

/-- The lines of a document from `cs` on; `header` names the open table. -/
def readLines (lines : Nat) :
    (limit : Nat) → (header : List String) → TomlEntries → List Char → Option TomlEntries
  | 0, _, _, _ => none
  | limit + 1, header, entries, cs =>
    match skipLines lines cs with
    | [] => some entries
    | '[' :: '[' :: rest =>
      match readKey rest with
      | some (path, ']' :: ']' :: rest) =>
        match TomlEntries.append path entries, lineEnd? rest with
        | some entries, some rest => readLines lines limit path entries rest
        | _, _ => none
      | _ => none
    | '[' :: rest =>
      match readKey rest with
      | some (path, ']' :: rest) =>
        match TomlEntries.define path entries, lineEnd? rest with
        | some entries, some rest => readLines lines limit path entries rest
        | _, _ => none
      | _ => none
    | cs =>
      match readKey cs with
      | some (key, '=' :: rest) =>
        match readValue lines maxDepth (skipInline rest) with
        | none => none
        | some (v, rest) =>
          match TomlEntries.assignUnder header key v entries, lineEnd? rest with
          | some entries, some rest => readLines lines limit header entries rest
          | _, _ => none
      | _ => none

/-- A **whole document**, behind a byte order mark or not: the entries of its root table. -/
def parse? (text : List Char) : Option (List (String × Setting)) :=
  let cs := dropByteOrderMark text
  match (readLines (cs.length + 1) (cs.length + 1) [] [] cs).bind TomlEntries.toSetting? with
  | some (.table entries) => some entries
  | _ => none

end Toml

end PubSub
