import PubSub.Settings.Environment
import PubSub.Text.Alphanumeric
import PubSub.Text.Blank
import PubSub.Text.ByteOrderMark

/-! # Files of environment variables

A `.env` file gives values to variables that are not set yet, one assignment a line. A value may be
quoted, and a quoted value may go on over several lines; outside apostrophes `$NAME` and `${NAME}`
stand for the value of a variable.

* **`Dotenv.splitLogical`** — the logical lines of a file, each with whether it is complete.
* **`Dotenv.readAssignment`** — the assignment on a logical line.
* **`Dotenv.load?`** — the environment with the assignments of a file. The first faulty line ends the
  file; what stands before it counts. -/

namespace PubSub

namespace Dotenv

/-! ## (1) Logical lines -/

/-- Where a scan stands within a logical line. -/
inductive ScanState
  /-- Outside quotes. -/
  | plain
  /-- Behind a backslash outside quotes. -/
  | escaped
  /-- Between apostrophes. -/
  | strong
  /-- Behind a backslash between apostrophes. -/
  | strongEscaped
  /-- Between quotes. -/
  | weak
  /-- Behind a backslash between quotes. -/
  | weakEscaped
  /-- Behind a blank outside quotes. -/
  | blank
  /-- In a comment, which ends the line. -/
  | comment
  deriving DecidableEq, Repr

/-- The state behind a character outside quotes. -/
def ScanState.afterPlain (c : Char) : ScanState :=
  if c = '\\' then escaped else if c = '"' then weak else if c = '\'' then strong else plain

/-- The state behind a character. -/
def ScanState.step : ScanState → Char → ScanState
  | plain, c => if isBlank c && c != '\n' && c != '\r' then blank else afterPlain c
  | blank, c => if c = '#' then comment else afterPlain c
  | escaped, _ => plain
  | strong, c => if c = '\\' then strongEscaped else if c = '\'' then plain else strong
  | strongEscaped, _ => strong
  | weak, c => if c = '\\' then weakEscaped else if c = '"' then plain else weak
  | weakEscaped, _ => weak
  | comment, _ => comment

/-- The physical lines of a file, each with its line break. -/
def physicalLines (before : List Char) : List Char → List (List Char)
  | [] => if before.isEmpty then [] else [before.reverse]
  | c :: rest =>
    if c = '\n' then (c :: before).reverse :: physicalLines [] rest
    else physicalLines (c :: before) rest

/-- A line up to its comment, and the state at its end. -/
def scanLine : ScanState → List Char → List Char × ScanState
  | state, [] => ([], state)
  | state, c :: rest =>
    match state.step c with
    | .comment => ([], .comment)
    | next =>
      let (kept, last) := scanLine next rest
      (c :: kept, last)

/-- Whether a line holds a comment only. -/
def isCommentLine (line : List Char) : Bool :=
  match line.dropWhile isBlank with
  | '#' :: _ => true
  | _ => false

/-- The **logical lines**: physical lines are joined while a quote or a backslash is open, or a blank
stands at the end. A file that ends within a logical line gives `none` for it. -/
def splitLogical (state : ScanState) (before : List Char) :
    List (List Char) → List (Option (List Char))
  | [] => if state = .plain then [] else [none]
  | line :: lines =>
    if isCommentLine (before ++ line) then some [] :: splitLogical .plain [] lines
    else
      let (kept, last) := scanLine state line
      if last = .plain || last = .comment then
        some (before ++ kept) :: splitLogical .plain [] lines
      else splitLogical last (before ++ line) lines

/-! ## (2) Values -/

/-- Where the reading of a value stands. -/
inductive ValueState
  /-- Outside quotes (`false`) or between quotes (`true`). -/
  | value (quoted : Bool)
  /-- Behind a backslash. -/
  | escaped (quoted : Bool)
  /-- Between apostrophes. -/
  | strong
  /-- In a variable's name behind a dollar sign; the name is held in reverse. -/
  | bare (quoted : Bool) (name : List Char)
  /-- In a variable's name between braces; the name is held in reverse. -/
  | braced (quoted : Bool) (name : List Char)
  /-- Behind the value, where only blanks and a comment may follow. -/
  | closed
  deriving DecidableEq, Repr

/-- The value of a variable, empty if it has none. -/
def substitute (env : Environment) (name : List Char) : List Char :=
  ((env.get? (String.ofList name.reverse)).getD "").toList

/-- The character that stands for an escape. -/
def escape? (c : Char) : Option Char :=
  if c = '\\' || c = '\'' || c = '"' || c = '$' || c = ' ' then some c
  else if c = 'n' then some '\n'
  else none

/-- The state behind a character of an open value, and what the character gives. -/
def stepValue (quoted : Bool) (c : Char) : ValueState × List Char :=
  if c = '$' then (.bare quoted [], [])
  else if c = '\\' then (.escaped quoted, [])
  else if c = '"' then (.value (!quoted), [])
  else if quoted then (.value true, [c])
  else if c = '\'' then (.strong, [])
  else if c = ' ' || c = '\t' then (.closed, [])
  else (.value false, [c])

/-- **Read a value**; `none` if it is faulty. A character that ends a bare name stands for itself. -/
def readValue (env : Environment) : ValueState → List Char → Option (List Char)
  | .value quoted, [] => if quoted then none else some []
  | .escaped quoted, [] => if quoted then none else some []
  | .strong, [] => none
  | .bare quoted name, [] => if quoted then none else some (substitute env name)
  | .braced _ _, [] => none
  | .closed, [] => some []
  | .value quoted, c :: rest =>
    let (next, out) := stepValue quoted c
    (readValue env next rest).map (out ++ ·)
  | .escaped quoted, c :: rest =>
    match escape? c with
    | some c => (readValue env (.value quoted) rest).map (c :: ·)
    | none => none
  | .strong, c :: rest =>
    if c = '\'' then readValue env (.value false) rest
    else (readValue env .strong rest).map (c :: ·)
  | .bare quoted name, c :: rest =>
    if isAlphanumeric c then readValue env (.bare quoted (c :: name)) rest
    else if c = '\x7b' && name.isEmpty then readValue env (.braced quoted []) rest
    else if c = '$' then (readValue env (.bare quoted []) rest).map (substitute env name ++ ·)
    else (readValue env (.value quoted) rest).map (substitute env name ++ c :: ·)
  | .braced quoted name, c :: rest =>
    if c = '\x7d' then (readValue env (.value quoted) rest).map (substitute env name ++ ·)
    else readValue env (.braced quoted (c :: name)) rest
  | .closed, c :: rest =>
    if c = ' ' || c = '\t' then readValue env .closed rest
    else if c = '#' then some []
    else none

/-! ## (3) Assignments -/

/-- The first character of a name. -/
def isNameStart (c : Char) : Bool := c.isAlpha || c == '_'

/-- The other characters of a name. -/
def isNameChar (c : Char) : Bool := c.isAlphanum || c == '_' || c == '.'

/-- A name, and the rest without blanks in front. -/
def readName? (cs : List Char) : Option (List Char × List Char) :=
  match cs with
  | c :: _ =>
    if isNameStart c then some (cs.takeWhile isNameChar, (cs.dropWhile isNameChar).dropWhile isBlank)
    else none
  | [] => none

/-- A name with its equals sign, and the rest without blanks in front. -/
def readTarget? (cs : List Char) : Option (String × List Char) :=
  match readName? cs with
  | some (name, '=' :: rest) => some (String.ofList name, rest.dropWhile isBlank)
  | _ => none

/-- The target of an assignment; the word `export` may stand before it. -/
def readExported? (cs : List Char) : Option (String × List Char) :=
  match readTarget? cs with
  | some target => some target
  | none =>
    match readName? cs with
    | some (name, rest) => if name = "export".toList then readTarget? rest else none
    | none => none

/-- What a logical line holds. -/
inductive Assignment
  /-- Nothing. -/
  | nothing
  /-- A value for a variable. -/
  | set (name value : String)
  /-- A fault. -/
  | faulty
  deriving DecidableEq, Repr

/-- Whether nothing but a comment is left. -/
def isDone (cs : List Char) : Bool :=
  match cs with
  | [] => true
  | c :: _ => c == '#'

/-- The **assignment** on a logical line. -/
def readAssignment (env : Environment) (line : List Char) : Assignment :=
  let cs := trim isBlank line
  if isDone cs then .nothing
  else
    match readExported? cs with
    | none => .faulty
    | some (name, rest) =>
      if isDone rest then .set name ""
      else
        match readValue env (.value false) rest with
        | some value => .set name (String.ofList value)
        | none => .faulty

/-! ## (4) Files -/

/-- Give a value to a variable that is not set; no variable can hold NUL. -/
def define? (env : Environment) (name value : String) : Option Environment :=
  if (env.get? name).isSome then some env
  else if value.toList.contains '\x00' then none
  else some (env ++ [(name, value)])

/-- Carry out the assignments of logical lines up to the first fault. -/
def loadLines (env : Environment) : List (Option (List Char)) → Option Environment
  | [] => some env
  | none :: _ => some env
  | some line :: lines =>
    match readAssignment env line with
    | .nothing => loadLines env lines
    | .set name value =>
      match define? env name value with
      | some env => loadLines env lines
      | none => none
    | .faulty => some env

/-- **Load** a file into an environment; `none` if a variable would get a value that none can have. -/
def load? (env : Environment) (file : String) : Option Environment :=
  loadLines env (splitLogical .plain [] (physicalLines [] (dropByteOrderMark file.toList)))

end Dotenv

end PubSub
