import PubSub.Json.Reader
import PubSub.Protocol.Fault

/-! # Reading requests

A request is written as an object with its verb under `type` and its fields as further members, in
any order, or as an array of the verb and the fields in the order of declaration. The text is read
from left to right and the first fault counts; the fields are looked at when the array or object is
closed, and whatever follows it comes last.

* **`Draft`** — the fields read so far.
* **`Verb.ofMembers`, `Verb.ofItems`** — the request that members or items describe.
* **`Request.decode`** — the request on a line, or what is wrong with the line. -/

namespace PubSub

/-! ## (1) The values of fields -/

namespace Field

/-- The fault of a value of the wrong kind. -/
def wrongType {α : Type} (j : Json) (wanted : Wanted) : Except ShapeError α :=
  .error (.invalidType (.ofJson j) wanted)

/-- An integer from `low` to `high`. -/
def readInteger (wanted : Wanted) (low high : Int) (j : Json) : Except ShapeError Int :=
  match j with
  | .number n =>
    match n.value? with
    | some (.integer i) => if low ≤ i ∧ i ≤ high then .ok i else .error (.outOfRange i wanted)
    | _ => wrongType j wanted
  | _ => wrongType j wanted

/-- The number of a client. -/
def readClientId (j : Json) : Except ShapeError ClientId :=
  (readInteger .clientId (-signedBound) (signedBound - 1) j).map Int64.ofInt

/-- The code of a level. -/
def readCode (j : Json) : Except ShapeError UInt8 :=
  (readInteger .code 0 255 j).map fun i => UInt8.ofNat i.toNat

/-- A position in a listing. -/
def readPosition (j : Json) : Except ShapeError UInt64 :=
  (readInteger .position 0 (wordBound - 1) j).map fun i => UInt64.ofNat i.toNat

/-- A text. -/
def readText : Json → Except ShapeError String
  | .string s => .ok s
  | j => wrongType j .string

/-- A truth value. -/
def readBool : Json → Except ShapeError Bool
  | .bool b => .ok b
  | j => wrongType j .boolean

/-- Texts, in order. -/
def readTexts : List Json → Except ShapeError (List String)
  | [] => .ok []
  | j :: js => do
    let s ← readText j
    let ss ← readTexts js
    pure (s :: ss)

/-- A list of texts. -/
def readTextList : Json → Except ShapeError (List String)
  | .array js => readTexts js
  | j => wrongType j .sequence

/-- A value that may also be null. -/
def readNullable {α : Type} (read : Json → Except ShapeError α) :
    Json → Except ShapeError (Option α)
  | .null => .ok none
  | j => (read j).map some

end Field

/-! ## (2) Drafts -/

/-- A **draft**: the fields of a request as far as they have been read. -/
structure Draft where
  clientId : Option ClientId
  titles : Option (List String)
  level : Option (Option UInt8)
  title : Option String
  checkExists : Option (Option Bool)
  start : Option UInt64
  stop : Option UInt64
  deriving DecidableEq, Repr

namespace Draft

/-- The draft without fields. -/
def empty : Draft := ⟨none, none, none, none, none, none, none⟩

/-- Whether a field has been read. -/
def has (d : Draft) : Field → Bool
  | .clientId => d.clientId.isSome
  | .titles => d.titles.isSome
  | .level => d.level.isSome
  | .title => d.title.isSome
  | .checkExists => d.checkExists.isSome
  | .start => d.start.isSome
  | .stop => d.stop.isSome

/-- Read a field. -/
def read (d : Draft) (field : Field) (j : Json) : Except ShapeError Draft :=
  match field with
  | .clientId => (Field.readClientId j).map fun v => { d with clientId := some v }
  | .titles => (Field.readTextList j).map fun v => { d with titles := some v }
  | .level => (Field.readNullable Field.readCode j).map fun v => { d with level := some v }
  | .title => (Field.readText j).map fun v => { d with title := some v }
  | .checkExists =>
    (Field.readNullable Field.readBool j).map fun v => { d with checkExists := some v }
  | .start => (Field.readPosition j).map fun v => { d with start := some v }
  | .stop => (Field.readPosition j).map fun v => { d with stop := some v }

/-- The value of a field that may not be missing. -/
def need {α : Type} (field : Field) : Option α → Except ShapeError α
  | some v => .ok v
  | none => .error (.missingField field.name)

/-- The page of a draft. -/
def page (d : Draft) : Except ShapeError Page := do
  let start ← need .start d.start
  let stop ← need .stop d.stop
  pure ⟨start, stop⟩

/-- The **request** of a draft; the first missing field is reported. -/
def complete (d : Draft) : Verb → Except ShapeError Request
  | .subscribe => do
    let client ← need .clientId d.clientId
    let titles ← need .titles d.titles
    pure (.subscribe client titles (d.level.getD none))
  | .unsubscribe => do
    let client ← need .clientId d.clientId
    let titles ← need .titles d.titles
    pure (.unsubscribe client titles)
  | .unsubscribeAll => do
    let client ← need .clientId d.clientId
    pure (.unsubscribeAll client)
  | .resolve => do
    let title ← need .title d.title
    pure (.resolve title (d.checkExists.getD none))
  | .plainTopics => do
    let page ← d.page
    pure (.plainTopics page)
  | .wildcardTopics => do
    let page ← d.page
    pure (.wildcardTopics page)
  | .topicSubscribers => do
    let title ← need .title d.title
    let page ← d.page
    pure (.topicSubscribers title page)
  | .clientSubscriptions => do
    let client ← need .clientId d.clientId
    let page ← d.page
    pure (.clientSubscriptions client page)

end Draft

/-! ## (3) From members and items to requests -/

namespace Verb

/-- Read members into a draft, in order. Members that are no field of the verb are passed over; a
field may be given once. -/
def readMembers (v : Verb) (d : Draft) : List (String × Json) → Except ShapeError Draft
  | [] => .ok d
  | (name, value) :: members =>
    match v.field? name with
    | none => v.readMembers d members
    | some field =>
      if d.has field then .error (.duplicateField field.name)
      else
        match d.read field value with
        | .error e => .error e
        | .ok d => v.readMembers d members

/-- The request that **members** describe. -/
def ofMembers (v : Verb) (members : List (String × Json)) : Except ShapeError Request :=
  match v.readMembers .empty members with
  | .error e => .error e
  | .ok d => d.complete v

/-- Read items into a draft, field by field; `total` is the number of all items. -/
def readItems (v : Verb) (total : Nat) (d : Draft) :
    List Field → List Json → Except ShapeError Draft
  | [], [] => .ok d
  | [], _ :: _ => .error (.tooManyItems total v)
  | field :: fields, [] =>
    if field.isOptional then v.readItems total d fields [] else .error (.tooFewItems total v)
  | field :: fields, item :: items =>
    match d.read field item with
    | .error e => .error e
    | .ok d => v.readItems total d fields items

/-- The request that **items** describe. -/
def ofItems (v : Verb) (items : List Json) : Except ShapeError Request :=
  match v.readItems items.length .empty v.fields items with
  | .error e => .error e
  | .ok d => d.complete v

end Verb

/-! ## (4) The text of a request -/

namespace Request

/-- The name of the member that holds the verb. -/
def tagName : String := "type"

/-- The depth left inside the array or object of the request itself. -/
def innerDepth : Nat := Json.maxDepth - 1

/-- The fault of a shape error. -/
def shapeFault {α : Type} (e : ShapeError) : Except Fault α := .error (.shape e)

/-- Report a malformed text. -/
def orMalformed {α : Type} : Option α → Except Fault α
  | some a => .ok a
  | none => .error .malformed

/-- The **verb**. An array or an object in its place is refused at its first character. -/
def readTag (cs : List Char) : Except Fault (Verb × List Char) :=
  match cs with
  | '[' :: _ => shapeFault (.invalidType .sequence .tag)
  | '\x7b' :: _ => shapeFault (.invalidType .map .tag)
  | cs =>
    match Json.readScalar cs with
    | none => .error .malformed
    | some (.string tag, rest) =>
      match Verb.ofTag? tag with
      | some verb => .ok (verb, rest)
      | none => shapeFault (.unknownVerb tag)
    | some (j, _) => shapeFault (.invalidType (.ofJson j) .tag)

/-- The members of the request's object up to and with its closing brace, the verb apart. The verb
may stand at any place, but once. -/
def readMembers (limit : Nat) :
    (steps : Nat) → Option Verb → List Char →
      Except Fault (Option Verb × List (String × Json) × List Char)
  | 0, _, _ => .error .malformed
  | steps + 1, verb, cs =>
    match Json.readName cs with
    | none => .error .malformed
    | some (name, rest) =>
      if name = tagName then
        if verb.isSome then shapeFault (.duplicateField tagName)
        else do
          let rest ← orMalformed (Json.readColon rest)
          let (verb, rest) ← readTag rest
          match Json.skipSpace rest with
          | ',' :: rest => readMembers limit steps (some verb) rest
          | '\x7d' :: rest => .ok (some verb, [], rest)
          | _ => .error .malformed
      else do
        let rest ← orMalformed (Json.readColon rest)
        let (value, rest) ← orMalformed (Json.read limit innerDepth rest)
        match Json.skipSpace rest with
        | ',' :: rest =>
          let (verb, members, rest) ← readMembers limit steps verb rest
          .ok (verb, (name, value) :: members, rest)
        | '\x7d' :: rest => .ok (verb, [(name, value)], rest)
        | _ => .error .malformed

/-- A request written as an **object**, after the opening brace. -/
def readObject (limit : Nat) (cs : List Char) : Except Fault (Request × List Char) := do
  let (verb, members, rest) ← match Json.skipSpace cs with
    | '\x7d' :: rest => .ok (none, [], rest)
    | cs => readMembers limit limit none cs
  match verb with
  | none => shapeFault (.missingField tagName)
  | some verb =>
    match verb.ofMembers members with
    | .error e => shapeFault e
    | .ok request => .ok (request, rest)

/-- A request written as an **array**, after the opening bracket. -/
def readArray (limit : Nat) (cs : List Char) : Except Fault (Request × List Char) :=
  match Json.skipSpace cs with
  | ']' :: _ => shapeFault (.missingField tagName)
  | cs => do
    let (verb, rest) ← readTag cs
    let (items, rest) ← match Json.skipSpace rest with
      | ',' :: rest => orMalformed (Json.readItems (Json.read limit innerDepth) ']' limit rest)
      | ']' :: rest => .ok ([], rest)
      | _ => .error .malformed
    match verb.ofItems items with
    | .error e => shapeFault e
    | .ok request => .ok (request, rest)

/-- **Decode** a line: the request that it is, or its first fault. -/
def decode (line : String) : Except Fault Request := do
  let cs := line.toList
  let (request, rest) ← match Json.skipSpace cs with
    | '\x7b' :: rest => readObject cs.length rest
    | '[' :: rest => readArray cs.length rest
    | cs =>
      match Json.readScalar cs with
      | none => .error .malformed
      | some (j, _) => shapeFault (.invalidType (.ofJson j) .request)
  if (Json.skipSpace rest).isEmpty then .ok request else .error .malformed

end Request

end PubSub
