import PubSub.Settings.Toml.Scalar

/-! # TOML documents

A TOML document is built line by line. Until it is complete, its tables remember how they came to be,
because that decides what may still be added to them.

* **`TomlNode`** — a part of a document under construction.
* **`TomlEntries.define`, `TomlEntries.append`, `TomlEntries.assign`** — what a table header, a header
  of a list of tables and a key with a value do to a document; `none` if the document forbids it.
* **`TomlNode.toSetting?`**, **`TomlEntries.toSetting?`** — a finished part, and a finished table, as a
  setting; `none` if a table claims to be a date or time and is none. -/

namespace PubSub

/-- How a table **came to be**. -/
inductive TableOrigin
  /-- As a step of a longer header, and of nothing else. -/
  | implied
  /-- As a step of a dotted key, or as one of a header that was a step of a dotted key later. -/
  | dotted
  /-- By a header of its own. -/
  | header
  /-- Between braces, where it is complete. -/
  | inline
  deriving DecidableEq, Repr

/-- A **part of a document** under construction. -/
inductive TomlNode
  /-- A text, a number or a truth value. -/
  | value (v : Setting)
  /-- A date, a time of day, or both. -/
  | moment (text : List Char)
  /-- A list between brackets, where it is complete. -/
  | list (items : List TomlNode)
  /-- A table. -/
  | table (origin : TableOrigin) (entries : List (String × TomlNode))
  /-- A list of tables; the last one is open. -/
  | tables (items : List (List (String × TomlNode)))

/-- The entries of a table under construction. -/
abbrev TomlEntries := List (String × TomlNode)

namespace TomlEntries

/-- The node of a name. -/
def find? (es : TomlEntries) (name : String) : Option TomlNode :=
  (List.find? (fun entry => entry.1 == name) es).map (·.2)

/-- Put a node under a name. -/
def put (es : TomlEntries) (name : String) (node : TomlNode) : TomlEntries :=
  if es.any fun entry => entry.1 == name then
    es.map fun entry => if entry.1 == name then (name, node) else entry
  else es ++ [(name, node)]

/-- Change the table that a header names, making tables on the way. In a list of tables the way goes
on in the last one. -/
def modifyAt (f : TomlEntries → Option TomlEntries) : List String → TomlEntries → Option TomlEntries
  | [], es => f es
  | name :: path, es =>
    match find? es name with
    | none => (modifyAt f path []).map fun sub => put es name (.table .implied sub)
    | some (.table .inline _) => none
    | some (.table origin sub) => (modifyAt f path sub).map fun sub => put es name (.table origin sub)
    | some (.tables items) =>
      (modifyAt f path (items.getLast?.getD [])).map fun last =>
        put es name (.tables (items.dropLast ++ [last]))
    | some _ => none

/-- Give a table its header. A table may have one header; one made by dotted keys may have none. -/
def defineLast (name : String) (es : TomlEntries) : Option TomlEntries :=
  match find? es name with
  | none => some (put es name (.table .header []))
  | some (.table .implied sub) => some (put es name (.table .header sub))
  | some _ => none

/-- Append an empty table to a list of tables. -/
def appendLast (name : String) (es : TomlEntries) : Option TomlEntries :=
  match find? es name with
  | none => some (put es name (.tables [[]]))
  | some (.tables items) => some (put es name (.tables (items ++ [[]])))
  | some _ => none

/-- **Table header**: begin the table that the path names. -/
def define (path : List String) (es : TomlEntries) : Option TomlEntries :=
  match path.getLast? with
  | none => none
  | some name => modifyAt (defineLast name) path.dropLast es

/-- **Header of a list of tables**: begin one more table of the list that the path names. -/
def append (path : List String) (es : TomlEntries) : Option TomlEntries :=
  match path.getLast? with
  | none => none
  | some name => modifyAt (appendLast name) path.dropLast es

/-- **Key and value** in a table: the last name must be new. Tables on the way of a dotted key must not
have headers or braces, and count as made by it from then on. In a list of tables the way goes on in
the last one, but may not end there. -/
def assign (v : TomlNode) : List String → TomlEntries → Option TomlEntries
  | [], _ => none
  | [name], es =>
    match find? es name with
    | none => some (put es name v)
    | some _ => none
  | name :: path, es =>
    match find? es name with
    | none => (assign v path []).map fun sub => put es name (.table .dotted sub)
    | some (.table .header _) | some (.table .inline _) => none
    | some (.table _ sub) => (assign v path sub).map fun sub => put es name (.table .dotted sub)
    | some (.tables items) =>
      if path.length < 2 then none
      else
        (assign v path (items.getLast?.getD [])).map fun last =>
          put es name (.tables (items.dropLast ++ [last]))
    | some _ => none

/-- A key and a value under the header `path`. -/
def assignUnder (path key : List String) (v : TomlNode) (es : TomlEntries) : Option TomlEntries :=
  modifyAt (assign v key) path es

/-! ## Finished tables -/

/-- The name that makes a table stand for a **moment**, given by the text under it. -/
def momentName : String := "$__toml_private_datetime"

/-- Whether a table stands for a moment: the name says so if no other comes before it in the order of
names. -/
def marksMoment (es : TomlEntries) : Bool :=
  (find? es momentName).isSome && es.all fun entry => !(entry.1 < momentName)

/-- The moment that a table stands for. -/
def moment? (es : TomlEntries) : Option (List Char) :=
  match find? es momentName with
  | some (.value (.text s)) => Toml.moment? s.toList
  | _ => none

/-- What a table stands for, of which the entries are the settings given: a moment or a table. -/
def settle (es : TomlEntries) (settings : Option (List (String × Setting))) : Option Setting :=
  if marksMoment es then (moment? es).map fun text => .text (String.ofList text)
  else settings.map .table

end TomlEntries

mutual

/-- The **setting** that a finished part is. -/
def TomlNode.toSetting? : TomlNode → Option Setting
  | .value v => some v
  | .moment text => some (.text (String.ofList text))
  | .list items => (nodesToSettings? items).map .list
  | .table _ entries => TomlEntries.settle entries (entriesToSettings? entries)
  | .tables items => (tablesToSettings? items).map .list

/-- The items of a finished list. -/
def nodesToSettings? : List TomlNode → Option (List Setting)
  | [] => some []
  | node :: rest =>
    match node.toSetting?, nodesToSettings? rest with
    | some v, some vs => some (v :: vs)
    | _, _ => none

/-- The entries of a finished table. -/
def entriesToSettings? : List (String × TomlNode) → Option (List (String × Setting))
  | [] => some []
  | (name, node) :: rest =>
    match node.toSetting?, entriesToSettings? rest with
    | some v, some vs => some ((name, v) :: vs)
    | _, _ => none

/-- The tables of a finished list of tables. -/
def tablesToSettings? : List (List (String × TomlNode)) → Option (List Setting)
  | [] => some []
  | entries :: rest =>
    match TomlEntries.settle entries (entriesToSettings? entries), tablesToSettings? rest with
    | some v, some vs => some (v :: vs)
    | _, _ => none

end

/-- The **setting** that a finished table is. -/
def TomlEntries.toSetting? (es : TomlEntries) : Option Setting := settle es (entriesToSettings? es)

end PubSub
