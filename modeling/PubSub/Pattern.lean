import PubSub.Title.Segment

/-! # Title patterns

A list of segments denotes a set of texts: each segment contributes a separator and then a text of
its own. A `Pattern` is that set as a sequence of atoms, read left to right with a set of states.

* **`Atom`** — a fixed character, a word, or a path of words, and what may remain of the last two.
* **`Pattern.ofSegments`** — the pattern of a segment list; any text may be a literal.
* **`Pattern.accepts p candidate`** — whether the *whole* of `candidate` is one of the texts of `p`.
  A state is the list of atoms still to be read; one character advances every state in all ways it
  can (`Pattern.advance`), and equal states are kept once, so the work stays polynomial.
* **`Pattern.source`** — the pattern written as a regular expression. -/

namespace PubSub

/-! ## (1) Atoms -/

/-- The **atoms** of a pattern. -/
inductive Atom
  /-- Exactly this character. -/
  | char (c : Char)
  /-- One word. -/
  | word
  /-- What may remain of a word after its first character: any number of word characters. -/
  | wordRest
  /-- One or more words with separators between them. -/
  | path
  /-- What may remain of a path after its first character. -/
  | pathRest
  deriving DecidableEq, Repr

namespace Atom

/-- Whether the atom admits the empty text. -/
def isRest : Atom → Bool
  | wordRest | pathRest => true
  | char _ | word | path => false

end Atom

/-- The atoms that a segment stands for, without the separator in front. -/
def Segment.atoms : Segment → List Atom
  | .literal word => word.toList.map .char
  | .single => [.word]
  | .multi => [.path]

/-! ## (2) Patterns -/

/-- A **pattern**: the atoms to be read in order. -/
structure Pattern where
  /-- The atoms, first to last. -/
  atoms : List Atom
  deriving DecidableEq, Repr

namespace Pattern

/-- The pattern of a list of segments: each behind a separator. -/
def ofSegments (segments : List Segment) : Pattern :=
  ⟨segments.flatMap fun s => .char separator :: s.atoms⟩

@[simp] theorem atoms_ofSegments_nil : (ofSegments []).atoms = [] := rfl

/-- The first segment puts a separator and its atoms in front of the others. -/
@[simp] theorem atoms_ofSegments_cons (s : Segment) (ss : List Segment) :
    (ofSegments (s :: ss)).atoms = .char separator :: (s.atoms ++ (ofSegments ss).atoms) := by
  simp [ofSegments]

/-! ## (3) Reading a candidate -/

/-- The states that reading `c` leads to from the state `atoms`. An atom that admits the empty text
may also be passed over. -/
def advance (c : Char) : List Atom → List (List Atom)
  | [] => []
  | .char d :: rest => if c = d then [rest] else []
  | .word :: rest => if isWordChar c then [.wordRest :: rest] else []
  | .wordRest :: rest => (if isWordChar c then [.wordRest :: rest] else []) ++ advance c rest
  | .path :: rest => if isWordChar c then [.pathRest :: rest] else []
  | .pathRest :: rest =>
    (if isWordChar c then [.pathRest :: rest] else []) ++
      (if c = separator then [.path :: rest] else []) ++ advance c rest

/-- The states that reading `c` leads to from any of `states`, each once. -/
def advanceAll (c : Char) (states : List (List Atom)) : List (List Atom) :=
  (states.flatMap (advance c)).eraseDups

/-- The states that reading all of `cs` leads to. -/
def run (states : List (List Atom)) (cs : List Char) : List (List Atom) :=
  cs.foldl (fun states c => advanceAll c states) states

/-- Whether nothing more has to be read in this state. -/
def isFinal (atoms : List Atom) : Bool := atoms.all Atom.isRest

/-- **Acceptance**: the whole candidate is a text of the pattern. -/
def accepts (p : Pattern) (candidate : String) : Bool :=
  (run [p.atoms] candidate.toList).any isFinal

/-! ## (4) The written form -/

/-- The characters that are written behind a backslash. -/
def isMeta (c : Char) : Bool :=
  ['\\', '.', '+', '*', '?', '(', ')', '|', '[', ']', '\x7b', '\x7d', '^', '$', '#', '&', '-',
    '~'].contains c

/-- The written form of an atom. -/
def sourceOfAtom : Atom → String
  | .char c => if isMeta c then String.ofList ['\\', c] else String.ofList [c]
  | .word => "[0-9a-zA-Z_\\-]+"
  | .wordRest => "[0-9a-zA-Z_\\-]*"
  | .path => "([0-9a-zA-Z_\\-]+/)*[0-9a-zA-Z_\\-]+"
  | .pathRest => "[0-9a-zA-Z_\\-]*(/[0-9a-zA-Z_\\-]+)*"

/-- The pattern as a regular expression, anchored at both ends of the text. -/
def source (p : Pattern) : String := "^" ++ String.join (p.atoms.map sourceOfAtom) ++ "$"

end Pattern

end PubSub
