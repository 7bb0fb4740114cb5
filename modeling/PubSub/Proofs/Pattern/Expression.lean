import PubSub.Pattern
import Mathlib.Computability.Language

/-! # Regular expressions

The written form of a pattern is a regular expression. This file reads it as one: it says what the
signs mean, without reference to patterns, and what comes of the written form of each atom.

* **`Expression`** — regular expressions; **`Expression.language`** — the texts that they match.
* **`Expression.ofText`** — the expression that a text is, between anchors at both ends. It reads
  the signs that patterns are written with, and refuses all others.
* **`Expression.read_sourceOfAtom`** — the written form of an atom is read as `Atom.items`, whatever
  comes before and after; **`Expression.ofText_source`** — so is that of a pattern. -/

namespace PubSub

open scoped Computability

/-! ## (1) Expressions -/

/-- The **regular expressions** that patterns are written as. -/
inductive Expression
  /-- One character, which is in one of the ranges; both ends belong to a range. -/
  | oneOf (ranges : List (Char × Char))
  /-- The empty text. -/
  | empty
  /-- One expression and then another. -/
  | append (first second : Expression)
  /-- An expression any number of times. -/
  | star (e : Expression)
  deriving DecidableEq, Repr

namespace Expression

/-- The texts that **match** an expression. -/
def language : Expression → Language Char
  | oneOf ranges => {cs | ∃ c, cs = [c] ∧ ∃ range ∈ ranges, range.1 ≤ c ∧ c ≤ range.2}
  | empty => 1
  | append first second => first.language * second.language
  | star e => e.language∗

/-- This character. -/
def char (c : Char) : Expression := oneOf [(c, c)]

/-- An expression once or more often. -/
def plus (e : Expression) : Expression := append e (star e)

/-- Items one after the other; the last item is the first of the list. -/
def group (items : List Expression) : Expression :=
  items.foldl (fun e item => append item e) empty

/-! ## (2) Reading -/

mutual

/-- Read the text behind `items`, with the items before each **open group** in `outer`. Characters
without a meaning stand for themselves, and so do those with one behind a backslash. -/
def read (items : List Expression) (outer : List (List Expression)) :
    List Char → Option Expression
  | [] => none
  | c :: rest =>
    if Pattern.isMeta c then
      match c, rest with
      | '\\', d :: rest => if Pattern.isMeta d then read (char d :: items) outer rest else none
      | '[', rest => readClass items outer [] rest
      | '(', rest => read [] (items :: outer) rest
      | ')', rest =>
        match outer with
        | [] => none
        | before :: outer => read (group items :: before) outer rest
      | '*', rest =>
        match items with
        | [] => none
        | e :: items => read (star e :: items) outer rest
      | '+', rest =>
        match items with
        | [] => none
        | e :: items => read (plus e :: items) outer rest
      | '$', [] => if outer.isEmpty then some (group items) else none
      | _, _ => none
    else read (char c :: items) outer rest

/-- Read the rest of a **class** of characters, and then what is behind it. -/
def readClass (items : List Expression) (outer : List (List Expression))
    (ranges : List (Char × Char)) : List Char → Option Expression
  | [] => none
  | c :: rest =>
    if Pattern.isMeta c then
      match c, rest with
      | ']', rest =>
        if ranges.isEmpty then none else read (oneOf ranges.reverse :: items) outer rest
      | '\\', d :: rest =>
        if Pattern.isMeta d then readClass items outer ((d, d) :: ranges) rest else none
      | _, _ => none
    else
      match rest with
      | '-' :: d :: rest =>
        if Pattern.isMeta d || d < c then none else readClass items outer ((c, d) :: ranges) rest
      | rest => readClass items outer ((c, c) :: ranges) rest

end

/-- The expression that a text is, between the anchors. -/
def ofText (text : String) : Option Expression :=
  match text.toList with
  | '^' :: rest => read [] [] rest
  | _ => none

/-! ## (3) What each sign does -/

section Signs

variable (items : List Expression) (outer : List (List Expression)) (ranges : List (Char × Char))
  (rest : List Char)

/-- A character without a meaning stands for itself. -/
theorem read_plain {c : Char} (h : Pattern.isMeta c = false) :
    read items outer (c :: rest) = read (char c :: items) outer rest := by
  rw [read.eq_def]
  simp only [h, Bool.false_eq_true, if_false]

/-- A character with a meaning stands for itself behind a backslash. -/
theorem read_escaped {c : Char} (h : Pattern.isMeta c = true) :
    read items outer ('\\' :: c :: rest) = read (char c :: items) outer rest := by
  rw [read, if_pos (by rfl)]
  exact if_pos h

/-- A bracket begins a class. -/
theorem read_openClass :
    read items outer ('[' :: rest) = readClass items outer [] rest := by
  rw [read, if_pos (by rfl)]

/-- A parenthesis begins a group; the items before it wait until the group ends. -/
theorem read_openGroup :
    read items outer ('(' :: rest) = read [] (items :: outer) rest := by
  rw [read, if_pos (by rfl)]

/-- The group that ends is one item, behind those that have waited. -/
theorem read_closeGroup (before : List Expression) :
    read items (before :: outer) (')' :: rest) = read (group items :: before) outer rest := by
  rw [read, if_pos (by rfl)]

/-- A star belongs to the last item. -/
theorem read_star (e : Expression) :
    read (e :: items) outer ('*' :: rest) = read (star e :: items) outer rest := by
  rw [read, if_pos (by rfl)]

/-- So does a plus. -/
theorem read_plus (e : Expression) :
    read (e :: items) outer ('+' :: rest) = read (plus e :: items) outer rest := by
  rw [read, if_pos (by rfl)]

/-- The expression ends with the anchor, outside of all groups. -/
theorem read_end : read items [] ['$'] = some (group items) := by
  rw [read, if_pos (by rfl)]
  rfl

/-- Two characters with a hyphen between them are a range of a class. -/
theorem readClass_range {c d : Char} (hc : Pattern.isMeta c = false)
    (hd : Pattern.isMeta d = false) (h : c ≤ d) :
    readClass items outer ranges (c :: '-' :: d :: rest) =
      readClass items outer ((c, d) :: ranges) rest := by
  have hlt : ¬d < c := Char.not_lt.mpr h
  rw [readClass.eq_def]
  simp [hc, hd, hlt]

/-- A character of a class without a hyphen behind it stands for itself. -/
theorem readClass_plain {c d : Char} (hc : Pattern.isMeta c = false) (hd : d ≠ '-') :
    readClass items outer ranges (c :: d :: rest) =
      readClass items outer ((c, c) :: ranges) (d :: rest) := by
  rw [readClass.eq_def]
  simp [hc, hd]

/-- So does one behind a backslash. -/
theorem readClass_escaped {c : Char} (h : Pattern.isMeta c = true) :
    readClass items outer ranges ('\\' :: c :: rest) =
      readClass items outer ((c, c) :: ranges) rest := by
  rw [readClass, if_pos (by rfl)]
  exact if_pos h

/-- The class that ends is one item, with its ranges in the order in which they have been read. -/
theorem readClass_close (range : Char × Char) :
    readClass items outer (range :: ranges) (']' :: rest) =
      read (oneOf (range :: ranges).reverse :: items) outer rest := by
  rw [readClass, if_pos (by rfl)]
  rfl

/-! ## (4) The written form of patterns -/

/-- The characters of words, as a class. -/
def wordChar : Expression := oneOf [('0', '9'), ('a', 'z'), ('A', 'Z'), ('_', '_'), ('-', '-')]

/-- The class of the characters of words, as it is written. -/
def wordCharSource : List Char := "[0-9a-zA-Z_\\-]".toList

/-- **The class of the characters of words** is read as one item. -/
theorem read_wordCharSource :
    read items outer (wordCharSource ++ rest) = read (wordChar :: items) outer rest := by
  have hsigns : wordCharSource = ['[', '0', '-', '9', 'a', '-', 'z', 'A', '-', 'Z', '_', '\\', '-',
    ']'] := by rfl
  simp only [hsigns, List.cons_append, List.nil_append]
  rw [read_openClass, readClass_range _ _ _ _ (by rfl) (by rfl) (by decide),
    readClass_range _ _ _ _ (by rfl) (by rfl) (by decide),
    readClass_range _ _ _ _ (by rfl) (by rfl) (by decide),
    readClass_plain _ _ _ _ (by rfl) (by decide), readClass_escaped _ _ _ _ (by rfl),
    readClass_close]
  rfl

end Signs

end Expression

/-- The expressions that an atom is written as, in order. -/
def Atom.items : Atom → List Expression
  | .char c => [.char c]
  | .word => [.plus .wordChar]
  | .wordRest => [.star .wordChar]
  | .path => [.star (.group [.char separator, .plus .wordChar]), .plus .wordChar]
  | .pathRest => [.star .wordChar, .star (.group [.plus .wordChar, .char separator])]

namespace Expression

/-- **The written form of an atom** is read as its items, wherever it stands. -/
theorem read_sourceOfAtom (items : List Expression) (outer : List (List Expression)) (a : Atom)
    (rest : List Char) :
    read items outer ((Pattern.sourceOfAtom a).toList ++ rest) =
      read (a.items.reverse ++ items) outer rest := by
  cases a with
  | char c =>
    rw [Pattern.sourceOfAtom]
    split
    next h =>
      rw [String.toList_ofList]
      exact read_escaped items outer rest h
    next h =>
      rw [String.toList_ofList]
      exact read_plain items outer rest (Bool.eq_false_iff.mpr h)
  | word =>
    have hsource : (Pattern.sourceOfAtom .word).toList = wordCharSource ++ ['+'] := by rfl
    rw [hsource, List.append_assoc, read_wordCharSource]
    exact read_plus items outer rest wordChar
  | wordRest =>
    have hsource : (Pattern.sourceOfAtom .wordRest).toList = wordCharSource ++ ['*'] := by rfl
    rw [hsource, List.append_assoc, read_wordCharSource]
    exact read_star items outer rest wordChar
  | path =>
    have hsource : (Pattern.sourceOfAtom .path).toList =
        '(' :: (wordCharSource ++ '+' :: '/' :: ')' :: '*' :: (wordCharSource ++ ['+'])) := by rfl
    simp only [hsource, List.cons_append, List.append_assoc, List.nil_append]
    rw [read_openGroup, read_wordCharSource, read_plus, read_plain _ _ _ (by rfl),
      read_closeGroup, read_star, read_wordCharSource, read_plus]
    rfl
  | pathRest =>
    have hsource : (Pattern.sourceOfAtom .pathRest).toList =
        wordCharSource ++ '*' :: '(' :: '/' :: (wordCharSource ++ ['+', ')', '*']) := by rfl
    simp only [hsource, List.cons_append, List.append_assoc, List.nil_append]
    rw [read_wordCharSource, read_star, read_openGroup, read_plain _ _ _ (by rfl),
      read_wordCharSource, read_plus, read_closeGroup, read_star]
    rfl

/-- **The written form of a pattern** is read as the items of its atoms. -/
theorem ofText_source (p : Pattern) :
    ofText p.source = some (group (p.atoms.flatMap Atom.items).reverse) := by
  have hread (items : List Expression) (atoms : List Atom) :
      read items [] ((String.join (atoms.map Pattern.sourceOfAtom)).toList ++ ['$']) =
        some (group ((atoms.flatMap Atom.items).reverse ++ items)) := by
    induction atoms generalizing items with
    | nil => exact read_end items
    | cons a atoms ih =>
      rw [List.map_cons, String.join_cons, String.toList_append, List.append_assoc,
        read_sourceOfAtom, ih, List.flatMap_cons, List.reverse_append, List.append_assoc]
  have hsource : p.source.toList =
      '^' :: ((String.join (p.atoms.map Pattern.sourceOfAtom)).toList ++ ['$']) := by
    rw [Pattern.source, String.toList_append, String.toList_append]
    rfl
  rw [ofText, hsource]
  exact (hread [] p.atoms).trans (by rw [List.append_nil])

end Expression

end PubSub
