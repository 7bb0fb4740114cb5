import PubSub.Protocol.Decoding
import Mathlib.Data.List.DropRight

/-! # Requests and whole values

A request is decoded while its text is read, without a value of the whole. Where the text is an
object or an array that names its verb, it is decoded as this value.

* **`Json.readItems_succ_eq_some_iff`** — what a successful reading of items has met.
* **`Request.readMembers_of_readItems`** — the members of an object, the verb apart.
* **`Request.decode_of_parse?_object`**, **`Request.decode_of_parse?_array`** — the request of a
  text is the request of its value. -/

namespace PubSub

/-! ## (1) What a reader has met -/

namespace Json

/-- White space is skipped once and for all. -/
@[simp] theorem skipSpace_skipSpace (cs : List Char) : skipSpace (skipSpace cs) = skipSpace cs :=
  List.dropWhile_idempotent isSpace cs

/-- White space before a name makes no difference. -/
@[simp] theorem readName_skipSpace (cs : List Char) : readName (skipSpace cs) = readName cs := by
  rw [readName, readName, skipSpace_skipSpace]

section ReadItems

variable {α : Type} {item : ItemReader α} {close : Char} (hclose : close ≠ ',')
  {cs rest : List Char} {xs : List α}
include hclose

/-- Items that are read **begin with one item**; after it comes the closing character, or a comma
and further items. -/
theorem readItems_succ_eq_some_iff {limit : Nat} :
    readItems item close (limit + 1) cs = some (xs, rest) ↔
      ∃ x after, item (skipSpace cs) = some (x, after) ∧
        ((skipSpace after = close :: rest ∧ xs = [x]) ∨
          ∃ next ys, skipSpace after = ',' :: next ∧
            readItems item close limit next = some (ys, rest) ∧ xs = x :: ys) := by
  rw [readItems]
  constructor
  · intro h
    cases hitem : item (skipSpace cs) with
    | none => rw [hitem] at h; cases h
    | some read =>
      obtain ⟨x, after⟩ := read
      rw [hitem] at h
      refine ⟨x, after, rfl, ?_⟩
      simp only at h
      -- Behind an item comes a comma, another character, or nothing.
      split at h
      next next hcomma =>
        obtain ⟨⟨ys, rest'⟩, hread, heq⟩ := Option.map_eq_some_iff.mp h
        cases heq
        exact Or.inr ⟨next, ys, hcomma, hread, rfl⟩
      next c next _ hnext =>
        by_cases hc : c = close
        · rw [if_pos hc] at h
          cases h
          exact Or.inl ⟨hc ▸ hnext, rfl⟩
        · rw [if_neg hc] at h
          cases h
      next => cases h
  · rintro ⟨x, after, hitem, ⟨hend, rfl⟩ | ⟨next, ys, hcomma, hread, rfl⟩⟩
    · simp [hitem, hend]
    · simp [hitem, hcomma, hread]

/-- A greater limit reads the same items. -/
theorem readItems_succ {limit : Nat} (h : readItems item close limit cs = some (xs, rest)) :
    readItems item close (limit + 1) cs = some (xs, rest) := by
  induction limit generalizing cs xs with
  | zero => cases h
  | succ limit ih =>
    obtain ⟨x, after, hitem, hafter⟩ := (readItems_succ_eq_some_iff hclose).mp h
    refine (readItems_succ_eq_some_iff hclose).mpr ⟨x, after, hitem, ?_⟩
    exact hafter.imp_right fun ⟨next, ys, hcomma, hread, heq⟩ => ⟨next, ys, hcomma, ih hread, heq⟩

end ReadItems

/-- A member that is read is a name, a colon and a value. -/
theorem readMember_eq_some_iff {value : ItemReader Json} {cs rest : List Char} {name : String}
    {j : Json} :
    readMember value cs = some ((name, j), rest) ↔
      ∃ colon before, readName cs = some (name, colon) ∧ readColon colon = some before ∧
        value before = some (j, rest) := by
  simp only [readMember, Option.bind_eq_bind, Option.bind_eq_some_iff, Option.pure_def,
    Option.some.injEq, Prod.mk.injEq, Prod.exists]
  constructor
  · rintro ⟨_, colon, hname, before, hcolon, _, _, hvalue, ⟨rfl, rfl⟩, rfl⟩
    exact ⟨colon, before, hname, hcolon, hvalue⟩
  · rintro ⟨colon, before, hname, hcolon, hvalue⟩
    exact ⟨name, colon, hname, before, hcolon, j, rest, hvalue, ⟨rfl, rfl⟩, rfl⟩

/-- A value that is read as a scalar has no items or members. -/
theorem isComposite_of_readScalar {cs rest : List Char} {j : Json}
    (h : readScalar cs = some (j, rest)) : j.isComposite = false := by
  unfold readScalar at h
  split at h
  all_goals
    obtain ⟨read, -, heq⟩ := Option.map_eq_some_iff.mp h
    cases heq
    rfl

/-- A value that is read, below the greatest depth, is an array, an object or a scalar. -/
theorem read_succ_cases {limit depth : Nat} {cs rest : List Char} {j : Json}
    (h : read limit (depth + 1) cs = some (j, rest)) :
    (∃ next items, cs = '[' :: next ∧ j = .array items ∧
      readSequence (read limit depth) ']' limit next = some (items, rest)) ∨
    (∃ next members, cs = '\x7b' :: next ∧ j = .object members ∧
      readSequence (readMember (read limit depth)) '\x7d' limit next = some (members, rest)) ∨
    readScalar cs = some (j, rest) := by
  rw [read.eq_def] at h
  simp only at h
  split at h
  next next =>
    obtain ⟨⟨items, rest'⟩, hread, heq⟩ := Option.map_eq_some_iff.mp h
    cases heq
    exact Or.inl ⟨next, items, rfl, rfl, hread⟩
  next next =>
    obtain ⟨⟨members, rest'⟩, hread, heq⟩ := Option.map_eq_some_iff.mp h
    cases heq
    exact Or.inr (Or.inl ⟨next, members, rfl, rfl, hread⟩)
  next => exact Or.inr (Or.inr h)

/-- A value that is read as a scalar begins neither an array nor an object. -/
theorem readScalar_of_read {limit depth : Nat} {cs rest : List Char} {j : Json}
    (hj : j.isComposite = false) (h : read limit depth cs = some (j, rest)) :
    readScalar cs = some (j, rest) ∧ (∀ next, cs ≠ '[' :: next) ∧ ∀ next, cs ≠ '\x7b' :: next := by
  -- Behind a bracket or a brace only an array or an object is read.
  have hopen : ∀ next, cs ≠ '[' :: next ∧ cs ≠ '\x7b' :: next := by
    refine fun next => ⟨?_, ?_⟩
    all_goals
      rintro rfl
      cases depth with
      | zero => simp [read] at h
      | succ depth =>
        rw [read, Option.map_eq_some_iff] at h
        obtain ⟨read, -, heq⟩ := h
        cases heq
        cases hj
  refine ⟨?_, fun next => (hopen next).1, fun next => (hopen next).2⟩
  rw [← h]
  cases depth with
  | zero =>
    rw [read]
    · exact fun next => (hopen next).1
    · exact fun next => (hopen next).2
  | succ depth =>
    rw [read]
    · exact fun next => (hopen next).1
    · exact fun next => (hopen next).2

/-- A value that is read as an array begins with its bracket. -/
theorem exists_of_read_array {limit depth : Nat} {cs rest : List Char} {items : List Json}
    (h : read limit (depth + 1) cs = some (.array items, rest)) :
    ∃ next, cs = '[' :: next ∧
      readSequence (read limit depth) ']' limit next = some (items, rest) := by
  obtain ⟨next, _, hcs, heq, hread⟩ | ⟨_, _, _, heq, _⟩ | hscalar := read_succ_cases h
  · cases heq
    exact ⟨next, hcs, hread⟩
  · cases heq
  · cases isComposite_of_readScalar hscalar

/-- A value that is read as an object begins with its brace. -/
theorem exists_of_read_object {limit depth : Nat} {cs rest : List Char}
    {members : List (String × Json)}
    (h : read limit (depth + 1) cs = some (.object members, rest)) :
    ∃ next, cs = '\x7b' :: next ∧
      readSequence (readMember (read limit depth)) '\x7d' limit next = some (members, rest) := by
  obtain ⟨_, _, _, heq, _⟩ | ⟨next, _, hcs, heq, hread⟩ | hscalar := read_succ_cases h
  · cases heq
  · cases heq
    exact ⟨next, hcs, hread⟩
  · cases isComposite_of_readScalar hscalar

/-- A sequence that is read and is not empty does not begin with the closing character. -/
theorem exists_of_readSequence {α : Type} {item : ItemReader α} {close : Char} {limit : Nat}
    {cs rest : List Char} {xs : List α} (hne : xs ≠ [])
    (h : readSequence item close limit cs = some (xs, rest)) :
    ∃ c next, skipSpace cs = c :: next ∧ c ≠ close ∧
      readItems item close limit (c :: next) = some (xs, rest) := by
  rw [readSequence] at h
  split at h
  next c next hnext =>
    by_cases hc : c = close
    · rw [if_pos hc] at h
      cases h
      exact absurd rfl hne
    · rw [if_neg hc] at h
      exact ⟨c, next, hnext, hc, h⟩
  next => cases h

/-- A whole text that is parsed is a value with blanks around it. -/
theorem exists_of_parse? {cs : List Char} {j : Json} (h : parse? cs = some j) :
    ∃ rest, read cs.length maxDepth (skipSpace cs) = some (j, rest) ∧
      (skipSpace rest).isEmpty = true := by
  rw [parse?] at h
  split at h
  next j' rest hread =>
    by_cases hrest : (skipSpace rest).isEmpty = true
    · rw [if_pos hrest] at h
      cases h
      exact ⟨rest, hread, hrest⟩
    · rw [if_neg hrest] at h
      cases h
  next => cases h

end Json

/-! ## (2) Verbs, objects and arrays -/

namespace Request

/-- A tag that is read as a value is read as the verb. -/
theorem readTag_of_read {limit depth : Nat} {cs rest : List Char} {v : Verb}
    (h : Json.read limit depth cs = some (.string v.tag, rest)) : readTag cs = .ok (v, rest) := by
  obtain ⟨hscalar, hbracket, hbrace⟩ := Json.readScalar_of_read rfl h
  rw [readTag, hscalar]
  · simp
  · exact hbracket
  · exact hbrace

section ReadMembers

variable {limit steps : Nat} {cs rest : List Char} {members : List (String × Json)}

/-- **Members without the verb** are read as the members of a value. -/
theorem readMembers_of_readItems {verb : Option Verb}
    (h : Json.readItems (Json.readMember (Json.read limit innerDepth)) '\x7d' steps cs =
      some (members, rest))
    (hnone : ∀ member ∈ members, member.1 ≠ tagName) :
    readMembers limit steps verb cs = .ok (verb, members, rest) := by
  induction steps generalizing cs members with
  | zero => cases h
  | succ steps ih =>
    obtain ⟨⟨name, value⟩, after, hmember, hafter⟩ :=
      (Json.readItems_succ_eq_some_iff (by decide)).mp h
    obtain ⟨colon, before, hname, hcolon, hvalue⟩ := Json.readMember_eq_some_iff.mp hmember
    rw [Json.readName_skipSpace] at hname
    -- This member is the last one, or a comma and further members follow it.
    obtain ⟨hend, rfl⟩ | ⟨next, ys, hcomma, hread, rfl⟩ := hafter
    · have hne : name ≠ tagName := hnone _ (List.mem_cons_self ..)
      rw [readMembers, hname]
      simp [hne, hcolon, hvalue, hend, orMalformed, bind, Except.bind]
    · obtain ⟨hne, hnone⟩ := List.forall_mem_cons.mp hnone
      rw [readMembers, hname]
      simp [show name ≠ tagName from hne, hcolon, hvalue, hcomma, orMalformed, bind, Except.bind,
        ih hread hnone]

/-- **Members with the verb among them**: it is told apart from the others. -/
theorem readMembers_of_readItems_tag {v : Verb} {before after : List (String × Json)}
    (h : Json.readItems (Json.readMember (Json.read limit innerDepth)) '\x7d' steps cs =
      some (before ++ (tagName, .string v.tag) :: after, rest))
    (hbefore : ∀ member ∈ before, member.1 ≠ tagName)
    (hafter : ∀ member ∈ after, member.1 ≠ tagName) :
    readMembers limit steps none cs = .ok (some v, before ++ after, rest) := by
  induction steps generalizing cs before with
  | zero => cases h
  | succ steps ih =>
    obtain ⟨⟨name, value⟩, next, hmember, hnext⟩ :=
      (Json.readItems_succ_eq_some_iff (by decide)).mp h
    obtain ⟨colon, start, hname, hcolon, hvalue⟩ := Json.readMember_eq_some_iff.mp hmember
    rw [Json.readName_skipSpace] at hname
    cases before with
    | nil =>
      -- The verb is here, and is in none of the members behind it.
      rw [List.nil_append] at hnext
      obtain ⟨hend, heq⟩ | ⟨rest', ys, hcomma, hread, heq⟩ := hnext
      · cases heq
        rw [readMembers, hname]
        simp [hcolon, readTag_of_read hvalue, hend, orMalformed, bind, Except.bind]
      · cases heq
        have hmembers : readMembers limit steps (some v) rest' = .ok (some v, after, rest) :=
          readMembers_of_readItems hread hafter
        rw [readMembers, hname]
        simp [hcolon, readTag_of_read hvalue, hcomma, hmembers, orMalformed, bind, Except.bind]
    | cons member before =>
      rw [List.cons_append] at hnext
      obtain ⟨hend, heq⟩ | ⟨rest', ys, hcomma, hread, heq⟩ := hnext
      · -- The verb is still to come, so this member is not the last one.
        cases before <;> cases heq
      · cases heq
        obtain ⟨hne, hbefore⟩ := List.forall_mem_cons.mp hbefore
        rw [readMembers, hname]
        simp [show name ≠ tagName from hne, hcolon, hvalue, hcomma, orMalformed, bind, Except.bind,
          ih hread hbefore]

end ReadMembers

/-! ## (3) Whole texts -/

/-- A fault of shape, as the fault of a line. -/
def ofShape {α : Type} : Except ShapeError α → Except Fault α
  | .ok a => .ok a
  | .error e => shapeFault e

section Sequence

variable {limit : Nat} {cs rest : List Char} {v : Verb}

/-- **A tagged object is read as it comes**: what its members say if the tag stands in any one
place. -/
theorem readObject_of_readSequence {before after : List (String × Json)}
    (h : Json.readSequence (Json.readMember (Json.read limit innerDepth)) '\x7d' limit cs =
      some (before ++ (tagName, .string v.tag) :: after, rest))
    (hbefore : ∀ member ∈ before, member.1 ≠ tagName)
    (hafter : ∀ member ∈ after, member.1 ≠ tagName) :
    readObject limit cs = (ofShape (v.ofMembers (before ++ after))).map (·, rest) := by
  obtain ⟨c, next, hnext, hc, hitems⟩ := Json.exists_of_readSequence (by simp) h
  have hmembers := readMembers_of_readItems_tag hitems hbefore hafter
  cases hv : v.ofMembers (before ++ after) <;>
    simp [readObject, hnext, hc, hmembers, hv, ofShape, shapeFault, bind, Except.bind, Except.map]

/-- **A tagged array is read as it comes**: its tag, and then the items. -/
theorem readArray_of_readSequence {items : List Json}
    (h : Json.readSequence (Json.read limit innerDepth) ']' limit cs =
      some (.string v.tag :: items, rest)) :
    readArray limit cs = (ofShape (v.ofItems items)).map (·, rest) := by
  obtain ⟨c, next, hnext, hc, hitems⟩ := Json.exists_of_readSequence (by simp) h
  cases limit with
  | zero => cases hitems
  | succ limit =>
    obtain ⟨tag, after, htag, hafter⟩ := (Json.readItems_succ_eq_some_iff (by decide)).mp hitems
    rw [← hnext, Json.skipSpace_skipSpace, hnext] at htag
    -- The tag is the only item, or the items of the request follow it.
    obtain ⟨hend, heq⟩ | ⟨next', ys, hcomma, hread, heq⟩ := hafter
    · cases heq
      cases hv : v.ofItems [] <;>
        simp [readArray, hnext, hc, readTag_of_read htag, hend, hv, ofShape, shapeFault, bind,
          Except.bind, Except.map]
    · cases heq
      have hread := Json.readItems_succ (by decide) hread
      cases hv : v.ofItems items <;>
        simp [readArray, hnext, hc, readTag_of_read htag, hcomma, hread, hv, orMalformed, ofShape,
          shapeFault, bind, Except.bind, Except.map]

end Sequence

/-- **An object that names its verb once** is decoded as its other members. -/
theorem decode_of_parse?_object {line : String} {v : Verb} {before after : List (String × Json)}
    (h : Json.parse? line.toList =
      some (.object (before ++ (tagName, .string v.tag) :: after)))
    (hbefore : ∀ member ∈ before, member.1 ≠ tagName)
    (hafter : ∀ member ∈ after, member.1 ≠ tagName) :
    decode line = ofShape (v.ofMembers (before ++ after)) := by
  obtain ⟨rest, hread, hrest⟩ := Json.exists_of_parse? h
  obtain ⟨next, hopen, hsequence⟩ := Json.exists_of_read_object hread
  have hobject := readObject_of_readSequence hsequence hbefore hafter
  simp only [decode, hopen, hobject]
  cases ofShape (v.ofMembers (before ++ after)) with
  | error fault => rfl
  | ok m => exact if_pos hrest

/-- **An array that begins with its verb** is decoded as its other items. -/
theorem decode_of_parse?_array {line : String} {v : Verb} {items : List Json}
    (h : Json.parse? line.toList = some (.array (.string v.tag :: items))) :
    decode line = ofShape (v.ofItems items) := by
  obtain ⟨rest, hread, hrest⟩ := Json.exists_of_parse? h
  obtain ⟨next, hopen, hsequence⟩ := Json.exists_of_read_array hread
  have harray := readArray_of_readSequence hsequence
  simp only [decode, hopen, harray]
  cases ofShape (v.ofItems items) with
  | error fault => rfl
  | ok m => exact if_pos hrest

end Request

end PubSub
