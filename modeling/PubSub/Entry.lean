import PubSub.Topic

/-! # Client entries

What one client holds: the raw titles it subscribed, exactly as it sent them, each with the topic it
resolved to. Two spellings of one title are two raw titles of one topic.

* **`TopicKey`** — where a topic is kept: its canonical text and its kind.
* **`Entry`** — the raw titles of a client; `insert` keeps what is there, `erase` gives one up.
* **`Entry.references`** — whether any raw title is left for a topic. -/

namespace PubSub

open Std (ExtTreeMap)

/-- The **key** of a topic: its canonical text and its kind. -/
structure TopicKey where
  title : String
  kind : Kind
  deriving DecidableEq, Repr

/-- The key of a title. -/
def Title.key (t : Title) : TopicKey := ⟨t.text, t.kind⟩

/-- An **entry**: the raw titles that a client holds, each with the key it resolved to. -/
structure Entry where
  /-- The client whose entry this is. -/
  client : ClientId
  /-- The raw titles, as sent. -/
  held : ExtTreeMap String TopicKey

namespace Entry

/-- The entry of a client that holds nothing. -/
def empty (client : ClientId) : Entry := ⟨client, ∅⟩

/-- The key of a raw title, if the client holds it. -/
def get? (e : Entry) (raw : String) : Option TopicKey := e.held[raw]?

/-- Whether the client holds the raw title. -/
def contains (e : Entry) (raw : String) : Bool := e.held.contains raw

/-- Record a raw title; one that is held already keeps its key. -/
def insert (e : Entry) (raw : String) (key : TopicKey) : Entry :=
  { e with held := e.held.insertIfNew raw key }

/-- Give up a raw title. -/
def erase (e : Entry) (raw : String) : Entry := { e with held := e.held.erase raw }

/-- The raw titles with their keys, in ascending order of the raw titles. -/
def toList (e : Entry) : List (String × TopicKey) := e.held.toList

/-- Whether some raw title resolves to the key. -/
def references (e : Entry) (key : TopicKey) : Bool := e.toList.any fun item => item.2 == key

/-- The keys that the raw titles resolve to, each once. -/
def keys (e : Entry) : List TopicKey := (e.toList.map (·.2)).eraseDups

/-- The number of raw titles held. -/
def size (e : Entry) : Nat := e.held.size

/-- Whether the client holds nothing. -/
def isEmpty (e : Entry) : Bool := e.held.isEmpty

/-! ## What the changes do to the raw titles -/

/-- A new entry holds nothing. -/
@[simp] theorem get?_empty (client : ClientId) (raw : String) : (empty client).get? raw = none := by
  simp [empty, get?]

/-- A raw title that is not held yet is held for the key from then on; one that is held stays as it
is. -/
@[simp] theorem get?_insert (e : Entry) (raw other : String) (key : TopicKey) :
    (e.insert raw key).get? other =
      if raw = other ∧ e.get? raw = none then some key else e.get? other := by
  simp only [get?, insert, Std.ExtTreeMap.getElem?_insertIfNew, Std.compare_eq_iff_eq,
    ← Std.ExtTreeMap.contains_iff_mem, Std.ExtTreeMap.contains_eq_isSome_getElem?]
  simp

/-- A raw title that is given up is held no more, and the others are as before. -/
@[simp] theorem get?_erase (e : Entry) (raw other : String) :
    (e.erase raw).get? other = if raw = other then none else e.get? other := by
  simp [get?, erase, Std.ExtTreeMap.getElem?_erase]

/-- A key is referenced exactly when some raw title resolves to it. -/
theorem references_iff (e : Entry) (key : TopicKey) :
    e.references key = true ↔ ∃ raw, e.get? raw = some key := by
  simp only [references, toList, get?, List.any_eq_true, beq_iff_eq, Prod.exists,
    Std.ExtTreeMap.mem_toList_iff_getElem?_eq_some]
  constructor
  · rintro ⟨raw, k, h, rfl⟩
    exact ⟨raw, h⟩
  · rintro ⟨raw, h⟩
    exact ⟨raw, key, h, rfl⟩

/-- The keys of an entry are the referenced ones. -/
theorem mem_keys_iff (e : Entry) (key : TopicKey) :
    key ∈ e.keys ↔ ∃ raw, e.get? raw = some key := by
  rw [← references_iff]
  simp [keys, references]

end Entry

end PubSub
