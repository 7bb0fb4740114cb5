import PubSub.Entry

/-! # The registry

The registry knows which client is subscribed to what. It keeps the topics in two maps, plain ones
and wildcard ones, under their canonical texts, and one entry for every client.

* **`Index`** — the two maps of topics; `Index.release` takes a client off a topic and drops the
  topic with its last subscriber.
* **`Policy`** — who may subscribe to what: a reason for each refusal.
* **`Registry`** — index, client entries and policy; `Registry.empty` is where every run begins.
* **`RegistryError`** — why a call, or one title of a call, fails. -/

namespace PubSub

open Std (ExtTreeMap)

/-! ## (1) Errors -/

/-- Outcomes can be compared if their errors and their values can. -/
instance decidableEqExcept {ε α : Type} [DecidableEq ε] [DecidableEq α] : DecidableEq (Except ε α)
  | .ok a, .ok b => decidable_of_iff (a = b) (by simp)
  | .error d, .error e => decidable_of_iff (d = e) (by simp)
  | .ok _, .error _ => isFalse (by simp)
  | .error _, .ok _ => isFalse (by simp)

/-- Why a call on the registry, or one title of it, **fails**. -/
inductive RegistryError
  /-- The raw title breaks a rule. -/
  | validation (raw : String) (cause : TitleError)
  /-- The policy refuses the client this title. -/
  | unauthorized (title : String) (reason : String)
  /-- There is no entry for the client. -/
  | clientNotFound (client : ClientId)
  /-- There is no such topic. -/
  | topicNotFound (title : String)
  /-- No titles were given to unsubscribe from. -/
  | emptyTitles
  /-- The client's entry is empty. -/
  | noSubscriptions (client : ClientId)
  /-- The client does not hold the raw title. -/
  | notSubscribed (raw : String)
  deriving DecidableEq, Repr

namespace RegistryError

/-- The wording of an error. -/
def message : RegistryError → String
  | validation raw cause => "topic(" ++ raw ++ ") error: " ++ cause.message
  | unauthorized title reason => "subscribe to " ++ title ++ " rejected: " ++ reason
  | clientNotFound client => "not found client(" ++ toString client.toInt ++ ")"
  | topicNotFound title => "topic(" ++ title ++ ") does not exist"
  | emptyTitles => "unsubscribe titles are empty"
  | noSubscriptions client => "client(" ++ toString client.toInt ++ ") has no subscriptions"
  | notSubscribed raw => "client is not subscribed to " ++ raw

/-- Whether the error says that a client or a topic is unknown. -/
def isNotFound : RegistryError → Bool
  | clientNotFound _ | topicNotFound _ => true
  | _ => false

end RegistryError

/-! ## (2) The index -/

/-- The **index** of topics: one map for each kind, under the canonical texts. -/
structure Index where
  /-- The plain topics. -/
  plain : ExtTreeMap String Topic
  /-- The wildcard topics. -/
  wildcard : ExtTreeMap String Topic

namespace Index

/-- The index without topics. -/
def empty : Index := ⟨∅, ∅⟩

/-- The topics of one kind. -/
def topics (i : Index) : Kind → ExtTreeMap String Topic
  | .plain => i.plain
  | .wildcard => i.wildcard

/-- Change the topics of one kind. -/
def modify (i : Index) (kind : Kind) (f : ExtTreeMap String Topic → ExtTreeMap String Topic) :
    Index :=
  match kind with
  | .plain => { i with plain := f i.plain }
  | .wildcard => { i with wildcard := f i.wildcard }

/-- The topic under a key. -/
def get? (i : Index) (key : TopicKey) : Option Topic := (i.topics key.kind)[key.title]?

/-- Put a topic under a key. -/
def insert (i : Index) (key : TopicKey) (topic : Topic) : Index :=
  i.modify key.kind (·.insert key.title topic)

/-- Drop the topic under a key. -/
def erase (i : Index) (key : TopicKey) : Index := i.modify key.kind (·.erase key.title)

/-- **Release**: take a client off the topic under `key`, and drop the topic if that was its last
subscriber. Without such a topic nothing changes. -/
def release (i : Index) (client : ClientId) (key : TopicKey) : Index :=
  match i.get? key with
  | none => i
  | some topic =>
    let rest := topic.removeClient client
    if rest.subscriberCount = 0 then i.erase key else i.insert key rest

/-! ### What the changes do to the topics -/

/-- An empty index has no topics. -/
@[simp] theorem get?_empty (key : TopicKey) : empty.get? key = none := by
  cases key with
  | mk title kind => cases kind <;> simp [empty, get?, topics]

/-- A topic that is inserted is under its key, and the other keys are as before. -/
@[simp] theorem get?_insert (i : Index) (key other : TopicKey) (topic : Topic) :
    (i.insert key topic).get? other = if key = other then some topic else i.get? other := by
  obtain ⟨title, kind⟩ := key
  obtain ⟨title', kind'⟩ := other
  cases kind <;> cases kind' <;>
    simp [insert, modify, get?, topics, Std.ExtTreeMap.getElem?_insert]

/-- The topic under a key that is erased is gone, and the other keys are as before. -/
@[simp] theorem get?_erase (i : Index) (key other : TopicKey) :
    (i.erase key).get? other = if key = other then none else i.get? other := by
  obtain ⟨title, kind⟩ := key
  obtain ⟨title', kind'⟩ := other
  cases kind <;> cases kind' <;>
    simp [erase, modify, get?, topics, Std.ExtTreeMap.getElem?_erase]

end Index

/-! ## (3) The registry -/

/-- A **policy** answers whether a client may subscribe to a canonical title: `some reason` refuses,
`none` lets it pass. -/
abbrev Policy := String → ClientId → Option String

/-- The policy that lets everything pass. -/
def Policy.allowAll : Policy := fun _ _ => none

/-- The **registry** of subscriptions. -/
structure Registry where
  /-- The topics, each with its subscribers. -/
  index : Index
  /-- The entries of the clients. -/
  clients : ExtTreeMap ClientId Entry
  /-- The policy consulted for every title of a subscription. -/
  policy : Policy

namespace Registry

/-- The registry without topics and clients, open to everyone. -/
def empty : Registry := ⟨.empty, ∅, .allowAll⟩

/-- The number of plain topics. -/
def plainTopicCount (r : Registry) : Nat := r.index.plain.size

/-- The number of wildcard topics. -/
def wildcardTopicCount (r : Registry) : Nat := r.index.wildcard.size

/-- The number of clients with an entry. -/
def clientCount (r : Registry) : Nat := r.clients.size

/-- Install a policy; `none` keeps the present one. -/
def setPolicy (r : Registry) : Option Policy → Registry
  | some policy => { r with policy := policy }
  | none => r

/-- A one-line description by the three counts. -/
def describe (r : Registry) : String :=
  "TopicRegistry \x7b plain_topics: " ++ toString r.plainTopicCount ++
    ", wildcard_topics: " ++ toString r.wildcardTopicCount ++
    ", clients: " ++ toString r.clientCount ++ " \x7d"

end Registry

end PubSub
