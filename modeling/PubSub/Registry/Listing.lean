import Std.Data.ExtTreeSet
import PubSub.Registry.Basic

/-! # Reading the registry

* **`Registry.resolve`** — the clients that a publication reaches: the subscribers of the plain topic
  with that title, and those of every wildcard topic that covers it.
* **`Registry.topics`, `Registry.subscribersOf`, `Registry.subscriptionsOf`** — the listings, each
  with its total and one page of items.
* **`Page`** — a half-open range of positions; `Page.items` cuts it out of a list. -/

namespace PubSub

open Std (ExtTreeSet)

/-! ## (1) Who is reached -/

namespace Registry

/-- Add the subscribers of a topic to a set of clients. -/
def addSubscribers (ids : ExtTreeSet ClientId) (topic : Topic) : ExtTreeSet ClientId :=
  topic.clients.foldl (fun ids subscriber => ids.insert subscriber.1) ids

/-- The clients that a message published under the canonical text `title` reaches. -/
def audience (r : Registry) (title : String) : ExtTreeSet ClientId :=
  let exact := match r.index.plain[title]? with
    | some topic => addSubscribers ∅ topic
    | none => ∅
  (r.index.wildcard.values.filter (·.covers title)).foldl addSubscribers exact

/-- **Resolve** a publication: the clients it reaches, in ascending order. With `checkExists` a
title without a plain topic of its own is an error. -/
def resolve (r : Registry) (raw : String) (checkExists : Bool) :
    Except RegistryError (List ClientId) :=
  match Title.canonicalizeConcrete raw with
  | .error cause => .error (.validation raw cause)
  | .ok title =>
    if checkExists && !r.index.plain.contains title.text then .error (.topicNotFound title.text)
    else .ok (r.audience title.text).toList

end Registry

/-! ## (2) Pages -/

/-- A **page**: the positions from `start` up to but not including `stop`. -/
structure Page where
  start : UInt64
  stop : UInt64
  deriving DecidableEq, Repr

/-- The items of a list at the positions of a page. -/
def Page.items {α : Type} (p : Page) (xs : List α) : List α :=
  (xs.drop p.start.toNat).take (p.stop.toNat - p.start.toNat)

/-- A **listing**: how many items there are in all, and those of the page asked for. -/
structure Listing (α : Type) where
  total : Nat
  items : List α
  deriving DecidableEq, Repr

/-- The listing of one page of a list. -/
def Listing.ofList {α : Type} (xs : List α) (page : Page) : Listing α :=
  ⟨xs.length, page.items xs⟩

/-! ## (3) The listings -/

/-- One **subscription** of a client to a topic. -/
structure Subscription where
  client : ClientId
  title : String
  subscribedAt : Time
  deriving DecidableEq, Repr

namespace Registry

/-- The summaries of all topics of a kind, in descending order of titles. -/
def allTopics (r : Registry) (kind : Kind) : List TopicSummary :=
  (r.index.topics kind).toList.reverse.map fun item => item.2.summary

/-- A page of the topics of a kind, in descending order of titles. -/
def topics (r : Registry) (kind : Kind) (page : Page) : Listing TopicSummary :=
  .ofList (r.allTopics kind) page

/-- The subscriptions to a topic, in descending order of clients. -/
def allSubscribersOf (topic : Topic) : List Subscription :=
  topic.clients.reverse.map fun subscriber => ⟨subscriber.1, topic.title.text, subscriber.2⟩

/-- A page of the subscriptions to the topic that a raw title names, in descending order of
clients. -/
def subscribersOf (r : Registry) (raw : String) (page : Page) :
    Except RegistryError (Listing Subscription) :=
  match Title.canonicalize raw with
  | .error cause => .error (.validation raw cause)
  | .ok title =>
    match r.index.get? title.key with
    | none => .error (.topicNotFound title.text)
    | some topic => .ok (.ofList (allSubscribersOf topic) page)

/-- When a client subscribed to the topic under a key; 0 if it is not subscribed to it. -/
def subscribedAt (r : Registry) (client : ClientId) (key : TopicKey) : Time :=
  match r.index.get? key with
  | some topic => (topic.subscribers[client]?).getD 0
  | none => 0

/-- The subscriptions of an entry, one for each raw title, in descending order of titles. -/
def allSubscriptionsOf (r : Registry) (client : ClientId) (entry : Entry) : List Subscription :=
  let items := entry.toList.map fun item =>
    ({ client := client, title := item.2.title, subscribedAt := r.subscribedAt client item.2 } :
      Subscription)
  items.mergeSort fun a b => decide (b.title ≤ a.title)

/-- A page of the subscriptions of a client, in descending order of titles. -/
def subscriptionsOf (r : Registry) (client : ClientId) (page : Page) :
    Except RegistryError (Listing Subscription) :=
  match r.clients[client]? with
  | none => .error (.clientNotFound client)
  | some entry => .ok (.ofList (r.allSubscriptionsOf client entry) page)

end Registry

end PubSub
