import Std.Data.ExtTreeMap
import PubSub.Level
import PubSub.Pattern
import PubSub.Title.Canonical

/-! # Topics

A topic is one canonical title together with the clients subscribed to it.

* **`Topic`** — title, subscribers with the time each subscribed, level, time of creation; a topic
  with wildcards carries the pattern of its title.
* **`Topic.covers t candidate`** — whether a message published under `candidate` reaches the topic.
* **`Topic.addClient`, `Topic.removeClient`, `Topic.setLevel`** — the changes of a topic, described
  by what they do to the subscribers: `getElem?_addClient`, `getElem?_removeClient`. -/

namespace PubSub

open Std (ExtTreeMap)

/-- A **client** is known by a number alone. -/
abbrev ClientId := Int64

/-- A point in **time**, in nanoseconds since the epoch. -/
abbrev Time := Int

/-- The two **kinds** of topic. -/
inductive Kind
  /-- The title holds words only and names one topic. -/
  | plain
  /-- The title holds a wildcard and covers many titles. -/
  | wildcard
  deriving DecidableEq, Repr

/-- The kind of a title. -/
def Title.kind (t : Title) : Kind := if t.isWildcard then .wildcard else .plain

/-- A **topic**. -/
structure Topic where
  /-- The canonical title. -/
  title : Title
  /-- The pattern of the title, present if it holds wildcards. -/
  pattern : Option Pattern
  /-- The subscribers, each with the time of its latest subscription. -/
  subscribers : ExtTreeMap ClientId Time
  /-- The level shared by all subscribers. -/
  level : Level
  /-- When the topic came to be. -/
  createdAt : Time

/-- A **summary** of a topic, as the listings show it. -/
structure TopicSummary where
  title : String
  kind : Kind
  level : Level
  subscribers : Nat
  createdAt : Time
  deriving DecidableEq, Repr

namespace Topic

/-- A new topic without subscribers, at the lowest level. -/
def new (title : Title) (now : Time) : Topic where
  title := title
  pattern := if title.isWildcard then some (Pattern.ofSegments title.segments) else none
  subscribers := ∅
  level := .qos0
  createdAt := now

/-- The kind of a topic, read off the presence of a pattern. -/
def kind (t : Topic) : Kind := if t.pattern.isSome then .wildcard else .plain

/-- **Coverage**: a topic with a pattern covers what the pattern accepts, any other topic its own
title only. -/
def covers (t : Topic) (candidate : String) : Bool :=
  match t.pattern with
  | some pattern => pattern.accepts candidate
  | none => t.title.text == candidate

/-- Add a subscriber, or renew the time of one that is there. -/
def addClient (t : Topic) (client : ClientId) (now : Time) : Topic :=
  { t with subscribers := t.subscribers.insert client now }

/-- Take a subscriber off. -/
def removeClient (t : Topic) (client : ClientId) : Topic :=
  { t with subscribers := t.subscribers.erase client }

/-- Set the level. -/
def setLevel (t : Topic) (level : Level) : Topic := { t with level := level }

/-- Set the level by its code; an unknown code changes nothing. -/
def setLevelCode (t : Topic) (code : UInt8) : Topic :=
  match Level.ofCode? code with
  | some level => t.setLevel level
  | none => t

/-- The number of subscribers. -/
def subscriberCount (t : Topic) : Nat := t.subscribers.size

/-- The subscribers in ascending order, each with its time. -/
def clients (t : Topic) : List (ClientId × Time) := t.subscribers.toList

/-- The summary of a topic. -/
def summary (t : Topic) : TopicSummary where
  title := t.title.text
  kind := t.kind
  level := t.level
  subscribers := t.subscriberCount
  createdAt := t.createdAt

/-! ## What the changes do to the subscribers -/

/-- A new topic is of the kind of its title. -/
@[simp] theorem kind_new (title : Title) (now : Time) : (new title now).kind = title.kind := by
  unfold kind new Title.kind
  cases title.isWildcard <;> rfl

@[simp] theorem getElem?_addClient (t : Topic) (client other : ClientId) (now : Time) :
    (t.addClient client now).subscribers[other]? =
      if client = other then some now else t.subscribers[other]? := by
  simp [addClient, Std.ExtTreeMap.getElem?_insert]

@[simp] theorem getElem?_removeClient (t : Topic) (client other : ClientId) :
    (t.removeClient client).subscribers[other]? =
      if client = other then none else t.subscribers[other]? := by
  simp [removeClient, Std.ExtTreeMap.getElem?_erase]

end Topic

end PubSub
