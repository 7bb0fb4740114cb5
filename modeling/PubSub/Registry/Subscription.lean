import PubSub.Registry.Basic

/-! # Subscribing and unsubscribing

* **`Registry.subscribe`** — subscribe a client to a batch of raw titles. Every title is handled on
  its own: a failure is reported for that title and the rest proceed. The policy is consulted once
  for every title that can be canonicalized, and the result lists what it was asked.
* **`Registry.unsubscribe`** — give up a batch of raw titles; a topic is left with the last raw
  title that resolves to it.
* **`Registry.unsubscribeAll`** — give up everything and forget the client. -/

namespace PubSub

/-! ## (1) Subscribing -/

/-- What a client gets for a successful title: the topic's canonical text and its level. -/
structure Grant where
  topic : String
  level : Level
  deriving DecidableEq, Repr

/-- The **outcome of subscribing** one raw title. -/
structure SubscribeResult where
  /-- The title as the client sent it. -/
  raw : String
  /-- The topic subscribed to, or why there is none. -/
  outcome : Except RegistryError Grant
  deriving DecidableEq, Repr

namespace SubscribeResult

/-- Whether the title was subscribed. -/
def isSuccess (r : SubscribeResult) : Bool :=
  match r.outcome with
  | .ok _ => true
  | .error _ => false

/-- The return code: that of the topic's level, or the code of a refusal. -/
def code (r : SubscribeResult) : UInt8 :=
  match r.outcome with
  | .ok grant => grant.level.code
  | .error _ => refusedCode

/-- The canonical text of the topic subscribed to, if any. -/
def topic? (r : SubscribeResult) : Option String :=
  match r.outcome with
  | .ok grant => some grant.topic
  | .error _ => none

/-- The error, if any. -/
def error? (r : SubscribeResult) : Option RegistryError :=
  match r.outcome with
  | .ok _ => none
  | .error e => some e

end SubscribeResult

namespace Registry

/-- **Enroll** a client in the topic of a title: renew its time on a topic that is there, or create
the topic at the requested level, and record the raw title. The level is the topic's. -/
def enroll (r : Registry) (client : ClientId) (raw : String) (title : Title) (requested : Level)
    (now : Time) : Registry × Level :=
  let topic := match r.index.get? title.key with
    | some topic => topic.addClient client now
    | none => ((Topic.new title now).addClient client now).setLevel requested
  let entry := (r.clients[client]?).getD (.empty client)
  ({ r with
      index := r.index.insert title.key topic
      clients := r.clients.insert client (entry.insert raw title.key) },
    topic.level)

/-- The state of a subscription batch: the registry so far, the results so far, and what the policy
was asked so far. -/
structure SubscribeState where
  registry : Registry
  results : List SubscribeResult
  asked : List (String × ClientId)

/-- Subscribe a client to **one raw title**: canonicalize it, ask the policy, enroll the client. -/
def subscribeOne (r : Registry) (client : ClientId) (raw : String) (requested : Level)
    (now : Time) : SubscribeState :=
  match Title.canonicalize raw with
  | .error cause => ⟨r, [⟨raw, .error (.validation raw cause)⟩], []⟩
  | .ok title =>
    match r.policy title.text client with
    | some reason => ⟨r, [⟨raw, .error (.unauthorized title.text reason)⟩], [(title.text, client)]⟩
    | none =>
      let (registry, level) := r.enroll client raw title requested now
      ⟨registry, [⟨raw, .ok ⟨title.text, level⟩⟩], [(title.text, client)]⟩

/-- **Subscribe** a client to a batch of raw titles, in order, all at one time. -/
def subscribe (r : Registry) (client : ClientId) (requested : Level) (now : Time) :
    List String → SubscribeState
  | [] => ⟨r, [], []⟩
  | raw :: raws =>
    let first := r.subscribeOne client raw requested now
    let rest := first.registry.subscribe client requested now raws
    ⟨rest.registry, first.results ++ rest.results, first.asked ++ rest.asked⟩

/-! ## (2) Unsubscribing -/

/-- The **outcome of unsubscribing** one raw title: the error, if there is one. -/
structure UnsubscribeResult where
  /-- The title as the client sent it. -/
  raw : String
  /-- Why the title could not be given up, if it could not. -/
  error? : Option RegistryError
  deriving DecidableEq, Repr

/-- Give up **one raw title** of an entry: the topic is released if no other raw title of the entry
resolves to it. -/
def giveUp (index : Index) (entry : Entry) (raw : String) : Index × Entry × UnsubscribeResult :=
  match entry.get? raw with
  | none => (index, entry, ⟨raw, some (.notSubscribed raw)⟩)
  | some key =>
    let rest := entry.erase raw
    (if rest.references key then index else index.release entry.client key, rest, ⟨raw, none⟩)

/-- Give up raw titles one after the other. -/
def giveUpAll (index : Index) (entry : Entry) : List String → Index × Entry × List UnsubscribeResult
  | [] => (index, entry, [])
  | raw :: raws =>
    let (index, entry, result) := giveUp index entry raw
    let (index, entry, results) := giveUpAll index entry raws
    (index, entry, result :: results)

/-- **Unsubscribe** a client from a batch of raw titles, by the titles it sent. The call fails as a
whole without titles, without an entry, and with an empty entry. An entry that becomes empty
stays. -/
def unsubscribe (r : Registry) (client : ClientId) (raws : List String) :
    Except RegistryError (Registry × List UnsubscribeResult) :=
  if raws.isEmpty then .error .emptyTitles
  else match r.clients[client]? with
    | none => .error (.clientNotFound client)
    | some entry =>
      if entry.isEmpty then .error (.noSubscriptions client)
      else
        let (index, entry, results) := giveUpAll r.index entry raws
        .ok ({ r with index := index, clients := r.clients.insert client entry }, results)

/-- **Unsubscribe from everything** and forget the client; an unknown client is ignored. -/
def unsubscribeAll (r : Registry) (client : ClientId) : Registry :=
  match r.clients[client]? with
  | none => r
  | some entry =>
    { r with
      index := entry.keys.foldl (fun index key => index.release client key) r.index
      clients := r.clients.erase client }

end Registry

end PubSub
