import PubSub.Json.Printer
import PubSub.Protocol.Fault

/-! # Replies

Every request line is answered by one reply line, a JSON object.

* **`Reply`** — the replies, with texts where the registry has errors.
* **`Reply.toJson`, `Reply.line`** — the object and the line it is sent as. -/

namespace PubSub

/-! ## (1) The replies -/

/-- What is told of **one subscribed title**. -/
structure SubscribeReport where
  title : String
  topic : Option String
  code : UInt8
  error : Option String
  deriving DecidableEq, Repr

/-- What is told of **one title given up**. -/
structure UnsubscribeReport where
  title : String
  error : Option String
  deriving DecidableEq, Repr

/-- A **reply**. -/
inductive Reply
  | subscribed (client : ClientId) (results : List SubscribeReport)
  | unsubscribed (client : ClientId) (results : List UnsubscribeReport)
  | unsubscribedAll (client : ClientId)
  | resolved (title : String) (clients : List ClientId)
  | topics (listing : Listing TopicSummary)
  | subscriptions (listing : Listing Subscription)
  | error (message : String)
  deriving DecidableEq, Repr

/-- The report on a subscribed title. -/
def SubscribeReport.of (r : SubscribeResult) : SubscribeReport :=
  ⟨r.raw, r.topic?, r.code, r.error?.map RegistryError.message⟩

/-- The report on a title given up. -/
def UnsubscribeReport.of (r : Registry.UnsubscribeResult) : UnsubscribeReport :=
  ⟨r.raw, r.error?.map RegistryError.message⟩

namespace Reply

/-- The reply to a call that may fail as a whole. -/
def ofExcept {α : Type} (f : α → Reply) : Except RegistryError α → Reply
  | .ok a => f a
  | .error e => error e.message

/-- Whether the reply tells of a failure of the whole request. -/
def isError : Reply → Bool
  | error _ => true
  | _ => false

/-! ## (2) As JSON

The kind of a reply comes first, under `type`. -/

/-- A reply's object: its kind and its members. -/
def tagged (kind : String) (members : List (String × Json)) : Json :=
  .object (("type", .string kind) :: members)

/-- The number of a client. -/
def clientJson (c : ClientId) : Json := .int c.toInt

/-- The object of one subscribed title. -/
def subscribeReportJson (r : SubscribeReport) : Json :=
  .object [("title", .string r.title), ("topic", .stringOrNull r.topic), ("code", .nat r.code.toNat),
    ("error", .stringOrNull r.error)]

/-- The object of one title given up. -/
def unsubscribeReportJson (r : UnsubscribeReport) : Json :=
  .object [("title", .string r.title), ("error", .stringOrNull r.error)]

/-- The object of a topic. -/
def topicJson (s : TopicSummary) : Json :=
  .object [("title", .string s.title), ("wildcard", .bool (s.kind == .wildcard)),
    ("level", .nat s.level.code.toNat), ("subscribers", .nat s.subscribers),
    ("created_at", .int s.createdAt)]

/-- The object of a subscription. -/
def subscriptionJson (s : Subscription) : Json :=
  .object [("client_id", clientJson s.client), ("title", .string s.title),
    ("subscribed_at", .int s.subscribedAt)]

/-- The **object** of a reply. -/
def toJson : Reply → Json
  | subscribed client results => tagged "subscribed"
    [("client_id", clientJson client), ("results", .array (results.map subscribeReportJson))]
  | unsubscribed client results => tagged "unsubscribed"
    [("client_id", clientJson client), ("results", .array (results.map unsubscribeReportJson))]
  | unsubscribedAll client => tagged "unsubscribed_all" [("client_id", clientJson client)]
  | resolved title clients => tagged "resolved"
    [("title", .string title), ("client_ids", .array (clients.map clientJson))]
  | topics listing => tagged "topics"
    [("total", .nat listing.total), ("topics", .array (listing.items.map topicJson))]
  | subscriptions listing => tagged "subscriptions"
    [("total", .nat listing.total), ("items", .array (listing.items.map subscriptionJson))]
  | error message => tagged "error" [("message", .string message)]

/-- The **line** of a reply, without its line break. -/
def line (r : Reply) : String := r.toJson.text

end Reply

end PubSub
