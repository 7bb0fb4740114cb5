import PubSub.Registry.Operation

/-! # Requests

A client of the line protocol sends requests. A request has a verb and the fields that belong to it.

* **`Verb`** — what is asked for; `Verb.fields` lists the fields in the order of their declaration.
* **`Field`** — the fields, and which of them may be left out.
* **`Request`** — a complete request.
* **`Request.toOperation`** — the operation it stands for; the settings fill in what was left out. -/

namespace PubSub

/-! ## (1) Verbs and fields -/

/-- The **fields** of requests. -/
inductive Field
  | clientId
  | titles
  | level
  | title
  | checkExists
  | start
  | stop
  deriving DecidableEq, Repr

namespace Field

/-- The name of a field. -/
def name : Field → String
  | clientId => "client_id"
  | titles => "titles"
  | level => "level"
  | title => "title"
  | checkExists => "check_exists"
  | start => "start"
  | stop => "end"

/-- Whether the field may be left out. -/
def isOptional : Field → Bool
  | level | checkExists => true
  | _ => false

end Field

/-- The **verbs** of requests. -/
inductive Verb
  | subscribe
  | unsubscribe
  | unsubscribeAll
  | resolve
  | plainTopics
  | wildcardTopics
  | topicSubscribers
  | clientSubscriptions
  deriving DecidableEq, Repr

namespace Verb

/-- All verbs. -/
def all : List Verb :=
  [subscribe, unsubscribe, unsubscribeAll, resolve, plainTopics, wildcardTopics, topicSubscribers,
    clientSubscriptions]

/-- The tag by which a request names its verb. -/
def tag : Verb → String
  | subscribe => "subscribe"
  | unsubscribe => "unsubscribe"
  | unsubscribeAll => "unsubscribe_all"
  | resolve => "resolve"
  | plainTopics => "plain_topics"
  | wildcardTopics => "wildcard_topics"
  | topicSubscribers => "topic_subscribers"
  | clientSubscriptions => "client_subscriptions"

/-- The title of a verb in messages. -/
def caption : Verb → String
  | subscribe => "Subscribe"
  | unsubscribe => "Unsubscribe"
  | unsubscribeAll => "UnsubscribeAll"
  | resolve => "Resolve"
  | plainTopics => "PlainTopics"
  | wildcardTopics => "WildcardTopics"
  | topicSubscribers => "TopicSubscribers"
  | clientSubscriptions => "ClientSubscriptions"

/-- The fields of a verb, in the order of declaration. -/
def fields : Verb → List Field
  | subscribe => [.clientId, .titles, .level]
  | unsubscribe => [.clientId, .titles]
  | unsubscribeAll => [.clientId]
  | resolve => [.title, .checkExists]
  | plainTopics | wildcardTopics => [.start, .stop]
  | topicSubscribers => [.title, .start, .stop]
  | clientSubscriptions => [.clientId, .start, .stop]

/-- The verb with a tag. -/
def ofTag? (tag : String) : Option Verb := all.find? fun v => v.tag == tag

/-- Every verb is told by its tag. -/
@[simp] theorem ofTag?_tag (v : Verb) : ofTag? v.tag = some v := by cases v <;> decide

/-- The field of a verb with a name. -/
def field? (v : Verb) (name : String) : Option Field := v.fields.find? fun f => f.name == name

end Verb

/-! ## (2) Requests -/

/-- A complete **request**. -/
inductive Request
  /-- Subscribe a client to titles; new topics get the level with the given code. -/
  | subscribe (client : ClientId) (titles : List String) (level : Option UInt8)
  /-- Give up titles. -/
  | unsubscribe (client : ClientId) (titles : List String)
  /-- Give up everything. -/
  | unsubscribeAll (client : ClientId)
  /-- Ask whom a publication reaches. -/
  | resolve (title : String) (checkExists : Option Bool)
  /-- List the plain topics. -/
  | plainTopics (page : Page)
  /-- List the wildcard topics. -/
  | wildcardTopics (page : Page)
  /-- List the subscribers of a topic. -/
  | topicSubscribers (title : String) (page : Page)
  /-- List the subscriptions of a client. -/
  | clientSubscriptions (client : ClientId) (page : Page)
  deriving DecidableEq, Repr

/-- What the settings say about requests and subscriptions. -/
structure RegistrySettings where
  /-- The code of the level for subscriptions that name none. -/
  defaultLevel : UInt8
  /-- Whether a publication needs a topic of its own if the request does not say. -/
  checkExists : Bool
  /-- The beginnings of canonical titles that no client may subscribe to. -/
  denyPrefixes : List String
  deriving DecidableEq, Repr

/-- The settings that hold where nothing is set. -/
def RegistrySettings.default : RegistrySettings := ⟨0, false, []⟩

namespace Request

/-- The verb of a request. -/
def verb : Request → Verb
  | subscribe .. => .subscribe
  | unsubscribe .. => .unsubscribe
  | unsubscribeAll .. => .unsubscribeAll
  | resolve .. => .resolve
  | plainTopics .. => .plainTopics
  | wildcardTopics .. => .wildcardTopics
  | topicSubscribers .. => .topicSubscribers
  | clientSubscriptions .. => .clientSubscriptions

/-- The **operation** that a request stands for. -/
def toOperation (settings : RegistrySettings) : Request → Operation
  | subscribe client titles level =>
    .subscribe client titles (Level.ofCode (level.getD settings.defaultLevel))
  | unsubscribe client titles => .unsubscribe client titles
  | unsubscribeAll client => .unsubscribeAll client
  | resolve title checkExists => .resolve title (checkExists.getD settings.checkExists)
  | plainTopics page => .topics .plain page
  | wildcardTopics page => .topics .wildcard page
  | topicSubscribers title page => .subscribers title page
  | clientSubscriptions client page => .subscriptions client page

end Request

end PubSub
