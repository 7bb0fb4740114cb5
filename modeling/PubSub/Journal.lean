import PubSub.Protocol.Session

/-! # The log

The program tells on standard error what it does.

* **`LogLevel`** — the levels of the log; a threshold lets through what is at least as important.
* **`LogRecord`** — what is told; `LogRecord.level` says how important it is.
* **`Exchange.records`** — what is told of one answered line. -/

namespace PubSub

/-! ## (1) Levels -/

/-- The **levels** of the log, most important first. -/
inductive LogLevel
  | error
  | warn
  | info
  | debug
  | trace
  deriving DecidableEq, Repr

namespace LogLevel

/-- All levels, most important first. -/
def all : List LogLevel := [error, warn, info, debug, trace]

/-- The name of a level in the log. -/
def name : LogLevel → String
  | error => "ERROR"
  | warn => "WARN"
  | info => "INFO"
  | debug => "DEBUG"
  | trace => "TRACE"

/-- The rank of a level: the higher, the less important. -/
def rank : LogLevel → Nat
  | error => 0
  | warn => 1
  | info => 2
  | debug => 3
  | trace => 4

/-- The level that a setting names, without regard to case; any other name stands for `info`. -/
def ofSetting (s : String) : LogLevel :=
  match String.ofList (s.toList.map Char.toLower) with
  | "error" => error
  | "warn" | "warning" => warn
  | "debug" => debug
  | "trace" => trace
  | _ => info

/-- Whether a threshold lets a level through. -/
def admits (threshold level : LogLevel) : Bool := level.rank ≤ threshold.rank

end LogLevel

/-! ## (2) Records -/

/-- A **record** of the log. -/
inductive LogRecord
  /-- The program begins to serve. -/
  | serving
  /-- The input has ended. -/
  | inputClosed
  /-- A request is carried out. -/
  | request (request : Request)
  /-- A line is no request. -/
  | invalidRequest (fault : Fault)
  /-- A topic has come to be. -/
  | topicCreated (key : TopicKey)
  /-- A topic has been dropped with its last subscriber. -/
  | topicEvicted (key : TopicKey)
  /-- A title could not be subscribed. -/
  | subscribeRejected (client : ClientId) (title : String) (reason : String)
  /-- A client has given up everything. -/
  | clientLeft (client : ClientId) (subscriptions : Nat)

namespace LogRecord

/-- How **important** a record is. -/
def level : LogRecord → LogLevel
  | serving | inputClosed | clientLeft .. => .info
  | invalidRequest _ => .warn
  | request _ | topicCreated _ | topicEvicted _ | subscribeRejected .. => .debug

/-- The text of a record. -/
def text : LogRecord → String
  | serving => "Serving topic registry on stdin/stdout"
  | inputClosed => "Input closed, exiting"
  | request r => "request: " ++ r.verb.tag
  | invalidRequest fault => fault.message
  | topicCreated key => "topic created: " ++ key.title
  | topicEvicted key => "topic evicted: " ++ key.title
  | subscribeRejected client title reason =>
    "subscribe rejected: client " ++ toString client.toInt ++ ", title " ++ title ++ ": " ++ reason
  | clientLeft client subscriptions =>
    "client " ++ toString client.toInt ++ " unsubscribed from all " ++ toString subscriptions ++
      " titles"

end LogRecord

/-! ## (3) What is told of a line -/

/-- The keys of all topics. -/
def Index.keys (i : Index) : List TopicKey :=
  i.plain.keys.map (⟨·, .plain⟩) ++ i.wildcard.keys.map (⟨·, .wildcard⟩)

/-- The keys of the topics that are in the first index but not in the second. -/
def Index.keysWithout (i other : Index) : List TopicKey :=
  i.keys.filter fun key => (other.get? key).isNone

namespace Exchange

/-- The titles that a subscription did not get. -/
def rejections (e : Exchange) : List LogRecord :=
  match e.reply with
  | .subscribed client results =>
    results.filterMap fun r => r.error.map fun reason => .subscribeRejected client r.title reason
  | _ => []

/-- The client that has given up everything, if it had an entry. -/
def departures (e : Exchange) : List LogRecord :=
  match e.reply with
  | .unsubscribedAll client =>
    match e.before.clients[client]? with
    | some entry => [.clientLeft client entry.size]
    | none => []
  | _ => []

/-- **What is told** of an answered line. -/
def records (e : Exchange) : List LogRecord :=
  match Request.decode e.line with
  | .error fault => [.invalidRequest fault]
  | .ok request =>
    .request request ::
      ((e.after.index.keysWithout e.before.index).map .topicCreated ++ e.rejections ++
        (e.before.index.keysWithout e.after.index).map .topicEvicted ++ e.departures)

end Exchange

end PubSub
