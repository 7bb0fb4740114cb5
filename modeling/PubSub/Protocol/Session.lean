import PubSub.Protocol.Decoding
import PubSub.Protocol.Reply
import PubSub.Text.Blank

/-! # Sessions

A session answers lines of input, one reply line for each line that is not blank.

* **`Registry.respond`** — carry out a request and tell its answer; the registry afterwards is that
  of the operation the request stands for (`respond_fst`).
* **`Registry.respondLine`** — the same for a line; a line that is no request is answered by an error
  and changes nothing. `Registry.respondLines` answers lines one after the other.
* **`splitLines`** — the lines of a sequence of bytes.
* **`serve`** — answer all lines of the input. It ends early at a line that is not UTF-8, and at the
  first reply that cannot be written. -/

namespace PubSub

/-! ## (1) Requests and lines -/

namespace Registry

/-- **Carry out a request** at the time `now`. -/
def respond (settings : RegistrySettings) (now : Time) (r : Registry) : Request → Registry × Reply
  | .subscribe client titles level =>
    let s := r.subscribe client (Level.ofCode (level.getD settings.defaultLevel)) now titles
    (s.registry, .subscribed client (s.results.map .of))
  | .unsubscribe client titles =>
    match r.unsubscribe client titles with
    | .ok (registry, results) => (registry, .unsubscribed client (results.map .of))
    | .error e => (r, .error e.message)
  | .unsubscribeAll client => (r.unsubscribeAll client, .unsubscribedAll client)
  | .resolve title checkExists =>
    (r, .ofExcept (.resolved title) (r.resolve title (checkExists.getD settings.checkExists)))
  | .plainTopics page => (r, .topics (r.topics .plain page))
  | .wildcardTopics page => (r, .topics (r.topics .wildcard page))
  | .topicSubscribers title page => (r, .ofExcept .subscriptions (r.subscribersOf title page))
  | .clientSubscriptions client page =>
    (r, .ofExcept .subscriptions (r.subscriptionsOf client page))

/-- A request does to the registry what its operation does. -/
theorem respond_fst (settings : RegistrySettings) (now : Time) (r : Registry) (request : Request) :
    (r.respond settings now request).1 = (r.apply now (request.toOperation settings)).1 := by
  cases request with
  | unsubscribe client titles =>
    simp only [respond, apply, Request.toOperation]
    cases r.unsubscribe client titles <;> rfl
  | _ => rfl

/-- **Answer a line** at the time `now`. -/
def respondLine (settings : RegistrySettings) (now : Time) (r : Registry) (line : String) :
    Registry × Reply :=
  match Request.decode line with
  | .ok request => r.respond settings now request
  | .error fault => (r, .error fault.message)

/-- **Answer lines** one after the other, each at its own time. -/
def respondLines (settings : RegistrySettings) (r : Registry) :
    List (Time × String) → Registry × List Reply
  | [] => (r, [])
  | (now, line) :: lines =>
    let (next, reply) := r.respondLine settings now line
    let (last, replies) := next.respondLines settings lines
    (last, reply :: replies)

@[simp] theorem respondLines_nil (settings : RegistrySettings) (r : Registry) :
    r.respondLines settings [] = (r, []) := rfl

@[simp] theorem respondLines_cons (settings : RegistrySettings) (r : Registry) (now : Time)
    (line : String) (lines : List (Time × String)) :
    r.respondLines settings ((now, line) :: lines) =
      (((r.respondLine settings now line).1.respondLines settings lines).1,
        (r.respondLine settings now line).2 ::
          ((r.respondLine settings now line).1.respondLines settings lines).2) := rfl

end Registry

/-! ## (2) The lines of the input -/

/-- The byte that ends a line. -/
def lineFeed : UInt8 := 0x0A

/-- The byte that may stand before the end of a line and does not belong to it. -/
def carriageReturn : UInt8 := 0x0D

/-- A line, read in reverse, without a carriage return at its end. -/
def closeLine : List UInt8 → List UInt8
  | [] => []
  | b :: before => if b = carriageReturn then before.reverse else (b :: before).reverse

/-- Split bytes into lines; `before` holds the bytes of the present line, in reverse. What follows
the last line feed is a line if there is anything, and keeps a carriage return. -/
def splitLinesFrom (before : List UInt8) : List UInt8 → List (List UInt8)
  | [] => if before.isEmpty then [] else [before.reverse]
  | b :: rest =>
    if b = lineFeed then closeLine before :: splitLinesFrom [] rest
    else splitLinesFrom (b :: before) rest

/-- The **lines** of a sequence of bytes. -/
def splitLines (bytes : List UInt8) : List (List UInt8) := splitLinesFrom [] bytes

/-- The text of a line, if it is UTF-8. -/
def decodeLine (line : List UInt8) : Option String := String.fromUTF8? ⟨line.toArray⟩

/-- Whether a line holds blanks only. -/
def isBlankLine (line : String) : Bool := line.toList.all isBlank

/-! ## (3) Serving -/

/-- One answered line: the registry before and after, the line and the reply. -/
structure Exchange where
  before : Registry
  line : String
  after : Registry
  reply : Reply

/-- Why a session **ends early**. -/
inductive SessionFailure
  /-- A line is not UTF-8. -/
  | invalidData
  /-- A reply cannot be written. -/
  | brokenPipe
  deriving DecidableEq, Repr

/-- What a **session** leaves behind: the answered lines, the registry, and why it ended early, if
it did. A line whose reply could not be written is not among the answered ones, but its request has
been carried out. -/
structure Transcript where
  exchanges : List Exchange
  registry : Registry
  failure : Option SessionFailure

/-- The replies that have been written. -/
def Transcript.replies (t : Transcript) : List Reply := t.exchanges.map (·.reply)

/-- The text that has been written: each reply on a line of its own. -/
def Transcript.output (t : Transcript) : String :=
  String.join (t.replies.map fun reply => reply.line ++ "\n")

/-- **Serve** lines, of which the first has the number `index`. The clock tells the time at each line
number; `capacity` is the number of replies that can be written, without bound if `none`. -/
def serveLines (settings : RegistrySettings) (clock : Nat → Time) :
    (capacity : Option Nat) → Registry → (index : Nat) → List (List UInt8) → Transcript
  | _, r, _, [] => ⟨[], r, none⟩
  | capacity, r, index, bytes :: lines =>
    match decodeLine bytes with
    | none => ⟨[], r, some .invalidData⟩
    | some line =>
      if isBlankLine line then serveLines settings clock capacity r (index + 1) lines
      else
        let (after, reply) := r.respondLine settings (clock index) line
        if capacity = some 0 then ⟨[], after, some .brokenPipe⟩
        else
          let rest := serveLines settings clock (capacity.map (· - 1)) after (index + 1) lines
          { rest with exchanges := ⟨r, line, after, reply⟩ :: rest.exchanges }

/-- **Serve** an input. -/
def serve (settings : RegistrySettings) (clock : Nat → Time) (capacity : Option Nat) (r : Registry)
    (input : List UInt8) : Transcript :=
  serveLines settings clock capacity r 0 (splitLines input)

end PubSub
