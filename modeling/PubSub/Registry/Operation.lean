import PubSub.Registry.Listing
import PubSub.Registry.Subscription

/-! # Operations and runs

Everything a caller can do to a registry, as data, so that whole histories can be spoken of.

* **`Operation`** — one call with its arguments.
* **`Answer`** — what a call answers, one constructor for each shape of answer.
* **`Registry.apply`** — carry out one operation at a given time.
* **`Registry.run`** — carry out a list of operations, each at its own time. -/

namespace PubSub

/-- One **operation** on a registry. -/
inductive Operation
  /-- Subscribe a client to raw titles; topics that come to be get the level. -/
  | subscribe (client : ClientId) (titles : List String) (level : Level)
  /-- Give up raw titles. -/
  | unsubscribe (client : ClientId) (titles : List String)
  /-- Give up everything. -/
  | unsubscribeAll (client : ClientId)
  /-- Ask whom a publication reaches. -/
  | resolve (title : String) (checkExists : Bool)
  /-- List the topics of a kind. -/
  | topics (kind : Kind) (page : Page)
  /-- List the subscribers of a topic. -/
  | subscribers (title : String) (page : Page)
  /-- List the subscriptions of a client. -/
  | subscriptions (client : ClientId) (page : Page)
  /-- Install a policy, or keep the present one. -/
  | setPolicy (policy : Option Policy)

/-- What an operation **answers**. -/
inductive Answer
  /-- One result for each title, and what the policy was asked. -/
  | subscribed (results : List SubscribeResult) (asked : List (String × ClientId))
  /-- One result for each title. -/
  | unsubscribed (results : List Registry.UnsubscribeResult)
  /-- The operation has nothing to tell. -/
  | done
  /-- The clients reached, in ascending order. -/
  | clients (ids : List ClientId)
  /-- Topics. -/
  | topics (listing : Listing TopicSummary)
  /-- Subscriptions. -/
  | subscriptions (listing : Listing Subscription)
  /-- The call failed as a whole. -/
  | failed (error : RegistryError)
  deriving DecidableEq, Repr

/-- The answer of a call that may fail. -/
def Answer.ofExcept {α : Type} (f : α → Answer) : Except RegistryError α → Answer
  | .ok a => f a
  | .error e => .failed e

namespace Registry

/-- **Carry out** one operation at the time `now`. -/
def apply (r : Registry) (now : Time) : Operation → Registry × Answer
  | .subscribe client titles level =>
    let s := r.subscribe client level now titles
    (s.registry, .subscribed s.results s.asked)
  | .unsubscribe client titles =>
    match r.unsubscribe client titles with
    | .ok (registry, results) => (registry, .unsubscribed results)
    | .error e => (r, .failed e)
  | .unsubscribeAll client => (r.unsubscribeAll client, .done)
  | .resolve title checkExists => (r, .ofExcept .clients (r.resolve title checkExists))
  | .topics kind page => (r, .topics (r.topics kind page))
  | .subscribers title page => (r, .ofExcept .subscriptions (r.subscribersOf title page))
  | .subscriptions client page => (r, .ofExcept .subscriptions (r.subscriptionsOf client page))
  | .setPolicy policy => (r.setPolicy policy, .done)

/-- **Carry out a history**: operations with their times, in order. -/
def run (r : Registry) : List (Time × Operation) → Registry × List Answer
  | [] => (r, [])
  | (now, op) :: ops =>
    let (next, answer) := r.apply now op
    let (last, answers) := next.run ops
    (last, answer :: answers)

@[simp] theorem run_nil (r : Registry) : r.run [] = (r, []) := rfl

@[simp] theorem run_cons (r : Registry) (now : Time) (op : Operation)
    (ops : List (Time × Operation)) :
    r.run ((now, op) :: ops) =
      (((r.apply now op).1.run ops).1, (r.apply now op).2 :: ((r.apply now op).1.run ops).2) := rfl

/-- A history in two parts is carried out one part after the other. -/
theorem run_append (r : Registry) (ops ops' : List (Time × Operation)) :
    r.run (ops ++ ops') =
      (((r.run ops).1.run ops').1, (r.run ops).2 ++ ((r.run ops).1.run ops').2) := by
  induction ops generalizing r with
  | nil => simp
  | cons op ops ih =>
    obtain ⟨now, op⟩ := op
    simp [ih]

end Registry

end PubSub
