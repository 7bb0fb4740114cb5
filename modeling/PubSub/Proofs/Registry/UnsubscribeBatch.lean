import PubSub.Proofs.Registry.SubscribeBatch

/-! # What a batch of titles gives up

The titles of a batch are given up one after the other, and a topic is left with the last raw title
that resolves to it. Which of the titles that is does not matter: it is enough to know which raw
titles are left in the end.

* **`IsKnown steps client`** — the client has subscribed something and not unsubscribed from
  everything since; **`Registry.isSome_clients_run_empty`** — these are the clients with an entry.
* **`Registry.giveUpResults`** — what the titles of a batch are answered, told by what is held
  before; **`Registry.results_giveUpAll`** — this is the answer.
* **`Entry.Agrees.get?_giveUpAll`** — the topics after a batch, told by the raw titles that are
  left.
* **`Registry.Unsubscribed r next`** — the registry that a batch leads to, told by the one before it
  and the set of titles.
* **`Registry.Unsubscribed.unique`** — this settles the registry, whatever the order of the titles.
* **`Registry.unsubscribe_run_exact`** — every batch is answered and carried out that way. -/

namespace PubSub

open Std (ExtTreeMap)

/-! ## (1) Who is known -/

namespace Step

/-- The step subscribes the client to **some** raw title. -/
def SubscribesSome (client : ClientId) (step : Step) : Prop := ∃ raw, step.Subscribes client raw

/-- The client **leaves** at the step: it unsubscribes from everything. -/
def Leaves (client : ClientId) (step : Step) : Prop :=
  ∃ answer, step = (.unsubscribeAll client, answer)

end Step

/-- The client is **known** after the steps: it has subscribed to something at one of them, and has
left at none that came later. -/
def IsKnown (steps : List Step) (client : ClientId) : Prop :=
  LastsIn (Step.SubscribesSome client) (Step.Leaves client) steps

namespace Registry

/-- The clients that a batch makes known are those that its answer tells of. -/
theorem subscribesSome_subscribe_iff (r : Registry) (client other : ClientId) (level : Level)
    (raws : List String) (asked : List (String × ClientId)) :
    Step.SubscribesSome client
        (.subscribe other raws level, .subscribed (raws.map (r.answerTo other level)) asked) ↔
      other = client ∧ ∃ raw ∈ raws, ∃ title, r.Admits other raw title := by
  simp only [Step.SubscribesSome, Step.subscribes_subscribe_iff, List.mem_map,
    ← isSuccess_answerTo_iff r other level]
  constructor
  · rintro ⟨_, rfl, _, ⟨raw, hmem, rfl⟩, -, hsuccess⟩
    exact ⟨rfl, raw, hmem, hsuccess⟩
  · rintro ⟨rfl, raw, hmem, hsuccess⟩
    exact ⟨_, rfl, _, ⟨raw, hmem, rfl⟩, rfl, hsuccess⟩

/-- **One step**: a client has an entry afterwards if it has subscribed to something at the step, or
had an entry before and has not left. -/
theorem isSome_clients_apply (r : Registry) (now : Time) (op : Operation) (client : ClientId) :
    ((r.apply now op).1.clients[client]?).isSome = true ↔
      Step.SubscribesSome client (op, (r.apply now op).2) ∨
        (r.clients[client]?).isSome = true ∧ ¬Step.Leaves client (op, (r.apply now op).2) := by
  cases op with
  | subscribe other titles level =>
    rw [apply, isSome_clients_subscribe_iff, results_subscribe, subscribesSome_subscribe_iff,
      or_comm]
    simp [Step.Leaves]
  | unsubscribe other titles =>
    rcases apply_unsubscribe_eq_or r now other titles with heq | ⟨entry, hentry, heq⟩
    · simp [heq, Step.SubscribesSome, Step.Subscribes, Step.Leaves]
    · -- the entry stays, also if nothing is left in it
      by_cases hclient : other = client
      · subst hclient
        simp [heq, hentry, Step.SubscribesSome, Step.Subscribes, Step.Leaves]
      · simp [heq, hclient, ExtTreeMap.getElem?_insert, Step.SubscribesSome, Step.Subscribes,
          Step.Leaves]
  | unsubscribeAll other =>
    by_cases hclient : other = client
    · simp [apply, getElem?_clients_unsubscribeAll, hclient, Step.SubscribesSome, Step.Subscribes,
        Step.Leaves]
    · simp [apply, getElem?_clients_unsubscribeAll, hclient, Step.SubscribesSome, Step.Subscribes,
        Step.Leaves]
  | resolve _ _ | topics _ _ | subscribers _ _ | subscriptions _ _ =>
    simp [apply, Step.SubscribesSome, Step.Subscribes, Step.Leaves]
  | setPolicy policy =>
    cases policy <;> simp [apply, setPolicy, Step.SubscribesSome, Step.Subscribes, Step.Leaves]

/-- **From the empty registry on**, the clients with an entry are those that are known. -/
theorem isSome_clients_run_empty (ops : List (Time × Operation)) (client : ClientId) :
    ((empty.run ops).1.clients[client]?).isSome = true ↔
      IsKnown (empty.transcript ops) client := by
  refine run_empty_iff_lastsIn (fun r => (r.clients[client]?).isSome = true)
    (fun r now op => isSome_clients_apply r now op client) ?_ ops
  simp [empty]

/-! ## (2) The answers -/

/-- **What the titles of a batch are answered** if `held` is what is held before it: a raw title is
given up if it is held and not named earlier in the batch. -/
def giveUpResults (held : String → Option TopicKey) (raws : List String) : List UnsubscribeResult :=
  raws.mapIdx fun i raw =>
    ⟨raw, if (held raw).isSome ∧ raw ∉ raws.take i then none else some (.notSubscribed raw)⟩

/-- The first title is answered by what is held, and the others by what is held without it. -/
theorem giveUpResults_cons (held : String → Option TopicKey) (raw : String) (raws : List String) :
    giveUpResults held (raw :: raws) =
      ⟨raw, if (held raw).isSome then none else some (.notSubscribed raw)⟩ ::
        giveUpResults (fun other => if raw = other then none else held other) raws := by
  rw [giveUpResults, List.mapIdx_cons, giveUpResults]
  congr 1
  · simp
  · -- a later title is not named before it, or it is no longer held
    refine List.mapIdx_eq_mapIdx_iff.mpr fun i hi => ?_
    rw [List.take_succ_cons]
    by_cases hraw : raw = raws[i]
    · simp [hraw]
    · simp [hraw, Ne.symm hraw]

/-- **The results of a batch** are told by the entry before it. -/
theorem results_giveUpAll (i : Index) (e : Entry) (raws : List String) :
    (giveUpAll i e raws).2.2 = giveUpResults e.get? raws := by
  induction raws generalizing i e with
  | nil => rfl
  | cons raw raws ih =>
    have hfirst : (giveUp i e raw).2.2 =
        ⟨raw, if (e.get? raw).isSome then none else some (.notSubscribed raw)⟩ := by
      rw [giveUp]
      cases e.get? raw <;> rfl
    have hrest : (giveUp i e raw).2.1.get? =
        fun other => if raw = other then none else e.get? other :=
      funext (get?_giveUp i e raw)
    rw [giveUpAll_cons, ih, giveUpResults_cons, hfirst, hrest]

/-! ### Calls that fail as a whole -/

section Answer

variable (r : Registry) (now : Time) (client : ClientId) (raws : List String)

/-- **Without titles** a call fails. -/
theorem apply_unsubscribe_eq_emptyTitles_iff :
    (r.apply now (.unsubscribe client raws)).2 = .failed .emptyTitles ↔ raws = [] := by
  rw [apply, unsubscribe]
  cases raws with
  | nil => simp
  | cons raw raws =>
    cases r.clients[client]? with
    | none => simp
    | some entry => cases hempty : entry.isEmpty <;> simp [hempty]

/-- **Without an entry** a call fails. -/
theorem apply_unsubscribe_eq_clientNotFound_iff :
    (r.apply now (.unsubscribe client raws)).2 = .failed (.clientNotFound client) ↔
      raws ≠ [] ∧ r.clients[client]? = none := by
  rw [apply, unsubscribe]
  cases raws with
  | nil => simp
  | cons raw raws =>
    cases r.clients[client]? with
    | none => simp
    | some entry => cases hempty : entry.isEmpty <;> simp [hempty]

/-- **With an empty entry** a call fails. -/
theorem apply_unsubscribe_eq_noSubscriptions_iff :
    (r.apply now (.unsubscribe client raws)).2 = .failed (.noSubscriptions client) ↔
      raws ≠ [] ∧ (r.clients[client]?).isSome = true ∧ ∀ raw, r.held client raw = none := by
  simp only [apply, unsubscribe, held]
  cases raws with
  | nil => simp
  | cons raw raws =>
    cases r.clients[client]? with
    | none => simp
    | some entry =>
      cases hempty : entry.isEmpty with
      | true => simpa [hempty] using entry.isEmpty_iff.mp hempty
      | false =>
        have hsome := mt entry.isEmpty_iff.mpr (by simpa using hempty)
        simpa [hempty] using hsome

/-- **Without anything to give up** a call changes nothing. -/
theorem apply_unsubscribe_of_held_eq_none (h : ∀ raw, r.held client raw = none) :
    (r.apply now (.unsubscribe client raws)).1 = r := by
  rw [apply]
  cases hnext : r.unsubscribe client raws with
  | error e => rfl
  | ok next =>
    obtain ⟨-, entry, hentry, hempty, -⟩ := (unsubscribe_eq_ok_iff r client raws _ _).mp hnext
    have hnone : ∀ raw, entry.get? raw = none := by simpa [held, hentry] using h
    rw [entry.isEmpty_iff.mpr hnone] at hempty
    cases hempty

end Answer

/-- **Any other call** succeeds, and its results are told by what was held before. -/
theorem exists_unsubscribe_eq_giveUpResults {r : Registry} {client : ClientId} {raws : List String}
    (hne : raws ≠ []) {raw : String} (hheld : (r.held client raw).isSome = true) :
    ∃ next, r.unsubscribe client raws = .ok (next, giveUpResults (r.held client) raws) := by
  cases hentry : r.clients[client]? with
  | none =>
    rw [held, hentry] at hheld
    cases hheld
  | some entry =>
    have hlookup : r.held client = entry.get? := by
      funext other
      rw [held, hentry, Option.bind_some]
    rw [hlookup] at hheld ⊢
    rw [← results_giveUpAll r.index entry raws]
    exact ⟨_, (unsubscribe_eq_ok_iff r client raws _ _).mpr
      ⟨hne, entry, hentry, Entry.isEmpty_eq_false hheld, rfl, rfl⟩⟩

end Registry

/-! ## (3) The topics -/

/-- The client is the **only subscriber** of the topic. -/
def Topic.HasOnly (topic : Topic) (client : ClientId) : Prop :=
  ∀ other, (topic.subscribers[other]?).isSome = true ↔ other = client

/-- A topic that stays without a client is the one before without it. -/
theorem Index.leftBy_eq_some {i : Index} {key : TopicKey} {topic : Topic} {client : ClientId}
    (hget : i.get? key = some topic) (hpresent : i.leftBy client key ≠ none) :
    i.leftBy client key = some (topic.removeClient client) := by
  rw [leftBy, hget, Option.map_some, Option.filter_some] at hpresent ⊢
  exact if_pos (by_contra fun hgone => hpresent (if_neg hgone))

/-- A topic goes with a client that is its only subscriber, and stays without any other one. -/
theorem Index.Filed.leftBy_eq_none_iff {i : Index} (h : i.Filed) {key : TopicKey} {topic : Topic}
    (hget : i.get? key = some topic) (client : ClientId) :
    i.leftBy client key = none ↔ topic.HasOnly client := by
  have hrest := topic.getElem?_removeClient client
  have hcount : i.leftBy client key = none ↔ (topic.removeClient client).subscriberCount = 0 := by
    rw [Index.leftBy, hget, Option.map_some, Option.filter_some]
    by_cases hzero : (topic.removeClient client).subscriberCount = 0 <;> simp [hzero]
  rw [hcount, Topic.HasOnly]
  constructor
  · intro hzero
    have honly : ∀ other, (topic.subscribers[other]?).isSome = true → other = client := by
      intro other hsome
      by_contra hother
      have hnone := Topic.getElem?_of_subscriberCount_eq_zero hzero other
      rw [hrest, if_neg (Ne.symm hother)] at hnone
      rw [hnone] at hsome
      cases hsome
    -- the topic has a subscriber, which can be none but the client
    obtain ⟨other, time, hother⟩ :=
      topic.subscriberCount_ne_zero_iff.mp (h key topic hget).subscribed
    refine fun other' => ⟨honly other', ?_⟩
    rintro rfl
    have hsome : (topic.subscribers[other]?).isSome = true := by rw [hother]; rfl
    rw [← honly other hsome, hsome]
  · intro honly
    by_contra hnonzero
    obtain ⟨other, time, hother⟩ := (Topic.subscriberCount_ne_zero_iff _).mp hnonzero
    rw [hrest] at hother
    split at hother
    · cases hother
    · rename_i hne
      exact hne ((honly other).mp (by rw [hother]; rfl)).symm

/-- **The topics after a batch**: the client stays on those that a raw title which is left resolves
to, and leaves the others behind. -/
theorem Entry.Agrees.get?_giveUpAll {e : Entry} {i : Index} (h : e.Agrees i) (hfiled : i.Filed)
    (raws : List String) (key : TopicKey) :
    (Registry.giveUpAll i e raws).1.get? key =
      if (Registry.giveUpAll i e raws).2.1.references key = true then i.get? key
      else i.leftBy e.client key := by
  have hafter := h.giveUpAll raws key
  rw [Registry.client_giveUpAll] at hafter
  -- the client is released from some topics, which are told by the subscriptions it has left
  obtain ⟨keys, hkeys⟩ := Registry.exists_giveUpAll_eq_foldl_release i e raws
  rw [hkeys, Index.since_foldl_release] at hafter
  rw [hkeys, Index.get?_foldl_release]
  by_cases hmem : key ∈ keys
  · rw [if_pos ⟨rfl, hmem⟩] at hafter
    rw [if_pos hmem, if_neg fun hleft => Bool.false_ne_true (hafter.mpr hleft)]
  · rw [if_neg fun hcond => hmem hcond.2] at hafter
    rw [if_neg hmem]
    split
    · rfl
    · rename_i hleft
      rw [← hafter, Option.not_isSome_iff_eq_none] at hleft
      exact (hfiled.leftBy_eq_get? hleft).symm

namespace Registry

/-! ## (4) The registry after a batch -/

/-- **The registry after a batch** that does not fail as a whole, told by the one before it and the
titles. -/
structure Unsubscribed (r next : Registry) (client : ClientId) (raws : List String) : Prop where
  /-- The policy stays. -/
  policy_eq : next.policy = r.policy
  /-- The entries of the others stay. -/
  others_eq : ∀ other, other ≠ client → next.clients[other]? = r.clients[other]?
  /-- The client has an entry. -/
  exists_entry : ∃ entry, next.clients[client]? = some entry ∧ entry.client = client
  /-- It is the old one without the titles. -/
  held_eq : ∀ raw, next.held client raw = if raw ∈ raws then none else r.held client raw
  /-- The client is on the topics that a raw title which is left resolves to, and on no others. -/
  on_iff : ∀ key, (next.index.since client key).isSome = true ↔
    ∃ raw, next.held client raw = some key
  /-- A topic is gone if the client was its only subscriber and is off it. -/
  gone_iff : ∀ key topic, r.index.get? key = some topic →
    (next.index.get? key = none ↔
      topic.HasOnly client ∧ ∀ raw, next.held client raw ≠ some key)
  /-- A topic that the client is off is without it, and otherwise stays as it is. -/
  left : ∀ key topic, r.index.get? key = some topic →
    (∀ raw, next.held client raw ≠ some key) → next.index.get? key ≠ none →
      next.index.get? key = some (topic.removeClient client)
  /-- A topic that a raw title which is left resolves to stays as it is. -/
  stayed : ∀ key topic, r.index.get? key = some topic →
    ∀ raw, next.held client raw = some key → next.index.get? key = some topic
  /-- No topic comes to be. -/
  absent : ∀ key, r.index.get? key = none → next.index.get? key = none

namespace WellFormed

variable {r next : Registry} {client : ClientId} {raws : List String}
  {results : List UnsubscribeResult}

/-- **A topic after a batch** is as before if a raw title which is left resolves to it, and as the
client leaves it behind otherwise. -/
theorem get?_unsubscribe_cases (h : r.WellFormed)
    (hnext : r.unsubscribe client raws = .ok (next, results)) (key : TopicKey) :
    (∃ raw, next.held client raw = some key) ∧ next.index.get? key = r.index.get? key ∨
      (∀ raw, next.held client raw ≠ some key) ∧
        next.index.get? key = r.index.leftBy client key := by
  obtain ⟨-, entry, hentry, -, rfl, -⟩ := (unsubscribe_eq_ok_iff r client raws _ _).mp hnext
  have hget := (h.agrees hentry).get?_giveUpAll h.filed raws key
  have hleft := Entry.references_iff (giveUpAll r.index entry raws).2.1 key
  rw [h.entry_client client entry hentry] at hget
  simp only [held_insert, if_true]
  -- The client leaves the topic exactly if nothing that is left in its entry refers to it.
  by_cases hreferences : (giveUpAll r.index entry raws).2.1.references key = true
  · rw [if_pos hreferences] at hget
    exact Or.inl ⟨hleft.mp hreferences, hget⟩
  · rw [if_neg hreferences] at hget
    exact Or.inr ⟨not_exists.mp fun hexists => hreferences (hleft.mpr hexists), hget⟩

/-- **A batch leads to the registry that its titles describe.** -/
theorem unsubscribed (h : r.WellFormed)
    (hnext : r.unsubscribe client raws = .ok (next, results)) :
    r.Unsubscribed next client raws := by
  have hwf := h.unsubscribe hnext
  -- Each topic is as it was, with a raw title for it left, or as it is when the client leaves.
  have htopics := h.get?_unsubscribe_cases hnext
  obtain ⟨rest, hclients, hpolicy⟩ :
      ∃ rest, next.clients = r.clients.insert client rest ∧ next.policy = r.policy := by
    obtain ⟨-, entry, -, -, rfl, -⟩ := (unsubscribe_eq_ok_iff r client raws _ _).mp hnext
    exact ⟨_, rfl, rfl⟩
  have hentry : next.clients[client]? = some rest := by
    rw [hclients, ExtTreeMap.getElem?_insert_self]
  constructor
  case policy_eq => exact hpolicy
  case others_eq =>
    intro other hother
    simp [hclients, ExtTreeMap.getElem?_insert, Ne.symm hother]
  case exists_entry => exact ⟨rest, hentry, hwf.entry_client client rest hentry⟩
  case held_eq =>
    intro raw
    rw [held_unsubscribe hnext]
    simp only [true_and]
  case on_iff => exact hwf.subscribed_iff client
  case gone_iff =>
    intro key topic hget
    rcases htopics key with ⟨⟨raw, hraw⟩, htopic⟩ | ⟨hno, htopic⟩
    · rw [htopic, hget]
      refine iff_of_false (Option.some_ne_none topic) ?_
      rintro ⟨-, hno⟩
      exact hno raw hraw
    · rw [htopic, h.filed.leftBy_eq_none_iff hget, and_iff_left hno]
  case left =>
    intro key topic hget hno hpresent
    rcases htopics key with ⟨⟨raw, hraw⟩, -⟩ | ⟨-, htopic⟩
    · exact absurd hraw (hno raw)
    · rw [htopic] at hpresent ⊢
      exact Index.leftBy_eq_some hget hpresent
  case stayed =>
    intro key topic hget raw hraw
    rcases htopics key with ⟨-, htopic⟩ | ⟨hno, -⟩
    · rw [htopic, hget]
    · exact absurd hraw (hno raw)
  case absent =>
    intro key hget
    rcases htopics key with ⟨-, htopic⟩ | ⟨-, htopic⟩
    · rw [htopic, hget]
    · rw [htopic, Index.leftBy, hget]
      rfl

end WellFormed

/-! ## (5) The titles settle the registry -/

namespace Unsubscribed

variable {r next next' : Registry} {client : ClientId} {raws raws' : List String}
  (h : r.Unsubscribed next client raws) (h' : r.Unsubscribed next' client raws')
  (hmem : ∀ raw, raw ∈ raws ↔ raw ∈ raws')
include h h' hmem

/-- What the client still holds is settled by the titles of the batch. -/
theorem held_congr (raw : String) : next.held client raw = next'.held client raw := by
  rw [h.held_eq, h'.held_eq]
  simp only [hmem raw]

/-- So is the topic under each key. -/
theorem get?_congr (key : TopicKey) : next.index.get? key = next'.index.get? key := by
  have hheld := h.held_congr h' hmem
  cases hget : r.index.get? key with
  | none => rw [h.absent key hget, h'.absent key hget]
  | some topic =>
    by_cases hleft : ∃ raw, next.held client raw = some key
    · obtain ⟨raw, hraw⟩ := hleft
      rw [h.stayed key topic hget raw hraw, h'.stayed key topic hget raw (hheld raw ▸ hraw)]
    · -- the client is off the topic in both, which is gone from both or from none
      have hno : ∀ raw, next.held client raw ≠ some key := not_exists.mp hleft
      have hno' : ∀ raw, next'.held client raw ≠ some key := fun raw => hheld raw ▸ hno raw
      have hgone : next.index.get? key = none ↔ next'.index.get? key = none := by
        rw [h.gone_iff key topic hget, h'.gone_iff key topic hget, and_iff_left hno,
          and_iff_left hno']
      by_cases hnone : next.index.get? key = none
      · rw [hnone, hgone.mp hnone]
      · rw [h.left key topic hget hno hnone, h'.left key topic hget hno' (mt hgone.mpr hnone)]

/-- **The registry after a batch is settled** by the titles in it, in whatever order and however
often they are named. -/
theorem unique : next = next' :=
  ext_client client (h.get?_congr h' hmem)
    (getElem?_clients_congr h.exists_entry h'.exists_entry (h.held_congr h' hmem))
    (fun other hother => (h.others_eq other hother).trans (h'.others_eq other hother).symm)
    (h.policy_eq.trans h'.policy_eq.symm)

end Unsubscribed

namespace WellFormed

variable {r : Registry} {client : ClientId} {raws raws' : List String}

/-- **A call of a client that holds something** is answered and carried out title by title. -/
theorem apply_unsubscribe (h : r.WellFormed) (now : Time) (hne : raws ≠ []) {raw : String}
    (hheld : (r.held client raw).isSome = true) :
    (r.apply now (.unsubscribe client raws)).2 =
        .unsubscribed (giveUpResults (r.held client) raws) ∧
      r.Unsubscribed (r.apply now (.unsubscribe client raws)).1 client raws := by
  obtain ⟨next, hnext⟩ := exists_unsubscribe_eq_giveUpResults hne hheld
  simp only [Registry.apply, hnext, true_and]
  exact h.unsubscribed hnext

/-- **The order and the number of the titles** make no difference to what a call leaves behind. -/
theorem apply_unsubscribe_congr (h : r.WellFormed) (now : Time)
    (hmem : ∀ raw, raw ∈ raws' ↔ raw ∈ raws) :
    (r.apply now (.unsubscribe client raws')).1 = (r.apply now (.unsubscribe client raws)).1 := by
  by_cases hsome : ∃ raw, (r.held client raw).isSome = true
  · obtain ⟨raw, hraw⟩ := hsome
    have hnil : raws' = [] ↔ raws = [] := by simp only [List.eq_nil_iff_forall_not_mem, hmem]
    by_cases hne : raws = []
    · rw [hne, hnil.mpr hne]
    · exact (h.apply_unsubscribe now (mt hnil.mp hne) hraw).2.unique
        (h.apply_unsubscribe now hne hraw).2 hmem
  · -- nothing is held, so both calls fail
    have hnone : ∀ raw, r.held client raw = none := by simpa using hsome
    rw [r.apply_unsubscribe_of_held_eq_none now client raws' hnone,
      r.apply_unsubscribe_of_held_eq_none now client raws hnone]

end WellFormed

/-- **A batch, exactly.** In any state that a history leads to, a call without titles fails; else a
call of a client that is not known; else that of a known client that holds nothing. Any other call
is answered title by title: a raw title is given up if the client held it before the call and it is
not named earlier in the batch. The registry afterwards is the one before without the titles in the
client's entry, and with the client off the topics that nothing in the entry resolves to any more.
The same titles in another order or number lead to the same one. -/
theorem unsubscribe_run_exact (history : List (Time × Operation)) (client : ClientId) (now : Time)
    (raws : List String) :
    let r := (empty.run history).1
    let steps := empty.transcript history
    let call := r.apply now (.unsubscribe client raws)
    (call.2 = .failed .emptyTitles ↔ raws = []) ∧
      (call.2 = .failed (.clientNotFound client) ↔ raws ≠ [] ∧ ¬IsKnown steps client) ∧
      (call.2 = .failed (.noSubscriptions client) ↔
        raws ≠ [] ∧ IsKnown steps client ∧ ∀ raw, ¬Holds steps client raw) ∧
      (raws ≠ [] → ∀ raw, Holds steps client raw →
        call.2 = .unsubscribed (giveUpResults (r.held client) raws) ∧
          r.Unsubscribed call.1 client raws) ∧
      ∀ raws', (∀ raw, raw ∈ raws' ↔ raw ∈ raws) →
        (r.apply now (.unsubscribe client raws')).1 = call.1 := by
  intro r steps call
  have hwf : r.WellFormed := wellFormed_empty.run history
  have hknown : (r.clients[client]?).isSome = true ↔ IsKnown steps client :=
    isSome_clients_run_empty history client
  have hholds : ∀ raw, (r.held client raw).isSome = true ↔ Holds steps client raw :=
    isSome_held_run_empty history client
  -- The history tells who is known and what is held; the rest is about the state alone.
  refine ⟨?_, ?_, ?_, ?_, ?_⟩
  · exact r.apply_unsubscribe_eq_emptyTitles_iff now client raws
  · rw [← hknown, Option.not_isSome_iff_eq_none]
    exact r.apply_unsubscribe_eq_clientNotFound_iff now client raws
  · simp only [← hknown, ← hholds, Option.not_isSome_iff_eq_none]
    exact r.apply_unsubscribe_eq_noSubscriptions_iff now client raws
  · intro hne raw hraw
    exact hwf.apply_unsubscribe now hne ((hholds raw).mpr hraw)
  · exact fun raws' hmem => hwf.apply_unsubscribe_congr now hmem

/-- Client 2 is on a topic of client 1 under two spellings, and alone on another one. It names the
first spelling twice, a title that it does not hold, and the topic of its own. -/
theorem unsubscribe_run_exact_aliases :
    let history : List (Time × Operation) :=
      [(1, .subscribe 1 ["/a", "b/#"] .qos1), (2, .subscribe 2 ["a", "/a/", "+/c"] .qos2)]
    let raws := ["a", "/a", "+/c", "a"]
    let r := (empty.run history).1
    let call := r.apply 3 (.unsubscribe 2 raws)
    raws ≠ [] ∧ Holds (empty.transcript history) 2 "+/c" ∧
      call.2 = .unsubscribed [⟨"a", none⟩, ⟨"/a", some (.notSubscribed "/a")⟩, ⟨"+/c", none⟩,
        ⟨"a", some (.notSubscribed "a")⟩] ∧
      r.Unsubscribed call.1 2 raws := by
  intro history raws r call
  have hne : raws ≠ [] := List.cons_ne_nil _ _
  have hholds : Holds (empty.transcript history) 2 "+/c" :=
    (isSome_held_run_empty history 2 "+/c").mp rfl
  obtain ⟨-, -, -, hcall, -⟩ := unsubscribe_run_exact history 2 3 raws
  obtain ⟨hanswer, hnext⟩ := hcall hne "+/c" hholds
  exact ⟨hne, hholds, hanswer, hnext⟩

end Registry

end PubSub
