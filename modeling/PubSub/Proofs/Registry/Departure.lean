import PubSub.Proofs.Registry.Isolation

/-! # What a client leaves behind

A client that unsubscribes from everything is forgotten. What remains is what the others have: every
topic without the client, and no topic that the client was alone on.

* **`Index.leftBy i client key`** — the topic under the key as the client leaves it behind.
* **`Registry.WellFormed.get?_unsubscribeAll`** — unsubscribing from everything leaves all topics
  that way.
* **`Registry.WellFormed.leftBy_apply`** — no call of a client changes what it would leave behind:
  the topics it joins were there without it, and those it creates go with it.
* **`Registry.WellFormed.unsubscribeAll_run`** — a client may leave before or after a session of its
  own, the state is the same.
* **`Registry.run_session_unsubscribeAll`** — hence a client that comes, does what it likes and
  leaves has changed nothing. -/

namespace PubSub

open Std (ExtTreeMap)

/-! ## (1) Topics without a client -/

namespace Topic

variable (topic : Topic) (client : ClientId)

/-- A client that is not subscribed can be taken off without effect. -/
theorem removeClient_eq_self {topic : Topic} {client : ClientId}
    (h : topic.subscribers[client]? = none) : topic.removeClient client = topic := by
  have hsubscribers : topic.subscribers.erase client = topic.subscribers := by
    refine ExtTreeMap.ext_getElem? fun other => ?_
    simp only [ExtTreeMap.getElem?_erase, Std.compare_eq_iff_eq]
    by_cases hclient : client = other
    · rw [if_pos hclient, ← hclient, h]
    · rw [if_neg hclient]
  rw [removeClient, hsubscribers]

/-- A client that has left is not there to leave again. -/
@[simp] theorem removeClient_removeClient :
    (topic.removeClient client).removeClient client = topic.removeClient client := by
  refine removeClient_eq_self ?_
  rw [getElem?_removeClient, if_pos rfl]

/-- Whoever has just been added and is taken off leaves the topic as it would be without. -/
@[simp] theorem removeClient_addClient (now : Time) :
    (topic.addClient client now).removeClient client = topic.removeClient client := by
  have hsubscribers :
      (topic.subscribers.insert client now).erase client = topic.subscribers.erase client := by
    refine ExtTreeMap.ext_getElem? fun other => ?_
    simp only [ExtTreeMap.getElem?_erase, ExtTreeMap.getElem?_insert]
    split <;> rfl
  rw [removeClient, removeClient, addClient, hsubscribers]

end Topic

namespace Index

/-- The topic under a key **as a client leaves it behind**: without the client, and none if nobody
else is on it. -/
def leftBy (i : Index) (client : ClientId) (key : TopicKey) : Option Topic :=
  ((i.get? key).map (·.removeClient client)).filter (·.subscriberCount != 0)

/-- A release leaves the topic behind, and no other one changes. -/
theorem get?_release_eq_leftBy (i : Index) (client : ClientId) (key other : TopicKey) :
    (i.release client key).get? other =
      if key = other then i.leftBy client key else i.get? other :=
  get?_release i client key other

/-- A client that is on no topic leaves them as they are. -/
theorem Filed.leftBy_eq_get? {i : Index} (h : i.Filed) {client : ClientId} {key : TopicKey}
    (hsince : i.since client key = none) : i.leftBy client key = i.get? key := by
  rw [leftBy]
  cases hget : i.get? key with
  | none => rfl
  | some topic =>
    rw [since, hget, Option.bind_some] at hsince
    rw [Option.map_some, Topic.removeClient_eq_self hsince, Option.filter_some, if_pos]
    simpa using (h key topic hget).subscribed

/-- **A release does not change what is left behind.** -/
@[simp] theorem leftBy_release (i : Index) (client : ClientId) (key other : TopicKey) :
    (i.release client key).leftBy client other = i.leftBy client other := by
  by_cases hkey : key = other
  · subst hkey
    rw [leftBy, get?_release_eq_leftBy, if_pos rfl, leftBy]
    cases i.get? key with
    | none => rfl
    | some topic =>
      -- the topic is dropped now, or it would be dropped neither now nor later
      by_cases hcount : (topic.removeClient client).subscriberCount = 0
      · simp [hcount, Option.filter_some]
      · simp [hcount, Option.filter_some]
  · rw [leftBy, get?_release_eq_leftBy, if_neg hkey, leftBy]

/-- Releasing topics on behalf of the client changes nothing of what the client leaves behind. -/
theorem leftBy_foldl_release (keys : List TopicKey) (i : Index) (client : ClientId)
    (key : TopicKey) :
    (keys.foldl (fun i key => i.release client key) i).leftBy client key = i.leftBy client key := by
  induction keys generalizing i with
  | nil => rfl
  | cons k keys ih => rw [List.foldl_cons, ih, leftBy_release]

/-- The topics after releases from several keys. -/
theorem get?_foldl_release (keys : List TopicKey) (i : Index) (client : ClientId)
    (key : TopicKey) :
    (keys.foldl (fun i key => i.release client key) i).get? key =
      if key ∈ keys then i.leftBy client key else i.get? key := by
  induction keys generalizing i with
  | nil => simp
  | cons k keys ih =>
    rw [List.foldl_cons, ih, leftBy_release, get?_release_eq_leftBy]
    by_cases hmem : key ∈ keys
    · simp [hmem]
    · by_cases hkey : k = key
      · simp [hkey, hmem]
      · simp [hkey, Ne.symm hkey, hmem]

/-- An index is determined by its topics. -/
theorem ext_get? {i i' : Index} (h : ∀ key, i.get? key = i'.get? key) : i = i' := by
  obtain ⟨plain, wildcard⟩ := i
  obtain ⟨plain', wildcard'⟩ := i'
  rw [Index.mk.injEq]
  exact ⟨ExtTreeMap.ext_getElem? fun title => h ⟨title, .plain⟩,
    ExtTreeMap.ext_getElem? fun title => h ⟨title, .wildcard⟩⟩

end Index

namespace Registry

/-- A registry is its topics, its entries and its policy. -/
theorem ext_parts {r r' : Registry} (hindex : r.index = r'.index)
    (hclients : r.clients = r'.clients) (hpolicy : r.policy = r'.policy) : r = r' := by
  obtain ⟨index, clients, policy⟩ := r
  rw [Registry.mk.injEq]
  exact ⟨hindex, hclients, hpolicy⟩

/-! ## (2) What the calls of a client leave behind -/

/-- **Enrolling does not change what is left behind**: a topic that was there is the same without
the client, and a new one is nobody's without the client. -/
theorem leftBy_enroll (r : Registry) (client : ClientId) (raw : String) (title : Title)
    (level : Level) (now : Time) (key : TopicKey) :
    (r.enroll client raw title level now).1.index.leftBy client key =
      r.index.leftBy client key := by
  rw [enroll, Index.leftBy, Index.get?_insert]
  by_cases hkey : title.key = key
  · subst hkey
    rw [if_pos rfl, Index.leftBy]
    cases r.index.get? title.key with
    | some topic => simp
    | none =>
      -- a new topic has no subscriber but the client
      have halone :
          (((Topic.new title now).addClient client now).setLevel level).removeClient client =
            (Topic.new title now).setLevel level :=
        (congrArg (·.setLevel level) (Topic.removeClient_addClient _ client now)).trans
          (congrArg (·.setLevel level) (Topic.removeClient_eq_self rfl))
      have hcount : ((Topic.new title now).setLevel level).subscriberCount = 0 := rfl
      rw [Option.map_some, halone, Option.filter_some, hcount]
      rfl
  · rw [if_neg hkey, Index.leftBy]

/-- **What a client leaves behind is not changed by what it subscribes to.** -/
theorem leftBy_subscribe (r : Registry) (client : ClientId) (level : Level) (now : Time)
    (raws : List String) (key : TopicKey) :
    (r.subscribe client level now raws).registry.index.leftBy client key =
      r.index.leftBy client key := by
  induction raws generalizing r with
  | nil => rfl
  | cons raw raws ih =>
    rw [subscribe_cons_registry, ih]
    rcases subscribeOne_cases r client raw level now with
      ⟨error, hregistry, -⟩ | ⟨title, granted, -, -, hregistry, -⟩
    · rw [hregistry]
    · rw [hregistry, leftBy_enroll]

/-- Nor is it by a title that the client gives up. -/
theorem leftBy_giveUp (i : Index) (e : Entry) (raw : String) (key : TopicKey) :
    (giveUp i e raw).1.leftBy e.client key = i.leftBy e.client key := by
  rw [giveUp]
  cases e.get? raw with
  | none => rfl
  | some released =>
    cases hrest : (e.erase raw).references released with
    | true => simp [hrest]
    | false => simp [hrest]

/-- Nor by many. -/
theorem leftBy_giveUpAll (i : Index) (e : Entry) (raws : List String) (key : TopicKey) :
    (giveUpAll i e raws).1.leftBy e.client key = i.leftBy e.client key := by
  induction raws generalizing i e with
  | nil => rfl
  | cons raw raws ih =>
    have hrest := ih (giveUp i e raw).1 (giveUp i e raw).2.1
    rw [client_giveUp] at hrest
    rw [giveUpAll_cons, hrest, leftBy_giveUp]

namespace WellFormed

variable {r : Registry}

/-- A client without an entry is on no topic. -/
theorem since_eq_none (h : r.WellFormed) {client : ClientId} (hentry : r.clients[client]? = none)
    (key : TopicKey) : r.index.since client key = none := by
  rw [← Option.not_isSome_iff_eq_none, h.subscribed_iff]
  rintro ⟨raw, hheld⟩
  rw [held, hentry] at hheld
  cases hheld

/-- **Unsubscribing from everything** leaves every topic as the client leaves it behind. -/
theorem get?_unsubscribeAll (h : r.WellFormed) (client : ClientId) (key : TopicKey) :
    (r.unsubscribeAll client).index.get? key = r.index.leftBy client key := by
  rw [Registry.unsubscribeAll]
  cases hentry : r.clients[client]? with
  | none => exact (h.filed.leftBy_eq_get? (h.since_eq_none hentry key)).symm
  | some entry =>
    dsimp only
    rw [Index.get?_foldl_release]
    by_cases hmem : key ∈ entry.keys
    · rw [if_pos hmem]
    · -- the client is on no topic but those of its raw titles
      rw [if_neg hmem]
      refine (h.filed.leftBy_eq_get? ?_).symm
      have hnone : r.index.since entry.client key = none := by
        refine (h.agrees hentry).since_eq_none ?_
        rw [← Bool.not_eq_true, Entry.references_iff, ← Entry.mem_keys_iff]
        exact hmem
      rwa [h.entry_client client entry hentry] at hnone

/-- **No call of a client changes what it leaves behind.** -/
theorem leftBy_apply (h : r.WellFormed) {client : ClientId} (now : Time) {op : Operation}
    (hop : op.caller? = some client) (key : TopicKey) :
    (r.apply now op).1.index.leftBy client key = r.index.leftBy client key := by
  cases op with
  | subscribe caller titles level =>
    obtain rfl := Option.some.inj hop
    exact leftBy_subscribe r caller level now titles key
  | unsubscribe caller titles =>
    obtain rfl := Option.some.inj hop
    rcases apply_unsubscribe_eq_or r now caller titles with heq | ⟨entry, hentry, heq⟩
    · rw [heq]
    · -- the entry is that of the client, so the client is who leaves
      have hleft := leftBy_giveUpAll r.index entry titles key
      rw [h.entry_client caller entry hentry] at hleft
      rw [heq]
      exact hleft
  | unsubscribeAll caller =>
    obtain rfl := Option.some.inj hop
    rw [Registry.apply, Registry.unsubscribeAll]
    cases r.clients[caller]? with
    | none => rfl
    | some entry => exact Index.leftBy_foldl_release entry.keys r.index caller key
  | resolve _ _ | topics _ _ | subscribers _ _ | subscriptions _ _ | setPolicy _ => cases hop

/-! ## (3) Sessions of a client -/

/-- **A session**: calls of one client, with any questions and any change of the policy in between,
change nothing for the others and nothing of what the client leaves behind. -/
theorem run_session (h : r.WellFormed) {client : ClientId} {session : List (Time × Operation)}
    (hsession : ∀ step ∈ session, step.2.caller? = some client ∨ step.2.caller? = none) :
    (∀ other, other ≠ client → (r.run session).1.clients[other]? = r.clients[other]?) ∧
      ∀ key, (r.run session).1.index.leftBy client key = r.index.leftBy client key := by
  induction session generalizing r with
  | nil => exact ⟨fun _ _ => rfl, fun _ => rfl⟩
  | cons step session ih =>
    obtain ⟨now, op⟩ := step
    obtain ⟨hop, hrest⟩ := List.forall_mem_cons.mp hsession
    obtain ⟨hentries, hleft⟩ := ih (h.apply now op) hrest
    rw [run_cons]
    rcases hop with hcall | hnone
    · refine ⟨fun other hother => ?_, fun key => ?_⟩
      · rw [hentries other hother, (h.agreeBut_apply now hcall).entry_eq other hother]
      · rw [hleft, h.leftBy_apply now hcall]
    · -- only the policy may be another one now
      rw [apply_of_caller?_eq_none r now hnone] at hentries hleft ⊢
      exact ⟨hentries, hleft⟩

/-- **Leaving after a session** leads where leaving before it would have led. The policy is the one
that is in force then. -/
theorem unsubscribeAll_run (h : r.WellFormed) {client : ClientId}
    {session : List (Time × Operation)}
    (hsession : ∀ step ∈ session, step.2.caller? = some client ∨ step.2.caller? = none) :
    (r.run session).1.unsubscribeAll client =
      { r.unsubscribeAll client with policy := (r.run session).1.policy } := by
  obtain ⟨hentries, hleft⟩ := h.run_session hsession
  refine ext_parts (Index.ext_get? fun key => ?_) (ExtTreeMap.ext_getElem? fun other => ?_) ?_
  · -- what is left behind is what would have been left behind before the session
    rw [(h.run session).get?_unsubscribeAll, hleft, h.get?_unsubscribeAll]
  · rw [getElem?_clients_unsubscribeAll, getElem?_clients_unsubscribeAll]
    by_cases hother : client = other
    · rw [if_pos hother, if_pos hother]
    · rw [if_neg hother, if_neg hother, hentries other (Ne.symm hother)]
  · exact policy_unsubscribeAll _ client

/-- A client that comes without an entry and leaves at the end of its session has changed nothing.
The policy is the one that is in force then. -/
theorem unsubscribeAll_run_session (h : r.WellFormed) {client : ClientId}
    (hentry : r.clients[client]? = none) {session : List (Time × Operation)}
    (hsession : ∀ step ∈ session, step.2.caller? = some client ∨ step.2.caller? = none) :
    (r.run session).1.unsubscribeAll client = { r with policy := (r.run session).1.policy } := by
  have hunknown : r.unsubscribeAll client = r := by
    rw [Registry.unsubscribeAll, hentry]
  rw [h.unsubscribeAll_run hsession, hunknown]

end WellFormed

/-- Calls of a client leave the policy as it is. -/
theorem policy_run_of_caller? (r : Registry) {client : ClientId} {session : List (Time × Operation)}
    (h : ∀ step ∈ session, step.2.caller? = some client) :
    (r.run session).1.policy = r.policy := by
  refine policy_run r fun step hstep policy hop => ?_
  have hcaller := h step hstep
  rw [hop] at hcaller
  cases hcaller

/-- **A session leaves no trace.** Take any state that a history leads to, and a client without an
entry in it. Whatever the client calls, with whatever answers, at the end it unsubscribes from
everything, and the state is the one before: the same topics with the same subscribers, times and
levels, the same entries and the same policy. (A policy that changes its mind during the session is
one that is replaced between the calls: `WellFormed.unsubscribeAll_run_session`.) -/
theorem run_session_unsubscribeAll (history : List (Time × Operation)) {client : ClientId}
    (hentry : (empty.run history).1.clients[client]? = none) {session : List (Time × Operation)}
    (hsession : ∀ step ∈ session, step.2.caller? = some client) (now : Time) :
    ((empty.run history).1.run (session ++ [(now, .unsubscribeAll client)])).1 =
      (empty.run history).1 := by
  have hwf := wellFormed_empty.run history
  have hcalls : ∀ step ∈ session, step.2.caller? = some client ∨ step.2.caller? = none :=
    fun step hstep => Or.inl (hsession step hstep)
  have hpolicy := policy_run_of_caller? (empty.run history).1 hsession
  rw [run_append]
  exact (hwf.unsubscribeAll_run_session hentry hcalls).trans (ext_parts rfl rfl hpolicy)

/-- Client 2 joins a topic of client 1 under two spellings, creates another topic at a level of its
own, and fails with the other titles. -/
theorem run_session_unsubscribeAll_guest :
    (empty.run [(1, .subscribe 1 ["/a", "b/#"] .qos1)]).1.clients[(2 : ClientId)]? = none ∧
      ((empty.run [(1, .subscribe 1 ["/a", "b/#"] .qos1)]).1.run
          ([(2, .subscribe 2 ["a", "/a/", "+/c", "#/#"] .qos2), (3, .unsubscribe 2 ["a", "/x"])] ++
            [(4, .unsubscribeAll 2)])).1 =
        (empty.run [(1, .subscribe 1 ["/a", "b/#"] .qos1)]).1 := by
  have hentry :
      (empty.run [(1, .subscribe 1 ["/a", "b/#"] .qos1)]).1.clients[(2 : ClientId)]? = none := by
    rfl
  refine ⟨hentry, run_session_unsubscribeAll _ hentry ?_ 4⟩
  simp [Operation.caller?]

end Registry

end PubSub
