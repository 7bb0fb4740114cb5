import PubSub.Proofs.Registry.Lifetime
import PubSub.Proofs.Registry.Permission

/-! # Where subscriptions come from

A topic keeps with every subscriber the time at which it subscribed. This file tells from the history
alone which step that was.

* **`Registry.HoldsFor r client key`** — the client holds a raw title that names the topic.
* **`Registry.AcceptedAt`**, **`Registry.LastAcceptedAt`** — the steps at which a client subscribes a
  raw title for the topic and is admitted, the last of them.
* **`Registry.since_stateAt_succ_of_acceptedAt`** — such a step sets the time.
* **`Registry.since_stateAt_succ_of_not_acceptedAt`** — any other step leaves the time as it is, or
  ends the subscription.
* **`Registry.exists_acceptance`** — so the time is that of the last accepted step, and the client has
  been subscribed ever since.
* **`Operation.clocked`**, **`Registry.since_run_clocked`** — the same with steps that are numbered:
  the time is the number of the step. -/

namespace PubSub

namespace Registry

/-! ## (1) Raw titles for a topic -/

/-- The client **holds a raw title for** the topic under the key. -/
def HoldsFor (r : Registry) (client : ClientId) (key : TopicKey) : Prop :=
  ∃ raw title, (r.held client raw).isSome = true ∧ Title.canonicalize raw = .ok title ∧
    title.key = key

/-- Whoever holds a raw title for a topic is subscribed to it, and the other way round. -/
theorem WellFormed.holdsFor_iff {r : Registry} (h : r.WellFormed) (client : ClientId)
    (key : TopicKey) : r.HoldsFor client key ↔ (r.index.since client key).isSome = true := by
  rw [h.subscribed_iff]
  constructor
  · rintro ⟨raw, title, hheld, hraw, rfl⟩
    exact ⟨raw, h.held_eq hraw hheld⟩
  · rintro ⟨raw, hheld⟩
    obtain ⟨title, hraw, hkey⟩ := h.held_key client raw key hheld
    exact ⟨raw, title, by rw [hheld]; rfl, hraw, hkey⟩

/-! ## (2) Accepted steps -/

/-- At this step the client **is accepted** for the topic under the key: it subscribes a raw title
that names the topic, and the policy in force lets it pass. -/
def AcceptedAt (history : List (Time × Operation)) (client : ClientId) (key : TopicKey) (i : Nat) :
    Prop :=
  ∃ now titles level, history[i]? = some (now, .subscribe client titles level) ∧
    (stateAt history i).AdmitsSome client titles key

/-- At this step the client is accepted for the topic under the key **for the last time**. -/
def LastAcceptedAt (history : List (Time × Operation)) (client : ClientId) (key : TopicKey)
    (i : Nat) : Prop :=
  AcceptedAt history client key i ∧ ∀ j, i < j → ¬AcceptedAt history client key j

variable {history : List (Time × Operation)} {client : ClientId} {key : TopicKey} {n : Nat}

/-- **An accepted step** sets the time of the subscription. -/
theorem since_stateAt_succ_of_acceptedAt (h : AcceptedAt history client key n) :
    ∃ now op, history[n]? = some (now, op) ∧
      (stateAt history (n + 1)).index.since client key = some now := by
  obtain ⟨now, titles, level, hstep, hadmits⟩ := h
  refine ⟨now, _, hstep, ?_⟩
  rw [stateAt_succ hstep]
  rcases since_subscribe_cases (stateAt history n) client client level now titles key with
    ⟨-, hsince⟩ | ⟨hnot, -⟩
  · exact hsince
  · exact absurd ⟨rfl, hadmits⟩ hnot

/-- **A call to subscribe** that is not accepted, as the title is invalid or the policy refuses it,
leaves the subscription as it is. -/
theorem since_stateAt_succ_of_subscribe {now : Time} {caller : ClientId} {titles : List String}
    {level : Level} (hstep : history[n]? = some (now, .subscribe caller titles level))
    (h : ¬AcceptedAt history client key n) :
    (stateAt history (n + 1)).index.since client key =
      (stateAt history n).index.since client key := by
  rw [stateAt_succ hstep]
  rcases since_subscribe_cases (stateAt history n) caller client level now titles key with
    ⟨⟨rfl, hadmits⟩, -⟩ | ⟨-, hsince⟩
  · exact absurd ⟨now, titles, level, hstep, hadmits⟩ h
  · exact hsince

/-- **Any step that is not accepted** leaves the subscription as it is, or ends it. -/
theorem since_stateAt_succ_of_not_acceptedAt (h : ¬AcceptedAt history client key n) :
    (stateAt history (n + 1)).index.since client key =
        (stateAt history n).index.since client key ∨
      (stateAt history (n + 1)).index.since client key = none := by
  cases hstep : history[n]? with
  | none => exact Or.inl (by rw [stateAt_succ_of_none hstep])
  | some step =>
    obtain ⟨now, op⟩ := step
    by_cases hop : ∃ caller titles level, op = .subscribe caller titles level
    · obtain ⟨caller, titles, level, rfl⟩ := hop
      exact Or.inl (since_stateAt_succ_of_subscribe hstep h)
    · simp only [not_exists] at hop
      rw [stateAt_succ hstep]
      exact since_apply_of_ne_subscribe _ now hop client key

/-- **Every subscription has been accepted.** If a client is subscribed to a topic after some steps,
then one of them was accepted and none after it; the subscription has the time of that step, and has
been there ever since. -/
theorem exists_acceptance {time : Time}
    (h : (stateAt history n).index.since client key = some time) :
    ∃ i, i < n ∧ AcceptedAt history client key i ∧ (∃ op, history[i]? = some (time, op)) ∧
      (∀ j, i < j → j < n → ¬AcceptedAt history client key j) ∧
      ∀ j, i < j → j ≤ n → (stateAt history j).index.since client key = some time := by
  induction n with
  | zero =>
    rw [stateAt_zero, index_empty, Index.since_empty] at h
    cases h
  | succ n ih =>
    by_cases haccepted : AcceptedAt history client key n
    · -- the last step has set the time
      obtain ⟨now, op, hstep, hsince⟩ := since_stateAt_succ_of_acceptedAt haccepted
      obtain rfl : now = time := Option.some.inj (hsince.symm.trans h)
      refine ⟨n, by omega, haccepted, ⟨op, hstep⟩, fun j hnj hj => absurd hnj (by omega), ?_⟩
      intro j hnj hj
      obtain rfl : j = n + 1 := by omega
      exact h
    · -- the last step has left the time as it was
      rcases since_stateAt_succ_of_not_acceptedAt haccepted with hsame | hnone
      · rw [h] at hsame
        obtain ⟨i, hi, hacc, hstep, hlast, hkeeps⟩ := ih hsame.symm
        refine ⟨i, by omega, hacc, hstep, fun j hij hj => ?_, fun j hij hj => ?_⟩
        · by_cases hjn : j = n
          · exact hjn ▸ haccepted
          · exact hlast j hij (by omega)
        · by_cases hjn : j = n + 1
          · exact hjn ▸ h
          · exact hkeeps j hij (by omega)
      · rw [h] at hnone
        cases hnone

/-- Where the topic is absent, a subscription that has been there since a step has not begun. -/
theorem le_of_birth_eq_none {i first : Nat} {time : Time}
    (hkeeps : ∀ j, i < j → j ≤ n → (stateAt history j).index.since client key = some time)
    (hfirst : first ≤ n) (habsent : (stateAt history first).index.birth key = none) :
    first ≤ i := by
  by_contra hlt
  have hthere := hkeeps first (by omega) hfirst
  obtain ⟨topic, hget, -⟩ := (Index.since_eq_some_iff _ client key time).mp hthere
  rw [(Index.birth_eq_none_iff _ key).mp habsent] at hget
  cases hget

end Registry

/-! ## (3) Steps with numbers -/

/-- The history of operations whose times are **the numbers of the steps**. -/
def Operation.clocked (ops : List Operation) : List (Time × Operation) :=
  ops.mapIdx fun i op => ((i : Time), op)

/-- A step that is clocked by its number takes place at this time. -/
theorem Operation.eq_of_getElem?_clocked {ops : List Operation} {i : Nat} {now : Time}
    {op : Operation} (h : (clocked ops)[i]? = some (now, op)) : now = i := by
  rw [clocked, List.getElem?_mapIdx, Option.map_eq_some_iff] at h
  obtain ⟨op', -, heq⟩ := h
  exact (Prod.mk.inj heq).1.symm

namespace Registry

/-- **Provenance of subscriptions.** Take any history in which the time is the number of the step,
and any client and topic.

If the topic lists the client at the end, then with the number of the last step at which the client
subscribed a raw title for the topic and the policy then in force let it pass; the topic is not
younger than that, and since then the client has held a raw title for it all the time. A call to
subscribe at which no such title is accepted leaves the recorded time as it is, and so does any other
step after which the client still holds a raw title for the topic. -/
theorem since_run_clocked (ops : List Operation) (client : ClientId) (key : TopicKey) :
    let history := Operation.clocked ops
    (∀ topic time, (empty.run history).1.index.get? key = some topic →
      topic.subscribers[client]? = some time →
        ∃ i : Nat, time = i ∧ LastAcceptedAt history client key i ∧ topic.createdAt ≤ time ∧
          ∀ j, i < j → j ≤ history.length → (stateAt history j).HoldsFor client key) ∧
    (∀ j now caller titles level, history[j]? = some (now, .subscribe caller titles level) →
      ¬AcceptedAt history client key j →
        (stateAt history (j + 1)).index.since client key =
          (stateAt history j).index.since client key) ∧
    ∀ j, ¬AcceptedAt history client key j → (stateAt history (j + 1)).HoldsFor client key →
      (stateAt history (j + 1)).index.since client key =
        (stateAt history j).index.since client key := by
  intro history
  refine ⟨fun topic time htopic htime => ?_, fun j now caller titles level hstep hnot => ?_,
    fun j hnot hholds => ?_⟩
  · have hsince : (stateAt history history.length).index.since client key = some time := by
      rw [stateAt_length]
      exact (Index.since_eq_some_iff _ client key time).mpr ⟨topic, htopic, htime⟩
    obtain ⟨i, hi, haccepted, ⟨op, hstep⟩, hlast, hkeeps⟩ := exists_acceptance hsince
    have hbirth : (stateAt history history.length).index.birth key = some topic.birth := by
      rw [stateAt_length, Index.birth, htopic, Option.map_some]
    obtain ⟨first, hfirst, habsent, ⟨_, _, hcall⟩, -⟩ := exists_beginning hbirth
    obtain rfl : time = i := Operation.eq_of_getElem?_clocked hstep
    have hcreated : topic.createdAt = first := Operation.eq_of_getElem?_clocked hcall
    -- the client cannot have been subscribed before the topic came to be
    have hle : first ≤ i := le_of_birth_eq_none hkeeps (by omega) habsent
    refine ⟨i, rfl, ⟨haccepted, fun j hij hlater => ?_⟩, hcreated ▸ Int.ofNat_le.mpr hle,
      fun j hij hj => ?_⟩
    · -- beyond the end there are no steps
      obtain ⟨_, _, _, hstep', -⟩ := id hlater
      obtain ⟨hj, -⟩ := List.getElem?_eq_some_iff.mp hstep'
      exact hlast j hij hj hlater
    · rw [(wellFormed_stateAt history j).holdsFor_iff, hkeeps j hij hj]
      rfl
  · exact since_stateAt_succ_of_subscribe hstep hnot
  · rcases since_stateAt_succ_of_not_acceptedAt hnot with hsame | hnone
    · exact hsame
    · rw [(wellFormed_stateAt history (j + 1)).holdsFor_iff, hnone] at hholds
      cases hholds

/-- The client renews its subscription under another spelling at step 1 and gives this spelling up at
step 2; at step 4 it is refused. -/
example : (empty.run (Operation.clocked
      [.subscribe 1 ["/a"] .qos0, .subscribe 1 ["a/"] .qos1, .unsubscribe 1 ["a/"],
        .setPolicy (some fun _ _ => some "closed"), .subscribe 1 ["a"] .qos2])).1.index.since 1
      ⟨"/a", .plain⟩ = some 1 := by
  rfl

end Registry

end PubSub
