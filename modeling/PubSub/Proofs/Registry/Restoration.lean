import PubSub.Proofs.Registry.Lifetime
import PubSub.Proofs.Registry.Outline
import PubSub.Proofs.Registry.Survey

/-! # Restoring a registry from its listings

A registry is gone when it stops, and all that comes back is what is subscribed again. Its listings
tell enough for this: the subscriptions that they show, made again one by one on an empty registry,
lead to the same topics with the same levels and the same subscribers.

* **`Index.LevelsIn i i'`** — every topic of one index is in the other, at the same level.
* **`Registry.apply_call`** — a recorded subscription can be made in a registry that has the topic at
  the recorded level or not at all.
* **`Registry.run_calls`** — recorded subscriptions can all be made, in any order, and bring their
  topics at the recorded levels.
* **`Registry.answersAlike_run_replay`** — so a registry can be restored from its listings. -/

namespace PubSub

/-! ## (1) Making subscriptions again -/

namespace Enrollment

/-- The **call** that makes a subscription again. -/
def call (e : Enrollment) : Operation := .subscribe e.client [e.title] e.level

/-- The answer to the call if it **succeeds** and the topic has the level of before. -/
def answer (e : Enrollment) : Answer :=
  .subscribed [⟨e.title, .ok ⟨e.title, e.level⟩⟩] [(e.title, e.client)]

/-- The calls that make subscriptions again, each at its own time. -/
def calls (replay : List (Time × Enrollment)) : List (Time × Operation) :=
  replay.map fun step => (step.1, step.2.call)

@[simp] theorem calls_cons (now : Time) (e : Enrollment) (replay : List (Time × Enrollment)) :
    calls ((now, e) :: replay) = (now, e.call) :: calls replay := rfl

end Enrollment

namespace Index

/-- The **level** of the topic under a key, if there is one. -/
def level? (i : Index) (key : TopicKey) : Option Level := (i.birth key).map Birth.level

/-- All topics of an index are found in another one, at **the same levels**. -/
def LevelsIn (i i' : Index) : Prop :=
  ∀ key level, i.level? key = some level → i'.level? key = some level

/-- The level of a topic that is there is the one that is shown. -/
theorem level?_of_get? {i : Index} {key : TopicKey} {topic : Topic}
    (hget : i.get? key = some topic) : i.level? key = some topic.level := by
  rw [level?, birth, hget]
  rfl

end Index

/-- A recorded enrollment is on a topic that has its level. -/
theorem Enrollment.RecordedIn.exists_level?_eq {e : Enrollment} {i : Index} (h : e.RecordedIn i) :
    ∃ title, Title.canonicalize e.title = .ok title ∧ title.text = e.title ∧
      i.level? title.key = some e.level := by
  obtain ⟨key, topic, ⟨title, hraw, htext, rfl⟩, hget, hlevel, -⟩ := h
  exact ⟨title, hraw, htext, by rw [Index.level?_of_get? hget, hlevel]⟩

namespace Registry

/-- **Enrolling a client** gives a new topic its level, and leaves the levels of the others. -/
theorem level?_enroll (r : Registry) (client : ClientId) (raw : String) (title : Title)
    (level : Level) (now : Time) (key : TopicKey) :
    (r.enroll client raw title level now).1.index.level? key =
      if title.key = key then some ((r.index.level? key).getD level) else r.index.level? key := by
  rw [Index.level?, birth_enroll, Index.level?]
  split
  · cases r.index.birth key <;> rfl
  · rfl

/-- **One call** succeeds in an open registry, unless the topic is there at another level. -/
theorem apply_call {r : Registry} (hpolicy : r.policy = .allowAll) {e : Enrollment} {title : Title}
    (hraw : Title.canonicalize e.title = .ok title) (htext : title.text = e.title)
    (hlevel : ∀ level, r.index.level? title.key = some level → level = e.level) (now : Time) :
    r.apply now e.call = ((r.enroll e.client e.title title e.level now).1, e.answer) := by
  have hadmits : r.Admits e.client e.title title := ⟨hraw, by rw [hpolicy]; rfl⟩
  have hgranted : (r.enroll e.client e.title title e.level now).2 = e.level := by
    rw [enroll_snd]
    cases hbirth : r.index.birth title.key with
    | none => rfl
    | some b => exact hlevel b.level (by rw [Index.level?, hbirth]; rfl)
  rw [Enrollment.call, apply, subscribe, subscribeOne_of_admits hadmits, subscribe, hgranted, htext]
  rfl

/-- Enrolling a client brings the topic at the level asked for, or keeps the one that is there. -/
theorem levelsIn_enroll {i : Index} {r : Registry} (h : r.index.LevelsIn i) {title : Title}
    {level : Level} (hlevel : i.level? title.key = some level) (client : ClientId) (raw : String)
    (now : Time) : (r.enroll client raw title level now).1.index.LevelsIn i := by
  intro key level' hthere
  rw [level?_enroll] at hthere
  by_cases hkey : title.key = key
  · subst hkey
    rw [if_pos rfl] at hthere
    cases hbefore : r.index.level? title.key with
    | none => rw [hlevel, ← hthere, hbefore, Option.getD_none]
    | some present => rw [h title.key present hbefore, ← hthere, hbefore, Option.getD_some]
  · rw [if_neg hkey] at hthere
    exact h key level' hthere

/-- **All calls**: enrollments that are recorded in one index can be made, in any order, in an open
registry that has nothing but topics of this index at the same levels. -/
theorem run_calls {i : Index} {r : Registry} (hpolicy : r.policy = .allowAll)
    (hlevels : r.index.LevelsIn i) {replay : List (Time × Enrollment)}
    (hrecorded : ∀ step ∈ replay, step.2.RecordedIn i) :
    (r.run (Enrollment.calls replay)).2 = replay.map (fun step => step.2.answer) ∧
      (r.run (Enrollment.calls replay)).1.index.LevelsIn i ∧
      ∀ client key, ((r.run (Enrollment.calls replay)).1.index.since client key).isSome = true ↔
        (r.index.since client key).isSome = true ∨
          ∃ step ∈ replay, step.2.client = client ∧ step.2.OnTopic key := by
  induction replay generalizing r with
  | nil => exact ⟨rfl, hlevels, fun client key => by simp [Enrollment.calls]⟩
  | cons step replay ih =>
    obtain ⟨now, e⟩ := step
    obtain ⟨hfirst, hrest⟩ := List.forall_mem_cons.mp hrecorded
    obtain ⟨title, hraw, htext, hlevel⟩ := hfirst.exists_level?_eq
    -- the first call succeeds, as its topic is absent or has the recorded level
    have hcall : r.apply now e.call =
        ((r.enroll e.client e.title title e.level now).1, e.answer) := by
      refine apply_call hpolicy hraw htext (fun level hthere => ?_) now
      exact Option.some.inj ((hlevels title.key level hthere).symm.trans hlevel)
    obtain ⟨hanswers, hlevels', hsince⟩ :=
      ih (r := (r.enroll e.client e.title title e.level now).1) hpolicy
        (levelsIn_enroll hlevels hlevel e.client e.title now) hrest
    rw [Enrollment.calls_cons, run_cons, hcall]
    refine ⟨by rw [hanswers, List.map_cons], hlevels', fun client key => ?_⟩
    -- it subscribes the client to the topic of the enrollment and to no other
    rw [hsince, since_enroll]
    simp only [List.mem_cons, exists_eq_or_imp, Enrollment.onTopic_iff hraw htext]
    by_cases hcond : e.client = client ∧ title.key = key
    · simp [hcond]
    · simp [hcond]

/-! ## (2) The registry that comes back -/

/-- A client is subscribed to a topic exactly if this is recorded. -/
theorem isSome_since_iff_recordedIn {i : Index} (h : i.Filed) (client : ClientId)
    (key : TopicKey) :
    (i.since client key).isSome = true ↔
      ∃ e : Enrollment, e.RecordedIn i ∧ e.client = client ∧ e.OnTopic key := by
  rw [Option.isSome_iff_exists]
  simp only [Index.since_eq_some_iff]
  constructor
  · rintro ⟨time, topic, hget, htime⟩
    have hfiled := h key topic hget
    have hon : Enrollment.OnTopic ⟨client, key.title, topic.level⟩ key :=
      ⟨topic.title, hfiled.canonical, hfiled.text_eq, hfiled.key_eq⟩
    exact ⟨_, ⟨key, topic, hon, hget, rfl, time, htime⟩, rfl, hon⟩
  · rintro ⟨e, ⟨key', topic, ⟨title, hraw, htext, rfl⟩, hget, -, time, htime⟩, rfl, hon⟩
    rw [Enrollment.onTopic_iff hraw htext] at hon
    exact ⟨time, topic, hon ▸ hget, htime⟩

/-- **Topics show the same** in two indices with the same subscriptions, if all levels of one are
found in the other. -/
theorem sameOutlines_of_levelsIn {i i' : Index} (h : i.Filed) (h' : i'.Filed)
    (hlevels : i'.LevelsIn i)
    (hsince : ∀ client key,
      (i'.since client key).isSome = true ↔ (i.since client key).isSome = true) :
    i.SameOutlines i' := by
  intro key
  have hsubscribers : ∀ client,
      (i.since client key).isSome = (i'.since client key).isSome := fun client =>
    Bool.eq_iff_iff.mpr (hsince client key).symm
  cases hget : i.get? key with
  | none =>
    cases hget' : i'.get? key with
    | none => rfl
    | some topic' =>
      have hlevel := hlevels key topic'.level (Index.level?_of_get? hget')
      rw [Index.level?, Index.birth, hget] at hlevel
      cases hlevel
  | some topic =>
    cases hget' : i'.get? key with
    | none =>
      -- somebody is subscribed to the topic, and would be on the other side
      obtain ⟨client, hclient⟩ := h.exists_since hget
      rw [hsubscribers client, Index.since, hget'] at hclient
      cases hclient
    | some topic' =>
      have hlevel := hlevels key topic'.level (Index.level?_of_get? hget')
      rw [Index.level?_of_get? hget, Option.some.injEq] at hlevel
      simp only [Index.since, hget, hget', Option.bind_some] at hsubscribers
      rw [Option.map_some, Option.map_some,
        (h key topic hget).outline_congr (h' key topic' hget') hlevel hsubscribers]

/-- **A registry can be restored from its listings.** Survey the state that any history leads to, and
make the subscriptions that are shown again on an empty registry, in any order and at any times. Every
call succeeds with the level of the topic, and the registry that comes back has the same topics with
the same levels and subscribers, lists the same apart from times, and resolves every publication in
the same way. -/
theorem answersAlike_run_replay (history : List (Time × Operation))
    (survey : (empty.run history).1.Survey) {replay : List (Time × Enrollment)}
    (hreplay : (replay.map (·.2)).Perm survey.enrollments) :
    let restored := empty.run (Enrollment.calls replay)
    restored.2 = replay.map (fun step => step.2.answer) ∧
      (empty.run history).1.AnswersAlike restored.1 := by
  intro restored
  have hwf : (empty.run history).1.WellFormed := wellFormed_empty.run history
  have hwf' : restored.1.WellFormed := wellFormed_empty.run _
  -- what is replayed is what is recorded
  have hrecorded : ∀ e, (∃ step ∈ replay, step.2 = e) ↔
      e.RecordedIn (empty.run history).1.index := fun e => by
    rw [← survey.mem_enrollments_iff hwf.filed, ← hreplay.mem_iff, List.mem_map]
  have hnothing : empty.index.LevelsIn (empty.run history).1.index := by
    intro key level hthere
    rw [index_empty, Index.level?, Index.birth_empty] at hthere
    cases hthere
  obtain ⟨hanswers, hlevels, hsince⟩ := run_calls (r := empty) rfl hnothing
    fun step hstep => (hrecorded step.2).mp ⟨step, hstep, rfl⟩
  refine ⟨hanswers, hwf.answersAlike hwf' ?_⟩
  refine sameOutlines_of_levelsIn hwf.filed hwf'.filed hlevels fun client key => ?_
  rw [hsince, isSome_since_iff_recordedIn hwf.filed, index_empty, Index.since_empty]
  constructor
  · rintro (hnone | ⟨step, hstep, hclient, hon⟩)
    · cases hnone
    · exact ⟨step.2, (hrecorded step.2).mp ⟨step, hstep, rfl⟩, hclient, hon⟩
  · rintro ⟨e, he, hclient, hon⟩
    obtain ⟨step, hstep, rfl⟩ := (hrecorded e).mpr he
    exact Or.inr ⟨step, hstep, hclient, hon⟩

/-- Two clients share a topic under different spellings, one of them asked for another level; their
subscriptions are made again last to first. -/
theorem answersAlike_run_replay_shared :
    let history : List (Time × Operation) :=
      [(1, .subscribe 1 ["/a", "b/#", "c"] .qos1), (2, .subscribe 2 ["a", "/a/", "+/c"] .qos2),
        (3, .unsubscribe 1 ["c"])]
    let replay : List (Time × Enrollment) :=
      [(7, ⟨1, "/b/#", .qos1⟩), (8, ⟨2, "/+/c", .qos2⟩), (9, ⟨1, "/a", .qos1⟩),
        (9, ⟨2, "/a", .qos1⟩)]
    let restored := empty.run (Enrollment.calls replay)
    ∃ survey : (empty.run history).1.Survey, (replay.map (·.2)).Perm survey.enrollments ∧
      restored.2 = replay.map (fun step => step.2.answer) ∧
      (empty.run history).1.AnswersAlike restored.1 := by
  intro history replay restored
  have htopics : ∀ kind, ((empty.run history).1.allTopics kind).length < UInt64.size := by
    intro kind
    cases kind <;> decide
  have hsubscribers : ∀ kind, ∀ summary ∈ (empty.run history).1.allTopics kind,
      summary.subscribers < UInt64.size := by
    intro kind
    cases kind <;> decide
  let survey := Survey.widest (wellFormed_empty.run history).filed htopics hsubscribers
  have hshown : survey.enrollments =
      [⟨2, "/a", .qos1⟩, ⟨1, "/a", .qos1⟩, ⟨1, "/b/#", .qos1⟩, ⟨2, "/+/c", .qos2⟩] := by
    rfl
  have hreplay : (replay.map (·.2)).Perm survey.enrollments := by
    rw [hshown]
    decide
  exact ⟨survey, hreplay, answersAlike_run_replay history survey hreplay⟩

end Registry

end PubSub
