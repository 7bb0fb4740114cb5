import PubSub.Proofs.Registry.Timeline

/-! # The life of a topic

A topic comes to be with its first subscriber, whose call settles its level and the time of its
creation, and it is gone with its last one. In between nothing changes either of them.

* **`Birth`** — the level and the time that a topic begins with; `Index.birth` reads them off.
* **`Step.Grants key step`** — a step at which a raw title for the topic is subscribed.
* **`Registry.birth_apply_of_grants`**, **`Registry.birth_apply_of_not_grants`** — a grant creates the
  topic where it is absent; without a grant a topic stays as it began, or goes.
* **`Registry.exists_birth_of_mem_results`** — the level that a result reports is that of the topic.
* **`Registry.CreatedAt`**, **`Registry.LastCreatedAt`**, **`Registry.EvictedAt`** — the steps of a
  history at which a topic comes and goes.
* **`Registry.lifetime_run_empty`** — level, time and answers, told by the last step at which the
  topic came to be. -/

namespace PubSub

/-! ## (1) What a topic begins with -/

/-- The **birth** of a topic: the level and the time that it begins with. -/
structure Birth where
  /-- The level that was asked for. -/
  level : Level
  /-- The time of the call. -/
  time : Time

/-- The birth of a topic, as the topic tells it. -/
def Topic.birth (topic : Topic) : Birth := ⟨topic.level, topic.createdAt⟩

/-- A topic keeps its birth when a client leaves it. -/
@[simp] theorem Topic.birth_removeClient (topic : Topic) (client : ClientId) :
    (topic.removeClient client).birth = topic.birth := rfl

namespace Index

/-- The birth of the topic under a key, if there is one. -/
def birth (i : Index) (key : TopicKey) : Option Birth := (i.get? key).map Topic.birth

/-- An empty index has no births. -/
@[simp] theorem birth_empty (key : TopicKey) : empty.birth key = none := by
  rw [birth, get?_empty, Option.map_none]

/-- A topic has a birth if it is there. -/
theorem birth_eq_none_iff (i : Index) (key : TopicKey) :
    i.birth key = none ↔ i.get? key = none := by
  rw [birth, Option.map_eq_none_iff]

/-- The births tell what topics are there. -/
@[simp] theorem isSome_birth (i : Index) (key : TopicKey) :
    (i.birth key).isSome = (i.get? key).isSome := by
  rw [birth, Option.isSome_map]

/-- **A release** drops a topic or leaves its birth as it is. -/
theorem birth_release (i : Index) (client : ClientId) (key other : TopicKey) :
    (i.release client key).birth other = i.birth other ∨
      (i.release client key).birth other = none := by
  rw [birth, get?_release]
  by_cases hkey : key = other
  · subst hkey
    rw [if_pos rfl, birth]
    cases i.get? key with
    | none => exact Or.inl rfl
    | some topic =>
      by_cases hcount : (topic.removeClient client).subscriberCount = 0
      · exact Or.inr (by simp [hcount, Option.filter_some])
      · exact Or.inl (by simp [hcount, Option.filter_some])
  · rw [if_neg hkey]
    exact Or.inl rfl

/-- Releasing topics keeps the birth of a topic, unless it is gone. -/
theorem birth_foldl_release (keys : List TopicKey) (i : Index) (client : ClientId)
    (key : TopicKey) :
    (keys.foldl (fun i key => i.release client key) i).birth key = i.birth key ∨
      (keys.foldl (fun i key => i.release client key) i).birth key = none := by
  induction keys generalizing i with
  | nil => exact Or.inl rfl
  | cons k keys ih =>
    rw [List.foldl_cons]
    rcases ih (i.release client k) with hrest | hrest
    · rw [hrest]
      exact birth_release i client k key
    · exact Or.inr hrest

end Index

/-! ## (2) Grants -/

/-- A result **grants** the topic under a key: its raw title names the topic and was subscribed. -/
def SubscribeResult.Grants (key : TopicKey) (result : SubscribeResult) : Prop :=
  result.isSuccess = true ∧ ∃ title, Title.canonicalize result.raw = .ok title ∧ title.key = key

/-- A step **grants** the topic under a key, to whichever client. -/
def Step.Grants (key : TopicKey) (step : Step) : Prop :=
  ∃ client titles level results asked,
    step = (.subscribe client titles level, .subscribed results asked) ∧
      ∃ result ∈ results, result.Grants key

namespace Registry

/-- **Enrolling** a client creates the topic if it is absent. -/
theorem birth_enroll (r : Registry) (client : ClientId) (raw : String) (title : Title)
    (level : Level) (now : Time) (key : TopicKey) :
    (r.enroll client raw title level now).1.index.birth key =
      if title.key = key then some ((r.index.birth key).getD ⟨level, now⟩)
      else r.index.birth key := by
  rw [enroll, Index.birth, Index.get?_insert]
  by_cases hkey : title.key = key
  · subst hkey
    rw [if_pos rfl, if_pos rfl, Index.birth]
    cases r.index.get? title.key <;> rfl
  · rw [if_neg hkey, if_neg hkey, Index.birth]

/-- The level that is granted is the one that the topic begins with. -/
theorem enroll_snd (r : Registry) (client : ClientId) (raw : String) (title : Title)
    (level : Level) (now : Time) :
    (r.enroll client raw title level now).2 =
      ((r.index.birth title.key).getD ⟨level, now⟩).level := by
  rw [enroll, Index.birth]
  cases r.index.get? title.key <;> rfl

/-- **A batch** creates the topic of every grant that is absent, and changes no other birth. -/
theorem birth_subscribe_cases (r : Registry) (client : ClientId) (level : Level) (now : Time)
    (raws : List String) (key : TopicKey) :
    ((∃ result ∈ (r.subscribe client level now raws).results, result.Grants key) ∧
        (r.subscribe client level now raws).registry.index.birth key =
          some ((r.index.birth key).getD ⟨level, now⟩)) ∨
      (¬(∃ result ∈ (r.subscribe client level now raws).results, result.Grants key) ∧
        (r.subscribe client level now raws).registry.index.birth key = r.index.birth key) := by
  induction raws generalizing r with
  | nil => exact Or.inr ⟨by simp [subscribe], rfl⟩
  | cons raw raws ih =>
    rw [subscribe_cons_registry, subscribe_cons_results]
    by_cases hadmits : ∃ title, r.Admits client raw title
    · obtain ⟨title, hadmits⟩ := hadmits
      rw [subscribeOne_of_admits hadmits]
      have hbirth := birth_enroll r client raw title level now key
      have hrest := ih (r.enroll client raw title level now).1
      by_cases hkey : title.key = key
      · -- the first title grants the topic, and the rest finds it there
        rw [if_pos hkey] at hbirth
        refine Or.inl ⟨⟨_, List.mem_append_left _ (List.mem_singleton_self _), rfl, title,
          hadmits.1, hkey⟩, ?_⟩
        rcases hrest with ⟨-, hrest⟩ | ⟨-, hrest⟩
        · rw [hrest, hbirth, Option.getD_some]
        · rw [hrest, hbirth]
      · -- the first title is that of another topic
        rw [if_neg hkey] at hbirth
        rw [hbirth] at hrest
        have hother : ∀ level', ¬SubscribeResult.Grants key
            ⟨raw, .ok ⟨title.text, level'⟩⟩ := by
          rintro level' ⟨-, title', hraw, hkey'⟩
          have heq : title = title' := Except.ok.inj (hadmits.1.symm.trans hraw)
          exact hkey (heq ▸ hkey')
        simpa [hother] using hrest
    · -- the first title fails, and the registry stays as it is
      obtain ⟨error, asked, hfails⟩ :=
        exists_subscribeOne_eq_of_not_admits (not_exists.mp hadmits) level now
      have hno : ¬SubscribeResult.Grants key ⟨raw, .error error⟩ := fun hgrant => by
        cases hgrant.1
      rw [hfails]
      simpa [hno] using ih r

/-- A batch drops no topic. -/
theorem birth_subscribe_of_eq_some {r : Registry} {key : TopicKey} {b : Birth}
    (h : r.index.birth key = some b) (client : ClientId) (level : Level) (now : Time)
    (raws : List String) :
    (r.subscribe client level now raws).registry.index.birth key = some b := by
  rcases birth_subscribe_cases r client level now raws key with ⟨-, hbirth⟩ | ⟨-, hbirth⟩
  · rw [hbirth, h, Option.getD_some]
  · rw [hbirth, h]

/-- **The level that a result reports** is that of the topic which it grants. -/
theorem exists_birth_of_mem_results {r : Registry} {client : ClientId} {level : Level} {now : Time}
    {raws : List String} {result : SubscribeResult} {grant : Grant}
    (hmem : result ∈ (r.subscribe client level now raws).results)
    (hgrant : result.outcome = .ok grant) :
    ∃ title time, Title.canonicalize result.raw = .ok title ∧ grant.topic = title.text ∧
      (r.subscribe client level now raws).registry.index.birth title.key =
        some ⟨grant.level, time⟩ := by
  induction raws generalizing r with
  | nil => cases hmem
  | cons raw raws ih =>
    rw [subscribe_cons_results, List.mem_append] at hmem
    rw [subscribe_cons_registry]
    rcases hmem with hfirst | hrest
    · by_cases hadmits : ∃ title, r.Admits client raw title
      · obtain ⟨title, hadmits⟩ := hadmits
        rw [subscribeOne_of_admits hadmits] at hfirst ⊢
        obtain rfl := List.mem_singleton.mp hfirst
        obtain rfl := Except.ok.inj hgrant
        have hbirth := birth_enroll r client raw title level now title.key
        rw [if_pos rfl] at hbirth
        refine ⟨title, ((r.index.birth title.key).getD ⟨level, now⟩).time, hadmits.1, rfl, ?_⟩
        -- The titles behind this one drop no topic, so the birth is there at the end, too.
        rw [enroll_snd]
        exact birth_subscribe_of_eq_some hbirth client level now raws
      · obtain ⟨error, asked, hfails⟩ :=
          exists_subscribeOne_eq_of_not_admits (not_exists.mp hadmits) level now
        rw [hfails] at hfirst
        obtain rfl := List.mem_singleton.mp hfirst
        cases hgrant
    · exact ih hrest

/-! ## (3) What a step does to a birth -/

/-- A batch grants a topic if one of its results does. -/
theorem grants_subscribe_iff (key : TopicKey) (client : ClientId) (titles : List String)
    (level : Level) (results : List SubscribeResult) (asked : List (String × ClientId)) :
    Step.Grants key (.subscribe client titles level, .subscribed results asked) ↔
      ∃ result ∈ results, result.Grants key := by
  constructor
  · rintro ⟨_, _, _, _, _, heq, hresult⟩
    obtain ⟨-, hanswer⟩ := Prod.mk.inj heq
    obtain ⟨rfl, -⟩ := Answer.subscribed.inj hanswer
    exact hresult
  · intro hresult
    exact ⟨client, titles, level, results, asked, rfl, hresult⟩

/-- **With a grant** the topic begins with the call, or goes on as it began. -/
theorem birth_apply_of_grants {r : Registry} {now : Time} {op : Operation} {key : TopicKey}
    (h : Step.Grants key (op, (r.apply now op).2)) :
    ∃ client titles level, op = .subscribe client titles level ∧
      (r.apply now op).1.index.birth key = some ((r.index.birth key).getD ⟨level, now⟩) := by
  obtain ⟨client, titles, level, results, asked, heq, hresult⟩ := h
  obtain ⟨rfl, hanswer⟩ := Prod.mk.inj heq
  obtain ⟨rfl, -⟩ := Answer.subscribed.inj hanswer
  refine ⟨client, titles, level, rfl, ?_⟩
  rcases birth_subscribe_cases r client level now titles key with ⟨-, hbirth⟩ | ⟨hno, -⟩
  · exact hbirth
  · exact absurd hresult hno

/-- **Without a grant** the topic goes on as it began, or goes. -/
theorem birth_apply_of_not_grants {r : Registry} {now : Time} {op : Operation} {key : TopicKey}
    (h : ¬Step.Grants key (op, (r.apply now op).2)) :
    (r.apply now op).1.index.birth key = r.index.birth key ∨
      (r.apply now op).1.index.birth key = none := by
  by_cases hop : ∃ client titles level, op = .subscribe client titles level
  · obtain ⟨client, titles, level, rfl⟩ := hop
    rw [apply, grants_subscribe_iff] at h
    rcases birth_subscribe_cases r client level now titles key with ⟨hgrant, -⟩ | ⟨-, hbirth⟩
    · exact absurd hgrant h
    · exact Or.inl hbirth
  · simp only [not_exists] at hop
    obtain ⟨client, keys, hindex⟩ := exists_index_apply_eq_foldl_release r now hop
    rw [hindex]
    exact Index.birth_foldl_release keys r.index client key

/-- **A topic that stays** keeps what it began with. -/
theorem birth_apply_of_eq_some {r : Registry} {key : TopicKey} {b b' : Birth} {now : Time}
    {op : Operation} (h : r.index.birth key = some b)
    (h' : (r.apply now op).1.index.birth key = some b') : b' = b := by
  by_cases hgrant : Step.Grants key (op, (r.apply now op).2)
  · obtain ⟨_, _, _, -, hbirth⟩ := birth_apply_of_grants hgrant
    rw [h', h, Option.getD_some] at hbirth
    exact Option.some.inj hbirth
  · rcases birth_apply_of_not_grants hgrant with hbirth | hbirth
    · rw [h', h] at hbirth
      exact Option.some.inj hbirth
    · rw [h'] at hbirth
      cases hbirth

/-- **A topic that comes to be** begins with the call of the step. -/
theorem exists_subscribe_of_birth_apply {r : Registry} {key : TopicKey} {b : Birth} {now : Time}
    {op : Operation} (h : r.index.birth key = none)
    (h' : (r.apply now op).1.index.birth key = some b) :
    b.time = now ∧ ∃ client titles, op = .subscribe client titles b.level := by
  by_cases hgrant : Step.Grants key (op, (r.apply now op).2)
  · obtain ⟨client, titles, level, rfl, hbirth⟩ := birth_apply_of_grants hgrant
    rw [h', h, Option.getD_none] at hbirth
    obtain rfl := Option.some.inj hbirth
    exact ⟨rfl, client, titles, rfl⟩
  · rcases birth_apply_of_not_grants hgrant with hbirth | hbirth
    · rw [h', h] at hbirth
      cases hbirth
    · rw [h'] at hbirth
      cases hbirth

/-! ## (4) The steps at which a topic comes and goes -/

/-- At this step the topic under the key **comes to be**. -/
def CreatedAt (history : List (Time × Operation)) (key : TopicKey) (i : Nat) : Prop :=
  (stateAt history i).index.get? key = none ∧
    ((stateAt history (i + 1)).index.get? key).isSome = true

/-- At this step the topic under the key **comes to be for the last time**. -/
def LastCreatedAt (history : List (Time × Operation)) (key : TopicKey) (i : Nat) : Prop :=
  CreatedAt history key i ∧ ∀ j, i < j → ¬CreatedAt history key j

/-- At this step the topic under the key **goes**. -/
def EvictedAt (history : List (Time × Operation)) (key : TopicKey) (i : Nat) : Prop :=
  ((stateAt history i).index.get? key).isSome = true ∧
    (stateAt history (i + 1)).index.get? key = none

/-- At this step a raw title for the topic under the key **is subscribed**. -/
def GrantedAt (history : List (Time × Operation)) (key : TopicKey) (i : Nat) : Prop :=
  ∃ step, (empty.transcript history)[i]? = some step ∧ step.Grants key

/-- Between two states of a history a topic that stays keeps what it began with. -/
theorem birth_stateAt_succ_of_eq_some {history : List (Time × Operation)} {n : Nat}
    {key : TopicKey} {b b' : Birth} (h : (stateAt history n).index.birth key = some b)
    (h' : (stateAt history (n + 1)).index.birth key = some b') : b' = b := by
  cases hstep : history[n]? with
  | none =>
    rw [stateAt_succ_of_none hstep, h] at h'
    exact (Option.some.inj h').symm
  | some step =>
    obtain ⟨now, op⟩ := step
    rw [stateAt_succ hstep] at h'
    exact birth_apply_of_eq_some h h'

/-- Between two states of a history a topic that comes to be begins with a call to subscribe. -/
theorem exists_subscribe_of_birth_stateAt_succ {history : List (Time × Operation)} {n : Nat}
    {key : TopicKey} {b : Birth} (h : (stateAt history n).index.birth key = none)
    (h' : (stateAt history (n + 1)).index.birth key = some b) :
    ∃ client titles, history[n]? = some (b.time, .subscribe client titles b.level) := by
  cases hstep : history[n]? with
  | none =>
    rw [stateAt_succ_of_none hstep, h] at h'
    cases h'
  | some step =>
    obtain ⟨now, op⟩ := step
    rw [stateAt_succ hstep] at h'
    obtain ⟨htime, client, titles, rfl⟩ := exists_subscribe_of_birth_apply h h'
    exact ⟨client, titles, by rw [htime]⟩

/-- **Every topic has begun.** If a topic is there after some steps, then one of them was a call to
subscribe, at which the topic came to be with the level and at the time of the call, and it has been
there ever since. -/
theorem exists_beginning {history : List (Time × Operation)} {n : Nat} {key : TopicKey} {b : Birth}
    (h : (stateAt history n).index.birth key = some b) :
    ∃ i, i < n ∧ (stateAt history i).index.birth key = none ∧
      (∃ client titles, history[i]? = some (b.time, .subscribe client titles b.level)) ∧
      ∀ j, i < j → j ≤ n → (stateAt history j).index.birth key = some b := by
  induction n with
  | zero =>
    rw [stateAt_zero, index_empty, Index.birth_empty] at h
    cases h
  | succ n ih =>
    -- the topic has come to be at the last step, or it was there before with the same birth
    cases hbefore : (stateAt history n).index.birth key with
    | none =>
      refine ⟨n, by omega, hbefore, exists_subscribe_of_birth_stateAt_succ hbefore h, ?_⟩
      intro j hnj hj
      obtain rfl : j = n + 1 := by omega
      exact h
    | some b' =>
      obtain rfl := birth_stateAt_succ_of_eq_some hbefore h
      obtain ⟨i, hi, hnone, hcall, hkeeps⟩ := ih hbefore
      refine ⟨i, by omega, hnone, hcall, fun j hij hj => ?_⟩
      by_cases hlast : j = n + 1
      · exact hlast ▸ h
      · exact hkeeps j hij (by omega)

/-- **A topic that is absent** stays absent until a raw title for it is subscribed. -/
theorem birth_stateAt_eq_none {history : List (Time × Operation)} {key : TopicKey} {i k : Nat}
    (h : (stateAt history i).index.birth key = none) (hik : i ≤ k)
    (hno : ∀ j, i ≤ j → j < k → ¬GrantedAt history key j) :
    (stateAt history k).index.birth key = none := by
  induction k, hik using Nat.le_induction with
  | base => exact h
  | succ k hik ih =>
    have hbefore := ih fun j hij hjk => hno j hij (by omega)
    cases hstep : history[k]? with
    | none => rw [stateAt_succ_of_none hstep, hbefore]
    | some step =>
      obtain ⟨now, op⟩ := step
      have hgrant : ¬Step.Grants key (op, ((stateAt history k).apply now op).2) := fun hgrant =>
        hno k hik (by omega) ⟨_, getElem?_transcript hstep, hgrant⟩
      rw [stateAt_succ hstep]
      rcases birth_apply_of_not_grants hgrant with hbirth | hbirth
      · rw [hbirth, hbefore]
      · exact hbirth

/-- **A grant of an absent topic** starts it, with the level and at the time of the call. -/
theorem createdAt_of_grantedAt {history : List (Time × Operation)} {key : TopicKey} {k : Nat}
    (h : (stateAt history k).index.birth key = none) (hgranted : GrantedAt history key k) :
    CreatedAt history key k ∧ ∃ now client titles level topic,
      history[k]? = some (now, .subscribe client titles level) ∧
        (stateAt history (k + 1)).index.get? key = some topic ∧
        topic.level = level ∧ topic.createdAt = now := by
  obtain ⟨⟨op, answer⟩, hstep, hgrants⟩ := hgranted
  obtain ⟨now, hop, rfl⟩ := exists_of_getElem?_transcript hstep
  obtain ⟨client, titles, level, rfl, hbirth⟩ := birth_apply_of_grants hgrants
  rw [← stateAt_succ hop, h, Option.getD_none] at hbirth
  obtain ⟨topic, htopic, hbegins⟩ := Option.map_eq_some_iff.mp hbirth
  obtain ⟨hlevel, htime⟩ := Birth.mk.inj hbegins
  exact ⟨⟨(Index.birth_eq_none_iff _ key).mp h, by rw [htopic]; rfl⟩, now, client, titles, level,
    topic, hop, htopic, hlevel, htime⟩

/-- Within a step that leaves the topic with a birth, every grant of the topic reports its level. -/
theorem outcome_of_grants {history : List (Time × Operation)} {key : TopicKey} {b : Birth} {j : Nat}
    (hafter : (stateAt history (j + 1)).index.birth key = some b) {client : ClientId}
    {titles : List String} {level : Level} {results : List SubscribeResult}
    {asked : List (String × ClientId)}
    (hstep : (empty.transcript history)[j]? =
      some (.subscribe client titles level, .subscribed results asked))
    {result : SubscribeResult} (hmem : result ∈ results) (hgrant : result.Grants key) :
    result.outcome = .ok ⟨key.title, b.level⟩ := by
  obtain ⟨now, hop, hanswer⟩ := exists_of_getElem?_transcript hstep
  obtain ⟨rfl, -⟩ := Answer.subscribed.inj hanswer
  rw [stateAt_succ hop] at hafter
  obtain ⟨hsuccess, title, hraw, rfl⟩ := hgrant
  cases houtcome : result.outcome with
  | error e =>
    rw [SubscribeResult.isSuccess, houtcome] at hsuccess
    cases hsuccess
  | ok grant =>
    -- The level reported is that of the birth after the step, which is given.
    obtain ⟨title', time, hraw', htopic, hbirth⟩ := exists_birth_of_mem_results hmem houtcome
    obtain rfl := Except.ok.inj (hraw.symm.trans hraw')
    rw [apply, hbirth] at hafter
    obtain rfl := Option.some.inj hafter
    obtain ⟨topic, granted⟩ := grant
    have htext : topic = title.key.title := htopic
    rw [htext]

/-- **A topic that is there at the end** has come to be for the last time at a call to subscribe, with
the level and at the time of the call, and it has been there ever since. -/
theorem exists_lastCreatedAt {history : List (Time × Operation)} {key : TopicKey} {topic : Topic}
    (htopic : (empty.run history).1.index.get? key = some topic) :
    ∃ i, LastCreatedAt history key i ∧
      (∃ client titles,
        history[i]? = some (topic.createdAt, .subscribe client titles topic.level)) ∧
      ∀ j, i < j → (stateAt history j).index.birth key = some topic.birth := by
  have hbirth : (stateAt history history.length).index.birth key = some topic.birth := by
    rw [stateAt_length, Index.birth, htopic, Option.map_some]
  obtain ⟨i, hi, hnone, hcall, hkeeps⟩ := exists_beginning hbirth
  -- beyond the end, too, the topic is what it was at its beginning
  have hever : ∀ j, i < j → (stateAt history j).index.birth key = some topic.birth := by
    intro j hij
    by_cases hj : j ≤ history.length
    · exact hkeeps j hij hj
    · rw [stateAt_of_length_le (by omega), ← stateAt_length, hbirth]
  refine ⟨i, ⟨⟨(Index.birth_eq_none_iff _ key).mp hnone, ?_⟩, ?_⟩, hcall, hever⟩
  · rw [← Index.isSome_birth, hever (i + 1) (by omega)]
    rfl
  · intro j hij hcreated
    have hthere := hever j hij
    rw [(Index.birth_eq_none_iff _ key).mpr hcreated.1] at hthere
    cases hthere

/-- **Level and lifetime of a topic.** Take any history and the topic under any key.

If the topic is there at the end, then it came to be for the last time at a call to subscribe; it has
the level and the time of that call, has been there ever since, and every grant of it from that call
on reports its level. If it goes at some step, the next grant of it starts a new topic with the level
and the time of the call. And as long as it stays, no step changes its level or its time. -/
theorem lifetime_run_empty (history : List (Time × Operation)) (key : TopicKey) :
    (∀ topic, (empty.run history).1.index.get? key = some topic →
      ∃ i, LastCreatedAt history key i ∧
        (∃ client titles,
          history[i]? = some (topic.createdAt, .subscribe client titles topic.level)) ∧
        (∀ j, i < j → j ≤ history.length →
          ((stateAt history j).index.get? key).isSome = true) ∧
        ∀ j, i ≤ j → ∀ client titles level results asked,
          (empty.transcript history)[j]? =
              some (.subscribe client titles level, .subscribed results asked) →
            ∀ result ∈ results, result.Grants key →
              result.outcome = .ok ⟨key.title, topic.level⟩) ∧
    (∀ i k, EvictedAt history key i → i < k → (∀ j, i < j → j < k → ¬GrantedAt history key j) →
      GrantedAt history key k →
        CreatedAt history key k ∧ ∃ now client titles level topic,
          history[k]? = some (now, .subscribe client titles level) ∧
            (stateAt history (k + 1)).index.get? key = some topic ∧
            topic.level = level ∧ topic.createdAt = now) ∧
    ∀ j topic topic', (stateAt history j).index.get? key = some topic →
      (stateAt history (j + 1)).index.get? key = some topic' →
        topic'.level = topic.level ∧ topic'.createdAt = topic.createdAt := by
  refine ⟨fun topic htopic => ?_, fun i k hevicted hik hno hgranted => ?_,
    fun j topic topic' hbefore hafter => ?_⟩
  · obtain ⟨i, hlast, hcall, hever⟩ := exists_lastCreatedAt htopic
    refine ⟨i, hlast, hcall, fun j hij _ => ?_, ?_⟩
    · rw [← Index.isSome_birth, hever j hij]
      rfl
    · intro j hij client titles level results asked hstep result hmem hgrant
      exact outcome_of_grants (hever (j + 1) (by omega)) hstep hmem hgrant
  · -- from the eviction to the grant the topic is absent
    have hgone : (stateAt history k).index.birth key = none :=
      birth_stateAt_eq_none ((Index.birth_eq_none_iff _ key).mpr hevicted.2) hik
        fun j hij hjk => hno j (by omega) hjk
    exact createdAt_of_grantedAt hgone hgranted
  · have hbirth : (stateAt history j).index.birth key = some topic.birth := by
      rw [Index.birth, hbefore, Option.map_some]
    have hbirth' : (stateAt history (j + 1)).index.birth key = some topic'.birth := by
      rw [Index.birth, hafter, Option.map_some]
    exact Birth.mk.inj (birth_stateAt_succ_of_eq_some hbirth hbirth')

/-- The topic goes with its only subscriber and comes back with the next one, whose level it takes;
the level that is asked for last is ignored. -/
example : (empty.run
      [(1, .subscribe 1 ["/a"] .qos1), (2, .unsubscribeAll 1), (3, .subscribe 2 ["a"] .qos2),
        (4, .subscribe 1 ["/a/"] .qos0)]).1.index.birth ⟨"/a", .plain⟩ = some ⟨.qos2, 3⟩ := by
  rfl

end Registry

end PubSub
