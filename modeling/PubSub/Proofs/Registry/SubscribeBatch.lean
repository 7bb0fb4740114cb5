import PubSub.Proofs.Registry.Departure
import PubSub.Proofs.Registry.Lifetime
import PubSub.Proofs.Registry.Permission

/-! # What a batch of titles subscribes

The titles of a batch are subscribed one after the other, and each finds what the ones before it
have left. All the same, no title is answered otherwise than it would be alone, and neither order nor
repetition makes a difference to what the batch leaves behind.

* **`Registry.answerTo`** — what one raw title is answered, told by the registry before the batch.
* **`Registry.results_subscribe`**, **`Registry.asked_subscribe`** — the results are the answers to
  the titles, and the policy is asked once for each title that can be canonicalized.
* **`Topic.FiledUnder.ext`** — a topic in its place is told by its birth and its subscribers, and
  **`Registry.birth_subscribe_of_admitsSome`**, **`Registry.since_subscribe_of_admitsSome`** — these
  are settled by the titles that are admitted.
* **`Registry.Subscribed r next`** — the registry that a batch leads to, told by the one before it
  and the titles that are admitted.
* **`Registry.Subscribed.unique`** — this settles the registry, whatever the order of the titles.
* **`Registry.subscribe_run_exact`** — every batch is answered and carried out that way. -/

namespace PubSub

open Std (ExtTreeMap)

namespace Registry

/-! ## (1) The answers -/

/-- The **level granted** on the topic under a key: that of the topic, or the one that is asked for
if there is none. -/
def grantedLevel (r : Registry) (key : TopicKey) (requested : Level) : Level :=
  ((r.index.get? key).map Topic.level).getD requested

/-- **What one raw title is answered** by a registry. -/
def answerTo (r : Registry) (client : ClientId) (requested : Level) (raw : String) :
    SubscribeResult where
  raw := raw
  outcome :=
    match Title.canonicalize raw with
    | .error cause => .error (.validation raw cause)
    | .ok title =>
      match r.policy title.text client with
      | some reason => .error (.unauthorized title.text reason)
      | none => .ok ⟨title.text, r.grantedLevel title.key requested⟩

/-- **What the policy is asked** about a raw title: whether the client may subscribe to its
canonical text, if it has one. -/
def question? (client : ClientId) (raw : String) : Option (String × ClientId) :=
  match Title.canonicalize raw with
  | .error _ => none
  | .ok title => some (title.text, client)

/-- The level granted is that of the birth of the topic: the old one, or the one it would have now. -/
theorem grantedLevel_eq_birth (r : Registry) (key : TopicKey) (requested : Level) (now : Time) :
    r.grantedLevel key requested = ((r.index.birth key).getD ⟨requested, now⟩).level := by
  rw [grantedLevel, Index.birth]
  cases r.index.get? key <;> rfl

/-- **One title** is answered as the registry answers it. -/
theorem results_subscribeOne (r : Registry) (client : ClientId) (raw : String) (level : Level)
    (now : Time) :
    (r.subscribeOne client raw level now).results = [r.answerTo client level raw] := by
  rw [subscribeOne, answerTo]
  cases Title.canonicalize raw with
  | error cause => rfl
  | ok title =>
    dsimp only
    cases r.policy title.text client with
    | some reason => rfl
    | none =>
      dsimp only
      rw [enroll_snd, grantedLevel_eq_birth r title.key level now]

/-- **One title** makes the registry ask the policy once, if it can be canonicalized. -/
theorem asked_subscribeOne (r : Registry) (client : ClientId) (raw : String) (level : Level)
    (now : Time) :
    (r.subscribeOne client raw level now).asked = (question? client raw).toList := by
  rw [subscribeOne, question?]
  cases Title.canonicalize raw with
  | error cause => rfl
  | ok title =>
    dsimp only
    cases r.policy title.text client <;> rfl

/-- A title leaves the levels that are granted as they are: if it has created a topic, then at the
level that would have been granted. -/
theorem grantedLevel_subscribeOne (r : Registry) (client : ClientId) (raw : String) (level : Level)
    (now : Time) (key : TopicKey) :
    (r.subscribeOne client raw level now).registry.grantedLevel key level =
      r.grantedLevel key level := by
  rcases subscribeOne_cases r client raw level now with
    ⟨error, hregistry, -⟩ | ⟨title, granted, -, -, hregistry, -⟩
  · rw [hregistry]
  · rw [hregistry, grantedLevel_eq_birth _ key level now, grantedLevel_eq_birth r key level now,
      birth_enroll]
    split
    · rw [Option.getD_some]
    · rfl

/-- **No title changes the answers to others.** -/
theorem answerTo_subscribeOne (r : Registry) (client : ClientId) (raw other : String)
    (level : Level) (now : Time) :
    (r.subscribeOne client raw level now).registry.answerTo client level other =
      r.answerTo client level other := by
  simp only [answerTo, policy_subscribeOne, grantedLevel_subscribeOne]

/-- **The results of a batch** are the answers to its titles. -/
theorem results_subscribe (r : Registry) (client : ClientId) (level : Level) (now : Time)
    (raws : List String) :
    (r.subscribe client level now raws).results = raws.map (r.answerTo client level) := by
  induction raws generalizing r with
  | nil => rfl
  | cons raw raws ih =>
    rw [subscribe_cons_results, results_subscribeOne, ih, List.map_cons, List.singleton_append]
    exact congrArg _ (List.map_congr_left fun other _ =>
      answerTo_subscribeOne r client raw other level now)

/-- **The policy** is asked once for every title that can be canonicalized, in order. -/
theorem asked_subscribe (r : Registry) (client : ClientId) (level : Level) (now : Time)
    (raws : List String) :
    (r.subscribe client level now raws).asked = raws.filterMap (question? client) := by
  induction raws generalizing r with
  | nil => rfl
  | cons raw raws ih =>
    have hcons : (r.subscribe client level now (raw :: raws)).asked =
        (r.subscribeOne client raw level now).asked ++
          ((r.subscribeOne client raw level now).registry.subscribe client level now raws).asked :=
      rfl
    rw [hcons, asked_subscribeOne, ih]
    cases hquestion : question? client raw with
    | none => rw [List.filterMap_cons_none hquestion, Option.toList_none, List.nil_append]
    | some question =>
      rw [List.filterMap_cons_some hquestion, Option.toList_some, List.singleton_append]

/-- A title succeeds exactly if it is admitted. -/
theorem isSuccess_answerTo_iff (r : Registry) (client : ClientId) (level : Level) (raw : String) :
    (r.answerTo client level raw).isSuccess = true ↔ ∃ title, r.Admits client raw title := by
  rw [answerTo, SubscribeResult.isSuccess]
  cases hraw : Title.canonicalize raw with
  | error cause => simp [Admits, hraw]
  | ok title => cases hpolicy : r.policy title.text client <;> simp [Admits, hraw, hpolicy]

/-! ## (2) What is held, and who is known -/

/-- **What is held after a batch**: what was held before, and the titles that are admitted. -/
theorem isSome_held_subscribe_iff (r : Registry) (client other : ClientId) (level : Level)
    (now : Time) (raws : List String) (raw : String) :
    ((r.subscribe client level now raws).registry.held other raw).isSome = true ↔
      (r.held other raw).isSome = true ∨
        client = other ∧ raw ∈ raws ∧ ∃ title, r.Admits client raw title := by
  rw [isSome_held_subscribe, results_subscribe]
  simp only [← isSuccess_answerTo_iff r client level, List.mem_map]
  refine or_congr_right (and_congr_right fun _ => ?_)
  constructor
  · rintro ⟨_, ⟨raw', hmem, rfl⟩, rfl, hsuccess⟩
    exact ⟨hmem, hsuccess⟩
  · rintro ⟨hmem, hsuccess⟩
    exact ⟨_, ⟨raw, hmem, rfl⟩, rfl, hsuccess⟩

/-- **Without an admitted title** a batch changes nothing. -/
theorem subscribe_of_not_admits {r : Registry} {client : ClientId} {raws : List String}
    (h : ∀ raw ∈ raws, ∀ title, ¬r.Admits client raw title) (level : Level) (now : Time) :
    (r.subscribe client level now raws).registry = r := by
  induction raws with
  | nil => rfl
  | cons raw raws ih =>
    obtain ⟨hraw, hraws⟩ := List.forall_mem_cons.mp h
    obtain ⟨error, asked, hfails⟩ := exists_subscribeOne_eq_of_not_admits hraw level now
    rw [subscribe_cons_registry, hfails]
    exact ih hraws

/-- **Who is known after a batch**: who was known before, and the client of a title that is
admitted. -/
theorem isSome_clients_subscribe_iff (r : Registry) (client other : ClientId) (level : Level)
    (now : Time) (raws : List String) :
    ((r.subscribe client level now raws).registry.clients[other]?).isSome = true ↔
      (r.clients[other]?).isSome = true ∨
        client = other ∧ ∃ raw ∈ raws, ∃ title, r.Admits client raw title := by
  induction raws generalizing r with
  | nil => simp [subscribe]
  | cons raw raws ih =>
    have hpolicy := policy_subscribeOne r client raw level now
    rw [subscribe_cons_registry, ih]
    -- What is admitted depends on the policy only, which no title of the batch changes.
    simp only [Admits, hpolicy, List.exists_mem_cons_iff]
    by_cases hadmits : ∃ title, r.Admits client raw title
    · obtain ⟨title, hadmits⟩ := hadmits
      rw [subscribeOne_of_admits hadmits]
      by_cases hclient : client = other
      · subst hclient
        have hadmitted : ∃ title, Title.canonicalize raw = .ok title ∧
            r.policy title.text client = none := ⟨title, hadmits⟩
        simp [enroll, hadmitted]
      · simp [enroll, ExtTreeMap.getElem?_insert, hclient]
    · obtain ⟨error, asked, hfails⟩ :=
        exists_subscribeOne_eq_of_not_admits (not_exists.mp hadmits) level now
      rw [hfails]
      simp only [Admits] at hadmits
      simp only [hadmits, false_or]

end Registry

/-! ## (3) Topics after a batch -/

/-- **A topic in its place** is told by its birth and its subscribers. -/
theorem Topic.FiledUnder.ext {topic topic' : Topic} {key : TopicKey} (h : topic.FiledUnder key)
    (h' : topic'.FiledUnder key) (hbirth : topic.birth = topic'.birth)
    (hsubscribers : ∀ client : ClientId,
      topic.subscribers[client]? = topic'.subscribers[client]?) : topic = topic' := by
  have htitle := h.title_eq h'
  have hpattern := h.pattern_congr h'
  obtain ⟨hlevel, htime⟩ := Birth.mk.inj hbirth
  cases topic
  cases topic'
  rw [Topic.mk.injEq]
  exact ⟨htitle, hpattern, ExtTreeMap.ext_getElem? hsubscribers, hlevel, htime⟩

namespace Registry

/-- The topics that a batch grants are those that a title in it is admitted for. -/
theorem exists_grants_iff (r : Registry) (client : ClientId) (level : Level) (now : Time)
    (raws : List String) (key : TopicKey) :
    (∃ result ∈ (r.subscribe client level now raws).results, result.Grants key) ↔
      r.AdmitsSome client raws key := by
  rw [results_subscribe]
  constructor
  · rintro ⟨_, hresult, hsuccess, title, hraw, hkey⟩
    obtain ⟨raw, hmem, rfl⟩ := List.mem_map.mp hresult
    obtain ⟨title', hadmits⟩ := (isSuccess_answerTo_iff r client level raw).mp hsuccess
    obtain rfl : title' = title := Except.ok.inj (hadmits.1.symm.trans hraw)
    exact ⟨raw, hmem, title', hadmits, hkey⟩
  · rintro ⟨raw, hmem, title, hadmits, hkey⟩
    exact ⟨_, List.mem_map_of_mem hmem,
      (isSuccess_answerTo_iff r client level raw).mpr ⟨title, hadmits⟩, title, hadmits.1, hkey⟩

section AdmitsSome

variable {r : Registry} {client : ClientId} {raws : List String} {key : TopicKey} (level : Level)
  (now : Time)

/-- **A topic for which a title is admitted** keeps its birth, or comes to be. -/
theorem birth_subscribe_of_admitsSome (h : r.AdmitsSome client raws key) :
    (r.subscribe client level now raws).registry.index.birth key =
      some ((r.index.birth key).getD ⟨level, now⟩) := by
  rcases birth_subscribe_cases r client level now raws key with ⟨-, hbirth⟩ | ⟨hno, -⟩
  · exact hbirth
  · exact absurd ((exists_grants_iff r client level now raws key).mpr h) hno

/-- **Any other topic** keeps its birth, or stays absent. -/
theorem birth_subscribe_of_not_admitsSome (h : ¬r.AdmitsSome client raws key) :
    (r.subscribe client level now raws).registry.index.birth key = r.index.birth key := by
  rcases birth_subscribe_cases r client level now raws key with ⟨hgrants, -⟩ | ⟨-, hbirth⟩
  · exact absurd ((exists_grants_iff r client level now raws key).mp hgrants) h
  · exact hbirth

/-- **The subscribers of a topic for which a title is admitted**: the client since now, and the
others as before. -/
theorem since_subscribe_of_admitsSome (h : r.AdmitsSome client raws key) (other : ClientId) :
    (r.subscribe client level now raws).registry.index.since other key =
      if client = other then some now else r.index.since other key := by
  rcases since_subscribe_cases r client other level now raws key with
    ⟨⟨hclient, -⟩, hsince⟩ | ⟨hnot, hsince⟩
  · rw [hsince, if_pos hclient]
  · rw [hsince, if_neg fun hclient => hnot ⟨hclient, h⟩]

/-- **Any other topic** keeps its subscribers. -/
theorem since_subscribe_of_not_admitsSome (h : ¬r.AdmitsSome client raws key) (other : ClientId) :
    (r.subscribe client level now raws).registry.index.since other key =
      r.index.since other key := by
  rcases since_subscribe_cases r client other level now raws key with
    ⟨⟨-, hadmits⟩, -⟩ | ⟨-, hsince⟩
  · exact absurd hadmits h
  · exact hsince

end AdmitsSome

/-- The topic under a key after a batch, told by its birth and its subscribers. -/
theorem WellFormed.get?_subscribe_eq_some {r : Registry} (h : r.WellFormed) {client : ClientId}
    {level : Level} {now : Time} {raws : List String} {key : TopicKey} {topic : Topic}
    (hfiled : topic.FiledUnder key)
    (hbirth : (r.subscribe client level now raws).registry.index.birth key = some topic.birth)
    (hsince : ∀ other, (r.subscribe client level now raws).registry.index.since other key =
      topic.subscribers[other]?) :
    (r.subscribe client level now raws).registry.index.get? key = some topic := by
  have hwf := h.subscribe client level now raws
  obtain ⟨topic', hget, heq⟩ := Option.map_eq_some_iff.mp hbirth
  rw [hget, (hwf.filed key topic' hget).ext hfiled heq fun other => ?_]
  rw [← hsince, Index.since, hget, Option.bind_some]

/-! ## (4) The registry after a batch -/

/-- **The registry after a batch**, told by the one before it and the titles that are admitted. -/
structure Subscribed (r next : Registry) (client : ClientId) (level : Level) (now : Time)
    (raws : List String) : Prop where
  /-- The policy stays. -/
  policy_eq : next.policy = r.policy
  /-- The entries of the others stay. -/
  others_eq : ∀ other, other ≠ client → next.clients[other]? = r.clients[other]?
  /-- If no title is admitted, the client's entry stays, too, or stays absent. -/
  entry_eq : (∀ raw ∈ raws, ∀ title, ¬r.Admits client raw title) →
    next.clients[client]? = r.clients[client]?
  /-- If a title is admitted, the client has an entry. -/
  exists_entry : ∀ raw ∈ raws, ∀ title, r.Admits client raw title →
    ∃ entry, next.clients[client]? = some entry ∧ entry.client = client
  /-- What the client held it still holds, for the same topics. -/
  held_of_held : ∀ raw key, r.held client raw = some key → next.held client raw = some key
  /-- A title that is admitted and was not held is held now, for its topic. -/
  held_of_admits : ∀ raw ∈ raws, ∀ title, r.Admits client raw title → r.held client raw = none →
    next.held client raw = some title.key
  /-- Nothing else is held. -/
  held_eq_none : ∀ raw, r.held client raw = none →
    (raw ∈ raws → ∀ title, ¬r.Admits client raw title) → next.held client raw = none
  /-- A topic that is there gets the client as a subscriber, or its time renewed, if a title for it
  is admitted. -/
  joined : ∀ raw ∈ raws, ∀ title, r.Admits client raw title → ∀ topic,
    r.index.get? title.key = some topic →
      next.index.get? title.key = some (topic.addClient client now)
  /-- A topic that is absent comes to be, at the level asked for and with the client alone, if a
  title for it is admitted. -/
  created : ∀ raw ∈ raws, ∀ title, r.Admits client raw title → r.index.get? title.key = none →
    next.index.get? title.key =
      some (((Topic.new title now).addClient client now).setLevel level)
  /-- Every other topic stays, or stays absent. -/
  topic_eq : ∀ key, ¬r.AdmitsSome client raws key → next.index.get? key = r.index.get? key
  /-- **The client is subscribed since now** to every topic for which a title is admitted. -/
  since_eq_now : ∀ key, r.AdmitsSome client raws key → next.index.since client key = some now
  /-- The others, and the client on any other topic, are subscribed since when they were, or stay
  off. -/
  since_eq : ∀ other key, (client = other → ¬r.AdmitsSome client raws key) →
    next.index.since other key = r.index.since other key

/-- **A batch leads to the registry that its admitted titles describe.** -/
theorem WellFormed.subscribed {r : Registry} (h : r.WellFormed) (client : ClientId) (level : Level)
    (now : Time) (raws : List String) :
    r.Subscribed (r.subscribe client level now raws).registry client level now raws := by
  have hwf := h.subscribe client level now raws
  -- What is held afterwards is told once; the fields about holding read it off.
  have hheld := isSome_held_subscribe_iff r client client level now raws
  constructor
  case policy_eq => exact policy_subscribe r client level now raws
  case others_eq => exact (AgreeBut.subscribe_left r client level now raws).entry_eq
  case entry_eq =>
    intro hnone
    rw [subscribe_of_not_admits hnone]
  case exists_entry =>
    intro raw hraw title hadmits
    have hsome := (isSome_clients_subscribe_iff r client client level now raws).mpr
      (Or.inr ⟨rfl, raw, hraw, title, hadmits⟩)
    obtain ⟨entry, hentry⟩ := Option.isSome_iff_exists.mp hsome
    exact ⟨entry, hentry, hwf.entry_client client entry hentry⟩
  case held_of_held =>
    intro raw key hkey
    obtain ⟨title, hraw, rfl⟩ := h.held_key client raw key hkey
    exact hwf.held_eq hraw ((hheld raw).mpr (Or.inl (by rw [hkey]; rfl)))
  case held_of_admits =>
    intro raw hraw title hadmits _
    exact hwf.held_eq hadmits.1 ((hheld raw).mpr (Or.inr ⟨rfl, hraw, title, hadmits⟩))
  case held_eq_none =>
    intro raw hnone hnot
    rw [← Option.not_isSome_iff_eq_none, hheld]
    rintro (hsome | ⟨-, hraw, title, hadmits⟩)
    · rw [hnone] at hsome
      cases hsome
    · exact hnot hraw title hadmits
  case joined =>
    intro raw hraw title hadmits topic hget
    have hsome : r.AdmitsSome client raws title.key := ⟨raw, hraw, title, hadmits, rfl⟩
    have hfiled : (topic.addClient client now).FiledUnder title.key :=
      (h.filed title.key topic hget).of_eq rfl rfl (topic.subscriberCount_addClient client now)
    -- A filed topic is settled by its birth and its subscribers, and the batch settles both.
    refine h.get?_subscribe_eq_some hfiled ?_ fun other => ?_
    · rw [birth_subscribe_of_admitsSome level now hsome, Index.birth, hget]
      rfl
    · rw [since_subscribe_of_admitsSome level now hsome, Topic.getElem?_addClient, Index.since,
        hget, Option.bind_some]
  case created =>
    intro raw hraw title hadmits hget
    have hsome : r.AdmitsSome client raws title.key := ⟨raw, hraw, title, hadmits, rfl⟩
    have hfiled : (((Topic.new title now).addClient client now).setLevel level).FiledUnder
        title.key :=
      Topic.filedUnder_key hadmits.1 now rfl rfl (Topic.subscriberCount_addClient _ client now)
    refine h.get?_subscribe_eq_some hfiled ?_ fun other => ?_
    · rw [birth_subscribe_of_admitsSome level now hsome, Index.birth, hget]
      rfl
    · rw [since_subscribe_of_admitsSome level now hsome, Index.since, hget, Option.bind_none]
      exact (Topic.getElem?_addClient (Topic.new title now) client other now).symm
  case topic_eq =>
    intro key hnot
    have hbirth := birth_subscribe_of_not_admitsSome level now hnot
    cases hget : r.index.get? key with
    | none =>
      rw [(Index.birth_eq_none_iff _ key).mpr hget, Index.birth_eq_none_iff] at hbirth
      exact hbirth
    | some topic =>
      refine h.get?_subscribe_eq_some (h.filed key topic hget) ?_ fun other => ?_
      · rw [hbirth, Index.birth, hget, Option.map_some]
      · rw [since_subscribe_of_not_admitsSome level now hnot, Index.since, hget, Option.bind_some]
  case since_eq_now =>
    intro key hadmits
    rw [since_subscribe_of_admitsSome level now hadmits, if_pos rfl]
  case since_eq =>
    intro other key hnot
    by_cases hadmits : r.AdmitsSome client raws key
    · rw [since_subscribe_of_admitsSome level now hadmits,
        if_neg fun hclient => hnot hclient hadmits]
    · exact since_subscribe_of_not_admitsSome level now hadmits other

/-! ## (5) The titles settle the registry -/

/-- Entries that hold the same are the same. -/
theorem getElem?_clients_congr {r r' : Registry} {client : ClientId}
    (h : ∃ entry, r.clients[client]? = some entry ∧ entry.client = client)
    (h' : ∃ entry, r'.clients[client]? = some entry ∧ entry.client = client)
    (hheld : ∀ raw, r.held client raw = r'.held client raw) :
    r.clients[client]? = r'.clients[client]? := by
  obtain ⟨entry, hget, hclient⟩ := h
  obtain ⟨entry', hget', hclient'⟩ := h'
  rw [hget, hget', Entry.ext_get? (hclient.trans hclient'.symm) fun raw => ?_]
  simpa only [held, hget, hget', Option.bind_some] using hheld raw

/-- Registries are the same if their topics, their policies, the entries of a client, and those of
the others are. -/
theorem ext_client {r r' : Registry} (client : ClientId)
    (hindex : ∀ key, r.index.get? key = r'.index.get? key)
    (hentry : r.clients[client]? = r'.clients[client]?)
    (hothers : ∀ other, other ≠ client → r.clients[other]? = r'.clients[other]?)
    (hpolicy : r.policy = r'.policy) : r = r' := by
  refine ext_parts (Index.ext_get? hindex) (ExtTreeMap.ext_getElem? fun other => ?_) hpolicy
  by_cases hother : other = client
  · rw [hother, hentry]
  · exact hothers other hother

namespace Subscribed

variable {r next next' : Registry} {client : ClientId} {level : Level} {now : Time}
  {raws raws' : List String} (h : r.Subscribed next client level now raws)
  (h' : r.Subscribed next' client level now raws') (hmem : ∀ raw, raw ∈ raws ↔ raw ∈ raws')
include h h' hmem

/-- What the client holds is settled by the titles of the batch. -/
theorem held_congr (raw : String) : next.held client raw = next'.held client raw := by
  cases hbefore : r.held client raw with
  | some key => rw [h.held_of_held raw key hbefore, h'.held_of_held raw key hbefore]
  | none =>
    by_cases hadmits : raw ∈ raws ∧ ∃ title, r.Admits client raw title
    · obtain ⟨hraw, title, hadmits⟩ := hadmits
      rw [h.held_of_admits raw hraw title hadmits hbefore,
        h'.held_of_admits raw ((hmem raw).mp hraw) title hadmits hbefore]
    · simp only [not_and, not_exists] at hadmits
      rw [h.held_eq_none raw hbefore hadmits,
        h'.held_eq_none raw hbefore fun hraw => hadmits ((hmem raw).mpr hraw)]

/-- So is its entry. -/
theorem entry_congr : next.clients[client]? = next'.clients[client]? := by
  by_cases hadmits : ∃ raw ∈ raws, ∃ title, r.Admits client raw title
  · obtain ⟨raw, hraw, title, hadmits⟩ := hadmits
    exact getElem?_clients_congr (h.exists_entry raw hraw title hadmits)
      (h'.exists_entry raw ((hmem raw).mp hraw) title hadmits) (h.held_congr h' hmem)
  · simp only [not_exists, not_and] at hadmits
    rw [h.entry_eq hadmits, h'.entry_eq fun raw hraw => hadmits raw ((hmem raw).mpr hraw)]

/-- So is the topic under each key. -/
theorem get?_congr (key : TopicKey) : next.index.get? key = next'.index.get? key := by
  have hsome : r.AdmitsSome client raws key ↔ r.AdmitsSome client raws' key := by
    simp only [AdmitsSome, hmem]
  by_cases hadmits : r.AdmitsSome client raws key
  · obtain ⟨raw, hraw, title, hadmits, rfl⟩ := hadmits
    have hraw' := (hmem raw).mp hraw
    cases hget : r.index.get? title.key with
    | none => rw [h.created raw hraw title hadmits hget, h'.created raw hraw' title hadmits hget]
    | some topic =>
      rw [h.joined raw hraw title hadmits topic hget,
        h'.joined raw hraw' title hadmits topic hget]
  · rw [h.topic_eq key hadmits, h'.topic_eq key (mt hsome.mpr hadmits)]

/-- **The registry after a batch is settled** by the titles in it, in whatever order and however
often they are named. -/
theorem unique : next = next' :=
  ext_client client (h.get?_congr h' hmem) (h.entry_congr h' hmem)
    (fun other hother => (h.others_eq other hother).trans (h'.others_eq other hother).symm)
    (h.policy_eq.trans h'.policy_eq.symm)

end Subscribed

/-- **A batch, exactly.** In any state that a history leads to, every title of a batch gets the
answer that this state gives to it alone, and the policy is asked once, in order, for every title
that can be canonicalized. The registry afterwards is the one before with the client on the topics
of the admitted titles and holding these; the same titles in another order or number lead to the
same one. -/
theorem subscribe_run_exact (history : List (Time × Operation)) (client : ClientId) (level : Level)
    (now : Time) (raws : List String) :
    let r := (empty.run history).1
    let next := (r.apply now (.subscribe client raws level)).1
    (r.apply now (.subscribe client raws level)).2 =
        .subscribed (raws.map (r.answerTo client level)) (raws.filterMap (question? client)) ∧
      r.Subscribed next client level now raws ∧
      ∀ raws', (∀ raw, raw ∈ raws' ↔ raw ∈ raws) →
        (r.apply now (.subscribe client raws' level)).1 = next := by
  intro r next
  have hwf : r.WellFormed := wellFormed_empty.run history
  refine ⟨?_, hwf.subscribed client level now raws, fun raws' hmem => ?_⟩
  · rw [apply, results_subscribe, asked_subscribe]
  · exact (hwf.subscribed client level now raws').unique
      (hwf.subscribed client level now raws) hmem

end Registry

end PubSub
