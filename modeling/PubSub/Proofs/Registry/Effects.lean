import PubSub.Registry.Operation

/-! # What the operations do

A registry is looked at in two ways: from the topics, which know their subscribers, and from the
entries, which know what a client holds. Every operation is described by what it does to both views.

* **`Index.since i client key`** — the time of the client's subscription to the topic under `key`.
* **`Registry.held r client raw`** — the key that a raw title held by the client resolves to.
* **`Index.since_release`**, **`Registry.since_enroll`** — leaving and entering a topic change the
  view of one client on one topic.
* **`Registry.isSome_held_subscribe`**, **`Registry.held_unsubscribe`**,
  **`Registry.held_unsubscribeAll`** — what a client holds after each call.
* **`Registry.giveUpAll_snd_eq`**, **`Registry.since_giveUpAll_congr`** — what giving up raw titles
  depends on.
* **`Registry.policy_apply`** — the policy changes only where one is installed. -/

namespace PubSub

/-! ## (1) The view from the topics -/

namespace Topic

/-- A topic that has a subscriber does not count none. -/
theorem subscriberCount_ne_zero_iff (topic : Topic) :
    topic.subscriberCount ≠ 0 ↔
      ∃ (client : ClientId) (time : Time), topic.subscribers[client]? = some time := by
  rw [subscriberCount, ← Std.ExtTreeMap.length_toList, ne_eq, List.length_eq_zero_iff]
  constructor
  · intro h
    obtain ⟨⟨client, time⟩, hmem⟩ := List.exists_mem_of_ne_nil _ h
    exact ⟨client, time, Std.ExtTreeMap.mem_toList_iff_getElem?_eq_some.mp hmem⟩
  · rintro ⟨client, time, h⟩ hnil
    have hmem := Std.ExtTreeMap.mem_toList_iff_getElem?_eq_some.mpr h
    rw [hnil] at hmem
    cases hmem

/-- Without subscribers nobody is found among them. -/
theorem getElem?_of_subscriberCount_eq_zero {topic : Topic} (h : topic.subscriberCount = 0)
    (client : ClientId) : topic.subscribers[client]? = none := by
  cases hget : topic.subscribers[client]? with
  | none => rfl
  | some time => exact absurd h ((subscriberCount_ne_zero_iff topic).mpr ⟨client, time, hget⟩)

end Topic

namespace Index

/-- **Since when** the client is subscribed to the topic under the key. -/
def since (i : Index) (client : ClientId) (key : TopicKey) : Option Time :=
  (i.get? key).bind fun topic => topic.subscribers[client]?

/-- Nobody is subscribed to anything in an empty index. -/
@[simp] theorem since_empty (client : ClientId) (key : TopicKey) :
    empty.since client key = none := by
  rw [since, get?_empty, Option.bind_none]

/-- A client is subscribed since a time where a topic lists it with that time. -/
theorem since_eq_some_iff (i : Index) (client : ClientId) (key : TopicKey) (time : Time) :
    i.since client key = some time ↔
      ∃ topic, i.get? key = some topic ∧ topic.subscribers[client]? = some time :=
  Option.bind_eq_some_iff

/-- The topics after a release: only the one under the key changes, and it goes with its last
subscriber. -/
theorem get?_release (i : Index) (client : ClientId) (key other : TopicKey) :
    (i.release client key).get? other =
      if key = other then
        ((i.get? key).map (·.removeClient client)).filter (·.subscriberCount != 0)
      else i.get? other := by
  rw [release]
  cases hget : i.get? key with
  | none =>
    by_cases hkey : key = other
    · subst hkey
      simp [hget]
    · simp [hkey]
  | some topic =>
    by_cases hcount : (topic.removeClient client).subscriberCount = 0
    · simp [hcount, Option.filter_some]
    · simp [hcount, Option.filter_some]

/-- **Releasing** ends the subscription of one client to one topic and no other. -/
theorem since_release (i : Index) (client other : ClientId) (key key' : TopicKey) :
    (i.release client key).since other key' =
      if client = other ∧ key = key' then none else i.since other key' := by
  rw [since, get?_release]
  by_cases hkey : key = key'
  · subst hkey
    rw [if_pos rfl, since]
    cases hget : i.get? key with
    | none => simp
    | some topic =>
      have hrest := Topic.getElem?_removeClient topic client other
      by_cases hcount : (topic.removeClient client).subscriberCount = 0
      · -- the topic is dropped, and nobody was left in it
        rw [Topic.getElem?_of_subscriberCount_eq_zero hcount] at hrest
        simpa [hcount, Option.filter_some] using hrest
      · simp [hcount, Option.filter_some]
  · simp [hkey, since]

/-- Releasing one key after the other. -/
theorem since_foldl_release (keys : List TopicKey) (i : Index) (client other : ClientId)
    (key : TopicKey) :
    (keys.foldl (fun i key => i.release client key) i).since other key =
      if client = other ∧ key ∈ keys then none else i.since other key := by
  induction keys generalizing i with
  | nil => simp
  | cons k keys ih =>
    rw [List.foldl_cons, ih, since_release]
    by_cases hclient : client = other
    · by_cases hmem : key ∈ keys
      · simp [hclient, hmem]
      · simp [hclient, hmem, eq_comm]
    · simp [hclient]

end Index

/-! ## (2) The view from the entries -/

namespace Entry

/-- An entry is determined by its client and what it holds. -/
theorem ext_get? {e e' : Entry} (hclient : e.client = e'.client)
    (h : ∀ raw, e.get? raw = e'.get? raw) : e = e' := by
  cases e
  cases e'
  rw [Entry.mk.injEq]
  exact ⟨hclient, Std.ExtTreeMap.ext_getElem? h⟩

/-- An entry is empty if nothing is held. -/
theorem isEmpty_iff (e : Entry) : e.isEmpty = true ↔ ∀ raw, e.get? raw = none := by
  rw [isEmpty, Std.ExtTreeMap.isEmpty_iff]
  constructor
  · intro h raw
    rw [get?, h, Std.ExtTreeMap.getElem?_empty]
  · intro h
    refine Std.ExtTreeMap.ext_getElem? fun raw => ?_
    rw [Std.ExtTreeMap.getElem?_empty]
    exact h raw

/-- An entry with a raw title is not empty. -/
theorem isEmpty_eq_false {e : Entry} {raw : String} (h : (e.get? raw).isSome = true) :
    e.isEmpty = false := by
  rw [← Bool.not_eq_true, isEmpty_iff]
  intro hnone
  rw [hnone] at h
  cases h

end Entry

namespace Registry

@[simp] theorem index_empty : empty.index = Index.empty := rfl

/-- The key of a raw title that the client **holds**. -/
def held (r : Registry) (client : ClientId) (raw : String) : Option TopicKey :=
  (r.clients[client]?).bind fun entry => entry.get? raw

/-- Nobody holds anything in an empty registry. -/
@[simp] theorem held_empty (client : ClientId) (raw : String) : empty.held client raw = none := by
  simp [held, empty]

/-- What an entry that is put in place of a client's entry makes the clients hold. -/
theorem held_insert (r : Registry) (index : Index) (client other : ClientId) (entry : Entry)
    (raw : String) :
    held { r with index := index, clients := r.clients.insert client entry } other raw =
      if client = other then entry.get? raw else r.held other raw := by
  simp only [held, Std.ExtTreeMap.getElem?_insert, Std.compare_eq_iff_eq]
  split <;> rfl

/-! ### Subscribing -/

/-- The topics after a client has been enrolled. -/
theorem since_enroll (r : Registry) (client other : ClientId) (raw : String) (title : Title)
    (level : Level) (now : Time) (key : TopicKey) :
    (r.enroll client raw title level now).1.index.since other key =
      if client = other ∧ title.key = key then some now else r.index.since other key := by
  rw [enroll, Index.since, Index.get?_insert, Index.since]
  by_cases hkey : title.key = key
  · subst hkey
    rw [if_pos rfl, Option.bind_some]
    cases hget : r.index.get? title.key with
    | some topic => simp
    | none =>
      by_cases hclient : client = other
      · simp [Topic.setLevel, hclient]
      · simp [Topic.setLevel, Topic.new, hclient]
  · simp [hkey]

/-- The entries after a client has been enrolled. -/
theorem held_enroll (r : Registry) (client other : ClientId) (raw raw' : String) (title : Title)
    (level : Level) (now : Time) :
    (r.enroll client raw title level now).1.held other raw' =
      if client = other ∧ raw = raw' ∧ r.held client raw = none then some title.key
      else r.held other raw' := by
  -- a client without an entry holds what the empty entry holds
  have hentry : ∀ raw,
      ((r.clients[client]?).getD (.empty client)).get? raw = r.held client raw := by
    intro raw
    rw [held]
    cases r.clients[client]? <;> simp
  rw [enroll, held_insert, Entry.get?_insert, hentry, hentry]
  by_cases hclient : client = other
  · subst hclient
    simp
  · simp [hclient]

/-- A batch is subscribed one title after the other. -/
theorem subscribe_cons_registry (r : Registry) (client : ClientId) (level : Level) (now : Time)
    (raw : String) (raws : List String) :
    (r.subscribe client level now (raw :: raws)).registry =
      ((r.subscribeOne client raw level now).registry.subscribe client level now raws).registry :=
  rfl

/-- The results of a batch are that of its first title and those of the others. -/
theorem subscribe_cons_results (r : Registry) (client : ClientId) (level : Level) (now : Time)
    (raw : String) (raws : List String) :
    (r.subscribe client level now (raw :: raws)).results =
      (r.subscribeOne client raw level now).results ++
        ((r.subscribeOne client raw level now).registry.subscribe client level now raws).results :=
  rfl

/-- The registry **admits** a client to a title under a raw title: this names the title, and the
policy lets the client pass. -/
def Admits (r : Registry) (client : ClientId) (raw : String) (title : Title) : Prop :=
  Title.canonicalize raw = .ok title ∧ r.policy title.text client = none

/-- **A title that is admitted** is enrolled, and the answer tells its topic with the topic's
level. -/
theorem subscribeOne_of_admits {r : Registry} {client : ClientId} {raw : String} {title : Title}
    (h : r.Admits client raw title) (level : Level) (now : Time) :
    r.subscribeOne client raw level now =
      ⟨(r.enroll client raw title level now).1,
        [⟨raw, .ok ⟨title.text, (r.enroll client raw title level now).2⟩⟩],
        [(title.text, client)]⟩ := by
  obtain ⟨hraw, hpolicy⟩ := h
  simp only [subscribeOne, hraw, hpolicy]

/-- **Any other title** fails and changes nothing. -/
theorem exists_subscribeOne_eq_of_not_admits {r : Registry} {client : ClientId} {raw : String}
    (h : ∀ title, ¬r.Admits client raw title) (level : Level) (now : Time) :
    ∃ error asked, r.subscribeOne client raw level now = ⟨r, [⟨raw, .error error⟩], asked⟩ := by
  cases hraw : Title.canonicalize raw with
  | error cause =>
    rw [subscribeOne, hraw]
    exact ⟨_, _, rfl⟩
  | ok title =>
    cases hpolicy : r.policy title.text client with
    | some reason =>
      simp only [subscribeOne, hraw, hpolicy]
      exact ⟨_, _, rfl⟩
    | none => exact absurd ⟨hraw, hpolicy⟩ (h title)

/-- **One title** either fails and changes nothing, or is enrolled. -/
theorem subscribeOne_cases (r : Registry) (client : ClientId) (raw : String) (level : Level)
    (now : Time) :
    (∃ error, (r.subscribeOne client raw level now).registry = r ∧
        (r.subscribeOne client raw level now).results = [⟨raw, .error error⟩]) ∨
      ∃ title granted, Title.canonicalize raw = .ok title ∧ r.policy title.text client = none ∧
        (r.subscribeOne client raw level now).registry = (r.enroll client raw title level now).1 ∧
        (r.subscribeOne client raw level now).results = [⟨raw, .ok granted⟩] := by
  by_cases hadmits : ∃ title, r.Admits client raw title
  · obtain ⟨title, hadmits⟩ := hadmits
    rw [subscribeOne_of_admits hadmits]
    exact Or.inr ⟨title, _, hadmits.1, hadmits.2, rfl, rfl⟩
  · obtain ⟨error, asked, hfails⟩ :=
      exists_subscribeOne_eq_of_not_admits (not_exists.mp hadmits) level now
    rw [hfails]
    exact Or.inl ⟨error, rfl, rfl⟩

/-- **What is held after subscribing**: what was held before, and the titles with a grant. -/
theorem isSome_held_subscribe (r : Registry) (client other : ClientId) (level : Level) (now : Time)
    (raws : List String) (raw : String) :
    ((r.subscribe client level now raws).registry.held other raw).isSome = true ↔
      (r.held other raw).isSome = true ∨ client = other ∧
        ∃ result ∈ (r.subscribe client level now raws).results,
          result.raw = raw ∧ result.isSuccess = true := by
  induction raws generalizing r with
  | nil => simp [subscribe]
  | cons first raws ih =>
    rw [subscribe_cons_registry, subscribe_cons_results, ih]
    rcases subscribeOne_cases r client first level now with
      ⟨error, hregistry, hresults⟩ | ⟨title, granted, -, -, hregistry, hresults⟩
    · rw [hregistry, hresults]
      simp [SubscribeResult.isSuccess]
    · -- the first title is held from now on, unless it was held before
      rw [hregistry, hresults, held_enroll]
      by_cases hclient : client = other
      · subst hclient
        by_cases hfirst : first = raw
        · subst hfirst
          cases hheld : r.held client first <;> simp [SubscribeResult.isSuccess]
        · simp [SubscribeResult.isSuccess, hfirst]
      · simp [hclient]

/-! ### Unsubscribing -/

/-- An entry keeps its client when a title is given up. -/
@[simp] theorem client_giveUp (i : Index) (e : Entry) (raw : String) :
    (giveUp i e raw).2.1.client = e.client := by
  rw [giveUp]
  cases e.get? raw <;> rfl

/-- What is given up is held no more, and nothing else changes in the entry. -/
@[simp] theorem get?_giveUp (i : Index) (e : Entry) (raw other : String) :
    (giveUp i e raw).2.1.get? other = if raw = other then none else e.get? other := by
  rw [giveUp]
  cases hget : e.get? raw with
  | none =>
    by_cases hraw : raw = other
    · subst hraw
      simp [hget]
    · simp [hraw]
  | some key => simp

/-- Titles are given up one after the other, each on the topics and the entry that the ones before
leave. -/
theorem giveUpAll_cons (i : Index) (e : Entry) (raw : String) (raws : List String) :
    giveUpAll i e (raw :: raws) =
      ((giveUpAll (giveUp i e raw).1 (giveUp i e raw).2.1 raws).1,
        (giveUpAll (giveUp i e raw).1 (giveUp i e raw).2.1 raws).2.1,
        (giveUp i e raw).2.2 :: (giveUpAll (giveUp i e raw).1 (giveUp i e raw).2.1 raws).2.2) :=
  rfl

/-- An entry keeps its client when titles are given up. -/
@[simp] theorem client_giveUpAll (i : Index) (e : Entry) (raws : List String) :
    (giveUpAll i e raws).2.1.client = e.client := by
  induction raws generalizing i e with
  | nil => rfl
  | cons raw raws ih => rw [giveUpAll_cons, ih, client_giveUp]

/-- **All titles that are given up** are held no more, and nothing else changes in the entry. -/
@[simp] theorem get?_giveUpAll (i : Index) (e : Entry) (raws : List String) (raw : String) :
    (giveUpAll i e raws).2.1.get? raw = if raw ∈ raws then none else e.get? raw := by
  induction raws generalizing i e with
  | nil => simp [giveUpAll]
  | cons first raws ih =>
    rw [giveUpAll_cons, ih, get?_giveUp]
    by_cases hmem : raw ∈ raws
    · simp [hmem]
    · simp [hmem, eq_comm]

/-- What is left of an entry, and what is told of the raw titles, does not depend on the topics. -/
theorem giveUp_snd_eq (i i' : Index) (e : Entry) (raw : String) :
    (giveUp i e raw).2 = (giveUp i' e raw).2 := by
  rw [giveUp, giveUp]
  cases e.get? raw <;> rfl

/-- What is left of the entry and what is answered do not depend on the topics. -/
theorem giveUpAll_snd_eq (i i' : Index) (e : Entry) (raws : List String) :
    (giveUpAll i e raws).2 = (giveUpAll i' e raws).2 := by
  induction raws generalizing i i' e with
  | nil => rfl
  | cons raw raws ih =>
    have hfirst := giveUp_snd_eq i i' e raw
    rw [giveUpAll_cons, giveUpAll_cons, hfirst, ih (giveUp i e raw).1 (giveUp i' e raw).1]

/-- The subscriptions of a client after a raw title has been given up are determined by those
before. -/
theorem since_giveUp_congr {i i' : Index} {client : ClientId}
    (h : ∀ key, i.since client key = i'.since client key) (e : Entry) (raw : String)
    (key : TopicKey) :
    (giveUp i e raw).1.since client key = (giveUp i' e raw).1.since client key := by
  rw [giveUp, giveUp]
  cases e.get? raw with
  | none => exact h key
  | some released =>
    cases hrest : (e.erase raw).references released with
    | true => simpa [hrest] using h key
    | false => simp [hrest, Index.since_release, h key]

/-- Giving up titles keeps two indices alike for a client that they are alike for. -/
theorem since_giveUpAll_congr {i i' : Index} {client : ClientId}
    (h : ∀ key, i.since client key = i'.since client key) (e : Entry) (raws : List String)
    (key : TopicKey) :
    (giveUpAll i e raws).1.since client key = (giveUpAll i' e raws).1.since client key := by
  induction raws generalizing i i' e with
  | nil => exact h key
  | cons raw raws ih =>
    have hfirst := giveUp_snd_eq i i' e raw
    rw [giveUpAll_cons, giveUpAll_cons, hfirst]
    exact ih (since_giveUp_congr h e raw) _

/-- **Unsubscribing** fails as a whole, or gives up the titles of the client's entry. -/
theorem unsubscribe_eq_ok_iff (r : Registry) (client : ClientId) (raws : List String)
    (next : Registry) (results : List UnsubscribeResult) :
    r.unsubscribe client raws = .ok (next, results) ↔
      raws ≠ [] ∧ ∃ entry, r.clients[client]? = some entry ∧ entry.isEmpty = false ∧
        next = { r with
          index := (giveUpAll r.index entry raws).1
          clients := r.clients.insert client (giveUpAll r.index entry raws).2.1 } ∧
        results = (giveUpAll r.index entry raws).2.2 := by
  rw [unsubscribe]
  cases hget : r.clients[client]? with
  | none => cases raws <;> simp
  | some entry =>
    cases hempty : entry.isEmpty with
    | true => cases raws <;> simp [hempty]
    | false =>
      cases raws with
      | nil => simp
      | cons raw raws =>
        -- Past the three errors, the call does what the right side says.
        simp only [List.isEmpty_cons, Bool.false_eq_true, if_false, hempty, Except.ok.injEq,
          Prod.mk.injEq, ne_eq, reduceCtorEq, not_false_eq_true, true_and, Option.some.injEq,
          exists_eq_left']
        exact and_congr eq_comm eq_comm

/-- As an operation, unsubscribing changes nothing, or gives up titles of the client's entry. -/
theorem apply_unsubscribe_eq_or (r : Registry) (now : Time) (client : ClientId)
    (raws : List String) :
    (r.apply now (.unsubscribe client raws)).1 = r ∨
      ∃ entry, r.clients[client]? = some entry ∧
        (r.apply now (.unsubscribe client raws)).1 = { r with
          index := (giveUpAll r.index entry raws).1
          clients := r.clients.insert client (giveUpAll r.index entry raws).2.1 } := by
  rw [apply]
  cases hnext : r.unsubscribe client raws with
  | error e => exact Or.inl rfl
  | ok next =>
    obtain ⟨next, results⟩ := next
    obtain ⟨-, entry, hentry, -, rfl, -⟩ := (unsubscribe_eq_ok_iff r client raws _ _).mp hnext
    exact Or.inr ⟨entry, hentry, rfl⟩

/-- **Giving up raw titles** releases the client of the entry from some topics, and does nothing else
to the topics. -/
theorem exists_giveUpAll_eq_foldl_release (i : Index) (e : Entry) (raws : List String) :
    ∃ keys : List TopicKey,
      (giveUpAll i e raws).1 = keys.foldl (fun i key => i.release e.client key) i := by
  induction raws generalizing i e with
  | nil => exact ⟨[], rfl⟩
  | cons raw raws ih =>
    obtain ⟨keys, hkeys⟩ := ih (giveUp i e raw).1 (giveUp i e raw).2.1
    rw [client_giveUp] at hkeys
    rw [giveUpAll_cons, hkeys, giveUp]
    -- the first raw title releases at most the topic that it resolves to
    cases e.get? raw with
    | none => exact ⟨keys, rfl⟩
    | some key =>
      cases hrest : (e.erase raw).references key with
      | true => exact ⟨keys, by simp [hrest]⟩
      | false => exact ⟨key :: keys, by simp [hrest]⟩

/-- **Every operation but subscribing** releases a client from some topics, and does nothing else to
the topics. -/
theorem exists_index_apply_eq_foldl_release (r : Registry) (now : Time) {op : Operation}
    (hop : ∀ client titles level, op ≠ .subscribe client titles level) :
    ∃ (client : ClientId) (keys : List TopicKey),
      (r.apply now op).1.index = keys.foldl (fun i key => i.release client key) r.index := by
  cases op with
  | subscribe client titles level => exact absurd rfl (hop client titles level)
  | unsubscribe client titles =>
    rcases apply_unsubscribe_eq_or r now client titles with heq | ⟨entry, -, heq⟩
    · exact ⟨client, [], by rw [heq]; rfl⟩
    · obtain ⟨keys, hkeys⟩ := exists_giveUpAll_eq_foldl_release r.index entry titles
      exact ⟨entry.client, keys, by rw [heq, hkeys]⟩
  | unsubscribeAll client =>
    rw [apply, unsubscribeAll]
    cases r.clients[client]? with
    | none => exact ⟨client, [], rfl⟩
    | some entry => exact ⟨client, entry.keys, rfl⟩
  | resolve _ _ | topics _ _ | subscribers _ _ | subscriptions _ _ => exact ⟨0, [], rfl⟩
  | setPolicy policy => exact ⟨0, [], by cases policy <;> rfl⟩

/-- **What is held after unsubscribing.** -/
theorem held_unsubscribe {r next : Registry} {client : ClientId} {raws : List String}
    {results : List UnsubscribeResult} (h : r.unsubscribe client raws = .ok (next, results))
    (other : ClientId) (raw : String) :
    next.held other raw = if client = other ∧ raw ∈ raws then none else r.held other raw := by
  obtain ⟨-, entry, hget, -, rfl, -⟩ := (unsubscribe_eq_ok_iff r client raws next results).mp h
  -- the entry that is put back is the old one without the titles
  rw [held_insert, get?_giveUpAll]
  by_cases hclient : client = other
  · subst hclient
    simp [held, hget]
  · simp [hclient]

/-- **The entries after unsubscribing from everything**: the client has none. -/
theorem getElem?_clients_unsubscribeAll (r : Registry) (client other : ClientId) :
    (r.unsubscribeAll client).clients[other]? =
      if client = other then none else r.clients[other]? := by
  rw [unsubscribeAll]
  cases hget : r.clients[client]? with
  | none =>
    by_cases hclient : client = other
    · rw [if_pos hclient, ← hclient, hget]
    · rw [if_neg hclient]
  | some entry => simp only [Std.ExtTreeMap.getElem?_erase, Std.compare_eq_iff_eq]

/-- **What is held after unsubscribing from everything.** -/
theorem held_unsubscribeAll (r : Registry) (client other : ClientId) (raw : String) :
    (r.unsubscribeAll client).held other raw =
      if client = other then none else r.held other raw := by
  rw [held, getElem?_clients_unsubscribeAll]
  by_cases hclient : client = other
  · rw [if_pos hclient, if_pos hclient, Option.bind_none]
  · rw [if_neg hclient, if_neg hclient, held]

/-! ### The policy -/

/-- Subscribing asks the policy and leaves it as it is. -/
@[simp] theorem policy_subscribeOne (r : Registry) (client : ClientId) (raw : String) (level : Level)
    (now : Time) : (r.subscribeOne client raw level now).registry.policy = r.policy := by
  rcases subscribeOne_cases r client raw level now with
    ⟨error, hregistry, -⟩ | ⟨title, granted, -, -, hregistry, -⟩
  · rw [hregistry]
  · rw [hregistry]
    rfl

/-- A batch keeps the policy. -/
@[simp] theorem policy_subscribe (r : Registry) (client : ClientId) (level : Level) (now : Time)
    (raws : List String) : (r.subscribe client level now raws).registry.policy = r.policy := by
  induction raws generalizing r with
  | nil => rfl
  | cons raw raws ih => rw [subscribe_cons_registry, ih, policy_subscribeOne]

/-- Leaving everything keeps the policy. -/
@[simp] theorem policy_unsubscribeAll (r : Registry) (client : ClientId) :
    (r.unsubscribeAll client).policy = r.policy := by
  rw [unsubscribeAll]
  cases r.clients[client]? <;> rfl

/-- **The policy** changes only where one is installed. -/
theorem policy_apply (r : Registry) (now : Time) {op : Operation}
    (hop : ∀ policy, op ≠ .setPolicy policy) : (r.apply now op).1.policy = r.policy := by
  cases op with
  | subscribe client titles level => exact policy_subscribe r client level now titles
  | unsubscribe client titles =>
    rcases apply_unsubscribe_eq_or r now client titles with heq | ⟨entry, -, heq⟩
    · rw [heq]
    · rw [heq]
  | unsubscribeAll client => exact policy_unsubscribeAll r client
  | resolve _ _ | topics _ _ | subscribers _ _ | subscriptions _ _ => rfl
  | setPolicy policy => exact absurd rfl (hop policy)

/-- A history keeps the policy if no step installs one. -/
theorem policy_run (r : Registry) {history : List (Time × Operation)}
    (h : ∀ step ∈ history, ∀ policy, step.2 ≠ .setPolicy policy) :
    (r.run history).1.policy = r.policy := by
  induction history generalizing r with
  | nil => rfl
  | cons step history ih =>
    obtain ⟨hstep, hrest⟩ := List.forall_mem_cons.mp h
    exact (ih _ hrest).trans (policy_apply r step.1 hstep)

end Registry

end PubSub
