import PubSub.Proofs.Registry.FanOut

/-! # Clients do not interfere with each other

Topics are shared, so the calls of one client create and drop topics that others are on, and settle
their levels. Nothing else of this can be noticed by the others: a history and the same history
without the calls of one client look the same to everyone else.

* **`Operation.caller?`** — the client whose call an operation is, and **`Operation.without`** — a
  history without the calls of one client.
* **`Registry.LooksSame r r' client`** — what the client can be told of itself is the same in both
  registries, the levels of topics apart.
* **`Registry.AgreeBut r r' client`** — the relation between the two histories: the policies, the
  entries and the subscriptions of all other clients are the same. The topics are not.
* **`Registry.WellFormed.agreeBut_apply`**, **`Registry.AgreeBut.apply`** — the calls of the client
  keep it on one side alone, all other operations keep it on both sides.
* **`Registry.looksSame_run_without`** — hence every history looks the same to the others. -/

namespace PubSub

/-! ## (1) Histories without a client -/

namespace Operation

/-- The client whose **call** an operation is. Who asks a question or installs a policy does not
matter. -/
def caller? : Operation → Option ClientId
  | subscribe client _ _ => some client
  | unsubscribe client _ => some client
  | unsubscribeAll client => some client
  | resolve _ _ | topics _ _ | subscribers _ _ | subscriptions _ _ | setPolicy _ => none

/-- A history **without** the calls of a client; all other operations keep their times. -/
def without (client : ClientId) (history : List (Time × Operation)) : List (Time × Operation) :=
  history.filter fun step => step.2.caller? != some client

@[simp] theorem without_nil (client : ClientId) : without client [] = [] := rfl

/-- A step of the client is left out. -/
theorem without_cons_of_eq {client : ClientId} {step : Time × Operation}
    (h : step.2.caller? = some client) (history : List (Time × Operation)) :
    without client (step :: history) = without client history :=
  List.filter_cons_of_neg (by simp [h])

/-- Any other step stays. -/
theorem without_cons_of_ne {client : ClientId} {step : Time × Operation}
    (h : step.2.caller? ≠ some client) (history : List (Time × Operation)) :
    without client (step :: history) = step :: without client history :=
  List.filter_cons_of_pos (by simpa using h)

end Operation

/-- Whatever is nobody's call changes the policy at most. -/
theorem Registry.apply_of_caller?_eq_none (r : Registry) (now : Time) {op : Operation}
    (h : op.caller? = none) :
    (r.apply now op).1 = { r with policy := (r.apply now op).1.policy } := by
  cases op with
  | subscribe _ _ _ | unsubscribe _ _ | unsubscribeAll _ => cases h
  | resolve _ _ | topics _ _ | subscribers _ _ | subscriptions _ _ => rfl
  | setPolicy policy => cases policy <;> rfl

/-! ## (2) What a client can be told -/

/-- What the result for one title tells **apart from the level**: the raw title, the topic, and the
error. -/
def SubscribeResult.verdict (r : SubscribeResult) : String × Option String × Option RegistryError :=
  (r.raw, r.topic?, r.error?)

namespace Registry

/-- A publication under the raw title **reaches** the client. -/
def Reaches (r : Registry) (p : String) (client : ClientId) : Prop :=
  ∃ ids, r.resolve p false = .ok ids ∧ client ∈ ids

/-- Two registries **look the same to a client** if every answer about it is the same in both, up to
the levels of topics. -/
structure LooksSame (r r' : Registry) (client : ClientId) : Prop where
  /-- The client holds the same raw titles for the same topics, or has no entry. -/
  entry_eq : r.clients[client]? = r'.clients[client]?
  /-- The listings of its subscriptions are the same, times included. -/
  subscriptionsOf_eq : ∀ page, r.subscriptionsOf client page = r'.subscriptionsOf client page
  /-- A call to unsubscribe answers the same. -/
  unsubscribe_eq : ∀ raws,
    (r.unsubscribe client raws).map (·.2) = (r'.unsubscribe client raws).map (·.2)
  /-- A call to subscribe answers the same apart from levels. -/
  subscribe_eq : ∀ level now raws,
    (r.subscribe client level now raws).results.map (·.verdict) =
      (r'.subscribe client level now raws).results.map (·.verdict)
  /-- The same publications reach it. -/
  reaches_iff : ∀ p, r.Reaches p client ↔ r'.Reaches p client

/-- **The times** in the listings are those of the topics. -/
theorem subscribedAt_eq_getD (r : Registry) (client : ClientId) (key : TopicKey) :
    r.subscribedAt client key = (r.index.since client key).getD 0 := by
  rw [subscribedAt, Index.since]
  cases r.index.get? key <;> rfl

/-- **What is told of titles** apart from levels depends on the policy alone. -/
theorem verdict_subscribeOne_congr {r r' : Registry} (h : r.policy = r'.policy) (client : ClientId)
    (raw : String) (level : Level) (now : Time) :
    (r.subscribeOne client raw level now).results.map (·.verdict) =
      (r'.subscribeOne client raw level now).results.map (·.verdict) := by
  rw [subscribeOne, subscribeOne, h]
  cases Title.canonicalize raw with
  | error cause => rfl
  | ok title =>
    dsimp only
    cases r'.policy title.text client <;> rfl

/-- The verdicts on a batch depend on the policy only. -/
theorem verdict_subscribe_congr {r r' : Registry} (h : r.policy = r'.policy) (client : ClientId)
    (level : Level) (now : Time) (raws : List String) :
    (r.subscribe client level now raws).results.map (·.verdict) =
      (r'.subscribe client level now raws).results.map (·.verdict) := by
  induction raws generalizing r r' with
  | nil => rfl
  | cons raw raws ih =>
    rw [subscribe_cons_results, subscribe_cons_results, List.map_append, List.map_append,
      verdict_subscribeOne_congr h, ih]
    rw [policy_subscribeOne, policy_subscribeOne, h]

/-- **What a client is reached by** depends on what it holds. -/
theorem WellFormed.reaches_iff {r : Registry} (h : r.WellFormed) (p : String) (client : ClientId) :
    r.Reaches p client ↔
      ∃ title, Title.canonicalizeConcrete p = .ok title ∧
        ∃ raw t, (r.held client raw).isSome = true ∧ Title.canonicalize raw = .ok t ∧
          Segment.covers t.segments title.words = true := by
  rw [Reaches, resolve]
  cases hp : Title.canonicalizeConcrete p with
  | error cause => simp
  | ok title =>
    obtain ⟨htitle, hconcrete⟩ := Title.canonicalizeConcrete_eq_ok_iff.mp hp
    have haudience := h.mem_audience_iff_held htitle hconcrete client
    simp only [Bool.false_and, Bool.false_eq_true, if_false, Except.ok.injEq, exists_eq_left']
    rw [Std.ExtTreeSet.mem_toList, haudience]

/-! ## (3) The relation between two histories -/

/-- Two registries **agree but for a client** if their policies, the entries of all other clients
and the subscriptions of all other clients are the same. The topics may differ in their levels and
their times, and there may be more of them on one side. -/
structure AgreeBut (r r' : Registry) (client : ClientId) : Prop where
  /-- The policies are the same. -/
  policy_eq : r.policy = r'.policy
  /-- The entries of the others are the same. -/
  entry_eq : ∀ other, other ≠ client → r.clients[other]? = r'.clients[other]?
  /-- The subscriptions of the others are the same, times included. -/
  since_eq : ∀ other, other ≠ client → ∀ key,
    r.index.since other key = r'.index.since other key

namespace AgreeBut

variable {r r' r'' : Registry} {client other : ClientId}

/-- A registry agrees with itself. -/
theorem refl (r : Registry) (client : ClientId) : r.AgreeBut r client :=
  ⟨rfl, fun _ _ => rfl, fun _ _ _ => rfl⟩

/-- Registries that agree with a third one agree with each other. -/
theorem trans (h : r.AgreeBut r' client) (h' : r'.AgreeBut r'' client) : r.AgreeBut r'' client where
  policy_eq := h.policy_eq.trans h'.policy_eq
  entry_eq other hother := (h.entry_eq other hother).trans (h'.entry_eq other hother)
  since_eq other hother key := (h.since_eq other hother key).trans (h'.since_eq other hother key)

/-! ### The calls of the client -/

/-- Subscribing a raw title changes nothing for the others. -/
theorem subscribeOne_left (r : Registry) (client : ClientId) (raw : String) (level : Level)
    (now : Time) : (r.subscribeOne client raw level now).registry.AgreeBut r client := by
  rcases subscribeOne_cases r client raw level now with
    ⟨error, hregistry, -⟩ | ⟨title, granted, -, -, hregistry, -⟩
  · rw [hregistry]
    exact refl r client
  · rw [hregistry]
    refine ⟨rfl, fun other hother => ?_, fun other hother key => ?_⟩
    · simp [enroll, Std.ExtTreeMap.getElem?_insert, Ne.symm hother]
    · rw [since_enroll, if_neg fun hcond => hother hcond.1.symm]

/-- What a client subscribes to matters to nobody else. -/
theorem subscribe_left (r : Registry) (client : ClientId) (level : Level) (now : Time)
    (raws : List String) : (r.subscribe client level now raws).registry.AgreeBut r client := by
  induction raws generalizing r with
  | nil => exact refl r client
  | cons raw raws ih => exact (ih _).trans (subscribeOne_left r client raw level now)

end AgreeBut

/-- **A call of the client** changes nothing for the others. -/
theorem WellFormed.agreeBut_apply {r : Registry} (h : r.WellFormed) {client : ClientId} (now : Time)
    {op : Operation} (hop : op.caller? = some client) : (r.apply now op).1.AgreeBut r client := by
  cases op with
  | subscribe caller titles level =>
    obtain rfl := Option.some.inj hop
    exact AgreeBut.subscribe_left r caller level now titles
  | unsubscribe caller titles =>
    obtain rfl := Option.some.inj hop
    rcases apply_unsubscribe_eq_or r now caller titles with heq | ⟨entry, hentry, heq⟩
    · rw [heq]
      exact AgreeBut.refl r caller
    · rw [heq]
      -- Giving up titles takes only the owner of the entry off, and this is the caller.
      refine ⟨rfl, fun other hother => ?_, fun other hother key => ?_⟩
      · simp [Std.ExtTreeMap.getElem?_insert, Ne.symm hother]
      · refine (h.agrees hentry).since_giveUpAll_of_ne titles ?_ key
        rw [h.entry_client caller entry hentry]
        exact hother.symm
  | unsubscribeAll caller =>
    obtain rfl := Option.some.inj hop
    refine ⟨policy_unsubscribeAll r caller, fun other hother => ?_, fun other hother key => ?_⟩
    · rw [Registry.apply, getElem?_clients_unsubscribeAll, if_neg (Ne.symm hother)]
    · rw [Registry.apply, Registry.unsubscribeAll]
      cases r.clients[caller]? with
      | none => rfl
      | some entry => rw [Index.since_foldl_release, if_neg fun hcond => hother hcond.1.symm]
  | resolve _ _ | topics _ _ | subscribers _ _ | subscriptions _ _ | setPolicy _ => cases hop

namespace AgreeBut

variable {r r' : Registry} {client caller : ClientId}

/-! ### All other operations -/

/-- Enrolling another client on both sides: its entries were the same before, and it is subscribed
since the same time afterwards. -/
theorem enroll (h : r.AgreeBut r' client) (hcaller : caller ≠ client) (raw : String) (title : Title)
    (level : Level) (now : Time) :
    (r.enroll caller raw title level now).1.AgreeBut (r'.enroll caller raw title level now).1
      client where
  policy_eq := h.policy_eq
  entry_eq other hother := by
    simp only [Registry.enroll, Std.ExtTreeMap.getElem?_insert, h.entry_eq caller hcaller,
      h.entry_eq other hother]
  since_eq other hother key := by
    rw [since_enroll, since_enroll, h.since_eq other hother]

/-- One title of another client keeps two registries in agreement. -/
theorem subscribeOne (h : r.AgreeBut r' client) (hcaller : caller ≠ client) (raw : String)
    (level : Level) (now : Time) :
    (r.subscribeOne caller raw level now).registry.AgreeBut
      (r'.subscribeOne caller raw level now).registry client := by
  rw [Registry.subscribeOne, Registry.subscribeOne, h.policy_eq]
  cases Title.canonicalize raw with
  | error cause => exact h
  | ok title =>
    dsimp only
    cases r'.policy title.text caller with
    | some reason => exact h
    | none => exact h.enroll hcaller raw title level now

/-- So does a batch of another client. -/
theorem subscribe (h : r.AgreeBut r' client) (hcaller : caller ≠ client) (level : Level)
    (now : Time) (raws : List String) :
    (r.subscribe caller level now raws).registry.AgreeBut
      (r'.subscribe caller level now raws).registry client := by
  induction raws generalizing r r' with
  | nil => exact h
  | cons raw raws ih => exact ih (h.subscribeOne hcaller raw level now)

/-- Unsubscribing another client on both sides: the same raw titles of the same entry are given
up. -/
theorem unsubscribe (h : r.AgreeBut r' client) (hcaller : caller ≠ client) (now : Time)
    (raws : List String) :
    (r.apply now (.unsubscribe caller raws)).1.AgreeBut (r'.apply now (.unsubscribe caller raws)).1
      client := by
  rw [Registry.apply, Registry.apply, Registry.unsubscribe, Registry.unsubscribe,
    h.entry_eq caller hcaller]
  cases raws with
  | nil => exact h
  | cons raw raws =>
    cases r'.clients[caller]? with
    | none => exact h
    | some entry =>
      cases hempty : entry.isEmpty with
      | true => simpa [hempty] using h
      | false =>
        -- What is left of an entry does not depend on the index.
        simp only [List.isEmpty_cons, Bool.false_eq_true, if_false, hempty]
        refine ⟨h.policy_eq, fun other hother => ?_, fun other hother key => ?_⟩
        · simp only [Std.ExtTreeMap.getElem?_insert, h.entry_eq other hother,
            giveUpAll_snd_eq r.index r'.index]
        · exact since_giveUpAll_congr (h.since_eq other hother) entry (raw :: raws) key

/-- So does another client when it leaves everything. -/
theorem unsubscribeAll (h : r.AgreeBut r' client) (hcaller : caller ≠ client) :
    (r.unsubscribeAll caller).AgreeBut (r'.unsubscribeAll caller) client where
  policy_eq := by rw [policy_unsubscribeAll, policy_unsubscribeAll, h.policy_eq]
  entry_eq other hother := by
    rw [getElem?_clients_unsubscribeAll, getElem?_clients_unsubscribeAll, h.entry_eq other hother]
  since_eq other hother key := by
    -- the keys that are released are those of the same entry
    rw [Registry.unsubscribeAll, Registry.unsubscribeAll, h.entry_eq caller hcaller]
    cases r'.clients[caller]? with
    | none => exact h.since_eq other hother key
    | some entry =>
      rw [Index.since_foldl_release, Index.since_foldl_release, h.since_eq other hother]

/-- **Any other operation** leads registries that agree to registries that agree. -/
theorem apply (h : r.AgreeBut r' client) (now : Time) {op : Operation}
    (hop : op.caller? ≠ some client) : (r.apply now op).1.AgreeBut (r'.apply now op).1 client := by
  have hne : ∀ {caller}, op.caller? = some caller → caller ≠ client := by
    rintro caller heq rfl
    exact hop heq
  cases op with
  | subscribe caller titles level => exact h.subscribe (hne rfl) level now titles
  | unsubscribe caller titles => exact h.unsubscribe (hne rfl) now titles
  | unsubscribeAll caller => exact h.unsubscribeAll (hne rfl)
  | resolve _ _ | topics _ _ | subscribers _ _ | subscriptions _ _ => exact h
  | setPolicy policy =>
    cases policy with
    | none => exact h
    | some policy => exact ⟨rfl, h.entry_eq, h.since_eq⟩

/-- **A history**, with the calls of the client on one side and without them on the other. -/
theorem run_without (h : r.AgreeBut r' client) (hwf : r.WellFormed)
    (history : List (Time × Operation)) :
    (r.run history).1.AgreeBut (r'.run (Operation.without client history)).1 client := by
  induction history generalizing r r' with
  | nil => exact h
  | cons step history ih =>
    obtain ⟨now, op⟩ := step
    by_cases hop : op.caller? = some client
    · -- this side alone carries the call out
      rw [Operation.without_cons_of_eq hop, run_cons]
      exact ih ((hwf.agreeBut_apply now hop).trans h) (hwf.apply now op)
    · rw [Operation.without_cons_of_ne hop, run_cons, run_cons]
      exact ih (h.apply now hop) (hwf.apply now op)

/-! ## (4) What the relation says to the others -/

/-- **Registries that agree but for a client look the same to all others.** -/
theorem looksSame (h : r.AgreeBut r' client) (hwf : r.WellFormed) (hwf' : r'.WellFormed)
    {other : ClientId} (hother : other ≠ client) : r.LooksSame r' other where
  entry_eq := h.entry_eq other hother
  subscriptionsOf_eq page := by
    -- The listing takes the titles from the entry and the times from the index.
    have htimes : ∀ key, r.subscribedAt other key = r'.subscribedAt other key := fun key => by
      rw [subscribedAt_eq_getD, subscribedAt_eq_getD, h.since_eq other hother]
    rw [subscriptionsOf, subscriptionsOf, h.entry_eq other hother]
    simp only [allSubscriptionsOf, htimes]
  unsubscribe_eq raws := by
    rw [Registry.unsubscribe, Registry.unsubscribe, h.entry_eq other hother]
    cases raws with
    | nil => rfl
    | cons raw raws =>
      cases r'.clients[other]? with
      | none => rfl
      | some entry =>
        cases hempty : entry.isEmpty with
        | true => simp [hempty, Except.map]
        | false => simp [hempty, Except.map, giveUpAll_snd_eq r.index r'.index]
  subscribe_eq level now raws := verdict_subscribe_congr h.policy_eq other level now raws
  reaches_iff p := by
    have hheld : ∀ raw, r.held other raw = r'.held other raw := fun raw => by
      rw [held, held, h.entry_eq other hother]
    rw [hwf.reaches_iff, hwf'.reaches_iff]
    simp only [hheld]

end AgreeBut

/-- **Clients do not interfere with each other.** After any history, and so at every point of one,
the registry looks to a client as it would if another client had made none of its calls so far: its
entry, the listings with their times, and the answers to whatever it calls next are the same, and so
are the publications that reach it; the levels of topics alone may differ. -/
theorem looksSame_run_without {client other : ClientId} (h : other ≠ client)
    (history : List (Time × Operation)) :
    (empty.run history).1.LooksSame (empty.run (Operation.without client history)).1 other :=
  ((AgreeBut.refl empty client).run_without wellFormed_empty history).looksSame
    (wellFormed_empty.run _) (wellFormed_empty.run _) h

/-- Client 1 creates the topic that client 2 joins, and is the last to leave it. -/
theorem looksSame_run_without_creator : (2 : ClientId) ≠ 1 ∧
    (empty.run
        [(1, .subscribe 1 ["/a"] .qos2), (2, .subscribe 2 ["a", "/+"] .qos0),
          (3, .unsubscribe 2 ["a"]), (4, .unsubscribeAll 1),
          (5, .subscribe 2 ["a/"] .qos1)]).1.LooksSame
      (empty.run
        [(2, .subscribe 2 ["a", "/+"] .qos0), (3, .unsubscribe 2 ["a"]),
          (5, .subscribe 2 ["a/"] .qos1)]).1 2 :=
  have hne : (2 : ClientId) ≠ 1 := by decide
  ⟨hne, looksSame_run_without hne
    [(1, .subscribe 1 ["/a"] .qos2), (2, .subscribe 2 ["a", "/+"] .qos0),
      (3, .unsubscribe 2 ["a"]), (4, .unsubscribeAll 1), (5, .subscribe 2 ["a/"] .qos1)]⟩

end Registry

end PubSub
