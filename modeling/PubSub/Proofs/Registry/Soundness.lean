import PubSub.Proofs.Registry.Invariant

/-! # Sound registries

`Index.release` does nothing where there is no topic, and `Registry.subscribedAt` answers 0 where
there is no subscription. Neither ever happens in a state that a history leads to.

* **`Index.release?`**, **`Registry.giveUp?`**, **`Registry.giveUpAll?`** — the same as without the
  question mark, but a release without a topic fails.
* **`Registry.Sound r`** — the invariant, and what it means for the look-ups that one record of the
  subscriptions makes in another.
* **`Registry.sound_run_empty`** — the states that histories lead to are sound. -/

namespace PubSub

/-! ## (1) Releases that fail -/

/-- **Release for sure**: without a topic under the key it fails. -/
def Index.release? (i : Index) (client : ClientId) (key : TopicKey) : Option Index :=
  if (i.get? key).isSome then some (i.release client key) else none

namespace Registry

/-- `giveUp` with a release that fails without a topic. -/
def giveUp? (index : Index) (entry : Entry) (raw : String) :
    Option (Index × Entry × UnsubscribeResult) :=
  match entry.get? raw with
  | none => some (index, entry, ⟨raw, some (.notSubscribed raw)⟩)
  | some key =>
    let rest := entry.erase raw
    if rest.references key then some (index, rest, ⟨raw, none⟩)
    else (index.release? entry.client key).map fun index => (index, rest, ⟨raw, none⟩)

/-- `giveUpAll` with releases that fail without a topic. -/
def giveUpAll? (index : Index) (entry : Entry) :
    List String → Option (Index × Entry × List UnsubscribeResult)
  | [] => some (index, entry, [])
  | raw :: raws => do
    let (index, entry, result) ← giveUp? index entry raw
    let (index, entry, results) ← giveUpAll? index entry raws
    return (index, entry, result :: results)

end Registry

/-! ## (2) Releases that find their topic -/

/-- Where a client is subscribed, there is a topic to release it from. -/
theorem Index.release?_eq {i : Index} {client : ClientId} {key : TopicKey}
    (h : (i.since client key).isSome = true) :
    i.release? client key = some (i.release client key) := by
  obtain ⟨time, hsince⟩ := Option.isSome_iff_exists.mp h
  obtain ⟨topic, hget, -⟩ := (since_eq_some_iff i client key time).mp hsince
  rw [release?, hget]
  rfl

/-- Where a client is subscribed to several topics, it can be released from one after the other. -/
theorem Index.foldlM_release?_eq {keys : List TopicKey} (hkeys : keys.Nodup) {i : Index}
    {client : ClientId} (h : ∀ key ∈ keys, (i.since client key).isSome = true) :
    keys.foldlM (fun i key => i.release? client key) i =
      some (keys.foldl (fun i key => i.release client key) i) := by
  induction keys generalizing i with
  | nil => rfl
  | cons key keys ih =>
    obtain ⟨hkey, hkeys⟩ := List.nodup_cons.mp hkeys
    rw [List.foldlM_cons, release?_eq (h key List.mem_cons_self), List.foldl_cons]
    refine ih hkeys fun key' hkey' => ?_
    -- the keys are distinct, so the subscription to `key'` is still there
    rw [since_release, if_neg]
    · exact h key' (List.mem_cons_of_mem key hkey')
    · rintro ⟨-, rfl⟩
      exact hkey hkey'

/-- Without its duplicates a list holds each item once. -/
theorem nodup_eraseDups {α : Type} [BEq α] [LawfulBEq α] (items : List α) :
    items.eraseDups.Nodup := by
  induction hlength : items.length using Nat.strongRecOn generalizing items with
  | ind n ih =>
    cases items with
    | nil => exact List.nodup_nil
    | cons item rest =>
      have hle := List.length_filter_le (fun other => !other == item) rest
      have hshort : (rest.filter fun other => !other == item).length < n := by
        rw [List.length_cons] at hlength
        omega
      rw [List.eraseDups_cons, List.nodup_cons]
      refine ⟨fun hmem => ?_, ih _ hshort _ rfl⟩
      -- what is kept besides `item` differs from it
      rw [List.mem_eraseDups, List.mem_filter] at hmem
      simp at hmem

namespace Entry.Agrees

variable {e : Entry} {i : Index}

/-- Giving up a raw title never releases the client from a missing topic. -/
theorem giveUp?_eq (h : e.Agrees i) (raw : String) :
    Registry.giveUp? i e raw = some (Registry.giveUp i e raw) := by
  rw [Registry.giveUp?, Registry.giveUp]
  cases hraw : e.get? raw with
  | none => rfl
  | some key =>
    cases hrest : (e.erase raw).references key with
    | true => simp [hrest]
    | false =>
      have hsince : (i.since e.client key).isSome = true :=
        (h key).mpr ((references_iff e key).mpr ⟨raw, hraw⟩)
      simp [hrest, Index.release?_eq hsince]

/-- **No release misses its topic** when many titles are given up. -/
theorem giveUpAll?_eq (h : e.Agrees i) (raws : List String) :
    Registry.giveUpAll? i e raws = some (Registry.giveUpAll i e raws) := by
  induction raws generalizing i e with
  | nil => rfl
  | cons raw raws ih =>
    have hrest := ih (h.giveUp raw)
    rw [Registry.giveUpAll?, h.giveUp?_eq, Registry.giveUpAll_cons]
    generalize Registry.giveUp i e raw = step at hrest ⊢
    obtain ⟨index, entry, result⟩ := step
    simp [hrest]

/-- Giving up everything never releases the client from a missing topic. -/
theorem foldlM_release?_keys (h : e.Agrees i) :
    e.keys.foldlM (fun i key => i.release? e.client key) i =
      some (e.keys.foldl (fun i key => i.release e.client key) i) := by
  refine Index.foldlM_release?_eq (nodup_eraseDups _) fun key hkey => ?_
  rw [h key, references_iff, ← mem_keys_iff]
  exact hkey

end Entry.Agrees

/-! ## (3) Sound registries -/

namespace Registry

/-- A registry is **sound** if its three records of the subscriptions agree and nothing that one of
them refers to is missing in another. -/
structure Sound (r : Registry) : Prop where
  /-- The invariant holds. -/
  wellFormed : r.WellFormed
  /-- No title is both that of a plain topic and that of a wildcard topic. -/
  disjoint : ∀ title, title ∈ r.index.plain → title ∉ r.index.wildcard
  /-- Unsubscribing from some titles releases the client from topics that are there. -/
  giveUpAll?_eq : ∀ (client : ClientId) (entry : Entry), r.clients[client]? = some entry →
    ∀ raws, giveUpAll? r.index entry raws = some (giveUpAll r.index entry raws)
  /-- Unsubscribing from everything releases the client from topics that are there. -/
  foldlM_release?_eq : ∀ (client : ClientId) (entry : Entry), r.clients[client]? = some entry →
    entry.keys.foldlM (fun i key => i.release? client key) r.index =
      some (entry.keys.foldl (fun i key => i.release client key) r.index)
  /-- Every subscription that is listed for a client has a time. -/
  subscribedAt_eq : ∀ (client : ClientId) (entry : Entry), r.clients[client]? = some entry →
    ∀ item ∈ entry.toList, r.index.since client item.2 = some (r.subscribedAt client item.2)

/-- The invariant is all it takes to be sound. -/
theorem WellFormed.sound {r : Registry} (h : r.WellFormed) : r.Sound where
  wellFormed := h
  disjoint title hplain hwildcard := by
    have hp := Std.ExtTreeMap.getElem?_eq_some_getElem hplain
    have hw := Std.ExtTreeMap.getElem?_eq_some_getElem hwildcard
    -- both topics have the title that canonicalization yields, and so its kind
    have hfiled := h.filed ⟨title, .plain⟩ _ hp
    have hfiled' := h.filed ⟨title, .wildcard⟩ _ hw
    have hsame := hfiled.canonical.symm.trans hfiled'.canonical
    have hkey := hfiled.key_eq
    rw [Except.ok.inj hsame, hfiled'.key_eq] at hkey
    cases hkey
  giveUpAll?_eq client entry hentry raws := (h.agrees hentry).giveUpAll?_eq raws
  foldlM_release?_eq client entry hentry := by
    have hkeys := (h.agrees hentry).foldlM_release?_keys
    rwa [h.entry_client client entry hentry] at hkeys
  subscribedAt_eq client entry hentry item hitem := by
    have hsince : (r.index.since client item.2).isSome = true := by
      have hagrees := h.agrees hentry item.2
      rw [h.entry_client client entry hentry] at hagrees
      rw [hagrees, Entry.references, List.any_eq_true]
      exact ⟨item, hitem, by simp⟩
    obtain ⟨time, htime⟩ := Option.isSome_iff_exists.mp hsince
    obtain ⟨topic, hget, hlisted⟩ := (Index.since_eq_some_iff _ client item.2 time).mp htime
    rw [htime, subscribedAt, hget]
    simp [hlisted]

/-- **The states that histories lead to are sound**, whatever the operations answer and whichever
policies are installed on the way. A policy that changes its mind within a batch is covered as well:
a batch is subscribed one title after the other, so it is a history with policies between the
titles. -/
theorem sound_run_empty (ops : List (Time × Operation)) : (empty.run ops).1.Sound :=
  (wellFormed_empty.run ops).sound

end Registry

end PubSub
