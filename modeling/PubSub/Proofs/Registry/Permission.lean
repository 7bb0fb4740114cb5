import PubSub.Proofs.Registry.Invariant

/-! # No subscription without leave

The policy is asked for every title of a subscription, by its canonical text. This file says what an
operation does to a single subscription, and that there is no way around the policy.

* **`Registry.since_apply_of_ne_subscribe`** — leaving topics brings no subscriptions and changes no
  time.
* **`Registry.AdmitsSome`** — a raw title of a batch names the topic and the policy lets the client
  pass, and **`Registry.since_subscribe_cases`** — a batch sets the time of these subscriptions and of
  no others.
* **`Registry.isSome_since_apply`** — so a subscription that is there after an operation was there
  before, or has passed the policy that was in force. -/

namespace PubSub

namespace Registry

/-! ## (1) Leaving topics -/

/-- **Any operation but subscribing** leaves a subscription as it is, or ends it. -/
theorem since_apply_of_ne_subscribe (r : Registry) (now : Time) {op : Operation}
    (hop : ∀ client titles level, op ≠ .subscribe client titles level) (client : ClientId)
    (key : TopicKey) :
    (r.apply now op).1.index.since client key = r.index.since client key ∨
      (r.apply now op).1.index.since client key = none := by
  obtain ⟨caller, keys, hindex⟩ := exists_index_apply_eq_foldl_release r now hop
  rw [hindex, Index.since_foldl_release]
  split
  · exact Or.inr rfl
  · exact Or.inl rfl

/-! ## (2) Entering topics -/

/-- Some raw title of a batch names the topic under the key and is **admitted**. -/
def AdmitsSome (r : Registry) (client : ClientId) (raws : List String) (key : TopicKey) : Prop :=
  ∃ raw ∈ raws, ∃ title, r.Admits client raw title ∧ title.key = key

/-- A batch admits a title for a topic if the first title is admitted for it, or one of the others.
-/
theorem admitsSome_cons_iff (r : Registry) (client : ClientId) (raw : String) (raws : List String)
    (key : TopicKey) :
    r.AdmitsSome client (raw :: raws) key ↔
      (∃ title, r.Admits client raw title ∧ title.key = key) ∨ r.AdmitsSome client raws key := by
  simp [AdmitsSome]

/-- Who is admitted depends on the policy alone. -/
theorem admitsSome_congr {r r' : Registry} (h : r.policy = r'.policy) (client : ClientId)
    (raws : List String) (key : TopicKey) :
    r.AdmitsSome client raws key ↔ r'.AdmitsSome client raws key := by
  simp only [AdmitsSome, Admits, h]

/-- **A batch** renews the subscriptions of its client to the topics for which a raw title is
admitted, and no others. -/
theorem since_subscribe_cases (r : Registry) (client other : ClientId) (level : Level) (now : Time)
    (raws : List String) (key : TopicKey) :
    ((client = other ∧ r.AdmitsSome client raws key) ∧
        (r.subscribe client level now raws).registry.index.since other key = some now) ∨
      (¬(client = other ∧ r.AdmitsSome client raws key) ∧
        (r.subscribe client level now raws).registry.index.since other key =
          r.index.since other key) := by
  induction raws generalizing r with
  | nil => exact Or.inr ⟨by simp [AdmitsSome], rfl⟩
  | cons raw raws ih =>
    have hrest := ih (r.subscribeOne client raw level now).registry
    rw [admitsSome_congr (policy_subscribeOne r client raw level now)] at hrest
    rw [subscribe_cons_registry, admitsSome_cons_iff]
    by_cases hadmits : ∃ title, r.Admits client raw title
    · obtain ⟨title, hadmits⟩ := hadmits
      have hfirst := since_enroll r client other raw title level now key
      have hiff : (∃ title, r.Admits client raw title ∧ title.key = key) ↔ title.key = key := by
        constructor
        · rintro ⟨title', hadmits', rfl⟩
          rw [Except.ok.inj (hadmits.1.symm.trans hadmits'.1)]
        · exact fun hkey => ⟨title, hadmits, hkey⟩
      rw [subscribeOne_of_admits hadmits] at hrest ⊢
      rw [hiff]
      -- what the rest does not renew is as the first title has left it
      rcases hrest with ⟨⟨hclient, hlater⟩, hsince⟩ | ⟨hnot, hsince⟩
      · exact Or.inl ⟨⟨hclient, Or.inr hlater⟩, hsince⟩
      · rw [hsince, hfirst]
        by_cases hnew : client = other ∧ title.key = key
        · exact Or.inl ⟨⟨hnew.1, Or.inl hnew.2⟩, if_pos hnew⟩
        · refine Or.inr ⟨?_, if_neg hnew⟩
          rintro ⟨hclient, hkey | hlater⟩
          · exact hnew ⟨hclient, hkey⟩
          · exact hnot ⟨hclient, hlater⟩
    · obtain ⟨error, asked, hfails⟩ :=
        exists_subscribeOne_eq_of_not_admits (not_exists.mp hadmits) level now
      have hno : ¬∃ title, r.Admits client raw title ∧ title.key = key := by
        rintro ⟨title, hadmitted, -⟩
        exact hadmits ⟨title, hadmitted⟩
      rw [hfails] at hrest ⊢
      rwa [or_iff_right hno]

/-- Whoever is admitted to a topic has passed the policy, by the canonical text of the topic. -/
theorem AdmitsSome.policy_eq_none {r : Registry} {client : ClientId} {raws : List String}
    {key : TopicKey} (h : r.AdmitsSome client raws key) : r.policy key.title client = none := by
  obtain ⟨raw, -, title, hadmits, rfl⟩ := h
  exact hadmits.2

/-! ## (3) Every subscription has passed the policy -/

/-- **No subscription without leave.** A subscription that is there after an operation was there
before, or the policy in force has let the client pass with the canonical text of the topic. -/
theorem isSome_since_apply {r : Registry} {now : Time} {op : Operation} {client : ClientId}
    {key : TopicKey} (h : ((r.apply now op).1.index.since client key).isSome = true) :
    (r.index.since client key).isSome = true ∨ r.policy key.title client = none := by
  by_cases hop : ∃ caller titles level, op = .subscribe caller titles level
  · obtain ⟨caller, titles, level, rfl⟩ := hop
    rcases since_subscribe_cases r caller client level now titles key with
      ⟨⟨rfl, hadmits⟩, -⟩ | ⟨-, hsame⟩
    · exact Or.inr hadmits.policy_eq_none
    · rw [apply, hsame] at h
      exact Or.inl h
  · simp only [not_exists] at hop
    rcases since_apply_of_ne_subscribe r now hop client key with hsame | hnone
    · rw [hsame] at h
      exact Or.inl h
    · rw [hnone] at h
      cases h

end Registry

end PubSub
