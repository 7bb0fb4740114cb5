import PubSub.Proofs.Registry.UnsubscribeBatch

/-! # Giving up everything title by title

A client can leave in two ways: it gives up its raw titles, in calls of any size and in any order,
or it unsubscribes from everything in one call. The first way asks before every release whether
another raw title is left for the topic; the second one releases each topic once. Both leave the same
topics behind.

* **`Operation.unsubscribes client batches`** — the calls that give up raw titles batch by batch, and
  **`Answer.givenUp raws`** — the answer when all of them succeed.
* **`Registry.giveUpResults_of_nodup`** — raw titles that are held are given up, if each is named
  once.
* **`Registry.run_unsubscribes`** — batches of held raw titles all succeed, and the entry is left
  without them.
* **`Registry.run_unsubscribes_eq_unsubscribeAll`** — so giving up everything ends where
  unsubscribing from everything does, with an empty entry in place of none. -/

namespace PubSub

open Std (ExtTreeMap)

/-! ## (1) Calls that give up raw titles -/

/-- The **calls** by which a client gives up batches of raw titles, one call for each batch. -/
def Operation.unsubscribes (client : ClientId) (batches : List (Time × List String)) :
    List (Time × Operation) :=
  batches.map fun batch => (batch.1, .unsubscribe client batch.2)

/-- The answer to a call that gives up **every one** of its raw titles. -/
def Answer.givenUp (raws : List String) : Answer :=
  .unsubscribed (raws.map fun raw => ⟨raw, none⟩)

/-- The batches are given up one after the other. -/
@[simp] theorem Operation.unsubscribes_cons (client : ClientId) (now : Time) (raws : List String)
    (batches : List (Time × List String)) :
    unsubscribes client ((now, raws) :: batches) =
      (now, .unsubscribe client raws) :: unsubscribes client batches := rfl

/-! ## (2) Raw titles that are held -/

namespace Entry

/-- An entry without raw titles is the empty entry of its client. -/
theorem eq_empty {e : Entry} {client : ClientId} (hclient : e.client = client)
    (h : ∀ raw, e.get? raw = none) : e = empty client := by
  refine ext_get? hclient fun raw => ?_
  rw [h, get?_empty]

/-- The raw titles of an entry are the keys of its map. -/
theorem mem_keys_held_iff (e : Entry) (raw : String) :
    raw ∈ e.held.keys ↔ (e.get? raw).isSome = true := by
  rw [ExtTreeMap.mem_keys, ← ExtTreeMap.contains_iff_mem,
    ExtTreeMap.contains_eq_isSome_getElem?, get?]

end Entry

namespace Registry

/-- **Raw titles that are held are given up**, if each is named once. -/
theorem giveUpResults_of_nodup {held : String → Option TopicKey} {raws : List String}
    (hnodup : raws.Nodup) (hheld : ∀ raw ∈ raws, (held raw).isSome = true) :
    giveUpResults held raws = raws.map fun raw => ⟨raw, none⟩ := by
  induction raws generalizing held with
  | nil => rfl
  | cons raw raws ih =>
    obtain ⟨hraw, hnodup⟩ := List.nodup_cons.mp hnodup
    obtain ⟨hfirst, hrest⟩ := List.forall_mem_cons.mp hheld
    rw [giveUpResults_cons, if_pos hfirst, ih hnodup fun other hother => ?_, List.map_cons]
    -- the others are still held, as none of them is `raw`
    have hne : raw ≠ other := fun heq => hraw (heq ▸ hother)
    rw [if_neg hne]
    exact hrest other hother

/-- **One call**: raw titles that are held, each named once, are given up, and the rest of the entry
stays. -/
theorem exists_unsubscribe_eq_ok {r : Registry} {client : ClientId} {entry : Entry}
    (hentry : r.clients[client]? = some entry) {raws : List String} (hne : raws ≠ [])
    (hnodup : raws.Nodup) (hheld : ∀ raw ∈ raws, (entry.get? raw).isSome = true) :
    ∃ next, r.unsubscribe client raws = .ok (next, raws.map fun raw => ⟨raw, none⟩) ∧
      ∃ rest, next.clients[client]? = some rest ∧
        ∀ raw, rest.get? raw = if raw ∈ raws then none else entry.get? raw := by
  obtain ⟨raw, hraw⟩ := List.exists_mem_of_ne_nil raws hne
  have hempty : entry.isEmpty = false := Entry.isEmpty_eq_false (hheld raw hraw)
  have hresults :=
    (results_giveUpAll r.index entry raws).trans (giveUpResults_of_nodup hnodup hheld)
  refine ⟨_, (unsubscribe_eq_ok_iff r client raws _ _).mpr
    ⟨hne, entry, hentry, hempty, rfl, hresults.symm⟩, (giveUpAll r.index entry raws).2.1, ?_, ?_⟩
  · exact ExtTreeMap.getElem?_insert_self
  · exact get?_giveUpAll r.index entry raws

/-- **All calls**: batches of raw titles that are held, each named in one batch and there once, are
given up, and the rest of the entry stays. -/
theorem run_unsubscribes {r : Registry} {client : ClientId} {entry : Entry}
    (hentry : r.clients[client]? = some entry) {batches : List (Time × List String)}
    (hne : ∀ batch ∈ batches, batch.2 ≠ []) (hnodup : (batches.flatMap (·.2)).Nodup)
    (hheld : ∀ raw ∈ batches.flatMap (·.2), (entry.get? raw).isSome = true) :
    (r.run (Operation.unsubscribes client batches)).2 =
        batches.map (fun batch => Answer.givenUp batch.2) ∧
      ∃ rest, (r.run (Operation.unsubscribes client batches)).1.clients[client]? = some rest ∧
        ∀ raw, rest.get? raw =
          if raw ∈ batches.flatMap (·.2) then none else entry.get? raw := by
  induction batches generalizing r entry with
  | nil => exact ⟨rfl, entry, hentry, fun raw => by simp⟩
  | cons batch batches ih =>
    obtain ⟨now, raws⟩ := batch
    obtain ⟨hfirst, hrest⟩ := List.forall_mem_cons.mp hne
    rw [List.flatMap_cons, List.nodup_append] at hnodup
    obtain ⟨hraws, hothers, hdisjoint⟩ := hnodup
    simp only [List.flatMap_cons, List.mem_append] at hheld ⊢
    obtain ⟨next, hcall, after, hafter, hgetAfter⟩ :=
      exists_unsubscribe_eq_ok hentry hfirst hraws fun raw hraw => hheld raw (Or.inl hraw)
    -- the titles of the later batches are still in the entry
    have hleft : ∀ raw ∈ batches.flatMap (·.2), (after.get? raw).isSome = true := by
      intro raw hraw
      have hnot : raw ∉ raws := fun hmem => hdisjoint raw hmem raw hraw rfl
      rw [hgetAfter, if_neg hnot]
      exact hheld raw (Or.inr hraw)
    obtain ⟨hanswers, rest, hfinal, hget⟩ := ih hafter hrest hothers hleft
    rw [Operation.unsubscribes_cons, run_cons, apply, hcall]
    refine ⟨by rw [hanswers]; rfl, rest, hfinal, fun raw => ?_⟩
    rw [hget, hgetAfter]
    by_cases hlater : raw ∈ batches.flatMap (·.2)
    · simp [hlater]
    · simp [hlater]

/-! ## (3) Both ways of leaving -/

/-- Whoever gives up raw titles calls in its own name. -/
theorem caller?_of_mem_unsubscribes {client : ClientId} {batches : List (Time × List String)}
    {step : Time × Operation} (h : step ∈ Operation.unsubscribes client batches) :
    step.2.caller? = some client := by
  obtain ⟨batch, -, rfl⟩ := List.mem_map.mp h
  rfl

/-- A client with an empty entry is on no topic, so unsubscribing from everything takes away the
entry and nothing else. -/
theorem eq_insert_unsubscribeAll {r : Registry} {client : ClientId}
    (hentry : r.clients[client]? = some (.empty client)) :
    r = { r.unsubscribeAll client with
      clients := (r.unsubscribeAll client).clients.insert client (.empty client) } := by
  have hkeys : (Entry.empty client).keys = [] := by
    refine List.eq_nil_iff_forall_not_mem.mpr fun key hkey => ?_
    obtain ⟨raw, hget⟩ := (Entry.mem_keys_iff _ key).mp hkey
    rw [Entry.get?_empty] at hget
    cases hget
  refine ext_parts ?_ (ExtTreeMap.ext_getElem? fun other => ?_) ?_
  · simp only [unsubscribeAll, hentry, hkeys, List.foldl_nil]
  · simp only [ExtTreeMap.getElem?_insert, Std.compare_eq_iff_eq, getElem?_clients_unsubscribeAll]
    by_cases hother : client = other
    · rw [if_pos hother, ← hother, hentry]
    · rw [if_neg hother, if_neg hother]
  · exact (policy_unsubscribeAll r client).symm

/-- **The two ways of leaving agree.** In any state that a history leads to, let a client with an
entry give up all its raw titles, each once, in any order and in calls of any size. Every title is
given up, and the state is the one that unsubscribing from everything leads to, except that the
client keeps an empty entry; unsubscribing from everything afterwards removes this difference. -/
theorem run_unsubscribes_eq_unsubscribeAll (history : List (Time × Operation)) {client : ClientId}
    {entry : Entry} (hentry : (empty.run history).1.clients[client]? = some entry)
    {batches : List (Time × List String)} (hne : ∀ batch ∈ batches, batch.2 ≠ [])
    (hall : (batches.flatMap (·.2)).Perm entry.held.keys) :
    let r := (empty.run history).1
    let left := r.run (Operation.unsubscribes client batches)
    left.2 = batches.map (fun batch => Answer.givenUp batch.2) ∧
      left.1 = { r.unsubscribeAll client with
        clients := (r.unsubscribeAll client).clients.insert client (.empty client) } ∧
      left.1.unsubscribeAll client = r.unsubscribeAll client := by
  intro r left
  have hwf : r.WellFormed := wellFormed_empty.run history
  have hcalls : ∀ step ∈ Operation.unsubscribes client batches,
      step.2.caller? = some client := fun step hstep => caller?_of_mem_unsubscribes hstep
  -- what is given up is what is held, so all calls succeed and nothing is left of the entry
  have hmem : ∀ raw, raw ∈ batches.flatMap (·.2) ↔ (entry.get? raw).isSome = true := fun raw =>
    hall.mem_iff.trans (entry.mem_keys_held_iff raw)
  obtain ⟨hanswers, rest, hrest, hget⟩ := run_unsubscribes hentry hne
    (hall.nodup_iff.mpr ExtTreeMap.nodup_keys) fun raw => (hmem raw).mp
  have hempty : rest = .empty client := by
    refine Entry.eq_empty ((hwf.run _).entry_client client rest hrest) fun raw => ?_
    rw [hget]
    split
    · rfl
    · rename_i hnot
      rw [← Option.not_isSome_iff_eq_none, ← hmem]
      exact hnot
  -- the calls are a session of the client, which changes nothing of what it leaves behind
  have hleave : left.1.unsubscribeAll client = r.unsubscribeAll client := by
    have hpolicy : left.1.policy = (r.unsubscribeAll client).policy := by
      rw [policy_unsubscribeAll]
      exact policy_run_of_caller? r hcalls
    have hsession := hwf.unsubscribeAll_run fun step hstep => Or.inl (hcalls step hstep)
    exact hsession.trans (ext_parts rfl rfl hpolicy)
  have hstate := eq_insert_unsubscribeAll (r := left.1) (hempty ▸ hrest)
  rw [hleave] at hstate
  exact ⟨hanswers, hstate, hleave⟩

/-- Client 2 is on a topic of client 1 under two spellings and on one of its own, and gives these up
in two calls, the spellings apart from each other. -/
theorem run_unsubscribes_eq_unsubscribeAll_aliases :
    let history : List (Time × Operation) :=
      [(1, .subscribe 1 ["/a", "b/#"] .qos1), (2, .subscribe 2 ["a", "/a/", "+/c"] .qos2)]
    let batches : List (Time × List String) := [(3, ["/a/"]), (4, ["+/c", "a"])]
    let r := (empty.run history).1
    let left := r.run (Operation.unsubscribes 2 batches)
    ∃ entry, r.clients[(2 : ClientId)]? = some entry ∧ (∀ batch ∈ batches, batch.2 ≠ []) ∧
      (batches.flatMap (·.2)).Perm entry.held.keys ∧
      left.2 = batches.map (fun batch => Answer.givenUp batch.2) ∧
      left.1 = { r.unsubscribeAll 2 with
        clients := (r.unsubscribeAll 2).clients.insert 2 (.empty 2) } ∧
      left.1.unsubscribeAll 2 = r.unsubscribeAll 2 := by
  intro history batches r left
  have hkeys : r.clients[(2 : ClientId)]?.map (·.held.keys) = some ["+/c", "/a/", "a"] := by
    rfl
  obtain ⟨entry, hentry, hheld⟩ := Option.map_eq_some_iff.mp hkeys
  have hne : ∀ batch ∈ batches, batch.2 ≠ [] := by decide
  have hall : (batches.flatMap (·.2)).Perm entry.held.keys := by
    rw [hheld]
    decide
  exact ⟨entry, hentry, hne, hall, run_unsubscribes_eq_unsubscribeAll history hentry hne hall⟩

end Registry

end PubSub
