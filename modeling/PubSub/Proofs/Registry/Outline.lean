import PubSub.Proofs.Registry.FanOut

/-! # What a registry shows apart from times

Everything that a registry tells about its topics is in their outlines: title, kind, level and who is
subscribed. The times of creation and subscription are the only data beyond them.

* **`Topic.outline`** — what a topic shows apart from times, and **`Index.SameOutlines`** — two
  indices that show the same.
* **`Registry.AnswersAlike`** — two registries with the same outlines, the same listings up to times
  and the same answers to publications.
* **`Topic.FiledUnder.outline_congr`** — topics in one place show the same if their levels and their
  subscribers are the same.
* **`Registry.WellFormed.answersAlike`** — the outlines settle the listings and the answers. -/

namespace PubSub

open Std (ExtTreeMap ExtTreeSet)

/-! ## (1) Outlines -/

/-- Change every item of a listing. -/
def Listing.map {α β : Type} (f : α → β) (l : Listing α) : Listing β := ⟨l.total, l.items.map f⟩

/-- Items may be mapped before or after a page of them is taken. -/
theorem Listing.map_ofList {α β : Type} (f : α → β) (xs : List α) (page : Page) :
    (ofList xs page).map f = ofList (xs.map f) page := by
  simp only [map, ofList, Page.items, List.length_map, List.map_take, List.map_drop]

/-- A summary without its time. -/
def TopicSummary.timeless (s : TopicSummary) : TopicSummary := { s with createdAt := 0 }

/-- A subscription without its time. -/
def Subscription.timeless (s : Subscription) : Subscription := { s with subscribedAt := 0 }

/-- What a topic shows **apart from times**: its summary, and who is subscribed to it. -/
def Topic.outline (topic : Topic) : TopicSummary × List ClientId :=
  (topic.summary.timeless, topic.subscribers.keys)

/-- Two indices have the **same outlines** if they have the same topics with the same levels and the
same subscribers. -/
def Index.SameOutlines (i i' : Index) : Prop :=
  ∀ key, (i.get? key).map Topic.outline = (i'.get? key).map Topic.outline

/-- Two registries **answer alike** if they show the same and reach the same clients, apart from
times. -/
structure Registry.AnswersAlike (r r' : Registry) : Prop where
  /-- The topics are the same, and so are their levels and their subscribers. -/
  sameOutlines : r.index.SameOutlines r'.index
  /-- The listings of the topics are the same. -/
  topics_eq : ∀ kind page,
    (r.topics kind page).map TopicSummary.timeless =
      (r'.topics kind page).map TopicSummary.timeless
  /-- The listings of the subscribers are the same, and so are the errors. -/
  subscribersOf_eq : ∀ raw page,
    (r.subscribersOf raw page).map (Listing.map Subscription.timeless) =
      (r'.subscribersOf raw page).map (Listing.map Subscription.timeless)
  /-- The same clients are reached by publications, and the errors are the same. -/
  resolve_eq : ∀ raw checkExists, r.resolve raw checkExists = r'.resolve raw checkExists

/-! ## (2) Topics with the same outline -/

/-- What the items of a map show depends on what is found under its keys. -/
theorem toList_congr {α β γ : Type} [Ord α] [Std.TransOrd α] [Std.LawfulEqOrd α]
    {m m' : ExtTreeMap α β} (f : β → γ) (h : ∀ k : α, (m[k]?).map f = (m'[k]?).map f) :
    m.toList.map (fun item => (item.1, f item.2)) =
      m'.toList.map (fun item => (item.1, f item.2)) := by
  have hmap : m.map (fun _ => f) = m'.map (fun _ => f) :=
    ExtTreeMap.ext_getElem? fun k => by
      rw [ExtTreeMap.getElem?_map, ExtTreeMap.getElem?_map, h]
  rw [← ExtTreeMap.toList_map (f := fun _ => f), hmap, ExtTreeMap.toList_map]

/-- Maps in which the same look-ups succeed have the same keys. -/
theorem keys_congr {m m' : ExtTreeMap ClientId Time}
    (h : ∀ client : ClientId, (m[client]?).isSome = (m'[client]?).isSome) : m.keys = m'.keys := by
  have hunit : ∀ found : Option Time,
      found.map (fun _ => ()) = if found.isSome then some () else none := by
    intro found
    cases found <;> rfl
  -- forget the times, and the maps are the same
  have hitems : m.toList.map (fun item => (item.1, ())) =
      m'.toList.map (fun item => (item.1, ())) := by
    refine toList_congr (fun _ => ()) fun client => ?_
    rw [hunit, hunit, h client]
  have hids := congrArg (List.map Prod.fst) hitems
  simpa only [List.map_map, Function.comp_def, ExtTreeMap.map_fst_toList_eq_keys] using hids

/-- Whoever is listed with a topic is subscribed to it. -/
theorem Topic.mem_outline_iff (topic : Topic) (client : ClientId) :
    client ∈ topic.outline.2 ↔ ∃ time, topic.subscribers[client]? = some time := by
  rw [outline, ExtTreeMap.mem_keys, ← ExtTreeMap.contains_iff_mem,
    ExtTreeMap.contains_eq_isSome_getElem?, Option.isSome_iff_exists]

namespace Topic.FiledUnder

variable {topic topic' : Topic} {key : TopicKey}

/-- **Topics under one key show the same** if they have the same level and the same subscribers. -/
theorem outline_congr (h : topic.FiledUnder key) (h' : topic'.FiledUnder key)
    (hlevel : topic.level = topic'.level)
    (hsubscribers : ∀ client : ClientId,
      (topic.subscribers[client]?).isSome = (topic'.subscribers[client]?).isSome) :
    topic.outline = topic'.outline := by
  have hkeys : topic.subscribers.keys = topic'.subscribers.keys := keys_congr hsubscribers
  have hcount : topic.subscriberCount = topic'.subscriberCount := by
    rw [subscriberCount, subscriberCount, ← ExtTreeMap.length_keys, hkeys,
      ExtTreeMap.length_keys]
  have hkind : topic.kind = topic'.kind := by
    rw [kind, kind, h.pattern_congr h']
  simp only [outline, TopicSummary.timeless, summary, h.title_eq h', hkind, hlevel, hcount, hkeys]

/-- Topics under one key are reached by the same publications. -/
theorem isReached_congr (h : topic.FiledUnder key) (h' : topic'.FiledUnder key) (title : String) :
    topic.IsReached key title ↔ topic'.IsReached key title := by
  rw [IsReached, IsReached, covers, covers, h.pattern_congr h', h.title_eq h']

end Topic.FiledUnder

/-! ## (3) Registries with the same outlines -/

namespace Index.SameOutlines

variable {i i' : Index} {key : TopicKey}

/-- Indices have the same outlines in either order. -/
theorem symm (h : i.SameOutlines i') : i'.SameOutlines i := fun key => (h key).symm

/-- A topic on one side is there on the other, with the same outline. -/
theorem exists_get?_eq (h : i.SameOutlines i') {topic : Topic} (hget : i.get? key = some topic) :
    ∃ topic', i'.get? key = some topic' ∧ topic'.outline = topic.outline := by
  have hshown := h key
  rw [hget, Option.map_some] at hshown
  exact Option.map_eq_some_iff.mp hshown.symm

/-- A topic that is missing on one side is missing on the other. -/
theorem get?_eq_none (h : i.SameOutlines i') (hget : i.get? key = none) : i'.get? key = none := by
  have hshown := h key
  rw [hget, Option.map_none] at hshown
  exact Option.map_eq_none_iff.mp hshown.symm

end Index.SameOutlines

namespace Registry

/-- What the listing of all topics of a kind shows apart from times. -/
theorem map_timeless_allTopics (r : Registry) (kind : Kind) :
    (r.allTopics kind).map TopicSummary.timeless =
      (((r.index.topics kind).toList.map fun item => (item.1, item.2.outline)).map
        fun item => item.2.1).reverse := by
  simp only [allTopics, List.map_map, List.map_reverse]
  rfl

/-- What the listing of all subscribers of a topic shows apart from times. -/
theorem map_timeless_allSubscribersOf (topic : Topic) :
    (allSubscribersOf topic).map Subscription.timeless =
      topic.outline.2.reverse.map fun client => ⟨client, topic.outline.1.title, 0⟩ := by
  rw [Topic.outline, ← ExtTreeMap.map_fst_toList_eq_keys, allSubscribersOf, Topic.clients]
  simp only [List.map_map, ← List.map_reverse]
  rfl

/-- A topic that reaches a client on one side is there on the other side and reaches it, too. -/
theorem WellFormed.mem_audience_of_sameOutlines {r r' : Registry} (h : r.WellFormed)
    (h' : r'.WellFormed) (hsame : r.index.SameOutlines r'.index) {title : String}
    {client : ClientId} (hmem : client ∈ r.audience title) : client ∈ r'.audience title := by
  obtain ⟨key, topic, time, hget, hreached, htime⟩ := (mem_audience_iff r title client).mp hmem
  obtain ⟨topic', hget', heq⟩ := hsame.exists_get?_eq hget
  obtain ⟨time', htime'⟩ : ∃ time, topic'.subscribers[client]? = some time := by
    rw [← Topic.mem_outline_iff, heq, Topic.mem_outline_iff]
    exact ⟨time, htime⟩
  have hreached' : topic'.IsReached key title :=
    ((h.filed key topic hget).isReached_congr (h'.filed key topic' hget') title).mp hreached
  exact (mem_audience_iff r' title client).mpr ⟨key, topic', time', hget', hreached', htime'⟩

/-- **Registries with the same outlines answer alike.** -/
theorem WellFormed.answersAlike {r r' : Registry} (h : r.WellFormed) (h' : r'.WellFormed)
    (hsame : r.index.SameOutlines r'.index) : r.AnswersAlike r' where
  sameOutlines := hsame
  topics_eq kind page := by
    have hitems :
        (r.index.topics kind).toList.map (fun item => (item.1, item.2.outline)) =
          (r'.index.topics kind).toList.map (fun item => (item.1, item.2.outline)) :=
      toList_congr Topic.outline fun title => hsame ⟨title, kind⟩
    rw [topics, topics, Listing.map_ofList, Listing.map_ofList, map_timeless_allTopics,
      map_timeless_allTopics, hitems]
  subscribersOf_eq raw page := by
    rw [subscribersOf, subscribersOf]
    cases Title.canonicalize raw with
    | error cause => rfl
    | ok title =>
      cases hget : r.index.get? title.key with
      | none => simp only [hget, hsame.get?_eq_none hget]
      | some topic =>
        obtain ⟨topic', hget', heq⟩ := hsame.exists_get?_eq hget
        simp only [hget, hget', Except.map, Listing.map_ofList, map_timeless_allSubscribersOf, heq]
  resolve_eq raw checkExists := by
    -- The outlines show which topics are there and who is on them; no answer here tells a time.
    have hplain : ∀ title : String, r.index.plain.contains title =
        r'.index.plain.contains title := by
      intro title
      have hsome := congrArg Option.isSome (hsame ⟨title, .plain⟩)
      rw [Option.isSome_map, Option.isSome_map] at hsome
      rw [ExtTreeMap.contains_eq_isSome_getElem?, ExtTreeMap.contains_eq_isSome_getElem?]
      exact hsome
    have haudience : ∀ title, r.audience title = r'.audience title := by
      intro title
      refine ExtTreeSet.ext_mem fun client => ⟨fun hmem => ?_, fun hmem => ?_⟩
      · exact h.mem_audience_of_sameOutlines h' hsame hmem
      · exact h'.mem_audience_of_sameOutlines h hsame.symm hmem
    simp only [resolve, hplain, haudience]

end Registry

end PubSub
