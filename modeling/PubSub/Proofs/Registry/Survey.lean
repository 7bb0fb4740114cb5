import PubSub.Proofs.Registry.Invariant

/-! # Surveys

The listings of a registry show its topics, and for every topic its subscribers. Read to the end they
show every subscription, each with the level of its topic.

* **`Enrollment`** — a subscription as the listings show it, and **`Enrollment.RecordedIn`** — the
  index has it.
* **`Registry.Survey`** — pages that show all the topics and all their subscribers, and
  **`Registry.Survey.enrollments`** — what these pages show.
* **`Registry.Survey.mem_enrollments_iff`** — this is what is recorded, no more and no less.
* **`Registry.Survey.widest`** — the widest pages make a survey of every registry whose topics and
  subscribers can be counted by a word. -/

namespace PubSub

open Std (ExtTreeMap)

/-! ## (1) Enrollments -/

/-- An **enrollment**: a subscription of a client to a topic with the level of the topic. -/
structure Enrollment where
  /-- The client. -/
  client : ClientId
  /-- The canonical text of the topic. -/
  title : String
  /-- The level of the topic. -/
  level : Level
  deriving DecidableEq, Repr

namespace Enrollment

/-- The enrollment is **on the topic** under a key. -/
def OnTopic (e : Enrollment) (key : TopicKey) : Prop :=
  ∃ title, Title.canonicalize e.title = .ok title ∧ title.text = e.title ∧ title.key = key

/-- An enrollment is on the topic of its title and on no other. -/
theorem onTopic_iff {e : Enrollment} {title : Title} (hraw : Title.canonicalize e.title = .ok title)
    (htext : title.text = e.title) (key : TopicKey) : e.OnTopic key ↔ title.key = key := by
  constructor
  · rintro ⟨title', hraw', -, rfl⟩
    rw [Except.ok.inj (hraw.symm.trans hraw')]
  · rintro rfl
    exact ⟨title, hraw, htext, rfl⟩

/-- The enrollment is **recorded** in an index: the client is subscribed to the topic, and the topic
has the level. -/
def RecordedIn (e : Enrollment) (i : Index) : Prop :=
  ∃ key topic, e.OnTopic key ∧ i.get? key = some topic ∧ topic.level = e.level ∧
    ∃ time, topic.subscribers[e.client]? = some time

end Enrollment

/-! ## (2) Full listings -/

/-- A listing is **full** if its page shows all the items there are. -/
def Listing.IsFull {α : Type} (l : Listing α) : Prop := l.items.length = l.total

/-- A page cuts out a part of a list. -/
theorem Page.items_sublist {α : Type} (p : Page) (xs : List α) : (p.items xs).Sublist xs :=
  (List.take_sublist _ _).trans (List.drop_sublist _ _)

/-- A full page shows everything. -/
theorem Listing.IsFull.items_eq {α : Type} {xs : List α} {page : Page}
    (h : (ofList xs page).IsFull) : (ofList xs page).items = xs :=
  (page.items_sublist xs).eq_of_length h

/-- The **widest page** that starts with the first item. -/
def Page.widest : Page := ⟨0, 18446744073709551615⟩

/-- The widest page is full, as far as positions go. -/
theorem Listing.isFull_ofList_widest {α : Type} {xs : List α} (h : xs.length < UInt64.size) :
    (ofList xs .widest).IsFull := by
  have hle : xs.length ≤ 18446744073709551615 := Nat.le_of_lt_succ h
  rw [IsFull, ofList, Page.items, Page.widest]
  simp [hle]

namespace Registry

/-! ## (3) Surveys -/

/-- A **survey** of a registry: pages that show all topics, and all subscribers of every topic that
is shown. -/
structure Survey (r : Registry) where
  /-- The page asked for when the topics of a kind are listed. -/
  topicsPage : Kind → Page
  /-- The page asked for when the subscribers of a topic are listed. -/
  subscribersPage : TopicSummary → Page
  /-- All topics are listed. -/
  topics_full : ∀ kind, (r.topics kind (topicsPage kind)).IsFull
  /-- All subscribers of a listed topic are listed. -/
  subscribers_full : ∀ kind, ∀ summary ∈ (r.topics kind (topicsPage kind)).items, ∀ listing,
    r.subscribersOf summary.title (subscribersPage summary) = .ok listing → listing.IsFull

namespace Survey

variable {r : Registry}

/-- The enrollments in one topic: what is shown for the title of its summary. -/
def enrollmentsOf (s : r.Survey) (summary : TopicSummary) : List Enrollment :=
  match r.subscribersOf summary.title (s.subscribersPage summary) with
  | .ok listing => listing.items.map fun sub => ⟨sub.client, summary.title, summary.level⟩
  | .error _ => []

/-- All **enrollments** that a survey shows. -/
def enrollments (s : r.Survey) : List Enrollment :=
  [Kind.plain, .wildcard].flatMap fun kind =>
    (r.topics kind (s.topicsPage kind)).items.flatMap s.enrollmentsOf

end Survey

/-! ## (4) What a survey shows -/

/-- The listing of all topics of a kind. -/
theorem mem_allTopics_iff (r : Registry) (kind : Kind) (summary : TopicSummary) :
    summary ∈ r.allTopics kind ↔
      ∃ title topic, r.index.get? ⟨title, kind⟩ = some topic ∧ topic.summary = summary := by
  simp only [allTopics, List.mem_map, List.mem_reverse, Prod.exists,
    ExtTreeMap.mem_toList_iff_getElem?_eq_some]
  rfl

/-- A topic that is listed has its subscribers listed under the title it is listed with. -/
theorem subscribersOf_title {r : Registry} (h : r.index.Filed) {key : TopicKey} {topic : Topic}
    (hget : r.index.get? key = some topic) (page : Page) :
    r.subscribersOf topic.summary.title page = .ok (.ofList (allSubscribersOf topic) page) := by
  have hfiled := h key topic hget
  have hraw : Title.canonicalize topic.summary.title = .ok topic.title := by
    rw [Topic.summary, hfiled.text_eq]
    exact hfiled.canonical
  simp only [subscribersOf, hraw, hfiled.key_eq, hget]

/-- The listing of all subscribers of a topic. -/
theorem exists_mem_allSubscribersOf_iff (topic : Topic) (client : ClientId) :
    (∃ sub ∈ allSubscribersOf topic, sub.client = client) ↔
      ∃ time, topic.subscribers[client]? = some time := by
  simp only [allSubscribersOf, List.mem_map, List.mem_reverse, Topic.clients, Prod.exists,
    ExtTreeMap.mem_toList_iff_getElem?_eq_some]
  constructor
  · rintro ⟨sub, ⟨client', time, hget, rfl⟩, rfl⟩
    exact ⟨time, hget⟩
  · rintro ⟨time, hget⟩
    exact ⟨_, ⟨client, time, hget, rfl⟩, rfl⟩

namespace Survey

variable {r : Registry}

/-- What a survey shows of one topic. -/
theorem mem_enrollmentsOf_iff (s : r.Survey) (h : r.index.Filed) {key : TopicKey} {topic : Topic}
    (hget : r.index.get? key = some topic) (e : Enrollment) :
    e ∈ s.enrollmentsOf topic.summary ↔
      e.title = key.title ∧ e.level = topic.level ∧
        ∃ time, topic.subscribers[e.client]? = some time := by
  have hlisted := subscribersOf_title h hget (s.subscribersPage topic.summary)
  -- The full page of topics shows this one, so its subscribers are surveyed.
  have hsummary : topic.summary ∈ (r.topics key.kind (s.topicsPage key.kind)).items := by
    rw [topics, Listing.IsFull.items_eq (s.topics_full key.kind), mem_allTopics_iff]
    exact ⟨key.title, topic, hget, rfl⟩
  have hfull := s.subscribers_full key.kind topic.summary hsummary _ hlisted
  have htitle : topic.summary.title = key.title := (h key topic hget).text_eq
  simp only [enrollmentsOf, hlisted, hfull.items_eq, List.mem_map]
  rw [← exists_mem_allSubscribersOf_iff, htitle]
  constructor
  · rintro ⟨sub, hsub, rfl⟩
    exact ⟨rfl, rfl, sub, hsub, rfl⟩
  · rintro ⟨htitle', hlevel, sub, hsub, hclient⟩
    refine ⟨sub, hsub, ?_⟩
    obtain ⟨client, title, level⟩ := e
    rw [Enrollment.mk.injEq]
    exact ⟨hclient, htitle'.symm, hlevel.symm⟩

/-- **A survey shows every subscription**, and nothing else. -/
theorem mem_enrollments_iff (s : r.Survey) (h : r.index.Filed) (e : Enrollment) :
    e ∈ s.enrollments ↔ e.RecordedIn r.index := by
  have hitems : ∀ kind, (r.topics kind (s.topicsPage kind)).items = r.allTopics kind := fun kind =>
    Listing.IsFull.items_eq (s.topics_full kind)
  simp only [enrollments, List.mem_flatMap, hitems, mem_allTopics_iff]
  constructor
  · rintro ⟨kind, -, summary, ⟨title, topic, hget, rfl⟩, hmem⟩
    obtain ⟨htitle, hlevel, htime⟩ := (s.mem_enrollmentsOf_iff h hget e).mp hmem
    have hfiled := h _ topic hget
    refine ⟨⟨title, kind⟩, topic, ⟨topic.title, ?_, ?_, hfiled.key_eq⟩, hget, hlevel.symm, htime⟩
    · rw [htitle]
      exact hfiled.canonical
    · rw [htitle]
      exact hfiled.text_eq
  · rintro ⟨key, topic, ⟨title, -, htext, rfl⟩, hget, hlevel, htime⟩
    refine ⟨title.kind, by cases title.kind <;> simp, topic.summary,
      ⟨title.text, topic, hget, rfl⟩, ?_⟩
    exact (s.mem_enrollmentsOf_iff h hget e).mpr ⟨htext.symm, hlevel.symm, htime⟩

/-- The **survey with the widest pages**, for a registry whose topics and subscribers can be counted by
a word. -/
def widest (h : r.index.Filed)
    (htopics : ∀ kind, (r.allTopics kind).length < UInt64.size)
    (hsubscribers : ∀ kind, ∀ summary ∈ r.allTopics kind, summary.subscribers < UInt64.size) :
    r.Survey where
  topicsPage _ := .widest
  subscribersPage _ := .widest
  topics_full kind := Listing.isFull_ofList_widest (htopics kind)
  subscribers_full kind summary hmem listing hlisting := by
    have hlisted : summary ∈ r.allTopics kind := (Page.items_sublist _ _).mem hmem
    obtain ⟨title, topic, hget, rfl⟩ := (mem_allTopics_iff r kind summary).mp hlisted
    rw [subscribersOf_title h hget, Except.ok.injEq] at hlisting
    subst hlisting
    refine Listing.isFull_ofList_widest ?_
    rw [allSubscribersOf, List.length_map, List.length_reverse, Topic.clients,
      ExtTreeMap.length_toList]
    exact hsubscribers kind topic.summary hlisted

end Survey

end Registry

end PubSub
