import PubSub.Proofs.Pattern.Coverage
import PubSub.Proofs.Registry.History
import PubSub.Proofs.Registry.Invariant

/-! # Fan-out

Whom a publication reaches is found by one look-up among the plain topics and a scan of the patterns
of the wildcard topics. Over a whole history this is the same as asking every client for the raw
titles that it holds.

* **`Registry.mem_audience_iff`** — the audience of a text, spoken of topics.
* **`Topic.FiledUnder.isReached_iff`** — a topic in its place is reached exactly if its segments
  cover the words of the publication.
* **`Registry.WellFormed.mem_audience_iff_held`** — the audience, spoken of held raw titles.
* **`Registry.resolve_run_empty`** — what a publication is answered after a history, told by the
  history alone. -/

namespace PubSub

open Std (ExtTreeMap ExtTreeSet)

/-! ## (1) The audience, spoken of topics -/

/-- The values of a map are those of its items. -/
theorem values_eq_map_toList (m : ExtTreeMap String Topic) : m.values = m.toList.map (·.2) := by
  obtain ⟨⟨q⟩⟩ := m
  induction q using Quotient.ind with
  | _ m =>
    show m.inner.values = (Std.DTreeMap.Internal.Impl.Const.toList m.inner).map (·.2)
    rw [Std.DTreeMap.Internal.Impl.values_eq_map_snd,
      Std.DTreeMap.Internal.Impl.Const.toList_eq_toListModel_map, List.map_map]
    rfl

/-- The topics of a kind are those that are there under some title. -/
theorem mem_values_iff (m : ExtTreeMap String Topic) (topic : Topic) :
    topic ∈ m.values ↔ ∃ title : String, m[title]? = some topic := by
  rw [values_eq_map_toList, List.mem_map]
  constructor
  · rintro ⟨⟨title, topic⟩, hmem, rfl⟩
    exact ⟨title, ExtTreeMap.mem_toList_iff_getElem?_eq_some.mp hmem⟩
  · rintro ⟨title, hget⟩
    exact ⟨(title, topic), ExtTreeMap.mem_toList_iff_getElem?_eq_some.mpr hget, rfl⟩

namespace Registry

/-- The clients inserted one after the other. -/
theorem mem_foldl_insert_iff (subscribers : List (ClientId × Time)) (ids : ExtTreeSet ClientId)
    (client : ClientId) :
    client ∈ subscribers.foldl (fun ids subscriber => ids.insert subscriber.1) ids ↔
      client ∈ ids ∨ ∃ time, (client, time) ∈ subscribers := by
  induction subscribers generalizing ids with
  | nil => simp
  | cons subscriber subscribers ih =>
    obtain ⟨other, time⟩ := subscriber
    rw [List.foldl_cons, ih, ExtTreeSet.mem_insert, Std.compare_eq_iff_eq]
    constructor
    · rintro ((rfl | hids) | ⟨time', hmem⟩)
      · exact Or.inr ⟨time, List.mem_cons_self⟩
      · exact Or.inl hids
      · exact Or.inr ⟨time', List.mem_cons_of_mem _ hmem⟩
    · rintro (hids | ⟨time', hmem⟩)
      · exact Or.inl (Or.inr hids)
      · rcases List.mem_cons.mp hmem with heq | hmem
        · exact Or.inl (Or.inl (Prod.mk.inj heq).1.symm)
        · exact Or.inr ⟨time', hmem⟩

/-- Adding the subscribers of a topic. -/
theorem mem_addSubscribers_iff (ids : ExtTreeSet ClientId) (topic : Topic) (client : ClientId) :
    client ∈ addSubscribers ids topic ↔
      client ∈ ids ∨ ∃ time, topic.subscribers[client]? = some time := by
  rw [addSubscribers, mem_foldl_insert_iff, Topic.clients]
  simp only [ExtTreeMap.mem_toList_iff_getElem?_eq_some]

/-- Adding the subscribers of several topics. -/
theorem mem_foldl_addSubscribers_iff (topics : List Topic) (ids : ExtTreeSet ClientId)
    (client : ClientId) :
    client ∈ topics.foldl addSubscribers ids ↔
      client ∈ ids ∨ ∃ topic ∈ topics, ∃ time, topic.subscribers[client]? = some time := by
  induction topics generalizing ids with
  | nil => simp
  | cons topic topics ih =>
    rw [List.foldl_cons, ih, mem_addSubscribers_iff, or_assoc]
    simp

end Registry

/-- Whether a publication under the text `title` **reaches** the topic under a key: the topic is the
plain one with this title, or a wildcard topic that covers it. -/
def Topic.IsReached (topic : Topic) (key : TopicKey) (title : String) : Prop :=
  key = ⟨title, .plain⟩ ∨ key.kind = .wildcard ∧ topic.covers title = true

/-- **The audience** consists of the subscribers of the topics that are reached. -/
theorem Registry.mem_audience_iff (r : Registry) (title : String) (client : ClientId) :
    client ∈ r.audience title ↔
      ∃ key topic time, r.index.get? key = some topic ∧ topic.IsReached key title ∧
        topic.subscribers[client]? = some time := by
  rw [audience, mem_foldl_addSubscribers_iff]
  simp only [List.mem_filter, mem_values_iff]
  constructor
  · rintro (hexact | ⟨topic, ⟨⟨title', hget⟩, hcovers⟩, time, htime⟩)
    · -- The fold starts with the subscribers of the plain topic, if it is there.
      cases hget : r.index.plain[title]? with
      | none =>
        rw [hget] at hexact
        simp at hexact
      | some topic =>
        rw [hget] at hexact
        rcases (mem_addSubscribers_iff _ _ _).mp hexact with hnone | ⟨time, htime⟩
        · simp at hnone
        · exact ⟨⟨title, .plain⟩, topic, time, hget, Or.inl rfl, htime⟩
    · exact ⟨⟨title', .wildcard⟩, topic, time, hget, Or.inr ⟨rfl, hcovers⟩, htime⟩
  · rintro ⟨key, topic, time, hget, hreached, htime⟩
    rcases hreached with rfl | ⟨hkind, hcovers⟩
    · left
      rw [show r.index.plain[title]? = some topic from hget]
      exact (mem_addSubscribers_iff _ _ _).mpr (Or.inr ⟨time, htime⟩)
    · refine Or.inr ⟨topic, ⟨⟨key.title, ?_⟩, hcovers⟩, time, htime⟩
      rw [Index.get?, hkind] at hget
      exact hget

/-! ## (2) The audience, spoken of raw titles -/

/-- **A topic in its place** is reached by the publications whose words its segments cover. -/
theorem Topic.FiledUnder.isReached_iff {topic : Topic} {t title : Title} {raw raw' : String}
    (h : topic.FiledUnder t.key) (ht : Title.canonicalize raw = .ok t)
    (htitle : Title.canonicalize raw' = .ok title) (hconcrete : title.isWildcard = false) :
    topic.IsReached t.key title.text ↔ Segment.covers t.segments title.words = true := by
  have hsame : topic.title = t := by
    have hcanonical : Title.canonicalize t.text = .ok topic.title := h.canonical
    rw [Title.canonicalize_text_of_canonicalize ht] at hcanonical
    exact (Except.ok.inj hcanonical).symm
  cases hkind : t.isWildcard with
  | false =>
    -- a plain topic is found by its text, and covers its own words only
    have hplain : t.key = ⟨t.text, .plain⟩ := by
      rw [Title.key, Title.kind, hkind]
      rfl
    rw [Title.covers_iff_text_eq ht htitle hkind, IsReached, hplain]
    simp
  | true =>
    -- a wildcard topic is found by its pattern, which reads what its segments cover
    have hwildcard : t.key = ⟨t.text, .wildcard⟩ := by
      rw [Title.key, Title.kind, hkind]
      rfl
    have hpattern := h.pattern_eq
    rw [hwildcard, if_pos rfl, hsame] at hpattern
    rw [← Title.accepts_text_iff (Title.isCanonicalPath_of_canonicalize ht).1
      (Title.isCanonicalPath_of_canonicalize htitle).1 hconcrete, IsReached, hwildcard, covers,
      hpattern]
    simp

namespace Registry.WellFormed

variable {r : Registry}

/-- **The audience** consists of the clients that hold a raw title whose segments cover the words of
the publication. -/
theorem mem_audience_iff_held (h : r.WellFormed) {p : String} {title : Title}
    (htitle : Title.canonicalize p = .ok title) (hconcrete : title.isWildcard = false)
    (client : ClientId) :
    client ∈ r.audience title.text ↔
      ∃ raw t, (r.held client raw).isSome = true ∧ Title.canonicalize raw = .ok t ∧
        Segment.covers t.segments title.words = true := by
  rw [mem_audience_iff]
  constructor
  · rintro ⟨key, topic, time, hget, hreached, htime⟩
    -- the subscriber holds a raw title for the topic, and that title names the topic
    obtain ⟨raw, hheld⟩ := (h.subscriber_iff_held client key).mp ⟨topic, time, hget, htime⟩
    obtain ⟨t, ht, rfl⟩ := h.held_key client raw key hheld
    refine ⟨raw, t, by rw [hheld]; rfl, ht, ?_⟩
    exact ((h.filed _ topic hget).isReached_iff ht htitle hconcrete).mp hreached
  · rintro ⟨raw, t, hheld, ht, hcovers⟩
    obtain ⟨topic, time, hget, htime⟩ :=
      (h.subscriber_iff_held client t.key).mpr ⟨raw, h.held_eq ht hheld⟩
    refine ⟨t.key, topic, time, hget, ?_, htime⟩
    exact ((h.filed _ topic hget).isReached_iff ht htitle hconcrete).mpr hcovers

/-- **The plain topic** of a title is there exactly if a client holds a raw title that names it. -/
theorem mem_plain_iff_held (h : r.WellFormed) {p : String} {title : Title}
    (htitle : Title.canonicalize p = .ok title) (hconcrete : title.isWildcard = false) :
    r.index.plain.contains title.text = true ↔
      ∃ client raw, (r.held client raw).isSome = true ∧ Title.canonicalize raw = .ok title := by
  have hkey : title.key = ⟨title.text, .plain⟩ := by
    rw [Title.key, Title.kind, hconcrete]
    rfl
  rw [ExtTreeMap.contains_eq_isSome_getElem?, Option.isSome_iff_exists]
  constructor
  · rintro ⟨topic, hget⟩
    -- the topic has a subscriber, as it would be gone without
    have hfiled := h.filed ⟨title.text, .plain⟩ topic hget
    obtain ⟨client, time, htime⟩ := topic.subscriberCount_ne_zero_iff.mp hfiled.subscribed
    obtain ⟨raw, hheld⟩ :=
      (h.subscriber_iff_held client ⟨title.text, .plain⟩).mp ⟨topic, time, hget, htime⟩
    obtain ⟨t, ht, htkey⟩ := h.held_key client raw _ hheld
    have htext : t.text = title.text := congrArg TopicKey.title htkey
    exact ⟨client, raw, by rw [hheld]; rfl, by rw [ht, Title.eq_of_text_eq ht htitle htext]⟩
  · rintro ⟨client, raw, hheld, hraw⟩
    obtain ⟨topic, time, hget, -⟩ :=
      (h.subscriber_iff_held client title.key).mpr ⟨raw, h.held_eq hraw hheld⟩
    rw [hkey] at hget
    exact ⟨topic, hget⟩

end Registry.WellFormed

/-! ## (3) The answer, told by the history -/

/-- After the steps, a client is **due** the publications under a title if it holds a raw title
whose canonical segments cover the words of the publication. -/
def IsDue (steps : List Step) (title : Title) (client : ClientId) : Prop :=
  ∃ raw t, Holds steps client raw ∧ Title.canonicalize raw = .ok t ∧
    Segment.covers t.segments title.words = true

/-- After the steps, a title is **in use** if a client holds a raw title that names it. -/
def IsInUse (steps : List Step) (title : Title) : Prop :=
  ∃ client raw, Holds steps client raw ∧ Title.canonicalize raw = .ok title

namespace Registry

/-- **Fan-out is exact.** After any history, a publication is refused if its title cannot be
canonicalized or holds a wildcard, and otherwise reaches exactly the clients that are due it, each
once; asked for an existing topic, it is refused if its title is not in use. -/
theorem resolve_run_empty (ops : List (Time × Operation)) (p : String) :
    match Title.canonicalizeConcrete p with
    | .error cause => ∀ checkExists,
        (empty.run ops).1.resolve p checkExists = .error (.validation p cause)
    | .ok title => ∃ ids,
        (empty.run ops).1.resolve p false = .ok ids ∧ ids.Pairwise (· < ·) ∧
          (∀ client, client ∈ ids ↔ IsDue (empty.transcript ops) title client) ∧
          ((empty.run ops).1.resolve p true = .ok ids ∧ IsInUse (empty.transcript ops) title ∨
            (empty.run ops).1.resolve p true = .error (.topicNotFound title.text) ∧
              ¬IsInUse (empty.transcript ops) title) := by
  have hwf := wellFormed_empty.run ops
  cases hp : Title.canonicalizeConcrete p with
  | error cause =>
    intro checkExists
    rw [resolve, hp]
  | ok title =>
    obtain ⟨htitle, hconcrete⟩ := Title.canonicalizeConcrete_eq_ok_iff.mp hp
    have hinUse := hwf.mem_plain_iff_held htitle hconcrete
    -- From here on the history is spoken of, not the state.
    simp only [isSome_held_run_empty] at hinUse
    refine ⟨((empty.run ops).1.audience title.text).toList, ?_, ?_, ?_, ?_⟩
    · rw [resolve, hp]
      rfl
    · exact ExtTreeSet.ordered_toList.imp fun h => Std.compare_eq_lt.mp h
    · intro client
      rw [ExtTreeSet.mem_toList, hwf.mem_audience_iff_held htitle hconcrete]
      simp only [isSome_held_run_empty]
      exact Iff.rfl
    · rw [resolve, hp]
      cases hplain : (empty.run ops).1.index.plain.contains title.text with
      | true => exact Or.inl ⟨by simp [hplain], hinUse.mp hplain⟩
      | false =>
        refine Or.inr ⟨by simp [hplain], fun huse => ?_⟩
        rw [hinUse.mpr huse] at hplain
        cases hplain

end Registry

end PubSub
