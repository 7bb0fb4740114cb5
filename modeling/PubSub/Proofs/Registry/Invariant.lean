import PubSub.Proofs.Registry.Effects
import PubSub.Proofs.Title.Grammar

/-! # The invariant of the registry

The registry stores who is subscribed to what three times: as the subscribers of the topics, as the
raw titles of the clients, and as the choice of the map in which a topic is kept.

* **`Topic.FiledUnder topic key`** — the topic is where it belongs: its title, its kind and its
  pattern are those of the key, and it has a subscriber.
* **`Entry.Agrees e i`** — the entry accounts for its client's subscriptions in the index, no more
  and no less.
* **`Registry.WellFormed`** — every topic is where it belongs, every entry is that of its client,
  holds raw titles under the keys of their titles, and agrees with the index.
* **`Registry.WellFormed.apply`**, **`Registry.WellFormed.run`** — every operation keeps this, and
  so does every history. -/

namespace PubSub

/-! ## (1) Topics in their place -/

/-- A topic **filed under a key**. -/
structure Topic.FiledUnder (topic : Topic) (key : TopicKey) : Prop where
  /-- The title of the topic is that of the key. -/
  text_eq : topic.title.text = key.title
  /-- It is a canonical title, and the topic knows its segments. -/
  canonical : Title.canonicalize key.title = .ok topic.title
  /-- It consists of the segments with separators between, behind a separator. -/
  joined_eq : key.title = "/" ++ "/".intercalate (topic.title.segments.map Segment.text)
  /-- The topic is kept among the wildcard topics if the title holds a wildcard. -/
  kind_iff : key.kind = .wildcard ↔ '+' ∈ key.title.toList ∨ '#' ∈ key.title.toList
  /-- It carries the pattern of its segments if it is a wildcard topic, and none otherwise. -/
  pattern_eq : topic.pattern =
    if key.kind = .wildcard then some (Pattern.ofSegments topic.title.segments) else none
  /-- It has a subscriber. -/
  subscribed : topic.subscriberCount ≠ 0

namespace Topic

/-- A title is of the wildcard kind if it has a wildcard. -/
theorem kind_eq_wildcard_iff (title : Title) :
    title.kind = .wildcard ↔ title.isWildcard = true := by
  rw [Title.kind]
  cases title.isWildcard <;> simp

/-- A topic with the title and the pattern of a new one is filed under the key of its title. -/
theorem filedUnder_key {raw : String} {title : Title} (hraw : Title.canonicalize raw = .ok title)
    {topic : Topic} (now : Time) (htitle : topic.title = title)
    (hpattern : topic.pattern = (new title now).pattern) (hcount : topic.subscriberCount ≠ 0) :
    topic.FiledUnder title.key := by
  obtain ⟨hpath, -⟩ := Title.isCanonicalPath_of_canonicalize hraw
  refine ⟨by rw [htitle]; rfl, ?_, ?_, ?_, ?_, hcount⟩
  · rw [htitle]
    exact Title.canonicalize_text_of_canonicalize hraw
  · rw [htitle]
    exact text_eq_intercalate hpath.ne_nil
  · rw [Title.key, kind_eq_wildcard_iff, Title.toList_text]
    exact Title.isWildcard_iff_mem_chars hpath.isValid
  · rw [hpattern, htitle]
    simp only [Title.key, kind_eq_wildcard_iff, new]

namespace FiledUnder

variable {topic topic' : Topic} {key : TopicKey}

/-- Topics under one key have one title. -/
theorem title_eq (h : topic.FiledUnder key) (h' : topic'.FiledUnder key) :
    topic.title = topic'.title :=
  Except.ok.inj (h.canonical.symm.trans h'.canonical)

/-- Topics in the same place have the same pattern, since they have the same title. -/
theorem pattern_congr (h : topic.FiledUnder key) (h' : topic'.FiledUnder key) :
    topic.pattern = topic'.pattern := by
  rw [h.pattern_eq, h'.pattern_eq, h.title_eq h']

/-- Where a topic belongs is the key of its title. -/
theorem key_eq (h : topic.FiledUnder key) : topic.title.key = key := by
  have hkind : topic.title.kind = .wildcard ↔ key.kind = .wildcard := by
    obtain ⟨hpath, -⟩ := Title.isCanonicalPath_of_canonicalize h.canonical
    rw [kind_eq_wildcard_iff, h.kind_iff, ← h.text_eq, Title.toList_text]
    exact Title.isWildcard_iff_mem_chars hpath.isValid
  obtain ⟨text, kind⟩ := key
  rw [Title.key, TopicKey.mk.injEq]
  refine ⟨h.text_eq, ?_⟩
  cases hk : topic.title.kind <;> cases kind <;> simp_all

/-- The subscribers may change as long as there are some. -/
theorem of_eq (h : topic.FiledUnder key) (htitle : topic'.title = topic.title)
    (hpattern : topic'.pattern = topic.pattern) (hcount : topic'.subscriberCount ≠ 0) :
    topic'.FiledUnder key :=
  ⟨by rw [htitle, h.text_eq], by rw [htitle, h.canonical], by rw [htitle, ← h.joined_eq],
    h.kind_iff, by rw [htitle, hpattern, h.pattern_eq], hcount⟩

end FiledUnder

/-- With a client added, a topic has a subscriber. -/
theorem subscriberCount_addClient (topic : Topic) (client : ClientId) (now : Time) :
    (topic.addClient client now).subscriberCount ≠ 0 :=
  (subscriberCount_ne_zero_iff _).mpr ⟨client, now, by rw [getElem?_addClient, if_pos rfl]⟩

end Topic

/-- An index whose topics are all **filed** under their keys. -/
def Index.Filed (i : Index) : Prop := ∀ key topic, i.get? key = some topic → topic.FiledUnder key

namespace Index.Filed

variable {i : Index}

/-- **Every topic has a subscriber.** -/
theorem exists_since (h : i.Filed) {key : TopicKey} {topic : Topic}
    (hget : i.get? key = some topic) : ∃ client, (i.since client key).isSome = true := by
  obtain ⟨client, time, htime⟩ :=
    topic.subscriberCount_ne_zero_iff.mp (h key topic hget).subscribed
  have hsince : i.since client key = some time :=
    (since_eq_some_iff i client key time).mpr ⟨topic, hget, htime⟩
  exact ⟨client, by rw [hsince]; rfl⟩

/-- Releasing keeps the topics in their places. -/
theorem release (h : i.Filed) (client : ClientId) (key : TopicKey) :
    (i.release client key).Filed := by
  intro other topic hget
  rw [get?_release] at hget
  by_cases hkey : key = other
  · subst hkey
    rw [if_pos rfl, Option.filter_eq_some_iff] at hget
    obtain ⟨hmap, hcount⟩ := hget
    obtain ⟨before, hbefore, rfl⟩ := Option.map_eq_some_iff.mp hmap
    exact (h key before hbefore).of_eq rfl rfl (by simpa using hcount)
  · rw [if_neg hkey] at hget
    exact h other topic hget

/-- Releasing topics leaves every topic in its place. -/
theorem foldl_release (h : i.Filed) (client : ClientId) (keys : List TopicKey) :
    (keys.foldl (fun i key => i.release client key) i).Filed := by
  induction keys generalizing i with
  | nil => exact h
  | cons key keys ih => exact ih (h.release client key)

/-- So does giving up a title. -/
theorem giveUp (h : i.Filed) (e : Entry) (raw : String) : (Registry.giveUp i e raw).1.Filed := by
  rw [Registry.giveUp]
  cases e.get? raw with
  | none => exact h
  | some key =>
    cases hrest : (e.erase raw).references key with
    | true => simpa [hrest] using h
    | false => simpa [hrest] using h.release e.client key

/-- And so does giving up many. -/
theorem giveUpAll (h : i.Filed) (e : Entry) (raws : List String) :
    (Registry.giveUpAll i e raws).1.Filed := by
  induction raws generalizing i e with
  | nil => exact h
  | cons raw raws ih => exact ih (h.giveUp e raw) _

/-- Enrolling a client in the topic of a canonical title keeps the topics in their places. -/
theorem enroll {r : Registry} (h : r.index.Filed) {raw : String} {title : Title}
    (hraw : Title.canonicalize raw = .ok title) (client : ClientId) (level : Level) (now : Time) :
    (r.enroll client raw title level now).1.index.Filed := by
  intro key topic hget
  rw [Registry.enroll, get?_insert] at hget
  by_cases hkey : title.key = key
  · subst hkey
    rw [if_pos rfl, Option.some.injEq] at hget
    subst hget
    cases hfound : r.index.get? title.key with
    | some topic =>
      exact (h _ topic hfound).of_eq rfl rfl (topic.subscriberCount_addClient client now)
    | none =>
      exact Topic.filedUnder_key hraw now rfl rfl (Topic.subscriberCount_addClient _ client now)
  · rw [if_neg hkey] at hget
    exact h key topic hget

end Index.Filed

/-! ## (2) Entries that agree with the index -/

/-- An entry **agrees** with an index if its client is subscribed to exactly the topics that its raw
titles resolve to. -/
def Entry.Agrees (e : Entry) (i : Index) : Prop :=
  ∀ key, (i.since e.client key).isSome = true ↔ e.references key = true

/-- When a raw title is given up, the keys that others resolve to are still referenced. -/
theorem Entry.references_erase_of_ne {e : Entry} {raw : String} {released key : TopicKey}
    (hraw : e.get? raw = some released) (hne : released ≠ key) :
    (e.erase raw).references key = e.references key := by
  rw [Bool.eq_iff_iff, references_iff, references_iff]
  constructor
  · rintro ⟨other, hget⟩
    rw [get?_erase] at hget
    split at hget
    · cases hget
    · exact ⟨other, hget⟩
  · rintro ⟨other, hget⟩
    refine ⟨other, ?_⟩
    rw [get?_erase, if_neg]
    · exact hget
    · rintro rfl
      rw [hraw] at hget
      exact hne (Option.some.inj hget)

namespace Entry.Agrees

variable {e : Entry} {i : Index}

/-- Without a raw title for a key, its client is not subscribed there. -/
theorem since_eq_none (h : e.Agrees i) {key : TopicKey} (hkey : e.references key = false) :
    i.since e.client key = none := by
  rw [← Option.not_isSome_iff_eq_none, h key, hkey]
  exact Bool.false_ne_true

/-- **Giving up a raw title** ends the subscriptions of the client to the topics that no other raw
title resolves to. -/
theorem since_giveUp (h : e.Agrees i) (raw : String) (client : ClientId) (key : TopicKey) :
    (Registry.giveUp i e raw).1.since client key =
      if e.client = client ∧ (Registry.giveUp i e raw).2.1.references key = false then none
      else i.since client key := by
  rw [Registry.giveUp]
  cases hraw : e.get? raw with
  | none =>
    -- nothing is given up, and the client was not subscribed where it has no raw title
    by_cases hcond : e.client = client ∧ e.references key = false
    · obtain ⟨rfl, hkey⟩ := hcond
      simp [h.since_eq_none hkey]
    · simp [hcond]
  | some released =>
    have hother : released ≠ key → (e.erase raw).references key = e.references key :=
      references_erase_of_ne hraw
    cases hreleased : (e.erase raw).references released with
    | true =>
      -- another raw title resolves to the same key, so the topics stay as they are
      simp only [hreleased, if_true]
      by_cases hcond : e.client = client ∧ (e.erase raw).references key = false
      · obtain ⟨rfl, hkey⟩ := hcond
        have hne : released ≠ key := by
          rintro rfl
          rw [hreleased] at hkey
          cases hkey
        rw [if_pos ⟨rfl, hkey⟩, h.since_eq_none (hother hne ▸ hkey)]
      · rw [if_neg hcond]
    | false =>
      -- this was the last raw title for the key, and the client leaves the topic
      simp only [hreleased, Bool.false_eq_true, if_false]
      rw [Index.since_release]
      by_cases hclient : e.client = client
      · subst hclient
        by_cases hkey : released = key
        · subst hkey
          simp [hreleased]
        · rw [if_neg (fun hcond => hkey hcond.2)]
          cases hleft : (e.erase raw).references key with
          | true => simp
          | false => simp [h.since_eq_none (hother hkey ▸ hleft)]
      · simp [hclient]

/-- After a raw title has been given up, the rest of the entry agrees with what is left. -/
theorem giveUp (h : e.Agrees i) (raw : String) :
    (Registry.giveUp i e raw).2.1.Agrees (Registry.giveUp i e raw).1 := by
  intro key
  rw [Registry.client_giveUp, h.since_giveUp]
  cases hleft : (Registry.giveUp i e raw).2.1.references key with
  | false => simp
  | true =>
    have hbefore : e.references key = true := by
      obtain ⟨other, hget⟩ := (references_iff _ _).mp hleft
      rw [Registry.get?_giveUp] at hget
      split at hget
      · cases hget
      · exact (references_iff _ _).mpr ⟨other, hget⟩
    simpa using (h key).mpr hbefore

/-- Entry and topics agree after many titles are given up. -/
theorem giveUpAll (h : e.Agrees i) (raws : List String) :
    (Registry.giveUpAll i e raws).2.1.Agrees (Registry.giveUpAll i e raws).1 := by
  induction raws generalizing i e with
  | nil => exact h
  | cons raw raws ih => exact ih (h.giveUp raw)

/-- Giving up raw titles does not touch the subscriptions of other clients. -/
theorem since_giveUpAll_of_ne (h : e.Agrees i) (raws : List String) {client : ClientId}
    (hclient : e.client ≠ client) (key : TopicKey) :
    (Registry.giveUpAll i e raws).1.since client key = i.since client key := by
  induction raws generalizing i e with
  | nil => rfl
  | cons raw raws ih =>
    rw [Registry.giveUpAll_cons, ih (h.giveUp raw) (by rwa [Registry.client_giveUp]),
      h.since_giveUp, if_neg fun hcond => hclient hcond.1]

end Entry.Agrees

/-! ## (3) The invariant -/

namespace Registry

/-- **The invariant** of the registry. -/
structure WellFormed (r : Registry) : Prop where
  /-- Every topic is filed under its key. -/
  filed : r.index.Filed
  /-- Every entry is that of the client it is stored under. -/
  entry_client : ∀ (client : ClientId) (entry : Entry),
    r.clients[client]? = some entry → entry.client = client
  /-- A held raw title resolves to the key of the title it names. -/
  held_key : ∀ (client : ClientId) (raw : String) (key : TopicKey), r.held client raw = some key →
    ∃ title, Title.canonicalize raw = .ok title ∧ title.key = key
  /-- A client is subscribed to exactly the topics that its raw titles resolve to. -/
  subscribed_iff : ∀ (client : ClientId) (key : TopicKey),
    (r.index.since client key).isSome = true ↔ ∃ raw, r.held client raw = some key

/-- The registry without topics and clients is well-formed. -/
theorem wellFormed_empty : empty.WellFormed where
  filed key topic h := by
    rw [empty, Index.get?_empty] at h
    cases h
  entry_client client entry h := by
    simp [empty] at h
  held_key client raw key h := by
    rw [held_empty] at h
    cases h
  subscribed_iff client key := by
    rw [index_empty, Index.since_empty]
    simp

namespace WellFormed

variable {r : Registry}

/-- What is held resolves to the key of the title it names. -/
theorem held_eq (h : r.WellFormed) {client : ClientId} {raw : String} {t : Title}
    (hraw : Title.canonicalize raw = .ok t) (hheld : (r.held client raw).isSome = true) :
    r.held client raw = some t.key := by
  obtain ⟨key, hkey⟩ := Option.isSome_iff_exists.mp hheld
  obtain ⟨t', ht', rfl⟩ := h.held_key client raw key hkey
  rw [hraw] at ht'
  rw [hkey, Except.ok.inj ht']

/-- The two views of one fact: a topic lists the client, and the client holds a raw title for the
topic. -/
theorem subscriber_iff_held (h : r.WellFormed) (client : ClientId) (key : TopicKey) :
    (∃ topic time, r.index.get? key = some topic ∧ topic.subscribers[client]? = some time) ↔
      ∃ raw, r.held client raw = some key := by
  rw [← h.subscribed_iff, Option.isSome_iff_exists]
  simp only [Index.since_eq_some_iff]
  exact exists_comm

/-- The entries of a well-formed registry agree with its index. -/
theorem agrees (h : r.WellFormed) {client : ClientId} {entry : Entry}
    (hentry : r.clients[client]? = some entry) : entry.Agrees r.index := by
  intro key
  rw [h.entry_client client entry hentry, h.subscribed_iff, Entry.references_iff]
  simp [held, hentry]

/-- An entry of a client that is put in place of the one before is the client's, too. -/
theorem entry_client_insert (h : r.WellFormed) {client : ClientId} {entry : Entry}
    (hclient : entry.client = client) (other : ClientId) (entry' : Entry)
    (hentry' : (r.clients.insert client entry)[other]? = some entry') : entry'.client = other := by
  simp only [Std.ExtTreeMap.getElem?_insert, Std.compare_eq_iff_eq] at hentry'
  split at hentry'
  · rename_i heq
    rw [← Option.some.inj hentry', hclient, heq]
  · exact h.entry_client other entry' hentry'

/-! ### Subscribing -/

/-- After a client has been enrolled it holds the raw title for the topic: if it held the raw title
before, then for the same topic. -/
theorem held_enroll_eq (h : r.WellFormed) {raw : String} {title : Title}
    (hraw : Title.canonicalize raw = .ok title) (client other : ClientId) (raw' : String)
    (level : Level) (now : Time) :
    (r.enroll client raw title level now).1.held other raw' =
      if client = other ∧ raw = raw' then some title.key else r.held other raw' := by
  rw [held_enroll]
  by_cases hcond : client = other ∧ raw = raw'
  · obtain ⟨rfl, rfl⟩ := hcond
    cases hheld : r.held client raw with
    | none => simp
    | some key =>
      have hkey := h.held_eq hraw (by rw [hheld]; rfl)
      rw [hheld] at hkey
      simp [hkey]
  · rw [if_neg hcond, if_neg fun hnew => hcond ⟨hnew.1, hnew.2.1⟩]

/-- Enrolling a client keeps the invariant. -/
theorem enroll (h : r.WellFormed) {raw : String} {title : Title}
    (hraw : Title.canonicalize raw = .ok title) (client : ClientId) (level : Level) (now : Time) :
    (r.enroll client raw title level now).1.WellFormed where
  filed := h.filed.enroll hraw client level now
  entry_client := by
    refine h.entry_client_insert ?_
    cases hbefore : r.clients[client]? with
    | none => rfl
    | some before => exact h.entry_client client before hbefore
  held_key other raw' key hheld := by
    rw [h.held_enroll_eq hraw] at hheld
    split at hheld
    · rename_i hcond
      exact ⟨title, hcond.2 ▸ hraw, Option.some.inj hheld⟩
    · exact h.held_key other raw' key hheld
  subscribed_iff other key := by
    rw [since_enroll]
    simp only [h.held_enroll_eq hraw]
    by_cases hcond : client = other ∧ title.key = key
    · -- the client is subscribed to this topic now, and holds `raw` for it
      obtain ⟨rfl, rfl⟩ := hcond
      simp only [and_self, if_true, Option.isSome_some, true_iff]
      exact ⟨raw, by simp⟩
    · -- every other client and topic is as before; `raw` is new to none of them
      rw [if_neg hcond, h.subscribed_iff]
      constructor
      · rintro ⟨raw', hheld⟩
        refine ⟨raw', ?_⟩
        rw [if_neg]
        · exact hheld
        · rintro ⟨rfl, rfl⟩
          have hkey := h.held_eq hraw (by rw [hheld]; rfl)
          rw [hheld] at hkey
          exact hcond ⟨rfl, (Option.some.inj hkey).symm⟩
      · rintro ⟨raw', hheld⟩
        split at hheld
        · rename_i hnew
          exact absurd ⟨hnew.1, Option.some.inj hheld⟩ hcond
        · exact ⟨raw', hheld⟩

/-- **One title keeps the invariant.** -/
theorem subscribeOne (h : r.WellFormed) (client : ClientId) (raw : String) (level : Level)
    (now : Time) : (r.subscribeOne client raw level now).registry.WellFormed := by
  rcases subscribeOne_cases r client raw level now with
    ⟨error, hregistry, -⟩ | ⟨title, granted, hraw, -, hregistry, -⟩
  · rwa [hregistry]
  · rw [hregistry]
    exact h.enroll hraw client level now

/-- **So does a batch.** -/
theorem subscribe (h : r.WellFormed) (client : ClientId) (level : Level) (now : Time)
    (raws : List String) : (r.subscribe client level now raws).registry.WellFormed := by
  induction raws generalizing r with
  | nil => exact h
  | cons raw raws ih => exact ih (h.subscribeOne client raw level now)

/-! ### Unsubscribing -/

/-- Unsubscribing from some raw titles keeps the invariant. -/
theorem unsubscribe (h : r.WellFormed) {client : ClientId} {raws : List String} {next : Registry}
    {results : List UnsubscribeResult} (hnext : r.unsubscribe client raws = .ok (next, results)) :
    next.WellFormed := by
  have hheld := held_unsubscribe hnext
  obtain ⟨-, entry, hentry, -, rfl, -⟩ :=
    (unsubscribe_eq_ok_iff r client raws next results).mp hnext
  have hclient := h.entry_client client entry hentry
  have hagrees := h.agrees hentry
  refine ⟨h.filed.giveUpAll entry raws, ?_, ?_, ?_⟩
  · exact h.entry_client_insert (by rw [client_giveUpAll, hclient])
  · intro other raw key hkey
    rw [hheld] at hkey
    split at hkey
    · cases hkey
    · exact h.held_key other raw key hkey
  · intro other key
    by_cases heq : client = other
    · -- what is left of the entry agrees with what is left of the index
      subst heq
      have hleft := hagrees.giveUpAll raws key
      rw [client_giveUpAll, hclient, Entry.references_iff] at hleft
      rw [hleft]
      simp only [held_insert, if_true]
    · rw [hagrees.since_giveUpAll_of_ne raws (by rwa [hclient]), h.subscribed_iff]
      simp only [held_insert, if_neg heq]

/-- Unsubscribing from everything keeps the invariant. -/
theorem unsubscribeAll (h : r.WellFormed) (client : ClientId) :
    (r.unsubscribeAll client).WellFormed := by
  have hheld := held_unsubscribeAll r client
  cases hentry : r.clients[client]? with
  | none =>
    rw [Registry.unsubscribeAll, hentry]
    exact h
  | some entry =>
    have hclient := h.entry_client client entry hentry
    have hagrees := h.agrees hentry
    rw [Registry.unsubscribeAll, hentry] at hheld ⊢
    refine ⟨h.filed.foldl_release client entry.keys, ?_, ?_, ?_⟩
    · intro other entry' hentry'
      simp only [Std.ExtTreeMap.getElem?_erase, Std.compare_eq_iff_eq] at hentry'
      split at hentry'
      · cases hentry'
      · exact h.entry_client other entry' hentry'
    · intro other raw key hkey
      rw [hheld] at hkey
      split at hkey
      · cases hkey
      · exact h.held_key other raw key hkey
    · intro other key
      rw [Index.since_foldl_release]
      simp only [hheld]
      by_cases heq : client = other
      · -- no subscription of the client is left, as its keys were all released
        subst heq
        by_cases hmem : key ∈ entry.keys
        · simp [hmem]
        · have hnone : r.index.since entry.client key = none := by
            refine hagrees.since_eq_none ?_
            rw [← Bool.not_eq_true, Entry.references_iff, ← Entry.mem_keys_iff]
            exact hmem
          rw [hclient] at hnone
          simp [hmem, hnone]
      · simp only [heq, false_and, if_false]
        exact h.subscribed_iff other key

/-! ### Histories -/

/-- **Every operation keeps the invariant.** -/
theorem apply (h : r.WellFormed) (now : Time) (op : Operation) : (r.apply now op).1.WellFormed := by
  cases op with
  | subscribe client titles level => exact h.subscribe client level now titles
  | unsubscribe client titles =>
    rw [Registry.apply]
    cases hnext : r.unsubscribe client titles with
    | error e => exact h
    | ok next => exact h.unsubscribe hnext
  | unsubscribeAll client => exact h.unsubscribeAll client
  | resolve title checkExists => exact h
  | topics kind page => exact h
  | subscribers title page => exact h
  | subscriptions client page => exact h
  | setPolicy policy =>
    cases policy with
    | none => exact h
    | some policy => exact ⟨h.filed, h.entry_client, h.held_key, h.subscribed_iff⟩

/-- **Every history keeps the invariant.** -/
theorem run (h : r.WellFormed) (ops : List (Time × Operation)) : (r.run ops).1.WellFormed := by
  induction ops generalizing r with
  | nil => exact h
  | cons op ops ih => exact ih (h.apply op.1 op.2)

end WellFormed

end Registry

end PubSub
