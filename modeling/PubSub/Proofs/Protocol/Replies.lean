import PubSub.Proofs.Json.RoundTrip
import PubSub.Proofs.Protocol.Exchanges
import PubSub.Proofs.Registry.Isolation
import PubSub.Proofs.Registry.Lifetime
import PubSub.Proofs.Registry.Permission
import PubSub.Proofs.Registry.Survey

/-! # Replies are faithful

A reply is sent as one line of JSON. Nothing of it is lost: read as JSON, the line is the object of
the reply, and this object tells the reply.

* **`Reply.ofJson?`** — the reply that an object tells.
* **`Reply.FitsWords`** — the counts and times of a reply fit 64 bits, and **`Registry.CountsFit`**,
  **`Registry.IsTimed`** — so do those of a registry.
* **`Reply.ofJson?_toJson`** — a reply is told by its object.
* **`Reply.IsFaithful`** — its line is one line, is read as its object, and is that of no other
  reply.
* **`Registry.isFaithful_respondLine_run`** — every reply to a line is faithful, whatever is in the
  line and in the registry. -/

namespace PubSub

open Std (ExtTreeMap)

namespace Reply

/-! ## (1) Reading replies

A member counts only in its place. -/

/-- The integer that a value is worth. -/
def integer? : Json → Option Int
  | .number n =>
    match n.value? with
    | some (.integer i) => some i
    | _ => none
  | _ => none

/-- The natural number that a value is worth. -/
def natural? (j : Json) : Option Nat :=
  (integer? j).bind fun i => if 0 ≤ i then some i.toNat else none

/-- The number of a client. -/
def client? (j : Json) : Option ClientId :=
  (integer? j).bind fun i => if isSigned i then some (.ofInt i) else none

/-- A code of one byte. -/
def code? (j : Json) : Option UInt8 :=
  (natural? j).bind fun n => if n < 256 then some (.ofNat n) else none

/-- A text. -/
def text? : Json → Option String
  | .string s => some s
  | _ => none

/-- A text, or null. -/
def textOrNull? : Json → Option (Option String)
  | .null => some none
  | j => (text? j).map some

/-- The items of an array, each read alike. -/
def items? {α : Type} (read : Json → Option α) : Json → Option (List α)
  | .array items => items.mapM read
  | _ => none

/-- The report on a subscribed title. -/
def subscribeReport? : Json → Option SubscribeReport
  | .object [("title", title), ("topic", topic), ("code", code), ("error", cause)] => do
    pure ⟨← text? title, ← textOrNull? topic, ← code? code, ← textOrNull? cause⟩
  | _ => none

/-- The report on a title given up. -/
def unsubscribeReport? : Json → Option UnsubscribeReport
  | .object [("title", title), ("error", cause)] => do
    pure ⟨← text? title, ← textOrNull? cause⟩
  | _ => none

/-- The summary of a topic. -/
def topic? : Json → Option TopicSummary
  | .object [("title", title), ("wildcard", .bool wildcard), ("level", level),
      ("subscribers", subscribers), ("created_at", createdAt)] => do
    pure ⟨← text? title, if wildcard then .wildcard else .plain, ← (code? level).bind Level.ofCode?,
      ← natural? subscribers, ← integer? createdAt⟩
  | _ => none

/-- A subscription. -/
def subscription? : Json → Option Subscription
  | .object [("client_id", client), ("title", title), ("subscribed_at", subscribedAt)] => do
    pure ⟨← client? client, ← text? title, ← integer? subscribedAt⟩
  | _ => none

/-- The **reply that an object tells**: its kind comes first, then its members in their order. -/
def ofJson? : Json → Option Reply
  | .object [("type", .string "subscribed"), ("client_id", client), ("results", results)] => do
    pure (.subscribed (← client? client) (← items? subscribeReport? results))
  | .object [("type", .string "unsubscribed"), ("client_id", client), ("results", results)] => do
    pure (.unsubscribed (← client? client) (← items? unsubscribeReport? results))
  | .object [("type", .string "unsubscribed_all"), ("client_id", client)] => do
    pure (.unsubscribedAll (← client? client))
  | .object [("type", .string "resolved"), ("title", title), ("client_ids", clients)] => do
    pure (.resolved (← text? title) (← items? client? clients))
  | .object [("type", .string "topics"), ("total", total), ("topics", items)] => do
    pure (.topics ⟨← natural? total, ← items? topic? items⟩)
  | .object [("type", .string "subscriptions"), ("total", total), ("items", items)] => do
    pure (.subscriptions ⟨← natural? total, ← items? subscription? items⟩)
  | .object [("type", .string "error"), ("message", message)] => do
    pure (.error (← text? message))
  | _ => none

/-! ## (2) Replies within words -/

/-- An integer **fits a word** of 64 bits, with a sign or without. -/
def InWord (i : Int) : Prop := -(signedBound : Int) ≤ i ∧ i < (wordBound : Int)

/-- All **counts and times** of a reply satisfy `P`. -/
def Numbers (P : Int → Prop) : Reply → Prop
  | topics listing => P listing.total ∧ ∀ s ∈ listing.items, P s.subscribers ∧ P s.createdAt
  | subscriptions listing => P listing.total ∧ ∀ s ∈ listing.items, P s.subscribedAt
  | _ => True

/-- The counts and times of a reply **fit words**. -/
def FitsWords (reply : Reply) : Prop := reply.Numbers InWord

/-- A signed word is a word. -/
theorem inWord_of_isSigned {i : Int} (h : isSigned i = true) : InWord i := by
  have hbound : (signedBound : Int) < (wordBound : Int) := by decide
  simp only [isSigned, Bool.and_eq_true, decide_eq_true_eq] at h
  exact ⟨h.1, Int.lt_trans h.2 hbound⟩

/-- So is a natural number below the bound. -/
theorem inWord_natCast {n : Nat} (h : n < wordBound) : InWord n := by
  have hbound : -(signedBound : Int) ≤ 0 := by decide
  exact ⟨Int.le_trans hbound (Int.natCast_nonneg n), Int.ofNat_lt.mpr h⟩

/-- The number of a client is a signed word. -/
theorem isSigned_toInt (c : Int64) : isSigned c.toInt = true := by
  have hlow := c.le_toInt
  have hhigh := c.toInt_lt
  have hbound : (signedBound : Int) = 9223372036854775808 := rfl
  simp only [isSigned, Bool.and_eq_true, decide_eq_true_eq]
  omega

/-- The numeral of an integer that fits a word is readable. -/
theorem isReadable_of_inWord {i : Int} (h : InWord i) : (Numeral.ofInt i).IsReadable :=
  Numeral.isReadable_ofInt h.1 h.2

/-- An integer that fits a word is told by its number. -/
theorem integer?_int {i : Int} (h : InWord i) : integer? (.int i) = some i := by
  rw [Json.int, integer?, Numeral.value?_ofInt h.1 h.2]

/-- A natural number that fits a word is read back. -/
theorem natural?_nat {n : Nat} (h : InWord n) : natural? (.nat n) = some n := by
  have hvalue := integer?_int h
  rw [Json.int, Numeral.ofInt_natCast] at hvalue
  simp [natural?, Json.nat, hvalue]

/-- The number of a client is read back. -/
@[simp] theorem client?_clientJson (c : ClientId) : client? (clientJson c) = some c := by
  rw [client?, clientJson, integer?_int (inWord_of_isSigned (isSigned_toInt c))]
  simp [isSigned_toInt]

/-- A code is read back. -/
@[simp] theorem code?_nat (code : UInt8) : code? (.nat code.toNat) = some code := by
  have hcode := code.toNat_lt
  have hword : code.toNat < wordBound := Nat.lt_trans hcode (by decide)
  rw [code?, natural?_nat (inWord_natCast hword)]
  simp [hcode]

/-- A text or null is read back. -/
@[simp] theorem textOrNull?_stringOrNull (s : Option String) :
    textOrNull? (.stringOrNull s) = some s := by
  cases s <;> rfl

/-- A list is told by the array of its items. -/
theorem items?_map {α : Type} {read : Json → Option α} {write : α → Json} {xs : List α}
    (h : ∀ x ∈ xs, read (write x) = some x) : items? read (.array (xs.map write)) = some xs := by
  rw [items?]
  induction xs with
  | nil => rfl
  | cons x xs ih =>
    obtain ⟨hx, hxs⟩ := List.forall_mem_cons.mp h
    simp [hx, ih hxs]

/-- The report on a subscribed title is read back. -/
@[simp] theorem subscribeReport?_subscribeReportJson (r : SubscribeReport) :
    subscribeReport? (subscribeReportJson r) = some r := by
  simp [subscribeReport?, subscribeReportJson, text?]

/-- The report on an unsubscribed title is read back. -/
@[simp] theorem unsubscribeReport?_unsubscribeReportJson (r : UnsubscribeReport) :
    unsubscribeReport? (unsubscribeReportJson r) = some r := by
  simp [unsubscribeReport?, unsubscribeReportJson, text?]

/-- The summary of a topic is read back if its count and its time fit words. -/
theorem topic?_topicJson {s : TopicSummary} (hcount : InWord s.subscribers)
    (htime : InWord s.createdAt) : topic? (topicJson s) = some s := by
  obtain ⟨title, kind, level, subscribers, createdAt⟩ := s
  cases kind <;> simp [topic?, topicJson, text?, natural?_nat hcount, integer?_int htime]

/-- A subscription is read back if its time fits a word. -/
theorem subscription?_subscriptionJson {s : Subscription} (h : InWord s.subscribedAt) :
    subscription? (subscriptionJson s) = some s := by
  simp [subscription?, subscriptionJson, text?, integer?_int h]

/-- **A reply is told by its object.** -/
theorem ofJson?_toJson {reply : Reply} (h : reply.FitsWords) :
    ofJson? reply.toJson = some reply := by
  cases reply with
  | subscribed client results =>
    have hresults := items?_map fun r (_ : r ∈ results) => subscribeReport?_subscribeReportJson r
    simp [toJson, tagged, ofJson?, hresults]
  | unsubscribed client results =>
    have hresults := items?_map fun r (_ : r ∈ results) =>
      unsubscribeReport?_unsubscribeReportJson r
    simp [toJson, tagged, ofJson?, hresults]
  | unsubscribedAll client => simp [toJson, tagged, ofJson?]
  | resolved title clients =>
    have hclients := items?_map fun c (_ : c ∈ clients) => client?_clientJson c
    simp [toJson, tagged, ofJson?, text?, hclients]
  | topics listing =>
    have htopics := items?_map fun s (hs : s ∈ listing.items) =>
      topic?_topicJson (h.2 s hs).1 (h.2 s hs).2
    simp [toJson, tagged, ofJson?, natural?_nat h.1, htopics]
  | subscriptions listing =>
    have hitems := items?_map fun s (hs : s ∈ listing.items) =>
      subscription?_subscriptionJson (h.2 s hs)
    simp [toJson, tagged, ofJson?, natural?_nat h.1, hitems]
  | error message => simp [toJson, tagged, ofJson?, text?]

/-! ## (3) The objects of replies -/

section Within

variable {P : Int → Prop} {Q : Numeral → Prop} {depth : Nat}
  (hword : ∀ i, isSigned i = true → Q (.ofInt i))
include hword

omit hword in
/-- A text or null has no numbers. -/
theorem within_stringOrNull (s : Option String) : Json.Within Q depth (.stringOrNull s) := by
  cases s with
  | none => exact .null
  | some s => exact .string s

omit hword in
/-- A natural number holds itself only. -/
theorem within_nat {n : Nat} (h : Q (.ofInt n)) : Json.Within Q depth (.nat n) := by
  rw [Numeral.ofInt_natCast] at h
  exact .number h

/-- A client is a signed word. -/
theorem within_clientJson (c : ClientId) : Json.Within Q depth (clientJson c) :=
  .number (hword _ (isSigned_toInt c))

/-- A code is a small number. -/
theorem within_code (code : UInt8) : Json.Within Q depth (.nat code.toNat) := by
  refine within_nat (hword _ ?_)
  have hcode := code.toNat_lt
  have hbound : (signedBound : Int) = 9223372036854775808 := rfl
  simp only [isSigned, Bool.and_eq_true, decide_eq_true_eq]
  omega

/-- The report on a subscribed title holds no number but its code. -/
theorem within_subscribeReportJson (r : SubscribeReport) :
    Json.Within Q (depth + 1) (subscribeReportJson r) := by
  refine .object ?_
  simp only [List.forall_mem_cons]
  exact ⟨.string _, within_stringOrNull _, within_code hword _, within_stringOrNull _,
    List.forall_mem_nil _⟩

omit hword in
/-- The report on an unsubscribed title holds no number. -/
theorem within_unsubscribeReportJson (r : UnsubscribeReport) :
    Json.Within Q (depth + 1) (unsubscribeReportJson r) := by
  refine .object ?_
  simp only [List.forall_mem_cons]
  exact ⟨.string _, within_stringOrNull _, List.forall_mem_nil _⟩

/-- The summary of a topic holds its code, its count and its time. -/
theorem within_topicJson {s : TopicSummary} (hcount : Q (.ofInt s.subscribers))
    (htime : Q (.ofInt s.createdAt)) : Json.Within Q (depth + 1) (topicJson s) := by
  refine .object ?_
  simp only [List.forall_mem_cons]
  exact ⟨.string _, .bool _, within_code hword _, within_nat hcount, .number htime,
    List.forall_mem_nil _⟩

/-- A subscription holds its client and its time. -/
theorem within_subscriptionJson {s : Subscription} (htime : Q (.ofInt s.subscribedAt)) :
    Json.Within Q (depth + 1) (subscriptionJson s) := by
  refine .object ?_
  simp only [List.forall_mem_cons]
  exact ⟨within_clientJson hword _, .string _, .number htime, List.forall_mem_nil _⟩

omit hword in
/-- A list of values in an array. -/
theorem within_map {α : Type} {write : α → Json} {xs : List α}
    (h : ∀ x ∈ xs, Json.Within Q depth (write x)) :
    Json.Within Q (depth + 1) (.array (xs.map write)) :=
  .array (List.forall_mem_map.mpr h)

omit hword in
/-- The object of a reply with two members besides its kind. -/
theorem within_tagged {kind name name' : String} {value value' : Json}
    (h : Json.Within Q depth value) (h' : Json.Within Q depth value') :
    Json.Within Q (depth + 1) (tagged kind [(name, value), (name', value')]) := by
  refine .object ?_
  simp only [List.forall_mem_cons]
  exact ⟨.string _, h, h', List.forall_mem_nil _⟩

/-- **The object of a reply** nests little, and holds numbers only for clients, codes, counts and
times. -/
theorem within_toJson (hPQ : ∀ i, P i → Q (.ofInt i)) {reply : Reply} (h : reply.Numbers P) :
    Json.Within Q Json.maxDepth reply.toJson := by
  cases reply with
  | subscribed client results =>
    exact within_tagged (within_clientJson hword client)
      (within_map fun r _ => within_subscribeReportJson hword r)
  | unsubscribed client results =>
    exact within_tagged (within_clientJson hword client)
      (within_map fun r _ => within_unsubscribeReportJson r)
  | unsubscribedAll client =>
    refine .object ?_
    simp only [List.forall_mem_cons]
    exact ⟨.string _, within_clientJson hword client, List.forall_mem_nil _⟩
  | resolved title clients =>
    exact within_tagged (.string title) (within_map fun c _ => within_clientJson hword c)
  | topics listing =>
    obtain ⟨htotal, hitems⟩ := h
    exact within_tagged (within_nat (hPQ _ htotal)) (within_map fun s hs =>
      within_topicJson hword (hPQ _ (hitems s hs).1) (hPQ _ (hitems s hs).2))
  | subscriptions listing =>
    obtain ⟨htotal, hitems⟩ := h
    exact within_tagged (within_nat (hPQ _ htotal)) (within_map fun s hs =>
      within_subscriptionJson hword (hPQ _ (hitems s hs)))
  | error message =>
    refine .object ?_
    simp only [List.forall_mem_cons]
    exact ⟨.string _, .string message, List.forall_mem_nil _⟩

end Within

/-! ## (4) The lines of replies -/

/-- **The line of a reply is one line**: it has no control character. -/
theorem visible_of_mem_line {reply : Reply} {c : Char} (hc : c ∈ reply.line.toList) :
    0x20 ≤ c.toNat := by
  -- A numeral has no control character, whether it fits a word or not.
  have hnumbers : reply.Numbers fun _ => True := by
    cases reply with
    | topics listing => exact ⟨trivial, fun _ _ => ⟨trivial, trivial⟩⟩
    | subscriptions listing => exact ⟨trivial, fun _ _ => trivial⟩
    | _ => trivial
  have hwithin := within_toJson (fun i _ => Numeral.isPrintable_ofInt i)
    (fun i _ => Numeral.isPrintable_ofInt i) hnumbers
  rw [line, Json.text, String.toList_ofList] at hc
  exact Json.visible_of_mem_render hwithin hc

/-- **The line of a reply is read as its object.** -/
theorem parse?_line {reply : Reply} (h : reply.FitsWords) :
    Json.parse? reply.line.toList = some reply.toJson := by
  rw [line, Json.text, String.toList_ofList]
  exact Json.parse?_render (within_toJson
    (fun _ hi => isReadable_of_inWord (inWord_of_isSigned hi)) (fun _ => isReadable_of_inWord) h)

/-- A reply is **faithful** on the wire. -/
structure IsFaithful (reply : Reply) : Prop where
  /-- Its line has no control character, and so no line break. -/
  visible : ∀ c ∈ reply.line.toList, 0x20 ≤ c.toNat
  /-- Read as JSON, the line is its object: the kind under `type`, then its fields in the order of
  declaration, with nulls for what is absent. -/
  parse : Json.parse? reply.line.toList = some reply.toJson
  /-- The object tells the reply, every integer and every text as it was. -/
  told : ofJson? reply.toJson = some reply
  /-- Any other reply has another line. -/
  distinct : ∀ other : Reply, other.FitsWords → other.line = reply.line → other = reply

/-- **A reply whose counts and times fit words is faithful.** -/
theorem isFaithful_of_fitsWords {reply : Reply} (h : reply.FitsWords) : reply.IsFaithful where
  visible _ := visible_of_mem_line
  parse := parse?_line h
  told := ofJson?_toJson h
  distinct other hother hline := by
    -- Equal lines are read as equal objects, and each object tells its reply.
    have hparse := parse?_line hother
    rw [hline, parse?_line h] at hparse
    have htold := ofJson?_toJson hother
    rw [← Option.some.inj hparse, ofJson?_toJson h] at htold
    exact (Option.some.inj htold).symm

end Reply

/-! ## (5) The replies of a registry -/

namespace Registry

/-- The **times** in a registry fit 64 bits. -/
structure IsTimed (r : Registry) : Prop where
  /-- Topics came to be at such times. -/
  birth : ∀ key birth, r.index.birth key = some birth → isSigned birth.time = true
  /-- Clients subscribed at such times. -/
  since : ∀ client key time, r.index.since client key = some time → isSigned time = true

/-- The **counts** of a registry fit 64 bits. -/
structure CountsFit (r : Registry) : Prop where
  /-- The number of topics of each kind. -/
  topics : ∀ kind, (r.allTopics kind).length < wordBound
  /-- The number of subscribers of each topic. -/
  subscribers : ∀ kind, ∀ s ∈ r.allTopics kind, s.subscribers < wordBound
  /-- The number of raw titles of each client. -/
  titles : ∀ item ∈ r.clients.toList, item.2.size < wordBound

/-- Whether the counts fit can be computed. -/
instance (r : Registry) : Decidable r.CountsFit :=
  decidable_of_iff
    ((∀ kind ∈ [Kind.plain, .wildcard], (r.allTopics kind).length < wordBound ∧
        ∀ s ∈ r.allTopics kind, s.subscribers < wordBound) ∧
      ∀ item ∈ r.clients.toList, item.2.size < wordBound) (by
    have hkind (kind : Kind) : kind ∈ [Kind.plain, .wildcard] := by cases kind <;> decide
    constructor
    · rintro ⟨htopics, htitles⟩
      exact ⟨fun kind => (htopics kind (hkind kind)).1, fun kind => (htopics kind (hkind kind)).2,
        htitles⟩
    · intro h
      exact ⟨fun kind _ => ⟨h.topics kind, h.subscribers kind⟩, h.titles⟩)

/-- An empty registry has no times. -/
theorem isTimed_empty : empty.IsTimed where
  birth key birth h := by
    rw [index_empty, Index.birth_empty] at h
    cases h
  since client key time h := by
    rw [index_empty, Index.since_empty] at h
    cases h

/-- **An operation brings in its own time only.** -/
theorem IsTimed.apply {r : Registry} (h : r.IsTimed) {now : Time} (hnow : isSigned now = true)
    (op : Operation) : (r.apply now op).1.IsTimed where
  birth key birth hbirth := by
    -- A birth is an old one, or that of a call to subscribe at this step.
    cases hbefore : r.index.birth key with
    | none => rw [(exists_subscribe_of_birth_apply hbefore hbirth).1, hnow]
    | some birth' =>
      rw [birth_apply_of_eq_some hbefore hbirth]
      exact h.birth key birth' hbefore
  since client key time htime := by
    -- Only a call to subscribe sets times; all else keeps them or takes them away.
    by_cases hop : ∃ caller titles level, op = .subscribe caller titles level
    · obtain ⟨caller, titles, level, rfl⟩ := hop
      rcases since_subscribe_cases r caller client level now titles key with
        ⟨-, hrenewed⟩ | ⟨-, hsame⟩
      · rw [Registry.apply, hrenewed] at htime
        rwa [← Option.some.inj htime]
      · rw [Registry.apply, hsame] at htime
        exact h.since client key time htime
    · simp only [not_exists] at hop
      rcases since_apply_of_ne_subscribe r now hop client key with hsame | hnone
      · rw [hsame] at htime
        exact h.since client key time htime
      · rw [hnone] at htime
        cases htime

/-- **A line brings in its own time only.** -/
theorem IsTimed.respondLine {r : Registry} (h : r.IsTimed) {now : Time}
    (hnow : isSigned now = true) (settings : RegistrySettings) (line : String) :
    (r.respondLine settings now line).1.IsTimed := by
  rcases respondLine_eq_or settings now r line with hsame | ⟨op, -, hop⟩
  · rwa [hsame]
  · rw [hop]
    exact h.apply hnow op

/-- A history brings in the times of its steps only. -/
theorem IsTimed.run {r : Registry} (h : r.IsTimed) {history : List (Time × Operation)}
    (hhistory : ∀ step ∈ history, isSigned step.1 = true) : (r.run history).1.IsTimed := by
  induction history generalizing r with
  | nil => exact h
  | cons step history ih =>
    obtain ⟨hstep, hhistory⟩ := List.forall_mem_cons.mp hhistory
    exact ih (h.apply hstep step.2) hhistory

open Reply (InWord inWord_natCast inWord_of_isSigned)

section Listings

variable {r : Registry} (htimed : r.IsTimed) (hcounts : r.CountsFit)

include htimed hcounts in
/-- The summary of a topic has a count and a time that fit. -/
theorem inWord_of_mem_allTopics {kind : Kind} {s : TopicSummary} (hs : s ∈ r.allTopics kind) :
    InWord s.subscribers ∧ InWord s.createdAt := by
  have hcount := hcounts.subscribers kind s hs
  obtain ⟨title, topic, hget, rfl⟩ := (mem_allTopics_iff r kind s).mp hs
  have hbirth : r.index.birth ⟨title, kind⟩ = some topic.birth := by
    rw [Index.birth, hget, Option.map_some]
  exact ⟨inWord_natCast hcount, inWord_of_isSigned (htimed.birth _ _ hbirth)⟩

include htimed hcounts in
/-- A page of topics fits words: the total counts the topics of the kind. -/
theorem fitsWords_topics (kind : Kind) (page : Page) :
    (Reply.topics (r.topics kind page)).FitsWords :=
  ⟨inWord_natCast (hcounts.topics kind), fun _ hs =>
    inWord_of_mem_allTopics htimed hcounts ((page.items_sublist _).subset hs)⟩

include htimed hcounts in
/-- A page of subscribers fits words, too. -/
theorem fitsWords_subscribersOf {raw : String} {page : Page} {listing : Listing Subscription}
    (h : r.subscribersOf raw page = .ok listing) : (Reply.subscriptions listing).FitsWords := by
  rw [subscribersOf] at h
  cases hraw : Title.canonicalize raw with
  | error cause => rw [hraw] at h; cases h
  | ok title =>
    simp only [hraw] at h
    cases hget : r.index.get? title.key with
    | none => rw [hget] at h; cases h
    | some topic =>
      rw [hget] at h
      obtain rfl := Except.ok.inj h
      refine ⟨inWord_natCast ?_, fun s hs => ?_⟩
      · -- The total is the number of subscribers that the topic shows in its own listing.
        have htotal : (allSubscribersOf topic).length = topic.summary.subscribers := by
          simp [allSubscribersOf, Topic.clients, Topic.summary, Topic.subscriberCount]
        rw [Listing.ofList, htotal]
        exact hcounts.subscribers _ _ ((mem_allTopics_iff r _ _).mpr ⟨_, topic, hget, rfl⟩)
      · have hmem := (page.items_sublist _).subset hs
        simp only [allSubscribersOf, List.mem_map, List.mem_reverse, Topic.clients, Prod.exists,
          ExtTreeMap.mem_toList_iff_getElem?_eq_some] at hmem
        obtain ⟨client, time, htime, rfl⟩ := hmem
        exact inWord_of_isSigned (htimed.since client title.key time
          ((Index.since_eq_some_iff _ _ _ _).mpr ⟨topic, hget, htime⟩))

include htimed in
/-- The time that is shown for a topic fits, also where the client is not subscribed. -/
theorem isSigned_subscribedAt (client : ClientId) (key : TopicKey) :
    isSigned (r.subscribedAt client key) = true := by
  rw [subscribedAt_eq_getD]
  cases hsince : r.index.since client key with
  | none => rfl
  | some time => exact htimed.since client key time hsince

include htimed hcounts in
/-- So does a page of subscriptions; the total counts the raw titles of the client. -/
theorem fitsWords_subscriptionsOf {client : ClientId} {page : Page}
    {listing : Listing Subscription} (h : r.subscriptionsOf client page = .ok listing) :
    (Reply.subscriptions listing).FitsWords := by
  rw [subscriptionsOf] at h
  cases hentry : r.clients[client]? with
  | none => rw [hentry] at h; cases h
  | some entry =>
    rw [hentry] at h
    obtain rfl := Except.ok.inj h
    refine ⟨inWord_natCast ?_, fun s hs => ?_⟩
    · have htotal : (r.allSubscriptionsOf client entry).length = entry.size := by
        simp [allSubscriptionsOf, Entry.toList, Entry.size]
      rw [Listing.ofList, htotal]
      exact hcounts.titles (client, entry)
        (ExtTreeMap.mem_toList_iff_getElem?_eq_some.mpr hentry)
    · have hmem := (page.items_sublist _).subset hs
      rw [allSubscriptionsOf, List.mem_mergeSort, List.mem_map] at hmem
      obtain ⟨item, -, rfl⟩ := hmem
      exact inWord_of_isSigned (isSigned_subscribedAt htimed client item.2)

include htimed hcounts in
/-- **Every reply fits words**, if the registry does. -/
theorem fitsWords_respond (settings : RegistrySettings) (now : Time) (request : Request) :
    (r.respond settings now request).2.FitsWords := by
  -- Only listings carry counts and times.
  cases request with
  | subscribe client titles level => trivial
  | unsubscribe client titles =>
    rw [respond]
    cases r.unsubscribe client titles <;> trivial
  | unsubscribeAll client => trivial
  | resolve title checkExists =>
    rw [respond]
    cases r.resolve title (checkExists.getD settings.checkExists) <;> trivial
  | plainTopics page => exact fitsWords_topics htimed hcounts .plain page
  | wildcardTopics page => exact fitsWords_topics htimed hcounts .wildcard page
  | topicSubscribers title page =>
    rw [respond]
    cases hlisting : r.subscribersOf title page with
    | error e => trivial
    | ok listing => exact fitsWords_subscribersOf htimed hcounts hlisting
  | clientSubscriptions client page =>
    rw [respond]
    cases hlisting : r.subscriptionsOf client page with
    | error e => trivial
    | ok listing => exact fitsWords_subscriptionsOf htimed hcounts hlisting

include htimed hcounts in
/-- **Every reply to a line fits words**: a line that is no request is answered without numbers. -/
theorem fitsWords_respondLine (settings : RegistrySettings) (now : Time) (line : String) :
    (r.respondLine settings now line).2.FitsWords := by
  rw [respondLine]
  cases Request.decode line with
  | error fault => trivial
  | ok request => exact fitsWords_respond htimed hcounts settings now request

end Listings

/-- **The reply of an exchange is faithful**, if times and counts before it fit words. -/
theorem isFaithful_reply {e : Exchange} {settings : RegistrySettings}
    (h : e.IsCarriedOut settings) (htimed : e.before.IsTimed) (hcounts : e.before.CountsFit) :
    e.reply.IsFaithful := by
  obtain ⟨now, hanswer⟩ := h
  have hfits := fitsWords_respondLine htimed hcounts settings now e.line
  rw [hanswer] at hfits
  exact Reply.isFaithful_of_fitsWords hfits

/-- **Every reply is faithful.** Take any history whose times fit 64 bits and any line of text. If
the counts of the registry fit 64 bits, then the line of the reply is one line of JSON that tells
the reply, and no other reply. -/
theorem isFaithful_respondLine_run {history : List (Time × Operation)}
    (htimes : ∀ step ∈ history, isSigned step.1 = true) (hcounts : (empty.run history).1.CountsFit)
    (settings : RegistrySettings) (now : Time) (line : String) :
    ((empty.run history).1.respondLine settings now line).2.IsFaithful :=
  Reply.isFaithful_of_fitsWords
    (fitsWords_respondLine (isTimed_empty.run htimes) hcounts settings now line)

/-- A client lists what it holds under spellings with a line break and a quote in them. -/
theorem isFaithful_respondLine_run_spellings :
    let history : List (Time × Operation) :=
      [(1700000000000000000, .subscribe 7 [" /a\n", "b/+/#", "\"\\\u0001"] .qos1),
        (1700000000000000001, .subscribe (-7) ["a"] .qos2)]
    let line := "\x7b\"type\":\"client_subscriptions\",\"client_id\":7,\"start\":0,\"end\":9\x7d"
    (∀ step ∈ history, isSigned step.1 = true) ∧ (empty.run history).1.CountsFit ∧
      ((empty.run history).1.respondLine .default 0 line).2.IsFaithful := by
  intro history line
  have htimes : ∀ step ∈ history, isSigned step.1 = true := by
    simp only [history, List.forall_mem_cons]
    exact ⟨rfl, rfl, List.forall_mem_nil _⟩
  have hcounts : (empty.run history).1.CountsFit := by decide
  exact ⟨htimes, hcounts, isFaithful_respondLine_run htimes hcounts .default 0 line⟩

end Registry

end PubSub
