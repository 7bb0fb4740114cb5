import Mathlib.Data.List.Forall2
import PubSub.Program
import PubSub.Proofs.Protocol.Exchanges
import PubSub.Proofs.Registry.FanOut
import PubSub.Proofs.Registry.Permission

/-! # Denied beginnings

The program can be told beginnings of titles that nobody may subscribe to. They are looked for in
the canonical text, so no spelling of a title gets around them.

* **`IsDenied beginnings text`**, **`IsFirstFit beginnings text b`** — some listed beginning fits
  the text, and `b` is the first that does.
* **`Registry.KeepsOut r beginnings`** — no topic of the registry has a denied title.
* **`SubscribeReport.Obeys`**, **`Exchange.Obeys`** — what the list says of the answer to a title,
  and of the answer to a line.
* **`Registry.Guarded`** — the invariant: the policy is that of the list, and every subscription is
  one that it lets pass.
* **`serve_ofSettings_keepsOut`** — in every session of the program, no denied title is ever there,
  and every line is answered accordingly. -/

namespace PubSub

/-! ## (1) Listed beginnings -/

/-- A text is **denied** if it begins with a listed text. -/
def IsDenied (beginnings : List String) (text : String) : Prop :=
  ∃ b ∈ beginnings, b.toList <+: text.toList

/-- The **first listed beginning** that fits a text. -/
def IsFirstFit (beginnings : List String) (text b : String) : Prop :=
  ∃ before after, beginnings = before ++ b :: after ∧ b.toList <+: text.toList ∧
    ∀ b' ∈ before, ¬b'.toList <+: text.toList

/-- The reason that names a listed beginning. -/
def denialReason (b : String) : String := "prefix " ++ b ++ " is denied"

/-- The wording of a refusal with such a reason. -/
theorem message_unauthorized_denialReason (text b : String) :
    RegistryError.message (.unauthorized text (denialReason b)) =
      "subscribe to " ++ text ++ " rejected: prefix " ++ b ++ " is denied" := by
  have hwords : " rejected: " ++ "prefix " = " rejected: prefix " := by decide
  have hassoc : "subscribe to " ++ text ++ " rejected: " ++ ("prefix " ++ b ++ " is denied") =
      "subscribe to " ++ text ++ (" rejected: " ++ "prefix ") ++ b ++ " is denied" := by
    simp only [String.append_assoc]
  exact hassoc.trans
    (congrArg (fun words => "subscribe to " ++ text ++ words ++ b ++ " is denied") hwords)

namespace Policy

/-- Titles that are not denied pass. -/
theorem denying_eq_none_iff (beginnings : List String) (text : String) (client : ClientId) :
    denying beginnings text client = none ↔ ¬IsDenied beginnings text := by
  rw [denying, Option.map_eq_none_iff, List.find?_eq_none, IsDenied]
  simp

/-- **The reason of a refusal** names the first listed beginning that fits. -/
theorem isFirstFit_of_denying_eq_some {beginnings : List String} {text : String} {client : ClientId}
    {reason : String} (h : denying beginnings text client = some reason) :
    ∃ b, IsFirstFit beginnings text b ∧ reason = denialReason b := by
  rw [denying, Option.map_eq_some_iff] at h
  obtain ⟨b, hfind, rfl⟩ := h
  obtain ⟨hfits, before, after, rfl, hbefore⟩ := List.find?_eq_some_iff_append.mp hfind
  refine ⟨b, ⟨before, after, rfl, List.isPrefixOf_iff_prefix.mp hfits, ?_⟩, rfl⟩
  intro b' hb' hfits'
  have hnot := hbefore b' hb'
  rw [List.isPrefixOf_iff_prefix.mpr hfits'] at hnot
  cases hnot

end Policy

/-! ## (2) What the list demands -/

/-- A registry **keeps denied titles out** if no topic, plain or wildcard, has one. -/
def Registry.KeepsOut (r : Registry) (beginnings : List String) : Prop :=
  ∀ key topic, r.index.get? key = some topic →
    topic.title.text = key.title ∧ ¬IsDenied beginnings topic.title.text

namespace SubscribeReport

/-- The report tells of a **refusal** for a denied text: no topic, the code 128, and an error that
names the first listed beginning that fits. -/
def Refuses (report : SubscribeReport) (beginnings : List String) (text : String) : Prop :=
  report.topic = none ∧ report.code = 128 ∧ ∃ b, IsFirstFit beginnings text b ∧
    report.error = some ("subscribe to " ++ text ++ " rejected: prefix " ++ b ++ " is denied")

/-- The report tells of a **success** for a text. -/
def Grants (report : SubscribeReport) (text : String) : Prop :=
  report.topic = some text ∧ report.code ≠ 128 ∧ report.error = none

/-- The report on a raw title **obeys the list**: a title that canonicalizes to a denied text is
refused, and any other that can be canonicalized is granted. -/
structure Obeys (report : SubscribeReport) (beginnings : List String) (raw : String) : Prop where
  /-- The report is about this title. -/
  title_eq : report.title = raw
  /-- Denied titles are refused. -/
  refused : ∀ t, Title.canonicalize raw = .ok t → IsDenied beginnings t.text →
    report.Refuses beginnings t.text
  /-- All other titles are granted. -/
  granted : ∀ t, Title.canonicalize raw = .ok t → ¬IsDenied beginnings t.text →
    report.Grants t.text

/-- The list looks at the canonical title alone. -/
theorem obeys_of_canonicalize {report : SubscribeReport} {beginnings : List String} {raw : String}
    {title : Title} (hraw : Title.canonicalize raw = .ok title) (hreport : report.title = raw)
    (hrefused : IsDenied beginnings title.text → report.Refuses beginnings title.text)
    (hgranted : ¬IsDenied beginnings title.text → report.Grants title.text) :
    report.Obeys beginnings raw where
  title_eq := hreport
  refused t ht := by
    obtain rfl : title = t := Except.ok.inj (hraw.symm.trans ht)
    exact hrefused
  granted t ht := by
    obtain rfl : title = t := Except.ok.inj (hraw.symm.trans ht)
    exact hgranted

/-- A title that cannot be canonicalized is no concern of the list. -/
theorem obeys_of_canonicalize_eq_error {report : SubscribeReport} {raw : String}
    {cause : TitleError} (hraw : Title.canonicalize raw = .error cause) (hreport : report.title = raw)
    (beginnings : List String) : report.Obeys beginnings raw where
  title_eq := hreport
  refused _ ht := nomatch hraw.symm.trans ht
  granted _ ht := nomatch hraw.symm.trans ht

/-- An error that carries the reason of the policy is a refusal. -/
theorem refuses_unauthorized {beginnings : List String} {text b : String}
    (h : IsFirstFit beginnings text b) (raw : String) :
    (of ⟨raw, .error (.unauthorized text (denialReason b))⟩).Refuses beginnings text :=
  ⟨rfl, rfl, b, h, congrArg some (message_unauthorized_denialReason text b)⟩

/-- A grant is a success. -/
theorem grants_ok (raw : String) (grant : Grant) :
    (of ⟨raw, .ok grant⟩).Grants grant.topic := by
  have hcode : (of ⟨raw, .ok grant⟩).code = grant.level.code := rfl
  have hrefused : (128 : UInt8) = refusedCode := rfl
  refine ⟨rfl, ?_, rfl⟩
  rw [hcode, hrefused]
  exact code_ne_refusedCode grant.level

end SubscribeReport

/-- The client is on a **wildcard topic that is allowed** and covers the text. -/
def Registry.IsOnAllowedWildcard (r : Registry) (beginnings : List String) (text : String)
    (client : ClientId) : Prop :=
  ∃ title topic time, r.index.wildcard[title]? = some topic ∧
    topic.subscribers[client]? = some time ∧ topic.covers text = true ∧
    topic.title.text = title ∧ ¬IsDenied beginnings title

/-- An exchange **obeys the list** of the settings. -/
structure Exchange.Obeys (e : Exchange) (settings : RegistrySettings) : Prop where
  /-- A request to subscribe is answered with one report for each title, and all of them obey. -/
  subscribe : ∀ client titles level, Request.decode e.line = .ok (.subscribe client titles level) →
    ∃ reports, e.reply = .subscribed client reports ∧
      List.Forall₂ (fun raw report => report.Obeys settings.denyPrefixes raw) titles reports
  /-- A publication under a denied title that has to exist is refused. -/
  resolve_existing : ∀ p checkExists t,
    Request.decode e.line = .ok (.resolve p checkExists) → Title.canonicalize p = .ok t →
    IsDenied settings.denyPrefixes t.text → checkExists.getD settings.checkExists = true →
      e.reply.isError = true
  /-- Any other publication under a denied title is refused for a wildcard in the title, or reaches
  clients on allowed wildcard topics only. -/
  resolve_any : ∀ p checkExists t,
    Request.decode e.line = .ok (.resolve p checkExists) → Title.canonicalize p = .ok t →
    IsDenied settings.denyPrefixes t.text → checkExists.getD settings.checkExists = false →
      t.isWildcard = true ∧ e.reply.isError = true ∨
        ∃ ids, e.reply = .resolved p ids ∧
          ∀ client ∈ ids, e.before.IsOnAllowedWildcard settings.denyPrefixes t.text client

/-! ## (3) The invariant -/

namespace Registry

/-- A registry **guarded** by a list: its policy is that of the list, and every subscription in it
is one that the list allows. -/
structure Guarded (r : Registry) (beginnings : List String) : Prop where
  /-- The invariant of the registry holds. -/
  wellFormed : r.WellFormed
  /-- The policy refuses the denied titles. -/
  policy_eq : r.policy = .denying beginnings
  /-- Nobody is subscribed to a denied title. -/
  allowed : ∀ client key, (r.index.since client key).isSome = true →
    ¬IsDenied beginnings key.title

/-- **The registry that the program begins with** is guarded by the list of the settings. -/
theorem guarded_ofSettings (settings : RegistrySettings) :
    (ofSettings settings).Guarded settings.denyPrefixes := by
  have hnone : ∀ client key, ¬(empty.index.since client key).isSome = true := by
    intro client key
    rw [index_empty, Index.since_empty]
    exact Bool.false_ne_true
  rw [ofSettings]
  cases hlist : settings.denyPrefixes with
  | nil =>
    -- nothing is listed, and the policy that lets everything pass is that of the empty list
    exact ⟨wellFormed_empty, rfl, fun client key h => absurd h (hnone client key)⟩
  | cons b bs =>
    refine ⟨wellFormed_empty.apply 0 (.setPolicy (some (.denying (b :: bs)))), rfl, ?_⟩
    exact fun client key h => absurd h (hnone client key)

namespace Guarded

variable {r : Registry} {beginnings : List String}

/-- Without a listed beginning that fits, the policy lets a client pass, and only then. -/
theorem policy_eq_none_iff (h : r.Guarded beginnings) (text : String) (client : ClientId) :
    r.policy text client = none ↔ ¬IsDenied beginnings text := by
  rw [h.policy_eq, Policy.denying_eq_none_iff]

/-- **Every operation keeps a registry guarded**, unless it installs another policy. -/
theorem apply (h : r.Guarded beginnings) (now : Time) {op : Operation}
    (hop : ∀ policy, op ≠ .setPolicy policy) : (r.apply now op).1.Guarded beginnings where
  wellFormed := h.wellFormed.apply now op
  policy_eq := (policy_apply r now hop).trans h.policy_eq
  allowed client key hsince := by
    rcases isSome_since_apply hsince with hbefore | hpassed
    · exact h.allowed client key hbefore
    · exact (h.policy_eq_none_iff key.title client).mp hpassed

/-- **Every line keeps a registry guarded.** -/
theorem respondLine (h : r.Guarded beginnings) (settings : RegistrySettings) (now : Time)
    (line : String) : (r.respondLine settings now line).1.Guarded beginnings := by
  rcases respondLine_eq_or settings now r line with heq | ⟨op, hop, heq⟩
  · rwa [heq]
  · rw [heq]
    exact h.apply now hop

/-- **A guarded registry keeps denied titles out**, as every topic has a subscriber. -/
theorem keepsOut (h : r.Guarded beginnings) : r.KeepsOut beginnings := by
  intro key topic hget
  have htext := (h.wellFormed.filed key topic hget).text_eq
  obtain ⟨client, hsince⟩ := h.wellFormed.filed.exists_since hget
  exact ⟨htext, htext ▸ h.allowed client key hsince⟩

/-! ## (4) The answers -/

/-- The report on one title obeys the list. -/
theorem obeys_subscribeOne (h : r.Guarded beginnings) (client : ClientId) (raw : String)
    (level : Level) (now : Time) :
    ∃ result, (r.subscribeOne client raw level now).results = [result] ∧
      (SubscribeReport.of result).Obeys beginnings raw := by
  rw [Registry.subscribeOne]
  cases hraw : Title.canonicalize raw with
  | error cause =>
    exact ⟨_, rfl, SubscribeReport.obeys_of_canonicalize_eq_error hraw rfl beginnings⟩
  | ok title =>
    -- The policy refuses just what the list denies, so its answer settles the report.
    have hpasses := h.policy_eq_none_iff title.text client
    dsimp only
    cases hpolicy : r.policy title.text client with
    | some reason =>
      have hdenied : IsDenied beginnings title.text := by
        by_contra hallowed
        rw [hpasses.mpr hallowed] at hpolicy
        cases hpolicy
      rw [h.policy_eq] at hpolicy
      obtain ⟨b, hfirst, rfl⟩ := Policy.isFirstFit_of_denying_eq_some hpolicy
      refine ⟨_, rfl, SubscribeReport.obeys_of_canonicalize hraw rfl (fun _ => ?_) ?_⟩
      · exact SubscribeReport.refuses_unauthorized hfirst raw
      · exact absurd hdenied
    | none =>
      have hallowed := hpasses.mp hpolicy
      refine ⟨_, rfl, SubscribeReport.obeys_of_canonicalize hraw rfl ?_ fun _ => ?_⟩
      · exact fun hdenied => absurd hdenied hallowed
      · exact SubscribeReport.grants_ok raw ⟨title.text, _⟩

/-- One title keeps the registry guarded: the policy is asked before the topic is created. -/
theorem subscribeOne (h : r.Guarded beginnings) (client : ClientId) (raw : String) (level : Level)
    (now : Time) : (r.subscribeOne client raw level now).registry.Guarded beginnings := by
  -- one title is a batch of one
  have hop : ∀ policy, Operation.subscribe client [raw] level ≠ .setPolicy policy := fun _ => nofun
  exact h.apply now hop

/-- **The reports on a batch obey the list**, one for each title. -/
theorem obeys_subscribe (h : r.Guarded beginnings) (client : ClientId) (level : Level) (now : Time)
    (raws : List String) :
    List.Forall₂ (fun raw (report : SubscribeReport) => report.Obeys beginnings raw) raws
      ((r.subscribe client level now raws).results.map SubscribeReport.of) := by
  induction raws generalizing r with
  | nil => exact .nil
  | cons raw raws ih =>
    obtain ⟨result, hresult, hobeys⟩ := h.obeys_subscribeOne client raw level now
    rw [subscribe_cons_results, hresult]
    exact .cons hobeys (ih (h.subscribeOne client raw level now))

/-- A title that is denied has no plain topic. -/
theorem contains_plain_eq_false (h : r.Guarded beginnings) {text : String}
    (hdenied : IsDenied beginnings text) : r.index.plain.contains text = false := by
  rw [← Bool.not_eq_true, Std.ExtTreeMap.contains_eq_isSome_getElem?, Option.isSome_iff_exists]
  rintro ⟨topic, hget⟩
  obtain ⟨htext, hallowed⟩ := h.keepsOut ⟨text, .plain⟩ topic hget
  exact hallowed (htext ▸ hdenied)

/-- A publication under a denied title reaches clients on allowed wildcard topics only. -/
theorem isOnAllowedWildcard_of_mem_audience (h : r.Guarded beginnings) {text : String}
    (hdenied : IsDenied beginnings text) {client : ClientId} (hmem : client ∈ r.audience text) :
    r.IsOnAllowedWildcard beginnings text client := by
  obtain ⟨key, topic, time, hget, hreached, htime⟩ := (mem_audience_iff r text client).mp hmem
  obtain ⟨htext, hallowed⟩ := h.keepsOut key topic hget
  rcases hreached with rfl | ⟨hkind, hcovers⟩
  · -- there is no plain topic with the title
    exact absurd (htext ▸ hdenied) hallowed
  · refine ⟨key.title, topic, time, ?_, htime, hcovers, htext, htext ▸ hallowed⟩
    rw [Index.get?, hkind] at hget
    exact hget

/-- **A publication under a denied title** that has to exist is refused: for a wildcard in it, or
because there is no such topic. -/
theorem exists_resolve_existing_eq_error (h : r.Guarded beginnings) {p : String} {t : Title}
    (ht : Title.canonicalize p = .ok t) (hdenied : IsDenied beginnings t.text) :
    ∃ error, r.resolve p true = .error error := by
  rw [resolve, Title.canonicalizeConcrete, ht]
  cases hkind : t.isWildcard with
  | true => exact ⟨.validation p .wildcardPublish, by simp [hkind]⟩
  | false =>
    exact ⟨.topicNotFound t.text, by simp [hkind, h.contains_plain_eq_false hdenied]⟩

/-- **A publication under a denied title** that need not exist is refused for a wildcard in it only,
and reaches clients on allowed wildcard topics only. -/
theorem resolve_any_of_isDenied (h : r.Guarded beginnings) {p : String} {t : Title}
    (ht : Title.canonicalize p = .ok t) (hdenied : IsDenied beginnings t.text) :
    (t.isWildcard = true ∧ ∃ error, r.resolve p false = .error error) ∨
      ∃ ids, r.resolve p false = .ok ids ∧
        ∀ client ∈ ids, r.IsOnAllowedWildcard beginnings t.text client := by
  rw [resolve, Title.canonicalizeConcrete, ht]
  cases hkind : t.isWildcard with
  | true => exact Or.inl ⟨rfl, .validation p .wildcardPublish, by simp [hkind]⟩
  | false =>
    refine Or.inr ⟨(r.audience t.text).toList, by simp [hkind], fun client hmem => ?_⟩
    exact h.isOnAllowedWildcard_of_mem_audience hdenied (Std.ExtTreeSet.mem_toList.mp hmem)

/-- **The answer to a line** that is carried out on a guarded registry obeys the list. -/
theorem exchange_obeys {settings : RegistrySettings} {e : Exchange}
    (h : e.before.Guarded settings.denyPrefixes) (he : e.IsCarriedOut settings) :
    e.Obeys settings := by
  obtain ⟨now, he⟩ := he
  have hreply : ∀ {request}, Request.decode e.line = .ok request →
      e.reply = (e.before.respond settings now request).2 := fun hdecode => by
    rw [respondLine_of_decode hdecode] at he
    rw [he]
  refine ⟨fun client titles level hdecode => ?_,
    fun p checkExists t hdecode ht hdenied hcheck => ?_,
    fun p checkExists t hdecode ht hdenied hcheck => ?_⟩
  · exact ⟨_, hreply hdecode, h.obeys_subscribe client _ now titles⟩
  · obtain ⟨error, hresolve⟩ := h.exists_resolve_existing_eq_error ht hdenied
    rw [hreply hdecode, respond, hcheck, hresolve]
    rfl
  · rw [hreply hdecode, respond, hcheck]
    rcases h.resolve_any_of_isDenied ht hdenied with
      ⟨hwildcard, error, hresolve⟩ | ⟨ids, hresolve, hids⟩
    · rw [hresolve]
      exact Or.inl ⟨hwildcard, rfl⟩
    · rw [hresolve]
      exact Or.inr ⟨ids, rfl, hids⟩

end Guarded

end Registry

/-! ## (5) Sessions of the program -/

/-- **Denied titles never enter.** Take the registry that the program begins with, any input, any
clock and any room for replies. Before and after every exchange and at the end of the session no
topic has a denied title; every title of a subscription is refused or granted as the list says; and
a publication under a denied title is refused, or, if the topic need not exist, reaches none but
clients on wildcard topics that are allowed. -/
theorem serve_ofSettings_keepsOut (settings : RegistrySettings) (clock : Nat → Time)
    (capacity : Option Nat) (input : List UInt8) :
    (serve settings clock capacity (.ofSettings settings) input).registry.KeepsOut
        settings.denyPrefixes ∧
      ∀ e ∈ (serve settings clock capacity (.ofSettings settings) input).exchanges,
        e.before.KeepsOut settings.denyPrefixes ∧ e.after.KeepsOut settings.denyPrefixes ∧
          e.Obeys settings := by
  obtain ⟨hlast, hexchanges⟩ := serve_induction
    (fun r n line (h : r.Guarded settings.denyPrefixes) => h.respondLine settings (clock n) line)
    capacity (Registry.guarded_ofSettings settings) input
  refine ⟨hlast.keepsOut, fun e he => ?_⟩
  obtain ⟨hbefore, hafter, hcarried⟩ := hexchanges e he
  exact ⟨hbefore.keepsOut, hafter.keepsOut, hbefore.exchange_obeys hcarried⟩

end PubSub
