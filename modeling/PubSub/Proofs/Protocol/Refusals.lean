import PubSub.Proofs.Protocol.Exchanges
import PubSub.Proofs.Registry.SubscribeBatch

/-! # Errors leave no mark

What is answered with an error has not been done, not even in part: a refused line, and a refused
title of a batch, could as well not have been sent.

* **`Request.isQuery`**, **`Request.withTitles`** — requests that only ask, and a request with other
  titles in its batch.
* **`Reply.RefusesAt i`** — the reply tells that the title at position `i` of a batch was refused.
* **`Registry.subscribe_take_succ`**, **`Registry.giveUpAll_take_succ`** — a refused title of a
  batch changes nothing, whatever the titles before it did.
* **`Registry.isEffective`** — the line was neither a query nor answered with an error.
* **`Registry.errorsLeaveNoMark`** — so errors and refused titles change nothing, and the other
  lines of any sequence are answered the same without them. -/

namespace PubSub

open Std (ExtTreeMap)

/-! ## (1) Queries, batches and refusals -/

namespace Request

/-- Whether a request only **asks**. -/
def isQuery : Request → Bool
  | subscribe .. | unsubscribe .. | unsubscribeAll .. => false
  | resolve .. | plainTopics .. | wildcardTopics .. | topicSubscribers ..
  | clientSubscriptions .. => true

/-- A request with **other titles** in its batch; a request without a batch stays as it is. -/
def withTitles (f : List String → List String) : Request → Request
  | subscribe client titles level => .subscribe client (f titles) level
  | unsubscribe client titles => .unsubscribe client (f titles)
  | request => request

end Request

/-- The reply **refuses** the title at a position of a batch: a subscription with the code 128, or a
title given up with an error. -/
def Reply.RefusesAt (i : Nat) : Reply → Prop
  | .subscribed _ reports => ∃ report, reports[i]? = some report ∧ report.code = 128
  | .unsubscribed _ reports => ∃ report, reports[i]? = some report ∧ report.error.isSome = true
  | _ => False

namespace Registry

/-! ## (2) Refused titles of a subscription -/

/-- One title has one result. -/
theorem exists_results_subscribeOne (r : Registry) (client : ClientId) (raw : String)
    (level : Level) (now : Time) :
    ∃ result, (r.subscribeOne client raw level now).results = [result] ∧
      (result.isSuccess = false → (r.subscribeOne client raw level now).registry = r) := by
  rcases subscribeOne_cases r client raw level now with
    ⟨error, hregistry, hresults⟩ | ⟨title, granted, -, -, -, hresults⟩
  · exact ⟨_, hresults, fun _ => hregistry⟩
  · exact ⟨_, hresults, fun hfails => nomatch hfails⟩

variable {r : Registry} {client : ClientId} {level : Level} {now : Time} {raws : List String}
  {i : Nat}

/-- **A refused title changes nothing**: the titles up to and with it lead where those before it
do. -/
theorem subscribe_take_succ {result : SubscribeResult}
    (hresult : (r.subscribe client level now raws).results[i]? = some result)
    (hfails : result.isSuccess = false) :
    (r.subscribe client level now (raws.take (i + 1))).registry =
      (r.subscribe client level now (raws.take i)).registry := by
  -- Earlier titles of the batch have changed the registry, so the induction is over all of them.
  induction raws generalizing r i with
  | nil => cases hresult
  | cons raw raws ih =>
    obtain ⟨first, hfirst, hkept⟩ := exists_results_subscribeOne r client raw level now
    rw [subscribe_cons_results, hfirst] at hresult
    cases i with
    | zero =>
      obtain rfl : first = result := Option.some.inj hresult
      exact hkept hfails
    | succ i => exact ih hresult

/-- **Without a refused title** the batch leads to the same registry. -/
theorem subscribe_eraseIdx {result : SubscribeResult}
    (hresult : (r.subscribe client level now raws).results[i]? = some result)
    (hfails : result.isSuccess = false) :
    (r.subscribe client level now (raws.eraseIdx i)).registry =
      (r.subscribe client level now raws).registry := by
  induction raws generalizing r i with
  | nil => cases hresult
  | cons raw raws ih =>
    obtain ⟨first, hfirst, hkept⟩ := exists_results_subscribeOne r client raw level now
    rw [subscribe_cons_results, hfirst] at hresult
    cases i with
    | zero =>
      obtain rfl : first = result := Option.some.inj hresult
      rw [List.eraseIdx_cons_zero, subscribe_cons_registry, hkept hfails]
    | succ i => exact ih hresult

/-- **A batch of refused titles** changes nothing at all. -/
theorem subscribe_of_all_fail
    (hfail : ∀ result ∈ (r.subscribe client level now raws).results, result.isSuccess = false) :
    (r.subscribe client level now raws).registry = r := by
  refine subscribe_of_not_admits (fun raw hraw title hadmits => ?_) level now
  rw [results_subscribe] at hfail
  have hfails := hfail _ (List.mem_map_of_mem hraw)
  rw [(isSuccess_answerTo_iff r client level raw).mpr ⟨title, hadmits⟩] at hfails
  cases hfails

/-- The code 128 is that of a refusal. -/
theorem isSuccess_of_code_of_eq {result : SubscribeResult}
    (h : (SubscribeReport.of result).code = 128) : result.isSuccess = false := by
  obtain ⟨raw, outcome⟩ := result
  cases outcome with
  | error e => rfl
  | ok grant => exact absurd h (code_ne_refusedCode grant.level)

/-! ## (3) Refused titles to give up -/

/-- A title that cannot be given up changes nothing. -/
theorem giveUp_of_isSome_error {index : Index} {entry : Entry} {raw : String}
    (h : (giveUp index entry raw).2.2.error?.isSome = true) :
    (giveUp index entry raw).1 = index ∧ (giveUp index entry raw).2.1 = entry := by
  rw [giveUp] at h ⊢
  cases hget : entry.get? raw with
  | none => exact ⟨rfl, rfl⟩
  | some key =>
    rw [hget] at h
    cases h

section GiveUp

variable {index : Index} {entry : Entry} {result : UnsubscribeResult}
  (hresult : (giveUpAll index entry raws).2.2[i]? = some result)
  (hfails : result.error?.isSome = true)
include hresult hfails

/-- **A refused title changes nothing**, neither the topics nor the entry. -/
theorem giveUpAll_take_succ :
    (giveUpAll index entry (raws.take (i + 1))).1 = (giveUpAll index entry (raws.take i)).1 ∧
      (giveUpAll index entry (raws.take (i + 1))).2.1 =
        (giveUpAll index entry (raws.take i)).2.1 := by
  induction raws generalizing index entry i with
  | nil => cases hresult
  | cons raw raws ih =>
    rw [giveUpAll_cons] at hresult
    cases i with
    | zero =>
      obtain rfl := Option.some.inj hresult
      exact giveUp_of_isSome_error hfails
    | succ i => exact ih hresult

/-- **Without a refused title** the batch leaves the same topics and the same entry. -/
theorem giveUpAll_eraseIdx :
    (giveUpAll index entry (raws.eraseIdx i)).1 = (giveUpAll index entry raws).1 ∧
      (giveUpAll index entry (raws.eraseIdx i)).2.1 = (giveUpAll index entry raws).2.1 := by
  induction raws generalizing index entry i with
  | nil => cases hresult
  | cons raw raws ih =>
    rw [giveUpAll_cons] at hresult
    cases i with
    | zero =>
      obtain rfl := Option.some.inj hresult
      obtain ⟨hindex, hentry⟩ := giveUp_of_isSome_error hfails
      rw [List.eraseIdx_cons_zero, giveUpAll_cons, hindex, hentry]
      exact ⟨rfl, rfl⟩
    | succ i => exact ih hresult

end GiveUp

/-- The registry after a client's entry, not yet empty, has given up raw titles. This holds without
titles too: the call is refused then, and nothing is given up. -/
theorem apply_unsubscribe_of_entry {entry : Entry} (hentry : r.clients[client]? = some entry)
    (hne : entry.isEmpty = false) (now : Time) (raws : List String) :
    (r.apply now (.unsubscribe client raws)).1 = { r with
      index := (giveUpAll r.index entry raws).1
      clients := r.clients.insert client (giveUpAll r.index entry raws).2.1 } := by
  cases raws with
  | nil =>
    refine ext_parts rfl (ExtTreeMap.ext_getElem? fun other => ?_) rfl
    rw [ExtTreeMap.getElem?_insert]
    by_cases hother : client = other
    · subst hother
      rw [if_pos Std.compare_self]
      exact hentry
    · rw [if_neg (by simpa using hother)]
      rfl
  | cons raw raws =>
    have hnext := (unsubscribe_eq_ok_iff r client (raw :: raws) _ _).mpr
      ⟨List.cons_ne_nil raw raws, entry, hentry, hne, rfl, rfl⟩
    rw [apply, hnext]

/-! ## (4) Requests -/

/-- **A request that is answered with an error** changes nothing. -/
theorem respond_fst_of_isError {settings : RegistrySettings} {request : Request}
    (h : (r.respond settings now request).2.isError = true) :
    (r.respond settings now request).1 = r := by
  cases request with
  | subscribe client titles level => cases h
  | unsubscribe client titles =>
    rw [respond] at h ⊢
    cases hnext : r.unsubscribe client titles with
    | error e => rfl
    | ok next =>
      rw [hnext] at h
      cases h
  | unsubscribeAll client => cases h
  | _ => rfl

/-- **A query** changes nothing. -/
theorem respond_fst_of_isQuery {request : Request} (h : request.isQuery = true)
    (settings : RegistrySettings) (now : Time) (r : Registry) :
    (r.respond settings now request).1 = r := by
  cases request with
  | subscribe _ _ _ | unsubscribe _ _ | unsubscribeAll _ => cases h
  | _ => rfl

/-- **A refused title of a request** changes nothing: with the titles before it, it leads where they
lead without it, and the whole batch leads to the same registry without it. -/
theorem respond_of_refusesAt {settings : RegistrySettings} {request : Request}
    (h : (r.respond settings now request).2.RefusesAt i) :
    (r.respond settings now (request.withTitles (·.take (i + 1)))).1 =
        (r.respond settings now (request.withTitles (·.take i))).1 ∧
      (r.respond settings now (request.withTitles (·.eraseIdx i))).1 =
        (r.respond settings now request).1 := by
  cases request with
  | subscribe client titles level =>
    obtain ⟨report, hreport, hcode⟩ := h
    rw [List.getElem?_map, Option.map_eq_some_iff] at hreport
    obtain ⟨result, hresult, rfl⟩ := hreport
    have hfails := isSuccess_of_code_of_eq hcode
    exact ⟨subscribe_take_succ hresult hfails, subscribe_eraseIdx hresult hfails⟩
  | unsubscribe client titles =>
    rw [respond] at h
    cases hnext : r.unsubscribe client titles with
    | error e =>
      rw [hnext] at h
      cases h
    | ok next =>
      rw [hnext] at h
      obtain ⟨report, hreport, herror⟩ := h
      rw [List.getElem?_map, Option.map_eq_some_iff] at hreport
      obtain ⟨result, hresult, rfl⟩ := hreport
      -- The batch has been accepted, so there is an entry to give the titles up from.
      obtain ⟨-, entry, hentry, hne, -, hresults⟩ :=
        (unsubscribe_eq_ok_iff r client titles next.1 next.2).mp hnext
      rw [hresults] at hresult
      have hfails : result.error?.isSome = true := by
        rwa [UnsubscribeReport.of, Option.isSome_map] at herror
      have htake := giveUpAll_take_succ hresult hfails
      have herase := giveUpAll_eraseIdx hresult hfails
      simp only [respond_fst, Request.withTitles, Request.toOperation,
        apply_unsubscribe_of_entry hentry hne, htake, herase, and_self]
  | _ => exact ⟨rfl, rfl⟩

/-! ## (5) Lines -/

/-- Whether a line **only asks**. -/
def isQueryLine (line : String) : Bool :=
  match Request.decode line with
  | .ok request => request.isQuery
  | .error _ => false

/-- Whether an answered line is **effective**: it is no query, and its reply is no error. -/
def isEffective (step : (Time × String) × Reply) : Bool :=
  !step.2.isError && !isQueryLine step.1.2

/-- The lines of a sequence with their replies. -/
def answered (settings : RegistrySettings) (r : Registry) (lines : List (Time × String)) :
    List ((Time × String) × Reply) :=
  lines.zip (r.respondLines settings lines).2

/-- The first line is answered by the registry, and the others by the one that it leaves. -/
theorem answered_cons (settings : RegistrySettings) (r : Registry) (now : Time) (line : String)
    (lines : List (Time × String)) :
    r.answered settings ((now, line) :: lines) =
      ((now, line), (r.respondLine settings now line).2) ::
        (r.respondLine settings now line).1.answered settings lines := rfl

/-- **A line that is answered with an error** changes nothing. -/
theorem respondLine_fst_of_isError {settings : RegistrySettings} {line : String}
    (h : (r.respondLine settings now line).2.isError = true) :
    (r.respondLine settings now line).1 = r := by
  rw [respondLine] at h ⊢
  cases hdecode : Request.decode line with
  | error fault => rfl
  | ok request =>
    rw [hdecode] at h
    exact respond_fst_of_isError h

/-- A line that is not effective changes nothing. -/
theorem respondLine_fst_of_not_isEffective {settings : RegistrySettings} {line : String}
    (h : isEffective ((now, line), (r.respondLine settings now line).2) = false) :
    (r.respondLine settings now line).1 = r := by
  by_cases herror : (r.respondLine settings now line).2.isError = true
  · exact respondLine_fst_of_isError herror
  · have hquery : isQueryLine line = true := by simpa [isEffective, herror] using h
    rw [isQueryLine] at hquery
    cases hdecode : Request.decode line with
    | error fault =>
      rw [hdecode] at hquery
      cases hquery
    | ok request =>
      rw [hdecode] at hquery
      rw [respondLine_of_decode hdecode, respond_fst_of_isQuery hquery]

/-- **The effective lines alone** lead to the same registry and get the same replies. -/
theorem respondLines_isEffective (settings : RegistrySettings) (r : Registry)
    (lines : List (Time × String)) :
    r.respondLines settings (((r.answered settings lines).filter isEffective).map (·.1)) =
      ((r.respondLines settings lines).1,
        ((r.answered settings lines).filter isEffective).map (·.2)) := by
  induction lines generalizing r with
  | nil => rfl
  | cons timed lines ih =>
    obtain ⟨now, line⟩ := timed
    rw [answered_cons, respondLines_cons]
    cases heffective : isEffective ((now, line), (r.respondLine settings now line).2) with
    | true =>
      rw [List.filter_cons_of_pos heffective, List.map_cons, List.map_cons, respondLines_cons, ih]
    | false =>
      rw [List.filter_cons_of_neg (by rw [heffective]; exact Bool.false_ne_true),
        respondLine_fst_of_not_isEffective heffective, ih]

/-- **Errors leave no mark** on a registry. -/
structure ErrorsLeaveNoMark (r : Registry) (settings : RegistrySettings) : Prop where
  /-- A line that is answered with an error leaves the registry as it is. -/
  line : ∀ now line, (r.respondLine settings now line).2.isError = true →
    (r.respondLine settings now line).1 = r
  /-- A refused title leaves the registry as the titles before it have made it. -/
  title : ∀ now request i, (r.respond settings now request).2.RefusesAt i →
    (r.respond settings now (request.withTitles (·.take (i + 1)))).1 =
      (r.respond settings now (request.withTitles (·.take i))).1
  /-- The batch leads to the same registry without a refused title. -/
  batch : ∀ now request i, (r.respond settings now request).2.RefusesAt i →
    (r.respond settings now (request.withTitles (·.eraseIdx i))).1 =
      (r.respond settings now request).1
  /-- A client none of whose titles is subscribed changes nothing, and so gets no entry. -/
  client : ∀ now client titles level reports,
    (r.respond settings now (.subscribe client titles level)).2 = .subscribed client reports →
    (∀ report ∈ reports, report.code = 128) →
      (r.respond settings now (.subscribe client titles level)).1 = r
  /-- In any sequence of lines, those left without the queries and the lines that are answered with
  an error lead to the same registry and get the same replies. -/
  lines : ∀ lines : List (Time × String),
    r.respondLines settings (((r.answered settings lines).filter isEffective).map (·.1)) =
      ((r.respondLines settings lines).1,
        ((r.answered settings lines).filter isEffective).map (·.2))

/-- **Errors leave no mark**, on any registry and under any settings. -/
theorem errorsLeaveNoMark (r : Registry) (settings : RegistrySettings) :
    r.ErrorsLeaveNoMark settings where
  line _ _ := respondLine_fst_of_isError
  title _ _ _ h := (respond_of_refusesAt h).1
  batch _ _ _ h := (respond_of_refusesAt h).2
  client now client titles level reports hreply hrefused := by
    refine subscribe_of_all_fail fun result hresult => isSuccess_of_code_of_eq ?_
    obtain rfl := (Reply.subscribed.inj hreply).2
    exact hrefused _ (List.mem_map_of_mem hresult)
  lines := respondLines_isEffective settings r

/-- The second text of a batch is no title: the batch may end before it, or leave it out. -/
theorem errorsLeaveNoMark_batch :
    let r := (empty.run [(5, .subscribe 7 ["a"] .qos1)]).1
    let request : Request := .subscribe 7 ["a/b", "b#c", "+/d"] none
    (r.respond .default 6 request).2.RefusesAt 1 ∧
      (r.respond .default 6 (request.withTitles (·.take 2))).1 =
        (r.respond .default 6 (request.withTitles (·.take 1))).1 ∧
      (r.respond .default 6 (request.withTitles (·.eraseIdx 1))).1 =
        (r.respond .default 6 request).1 := by
  intro r request
  have hrefused : (r.respond .default 6 request).2.RefusesAt 1 := ⟨_, rfl, by rfl⟩
  have hmark := errorsLeaveNoMark r .default
  exact ⟨hrefused, hmark.title 6 request 1 hrefused, hmark.batch 6 request 1 hrefused⟩

end Registry

end PubSub
