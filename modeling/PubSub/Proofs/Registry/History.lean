import PubSub.Proofs.Registry.Effects

/-! # What clients hold, told by the history

What a client holds is kept in its entry. It can also be read off the calls and their answers alone.

* **`Step`** — an operation together with its answer, and **`Registry.transcript r ops`** — the
  steps of a history.
* **`Step.Subscribes`**, **`Step.GivesUp`** — the steps at which a client gets a raw title, and
  those at which it loses it.
* **`LastsIn sets ends steps`** — something is set at a step and ended at none that comes later.
* **`Holds steps client raw`** — the client has subscribed the raw title and not given it up since.
* **`Registry.run_iff_lastsIn`** — a history leaves what was set at last in it, for anything that
  steps set and end.
* **`Registry.isSome_held_run_empty`** — this is what the entries say after a history. -/

namespace PubSub

/-! ## (1) Steps -/

/-- A **step** of a history: an operation and its answer. -/
abbrev Step := Operation × Answer

namespace Step

/-- The step **subscribes** the client to the raw title, successfully. -/
def Subscribes (client : ClientId) (raw : String) (step : Step) : Prop :=
  ∃ titles level results asked,
    step = (.subscribe client titles level, .subscribed results asked) ∧
      ∃ result ∈ results, result.raw = raw ∧ result.isSuccess = true

/-- The step makes the client **give up** the raw title: it unsubscribes from everything, or from
titles among which it is, in a call that does not fail as a whole. -/
def GivesUp (client : ClientId) (raw : String) (step : Step) : Prop :=
  (∃ answer, step = (.unsubscribeAll client, answer)) ∨
    ∃ titles results, step = (.unsubscribe client titles, .unsubscribed results) ∧ raw ∈ titles

/-- A batch subscribes to the titles with a result that succeeds. -/
theorem subscribes_subscribe_iff (client other : ClientId) (raw : String) (titles : List String)
    (level : Level) (results : List SubscribeResult) (asked : List (String × ClientId)) :
    Subscribes client raw (.subscribe other titles level, .subscribed results asked) ↔
      other = client ∧ ∃ result ∈ results, result.raw = raw ∧ result.isSuccess = true := by
  simp only [Subscribes, Prod.mk.injEq, Operation.subscribe.injEq, Answer.subscribed.injEq]
  constructor
  · rintro ⟨_, _, _, _, ⟨⟨rfl, -, -⟩, rfl, -⟩, hresult⟩
    exact ⟨rfl, hresult⟩
  · rintro ⟨rfl, hresult⟩
    exact ⟨titles, level, results, asked, ⟨⟨rfl, rfl, rfl⟩, rfl, rfl⟩, hresult⟩

/-- A call for some titles gives up these. -/
theorem givesUp_unsubscribe_iff (client other : ClientId) (raw : String) (titles : List String)
    (results : List Registry.UnsubscribeResult) :
    GivesUp client raw (.unsubscribe other titles, .unsubscribed results) ↔
      other = client ∧ raw ∈ titles := by
  simp only [GivesUp, Prod.mk.injEq, reduceCtorEq, false_and, exists_false, false_or,
    Operation.unsubscribe.injEq, Answer.unsubscribed.injEq]
  constructor
  · rintro ⟨_, _, ⟨⟨rfl, rfl⟩, -⟩, hmem⟩
    exact ⟨rfl, hmem⟩
  · rintro ⟨rfl, hmem⟩
    exact ⟨titles, results, ⟨⟨rfl, rfl⟩, rfl⟩, hmem⟩

end Step

/-- Something is set **at last** in the steps: one of them sets it, and none that comes later ends
it. -/
def LastsIn (sets ends : Step → Prop) (steps : List Step) : Prop :=
  ∃ before step after, steps = before ++ step :: after ∧ sets step ∧ ∀ later ∈ after, ¬ends later

/-- Nothing lasts in a run without steps. -/
theorem not_lastsIn_nil (sets ends : Step → Prop) : ¬LastsIn sets ends [] := by
  rintro ⟨before, step, after, heq, -⟩
  simp at heq

/-- The first step counts if nothing is ended afterwards. -/
theorem lastsIn_cons_iff {sets ends : Step → Prop} (step : Step) (steps : List Step) :
    LastsIn sets ends (step :: steps) ↔
      LastsIn sets ends steps ∨ sets step ∧ ∀ later ∈ steps, ¬ends later := by
  constructor
  · rintro ⟨before, chosen, after, heq, hsets, hkeep⟩
    cases before with
    | nil =>
      obtain ⟨rfl, rfl⟩ := List.cons.inj heq
      exact Or.inr ⟨hsets, hkeep⟩
    | cons first before =>
      obtain ⟨-, rfl⟩ := List.cons.inj heq
      exact Or.inl ⟨before, chosen, after, rfl, hsets, hkeep⟩
  · rintro (⟨before, chosen, after, rfl, hsets, hkeep⟩ | ⟨hsets, hkeep⟩)
    · exact ⟨step :: before, chosen, after, rfl, hsets, hkeep⟩
    · exact ⟨[], step, steps, rfl, hsets, hkeep⟩

/-- The client **holds** the raw title after the steps: it has subscribed it at one of them, and has
given it up at none that came later. -/
def Holds (steps : List Step) (client : ClientId) (raw : String) : Prop :=
  ∃ before step after, steps = before ++ step :: after ∧ step.Subscribes client raw ∧
    ∀ later ∈ after, ¬later.GivesUp client raw

namespace Registry

/-- The **transcript** of a history: its operations, each with its answer. -/
def transcript (r : Registry) (ops : List (Time × Operation)) : List Step :=
  (ops.map (·.2)).zip (r.run ops).2

@[simp] theorem transcript_nil (r : Registry) : r.transcript [] = [] := rfl

/-- The first step is told with its answer, and the others from the registry that it leaves. -/
@[simp] theorem transcript_cons (r : Registry) (now : Time) (op : Operation)
    (ops : List (Time × Operation)) :
    r.transcript ((now, op) :: ops) =
      (op, (r.apply now op).2) :: (r.apply now op).1.transcript ops := rfl

/-! ## (2) What a step does to what is held -/

/-- **One step**: what is held afterwards was subscribed at the step, or was held before and not
given up. -/
theorem isSome_held_apply (r : Registry) (now : Time) (op : Operation) (client : ClientId)
    (raw : String) :
    ((r.apply now op).1.held client raw).isSome = true ↔
      Step.Subscribes client raw (op, (r.apply now op).2) ∨
        (r.held client raw).isSome = true ∧ ¬Step.GivesUp client raw (op, (r.apply now op).2) := by
  cases op with
  | subscribe other titles level =>
    rw [apply, isSome_held_subscribe, Step.subscribes_subscribe_iff, or_comm]
    -- nothing is given up, and the titles with a grant are those that the answer tells
    simp [Step.GivesUp]
  | unsubscribe other titles =>
    cases hnext : r.unsubscribe other titles with
    | error e => simp [apply, hnext, Step.Subscribes, Step.GivesUp]
    | ok next =>
      obtain ⟨next, results⟩ := next
      simp only [apply, hnext, held_unsubscribe hnext, Step.givesUp_unsubscribe_iff]
      have hnot :
          ¬Step.Subscribes client raw (.unsubscribe other titles, .unsubscribed results) := by
        simp [Step.Subscribes]
      by_cases hcond : other = client ∧ raw ∈ titles
      · rw [if_pos hcond]
        refine iff_of_false Bool.false_ne_true ?_
        rintro (hsub | ⟨-, hkeep⟩)
        · exact hnot hsub
        · exact hkeep hcond
      · rw [if_neg hcond, or_iff_right hnot, and_iff_left hcond]
  | unsubscribeAll other =>
    simp only [apply, held_unsubscribeAll, Step.Subscribes, Step.GivesUp]
    by_cases hclient : other = client
    · simp [hclient]
    · simp [hclient]
  | resolve title checkExists => simp [apply, Step.Subscribes, Step.GivesUp]
  | topics kind page => simp [apply, Step.Subscribes, Step.GivesUp]
  | subscribers title page => simp [apply, Step.Subscribes, Step.GivesUp]
  | subscriptions other page => simp [apply, Step.Subscribes, Step.GivesUp]
  | setPolicy policy =>
    have hheld : (r.setPolicy policy).held client raw = r.held client raw := by
      cases policy <;> rfl
    simp [apply, hheld, Step.Subscribes, Step.GivesUp]

/-! ## (3) What a history does to what is held -/

/-- **A history** leaves what was set at last in it, or what was there before and has not been
ended, if each step leaves what it sets, or what was there before and is not ended by it. -/
theorem run_iff_lastsIn (holds : Registry → Prop) {sets ends : Step → Prop}
    (hstep : ∀ r now op, holds (r.apply now op).1 ↔
      sets (op, (r.apply now op).2) ∨ holds r ∧ ¬ends (op, (r.apply now op).2))
    (r : Registry) (ops : List (Time × Operation)) :
    holds (r.run ops).1 ↔
      LastsIn sets ends (r.transcript ops) ∨
        holds r ∧ ∀ step ∈ r.transcript ops, ¬ends step := by
  induction ops generalizing r with
  | nil => simp [not_lastsIn_nil]
  | cons op ops ih =>
    obtain ⟨now, op⟩ := op
    -- what the first step leaves behind stays to the end if no later step ends it
    rw [run_cons, transcript_cons, ih, hstep, lastsIn_cons_iff, List.forall_mem_cons, or_and_right,
      and_assoc, or_assoc]

/-- **From the empty registry on**, a history leaves what was set at last in it. -/
theorem run_empty_iff_lastsIn (holds : Registry → Prop) {sets ends : Step → Prop}
    (hstep : ∀ r now op, holds (r.apply now op).1 ↔
      sets (op, (r.apply now op).2) ∨ holds r ∧ ¬ends (op, (r.apply now op).2))
    (hempty : ¬holds empty) (ops : List (Time × Operation)) :
    holds (empty.run ops).1 ↔ LastsIn sets ends (empty.transcript ops) := by
  rw [run_iff_lastsIn holds hstep, or_iff_left fun h => hempty h.1]

/-- **From the empty registry on**, the entries hold what the history says. -/
theorem isSome_held_run_empty (ops : List (Time × Operation)) (client : ClientId) (raw : String) :
    ((empty.run ops).1.held client raw).isSome = true ↔
      Holds (empty.transcript ops) client raw := by
  refine run_empty_iff_lastsIn (fun r => (r.held client raw).isSome = true)
    (fun r now op => isSome_held_apply r now op client raw) ?_ ops
  simp

end Registry

end PubSub
