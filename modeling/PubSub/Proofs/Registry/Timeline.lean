import PubSub.Proofs.Registry.History
import PubSub.Proofs.Registry.Invariant

/-! # Points of a history

A history that begins with the empty registry passes through a state before and after each of its
steps. Statements about *when* something happened speak of these states by their position.

* **`Registry.stateAt history n`** — the registry after the first `n` steps; beyond the end it stays
  what it is at the end.
* **`Registry.stateAt_succ`** — one step leads from a state to the next.
* **`Registry.getElem?_transcript`** — the transcript tells of each step what the registry answered
  in the state before it. -/

namespace PubSub.Registry

variable {history : List (Time × Operation)} {n : Nat} {now : Time} {op : Operation}

/-- The registry **at a point** of a history: after its first `n` steps. -/
def stateAt (history : List (Time × Operation)) (n : Nat) : Registry :=
  (empty.run (history.take n)).1

@[simp] theorem stateAt_zero (history : List (Time × Operation)) : stateAt history 0 = empty := rfl

/-- Beyond the end of a history nothing happens any more. -/
theorem stateAt_of_length_le (h : history.length ≤ n) :
    stateAt history n = (empty.run history).1 := by
  rw [stateAt, List.take_of_length_le h]

/-- After all steps the state is the one that the history leads to. -/
@[simp] theorem stateAt_length (history : List (Time × Operation)) :
    stateAt history history.length = (empty.run history).1 :=
  stateAt_of_length_le (Nat.le_refl _)

/-- **A step** leads from the state before it to the state after it. -/
theorem stateAt_succ (h : history[n]? = some (now, op)) :
    stateAt history (n + 1) = ((stateAt history n).apply now op).1 := by
  rw [stateAt, stateAt, List.take_add_one, h, run_append]
  rfl

/-- Where there is no step, the next state is the same. -/
theorem stateAt_succ_of_none (h : history[n]? = none) :
    stateAt history (n + 1) = stateAt history n := by
  have hlength : history.length ≤ n := List.getElem?_eq_none_iff.mp h
  rw [stateAt_of_length_le hlength, stateAt_of_length_le (Nat.le_succ_of_le hlength)]

/-- Every state of a history is well-formed. -/
theorem wellFormed_stateAt (history : List (Time × Operation)) (n : Nat) :
    (stateAt history n).WellFormed :=
  wellFormed_empty.run _

/-- The answers in the transcript of a history that begins with any registry. -/
theorem getElem?_transcript_run (r : Registry) (h : history[n]? = some (now, op)) :
    (r.transcript history)[n]? = some (op, ((r.run (history.take n)).1.apply now op).2) := by
  induction history generalizing r n with
  | nil => cases h
  | cons step history ih =>
    obtain ⟨time, first⟩ := step
    cases n with
    | zero =>
      rw [List.getElem?_cons_zero, Option.some.injEq, Prod.mk.injEq] at h
      obtain ⟨rfl, rfl⟩ := h
      rfl
    | succ n =>
      rw [List.getElem?_cons_succ] at h
      rw [transcript_cons, List.getElem?_cons_succ, List.take_succ_cons, run_cons, ih _ h]

/-- **The transcript** tells of each step what was answered in the state before it. -/
theorem getElem?_transcript (h : history[n]? = some (now, op)) :
    (empty.transcript history)[n]? = some (op, ((stateAt history n).apply now op).2) :=
  getElem?_transcript_run empty h

/-- What the transcript tells of is a step of the history. -/
theorem exists_of_getElem?_transcript {answer : Answer}
    (h : (empty.transcript history)[n]? = some (op, answer)) :
    ∃ now, history[n]? = some (now, op) ∧ answer = ((stateAt history n).apply now op).2 := by
  cases hstep : history[n]? with
  | none =>
    -- there are as many steps in the transcript as in the history, or fewer
    have hlength : history.length ≤ n := List.getElem?_eq_none_iff.mp hstep
    have hshort : (empty.transcript history).length ≤ history.length := by
      rw [transcript, List.length_zip, List.length_map]
      exact Nat.min_le_left _ _
    rw [List.getElem?_eq_none_iff.mpr (Nat.le_trans hshort hlength)] at h
    cases h
  | some step =>
    obtain ⟨now, op'⟩ := step
    rw [getElem?_transcript hstep, Option.some.injEq, Prod.mk.injEq] at h
    obtain ⟨rfl, rfl⟩ := h
    exact ⟨now, rfl, rfl⟩

end PubSub.Registry
