import PubSub.Proofs.Registry.Effects
import PubSub.Protocol.Session

/-! # The exchanges of a session

A session answers its lines one after the other, so what every answered line keeps holds throughout.

* **`Registry.respondLine_eq_or`** — a line changes nothing, or does what an operation does that
  installs no policy.
* **`Exchange.IsCarriedOut`** — the exchange is the answer to its line, from the registry before it.
* **`serveLines_induction`**, **`serve_induction`** — a property that every answered line keeps, at
  the times that the clock tells, holds before and after every exchange and at the end of the
  session, whatever ends it. -/

namespace PubSub

/-! ## (1) One line -/

/-- No request installs a policy. -/
theorem Request.toOperation_ne_setPolicy (settings : RegistrySettings) (request : Request)
    (policy : Option Policy) : request.toOperation settings ≠ .setPolicy policy := by
  cases request <;> exact fun h => nomatch h

namespace Registry

/-- **A line** that is a request does what its operation does, and any other line changes
nothing. -/
theorem respondLine_eq_or (settings : RegistrySettings) (now : Time) (r : Registry)
    (line : String) :
    (r.respondLine settings now line).1 = r ∨
      ∃ op, (∀ policy, op ≠ .setPolicy policy) ∧
        (r.respondLine settings now line).1 = (r.apply now op).1 := by
  rw [respondLine]
  cases Request.decode line with
  | error fault => exact Or.inl rfl
  | ok request =>
    exact Or.inr ⟨request.toOperation settings, request.toOperation_ne_setPolicy settings,
      respond_fst settings now r request⟩

/-- A line that is a request is answered as the request. -/
theorem respondLine_of_decode {line : String} {request : Request}
    (h : Request.decode line = .ok request) (settings : RegistrySettings) (now : Time)
    (r : Registry) : r.respondLine settings now line = r.respond settings now request := by
  rw [respondLine, h]

end Registry

/-! ## (2) All lines -/

/-- The exchange is the answer to its line at some time. -/
def Exchange.IsCarriedOut (e : Exchange) (settings : RegistrySettings) : Prop :=
  ∃ now, e.before.respondLine settings now e.line = (e.after, e.reply)

section Induction

variable {settings : RegistrySettings} {clock : Nat → Time} {P : Registry → Prop}
  (hstep : ∀ r n line, P r → P (r.respondLine settings (clock n) line).1)
include hstep

/-- **A session keeps what every answered line keeps.** -/
theorem serveLines_induction (capacity : Option Nat) {r : Registry} (h : P r)
    (index : Nat) (lines : List (List UInt8)) :
    P (serveLines settings clock capacity r index lines).registry ∧
      ∀ e ∈ (serveLines settings clock capacity r index lines).exchanges,
        P e.before ∧ P e.after ∧ e.IsCarriedOut settings := by
  induction lines generalizing capacity r index with
  | nil =>
    rw [serveLines]
    exact ⟨h, List.forall_mem_nil _⟩
  | cons bytes lines ih =>
    rw [serveLines]
    cases decodeLine bytes with
    | none => exact ⟨h, List.forall_mem_nil _⟩
    | some line =>
      dsimp only
      by_cases hblank : isBlankLine line = true
      · rw [if_pos hblank]
        exact ih capacity h (index + 1)
      · rw [if_neg hblank]
        have hafter := hstep r index line h
        by_cases hfull : capacity = some 0
        · -- the reply cannot be written, but the line has been answered
          rw [if_pos hfull]
          exact ⟨hafter, List.forall_mem_nil _⟩
        · rw [if_neg hfull]
          obtain ⟨hlast, hrest⟩ := ih (capacity.map (· - 1)) hafter (index + 1)
          exact ⟨hlast, List.forall_mem_cons.mpr ⟨⟨h, hafter, clock index, rfl⟩, hrest⟩⟩

/-- The same for a whole input. -/
theorem serve_induction (capacity : Option Nat) {r : Registry} (h : P r)
    (input : List UInt8) :
    P (serve settings clock capacity r input).registry ∧
      ∀ e ∈ (serve settings clock capacity r input).exchanges,
        P e.before ∧ P e.after ∧ e.IsCarriedOut settings :=
  serveLines_induction hstep capacity h 0 (splitLines input)

end Induction

end PubSub
