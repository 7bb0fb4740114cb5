/-! # Delivery levels

* **`Level`** — the three tiers of delivery, ordered, each with its return code.
* **`Level.ofCode?`** — reading a code, inverse to `Level.code` (`ofCode?_eq_some_iff`).
* **`Level.ofCode`** — the same with the lowest level for every unknown code.
* **`refusedCode`** — the return code of a title that was not subscribed; no level has it. -/

namespace PubSub

/-- A **delivery level**. -/
inductive Level
  | qos0
  | qos1
  | qos2
  deriving DecidableEq, Repr, Inhabited

namespace Level

/-- The return code of a level. -/
def code : Level → UInt8
  | qos0 => 0
  | qos1 => 1
  | qos2 => 2

/-- The level with the given code, if there is one. -/
def ofCode? (code : UInt8) : Option Level :=
  if code = 0 then some qos0
  else if code = 1 then some qos1
  else if code = 2 then some qos2
  else none

/-- The level with the given code; an unknown code asks for the lowest level. -/
def ofCode (code : UInt8) : Level := (ofCode? code).getD qos0

/-- The name of a level. -/
def name : Level → String
  | qos0 => "Qos0"
  | qos1 => "Qos1"
  | qos2 => "Qos2"

/-- Every level is told by its code. -/
@[simp] theorem ofCode?_code (l : Level) : ofCode? l.code = some l := by cases l <;> rfl

/-- The code of a level is taken for this level. -/
@[simp] theorem ofCode_code (l : Level) : ofCode l.code = l := by simp [ofCode]

/-- Codes and levels correspond. -/
theorem ofCode?_eq_some_iff {code : UInt8} {l : Level} : ofCode? code = some l ↔ l.code = code := by
  constructor
  · intro h
    rw [ofCode?] at h
    by_cases hzero : code = 0
    · rw [if_pos hzero] at h
      cases h
      exact hzero.symm
    rw [if_neg hzero] at h
    by_cases hone : code = 1
    · rw [if_pos hone] at h
      cases h
      exact hone.symm
    rw [if_neg hone] at h
    by_cases htwo : code = 2
    · rw [if_pos htwo] at h
      cases h
      exact htwo.symm
    · rw [if_neg htwo] at h
      cases h
  · rintro rfl
    exact ofCode?_code l

/-- Levels are ordered by their codes. -/
def exceeds (l m : Level) : Bool := m.code < l.code

end Level

/-- The return code of a title that could not be subscribed. -/
def refusedCode : UInt8 := 0x80

/-- No level has the code of a refusal. -/
theorem code_ne_refusedCode (l : Level) : l.code ≠ refusedCode := by cases l <;> decide

end PubSub
