/-
**When computations that may fail succeed.**

A sequence of computations succeeds exactly when each of them does, so a result is taken apart step by
step.
-/

namespace PipelineGraph

variable {ε ε' α β : Type}

/-- One thing after another succeeds when the first does and then the other. -/
theorem bind_eq_ok_iff {first : Except ε α} {next : α → Except ε β} {value : β} :
    (first >>= next) = .ok value ↔ ∃ middle, first = .ok middle ∧ next middle = .ok value := by
  cases first <;> simp [bind, Except.bind]

/-- What is made of a result is there when the result is. -/
theorem map_eq_ok_iff {result : Except ε α} {make : α → β} {value : β} :
    result.map make = .ok value ↔ ∃ found, result = .ok found ∧ make found = value := by
  cases result <;> simp [Except.map]

theorem mapError_eq_ok_iff {result : Except ε α} {wrap : ε → ε'} {value : α} :
    result.mapError wrap = .ok value ↔ result = .ok value := by
  cases result with
  | error cause => exact iff_of_false nofun nofun
  | ok found =>
    show Except.ok found = .ok value ↔ _
    rw [Except.ok.injEq, Except.ok.injEq]

end PipelineGraph
