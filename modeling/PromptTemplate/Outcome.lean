/-!
# PromptTemplate — results that may be failures

A step that can fail has a result in `Except`. These are the facts about
chains of such steps that every stage uses: a chain succeeds exactly when
each of its steps does.
-/

namespace PromptTemplate

namespace Outcome

variable {ε α β : Type}

/-- A mapped result succeeds exactly when the result does. -/
theorem map_eq_ok {f : α → β} {x : Except ε α} {b : β} :
    x.map f = .ok b ↔ ∃ a, x = .ok a ∧ f a = b := by
  cases x <;> simp [Except.map]

/-- A chain of two steps succeeds exactly when both do. -/
theorem bind_eq_ok {x : Except ε α} {f : α → Except ε β} {b : β} :
    x >>= f = .ok b ↔ ∃ a, x = .ok a ∧ f a = .ok b := by
  cases x <;> simp [bind, Except.bind]

end Outcome

end PromptTemplate
