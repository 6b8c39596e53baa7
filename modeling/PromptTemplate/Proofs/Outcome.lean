import PromptTemplate.Outcome
/-!
# PromptTemplate — when chains of steps succeed or fail

What the outcome says about the forms in which stages are put together
besides `map` and `bind`: where a chain fails, what a step for every item
of a list comes to, and a guard in front of a stage.
-/

namespace PromptTemplate

namespace Outcome

variable {ε α β : Type}

/-- A chain of two steps fails exactly when one of them does, the second
one behind a success of the first. -/
theorem bind_eq_error {x : Except ε α} {f : α → Except ε β} {e : ε} :
    x >>= f = .error e ↔ x = .error e ∨ ∃ a, x = .ok a ∧ f a = .error e := by
  cases x <;> simp [bind, Except.bind]

/-- A result whose failure is reworded succeeds exactly when it did. -/
theorem mapError_eq_ok {ε' : Type} {f : ε → ε'} {x : Except ε α} {a : α} :
    x.mapError f = .ok a ↔ x = .ok a := by
  cases x with
  | ok b =>
    constructor
    · rintro ⟨⟩
      rfl
    · rintro ⟨⟩
      rfl
  | error e =>
    constructor
    · rintro ⟨⟩
    · rintro ⟨⟩

/-- What is left of a success is its result. -/
theorem toOption_eq_some {x : Except ε α} {a : α} : x.toOption = some a ↔ x = .ok a := by
  cases x <;> simp [Except.toOption]

/-- What is left of a chain of two steps is a chain of what is left of
them. -/
theorem toOption_bind {x : Except ε α} {f : α → Except ε β} :
    (x >>= f).toOption = x.toOption.bind fun a => (f a).toOption := by
  cases x <;> rfl

/-- A step for every item succeeds exactly when each of them does. -/
theorem forM_eq_ok {f : α → Except ε Unit} {as : List α} :
    as.forM f = .ok () ↔ ∀ a ∈ as, f a = .ok () := by
  induction as with
  | nil => simp [List.forM, pure, Except.pure]
  | cons a as ih =>
    change (f a >>= fun _ => as.forM f) = .ok () ↔ _
    rw [bind_eq_ok]
    constructor
    · rintro ⟨⟨⟩, ha, has⟩
      simpa [ha] using ih.1 has
    · intro h
      exact ⟨(), h a (by simp), ih.2 fun b hb => h b (by simp [hb])⟩

/-- Two steps without a result succeed exactly when both do. -/
theorem andThen_eq_ok {x : Except ε Unit} {y : Except ε α} {a : α} :
    (do x; y) = .ok a ↔ x = .ok () ∧ y = .ok a := by
  cases x <;> simp [bind, Except.bind]

/-- A stage behind a guard succeeds exactly when the guard lets through and
the stage succeeds. -/
theorem guarded_eq_ok {c : Prop} [Decidable c] {e : ε} {x : Except ε α} {a : α} :
    (if c then .error e else x) = .ok a ↔ ¬ c ∧ x = .ok a := by
  split <;> simp [*]

end Outcome

end PromptTemplate
