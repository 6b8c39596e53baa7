import PromptTemplate.Interpolation.Substitute
import PromptTemplate.Proofs.Outcome
/-!
# PromptTemplate — when texts can be filled

A text can be filled exactly if it has segments and every reference in it
leads to a value that can be rendered (`exists_substituteWith_iff`). In
prompt text every value can; in a condition `conditionLiteral` decides,
which refuses objects and controls without a short escape.
-/

namespace PromptTemplate

namespace Interpolation

variable {render : String → Value → Except Unresolved String} {vars : Table Value}

@[simp] theorem paths_literal (text : String) (rest : List Segment) :
    Segment.paths (.literal text :: rest) = Segment.paths rest := rfl

@[simp] theorem paths_reference (path : String) (rest : List Segment) :
    Segment.paths (.reference path :: rest) = path :: Segment.paths rest := rfl

theorem fill_literal {text t : String} {rest : List Segment} :
    fill render vars (.literal text :: rest) = .ok t ↔
      ∃ after, fill render vars rest = .ok after ∧ t = text ++ after := by
  rw [fill, Outcome.bind_eq_ok]
  constructor
  · rintro ⟨after, hafter, h⟩
    cases h
    exact ⟨after, hafter, rfl⟩
  · rintro ⟨after, hafter, rfl⟩
    exact ⟨after, hafter, rfl⟩

theorem fill_reference {path t : String} {rest : List Segment} :
    fill render vars (.reference path :: rest) = .ok t ↔
      ∃ v text after, lookUp vars path = .ok v ∧ render path v = .ok text ∧
        fill render vars rest = .ok after ∧ t = text ++ after := by
  rw [fill, Outcome.bind_eq_ok]
  constructor
  · rintro ⟨v, hv, h⟩
    obtain ⟨text, htext, h⟩ := Outcome.bind_eq_ok.1 h
    obtain ⟨after, hafter, h⟩ := Outcome.bind_eq_ok.1 h
    cases h
    exact ⟨v, text, after, hv, htext, hafter, rfl⟩
  · rintro ⟨v, text, after, hv, htext, hafter, rfl⟩
    exact ⟨v, hv, Outcome.bind_eq_ok.2 ⟨text, htext, Outcome.bind_eq_ok.2 ⟨after, hafter, rfl⟩⟩⟩

/-- Segments can be filled exactly if every reference leads to a value that
can be rendered. -/
theorem exists_fill_iff {ss : List Segment} :
    (∃ t, fill render vars ss = .ok t) ↔
      ∀ path ∈ Segment.paths ss, ∃ v text, lookUp vars path = .ok v ∧ render path v = .ok text := by
  induction ss with
  | nil => simp [fill, Segment.paths]
  | cons segment rest ih =>
    cases segment with
    | literal text =>
      rw [paths_literal, ← ih]
      constructor
      · rintro ⟨t, ht⟩
        obtain ⟨after, hafter, -⟩ := fill_literal.1 ht
        exact ⟨after, hafter⟩
      · rintro ⟨after, hafter⟩
        exact ⟨_, fill_literal.2 ⟨after, hafter, rfl⟩⟩
    | reference path =>
      rw [paths_reference, List.forall_mem_cons, ← ih]
      constructor
      · rintro ⟨t, ht⟩
        obtain ⟨v, text, after, hv, htext, hafter, -⟩ := fill_reference.1 ht
        exact ⟨⟨v, text, hv, htext⟩, after, hafter⟩
      · rintro ⟨⟨v, text, hv, htext⟩, after, hafter⟩
        exact ⟨_, fill_reference.2 ⟨v, text, after, hv, htext, hafter, rfl⟩⟩

theorem substituteWith_eq_ok {text t : String} :
    substituteWith render vars text = .ok t ↔
      ∃ ss, segments text = .ok ss ∧ fill render vars ss = .ok t := by
  unfold substituteWith
  cases segments text <;> simp

/-- **A text can be filled** exactly if it has segments whose references
lead to values that can be rendered. -/
theorem exists_substituteWith_iff {text : String} :
    (∃ t, substituteWith render vars text = .ok t) ↔
      ∃ ss, segments text = .ok ss ∧ ∀ path ∈ Segment.paths ss,
        ∃ v rendered, lookUp vars path = .ok v ∧ render path v = .ok rendered := by
  constructor
  · rintro ⟨t, ht⟩
    obtain ⟨ss, hss, hfill⟩ := substituteWith_eq_ok.1 ht
    exact ⟨ss, hss, exists_fill_iff.1 ⟨t, hfill⟩⟩
  · rintro ⟨ss, hss, hpaths⟩
    obtain ⟨t, ht⟩ := exists_fill_iff.2 hpaths
    exact ⟨t, substituteWith_eq_ok.2 ⟨ss, hss, ht⟩⟩

/-- A value has a literal: there is no object in it, and no control that
JSON can write only by its code. -/
def HasLiteral (v : Value) : Prop := holdsObject v = false ∧ findCoded? v = none

theorem conditionLiteral_eq_ok {path text : String} {v : Value} :
    conditionLiteral path v = .ok text ↔ HasLiteral v ∧ text = Json.compact v := by
  unfold conditionLiteral literal HasLiteral
  by_cases hobject : holdsObject v = true
  · simp [hobject]
  · cases hcoded : findCoded? v with
    | none => simp [hobject, eq_comm]
    | some c => simp [hobject]

end Interpolation

end PromptTemplate
