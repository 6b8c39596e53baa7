import PromptTemplate.Proofs.Condition.Literal
import PromptTemplate.Proofs.Interpolation.Fill
/-!
# PromptTemplate — literals mean their values

In a condition a value stands as its JSON text. It has one exactly if no
object is in it and no string that holds a control without a short escape
(`exists_conditionLiteral_iff`), and then the text is a condition again
that has just this value, whatever the variables say, as long as its
arrays nest no deeper than conditions may: `conditionLiteral_reads_back`.
-/

namespace PromptTemplate

namespace Interpolation

open Condition

/-- A value is an object, or an array with one at any depth. -/
inductive ContainsObject : Value → Prop
  | object (fields : Table Value) : ContainsObject (.object fields)
  | item {items : List Value} {v : Value} : v ∈ items → ContainsObject v →
      ContainsObject (.array items)

theorem anyHoldsObject_eq_true {items : List Value} :
    anyHoldsObject items = true ↔ ∃ v ∈ items, holdsObject v = true := by
  induction items with
  | nil => simp [anyHoldsObject]
  | cons v vs ih => simp [anyHoldsObject, ih]

theorem holdsObject_eq_true {v : Value} : holdsObject v = true ↔ ContainsObject v := by
  induction v using Value.induction with
  | null | bool | number | string =>
    constructor
    · intro h
      cases h
    · rintro ⟨⟩
  | object fields => exact ⟨fun _ => .object fields, fun _ => rfl⟩
  | array items ih =>
    rw [holdsObject, anyHoldsObject_eq_true]
    constructor
    · rintro ⟨v, hv, hobject⟩
      exact .item hv ((ih v hv).1 hobject)
    · intro h
      cases h with
      | item hv hobject => exact ⟨_, hv, (ih _ hv).2 hobject⟩

theorem findCodedIn?_eq_none {items : List Value} :
    findCodedIn? items = none ↔ ∀ v ∈ items, findCoded? v = none := by
  induction items with
  | nil => simp [findCodedIn?]
  | cons v vs ih => simp [findCodedIn?, ih]

/-- Every string of a value without objects is looked into. -/
theorem findCoded?_eq_none {v : Value} (h : ¬ ContainsObject v) :
    findCoded? v = none ↔ ∀ s, v.Holds s → Writable s := by
  induction v using Value.induction with
  | null | bool | number =>
    constructor
    · rintro - s ⟨⟩
    · intro
      rfl
  | string t =>
    rw [findCoded?, List.find?_eq_none]
    constructor
    · rintro hnone s ⟨⟩
      simpa [Writable] using hnone
    · intro hall
      simpa [Writable] using hall t (.string t)
  | object fields => exact absurd (.object fields) h
  | array items ih =>
    have hitems : ∀ v ∈ items, findCoded? v = none ↔ ∀ s, v.Holds s → Writable s :=
      fun v hv => ih v hv fun hobject => h (.item hv hobject)
    rw [findCoded?, findCodedIn?_eq_none]
    constructor
    · rintro hnone s ⟨⟩
      rename_i v hv hs
      exact (hitems v hv).1 (hnone v hv) s hs
    · intro hall v hv
      exact (hitems v hv).2 fun s hs => hall s (.item hv hs)

/-- A string is writable if its controls have short escapes. -/
theorem writable_iff {s : String} :
    Writable s ↔ ∀ c ∈ s.toList, c.toNat < 0x20 → c ∈ ['\x08', '\t', '\n', '\x0c', '\r'] := by
  refine forall₂_congr fun c _ => ?_
  by_cases hlow : c.toNat < 0x20
  · -- low characters are named one by one
    simp only [needsCode, hlow, List.mem_cons, List.not_mem_nil]
    grind
  · simp [needsCode, hlow]

/-- **A value has a literal** exactly if it contains no object and every
string in it is writable. -/
theorem exists_conditionLiteral_iff {path : String} {v : Value} :
    (∃ text, conditionLiteral path v = .ok text) ↔
      ¬ ContainsObject v ∧ ∀ s, v.Holds s → Writable s := by
  simp only [conditionLiteral_eq_ok, HasLiteral, exists_and_left, exists_eq, and_true]
  by_cases hobject : ContainsObject v
  · simp [hobject, holdsObject_eq_true.2 hobject]
  · have hnone : holdsObject v = false :=
      Bool.eq_false_iff.2 fun h => hobject (holdsObject_eq_true.1 h)
    simp [hobject, hnone, findCoded?_eq_none hobject]

/-- Plain values contain no object. -/
theorem not_containsObject_of_plain {n : Nat} {v : Value} (h : Plain n v) :
    ¬ ContainsObject v := by
  induction h with
  | array _ ih =>
    intro hobject
    cases hobject with
    | item hv hobject => exact ih _ hv hobject
  | _ => rintro ⟨⟩

/-- **Literals read back.** A value that contains an object has no literal.
A plain value whose arrays nest at most 62 deep has one exactly if the
controls in its strings have short escapes, and then the literal is a
condition that has this value under all variables. -/
theorem conditionLiteral_reads_back (path : String) (v : Value) :
    (ContainsObject v → conditionLiteral path v =
      .error ⟨path, "objects cannot be interpolated into a condition", []⟩) ∧
    (Plain 62 v →
      ((∃ text, conditionLiteral path v = .ok text) ↔
        ∀ s, v.Holds s → ∀ c ∈ s.toList, c.toNat < 0x20 →
          c ∈ ['\x08', '\t', '\n', '\x0c', '\r']) ∧
      ∀ text, conditionLiteral path v = .ok text →
        ∃ e, parse text = .ok e ∧ ∀ vars, evaluate vars e = .ok v) := by
  refine ⟨fun hobject => ?_, fun hplain => ⟨?_, fun text htext => ?_⟩⟩
  · rw [conditionLiteral, literal, if_pos (holdsObject_eq_true.2 hobject)]
    rfl
  · simp only [exists_conditionLiteral_iff, writable_iff]
    exact and_iff_right (not_containsObject_of_plain hplain)
  · obtain ⟨-, hwritable⟩ := exists_conditionLiteral_iff.1 ⟨text, htext⟩
    obtain rfl := (conditionLiteral_eq_ok.1 htext).2
    exact hplain.parse_compact hwritable

/-- A negative number and a quote in a string, in an array beside an empty
one. -/
def nestedArrays : Value :=
  .array [.array [.number (.integer (-5) (by decide)), .string "\""], .array []]

theorem plain_nestedArrays : Plain 62 nestedArrays := by
  have hinner : Plain 61 (.array [.number (.integer (-5) (by decide)), .string "\""]) := by
    refine .array ?_
    simp only [List.forall_mem_cons]
    exact ⟨.integer (-5) (by decide) (by decide), .string "\"", by simp⟩
  refine .array ?_
  simp only [List.forall_mem_cons]
  exact ⟨hinner, .array (by simp), by simp⟩

/-- They are written into a condition and read back. -/
theorem nestedArrays_reads_back :
    Plain 62 nestedArrays ∧ conditionLiteral "x" nestedArrays = .ok "[[-5,\"\\\"\"],[]]" ∧
      ∃ e, parse "[[-5,\"\\\"\"],[]]" = .ok e ∧ ∀ vars, evaluate vars e = .ok nestedArrays := by
  have hliteral : conditionLiteral "x" nestedArrays = .ok "[[-5,\"\\\"\"],[]]" := rfl
  exact ⟨plain_nestedArrays, hliteral,
    ((conditionLiteral_reads_back "x" nestedArrays).2 plain_nestedArrays).2 _ hliteral⟩

end Interpolation

end PromptTemplate
