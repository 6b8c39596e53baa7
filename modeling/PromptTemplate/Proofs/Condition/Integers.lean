import Mathlib
import PromptTemplate.Condition.Verdict
import PromptTemplate.Proofs.Number.Rounding
/-!
# PromptTemplate — comparing integers in conditions

Integers of documents are kept exactly, and compared by their nearest
doubles. So every question about two of them, `==`, `<`, `in` and the
others, is answered for the integers of 53 significant bits nearest to them
(`answersFor_nearest`), and wrongly where two different ones are rounded to
the same: `2 ^ 53` and the next integer count as equal
(`not_answersFor_neighbours`).

`answersFor_iff` says when the answers are those of the integers
themselves, which is so if one of them is below `2 ^ 53`, or if they lie
more than `2 ^ 11` apart.
-/

namespace PromptTemplate

namespace Condition

open Double

/-- A question about the numbers `x` and `y`: its text, and the relation of
integers that it asks for. -/
structure Question where
  text : String
  relation : Int → Int → Bool

/-- The questions about two numbers. -/
def questions : List Question :=
  [⟨"x == y", fun a b => decide (a = b)⟩, ⟨"x != y", fun a b => decide (a ≠ b)⟩,
    ⟨"x < y", fun a b => decide (a < b)⟩, ⟨"x <= y", fun a b => decide (a ≤ b)⟩,
    ⟨"x > y", fun a b => decide (a > b)⟩, ⟨"x >= y", fun a b => decide (a ≥ b)⟩,
    ⟨"x in [y]", fun a b => decide (a = b)⟩]

/-- Every question is answered for these two integers. -/
def AnswersFor (vars : Table Value) (a b : Int) : Prop :=
  ∀ q ∈ questions, valueOf vars q.text = .ok (.bool (q.relation a b))

section Answers

variable {vars : Table Value} {a b : Int} {ha : -(1 <<< 63) ≤ a ∧ a < 1 <<< 64}
  {hb : -(1 <<< 63) ≤ b ∧ b < 1 <<< 64}

/-! ## Numbers that are integers -/

theorem eq_integer :
    (Number.integer a ha).eq (.integer b hb) = decide (nearestInt a = nearestInt b) := by
  rw [Bool.eq_iff_iff, Number.eq_iff, Number.units_integer, Number.units_integer,
    Int.mul_eq_mul_right_iff natCast_stepsInOne_pos.ne', decide_eq_true_iff]

theorem compare_integer :
    (Number.integer a ha).compare (.integer b hb) = Ord.compare (nearestInt a) (nearestInt b) := by
  change Ord.compare (Number.integer a ha).units (Number.integer b hb).units = _
  simp only [Number.units_integer, Int.compare_eq_ite_lt,
    Int.mul_lt_mul_right natCast_stepsInOne_pos]

/-- The ordering comparisons, as relations of integers. -/
theorem holds_compare (c d : Int) :
    CompareOp.less.holds (Ord.compare c d) = decide (c < d) ∧
      CompareOp.lessOrEqual.holds (Ord.compare c d) = decide (c ≤ d) ∧
      CompareOp.greater.holds (Ord.compare c d) = decide (c > d) ∧
      CompareOp.greaterOrEqual.holds (Ord.compare c d) = decide (c ≥ d) := by
  refine ⟨?_, ?_, ?_, ?_⟩
  · rw [Bool.eq_iff_iff, decide_eq_true_iff, ← Int.compare_eq_lt]
    exact beq_iff_eq
  · rw [Bool.eq_iff_iff, decide_eq_true_iff, ← Int.compare_ne_gt]
    exact bne_iff_ne
  · rw [Bool.eq_iff_iff, decide_eq_true_iff, gt_iff_lt, ← Int.compare_eq_gt]
    exact beq_iff_eq
  · rw [Bool.eq_iff_iff, decide_eq_true_iff, ge_iff_le, ← Int.compare_ne_lt]
    exact bne_iff_ne

/-! ## The answers -/

/-- What a comparison with the variable `x` comes to. -/
theorem valueOf_compare (op : CompareOp) {right : Expr} {text : String} {v w : Value} {answer : Bool}
    (hparse : parse text = .ok (.compare op (.variable "x") right)) (hx : vars.find? "x" = some v)
    (hright : evaluate vars right = .ok w) (hanswer : compareValues op v w = .ok answer) :
    valueOf vars text = .ok (.bool answer) := by
  have hroot : Path.root vars "x" = .ok v := by
    rw [Path.root, if_neg (by decide), hx]
  have hleft : evaluate vars (.variable "x") = .ok v := by
    rw [evaluate, hroot]
  have hvalue : evaluate vars (.compare op (.variable "x") right) = .ok (.bool answer) :=
    Outcome.bind_eq_ok.2 ⟨v, hleft, Outcome.bind_eq_ok.2 ⟨w, hright,
      Outcome.bind_eq_ok.2 ⟨answer, hanswer, rfl⟩⟩⟩
  simp only [valueOf, read, hparse, hvalue]

/-- **Every question is answered for the nearest integers** of 53
significant bits. -/
theorem answersFor_nearest (hx : vars.find? "x" = some (.number (.integer a ha)))
    (hy : vars.find? "y" = some (.number (.integer b hb))) :
    AnswersFor vars (nearestInt a) (nearestInt b) := by
  have hroot : Path.root vars "y" = .ok (.number (.integer b hb)) := by
    rw [Path.root, if_neg (by decide), hy]
  have hright : evaluate vars (.variable "y") = .ok (.number (.integer b hb)) := by
    rw [evaluate, hroot]
  have hitems : evaluate vars (.array [.variable "y"]) =
      .ok (.array [.number (.integer b hb)]) := by
    rw [evaluate, evaluateAll, evaluateAll, hright]
    rfl
  have hequal : equal (.number (.integer a ha)) (.number (.integer b hb)) =
      decide (nearestInt a = nearestInt b) := eq_integer
  have hequal' : equal (.number (.integer b hb)) (.number (.integer a ha)) =
      decide (nearestInt a = nearestInt b) := by
    rw [show decide (nearestInt a = nearestInt b) = decide (nearestInt b = nearestInt a) by
      simp [eq_comm]]
    exact eq_integer
  obtain ⟨hless, hlessOrEqual, hgreater, hgreaterOrEqual⟩ :=
    holds_compare (nearestInt a) (nearestInt b)
  rw [← @compare_integer a b ha hb] at hless hlessOrEqual hgreater hgreaterOrEqual
  simp only [AnswersFor, questions, List.forall_mem_cons, List.not_mem_nil, false_implies,
    implies_true, and_true]
  refine ⟨?_, ?_, ?_, ?_, ?_, ?_, ?_⟩
  · exact valueOf_compare .equal (by cbv) hx hright (congrArg _ hequal)
  · refine valueOf_compare .notEqual (by cbv) hx hright ?_
    rw [compareValues, hequal, decide_not]
  · exact valueOf_compare .less (by cbv) hx hright (congrArg _ hless)
  · exact valueOf_compare .lessOrEqual (by cbv) hx hright (congrArg _ hlessOrEqual)
  · exact valueOf_compare .greater (by cbv) hx hright (congrArg _ hgreater)
  · exact valueOf_compare .greaterOrEqual (by cbv) hx hright (congrArg _ hgreaterOrEqual)
  · refine valueOf_compare .within (by cbv) hx hitems ?_
    rw [compareValues, isMember, List.any_cons, List.any_nil, Bool.or_false, hequal']

/-- Integers that are rounded apart keep their order. -/
theorem nearestInt_le_iff (hne : nearestInt a ≠ nearestInt b) :
    nearestInt a ≤ nearestInt b ↔ a ≤ b := by
  refine ⟨fun hnearest => ?_, nearestInt_mono⟩
  exact le_of_not_gt fun hlt => hne (le_antisymm hnearest (nearestInt_mono hlt.le))

/-- Integers that are equal or rounded apart are in the same relations as
the nearest ones. -/
theorem relation_nearest (h : a = b ∨ nearestInt a ≠ nearestInt b) :
    ∀ q ∈ questions, q.relation (nearestInt a) (nearestInt b) = q.relation a b := by
  rcases h with rfl | hne
  · simp [questions]
  · have hequal : a ≠ b := fun heq => hne (congrArg nearestInt heq)
    have hle := nearestInt_le_iff hne
    have hge := nearestInt_le_iff (Ne.symm hne)
    have hlt : nearestInt a < nearestInt b ↔ a < b := by
      rw [← not_le, hge, not_le]
    have hgt : nearestInt b < nearestInt a ↔ b < a := by
      rw [← not_le, hle, not_le]
    simp [questions, hle, hge, hlt, hgt, hne, hequal]

/-- The answers tell whether the integers are equal. -/
theorem equal_iff_of_answersFor {c d : Int} (hab : AnswersFor vars a b) (hcd : AnswersFor vars c d) :
    a = b ↔ c = d := by
  have hfirst : valueOf vars "x == y" = .ok (.bool (decide (a = b))) :=
    hab ⟨"x == y", _⟩ List.mem_cons_self
  have hsecond : valueOf vars "x == y" = .ok (.bool (decide (c = d))) :=
    hcd ⟨"x == y", _⟩ List.mem_cons_self
  have hsame := hfirst.symm.trans hsecond
  injection hsame with hsame
  injection hsame with hsame
  exact decide_eq_decide.1 hsame

/-- Variables with two integers. -/
def pairVars (a b : Int) (ha : -(1 <<< 63) ≤ a ∧ a < 1 <<< 64) (hb : -(1 <<< 63) ≤ b ∧ b < 1 <<< 64) :
    Table Value :=
  Table.ofList [("x", .number (.integer a ha)), ("y", .number (.integer b hb))]

theorem find?_pairVars_x : (pairVars a b ha hb).find? "x" = some (.number (.integer a ha)) := by
  simp [pairVars, Table.ofList]

theorem find?_pairVars_y : (pairVars a b ha hb).find? "y" = some (.number (.integer b hb)) := by
  simp [pairVars, Table.ofList]

/-- **When integers are compared exactly.** Every question about two
integers is answered for the integers of 53 significant bits nearest to
them. The answers are those of the integers themselves exactly if these are
equal or rounded apart, which is so if one of them is below `2 ^ 53`, or if
they lie more than `2 ^ 11` apart. -/
theorem answersFor_iff (hx : vars.find? "x" = some (.number (.integer a ha)))
    (hy : vars.find? "y" = some (.number (.integer b hb))) :
    AnswersFor vars (nearestInt a) (nearestInt b) ∧
      (AnswersFor vars a b ↔ a = b ∨ nearestInt a ≠ nearestInt b) ∧
      (a.natAbs < 2 ^ 53 ∨ b.natAbs < 2 ^ 53 ∨ 2 ^ 11 < (a - b).natAbs → AnswersFor vars a b) := by
  have hnearest := answersFor_nearest hx hy
  have hexact : AnswersFor vars a b ↔ a = b ∨ nearestInt a ≠ nearestInt b := by
    constructor
    · intro hanswers
      have hsame := equal_iff_of_answersFor hnearest hanswers
      by_cases heq : a = b
      · exact .inl heq
      · exact .inr fun h => heq (hsame.1 h)
    · intro h q hq
      rw [← relation_nearest h q hq]
      exact hnearest q hq
  refine ⟨hnearest, hexact, fun h => hexact.2 ?_⟩
  by_cases heq : nearestInt a = nearestInt b
  · refine .inl ?_
    rcases h with hsmall | hsmall | hfar
    · have hself := nearestInt_eq_self hsmall.le
      exact ((nearestInt_eq_iff hsmall).1 (heq.symm.trans hself)).symm
    · have hself := nearestInt_eq_self hsmall.le
      exact (nearestInt_eq_iff hsmall).1 (heq.trans hself)
    · have hda := @two_mul_dist_nearestInt a (by omega)
      have hdb := @two_mul_dist_nearestInt b (by omega)
      omega
  · exact .inr heq

/-- The ends of the range lie far enough apart. -/
theorem answersFor_ends :
    AnswersFor (pairVars (-2 ^ 63) (2 ^ 64 - 1) (by decide) (by decide)) (-2 ^ 63) (2 ^ 64 - 1) :=
  (answersFor_iff find?_pairVars_x find?_pairVars_y).2.2 (.inr (.inr (by decide)))

/-- The least integer that is rounded away counts as equal to the one that
it is rounded to. -/
theorem not_answersFor_neighbours :
    ¬ AnswersFor (pairVars (2 ^ 53) (2 ^ 53 + 1) (by decide) (by decide)) (2 ^ 53) (2 ^ 53 + 1) := by
  intro h
  have hnearest := @answersFor_nearest _ (2 ^ 53) (2 ^ 53 + 1) (by decide) (by decide)
    find?_pairVars_x find?_pairVars_y
  have hsame := equal_iff_of_answersFor hnearest h
  exact absurd (hsame.1 (by decide)) (by decide)

end Answers

end Condition

end PromptTemplate
