import PromptTemplate.Vetting.Document
import PromptTemplate.Proofs.Outcome
import PromptTemplate.Proofs.Value
import PromptTemplate.Proofs.Template.Description
/-!
# PromptTemplate — what vetting sees of content

Vetting walks over documents, compares the names of types as strings and
passes over whatever has not the shape of content. On documents that
describe elements it misses nothing: counting counts every element of both
branches and stops at a branch that lies too deep
(`countElements_eq_ok`), and checking looks at every text, every condition
and every string of a configuration (`checkElements_eq_ok`). Both go by
induction on the description, one case for each kind of element.
-/

namespace PromptTemplate

namespace Vetting

open Element

variable {p : Policy}

/-- A document has the type that it names, and no other. -/
theorem hasType_eq_of_names {v : Value} {type : String} (h : Names v type) (other : String) :
    hasType v other = (type == other) := by
  unfold hasType
  rw [h]
  rfl

/-! ## Counting -/

/-- No branch that is not empty lies deeper than a limit: those of an
element are one deeper than the element. -/
def NestsWithin (limit : Nat) (placed : List (Nat × Element)) : Prop :=
  ∀ x ∈ placed, ∀ branch ∈ x.2.branches, branch ≠ [] → x.1 + 1 ≤ limit

theorem nestsWithin_append {limit : Nat} {xs ys : List (Nat × Element)} :
    NestsWithin limit (xs ++ ys) ↔ NestsWithin limit xs ∧ NestsWithin limit ys := by
  simp [NestsWithin, or_imp, forall_and]

/-- An element without branches nests within any limit. -/
theorem nestsWithin_singleton {limit depth : Nat} {e : Element} (h : e.branches = []) :
    NestsWithin limit [(depth, e)] := by
  intro x hx branch hbranch
  rw [List.mem_singleton.1 hx, h] at hbranch
  cases hbranch

/-- A conditional nests within a limit if its branches do and are empty
where they lie too deep. -/
theorem nestsWithin_conditional {limit depth : Nat} {name : Option String} {condition : String}
    {content : List Element} {otherwise : Option (List Element)} {xs : List (Nat × Element)} :
    NestsWithin limit ((depth, .conditional name condition content otherwise) :: xs) ↔
      (content ≠ [] → depth + 1 ≤ limit) ∧
      (∀ es ∈ otherwise, es ≠ [] → depth + 1 ≤ limit) ∧ NestsWithin limit xs := by
  simp [NestsWithin, branches, and_assoc]

theorem checkDepth_eq_ok {depth : Nat} {items : List Value} :
    checkDepth p depth items = .ok () ↔ (items ≠ [] → depth ≤ p.maxNestingDepth) := by
  unfold checkDepth
  cases items with
  | nil => simp
  | cons v rest =>
    by_cases h : p.maxNestingDepth < depth
    · simp [h]
    · simp [h]
      omega

/-- Counting passes over a branch that is not there, and counts in one that
is there if the depth is allowed. -/
theorem countBranch_eq (depth count : Nat) (v : Value) (key : String) :
    countBranch p depth count v key = (v.branch? key).elim (.ok count) (fun items => do
      checkDepth p depth items
      countElements p depth count items) := by
  unfold countBranch
  split
  · rename_i hnone
    rw [hnone]
    rfl
  · rename_i items hsome
    rw [hsome]
    rfl

/-- A described sequence is empty exactly if the elements are none. -/
theorem describesAll_eq_nil_iff {items : List Value} {es : List Element}
    (h : DescribesAll items es) : items = [] ↔ es = [] := by
  cases h <;> simp

mutual

/-- Counting an element counts what is placed at it, and succeeds if that
keeps the limits. -/
theorem countElement_eq_ok {depth count n : Nat} {v : Value} {e : Element} (h : Describes v e)
    (hcount : count ≤ p.maxContentElements) :
    countElement p depth count v = .ok n ↔
      n = count + (placed depth e).length ∧ n ≤ p.maxContentElements ∧
      NestsWithin p.maxNestingDepth (placed depth e) := by
  have hsingle : ∀ {e : Element}, e.branches = [] → hasType v "conditional" = false →
      (countElement p depth count v = .ok n ↔
        n = count + 1 ∧ n ≤ p.maxContentElements ∧
        NestsWithin p.maxNestingDepth [(depth, e)]) := by
    intro e hbranches htype
    rw [countElement, htype]
    have hnests : NestsWithin p.maxNestingDepth [(depth, e)] := nestsWithin_singleton hbranches
    by_cases hlimit : p.maxContentElements < count + 1
    · simp [hlimit, hnests]
      omega
    · simp [hlimit, hnests]
      omega
  match h with
  | .text htype _ _ => exact hsingle rfl (hasType_eq_of_names htype _)
  | .placeholder htype _ _ _ => exact hsingle rfl (hasType_eq_of_names htype _)
  | @Describes.conditional _ name _ content otherwise htype _ _ hcontent hotherwise =>
    rw [countElement, hasType_eq_of_names htype, placed, nestsWithin_conditional,
      nestsWithin_append]
    by_cases hlimit : p.maxContentElements < count + 1
    · simp [hlimit]
      omega
    · rw [if_neg hlimit, if_pos (by rfl), Outcome.bind_eq_ok, List.length_cons,
        List.length_append]
      constructor
      -- the count behind the first branch is within the limit, which the
      -- second branch needs
      · rintro ⟨m, hm, hn⟩
        obtain ⟨hmeq, hmle, hdeep, hnests⟩ := (countBranch_eq_ok hcontent (by omega)).1 hm
        obtain ⟨hneq, hnle, hdeep', hnests'⟩ := (countBranch_eq_ok hotherwise hmle).1 hn
        rw [placedIn] at hmeq hnests
        exact ⟨by omega, hnle, hdeep content rfl, hdeep', hnests, hnests'⟩
      · rintro ⟨hneq, hnle, hdeep, hdeep', hnests, hnests'⟩
        have hmle : count + 1 + (placedIn (depth + 1) (some content)).length ≤
            p.maxContentElements := by
          rw [placedIn]
          omega
        have hdeepIn : ∀ es ∈ some content, es ≠ [] → depth + 1 ≤ p.maxNestingDepth := by
          rintro es ⟨⟩
          exact hdeep
        refine ⟨_, (countBranch_eq_ok hcontent (by omega)).2 ⟨rfl, hmle, hdeepIn, ?_⟩, ?_⟩
        · rw [placedIn]
          exact hnests
        · refine (countBranch_eq_ok hotherwise hmle).2 ⟨?_, hnle, hdeep', hnests'⟩
          rw [placedIn]
          omega
termination_by sizeOf e
decreasing_by
  all_goals
    first
    | exact sizeOf_content_lt
    | exact sizeOf_otherwise_lt

/-- Counting a branch counts what is placed in it, and succeeds if that
keeps the limits and the branch does not lie too deep. -/
theorem countBranch_eq_ok {depth count n : Nat} {v : Value} {key : String}
    {branch : Option (List Element)} (h : DescribesBranch (v.field? key) branch)
    (hcount : count ≤ p.maxContentElements) :
    countBranch p depth count v key = .ok n ↔
      n = count + (placedIn depth branch).length ∧ n ≤ p.maxContentElements ∧
      (∀ es ∈ branch, es ≠ [] → depth ≤ p.maxNestingDepth) ∧
      NestsWithin p.maxNestingDepth (placedIn depth branch) := by
  obtain ⟨-, hfound, hbranch⟩ | ⟨items, es, hfound, hbranch, hall⟩ := h.none_or_some
  · rw [countBranch_eq, hfound, Option.elim_none, hbranch]
    simp [placedIn, NestsWithin]
    omega
  · rw [countBranch_eq, hfound, Option.elim_some, hbranch, placedIn, Outcome.andThen_eq_ok,
      checkDepth_eq_ok, countElements_eq_ok hall hcount, ne_eq, describesAll_eq_nil_iff hall]
    simp only [Option.mem_def, Option.some.injEq, forall_eq']
    constructor
    · rintro ⟨hdeep, hneq, hnle, hnests⟩
      exact ⟨hneq, hnle, hdeep, hnests⟩
    · rintro ⟨hneq, hnle, hdeep, hnests⟩
      exact ⟨hdeep, hneq, hnle, hnests⟩
termination_by sizeOf branch
decreasing_by
  rw [hbranch]
  simp

/-- **Counting elements counts everything placed in them,** and succeeds if
that keeps the limits. -/
theorem countElements_eq_ok {depth count n : Nat} {items : List Value} {es : List Element}
    (h : DescribesAll items es) (hcount : count ≤ p.maxContentElements) :
    countElements p depth count items = .ok n ↔
      n = count + (placedAll depth es).length ∧ n ≤ p.maxContentElements ∧
      NestsWithin p.maxNestingDepth (placedAll depth es) := by
  match h with
  | .nil =>
    simp [countElements, placedAll, NestsWithin]
    omega
  | @DescribesAll.cons _ e _ es hdescribes hall =>
    rw [countElements, placedAll, Outcome.bind_eq_ok, nestsWithin_append, List.length_append]
    constructor
    · rintro ⟨m, hm, hn⟩
      obtain ⟨hmeq, hmle, hnests⟩ := (countElement_eq_ok hdescribes hcount).1 hm
      obtain ⟨hneq, hnle, hnests'⟩ := (countElements_eq_ok hall hmle).1 hn
      exact ⟨by omega, hnle, hnests, hnests'⟩
    · rintro ⟨hneq, hnle, hnests, hnests'⟩
      have hmle : count + (placed depth e).length ≤ p.maxContentElements := by omega
      exact ⟨_, (countElement_eq_ok hdescribes hcount).2 ⟨rfl, hmle, hnests⟩,
        (countElements_eq_ok hall hmle).2 ⟨by omega, hnle, hnests'⟩⟩
termination_by sizeOf es

end

/-! ## Checking -/

/-- What must pass in an element, its branches apart: a text, every string
of a configuration, or a condition. -/
def PassesElement (p : Policy) : Element → Prop
  | .text _ s => checkText s = .ok ()
  | .placeholder _ _ config => ∀ s, (Value.object config).Holds s → checkText s = .ok ()
  | .conditional _ condition _ _ => checkCondition p condition = .ok ()

/-- Checking passes over a branch that is not there, and checks one that is
there. -/
theorem checkBranch_eq (v : Value) (key : String) :
    checkBranch p v key = (v.branch? key).elim (.ok ()) (checkElements p) := by
  unfold checkBranch
  split
  · rename_i hnone
    rw [hnone]
    rfl
  · rename_i items hsome
    rw [hsome]
    rfl

/-- A field that holds a string passes if the string does. -/
theorem checkField_of_string {v : Value} {key s : String} {check : String → Except Violation Unit}
    (h : v.field? key = some (.string s)) : checkField v key check = check s := by
  rw [checkField, h]

mutual

/-- Checking an element succeeds exactly if everything placed at it
passes. -/
theorem checkElement_eq_ok {v : Value} {e : Element} (h : Describes v e) (depth : Nat) :
    checkElement p v = .ok () ↔ ∀ x ∈ placed depth e, PassesElement p x.2 := by
  match h with
  | .text htype _ htext =>
    rw [checkElement, hasType_eq_of_names htype, if_pos (by rfl), checkField_of_string htext]
    simp [placed, PassesElement]
  | .placeholder htype _ _ hconfig =>
    rw [checkElement, hasType_eq_of_names htype, if_neg (by simp), hasType_eq_of_names htype,
      if_pos (by rfl), hconfig, Option.map_some, Option.getD_some, checkTexts, Outcome.forM_eq_ok]
    simp [placed, PassesElement, Value.mem_strings]
  | @Describes.conditional _ name _ content otherwise htype _ hcondition hcontent hotherwise =>
    rw [checkElement, hasType_eq_of_names htype, if_neg (by simp), hasType_eq_of_names htype,
      if_neg (by simp), hasType_eq_of_names htype, if_pos (by rfl),
      checkField_of_string hcondition, Outcome.andThen_eq_ok, Outcome.andThen_eq_ok,
      checkBranch_eq_ok hcontent (depth + 1), checkBranch_eq_ok hotherwise (depth + 1), placed]
    simp only [List.forall_mem_cons, List.forall_mem_append, placedIn, PassesElement]
termination_by sizeOf e
decreasing_by
  all_goals
    first
    | exact sizeOf_content_lt
    | exact sizeOf_otherwise_lt

/-- Checking a branch succeeds exactly if everything placed in it
passes. -/
theorem checkBranch_eq_ok {v : Value} {key : String} {branch : Option (List Element)}
    (h : DescribesBranch (v.field? key) branch) (depth : Nat) :
    checkBranch p v key = .ok () ↔ ∀ x ∈ placedIn depth branch, PassesElement p x.2 := by
  obtain ⟨-, hfound, hbranch⟩ | ⟨items, es, hfound, hbranch, hall⟩ := h.none_or_some
  · rw [checkBranch_eq, hfound, Option.elim_none, hbranch]
    simp [placedIn]
  · rw [checkBranch_eq, hfound, Option.elim_some, hbranch, placedIn]
    exact checkElements_eq_ok hall depth
termination_by sizeOf branch
decreasing_by
  rw [hbranch]
  simp

/-- **Checking elements checks everything placed in them,** and nothing
else. -/
theorem checkElements_eq_ok {items : List Value} {es : List Element} (h : DescribesAll items es)
    (depth : Nat) :
    checkElements p items = .ok () ↔ ∀ x ∈ placedAll depth es, PassesElement p x.2 := by
  match h with
  | .nil => simp [checkElements, placedAll]
  | @DescribesAll.cons _ _ _ es hdescribes hall =>
    rw [checkElements, placedAll, Outcome.andThen_eq_ok, checkElement_eq_ok hdescribes depth,
      checkElements_eq_ok hall depth, List.forall_mem_append]
termination_by sizeOf es

end

end Vetting

end PromptTemplate
