import Mathlib
import PromptTemplate.Proofs.Condition.Equality
import PromptTemplate.Proofs.Outcome
import PromptTemplate.Proofs.Value
/-!
# PromptTemplate — conditions cannot tell equal values apart

`1` and `1.0` are equal for a condition, and so are `2 ^ 53` and the next
integer. Nothing that a condition does leads to a difference between equal
values: steps, signs, comparisons, membership and truth respect the
equivalence of values, one lemma for each (`stepFrom_congr`,
`applyUnary_congr`, `compareValues_congr`, `isTrue_congr`), and so a whole
condition does (`evaluation_respects_equality`).

One step could tell numbers apart: from `2 ^ 53` on, integers of one value
are different positions. It leads nowhere as long as all arrays are shorter
than that, which `Indexable` says of a value and of a condition.
-/

namespace PromptTemplate

/-- Every array in a value, at any depth, is so short that doubles tell its
positions apart. -/
inductive Value.Indexable : Value → Prop
  | null : Indexable .null
  | bool (b : Bool) : Indexable (.bool b)
  | number (n : Number) : Indexable (.number n)
  | string (s : String) : Indexable (.string s)
  | array {items : List Value} (short : items.length < 2 ^ 53) (h : ∀ v ∈ items, Indexable v) :
      Indexable (.array items)
  | object {fields : Table Value}
      (h : ∀ key v, fields.find? key = some v → Indexable v) : Indexable (.object fields)

namespace Condition

/-- Every array that a condition writes down or builds is so short that
doubles tell its positions apart. -/
inductive Expr.Indexable : Expr → Prop
  | literal {v : Value} (h : v.Indexable) : Indexable (.literal v)
  | root (name : String) : Indexable (.variable name)
  | member {object : Expr} (h : Indexable object) (property : String) :
      Indexable (.member object property)
  | index {object position : Expr} (h : Indexable object) (h' : Indexable position) :
      Indexable (.index object position)
  | unary (op : UnaryOp) {operand : Expr} (h : Indexable operand) : Indexable (.unary op operand)
  | compare (op : CompareOp) {left right : Expr} (h : Indexable left) (h' : Indexable right) :
      Indexable (.compare op left right)
  | logical (op : LogicalOp) {left right : Expr} (h : Indexable left) (h' : Indexable right) :
      Indexable (.logical op left right)
  | array {items : List Expr} (short : items.length < 2 ^ 53) (h : ∀ e ∈ items, Indexable e) :
      Indexable (.array items)

/-- Two outcomes are the same for a condition: equivalent values of one
truth, or failures. -/
inductive SameOutcome : Except EvalFailure Value → Except EvalFailure Value → Prop
  | value {v w : Value} (h : Equivalent v w) (truth : isTrue v = isTrue w) :
      SameOutcome (.ok v) (.ok w)
  | failure (why why' : EvalFailure) : SameOutcome (.error why) (.error why')

/-! ## Truth and comparison -/

theorem isTrue_congr {v w : Value} (h : Equivalent v w) : isTrue v = isTrue w := by
  cases h.matches with
  | number hunits => exact congrArg (!·) (Number.isZero_congr hunits)
  | _ => rfl

theorem SameOutcome.of_equivalent {v w : Value} (h : Equivalent v w) :
    SameOutcome (.ok v) (.ok w) := .value h (isTrue_congr h)

/-- Steps that respect equivalence can be put behind outcomes that are the
same. -/
theorem SameOutcome.bind {x y : Except EvalFailure Value}
    {f g : Value → Except EvalFailure Value} (h : SameOutcome x y)
    (hstep : ∀ v w, x = .ok v → Equivalent v w → SameOutcome (f v) (g w)) :
    SameOutcome (x >>= f) (y >>= g) := by
  cases h with
  | value h _ => exact hstep _ _ rfl h
  | failure why why' => exact .failure why why'

theorem equal_congr {l l' r r' : Value} (hl : Equivalent l l') (hr : Equivalent r r') :
    equal l r = equal l' r' := by
  rw [Bool.eq_iff_iff]
  constructor
  · intro h
    exact hl.symm.trans (Equivalent.trans h hr)
  · intro h
    exact hl.trans (Equivalent.trans h hr.symm)

theorem any_equal_congr {items others : List Value} {needle needle' : Value}
    (hitems : List.Forall₂ Equivalent items others) (h : Equivalent needle needle') :
    (items.any fun item => equal item needle) = others.any fun item => equal item needle' := by
  induction hitems with
  | nil => rfl
  | cons hitem _ ih => rw [List.any_cons, List.any_cons, ih, equal_congr hitem h]

theorem order?_congr {l l' r r' : Value} (hl : Equivalent l l') (hr : Equivalent r r') :
    order? l r = order? l' r' := by
  cases hl.matches with
  | number hunits =>
    cases hr.matches with
    | number hunits' => exact congrArg some (Number.compare_congr hunits hunits')
    | _ => rfl
  | string s =>
    cases hr.matches <;> rfl
  | _ => rfl

/-- Membership goes by value in arrays, and by the same text elsewhere. -/
theorem isMember_congr {needle needle' haystack haystack' : Value}
    (hneedle : Equivalent needle needle') (h : Equivalent haystack haystack') :
    (isMember needle haystack).toOption = (isMember needle' haystack').toOption := by
  cases h.matches with
  | array hitems => exact congrArg some (any_equal_congr hitems hneedle)
  | string text => cases hneedle.matches <;> rfl
  | object hfields =>
    cases hneedle.matches with
    | string key =>
      refine congrArg some ?_
      rw [Bool.eq_iff_iff, Entries.contains, Entries.contains, ← Entries.mem_keys,
        ← Entries.mem_keys, hfields.keys]
    | _ => rfl
  | null | bool | number => cases hneedle.matches <;> rfl

/-- **Comparisons respect equivalence:** they have the same answer, or
none. -/
theorem compareValues_congr (op : CompareOp) {l l' r r' : Value} (hl : Equivalent l l')
    (hr : Equivalent r r') :
    (compareValues op l r).toOption = (compareValues op l' r').toOption := by
  have hmember := isMember_congr hl hr
  cases op with
  | equal => exact congrArg some (equal_congr hl hr)
  | notEqual => exact congrArg (fun b => some !b) (equal_congr hl hr)
  | within => exact hmember
  | notWithin =>
    have hmap : ∀ x : Except EvalFailure Bool, (x.map (!·)).toOption = x.toOption.map (!·) := by
      intro x
      cases x <;> rfl
    rw [compareValues, compareValues, hmap, hmap, hmember]
  | less | lessOrEqual | greater | greaterOrEqual =>
    simp only [compareValues, order?_congr hl hr]
    split <;> rfl

/-- **Signs and negation respect equivalence.** -/
theorem applyUnary_congr (op : UnaryOp) {v w : Value} (h : Equivalent v w) :
    SameOutcome (applyUnary op v) (applyUnary op w) := by
  cases op with
  | not =>
    rw [applyUnary, applyUnary, isTrue_congr h]
    exact .of_equivalent (.refl _)
  | plus =>
    cases h.matches with
    | number hunits => exact .of_equivalent h
    | _ => exact .failure _ _
  | negate =>
    cases h.matches with
    | number hunits =>
      refine .of_equivalent (equivalent_number_iff.2 ?_)
      rw [Number.units_neg, Number.units_neg, hunits]
    | _ => exact .failure _ _

/-! ## Steps -/

theorem equivalent_of_getElem? {items others : List Value} {position : Nat} {v : Value}
    (h : List.Forall₂ Equivalent items others) (hv : items[position]? = some v) :
    ∃ w, others[position]? = some w ∧ Equivalent v w := by
  obtain ⟨hlt, rfl⟩ := List.getElem?_eq_some_iff.1 hv
  have hlt' : position < others.length := h.length_eq ▸ hlt
  exact ⟨others[position], List.getElem?_eq_getElem hlt', h.get hlt hlt'⟩

/-- **A step respects equivalence:** it leads to equivalent values, or
nowhere. -/
theorem stepFrom_congr (step : Path.Step) {v w : Value} (h : Equivalent v w) :
    SameOutcome (stepFrom v step) (stepFrom w step) := by
  cases step with
  | property name =>
    unfold stepFrom Path.Step.reach
    by_cases hreserved : Path.isReserved name = true
    · simp only [if_pos hreserved]
      exact .failure _ _
    simp only [if_neg hreserved]
    cases h.matches with
    | @object fields _ hfields =>
      cases hv : fields.find? name with
      | some v =>
        obtain ⟨w, hw⟩ := Entries.exists_find?_of_keys_eq hfields.keys hv
        simp only [hv, hw]
        exact .of_equivalent (hfields.values name v w hv hw)
      | none =>
        simp only [hv, Entries.find?_eq_none_of_keys_eq hfields.keys hv]
        exact .failure _ _
    | array hitems =>
      -- the count of the items is all that a name can reach
      simp only [hitems.length_eq]
      by_cases hname : name = "length"
      · simp only [if_pos hname]
        exact .of_equivalent (.refl _)
      · simp only [if_neg hname]
        exact .failure _ _
    | string s =>
      by_cases hname : name = "length"
      · simp only [if_pos hname]
        exact .of_equivalent (.refl _)
      · simp only [if_neg hname]
        exact .failure _ _
    | null | bool | number => exact .failure _ _
  | index i =>
    cases h.matches with
    | @array items others hitems =>
      simp only [stepFrom, Path.Step.reach, ← hitems.length_eq]
      cases hposition : Path.position? i items.length with
      | none => exact .failure _ _
      | some position =>
        simp only [Option.bind_some]
        cases hv : items[position]? with
        | some v =>
          obtain ⟨w, hw, hequivalent⟩ := equivalent_of_getElem? hitems hv
          simp only [hw]
          exact .of_equivalent hequivalent
        | none =>
          have hw : others[position]? = none := by
            rw [List.getElem?_eq_none_iff] at hv ⊢
            rwa [← hitems.length_eq]
          simp only [hw]
          exact .failure _ _
    | _ => exact .failure _ _

/-- No array that is short enough has a position from `2 ^ 53` on, counted
from either end. -/
theorem fails_of_far {v : Value} (hv : v.Indexable) {i : Int} (hi : 2 ^ 53 ≤ i.natAbs) :
    ∃ why, stepFrom v (.index i) = .error why := by
  cases hv with
  | array hshort _ =>
    have hnone : ∀ length : Nat, length < 2 ^ 53 → Path.position? i length = none := by
      intro length hlength
      unfold Path.position?
      refine if_neg ?_
      split <;> omega
    simp only [stepFrom, Path.Step.reach, hnone _ hshort]
    exact ⟨_, rfl⟩
  | _ => exact ⟨_, rfl⟩

/-- The step of a position takes a number that has the value of the
position, -/
theorem index_of_toInt? {v : Value} {n : Number} {i : Int} (h : n.toInt? = some i) :
    (indexStep (.number n) >>= stepFrom v) = stepFrom v (.index i) := by
  simp only [indexStep, h]
  rfl

/-- and leads nowhere for any other. -/
theorem fails_of_toInt? {v : Value} (hv : v.Indexable) {n : Number}
    (h : ∀ i, n.toInt? = some i → 2 ^ 53 ≤ i.natAbs) :
    ∃ why, (indexStep (.number n) >>= stepFrom v) = .error why := by
  cases hword : n.toInt? with
  | none =>
    simp only [indexStep, hword]
    exact ⟨_, rfl⟩
  | some i =>
    rw [index_of_toInt? hword]
    exact fails_of_far hv (h i hword)

/-- **An index respects equivalence,** also where the numbers are written in
different ways. -/
theorem index_congr {v w i j : Value} (hv : v.Indexable) (hw : w.Indexable)
    (h : Equivalent v w) (hij : Equivalent i j) :
    SameOutcome (indexStep i >>= stepFrom v) (indexStep j >>= stepFrom w) := by
  cases hij.matches with
  | string s => exact stepFrom_congr (.property s) h
  | @number m n hunits =>
    rcases Number.toInt?_congr hunits with ⟨i, hm, hn⟩ | ⟨hm, hn⟩
    · rw [index_of_toInt? hm, index_of_toInt? hn]
      exact stepFrom_congr (.index i) h
    · obtain ⟨why, hfails⟩ := fails_of_toInt? hv hm
      obtain ⟨why', hfails'⟩ := fails_of_toInt? hw hn
      rw [hfails, hfails']
      exact .failure _ _
  | _ => exact .failure _ _

/-! ## Short arrays stay short -/

/-- Equivalent arrays are of one length. -/
theorem indexable_of_equivalent {v w : Value} (hv : v.Indexable) (h : Equivalent v w) :
    w.Indexable := by
  induction hv generalizing w with
  | null | bool | string =>
    cases h.matches
    constructor
  | number n =>
    cases h.matches with
    | @number m n _ => exact .number n
  | array hshort _ ih =>
    cases h.matches with
    | array hitems =>
      refine .array (hitems.length_eq ▸ hshort) fun w hw => ?_
      obtain ⟨position, hlt, rfl⟩ := List.getElem_of_mem hw
      have hlt' := hitems.length_eq ▸ hlt
      exact ih _ (List.getElem_mem hlt') (hitems.get hlt' hlt)
  | object _ ih =>
    cases h.matches with
    | object hfields =>
      refine .object fun key w hw => ?_
      obtain ⟨v, hv⟩ := Entries.exists_find?_of_keys_eq hfields.keys.symm hw
      exact ih key v hv (hfields.values key v w hv hw)

/-- A step leads into a value, or to a count. -/
theorem indexable_of_stepFrom {v w : Value} {step : Path.Step} (hv : v.Indexable)
    (h : stepFrom v step = .ok w) : w.Indexable := by
  unfold stepFrom at h
  split at h
  · rename_i hreach
    cases h
    unfold Path.Step.reach at hreach
    split at hreach
    · split at hreach
      · cases hreach
      · split at hreach
        · split at hreach
          · rename_i hfind
            cases hreach
            cases hv with
            | object hfields => exact hfields _ _ hfind
          · cases hreach
        · split at hreach
          · cases hreach
            exact .number _
          · cases hreach
        · split at hreach
          · cases hreach
            exact .number _
          · cases hreach
        · cases hreach
    · split at hreach
      · split at hreach
        · rename_i hitem
          cases hreach
          obtain ⟨position, -, hposition⟩ := Option.bind_eq_some_iff.1 hitem
          cases hv with
          | array _ hitems => exact hitems _ (List.mem_of_getElem? hposition)
        · cases hreach
      · cases hreach
  · cases h

theorem indexable_of_applyUnary {op : UnaryOp} {v w : Value} (h : applyUnary op v = .ok w) :
    w.Indexable := by
  unfold applyUnary at h
  split at h <;> cases h <;> constructor

theorem evaluateAll_eq_ok {vars : Table Value} {items : List Expr} {vs : List Value}
    (h : evaluateAll vars items = .ok vs) :
    List.Forall₂ (fun e v => evaluate vars e = .ok v) items vs := by
  induction items generalizing vs with
  | nil =>
    cases h
    exact .nil
  | cons e items ih =>
    obtain ⟨v, hv, h⟩ := Outcome.bind_eq_ok.1 h
    obtain ⟨ws, hws, h⟩ := Outcome.bind_eq_ok.1 h
    cases h
    exact .cons hv (ih hws)

/-- The value of a variable stands in the variables. -/
theorem find?_of_evaluate {vars : Table Value} {name : String} {v : Value}
    (h : evaluate vars (.variable name) = .ok v) : vars.find? name = some v := by
  unfold evaluate Path.root at h
  split at h
  · rename_i hroot
    cases h
    split at hroot
    · cases hroot
    · split at hroot
      · rename_i hfind
        cases hroot
        exact hfind
      · cases hroot
  · cases h

/-- **Arrays stay short:** the value of a condition has short arrays, if the
variables and the condition have. -/
theorem indexable_of_evaluate {vars : Table Value} (hvars : (Value.object vars).Indexable)
    {e : Expr} (he : e.Indexable) {v : Value} (h : evaluate vars e = .ok v) : v.Indexable := by
  induction he generalizing v with
  | literal hv =>
    cases h
    exact hv
  | root name =>
    cases hvars with
    | object hfields => exact hfields name v (find?_of_evaluate h)
  | member _ property ih =>
    obtain ⟨object, hobject, hstep⟩ := Outcome.bind_eq_ok.1 h
    exact indexable_of_stepFrom (ih hobject) hstep
  | index _ _ ih _ =>
    obtain ⟨object, hobject, h⟩ := Outcome.bind_eq_ok.1 h
    obtain ⟨position, -, h⟩ := Outcome.bind_eq_ok.1 h
    obtain ⟨step, -, hstep⟩ := Outcome.bind_eq_ok.1 h
    exact indexable_of_stepFrom (ih hobject) hstep
  | unary op _ _ =>
    obtain ⟨operand, -, hunary⟩ := Outcome.bind_eq_ok.1 h
    exact indexable_of_applyUnary hunary
  | compare op _ _ _ _ =>
    obtain ⟨l, -, h⟩ := Outcome.bind_eq_ok.1 h
    obtain ⟨r, -, h⟩ := Outcome.bind_eq_ok.1 h
    obtain ⟨b, -, h⟩ := Outcome.bind_eq_ok.1 h
    cases h
    exact .bool b
  | logical op _ _ ih ih' =>
    cases op with
    | and =>
      obtain ⟨l, hl, h⟩ := Outcome.bind_eq_ok.1 h
      split at h
      · exact ih' h
      · cases h
        exact ih hl
    | or =>
      obtain ⟨l, hl, h⟩ := Outcome.bind_eq_ok.1 h
      split at h
      · cases h
        exact ih hl
      · exact ih' h
  | array hshort _ ih =>
    obtain ⟨vs, hvs, h⟩ := Outcome.bind_eq_ok.1 h
    cases h
    have hall := evaluateAll_eq_ok hvs
    refine .array (hall.length_eq ▸ hshort) fun v hv => ?_
    obtain ⟨position, hlt, rfl⟩ := List.getElem_of_mem hv
    have hlt' := hall.length_eq ▸ hlt
    exact ih _ (List.getElem_mem hlt') (hall.get hlt' hlt)

/-! ## Conditions -/

variable {vars vars' : Table Value}

theorem root_congr (h : SameFields vars vars') (name : String) :
    SameOutcome (evaluate vars (.variable name)) (evaluate vars' (.variable name)) := by
  unfold evaluate Path.root
  by_cases hreserved : Path.isReserved name = true
  · simp only [if_pos hreserved]
    exact .failure _ _
  simp only [if_neg hreserved]
  cases hv : vars.find? name with
  | some v =>
    obtain ⟨w, hw⟩ := Entries.exists_find?_of_keys_eq h.keys hv
    simp only [hw]
    exact .of_equivalent (h.values name v w hv hw)
  | none =>
    simp only [Entries.find?_eq_none_of_keys_eq h.keys hv]
    exact .failure _ _

/-- Items whose conditions have the same outcomes have them together. -/
theorem evaluateAll_congr {items : List Expr}
    (h : ∀ e ∈ items, SameOutcome (evaluate vars e) (evaluate vars' e)) :
    (∃ vs ws, evaluateAll vars items = .ok vs ∧ evaluateAll vars' items = .ok ws ∧
      List.Forall₂ Equivalent vs ws) ∨
      ∃ why why', evaluateAll vars items = .error why ∧ evaluateAll vars' items = .error why' := by
  induction items with
  | nil => exact .inl ⟨[], [], rfl, rfl, .nil⟩
  | cons e items ih =>
    rw [List.forall_mem_cons] at h
    rw [evaluateAll, evaluateAll]
    generalize evaluate vars e = x, evaluate vars' e = y at h
    cases h.1 with
    | failure why why' => exact .inr ⟨why, why', rfl, rfl⟩
    | @value v w hvw _ =>
      rcases ih h.2 with ⟨vs, ws, hvs, hws, hall⟩ | ⟨why, why', hvs, hws⟩
      · rw [hvs, hws]
        exact .inl ⟨v :: vs, w :: ws, rfl, rfl, .cons hvw hall⟩
      · rw [hvs, hws]
        exact .inr ⟨why, why', rfl, rfl⟩

/-- **A condition cannot tell equal variables apart.** -/
theorem evaluate_congr (h : SameFields vars vars') (hvars : (Value.object vars).Indexable)
    {e : Expr} (he : e.Indexable) : SameOutcome (evaluate vars e) (evaluate vars' e) := by
  induction he with
  | literal hv => exact .of_equivalent (.refl _)
  | root name => exact root_congr h name
  | member _ property ih =>
    rw [evaluate, evaluate]
    exact ih.bind fun v w _ hvw => stepFrom_congr (.property property) hvw
  | @index object position hobject _ ih ih' =>
    rw [evaluate, evaluate]
    refine ih.bind fun v w hv hvw => ih'.bind fun i j _ hij => ?_
    have hshort : v.Indexable := indexable_of_evaluate hvars hobject hv
    exact index_congr hshort (indexable_of_equivalent hshort hvw) hvw hij
  | unary op _ ih =>
    rw [evaluate, evaluate]
    exact ih.bind fun v w _ hvw => applyUnary_congr op hvw
  | compare op _ _ ih ih' =>
    rw [evaluate, evaluate]
    refine ih.bind fun l l' _ hl => ih'.bind fun r r' _ hr => ?_
    have hanswer := compareValues_congr op hl hr
    generalize compareValues op l r = x, compareValues op l' r' = y at hanswer
    cases x with
    | error why =>
      cases y with
      | error why' => exact .failure why why'
      | ok b => cases hanswer
    | ok b =>
      cases y with
      | error why => cases hanswer
      | ok b' =>
        cases hanswer
        exact .of_equivalent (.refl _)
  | logical op _ _ ih ih' =>
    cases op with
    | and =>
      rw [evaluate, evaluate]
      refine ih.bind fun l l' _ hl => ?_
      -- the left sides have one truth, so that the same side decides
      rw [isTrue_congr hl]
      split
      · exact ih'
      · exact .of_equivalent hl
    | or =>
      rw [evaluate, evaluate]
      refine ih.bind fun l l' _ hl => ?_
      rw [isTrue_congr hl]
      split
      · exact .of_equivalent hl
      · exact ih'
  | array _ _ ih =>
    rw [evaluate, evaluate]
    rcases evaluateAll_congr ih with ⟨vs, ws, hvs, hws, hall⟩ | ⟨why, why', hvs, hws⟩
    · rw [hvs, hws]
      exact .of_equivalent (equivalent_array_iff.2 hall)
    · rw [hvs, hws]
      exact .failure why why'

/-- **A condition cannot tell how a number is written.** Equality is an
equivalence of values, and a condition has equivalent values of one truth, or
fails, under any two maps of variables with the same keys and equivalent
values, as long as the arrays of the variables and of the condition are
shorter than `2 ^ 53`. -/
theorem evaluation_respects_equality :
    Equivalence Equivalent ∧
      ∀ (e : Expr) (vars vars' : Table Value), e.Indexable → (Value.object vars).Indexable →
        SameFields vars vars' → SameOutcome (evaluate vars e) (evaluate vars' e) :=
  ⟨equivalence_equivalent, fun _ _ _ he hvars h => evaluate_congr h hvars he⟩

/-- The double one. -/
def doubleOne : Number := .double ⟨false, 1 <<< 52, 1022, by decide, .inr (by decide), by decide⟩

/-- The integer one. -/
def integerOne : Number := .integer 1 (by decide)

/-- Variables with a number, and an array that begins with it. -/
def countedVars (n : Number) : Table Value :=
  Table.ofList [("i", .number n), ("xs", .array [.number n, .string "b"])]

/-- The condition `[xs[-i], xs[0]]`. -/
def endsOfArray : Expr :=
  .array [.index (.variable "xs") (.unary .negate (.variable "i")),
    .index (.variable "xs") (.literal (.number (.integer 0 (by decide))))]

theorem indexable_countedVars (n : Number) : (Value.object (countedVars n)).Indexable := by
  refine .object fun key v hv => ?_
  simp only [countedVars, Table.ofList, List.foldl_cons, List.foldl_nil, Table.find?_insert] at hv
  split at hv
  · cases hv
    have hshort : [Value.number n, .string "b"].length < 2 ^ 53 := by simp
    exact .array hshort (List.forall_mem_cons.2 ⟨.number n, List.forall_mem_singleton.2 (.string _)⟩)
  · split at hv
    · cases hv
      exact .number n
    · cases hv

theorem indexable_endsOfArray : endsOfArray.Indexable := by
  refine .array (by decide) (List.forall_mem_cons.2 ⟨?_, List.forall_mem_singleton.2 ?_⟩)
  · exact .index (.root "xs") (.unary .negate (.root "i"))
  · exact .index (.root "xs") (.literal (.number _))

/-- The last item and the first one, whichever way the position is
written. -/
theorem sameOutcome_endsOfArray :
    evaluate (countedVars integerOne) endsOfArray =
        .ok (.array [.string "b", .number integerOne]) ∧
      endsOfArray.Indexable ∧ (Value.object (countedVars integerOne)).Indexable ∧
      SameFields (countedVars integerOne) (countedVars doubleOne) ∧
      SameOutcome (evaluate (countedVars integerOne) endsOfArray)
        (evaluate (countedVars doubleOne) endsOfArray) := by
  have hvalue : evaluate (countedVars integerOne) endsOfArray =
      .ok (.array [.string "b", .number integerOne]) := by cbv
  have hequal : Equivalent (.object (countedVars integerOne)) (.object (countedVars doubleOne)) := by
    unfold Equivalent
    decide +kernel
  have hfields := equivalent_object_iff.1 hequal
  have hvars := indexable_countedVars integerOne
  exact ⟨hvalue, indexable_endsOfArray, hvars, hfields,
    evaluation_respects_equality.2 _ _ _ indexable_endsOfArray hvars hfields⟩

end Condition

end PromptTemplate
