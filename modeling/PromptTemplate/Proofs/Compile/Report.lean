import PromptTemplate.Compile.Report
import PromptTemplate.Proofs.Compile.Prune
import PromptTemplate.Proofs.Interpolation.References
/-!
# PromptTemplate — what an empty report promises

A report without messages about types and conditions says something about
every element, as it walks through both branches of every conditional:
`knownType_of_unknownTypesFrom` and `reads_of_badConditionsFrom`. What it
says about a template carries over to the elements after substitution,
which keeps types and fills conditions (`exists_of_mem_substituted`).
-/

namespace PromptTemplate

namespace Report

open Element Compile Interpolation

variable {types : Table InstructionType} {vars : Table Value}

/-! ## Types -/

mutual

theorem knownType_of_unknownTypesAt {e : Element} {place : String} {depth : Nat}
    (h : unknownTypesAt types place e = []) : ∀ x ∈ placed depth e, HasKnownType types x.2 := by
  match e with
  | .text name s => simp [placed, HasKnownType]
  | .placeholder name type config =>
    have hknown : types.contains type = true := by
      unfold unknownTypesAt at h
      split at h
      · rename_i hcontains
        exact hcontains
      · cases h
    simpa [placed, HasKnownType] using hknown
  | .conditional name condition content otherwise =>
    rw [unknownTypesAt, List.append_eq_nil_iff] at h
    rw [placed, List.forall_mem_cons, List.forall_mem_append]
    exact ⟨trivial, knownType_of_unknownTypesFrom h.1, knownType_of_unknownTypesIn h.2⟩

/-- **Without a message about types** every type is known. -/
theorem knownType_of_unknownTypesFrom {es : List Element} {sequence : String}
    {position depth : Nat} (h : unknownTypesFrom types sequence position es = []) :
    ∀ x ∈ placedAll depth es, HasKnownType types x.2 := by
  match es with
  | [] => simp [placedAll]
  | e :: es =>
    rw [unknownTypesFrom, List.append_eq_nil_iff] at h
    rw [placedAll, List.forall_mem_append]
    exact ⟨knownType_of_unknownTypesAt h.1, knownType_of_unknownTypesFrom h.2⟩

theorem knownType_of_unknownTypesIn {branch : Option (List Element)} {sequence : String}
    {depth : Nat} (h : unknownTypesIn types sequence branch = []) :
    ∀ x ∈ placedIn depth branch, HasKnownType types x.2 := by
  match branch with
  | none => simp [placedIn]
  | some es => exact knownType_of_unknownTypesFrom h

end

/-! ## Conditions -/

/-- The condition of an element can be read once it is filled, if it can be
filled. -/
def Reads (vars : Table Value) : Element → Prop
  | .conditional _ condition _ _ =>
    ∀ filled, substituteCondition vars condition = .ok filled → ∃ e, Condition.read filled = .ok e
  | _ => True

theorem reads_of_conditionErrors {place condition filled : String}
    (h : conditionErrors vars place condition = [])
    (hfilled : substituteCondition vars condition = .ok filled) :
    ∃ e, Condition.read filled = .ok e := by
  unfold conditionErrors at h
  rw [hfilled] at h
  cases hread : Condition.read filled with
  | ok e => exact ⟨e, rfl⟩
  | error b =>
    simp only [hread] at h
    cases h

mutual

theorem reads_of_badConditionsAt {e : Element} {place : String} {depth : Nat}
    (h : badConditionsAt vars place e = []) : ∀ x ∈ placed depth e, Reads vars x.2 := by
  match e with
  | .text name s => simp [placed, Reads]
  | .placeholder name type config => simp [placed, Reads]
  | .conditional name condition content otherwise =>
    rw [badConditionsAt, List.append_eq_nil_iff, List.append_eq_nil_iff] at h
    obtain ⟨hcondition, hcontent, hotherwise⟩ := h
    rw [placed, List.forall_mem_cons, List.forall_mem_append]
    exact ⟨fun filled => reads_of_conditionErrors hcondition, reads_of_badConditionsFrom hcontent,
      reads_of_badConditionsIn hotherwise⟩

/-- **Without a message about conditions** every condition that can be
filled can be read. -/
theorem reads_of_badConditionsFrom {es : List Element} {sequence : String}
    {position depth : Nat} (h : badConditionsFrom vars sequence position es = []) :
    ∀ x ∈ placedAll depth es, Reads vars x.2 := by
  match es with
  | [] => simp [placedAll]
  | e :: es =>
    rw [badConditionsFrom, List.append_eq_nil_iff] at h
    rw [placedAll, List.forall_mem_append]
    exact ⟨reads_of_badConditionsAt h.1, reads_of_badConditionsFrom h.2⟩

theorem reads_of_badConditionsIn {branch : Option (List Element)} {sequence : String}
    {depth : Nat} (h : badConditionsIn vars sequence branch = []) :
    ∀ x ∈ placedIn depth branch, Reads vars x.2 := by
  match branch with
  | none => simp [placedIn]
  | some es => exact reads_of_badConditionsFrom h

end

/-! ## Substitution -/

/-- What an element becomes: its type stays, and its condition is filled. -/
inductive Becomes (vars : Table Value) : Element → Element → Prop
  | text {name s t} : Becomes vars (.text name s) (.text name t)
  | placeholder {name type config config'} :
      Becomes vars (.placeholder name type config) (.placeholder name type config')
  | conditional {name condition filled content content' otherwise otherwise'} :
      substituteCondition vars condition = .ok filled →
      Becomes vars (.conditional name condition content otherwise)
        (.conditional name filled content' otherwise')

theorem Becomes.hasKnownType {e e' : Element} (h : Becomes vars e e')
    (hknown : HasKnownType types e) : HasKnownType types e' := by
  cases h with
  | text => trivial
  | placeholder => exact hknown
  | conditional => trivial

theorem Becomes.readable {e e' : Element} (h : Becomes vars e e') (hreads : Reads vars e) :
    Readable e' := by
  cases h with
  | text => trivial
  | placeholder => trivial
  | conditional hfilled => exact hreads _ hfilled

mutual

theorem exists_of_mem_substitutedElement {e e' : Element} {depth : Nat}
    (h : substituteElement vars e = .ok e') :
    ∀ x' ∈ placed depth e', ∃ x ∈ placed depth e, Becomes vars x.2 x'.2 := by
  match e with
  | .text name s =>
    obtain ⟨t, -, h⟩ := Outcome.bind_eq_ok.1 h
    cases h
    simpa [placed] using Becomes.text
  | .placeholder name type config =>
    obtain ⟨config', -, h⟩ := Outcome.bind_eq_ok.1 h
    cases h
    simpa [placed] using Becomes.placeholder
  | .conditional name condition content otherwise =>
    obtain ⟨filled, hfilled, h⟩ := Outcome.bind_eq_ok.1 h
    obtain ⟨content', hcontent, h⟩ := Outcome.bind_eq_ok.1 h
    obtain ⟨otherwise', hotherwise, h⟩ := Outcome.bind_eq_ok.1 h
    cases h
    intro x' hx'
    rw [placed, List.mem_cons, List.mem_append] at hx'
    rw [placed]
    obtain rfl | hx' | hx' := hx'
    · exact ⟨_, List.mem_cons_self, .conditional hfilled⟩
    · obtain ⟨x, hx, hbecomes⟩ := exists_of_mem_substituted hcontent x' hx'
      exact ⟨x, List.mem_cons_of_mem _ (List.mem_append_left _ hx), hbecomes⟩
    · obtain ⟨x, hx, hbecomes⟩ := exists_of_mem_substitutedBranch hotherwise x' hx'
      exact ⟨x, List.mem_cons_of_mem _ (List.mem_append_right _ hx), hbecomes⟩

/-- **Every element after substitution** was an element before, at the same
depth, and has become what it is. -/
theorem exists_of_mem_substituted {es es' : List Element} {depth : Nat}
    (h : substituteElements vars es = .ok es') :
    ∀ x' ∈ placedAll depth es', ∃ x ∈ placedAll depth es, Becomes vars x.2 x'.2 := by
  match es with
  | [] =>
    cases h
    simp [placedAll]
  | e :: es =>
    obtain ⟨e', he, h⟩ := Outcome.bind_eq_ok.1 h
    obtain ⟨rest', hrest, h⟩ := Outcome.bind_eq_ok.1 h
    cases h
    intro x' hx'
    rw [placedAll, List.mem_append] at hx'
    rw [placedAll]
    obtain hx' | hx' := hx'
    · obtain ⟨x, hx, hbecomes⟩ := exists_of_mem_substitutedElement he x' hx'
      exact ⟨x, List.mem_append_left _ hx, hbecomes⟩
    · obtain ⟨x, hx, hbecomes⟩ := exists_of_mem_substituted hrest x' hx'
      exact ⟨x, List.mem_append_right _ hx, hbecomes⟩

theorem exists_of_mem_substitutedBranch {branch branch' : Option (List Element)} {depth : Nat}
    (h : substituteBranch vars branch = .ok branch') :
    ∀ x' ∈ placedIn depth branch', ∃ x ∈ placedIn depth branch, Becomes vars x.2 x'.2 := by
  match branch with
  | none =>
    cases h
    simp [placedIn]
  | some es =>
    obtain ⟨es', hes, rfl⟩ := Outcome.map_eq_ok.1 h
    exact exists_of_mem_substituted hes

end

end Report

end PromptTemplate
