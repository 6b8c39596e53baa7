import PromptTemplate.Compile.Assembly
import PromptTemplate.Proofs.Outcome
import PromptTemplate.Proofs.Template.Description
/-!
# PromptTemplate — what pruning comes to

Pruning decides conditions in the order of the document and leaves out the
branches that are not chosen, so that it does not see every condition.
`Reaches` is the relation between elements and the conditions that pruning
comes to in them. A pruning that fails does so at such a condition, which
is refused by the policy or has no value (`fails_of_pruneFrom`), and one
that comes to a refused condition fails (`pruneFrom_of_refused`).

What is left has no placeholders that were not there before, so that the
prompt can be assembled if all types are known (`exists_assemble`).
-/

namespace PromptTemplate

namespace Compile

open Element Condition

variable {p : Policy} {vars : Table Value}

/-! ## Reaching a condition -/

/-- Pruning elements comes to a condition: it stands at the front, or in
the branch that the condition at the front chooses, or behind an element
that could be pruned. -/
inductive Reaches (p : Policy) (vars : Table Value) : List Element → String → Prop
  | here {name condition content otherwise rest} :
      Reaches p vars (.conditional name condition content otherwise :: rest) condition
  | content {name condition content otherwise rest reached} :
      verdict p vars condition = .ok true → Reaches p vars content reached →
      Reaches p vars (.conditional name condition content otherwise :: rest) reached
  | otherwise {name condition content es rest reached} :
      verdict p vars condition = .ok false → Reaches p vars es reached →
      Reaches p vars (.conditional name condition content (some es) :: rest) reached
  | later {e rest pieces reached} : pruneElement p vars 0 e = .ok pieces →
      Reaches p vars rest reached → Reaches p vars (e :: rest) reached

/-- A condition at a position is decided as it is anywhere. -/
theorem decideAt_eq_ok {position : Nat} {name : Option String} {condition : String} {b : Bool} :
    decideAt p vars position name condition = .ok b ↔ verdict p vars condition = .ok b := by
  unfold decideAt
  split <;> simp_all

/-- A condition is refused by the policy or has no value if it cannot be
decided. -/
theorem decideAt_error {position : Nat} {name : Option String} {condition : String} {fault : Fault}
    (h : decideAt p vars position name condition = .error fault) :
    (∃ v, Vetting.checkCondition p condition = .error v ∧ fault = .security v) ∨
      ∃ b element, valueOf vars condition = .error b ∧
        fault = .compilation .conditionalEvaluation b.message element := by
  unfold decideAt verdict at h
  cases hcheck : Vetting.checkCondition p condition with
  | error v =>
    simp only [hcheck] at h
    cases h
    exact .inl ⟨v, rfl, rfl⟩
  | ok _ =>
    simp only [hcheck] at h
    cases hvalue : valueOf vars condition with
    | error b =>
      simp only [hvalue] at h
      cases h
      exact .inr ⟨b, _, rfl, rfl⟩
    | ok v =>
      simp only [hvalue] at h
      cases h

/-- A refused condition cannot be decided. -/
theorem decideAt_of_refused {position : Nat} {name : Option String} {condition : String}
    {v : Violation} (h : Vetting.checkCondition p condition = .error v) :
    decideAt p vars position name condition = .error (.security v) := by
  unfold decideAt verdict
  simp only [h]

theorem pruneElement_conditional {position : Nat} {name : Option String} {condition : String}
    {content : List Element} {otherwise : Option (List Element)} :
    pruneElement p vars position (.conditional name condition content otherwise) = (do
      let holds ← decideAt p vars position name condition
      if holds then pruneFrom p vars 0 content else pruneBranch p vars otherwise) := by
  rw [pruneElement]

/-- Where an element can be pruned does not depend on its position. -/
theorem pruneElement_eq_ok {e : Element} {position : Nat} {pieces : List Piece}
    (h : pruneElement p vars position e = .ok pieces) (position' : Nat) :
    pruneElement p vars position' e = .ok pieces := by
  cases e with
  | text name s => exact h
  | placeholder name type config => exact h
  | conditional name condition content otherwise =>
    rw [pruneElement_conditional] at h ⊢
    obtain ⟨b, hb, h⟩ := Outcome.bind_eq_ok.1 h
    exact Outcome.bind_eq_ok.2 ⟨b, decideAt_eq_ok.2 (decideAt_eq_ok.1 hb), h⟩

/-! ## Failures -/

/-- How pruning fails: it comes to a condition that the policy refuses, or
to one that is read and has no value. -/
def Fails (p : Policy) (vars : Table Value) (es : List Element) (fault : Fault) : Prop :=
  (∃ condition v, Reaches p vars es condition ∧ Vetting.checkCondition p condition = .error v ∧
    fault = .security v) ∨
  ∃ condition e why element, Reaches p vars es condition ∧ read condition = .ok e ∧
    evaluate vars e = .error why ∧
    fault = .compilation .conditionalEvaluation (BadCondition.mk condition why.message).message
      element

theorem Fails.mono {es fs : List Element} {fault : Fault} (h : Fails p vars es fault)
    (hreaches : ∀ condition, Reaches p vars es condition → Reaches p vars fs condition) :
    Fails p vars fs fault := by
  obtain ⟨condition, v, hreached, hrest⟩ | ⟨condition, e, why, element, hreached, hrest⟩ := h
  · exact .inl ⟨condition, v, hreaches _ hreached, hrest⟩
  · exact .inr ⟨condition, e, why, element, hreaches _ hreached, hrest⟩

/-- The condition of an element can be read. -/
def Readable : Element → Prop
  | .conditional _ condition _ _ => ∃ e, read condition = .ok e
  | _ => True

theorem fails_of_decideAt {position : Nat} {name : Option String} {condition : String}
    {content : List Element} {otherwise : Option (List Element)} {rest : List Element}
    {fault : Fault} (h : decideAt p vars position name condition = .error fault)
    (hread : ∃ e, read condition = .ok e) :
    Fails p vars (.conditional name condition content otherwise :: rest) fault := by
  obtain ⟨v, hcheck, rfl⟩ | ⟨b, element, hvalue, rfl⟩ := decideAt_error h
  · exact .inl ⟨condition, v, .here, hcheck, rfl⟩
  · obtain ⟨e, he⟩ := hread
    unfold valueOf at hvalue
    simp only [he] at hvalue
    cases hevaluate : evaluate vars e with
    | ok v =>
      simp only [hevaluate] at hvalue
      cases hvalue
    | error why =>
      simp only [hevaluate] at hvalue
      cases hvalue
      exact .inr ⟨condition, e, why, element, .here, he, hevaluate, rfl⟩

mutual

/-- An element that cannot be pruned fails at a condition in it. -/
theorem fails_of_pruneElement {e : Element} {position depth : Nat} {fault : Fault}
    (h : pruneElement p vars position e = .error fault)
    (hread : ∀ x ∈ placed depth e, Readable x.2) (rest : List Element) :
    Fails p vars (e :: rest) fault := by
  match e with
  | .text name s => cases h
  | .placeholder name type config => cases h
  | .conditional name condition content otherwise =>
    rw [placed, List.forall_mem_cons, List.forall_mem_append] at hread
    obtain ⟨hcondition, hcontent, hotherwise⟩ := hread
    rw [pruneElement_conditional] at h
    obtain h | ⟨b, hb, h⟩ := Outcome.bind_eq_error.1 h
    · exact fails_of_decideAt h hcondition
    · -- pruning has chosen a branch, and the failure is in that one
      have hverdict := decideAt_eq_ok.1 hb
      cases b with
      | true => exact (fails_of_pruneFrom h hcontent).mono fun _ => .content hverdict
      | false =>
        obtain ⟨es, rfl, hfails⟩ := fails_of_pruneBranch h hotherwise
        exact hfails.mono fun _ => .otherwise hverdict

/-- **Elements that cannot be pruned** fail at a condition that pruning
comes to. -/
theorem fails_of_pruneFrom {es : List Element} {position depth : Nat} {fault : Fault}
    (h : pruneFrom p vars position es = .error fault)
    (hread : ∀ x ∈ placedAll depth es, Readable x.2) : Fails p vars es fault := by
  match es with
  | [] => cases h
  | e :: es =>
    rw [placedAll, List.forall_mem_append] at hread
    rw [pruneFrom] at h
    obtain h | ⟨here, hhere, h⟩ := Outcome.bind_eq_error.1 h
    · exact fails_of_pruneElement h hread.1 es
    -- what is behind is pruned at a later position, which does not matter
    · obtain h | ⟨behind, -, h⟩ := Outcome.bind_eq_error.1 h
      · exact (fails_of_pruneFrom h hread.2).mono fun _ => .later (pruneElement_eq_ok hhere 0)
      · cases h

/-- A branch that cannot be pruned is there, and fails. -/
theorem fails_of_pruneBranch {branch : Option (List Element)} {depth : Nat} {fault : Fault}
    (h : pruneBranch p vars branch = .error fault)
    (hread : ∀ x ∈ placedIn depth branch, Readable x.2) :
    ∃ es, branch = some es ∧ Fails p vars es fault := by
  match branch with
  | none => cases h
  | some es => exact ⟨es, rfl, fails_of_pruneFrom h hread⟩

end

/-- **A condition that is refused** fails the pruning that comes to it. -/
theorem pruneFrom_of_refused {es : List Element} {condition : String} {v : Violation}
    (h : Reaches p vars es condition) (hcheck : Vetting.checkCondition p condition = .error v)
    (position : Nat) : pruneFrom p vars position es = .error (.security v) := by
  induction h generalizing position with
  | here =>
    rw [pruneFrom, pruneElement_conditional, decideAt_of_refused hcheck]
    rfl
  | content hverdict _ ih =>
    rw [pruneFrom, pruneElement_conditional, decideAt_eq_ok.2 hverdict]
    refine Outcome.bind_eq_error.2 (.inl ?_)
    exact ih hcheck 0
  | otherwise hverdict _ ih =>
    rw [pruneFrom, pruneElement_conditional, decideAt_eq_ok.2 hverdict]
    refine Outcome.bind_eq_error.2 (.inl ?_)
    exact ih hcheck 0
  | later hpieces _ ih =>
    rw [pruneFrom, pruneElement_eq_ok hpieces position]
    refine Outcome.bind_eq_error.2 (.inr ⟨_, rfl, Outcome.bind_eq_error.2 (.inl ?_)⟩)
    exact ih hcheck (position + 1)

/-! ## Known types -/

/-- The instruction type of an element is known. -/
def HasKnownType (types : Table InstructionType) : Element → Prop
  | .placeholder _ type _ => types.contains type = true
  | _ => True

/-- The instruction type of a piece is known. -/
def PieceKnown (types : Table InstructionType) : Piece → Prop
  | .placeholder _ type _ => types.contains type = true
  | .text .. => True

variable {types : Table InstructionType}

mutual

/-- What is left of an element of known types has known types. -/
theorem known_of_pruneElement {e : Element} {position depth : Nat} {pieces : List Piece}
    (h : pruneElement p vars position e = .ok pieces)
    (hknown : ∀ x ∈ placed depth e, HasKnownType types x.2) :
    ∀ piece ∈ pieces, PieceKnown types piece := by
  match e with
  | .text name s =>
    cases h
    simp [PieceKnown]
  | .placeholder name type config =>
    cases h
    simpa [placed, HasKnownType, PieceKnown] using hknown
  | .conditional name condition content otherwise =>
    rw [placed, List.forall_mem_cons, List.forall_mem_append] at hknown
    obtain ⟨-, hcontent, hotherwise⟩ := hknown
    rw [pruneElement_conditional] at h
    obtain ⟨b, -, h⟩ := Outcome.bind_eq_ok.1 h
    cases b with
    | true => exact known_of_pruneFrom h hcontent
    | false => exact known_of_pruneBranch h hotherwise

/-- What is left of elements of known types has known types. -/
theorem known_of_pruneFrom {es : List Element} {position depth : Nat} {pieces : List Piece}
    (h : pruneFrom p vars position es = .ok pieces)
    (hknown : ∀ x ∈ placedAll depth es, HasKnownType types x.2) :
    ∀ piece ∈ pieces, PieceKnown types piece := by
  match es with
  | [] =>
    cases h
    simp
  | e :: es =>
    rw [placedAll, List.forall_mem_append] at hknown
    rw [pruneFrom] at h
    obtain ⟨here, hhere, h⟩ := Outcome.bind_eq_ok.1 h
    obtain ⟨behind, hbehind, h⟩ := Outcome.bind_eq_ok.1 h
    cases h
    exact List.forall_mem_append.2
      ⟨known_of_pruneElement hhere hknown.1, known_of_pruneFrom hbehind hknown.2⟩

/-- What is left of a branch of known types has known types. -/
theorem known_of_pruneBranch {branch : Option (List Element)} {depth : Nat}
    {pieces : List Piece} (h : pruneBranch p vars branch = .ok pieces)
    (hknown : ∀ x ∈ placedIn depth branch, HasKnownType types x.2) :
    ∀ piece ∈ pieces, PieceKnown types piece := by
  match branch with
  | none =>
    cases h
    simp
  | some es => exact known_of_pruneFrom h hknown

end

theorem exists_body {layout : Layout} {pieces : List Piece}
    (h : ∀ piece ∈ pieces, PieceKnown types piece) (position : Nat) :
    ∃ text, body types layout position pieces = .ok text := by
  induction pieces generalizing position with
  | nil => exact ⟨"", rfl⟩
  | cons piece rest ih =>
    rw [List.forall_mem_cons] at h
    obtain ⟨behind, hbehind⟩ := ih h.2 (position + 1)
    have hhere : ∃ text, pieceText types layout position piece = .ok text := by
      cases piece with
      | text name s => exact ⟨s, rfl⟩
      | placeholder name type config =>
        obtain ⟨t, ht⟩ := Option.isSome_iff_exists.1 h.1
        unfold pieceText
        simp only [ht]
        exact ⟨_, rfl⟩
    obtain ⟨here, hhere⟩ := hhere
    exact ⟨_, Outcome.bind_eq_ok.2 ⟨here, hhere, Outcome.bind_eq_ok.2 ⟨behind, hbehind, rfl⟩⟩⟩

/-- **A prompt can be assembled** from pieces of known types. -/
theorem exists_assemble {layout : Layout} {pieces : List Piece}
    (h : ∀ piece ∈ pieces, PieceKnown types piece) :
    ∃ prompt, assemble types layout pieces = .ok prompt := by
  obtain ⟨text, htext⟩ := exists_body h 0
  exact ⟨_, Outcome.map_eq_ok.2 ⟨text, htext, rfl⟩⟩

end Compile

end PromptTemplate
