import PromptTemplate.Proofs.Compile.Report
import PromptTemplate.Proofs.Schema.Loader
import PromptTemplate.Proofs.Vetting.Document
/-!
# PromptTemplate — what a valid report is worth

A report and a compilation look at the same things in different orders: the
one collects, the other stops at the first failure. `Clean` gathers what a
report without messages says, and `compile_of_clean` that a compilation
then gets as far as substitution, on whatever shelf it starts.

From there a valid report is not enough. It passes over conditions that
refer to values without a literal, and it does not vet conditions again
once they are filled, while compilation fails at both.
`sound_iff_of_isValid` says that nothing else can go wrong: these two are
the exact condition under which a valid document compiles, up to conditions
that have no value.
-/

namespace PromptTemplate

namespace Compile

open Element Interpolation

variable {p : Policy} {source : Schema.Source} {base : Option String} {doc : Value}
  {shelf : Schema.Shelf}

/-! ## Reports without messages -/

/-- Outcomes of loading without a message are schemas. -/
theorem exists_schemas {outcomes : List (Except Fault Schema)}
    (herrors : outcomes.filterMap Report.errorOf = [])
    (hissues : outcomes.filterMap Report.issueOf = []) :
    ∃ ss : List Schema, outcomes = ss.map .ok := by
  induction outcomes with
  | nil => exact ⟨[], rfl⟩
  | cons outcome rest ih =>
    cases outcome with
    | ok s =>
      obtain ⟨ss, rfl⟩ := ih herrors hissues
      exact ⟨s :: ss, rfl⟩
    | error fault =>
      -- a fault leaves a message in one of the two lists
      cases fault <;> simp [Report.errorOf, Report.issueOf] at herrors hissues

theorem loaded_map_ok (ss : List Schema) : Report.loaded (ss.map .ok) = ss := by
  induction ss with
  | nil => rfl
  | cons s ss ih =>
    rw [List.map_cons, Report.loaded, List.filterMap_cons_some (by rfl)]
    exact congrArg (s :: ·) ih

/-- What a report without messages says about a document, its template and
the schemas of the template. -/
structure Clean (p : Policy) (source : Schema.Source) (base : Option String) (doc : Value)
    (t : Template) (ss : List Schema) : Prop where
  vetted : Vetting.checkDocument p base doc = .ok ()
  decoded : Template.decode doc = .ok t
  schemas : t.extensions.map (Schema.direct p source base) = ss.map .ok
  types : Report.unknownTypesFrom (Resolution.resolve ss t.customTypes).types "content" 0
    t.content = []
  references : referenceErrors t.vars t.content = []
  conditions : Report.badConditionsFrom t.vars "content" 0 t.content = []

/-- **A valid report** is without messages, and says all this. -/
theorem exists_clean (hshelf : Schema.Faithful source shelf)
    (hvalid : (validate p source base doc shelf).1.isValid = true) :
    ∃ t ss, Clean p source base doc t ss := by
  unfold validate at hvalid
  dsimp only at hvalid
  split at hvalid
  · split at hvalid
    -- a document that cannot be decoded has a message
    · simp [Report.isValid] at hvalid
    · rename_i t hdecode
      obtain ⟨houtcomes, -⟩ := @Schema.loadEach_spec p source base shelf hshelf t.extensions
      simp only [houtcomes, Report.isValid, Report.ofTemplate, Bool.and_eq_true,
        List.isEmpty_iff, List.append_eq_nil_iff] at hvalid
      obtain ⟨⟨⟨⟨herrors, htypes⟩, hreferences⟩, hconditions⟩, hdocument, hissues⟩ := hvalid
      obtain ⟨ss, hss⟩ := exists_schemas herrors hissues
      rw [hss, loaded_map_ok, List.length_map, if_pos rfl] at htypes
      refine ⟨t, ss, ?_, hdecode, hss, htypes, hreferences, hconditions⟩
      unfold documentIssues at hdocument
      split at hdocument
      · assumption
      · cases hdocument
  · rename_i errors hsome
    simp only [Report.isValid, Bool.and_eq_true, List.isEmpty_iff] at hvalid
    exact absurd hvalid.1 hsome

/-! ## Compilation -/

/-- The outcomes of a compilation that a valid report leaves room for: a
prompt, or a condition that is read and has no value. -/
def Sound (vars : Table Value) (outcome : Except Fault Compiled) : Prop :=
  (∃ c, outcome = .ok c) ∨
    ∃ condition e why element, Condition.read condition = .ok e ∧
      Condition.evaluate vars e = .error why ∧
      outcome = .error (.compilation .conditionalEvaluation
        (BadCondition.mk condition why.message).message element)

/-- Every filled condition that pruning comes to passes the policy. -/
def Admits (p : Policy) (t : Template) : Prop :=
  ∀ es condition, substituteElements t.vars t.content = .ok es →
    Reaches p t.vars es condition → Vetting.checkCondition p condition = .ok ()

variable {t : Template} {ss : List Schema}

/-- A compilation after a report without messages gets as far as
substitution, with the variables and the schemas of the report. -/
theorem compile_of_clean (h : Clean p source base doc t ss)
    (hshelf : Schema.Faithful source shelf) :
    (compile p source base doc none shelf).1 = finish p t t.vars ss := by
  have hprepare : prepare p base doc none = .ok (t, t.vars) := by
    unfold prepare vetted
    rw [h.vetted, h.decoded]
    rfl
  have hload := Schema.loadAll_of_direct hshelf h.schemas
  unfold compile
  rw [hprepare]
  dsimp only
  split
  · rename_i heq
    rw [heq] at hload
    cases hload
  · rename_i heq
    rw [heq] at hload
    cases hload
    rfl

/-- A template whose conditions cannot all be filled is not compiled. -/
theorem finish_of_unfilled {u : Unresolved}
    (h : substituteElements t.vars t.content = .error u) :
    finish p t t.vars ss = .error (.unresolved u) := by
  unfold finish
  rw [h]
  rfl

/-- Once everything is filled, a compilation ends in a prompt, or as
pruning fails. -/
theorem finish_of_filled {es : List Element} (h : Clean p source base doc t ss)
    (hfilled : substituteElements t.vars t.content = .ok es) :
    (∃ pieces c, prune p t.vars es = .ok pieces ∧ finish p t t.vars ss = .ok c) ∨
      ∃ fault, prune p t.vars es = .error fault ∧ finish p t t.vars ss = .error fault := by
  have hfinish : finish p t t.vars ss = (do
      let pieces ← prune p t.vars es
      let prompt ← assemble (Resolution.resolve ss t.customTypes).types t.layout pieces
      return ⟨prompt, t, t.vars, (Resolution.resolve ss t.customTypes).overrides⟩) := by
    unfold finish
    rw [hfilled]
    rfl
  rw [hfinish]
  -- after pruning only the assembly is left, and that cannot fail
  cases hprune : prune p t.vars es with
  | error fault => exact .inr ⟨fault, rfl, rfl⟩
  | ok pieces =>
    have hknown : ∀ x ∈ placedAll 0 es,
        HasKnownType (Resolution.resolve ss t.customTypes).types x.2 := by
      intro x' hx'
      obtain ⟨x, hx, hbecomes⟩ := Report.exists_of_mem_substituted hfilled x' hx'
      exact hbecomes.hasKnownType (Report.knownType_of_unknownTypesFrom h.types x hx)
    obtain ⟨prompt, hprompt⟩ := @exists_assemble _ t.layout _ (known_of_pruneFrom hprune hknown)
    exact .inl ⟨pieces, _, rfl,
      Outcome.bind_eq_ok.2 ⟨pieces, rfl, Outcome.bind_eq_ok.2 ⟨prompt, hprompt, rfl⟩⟩⟩

/-- A pruning that fails after a report without messages fails at a
condition that is refused, or at one that is read and has no value. -/
theorem fails_of_clean {es : List Element} {fault : Fault} (h : Clean p source base doc t ss)
    (hfilled : substituteElements t.vars t.content = .ok es)
    (hprune : prune p t.vars es = .error fault) : Fails p t.vars es fault := by
  have hread : ∀ x ∈ placedAll 0 es, Readable x.2 := by
    intro x' hx'
    obtain ⟨x, hx, hbecomes⟩ := Report.exists_of_mem_substituted hfilled x' hx'
    exact hbecomes.readable (Report.reads_of_badConditionsFrom h.conditions x hx)
  exact fails_of_pruneFrom hprune hread

/-- Every filled condition that pruning comes to passes if pruning does not
end in a violation. -/
theorem admits_of_prune {es : List Element}
    (hfilled : substituteElements t.vars t.content = .ok es)
    (hprune : ∀ v, prune p t.vars es ≠ .error (.security v)) : Admits p t := by
  intro es' condition hfilled' hreached
  rw [hfilled] at hfilled'
  cases hfilled'
  cases hcheck : Vetting.checkCondition p condition with
  | ok _ => rfl
  | error v => exact absurd (pruneFrom_of_refused hreached hcheck 0) (hprune v)

/-- **What a valid report is worth.** On every two shelves that sessions
lead to: if the report on a document is valid, then compiling it ends in a
prompt or at a condition without a value if and only if every condition
refers to values with literals only and every filled condition that pruning
comes to passes the policy; otherwise it ends in an unresolved reference or
a security violation, and in no other way. -/
theorem sound_iff_of_isValid {p : Policy} {source : Schema.Source} {base : Option String}
    {doc : Value} {shelf shelf' : Schema.Shelf} (hshelf : Session.Reached source shelf)
    (hshelf' : Session.Reached source shelf')
    (hvalid : (validate p source base doc shelf).1.isValid = true) :
    ∃ t, Template.decode doc = .ok t ∧
      (Sound t.vars (compile p source base doc none shelf').1 ↔
        (∀ x ∈ placedAll 0 t.content, HasLiterals t.vars x.2) ∧ Admits p t) ∧
      (Sound t.vars (compile p source base doc none shelf').1 ∨
        (∃ u, (compile p source base doc none shelf').1 = .error (.unresolved u)) ∨
        ∃ v, (compile p source base doc none shelf').1 = .error (.security v)) := by
  obtain ⟨t, ss, hclean⟩ := exists_clean hshelf.faithful hvalid
  refine ⟨t, hclean.decoded, ?_⟩
  rw [compile_of_clean hclean hshelf'.faithful, ← exists_substituteElements_iff
    (resolves_of_referenceErrors hclean.references) 0]
  cases hfilled : substituteElements t.vars t.content with
  | error u =>
    rw [finish_of_unfilled hfilled]
    simp [Sound]
  | ok es =>
    obtain ⟨pieces, c, hprune, hc⟩ | ⟨fault, hprune, hfault⟩ := finish_of_filled hclean hfilled
    · have hsound : Sound t.vars (finish p t t.vars ss) := .inl ⟨c, hc⟩
      have hadmits : Admits p t := admits_of_prune hfilled (by simp [hprune])
      exact ⟨iff_of_true hsound ⟨⟨es, rfl⟩, hadmits⟩, .inl hsound⟩
    · rw [hfault]
      obtain ⟨condition, v, hreached, hcheck, rfl⟩ |
          ⟨condition, e, why, element, -, hread, hwhy, rfl⟩ :=
        fails_of_clean hclean hfilled hprune
      · have hnot : ¬ Admits p t := by
          intro hadmits
          rw [hadmits es condition hfilled hreached] at hcheck
          cases hcheck
        exact ⟨iff_of_false (by simp [Sound]) fun h => hnot h.2, .inr (.inr ⟨v, rfl⟩)⟩
      · have hsound : Sound t.vars (.error (.compilation .conditionalEvaluation
            (BadCondition.mk condition why.message).message element)) :=
          .inr ⟨condition, e, why, element, hread, hwhy, rfl⟩
        have hadmits : Admits p t := admits_of_prune hfilled (by simp [hprune])
        exact ⟨iff_of_true hsound ⟨⟨es, rfl⟩, hadmits⟩, .inl hsound⟩

/-! ## A valid document that does not compile -/

/-- A document whose condition refers to an object. -/
def objectDocument : Value :=
  .object (Table.ofList [
    ("version", .string "1"),
    ("variables", .object (Table.ofList [("o", .object .nil)])),
    ("content", .array [.object (Table.ofList [
      ("type", .string "conditional"),
      ("condition", .string "$\x7bo\x7d"),
      ("content", .array [])])])])

/-- The template of the document. -/
def objectTemplate : Template where
  version := "1"
  description := none
  extensions := []
  vars := Table.ofList [("o", .object .nil)]
  customTypes := .nil
  content := [.conditional none "$\x7bo\x7d" [] none]
  layout := .default

/-- A source without schemas. -/
def noSchemas : Schema.Source := fun _ => .error "not found"

theorem checkCondition_object : Vetting.checkCondition .strict "$\x7bo\x7d" = .ok () := by
  have hblocked : DenyList.expression.find? "$\x7bo\x7d" = none := by decide +kernel
  rw [Vetting.checkCondition, if_neg (by decide), hblocked]

theorem segments_object : segments "$\x7bo\x7d" = .ok [.reference "o"] := by cbv

theorem lookUp_object : lookUp objectTemplate.vars "o" = .ok (.object .nil) := by cbv

theorem decode_objectDocument : Template.decode objectDocument = .ok objectTemplate :=
  Template.decode_eq_ok.2 ⟨by cbv, by cbv⟩

theorem checkDocument_objectDocument :
    Vetting.checkDocument .strict none objectDocument = .ok () := by
  have hdescribes := Template.describes_of_decode decode_objectDocument
  refine (Vetting.checkDocument_of_describes hdescribes).2 ?_
  have hplaced : placedAll 0 objectTemplate.content =
      [(0, .conditional none "$\x7bo\x7d" [] none)] := by
    simp [objectTemplate, placedAll, placed, placedIn]
  exact {
    size := by decide +kernel
    count := by
      rw [hplaced]
      decide
    nesting := by
      rw [hplaced]
      simp [Vetting.NestsWithin, branches]
    elements := by
      rw [hplaced]
      simp [Vetting.PassesElement, checkCondition_object]
    vars := by rfl
    extensions := by
      intro address haddress
      cases haddress }

theorem isValid_objectDocument :
    (validate .strict noSchemas none objectDocument (.start 0 0)).1.isValid = true := by
  have hissues : documentIssues .strict none objectDocument = [] := by
    rw [documentIssues, checkDocument_objectDocument]
  unfold validate
  rw [hissues, (Template.decode_eq_ok.1 decode_objectDocument).1]
  dsimp only
  rw [decode_objectDocument]
  decide +kernel

/-- The report on the document is valid, and compiling it ends in an
unresolved reference. -/
theorem objectDocument_valid_not_sound :
    (validate .strict noSchemas none objectDocument (.start 0 0)).1.isValid = true ∧
      (compile .strict noSchemas none objectDocument none (.start 0 0)).1 =
        .error (.unresolved ⟨"o", "objects cannot be interpolated into a condition", []⟩) := by
  refine ⟨isValid_objectDocument, ?_⟩
  have hfaithful : Schema.Faithful noSchemas (.start 0 0) := Schema.faithful_opened noSchemas 0 0
  obtain ⟨t, ss, hclean⟩ := exists_clean hfaithful isValid_objectDocument
  obtain rfl : objectTemplate = t := by
    have hdecoded := hclean.decoded
    rw [decode_objectDocument] at hdecoded
    injection hdecoded
  rw [compile_of_clean hclean hfaithful]
  have hcondition : substituteCondition objectTemplate.vars "$\x7bo\x7d" =
      .error ⟨"o", "objects cannot be interpolated into a condition", []⟩ := by
    rw [substituteCondition, substituteWith, segments_object]
    dsimp only
    rw [fill, lookUp_object]
    rfl
  refine finish_of_unfilled ?_
  rw [show objectTemplate.content = [.conditional none "$\x7bo\x7d" [] none] from rfl,
    substituteElements, substituteElement, hcondition]
  rfl

/-- The object has no literal, so that compiling the document must end in
an unresolved reference or a violation. -/
theorem objectDocument_ends :
    (∃ u, (compile .strict noSchemas none objectDocument none (.start 0 0)).1 =
        .error (.unresolved u)) ∨
      ∃ v, (compile .strict noSchemas none objectDocument none (.start 0 0)).1 =
        .error (.security v) := by
  obtain ⟨t, hdecode, hiff, hends⟩ := sound_iff_of_isValid (Session.reached_start noSchemas 0 0)
    (Session.reached_start noSchemas 0 0) isValid_objectDocument
  obtain rfl : objectTemplate = t := by
    rw [decode_objectDocument] at hdecode
    injection hdecode
  refine hends.resolve_left fun hsound => ?_
  have hliterals : HasLiterals objectTemplate.vars (.conditional none "$\x7bo\x7d" [] none) :=
    (hiff.1 hsound).1 (0, _) (by simp [objectTemplate, placedAll, placed, placedIn])
  have hreferences : textReferences "$\x7bo\x7d" = ["o"] := by
    rw [textReferences, segments_object]
    rfl
  have hliteral : HasLiteral (.object .nil) :=
    hliterals "o" (by simp [hreferences]) (.object .nil) lookUp_object
  simp [HasLiteral, holdsObject] at hliteral

end Compile

end PromptTemplate
