import PromptTemplate.Proofs.Compile.Supplied
/-!
# PromptTemplate — a report raises no false alarm

A compilation stops at the first failure and never looks into the branches
that pruning drops; a report goes on and looks everywhere. So a document
that compiles may still have messages in its report, but only about what
stands in a dropped branch: `dropped` lists these elements with their
places, by the verdicts that pruning goes by, and `report_of_compile` says
that the report is without security issues, has the warnings of the
compilation, and has as its errors just what the dropped elements give
rise to. Where there is no conditional nothing is dropped, and a report is
valid exactly if the document compiles.
-/

namespace PromptTemplate

open Element Interpolation

/-! ## Elements with their places -/

namespace Report

mutual

/-- The element at a place and those in its branches, with their places, in
the order of the document. -/
def addressedAt (place : String) : Element → List (String × Element)
  | .text name s => [(place, .text name s)]
  | .placeholder name type config => [(place, .placeholder name type config)]
  | .conditional name condition content otherwise =>
    (place, .conditional name condition content otherwise) ::
      (addressedFrom (place ++ ".content") 0 content ++ addressedIn (place ++ ".else") otherwise)

/-- The elements of a sequence and those in their branches, of which the
first has a position. -/
def addressedFrom (sequence : String) (position : Nat) : List Element → List (String × Element)
  | [] => []
  | e :: es =>
    addressedAt (placeOf sequence position) e ++ addressedFrom sequence (position + 1) es

/-- The elements of a branch, if there is one. -/
def addressedIn (sequence : String) : Option (List Element) → List (String × Element)
  | none => []
  | some es => addressedFrom sequence 0 es

end

/-- The message about the instruction type of an element at a place. -/
def typeErrors (types : Table InstructionType) (x : String × Element) : List String :=
  match x.2 with
  | .placeholder _ type _ =>
    if types.contains type then [] else [s!"{x.1}: unknown instruction type '{type}'"]
  | _ => []

/-- The message about the condition of an element at a place. -/
def readingErrors (vars : Table Value) (x : String × Element) : List String :=
  match x.2 with
  | .conditional _ condition _ _ => conditionErrors vars x.1 condition
  | _ => []

variable {types : Table InstructionType} {vars : Table Value}

mutual

theorem unknownTypesAt_eq (place : String) (e : Element) :
    unknownTypesAt types place e = (addressedAt place e).flatMap (typeErrors types) := by
  match e with
  | .text name s => simp [unknownTypesAt, addressedAt, typeErrors]
  | .placeholder name type config => simp [unknownTypesAt, addressedAt, typeErrors]
  | .conditional name condition content otherwise =>
    rw [unknownTypesAt, addressedAt, List.flatMap_cons, List.flatMap_append,
      unknownTypesFrom_eq, unknownTypesIn_eq]
    rfl

/-- The messages about types are those of the elements, one by one. -/
theorem unknownTypesFrom_eq (sequence : String) (position : Nat) (es : List Element) :
    unknownTypesFrom types sequence position es =
      (addressedFrom sequence position es).flatMap (typeErrors types) := by
  match es with
  | [] => rfl
  | e :: es =>
    rw [unknownTypesFrom, addressedFrom, List.flatMap_append, unknownTypesAt_eq,
      unknownTypesFrom_eq]

theorem unknownTypesIn_eq (sequence : String) (branch : Option (List Element)) :
    unknownTypesIn types sequence branch =
      (addressedIn sequence branch).flatMap (typeErrors types) := by
  match branch with
  | none => rfl
  | some es => exact unknownTypesFrom_eq sequence 0 es

end

mutual

theorem badConditionsAt_eq (place : String) (e : Element) :
    badConditionsAt vars place e = (addressedAt place e).flatMap (readingErrors vars) := by
  match e with
  | .text name s => simp [badConditionsAt, addressedAt, readingErrors]
  | .placeholder name type config => simp [badConditionsAt, addressedAt, readingErrors]
  | .conditional name condition content otherwise =>
    rw [badConditionsAt, addressedAt, List.flatMap_cons, List.flatMap_append,
      badConditionsFrom_eq, badConditionsIn_eq]
    rfl

/-- The messages about conditions are those of the elements, one by one. -/
theorem badConditionsFrom_eq (sequence : String) (position : Nat) (es : List Element) :
    badConditionsFrom vars sequence position es =
      (addressedFrom sequence position es).flatMap (readingErrors vars) := by
  match es with
  | [] => rfl
  | e :: es =>
    rw [badConditionsFrom, addressedFrom, List.flatMap_append, badConditionsAt_eq,
      badConditionsFrom_eq]

theorem badConditionsIn_eq (sequence : String) (branch : Option (List Element)) :
    badConditionsIn vars sequence branch =
      (addressedIn sequence branch).flatMap (readingErrors vars) := by
  match branch with
  | none => rfl
  | some es => exact badConditionsFrom_eq sequence 0 es

end

/-- Substitution keeps the type of an element. -/
theorem Becomes.typeName_eq {e e' : Element} (h : Becomes vars e e') :
    e'.typeName = e.typeName := by
  cases h with
  | text => rfl
  | placeholder => rfl
  | conditional _ => rfl

end Report

namespace Compile

open Report

variable {p : Policy} {source : Schema.Source} {base : Option String} {doc : Value}
  {shelf shelf' : Schema.Shelf} {types : Table InstructionType} {vars : Table Value}

/-! ## What pruning drops -/

/-- The verdict by which pruning chooses a branch; nothing if the condition
cannot be filled or has no verdict. -/
def chosen? (p : Policy) (vars : Table Value) (condition : String) : Option Bool := do
  let filled ← (substituteCondition vars condition).toOption
  (Condition.verdict p vars filled).toOption

theorem chosen?_eq_some {condition filled : String} {b : Bool}
    (hfilled : substituteCondition vars condition = .ok filled)
    (hverdict : Condition.verdict p vars filled = .ok b) : chosen? p vars condition = some b := by
  unfold chosen?
  rw [hfilled]
  exact Outcome.toOption_eq_some.2 hverdict

mutual

/-- What pruning drops of the element at a place: of a conditional the
branch that is not chosen as a whole, and what is dropped of the other. -/
def droppedAt (p : Policy) (vars : Table Value) (place : String) :
    Element → List (String × Element)
  | .text _ _ => []
  | .placeholder _ _ _ => []
  | .conditional _ condition content otherwise =>
    match chosen? p vars condition with
    | some true =>
      droppedFrom p vars (place ++ ".content") 0 content ++
        addressedIn (place ++ ".else") otherwise
    | some false =>
      addressedFrom (place ++ ".content") 0 content ++
        droppedIn p vars (place ++ ".else") otherwise
    | none => []

/-- What pruning drops of a sequence, of which the first element has a
position. -/
def droppedFrom (p : Policy) (vars : Table Value) (sequence : String) (position : Nat) :
    List Element → List (String × Element)
  | [] => []
  | e :: es =>
    droppedAt p vars (placeOf sequence position) e ++
      droppedFrom p vars sequence (position + 1) es

/-- What pruning drops of a branch, if there is one. -/
def droppedIn (p : Policy) (vars : Table Value) (sequence : String) :
    Option (List Element) → List (String × Element)
  | none => []
  | some es => droppedFrom p vars sequence 0 es

end

/-- What is dropped of a conditional goes by its verdict alone. -/
theorem droppedAt_conditional {name : Option String} {condition : String} {content : List Element}
    {otherwise : Option (List Element)} {b : Bool} (h : chosen? p vars condition = some b)
    (place : String) :
    droppedAt p vars place (.conditional name condition content otherwise) =
      if b then
        droppedFrom p vars (place ++ ".content") 0 content ++
          addressedIn (place ++ ".else") otherwise
      else
        addressedFrom (place ++ ".content") 0 content ++
          droppedIn p vars (place ++ ".else") otherwise := by
  rw [droppedAt, h]
  cases b <;> rfl

/-- The elements of a content that pruning drops, with their places. -/
def dropped (p : Policy) (vars : Table Value) (content : List Element) : List (String × Element) :=
  droppedFrom p vars "content" 0 content

/-- Nothing is dropped of elements without branches. -/
theorem droppedFrom_eq_nil {es : List Element} (h : ∀ e ∈ es, e.typeName ≠ "conditional")
    (sequence : String) (position : Nat) : droppedFrom p vars sequence position es = [] := by
  induction es generalizing position with
  | nil => rfl
  | cons e es ih =>
    rw [List.forall_mem_cons] at h
    rw [droppedFrom, ih h.2, List.append_nil]
    cases e with
    | text name s => rfl
    | placeholder name type config => rfl
    | conditional name condition content otherwise => exact absurd rfl h.1

/-- A check that finds nothing where pruning goes through: not at texts, not
at placeholders of known type and not at conditions with a verdict. -/
structure QuietWhereKept (p : Policy) (vars : Table Value) (types : Table InstructionType)
    (check : String × Element → List String) : Prop where
  text : ∀ place name s, check (place, .text name s) = []
  placeholder : ∀ place name type config, types.contains type = true →
    check (place, .placeholder name type config) = []
  conditional : ∀ place name condition content otherwise b, chosen? p vars condition = some b →
    check (place, .conditional name condition content otherwise) = []

theorem quietWhereKept_typeErrors : QuietWhereKept p vars types (typeErrors types) where
  text _ _ _ := rfl
  placeholder _ _ _ _ htype := if_pos htype
  conditional _ _ _ _ _ _ _ := rfl

/-- A condition with a verdict can be read. -/
theorem quietWhereKept_readingErrors : QuietWhereKept p vars types (readingErrors vars) where
  text _ _ _ := rfl
  placeholder _ _ _ _ _ := rfl
  conditional place _ condition _ _ b hchosen := by
    obtain ⟨filled, hfilled, hverdict⟩ := Option.bind_eq_some_iff.1 hchosen
    rw [Outcome.toOption_eq_some] at hfilled hverdict
    show conditionErrors vars place condition = []
    unfold conditionErrors
    rw [hfilled]
    dsimp only
    unfold Condition.verdict at hverdict
    split at hverdict
    · cases hverdict
    · unfold Condition.valueOf at hverdict
      cases hread : Condition.read filled with
      | ok e => rfl
      | error b =>
        rw [hread] at hverdict
        cases hverdict

mutual

theorem flatMap_addressedAt {check : String × Element → List String} {e e' : Element}
    {pieces : List Piece} {position : Nat} (hcheck : QuietWhereKept p vars types check)
    (hfilled : substituteElement vars e = .ok e')
    (hpruned : pruneElement p vars position e' = .ok pieces)
    (hknown : ∀ piece ∈ pieces, PieceKnown types piece) (place : String) :
    (addressedAt place e).flatMap check = (droppedAt p vars place e).flatMap check := by
  match e with
  | .text name s => simp [addressedAt, droppedAt, hcheck.text]
  | .placeholder name type config =>
    obtain ⟨config', -, h⟩ := Outcome.bind_eq_ok.1 hfilled
    cases h
    cases hpruned
    have htype : types.contains type = true := hknown _ (List.mem_singleton.2 rfl)
    simp [addressedAt, droppedAt, hcheck.placeholder place name type config htype]
  | .conditional name condition content otherwise =>
    obtain ⟨filled, hcondition, h⟩ := Outcome.bind_eq_ok.1 hfilled
    obtain ⟨content', hcontent, h⟩ := Outcome.bind_eq_ok.1 h
    obtain ⟨otherwise', hotherwise, h⟩ := Outcome.bind_eq_ok.1 h
    cases h
    rw [pruneElement_conditional] at hpruned
    obtain ⟨b, hb, hbranch⟩ := Outcome.bind_eq_ok.1 hpruned
    have hchosen : chosen? p vars condition = some b :=
      chosen?_eq_some hcondition (decideAt_eq_ok.1 hb)
    rw [addressedAt, List.flatMap_cons, hcheck.conditional _ _ _ _ _ b hchosen, List.nil_append,
      List.flatMap_append, droppedAt_conditional hchosen]
    -- the chosen branch is kept, and the other one is dropped as a whole
    cases b with
    | true =>
      rw [if_pos rfl, List.flatMap_append, flatMap_addressedFrom hcheck hcontent hbranch hknown]
    | false =>
      rw [if_neg Bool.false_ne_true, List.flatMap_append,
        flatMap_addressedIn hcheck hotherwise hbranch hknown]

/-- **What a check finds in elements that can be pruned,** it finds in what
is dropped of them. -/
theorem flatMap_addressedFrom {check : String × Element → List String} {es es' : List Element}
    {pieces : List Piece} {position : Nat} (hcheck : QuietWhereKept p vars types check)
    (hfilled : substituteElements vars es = .ok es')
    (hpruned : pruneFrom p vars position es' = .ok pieces)
    (hknown : ∀ piece ∈ pieces, PieceKnown types piece) (sequence : String) (start : Nat) :
    (addressedFrom sequence start es).flatMap check =
      (droppedFrom p vars sequence start es).flatMap check := by
  match es with
  | [] => rfl
  | e :: es =>
    obtain ⟨e', he, h⟩ := Outcome.bind_eq_ok.1 hfilled
    obtain ⟨rest', hrest, h⟩ := Outcome.bind_eq_ok.1 h
    cases h
    rw [pruneFrom] at hpruned
    obtain ⟨here, hhere, h⟩ := Outcome.bind_eq_ok.1 hpruned
    obtain ⟨behind, hbehind, h⟩ := Outcome.bind_eq_ok.1 h
    cases h
    rw [List.forall_mem_append] at hknown
    rw [addressedFrom, droppedFrom, List.flatMap_append, List.flatMap_append,
      flatMap_addressedAt hcheck he hhere hknown.1,
      flatMap_addressedFrom hcheck hrest hbehind hknown.2]

theorem flatMap_addressedIn {check : String × Element → List String}
    {branch branch' : Option (List Element)} {pieces : List Piece}
    (hcheck : QuietWhereKept p vars types check)
    (hfilled : substituteBranch vars branch = .ok branch')
    (hpruned : pruneBranch p vars branch' = .ok pieces)
    (hknown : ∀ piece ∈ pieces, PieceKnown types piece) (sequence : String) :
    (addressedIn sequence branch).flatMap check =
      (droppedIn p vars sequence branch).flatMap check := by
  match branch with
  | none => rfl
  | some es =>
    obtain ⟨es', hes, rfl⟩ := Outcome.map_eq_ok.1 hfilled
    exact flatMap_addressedFrom hcheck hes hpruned hknown sequence 0

end

/-! ## A compilation that succeeds -/

/-- A piece without a known type cannot be assembled. -/
theorem known_of_body {layout : Layout} {pieces : List Piece} {position : Nat} {text : String}
    (h : body types layout position pieces = .ok text) :
    ∀ piece ∈ pieces, PieceKnown types piece := by
  induction pieces generalizing position text with
  | nil => simp
  | cons piece rest ih =>
    obtain ⟨here, hhere, h⟩ := Outcome.bind_eq_ok.1 h
    obtain ⟨behind, hbehind, -⟩ := Outcome.bind_eq_ok.1 h
    refine List.forall_mem_cons.2 ⟨?_, ih hbehind⟩
    cases piece with
    | text name s => trivial
    | placeholder name type config =>
      unfold pieceText at hhere
      dsimp only at hhere
      split at hhere
      · cases hhere
      · rename_i t ht
        exact Option.isSome_iff_exists.2 ⟨t, ht⟩

theorem overrides_of_finish {t : Template} {ss : List Schema} {c : Compiled}
    (h : finish p t vars ss = .ok c) :
    c.overrides = (Resolution.resolve ss t.customTypes).overrides := by
  obtain ⟨es, -, h⟩ := Outcome.bind_eq_ok.1 h
  obtain ⟨pieces, -, h⟩ := Outcome.bind_eq_ok.1 h
  obtain ⟨prompt, -, h⟩ := Outcome.bind_eq_ok.1 h
  cases h
  rfl

theorem mapM_eq_ok {ε α β : Type} {f : α → Except ε β} {as : List α} {bs : List β}
    (h : as.mapM f = .ok bs) : as.map f = bs.map .ok := by
  induction as generalizing bs with
  | nil =>
    cases h
    rfl
  | cons a as ih =>
    rw [List.mapM_cons] at h
    obtain ⟨b, hb, h⟩ := Outcome.bind_eq_ok.1 h
    obtain ⟨rest, hrest, h⟩ := Outcome.bind_eq_ok.1 h
    cases h
    rw [List.map_cons, List.map_cons, hb, ih hrest]

theorem filterMap_map_ok {f : Except Fault Schema → Option String} (ss : List Schema)
    (h : ∀ s, f (.ok s) = none) : (ss.map .ok).filterMap f = [] := by
  induction ss with
  | nil => rfl
  | cons s ss ih => rw [List.map_cons, List.filterMap_cons_none (h s), ih]

/-- What a report says about a template all of whose schemas are there. -/
theorem ofTemplate_of_loaded (t : Template) (ss : List Schema) :
    Report.ofTemplate t [] (ss.map .ok) =
      { errors :=
          (addressedFrom "content" 0 t.content).flatMap
            (typeErrors (Resolution.resolve ss t.customTypes).types) ++
          referenceErrors t.vars t.content ++
          (addressedFrom "content" 0 t.content).flatMap (readingErrors t.vars)
        warnings := (Resolution.resolve ss t.customTypes).warnings
        securityIssues := [] } := by
  have herrors : (ss.map .ok).filterMap Report.errorOf = [] := filterMap_map_ok ss fun _ => rfl
  have hissues : (ss.map .ok).filterMap Report.issueOf = [] := filterMap_map_ok ss fun _ => rfl
  unfold Report.ofTemplate
  rw [loaded_map_ok, List.length_map, herrors, hissues]
  dsimp only
  rw [if_pos rfl, unknownTypesFrom_eq, badConditionsFrom_eq]
  rfl

/-- The report on a document that passes and decodes is the one on its
template. -/
theorem validate_of_passed {t : Template} (hshelf : Schema.Faithful source shelf)
    (hvetted : Vetting.checkDocument p base doc = .ok ())
    (hdecode : Template.decode doc = .ok t) :
    (validate p source base doc shelf).1 =
      Report.ofTemplate t [] (t.extensions.map (Schema.direct p source base)) := by
  have hissues : documentIssues p base doc = [] := by
    unfold documentIssues
    rw [hvetted]
  obtain ⟨houtcomes, -⟩ := @Schema.loadEach_spec p source base shelf hshelf t.extensions
  unfold validate
  rw [hissues, (Template.decode_eq_ok.1 hdecode).1]
  dsimp only
  rw [hdecode]
  dsimp only
  rw [houtcomes]

/-- **The report on a document that compiles.** Its errors are what the
dropped elements give rise to, its warnings are those of the compilation,
and it has no security issues. -/
theorem report_of_compile {c : Compiled} (hshelf : Schema.Faithful source shelf)
    (hshelf' : Schema.Faithful source shelf')
    (h : (compile p source base doc none shelf').1 = .ok c) :
    ∃ ss, c.template.extensions.mapM (Schema.direct p source base) = .ok ss ∧
      (validate p source base doc shelf).1 =
        { errors :=
            (dropped p c.vars c.template.content).flatMap
              (typeErrors (Resolution.resolve ss c.template.customTypes).types) ++
            (dropped p c.vars c.template.content).flatMap (readingErrors c.vars)
          warnings := c.warnings
          securityIssues := [] } := by
  obtain ⟨hprepare, ss, hload, hfinish⟩ := compile_eq_ok h
  obtain ⟨hdecode, hvars⟩ := prepare_eq_ok hprepare
  have hdeclared : c.vars = c.template.vars := hvars
  have hvetted := (vetted_of_prepare hprepare).1
  have hdirect : c.template.extensions.mapM (Schema.direct p source base) = .ok ss := by
    rw [← Schema.loadAll_spec hshelf', hload]
  obtain ⟨-, -, es, pieces, text, hfilled, hpruned, hassembled, -, -⟩ := finish_eq_ok hfinish
  have hreferences : referenceErrors c.vars c.template.content = [] :=
    referenceErrors_of_resolves (resolves_of_substituteElements hfilled)
  have hwarnings : c.warnings = (Resolution.resolve ss c.template.customTypes).warnings :=
    congrArg (List.map Override.message) (overrides_of_finish hfinish)
  obtain ⟨behind, hbehind, -⟩ := Outcome.map_eq_ok.1 hassembled
  have hknown := known_of_body hbehind
  refine ⟨ss, hdirect, ?_⟩
  rw [validate_of_passed hshelf hvetted hdecode, mapM_eq_ok hdirect, ofTemplate_of_loaded,
    ← hdeclared, hreferences, List.append_nil,
    flatMap_addressedFrom quietWhereKept_typeErrors hfilled hpruned hknown,
    flatMap_addressedFrom quietWhereKept_readingErrors hfilled hpruned hknown, hwarnings]
  rfl

/-! ## Templates without conditionals -/

/-- No conditional stands at any depth of elements without one. -/
theorem typeName_of_placedAll {es : List Element} {depth : Nat}
    (h : ∀ e ∈ es, e.typeName ≠ "conditional") :
    ∀ x ∈ placedAll depth es, x.2.typeName ≠ "conditional" := by
  induction es with
  | nil => simp [placedAll]
  | cons e es ih =>
    rw [List.forall_mem_cons] at h
    rw [placedAll, List.forall_mem_append]
    refine ⟨?_, ih h.2⟩
    cases e with
    | text name s => simp [placed, typeName]
    | placeholder name type config => simp [placed, typeName]
    | conditional name condition content otherwise => exact absurd rfl h.1

/-- Where pruning comes to a condition there is a conditional. -/
theorem exists_conditional_of_reaches {es : List Element} {condition : String}
    (h : Reaches p vars es condition) (depth : Nat) :
    ∃ x ∈ placedAll depth es, x.2.typeName = "conditional" := by
  have hfirst : ∀ {name condition content otherwise rest},
      ∃ x ∈ placedAll depth (.conditional name condition content otherwise :: rest),
        x.2.typeName = "conditional" := by
    intro name condition content otherwise rest
    exact ⟨(depth, .conditional name condition content otherwise),
      by simp [placedAll, placed], rfl⟩
  induction h with
  | here => exact hfirst
  | content _ _ _ => exact hfirst
  | otherwise _ _ _ => exact hfirst
  | later _ _ ih =>
    obtain ⟨x, hx, htype⟩ := ih
    rw [placedAll]
    exact ⟨x, List.mem_append_right _ hx, htype⟩

/-- A template without conditionals compiles if the report on it is
valid. -/
theorem exists_compile_of_isValid (hshelf : Schema.Faithful source shelf)
    (hshelf' : Schema.Faithful source shelf')
    (hplain : ∀ t, Template.decode doc = .ok t → ∀ e ∈ t.content, e.typeName ≠ "conditional")
    (hvalid : (validate p source base doc shelf).1.isValid = true) :
    ∃ c, (compile p source base doc none shelf').1 = .ok c := by
  obtain ⟨t, ss, hclean⟩ := exists_clean hshelf hvalid
  have hplaced : ∀ x ∈ placedAll 0 t.content, x.2.typeName ≠ "conditional" :=
    typeName_of_placedAll (hplain t hclean.decoded)
  have hliterals : ∀ x ∈ placedAll 0 t.content, HasLiterals t.vars x.2 := by
    rintro ⟨depth, e⟩ hx
    cases e with
    | text name s => trivial
    | placeholder name type config => trivial
    | conditional name condition content otherwise => exact absurd rfl (hplaced _ hx)
  obtain ⟨es, hfilled⟩ := (exists_substituteElements_iff
    (resolves_of_referenceErrors hclean.references) 0).2 hliterals
  rw [compile_of_clean hclean hshelf']
  rcases finish_of_filled hclean hfilled with ⟨pieces, c, -, hc⟩ | ⟨fault, hprune, -⟩
  · exact ⟨c, hc⟩
  · -- pruning fails at conditions only, and filling has not made any
    have hreached : ∃ condition, Reaches p t.vars es condition := by
      rcases fails_of_clean hclean hfilled hprune with
        ⟨condition, v, hreached, -⟩ | ⟨condition, e, why, element, hreached, -⟩
      · exact ⟨condition, hreached⟩
      · exact ⟨condition, hreached⟩
    obtain ⟨condition, hreached⟩ := hreached
    obtain ⟨x', hx', htype⟩ := exists_conditional_of_reaches hreached 0
    obtain ⟨x, hx, hbecomes⟩ := exists_of_mem_substituted hfilled x' hx'
    rw [hbecomes.typeName_eq] at htype
    exact absurd htype (hplaced x hx)

/-- **A report raises no false alarm.** On every two shelves that sessions
lead to: the report on a document that compiles with its own variables has
no security issues and the warnings of the compilation, and its errors are
the unknown types and the unreadable conditions of the elements that
pruning drops. A document without conditionals compiles if and only if the
report on it is valid. -/
theorem no_false_alarm {p : Policy} {source : Schema.Source} {base : Option String} {doc : Value}
    {shelf shelf' : Schema.Shelf} (hshelf : Session.Reached source shelf)
    (hshelf' : Session.Reached source shelf') :
    (∀ c, (compile p source base doc none shelf').1 = .ok c →
      ∃ ss, c.template.extensions.mapM (Schema.direct p source base) = .ok ss ∧
        (validate p source base doc shelf).1 =
          { errors :=
              (dropped p c.vars c.template.content).flatMap
                (typeErrors (Resolution.resolve ss c.template.customTypes).types) ++
              (dropped p c.vars c.template.content).flatMap (readingErrors c.vars)
            warnings := c.warnings
            securityIssues := [] }) ∧
      ((∀ t, Template.decode doc = .ok t → ∀ e ∈ t.content, e.typeName ≠ "conditional") →
        ((∃ c, (compile p source base doc none shelf').1 = .ok c) ↔
          (validate p source base doc shelf).1.isValid = true)) := by
  refine ⟨fun c h => report_of_compile hshelf.faithful hshelf'.faithful h, fun hplain => ?_⟩
  constructor
  · rintro ⟨c, h⟩
    obtain ⟨ss, -, hreport⟩ := report_of_compile hshelf.faithful hshelf'.faithful h
    have hnone : dropped p c.vars c.template.content = [] :=
      droppedFrom_eq_nil (hplain _ (exists_of_compile_eq_ok h).1) _ _
    rw [hreport, hnone]
    rfl
  · exact exists_compile_of_isValid hshelf.faithful hshelf'.faithful hplain

/-! ## A dropped branch with messages -/

/-- A document whose dropped branch has a condition that cannot be read. -/
def alarmingDocument : Value :=
  .object (Table.ofList [
    ("version", .string "1"),
    ("content", .array [.object (Table.ofList [
      ("type", .string "conditional"),
      ("condition", .string "true"),
      ("content", .array [.object (Table.ofList [
        ("type", .string "text"), ("text", .string "yes")])]),
      ("else", .array [.object (Table.ofList [
        ("type", .string "conditional"),
        ("condition", .string "("),
        ("content", .array [])])])])])])

/-- The template of the document. -/
def alarmingTemplate : Template where
  version := "1"
  description := none
  extensions := []
  vars := .nil
  customTypes := .nil
  content := [.conditional none "true" [.text none "yes"] (some [.conditional none "(" [] none])]
  layout := .default

theorem decode_alarmingDocument : Template.decode alarmingDocument = .ok alarmingTemplate :=
  Template.decode_eq_ok.2 ⟨by cbv, by cbv⟩

theorem checkDocument_alarmingDocument :
    Vetting.checkDocument .strict none alarmingDocument = .ok () := by
  have hdescribes := Template.describes_of_decode decode_alarmingDocument
  refine (Vetting.checkDocument_of_describes hdescribes).2 ?_
  have hyes : Vetting.checkText "yes" = .ok () := checkText_samples "yes" (by simp)
  have hopen : Vetting.checkCondition .strict "(" = .ok () := by
    have hblocked : DenyList.expression.find? "(" = none := by decide +kernel
    rw [Vetting.checkCondition, if_neg (by decide), hblocked]
  have hplaced : placedAll 0 alarmingTemplate.content =
      [(0, .conditional none "true" [.text none "yes"] (some [.conditional none "(" [] none])),
        (1, .text none "yes"), (1, .conditional none "(" [] none)] := by
    simp [alarmingTemplate, placedAll, placed, placedIn]
  exact {
    size := by decide +kernel
    count := by
      rw [hplaced]
      simp [Policy.strict]
    nesting := by
      rw [hplaced]
      simp [Vetting.NestsWithin, branches, Policy.strict]
    elements := by
      rw [hplaced]
      simp [Vetting.PassesElement, checkCondition_true, hyes, hopen]
    vars := by rfl
    extensions := by
      intro address haddress
      cases haddress }

/-- What the document is compiled to. -/
def alarmingCompiled : Compiled := ⟨header .default ++ "yes", alarmingTemplate, .nil, []⟩

theorem substituteCondition_open : substituteCondition .nil "(" = .ok "(" := by cbv

theorem compile_alarmingDocument :
    (compile .strict noSchemas none alarmingDocument none (.start 0 0)).1 =
      .ok alarmingCompiled := by
  have hprepare : prepare .strict none alarmingDocument none = .ok (alarmingTemplate, .nil) :=
    prepare_of_passes checkDocument_alarmingDocument decode_alarmingDocument
  have hyes : substituteText .nil "yes" = .ok "yes" := by cbv
  have hsubstituted : substituteElements .nil alarmingTemplate.content =
      .ok alarmingTemplate.content := by
    rw [alarmingTemplate]
    simp only [substituteElements, substituteElement, substituteBranch,
      substituteCondition_true, substituteCondition_open, hyes]
    rfl
  have hpruned : prune .strict .nil alarmingTemplate.content = .ok [.text none "yes"] := by
    rw [alarmingTemplate, prune, pruneFrom, pruneElement_conditional,
      decideAt_eq_ok.2 (verdict_true .nil)]
    rfl
  rw [compile_of_prepare hprepare rfl]
  exact finish_of_assembled hsubstituted hpruned rfl

/-- The document compiles, and its report has one message, about the dropped
branch. -/
theorem report_alarmingDocument :
    (validate .strict noSchemas none alarmingDocument (.start 0 0)).1 =
      ⟨["content[0].else[0].condition: failed to evaluate expression '(': " ++
        "unexpected end of expression"], [], []⟩ := by
  obtain ⟨ss, hss, hreport⟩ := (no_false_alarm
    (Session.reached_start noSchemas 0 0) (Session.reached_start noSchemas 0 0)).1 _
    compile_alarmingDocument
  cases hss
  have hchosen : chosen? .strict .nil "true" = some true :=
    chosen?_eq_some substituteCondition_true (verdict_true .nil)
  have hdropped : dropped .strict .nil alarmingTemplate.content =
      [("content[0].else[0]", .conditional none "(" [] none)] := by
    have hplace : placeOf (placeOf "content" 0 ++ ".else") 0 = "content[0].else[0]" := by
      decide +kernel
    rw [dropped, alarmingTemplate, droppedFrom, droppedAt_conditional hchosen, if_pos rfl]
    simp only [droppedFrom, droppedAt, addressedIn, addressedFrom, addressedAt,
      List.nil_append, List.append_nil, hplace]
  have hcondition : conditionErrors .nil "content[0].else[0]" "(" =
      ["content[0].else[0].condition: failed to evaluate expression '(': " ++
        "unexpected end of expression"] := by
    unfold conditionErrors
    rw [substituteCondition_open]
    decide +kernel
  have hvars : alarmingCompiled.vars = .nil := rfl
  have htemplate : alarmingCompiled.template = alarmingTemplate := rfl
  have hwarnings : alarmingCompiled.warnings = [] := rfl
  rw [hreport, hvars, htemplate, hwarnings, hdropped]
  simp only [List.flatMap_cons, List.flatMap_nil, typeErrors, readingErrors, hcondition,
    List.append_nil, List.nil_append]

end Compile

end PromptTemplate
