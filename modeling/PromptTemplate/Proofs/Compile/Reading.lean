import PromptTemplate.Proofs.Condition.Literal
import PromptTemplate.Proofs.Compile.Prune
import PromptTemplate.Proofs.Schema.Transparency
import PromptTemplate.Proofs.Vetting.Document
/-!
# PromptTemplate — reading a template in one pass

Compilation goes over the content of a template three times: it fills the
references everywhere, prunes the conditionals, and puts the text of the
pieces together. `readAll?` goes over it once, and only over what is kept:
a text is filled where it stands, a placeholder becomes its instruction,
and a conditional is read as the branch that its filled condition chooses.

`readAll?_of_passes` says that the three passes come to this reading, by an
induction along the content; so a prompt is the header and the reading
(`prompt_eq_header_append`). What stands in branches that are not chosen is
never read (`readAll?_eq_of_sameChosen`), so that it cannot show in a
prompt.
-/

namespace PromptTemplate

namespace Compile

open Interpolation

variable {p : Policy} {vars : Table Value} {types : Table InstructionType} {layout : Layout}

/-! ## The reading -/

/-- Whether a filled condition holds; nothing if it has no value. -/
def holds? (vars : Table Value) (condition : String) : Option Bool :=
  (Condition.valueOf vars condition).toOption.map Condition.isTrue

mutual

/-- What an element reads as. -/
def readElement? (vars : Table Value) (types : Table InstructionType) (layout : Layout) :
    Element → Option String
  | .text _ text => (substituteText vars text).toOption
  | .placeholder _ type config => do
    let t ← types.find? type
    let filled ← (substituteFields vars config).toOption
    return wrapInstruction layout (renderInstruction t.spec.template filled)
  | .conditional _ condition content otherwise => do
    let filled ← (substituteCondition vars condition).toOption
    let holds ← holds? vars filled
    if holds then readAll? vars types layout content else readBranch? vars types layout otherwise

/-- What elements read as, one behind another. -/
def readAll? (vars : Table Value) (types : Table InstructionType) (layout : Layout) :
    List Element → Option String
  | [] => some ""
  | e :: es => do
    let here ← readElement? vars types layout e
    let behind ← readAll? vars types layout es
    return here ++ behind

/-- What a branch reads as; one that is not there reads as nothing. -/
def readBranch? (vars : Table Value) (types : Table InstructionType) (layout : Layout) :
    Option (List Element) → Option String
  | none => some ""
  | some es => readAll? vars types layout es

end

theorem readBranch?_eq (branch : Option (List Element)) :
    readBranch? vars types layout branch = readAll? vars types layout (branch.getD []) := by
  cases branch <;> simp [readBranch?, readAll?]

/-- A conditional reads as the branch that its filled condition chooses. -/
theorem readElement?_conditional {id : Option String} {condition filled : String}
    {content : List Element} {otherwise : Option (List Element)} {holds : Bool}
    (hfilled : substituteCondition vars condition = .ok filled)
    (hholds : holds? vars filled = some holds) :
    readElement? vars types layout (.conditional id condition content otherwise) =
      readAll? vars types layout (if holds then content else otherwise.getD []) := by
  rw [readElement?, hfilled, Except.toOption]
  simp only [Option.bind_eq_bind, Option.bind_some, hholds, readBranch?_eq]
  cases holds <;> rfl

/-- A condition that has a verdict holds or not, as the verdict says. -/
theorem holds?_of_verdict {condition : String} {b : Bool}
    (h : Condition.verdict p vars condition = .ok b) : holds? vars condition = some b := by
  unfold Condition.verdict at h
  split at h
  · cases h
  · unfold holds?
    split at h
    · cases h
    · rename_i v hv
      cases h
      rw [hv]
      rfl

/-! ## The body of a prompt -/

/-- The text of a piece; nothing if its type is unknown. -/
def pieceText? (types : Table InstructionType) (layout : Layout) : Piece → Option String
  | .text _ text => some text
  | .placeholder _ type config =>
    (types.find? type).map fun t =>
      wrapInstruction layout (renderInstruction t.spec.template config)

/-- The texts of pieces, one behind another. -/
def piecesText? (types : Table InstructionType) (layout : Layout) : List Piece → Option String
  | [] => some ""
  | piece :: rest => do
    let here ← pieceText? types layout piece
    let behind ← piecesText? types layout rest
    return here ++ behind

theorem pieceText_toOption (position : Nat) (piece : Piece) :
    (pieceText types layout position piece).toOption = pieceText? types layout piece := by
  cases piece with
  | text id text => rfl
  | placeholder id type config =>
    unfold pieceText pieceText?
    dsimp only
    cases types.find? type <;> rfl

/-- A body is the texts of its pieces, whatever their positions are. -/
theorem body_toOption (position : Nat) (pieces : List Piece) :
    (body types layout position pieces).toOption = piecesText? types layout pieces := by
  induction pieces generalizing position with
  | nil => rfl
  | cons piece rest ih =>
    rw [body, piecesText?, ← pieceText_toOption position, ← ih (position + 1)]
    cases pieceText types layout position piece with
    | error fault => rfl
    | ok here => cases body types layout (position + 1) rest <;> rfl

theorem piecesText?_append (first second : List Piece) :
    piecesText? types layout (first ++ second) = (do
      let here ← piecesText? types layout first
      let behind ← piecesText? types layout second
      return here ++ behind) := by
  induction first with
  | nil => simp [piecesText?]
  | cons piece rest ih =>
    rw [List.cons_append, piecesText?, piecesText?, ih]
    cases pieceText? types layout piece with
    | none => rfl
    | some here =>
      cases piecesText? types layout rest with
      | none => rfl
      | some behind => cases piecesText? types layout second <;> simp [String.append_assoc]

/-! ## Three passes and one -/

mutual

/-- What is left of a filled element has the text that the element reads
as. -/
theorem readElement?_of_passes {e e' : Element} {position : Nat} {pieces : List Piece}
    (hfilled : substituteElement vars e = .ok e')
    (hpruned : pruneElement p vars position e' = .ok pieces) :
    readElement? vars types layout e = piecesText? types layout pieces := by
  match e with
  | .text id text =>
    rw [substituteElement] at hfilled
    obtain ⟨text', htext, h⟩ := Outcome.bind_eq_ok.1 hfilled
    cases h
    cases hpruned
    simp [readElement?, htext, Except.toOption, piecesText?, pieceText?]
  | .placeholder id type config =>
    rw [substituteElement] at hfilled
    obtain ⟨config', hconfig, h⟩ := Outcome.bind_eq_ok.1 hfilled
    cases h
    cases hpruned
    rw [readElement?, hconfig]
    cases htype : types.find? type <;> simp [Except.toOption, piecesText?, pieceText?, htype]
  | .conditional id condition content otherwise =>
    rw [substituteElement] at hfilled
    obtain ⟨condition', hcondition, h⟩ := Outcome.bind_eq_ok.1 hfilled
    obtain ⟨content', hcontent, h⟩ := Outcome.bind_eq_ok.1 h
    obtain ⟨otherwise', hotherwise, h⟩ := Outcome.bind_eq_ok.1 h
    cases h
    rw [pruneElement_conditional] at hpruned
    obtain ⟨b, hb, hbranch⟩ := Outcome.bind_eq_ok.1 hpruned
    rw [readElement?_conditional hcondition (holds?_of_verdict (decideAt_eq_ok.1 hb))]
    cases b with
    | true => exact readAll?_of_passes hcontent hbranch
    | false =>
      rw [if_neg Bool.false_ne_true, ← readBranch?_eq]
      exact readBranch?_of_passes hotherwise hbranch

/-- **Three passes come to one:** what filling and pruning leave of
elements has the text that the elements read as. -/
theorem readAll?_of_passes {es es' : List Element} {position : Nat} {pieces : List Piece}
    (hfilled : substituteElements vars es = .ok es')
    (hpruned : pruneFrom p vars position es' = .ok pieces) :
    readAll? vars types layout es = piecesText? types layout pieces := by
  match es with
  | [] =>
    cases hfilled
    cases hpruned
    rfl
  | e :: es =>
    rw [substituteElements] at hfilled
    obtain ⟨e', he, h⟩ := Outcome.bind_eq_ok.1 hfilled
    obtain ⟨es', hes, h⟩ := Outcome.bind_eq_ok.1 h
    cases h
    rw [pruneFrom] at hpruned
    obtain ⟨here, hhere, h⟩ := Outcome.bind_eq_ok.1 hpruned
    obtain ⟨behind, hbehind, h⟩ := Outcome.bind_eq_ok.1 h
    cases h
    rw [readAll?, piecesText?_append, readElement?_of_passes he hhere,
      readAll?_of_passes hes hbehind]

/-- What is left of a filled branch has the text that the branch reads
as. -/
theorem readBranch?_of_passes {branch branch' : Option (List Element)} {pieces : List Piece}
    (hfilled : substituteBranch vars branch = .ok branch')
    (hpruned : pruneBranch p vars branch' = .ok pieces) :
    readBranch? vars types layout branch = piecesText? types layout pieces := by
  match branch with
  | none =>
    cases hfilled
    cases hpruned
    rfl
  | some es =>
    obtain ⟨es', hes, rfl⟩ := Outcome.map_eq_ok.1 hfilled
    exact readAll?_of_passes hes hpruned

end

/-! ## Branches that are not chosen -/

/-- Elements that differ only inside branches that are not chosen. -/
inductive SameChosen (vars : Table Value) : List Element → List Element → Prop
  | nil : SameChosen vars [] []
  | element (e : Element) {es fs : List Element} : SameChosen vars es fs →
      SameChosen vars (e :: es) (e :: fs)
  /-- The branches that are chosen differ in this way again, and the others
  in any way. -/
  | conditional {id : Option String} {condition filled : String} {holds : Bool}
      {content content' : List Element} {otherwise otherwise' : Option (List Element)}
      {es fs : List Element} : substituteCondition vars condition = .ok filled →
      holds? vars filled = some holds →
      SameChosen vars (if holds then content else otherwise.getD [])
        (if holds then content' else otherwise'.getD []) → SameChosen vars es fs →
      SameChosen vars (.conditional id condition content otherwise :: es)
        (.conditional id condition content' otherwise' :: fs)

/-- **Branches that are not chosen are not read.** -/
theorem readAll?_eq_of_sameChosen {es fs : List Element} (h : SameChosen vars es fs) :
    readAll? vars types layout es = readAll? vars types layout fs := by
  induction h with
  | nil => rfl
  | element e _ ih => rw [readAll?, readAll?, ih]
  | conditional hfilled hholds _ _ ihchosen ih =>
    rw [readAll?, readAll?, ih, readElement?_conditional hfilled hholds,
      readElement?_conditional hfilled hholds, ihchosen]

/-! ## Prompts -/

variable {source : Schema.Source} {base : Option String} {doc : Value}
  {supplied : Option (Table Value)} {shelf : Schema.Shelf} {c : Compiled}

/-- What a document is prepared to: its template, and the variables in
force. -/
theorem prepare_eq_ok {template : Template}
    (h : prepare p base doc supplied = .ok (template, vars)) :
    Template.decode doc = .ok template ∧ vars = variablesInForce template.vars supplied := by
  unfold prepare at h
  obtain ⟨-, -, h⟩ := Outcome.bind_eq_ok.1 h
  obtain ⟨t, hdecode, h⟩ := Outcome.bind_eq_ok.1 h
  cases supplied with
  | none =>
    cases h
    exact ⟨hdecode, rfl⟩
  | some given =>
    dsimp only at h
    obtain ⟨-, -, h⟩ := Outcome.bind_eq_ok.1 h
    cases h
    exact ⟨hdecode, rfl⟩

/-- A prompt is assembled from what filling and pruning leave of the
content, and comes to the header and what the content reads as. -/
theorem finish_eq_ok {template : Template} {schemas : List Schema}
    (h : finish p template vars schemas = .ok c) :
    c.template = template ∧ c.vars = vars ∧ ∃ es pieces text,
      substituteElements vars template.content = .ok es ∧ prune p vars es = .ok pieces ∧
      assemble (Resolution.resolve schemas template.customTypes).types template.layout pieces =
        .ok c.prompt ∧
      readAll? vars (Resolution.resolve schemas template.customTypes).types template.layout
        template.content = some text ∧
      c.prompt = header template.layout ++ text := by
  unfold finish at h
  obtain ⟨es, hfilled, h⟩ := Outcome.bind_eq_ok.1 h
  obtain ⟨pieces, hpruned, h⟩ := Outcome.bind_eq_ok.1 h
  obtain ⟨prompt, hprompt, h⟩ := Outcome.bind_eq_ok.1 h
  cases h
  obtain ⟨text, hbody, rfl⟩ := Outcome.map_eq_ok.1 hprompt
  have hsubstituted := Outcome.mapError_eq_ok.1 hfilled
  refine ⟨rfl, rfl, es, pieces, text, hsubstituted, hpruned, hprompt, ?_, rfl⟩
  rw [readAll?_of_passes hsubstituted hpruned, ← body_toOption 0, hbody]
  rfl

/-- What passes and decodes is prepared, with its own variables in force. -/
theorem prepare_of_passes {template : Template}
    (hvetted : Vetting.checkDocument p base doc = .ok ())
    (hdecode : Template.decode doc = .ok template) :
    prepare p base doc none = .ok (template, template.vars) := by
  unfold prepare vetted
  rw [hvetted, hdecode]
  rfl

/-- A prompt that filling, pruning and assembling come to is finished. -/
theorem finish_of_assembled {template : Template} {schemas : List Schema} {es : List Element}
    {pieces : List Piece} {prompt : String}
    (hfilled : substituteElements vars template.content = .ok es)
    (hpruned : prune p vars es = .ok pieces)
    (hassembled : assemble (Resolution.resolve schemas template.customTypes).types template.layout
      pieces = .ok prompt) :
    finish p template vars schemas = .ok
      ⟨prompt, template, vars, (Resolution.resolve schemas template.customTypes).overrides⟩ := by
  unfold finish
  rw [hfilled]
  exact Outcome.bind_eq_ok.2 ⟨es, rfl, Outcome.bind_eq_ok.2 ⟨pieces, hpruned,
    Outcome.bind_eq_ok.2 ⟨prompt, hassembled, rfl⟩⟩⟩

/-- **What a compilation goes through:** the document is prepared to the
template and the variables in force, the schemas are loaded, and then the
prompt is finished. -/
theorem compile_eq_ok (h : (compile p source base doc supplied shelf).1 = .ok c) :
    prepare p base doc supplied = .ok (c.template, c.vars) ∧
      ∃ schemas, (Schema.loadAll p source base c.template.extensions shelf).1 = .ok schemas ∧
        finish p c.template c.vars schemas = .ok c := by
  unfold compile at h
  split at h
  · cases h
  · rename_i template vars hprepare
    split at h
    · cases h
    · rename_i schemas shelf' hload
      obtain ⟨rfl, rfl, -⟩ := finish_eq_ok h
      exact ⟨hprepare, schemas, by rw [hload], h⟩

/-- Without schemas to load, what has been prepared is finished. -/
theorem compile_of_prepare {template : Template}
    (hprepare : prepare p base doc supplied = .ok (template, vars))
    (hextensions : template.extensions = []) :
    (compile p source base doc supplied shelf).1 = finish p template vars [] := by
  unfold compile
  rw [hprepare]
  dsimp only
  rw [hextensions]
  rfl

/-- The passes of a compilation: the prompt is assembled from pieces, which
filling and pruning leave of the content, and it is the header of the layout
with the reading of the content behind it. -/
structure ReadsAs (p : Policy) (schemas : List Schema) (c : Compiled) : Prop where
  pruned : ∃ es pieces, substituteElements c.vars c.template.content = .ok es ∧
    prune p c.vars es = .ok pieces ∧
    assemble (Resolution.resolve schemas c.template.customTypes).types c.template.layout pieces =
      .ok c.prompt
  read : ∃ text,
    readAll? c.vars (Resolution.resolve schemas c.template.customTypes).types c.template.layout
      c.template.content = some text ∧
    c.prompt = header c.template.layout ++ text

/-- What a compilation that succeeds has done. -/
theorem exists_of_compile_eq_ok (h : (compile p source base doc supplied shelf).1 = .ok c) :
    Template.decode doc = .ok c.template ∧ c.vars = variablesInForce c.template.vars supplied ∧
      ∃ schemas, (Schema.loadAll p source base c.template.extensions shelf).1 = .ok schemas ∧
        ReadsAs p schemas c := by
  obtain ⟨hprepare, schemas, hload, hfinish⟩ := compile_eq_ok h
  obtain ⟨hdecode, hvars⟩ := prepare_eq_ok hprepare
  obtain ⟨-, -, es, pieces, text, hfilled, hpruned, hassembled, hread, hprompt⟩ :=
    finish_eq_ok hfinish
  exact ⟨hdecode, hvars, schemas, hload, ⟨es, pieces, hfilled, hpruned, hassembled⟩, text, hread,
    hprompt⟩

/-- A document with one conditional, of which the first branch is chosen. -/
def branchedDocument (unchosen : String) : Value :=
  .object (Table.ofList [
    ("version", .string "1"),
    ("content", .array [.object (Table.ofList [
      ("type", .string "conditional"),
      ("condition", .string "true"),
      ("content", .array [.object (Table.ofList [
        ("type", .string "text"), ("text", .string "yes")])]),
      ("else", .array [.object (Table.ofList [
        ("type", .string "text"), ("text", .string unchosen)])])])])])

/-- The template of the document. -/
def branchedTemplate (unchosen : String) : Template where
  version := "1"
  description := none
  extensions := []
  vars := .nil
  customTypes := .nil
  content := [.conditional none "true" [.text none "yes"] (some [.text none unchosen])]
  layout := .default

/-- What the document is compiled to. -/
def branchedCompiled (unchosen : String) : Compiled :=
  ⟨header .default ++ "yes", branchedTemplate unchosen, .nil, []⟩

theorem decode_branchedDocument (unchosen : String) :
    Template.decode (branchedDocument unchosen) = .ok (branchedTemplate unchosen) :=
  Template.decode_eq_ok.2 ⟨by cbv, by cbv⟩

theorem substituteCondition_true : substituteCondition .nil "true" = .ok "true" := by cbv

theorem valueOf_true (vars : Table Value) :
    Condition.valueOf vars "true" = .ok (.bool true) := by
  have hplain : Condition.Plain 62 (.bool true) := .bool true
  obtain ⟨e, hparse, hvalue⟩ := hplain.parse_compact (by rintro s ⟨⟩)
  have htext : Json.compact (.bool true) = "true" := rfl
  rw [htext] at hparse
  rw [Condition.valueOf, Condition.read, hparse]
  simp only [hvalue]

theorem checkCondition_true : Vetting.checkCondition .strict "true" = .ok () := by
  have hblocked : DenyList.expression.find? "true" = none := by decide +kernel
  rw [Vetting.checkCondition, if_neg (by decide), hblocked]

theorem checkText_samples : ∀ s ∈ ["yes", "no", "never"], Vetting.checkText s = .ok () := by
  decide +kernel

theorem verdict_true (vars : Table Value) :
    Condition.verdict .strict vars "true" = .ok true := by
  rw [Condition.verdict, checkCondition_true]
  simp only [valueOf_true, Condition.isTrue]

theorem checkDocument_branchedDocument {unchosen : String}
    (hsize : (Json.compact (branchedDocument unchosen)).utf8ByteSize ≤ Policy.mebibyte)
    (htext : Vetting.checkText unchosen = .ok ()) :
    Vetting.checkDocument .strict none (branchedDocument unchosen) = .ok () := by
  have hdescribes := Template.describes_of_decode (decode_branchedDocument unchosen)
  refine (Vetting.checkDocument_of_describes hdescribes).2 ?_
  have hyes : Vetting.checkText "yes" = .ok () := checkText_samples "yes" (by simp)
  have hplaced : Element.placedAll 0 (branchedTemplate unchosen).content =
      [(0, .conditional none "true" [.text none "yes"] (some [.text none unchosen])),
        (1, .text none "yes"), (1, .text none unchosen)] := by
    simp [branchedTemplate, Element.placedAll, Element.placed, Element.placedIn]
  exact {
    size := hsize
    count := by
      rw [hplaced]
      simp [Policy.strict]
    nesting := by
      rw [hplaced]
      simp [Vetting.NestsWithin, Element.branches, Policy.strict]
    elements := by
      rw [hplaced]
      simp [Vetting.PassesElement, checkCondition_true, hyes, htext]
    vars := by rfl
    extensions := by
      intro address haddress
      cases haddress }

theorem compile_branchedDocument {unchosen : String}
    (hsize : (Json.compact (branchedDocument unchosen)).utf8ByteSize ≤ Policy.mebibyte)
    (htext : Vetting.checkText unchosen = .ok ())
    (hfilled : substituteText .nil unchosen = .ok unchosen) :
    (compile .strict Session.sampleSource none (branchedDocument unchosen) none (.start 0 0)).1 =
      .ok (branchedCompiled unchosen) := by
  have hprepare : prepare .strict none (branchedDocument unchosen) none =
      .ok (branchedTemplate unchosen, .nil) :=
    prepare_of_passes (checkDocument_branchedDocument hsize htext)
      (decode_branchedDocument unchosen)
  have hyes : substituteText .nil "yes" = .ok "yes" := by cbv
  have hsubstituted : substituteElements .nil (branchedTemplate unchosen).content =
      .ok (branchedTemplate unchosen).content := by
    rw [branchedTemplate]
    simp only [substituteElements, substituteElement, substituteBranch, substituteCondition_true,
      hyes, hfilled]
    rfl
  have hpruned : prune .strict .nil (branchedTemplate unchosen).content =
      .ok [.text none "yes"] := by
    rw [branchedTemplate, prune, pruneFrom, pruneElement_conditional,
      decideAt_eq_ok.2 (verdict_true .nil)]
    rfl
  rw [compile_of_prepare hprepare rfl]
  exact finish_of_assembled hsubstituted hpruned rfl

end Compile

end PromptTemplate
