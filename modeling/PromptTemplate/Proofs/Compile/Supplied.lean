import Mathlib
import PromptTemplate.Proofs.Compile.Reading
import PromptTemplate.Proofs.Compile.Soundness
import PromptTemplate.Proofs.Schema.Transparency
import PromptTemplate.Proofs.Template.Structure
import PromptTemplate.Proofs.Vetting.Document
import PromptTemplate.Proofs.Vetting.Variables
/-!
# PromptTemplate — supplied variables are declared variables

A caller supplies variables, a template declares some, and what counts is
the one laid over the other. `declaring` is the document that declares just
these itself. It describes the template with these variables
(`Template.Describes.declaring`), so it is vetted and decoded as the
document was, up to its size; and what comes after that looks at the
template for everything but its variables (`finish_withVars`).
`compile_declaring` puts the two together.
-/

namespace PromptTemplate

namespace Template

/-- The variables that a document declares. -/
def declared (doc : Value) : Table Value :=
  ((doc.field? "variables").bind Value.object?).getD .nil

/-- A document with other variables declared. -/
def declaring (doc : Value) (vars : Table Value) : Value :=
  doc.withField "variables" (.object vars)

variable {doc : Value} {t : Template}

/-- A document with other variables describes the template with them. -/
theorem Describes.declaring (h : Describes doc t) (vars : Table Value) :
    Describes (declaring doc vars) { t with vars := vars } := by
  have hfield (key : String) (hkey : key ≠ "variables") :
      (Template.declaring doc vars).field? key = doc.field? key := by
    rw [Template.declaring, Value.field?_withField h.isObject, if_neg hkey]
  have hvars : (Template.declaring doc vars).field? "variables" = some (.object vars) := by
    rw [Template.declaring, Value.field?_withField h.isObject, if_pos rfl]
  exact {
    version := by rw [hfield _ (by decide), h.version]
    description := by rw [hfield _ (by decide), h.description]
    extensions := by rw [hfield _ (by decide)]; exact h.extensions
    vars := ⟨some vars, hvars, rfl⟩
    customTypes := by rw [hfield _ (by decide)]; exact h.customTypes
    content := by rw [hfield _ (by decide)]; exact h.content
    layout := by rw [hfield _ (by decide)]; exact h.layout }

/-- What is asked of a template beyond its shape is not about its
variables. -/
theorem IsProper.withVars (h : t.IsProper) (vars : Table Value) :
    IsProper { t with vars := vars } :=
  ⟨h.version, h.customTypes, h.wrapper, h.content, h.elements⟩

/-- So it is decoded to that template. -/
theorem decode_declaring (h : decode doc = .ok t) (vars : Table Value) :
    decode (declaring doc vars) = .ok { t with vars := vars } := by
  obtain ⟨herrors, hvalue⟩ := decode_eq_ok.1 h
  obtain ⟨t', hdescribes, hproper⟩ := structureErrors_eq_nil.1 herrors
  obtain rfl : t' = t := by
    rw [ofValue?_eq_some.2 hdescribes] at hvalue
    exact Option.some.inj hvalue
  have hdescribes' := hdescribes.declaring vars
  exact decode_eq_ok.2
    ⟨structureErrors_eq_nil.2 ⟨_, hdescribes', hproper.withVars vars⟩,
      ofValue?_eq_some.2 hdescribes'⟩

end Template

namespace Vetting

/-- A document that passes still does with other variables that pass, unless
they make it too large. -/
theorem Passes.declaring {p : Policy} {base : Option String} {doc : Value} {t : Template}
    {vars : Table Value} (h : Passes p base doc t)
    (hsize : (Json.compact (Template.declaring doc vars)).utf8ByteSize ≤ p.maxTemplateSize)
    (hvars : checkVariables p vars = .ok ()) :
    Passes p base (Template.declaring doc vars) { t with vars := vars } where
  size := hsize
  count := h.count
  nesting := h.nesting
  elements := h.elements
  vars := hvars
  extensions := h.extensions

end Vetting

namespace Compile

open Interpolation

variable {p : Policy} {source : Schema.Source} {base : Option String} {doc : Value}
  {supplied : Option (Table Value)} {shelf shelf' : Schema.Shelf} {t : Template}
  {vars : Table Value} {c : Compiled}

/-- What is prepared has been vetted: the document, and what the caller
supplies. -/
theorem vetted_of_prepare (h : prepare p base doc supplied = .ok (t, vars)) :
    Vetting.checkDocument p base doc = .ok () ∧
      ∀ given ∈ supplied, Vetting.checkVariables p given = .ok () := by
  unfold prepare vetted at h
  obtain ⟨⟨⟩, hdocument, h⟩ := Outcome.bind_eq_ok.1 h
  obtain ⟨_, -, h⟩ := Outcome.bind_eq_ok.1 h
  refine ⟨Outcome.mapError_eq_ok.1 hdocument, ?_⟩
  rintro given ⟨rfl⟩
  dsimp only at h
  obtain ⟨⟨⟩, hgiven, -⟩ := Outcome.bind_eq_ok.1 h
  exact Outcome.mapError_eq_ok.1 hgiven

/-- The variables in force pass if the declared and the supplied ones do. -/
theorem checkVariables_inForce {declared : Table Value}
    (hdeclared : Vetting.checkVariables p declared = .ok ())
    (hsupplied : ∀ given ∈ supplied, Vetting.checkVariables p given = .ok ()) :
    Vetting.checkVariables p (variablesInForce declared supplied) = .ok () := by
  cases supplied with
  | none => exact hdeclared
  | some given => exact Vetting.checkVariables_override hdeclared (hsupplied given rfl)

/-- **Before the schemas are loaded** the variables in force pass, and the
document that declares them is prepared to the template with them. -/
theorem prepare_declaring (h : prepare p base doc supplied = .ok (t, vars)) :
    Vetting.checkVariables p vars = .ok () ∧
      ((Json.compact (Template.declaring doc vars)).utf8ByteSize ≤ p.maxTemplateSize →
        prepare p base (Template.declaring doc vars) none =
          .ok ({ t with vars := vars }, vars)) := by
  obtain ⟨hdecode, rfl⟩ := prepare_eq_ok h
  obtain ⟨hdocument, hsupplied⟩ := vetted_of_prepare h
  have hdescribes : Template.Describes doc t := Template.describes_of_decode hdecode
  have hpasses : Vetting.Passes p base doc t :=
    (Vetting.checkDocument_of_describes hdescribes).1 hdocument
  have hvars := checkVariables_inForce hpasses.vars hsupplied
  refine ⟨hvars, fun hsize => ?_⟩
  have hdocument' := (Vetting.checkDocument_of_describes (hdescribes.declaring _)).2
    (hpasses.declaring hsize hvars)
  unfold prepare vetted
  rw [hdocument', Template.decode_declaring hdecode]
  rfl

/-- **Behind the schemas** a template is looked at for everything but its
variables. -/
theorem finish_withVars {ss : List Schema} (h : finish p t vars ss = .ok c) (own : Table Value) :
    finish p { t with vars := own } vars ss =
      .ok { c with template := { c.template with vars := own } } := by
  unfold finish at h ⊢
  obtain ⟨es, hfilled, h⟩ := Outcome.bind_eq_ok.1 h
  obtain ⟨pieces, hpruned, h⟩ := Outcome.bind_eq_ok.1 h
  obtain ⟨prompt, hprompt, h⟩ := Outcome.bind_eq_ok.1 h
  cases h
  exact Outcome.bind_eq_ok.2 ⟨es, hfilled, Outcome.bind_eq_ok.2 ⟨pieces, hpruned,
    Outcome.bind_eq_ok.2 ⟨prompt, hprompt, rfl⟩⟩⟩

/-- **Supplying variables is declaring them.** On every two shelves that
sessions lead to: if a document is compiled with supplied variables, then
the variables in force are those supplied over those declared, and they pass
the policy although only the two parts were vetted. The document that
declares them itself, if it is not too large, is compiled without supplied
variables to the same prompt, the same variables, the same overrides and the
same warnings. -/
theorem compile_declaring (hshelf : Session.Reached source shelf)
    (hshelf' : Session.Reached source shelf')
    (h : (compile p source base doc supplied shelf).1 = .ok c) :
    let merged := variablesInForce (Template.declared doc) supplied
    c.vars = merged ∧ Vetting.checkVariables p merged = .ok () ∧
      ((Json.compact (Template.declaring doc merged)).utf8ByteSize ≤ p.maxTemplateSize →
        ∃ c', (compile p source base (Template.declaring doc merged) none shelf').1 = .ok c' ∧
          c'.prompt = c.prompt ∧ c'.vars = c.vars ∧ c'.overrides = c.overrides ∧
          c'.warnings = c.warnings) := by
  intro merged
  rw [compile_spec hshelf.faithful] at h
  obtain ⟨⟨t, vars⟩, hprepare, h⟩ := Outcome.bind_eq_ok.1 h
  obtain ⟨ss, hschemas, hfinish⟩ := Outcome.bind_eq_ok.1 h
  obtain ⟨hdecode, hvars⟩ := prepare_eq_ok hprepare
  have hdescribes : Template.Describes doc t :=
    Template.ofValue?_eq_some.1 (Template.decode_eq_ok.1 hdecode).2
  obtain rfl : vars = merged := by rw [hvars, ← hdescribes.seenVars]; rfl
  obtain ⟨hpass, hdeclaring⟩ := prepare_declaring hprepare
  obtain ⟨-, hforce, -⟩ := finish_eq_ok hfinish
  refine ⟨hforce, hpass, fun hsize => ?_⟩
  refine ⟨{ c with template := { c.template with vars := merged } }, ?_, rfl, rfl, rfl, rfl⟩
  rw [compile_spec hshelf'.faithful]
  exact Outcome.bind_eq_ok.2 ⟨_, hdeclaring hsize,
    Outcome.bind_eq_ok.2 ⟨ss, hschemas, finish_withVars hfinish merged⟩⟩

/-! ## A variable that is supplied -/

/-- A value for the variable of the document that does not compile because
its condition refers to an object. -/
def suppliedFlag : Table Value := Table.ofList [("o", .bool true)]

/-- What the document is compiled to with it. -/
def suppliedCompiled : Compiled := ⟨header .default, objectTemplate, suppliedFlag, []⟩

theorem checkVariables_suppliedFlag : Vetting.checkVariables .strict suppliedFlag = .ok () := by
  decide +kernel

theorem finish_suppliedFlag :
    finish .strict objectTemplate suppliedFlag [] = .ok suppliedCompiled := by
  have hcondition : substituteCondition suppliedFlag "$\x7bo\x7d" = .ok "true" := by
    have hvalue : lookUp suppliedFlag "o" = .ok (.bool true) := by cbv
    rw [substituteCondition, substituteWith, segments_object]
    dsimp only
    rw [fill, hvalue]
    rfl
  have hfilled : substituteElements suppliedFlag objectTemplate.content =
      .ok [.conditional none "true" [] none] := by
    rw [objectTemplate]
    simp only [substituteElements, substituteElement, substituteBranch, hcondition]
    rfl
  have hpruned : prune .strict suppliedFlag [.conditional none "true" [] none] = .ok [] := by
    rw [prune, pruneFrom, pruneElement_conditional, decideAt_eq_ok.2 (verdict_true _)]
    rfl
  have hassembled : assemble .nil .default [] = .ok (header .default) :=
    congrArg Except.ok String.append_empty
  exact finish_of_assembled hfilled hpruned hassembled

theorem compile_suppliedFlag :
    (compile .strict noSchemas none objectDocument (some suppliedFlag) (.start 0 0)).1 =
      .ok suppliedCompiled := by
  have hprepare : prepare .strict none objectDocument (some suppliedFlag) =
      .ok (objectTemplate, suppliedFlag) := by
    unfold prepare vetted
    rw [checkDocument_objectDocument, decode_objectDocument]
    simp only [checkVariables_suppliedFlag]
    rfl
  rw [compile_of_prepare hprepare rfl]
  exact finish_suppliedFlag

/-- With the flag supplied in the place of the object the document compiles,
and so does the document that declares the flag. -/
theorem compile_declaring_suppliedFlag :
    (compile .strict noSchemas none objectDocument (some suppliedFlag) (.start 0 0)).1 =
        .ok suppliedCompiled ∧
      ∃ c', (compile .strict noSchemas none (Template.declaring objectDocument suppliedFlag) none
          (.start 0 0)).1 = .ok c' ∧ c'.prompt = header .default := by
  have hstart := Session.reached_start noSchemas 0 0
  obtain ⟨hvars, -, hcompiles⟩ := compile_declaring hstart hstart compile_suppliedFlag
  have hflag : variablesInForce (Template.declared objectDocument) (some suppliedFlag) =
      suppliedFlag := hvars.symm
  rw [hflag] at hcompiles
  obtain ⟨c', hc', hprompt, -⟩ := hcompiles (by decide +kernel)
  exact ⟨compile_suppliedFlag, c', hc', hprompt⟩

end Compile

end PromptTemplate
