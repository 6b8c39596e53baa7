import Mathlib
import PromptTemplate.Proofs.Template.Structure
/-!
# PromptTemplate — templates written and read again

What is written of a template describes it (`Template.describes_toValue`),
so that it is decoded to the template again. Compared with the document the
template was read from, only what says nothing is lost: `known` takes away
the fields that no reader knows, and collections of the template that are
empty, and what is left is just what is written (`Describes.known_eq`).
-/

namespace PromptTemplate

/-! ## What is written describes -/

namespace Element

mutual

/-- The document of an element describes it, -/
theorem describes_toValue (e : Element) : Describes e.toValue e := by
  match e with
  | .text name body =>
    rw [toValue]
    refine .text ?_ ?_ ?_
    all_goals simp [Names, List.lookup_cons]
  | .placeholder name type config =>
    rw [toValue]
    refine .placeholder ?_ ?_ ?_ ?_
    all_goals simp [Names, List.lookup_cons]
  | .conditional name condition content otherwise =>
    have hcontent : DescribesBranch (some (.array (toValues content))) (some content) :=
      .some (describesAll_toValues content)
    have hotherwise := describesBranch_toBranch otherwise
    rw [toValue]
    refine .conditional ?_ ?_ ?_ ?_ ?_
    case refine_4 => simpa [List.lookup_cons] using hcontent
    case refine_5 => simpa [List.lookup_cons] using hotherwise
    all_goals simp [Names, List.lookup_cons]

/-- those of a sequence describe it, -/
theorem describesAll_toValues (es : List Element) : DescribesAll (toValues es) es := by
  match es with
  | [] =>
    rw [toValues]
    exact .nil
  | e :: es =>
    rw [toValues]
    exact .cons (describes_toValue e) (describesAll_toValues es)

/-- and so does that of a branch. -/
theorem describesBranch_toBranch (branch : Option (List Element)) :
    DescribesBranch (toBranch branch) branch := by
  match branch with
  | none =>
    rw [toBranch]
    exact .none
  | some es =>
    rw [toBranch]
    exact .some (describesAll_toValues es)

end

end Element

theorem InstructionSpec.describes_toValue (s : InstructionSpec) : Describes s.toValue s := by
  constructor
  all_goals simp [toValue, List.lookup_cons]

theorem Layout.describes_toValue (l : Layout) : Describes l.toValue l := by
  refine ⟨⟨_, rfl⟩, ?_, ?_, ?_, ?_⟩
  all_goals simp [toValue, List.lookup_cons]

/-- A table that is written value by value is described value by value. -/
theorem Entries.forall₂_map {α β : Type} {R : β → α → Prop} {f : α → β} (h : ∀ a, R (f a) a)
    {lo : Option String} (t : Entries α lo) : Forall₂ R (t.map f) t := by
  induction t with
  | nil => exact .nil
  | cons k hk a t ih => exact .cons (h a) ih

/-- A table is written if it is not empty. -/
theorem Value.ofTable_eq (t : Table Value) :
    ∃ found : Option (Table Value), ofTable t = found.map .object ∧ t = found.getD .nil := by
  cases t with
  | nil => exact ⟨none, rfl, rfl⟩
  | cons k h v rest => exact ⟨some (.cons k h v rest), rfl, rfl⟩

/-- **The document of a template describes it.** -/
theorem Template.describes_toValue (t : Template) : Describes t.toValue t where
  version := by simp [toValue]
  description := by simp [toValue, List.lookup_cons]
  extensions := by
    cases hextensions : t.extensions with
    | nil =>
      refine ⟨none, ?_, rfl⟩
      simp [toValue, List.lookup_cons, hextensions]
    | cons url urls =>
      refine ⟨some (url :: urls), ?_, rfl⟩
      simp [toValue, List.lookup_cons, hextensions]
  vars := by
    obtain ⟨found, hfound, hvars⟩ := Value.ofTable_eq t.vars
    exact ⟨found, by simp [toValue, List.lookup_cons, hfound], hvars⟩
  customTypes := by
    obtain ⟨found, hfound, htypes⟩ := Value.ofTable_eq (t.customTypes.map InstructionSpec.toValue)
    refine ⟨found, by simp [toValue, List.lookup_cons, hfound], ?_⟩
    rw [← htypes]
    exact Entries.forall₂_map InstructionSpec.describes_toValue t.customTypes
  content :=
    ⟨_, by simp [toValue, List.lookup_cons],
      Element.describesAll_toValues t.content⟩
  layout := by
    have hlayout : t.toValue.field? "compilerConfig" = some t.layout.toValue := by
      simp [toValue, List.lookup_cons]
    rw [hlayout]
    exact t.layout.describes_toValue

/-! ## What is known -/

/-- Some fields of an object, each kept as it is. -/
def Value.only (v : Value) (keys : List String) : Value :=
  .ofFields (keys.map fun key => (key, v.field? key))

/-- A value, unless it is an array or an object without anything in it. -/
def Value.unlessEmpty : Value → Option Value
  | .array [] | .object .nil => none
  | v => some v

/-- An instruction type without the fields that no reader knows. -/
def InstructionSpec.known (v : Value) : Value :=
  v.only ["template", "description", "configSchema"]

/-- A table of instruction types without such fields. -/
def InstructionSpec.knownTable : Value → Value
  | .object types => .object (types.map known)
  | v => v

/-- A layout without such fields. -/
def Layout.known (v : Value) : Value :=
  v.only ["systemPrompt", "userContentWrapper", "instructionWrapper", "processingInstructions"]

namespace Element

mutual

/-- An element without the fields that no reader of its type knows, here and
in its branches. -/
def known (v : Value) : Value :=
  match v.field? "type" with
  | some (.string "text") => v.only ["type", "id", "text"]
  | some (.string "placeholder") => v.only ["type", "id", "instructionType", "config"]
  | some (.string "conditional") =>
    .ofFields [("type", v.field? "type"), ("id", v.field? "id"),
      ("condition", v.field? "condition"), ("content", knownBranch v "content"),
      ("else", knownBranch v "else")]
  | _ => v
termination_by 2 * sizeOf v + 1

/-- A branch without such fields, if it is there. -/
def knownBranch (v : Value) (key : String) : Option Value :=
  match _items : v.branch? key with
  | some items => some (.array (knownItems items))
  | none => none
termination_by 2 * sizeOf v
decreasing_by
  have hsize := Value.sizeOf_branch?_lt _items
  omega

/-- A sequence of elements without such fields. -/
def knownItems (items : List Value) : List Value :=
  match items with
  | [] => []
  | v :: rest => known v :: knownItems rest
termination_by 2 * sizeOf items

end

end Element

/-- A document without the fields that no reader knows, at every depth, and
without optional collections that are empty. The layout always stands
there. -/
def Template.known (doc : Value) : Value :=
  .ofFields [("version", doc.field? "version"), ("description", doc.field? "description"),
    ("extends", (doc.field? "extends").bind Value.unlessEmpty),
    ("variables", (doc.field? "variables").bind Value.unlessEmpty),
    ("customInstructionTypes",
      ((doc.field? "customInstructionTypes").bind Value.unlessEmpty).map
        InstructionSpec.knownTable),
    ("content", Element.knownBranch doc "content"),
    ("compilerConfig", some (Layout.known ((doc.field? "compilerConfig").getD (.object .nil))))]

namespace Element

mutual

/-- What is known of a document that describes an element is what is written
of the element, -/
theorem Describes.known_eq {v : Value} {e : Element} (h : Describes v e) :
    known v = e.toValue := by
  match h with
  | .text htype hid hs =>
    unfold Names at htype
    simp only [known, htype, Value.only, List.map_cons, List.map_nil, hid, hs, toValue]
  | .placeholder htype hid hnamed hconfig =>
    unfold Names at htype
    simp only [known, htype, Value.only, List.map_cons, List.map_nil, hid, hnamed, hconfig,
      toValue]
  | @Describes.conditional _ id condition content otherwise htype hid hcondition hcontent
      hotherwise =>
    unfold Names at htype
    simp only [known, htype, hid, hcondition, hcontent.knownBranch_eq, hotherwise.knownBranch_eq,
      toValue, toBranch]
termination_by sizeOf e
decreasing_by
  · exact sizeOf_content_lt
  · exact sizeOf_otherwise_lt

/-- and so it is with a branch -/
theorem DescribesBranch.knownBranch_eq {v : Value} {key : String} {branch : Option (List Element)}
    (h : DescribesBranch (v.field? key) branch) : knownBranch v key = toBranch branch := by
  obtain ⟨-, hnone, hbranch⟩ | ⟨items, es, hitems, hbranch, hall⟩ := h.none_or_some
  · rw [hbranch, knownBranch, toBranch]
    split
    · rename_i items hitems
      rw [hnone] at hitems
      cases hitems
    · rfl
  · have hsize : sizeOf es < sizeOf branch := by
      rw [hbranch]
      simp
    rw [hbranch, knownBranch, toBranch]
    split
    · rename_i items' hitems'
      rw [hitems] at hitems'
      cases hitems'
      rw [hall.knownItems_eq]
    · rename_i hnone
      rw [hitems] at hnone
      cases hnone
termination_by sizeOf branch

/-- and with a sequence. -/
theorem DescribesAll.knownItems_eq {items : List Value} {es : List Element}
    (h : DescribesAll items es) : knownItems items = toValues es := by
  match h with
  | .nil => rw [knownItems, toValues]
  | @DescribesAll.cons _ _ _ es hdescribes hall =>
    rw [knownItems, toValues, hdescribes.known_eq, hall.knownItems_eq]
termination_by sizeOf es

end

end Element

theorem InstructionSpec.Describes.known_eq {v : Value} {s : InstructionSpec}
    (h : Describes v s) : known v = s.toValue := by
  simp only [known, Value.only, List.map_cons, List.map_nil, h.template, h.description,
    h.configSchema, toValue]

theorem Layout.Describes.known_eq {v : Value} {l : Layout} (h : Describes v l) :
    known v = l.toValue := by
  simp only [known, Value.only, List.map_cons, List.map_nil, h.systemPrompt, h.userContentWrapper,
    h.instructionWrapper, h.processingInstructions, toValue]

/-- Tables whose values are related have the same image if related values
have. -/
theorem Entries.Forall₂.map_eq {α β γ : Type} {R : α → β → Prop} {f : α → γ} {g : β → γ}
    (h : ∀ a b, R a b → f a = g b) {lo : Option String} {s : Entries α lo} {t : Entries β lo}
    (hst : Forall₂ R s t) : s.map f = t.map g := by
  induction hst with
  | nil => rfl
  | cons hab _ ih => rw [Entries.map, Entries.map, h _ _ hab, ih]

/-- An optional table stands there without being empty just if it is
written. -/
theorem Value.bind_unlessEmpty_object (found : Option (Table Value)) :
    (found.map Value.object).bind unlessEmpty = ofTable (found.getD .nil) := by
  cases found with
  | none => rfl
  | some t => cases t <;> rfl

namespace Template

variable {doc : Value} {t : Template}

/-- **What is known of a document** that describes a template is what is
written of the template. -/
theorem Describes.known_eq (h : Describes doc t) : known doc = t.toValue := by
  obtain ⟨extensions, hextensions, hext⟩ := h.extensions
  obtain ⟨vars, hvars, hvar⟩ := h.vars
  obtain ⟨found, htypes, htype⟩ := h.customTypes
  obtain ⟨items, hitems, hall⟩ := h.content
  have hcontent : Element.DescribesBranch (doc.field? "content") (some t.content) :=
    hitems ▸ .some hall
  have hlist : (extensions.map Value.ofStrings).bind Value.unlessEmpty =
      if t.extensions.isEmpty then none else some (.ofStrings t.extensions) := by
    rw [hext]
    cases extensions with
    | none => rfl
    | some urls => cases urls <;> rfl
  have htable : (Value.ofTable (found.getD .nil)).map InstructionSpec.knownTable =
      Value.ofTable (t.customTypes.map InstructionSpec.toValue) := by
    rw [← htype.map_eq fun _ _ h => h.known_eq]
    cases found.getD .nil <;> rfl
  simp only [known, h.version, h.description, hextensions, hlist, hvars,
    Value.bind_unlessEmpty_object, ← hvar, htypes, htable, hcontent.knownBranch_eq,
    h.layout.known_eq, toValue, Element.toBranch]

/-! ## The round trip -/

/-- Different templates are written differently. -/
theorem toValue_injective {s t : Template} (h : s.toValue = t.toValue) : s = t := by
  have hs := ofValue?_eq_some.2 s.describes_toValue
  rw [h, ofValue?_eq_some.2 t.describes_toValue] at hs
  exact (Option.some.inj hs).symm

/-- **The round trip.** What is written of a template that was decoded has
the structure of a template and is decoded to it again, so that writing it a
second time changes nothing. It is the document without the fields that no
reader knows and without empty optional collections, and no other template
is written in the same way: a branch that is there and empty is not one that
is missing. -/
theorem decode_toValue {doc : Value} {t : Template} (h : decode doc = .ok t) :
    structureErrors t.toValue = [] ∧ decode t.toValue = .ok t ∧ t.toValue = known doc ∧
      ∀ s : Template, s.toValue = t.toValue → s = t := by
  obtain ⟨herrors, hread⟩ := decode_eq_ok.1 h
  have hdescribes := ofValue?_eq_some.1 hread
  have hproper : t.IsProper := by
    obtain ⟨s, hs, hproper⟩ := structureErrors_eq_nil.1 herrors
    rw [← ofValue?_eq_some, hread] at hs
    cases hs
    exact hproper
  have hwritten : structureErrors t.toValue = [] :=
    structureErrors_eq_nil.2 ⟨t, t.describes_toValue, hproper⟩
  exact ⟨hwritten, decode_eq_ok.2 ⟨hwritten, ofValue?_eq_some.2 t.describes_toValue⟩,
    hdescribes.known_eq.symm, fun s hs => toValue_injective hs⟩

/-- A document with an empty list of schemas, a branch that is there and
empty, and two fields that no reader knows. -/
def annotatedDocument : Value :=
  .object (Table.ofList [
    ("version", .string "1"),
    ("author", .string "nobody"),
    ("extends", .array []),
    ("content", .array [.object (Table.ofList [
      ("type", .string "conditional"),
      ("condition", .string "a"),
      ("note", .null),
      ("content", .array [.object (Table.ofList [
        ("type", .string "text"), ("text", .string "x")])]),
      ("else", .array [])])])])

/-- The template of the document. -/
def annotatedTemplate : Template where
  version := "1"
  description := none
  extensions := []
  vars := .nil
  customTypes := .nil
  content := [.conditional none "a" [.text none "x"] (some [])]
  layout := .default

/-- The empty branch is written, and what is not known is not. -/
theorem decode_toValue_annotatedTemplate :
    decode annotatedDocument = .ok annotatedTemplate ∧
      decode annotatedTemplate.toValue = .ok annotatedTemplate ∧
      annotatedTemplate.toValue = known annotatedDocument := by
  have hdecode : decode annotatedDocument = .ok annotatedTemplate := by cbv
  obtain ⟨-, hagain, hknown, -⟩ := decode_toValue hdecode
  exact ⟨hdecode, hagain, hknown⟩

end Template

end PromptTemplate
