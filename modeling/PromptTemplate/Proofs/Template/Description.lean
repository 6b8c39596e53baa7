import PromptTemplate.Proofs.Template.Fields
/-!
# PromptTemplate — elements and the documents they are read from

Vetting looks at documents before they are known to be templates, and
compilation at the elements that are read from them. Here the two are put
side by side. `Describes v e` says which fields of `v` the parts of `e`
stand in, and reading is just that: an element, or a template, is read from
a document exactly if the document describes it (`Element.ofValue?_eq_some`,
`Template.ofValue?_eq_some`). `placedAll` lists the elements of a sequence
at every depth, each with the number of conditionals around it.
-/

namespace PromptTemplate

namespace Element

section Size

variable {name : Option String} {condition : String} {content : List Element}
variable {otherwise : Option (List Element)}

/-- The branches of a conditional are smaller than it is, also the first
one when it is seen as a branch that may be missing, -/
theorem sizeOf_content_lt :
    sizeOf (some content) < sizeOf (Element.conditional name condition content otherwise) := by
  have hname : 0 < sizeOf name := by
    cases name with
    | none => exact Nat.one_pos
    | some s => exact Nat.add_pos_left Nat.one_pos _
  rw [Element.conditional.sizeOf_spec, Option.some.sizeOf_spec]
  omega

/-- and the second one, which may be missing. -/
theorem sizeOf_otherwise_lt :
    sizeOf otherwise < sizeOf (Element.conditional name condition content otherwise) := by
  rw [Element.conditional.sizeOf_spec]
  omega

end Size

/-! ## Elements at every depth -/

/-- The branches of an element, which only a conditional has. -/
def branches : Element → List (List Element)
  | .conditional _ _ content otherwise => content :: otherwise.toList
  | _ => []

mutual

/-- An element at a depth, and everything in its branches, which is one
deeper. -/
def placed (depth : Nat) : Element → List (Nat × Element)
  | .text name s => [(depth, .text name s)]
  | .placeholder name type config => [(depth, .placeholder name type config)]
  | .conditional name condition content otherwise =>
    (depth, .conditional name condition content otherwise) ::
      (placedAll (depth + 1) content ++ placedIn (depth + 1) otherwise)

/-- Elements at a depth, and everything in their branches. -/
def placedAll (depth : Nat) : List Element → List (Nat × Element)
  | [] => []
  | e :: es => placed depth e ++ placedAll depth es

/-- What stands in a branch at a depth, if there is one. -/
def placedIn (depth : Nat) : Option (List Element) → List (Nat × Element)
  | none => []
  | some es => placedAll depth es

end

/-! ## Descriptions -/

/-- A document names a type. -/
def Names (v : Value) (type : String) : Prop := v.field? "type" = some (.string type)

mutual

/-- A document describes an element: it names the type, and the parts of
the element stand in the fields that have their names. -/
inductive Describes : Value → Element → Prop
  | text {v id s} : Names v "text" → v.field? "id" = id.map .string →
      v.field? "text" = some (.string s) → Describes v (.text id s)
  | placeholder {v id type config} : Names v "placeholder" → v.field? "id" = id.map .string →
      v.field? "instructionType" = some (.string type) →
      v.field? "config" = some (.object config) → Describes v (.placeholder id type config)
  | conditional {v id condition content otherwise} : Names v "conditional" →
      v.field? "id" = id.map .string → v.field? "condition" = some (.string condition) →
      DescribesBranch (v.field? "content") (some content) →
      DescribesBranch (v.field? "else") otherwise →
      Describes v (.conditional id condition content otherwise)

/-- Documents describe elements one by one. -/
inductive DescribesAll : List Value → List Element → Prop
  | nil : DescribesAll [] []
  | cons {v e items es} : Describes v e → DescribesAll items es →
      DescribesAll (v :: items) (e :: es)

/-- A field is there exactly if the element has the branch. -/
inductive DescribesBranch : Option Value → Option (List Element) → Prop
  | none : DescribesBranch none none
  | some {items es} : DescribesAll items es → DescribesBranch (some (.array items)) (some es)

end

/-- A described branch is missing on both sides, or on neither. -/
theorem DescribesBranch.none_or_some {v : Value} {key : String} {branch : Option (List Element)}
    (h : DescribesBranch (v.field? key) branch) :
    (v.field? key = .none ∧ v.branch? key = .none ∧ branch = .none) ∨
      ∃ items es, v.branch? key = .some items ∧ branch = .some es ∧ DescribesAll items es := by
  unfold Value.branch?
  generalize v.field? key = field at h
  cases h with
  | none => exact .inl ⟨rfl, rfl, rfl⟩
  | some hall => exact .inr ⟨_, _, rfl, rfl, hall⟩

/-- A branch that is there is described by its items. -/
theorem describesBranch_of_branch? {v : Value} {key : String} {items : List Value}
    {es : List Element} (hfound : v.branch? key = some items) (h : DescribesAll items es) :
    DescribesBranch (v.field? key) (some es) := by
  rw [Value.branch?_eq_some.1 hfound]
  exact .some h

/-! ## Reading elements -/

/-- The type of an element that is read is the one that is named. -/
theorem required?_type {v : Value} {type : String} :
    v.required? "type" Value.string? = some type ↔ Names v type :=
  Value.required?_eq_some Value.string?_inverts

mutual

/-- What is read is described: one element, -/
theorem describes_of_ofValue? {v : Value} {e : Element} (h : ofValue? v = some e) :
    Describes v e := by
  unfold ofValue? at h
  split at h
  · rename_i id hid htype
    obtain ⟨s, hs, rfl⟩ := Option.map_eq_some_iff.1 h
    rw [Value.optional?_eq_some Value.string?_inverts] at hid
    rw [Value.required?_eq_some Value.string?_inverts] at hs
    exact .text (required?_type.1 htype) hid hs
  · rename_i id hid htype
    obtain ⟨type, hnamed, h⟩ := Option.bind_eq_some_iff.1 h
    obtain ⟨config, hconfig, h⟩ := Option.bind_eq_some_iff.1 h
    cases h
    rw [Value.optional?_eq_some Value.string?_inverts] at hid
    rw [Value.required?_eq_some Value.string?_inverts] at hnamed
    rw [Value.required?_eq_some Value.object?_inverts] at hconfig
    exact .placeholder (required?_type.1 htype) hid hnamed hconfig
  · rename_i id hid htype
    rw [Value.optional?_eq_some Value.string?_inverts] at hid
    split at h
    · rename_i condition items hcondition hcontent
      rw [Value.required?_eq_some Value.string?_inverts] at hcondition
      split at h
      · cases h
      · rename_i content hitems
        have hall : DescribesBranch (v.field? "content") (some content) :=
          describesBranch_of_branch? hcontent (describesAll_of_ofValues? hitems)
        split at h
        · rename_i others hothers
          obtain ⟨es, hes, rfl⟩ := Option.map_eq_some_iff.1 h
          exact .conditional (required?_type.1 htype) hid hcondition hall
            (describesBranch_of_branch? hothers (describesAll_of_ofValues? hes))
        · split at h
          · rename_i hmissing
            cases h
            rw [Option.isNone_iff_eq_none] at hmissing
            exact .conditional (required?_type.1 htype) hid hcondition hall (hmissing ▸ .none)
          · cases h
    · cases h
  · cases h
termination_by sizeOf v
decreasing_by
  all_goals exact Value.sizeOf_branch?_lt ‹_›

/-- and a sequence of them. -/
theorem describesAll_of_ofValues? {items : List Value} {es : List Element}
    (h : ofValues? items = some es) : DescribesAll items es := by
  unfold ofValues? at h
  split at h
  · cases h
    exact .nil
  · obtain ⟨e, he, h⟩ := Option.bind_eq_some_iff.1 h
    obtain ⟨es, hes, h⟩ := Option.bind_eq_some_iff.1 h
    cases h
    exact .cons (describes_of_ofValue? he) (describesAll_of_ofValues? hes)
termination_by sizeOf items

end

mutual

/-- What is described is read: one element, -/
theorem Describes.ofValue? {v : Value} {e : Element} (h : Describes v e) :
    Element.ofValue? v = some e := by
  match h with
  | .text htype hid hs =>
    rw [← Value.optional?_eq_some Value.string?_inverts] at hid
    rw [← Value.required?_eq_some Value.string?_inverts] at hs
    rw [Element.ofValue?, hid, required?_type.2 htype]
    simp only [hs, Option.map_some]
  | .placeholder htype hid hnamed hconfig =>
    rw [← Value.optional?_eq_some Value.string?_inverts] at hid
    rw [← Value.required?_eq_some Value.string?_inverts] at hnamed
    rw [← Value.required?_eq_some Value.object?_inverts] at hconfig
    rw [Element.ofValue?, hid, required?_type.2 htype]
    simp only [hnamed, hconfig, Option.bind_eq_bind, Option.bind_some]
    rfl
  | @Describes.conditional _ id condition content otherwise htype hid hcondition hcontent
      hotherwise =>
    rw [← Value.optional?_eq_some Value.string?_inverts] at hid
    rw [← Value.required?_eq_some Value.string?_inverts] at hcondition
    have hfirst : ∃ items, v.branch? "content" = some items ∧ DescribesAll items content := by
      obtain ⟨-, -, hnone⟩ | ⟨items, es, hfound, hes, hall⟩ := hcontent.none_or_some
      · cases hnone
      · cases hes
        exact ⟨items, hfound, hall⟩
    obtain ⟨items, hitems, hall⟩ := hfirst
    have hsize : sizeOf content < sizeOf (conditional id condition content otherwise) :=
      Nat.lt_trans (by simp) sizeOf_content_lt
    rw [Element.ofValue?, hid, required?_type.2 htype]
    simp only [hcondition]
    split
    · rename_i condition' items' hcondition' hitems'
      cases hcondition'
      obtain rfl : items = items' := Option.some.inj (hitems.symm.trans hitems')
      rw [hall.ofValues?]
      dsimp only
      obtain ⟨hmissing, hnone, hbranch⟩ | ⟨others, es, hothers, hbranch, hall'⟩ :=
        hotherwise.none_or_some
      · split
        · rename_i others hothers
          rw [hnone] at hothers
          cases hothers
        · rw [hmissing, hbranch]
          rfl
      · have hsize' : sizeOf es < sizeOf (conditional id condition content otherwise) := by
          rw [hbranch]
          exact Nat.lt_trans (by simp) sizeOf_otherwise_lt
        split
        · rename_i others' hothers'
          obtain rfl : others = others' := Option.some.inj (hothers.symm.trans hothers')
          rw [hall'.ofValues?, hbranch]
          rfl
        · rename_i hnone
          rw [hothers] at hnone
          cases hnone
    · rename_i hno
      exact absurd hitems (hno _ _ rfl)
termination_by sizeOf e
decreasing_by
  all_goals assumption

/-- and a sequence of them. -/
theorem DescribesAll.ofValues? {items : List Value} {es : List Element}
    (h : DescribesAll items es) : Element.ofValues? items = some es := by
  match h with
  | .nil => rw [Element.ofValues?]
  | @DescribesAll.cons v e items es hdescribes hall =>
    rw [Element.ofValues?, hdescribes.ofValue?, hall.ofValues?]
    rfl
termination_by sizeOf es

end

/-- **An element is read** from the documents that describe it. -/
theorem ofValue?_eq_some {v : Value} {e : Element} : ofValue? v = some e ↔ Describes v e :=
  ⟨describes_of_ofValue?, Describes.ofValue?⟩

theorem ofValues?_eq_some {items : List Value} {es : List Element} :
    ofValues? items = some es ↔ DescribesAll items es :=
  ⟨describesAll_of_ofValues?, DescribesAll.ofValues?⟩

end Element

/-! ## Instruction types -/

/-- A document describes an instruction type. -/
structure InstructionSpec.Describes (v : Value) (s : InstructionSpec) : Prop where
  template : v.field? "template" = some (.string s.template)
  description : v.field? "description" = s.description.map .string
  configSchema : v.field? "configSchema" = s.configSchema

/-- An instruction type is read from the documents that describe it. -/
theorem InstructionSpec.ofValue?_eq_some {v : Value} {s : InstructionSpec} :
    ofValue? v = some s ↔ Describes v s := by
  simp only [ofValue?, Option.bind_eq_bind, Option.bind_eq_some_iff,
    Value.required?_eq_some Value.string?_inverts, Value.optional?_eq_some Value.string?_inverts]
  constructor
  · rintro ⟨template, htemplate, description, hdescription, h⟩
    cases h
    exact ⟨htemplate, hdescription, rfl⟩
  · rintro ⟨htemplate, hdescription, hschema⟩
    refine ⟨_, htemplate, _, hdescription, ?_⟩
    rw [hschema]
    rfl

namespace Entries

variable {α β : Type}

/-- Two tables have the same keys, and values under them that are
related. -/
inductive Forall₂ (R : α → β → Prop) :
    {lo : Option String} → Entries α lo → Entries β lo → Prop
  | nil {lo} : Forall₂ R (.nil : Entries α lo) .nil
  | cons {lo : Option String} {k : String} {h : Above lo k} {a b s t} : R a b → Forall₂ R s t →
      Forall₂ R (.cons k h a s) (.cons k h b t)

/-- Values are read one by one. -/
theorem mapM?_eq_some {read : α → Option β} {lo : Option String} {s : Entries α lo}
    {t : Entries β lo} : s.mapM? read = some t ↔ Forall₂ (fun a b => read a = some b) s t := by
  induction s with
  | nil =>
    constructor
    · intro h
      cases h
      exact .nil
    · rintro ⟨⟩
      rfl
  | cons k h a s ih =>
    simp only [mapM?, Option.bind_eq_bind, Option.bind_eq_some_iff, ih]
    constructor
    · rintro ⟨b, hb, t, ht, heq⟩
      cases heq
      exact .cons hb ht
    · intro h
      cases h with
      | cons hb ht => exact ⟨_, hb, _, ht, rfl⟩

end Entries

/-! ## Layouts -/

/-- A document describes a layout. -/
structure Layout.Describes (v : Value) (l : Layout) : Prop where
  object : ∃ fields, v = .object fields
  systemPrompt : v.field? "systemPrompt" = l.systemPrompt.map .string
  userContentWrapper : v.field? "userContentWrapper" = l.userContentWrapper.map .string
  instructionWrapper : v.field? "instructionWrapper" = l.instructionWrapper.map .string
  processingInstructions :
    v.field? "processingInstructions" = l.processingInstructions.map .ofStrings

/-- A layout is read from the documents that describe it. -/
theorem Layout.ofValue?_eq_some {v : Value} {l : Layout} :
    ofValue? v = some l ↔ Describes v l := by
  simp only [ofValue?, Option.bind_eq_bind, Option.bind_eq_some_iff, Value.object?_inverts.eq_some,
    Value.optional?_eq_some Value.string?_inverts, Value.optional?_eq_some Value.strings?_inverts]
  constructor
  · rintro ⟨fields, hobject, prompt, hprompt, wrapper, hwrapper, frame, hframe, notes, hnotes, h⟩
    cases h
    exact ⟨⟨fields, hobject⟩, hprompt, hwrapper, hframe, hnotes⟩
  · rintro ⟨⟨fields, hobject⟩, hprompt, hwrapper, hframe, hnotes⟩
    exact ⟨fields, hobject, _, hprompt, _, hwrapper, _, hframe, _, hnotes, rfl⟩

/-- The empty document describes the layout that leaves everything to the
defaults. -/
theorem Layout.describes_nil : Describes (.object .nil) .default :=
  ⟨⟨_, rfl⟩, rfl, rfl, rfl, rfl⟩

/-! ## Templates -/

namespace Template

/-- A document describes a template. A list of schemas, a table of variables
or of instruction types, and a layout that are missing are empty. -/
structure Describes (doc : Value) (t : Template) : Prop where
  version : doc.field? "version" = some (.string t.version)
  description : doc.field? "description" = t.description.map .string
  extensions : ∃ found : Option (List String),
    doc.field? "extends" = found.map .ofStrings ∧ t.extensions = found.getD []
  vars : ∃ found : Option (Table Value),
    doc.field? "variables" = found.map .object ∧ t.vars = found.getD .nil
  customTypes : ∃ found : Option (Table Value),
    doc.field? "customInstructionTypes" = found.map .object ∧
      Entries.Forall₂ InstructionSpec.Describes (found.getD .nil) t.customTypes
  content : ∃ items, doc.field? "content" = some (.array items) ∧
    Element.DescribesAll items t.content
  layout : Layout.Describes ((doc.field? "compilerConfig").getD (.object .nil)) t.layout

/-- A template's own instruction types are read from the documents that
describe them. -/
theorem optional?_customTypes {doc : Value} {types : Option (Table InstructionSpec)} :
    doc.optional? "customInstructionTypes"
        (fun v => v.object?.bind (Entries.mapM? InstructionSpec.ofValue?)) = some types ↔
      ∃ found : Option (Table Value), doc.field? "customInstructionTypes" = found.map .object ∧
        found.isSome = types.isSome ∧
        Entries.Forall₂ InstructionSpec.Describes (found.getD .nil) (types.getD .nil) := by
  rw [Value.optional?_bind_eq_some Value.object?_inverts]
  refine exists_congr fun found => and_congr_right fun _ => ?_
  cases found with
  | none =>
    cases types with
    | none => simpa using Entries.Forall₂.nil
    | some types => simp
  | some found =>
    cases types with
    | none => simp
    | some types => simp [Entries.mapM?_eq_some, InstructionSpec.ofValue?_eq_some]

/-- A layout is read from the documents that describe it, and is the default
one where there is none. -/
theorem optional?_layout {doc : Value} {layout : Layout} :
    (∃ found, doc.optional? "compilerConfig" Layout.ofValue? = some found ∧
      layout = found.getD .default) ↔
      Layout.Describes ((doc.field? "compilerConfig").getD (.object .nil)) layout := by
  rw [← Layout.ofValue?_eq_some]
  unfold Value.optional?
  cases doc.field? "compilerConfig" with
  | none =>
    have hdefault := Layout.ofValue?_eq_some.2 Layout.describes_nil
    simp [hdefault, eq_comm]
  | some v =>
    constructor
    · rintro ⟨found, hfound, rfl⟩
      obtain ⟨l, hl, rfl⟩ := Option.map_eq_some_iff.1 hfound
      exact hl
    · intro hl
      exact ⟨some layout, Option.map_eq_some_iff.2 ⟨layout, hl, rfl⟩, rfl⟩

/-- **A template is read** from the documents that describe it. -/
theorem ofValue?_eq_some {doc : Value} {t : Template} :
    ofValue? doc = some t ↔ Describes doc t := by
  simp only [ofValue?, Option.bind_eq_bind, Option.bind_eq_some_iff,
    Value.required?_eq_some Value.string?_inverts, Value.required?_eq_some Value.array?_inverts,
    Value.optional?_eq_some Value.string?_inverts, Value.optional?_eq_some Value.strings?_inverts,
    Value.optional?_eq_some Value.object?_inverts, optional?_customTypes,
    Element.ofValues?_eq_some]
  constructor
  · rintro ⟨version, hversion, description, hdescription, extensions, hextensions, vars, hvars,
      types, ⟨found, hfound, -, htypes⟩, items, hitems, content, hcontent, layout, hlayout, h⟩
    cases h
    exact ⟨hversion, hdescription, ⟨_, hextensions, rfl⟩, ⟨_, hvars, rfl⟩, ⟨_, hfound, htypes⟩,
      ⟨_, hitems, hcontent⟩, optional?_layout.1 ⟨_, hlayout, rfl⟩⟩
  · rintro ⟨hversion, hdescription, ⟨extensions, hextensions, hext⟩, ⟨vars, hvars, hvar⟩,
      ⟨found, hfound, htypes⟩, ⟨items, hitems, hcontent⟩, hlayout⟩
    obtain ⟨layout, hlayout, hlay⟩ := optional?_layout.2 hlayout
    -- there are types of its own where there is a table of them
    have hown : ∃ types : Option (Table InstructionSpec), found.isSome = types.isSome ∧
        t.customTypes = types.getD .nil := by
      cases found with
      | none =>
        cases hnone : t.customTypes with
        | nil => exact ⟨none, rfl, rfl⟩
        | cons k h v rest =>
          rw [hnone] at htypes
          cases htypes
      | some found => exact ⟨some t.customTypes, rfl, rfl⟩
    obtain ⟨types, hsome, htype⟩ := hown
    rw [htype] at htypes
    refine ⟨_, hversion, _, hdescription, extensions, hextensions, vars, hvars, types,
      ⟨found, hfound, hsome, htypes⟩, items, hitems, _, hcontent, layout, hlayout, ?_⟩
    rw [← hext, ← hvar, ← htype, ← hlay]
    rfl

/-- Decoding reads the template off a document that has no errors. -/
theorem decode_eq_ok {doc : Value} {t : Template} :
    decode doc = .ok t ↔ structureErrors doc = [] ∧ ofValue? doc = some t := by
  unfold decode
  split
  · rename_i herrors
    cases ofValue? doc <;> simp [herrors]
  · rename_i herrors
    constructor
    · intro h
      cases h
    · rintro ⟨hnone, -⟩
      exact absurd hnone herrors

/-- A document describes the template that it decodes to. -/
theorem describes_of_decode {doc : Value} {t : Template} (h : decode doc = .ok t) :
    Describes doc t :=
  ofValue?_eq_some.1 (decode_eq_ok.1 h).2

/-! ## What is seen of a described document

Where a document is looked at before it is read, what is there of the wrong
sort is passed over. Of a described document nothing is. -/

section Seen

variable {doc : Value} {t : Template}

/-- Only objects have fields, and the version is one. -/
theorem Describes.isObject (h : Describes doc t) : doc.object?.isNone = false := by
  have hversion := h.version
  cases hdoc : doc.object? with
  | none => simp [Value.field?, hdoc] at hversion
  | some fields => rfl

theorem Describes.items (h : Describes doc t) :
    ∃ items, doc.branch? "content" = some items ∧ Element.DescribesAll items t.content := by
  obtain ⟨items, hitems, hall⟩ := h.content
  exact ⟨items, Value.branch?_eq_some.2 hitems, hall⟩

theorem Describes.seenVars (h : Describes doc t) :
    ((doc.field? "variables").bind Value.object?).getD .nil = t.vars := by
  obtain ⟨found, hfield, hvars⟩ := h.vars
  rw [hfield, hvars]
  cases found <;> rfl

theorem Describes.seenExtensions (h : Describes doc t) :
    ((doc.branch? "extends").getD []).filterMap Value.string? = t.extensions := by
  obtain ⟨found, hfield, hextensions⟩ := h.extensions
  rw [Value.branch?, hfield, hextensions]
  cases found with
  | none => rfl
  | some texts =>
    show (texts.map Value.string).filterMap Value.string? = texts
    rw [List.filterMap_map]
    exact List.filterMap_some

end Seen

end Template

end PromptTemplate
