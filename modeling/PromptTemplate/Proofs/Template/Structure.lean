import PromptTemplate.Proofs.Template.Description
/-!
# PromptTemplate — what the structure of a document is worth

The structure of a document is looked over without reading it, and every
error is kept. Here it is compared with reading. What is asked of a
document beyond the shape that reading needs is a condition on the template
alone (`Template.IsProper`), and a document has no errors exactly if it
describes a template that meets it (`structureErrors_eq_nil`); the elements
go by recursion along the document, both branches together
(`elementErrors_iff`). So decoding fails with the errors of the structure,
or not at all: `decode_by_structure`.
-/

namespace PromptTemplate

/-! ## Proper templates -/

/-- What is asked of an element beyond its shape, its branches apart. -/
def Element.IsProper : Element → Prop
  | .text _ _ => True
  | .placeholder _ type config =>
    Text.isAllBlank type = false ∧ ∃ s, config.find? "description" = some (.string s)
  | .conditional _ condition _ _ => Text.isAllBlank condition = false

/-- Every element that is placed somewhere is proper. -/
def Element.AllProper (placed : List (Nat × Element)) : Prop := ∀ x ∈ placed, x.2.IsProper

/-- What is asked of an instruction type: a schema of its configuration is
an object. -/
def InstructionSpec.IsProper (s : InstructionSpec) : Prop :=
  ∀ schema ∈ s.configSchema, ∃ fields, schema = .object fields

/-- What is asked of a template beyond its shape. -/
structure Template.IsProper (t : Template) : Prop where
  version : Text.isAllBlank t.version = false
  customTypes : ∀ e ∈ t.customTypes.toList, e.2.IsProper
  wrapper : ∀ w ∈ t.layout.instructionWrapper, Text.contains w Layout.instructionSlot = true
  content : t.content ≠ []
  elements : Element.AllProper (Element.placedAll 0 t.content)

namespace Template

/-! ## Tests of fields -/

variable {v : Value} {key place : String}

@[simp] theorem unlessThat_eq_nil {test : Bool} {error : String} :
    unlessThat test error = [] ↔ test = true := by
  cases test <;> simp [unlessThat]

/-- A test accepts what a writer writes, and nothing else. -/
structure Accepts {α : Type} (test : Value → Bool) (write : α → Value) : Prop where
  eq_true {v : Value} : test v = true ↔ ∃ a, v = write a

theorem isString_accepts : Accepts isString .string where
  eq_true {v} := by cases v <;> simp [isString, Value.string?]

theorem isObject_accepts : Accepts isObject (.object : Table Value → Value) where
  eq_true {v} := by cases v <;> simp [isObject, Value.object?]

/-- An array that holds nothing but strings is one of texts. -/
theorem all_isString_eq_true {items : List Value} :
    items.all isString = true ↔ ∃ texts : List String, items = texts.map .string := by
  induction items with
  | nil => simp
  | cons v items ih =>
    rw [List.all_cons, Bool.and_eq_true, ih, isString_accepts.eq_true]
    constructor
    · rintro ⟨⟨s, rfl⟩, texts, rfl⟩
      exact ⟨s :: texts, rfl⟩
    · rintro ⟨texts, htexts⟩
      obtain ⟨s, texts, rfl, rfl, rfl⟩ := List.map_eq_cons_iff.1 htexts.symm
      exact ⟨⟨s, rfl⟩, texts, rfl⟩

theorem isTexts_accepts : Accepts isTexts .ofStrings where
  eq_true {v} := by
    cases v with
    | array items =>
      rw [isTexts, all_isString_eq_true]
      simp [Value.ofStrings]
    | null | bool | number | string | object => simp [isTexts, Value.ofStrings]

/-- **An optional field** passes a test if it holds what would be written,
or nothing if nothing would be. -/
theorem orNothing_eq_true {α : Type} {test : Value → Bool} {write : α → Value}
    (h : Accepts test write) :
    orNothing v key test = true ↔ ∃ a : Option α, v.field? key = a.map write := by
  unfold orNothing
  split
  · rename_i hnone
    simp only [hnone, true_iff]
    exact ⟨none, rfl⟩
  · rename_i w hw
    rw [h.eq_true, hw]
    constructor
    · rintro ⟨a, rfl⟩
      exact ⟨some a, rfl⟩
    · rintro ⟨found, hfound⟩
      obtain ⟨a, -, rfl⟩ := Option.map_eq_some_iff.1 hfound.symm
      exact ⟨a, rfl⟩

theorem hasText_eq_true : hasText v key = true ↔ ∃ s, v.field? key = some (.string s) := by
  unfold hasText
  split
  · simp_all
  · simp_all

theorem hasProperText_eq_true : hasProperText v key = true ↔
    ∃ s, v.field? key = some (.string s) ∧ Text.isAllBlank s = false := by
  unfold hasProperText
  split
  · simp_all
  · simp_all

/-! ## Elements -/

open Element (Names DescribesAll DescribesBranch AllProper placed placedAll placedIn)

theorem configErrors_eq_nil : configErrors v place = [] ↔
    ∃ config : Table Value, v.field? "config" = some (.object config) ∧
      ∃ s, config.find? "description" = some (.string s) := by
  unfold configErrors
  split
  · rename_i hnone
    simp [hnone]
  · rename_i config hconfig
    rw [hconfig]
    split
    · rename_i hnone
      simp [hnone]
    · rename_i d hd
      simp [hd, isString_accepts.eq_true]
  · rename_i w hother hw
    simp only [hw, reduceCtorEq, Option.some.injEq, false_iff]
    rintro ⟨config, hconfig, -⟩
    exact hother config hconfig

/-- A placeholder without errors has a name of its type, and a configuration
with a description. -/
theorem placeholderErrors_eq_nil : placeholderErrors v place = [] ↔
    (∃ type, v.field? "instructionType" = some (.string type) ∧ Text.isAllBlank type = false) ∧
    ∃ config : Table Value, v.field? "config" = some (.object config) ∧
      ∃ s, config.find? "description" = some (.string s) := by
  rw [placeholderErrors, List.append_eq_nil_iff, unlessThat_eq_nil, hasProperText_eq_true,
    configErrors_eq_nil]

/-- An element without errors names one of the types, and has what that
type requires. -/
theorem elementErrors_eq_nil : elementErrors v place = [] ↔
    orNothing v "id" isString = true ∧
      (Names v "text" ∧ hasText v "text" = true ∨
      Names v "placeholder" ∧ placeholderErrors v place = [] ∨
      Names v "conditional" ∧ hasProperText v "condition" = true ∧
        (∃ items, v.field? "content" = some (.array items) ∧
          itemErrors items s!"{place}.content" 0 = []) ∧
        (v.field? "else" = none ∨ ∃ items, v.field? "else" = some (.array items) ∧
          itemErrors items s!"{place}.else" 0 = [])) := by
  unfold Names
  cases v with
  | object fields =>
    rw [elementErrors, List.append_eq_nil_iff, unlessThat_eq_nil]
    refine and_congr_right fun _ => ?_
    split
    · rename_i hnone
      simp [hnone]
    · rename_i htype
      simp [htype]
    · rename_i htype
      simp [htype]
    · rename_i htype
      simp only [htype, List.append_eq_nil_iff, unlessThat_eq_nil, ← Value.branch?_eq_some]
      simp only [Option.some.injEq, Value.string.injEq, String.reduceEq, false_and, true_and,
        false_or, and_assoc]
      refine and_congr_right fun _ => and_congr ?_ ?_
      · split
        · rename_i items hitems
          simp [hitems]
        · rename_i hnone
          simp [hnone]
      · split
        · rename_i items hitems
          have hthere : ¬ (Value.object fields).field? "else" = none := by
            rw [Value.branch?_eq_some.1 hitems]
            simp
          simp [hitems, hthere]
        · rename_i hnone
          simp [hnone]
    · rename_i type htext hplaceholder hconditional htype
      rw [htype]
      constructor
      · rintro ⟨⟩
      · rintro (⟨hnames, -⟩ | ⟨hnames, -⟩ | ⟨hnames, -⟩)
        · cases hnames
          exact absurd rfl htext
        · cases hnames
          exact absurd rfl hplaceholder
        · cases hnames
          exact absurd rfl hconditional
    · rename_i w _ _ _ hother htype
      rw [htype]
      constructor
      · rintro ⟨⟩
      · rintro (⟨hnames, -⟩ | ⟨hnames, -⟩ | ⟨hnames, -⟩)
        all_goals exact absurd (Option.some.inj hnames) (hother _)
  | null | bool | number | string | array => simp [elementErrors, Value.field?, Value.object?]

theorem allProper_append {xs ys : List (Nat × Element)} :
    AllProper (xs ++ ys) ↔ AllProper xs ∧ AllProper ys := by
  simp [AllProper, or_imp, forall_and]

theorem allProper_cons {depth : Nat} {e : Element} {xs : List (Nat × Element)} :
    AllProper ((depth, e) :: xs) ↔ e.IsProper ∧ AllProper xs := by
  simp [AllProper]

/-- A branch that must be there is without errors if it is described and
proper, as its items are. -/
theorem branch_iff {depth : Nat}
    (h : ∀ items, v.branch? key = some items → (itemErrors items place 0 = [] ↔
      ∃ es, DescribesAll items es ∧ AllProper (placedAll depth es))) :
    (∃ items, v.field? key = some (.array items) ∧ itemErrors items place 0 = []) ↔
      ∃ es, DescribesBranch (v.field? key) (some es) ∧ AllProper (placedAll depth es) := by
  constructor
  · rintro ⟨items, hitems, hnil⟩
    obtain ⟨es, hall, hproper⟩ := (h items (Value.branch?_eq_some.2 hitems)).1 hnil
    rw [hitems]
    exact ⟨es, .some hall, hproper⟩
  · rintro ⟨es, hbranch, hproper⟩
    obtain ⟨-, -, hnone⟩ | ⟨items, es', hitems, hes, hall⟩ := hbranch.none_or_some
    · cases hnone
    · cases hes
      exact ⟨items, Value.branch?_eq_some.1 hitems, (h items hitems).2 ⟨es, hall, hproper⟩⟩

/-- And so is one that may be missing. -/
theorem optionalBranch_iff {depth : Nat}
    (h : ∀ items, v.branch? key = some items → (itemErrors items place 0 = [] ↔
      ∃ es, DescribesAll items es ∧ AllProper (placedAll depth es))) :
    (v.field? key = none ∨
      ∃ items, v.field? key = some (.array items) ∧ itemErrors items place 0 = []) ↔
      ∃ branch, DescribesBranch (v.field? key) branch ∧ AllProper (placedIn depth branch) := by
  rw [branch_iff h]
  constructor
  · rintro (hnone | ⟨es, hbranch, hproper⟩)
    · rw [hnone]
      exact ⟨none, .none, by simp [placedIn, AllProper]⟩
    · exact ⟨some es, hbranch, hproper⟩
  · rintro ⟨branch, hbranch, hproper⟩
    cases branch with
    | none =>
      obtain ⟨hnone, -, -⟩ | ⟨_, _, _, hsome, _⟩ := hbranch.none_or_some
      · exact .inl hnone
      · cases hsome
    | some es => exact .inr ⟨es, hbranch, hproper⟩

mutual

/-- **An element is without errors** exactly if it describes one that is
proper at every depth, -/
theorem elementErrors_iff (v : Value) (place : String) (depth : Nat) :
    elementErrors v place = [] ↔ ∃ e, Element.Describes v e ∧ AllProper (placed depth e) := by
  rw [elementErrors_eq_nil, orNothing_eq_true isString_accepts, hasText_eq_true,
    placeholderErrors_eq_nil, hasProperText_eq_true,
    branch_iff fun items hitems => itemErrors_iff items _ 0 (depth + 1),
    optionalBranch_iff fun items hitems => itemErrors_iff items _ 0 (depth + 1)]
  constructor
  · rintro ⟨⟨id, hid⟩, ⟨hnames, s, hs⟩ |
      ⟨hnames, ⟨type, htype, hproper⟩, config, hconfig, hdescription⟩ |
      ⟨hnames, ⟨condition, hcondition, hproper⟩, ⟨content, hcontent, hall⟩,
        otherwise, hotherwise, hall'⟩⟩
    · refine ⟨.text id s, .text hnames hid hs, ?_⟩
      simp [placed, AllProper, Element.IsProper]
    · refine ⟨.placeholder id type config, .placeholder hnames hid htype hconfig, ?_⟩
      simpa [placed, AllProper, Element.IsProper] using ⟨hproper, hdescription⟩
    · refine ⟨.conditional id condition content otherwise,
        .conditional hnames hid hcondition hcontent hotherwise, ?_⟩
      rw [placed, allProper_cons, allProper_append]
      exact ⟨hproper, hall, hall'⟩
  · rintro ⟨e, hdescribes, hproper⟩
    cases hdescribes with
    | text hnames hid hs => exact ⟨⟨_, hid⟩, .inl ⟨hnames, _, hs⟩⟩
    | placeholder hnames hid htype hconfig =>
      obtain ⟨hblank, hdescription⟩ := hproper _ (List.mem_singleton.2 rfl)
      exact ⟨⟨_, hid⟩, .inr (.inl ⟨hnames, ⟨_, htype, hblank⟩, _, hconfig, hdescription⟩)⟩
    | conditional hnames hid hcondition hcontent hotherwise =>
      rw [placed, allProper_cons, allProper_append] at hproper
      obtain ⟨hblank, hall, hall'⟩ := hproper
      exact ⟨⟨_, hid⟩, .inr (.inr ⟨hnames, ⟨_, hcondition, hblank⟩, ⟨_, hcontent, hall⟩,
        _, hotherwise, hall'⟩)⟩
termination_by sizeOf v
decreasing_by
  all_goals exact Value.sizeOf_branch?_lt hitems

/-- and so is a sequence of them. -/
theorem itemErrors_iff (items : List Value) (place : String) (position depth : Nat) :
    itemErrors items place position = [] ↔
      ∃ es, DescribesAll items es ∧ AllProper (placedAll depth es) := by
  match items with
  | [] =>
    rw [itemErrors]
    exact ⟨fun _ => ⟨[], .nil, by simp [placedAll, AllProper]⟩, fun _ => rfl⟩
  | v :: rest =>
    rw [itemErrors, List.append_eq_nil_iff, elementErrors_iff v _ depth,
      itemErrors_iff rest place (position + 1) depth]
    constructor
    · rintro ⟨⟨e, he, hproper⟩, es, hes, hall⟩
      exact ⟨e :: es, .cons he hes, allProper_append.2 ⟨hproper, hall⟩⟩
    · rintro ⟨es, hes, hall⟩
      cases hes with
      | cons he hes =>
        obtain ⟨hproper, hall⟩ := allProper_append.1 hall
        exact ⟨⟨_, he, hproper⟩, _, hes, hall⟩
termination_by sizeOf items

end

/-! ## The parts of a document -/

variable {doc : Value}

theorem versionErrors_eq_nil : versionErrors doc = [] ↔
    ∃ s, doc.field? "version" = some (.string s) ∧ Text.isAllBlank s = false := by
  unfold versionErrors
  split
  · rename_i hnone
    simp [hnone]
  · rename_i s hs
    simp [hs]
  · rename_i w hother hw
    simp only [hw, reduceCtorEq, Option.some.injEq, false_iff]
    rintro ⟨s, hs, -⟩
    exact hother s hs

theorem extensionErrors_eq_nil : extensionErrors doc = [] ↔
    orNothing doc "extends" isTexts = true := by
  unfold extensionErrors
  split
  · rename_i hnone
    simp [orNothing, hnone]
  · rename_i urls hurls
    -- the numbers of the items do not matter
    have hall : urls.all isString = true ↔ ∀ x ∈ urls.zipIdx, isString x.1 = true := by
      rw [← List.zipIdx_map_fst 0 urls, List.all_map, List.all_eq_true, List.zipIdx_map_fst]
      rfl
    rw [orNothing, hurls, List.flatMap_eq_nil_iff]
    simp only [unlessThat_eq_nil, isTexts, hall]
  · rename_i w hother hw
    cases w with
    | array urls => exact absurd rfl (hother urls)
    | null | bool | number | string | object => simp [orNothing, isTexts, hw]

theorem customTypeErrors_eq_nil {name : String} {definition : Value} :
    customTypeErrors name definition = [] ↔
      ∃ s, InstructionSpec.Describes definition s ∧ s.IsProper := by
  unfold customTypeErrors
  cases definition with
  | object fields =>
    simp only [List.append_eq_nil_iff, unlessThat_eq_nil, hasText_eq_true,
      orNothing_eq_true isString_accepts, orNothing_eq_true isObject_accepts]
    constructor
    · rintro ⟨⟨⟨template, htemplate⟩, description, hdescription⟩, schema, hschema⟩
      refine ⟨⟨template, description, schema.map .object⟩, ⟨htemplate, hdescription, hschema⟩, ?_⟩
      intro found hfound
      obtain ⟨fields, -, rfl⟩ := Option.map_eq_some_iff.1 hfound
      exact ⟨fields, rfl⟩
    · rintro ⟨s, ⟨htemplate, hdescription, hschema⟩, hproper⟩
      refine ⟨⟨⟨_, htemplate⟩, _, hdescription⟩, ?_⟩
      cases hfound : s.configSchema with
      | none => exact ⟨none, hschema.trans hfound⟩
      | some schema =>
        obtain ⟨fields, rfl⟩ := hproper schema hfound
        exact ⟨some fields, hschema.trans hfound⟩
  | null | bool | number | string | array =>
    simp only [reduceCtorEq, false_iff]
    rintro ⟨s, ⟨htemplate, -, -⟩, -⟩
    cases htemplate

/-- What is there for every value of a table is there as a table. -/
theorem exists_forall₂ {α β : Type} {R : α → β → Prop} {P : β → Prop} {lo : Option String}
    {s : Entries α lo} : (∀ e ∈ s.toList, ∃ b, R e.2 b ∧ P b) ↔
      ∃ t, Entries.Forall₂ R s t ∧ ∀ e ∈ t.toList, P e.2 := by
  induction s with
  | nil =>
    simp only [Entries.toList, List.not_mem_nil, false_implies, implies_true, true_iff]
    exact ⟨.nil, .nil, by simp [Entries.toList]⟩
  | cons k h a s ih =>
    rw [Entries.toList, List.forall_mem_cons, ih]
    constructor
    · rintro ⟨⟨b, hab, hb⟩, t, hst, ht⟩
      refine ⟨.cons k h b t, .cons hab hst, ?_⟩
      rw [Entries.toList, List.forall_mem_cons]
      exact ⟨hb, ht⟩
    · rintro ⟨t, hst, ht⟩
      cases hst with
      | cons hab hst =>
        rw [Entries.toList, List.forall_mem_cons] at ht
        exact ⟨⟨_, hab, ht.1⟩, _, hst, ht.2⟩

theorem customTypesErrors_eq_nil : customTypesErrors doc = [] ↔
    ∃ types : Table InstructionSpec, (∃ found : Option (Table Value),
      doc.field? "customInstructionTypes" = found.map .object ∧
        Entries.Forall₂ InstructionSpec.Describes (found.getD .nil) types) ∧
      ∀ e ∈ types.toList, e.2.IsProper := by
  unfold customTypesErrors
  split
  · rename_i hnone
    simp only [hnone, true_iff]
    exact ⟨.nil, ⟨none, rfl, .nil⟩, by simp [Entries.toList]⟩
  · rename_i found hfound
    simp only [hfound, List.flatMap_eq_nil_iff, customTypeErrors_eq_nil, exists_forall₂]
    constructor
    · rintro ⟨types, htypes, hproper⟩
      exact ⟨types, ⟨some found, rfl, htypes⟩, hproper⟩
    · rintro ⟨types, ⟨found', hfound', htypes⟩, hproper⟩
      obtain ⟨fields, rfl, heq⟩ := Option.map_eq_some_iff.1 hfound'.symm
      cases heq
      exact ⟨types, htypes, hproper⟩
  · rename_i w hother hw
    simp only [hw, reduceCtorEq, false_iff]
    rintro ⟨types, ⟨found, hfound, -⟩, -⟩
    obtain ⟨fields, -, heq⟩ := Option.map_eq_some_iff.1 hfound.symm
    exact hother fields heq.symm

/-- A wrapper has its slot, if there is one. -/
theorem hasSlot_eq_true {layout : Value} {wrapper : Option String}
    (h : layout.field? "instructionWrapper" = wrapper.map .string) :
    hasSlot layout = true ↔ ∀ w ∈ wrapper, Text.contains w Layout.instructionSlot = true := by
  rw [hasSlot, h]
  cases wrapper <;> simp

theorem layoutErrors_eq_nil : layoutErrors doc = [] ↔
    ∃ l, Layout.Describes ((doc.field? "compilerConfig").getD (.object .nil)) l ∧
      ∀ w ∈ l.instructionWrapper, Text.contains w Layout.instructionSlot = true := by
  unfold layoutErrors
  split
  · rename_i hnone
    simp only [hnone, true_iff]
    exact ⟨.default, Layout.describes_nil, by simp [Layout.default]⟩
  · rename_i config hconfig
    simp only [hconfig, Option.getD_some, layoutTexts, List.flatMap_cons, List.flatMap_nil,
      List.append_nil, List.append_eq_nil_iff, unlessThat_eq_nil,
      orNothing_eq_true isString_accepts, orNothing_eq_true isTexts_accepts]
    constructor
    · rintro ⟨⟨⟨⟨prompt, hprompt⟩, ⟨wrapper, hwrapper⟩, frame, hframe⟩, hslot⟩, notes, hnotes⟩
      exact ⟨⟨prompt, wrapper, frame, notes⟩, ⟨⟨config, rfl⟩, hprompt, hwrapper, hframe, hnotes⟩,
        (hasSlot_eq_true hframe).1 hslot⟩
    · rintro ⟨l, ⟨-, hprompt, hwrapper, hframe, hnotes⟩, hslot⟩
      exact ⟨⟨⟨⟨_, hprompt⟩, ⟨_, hwrapper⟩, _, hframe⟩, (hasSlot_eq_true hframe).2 hslot⟩,
        _, hnotes⟩
  · rename_i w hother hw
    simp only [hw, Option.getD_some, reduceCtorEq, false_iff]
    rintro ⟨l, ⟨⟨fields, hfields⟩, -⟩, -⟩
    exact hother fields hfields

theorem contentErrors_eq_nil : contentErrors doc = [] ↔
    ∃ es, (∃ items, doc.field? "content" = some (.array items) ∧ DescribesAll items es) ∧
      es ≠ [] ∧ AllProper (placedAll 0 es) := by
  unfold contentErrors
  split
  · rename_i hnone
    simp [hnone]
  · rename_i hempty
    simp only [hempty, Option.some.injEq, Value.array.injEq, reduceCtorEq, false_iff]
    rintro ⟨es, ⟨items, rfl, hall⟩, hne, -⟩
    cases hall
    exact hne rfl
  · rename_i items hne hitems
    rw [hitems, itemErrors_iff items _ 0 0]
    constructor
    · rintro ⟨es, hall, hproper⟩
      refine ⟨es, ⟨items, rfl, hall⟩, ?_, hproper⟩
      rintro rfl
      cases hall
      exact hne rfl
    · rintro ⟨es, ⟨items', hitems', hall⟩, -, hproper⟩
      cases hitems'
      exact ⟨es, hall, hproper⟩
  · rename_i w hempty hother hw
    simp only [hw, Option.some.injEq, reduceCtorEq, false_iff]
    rintro ⟨es, ⟨items, hitems, -⟩, -⟩
    exact hother items hitems

/-- **A document has no errors** exactly if it describes a proper
template. -/
theorem structureErrors_eq_nil :
    structureErrors doc = [] ↔ ∃ t, Describes doc t ∧ t.IsProper := by
  cases doc with
  | object fields =>
    simp only [structureErrors, List.append_eq_nil_iff, unlessThat_eq_nil, versionErrors_eq_nil,
      orNothing_eq_true isString_accepts, extensionErrors_eq_nil, orNothing_eq_true isTexts_accepts,
      orNothing_eq_true isObject_accepts, customTypesErrors_eq_nil, layoutErrors_eq_nil,
      contentErrors_eq_nil]
    constructor
    · rintro ⟨⟨⟨⟨⟨⟨⟨version, hversion, hblank⟩, description, hdescription⟩, extensions,
        hextensions⟩, vars, hvars⟩, types, htypes, hproper⟩, layout, hlayout, hslot⟩, content,
        hcontent, hne, hall⟩
      exact ⟨⟨version, description, extensions.getD [], vars.getD .nil, types, content, layout⟩,
        ⟨hversion, hdescription, ⟨extensions, hextensions, rfl⟩, ⟨vars, hvars, rfl⟩, htypes,
          hcontent, hlayout⟩, ⟨hblank, hproper, hslot, hne, hall⟩⟩
    · rintro ⟨t, ⟨hversion, hdescription, ⟨extensions, hextensions, -⟩, ⟨vars, hvars, -⟩, htypes,
        hcontent, hlayout⟩, ⟨hblank, hproper, hslot, hne, hall⟩⟩
      exact ⟨⟨⟨⟨⟨⟨⟨_, hversion, hblank⟩, _, hdescription⟩, _, hextensions⟩, _, hvars⟩, _, htypes,
        hproper⟩, _, hlayout, hslot⟩, _, hcontent, hne, hall⟩
  | null | bool | number | string | array =>
    simp only [structureErrors, reduceCtorEq, false_iff]
    rintro ⟨t, hdescribes, -⟩
    cases hdescribes.version

/-- **The structure decides.** A document without errors is decoded, to a
template that it describes: every field stands as it is written, and every
element at every depth in its place with all of its parts. A document with
errors is refused with just these; so that decoding never fails in any other
way. -/
theorem decode_by_structure (doc : Value) :
    (structureErrors doc = [] → ∃ t, decode doc = .ok t ∧ Describes doc t) ∧
    (structureErrors doc ≠ [] → decode doc = .error (.validation (structureErrors doc))) ∧
    ∀ stage message element, decode doc ≠ .error (.compilation stage message element) := by
  have hvalid (h : structureErrors doc = []) : ∃ t, decode doc = .ok t ∧ Describes doc t := by
    obtain ⟨t, hdescribes, -⟩ := structureErrors_eq_nil.1 h
    exact ⟨t, decode_eq_ok.2 ⟨h, ofValue?_eq_some.2 hdescribes⟩, hdescribes⟩
  have hinvalid (h : structureErrors doc ≠ []) :
      decode doc = .error (.validation (structureErrors doc)) := by
    unfold decode
    split
    · rename_i hnone
      exact absurd hnone h
    · rfl
  refine ⟨hvalid, hinvalid, fun stage message element hfail => ?_⟩
  rcases hresult : structureErrors doc with _ | ⟨error, errors⟩
  · obtain ⟨t, ht, -⟩ := hvalid hresult
    rw [ht] at hfail
    cases hfail
  · rw [hinvalid (by simp [hresult])] at hfail
    cases hfail

end Template

end PromptTemplate
