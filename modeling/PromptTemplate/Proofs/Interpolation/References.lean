import PromptTemplate.Interpolation.References
import PromptTemplate.Proofs.Interpolation.Fill
import PromptTemplate.Proofs.Template.Description
import PromptTemplate.Proofs.Value
/-!
# PromptTemplate — what trying the references promises

`referenceErrors` tries the references of a content sequence, each path
once. `resolves_of_referenceErrors` says that without a message every text
has segments and every reference a value, although a path is skipped that
has been tried before: what has been tried without a message has a value,
and that is the invariant of the trial. The other way round
(`referenceErrors_of_resolves`), where all strings resolve there is no
message, and they do wherever substitution succeeds
(`resolves_of_substituteElements`).

`exists_substituteElements_iff` says what this is worth. Substitution then
succeeds in every text and configuration, and in the conditions exactly if
the values that they refer to have literals.
-/

namespace PromptTemplate

namespace Interpolation

open Element

variable {vars : Table Value}

/-! ## Trials -/

/-- A path leads to a value. -/
def HasValue (vars : Table Value) (path : String) : Prop := ∃ v, lookUp vars path = .ok v

/-- A text has segments, and every reference in it leads to a value. -/
def Resolves (vars : Table Value) (text : String) : Prop :=
  ∃ ss, segments text = .ok ss ∧ ∀ path ∈ Segment.paths ss, HasValue vars path

/-- **The invariant of a trial:** as long as there is no message, what has
been tried has a value. -/
def Trial.Sound (vars : Table Value) (t : Trial) : Prop :=
  t.errors = [] → ∀ path ∈ t.tried, HasValue vars path

/-- Trying a path keeps a trial sound, and leaves no message only if there
was none and the path has a value. -/
theorem Trial.path_spec {t : Trial} {path : String} (h : t.Sound vars) :
    (t.path vars path).Sound vars ∧
      ((t.path vars path).errors = [] → t.errors = [] ∧ HasValue vars path) := by
  unfold Trial.path
  split
  · rename_i htried
    -- the path is skipped, and the invariant has its value
    refine ⟨h, fun hnone => ⟨hnone, h hnone path ?_⟩⟩
    simpa using htried
  · dsimp only
    split
    · rename_i v hv
      refine ⟨?_, fun hnone => ⟨hnone, v, hv⟩⟩
      intro hnone other hother
      rcases List.mem_append.1 hother with hother | hother
      · exact h hnone other hother
      · rw [List.mem_singleton.1 hother]
        exact ⟨v, hv⟩
    · -- there is a message now
      refine ⟨fun hnone => ?_, fun hnone => ?_⟩
      · simp at hnone
      · simp at hnone

theorem Trial.paths_spec {t : Trial} {paths : List String} (h : t.Sound vars) :
    (paths.foldl (Trial.path vars) t).Sound vars ∧
      ((paths.foldl (Trial.path vars) t).errors = [] →
        t.errors = [] ∧ ∀ path ∈ paths, HasValue vars path) := by
  induction paths generalizing t with
  | nil => exact ⟨h, fun hnone => ⟨hnone, by simp⟩⟩
  | cons path rest ih =>
    obtain ⟨hsound, hpath⟩ := @Trial.path_spec vars t path h
    obtain ⟨hrest, hpaths⟩ := ih hsound
    refine ⟨hrest, fun hnone => ?_⟩
    obtain ⟨herrors, hvalues⟩ := hpaths hnone
    obtain ⟨hfirst, hvalue⟩ := hpath herrors
    exact ⟨hfirst, List.forall_mem_cons.2 ⟨hvalue, hvalues⟩⟩

/-- Something is never nothing, also behind a message that was there. -/
theorem pushNew_ne_nil (list : List String) (item : String) : pushNew list item ≠ [] := by
  unfold pushNew
  split
  · rename_i hcontains
    intro hnil
    simp [hnil] at hcontains
  · simp

/-- Trying a text keeps a trial sound, and leaves no message only if there
was none and the text resolves. -/
theorem Trial.text_spec {t : Trial} {text : String} (h : t.Sound vars) :
    (t.text vars text).Sound vars ∧
      ((t.text vars text).errors = [] → t.errors = [] ∧ Resolves vars text) := by
  unfold Trial.text
  split
  · rename_i why _
    have hsome := pushNew_ne_nil t.errors why.toUnresolved.message
    exact ⟨fun hnone => absurd hnone hsome, fun hnone => absurd hnone hsome⟩
  · rename_i ss hss
    obtain ⟨hsound, hpaths⟩ := @Trial.paths_spec vars t (Segment.paths ss) h
    refine ⟨hsound, fun hnone => ?_⟩
    obtain ⟨herrors, hvalues⟩ := hpaths hnone
    exact ⟨herrors, ss, hss, hvalues⟩

theorem Trial.texts_spec {t : Trial} {texts : List String} (h : t.Sound vars)
    (hnone : (texts.foldl (Trial.text vars) t).errors = []) :
    t.errors = [] ∧ ∀ text ∈ texts, Resolves vars text := by
  induction texts generalizing t with
  | nil => exact ⟨hnone, by simp⟩
  | cons text rest ih =>
    obtain ⟨hsound, htext⟩ := @Trial.text_spec vars t text h
    obtain ⟨herrors, hrest⟩ := ih hsound hnone
    obtain ⟨hfirst, hresolves⟩ := htext herrors
    exact ⟨hfirst, List.forall_mem_cons.2 ⟨hresolves, hrest⟩⟩

/-- **Without a message every text resolves** that substitution visits. -/
theorem resolves_of_referenceErrors {es : List Element} (h : referenceErrors vars es = []) :
    ∀ text ∈ strings es, Resolves vars text := by
  have hstart : (Trial.mk [] []).Sound vars := by
    intro _ path hpath
    cases hpath
  exact (Trial.texts_spec hstart h).2

theorem Trial.path_of_hasValue {t : Trial} {path : String} (h : HasValue vars path) :
    (t.path vars path).errors = t.errors := by
  obtain ⟨v, hv⟩ := h
  unfold Trial.path
  rw [hv]
  split <;> rfl

theorem Trial.text_of_resolves {t : Trial} {text : String} (h : Resolves vars text) :
    (t.text vars text).errors = t.errors := by
  obtain ⟨ss, hss, hpaths⟩ := h
  unfold Trial.text
  rw [hss]
  dsimp only
  generalize Segment.paths ss = paths at hpaths
  induction paths generalizing t with
  | nil => rfl
  | cons path rest ih =>
    rw [List.forall_mem_cons] at hpaths
    rw [List.foldl_cons, ih hpaths.2, Trial.path_of_hasValue hpaths.1]

/-- Where every text resolves there is no message. -/
theorem referenceErrors_of_resolves {es : List Element}
    (h : ∀ text ∈ strings es, Resolves vars text) : referenceErrors vars es = [] := by
  have hkept (texts : List String) (htexts : ∀ text ∈ texts, Resolves vars text) (t : Trial) :
      (texts.foldl (Trial.text vars) t).errors = t.errors := by
    induction texts generalizing t with
    | nil => rfl
    | cons text rest ih =>
      rw [List.forall_mem_cons] at htexts
      rw [List.foldl_cons, ih htexts.2, Trial.text_of_resolves htexts.1]
  exact hkept _ h _

/-! ## Substitution in texts and values -/

theorem exists_substituteText {text : String} (h : Resolves vars text) :
    ∃ t, substituteText vars text = .ok t := by
  obtain ⟨ss, hss, hpaths⟩ := h
  refine exists_substituteWith_iff.2 ⟨ss, hss, fun path hpath => ?_⟩
  obtain ⟨v, hv⟩ := hpaths path hpath
  exact ⟨v, _, hv, rfl⟩

theorem exists_substituteItems {items : List Value}
    (h : ∀ v ∈ items, ∃ w, substituteValue vars v = .ok w) :
    ∃ ws, substituteItems vars items = .ok ws := by
  induction items with
  | nil => exact ⟨[], rfl⟩
  | cons v vs ih =>
    rw [List.forall_mem_cons] at h
    obtain ⟨w, hw⟩ := h.1
    obtain ⟨ws, hws⟩ := ih h.2
    exact ⟨_, Outcome.bind_eq_ok.2 ⟨w, hw, Outcome.bind_eq_ok.2 ⟨ws, hws, rfl⟩⟩⟩

theorem exists_substituteFields {lo : Option String} {fields : Entries Value lo}
    (h : ∀ e ∈ fields.toList, ∃ w, substituteValue vars e.2 = .ok w) :
    ∃ fields', substituteFields vars fields = .ok fields' := by
  induction fields with
  | nil => exact ⟨.nil, rfl⟩
  | cons k hk v rest ih =>
    rw [Entries.toList, List.forall_mem_cons] at h
    obtain ⟨w, hw⟩ := h.1
    obtain ⟨rest', hrest⟩ := ih h.2
    exact ⟨_, Outcome.bind_eq_ok.2 ⟨w, hw, Outcome.bind_eq_ok.2 ⟨rest', hrest, rfl⟩⟩⟩

/-- Substitution succeeds in a value whose strings resolve. -/
theorem exists_substituteValue {v : Value} (h : ∀ s ∈ v.strings, Resolves vars s) :
    ∃ w, substituteValue vars v = .ok w := by
  induction v using Value.induction with
  | null => exact ⟨_, rfl⟩
  | bool b => exact ⟨_, rfl⟩
  | number n => exact ⟨_, rfl⟩
  | string s =>
    obtain ⟨t, ht⟩ := exists_substituteText (h s (by simp [Value.strings]))
    exact ⟨_, Outcome.map_eq_ok.2 ⟨t, ht, rfl⟩⟩
  | array items ih =>
    obtain ⟨ws, hws⟩ := exists_substituteItems fun v hv => ih v hv fun s hs => h s
      (Value.mem_itemStrings.2 ⟨v, hv, hs⟩)
    exact ⟨_, Outcome.map_eq_ok.2 ⟨ws, hws, rfl⟩⟩
  | object fields ih =>
    obtain ⟨fields', hfields⟩ := exists_substituteFields fun e he => ih e he fun s hs => h s
      (Value.mem_fieldStrings.2 ⟨e, he, hs⟩)
    exact ⟨_, Outcome.map_eq_ok.2 ⟨fields', hfields, rfl⟩⟩

theorem resolves_of_substituteWith {render : String → Value → Except Unresolved String}
    {text t : String} (h : substituteWith render vars text = .ok t) : Resolves vars text := by
  obtain ⟨ss, hss, hfill⟩ := substituteWith_eq_ok.1 h
  refine ⟨ss, hss, fun path hpath => ?_⟩
  obtain ⟨v, -, hv, -⟩ := exists_fill_iff.1 ⟨t, hfill⟩ path hpath
  exact ⟨v, hv⟩

theorem exists_of_substituteItems {items ws : List Value} (h : substituteItems vars items = .ok ws) :
    ∀ v ∈ items, ∃ w, substituteValue vars v = .ok w := by
  induction items generalizing ws with
  | nil => simp
  | cons v vs ih =>
    obtain ⟨w, hw, h⟩ := Outcome.bind_eq_ok.1 h
    obtain ⟨ws', hws, -⟩ := Outcome.bind_eq_ok.1 h
    exact List.forall_mem_cons.2 ⟨⟨w, hw⟩, ih hws⟩

theorem exists_of_substituteFields {lo : Option String} {fields fields' : Entries Value lo}
    (h : substituteFields vars fields = .ok fields') :
    ∀ e ∈ fields.toList, ∃ w, substituteValue vars e.2 = .ok w := by
  induction fields with
  | nil => simp [Entries.toList]
  | cons k hk v rest ih =>
    obtain ⟨w, hw, h⟩ := Outcome.bind_eq_ok.1 h
    obtain ⟨rest', hrest, -⟩ := Outcome.bind_eq_ok.1 h
    rw [Entries.toList]
    exact List.forall_mem_cons.2 ⟨⟨w, hw⟩, ih hrest⟩

/-- The strings of a value resolve in which substitution succeeds. -/
theorem resolves_of_substituteValue {v w : Value} (h : substituteValue vars v = .ok w) :
    ∀ s ∈ v.strings, Resolves vars s := by
  induction v using Value.induction generalizing w with
  | null | bool | number => simp [Value.strings]
  | string s =>
    obtain ⟨t, ht, -⟩ := Outcome.map_eq_ok.1 h
    simpa [Value.strings] using resolves_of_substituteWith ht
  | array items ih =>
    obtain ⟨ws, hws, -⟩ := Outcome.map_eq_ok.1 h
    intro s hs
    obtain ⟨v, hv, hs⟩ := Value.mem_itemStrings.1 hs
    obtain ⟨w, hw⟩ := exists_of_substituteItems hws v hv
    exact ih v hv hw s hs
  | object fields ih =>
    obtain ⟨fields', hfields, -⟩ := Outcome.map_eq_ok.1 h
    intro s hs
    obtain ⟨e, he, hs⟩ := Value.mem_fieldStrings.1 hs
    obtain ⟨w, hw⟩ := exists_of_substituteFields hfields e he
    exact ih e he hw s hs

/-! ## Substitution in elements -/

mutual

theorem resolves_of_substituteElement {e e' : Element} (h : substituteElement vars e = .ok e') :
    ∀ s ∈ elementStrings e, Resolves vars s := by
  match e with
  | .text name s =>
    obtain ⟨t, ht, -⟩ := Outcome.bind_eq_ok.1 h
    simpa [elementStrings] using resolves_of_substituteWith ht
  | .placeholder name type config =>
    obtain ⟨config', hconfig, -⟩ := Outcome.bind_eq_ok.1 h
    intro s hs
    obtain ⟨e, he, hs⟩ := Value.mem_fieldStrings.1 hs
    obtain ⟨w, hw⟩ := exists_of_substituteFields hconfig e he
    exact resolves_of_substituteValue hw s hs
  | .conditional name condition content otherwise =>
    obtain ⟨condition', hcondition, h⟩ := Outcome.bind_eq_ok.1 h
    obtain ⟨content', hcontent, h⟩ := Outcome.bind_eq_ok.1 h
    obtain ⟨otherwise', hotherwise, -⟩ := Outcome.bind_eq_ok.1 h
    rw [elementStrings, List.forall_mem_cons, List.forall_mem_append]
    exact ⟨resolves_of_substituteWith hcondition, resolves_of_substituteElements hcontent,
      resolves_of_substituteBranch hotherwise⟩

/-- **Where substitution succeeds** in elements, every string in them
resolves. -/
theorem resolves_of_substituteElements {es es' : List Element}
    (h : substituteElements vars es = .ok es') : ∀ s ∈ strings es, Resolves vars s := by
  match es with
  | [] => simp [strings]
  | e :: es =>
    obtain ⟨e', he, h⟩ := Outcome.bind_eq_ok.1 h
    obtain ⟨rest', hrest, -⟩ := Outcome.bind_eq_ok.1 h
    rw [strings, List.forall_mem_append]
    exact ⟨resolves_of_substituteElement he, resolves_of_substituteElements hrest⟩

theorem resolves_of_substituteBranch {branch branch' : Option (List Element)}
    (h : substituteBranch vars branch = .ok branch') :
    ∀ s ∈ branchStrings branch, Resolves vars s := by
  match branch with
  | none => simp [branchStrings]
  | some es =>
    obtain ⟨es', hes, -⟩ := Outcome.map_eq_ok.1 h
    exact resolves_of_substituteElements hes

end

/-- Every value that the condition of an element refers to has a
literal. -/
def HasLiterals (vars : Table Value) : Element → Prop
  | .conditional _ condition _ _ =>
    ∀ path ∈ textReferences condition, ∀ v, lookUp vars path = .ok v → HasLiteral v
  | _ => True

/-- A condition that resolves can be filled exactly if the values have
literals. -/
theorem exists_substituteCondition_iff {condition : String} (h : Resolves vars condition) :
    (∃ t, substituteCondition vars condition = .ok t) ↔
      ∀ path ∈ textReferences condition, ∀ v, lookUp vars path = .ok v → HasLiteral v := by
  obtain ⟨ss, hss, hvalues⟩ := h
  have hreferences : textReferences condition = Segment.paths ss := by
    rw [textReferences, hss]
  rw [substituteCondition, exists_substituteWith_iff, hreferences]
  constructor
  · rintro ⟨ss', hss', hliterals⟩ path hpath v hv
    rw [hss] at hss'
    cases hss'
    obtain ⟨w, text, hw, htext⟩ := hliterals path hpath
    rw [hv] at hw
    cases hw
    exact (conditionLiteral_eq_ok.1 htext).1
  · intro hliterals
    refine ⟨ss, hss, fun path hpath => ?_⟩
    obtain ⟨v, hv⟩ := hvalues path hpath
    exact ⟨v, _, hv, conditionLiteral_eq_ok.2 ⟨hliterals path hpath v hv, rfl⟩⟩

mutual

/-- Substitution in an element whose strings resolve succeeds exactly if
the conditions at every depth refer to values with literals. -/
theorem exists_substituteElement_iff {e : Element} (h : ∀ s ∈ elementStrings e, Resolves vars s)
    (depth : Nat) :
    (∃ e', substituteElement vars e = .ok e') ↔ ∀ x ∈ placed depth e, HasLiterals vars x.2 := by
  match e with
  | .text name s =>
    obtain ⟨t, ht⟩ := exists_substituteText (h s (by simp [elementStrings]))
    have hsome : ∃ e', substituteElement vars (.text name s) = .ok e' :=
      ⟨_, Outcome.bind_eq_ok.2 ⟨t, ht, rfl⟩⟩
    simp [hsome, placed, HasLiterals]
  | .placeholder name type config =>
    obtain ⟨config', hconfig⟩ := exists_substituteFields fun e he =>
      exists_substituteValue fun s hs => h s (Value.mem_fieldStrings.2 ⟨e, he, hs⟩)
    have hsome : ∃ e', substituteElement vars (.placeholder name type config) = .ok e' :=
      ⟨_, Outcome.bind_eq_ok.2 ⟨config', hconfig, rfl⟩⟩
    simp [hsome, placed, HasLiterals]
  | .conditional name condition content otherwise =>
    rw [elementStrings, List.forall_mem_cons, List.forall_mem_append] at h
    obtain ⟨hcondition, hcontent, hotherwise⟩ := h
    rw [placed, List.forall_mem_cons, List.forall_mem_append,
      ← exists_substituteElements_iff hcontent (depth + 1),
      ← exists_substituteBranch_iff hotherwise (depth + 1), HasLiterals,
      ← exists_substituteCondition_iff hcondition, substituteElement]
    constructor
    · rintro ⟨e', he⟩
      obtain ⟨condition', hcondition', he⟩ := Outcome.bind_eq_ok.1 he
      obtain ⟨content', hcontent', he⟩ := Outcome.bind_eq_ok.1 he
      obtain ⟨otherwise', hotherwise', he⟩ := Outcome.bind_eq_ok.1 he
      exact ⟨⟨condition', hcondition'⟩, ⟨content', hcontent'⟩, otherwise', hotherwise'⟩
    · rintro ⟨⟨condition', hcondition'⟩, ⟨content', hcontent'⟩, otherwise', hotherwise'⟩
      exact ⟨_, Outcome.bind_eq_ok.2 ⟨condition', hcondition', Outcome.bind_eq_ok.2
        ⟨content', hcontent', Outcome.bind_eq_ok.2 ⟨otherwise', hotherwise', rfl⟩⟩⟩⟩

/-- **Substitution in elements whose strings resolve** succeeds exactly if
the conditions at every depth refer to values with literals. -/
theorem exists_substituteElements_iff {es : List Element}
    (h : ∀ s ∈ strings es, Resolves vars s) (depth : Nat) :
    (∃ es', substituteElements vars es = .ok es') ↔
      ∀ x ∈ placedAll depth es, HasLiterals vars x.2 := by
  match es with
  | [] => simp [substituteElements, placedAll]
  | e :: es =>
    rw [strings, List.forall_mem_append] at h
    rw [placedAll, List.forall_mem_append, ← exists_substituteElement_iff h.1 depth,
      ← exists_substituteElements_iff h.2 depth, substituteElements]
    constructor
    · rintro ⟨es', hes⟩
      obtain ⟨e', he', hes⟩ := Outcome.bind_eq_ok.1 hes
      obtain ⟨rest', hrest', hes⟩ := Outcome.bind_eq_ok.1 hes
      exact ⟨⟨e', he'⟩, rest', hrest'⟩
    · rintro ⟨⟨e', he'⟩, rest', hrest'⟩
      exact ⟨_, Outcome.bind_eq_ok.2 ⟨e', he', Outcome.bind_eq_ok.2 ⟨rest', hrest', rfl⟩⟩⟩

/-- Substitution in a branch whose strings resolve succeeds exactly if the
conditions at every depth refer to values with literals. -/
theorem exists_substituteBranch_iff {branch : Option (List Element)}
    (h : ∀ s ∈ branchStrings branch, Resolves vars s) (depth : Nat) :
    (∃ branch', substituteBranch vars branch = .ok branch') ↔
      ∀ x ∈ placedIn depth branch, HasLiterals vars x.2 := by
  match branch with
  | none => simp [substituteBranch, placedIn]
  | some es =>
    rw [placedIn, ← exists_substituteElements_iff h depth, substituteBranch]
    constructor
    · rintro ⟨branch', hbranch⟩
      obtain ⟨es', hes', -⟩ := Outcome.map_eq_ok.1 hbranch
      exact ⟨es', hes'⟩
    · rintro ⟨es', hes'⟩
      exact ⟨_, Outcome.map_eq_ok.2 ⟨es', hes', rfl⟩⟩

end

end Interpolation

end PromptTemplate
