import PromptTemplate.Proofs.Pattern.Case
import PromptTemplate.Proofs.Vetting.Content
import PromptTemplate.Proofs.Vetting.Variables
/-!
# PromptTemplate — scripts are refused wherever they stand

A text with a script tag or a script address in it is refused, in any mix
of small letters and capitals and whatever stands around it
(`checkText_of_scripted`), and so is a condition. Vetting looks at every
place of a document that can hold a text: `StandsIn` names these places
for documents of any shape, also those that are no template, and a
document that holds a script in one of them does not pass
(`scripts_refused`). Variables are looked at where they are an object. What
else stands there is not (`checkDocument_withField`), and the document is no
template.
-/

namespace PromptTemplate

/-! ## Deny-lists -/

namespace DenyList

/-- The pattern of a source is among the rules. -/
theorem mem_rulesOf {sources : List String} {source : String} {pattern : Pattern}
    (hsource : source ∈ sources) (hparse : Pattern.parse? source = some pattern) :
    ⟨source, pattern⟩ ∈ rulesOf sources := by
  refine List.mem_filterMap.2 ⟨source, hsource, ?_⟩
  rw [hparse]
  rfl

/-- A rule has one of the sources. -/
theorem source_mem_of_mem_rulesOf {sources : List String} {rule : Rule}
    (h : rule ∈ rulesOf sources) : rule.source ∈ sources := by
  obtain ⟨source, hsource, hrule⟩ := List.mem_filterMap.1 h
  obtain ⟨pattern, -, rfl⟩ := Option.map_eq_some_iff.1 hrule
  exact hsource

theorem text_rules : text.rules = rulesOf textSources := by simp only [text]

theorem expression_rules :
    expression.rules = rulesOf textSources ++ rulesOf conditionSources := by
  simp only [expression, rulesOf, List.filterMap_append]

/-- What is blocked in texts is blocked in conditions. -/
theorem mem_expression_of_mem_text {rule : Rule} (h : rule ∈ text.rules) :
    rule ∈ expression.rules := by
  rw [text_rules] at h
  rw [expression_rules]
  exact List.mem_append_left _ h

/-- A list finds nothing exactly if none of its patterns occurs. -/
theorem find?_eq_none {d : DenyList} {content : String} :
    d.find? content = none ↔ ∀ rule ∈ d.rules, rule.pattern.occurs content = false := by
  simp [find?]

end DenyList

namespace Vetting

variable {p : Policy}

/-- **A text passes** exactly if no blocked pattern occurs in it. -/
theorem checkText_eq_ok {s : String} :
    checkText s = .ok () ↔ ∀ rule ∈ DenyList.text.rules, rule.pattern.occurs s = false := by
  rw [← DenyList.find?_eq_none]
  unfold checkText
  cases DenyList.text.find? s <;> simp

/-- A text in which a blocked pattern occurs is refused as malicious, with
the text of a pattern. -/
theorem checkText_of_occurs {s : String} {rule : Rule} (hrule : rule ∈ DenyList.text.rules)
    (h : rule.pattern.occurs s = true) :
    ∃ pattern ∈ DenyList.textSources, checkText s = .error
      (.because .maliciousContent s!"content matches blocked pattern '{pattern}'" s) := by
  have hfound : ∃ found, DenyList.text.rules.find? (·.pattern.occurs s) = some found := by
    rw [← Option.isSome_iff_exists, List.find?_isSome]
    exact ⟨rule, hrule, h⟩
  obtain ⟨found, hfound⟩ := hfound
  have hmem := List.mem_of_find?_eq_some hfound
  rw [DenyList.text_rules] at hmem
  refine ⟨found.source, DenyList.source_mem_of_mem_rulesOf hmem, ?_⟩
  rw [checkText, DenyList.find?, hfound]
  rfl

/-- A condition that passes would pass as a text. -/
theorem checkText_of_checkCondition {condition : String}
    (h : checkCondition p condition = .ok ()) : checkText condition = .ok () := by
  unfold checkCondition at h
  split at h
  · cases h
  · split at h
    · cases h
    · rename_i hnone
      rw [DenyList.find?_eq_none] at hnone
      rw [checkText_eq_ok]
      intro rule hrule
      exact hnone rule (DenyList.mem_expression_of_mem_text hrule)

/-! ## Scripts -/

/-- A text has a script tag or a script address in it, in any case. -/
def Scripted (s : String) : Prop :=
  ∃ a m b, s.toList = a ++ m ++ b ∧
    (m.map Char.toLower = "<script>".toList ∨ m.map Char.toLower = "javascript:".toList)

/-- Any number of blanks. -/
def blanks : Pattern := .repeated ⟨[.blank], false, true⟩ 0 none

/-- A script tag, opening or closing. -/
def scriptTag : Pattern :=
  .word ['<'] <| .sequence blanks <|
    .sequence (.repeated ⟨[.single '/'], false, true⟩ 0 (some 1)) <| .sequence blanks <|
      .word "script".toList <| .sequence .boundary .empty

/-- A script address. -/
def scriptAddress : Pattern := .word "javascript".toList <| .sequence blanks <| .word [':'] .empty

theorem scriptTag_blocked : ∃ rule ∈ DenyList.text.rules, rule.pattern = scriptTag := by
  rw [DenyList.text_rules]
  exact ⟨⟨r"(?i)<\s*/?\s*script\b", scriptTag⟩,
    DenyList.mem_rulesOf (by simp [DenyList.textSources]) (by decide +kernel), rfl⟩

theorem scriptAddress_blocked : ∃ rule ∈ DenyList.text.rules, rule.pattern = scriptAddress := by
  rw [DenyList.text_rules]
  exact ⟨⟨r"(?i)javascript\s*:", scriptAddress⟩,
    DenyList.mem_rulesOf (by simp [DenyList.textSources]) (by decide +kernel), rfl⟩

/-- The opening of a script tag is matched where no word goes on behind
it. -/
theorem spans_scriptTag {l r : Option Char} (hr : r.any Text.isWord = false) :
    scriptTag.Spans "<script".toList l r := by
  have hend : (Pattern.sequence .boundary .empty).Spans [] (some 't') r := by
    have ht : Text.isWord 't' = true := Text.isWord_ascii_eq (by decide) (by decide)
    refine .sequence (m := []) (n := []) (.boundary ?_) .empty
    show (some 't').any Text.isWord ≠ r.any Text.isWord
    rw [hr, Option.any_some, ht]
    decide
  have hname : (Pattern.word "script".toList (.sequence .boundary .empty)).Spans "script".toList
      (some '<') r := .word "script".toList (m := []) hend
  exact .word ['<'] (.skip (.skip (.skip hname)))

theorem spans_scriptAddress {l r : Option Char} :
    scriptAddress.Spans "javascript:".toList l r := by
  have hcolon : (Pattern.word [':'] .empty).Spans [':'] (some 't') r :=
    .word [':'] (m := []) .empty
  exact .word "javascript".toList (.skip hcolon)

/-- **A blocked pattern occurs in every text with a script,** whatever the
case of its letters and whatever stands around it. -/
theorem exists_rule_of_scripted {s : String} (h : Scripted s) :
    ∃ rule ∈ DenyList.text.rules, rule.pattern.occurs s = true := by
  obtain ⟨a, m, b, hs, hm | hm⟩ := h
  · obtain ⟨rule, hrule, hpattern⟩ := scriptTag_blocked
    refine ⟨rule, hrule, ?_⟩
    rw [hpattern, Pattern.occurs_iff]
    -- the pattern ends before the closing bracket, which ends the word
    have htag : "<script>".toList = "<script".toList ++ ['>'] := by decide
    rw [htag] at hm
    obtain ⟨tag, bracket, rfl, htag, hbracket⟩ := List.map_eq_append_iff.1 hm
    obtain ⟨c, rest, rfl, hc, hrest⟩ := List.map_eq_cons_iff.1 hbracket
    refine ⟨a, tag, c :: rest ++ b, by rw [hs]; simp, ?_⟩
    have hend : Text.isWord '>' = false := Text.isWord_ascii_eq (by decide) (by decide)
    have hspan : scriptTag.Spans "<script".toList a.getLast? (some '>') := spans_scriptTag hend
    refine hspan.sameLetters (by decide) (by rw [htag]; decide) rfl ?_
    rw [List.cons_append, List.head?_cons, Option.map_some, hc]
    rfl
  · obtain ⟨rule, hrule, hpattern⟩ := scriptAddress_blocked
    refine ⟨rule, hrule, ?_⟩
    rw [hpattern, Pattern.occurs_iff]
    have hspan : scriptAddress.Spans "javascript:".toList a.getLast? b.head? := spans_scriptAddress
    exact ⟨a, m, b, hs, hspan.sameLetters (by decide) (by rw [hm]; decide) rfl rfl⟩

/-- A text with a script does not pass, nor does a condition. -/
theorem checkText_ne_ok_of_scripted {s : String} (h : Scripted s) : checkText s ≠ .ok () := by
  intro hpass
  obtain ⟨rule, hrule, hoccurs⟩ := exists_rule_of_scripted h
  have hclean := checkText_eq_ok.1 hpass rule hrule
  rw [hoccurs] at hclean
  cases hclean

/-! ## Places in a document -/

/-- A string stands in elements where a text, a configuration or a condition
is expected, at any depth of branches. Nothing else is asked of the
elements. -/
inductive Stands (s : String) : List Value → Prop
  | text {items : List Value} {v : Value} (mem : v ∈ items) (type : hasType v "text" = true)
      (field : v.field? "text" = some (.string s)) : Stands s items
  | config {items : List Value} {v config : Value} (mem : v ∈ items)
      (type : hasType v "placeholder" = true) (field : v.field? "config" = some config)
      (holds : config.Holds s) : Stands s items
  | condition {items : List Value} {v : Value} (mem : v ∈ items)
      (type : hasType v "conditional" = true)
      (field : v.field? "condition" = some (.string s)) : Stands s items
  | branch {items inner : List Value} {v : Value} {key : String} (mem : v ∈ items)
      (type : hasType v "conditional" = true) (hkey : key ∈ ["content", "else"])
      (field : v.branch? key = some inner) (stands : Stands s inner) : Stands s items

/-- A string stands in the content of a document, or in its variables. -/
inductive StandsIn (s : String) (doc : Value) : Prop
  | content {items : List Value} (field : doc.branch? "content" = some items)
      (stands : Stands s items)
  | variable {vars : Table Value} (field : doc.field? "variables" = some (.object vars))
      (holds : (Value.object vars).Holds s)

theorem checkElements_eq_ok_iff {items : List Value} :
    checkElements p items = .ok () ↔ ∀ v ∈ items, checkElement p v = .ok () := by
  induction items with
  | nil => simp [checkElements]
  | cons v rest ih => rw [checkElements, Outcome.andThen_eq_ok, ih, List.forall_mem_cons]

/-- A document has one type only. -/
theorem hasType_other {v : Value} {type other : String} (h : hasType v type = true)
    (hother : type ≠ other) : hasType v other = false := by
  unfold hasType at h ⊢
  rw [beq_iff_eq] at h
  rw [h]
  simpa using hother

/-- Of a conditional that passes, the condition and what stands in the
branches pass. -/
theorem checkElement_conditional {v : Value} (htype : hasType v "conditional" = true)
    (h : checkElement p v = .ok ()) :
    checkField v "condition" (checkCondition p) = .ok () ∧
      ∀ key ∈ ["content", "else"], ∀ items, v.branch? key = some items →
        checkElements p items = .ok () := by
  have htext : hasType v "text" = false := hasType_other htype (by decide)
  have hplaceholder : hasType v "placeholder" = false := hasType_other htype (by decide)
  rw [checkElement, htext, hplaceholder, htype] at h
  simp only [Bool.false_eq_true, if_false, if_true] at h
  obtain ⟨hcondition, hbranches⟩ := Outcome.andThen_eq_ok.1 h
  obtain ⟨hcontent, helse⟩ := Outcome.andThen_eq_ok.1 hbranches
  refine ⟨hcondition, ?_⟩
  intro key hkey items hitems
  rcases List.mem_cons.1 hkey with rfl | hkey
  · rw [checkBranch_eq, hitems] at hcontent
    exact hcontent
  · obtain rfl := List.mem_singleton.1 hkey
    rw [checkBranch_eq, hitems] at helse
    exact helse

/-- **What stands in elements that pass, passes as a text.** By induction on
the place, one case for each kind of it. -/
theorem checkText_of_stands {s : String} {items : List Value} (hs : Stands s items)
    (h : checkElements p items = .ok ()) : checkText s = .ok () := by
  induction hs with
  | text hmem htype hfield =>
    have hv := checkElements_eq_ok_iff.1 h _ hmem
    rw [checkElement, htype] at hv
    simpa only [if_true, checkField, hfield] using hv
  | @config items v config hmem htype hfield hholds =>
    have hv := checkElements_eq_ok_iff.1 h v hmem
    have htext : hasType v "text" = false := hasType_other htype (by decide)
    rw [checkElement, htext, htype] at hv
    simp only [Bool.false_eq_true, if_false, if_true, hfield, Option.map_some,
      Option.getD_some] at hv
    exact Outcome.forM_eq_ok.1 hv s (Value.mem_strings.2 hholds)
  | condition hmem htype hfield =>
    have hv := checkElements_eq_ok_iff.1 h _ hmem
    have hcondition := (checkElement_conditional htype hv).1
    rw [checkField, hfield] at hcondition
    exact checkText_of_checkCondition hcondition
  | branch hmem htype hkey hfield _ ih =>
    have hv := checkElements_eq_ok_iff.1 h _ hmem
    exact ih ((checkElement_conditional htype hv).2 _ hkey _ hfield)

theorem checkVariableItems_eq_ok {depth position : Nat} {place : String} {items : List Value}
    (h : checkVariableItems p depth place position items = .ok ()) :
    ∀ v ∈ items, ∃ place', checkVariable p depth place' v = .ok () := by
  induction items generalizing position with
  | nil => simp
  | cons v vs ih =>
    obtain ⟨hv, hvs⟩ := Outcome.andThen_eq_ok.1 h
    exact List.forall_mem_cons.2 ⟨⟨_, hv⟩, ih hvs⟩

/-- **What stands in a variable that passes, passes as a text.** -/
theorem checkText_of_holds {depth : Nat} {place s : String} {v : Value} (hs : v.Holds s)
    (h : checkVariable p depth place v = .ok ()) : checkText s = .ok () := by
  induction hs generalizing depth place with
  | string s => exact checkVariable_string.1 h
  | item hmem _ ih =>
    rw [checkVariable] at h
    split at h
    · cases h
    · split at h
      · cases h
      · obtain ⟨place', hv⟩ := checkVariableItems_eq_ok h _ hmem
        exact ih hv
  | field hmem _ ih =>
    rw [checkVariable] at h
    split at h
    · cases h
    · exact ih (checkVariableFields_eq_ok.1 h _ hmem).2

/-- The strings in variables that pass, pass as texts. -/
theorem checkText_of_checkVariables {vars : Table Value} {s : String}
    (h : checkVariables p vars = .ok ()) (hs : (Value.object vars).Holds s) :
    checkText s = .ok () := by
  rcases hs with _ | _ | ⟨hmem, hs⟩
  exact checkText_of_holds hs
    ((checkVariables_eq_ok.1 h _ _ (Entries.mem_toList.1 hmem)).2.2)

/-- What has a field is an object. -/
theorem isNone_object?_of_field? {v w : Value} {key : String} (h : v.field? key = some w) :
    v.object?.isNone = false := by
  obtain ⟨fields, hfields, -⟩ := Option.bind_eq_some_iff.1 h
  rw [hfields]
  rfl

/-- The document of a string that stands in it is an object. -/
theorem StandsIn.isObject {s : String} {doc : Value} (h : StandsIn s doc) :
    doc.object?.isNone = false := by
  cases h with
  | content hfield _ =>
    obtain ⟨v, hv, -⟩ := Option.bind_eq_some_iff.1 hfield
    exact isNone_object?_of_field? hv
  | «variable» hfield _ => exact isNone_object?_of_field? hfield

/-- What stands in a document that passes, passes as a text. -/
theorem checkText_of_standsIn {base : Option String} {doc : Value} {s : String}
    (hs : StandsIn s doc) (h : checkDocument p base doc = .ok ()) : checkText s = .ok () := by
  unfold checkDocument at h
  rw [hs.isObject, if_neg (by simp)] at h
  obtain ⟨-, h⟩ := Outcome.andThen_eq_ok.1 h
  obtain ⟨hcontent, h⟩ := Outcome.andThen_eq_ok.1 h
  obtain ⟨hvars, -⟩ := Outcome.andThen_eq_ok.1 h
  cases hs with
  | content hfield hstands =>
    rw [hfield] at hcontent
    obtain ⟨count, -, helements⟩ := Outcome.bind_eq_ok.1 hcontent
    exact checkText_of_stands hstands helements
  | «variable» hfield hholds =>
    rw [hfield] at hvars
    exact checkText_of_checkVariables hvars hholds

/-- **Variables that are no object** are not looked at: with anything else
in their place that is no object, vetting gives the same answer, up to the
size of the document. -/
theorem checkDocument_withField {base : Option String} {doc v w : Value}
    (hfield : doc.field? "variables" = some v) (hv : v.object? = none) (hw : w.object? = none)
    (hsize : checkSize p doc = checkSize p (doc.withField "variables" w)) :
    checkDocument p base doc = checkDocument p base (doc.withField "variables" w) := by
  have hobject := isNone_object?_of_field? hfield
  have hbranch (key : String) (hkey : key ≠ "variables") :
      (doc.withField "variables" w).branch? key = doc.branch? key := by
    rw [Value.branch?, Value.branch?, Value.field?_withField hobject, if_neg hkey]
  have hset : (doc.withField "variables" w).field? "variables" = some w := by
    rw [Value.field?_withField hobject, if_pos rfl]
  unfold checkDocument
  rw [hsize, hobject, Value.isNone_object?_withField hobject, hbranch "content" (by decide),
    hbranch "extends" (by decide), hfield, hset, Option.bind_some, Option.bind_some, hv, hw]

/-- **Scripts are refused in any case and at any place.** A text with a
script in it is malicious content, and no policy and base let a document
pass in which it stands as a text, in a configuration, as a condition or
in a variable. Variables that are no object are not looked at: the answer is
the same for all of them, up to the size. But their document is no
template. -/
theorem scripts_refused {s : String} (h : Scripted s) :
    (∃ pattern ∈ DenyList.textSources, checkText s = .error
      (.because .maliciousContent s!"content matches blocked pattern '{pattern}'" s)) ∧
    (∀ p base doc, StandsIn s doc → ∃ v, checkDocument p base doc = .error v) ∧
    (∀ p base doc v w, doc.field? "variables" = some v → v.object? = none → w.object? = none →
      checkSize p doc = checkSize p (doc.withField "variables" w) →
      checkDocument p base doc = checkDocument p base (doc.withField "variables" w)) ∧
    ∀ doc v, doc.field? "variables" = some v → v.object? = none →
      ∀ t, Template.decode doc ≠ .ok t := by
  refine ⟨?_, ?_, fun _ _ _ _ _ hfield hv hw => checkDocument_withField hfield hv hw, ?_⟩
  · obtain ⟨rule, hrule, hoccurs⟩ := exists_rule_of_scripted h
    exact checkText_of_occurs hrule hoccurs
  · intro p base doc hs
    cases hcheck : checkDocument p base doc with
    | error v => exact ⟨v, rfl⟩
    | ok => exact absurd (checkText_of_standsIn hs hcheck) (checkText_ne_ok_of_scripted h)
  · intro doc v hfield hobject t hdecode
    have hread := (Template.decode_eq_ok.1 hdecode).2
    simp [Template.ofValue?, Value.optional?, hfield, hobject] at hread

/-- A document with a script tag in the configuration of a placeholder, in
the branch that is taken if a condition fails. -/
def taggedDocument : Value :=
  .object (Table.ofList [
    ("content", .array [.object (Table.ofList [
      ("type", .string "conditional"),
      ("else", .array [.object (Table.ofList [
        ("type", .string "placeholder"),
        ("config", .object (Table.ofList [
          ("hints", .array [.string "a <ScRiPt> b"])]))])])])])])

theorem scripted_mixedTag : Scripted "a <ScRiPt> b" :=
  ⟨"a ".toList, "<ScRiPt>".toList, " b".toList, by decide, .inl (by decide)⟩

theorem standsIn_taggedDocument : StandsIn "a <ScRiPt> b" taggedDocument := by
  have helse : "else" ∈ ["content", "else"] := by simp
  refine .content rfl (.branch (.head _) rfl helse rfl ?_)
  exact .config (.head _) rfl rfl (.field (.head _) (.item (.head _) (.string _)))

/-- The document is refused, and so would be the text itself. -/
theorem taggedDocument_refused :
    (∃ pattern ∈ DenyList.textSources, checkText "a <ScRiPt> b" = .error
      (.because .maliciousContent s!"content matches blocked pattern '{pattern}'"
        "a <ScRiPt> b")) ∧
    ∃ v, checkDocument .strict none taggedDocument = .error v :=
  ⟨(scripts_refused scripted_mixedTag).1,
    (scripts_refused scripted_mixedTag).2.1 .strict none taggedDocument standsIn_taggedDocument⟩

/-- A document whose variables are an array. -/
def listedVariables : Value :=
  .object (Table.ofList [("variables", .array [.string "<script>"])])

theorem checkDocument_listedVariables : checkDocument .strict none listedVariables = .ok () := by
  have hsize : checkSize .strict listedVariables = .ok () := by
    unfold checkSize
    exact if_neg (by decide +kernel)
  have hcontent : checkContent .strict [] = .ok () := by
    rw [checkContent, countElements, checkElements]
    rfl
  have hbranch : listedVariables.branch? "content" = none := rfl
  have hvars : (listedVariables.field? "variables").bind Value.object? = none := rfl
  have hextends : listedVariables.branch? "extends" = none := rfl
  have hobject : listedVariables.object?.isNone = false := rfl
  unfold checkDocument
  rw [hsize, hobject, hbranch, hvars, hextends, Option.getD_none, hcontent]
  rfl

/-- Not every document with a script at a depth of its variables is refused
by vetting: variables that are an array are left to the reading of the
template. -/
theorem not_refused_listedVariables :
    ¬ ∀ (s : String) (p : Policy) (base : Option String) (doc v : Value), Scripted s →
      doc.field? "variables" = some v → v.Holds s → ∃ e, checkDocument p base doc = .error e := by
  intro hall
  have htag : Scripted "<script>" := ⟨[], "<script>".toList, [], by decide, .inl (by decide)⟩
  obtain ⟨e, he⟩ := hall "<script>" .strict none listedVariables (.array [.string "<script>"])
    htag rfl (.item (.head _) (.string _))
  rw [checkDocument_listedVariables] at he
  cases he

end Vetting

end PromptTemplate
