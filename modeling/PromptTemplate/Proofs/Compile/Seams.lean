import PromptTemplate.Proofs.Compile.Supplied
import PromptTemplate.Proofs.Vetting.Sealed
/-!
# PromptTemplate — blocked content and the seams of substitution

Texts and variables are vetted each for itself, before substitution puts
them together, so a blocked pattern can come about where they meet:
`javascript:` from `java${x}` and a variable `script:`. Vetting is not
repeated then. But every string that the prompt is assembled from is a
string of the template, filled (`exists_of_mem_pieces`), and both the
template and the variables in force have been vetted. So a match in it
always reaches across a seam of substitution: `blocked_across_seams`.
-/

namespace PromptTemplate

open Interpolation Element

/-! ## Strings that go into a prompt -/

/-- The strings of an element that go into a prompt, its branches apart. -/
def Element.promptStrings : Element → List String
  | .text _ s => [s]
  | .placeholder _ _ config => Value.fieldStrings config
  | .conditional .. => []

/-- The strings of a piece. -/
def Piece.strings : Piece → List String
  | .text _ s => [s]
  | .placeholder _ _ config => Value.fieldStrings config

/-- The strings of an element that passes, pass as texts. -/
theorem Vetting.PassesElement.checkText {p : Policy} {e : Element} (h : PassesElement p e) :
    ∀ s ∈ e.promptStrings, Vetting.checkText s = .ok () := by
  cases e with
  | text name s =>
    intro t ht
    obtain rfl := List.mem_singleton.1 ht
    exact h
  | placeholder name type config =>
    intro s hs
    exact h s (Value.mem_strings.1 hs)
  | conditional name condition content otherwise => simp [promptStrings]

namespace Interpolation

variable {vars : Table Value}

theorem exists_of_mem_substituteItems {items ws : List Value}
    (h : substituteItems vars items = .ok ws) :
    ∀ w ∈ ws, ∃ v ∈ items, substituteValue vars v = .ok w := by
  induction items generalizing ws with
  | nil =>
    cases h
    simp
  | cons v vs ih =>
    obtain ⟨w, hw, h⟩ := Outcome.bind_eq_ok.1 h
    obtain ⟨rest, hrest, h⟩ := Outcome.bind_eq_ok.1 h
    cases h
    refine List.forall_mem_cons.2 ⟨⟨v, List.mem_cons_self, hw⟩, ?_⟩
    intro w' hw'
    obtain ⟨v', hv', hfilled⟩ := ih hrest w' hw'
    exact ⟨v', List.mem_cons_of_mem _ hv', hfilled⟩

theorem exists_of_mem_substituteFields {lo : Option String} {fields fields' : Entries Value lo}
    (h : substituteFields vars fields = .ok fields') :
    ∀ e' ∈ fields'.toList, ∃ e ∈ fields.toList, substituteValue vars e.2 = .ok e'.2 := by
  induction fields with
  | nil =>
    cases h
    simp [Entries.toList]
  | cons k hk v rest ih =>
    obtain ⟨w, hw, h⟩ := Outcome.bind_eq_ok.1 h
    obtain ⟨rest', hrest, h⟩ := Outcome.bind_eq_ok.1 h
    cases h
    rw [Entries.toList, Entries.toList]
    refine List.forall_mem_cons.2 ⟨⟨(k, v), List.mem_cons_self, hw⟩, ?_⟩
    intro e' he'
    obtain ⟨e, he, hfilled⟩ := ih hrest e' he'
    exact ⟨e, List.mem_cons_of_mem _ he, hfilled⟩

/-- Every string of a filled value is a string of the value, filled. -/
theorem exists_of_mem_strings {v w : Value} (h : substituteValue vars v = .ok w) :
    ∀ t ∈ w.strings, ∃ s ∈ v.strings, substituteText vars s = .ok t := by
  induction v using Value.induction generalizing w with
  | null | bool | number =>
    cases h
    simp [Value.strings]
  | string s =>
    obtain ⟨t, ht, rfl⟩ := Outcome.map_eq_ok.1 h
    simpa [Value.strings] using ht
  | array items ih =>
    obtain ⟨ws, hws, rfl⟩ := Outcome.map_eq_ok.1 h
    intro t ht
    obtain ⟨w, hw, ht⟩ := Value.mem_itemStrings.1 ht
    obtain ⟨v, hv, hfilled⟩ := exists_of_mem_substituteItems hws w hw
    obtain ⟨s, hs, hst⟩ := ih v hv hfilled t ht
    exact ⟨s, Value.mem_itemStrings.2 ⟨v, hv, hs⟩, hst⟩
  | object fields ih =>
    obtain ⟨fields', hfields, rfl⟩ := Outcome.map_eq_ok.1 h
    intro t ht
    obtain ⟨e', he', ht⟩ := Value.mem_fieldStrings.1 ht
    obtain ⟨e, he, hfilled⟩ := exists_of_mem_substituteFields hfields e' he'
    obtain ⟨s, hs, hst⟩ := ih e he hfilled t ht
    exact ⟨s, Value.mem_fieldStrings.2 ⟨e, he, hs⟩, hst⟩

/-- Every string of a filled configuration is a string of the
configuration, filled. -/
theorem exists_of_mem_fieldStrings {lo : Option String} {fields fields' : Entries Value lo}
    (h : substituteFields vars fields = .ok fields') :
    ∀ t ∈ Value.fieldStrings fields', ∃ s ∈ Value.fieldStrings fields,
      substituteText vars s = .ok t := by
  intro t ht
  obtain ⟨e', he', ht⟩ := Value.mem_fieldStrings.1 ht
  obtain ⟨e, he, hfilled⟩ := exists_of_mem_substituteFields h e' he'
  obtain ⟨s, hs, hst⟩ := exists_of_mem_strings hfilled t ht
  exact ⟨s, Value.mem_fieldStrings.2 ⟨e, he, hs⟩, hst⟩

end Interpolation

namespace Compile

variable {p : Policy} {source : Schema.Source} {base : Option String} {doc : Value}
  {supplied : Option (Table Value)} {shelf : Schema.Shelf} {vars : Table Value}

mutual

theorem exists_of_mem_piecesOf {e e' : Element} {pieces : List Piece} {position depth : Nat}
    (hfilled : substituteElement vars e = .ok e')
    (hpruned : pruneElement p vars position e' = .ok pieces) :
    ∀ piece ∈ pieces, ∀ t ∈ piece.strings, ∃ x ∈ placed depth e, ∃ s ∈ x.2.promptStrings,
      substituteText vars s = .ok t := by
  match e with
  | .text name s =>
    obtain ⟨t, ht, h⟩ := Outcome.bind_eq_ok.1 hfilled
    cases h
    cases hpruned
    simpa [placed, Piece.strings, promptStrings] using ht
  | .placeholder name type config =>
    obtain ⟨config', hconfig, h⟩ := Outcome.bind_eq_ok.1 hfilled
    cases h
    cases hpruned
    intro piece hpiece t ht
    obtain rfl := List.mem_singleton.1 hpiece
    exact ⟨_, List.mem_singleton.2 rfl, exists_of_mem_fieldStrings hconfig t ht⟩
  | .conditional name condition content otherwise =>
    obtain ⟨condition', hcondition, h⟩ := Outcome.bind_eq_ok.1 hfilled
    obtain ⟨content', hcontent, h⟩ := Outcome.bind_eq_ok.1 h
    obtain ⟨otherwise', hotherwise, h⟩ := Outcome.bind_eq_ok.1 h
    cases h
    rw [pruneElement_conditional] at hpruned
    obtain ⟨b, -, hbranch⟩ := Outcome.bind_eq_ok.1 hpruned
    intro piece hpiece t ht
    rw [placed]
    cases b with
    | true =>
      obtain ⟨x, hx, hs⟩ := exists_of_mem_pieces hcontent hbranch piece hpiece t ht
      exact ⟨x, List.mem_cons_of_mem _ (List.mem_append_left _ hx), hs⟩
    | false =>
      obtain ⟨x, hx, hs⟩ := exists_of_mem_piecesIn hotherwise hbranch piece hpiece t ht
      exact ⟨x, List.mem_cons_of_mem _ (List.mem_append_right _ hx), hs⟩

/-- **Every string of the pieces** that filling and pruning leave is a
string of an element, filled. -/
theorem exists_of_mem_pieces {es es' : List Element} {pieces : List Piece} {position depth : Nat}
    (hfilled : substituteElements vars es = .ok es')
    (hpruned : pruneFrom p vars position es' = .ok pieces) :
    ∀ piece ∈ pieces, ∀ t ∈ piece.strings, ∃ x ∈ placedAll depth es, ∃ s ∈ x.2.promptStrings,
      substituteText vars s = .ok t := by
  match es with
  | [] =>
    cases hfilled
    cases hpruned
    simp
  | e :: es =>
    obtain ⟨e', he, h⟩ := Outcome.bind_eq_ok.1 hfilled
    obtain ⟨rest', hrest, h⟩ := Outcome.bind_eq_ok.1 h
    cases h
    rw [pruneFrom] at hpruned
    obtain ⟨here, hhere, h⟩ := Outcome.bind_eq_ok.1 hpruned
    obtain ⟨behind, hbehind, h⟩ := Outcome.bind_eq_ok.1 h
    cases h
    intro piece hpiece t ht
    rw [placedAll]
    rcases List.mem_append.1 hpiece with hpiece | hpiece
    · obtain ⟨x, hx, hs⟩ := exists_of_mem_piecesOf he hhere piece hpiece t ht
      exact ⟨x, List.mem_append_left _ hx, hs⟩
    · obtain ⟨x, hx, hs⟩ := exists_of_mem_pieces hrest hbehind piece hpiece t ht
      exact ⟨x, List.mem_append_right _ hx, hs⟩

theorem exists_of_mem_piecesIn {branch branch' : Option (List Element)} {pieces : List Piece}
    {depth : Nat} (hfilled : substituteBranch vars branch = .ok branch')
    (hpruned : pruneBranch p vars branch' = .ok pieces) :
    ∀ piece ∈ pieces, ∀ t ∈ piece.strings, ∃ x ∈ placedIn depth branch,
      ∃ s ∈ x.2.promptStrings, substituteText vars s = .ok t := by
  match branch with
  | none =>
    cases hfilled
    cases hpruned
    simp
  | some es =>
    obtain ⟨es', hes, rfl⟩ := Outcome.map_eq_ok.1 hfilled
    exact exists_of_mem_pieces hes hpruned

end

/-- What a compilation has vetted: the elements of its template and the
variables in force. -/
theorem passes_of_compile {c : Compiled}
    (h : (compile p source base doc supplied shelf).1 = .ok c) :
    (∀ x ∈ placedAll 0 c.template.content, Vetting.PassesElement p x.2) ∧
      Vetting.checkVariables p c.vars = .ok () := by
  obtain ⟨hprepare, -⟩ := compile_eq_ok h
  have hdescribes := Template.describes_of_decode (prepare_eq_ok hprepare).1
  have hpasses := (Vetting.checkDocument_of_describes hdescribes).1 (vetted_of_prepare hprepare).1
  exact ⟨hpasses.elements, (prepare_declaring hprepare).1⟩

/-- **Blocked content comes about at seams only.** For every template and
policy, whatever the supplied variables and the schemas are: in each string
that the prompt of a compilation is assembled from, every match of a
pattern that is blocked in texts reaches out of each stretch of the
template and each value put in. A string that substitution has left as it
was has no match. -/
theorem blocked_across_seams {c : Compiled}
    (h : (compile p source base doc supplied shelf).1 = .ok c) :
    ∃ es pieces schemas, substituteElements c.vars c.template.content = .ok es ∧
      prune p c.vars es = .ok pieces ∧
      assemble (Resolution.resolve schemas c.template.customTypes).types c.template.layout pieces =
        .ok c.prompt ∧
      ∀ piece ∈ pieces, ∀ t ∈ piece.strings,
        ∃ x ∈ placedAll 0 c.template.content, ∃ s ∈ x.2.promptStrings,
          substituteText c.vars s = .ok t ∧ charsOf (textParts c.vars s) = t.toList ∧
            Vetting.AcrossSeams (textParts c.vars s) t ∧
            (t = s → Vetting.checkText t = .ok ()) := by
  obtain ⟨helements, hvars⟩ := passes_of_compile h
  obtain ⟨-, -, schemas, -, hreads⟩ := exists_of_compile_eq_ok h
  obtain ⟨es, pieces, hfilled, hpruned, hassembled⟩ := hreads.pruned
  refine ⟨es, pieces, schemas, hfilled, hpruned, hassembled, ?_⟩
  intro piece hpiece t ht
  obtain ⟨x, hx, s, hs, hst⟩ := exists_of_mem_pieces hfilled hpruned piece hpiece t ht
  have hpass : Vetting.checkText s = .ok () := (helements x hx).checkText s hs
  refine ⟨x, hx, s, hs, hst, charsOf_textParts hst, Vetting.acrossSeams_of_passes hpass hvars hst,
    ?_⟩
  rintro rfl
  exact hpass

/-! ## A pattern from two pieces -/

/-- A document whose text and variable meet in a blocked pattern. -/
def splitDocument : Value :=
  .object (Table.ofList [
    ("version", .string "1"),
    ("variables", .object (Table.ofList [("x", .string "script:alert(1)")])),
    ("content", .array [.object (Table.ofList [
      ("type", .string "text"), ("text", .string "java$\x7bx\x7d")])])])

/-- The template of the document. -/
def splitTemplate : Template where
  version := "1"
  description := none
  extensions := []
  vars := Table.ofList [("x", .string "script:alert(1)")]
  customTypes := .nil
  content := [.text none "java$\x7bx\x7d"]
  layout := .default

/-- What the document is compiled to. -/
def splitCompiled : Compiled :=
  ⟨header .default ++ "javascript:alert(1)", splitTemplate, splitTemplate.vars, []⟩

theorem decode_splitDocument : Template.decode splitDocument = .ok splitTemplate :=
  Template.decode_eq_ok.2 ⟨by cbv, by cbv⟩

/-- Text and variable pass, and what they come to does not. -/
theorem checkText_split :
    (∀ s ∈ ["java$\x7bx\x7d", "script:alert(1)"], Vetting.checkText s = .ok ()) ∧
      Vetting.checkText "javascript:alert(1)" ≠ .ok () := by
  decide +kernel

theorem substituteText_split :
    substituteText splitTemplate.vars "java$\x7bx\x7d" = .ok "javascript:alert(1)" := by
  cbv

theorem checkDocument_splitDocument :
    Vetting.checkDocument .strict none splitDocument = .ok () := by
  have hdescribes := Template.describes_of_decode decode_splitDocument
  refine (Vetting.checkDocument_of_describes hdescribes).2 ?_
  have hplaced : placedAll 0 splitTemplate.content = [(0, .text none "java$\x7bx\x7d")] := by
    simp [splitTemplate, placedAll, placed]
  have htext : Vetting.checkText "java$\x7bx\x7d" = .ok () := checkText_split.1 _ (by simp)
  have hvariable : Vetting.checkText "script:alert(1)" = .ok () := checkText_split.1 _ (by simp)
  exact {
    size := by decide +kernel
    count := by
      rw [hplaced]
      decide
    nesting := by
      rw [hplaced]
      simp [Vetting.NestsWithin, branches]
    elements := by
      rw [hplaced]
      simp [Vetting.PassesElement, htext]
    vars := by
      refine Vetting.checkVariables_eq_ok.2 fun key v hv => ?_
      obtain ⟨rfl, rfl⟩ : key = "x" ∧ v = .string "script:alert(1)" := by
        have hmem : (key, v) ∈ [("x", Value.string "script:alert(1)")] := Entries.mem_toList.2 hv
        simpa using hmem
      exact ⟨by decide, by decide +kernel, Vetting.checkVariable_string.2 hvariable⟩
    extensions := by
      intro address haddress
      cases haddress }

theorem substituteElements_split : substituteElements splitTemplate.vars splitTemplate.content =
    .ok [.text none "javascript:alert(1)"] := by
  have hcontent : splitTemplate.content = [.text none "java$\x7bx\x7d"] := rfl
  rw [hcontent, substituteElements, substituteElement, substituteText_split]
  rfl

theorem compile_splitDocument :
    (compile .strict noSchemas none splitDocument none (.start 0 0)).1 = .ok splitCompiled := by
  have hprepare : prepare .strict none splitDocument none =
      .ok (splitTemplate, splitTemplate.vars) :=
    prepare_of_passes checkDocument_splitDocument decode_splitDocument
  have hpruned : prune .strict splitTemplate.vars [.text none "javascript:alert(1)"] =
      .ok [.text none "javascript:alert(1)"] := rfl
  rw [compile_of_prepare hprepare rfl]
  exact finish_of_assembled substituteElements_split hpruned rfl

/-- Blocked content can be assembled from allowed pieces: not every string
that a prompt is assembled from would pass as a text. -/
theorem not_all_pieces_pass :
    ¬ ∀ (p : Policy) (source : Schema.Source) (base : Option String) (doc : Value)
        (supplied : Option (Table Value)) (shelf : Schema.Shelf) (c : Compiled),
      (compile p source base doc supplied shelf).1 = .ok c →
        ∀ es pieces, substituteElements c.vars c.template.content = .ok es →
          prune p c.vars es = .ok pieces →
            ∀ piece ∈ pieces, ∀ t ∈ piece.strings, Vetting.checkText t = .ok () := by
  intro hall
  have hpass := hall .strict noSchemas none splitDocument none (.start 0 0) splitCompiled
    compile_splitDocument _ [.text none "javascript:alert(1)"] substituteElements_split rfl
    _ (List.mem_singleton.2 rfl) "javascript:alert(1)" (List.mem_singleton.2 rfl)
  exact checkText_split.2 hpass

/-- The match in the string that the document comes to reaches across the
seam between its text and its variable. -/
theorem acrossSeams_splitDocument :
    Vetting.AcrossSeams (textParts splitTemplate.vars "java$\x7bx\x7d")
      "javascript:alert(1)" := by
  obtain ⟨es, pieces, schemas, hfilled, hpruned, -, hstrings⟩ :=
    blocked_across_seams compile_splitDocument
  obtain rfl : [Element.text none "javascript:alert(1)"] = es :=
    Except.ok.inj (substituteElements_split.symm.trans hfilled)
  cases hpruned
  obtain ⟨x, hx, s, hs, -, -, hacross, -⟩ := hstrings _ (List.mem_singleton.2 rfl)
    "javascript:alert(1)" (List.mem_singleton.2 rfl)
  obtain rfl : x = (0, .text none "java$\x7bx\x7d") := List.mem_singleton.1 hx
  obtain rfl := List.mem_singleton.1 hs
  exact hacross

end Compile

end PromptTemplate
