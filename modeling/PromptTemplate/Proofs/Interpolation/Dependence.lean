import Mathlib
import PromptTemplate.Proofs.Interpolation.References
/-!
# PromptTemplate — what substitution depends on

Two walks go over the content of a template: one lists the references of
its strings, the other replaces them. `elementStrings_eq` says that the
list is that of the strings of every element, one element behind another in
the order of the document, and `firstSeen_references` that every path in
them is listed once, where it is first seen.

Substitution goes over the same strings, and what it makes of one depends
on the values of the paths in it only (`substituteWith_congr`). A malformed
text has no paths, and fails in one way whatever the variables are. So
variables that agree on the listed paths give the same elements, or the
same failure: `substitution_by_references`.
-/

namespace PromptTemplate

namespace Interpolation

open Element

variable {vars vars' : Table Value}

/-! ## The strings of elements -/

/-- The strings of an element in which references are replaced, in their
order, but for those in its branches. -/
def ownStrings : Element → List String
  | .text _ s => [s]
  | .placeholder _ _ config => Value.strings (.object config)
  | .conditional _ condition _ _ => [condition]

/-- A string is one of an element itself: its text, its condition, or a
string at any depth of its configuration. -/
def Interpolates : Element → String → Prop
  | .text _ t, s => s = t
  | .placeholder _ _ config, s => (Value.object config).Holds s
  | .conditional _ condition _ _, s => s = condition

theorem mem_ownStrings {e : Element} {s : String} : s ∈ ownStrings e ↔ Interpolates e s := by
  cases e with
  | text name t => simp [ownStrings, Interpolates]
  | placeholder name type config => exact Value.mem_strings
  | conditional name condition content otherwise => simp [ownStrings, Interpolates]

mutual

theorem elementStrings_eq (e : Element) (depth : Nat) :
    elementStrings e = (placed depth e).flatMap fun x => ownStrings x.2 := by
  match e with
  | .text name s => simp [elementStrings, placed, ownStrings]
  | .placeholder name type config => simp [elementStrings, placed, ownStrings, Value.strings]
  | .conditional name condition content otherwise =>
    rw [elementStrings, strings_eq content (depth + 1), branchStrings_eq otherwise (depth + 1),
      placed, List.flatMap_cons, List.flatMap_append]
    rfl

/-- **The strings that are visited** are those of every element, in the
order of the document. -/
theorem strings_eq (es : List Element) (depth : Nat) :
    strings es = (placedAll depth es).flatMap fun x => ownStrings x.2 := by
  match es with
  | [] => rfl
  | e :: es =>
    rw [strings, elementStrings_eq e depth, strings_eq es depth, placedAll, List.flatMap_append]

theorem branchStrings_eq (branch : Option (List Element)) (depth : Nat) :
    branchStrings branch = (placedIn depth branch).flatMap fun x => ownStrings x.2 := by
  match branch with
  | none => rfl
  | some es => exact strings_eq es depth

end

/-! ## Lists of what is first seen -/

/-- A list has what was seen: all of it, each once, and in the order in
which it was first seen. -/
structure FirstSeen (seen list : List String) : Prop where
  mem : ∀ item, item ∈ list ↔ item ∈ seen
  nodup : list.Nodup
  ordered : list.Pairwise fun a b => seen.idxOf a < seen.idxOf b

/-- One more item is seen. -/
theorem FirstSeen.pushNew {seen list : List String} (h : FirstSeen seen list) (item : String) :
    FirstSeen (seen ++ [item]) (pushNew list item) := by
  have hordered : list.Pairwise fun a b =>
      (seen ++ [item]).idxOf a < (seen ++ [item]).idxOf b := by
    refine h.ordered.imp_of_mem fun {a b} ha hb hlt => ?_
    rwa [List.idxOf_append_of_mem ((h.mem a).1 ha), List.idxOf_append_of_mem ((h.mem b).1 hb)]
  unfold Interpolation.pushNew
  split
  · rename_i hcontains
    have hlisted : item ∈ list := by simpa using hcontains
    refine ⟨fun a => ?_, h.nodup, hordered⟩
    have hseen : a = item → a ∈ seen := by
      rintro rfl
      exact (h.mem _).1 hlisted
    rw [h.mem, List.mem_append, List.mem_singleton]
    exact ⟨.inl, fun ha => ha.elim id hseen⟩
  · rename_i hcontains
    have hnew : item ∉ list := by simpa using hcontains
    have hunseen : item ∉ seen := fun hseen => hnew ((h.mem item).2 hseen)
    refine ⟨fun a => ?_, ?_, ?_⟩
    · rw [List.mem_append, List.mem_append, h.mem]
    · refine List.nodup_append.2 ⟨h.nodup, List.nodup_singleton item, ?_⟩
      intro a ha b hb hab
      rw [List.mem_singleton.1 hb] at hab
      exact hnew (hab ▸ ha)
    · refine List.pairwise_append.2 ⟨hordered, List.pairwise_singleton _ _, ?_⟩
      intro a ha b hb
      have hseen : a ∈ seen := (h.mem a).1 ha
      have hlt : seen.idxOf a < seen.length := List.idxOf_lt_length_of_mem hseen
      rw [List.mem_singleton.1 hb, List.idxOf_append_of_mem hseen,
        List.idxOf_append_of_notMem hunseen]
      omega

/-- Many more items are seen, one after another. -/
theorem FirstSeen.foldl {seen list : List String} (h : FirstSeen seen list)
    (items : List String) : FirstSeen (seen ++ items) (items.foldl Interpolation.pushNew list) := by
  induction items generalizing seen list with
  | nil => simpa using h
  | cons item items ih =>
    have hrest := ih (h.pushNew item)
    rwa [List.append_assoc, List.singleton_append] at hrest

/-! ## The listed references -/

/-- The paths of the references in elements, in the order of the document
and as often as they stand there. -/
def occurrences (es : List Element) : List String :=
  ((placedAll 0 es).flatMap fun x => ownStrings x.2).flatMap textReferences

/-- **The listed references** are the paths in the elements, each where it
is first seen. -/
theorem firstSeen_references (es : List Element) :
    FirstSeen (occurrences es) (references es) := by
  have hnone : FirstSeen [] [] := ⟨by simp, List.nodup_nil, .nil⟩
  have hall := hnone.foldl ((strings es).flatMap textReferences)
  rw [List.nil_append] at hall
  rwa [references, occurrences, ← strings_eq]

/-- A text has a path if it has segments and one of them refers to it. -/
theorem mem_textReferences {text path : String} :
    path ∈ textReferences text ↔ ∃ ss, segments text = .ok ss ∧ .reference path ∈ ss := by
  unfold textReferences
  cases segments text with
  | error why => simp
  | ok ss =>
    have hpaths : path ∈ Segment.paths ss ↔ Segment.reference path ∈ ss := by
      rw [Segment.paths, List.mem_filterMap]
      constructor
      · rintro ⟨segment, hsegment, hpath⟩
        cases segment with
        | literal text => cases hpath
        | reference other =>
          cases hpath
          exact hsegment
      · intro hreference
        exact ⟨_, hreference, rfl⟩
    simpa using hpaths

theorem mem_occurrences {es : List Element} {path : String} :
    path ∈ occurrences es ↔ ∃ x ∈ placedAll 0 es, ∃ s, Interpolates x.2 s ∧
      ∃ ss, segments s = .ok ss ∧ .reference path ∈ ss := by
  simp only [occurrences, List.mem_flatMap, mem_ownStrings, mem_textReferences]
  constructor
  · rintro ⟨s, ⟨x, hx, hs⟩, hpath⟩
    exact ⟨x, hx, s, hs, hpath⟩
  · rintro ⟨x, hx, s, hs, hpath⟩
    exact ⟨s, ⟨x, hx, hs⟩, hpath⟩

/-! ## Substitution under two maps of variables -/

/-- Every path in a text has the same value under two maps of variables, or
none under both for the same reason. -/
def AgreeOn (vars vars' : Table Value) (text : String) : Prop :=
  ∀ path ∈ textReferences text, lookUp vars path = lookUp vars' path

theorem fill_congr {render : String → Value → Except Unresolved String} {ss : List Segment}
    (h : ∀ path ∈ Segment.paths ss, lookUp vars path = lookUp vars' path) :
    fill render vars ss = fill render vars' ss := by
  induction ss with
  | nil => rfl
  | cons segment rest ih =>
    cases segment with
    | literal text => rw [fill, fill, ih h]
    | reference path =>
      rw [paths_reference, List.forall_mem_cons] at h
      rw [fill, fill, h.1, ih h.2]

/-- **A text is filled alike** under maps of variables that agree on it. A
malformed one agrees with everything, and is not filled at all. -/
theorem substituteWith_congr {render : String → Value → Except Unresolved String} {text : String}
    (h : AgreeOn vars vars' text) :
    substituteWith render vars text = substituteWith render vars' text := by
  unfold AgreeOn textReferences at h
  unfold substituteWith
  cases hss : segments text with
  | error why => rfl
  | ok ss =>
    rw [hss] at h
    exact fill_congr h

theorem substituteItems_congr {items : List Value}
    (h : ∀ v ∈ items, substituteValue vars v = substituteValue vars' v) :
    substituteItems vars items = substituteItems vars' items := by
  induction items with
  | nil => rfl
  | cons v vs ih =>
    rw [List.forall_mem_cons] at h
    rw [substituteItems, substituteItems, h.1, ih h.2]

theorem substituteFields_congr {lo : Option String} {fields : Entries Value lo}
    (h : ∀ e ∈ fields.toList, substituteValue vars e.2 = substituteValue vars' e.2) :
    substituteFields vars fields = substituteFields vars' fields := by
  induction fields with
  | nil => rfl
  | cons k hk v rest ih =>
    rw [Entries.toList, List.forall_mem_cons] at h
    rw [substituteFields, substituteFields, h.1, ih h.2]

/-- A value is filled alike under maps of variables that agree on its
strings. -/
theorem substituteValue_congr {v : Value} (h : ∀ s ∈ v.strings, AgreeOn vars vars' s) :
    substituteValue vars v = substituteValue vars' v := by
  induction v using Value.induction with
  | null | bool | number => rfl
  | string s =>
    have hs : AgreeOn vars vars' s := h s (by simp [Value.strings])
    rw [substituteValue, substituteValue, substituteText, substituteText,
      substituteWith_congr hs]
  | array items ih =>
    rw [substituteValue, substituteValue, substituteItems_congr fun v hv =>
      ih v hv fun s hs => h s (Value.mem_itemStrings.2 ⟨v, hv, hs⟩)]
  | object fields ih =>
    rw [substituteValue, substituteValue, substituteFields_congr fun e he =>
      ih e he fun s hs => h s (Value.mem_fieldStrings.2 ⟨e, he, hs⟩)]

mutual

theorem substituteElement_congr {e : Element}
    (h : ∀ s ∈ elementStrings e, AgreeOn vars vars' s) :
    substituteElement vars e = substituteElement vars' e := by
  match e with
  | .text name s =>
    have htext : AgreeOn vars vars' s := h s (by simp [elementStrings])
    rw [substituteElement, substituteElement, substituteText, substituteText,
      substituteWith_congr htext]
  | .placeholder name type config =>
    have hconfig := @substituteFields_congr vars vars' _ config fun e he =>
      substituteValue_congr fun s hs => h s (Value.mem_fieldStrings.2 ⟨e, he, hs⟩)
    rw [substituteElement, substituteElement, hconfig]
  | .conditional name condition content otherwise =>
    rw [elementStrings, List.forall_mem_cons, List.forall_mem_append] at h
    obtain ⟨hcondition, hcontent, hotherwise⟩ := h
    rw [substituteElement, substituteElement, substituteCondition, substituteCondition,
      substituteWith_congr hcondition, substituteElements_congr hcontent,
      substituteBranch_congr hotherwise]

/-- **Elements are filled alike** under maps of variables that agree on
their strings. -/
theorem substituteElements_congr {es : List Element}
    (h : ∀ s ∈ strings es, AgreeOn vars vars' s) :
    substituteElements vars es = substituteElements vars' es := by
  match es with
  | [] => rfl
  | e :: es =>
    rw [strings, List.forall_mem_append] at h
    rw [substituteElements, substituteElements, substituteElement_congr h.1,
      substituteElements_congr h.2]

theorem substituteBranch_congr {branch : Option (List Element)}
    (h : ∀ s ∈ branchStrings branch, AgreeOn vars vars' s) :
    substituteBranch vars branch = substituteBranch vars' branch := by
  match branch with
  | none => rfl
  | some es => rw [substituteBranch, substituteBranch, substituteElements_congr h]

end

/-- A path that leads to the same under two maps of variables is looked up
alike. -/
theorem lookUp_congr {path : String} (h : Path.resolve vars path = Path.resolve vars' path) :
    lookUp vars path = lookUp vars' path := by
  rw [lookUp, lookUp, h]

/-- **Substitution depends on the listed references only.** Under two maps
of variables in which every listed path leads to the same value, or fails in
the same way, substitution gives the same elements or the same failure. The
list has just the paths of the references in the well-formed strings of the
elements, at every depth of both branches, each once and in the order in
which they are first seen. -/
theorem substitution_by_references (es : List Element) :
    (∀ vars vars' : Table Value,
      (∀ path ∈ references es, Path.resolve vars path = Path.resolve vars' path) →
      substituteElements vars es = substituteElements vars' es) ∧
    (∀ path, path ∈ references es ↔ ∃ x ∈ placedAll 0 es, ∃ s, Interpolates x.2 s ∧
      ∃ ss, segments s = .ok ss ∧ .reference path ∈ ss) ∧
    (references es).Nodup ∧
    (references es).Pairwise fun path other =>
      (occurrences es).idxOf path < (occurrences es).idxOf other := by
  have hlist := firstSeen_references es
  refine ⟨fun vars vars' h => ?_, fun path => ?_, hlist.nodup, hlist.ordered⟩
  · refine substituteElements_congr fun s hs path hpath => ?_
    have hseen : path ∈ occurrences es := by
      rw [occurrences, ← strings_eq]
      exact List.mem_flatMap.2 ⟨s, hs, hpath⟩
    exact lookUp_congr (h path ((hlist.mem path).2 hseen))
  · rw [hlist.mem, mem_occurrences]

/-- Elements with a reference in a branch, and a malformed text behind
it. -/
def guardedGreeting : List Element :=
  [.conditional none "$\x7br\x7d" [.text none "Hello $\x7bn\x7d"] none, .text none "$\x7bn"]

/-- Variables with a note, to which the elements do not refer. -/
def greetingVars (note : String) : Table Value :=
  Table.ofList [("n", .string "Ada"), ("note", .string note), ("r", .bool true)]

theorem resolve_greetingVars (note : String) :
    Path.resolve (greetingVars note) "r" = .ok (.bool true) ∧
      Path.resolve (greetingVars note) "n" = .ok (.string "Ada") :=
  ⟨by cbv, by cbv⟩

/-- Whatever the note is, substitution fails at the malformed text. -/
theorem substitution_guardedGreeting :
    references guardedGreeting = ["r", "n"] ∧
      (∀ path ∈ references guardedGreeting,
        Path.resolve (greetingVars "a") path = Path.resolve (greetingVars "b") path) ∧
      substituteElements (greetingVars "a") guardedGreeting =
        substituteElements (greetingVars "b") guardedGreeting := by
  have hlist : references guardedGreeting = ["r", "n"] := by cbv
  have hagree : ∀ path ∈ references guardedGreeting,
      Path.resolve (greetingVars "a") path = Path.resolve (greetingVars "b") path := by
    rw [hlist]
    intro path hpath
    rw [List.mem_cons, List.mem_singleton] at hpath
    rcases hpath with rfl | rfl
    · rw [(resolve_greetingVars "a").1, (resolve_greetingVars "b").1]
    · rw [(resolve_greetingVars "a").2, (resolve_greetingVars "b").2]
  exact ⟨hlist, hagree, (substitution_by_references guardedGreeting).1 _ _ hagree⟩

end Interpolation

end PromptTemplate
