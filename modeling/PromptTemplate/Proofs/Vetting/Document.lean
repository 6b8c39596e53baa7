import Mathlib
import PromptTemplate.Proofs.Vetting.Content
/-!
# PromptTemplate — vetting a document vets its template

Vetting goes first, over a document that may be anything; what is compiled
is the template that is read from it afterwards. `Passes` says in terms of
the template what vetting is for, and `checkDocument_eq_ok_iff` that
vetting a document succeeds exactly if the template read from it passes:
nothing that is compiled goes unseen, and nothing else is looked at.
-/

namespace PromptTemplate

namespace Vetting

open Element

variable {p : Policy}

/-- What vetting promises about a template and the document it is read
from. -/
structure Passes (p : Policy) (base : Option String) (doc : Value) (t : Template) : Prop where
  /-- The document is not too large. -/
  size : (Json.compact doc).utf8ByteSize ≤ p.maxTemplateSize
  /-- There are not too many elements, those in branches included. -/
  count : (placedAll 0 t.content).length ≤ p.maxContentElements
  /-- No branch lies too deep, unless it is empty. -/
  nesting : NestsWithin p.maxNestingDepth (placedAll 0 t.content)
  /-- Every text, condition and configuration passes. -/
  elements : ∀ x ∈ placedAll 0 t.content, PassesElement p x.2
  /-- The variables pass. -/
  vars : checkVariables p t.vars = .ok ()
  /-- Every schema stands at an address that passes under the base. -/
  extensions : ∀ address ∈ t.extensions, ∃ u, checkAddress p (Url.resolved base address) = .ok u

theorem checkSize_eq_ok {doc : Value} :
    checkSize p doc = .ok () ↔ (Json.compact doc).utf8ByteSize ≤ p.maxTemplateSize := by
  unfold checkSize Json.byteSize
  by_cases h : p.maxTemplateSize < (Json.compact doc).utf8ByteSize
  · simp [h]
  · simp [h]
    omega

theorem checkContent_eq_ok {items : List Value} {es : List Element} (h : DescribesAll items es) :
    checkContent p items = .ok () ↔
      (placedAll 0 es).length ≤ p.maxContentElements ∧
      NestsWithin p.maxNestingDepth (placedAll 0 es) ∧
      ∀ x ∈ placedAll 0 es, PassesElement p x.2 := by
  unfold checkContent
  rw [Outcome.bind_eq_ok]
  constructor
  · rintro ⟨n, hcount, hcheck⟩
    obtain ⟨hn, hle, hnests⟩ := (countElements_eq_ok h (Nat.zero_le _)).1 hcount
    exact ⟨by omega, hnests, (checkElements_eq_ok h 0).1 hcheck⟩
  · rintro ⟨hle, hnests, hpass⟩
    refine ⟨(placedAll 0 es).length, ?_, (checkElements_eq_ok h 0).2 hpass⟩
    exact (countElements_eq_ok h (Nat.zero_le _)).2 ⟨by omega, hle, hnests⟩

theorem checkExtension_eq_ok {base : Option String} {address : String} :
    checkExtension p base address = .ok () ↔
      ∃ u, checkAddress p (Url.resolved base address) = .ok u := by
  unfold checkExtension
  cases checkAddress p (Url.resolved base address) <;> simp [Except.map]

/-- A document that is described by a template passes exactly if the
template does. -/
theorem checkDocument_of_describes {base : Option String} {doc : Value} {t : Template}
    (h : Template.Describes doc t) : checkDocument p base doc = .ok () ↔ Passes p base doc t := by
  obtain ⟨items, hitems, hall⟩ := h.items
  unfold checkDocument
  rw [h.isObject, if_neg (by simp), hitems, Option.getD_some, h.seenVars, h.seenExtensions,
    Outcome.andThen_eq_ok, checkSize_eq_ok]
  rw [Outcome.andThen_eq_ok, checkContent_eq_ok hall, Outcome.andThen_eq_ok, Outcome.forM_eq_ok]
  simp only [checkExtension_eq_ok]
  constructor
  · rintro ⟨hsize, ⟨hcount, hnesting, helements⟩, hvars, hextensions⟩
    exact ⟨hsize, hcount, hnesting, helements, hvars, hextensions⟩
  · rintro ⟨hsize, hcount, hnesting, helements, hvars, hextensions⟩
    exact ⟨hsize, ⟨hcount, hnesting, helements⟩, hvars, hextensions⟩

/-- **Vetting a document vets its template.** For every policy and base, a
document from which a template is read passes exactly if the template
does. -/
theorem checkDocument_eq_ok_iff {doc : Value} {t : Template} (h : Template.decode doc = .ok t)
    (p : Policy) (base : Option String) :
    checkDocument p base doc = .ok () ↔ Passes p base doc t :=
  checkDocument_of_describes (Template.ofValue?_eq_some.1 (Template.decode_eq_ok.1 h).2)

/-- A document whose inner conditional holds a text in the branch that is
taken if the condition fails. -/
def nestedDocument : Value :=
  .object (Table.ofList [
    ("version", .string "1"),
    ("content", .array [.object (Table.ofList [
      ("type", .string "conditional"),
      ("condition", .string "a"),
      ("content", .array [.object (Table.ofList [
        ("type", .string "conditional"),
        ("condition", .string "b"),
        ("content", .array []),
        ("else", .array [.object (Table.ofList [
          ("type", .string "text"), ("text", .string "deep")])])])])])])])

/-- The template of the document. -/
def nestedTemplate : Template where
  version := "1"
  description := none
  extensions := []
  vars := .nil
  customTypes := .nil
  content := [.conditional none "a"
    [.conditional none "b" [] (some [.text none "deep"])] none]
  layout := .default

/-- A policy that allows no branch within a branch refuses the document. -/
theorem checkDocument_nestedDocument_ne_ok :
    Template.decode nestedDocument = .ok nestedTemplate ∧
      checkDocument { Policy.strict with maxNestingDepth := 1 } none nestedDocument ≠ .ok () := by
  have hdecode : Template.decode nestedDocument = .ok nestedTemplate := by cbv
  refine ⟨hdecode, ?_⟩
  intro hpass
  have hnests := ((checkDocument_eq_ok_iff hdecode _ _).1 hpass).nesting
  have hdeep : (1, Element.conditional none "b" [] (some [.text none "deep"])) ∈
      placedAll 0 nestedTemplate.content := by
    simp [nestedTemplate, placedAll, placed, placedIn]
  have htoo : 1 + 1 ≤ 1 := hnests _ hdeep [.text none "deep"] (by simp [branches]) (by simp)
  omega

end Vetting

end PromptTemplate
