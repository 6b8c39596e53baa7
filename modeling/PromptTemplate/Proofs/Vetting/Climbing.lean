import PromptTemplate.Proofs.Url.Segments
import PromptTemplate.Proofs.Vetting.Address
import PromptTemplate.Proofs.Vetting.Document
import PromptTemplate.Schema.Loader
/-!
# PromptTemplate — addresses that climb

No address with two dots in it is meant to be loaded, because they may
climb out of a directory. `Refused` says of an address that no policy lets
a schema be loaded from it, or a document extend it, and
`refused_parentSegment` which addresses these are.

Dots are sought in the address as it is meant under its base. Where there
is none, or one of the two cannot be read, that is the address as written,
and a segment that goes up is found (`hasClimb_of_hasParentSegment`). Where
the address is joined to its base the segments that go up are gone before
they are sought (`Url.isLevel_of_joined?`), and the address is loaded:
`joined_parentSegment_loads`.
-/

namespace PromptTemplate

namespace Url

/-- **Some segment of a text goes up:** up to its query or fragment, it has
two dots in some spelling between slashes of either kind, once blanks
around it, tabs and line ends are dropped. -/
def HasParentSegment (text : String) : Prop :=
  ∃ segment ∈ splitPath true ((cleaned text).takeWhile fun c => !endsPath c),
    isDoubleDot segment = true

/-- Whether a text has none of the characters that are dropped inside of
addresses. -/
def Unbroken (text : String) : Prop := ∀ c ∈ text.toList, c ≠ '\t' ∧ c ≠ '\n' ∧ c ≠ '\r'

/-- A text that is not broken is read as it stands, without its ends. -/
theorem infix_cleaned {text : String} (h : Unbroken text) : cleaned text <:+: text.toList := by
  have hends : ∀ outer : Char → Bool,
      ((text.toList.dropWhile outer).reverse.dropWhile outer).reverse <:+: text.toList := by
    intro outer
    refine List.IsInfix.trans ?_ (List.dropWhile_suffix outer).isInfix
    rw [← List.reverse_infix, List.reverse_reverse]
    exact (List.dropWhile_suffix outer).isInfix
  unfold cleaned
  dsimp only
  rw [List.filter_eq_self.2]
  · exact hends _
  · intro c hc
    obtain ⟨htab, hnewline, hreturn⟩ := h c ((hends _).subset hc)
    simp [htab, hnewline, hreturn]

/-- A segment of two dots has no other characters. -/
theorem toLower_of_isDoubleDot {segment : List Char} (h : isDoubleDot segment = true) :
    ∀ c ∈ segment, c.toLower ∈ ['.', '%', '2', 'e'] := by
  intro c hc
  obtain ⟨a, ha, b, hb, hab⟩ := isDoubleDot_iff.1 h
  have hmem : c.toLower ∈ a ++ b := hab ▸ List.mem_map_of_mem hc
  have hdots : ∀ d ∈ a ++ b, d ∈ ['.', '%', '2', 'e'] := by
    simp only [spelledDots, List.mem_cons, List.not_mem_nil, or_false] at ha hb
    rcases ha with rfl | rfl <;> rcases hb with rfl | rfl <;> simp
  exact hdots _ hmem

/-- A segment without slashes stands in the path that it is cut out of. -/
theorem infix_of_mem_splitPath {special : Bool} {path segment : List Char}
    (h : segment ∈ splitPath special path) (hslash : '/' ∉ segment) : segment <:+: path := by
  obtain ⟨x, y, hxy⟩ := @Text.infix_unsplit '/' _ _ h
  rw [splitPath, Text.unsplit_split] at hxy
  obtain ⟨path₁, after, rfl, hpath₁, rfl⟩ := List.map_eq_append_iff.1 hxy.symm
  obtain ⟨before, part, rfl, rfl, rfl⟩ := List.map_eq_append_iff.1 hpath₁
  -- no character of it was a slash before
  have hpart : part.map (fun c => if isSlash special c then '/' else c) = part := by
    refine (List.map_congr_left fun c hc => ?_).trans (List.map_id part)
    have hc' : (if isSlash special c then '/' else c) ≠ '/' :=
      fun h => hslash (List.mem_map.2 ⟨c, hc, h⟩)
    split at hc'
    · exact absurd rfl hc'
    · rename_i hc
      exact if_neg hc
  rw [hpart]
  exact ⟨before, after, rfl⟩

end Url

namespace Vetting

variable {p : Policy} {base : Option String} {address raw : String}

/-- Two dots of a segment stand in the text. -/
theorem hasClimb_of_hasParentSegment (hunbroken : Url.Unbroken address)
    (h : Url.HasParentSegment address) : hasClimb address = true := by
  obtain ⟨segment, hsegment, hup⟩ := h
  obtain ⟨a, ha, b, hb, hab⟩ := Url.isDoubleDot_iff.1 hup
  have hclimb : String.ofList (a ++ b) ∈ climbs := by
    simp only [Url.spelledDots, List.mem_cons, List.not_mem_nil, or_false] at ha hb
    rcases ha with rfl | rfl <;> rcases hb with rfl | rfl <;> decide
  have hslash : '/' ∉ segment := fun h =>
    absurd (Url.toLower_of_isDoubleDot hup _ h) (by decide)
  have hinfix : segment <:+: address.toList :=
    ((Url.infix_of_mem_splitPath hsegment hslash).trans
      (List.takeWhile_prefix _).isInfix).trans (Url.infix_cleaned hunbroken)
  exact hasClimb_iff.2 ⟨segment, hinfix, hab ▸ hclimb⟩

/-! ## What a policy may allow -/

/-- An address can be read, names a host, and has a scheme that schemas may
be loaded by. -/
def Loadable (raw : String) : Prop :=
  ∃ u, Url.parse none (Text.trimmed raw) = .ok u ∧
    (u.scheme = "https" ∨ u.scheme = "http") ∧ u.host.isSome = true

/-- A refused address is refused as such. -/
theorem kind_of_checkAddress {v : Violation} (h : checkAddress p raw = .error v) :
    v.kind = .urlRejected := by
  unfold checkAddress at h
  split at h
  · cases h
    rfl
  · split at h
    · cases h
      rfl
    · cases h

/-- The policy for work on one machine allows every host. -/
theorem hostProblem?_development (host : Url.Host) :
    hostProblem? .development (some host) = none := by
  have hranges : ∀ text isLoopback isPrivate,
      rangeProblem? .development text isLoopback isPrivate = none := fun _ _ _ => rfl
  have hlist : ∀ host allows, allowlistProblem? .development host allows = none := fun _ _ => rfl
  cases host with
  | name name =>
    have hblock : Policy.development.blockLocalhost = false := rfl
    simp [hostProblem?, nameProblem?, hlist, hblock]
  | ipv4 x => simp [hostProblem?, ipv4Problem?, hranges, hlist]
  | ipv6 x =>
    cases hx : x.mapped? with
    | none => simp [hostProblem?, ipv6Problem?, hx, hranges, hlist]
    | some y => simp [hostProblem?, ipv6Problem?, ipv4Problem?, hx, hranges, hlist]

/-- Some policy allows an address exactly if schemas may be loaded by it
and there are no two dots in it; the policy for work on one machine is
one. -/
theorem exists_checkAddress_iff :
    (∃ p u, checkAddress p raw = .ok u) ↔ Loadable raw ∧ hasClimb raw = false := by
  constructor
  · rintro ⟨p, u, h⟩
    obtain ⟨hparse, hproblem⟩ := checkAddress_eq_ok.1 h
    obtain ⟨hscheme, hclimb, hhost⟩ := addressProblem?_eq_none.1 hproblem
    refine ⟨⟨u, hparse, (schemeProblem?_eq_none.1 hscheme).imp_right And.left, ?_⟩, hclimb⟩
    · cases hu : u.host with
      | none => simp [hu, hostProblem?] at hhost
      | some host => rfl
  · rintro ⟨⟨u, hparse, hscheme, hhost⟩, hclimb⟩
    have hallowed : schemeProblem? .development u.scheme = none :=
      schemeProblem?_eq_none.2 (hscheme.imp_right fun h => ⟨h, rfl⟩)
    have hanyHost : hostProblem? .development u.host = none := by
      obtain ⟨host, hhost⟩ := Option.isSome_iff_exists.1 hhost
      rw [hhost]
      exact hostProblem?_development host
    exact ⟨.development, u,
      checkAddress_eq_ok.2 ⟨hparse, addressProblem?_eq_none.2 ⟨hallowed, hclimb, hanyHost⟩⟩⟩

/-! ## Refused addresses -/

/-- **An address is refused** under a base: whatever the policy, loading it
ends in a violation before the source is asked and leaves everything as it
was, and no document that extends it passes. -/
structure Refused (base : Option String) (address : String) : Prop where
  load : ∀ p source shelf, ∃ v : Violation, v.kind = .urlRejected ∧
    Schema.load p source base address shelf = (.error (.security v), shelf)
  document : ∀ p doc, .string address ∈ (doc.branch? "extends").getD [] →
    ∃ v, checkDocument p base doc = .error v

/-- A document that passes extends only addresses that pass. -/
theorem checkExtension_of_checkDocument {doc : Value} (h : checkDocument p base doc = .ok ())
    (haddress : .string address ∈ (doc.branch? "extends").getD []) :
    checkExtension p base address = .ok () := by
  unfold checkDocument at h
  obtain ⟨-, h⟩ := Outcome.andThen_eq_ok.1 h
  split at h
  · cases h
  · obtain ⟨-, h⟩ := Outcome.andThen_eq_ok.1 h
    obtain ⟨-, h⟩ := Outcome.andThen_eq_ok.1 h
    exact Outcome.forM_eq_ok.1 h address (List.mem_filterMap.2 ⟨_, haddress, rfl⟩)

/-- An address is refused exactly if no policy allows it as it is meant. -/
theorem refused_iff :
    Refused base address ↔
      (Loadable (Url.resolved base address) → hasClimb (Url.resolved base address) = true) := by
  constructor
  · intro h hloadable
    by_contra hclimb
    obtain ⟨p, u, hu⟩ := exists_checkAddress_iff.2 ⟨hloadable, Bool.eq_false_iff.2 hclimb⟩
    -- with nothing in the cache the source is asked
    obtain ⟨v, -, hv⟩ := h.load p (fun _ => .error "") (.start 0 0)
    unfold Schema.load at hv
    rw [hu] at hv
    cases hv
  · intro h
    have hrefused : ∀ p, ∃ v, checkAddress p (Url.resolved base address) = .error v := by
      intro p
      cases hu : checkAddress p (Url.resolved base address) with
      | error v => exact ⟨v, rfl⟩
      | ok u =>
        obtain ⟨hloadable, hclimb⟩ := exists_checkAddress_iff.1 ⟨p, u, hu⟩
        exact absurd (h hloadable) (by simp [hclimb])
    refine ⟨?_, ?_⟩
    · intro p source shelf
      obtain ⟨v, hv⟩ := hrefused p
      exact ⟨v, kind_of_checkAddress hv, by rw [Schema.load, hv]⟩
    · intro p doc haddress
      obtain ⟨v, hv⟩ := hrefused p
      cases hdoc : checkDocument p base doc with
      | error v => exact ⟨v, rfl⟩
      | ok =>
        obtain ⟨u, hu⟩ := checkExtension_eq_ok.1 (checkExtension_of_checkDocument hdoc haddress)
        rw [hv] at hu
        cases hu

/-- **Which addresses are refused.** Those that no schema may be loaded by,
or that have two dots in the text that is read in the end. An address with
a segment that goes up is one if it is not joined to the base, unless tabs
or line ends break the segment; an address that is joined has no such
segment any more. -/
theorem refused_parentSegment (base : Option String) (address : String) :
    (Refused base address ↔
      (Loadable (Url.resolved base address) → hasClimb (Url.resolved base address) = true)) ∧
    (Url.joined? base address = none → Url.HasParentSegment address → Url.Unbroken address →
      Refused base address) ∧
    ∀ u, Url.joined? base address = some u →
      Url.resolved base address = u.text ∧ u.IsLevel := by
  refine ⟨refused_iff, ?_, ?_⟩
  · intro hjoined hup hunbroken
    rw [refused_iff, Url.resolved_eq, hjoined]
    exact fun _ => hasClimb_of_hasParentSegment hunbroken hup
  · intro u hu
    exact ⟨by rw [Url.resolved_eq, hu]; rfl, Url.isLevel_of_joined? hu⟩

/-- The base of an address. -/
def sampleBase : String := "https://[1::2]/a/b.json"

/-- A source that has one schema, a directory above the base. -/
def aboveSource : Schema.Source := fun url =>
  if url = "https://[1::2]/c.json" then
    .ok (.object (Table.ofList [("instructionTypes", .object .nil)]))
  else .error "not found"

/-- A document that extends the schema. -/
def climbingDocument : Value :=
  .object (Table.ofList [
    ("version", .string "1"),
    ("extends", .array [.string "../c.json"]),
    ("content", .array [])])

/-- A segment that goes up is loaded under the strictest policy, because it
is gone when the address is joined, and a document that extends it
passes. -/
theorem joined_parentSegment_loads :
    let loaded := Schema.load .strict aboveSource (some sampleBase) "../c.json" (.start 3600 0)
    Url.HasParentSegment "../c.json" ∧
      loaded.1.toOption.isSome = true ∧ loaded.2.fetched = ["https://[1::2]/c.json"] ∧
      checkDocument .strict (some sampleBase) climbingDocument = .ok () ∧
      ¬ Refused (some sampleBase) "../c.json" := by
  have hloaded : (Schema.load .strict aboveSource (some sampleBase) "../c.json"
      (.start 3600 0)).1.toOption.isSome = true := by
    decide +kernel
  have hextension : checkExtension .strict (some sampleBase) "../c.json" = .ok () := by
    decide +kernel
  have hdocument : checkDocument .strict (some sampleBase) climbingDocument = .ok () := by
    unfold checkDocument
    refine Outcome.andThen_eq_ok.2 ⟨by cbv, ?_⟩
    rw [if_neg (by decide)]
    refine Outcome.andThen_eq_ok.2 ⟨by cbv, Outcome.andThen_eq_ok.2 ⟨by cbv, ?_⟩⟩
    have hextends : ((climbingDocument.branch? "extends").getD []).filterMap Value.string? =
        ["../c.json"] := by decide
    rw [hextends, Outcome.forM_eq_ok]
    simpa using hextension
  refine ⟨⟨['.', '.'], by decide, by decide⟩, hloaded, by decide +kernel, hdocument, ?_⟩
  intro h
  obtain ⟨v, -, hv⟩ := h.load .strict aboveSource (.start 3600 0)
  rw [hv] at hloaded
  cases hloaded

end Vetting

end PromptTemplate
