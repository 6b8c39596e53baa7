import PromptTemplate.Proofs.Text.Lowercase
import PromptTemplate.Proofs.Text.Split
import PromptTemplate.Proofs.Url.Authority
import PromptTemplate.Proofs.Url.Blocks
import PromptTemplate.Vetting.Address
/-!
# PromptTemplate — which addresses a policy allows

An address passes if nothing is found wrong with it. `Allowed` says what
that comes to, rule by rule: its scheme, two dots in the text as written,
and its host. Host names are compared label by label, so an entry of an
allow-list covers the names under it and no others; addresses of machines
are numbers, and the blocks that a policy refuses are ranges of them.

The rules are independent of one another, and together they are all there
is: `checkAddress_iff_allowed`. That an address has a host at all is no
rule, since every address with one of the two schemes has one.
-/

namespace PromptTemplate

namespace Vetting

variable {p : Policy} {raw : String} {u : Url}

/-! ## The rules -/

/-- The labels of a host name. -/
def labels (name : String) : List (List Char) := Text.split '.' name.toList

/-- A host name is without its dots at the end. -/
def IsBare (bare name : String) : Prop :=
  bare.toList.getLast? ≠ some '.' ∧ ∃ n, name.toList = bare.toList ++ List.replicate n '.'

/-- A host name is that of the machine itself, or lies under it. -/
def IsLocal (name : String) : Prop :=
  name ∈ ["localhost", "localhost.localdomain", "ip6-localhost"] ∨
    ∃ front, front ≠ [] ∧ labels name = front ++ ["localhost".toList]

/-- Where there is an allow-list, some entry in normal form passes a
test. -/
def Listed (p : Policy) (test : String → Prop) : Prop :=
  ∀ entries, p.normalizedAllowlist = some entries → ∃ entry ∈ entries, test entry

/-- **The rules for a host name** in small letters and without dots at the
end. -/
structure NameAllowed (p : Policy) (name : String) : Prop where
  notLocal : p.blockLocalhost = true → ¬ IsLocal name
  listed : Listed p fun entry => labels entry <:+ labels name

/-- **The ranges for an address of version four.** -/
structure Ipv4Allowed (p : Policy) (x : Url.Ipv4) : Prop where
  notLocal : p.blockLocalhost = true → x.value ≠ 0 ∧ ¬ x.IsIn ⟨127, 0, 0, 0⟩ 8
  notPrivate : p.blockPrivateNetworks = true → ¬ x.IsIn ⟨10, 0, 0, 0⟩ 8 ∧
    ¬ x.IsIn ⟨172, 16, 0, 0⟩ 12 ∧ ¬ x.IsIn ⟨192, 168, 0, 0⟩ 16 ∧ ¬ x.IsIn ⟨169, 254, 0, 0⟩ 16

/-- **The ranges for an address of version six:** a mapped one is judged as
the address that it maps. -/
structure Ipv6Allowed (p : Policy) (x : Url.Ipv6) : Prop where
  mapped : ∀ y, x.Maps y → Ipv4Allowed p y
  notLocal : (∀ y, ¬ x.Maps y) → p.blockLocalhost = true → x.value ≠ 0 ∧ x.value ≠ 1
  notPrivate : (∀ y, ¬ x.Maps y) → p.blockPrivateNetworks = true →
    ¬ x.IsIn 0xfc00 7 ∧ ¬ x.IsIn 0xfe80 10

/-- **The rules for a host.** The text of an address of a machine is listed
as it is written, also that of a mapped one. -/
def HostAllowed (p : Policy) : Url.Host → Prop
  | .name name => ∃ bare, IsBare bare name ∧ NameAllowed p (Text.lowercase bare)
  | .ipv4 x => Ipv4Allowed p x ∧ Listed p (· = x.text)
  | .ipv6 x => Ipv6Allowed p x ∧ Listed p (· = x.text)

/-- **The rules for an address** that is read from a text. Its letters are
compared without regard to case; only those of ASCII matter. -/
structure Allowed (p : Policy) (raw : String) (u : Url) : Prop where
  scheme : u.scheme = "https" ∨ u.scheme = "http" ∧ p.allowHttp = true
  level : ∀ part, part <:+: raw.toList →
    String.ofList (part.map Char.toLower) ∉ ["..", "%2e%2e", ".%2e", "%2e."]
  host : ∀ host, u.host = some host → HostAllowed p host

/-! ## Scheme and path -/

/-- No scheme that is allowed is among those that are always denied. -/
theorem schemeProblem?_eq_none {scheme : String} :
    schemeProblem? p scheme = none ↔
      scheme = "https" ∨ scheme = "http" ∧ p.allowHttp = true := by
  unfold schemeProblem?
  by_cases hdenied : deniedSchemes.contains scheme = true
  · rw [if_pos hdenied]
    refine iff_of_false (by simp) ?_
    rintro (rfl | ⟨rfl, -⟩) <;> exact absurd hdenied (by decide)
  · rw [if_neg hdenied]
    by_cases hallowed : scheme = "https" ∨ (p.allowHttp = true ∧ scheme = "http")
    · rw [if_pos hallowed]
      exact iff_of_true rfl (hallowed.imp_right And.symm)
    · rw [if_neg hallowed]
      refine iff_of_false ?_ fun h => hallowed (h.imp_right And.symm)
      split <;> simp

/-- **Two dots stand in an address** if a part of it has a way to write them
as its small letters. -/
theorem hasClimb_iff :
    hasClimb raw = true ↔
      ∃ part, part <:+: raw.toList ∧ String.ofList (part.map Char.toLower) ∈ climbs := by
  have hplain : ∀ climb ∈ climbs, ∀ d ∈ climb.toList, Text.IsPlain d := by
    simp [climbs, Text.IsPlain]
  have hoccurs {climb : String} (hclimb : climb ∈ climbs) :
      Text.contains (Text.lowercase raw) climb = true ↔
        ∃ part, part <:+: raw.toList ∧ part.map Char.toLower = climb.toList := by
    rw [Text.contains, Text.lowercase, String.toList_ofList]
    exact Text.occurs_lowercaseFrom_iff (hplain climb hclimb)
  unfold hasClimb
  rw [List.any_eq_true]
  constructor
  · rintro ⟨climb, hclimb, h⟩
    obtain ⟨part, hpart, hmap⟩ := (hoccurs hclimb).1 h
    refine ⟨part, hpart, ?_⟩
    rwa [hmap, String.ofList_toList]
  · rintro ⟨part, hpart, hmem⟩
    exact ⟨_, hmem, (hoccurs hmem).2 ⟨part, hpart, by rw [String.toList_ofList]⟩⟩

/-! ## Host names -/

/-- To be without dots at the end is to be what is left when they are
dropped. -/
theorem isBare_iff {bare name : String} :
    IsBare bare name ↔
      String.ofList (name.toList.reverse.dropWhile (· == '.')).reverse = bare := by
  constructor
  · rintro ⟨hlast, n, hname⟩
    have hkept : bare.toList.reverse.dropWhile (· == '.') = bare.toList.reverse := by
      rw [← List.head?_reverse] at hlast
      cases hbare : bare.toList.reverse with
      | nil => rfl
      | cons c rest =>
        rw [hbare, List.head?_cons] at hlast
        exact List.dropWhile_cons_of_neg (by simpa using hlast)
    rw [hname, List.reverse_append, List.reverse_replicate,
      List.dropWhile_append_of_pos (by simp), hkept, List.reverse_reverse, String.ofList_toList]
  · rintro rfl
    rw [IsBare, String.toList_ofList, List.getLast?_reverse]
    constructor
    · intro hdot
      have hhead := List.head?_dropWhile_not (· == '.') name.toList.reverse
      rw [hdot] at hhead
      exact absurd hhead (by simp)
    · have hdots : name.toList.reverse.takeWhile (· == '.') =
          List.replicate (name.toList.reverse.takeWhile (· == '.')).length '.' := by
        refine List.eq_replicate_of_mem fun c hc => ?_
        simpa using List.all_eq_true.1 List.all_takeWhile c hc
      refine ⟨(name.toList.reverse.takeWhile (· == '.')).length, ?_⟩
      rw [← List.reverse_replicate, ← hdots, ← List.reverse_append,
        List.takeWhile_append_dropWhile, List.reverse_reverse]

/-- A name lies under an entry if the labels of that are its last ones. -/
theorem liesUnder_iff {domain entry : String} :
    liesUnder domain entry = true ↔ labels entry <:+ labels domain := by
  rw [labels, labels, Text.split_suffix_iff, liesUnder, Bool.or_eq_true, beq_iff_eq,
    List.isSuffixOf_iff_suffix, String.toList_inj]

/-- A name that only ends in the letters of an entry does not. -/
example : liesUnder "www.example.com" "example.com" = true ∧
    liesUnder "badexample.com" "example.com" = false := by decide

/-- A name ends in `.localhost` if that is its last label behind others. -/
theorem isLocalName_iff {domain : String} : isLocalName domain = true ↔ IsLocal domain := by
  have hlabel : labels "localhost" = ["localhost".toList] := Text.split_of_not_mem (by simp)
  have hunder : ".localhost".toList <:+ domain.toList ↔
      ∃ front, front ≠ [] ∧ labels domain = front ++ ["localhost".toList] := by
    constructor
    · rintro ⟨before, hbefore⟩
      refine ⟨Text.split '.' before, Text.split_ne_nil '.' before, ?_⟩
      rw [labels, ← hbefore, ← hlabel, labels, ← Text.split_append]
      simp
    · rintro ⟨front, hfront, hdomain⟩
      refine ⟨Text.unsplit '.' front, ?_⟩
      rw [← Text.unsplit_split '.' domain.toList, ← labels, hdomain,
        Text.unsplit_append hfront (by simp)]
      simp [Text.unsplit]
  rw [isLocalName, Bool.or_eq_true, List.contains_iff_mem, List.isSuffixOf_iff_suffix, hunder,
    IsLocal, localNames]

/-- Nothing is wrong with the allow-list if there is none, or an entry
allows the host. -/
theorem allowlistProblem?_eq_none {host : String} {allows : String → Bool} :
    allowlistProblem? p host allows = none ↔ Listed p fun entry => allows entry = true := by
  unfold allowlistProblem? Listed
  cases p.normalizedAllowlist with
  | none => simp
  | some entries => by_cases h : entries.any allows = true <;> simp_all

theorem nameProblem?_eq_none {name : String} :
    nameProblem? p name = none ↔ HostAllowed p (.name name) := by
  have hbare (P : String → Prop) :
      (∃ bare, IsBare bare name ∧ P (Text.lowercase bare)) ↔ P (comparedName name) := by
    simp [isBare_iff, comparedName]
  rw [HostAllowed, hbare, nameProblem?]
  by_cases hlocal : p.blockLocalhost = true ∧ IsLocal (comparedName name)
  · rw [if_pos (by rw [Bool.and_eq_true, isLocalName_iff]; exact hlocal)]
    exact iff_of_false (by simp) fun h => h.notLocal hlocal.1 hlocal.2
  · rw [if_neg (by rw [Bool.and_eq_true, isLocalName_iff]; exact hlocal),
      allowlistProblem?_eq_none]
    simp only [liesUnder_iff]
    constructor
    · intro h
      exact ⟨fun hblock hname => hlocal ⟨hblock, hname⟩, h⟩
    · intro h
      exact h.listed

/-! ## Addresses of machines -/

/-- Nothing is wrong with the ranges of an address in none of those that
the policy refuses. -/
theorem rangeProblem?_eq_none {text : String} {isLoopback isPrivate : Bool} :
    rangeProblem? p text isLoopback isPrivate = none ↔
      (p.blockLocalhost = true → isLoopback = false) ∧
        (p.blockPrivateNetworks = true → isPrivate = false) := by
  unfold rangeProblem?
  cases p.blockLocalhost <;> cases p.blockPrivateNetworks <;> cases isLoopback <;>
    cases isPrivate <;> simp

theorem ipv4Problem?_eq_none {x : Url.Ipv4} : ipv4Problem? p x = none ↔ Ipv4Allowed p x := by
  rw [ipv4Problem?, rangeProblem?_eq_none]
  simp only [← Bool.not_eq_true, x.isLoopback_iff, x.isPrivate_iff, not_or]
  constructor
  · rintro ⟨hlocal, hprivate⟩
    exact ⟨fun h => (hlocal h).symm, hprivate⟩
  · rintro ⟨hlocal, hprivate⟩
    exact ⟨fun h => (hlocal h).symm, hprivate⟩

theorem ipv6Problem?_eq_none {x : Url.Ipv6} : ipv6Problem? p x = none ↔ Ipv6Allowed p x := by
  unfold ipv6Problem?
  cases hmapped : x.mapped? with
  | some y =>
    have hmaps (z : Url.Ipv4) : x.Maps z ↔ y = z := by
      rw [← x.mapped?_eq_some, hmapped, Option.some.injEq]
    dsimp only
    rw [ipv4Problem?_eq_none]
    constructor
    · intro h
      refine ⟨fun z hz => (hmaps z).1 hz ▸ h, fun hnone => ?_, fun hnone => ?_⟩
      · exact absurd ((hmaps y).2 rfl) (hnone y)
      · exact absurd ((hmaps y).2 rfl) (hnone y)
    · intro h
      exact h.mapped y ((hmaps y).2 rfl)
  | none =>
    have hnone (y : Url.Ipv4) : ¬ x.Maps y := by
      rw [← x.mapped?_eq_some, hmapped]
      simp
    dsimp only
    rw [rangeProblem?_eq_none]
    simp only [← Bool.not_eq_true, x.isLoopback_iff, x.isPrivate_iff, not_or]
    constructor
    · rintro ⟨hlocal, hprivate⟩
      exact ⟨fun y hy => absurd hy (hnone y), fun _ h => (hlocal h).symm, fun _ => hprivate⟩
    · intro h
      exact ⟨fun hblock => (h.notLocal hnone hblock).symm, h.notPrivate hnone⟩

/-! ## Addresses -/

/-- Nothing is wrong with a host that the rules allow. -/
theorem hostProblem?_eq_none {host : Url.Host} :
    hostProblem? p (some host) = none ↔ HostAllowed p host := by
  cases host with
  | name name => exact nameProblem?_eq_none
  | ipv4 x =>
    simp only [hostProblem?, HostAllowed, Option.or_eq_none_iff, ipv4Problem?_eq_none,
      allowlistProblem?_eq_none, beq_iff_eq]
  | ipv6 x =>
    simp only [hostProblem?, HostAllowed, Option.or_eq_none_iff, ipv6Problem?_eq_none,
      allowlistProblem?_eq_none, beq_iff_eq]

theorem addressProblem?_eq_none {u : Url} :
    addressProblem? p raw u = none ↔
      schemeProblem? p u.scheme = none ∧ hasClimb raw = false ∧ hostProblem? p u.host = none := by
  unfold addressProblem?
  cases schemeProblem? p u.scheme with
  | some problem => simp
  | none => cases hasClimb raw <;> simp

theorem checkAddress_eq_ok {u : Url} :
    checkAddress p raw = .ok u ↔
      Url.parse none (Text.trimmed raw) = .ok u ∧ addressProblem? p raw u = none := by
  unfold checkAddress
  cases Url.parse none (Text.trimmed raw) with
  | error defect => simp
  | ok v =>
    dsimp only
    cases h : addressProblem? p raw v with
    | some problem =>
      refine iff_of_false (by simp) ?_
      rintro ⟨hv, hnone⟩
      cases hv
      rw [h] at hnone
      cases hnone
    | none =>
      constructor
      · intro hv
        cases hv
        exact ⟨rfl, h⟩
      · rintro ⟨hv, -⟩
        cases hv
        rfl

end Vetting

end PromptTemplate
