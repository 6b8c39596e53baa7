import PromptTemplate.Proofs.Interpolation.Scan
import PromptTemplate.Proofs.Path.Grammar
/-!
# PromptTemplate — which paths can stand in a reference

A reference goes up to the first closing brace, whatever is open there. Of
a path without braces nothing is cut, so that the reference to it has the
value of the path. But a key in quotes may hold a brace, and then the
reference is cut inside of the key. What is left is no path: a path within
another one ends where a part of it ends, or inside a name
(`Path.Spells.within`), and neither is in front of a brace.

So just the paths without a closing brace can be interpolated, and a
reference to another one always fails: `interpolable_iff`.
-/

namespace PromptTemplate

/-! ## Paths within paths -/

namespace Path

open Condition (EndsRun)

variable {cs tail : List Char}

/-- Parts do not go on with the name in front of them, whatever stands behind
them. -/
theorem Spells.endsRun_append {parts : List Part} (h : Spells parts cs) (hne : cs ≠ []) :
    EndsRun isNameChar (cs ++ tail) := by
  intro c hc
  cases h with
  | nil => exact absurd rfl hne
  | name => cases hc; decide
  | index => cases hc; decide

/-- **A path within a path** ends where a part ends, or inside a name. -/
theorem Spells.within {parts parts' : List Part} (h : Spells parts cs)
    (h' : Spells parts' (cs ++ tail)) :
    ∃ (name rest : List Char) (more : List Part), tail = name ++ rest ∧
      (∀ c ∈ name, isNameChar c = true) ∧ Spells more rest := by
  induction h generalizing parts' with
  | nil => exact ⟨[], tail, parts', rfl, by simp, h'⟩
  | @name x parts rest hrest ih =>
    rw [List.cons_append, List.append_assoc] at h'
    obtain ⟨y, more, rest', -, hcs, hrest'⟩ := h'.behind_point
    by_cases hne : rest = []
    · -- the path ends in this name, which may go on in the other one
      subst hne
      rw [List.nil_append] at hcs
      rcases List.append_eq_append_iff.1 hcs with ⟨name, hy, rfl⟩ | ⟨name, hx, rfl⟩
      · refine ⟨name, rest', more, rfl, fun c hc => y.proper c ?_, hrest'⟩
        rw [hy]
        exact List.mem_append_right _ hc
      · cases name with
        | nil => exact ⟨[], _, more, rfl, by simp, hrest'⟩
        | cons c name =>
          have hstops := hrest'.endsRun c rfl
          rw [x.proper c (by rw [hx]; simp)] at hstops
          cases hstops
    · obtain ⟨-, hsame⟩ := Name.eq_of_append (hrest.endsRun_append hne) hrest'.endsRun hcs
      exact ih (hsame ▸ hrest')
  | @index i parts inner rest hinside hrest ih =>
    rw [List.cons_append, List.append_assoc, List.cons_append] at h'
    obtain ⟨j, more, inner', rest', -, hsplit, -, hrest'⟩ := h'.behind_bracket
    rw [splitBracket_of_closed (Index.closed_around hinside), Option.some.injEq,
      Prod.mk.injEq] at hsplit
    exact ih (hsplit.2 ▸ hrest')

/-- A path is what stands behind the point of a part. -/
theorem Tree.Spells.behind_point {t : Tree} (h : t.Spells cs) :
    Path.Spells (.name t.root :: t.parts) ('.' :: cs) := by
  obtain ⟨rest, hrest, rfl⟩ := h
  exact .name hrest

/-- **A path that is cut at a brace is none,** also without the blanks in
front of the brace. -/
theorem Tree.not_spells_cut {t u : Tree} {after : List Char}
    (h : t.Spells (Text.trim (cs ++ '\x7d' :: after))) : ¬ u.Spells (Text.trim cs) := by
  intro hcut
  obtain ⟨blanks, hblanks, hstart⟩ := Text.exists_trimStart cs
  rw [Text.trim_append_cons (by decide), hstart, List.append_assoc] at h
  have hwhole : Path.Spells (.name t.root :: t.parts)
      ('.' :: Text.trim cs ++ (blanks ++ '\x7d' :: Text.trimEnd after)) := h.behind_point
  obtain ⟨name, rest, more, htail, hname, hrest⟩ := hcut.behind_point.within hwhole
  -- no part of a path begins with a brace or a blank
  have hbrace : ∀ r, ¬ Path.Spells more ('\x7d' :: r) := by
    rintro r ⟨⟩
  have hblank : ∀ c r, Text.isBlank c = true → ¬ Path.Spells more (c :: r) := by
    rintro c r hc ⟨⟩
    · exact absurd hc (by decide)
    · exact absurd hc (by decide)
  rcases List.append_eq_append_iff.1 htail with ⟨z, rfl, hz⟩ | ⟨z, rfl, rfl⟩
  · cases z with
    | nil =>
      rw [List.nil_append] at hz
      exact hbrace _ (hz ▸ hrest)
    | cons c z =>
      obtain ⟨rfl, -⟩ := List.cons.inj hz
      exact absurd (hname '\x7d' (by simp)) (by decide)
  · cases z with
    | nil => exact hbrace _ hrest
    | cons c z => exact hblank c _ (hblanks c (by simp)) hrest

/-- The blanks around a path are no part of it. -/
theorem resolve_trim (vars : Table Value) (path : String) :
    resolve vars (String.ofList (Text.trim path.toList)) = resolve vars path := by
  rw [resolve, resolve, parse, parse, String.toList_ofList, Text.trim_trim]

/-- What leads to a value is a path. -/
theorem exists_spells_of_resolve {vars : Table Value} {path : String} {v : Value}
    (h : resolve vars path = .ok v) : ∃ t : Tree, t.Spells (Text.trim path.toList) := by
  unfold resolve at h
  split at h
  · cases h
  · rename_i hparse
    obtain ⟨t, ht, -⟩ := parse_eq_ok_iff.1 hparse
    exact ⟨t, ht⟩

/-- A path is not blank. -/
theorem Tree.Spells.ne_nil {t : Tree} (h : t.Spells cs) : cs ≠ [] := by
  obtain ⟨rest, -, rfl⟩ := h
  simp [t.root.nonempty]

end Path

/-! ## References -/

namespace Interpolation

open Text (trim)

variable {vars : Table Value} {path : String} {steps : List Path.Step}

/-- The reference to a path. -/
def reference (path : String) : String := String.ofList (opening ++ path.toList ++ closing)

/-- A path can be interpolated: the reference to it has a text exactly if the
path leads to a value, and then it is the text of that value. -/
def Interpolable (vars : Table Value) (path : String) : Prop :=
  ∀ t, substituteText vars (reference path) = .ok t ↔
    ∃ v, Path.resolve vars path = .ok v ∧ t = render v

theorem lookUp_eq_ok {v : Value} : lookUp vars path = .ok v ↔ Path.resolve vars path = .ok v := by
  unfold lookUp
  cases Path.resolve vars path <;> simp

/-- Without a closing brace, a path is interpolated. -/
theorem interpolable_of_not_mem (h : Path.parse path = .ok steps) (hbrace : '\x7d' ∉ path.toList) :
    Interpolable vars path := by
  intro t
  obtain ⟨tree, htree, -⟩ := Path.parse_eq_ok_iff.1 h
  have hsegments : segments (reference path) =
      .ok [.reference (String.ofList (trim path.toList))] := by
    have hreference := @segmentsOf_reference _ [] hbrace htree.ne_nil
    rw [List.append_nil, segmentsOf_nil] at hreference
    rw [segments, reference, String.toList_ofList, hreference]
    rfl
  rw [substituteText, substituteWith_eq_ok]
  constructor
  · rintro ⟨ss, hss, hfill⟩
    rw [hsegments] at hss
    cases hss
    obtain ⟨v, text, after, hv, htext, hafter, rfl⟩ := fill_reference.1 hfill
    cases htext
    cases hafter
    rw [lookUp_eq_ok, Path.resolve_trim] at hv
    exact ⟨v, hv, String.append_empty⟩
  · rintro ⟨v, hv, rfl⟩
    refine ⟨_, hsegments, fill_reference.2 ⟨v, render v, "", ?_, rfl, rfl, ?_⟩⟩
    · rwa [lookUp_eq_ok, Path.resolve_trim]
    · exact String.append_empty.symm

/-- With a closing brace, the reference to a path fails. -/
theorem exists_error_of_mem (vars : Table Value) (h : Path.parse path = .ok steps)
    (hbrace : '\x7d' ∈ path.toList) :
    ∃ why, substituteText vars (reference path) = .error why := by
  cases hresult : substituteText vars (reference path) with
  | error why => exact ⟨why, rfl⟩
  | ok t =>
    exfalso
    obtain ⟨inside, after, hpath, hunclosed⟩ := List.eq_append_cons_of_mem hbrace
    have hreference : (reference path).toList =
        opening ++ inside ++ closing ++ (after ++ closing) := by
      rw [reference, String.toList_ofList, hpath]
      simp [closing]
    obtain ⟨ss, hss, hfill⟩ := substituteWith_eq_ok.1 hresult
    rw [segments, hreference] at hss
    by_cases hblank : trim inside = []
    · rw [List.append_assoc opening, List.append_assoc opening,
        segmentsOf_breaks (.empty hunclosed (Text.trim_eq_nil.1 hblank))] at hss
      cases hss
    · rw [segmentsOf_reference hunclosed hblank] at hss
      obtain ⟨rest, -, rfl⟩ := Outcome.map_eq_ok.1 hss
      obtain ⟨v, text, more, hv, -, -, -⟩ := fill_reference.1 hfill
      obtain ⟨u, hu⟩ := Path.exists_spells_of_resolve (lookUp_eq_ok.1 hv)
      obtain ⟨tree, htree, -⟩ := Path.parse_eq_ok_iff.1 h
      rw [String.toList_ofList, Text.trim_trim] at hu
      rw [hpath] at htree
      exact Path.Tree.not_spells_cut htree hu

/-- **Which paths can be interpolated.** A path without a closing brace can,
under all variables. The reference to a path with a closing brace always
fails. So such a path can be interpolated only where it leads to nothing
itself. -/
theorem interpolable_iff (h : Path.parse path = .ok steps) (vars : Table Value) :
    ('\x7d' ∉ path.toList → Interpolable vars path) ∧
    ('\x7d' ∈ path.toList → ∃ why, substituteText vars (reference path) = .error why) ∧
    (Interpolable vars path ↔
      ('\x7d' ∈ path.toList → ∃ why, Path.resolve vars path = .error why)) := by
  refine ⟨interpolable_of_not_mem h, exists_error_of_mem vars h, fun hall hbrace => ?_,
    fun hfails => ?_⟩
  · obtain ⟨why, hwhy⟩ := exists_error_of_mem vars h hbrace
    cases hresolve : Path.resolve vars path with
    | error why => exact ⟨why, rfl⟩
    | ok v =>
      have ht := (hall (render v)).2 ⟨v, hresolve, rfl⟩
      rw [hwhy] at ht
      cases ht
  · by_cases hbrace : '\x7d' ∈ path.toList
    · intro t
      obtain ⟨why, hwhy⟩ := exists_error_of_mem vars h hbrace
      obtain ⟨failure, hfailure⟩ := hfails hbrace
      rw [hwhy, hfailure]
      refine iff_of_false (by simp) ?_
      rintro ⟨v, hv, -⟩
      cases hv
    · exact interpolable_of_not_mem h hbrace

/-- The path `a['}']`. -/
def bracePath : Path.Tree :=
  ⟨Path.sampleName, [.index (.key .single ['\x7d'] (by decide) (by decide))]⟩

theorem spells_bracePath : bracePath.Spells (trim "a['\x7d']".toList) :=
  ⟨"['\x7d']".toList, .index (show trim "'\x7d'".toList = _ by decide) .nil, by decide⟩

theorem parse_bracePath :
    Path.parse "a['\x7d']" = .ok [.property "a", .property "\x7d"] :=
  Path.parse_eq_ok_iff.2 ⟨bracePath, spells_bracePath, by decide⟩

/-- Variables in which a name has a brace. -/
def braceVars : Table Value :=
  Table.ofList [("a", .object (Table.ofList [("\x7d", .string "x")]))]

theorem resolve_bracePath : Path.resolve braceVars "a['\x7d']" = .ok (.string "x") := by
  rw [Path.resolve, parse_bracePath]
  rfl

/-- Not every path can be interpolated: here one leads to a value, and the
reference to it fails. -/
theorem not_interpolable_bracePath :
    ¬ ∀ (path : String) (steps : List Path.Step), Path.parse path = .ok steps →
      ∀ vars, Interpolable vars path := by
  intro hall
  have ht := (hall _ _ parse_bracePath braceVars "x").2 ⟨_, resolve_bracePath, rfl⟩
  obtain ⟨why, hwhy⟩ := exists_error_of_mem braceVars parse_bracePath (by decide)
  rw [hwhy] at ht
  cases ht

/-- The path can be interpolated where there is no such name, and not where
there is one. -/
theorem interpolable_bracePath_iff :
    Path.parse "a['\x7d']" = .ok [.property "a", .property "\x7d"] ∧
      Interpolable .empty "a['\x7d']" ∧ ¬ Interpolable braceVars "a['\x7d']" := by
  have hbrace : '\x7d' ∈ "a['\x7d']".toList := by decide
  refine ⟨parse_bracePath, (interpolable_iff parse_bracePath .empty).2.2.2 fun _ => ?_, fun h => ?_⟩
  · rw [Path.resolve, parse_bracePath]
    exact ⟨_, rfl⟩
  · obtain ⟨why, hwhy⟩ := (interpolable_iff parse_bracePath braceVars).2.2.1 h hbrace
    rw [resolve_bracePath] at hwhy
    cases hwhy

end Interpolation

end PromptTemplate
