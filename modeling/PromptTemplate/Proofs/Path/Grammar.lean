import PromptTemplate.Path.Resolve
import PromptTemplate.Proofs.Condition.Lexes
import PromptTemplate.Proofs.Outcome
import PromptTemplate.Proofs.Path.Index
/-!
# PromptTemplate — the grammar of paths

A path is a name and then any number of parts, each a name behind a point
or an index in brackets. `Tree` is a derivation of that grammar and
`Tree.Spells` says which texts it derives; blanks around an index are no
part of the tree. `parse_eq_ok_iff`: a text is read exactly if it is spelled
by a tree, and as the steps of this tree, which is the only one
(`Tree.spells_unique`).

The grammar has the regular indexes only. So reading accepts all that the
grammar derives, with the same steps, and it keeps to the grammar exactly in
the texts whose indexes are all regular: `reads_by_grammar_iff`.
-/

namespace PromptTemplate

namespace Path

open Condition (EndsRun span_of_endsRun)

/-! ## Trees -/

/-- A name: one or more of the characters of names. -/
@[ext]
structure Name where
  chars : List Char
  nonempty : chars ≠ []
  proper : ∀ c ∈ chars, isNameChar c = true

/-- A name as a string. -/
def Name.text (x : Name) : String := String.ofList x.chars

/-- What follows on the root of a path: `.name` or `[index]`. -/
inductive Part
  | name (x : Name)
  | index (i : Index)

/-- The step that a part is. -/
def Part.step : Part → Step
  | name x => .property x.text
  | index i => i.step

/-- Parts one behind another are a text. Blanks around an index do not
count. -/
inductive Spells : List Part → List Char → Prop
  | nil : Spells [] []
  | name {x : Name} {parts : List Part} {rest : List Char} (behind : Spells parts rest) :
      Spells (.name x :: parts) ('.' :: (x.chars ++ rest))
  | index {i : Index} {parts : List Part} {inner rest : List Char}
      (inside : Text.trim inner = i.chars) (behind : Spells parts rest) :
      Spells (.index i :: parts) ('[' :: (inner ++ ']' :: rest))

/-- A path: a root and what follows on it. -/
@[ext]
structure Tree where
  root : Name
  parts : List Part

namespace Tree

/-- A path is a text. -/
def Spells (t : Tree) (cs : List Char) : Prop :=
  ∃ rest, Path.Spells t.parts rest ∧ cs = t.root.chars ++ rest

/-- The steps of a path. -/
def steps (t : Tree) : List Step := .property t.root.text :: t.parts.map Part.step

/-- The grammar has the path. -/
def Regular (t : Tree) : Prop := ∀ i, .index i ∈ t.parts → i.isRegular = true

end Tree

/-- The grammar derives steps from a text. -/
def Grammatical (text : String) (steps : List Step) : Prop :=
  ∃ t : Tree, t.Regular ∧ t.Spells (Text.trim text.toList) ∧ t.steps = steps

/-! ## Paths -/

section Paths

variable {parts : List Part} {cs rest : List Char} {path : String}

/-- An index neither begins nor ends with a blank. -/
theorem Index.trim_chars (i : Index) : Text.trim i.chars = i.chars := by
  have hdigits : ∀ ds : Digits, ∀ c ∈ ds.chars, Text.isBlank c = false := fun ds c hc =>
    Bool.eq_false_iff.2 (Condition.not_isBlank_of_isNamePart
      (Condition.isNamePart_of_isDigit (ds.decimal c hc)))
  have hquote : ∀ q : Condition.Quote, Text.isBlank q.char = false := by
    rintro (_ | _) <;> decide
  cases i with
  | position negative ds _ =>
    cases negative with
    | true => exact Text.trim_of_forall (List.forall_mem_cons.2 ⟨by decide, hdigits ds⟩)
    | false => exact Text.trim_of_forall (hdigits ds)
  | plus ds _ => exact Text.trim_of_forall (List.forall_mem_cons.2 ⟨by decide, hdigits ds⟩)
  | key q cs _ _ | patched q cs _ _ => exact Text.trim_enclosed (hquote q) (hquote q)

/-- What follows on a name does not go on with it. -/
theorem Spells.endsRun (h : Spells parts cs) : EndsRun isNameChar cs := by
  intro c hc
  cases h <;> cases hc <;> decide

/-- A name is split off in front of what does not go on with it. -/
theorem Name.span (x : Name) (h : EndsRun isNameChar rest) :
    spanName (x.chars ++ rest) = (x.chars, rest) := by
  obtain ⟨htake, hdrop⟩ := span_of_endsRun h x.proper
  rw [spanName, htake, hdrop]

theorem parseSteps_of_spells (h : Spells parts cs) (position : Nat) :
    parseSteps path position cs = .ok (parts.map Part.step) := by
  induction h generalizing position with
  | nil => rw [parseSteps, List.map_nil]
  | @name x parts rest hrest ih =>
    have hne : x.chars.isEmpty = false := by simp [x.nonempty]
    simp only [parseSteps, x.span hrest.endsRun, hne, ih, Bool.false_eq_true, if_false]
    rfl
  | @index i parts inner rest hinside hrest ih =>
    have hclosed := Index.closed_around hinside
    have hstep : bracketStep path i.chars = .ok i.step :=
      (bracketStep_eq_ok_iff i.closed).2 ⟨i, rfl, rfl⟩
    rw [parseSteps]
    split
    · rename_i heq
      rw [splitBracket_of_closed hclosed] at heq
      cases heq
    · rename_i heq
      rw [splitBracket_of_closed hclosed] at heq
      cases heq
      rw [hinside, hstep, ih]
      rfl

/-- What is split off as a name is one, if it is not empty. -/
theorem exists_name (h : (spanName cs).1 ≠ []) :
    ∃ x : Name, x.chars = (spanName cs).1 ∧ cs = x.chars ++ (spanName cs).2 :=
  ⟨⟨(spanName cs).1, h, fun _ hc => List.mem_takeWhile_imp hc⟩, rfl,
    List.takeWhile_append_dropWhile.symm⟩

theorem exists_spells_of_parseSteps {position : Nat} {steps : List Step}
    (h : parseSteps path position cs = .ok steps) :
    ∃ parts, Spells parts cs ∧ parts.map Part.step = steps := by
  fun_induction parseSteps path position cs generalizing steps with
  | case1 =>
    cases h
    exact ⟨[], .nil, rfl⟩
  | case2 => cases h
  | case3 position r name rest hname =>
    rename_i ih
    obtain ⟨more, hmore, hsteps⟩ := Outcome.bind_eq_ok.1 h
    cases hsteps
    obtain ⟨parts, hparts, rfl⟩ := ih hmore
    have hne : (spanName r).1 ≠ [] := by simpa using hname
    obtain ⟨x, hx, hr⟩ := exists_name hne
    refine ⟨.name x :: parts, ?_, ?_⟩
    · rw [hr]
      exact .name hparts
    · rw [List.map_cons, Part.step, Name.text, hx]
  | case4 => cases h
  | case5 position r inner rest hsplit ih =>
    obtain ⟨step, hstep, h⟩ := Outcome.bind_eq_ok.1 h
    obtain ⟨more, hmore, hsteps⟩ := Outcome.bind_eq_ok.1 h
    cases hsteps
    obtain ⟨parts, hparts, rfl⟩ := ih hmore
    obtain ⟨rfl, hclosed⟩ := (@splitBracket_eq_some none _ _ _).1 hsplit
    obtain ⟨i, hi, rfl⟩ := (bracketStep_eq_ok_iff (closed_trim.2 hclosed)).1 hstep
    exact ⟨.index i :: parts, .index hi hparts, rfl⟩
  | case6 => cases h

/-- Behind a point stands the name that is split off there, -/
theorem Spells.behind_point (h : Spells parts ('.' :: cs)) :
    ∃ (x : Name) (more : List Part) (rest : List Char), parts = .name x :: more ∧
      cs = x.chars ++ rest ∧ Spells more rest := by
  cases h with
  | name hrest => exact ⟨_, _, _, rfl, rfl, hrest⟩

/-- and behind an opening bracket the index up to the closing one. -/
theorem Spells.behind_bracket (h : Spells parts ('[' :: cs)) :
    ∃ (i : Index) (more : List Part) (inner rest : List Char), parts = .index i :: more ∧
      splitBracket none cs = some (inner, rest) ∧ Text.trim inner = i.chars ∧
      Spells more rest := by
  cases h with
  | @index i more inner rest hinside hrest =>
    exact ⟨i, more, inner, rest, rfl, splitBracket_of_closed (Index.closed_around hinside),
      hinside, hrest⟩

/-- Two names in front of the ends of a text are equal, if neither end goes
on with a name. -/
theorem Name.eq_of_append {x y : Name} {more : List Char} (hrest : EndsRun isNameChar rest)
    (hmore : EndsRun isNameChar more) (h : x.chars ++ rest = y.chars ++ more) :
    x = y ∧ rest = more := by
  have hspan := x.span hrest
  rw [h, y.span hmore, Prod.mk.injEq] at hspan
  exact ⟨Name.ext hspan.1.symm, hspan.2.symm⟩

/-- **Parts are determined by their text.** -/
theorem Spells.unique {parts' : List Part} (h : Spells parts cs) (h' : Spells parts' cs) :
    parts = parts' := by
  induction h generalizing parts' with
  | nil =>
    cases h'
    rfl
  | name hrest ih =>
    obtain ⟨y, more, rest', rfl, hcs, hrest'⟩ := h'.behind_point
    obtain ⟨rfl, rfl⟩ := Name.eq_of_append hrest.endsRun hrest'.endsRun hcs
    rw [ih hrest']
  | index hinside hrest ih =>
    obtain ⟨j, more, inner', rest', rfl, hsplit, hinside', hrest'⟩ := h'.behind_bracket
    rw [splitBracket_of_closed (Index.closed_around hinside), Option.some.injEq,
      Prod.mk.injEq] at hsplit
    obtain ⟨rfl, rfl⟩ := hsplit
    rw [ih hrest', Index.chars_injective (hinside.symm.trans hinside')]

/-- A text is read as a path exactly if a path is spelled by it, without
the blanks around it. -/
theorem parse_eq_ok_iff {text : String} {steps : List Step} :
    parse text = .ok steps ↔ ∃ t : Tree, t.Spells (Text.trim text.toList) ∧ t.steps = steps := by
  unfold parse
  dsimp only
  constructor
  · intro h
    split at h
    · cases h
    · split at h
      · cases h
      · rename_i hroot
        obtain ⟨more, hmore, hsteps⟩ := Outcome.bind_eq_ok.1 h
        cases hsteps
        obtain ⟨parts, hparts, rfl⟩ := exists_spells_of_parseSteps hmore
        obtain ⟨x, hx, hcs⟩ := exists_name (by simpa using hroot)
        refine ⟨⟨x, parts⟩, ⟨_, hparts, hcs⟩, ?_⟩
        rw [Tree.steps, Name.text, hx]
  · rintro ⟨t, ⟨rest, hrest, hcs⟩, rfl⟩
    have hempty : (t.root.chars ++ rest).isEmpty = false := by simp [t.root.nonempty]
    have hroot : t.root.chars.isEmpty = false := by simp [t.root.nonempty]
    simp only [hcs, hempty, t.root.span hrest.endsRun, hroot, parseSteps_of_spells hrest,
      Bool.false_eq_true, if_false]
    rfl

/-- **A path is determined by its text.** -/
theorem Tree.spells_unique {t u : Tree} (ht : t.Spells cs) (hu : u.Spells cs) : t = u := by
  obtain ⟨rest, hrest, rfl⟩ := ht
  obtain ⟨more, hmore, hcs⟩ := hu
  obtain ⟨hroot, rfl⟩ := Name.eq_of_append hrest.endsRun hmore.endsRun hcs
  exact Tree.ext hroot (hrest.unique hmore)

end Paths

/-- **Reading accepts the grammar, and more.** A text is read exactly if
some tree spells it, and as the steps of this tree, of which there is one
only. All that the grammar derives is read as it derives it. Nothing else is
read exactly in the texts that are spelled by no tree with an index that is
not regular, be it a plus sign or a quote within its own quotes. -/
theorem reads_by_grammar_iff (text : String) :
    (∀ steps, parse text = .ok steps ↔
      ∃ t : Tree, t.Spells (Text.trim text.toList) ∧ t.steps = steps) ∧
    (∀ t u : Tree, t.Spells (Text.trim text.toList) → u.Spells (Text.trim text.toList) → t = u) ∧
    (∀ steps, Grammatical text steps → parse text = .ok steps) ∧
    ((∀ steps, parse text = .ok steps ↔ Grammatical text steps) ↔
      ∀ t : Tree, t.Spells (Text.trim text.toList) → t.Regular) := by
  have haccepts : ∀ steps, Grammatical text steps → parse text = .ok steps := by
    rintro steps ⟨t, -, ht, hsteps⟩
    exact parse_eq_ok_iff.2 ⟨t, ht, hsteps⟩
  refine ⟨fun _ => parse_eq_ok_iff, fun _ _ => Tree.spells_unique, haccepts, ?_⟩
  constructor
  · intro h t ht
    obtain ⟨u, hregular, hu, -⟩ := (h t.steps).1 (parse_eq_ok_iff.2 ⟨t, ht, rfl⟩)
    rwa [Tree.spells_unique ht hu]
  · intro h steps
    refine ⟨fun hparse => ?_, haccepts steps⟩
    obtain ⟨t, ht, hsteps⟩ := parse_eq_ok_iff.1 hparse
    exact ⟨t, h t ht, ht, hsteps⟩

/-- Where a tree has an irregular index, the grammar does not derive the
text that it spells. -/
theorem not_grammatical {text : String} {t : Tree} {i : Index} {steps : List Step}
    (ht : t.Spells (Text.trim text.toList)) (hi : .index i ∈ t.parts)
    (hregular : i.isRegular = false) : ¬ Grammatical text steps := by
  rintro ⟨u, hu, hspells, -⟩
  rw [Tree.spells_unique hspells ht] at hu
  rw [hu i hi] at hregular
  cases hregular

/-- The name `a`. -/
def sampleName : Name := ⟨['a'], by decide, List.forall_mem_singleton.2 (by decide)⟩

/-- The path `a[+5]`. -/
def signedPath : Tree :=
  ⟨sampleName, [.index (.plus ⟨['5'], by decide, List.forall_mem_singleton.2 (by decide)⟩
    ⟨by decide, by decide⟩)]⟩

/-- The path `a['x'y'z']`. -/
def patchedPath : Tree :=
  ⟨sampleName, [.index (.patched .single "x'y'z".toList (by decide) (by unfold Closed; decide))]⟩

theorem spells_signedPath : signedPath.Spells (Text.trim "a[+5]".toList) :=
  ⟨"[+5]".toList, .index (show Text.trim "+5".toList = _ by decide) .nil, by decide⟩

theorem spells_patchedPath : patchedPath.Spells (Text.trim "a['x'y'z']".toList) :=
  ⟨"['x'y'z']".toList, .index (show Text.trim "'x'y'z'".toList = _ by decide) .nil, by decide⟩

/-- Positions behind a plus sign and keys with their own quote are read,
and the grammar does not derive them. -/
theorem reads_beyond_grammar :
    (parse "a[+5]" = .ok [.property "a", .index 5] ∧
      ¬ Grammatical "a[+5]" [.property "a", .index 5]) ∧
    parse "a['x'y'z']" = .ok [.property "a", .property "x'y'z"] ∧
      ¬ Grammatical "a['x'y'z']" [.property "a", .property "x'y'z"] :=
  ⟨⟨parse_eq_ok_iff.2 ⟨signedPath, spells_signedPath, by decide⟩,
    not_grammatical spells_signedPath (.head _) rfl⟩,
    parse_eq_ok_iff.2 ⟨patchedPath, spells_patchedPath, by decide⟩,
    not_grammatical spells_patchedPath (.head _) rfl⟩

end Path

end PromptTemplate
