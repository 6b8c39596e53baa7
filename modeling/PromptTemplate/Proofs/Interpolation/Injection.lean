import Mathlib
import PromptTemplate.Proofs.Interpolation.Fill
import PromptTemplate.Proofs.Path.Strings
import PromptTemplate.Proofs.Condition.Interchange
/-!
# PromptTemplate — what strings can do to conditions

A string is put into a condition as a JSON literal, so that it should stay
one literal whatever it holds. That is so where the reference stands
outside of strings, and behind a backslash in a string of double quotes;
inside any other string the quotes of the literal are read as quotes of
the condition. `guarded` looks at the condition alone and says which it is.

`sameSyntax_iff` is the exact statement: strings can change nothing but
what string literals say if and only if every reference is guarded, or the
condition is broken whatever is put into it. The text that shows the
second half puts `breakout` in the place of every string, which leads out
of the string around a reference that is not guarded, to a character that
begins no token.
-/

namespace PromptTemplate

namespace Interpolation

open Condition

/-! ## Guarded references -/

/-- Whether every reference stands outside of strings, or behind a
backslash in a string of double quotes, which its literal then ends. -/
def guarded : Condition.Place → List Segment → Bool
  | _, [] => true
  | p, .literal text :: rest => guarded (p.behind text.toList) rest
  | p, .reference _ :: rest => (p = .outside ∨ p = .escaped .double) && guarded .outside rest

/-- A condition whose references are guarded, if it has segments. -/
def Guarded (condition : String) : Prop :=
  ∀ ss, segments condition = .ok ss → guarded .outside ss = true

/-- The variables give a condition this text, with a string for every
reference. -/
structure Fills (vars : Table Value) (condition text : String) : Prop where
  text : substituteCondition vars condition = .ok text
  strings : ∀ ss, segments condition = .ok ss → ∀ path ∈ Segment.paths ss,
    ∃ s, lookUp vars path = .ok (.string s)

/-- Two texts have the same tokens and stand for the same tree, but for
what strings say. -/
def SameSyntax (t u : String) : Prop := tokenShapes t = tokenShapes u ∧ treeShape t = treeShape u

theorem sameSyntax_of_tokenShapes_eq {t u : String} (h : tokenShapes t = tokenShapes u) :
    SameSyntax t u :=
  ⟨h, treeShape_eq_of_tokenShapes_eq h⟩

/-! ## Texts of segments -/

/-- The literal of a string, where it has one. -/
theorem conditionLiteral_string {path s text : String} :
    conditionLiteral path (.string s) = .ok text ↔
      Writable s ∧ text = String.ofList (Json.quote s) := by
  have hliteral : HasLiteral (.string s) ↔ Writable s := by
    unfold HasLiteral Writable holdsObject findCoded?
    simp
  rw [conditionLiteral_eq_ok, hliteral, Json.compact, Json.compactChars]

/-- A reference to a string is replaced by its literal. -/
theorem fill_string {vars : Table Value} {path s t : String} {rest : List Segment}
    (hs : lookUp vars path = .ok (.string s)) :
    fill conditionLiteral vars (.reference path :: rest) = .ok t ↔
      Writable s ∧ ∃ after, fill conditionLiteral vars rest = .ok after ∧
        t = String.ofList (Json.quote s) ++ after := by
  rw [fill_reference]
  constructor
  · rintro ⟨v, text, after, hv, htext, hafter, rfl⟩
    rw [hs] at hv
    cases hv
    obtain ⟨hwritable, rfl⟩ := conditionLiteral_string.1 htext
    exact ⟨hwritable, after, hafter, rfl⟩
  · rintro ⟨hwritable, after, hafter, rfl⟩
    exact ⟨_, _, after, hs, conditionLiteral_string.2 ⟨hwritable, rfl⟩, hafter, rfl⟩

/-- **Guarded references** give texts that are alike. -/
theorem alike_of_guarded {V W : Table Value} {p : Condition.Place} {ss : List Segment}
    {t u : String} (hguard : guarded p ss = true)
    (hV : ∀ path ∈ Segment.paths ss, ∃ s, lookUp V path = .ok (.string s))
    (hW : ∀ path ∈ Segment.paths ss, ∃ s, lookUp W path = .ok (.string s))
    (ht : fill conditionLiteral V ss = .ok t) (hu : fill conditionLiteral W ss = .ok u) :
    Alike True p t.toList u.toList := by
  induction ss generalizing p t u with
  | nil =>
    cases ht
    cases hu
    exact .nil trivial
  | cons segment rest ih =>
    cases segment with
    | literal text =>
      obtain ⟨a, ha, rfl⟩ := fill_literal.1 ht
      obtain ⟨b, hb, rfl⟩ := fill_literal.1 hu
      rw [String.toList_append, String.toList_append]
      exact (ih hguard hV hW ha hb).append_left text.toList
    | reference path =>
      rw [guarded, Bool.and_eq_true, decide_eq_true_eq] at hguard
      obtain ⟨hplace, hrest⟩ := hguard
      rw [paths_reference, List.forall_mem_cons] at hV hW
      obtain ⟨⟨s, hs⟩, hV⟩ := hV
      obtain ⟨⟨r, hr⟩, hW⟩ := hW
      obtain ⟨hws, a, ha, rfl⟩ := (fill_string hs).1 ht
      obtain ⟨hwr, b, hb, rfl⟩ := (fill_string hr).1 hu
      have halike := ih hrest hV hW ha hb
      rw [String.toList_append, String.toList_append, String.toList_ofList, String.toList_ofList]
      rcases hplace with rfl | rfl
      · exact .literal hws hwr halike
      · exact .closing hws hwr halike

/-! ## The way out of a string -/

/-- A string whose literal leads out of every string. -/
def breakout : String := "#'#"

theorem writable_breakout : Writable breakout := by
  intro c hc
  simp [breakout] at hc
  rcases hc with rfl | rfl | rfl <;> decide

/-- In a string, the literal leads to a stop outside. -/
theorem stop_of_breakout {p : Condition.Place} (h : ¬ (p = .outside ∨ p = .escaped .double))
    (a : List Char) : Alike False p (Json.quote breakout ++ a) (Json.quote breakout ++ a) := by
  have hquote : Json.quote breakout ++ a = '"' :: '#' :: '\'' :: '#' :: '"' :: a := by
    simp [Json.quote, breakout, Json.escape]
  rw [hquote]
  cases p with
  | outside => exact absurd (.inl rfl) h
  | inside q =>
    cases q with
    | single => exact .char (.char (.char .stop))
    | double => exact .char .stop
  | escaped q =>
    cases q with
    | single => exact .char (.char (.char .stop))
    | double => exact absurd (.inr rfl) h

/-- **A reference that is not guarded** leads to a stop. -/
theorem stop_of_not_guarded {W : Table Value} {p : Condition.Place} {ss : List Segment} {u : String}
    (hguard : guarded p ss ≠ true)
    (hW : ∀ path ∈ Segment.paths ss, lookUp W path = .ok (.string breakout))
    (hu : fill conditionLiteral W ss = .ok u) : Alike False p u.toList u.toList := by
  induction ss generalizing p u with
  | nil => exact absurd rfl hguard
  | cons segment rest ih =>
    cases segment with
    | literal text =>
      obtain ⟨b, hb, rfl⟩ := fill_literal.1 hu
      rw [String.toList_append]
      exact (ih hguard hW hb).append_left text.toList
    | reference path =>
      rw [paths_reference, List.forall_mem_cons] at hW
      obtain ⟨hpath, hW⟩ := hW
      obtain ⟨hwritable, b, hb, rfl⟩ := (fill_string hpath).1 hu
      rw [String.toList_append, String.toList_ofList]
      by_cases hplace : p = .outside ∨ p = .escaped .double
      · -- this reference is guarded, so a later one is not
        have hrest : guarded .outside rest ≠ true := by
          intro hrest
          exact hguard (by simp [guarded, hplace, hrest])
        have hstop := ih hrest hW hb
        rcases hplace with rfl | rfl
        · exact .literal hwritable hwritable hstop
        · exact .closing hwritable hwritable hstop
      · exact stop_of_breakout hplace b.toList

/-- Variables that fill a condition fill it with `breakout` in the place of
every string, too. -/
theorem lookUp_breakout {V : Table Value} {path s : String}
    (h : lookUp V path = .ok (.string s)) :
    lookUp (Value.mapFields (fun _ => breakout) V) path = .ok (.string breakout) := by
  unfold lookUp at h ⊢
  split at h
  · rename_i v hv
    cases h
    rw [Path.resolve_mapStrings hv]
  · cases h

/-- Unless its references are guarded, a condition that is filled can be
filled so that it does not split into tokens. -/
theorem exists_breakout {V : Table Value} {condition t : String} (hguard : ¬ Guarded condition)
    (hfills : Fills V condition t) :
    ∃ W u, Fills W condition u ∧ tokenShapes u = none := by
  obtain ⟨ss, hss, -⟩ := substituteWith_eq_ok.1 hfills.text
  have hnot : guarded .outside ss ≠ true := by
    intro h
    refine hguard fun ss' hss' => ?_
    rw [hss] at hss'
    cases hss'
    exact h
  have hW : ∀ path ∈ Segment.paths ss,
      lookUp (Value.mapFields (fun _ => breakout) V) path = .ok (.string breakout) := by
    intro path hpath
    obtain ⟨s, hs⟩ := hfills.strings ss hss path hpath
    exact lookUp_breakout hs
  obtain ⟨u, hu⟩ := exists_fill_iff.2 fun path hpath =>
    ⟨_, _, hW path hpath, conditionLiteral_string.2 ⟨writable_breakout, rfl⟩⟩
  refine ⟨_, u, ⟨substituteWith_eq_ok.2 ⟨ss, hss, hu⟩, ?_⟩, ?_⟩
  · intro ss' hss' path hpath
    rw [hss] at hss'
    cases hss'
    exact ⟨_, hW path hpath⟩
  · exact tokenShapes_eq_none_of_stop (stop_of_not_guarded hnot hW hu)

/-- **When strings cannot change the syntax of a condition.** Any two ways
to fill a condition with strings give the same tokens and the same tree,
but for what strings say, if and only if every reference is guarded, or no
way to fill it gives a text that splits into tokens. -/
theorem sameSyntax_iff (condition : String) :
    (∀ V W t u, Fills V condition t → Fills W condition u → SameSyntax t u) ↔
      Guarded condition ∨ ∀ V t, Fills V condition t → tokenShapes t = none := by
  constructor
  · intro hsame
    by_cases hguard : Guarded condition
    · exact .inl hguard
    · -- a filling that splits into tokens would differ from the breakout
      refine .inr fun V t ht => ?_
      obtain ⟨W, u, hu, hnone⟩ := exists_breakout hguard ht
      rw [(hsame V W t u ht hu).1, hnone]
  · rintro (hguard | hnone) V W t u ht hu
    · obtain ⟨ss, hss, hfill⟩ := substituteWith_eq_ok.1 ht.text
      obtain ⟨ss', hss', hfill'⟩ := substituteWith_eq_ok.1 hu.text
      rw [hss] at hss'
      cases hss'
      exact sameSyntax_of_tokenShapes_eq (tokenShapes_eq_of_alike
        (alike_of_guarded (hguard ss hss) (ht.strings ss hss) (hu.strings ss hss) hfill hfill'))
    · exact sameSyntax_of_tokenShapes_eq ((hnone V t ht).trans (hnone W u hu).symm)

/-! ## A reference that is not guarded -/

/-- A reference inside a string of single quotes. -/
def quotedReference : String := "'$\x7bx\x7d'"

/-- The variables where the reference leads to a string. -/
def oneString (s : String) : Table Value := Table.ofList [("x", .string s)]

theorem fills_quotedReference {s t : String} (hs : lookUp (oneString s) "x" = .ok (.string s))
    (ht : substituteCondition (oneString s) quotedReference = .ok t) :
    Fills (oneString s) quotedReference t := by
  refine ⟨ht, ?_⟩
  intro ss hss path hpath
  have hsegments : segments quotedReference = .ok [.literal "'", .reference "x", .literal "'"] := by
    cbv
  rw [hsegments] at hss
  cases hss
  obtain rfl : path = "x" := by
    simpa [Segment.paths] using hpath
  exact ⟨s, hs⟩

/-- One string leaves the condition a string, the other one makes it a
comparison. -/
theorem not_sameSyntax_quotedReference :
    ∃ V W t u, Fills V quotedReference t ∧ Fills W quotedReference u ∧ ¬ SameSyntax t u := by
  refine ⟨oneString "a", oneString "' != '", "'\"a\"'", "'\"' != '\"'",
    fills_quotedReference (by cbv) (by cbv), fills_quotedReference (by cbv) (by cbv), ?_⟩
  rintro ⟨htokens, -⟩
  have hstring : tokenShapes "'\"a\"'" = some [.text ""] := by cbv
  have hcomparison : tokenShapes "'\"' != '\"'" = some [.text "", .notEqual, .text ""] := by cbv
  rw [hstring, hcomparison] at htokens
  cases htokens

end Interpolation

end PromptTemplate
