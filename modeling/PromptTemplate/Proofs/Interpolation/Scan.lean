import Mathlib.Data.List.Chain
import Mathlib.Data.List.DropRight
import Mathlib.Data.List.Forall2
import Mathlib.Data.List.Infix
import Mathlib.Data.List.TakeWhile
import PromptTemplate.Proofs.Interpolation.Fill
import PromptTemplate.Proofs.Text.Lowercase
/-!
# PromptTemplate — what splitting a text into segments promises

Segments say how a text is composed: a literal stands there as it is, a
reference as its path with blanks around it, in between an opening and a
closing (`Source`). `Composes` puts the sources of segments one behind
another. Splitting undoes that: `segmentsOf_append` takes a composed front
off a text, segment by segment. And every text is composed, or breaks behind
a composed front, at a reference that is open to the end or blank
(`composed_or_broken`, by the first opening of what is left).

So splitting finds the segments that compose a text, which are the only
ones, and fails where the text breaks; and a filled text has every literal
as it was and, for each reference, the text of its value, whatever stands in
that: `segments_exact`.
-/

namespace PromptTemplate

namespace Text

/-! ## Cuts -/

/-- A text is cut unless the pattern does not occur. -/
theorem splitOn?_eq_none {pattern text : List Char} :
    splitOn? pattern text = none ↔ ¬ pattern <:+: text := by
  rw [← occurs_iff, occurs, Bool.not_eq_true, Option.isSome_eq_false_iff, Option.isNone_iff_eq_none]

/-- In front of a cut the pattern does not occur. -/
theorem not_infix_of_splitOn? {pattern text before after : List Char} (hp : pattern ≠ [])
    (h : splitOn? pattern text = some (before, after)) : ¬ pattern <:+: before := by
  induction text generalizing before with
  | nil =>
    rw [splitOn?, if_neg (by simpa using hp)] at h
    cases h
  | cons c r ih =>
    have htext := splitOn?_eq h
    rw [splitOn?] at h
    split at h
    · cases h
      rwa [List.infix_nil]
    · rename_i hprefix
      obtain ⟨⟨front, behind⟩, hr, hcut⟩ := Option.map_eq_some_iff.1 h
      cases hcut
      rw [List.infix_cons_iff, not_or]
      refine ⟨fun hfront => hprefix ?_, ih hr⟩
      rw [List.isPrefixOf_iff_prefix, htext, List.append_assoc]
      exact hfront.trans (List.prefix_append _ _)

/-- A text is cut at a pattern that neither occurs in front of it nor begins
there. -/
theorem splitOn?_append {pattern before : List Char} (after : List Char) (hp : pattern ≠ [])
    (h : ¬ pattern <:+: before ++ pattern.dropLast) :
    splitOn? pattern (before ++ pattern ++ after) = some (before, after) := by
  induction before with
  | nil =>
    cases pattern with
    | nil => exact absurd rfl hp
    | cons c r => simp [splitOn?]
  | cons c r ih =>
    rw [List.cons_append, List.infix_cons_iff, not_or] at h
    have hprefix : pattern.isPrefixOf (c :: (r ++ pattern ++ after)) = false := by
      rw [Bool.eq_false_iff, ne_eq, List.isPrefixOf_iff_prefix]
      intro hfront
      refine h.1 (List.prefix_of_prefix_length_le hfront ?_ (by simp; omega))
      refine ⟨[pattern.getLast hp] ++ after, ?_⟩
      rw [List.cons_append, ← List.append_assoc, List.append_assoc r, List.dropLast_concat_getLast]
    rw [List.cons_append, List.cons_append, splitOn?, hprefix, ih h.2]
    rfl

/-- Nothing is left of a text by trimming exactly if it is blank. -/
theorem trim_eq_nil {cs : List Char} : trim cs = [] ↔ ∀ c ∈ cs, isBlank c = true := by
  rw [trim, trimEnd, List.reverse_eq_nil_iff, List.dropWhile_eq_nil_iff, trimStart]
  simp only [List.mem_reverse]
  rw [← List.dropWhile_eq_nil_iff, List.dropWhile_idempotent, List.dropWhile_eq_nil_iff]

end Text

namespace Interpolation

open Text

/-! ## How texts are composed -/

/-- What stands in a text for a segment: a literal as it is, which has an
opening nowhere in it, and a reference as its path with blanks around it, in
between an opening and a closing. -/
inductive Source : Segment → List Char → Prop
  | literal {text : String} (some : text ≠ "") (plain : ¬ opening <:+: text.toList) :
      Source (.literal text) text.toList
  | reference {inside : List Char} (unclosed : '\x7d' ∉ inside) (some : trim inside ≠ []) :
      Source (.reference (String.ofList (trim inside))) (opening ++ inside ++ closing)

/-- A segment is literal. -/
def Segment.IsLiteral (segment : Segment) : Prop := ∃ text, segment = .literal text

/-- Segments compose a text: it is their sources one behind another, and no
literal stands next to another one. -/
def Composes (ss : List Segment) (cs : List Char) : Prop :=
  ss.IsChain (fun first second => ¬ (first.IsLiteral ∧ second.IsLiteral)) ∧
    ∃ sources, List.Forall₂ Source ss sources ∧ cs = sources.flatten

/-- Why no segment begins with an opening that stands before a text. -/
inductive Breaks : List Char → ScanFailure → Prop
  /-- It is never closed. -/
  | unterminated {behind : List Char} (unclosed : '\x7d' ∉ behind) :
      Breaks behind (.unterminated (String.ofList behind))
  /-- It is closed, and there is nothing but blanks in between. -/
  | empty {inside rest : List Char} (unclosed : '\x7d' ∉ inside)
      (blank : ∀ c ∈ inside, isBlank c = true) : Breaks (inside ++ closing ++ rest) .empty

/-! ## Splitting, step by step -/

/-- Splitting, as two cuts. -/
theorem segmentsOf_eq (cs : List Char) :
    segmentsOf cs = match splitOn? opening cs with
      | none => .ok (literalSegment cs)
      | some (before, inside) =>
        match splitOn? closing inside with
        | none => .error (.unterminated (String.ofList inside))
        | some (path, rest) =>
          if (trim path).isEmpty then .error .empty
          else (segmentsOf rest).map
            (literalSegment before ++ .reference (String.ofList (trim path)) :: ·) := by
  rw [segmentsOf]
  split
  · rename_i hopened
    rw [hopened]
  · rename_i before inside hopened
    rw [hopened]
    dsimp only
    split <;> rename_i hclosed <;> rw [hclosed]

section Steps

variable {before inside rest : List Char}

theorem splitOn?_opening (h : ¬ opening <:+: before) :
    splitOn? opening (before ++ (opening ++ rest)) = some (before, rest) := by
  rw [← List.append_assoc]
  refine splitOn?_append rest (by decide) fun hinfix => ?_
  -- an opening does not end with its own first character
  rcases List.infix_concat_iff.1 hinfix with hsuffix | hinfix
  · obtain ⟨front, hfront⟩ := hsuffix
    have hlast := congrArg List.getLast? hfront
    simp [opening] at hlast
  · exact h hinfix

theorem splitOn?_closing (h : '\x7d' ∉ inside) :
    splitOn? closing (inside ++ closing ++ rest) = some (inside, rest) := by
  refine splitOn?_append rest (by decide) ?_
  rwa [closing, List.dropLast_singleton, List.append_nil, List.singleton_infix_iff]

theorem splitOn?_closing_eq_none : splitOn? closing inside = none ↔ '\x7d' ∉ inside := by
  rw [splitOn?_eq_none, closing, List.singleton_infix_iff]

theorem not_mem_of_splitOn?_closing {text : List Char}
    (h : splitOn? closing text = some (inside, rest)) : '\x7d' ∉ inside := by
  have hinfix := not_infix_of_splitOn? (by decide) h
  rwa [closing, List.singleton_infix_iff] at hinfix

theorem literalSegment_toList {text : String} (h : text ≠ "") :
    literalSegment text.toList = [.literal text] := by
  simp [literalSegment, h]

/-- A text without an opening is literal. -/
theorem segmentsOf_plain (h : ¬ opening <:+: before) :
    segmentsOf before = .ok (literalSegment before) := by
  rw [segmentsOf_eq, splitOn?_eq_none.2 h]

@[simp] theorem segmentsOf_nil : segmentsOf [] = .ok [] := segmentsOf_plain (by decide)

/-- A reference that is closed and not blank is a segment. -/
theorem segmentsOf_reference (hinside : '\x7d' ∉ inside) (hsome : trim inside ≠ []) :
    segmentsOf (opening ++ inside ++ closing ++ rest) =
      (segmentsOf rest).map (.reference (String.ofList (trim inside)) :: ·) := by
  have hopened := @splitOn?_opening [] (inside ++ closing ++ rest) (by decide)
  rw [List.append_assoc opening, List.append_assoc opening, ← List.nil_append (opening ++ _),
    segmentsOf_eq, hopened]
  dsimp only
  rw [splitOn?_closing hinside]
  dsimp only
  rw [if_neg (by simpa using hsome)]
  rfl

/-- A literal in front of an opening, or at the end, is a segment. -/
theorem segmentsOf_literal (hbefore : ¬ opening <:+: before)
    (hrest : rest = [] ∨ opening <+: rest) :
    segmentsOf (before ++ rest) = (segmentsOf rest).map (literalSegment before ++ ·) := by
  rcases hrest with rfl | ⟨inside, rfl⟩
  · rw [List.append_nil, segmentsOf_plain hbefore, segmentsOf_nil]
    exact congrArg Except.ok (List.append_nil _).symm
  · have hopened := @splitOn?_opening [] inside (by decide)
    rw [List.nil_append] at hopened
    rw [segmentsOf_eq, splitOn?_opening hbefore, segmentsOf_eq (opening ++ inside), hopened]
    dsimp only
    cases splitOn? closing inside with
    | none => rfl
    | some cut =>
      dsimp only
      split
      · rfl
      · cases segmentsOf cut.2 <;> rfl

/-- What breaks a segment breaks the text. -/
theorem segmentsOf_breaks {behind : List Char} {why : ScanFailure} (h : Breaks behind why) :
    segmentsOf (opening ++ behind) = .error why := by
  have hopened := @splitOn?_opening [] behind (by decide)
  rw [List.nil_append] at hopened
  rw [segmentsOf_eq, hopened]
  dsimp only
  cases h with
  | unterminated hunclosed => rw [splitOn?_closing_eq_none.2 hunclosed]
  | empty hunclosed hblank =>
    rw [splitOn?_closing hunclosed]
    dsimp only
    rw [if_pos (by simpa using trim_eq_nil.2 hblank)]

end Steps

/-! ## Composed texts -/

variable {ss : List Segment} {cs front behind : List Char} {why : ScanFailure}

@[simp] theorem composes_nil : Composes [] cs ↔ cs = [] := by
  simp [Composes]

/-- The first segment of a composed text. -/
theorem composes_cons {segment : Segment} :
    Composes (segment :: ss) cs ↔ ∃ source behind, Source segment source ∧ Composes ss behind ∧
      cs = source ++ behind ∧
      ∀ next ∈ ss.head?, ¬ (segment.IsLiteral ∧ next.IsLiteral) := by
  simp only [Composes, List.isChain_cons, List.forall₂_cons_left_iff]
  constructor
  · rintro ⟨⟨hnext, hchain⟩, sources, ⟨source, others, hsource, hothers, rfl⟩, rfl⟩
    exact ⟨source, others.flatten, hsource, ⟨hchain, others, hothers, rfl⟩, List.flatten_cons,
      hnext⟩
  · rintro ⟨source, behind, hsource, ⟨hchain, others, hothers, rfl⟩, rfl, hnext⟩
    exact ⟨⟨hnext, hchain⟩, source :: others, ⟨source, others, hsource, hothers, rfl⟩,
      List.flatten_cons.symm⟩

/-- Every segment of a composed text has a source. -/
theorem Composes.exists_source {segment : Segment} (h : Composes ss cs) (hmem : segment ∈ ss) :
    ∃ source, Source segment source := by
  induction ss generalizing cs with
  | nil => cases hmem
  | cons first rest ih =>
    obtain ⟨source, behind, hsource, hrest, -, -⟩ := composes_cons.1 h
    rcases List.mem_cons.1 hmem with rfl | hmem
    · exact ⟨source, hsource⟩
    · exact ih hrest hmem

/-- A composed text that does not begin with a literal is empty or begins
with an opening. -/
theorem Composes.opens (h : Composes ss cs) (hhead : ∀ segment ∈ ss.head?, ¬ segment.IsLiteral) :
    cs = [] ∨ opening <+: cs := by
  cases ss with
  | nil => exact .inl (composes_nil.1 h)
  | cons segment rest =>
    obtain ⟨source, behind, hsource, -, rfl, -⟩ := composes_cons.1 h
    cases hsource with
    | literal hsome hplain => exact absurd ⟨_, rfl⟩ (hhead _ rfl)
    | reference hunclosed hsome =>
      right
      simp only [List.append_assoc]
      exact List.prefix_append _ _

/-- **A composed front comes off as its segments,** if an opening follows,
or nothing. -/
theorem segmentsOf_append (h : Composes ss front) (hbehind : behind = [] ∨ opening <+: behind) :
    segmentsOf (front ++ behind) = (segmentsOf behind).map (ss ++ ·) := by
  induction ss generalizing front with
  | nil =>
    rw [composes_nil.1 h, List.nil_append]
    cases segmentsOf behind <;> rfl
  | cons segment rest ih =>
    obtain ⟨source, more, hsource, hmore, rfl, hnext⟩ := composes_cons.1 h
    cases hsource with
    | @literal text hsome hplain =>
      have hopens : more = [] ∨ opening <+: more := hmore.opens fun next hhead hliteral =>
        hnext next hhead ⟨⟨text, rfl⟩, hliteral⟩
      have hrest : more ++ behind = [] ∨ opening <+: more ++ behind := by
        rcases hopens with rfl | hopens
        · exact hbehind
        · exact .inr (hopens.trans (List.prefix_append _ _))
      rw [List.append_assoc, segmentsOf_literal hplain hrest, ih hmore, literalSegment_toList hsome]
      cases segmentsOf behind <;> rfl
    | reference hunclosed hsome =>
      rw [List.append_assoc, segmentsOf_reference hunclosed hsome, ih hmore]
      cases segmentsOf behind <;> rfl

/-- A literal comes before a composed text that does not begin with one. -/
theorem Composes.literal (hfront : ¬ opening <:+: front) (h : Composes ss cs)
    (hhead : ∀ segment ∈ ss.head?, ¬ segment.IsLiteral) :
    Composes (literalSegment front ++ ss) (front ++ cs) := by
  unfold literalSegment
  split
  · rename_i hempty
    rwa [List.isEmpty_iff.1 hempty]
  · rename_i hsome
    refine composes_cons.2 ⟨front, cs, ?_, h, rfl, fun next hnext hliteral => ?_⟩
    · have hsource := @Source.literal (String.ofList front) (by simpa using hsome)
        (by rwa [String.toList_ofList])
      rwa [String.toList_ofList] at hsource
    · exact hhead next hnext hliteral.2

/-- A reference comes before any composed text. -/
theorem Composes.reference {inside : List Char} (hunclosed : '\x7d' ∉ inside)
    (hsome : trim inside ≠ []) (h : Composes ss cs) :
    Composes (.reference (String.ofList (trim inside)) :: ss)
      (opening ++ inside ++ closing ++ cs) := by
  refine composes_cons.2 ⟨_, cs, .reference hunclosed hsome, h, rfl, ?_⟩
  rintro next - ⟨⟨text, hliteral⟩, -⟩
  cases hliteral

/-- A literal, if there is one, and a reference come before any composed
text. -/
theorem Composes.step {before inside : List Char} (hbefore : ¬ opening <:+: before)
    (hunclosed : '\x7d' ∉ inside) (hsome : trim inside ≠ []) (h : Composes ss cs) :
    Composes (literalSegment before ++ .reference (String.ofList (trim inside)) :: ss)
      (before ++ (opening ++ inside ++ closing ++ cs)) := by
  refine .literal hbefore (.reference hunclosed hsome h) ?_
  rintro segment ⟨⟩ ⟨text, hliteral⟩
  cases hliteral

theorem composes_literalSegment (h : ¬ opening <:+: cs) : Composes (literalSegment cs) cs := by
  have hcomposes := Composes.literal h (composes_nil.2 rfl) (by simp)
  rwa [List.append_nil, List.append_nil] at hcomposes

/-- **The first opening** of a text, if there is one, begins a reference, or
breaks the text. -/
theorem first_opening (cs : List Char) :
    ¬ opening <:+: cs ∨
      (∃ before behind why, ¬ opening <:+: before ∧ Breaks behind why ∧
        cs = before ++ (opening ++ behind)) ∨
      ∃ before inside rest, ¬ opening <:+: before ∧ '\x7d' ∉ inside ∧ trim inside ≠ [] ∧
        cs = before ++ (opening ++ inside ++ closing ++ rest) := by
  cases hopened : splitOn? opening cs with
  | none => exact .inl (splitOn?_eq_none.1 hopened)
  | some cut =>
    obtain ⟨before, behind⟩ := cut
    have hbefore := not_infix_of_splitOn? (by decide) hopened
    have hcs := splitOn?_eq hopened
    rw [List.append_assoc] at hcs
    refine .inr ?_
    cases hclosed : splitOn? closing behind with
    | none =>
      have hunclosed := splitOn?_closing_eq_none.1 hclosed
      exact .inl ⟨before, behind, _, hbefore, .unterminated hunclosed, hcs⟩
    | some cut =>
      obtain ⟨inside, rest⟩ := cut
      have hunclosed := not_mem_of_splitOn?_closing hclosed
      have hbehind := splitOn?_eq hclosed
      by_cases hblank : trim inside = []
      · refine .inl ⟨before, behind, .empty, hbefore, ?_, hcs⟩
        rw [hbehind]
        exact .empty hunclosed (trim_eq_nil.1 hblank)
      · refine .inr ⟨before, inside, rest, hbefore, hunclosed, hblank, ?_⟩
        rw [hcs, hbehind, List.append_assoc opening, List.append_assoc opening]

/-- **Every text is composed,** or it has a composed front and breaks at the
opening behind it. -/
theorem composed_or_broken (cs : List Char) :
    (∃ ss, Composes ss cs) ∨
      ∃ ss front behind why, Composes ss front ∧ cs = front ++ (opening ++ behind) ∧
        Breaks behind why := by
  -- by induction on the length: what is behind a reference is shorter
  induction hn : cs.length using Nat.strongRecOn generalizing cs with
  | ind n ih =>
    rcases first_opening cs with hplain | ⟨before, behind, why, hbefore, hbreaks, hcs⟩ |
      ⟨before, inside, rest, hbefore, hunclosed, hsome, hcs⟩
    · exact .inl ⟨_, composes_literalSegment hplain⟩
    · exact .inr ⟨_, before, behind, why, composes_literalSegment hbefore, hcs, hbreaks⟩
    · have hshorter : rest.length < n := by
        rw [← hn, hcs]
        simp [opening, closing]
        omega
      subst hcs
      rcases ih rest.length hshorter rest rfl with ⟨ss, hss⟩ |
        ⟨ss, front, behind, why, hss, rfl, hbreaks⟩
      · exact .inl ⟨_, hss.step hbefore hunclosed hsome⟩
      · exact .inr ⟨_, _, behind, why, hss.step hbefore hunclosed hsome, by simp, hbreaks⟩

/-! ## What splitting finds -/

theorem segmentsOf_composed (h : Composes ss cs) : segmentsOf cs = .ok ss := by
  have happend := segmentsOf_append h (.inl rfl)
  rw [List.append_nil, segmentsOf_nil] at happend
  rw [happend]
  exact congrArg Except.ok (List.append_nil ss)

theorem segmentsOf_broken (h : Composes ss front) (hbreaks : Breaks behind why) :
    segmentsOf (front ++ (opening ++ behind)) = .error why := by
  rw [segmentsOf_append h (.inr (List.prefix_append _ _)), segmentsOf_breaks hbreaks]
  rfl

/-- **Splitting succeeds** with the segments that compose the text. -/
theorem segmentsOf_eq_ok_iff : segmentsOf cs = .ok ss ↔ Composes ss cs := by
  refine ⟨fun h => ?_, segmentsOf_composed⟩
  rcases composed_or_broken cs with ⟨ss', hss⟩ | ⟨ss', front, behind, why, hss, rfl, hbreaks⟩
  · rw [segmentsOf_composed hss] at h
    cases h
    exact hss
  · rw [segmentsOf_broken hss hbreaks] at h
    cases h

/-- **Splitting fails** behind a composed front, at what breaks the text. -/
theorem segmentsOf_eq_error_iff :
    segmentsOf cs = .error why ↔ ∃ ss front behind, Composes ss front ∧
      cs = front ++ (opening ++ behind) ∧ Breaks behind why := by
  constructor
  · intro h
    rcases composed_or_broken cs with ⟨ss, hss⟩ | ⟨ss, front, behind, why', hss, rfl, hbreaks⟩
    · rw [segmentsOf_composed hss] at h
      cases h
    · rw [segmentsOf_broken hss hbreaks] at h
      cases h
      exact ⟨ss, front, behind, hss, rfl, hbreaks⟩
  · rintro ⟨ss, front, behind, hss, rfl, hbreaks⟩
    exact segmentsOf_broken hss hbreaks

/-- The path of a reference cannot close it. -/
theorem unclosed_of_segments {text path : String} (h : segments text = .ok ss)
    (hmem : .reference path ∈ ss) : '\x7d' ∉ path.toList := by
  obtain ⟨source, hsource⟩ := (segmentsOf_eq_ok_iff.1 h).exists_source hmem
  cases hsource with
  | reference hunclosed =>
    rw [String.toList_ofList]
    exact fun hclosing => hunclosed (mem_of_mem_trim hclosing)

/-! ## Filled texts -/

/-- What stands for a segment in a filled prompt text: the literal as it is,
the text of the value of a reference. -/
inductive Stands (vars : Table Value) : Segment → String → Prop
  | literal {text : String} : Stands vars (.literal text) text
  | reference {path : String} {v : Value} (value : lookUp vars path = .ok v) :
      Stands vars (.reference path) (render v)

variable {vars : Table Value}

/-- A text without an opening stays as it is, in conditions too. -/
theorem substituteWith_plain {render : String → Value → Except Unresolved String} {text : String}
    (h : ¬ opening <:+: text.toList) : substituteWith render vars text = .ok text := by
  refine substituteWith_eq_ok.2 ⟨_, segmentsOf_plain h, ?_⟩
  by_cases hempty : text = ""
  · subst hempty
    rfl
  · rw [literalSegment_toList hempty, fill_literal]
    exact ⟨"", rfl, String.append_empty.symm⟩

/-- Filling puts what stands for the segments one behind another. -/
theorem fill_eq_ok {t : String} :
    fill (fun _ v => .ok (render v)) vars ss = .ok t ↔
      ∃ pieces, List.Forall₂ (Stands vars) ss pieces ∧ t = String.join pieces := by
  induction ss generalizing t with
  | nil => simp [fill, eq_comm]
  | cons segment rest ih =>
    simp only [List.forall₂_cons_left_iff]
    cases segment with
    | literal text =>
      rw [fill_literal]
      constructor
      · rintro ⟨after, hafter, rfl⟩
        obtain ⟨pieces, hpieces, rfl⟩ := ih.1 hafter
        exact ⟨_, ⟨text, pieces, .literal, hpieces, rfl⟩, String.join_cons.symm⟩
      · rintro ⟨_, ⟨_, pieces, ⟨⟩, hpieces, rfl⟩, rfl⟩
        exact ⟨_, ih.2 ⟨pieces, hpieces, rfl⟩, String.join_cons⟩
    | reference path =>
      rw [fill_reference]
      constructor
      · rintro ⟨v, text, after, hv, htext, hafter, rfl⟩
        cases htext
        obtain ⟨pieces, hpieces, rfl⟩ := ih.1 hafter
        exact ⟨_, ⟨_, pieces, .reference hv, hpieces, rfl⟩, String.join_cons.symm⟩
      · rintro ⟨_, ⟨_, pieces, hstands, hpieces, rfl⟩, rfl⟩
        cases hstands with
        | reference hv =>
          exact ⟨_, _, _, hv, rfl, ih.2 ⟨pieces, hpieces, rfl⟩, String.join_cons⟩

/-- **Segments are exact.** A text splits into segments exactly if it is
composed of them, and it is composed of no others. It does not split exactly
if behind a composed front there is an opening that is never closed, or has
nothing but blanks up to the next closing. And it is filled exactly if every
reference leads to a value: with all its literals as they are, and the text
of each value, whatever stands in that, in the place of the reference. -/
theorem segments_exact (text : String) :
    (∀ ss, segments text = .ok ss ↔ Composes ss text.toList) ∧
    (∀ ss ss', Composes ss text.toList → Composes ss' text.toList → ss = ss') ∧
    (∀ why, segments text = .error why ↔ ∃ ss front behind, Composes ss front ∧
      text.toList = front ++ (opening ++ behind) ∧ Breaks behind why) ∧
    ∀ vars t, substituteText vars text = .ok t ↔ ∃ ss, Composes ss text.toList ∧
      ∃ pieces, List.Forall₂ (Stands vars) ss pieces ∧ t = String.join pieces := by
  refine ⟨fun ss => segmentsOf_eq_ok_iff, fun ss ss' hss hss' => ?_,
    fun why => segmentsOf_eq_error_iff, fun vars t => ?_⟩
  · have hsame := (segmentsOf_composed hss).symm.trans (segmentsOf_composed hss')
    injection hsame
  · rw [substituteText, substituteWith_eq_ok]
    exact exists_congr fun ss => and_congr segmentsOf_eq_ok_iff fill_eq_ok

end Interpolation

end PromptTemplate
