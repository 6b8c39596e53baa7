import PromptTemplate.Text.Lowercase
import PromptTemplate.Text.Search
/-!
# PromptTemplate — texts sought without regard to case

A text is put in lower case before something is sought in it. For a pattern
of ASCII characters that comes to seeking a part of the text itself that
has the pattern as its small letters: `occurs_lowercaseFrom_iff`.

Two characters beyond ASCII stand in the way, because their lower case has
a letter of ASCII in it: the sign for kelvins has `k`, and the dotted
capital I has `i`. All others have images beyond ASCII, which a look at
every run of the table shows (`capitals_stayBeyond`); so the pattern may
hold any other character (`IsPlain`).
-/

namespace PromptTemplate

namespace CharMap

/-- A map is read off the characters of its text. -/
theorem ofText_ofList (cs : List Char) :
    ofText (String.ofList cs) =
      ⟨(cs.foldl Reading.next ⟨none, none, 1, [], 0, #[]⟩).close.done⟩ := by
  rw [ofText, String.foldl_eq_foldl_toList, String.toList_ofList]

/-- What is found is a run around the code point. -/
theorem search_eq_some {runs : Array CharRun} {n fuel lo hi : Nat} {r : CharRun}
    (h : search runs n fuel lo hi = some r) : r ∈ runs ∧ r.first ≤ n ∧ n ≤ r.last := by
  induction fuel generalizing lo hi with
  | zero => cases h
  | succ fuel ih =>
    unfold search at h
    split at h
    · dsimp only at h
      split at h
      · cases h
      · rename_i r' hr'
        split at h
        · exact ih h
        · split at h
          · exact ih h
          · cases h
            exact ⟨Array.mem_of_getElem? hr', by omega, by omega⟩
    · cases h

/-- A character with an image of one character lies in a run of such, and
its image as far on as the character. -/
theorem image?_eq_singleton {m : CharMap} {c d : Char} (h : m.image? c = some [d]) :
    ∃ r ∈ m.runs, ∃ n, r.image = [n] ∧ r.first ≤ c.toNat ∧ c.toNat ≤ r.last ∧
      d = Char.ofNat (n + (c.toNat - r.first)) := by
  unfold image? at h
  split at h
  · cases h
  · rename_i r hr
    obtain ⟨hmem, hfirst, hlast⟩ := search_eq_some hr
    dsimp only at h
    split at h
    · rw [Option.some.injEq] at h
      refine ⟨r, hmem, ?_⟩
      rcases hi : r.image with _ | ⟨n, _ | ⟨m, ms⟩⟩
      · simp [hi, moved] at h
      · simp only [hi, moved, List.cons.injEq, and_true] at h
        exact ⟨n, rfl, hfirst, hlast, h.symm⟩
      · rw [hi] at h
        cases ms <;> simp [moved] at h
    · cases h

end CharMap

namespace Text

/-! ## Small letters in ASCII -/

/-- A run of characters with one small letter each has all of these beyond
ASCII, or is a single character with the letter `k`. -/
def stayBeyond (r : CharRun) : Bool :=
  match r.image with
  | [n] =>
    (0x80 ≤ n && n + (r.last - r.first) < 0xd800) ||
      (0xe000 ≤ n && n + (r.last - r.first) < 0x110000) ||
      (r.first == r.last && n == 'k'.toNat)
  | _ => true

/-- **The table of capitals** has only such runs. -/
theorem capitals_stayBeyond : capitals.runs.all stayBeyond = true := by
  unfold capitals
  rw [CharMap.ofText_ofList]
  decide +kernel

/-- A code point that is one has its character. -/
theorem toNat_ofNat {n : Nat} (h : n.isValidChar) : (Char.ofNat n).toNat = n := by
  rw [Char.ofNat, dif_pos h]
  rfl

/-- The small letter of a character beyond ASCII is beyond ASCII, or `k`. -/
theorem lowerChar_of_beyond {c : Char} (hc : 0x80 ≤ c.toNat) :
    0x80 ≤ (lowerChar c).toNat ∨ lowerChar c = 'k' := by
  rw [lowerChar, if_neg (by omega)]
  split
  · rename_i d himage
    obtain ⟨r, hmem, n, hn, hfirst, hlast, rfl⟩ := CharMap.image?_eq_singleton himage
    have hbeyond := Array.all_eq_true_iff_forall_mem.1 capitals_stayBeyond r hmem
    simp only [stayBeyond, hn, Bool.or_eq_true, Bool.and_eq_true, decide_eq_true_eq,
      beq_iff_eq] at hbeyond
    rcases hbeyond with (⟨hlo, hhi⟩ | ⟨hlo, hhi⟩) | ⟨hsingle, rfl⟩
    · left
      rw [toNat_ofNat (.inl (by omega))]
      omega
    · left
      rw [toNat_ofNat (.inr ⟨by omega, by omega⟩)]
      omega
    · right
      have hdistance : c.toNat - r.first = 0 := by omega
      rw [hdistance]
      decide
  · exact .inl hc

/-- A character that is the small letter of ASCII characters only. -/
def IsPlain (d : Char) : Prop := d.toNat < 0x80 ∧ d ≠ 'i' ∧ d ≠ 'k'

/-- The first character of a text has one small letter, which is plain only
as the small letter of an ASCII character, or it is the dotted capital I. -/
theorem lowercaseFrom_cons (before : List Char) (c : Char) (r : List Char) :
    (∃ d, lowercaseFrom before (c :: r) = d :: lowercaseFrom (c :: before) r ∧
        (IsPlain d → c.toLower = d)) ∨
      lowercaseFrom before (c :: r) = 'i' :: '\u0307' :: lowercaseFrom (c :: before) r := by
  rw [lowercaseFrom]
  split
  · refine .inl ⟨_, rfl, ?_⟩
    rintro ⟨hascii, -⟩
    -- neither form of the sigma is in ASCII
    split at hascii <;> exact absurd hascii (by decide)
  · split
    · exact .inr rfl
    · refine .inl ⟨lowerChar c, rfl, ?_⟩
      rintro ⟨hascii, -, hk⟩
      by_cases hc : c.toNat < 0x80
      · rw [lowerChar, if_pos hc]
      · rcases lowerChar_of_beyond (Nat.not_lt.1 hc) with h | h
        · omega
        · exact absurd h hk

/-- What a text begins with in lower case it begins with itself, -/
theorem exists_prefix_of_lowercaseFrom {pattern before text : List Char}
    (hpattern : ∀ d ∈ pattern, IsPlain d) (h : pattern <+: lowercaseFrom before text) :
    ∃ part, part <+: text ∧ part.map Char.toLower = pattern := by
  induction pattern generalizing before text with
  | nil => exact ⟨[], List.nil_prefix, rfl⟩
  | cons d pattern ih =>
    rw [List.forall_mem_cons] at hpattern
    obtain ⟨hd, hpattern⟩ := hpattern
    cases text with
    | nil => simp [lowercaseFrom] at h
    | cons c r =>
      rcases lowercaseFrom_cons before c r with ⟨d', hlower, hplain⟩ | hlower
      · rw [hlower, List.cons_prefix_cons] at h
        obtain ⟨rfl, h⟩ := h
        obtain ⟨part, hpart, hmap⟩ := ih hpattern h
        refine ⟨c :: part, List.cons_prefix_cons.2 ⟨rfl, hpart⟩, ?_⟩
        rw [List.map_cons, hplain hd, hmap]
      · rw [hlower, List.cons_prefix_cons] at h
        exact absurd h.1 hd.2.1

/-- and what stands in it in lower case stands in it. -/
theorem exists_infix_of_lowercaseFrom {pattern before text : List Char}
    (hpattern : ∀ d ∈ pattern, IsPlain d) (h : pattern <:+: lowercaseFrom before text) :
    ∃ part, part <:+: text ∧ part.map Char.toLower = pattern := by
  -- at the front, or behind the first character
  have hfront {before text : List Char} (h : pattern <+: lowercaseFrom before text) :
      ∃ part, part <:+: text ∧ part.map Char.toLower = pattern := by
    obtain ⟨part, hpart, hmap⟩ := exists_prefix_of_lowercaseFrom hpattern h
    exact ⟨part, hpart.isInfix, hmap⟩
  induction text generalizing before with
  | nil => exact @hfront before [] (by simpa [lowercaseFrom] using h)
  | cons c r ih =>
    have hbehind (h : pattern <:+: lowercaseFrom (c :: before) r) :
        ∃ part, part <:+: c :: r ∧ part.map Char.toLower = pattern := by
      obtain ⟨part, hpart, hmap⟩ := ih h
      exact ⟨part, List.infix_cons hpart, hmap⟩
    rcases lowercaseFrom_cons before c r with ⟨d, hlower, -⟩ | hlower
    · rw [hlower, List.infix_cons_iff, ← hlower] at h
      exact h.elim hfront hbehind
    · rw [hlower, List.infix_cons_iff, ← hlower, List.infix_cons_iff] at h
      rcases h with h | h | h
      · exact hfront h
      · -- no plain character is the dot of the capital I
        cases pattern with
        | nil => exact ⟨[], List.nil_infix, rfl⟩
        | cons d pattern =>
          rw [List.cons_prefix_cons] at h
          have hd := hpattern d List.mem_cons_self
          rw [h.1] at hd
          exact absurd hd.1 (by decide)
      · exact hbehind h

/-! ## Occurrences -/

/-- A pattern occurs between two other texts. -/
theorem occurs_append (before pattern after : List Char) :
    occurs pattern (before ++ pattern ++ after) = true := by
  unfold occurs
  induction before with
  | nil =>
    rw [List.nil_append]
    cases h : pattern ++ after with
    | nil => simp [splitOn?, (List.append_eq_nil_iff.1 h).1]
    | cons c r =>
      have hprefix : pattern.isPrefixOf (c :: r) = true := by
        rw [← h]
        exact List.isPrefixOf_iff_prefix.2 (List.prefix_append _ _)
      simp [splitOn?, hprefix]
  | cons c before ih =>
    rw [List.cons_append, List.cons_append, splitOn?]
    split
    · rfl
    · simpa using ih

/-- To occur is to stand somewhere. -/
theorem occurs_iff {pattern text : List Char} : occurs pattern text = true ↔ pattern <:+: text := by
  constructor
  · intro h
    obtain ⟨⟨before, after⟩, hsplit⟩ := Option.isSome_iff_exists.1 h
    exact ⟨before, after, (splitOn?_eq hsplit).symm⟩
  · rintro ⟨before, after, rfl⟩
    exact occurs_append before pattern after

/-- Only ASCII characters have small letters in ASCII, one by one. -/
theorem ascii_of_toLower {c : Char} (h : c.toLower.toNat < 0x80) : c.toNat < 0x80 := by
  unfold Char.toLower at h
  split at h
  · rename_i hupper
    have : c.toNat ≤ 90 := hupper.2
    omega
  · exact h

/-- In lower case, ASCII characters are the small letters that they are by
themselves, whatever stands around them. -/
theorem lowercaseFrom_of_ascii {part : List Char} (hpart : ∀ c ∈ part, c.toNat < 0x80)
    (before after : List Char) :
    lowercaseFrom before (part ++ after) =
      part.map Char.toLower ++ lowercaseFrom (part.reverse ++ before) after := by
  induction part generalizing before with
  | nil => rfl
  | cons c part ih =>
    rw [List.forall_mem_cons] at hpart
    obtain ⟨hc, hpart⟩ := hpart
    have hsigma : c ≠ 'Σ' := by
      rintro rfl
      exact absurd hc (by decide)
    have hdotted : c ≠ 'İ' := by
      rintro rfl
      exact absurd hc (by decide)
    rw [List.cons_append, lowercaseFrom, if_neg hsigma, if_neg hdotted, lowerChar, if_pos hc,
      ih hpart]
    simp

/-- The lower case of the end of a text ends that of the text. -/
theorem exists_lowercaseFrom_append (before prior rest : List Char) :
    ∃ x, lowercaseFrom before (prior ++ rest) =
      x ++ lowercaseFrom (prior.reverse ++ before) rest := by
  induction prior generalizing before with
  | nil => exact ⟨[], rfl⟩
  | cons c prior ih =>
    obtain ⟨x, hx⟩ := ih (c :: before)
    have hbefore : (c :: prior).reverse ++ before = prior.reverse ++ c :: before := by simp
    rw [List.cons_append, lowercaseFrom, hx, hbefore]
    exact ⟨_, (List.append_assoc ..).symm⟩

/-- **A plain pattern occurs in lower case** exactly if it is the small
letters of a part of the text. -/
theorem occurs_lowercaseFrom_iff {pattern before text : List Char}
    (hpattern : ∀ d ∈ pattern, IsPlain d) :
    occurs pattern (lowercaseFrom before text) = true ↔
      ∃ part, part <:+: text ∧ part.map Char.toLower = pattern := by
  rw [occurs_iff]
  constructor
  · exact exists_infix_of_lowercaseFrom hpattern
  · rintro ⟨part, ⟨x, y, rfl⟩, rfl⟩
    have hascii : ∀ c ∈ part, c.toNat < 0x80 := fun c hc =>
      ascii_of_toLower (hpattern _ (List.mem_map_of_mem hc)).1
    obtain ⟨x', hx'⟩ := exists_lowercaseFrom_append before x (part ++ y)
    rw [List.append_assoc, hx', lowercaseFrom_of_ascii hascii, ← List.append_assoc]
    exact List.infix_append x' _ _

end Text

end PromptTemplate
