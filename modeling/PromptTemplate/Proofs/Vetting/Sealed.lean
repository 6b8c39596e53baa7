import PromptTemplate.Proofs.Interpolation.Parts
import PromptTemplate.Proofs.Number.Digits
import PromptTemplate.Proofs.Pattern.Shelter
import PromptTemplate.Proofs.Vetting.Blocked
/-!
# PromptTemplate — what has passed stays clean

A text that passes has no match of a blocked pattern in it, and none comes
about within it when it is put into another text: `Sealed` says so of its
characters. The patterns look at the neighbours of a match for the ends of
words only, and every boundary they ask for is sheltered
(`textRules_sheltered`), so that the end of a text is as good for a match
as any neighbour. Wordings of numbers, truth values and objects are not
vetted, but do not have the characters that a pattern needs.

Of the parts of a filled text, every whole one is sealed if the text and
the variables pass: `sealed_of_origin`.
-/

namespace PromptTemplate

open Interpolation

namespace Vetting

/-! ## Sealed characters -/

/-- The characters of the wordings of values that are neither strings nor
arrays. -/
def wordingChars : List Char := Number.numeralChars ++
  ['[', ']', ' ', 'O', 'a', 'b', 'c', 'e', 'f', 'h', 'i', 'j', 'l', 'n', 'o', 'p', 'r', 's', 't',
    'u', 'w']

/-- Every boundary in a pattern that is blocked in texts is sheltered, and
every such pattern needs more characters than those of wordings. -/
theorem textRules_sheltered : (DenyList.text.rules.all fun rule =>
    rule.pattern.sheltered false false && rule.pattern.needsBeyond wordingChars) = true := by
  decide +kernel

/-- No pattern that is blocked in texts matches within these characters,
whatever stands around them. -/
def Sealed (cs : List Char) : Prop :=
  ∀ rule ∈ DenyList.text.rules, ∀ a m b l r, cs = a ++ m ++ b →
    ¬ rule.pattern.Spans m (a.getLast?.or l) (b.head?.or r)

/-- A neighbour that is in no word takes the place of any other, where one
has to be asked for at all. -/
theorem replaces_or (x l : Option Char) {l' : Option Char} (h : l'.any Text.isWord = false) :
    Pattern.Replaces false (x.or l) (x.or l') where
  keeps hconsumed := by cases hconsumed
  fades := by
    cases x with
    | none => exact .inr h
    | some c => exact .inl rfl

/-- **A stretch of a text that passes is sealed** if its neighbours in the
text are in no word. -/
theorem sealed_of_stretch {s : String} {before cs after : List Char} (h : checkText s = .ok ())
    (hplace : s.toList = before ++ cs ++ after) (hfront : before.getLast?.any Text.isWord = false)
    (hbehind : after.head?.any Text.isWord = false) : Sealed cs := by
  intro rule hrule a m b l r hcs hspan
  have hrules := List.all_eq_true.1 textRules_sheltered rule hrule
  have hsheltered := (Bool.and_eq_true_iff.1 hrules).1
  have hinside : rule.pattern.Spans m (a.getLast?.or before.getLast?)
      (b.head?.or after.head?) :=
    hspan.sheltered hsheltered (replaces_or _ _ hfront) (replaces_or _ _ hbehind)
  have hoccurs : rule.pattern.occurs s = true := by
    refine Pattern.occurs_iff.2 ⟨before ++ a, m, b ++ after, ?_, ?_⟩
    · rw [hplace, hcs]
      simp
    · rw [List.getLast?_append, List.head?_append]
      exact hinside
  have hclean := checkText_eq_ok.1 h rule hrule
  rw [hoccurs] at hclean
  cases hclean

/-- A text that passes is sealed. -/
theorem sealed_of_checkText {s : String} (h : checkText s = .ok ()) : Sealed s.toList := by
  have hplace : s.toList = [] ++ s.toList ++ [] := by simp
  exact sealed_of_stretch h hplace rfl rfl

/-- Characters that no pattern can do with alone are sealed. -/
theorem sealed_of_allowed {allowed cs : List Char}
    (hneeds : ∀ rule ∈ DenyList.text.rules, rule.pattern.needsBeyond allowed = true)
    (hcs : ∀ c ∈ cs, c ∈ allowed) : Sealed cs := by
  intro rule hrule a m b l r heq hspan
  obtain ⟨c, hc, hbeyond⟩ := hspan.exists_beyond (hneeds rule hrule)
  refine hbeyond (hcs c ?_)
  rw [heq]
  exact List.mem_append_left _ (List.mem_append_right _ hc)

/-- The wording of a value that is no string and no array is sealed. -/
theorem sealed_fullText {v : Value} (hstring : ∀ s, v ≠ .string s)
    (harray : ∀ items, v ≠ .array items) : Sealed (fullText v).toList := by
  have hwording : ∀ {cs : List Char}, (∀ c ∈ cs, c ∈ wordingChars) → Sealed cs := by
    refine sealed_of_allowed fun rule hrule => ?_
    have hrules := List.all_eq_true.1 textRules_sheltered rule hrule
    exact (Bool.and_eq_true_iff.1 hrules).2
  have hallowed : ∀ {cs : List Char}, cs.all wordingChars.contains = true →
      ∀ c ∈ cs, c ∈ wordingChars := by
    intro cs hall c hc
    exact List.contains_iff_mem.1 (List.all_eq_true.1 hall c hc)
  cases v with
  | null => exact hwording (hallowed (by decide))
  | bool b => cases b <;> exact hwording (hallowed (by decide))
  | number n =>
    refine hwording fun c hc => List.mem_append_left _ ?_
    exact Number.mem_numeralChars_of_mem_text hc
  | string s => exact absurd rfl (hstring s)
  | array items => exact absurd rfl (harray items)
  | object fields =>
    have htext : fullText (.object fields) =
        "[Object with " ++ toString fields.size ++ " properties]" := rfl
    have hopening : ∀ c ∈ "[Object with ".toList, c ∈ wordingChars := hallowed (by decide)
    have hclosing : ∀ c ∈ " properties]".toList, c ∈ wordingChars := hallowed (by decide)
    refine hwording fun c hc => ?_
    rw [htext, String.toList_append, String.toList_append, List.mem_append, List.mem_append] at hc
    rcases hc with (hc | hc) | hc
    · exact hopening c hc
    · have hdigit : c ∈ Nat.toDigits 10 fields.size := by simpa using hc
      exact List.mem_append_left _ (Number.mem_numeralChars_of_mem_digitText hdigit)
    · exact hclosing c hc

/-! ## Whole parts -/

variable {p : Policy} {vars : Table Value}

/-- A neighbour that can only be one character is in no word if that is in
none. -/
theorem any_isWord_eq_false {c : Option Char} {d : Char} (h : ∀ x ∈ c, x = d)
    (hd : Text.isWord d = false) : c.any Text.isWord = false := by
  cases c with
  | none => rfl
  | some x =>
    rw [h x rfl]
    exact hd

/-- **A whole part of a filled text is sealed** if the text and the
variables pass. -/
theorem sealed_of_origin {text : String} {cs : List Char} (h : Origin vars text cs)
    (htext : checkText text = .ok ()) (hvars : checkVariables p vars = .ok ()) : Sealed cs := by
  cases h with
  | stretch hplace hfront hbehind =>
    -- a reference ends with a brace and begins with a dollar sign
    have hbrace : Text.isWord '\x7d' = false := Text.isWord_ascii_eq (by decide) (by decide)
    have hdollar : Text.isWord '$' = false := Text.isWord_ascii_eq (by decide) (by decide)
    exact sealed_of_stretch htext hplace (any_isWord_eq_false hfront hbrace)
      (any_isWord_eq_false hbehind hdollar)
  | inserted hholds => exact sealed_of_checkText (checkText_of_checkVariables hvars hholds)
  | wording hstring harray => exact sealed_fullText hstring harray

/-- Every match of a blocked pattern in a text of parts reaches out of each
whole part, at its front or at its end. -/
def AcrossSeams (parts : List Part) (t : String) : Prop :=
  ∀ rule ∈ DenyList.text.rules, ∀ a m b, t.toList = a ++ m ++ b →
    rule.pattern.Spans m a.getLast? b.head? → ∀ front part behind,
      parts = front ++ part :: behind → part.whole = true →
        a.length < (charsOf front).length ∨ b.length < (charsOf behind).length

/-- **Blocked content comes about at seams only** in a filled text, if the
text and the variables pass. -/
theorem acrossSeams_of_passes {text t : String} (htext : checkText text = .ok ())
    (hvars : checkVariables p vars = .ok ()) (hfilled : substituteText vars text = .ok t) :
    AcrossSeams (textParts vars text) t := by
  intro rule hrule a m b ht hspan front part behind hparts hwhole
  rcases Nat.lt_or_ge a.length (charsOf front).length with hlt | hfront
  · exact .inl hlt
  rcases Nat.lt_or_ge b.length (charsOf behind).length with hlt | hbehind
  · exact .inr hlt
  exfalso
  have hchars : t.toList = charsOf front ++ (part.chars ++ charsOf behind) := by
    rw [← charsOf_textParts hfilled, hparts, charsOf_append, charsOf_cons]
  -- the match lies within the part: what is in front of it begins with all
  -- that is in front of the part, and so on behind
  obtain ⟨a', rfl⟩ : charsOf front <+: a :=
    List.prefix_of_prefix_length_le ⟨_, hchars.symm⟩ ⟨m ++ b, by rw [ht]; simp⟩ hfront
  obtain ⟨b', rfl⟩ : charsOf behind <:+ b :=
    List.suffix_of_suffix_length_le ⟨charsOf front ++ part.chars, by rw [hchars]; simp⟩
      ⟨_, ht.symm⟩ hbehind
  have hpart : part.chars = a' ++ m ++ b' := by
    rw [hchars] at ht
    have hcancel : charsOf front ++ (part.chars ++ charsOf behind) =
        charsOf front ++ ((a' ++ m ++ b') ++ charsOf behind) := by
      rw [ht]
      simp
    exact List.append_cancel_right (List.append_cancel_left hcancel)
  have hmem : part ∈ textParts vars text := by
    rw [hparts]
    exact List.mem_append_right _ List.mem_cons_self
  have hsealed := sealed_of_origin (origin_of_mem_textParts hmem hwhole) htext hvars
  rw [List.getLast?_append, List.head?_append] at hspan
  exact hsealed rule hrule a' m b' _ _ hpart hspan

end Vetting

end PromptTemplate
