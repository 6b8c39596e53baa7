import PromptTemplate.Proofs.Pattern.Case
/-!
# PromptTemplate — what stands around a match

A match takes notice of its neighbours where the pattern asks for a word
boundary. A boundary is sheltered if on one side of it stands a word
character that the pattern has matched itself: then it holds exactly if
the other side is no word character, and a match does not get lost when a
neighbour is replaced by the end of the text or by another character that
is in no word (`Spans.sheltered`). `sheltered` reads this off a pattern.

`needsBeyond` reads off that a pattern cannot match with certain characters
alone.
-/

namespace PromptTemplate

open Text

/-- A class that holds one character of words, up to case. -/
def CharClass.isLetter (k : CharClass) : Bool :=
  match k with
  | ⟨[.single d], false, _⟩ => Text.isWord d
  | _ => false

/-- What one character stands for without regard to case has its small
letter, but for the long s and the Kelvin sign. -/
theorem toLower_of_holdsFolded {c d : Char} (h : CharSet.holdsFolded (.single d) c = true) :
    c.toLower = d.toLower ∨ c = '\u017f' ∨ c = '\u212a' := by
  by_cases hs : c = '\u017f'
  · exact .inr (.inl hs)
  by_cases hk : c = '\u212a'
  · exact .inr (.inr hk)
  left
  have hfold : CharSet.fold c = c.toLower := by
    rw [CharSet.fold, if_neg hs, if_neg hk]
  rw [CharSet.holdsFolded, hfold] at h
  simp only [CharSet.holds, Bool.or_eq_true, beq_iff_eq] at h
  rcases h with (rfl | h) | h
  · rfl
  · rw [← h, (toLower_again c).1]
  · rw [← h, (toLower_again c).2]

/-- What a class of a letter holds are word characters. -/
theorem CharClass.isWord_of_isLetter {k : CharClass} (hk : k.isLetter = true) {c : Char}
    (h : k.holds c = true) : Text.isWord c = true := by
  obtain ⟨sets, negated, folded⟩ := k
  unfold isLetter at hk
  split at hk
  · rename_i d folded' hclass
    cases hclass
    cases folded with
    | false =>
      obtain rfl : c = d := by simpa [holds, CharSet.holds] using h
      exact hk
    | true =>
      have hfolded : CharSet.holdsFolded (.single d) c = true := by simpa [holds] using h
      rcases toLower_of_holdsFolded hfolded with hlower | rfl | rfl
      · rw [isWord_congr hlower]
        exact hk
      · exact isWord_foldings.1
      · exact isWord_foldings.2
  · cases hk

namespace Pattern

/-! ## Boundaries -/

/-- Whether behind a place stands a word character that a match has
consumed, given whether one stands behind the pattern. -/
def opens (behind : Bool) : Pattern → Bool
  | .empty | .boundary => behind
  | .repeated k least _ => 0 < least && k.isLetter
  | .sequence p q => p.opens (q.opens behind)
  | .choice p q => p.opens behind && q.opens behind

/-- Whether in front of a place stands a word character that a match has
consumed, given whether one stands in front of the pattern. -/
def closes (front : Bool) : Pattern → Bool
  | .empty | .boundary => front
  | .repeated k least _ => 0 < least && k.isLetter
  | .sequence p q => q.closes (p.closes front)
  | .choice p q => p.closes front && q.closes front

/-- Whether every boundary of a pattern has a consumed word character on one
side, given whether one stands in front of the pattern and behind it. -/
def sheltered (front behind : Bool) : Pattern → Bool
  | .empty | .repeated _ _ _ => true
  | .boundary => front || behind
  | .sequence p q =>
    p.sheltered front (q.opens behind) && q.sheltered (p.closes front) behind
  | .choice p q => p.sheltered front behind && q.sheltered front behind

variable {p : Pattern} {m : List Char} {l l' r r' : Option Char} {front behind : Bool}

/-- A match of a letter is not empty and has word characters only. -/
theorem Spans.letters {k : CharClass} {least : Nat} {greatest : Option Nat}
    (h : (Pattern.repeated k least greatest).Spans m l r)
    (hletter : (0 < least && k.isLetter) = true) :
    m ≠ [] ∧ ∀ c ∈ m, Text.isWord c = true := by
  rw [Bool.and_eq_true, decide_eq_true_eq] at hletter
  cases h with
  | repeated hholds hleast _ =>
    refine ⟨?_, fun c hc => CharClass.isWord_of_isLetter hletter.2 (hholds c hc)⟩
    rintro rfl
    rw [List.length_nil] at hleast
    omega

/-- The first character of a match that opens a word is a word character;
one that is empty leaves it to what stands behind. -/
theorem Spans.head_of_opens (h : p.Spans m l r) (hopens : p.opens behind = true) :
    m.head?.any Text.isWord = true ∨ (m = [] ∧ behind = true) := by
  induction h generalizing behind with
  | empty => exact .inr ⟨rfl, hopens⟩
  | boundary _ => exact .inr ⟨rfl, hopens⟩
  | @repeated k least greatest m l r hholds hleast hgreatest =>
    obtain ⟨hne, hword⟩ := (Spans.repeated (l := l) (r := r) hholds hleast hgreatest).letters hopens
    obtain ⟨c, rest, rfl⟩ := List.exists_cons_of_ne_nil hne
    exact .inl (hword c List.mem_cons_self)
  | @sequence p q m n l r _ _ ihp ihq =>
    rcases ihp hopens with hm | ⟨rfl, hq⟩
    · left
      rw [List.head?_append]
      cases hhead : m.head? with
      | none =>
        rw [hhead] at hm
        cases hm
      | some c => simpa [hhead] using hm
    · exact ihq hq
  | choiceFirst _ ih =>
    rw [opens, Bool.and_eq_true] at hopens
    exact ih hopens.1
  | choiceSecond _ ih =>
    rw [opens, Bool.and_eq_true] at hopens
    exact ih hopens.2

/-- The last character of a match that closes a word is a word character;
one that is empty leaves it to what stands in front. -/
theorem Spans.last_of_closes (h : p.Spans m l r) (hcloses : p.closes front = true) :
    m.getLast?.any Text.isWord = true ∨ (m = [] ∧ front = true) := by
  induction h generalizing front with
  | empty => exact .inr ⟨rfl, hcloses⟩
  | boundary _ => exact .inr ⟨rfl, hcloses⟩
  | @repeated k least greatest m l r hholds hleast hgreatest =>
    obtain ⟨hne, hword⟩ :=
      (Spans.repeated (l := l) (r := r) hholds hleast hgreatest).letters hcloses
    left
    rw [List.getLast?_eq_some_getLast hne]
    exact hword _ (List.getLast_mem hne)
  | @sequence p q m n l r _ _ ihp ihq =>
    rcases ihq hcloses with hn | ⟨rfl, hp⟩
    · left
      rw [List.getLast?_append]
      cases hlast : n.getLast? with
      | none =>
        rw [hlast] at hn
        cases hn
      | some c => simpa [hlast] using hn
    · rw [List.append_nil]
      exact ihp hp
  | choiceFirst _ ih =>
    rw [closes, Bool.and_eq_true] at hcloses
    exact ih hcloses.1
  | choiceSecond _ ih =>
    rw [closes, Bool.and_eq_true] at hcloses
    exact ih hcloses.2

/-- A neighbour is replaced by itself or by one that is in no word, and if
it is a consumed word character it stays. -/
structure Replaces (consumed : Bool) (c d : Option Char) : Prop where
  keeps : consumed = true → d = c ∧ c.any Text.isWord = true
  fades : d = c ∨ d.any Text.isWord = false

/-- What a sheltered boundary asks for is not lost. -/
theorem ne_of_replaces (hshelter : (front || behind) = true) (hl : Replaces front l l')
    (hr : Replaces behind r r') (h : l.any Text.isWord ≠ r.any Text.isWord) :
    l'.any Text.isWord ≠ r'.any Text.isWord := by
  rcases Bool.or_eq_true_iff.1 hshelter with hfront | hbehind
  · obtain ⟨rfl, hword⟩ := hl.keeps hfront
    rcases hr.fades with rfl | hfade
    · exact h
    · rw [hword, hfade]
      decide
  · obtain ⟨rfl, hword⟩ := hr.keeps hbehind
    rcases hl.fades with rfl | hfade
    · exact h
    · rw [hword, hfade]
      decide

/-- **A sheltered match stands between any neighbours** that take the place
of its own as ends of a text do. -/
theorem Spans.sheltered (h : p.Spans m l r) (hp : p.sheltered front behind = true)
    (hl : Replaces front l l') (hr : Replaces behind r r') : p.Spans m l' r' := by
  induction h generalizing front behind l' r' with
  | empty => exact .empty
  | boundary hbound => exact .boundary (ne_of_replaces hp hl hr hbound)
  | repeated hholds hleast hgreatest => exact .repeated hholds hleast hgreatest
  | @sequence p q m n l r hm hn ihp ihq =>
    rw [Pattern.sheltered, Bool.and_eq_true] at hp
    refine .sequence (ihp hp.1 hl ?_) (ihq hp.2 ?_ hr)
    -- behind the first stretch stands the second one, if it is not empty
    · cases n with
      | nil =>
        refine ⟨?_, hr.fades⟩
        intro hopens
        rcases hn.head_of_opens hopens with hword | ⟨-, hbehind⟩
        · cases hword
        · exact hr.keeps hbehind
      | cons c n =>
        refine ⟨?_, .inl rfl⟩
        intro hopens
        rcases hn.head_of_opens hopens with hword | ⟨hnil, -⟩
        · exact ⟨rfl, hword⟩
        · cases hnil
    · rcases List.eq_nil_or_concat m with rfl | ⟨front', c, rfl⟩
      · refine ⟨?_, hl.fades⟩
        intro hcloses
        rcases hm.last_of_closes hcloses with hword | ⟨-, hfront⟩
        · cases hword
        · exact hl.keeps hfront
      · have hlast : ∀ x : Option Char, (front' ++ [c]).getLast?.or x = some c := by simp
        rw [List.concat_eq_append, hlast, hlast]
        refine ⟨?_, .inl rfl⟩
        intro hcloses
        rcases hm.last_of_closes hcloses with hword | ⟨hnil, -⟩
        · rw [List.concat_eq_append, List.getLast?_concat] at hword
          exact ⟨rfl, hword⟩
        · simp at hnil
  | choiceFirst _ ih =>
    rw [Pattern.sheltered, Bool.and_eq_true] at hp
    exact .choiceFirst (ih hp.1 hl hr)
  | choiceSecond _ ih =>
    rw [Pattern.sheltered, Bool.and_eq_true] at hp
    exact .choiceSecond (ih hp.2 hl hr)

/-! ## Characters that a match needs -/

/-- Whether a pattern can only match with a character that is not among
some. -/
def needsBeyond (allowed : List Char) : Pattern → Bool
  | .empty | .boundary => false
  | .repeated k least _ => 0 < least && allowed.all fun c => !k.holds c
  | .sequence p q => p.needsBeyond allowed || q.needsBeyond allowed
  | .choice p q => p.needsBeyond allowed && q.needsBeyond allowed

/-- What a pattern needs, a match has. -/
theorem Spans.exists_beyond {allowed : List Char} (h : p.Spans m l r)
    (hp : p.needsBeyond allowed = true) : ∃ c ∈ m, c ∉ allowed := by
  induction h with
  | empty => cases hp
  | boundary _ => cases hp
  | @repeated k least greatest m l r hholds hleast _ =>
    rw [needsBeyond, Bool.and_eq_true, decide_eq_true_eq, List.all_eq_true] at hp
    have hne : m ≠ [] := by
      rintro rfl
      rw [List.length_nil] at hleast
      omega
    obtain ⟨c, rest, rfl⟩ := List.exists_cons_of_ne_nil hne
    refine ⟨c, List.mem_cons_self, ?_⟩
    intro hc
    have hnot := hp.2 c hc
    rw [hholds c List.mem_cons_self] at hnot
    cases hnot
  | sequence _ _ ihp ihq =>
    rw [needsBeyond, Bool.or_eq_true] at hp
    rcases hp with hp | hp
    · obtain ⟨c, hc, hbeyond⟩ := ihp hp
      exact ⟨c, List.mem_append_left _ hc, hbeyond⟩
    · obtain ⟨c, hc, hbeyond⟩ := ihq hp
      exact ⟨c, List.mem_append_right _ hc, hbeyond⟩
  | choiceFirst _ ih =>
    rw [needsBeyond, Bool.and_eq_true] at hp
    exact ih hp.1
  | choiceSecond _ ih =>
    rw [needsBeyond, Bool.and_eq_true] at hp
    exact ih hp.2

end Pattern

end PromptTemplate
