import PromptTemplate.Proofs.Pattern.Spans
import PromptTemplate.Proofs.Text.Letter
/-!
# PromptTemplate — patterns without regard to case

A pattern whose classes all fold case cannot tell a letter from its other
case: what it matches, it matches in any mix of small letters and capitals
(`Spans.sameLetters`). The long s and the Kelvin sign need no exception, as
they are their own small letters.
-/

namespace PromptTemplate

open Text

/-! ## Classes -/

/-- Within ASCII, a set has a character in one of its cases if it has the
small letter or the capital. -/
theorem CharSet.holdsFolded_of_ascii (s : CharSet) {c : Char} (hc : c.toNat < 0x80) :
    s.holdsFolded c = (s.holds c.toLower || s.holds c.toLower.toUpper) := by
  have hfold : fold c = c.toLower := by
    have hall : ∀ n < 0x80, fold (Char.ofNat n) = (Char.ofNat n).toLower := by decide
    exact forall_ascii (P := fun c => fold c = c.toLower) hall hc
  have hcase : c = c.toLower ∨ c = c.toLower.toUpper := by
    have hall : ∀ n < 0x80, Char.ofNat n = (Char.ofNat n).toLower ∨
        Char.ofNat n = (Char.ofNat n).toLower.toUpper := by decide
    exact forall_ascii (P := fun c => c = c.toLower ∨ c = c.toLower.toUpper) hall hc
  unfold holdsFolded
  rw [hfold]
  rcases hcase with h | h
  · rw [← h]
    simp
  · rw [← h]
    cases s.holds c <;> simp

theorem CharSet.holdsFolded_congr (s : CharSet) {c d : Char} (h : c.toLower = d.toLower) :
    s.holdsFolded c = s.holdsFolded d := by
  rcases eq_or_ascii_of_toLower_eq h with rfl | ⟨hc, hd⟩
  · rfl
  · rw [holdsFolded_of_ascii s hc, holdsFolded_of_ascii s hd, h]

theorem CharClass.holds_congr {k : CharClass} (hk : k.folded = true) {c d : Char}
    (h : c.toLower = d.toLower) : k.holds c = k.holds d := by
  unfold holds
  simp only [hk, if_true, CharSet.holdsFolded_congr _ h]

namespace Pattern

/-! ## A text in two cases -/

/-- Whether every class of a pattern folds case. -/
def ignoresCase : Pattern → Bool
  | .empty | .boundary => true
  | .repeated k _ _ => k.folded
  | .sequence p q | .choice p q => p.ignoresCase && q.ignoresCase

/-- Neighbours with the same small letter are word characters alike. -/
theorem any_isWord_congr {c d : Option Char} (h : c.map Char.toLower = d.map Char.toLower) :
    c.any Text.isWord = d.any Text.isWord := by
  cases c with
  | none =>
    have hd : d = none := by simpa using h.symm
    rw [hd]
  | some c =>
    cases d with
    | none => simp at h
    | some d => exact isWord_congr (by simpa using h)

/-- **Case does not count** for a pattern that ignores it: it matches any
characters with the small letters of those that it matches. -/
theorem Spans.sameLetters {p : Pattern} {m m' : List Char} {l l' r r' : Option Char}
    (hp : p.ignoresCase = true) (h : p.Spans m l r) (hm : m'.map Char.toLower = m.map Char.toLower)
    (hl : l'.map Char.toLower = l.map Char.toLower)
    (hr : r'.map Char.toLower = r.map Char.toLower) : p.Spans m' l' r' := by
  induction h generalizing m' l' r' with
  | empty =>
    rw [List.map_eq_nil_iff.1 hm]
    exact .empty
  | boundary hbound =>
    rw [List.map_eq_nil_iff.1 hm]
    refine .boundary ?_
    rw [any_isWord_congr hl, any_isWord_congr hr]
    exact hbound
  | @repeated k least greatest m _ _ hholds hleast hgreatest =>
    have hlength : m'.length = m.length := by
      have := congrArg List.length hm
      simpa using this
    refine .repeated ?_ (by omega) (by simpa only [hlength] using hgreatest)
    intro c hc
    obtain ⟨d, hd, hlower⟩ := List.mem_map.1 (hm ▸ List.mem_map_of_mem hc)
    rw [CharClass.holds_congr hp hlower.symm]
    exact hholds d hd
  | @sequence p q m n l r _ _ ihp ihq =>
    rw [ignoresCase, Bool.and_eq_true] at hp
    rw [List.map_append] at hm
    obtain ⟨m', n', rfl, hm, hn⟩ := List.map_eq_append_iff.1 hm
    refine .sequence (ihp hp.1 hm hl ?_) (ihq hp.2 hn ?_ hr)
    · rw [Option.map_or, Option.map_or, hr, ← List.head?_map, ← List.head?_map, hn]
    · rw [Option.map_or, Option.map_or, hl, ← List.getLast?_map, ← List.getLast?_map, hm]
  | choiceFirst _ ih =>
    rw [ignoresCase, Bool.and_eq_true] at hp
    exact .choiceFirst (ih hp.1 hm hl hr)
  | choiceSecond _ ih =>
    rw [ignoresCase, Bool.and_eq_true] at hp
    exact .choiceSecond (ih hp.2 hm hl hr)

/-! ## Words -/

/-- A word in any case, and a pattern behind it. -/
def word (cs : List Char) (q : Pattern) : Pattern :=
  cs.foldr (fun c q => .sequence (.repeated ⟨[.single c], false, true⟩ 1 (some 1)) q) q

/-- A word is matched by itself. -/
theorem Spans.word (cs : List Char) {m : List Char} {q : Pattern} {l r : Option Char}
    (h : q.Spans m (cs.getLast?.or l) r) : (word cs q).Spans (cs ++ m) l r := by
  induction cs generalizing l with
  | nil => exact h
  | cons c cs ih =>
    have hself : CharClass.holds ⟨[.single c], false, true⟩ c = true := by
      simp [CharClass.holds, CharSet.holdsFolded, CharSet.holds]
    have hone : (Pattern.repeated ⟨[.single c], false, true⟩ 1 (some 1)).Spans [c] l
        ((cs ++ m).head?.or r) := .repeated (by simpa using hself) (by simp) (by simp)
    rw [getLast?_cons_or] at h
    exact .sequence (m := [c]) hone (ih h)

/-- What need not be there may be left out. -/
theorem Spans.skip {k : CharClass} {greatest : Option Nat} {q : Pattern} {m : List Char}
    {l r : Option Char} (h : q.Spans m l r) :
    (Pattern.sequence (.repeated k 0 greatest) q).Spans m l r :=
  .sequence (m := []) (.repeated (by simp) (by simp) (by simp)) h

end Pattern

end PromptTemplate
