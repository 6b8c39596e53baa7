import PromptTemplate.Text.Letter
/-!
# PromptTemplate — letters in two cases

Two characters count as one letter if they have the same small letter.
Within ASCII what is said about a letter is a look at every character
(`forall_ascii`); beyond ASCII characters with the same small letter are
equal (`eq_or_ascii_of_toLower_eq`). Both cases of a letter are word
characters or neither is: `isWord_congr`.

Two signs beyond ASCII stand for a letter of ASCII in patterns, the long s
and the Kelvin sign. That they are word characters is a look at the table
(`isWord_foldings`), which for that is read as a list of ranges.
-/

namespace PromptTemplate

namespace Text

/-! ## Small letters -/

/-- What holds of the code points of ASCII holds of its characters. -/
theorem forall_ascii {P : Char → Prop} (h : ∀ n < 0x80, P (Char.ofNat n)) {c : Char}
    (hc : c.toNat < 0x80) : P c := by
  have hP := h c.toNat hc
  rwa [Char.ofNat_toNat] at hP

/-- A character with another small letter is a capital of ASCII. -/
theorem ascii_of_toLower_ne {c : Char} (h : c.toLower ≠ c) :
    c.toNat < 0x80 ∧ c.toLower.toNat < 0x80 := by
  have hc : c.toNat < 0x80 := by
    rcases Nat.lt_or_ge c.toNat 0x80 with hc | hbeyond
    · exact hc
    · refine absurd ?_ h
      unfold Char.toLower
      rw [dif_neg]
      rintro ⟨-, hlast⟩
      have hle : c.toNat ≤ 'Z'.toNat := hlast
      have hz : 'Z'.toNat = 90 := by decide
      omega
  refine ⟨hc, ?_⟩
  have hall : ∀ n < 0x80, (Char.ofNat n).toLower.toNat < 0x80 := by decide
  exact forall_ascii (P := fun c => c.toLower.toNat < 0x80) hall hc

/-- Two characters with the same small letter are equal or both ASCII. -/
theorem eq_or_ascii_of_toLower_eq {c d : Char} (h : c.toLower = d.toLower) :
    c = d ∨ (c.toNat < 0x80 ∧ d.toNat < 0x80) := by
  by_cases hc : c.toLower = c
  · by_cases hd : d.toLower = d
    · exact .inl (by rw [← hc, h, hd])
    · obtain ⟨hd, hlower⟩ := ascii_of_toLower_ne hd
      rw [← h, hc] at hlower
      exact .inr ⟨hlower, hd⟩
  · obtain ⟨hc, hlower⟩ := ascii_of_toLower_ne hc
    by_cases hd : d.toLower = d
    · rw [h, hd] at hlower
      exact .inr ⟨hc, hlower⟩
    · exact .inr ⟨hc, (ascii_of_toLower_ne hd).1⟩

/-- Beyond ASCII a character is its own capital and small letter. -/
theorem eq_of_beyond {c : Char} (hc : 0x80 ≤ c.toNat) : c.toLower = c ∧ c.toUpper = c := by
  constructor
  · by_cases h : c.toLower = c
    · exact h
    · have hascii := (ascii_of_toLower_ne h).1
      omega
  · unfold Char.toUpper
    rw [dif_neg]
    rintro ⟨-, hlast⟩
    have hle : c.toNat ≤ 'z'.toNat := hlast
    have hz : 'z'.toNat = 122 := by decide
    omega

/-- Taking the small letter once more, or after the capital, changes
nothing. -/
theorem toLower_again (c : Char) :
    c.toLower.toLower = c.toLower ∧ c.toLower.toUpper.toLower = c.toLower := by
  rcases Nat.lt_or_ge c.toNat 0x80 with hc | hc
  · have hall : ∀ n < 0x80, (Char.ofNat n).toLower.toLower = (Char.ofNat n).toLower ∧
        (Char.ofNat n).toLower.toUpper.toLower = (Char.ofNat n).toLower := by decide
    exact forall_ascii (P := fun c => c.toLower.toLower = c.toLower ∧
      c.toLower.toUpper.toLower = c.toLower) hall hc
  · obtain ⟨hlower, hupper⟩ := eq_of_beyond hc
    simp only [hlower, hupper, and_self]

/-- Whether a given character of ASCII is a word character is decided
without the table. -/
theorem isWord_ascii_eq {c : Char} {b : Bool} (hc : c.toNat < 0x80)
    (h : (c.isAlphanum || c == '_') = b) : isWord c = b := by
  rw [isWord_of_ascii hc, h]

/-- Both cases of a letter are word characters. -/
theorem isWord_congr {c d : Char} (h : c.toLower = d.toLower) : isWord c = isWord d := by
  have hlower : ∀ {c : Char}, c.toNat < 0x80 →
      isWord c = (c.toLower.isAlphanum || c.toLower == '_') := by
    intro c hc
    rw [isWord_of_ascii hc]
    have hall : ∀ n < 0x80, ((Char.ofNat n).isAlphanum || Char.ofNat n == '_') =
        ((Char.ofNat n).toLower.isAlphanum || (Char.ofNat n).toLower == '_') := by decide
    exact forall_ascii (P := fun c => (c.isAlphanum || c == '_') =
      (c.toLower.isAlphanum || c.toLower == '_')) hall hc
  rcases eq_or_ascii_of_toLower_eq h with rfl | ⟨hc, hd⟩
  · rfl
  · rw [hlower hc, hlower hd, h]

end Text

namespace Ranges

/-! ## Word characters beyond ASCII -/

/-- The ranges that are read from characters, given what has been read of
the first one. -/
def pairs (first last : Option Nat) (cs : List Char) : List (Nat × Nat) :=
  match cs with
  | [] => last.toList.map fun n => (first.getD n, n)
  | c :: cs =>
    match Hex.value? c with
    | some d => pairs first (some (last.getD 0 * 16 + d)) cs
    | none =>
      if c = '-' then pairs last none cs
      else match last with
        | none => pairs first none cs
        | some n => (first.getD n, n) :: pairs none none cs

/-- Reading on adds the ranges of what is left. -/
theorem foldl_step (cs : List Char) (r : Reading) :
    (cs.foldl Reading.step r).close.done.toList = r.done.toList ++ pairs r.first r.last cs := by
  induction cs generalizing r with
  | nil =>
    obtain ⟨first, last, done⟩ := r
    cases last <;> simp [Reading.close, pairs]
  | cons c cs ih =>
    obtain ⟨first, last, done⟩ := r
    rw [List.foldl_cons, ih]
    show _ = done.toList ++ pairs first last (c :: cs)
    rw [pairs.eq_def first last (c :: cs), Reading.step]
    dsimp only
    cases Hex.value? c with
    | some d => rfl
    | none =>
      by_cases hc : c = '-'
      · simp [hc]
      · cases last <;> simp [hc, Reading.close]

/-- A table is read off the characters of its text. -/
theorem ofText_ofList (cs : List Char) :
    ofText (String.ofList cs) = ⟨(pairs none none cs).toArray⟩ := by
  have hread := foldl_step cs ⟨none, none, #[]⟩
  rw [ofText, String.foldl_eq_foldl_toList, String.toList_ofList, Ranges.mk.injEq,
    ← Array.toList_inj, hread]
  simp

end Ranges

namespace Text

/-- The long s and the Kelvin sign are word characters. -/
theorem isWord_foldings : isWord '\u017f' = true ∧ isWord '\u212a' = true := by
  have hranges : wordRanges.contains '\u017f' = true ∧
      wordRanges.contains '\u212a' = true := by
    unfold wordRanges
    rw [Ranges.ofText_ofList]
    decide +kernel
  unfold isWord
  rw [if_neg (by decide), if_neg (by decide)]
  exact hranges

end Text

end PromptTemplate
