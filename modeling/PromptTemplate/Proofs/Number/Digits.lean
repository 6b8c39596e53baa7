import PromptTemplate.Number.Reader
import PromptTemplate.Proofs.Text.Letter
/-!
# PromptTemplate — numbers and their digits

The digits of a number, as they are written, are digits of its value
(`natOfDigits_digitText`) without a superfluous zero in front
(`head?_digitText_ne`). So a whole number of 64 bits reads back exactly:
`parse?_digitText`.

Every number is written with digits, signs, a point and the letter of an
exponent only (`mem_numeralChars_of_mem_text`).
-/

namespace PromptTemplate

namespace Number

open Double

variable {n : Nat}

theorem isDigit_of_mem_digitText {c : Char} (h : c ∈ digitText n) : c.isDigit = true :=
  Nat.isDigit_of_mem_toDigits (by omega) (by omega) h

theorem digitText_ne_nil : digitText n ≠ [] := Nat.toDigits_ne_nil

theorem natOfDigits_digitText (n : Nat) : natOfDigits (digitText n) = n := by
  have hfold : ∀ ds, natOfDigits ds = Nat.ofDigitChars 10 ds 0 := by
    intro ds
    rw [natOfDigits, Nat.ofDigitChars_eq_foldl]
    simp only [Nat.mul_comm]
  rw [hfold]
  exact Nat.ofDigitChars_ten_toDigits

/-- Only zero is written with a zero in front. -/
theorem head?_digitText_ne (h : 0 < n) : (digitText n).head? ≠ some '0' := by
  induction n using Nat.strongRecOn with
  | ind n ih =>
    by_cases hn : n < 10
    · rw [digitText, Nat.toDigits_of_lt_base hn]
      simp
      omega
    · rw [digitText, Nat.toDigits_of_base_le (by omega) (by omega)]
      have hfront := ih (n / 10) (by omega) (by omega)
      obtain ⟨d, ds, hds⟩ := List.exists_cons_of_ne_nil (@digitText_ne_nil (n / 10))
      rw [hds] at hfront
      rw [digitText] at hds
      simpa [hds] using hfront

/-- **A whole number reads back** as it was written. -/
theorem parse?_digitText (h : -(1 <<< 63) ≤ (n : Int) ∧ (n : Int) < 1 <<< 64) :
    parse? (digitText n) = some (.integer n h) := by
  have hdigits : ∀ c ∈ digitText n, c.isDigit = true := fun c => isDigit_of_mem_digitText
  have hspan : spanDigits (digitText n) = (digitText n, []) := by
    have htake := @List.takeWhile_append_of_pos _ Char.isDigit _ [] hdigits
    have hdrop := @List.dropWhile_append_of_pos _ Char.isDigit _ [] hdigits
    rw [List.append_nil] at htake hdrop
    rw [spanDigits, htake, hdrop]
    simp
  have hzero : ¬ ((digitText n).head? = some '0' ∧ 1 < (digitText n).length) := by
    rintro ⟨hhead, hlength⟩
    rcases Nat.eq_zero_or_pos n with rfl | hpos
    · exact absurd hlength (by decide)
    · exact head?_digitText_ne hpos hhead
  have hempty : (digitText n).isEmpty = false := by simp [digitText_ne_nil]
  have hsign : read? (digitText n) = readMagnitude? false (digitText n) := by
    unfold read?
    split
    · rename_i r hr
      exact absurd (hdigits '-' (by simp [hr])) (by decide)
    · rfl
  have hwhole : ofWhole? false (digitText n) = some (.integer n h) := by
    unfold ofWhole?
    rw [if_neg (by decide), natOfDigits_digitText, ofInt?, dif_pos h]
  rw [parse?, hsign, readMagnitude?, hspan]
  simp [hempty, hzero, readFraction?, readExponent?, hwhole]

/-! ## The characters of numbers -/

/-- The characters that numbers are written with. -/
def numeralChars : List Char :=
  ['0', '1', '2', '3', '4', '5', '6', '7', '8', '9', '-', '+', '.', 'e']

theorem mem_numeralChars_of_isDigit {c : Char} (h : c.isDigit = true) : c ∈ numeralChars := by
  have hc : c.toNat < 0x80 := by
    have hrange : '0'.toNat ≤ c.toNat ∧ c.toNat ≤ '9'.toNat := by
      simpa [Char.isDigit, UInt32.le_iff_toNat_le] using h
    have hnine : '9'.toNat = 57 := by decide
    omega
  have hall : ∀ n < 0x80, (Char.ofNat n).isDigit = true → Char.ofNat n ∈ numeralChars := by decide
  exact Text.forall_ascii (P := fun c => c.isDigit = true → c ∈ numeralChars) hall hc h

theorem mem_numeralChars_of_mem_digitText {c : Char} (h : c ∈ digitText n) : c ∈ numeralChars :=
  mem_numeralChars_of_isDigit (isDigit_of_mem_digitText h)

/-- The positional text of a decimal has digits and a point. -/
theorem mem_numeralChars_of_mem_positional {x : Decimal} {c : Char} (h : c ∈ x.positional) :
    c ∈ numeralChars := by
  have hzero : '0' ∈ numeralChars := by simp [numeralChars]
  have hpoint : '.' ∈ numeralChars := by simp [numeralChars]
  have hdigits : ∀ c ∈ digitText x.digits, c ∈ numeralChars :=
    fun c => mem_numeralChars_of_mem_digitText
  unfold Decimal.positional at h
  dsimp only at h
  split at h
  · simp only [List.mem_append, List.mem_replicate, List.mem_cons, List.not_mem_nil, or_false] at h
    rcases h with (h | ⟨-, rfl⟩) | rfl | rfl
    · exact hdigits c h
    · exact hzero
    · exact hpoint
    · exact hzero
  · split at h
    · simp only [List.mem_append, List.mem_singleton] at h
      rcases h with (h | rfl) | h
      · exact hdigits c (List.mem_of_mem_take h)
      · exact hpoint
      · exact hdigits c (List.mem_of_mem_drop h)
    · simp only [List.mem_append, List.mem_replicate, List.mem_cons, List.not_mem_nil,
        or_false] at h
      rcases h with ((rfl | rfl) | ⟨-, rfl⟩) | h
      · exact hzero
      · exact hpoint
      · exact hzero
      · exact hdigits c h

/-- The text of a decimal has digits, a point, and an exponent with its
sign. -/
theorem mem_numeralChars_of_mem_decimalText {x : Decimal} {c : Char} (h : c ∈ x.text) :
    c ∈ numeralChars := by
  have hpoint : '.' ∈ numeralChars := by simp [numeralChars]
  have hdigits : ∀ c ∈ digitText x.digits, c ∈ numeralChars :=
    fun c => mem_numeralChars_of_mem_digitText
  unfold Decimal.text at h
  dsimp only at h
  split at h
  · exact mem_numeralChars_of_mem_positional h
  · simp only [List.mem_append] at h
    rcases h with ((h | h) | h) | h
    · exact hdigits c (List.mem_of_mem_take h)
    · split at h
      · cases h
      · rcases List.mem_cons.1 h with rfl | h
        · exact hpoint
        · exact hdigits c (List.mem_of_mem_drop h)
    · split at h
      · have hall : ∀ c ∈ ['e', '-'], c ∈ numeralChars := by simp [numeralChars]
        exact hall c h
      · have hall : ∀ c ∈ ['e', '+'], c ∈ numeralChars := by simp [numeralChars]
        exact hall c h
    · exact mem_numeralChars_of_mem_digitText h

/-- **The characters of a number** are few. -/
theorem mem_numeralChars_of_mem_text {x : Number} {c : Char} (h : c ∈ x.text.toList) :
    c ∈ numeralChars := by
  have hminus : '-' ∈ numeralChars := by simp [numeralChars]
  cases x with
  | integer n hn =>
    have hmem : c ∈ (if n < 0 then '-' :: digitText n.natAbs else digitText n.natAbs) := by
      simpa only [text, integerText, String.toList_ofList] using h
    split at hmem
    · rcases List.mem_cons.1 hmem with rfl | hmem
      · exact hminus
      · exact mem_numeralChars_of_mem_digitText hmem
    · exact mem_numeralChars_of_mem_digitText hmem
  | double d =>
    have hbody : ∀ c ∈ (if d.isZero then ['0', '.', '0'] else d.shortest.text),
        c ∈ numeralChars := by
      intro c hc
      split at hc
      · have hall : ∀ c ∈ ['0', '.', '0'], c ∈ numeralChars := by simp [numeralChars]
        exact hall c hc
      · exact mem_numeralChars_of_mem_decimalText hc
    have hmem : c ∈ d.text.toList := h
    rw [Double.text, textWith, String.toList_ofList] at hmem
    split at hmem
    · rcases List.mem_cons.1 hmem with rfl | hmem
      · exact hminus
      · exact hbody c hmem
    · exact hbody c hmem

end Number

end PromptTemplate
