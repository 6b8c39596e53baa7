import Mathlib.Data.List.Basic
import PromptTemplate.Text.Surrogate
import PromptTemplate.Proofs.Text.Lowercase
/-!
# PromptTemplate — characters as code units

UTF-16 writes a character as its code, or as a high and a low surrogate
where the code has more than 16 bits. The escapes of JSON name these code
units, so what they spell is decided here, without the formula that puts a
pair together: no text has a surrogate that is not one of a pair
(`encode_eq_cons_high`, `not_isLow_of_encode_eq_cons`), and what is encoded
first in a text is its first character (`encode_eq_append_iff`).
-/

namespace PromptTemplate

namespace Utf16

open Surrogate (isHigh isLow)

/-- The code units of a character. -/
def units (c : Char) : List Nat :=
  if c.toNat < 0x10000 then [c.toNat]
  else [0xD800 + (c.toNat - 0x10000) / 0x400, 0xDC00 + (c.toNat - 0x10000) % 0x400]

/-- The code units of a text. -/
def encode (cs : List Char) : List Nat := cs.flatMap units

@[simp] theorem encode_nil : encode [] = [] := rfl

@[simp] theorem encode_cons (c : Char) (cs : List Char) :
    encode (c :: cs) = units c ++ encode cs := rfl

theorem isHigh_iff {n : Nat} : isHigh n = true ↔ 0xD800 ≤ n ∧ n < 0xDC00 := by
  simp [isHigh]

theorem isLow_iff {n : Nat} : isLow n = true ↔ 0xDC00 ≤ n ∧ n < 0xE000 := by
  simp [isLow]

/-- No surrogate is both. -/
theorem not_isLow_of_isHigh {n : Nat} (h : isHigh n = true) : ¬ isLow n = true := by
  rw [isHigh_iff] at h
  rw [isLow_iff]
  omega

/-- The code of a character is no surrogate, and lies within Unicode. -/
theorem toNat_valid (c : Char) : c.toNat < 0xD800 ∨ 0xDFFF < c.toNat ∧ c.toNat < 0x110000 := c.valid

/-- The code units of a character are one that is no surrogate, or a pair. -/
theorem units_cases (c : Char) :
    (units c = [c.toNat] ∧ ¬ isHigh c.toNat = true ∧ ¬ isLow c.toNat = true) ∨
      ∃ high low, units c = [high, low] ∧ isHigh high = true ∧ isLow low = true := by
  have hvalid := toNat_valid c
  unfold units
  split
  · refine .inl ⟨rfl, ?_⟩
    rw [isHigh_iff, isLow_iff]
    omega
  · refine .inr ⟨_, _, rfl, ?_⟩
    rw [isHigh_iff, isLow_iff]
    omega

/-- A code unit that is no surrogate is the code of a character, -/
theorem units_ofNat {n : Nat} (h : n < 0x10000) (hhigh : ¬ isHigh n = true)
    (hlow : ¬ isLow n = true) : units (Char.ofNat n) = [n] := by
  rw [isHigh_iff] at hhigh
  rw [isLow_iff] at hlow
  have hvalid : n.isValidChar := by
    unfold Nat.isValidChar
    omega
  rw [units, Text.toNat_ofNat hvalid, if_pos h]

/-- **and a pair is the code units** of its character. -/
theorem units_pair {high low : Nat} (hhigh : isHigh high = true) (hlow : isLow low = true) :
    units (Surrogate.pair high low) = [high, low] := by
  have hcode : (Surrogate.pair high low).toNat =
      0x10000 + (high - 0xD800) * 0x400 + (low - 0xDC00) :=
    Text.toNat_ofNat (Surrogate.pair_valid hhigh hlow)
  rw [isHigh_iff] at hhigh
  rw [isLow_iff] at hlow
  rw [units, hcode, if_neg (by omega)]
  simp only [List.cons.injEq, and_true]
  omega

/-- Different characters begin with different code units, or go on with
them. -/
theorem eq_of_units_append {c d : Char} {us vs : List Nat} (h : units c ++ us = units d ++ vs) :
    c = d ∧ us = vs := by
  have hc := toNat_valid c
  have hd := toNat_valid d
  have hcode : c.toNat = d.toNat → c = d := fun hcode => by
    rw [← Char.ofNat_toNat c, hcode, Char.ofNat_toNat]
  unfold units at h
  split at h <;> split at h <;>
    simp only [List.cons_append, List.nil_append, List.cons.injEq] at h
  · exact ⟨hcode h.1, h.2⟩
  · omega
  · omega
  · exact ⟨hcode (by omega), h.2.2⟩

theorem units_ne_nil (c : Char) : units c ≠ [] := by
  obtain ⟨hunits, -⟩ | ⟨high, low, hunits, -⟩ := units_cases c <;> simp [hunits]

/-- **What is encoded first in a text** is its first character. -/
theorem encode_eq_append_iff {c : Char} {cs : List Char} {us : List Nat} :
    encode cs = units c ++ us ↔ ∃ r, cs = c :: r ∧ encode r = us := by
  constructor
  · intro h
    cases cs with
    | nil =>
      rw [encode_nil] at h
      exact absurd (List.append_eq_nil_iff.1 h.symm).1 (units_ne_nil c)
    | cons d r =>
      obtain ⟨rfl, hr⟩ := eq_of_units_append h
      exact ⟨r, rfl, hr⟩
  · rintro ⟨r, rfl, rfl⟩
    rfl

/-- A text without code units is empty. -/
theorem encode_eq_nil {cs : List Char} (h : encode cs = []) : cs = [] := by
  cases cs with
  | nil => rfl
  | cons c r => exact absurd (List.append_eq_nil_iff.1 h).1 (units_ne_nil c)

/-- No text begins with a low surrogate, -/
theorem not_isLow_of_encode_eq_cons {cs : List Char} {n : Nat} {us : List Nat}
    (h : encode cs = n :: us) : ¬ isLow n = true := by
  cases cs with
  | nil => cases h
  | cons c r =>
    rw [encode_cons] at h
    obtain ⟨hunits, -, hlow⟩ | ⟨high, low, hunits, hhigh, -⟩ := units_cases c
    · rw [hunits] at h
      cases h
      exact hlow
    · rw [hunits] at h
      cases h
      exact not_isLow_of_isHigh hhigh

/-- and behind a high surrogate in front of a text stands a low one. -/
theorem encode_eq_cons_high {cs : List Char} {high : Nat} {us : List Nat}
    (h : encode cs = high :: us) (hhigh : isHigh high = true) :
    ∃ low vs, us = low :: vs ∧ isLow low = true := by
  cases cs with
  | nil => cases h
  | cons c r =>
    rw [encode_cons] at h
    obtain ⟨hunits, hnot, -⟩ | ⟨high', low, hunits, -, hlow⟩ := units_cases c
    · rw [hunits] at h
      cases h
      exact absurd hhigh hnot
    · rw [hunits] at h
      cases h
      exact ⟨low, _, rfl, hlow⟩

end Utf16

end PromptTemplate
