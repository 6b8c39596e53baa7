import Mathlib.Tactic.Ring
import PromptTemplate.Number.Basic
/-!
# PromptTemplate — integers as doubles

An integer is compared as the double nearest to it. That double is a whole
number of ones again: `nearestInt n`, the integer of 53 significant bits
nearest to `n`, a tie going to the even one (`units_ofInt`). Rounding is
odd, keeps the order (`nearestInt_mono`) and every integer below `2 ^ 53`,
leads from no other integer to one of these (`nearestInt_eq_iff`), and moves
an integer of 64 bits by a thousand and twenty-four at most
(`two_mul_dist_nearestInt`).

For a number as a position this says that its double tells the position as
long as that is below `2 ^ 53`: `toInt?_eq_some_iff`.
-/

namespace PromptTemplate

/-! ## Rounded quotients -/

section Quotients

variable {m n den : Nat}

/-- The rounded quotient is the next one only above the half, or at the half
of an odd one. -/
theorem roundDiv_eq (num den : Nat) :
    roundDiv num den =
      if den < 2 * (num % den) ∨ 2 * (num % den) = den ∧ num / den % 2 = 1 then num / den + 1
      else num / den := by
  simp [roundDiv]

/-- A rounded quotient is the quotient or the next number. -/
theorem roundDiv_bounds (num den : Nat) :
    num / den ≤ roundDiv num den ∧ roundDiv num den ≤ num / den + 1 := by
  rw [roundDiv_eq]
  split <;> omega

/-- Rounding moves a quotient by a half at most. -/
theorem roundDiv_near (num : Nat) (h : 0 < den) :
    2 * (roundDiv num den * den) ≤ 2 * num + den ∧ 2 * num ≤ 2 * (roundDiv num den * den) + den := by
  have hsplit : num / den * den + num % den = num := Nat.div_add_mod' num den
  have hlt : num % den < den := Nat.mod_lt num h
  rw [roundDiv_eq]
  split
  · rw [Nat.add_mul, Nat.one_mul]
    omega
  · omega

/-- A common factor changes no quotient. -/
theorem roundDiv_mul_right (num den : Nat) {k : Nat} (h : 0 < k) :
    roundDiv (num * k) (den * k) = roundDiv num den := by
  have hhalf : den * k < 2 * (num % den * k) ↔ den < 2 * (num % den) := by
    rw [← Nat.mul_assoc, Nat.mul_lt_mul_right h]
  have htie : 2 * (num % den * k) = den * k ↔ 2 * (num % den) = den := by
    rw [← Nat.mul_assoc, Nat.mul_left_inj h.ne']
  simp only [roundDiv_eq, Nat.mul_mod_mul_right, Nat.mul_div_mul_right _ _ h, hhalf, htie]

/-- What is a multiple needs no rounding. -/
theorem roundDiv_mul_self (q : Nat) (h : 0 < den) : roundDiv (q * den) den = q := by
  rw [roundDiv_eq, Nat.mul_mod_left, Nat.mul_div_cancel _ h, if_neg (by omega)]

/-- Rounding keeps the order of quotients. -/
theorem roundDiv_mono (den : Nat) (h : m ≤ n) : roundDiv m den ≤ roundDiv n den := by
  have hquotient : m / den ≤ n / den := Nat.div_le_div_right h
  rcases hquotient.lt_or_eq with hlt | heq
  · have hm := (roundDiv_bounds m den).2
    have hn := (roundDiv_bounds n den).1
    omega
  · -- of one quotient, the greater number has the greater remainder
    have hmod : m % den ≤ n % den := by
      have hm := Nat.div_add_mod' m den
      have hn := Nat.div_add_mod' n den
      rw [heq] at hm
      omega
    rw [roundDiv_eq, roundDiv_eq, heq]
    split
    · rw [if_pos (by omega)]
    · split <;> omega

end Quotients

namespace Double

variable {m n : Nat}

/-! ## The nearest number of 53 significant bits -/

/-- The natural number of 53 significant bits nearest to a natural number; a
tie goes to the even one. -/
def nearestNat (n : Nat) : Nat :=
  let unit := 2 ^ (n.log2 - 52)
  roundDiv n unit * unit

/-- The integer of 53 significant bits nearest to an integer. -/
def nearestInt (n : Int) : Int := if n < 0 then -(nearestNat n.natAbs : Int) else nearestNat n.natAbs

/-- Below `2 ^ 53` nothing is rounded. -/
theorem nearestNat_eq_self (h : n ≤ 2 ^ 53) : nearestNat n = n := by
  rcases h.lt_or_eq with hlt | rfl
  · have hlog : n.log2 - 52 = 0 := by
      by_cases hn : n = 0
      · subst hn
        rfl
      · have := (Nat.log2_lt hn).2 hlt
        omega
    rw [nearestNat, hlog, pow_zero, mul_one]
    simpa using roundDiv_mul_self n Nat.one_pos
  · decide

/-- Rounding stays between the powers of two around a number. -/
theorem nearestNat_bounds (h : n ≠ 0) :
    2 ^ n.log2 ≤ nearestNat n ∧ nearestNat n ≤ 2 ^ (n.log2 + 1) := by
  have hlow : 2 ^ n.log2 ≤ n := Nat.log2_self_le h
  have hhigh : n < 2 ^ (n.log2 + 1) := Nat.lt_log2_self
  rcases Nat.lt_or_ge n.log2 52 with hsmall | hlarge
  · have hexact : n ≤ 2 ^ 53 :=
      hhigh.le.trans (Nat.pow_le_pow_right (by decide) (by omega))
    rw [nearestNat_eq_self hexact]
    exact ⟨hlow, hhigh.le⟩
  · -- both powers are multiples of the unit, so that rounding cannot pass them
    obtain ⟨k, hk⟩ := Nat.exists_eq_add_of_le hlarge
    have hunit : 0 < 2 ^ k := Nat.two_pow_pos k
    have hfloor : 2 ^ n.log2 = 2 ^ 52 * 2 ^ k := by rw [hk, pow_add]
    have hceil : 2 ^ (n.log2 + 1) = 2 ^ 53 * 2 ^ k := by rw [pow_succ, hfloor]; ring
    have hbelow := roundDiv_mono (2 ^ k) (hfloor ▸ hlow)
    have habove := roundDiv_mono (2 ^ k) (hceil ▸ hhigh.le)
    rw [roundDiv_mul_self _ hunit] at hbelow habove
    have hnearest : nearestNat n = roundDiv n (2 ^ k) * 2 ^ k := by
      rw [nearestNat, hk, Nat.add_sub_cancel_left]
    rw [hnearest, hfloor, hceil]
    exact ⟨Nat.mul_le_mul_right _ hbelow, Nat.mul_le_mul_right _ habove⟩

/-- Rounding keeps the order. -/
theorem nearestNat_mono (h : m ≤ n) : nearestNat m ≤ nearestNat n := by
  by_cases hm : m = 0
  · subst hm
    exact Nat.zero_le _
  · have hn : n ≠ 0 := by omega
    have hlog : m.log2 ≤ n.log2 := (Nat.le_log2 hn).2 ((Nat.log2_self_le hm).trans h)
    rcases hlog.lt_or_eq with hlt | heq
    · -- a power of two lies between them
      calc nearestNat m ≤ 2 ^ (m.log2 + 1) := (nearestNat_bounds hm).2
        _ ≤ 2 ^ n.log2 := Nat.pow_le_pow_right (by decide) hlt
        _ ≤ nearestNat n := (nearestNat_bounds hn).1
    · rw [nearestNat, nearestNat, heq]
      exact Nat.mul_le_mul_right _ (roundDiv_mono _ h)

/-- Rounding moves a number of 64 bits by a thousand and twenty-four at
most. -/
theorem two_mul_dist_nearestNat (h : n < 2 ^ 64) :
    2 * nearestNat n ≤ 2 * n + 2 ^ 11 ∧ 2 * n ≤ 2 * nearestNat n + 2 ^ 11 := by
  have hlog : n.log2 - 52 ≤ 11 := by
    by_cases hn : n = 0
    · subst hn
      decide
    · have := (Nat.log2_lt hn).2 h
      omega
  have hunit : 2 ^ (n.log2 - 52) ≤ 2 ^ 11 := Nat.pow_le_pow_right (by decide) hlog
  have hnear := roundDiv_near n (Nat.two_pow_pos (n.log2 - 52))
  rw [nearestNat]
  omega

/-- Rounding is odd. -/
theorem nearestInt_neg (n : Int) : nearestInt (-n) = -nearestInt n := by
  unfold nearestInt
  rw [Int.natAbs_neg]
  rcases lt_trichotomy n 0 with hn | rfl | hn
  · rw [if_neg (by omega), if_pos hn, neg_neg]
  · decide
  · rw [if_pos (by omega), if_neg (by omega)]

theorem natAbs_nearestInt (n : Int) : (nearestInt n).natAbs = nearestNat n.natAbs := by
  unfold nearestInt
  split <;> simp

/-- **Rounding keeps the order** of integers. -/
theorem nearestInt_mono {a b : Int} (h : a ≤ b) : nearestInt a ≤ nearestInt b := by
  unfold nearestInt
  split
  · split
    · have := @nearestNat_mono b.natAbs a.natAbs (by omega)
      omega
    · omega
  · rw [if_neg (by omega)]
    have := @nearestNat_mono a.natAbs b.natAbs (by omega)
    omega

theorem nearestInt_eq_self {a : Int} (h : a.natAbs ≤ 2 ^ 53) : nearestInt a = a := by
  unfold nearestInt
  rw [nearestNat_eq_self h]
  split <;> omega

/-- **Below `2 ^ 53` rounding tells integers apart:** no other integer is
rounded to one of these. -/
theorem nearestInt_eq_iff {a b : Int} (h : b.natAbs < 2 ^ 53) : nearestInt a = b ↔ a = b := by
  constructor
  · intro hab
    rcases Nat.lt_or_ge (2 ^ 53) a.natAbs with hlarge | hsmall
    · have hmono := nearestNat_mono hlarge.le
      rw [nearestNat_eq_self le_rfl, ← natAbs_nearestInt, hab] at hmono
      omega
    · rwa [nearestInt_eq_self hsmall] at hab
  · rintro rfl
    exact nearestInt_eq_self h.le

/-- Rounding moves an integer of 64 bits by a thousand and twenty-four at
most. -/
theorem two_mul_dist_nearestInt {a : Int} (h : a.natAbs < 2 ^ 64) :
    2 * nearestInt a ≤ 2 * a + 2 ^ 11 ∧ 2 * a ≤ 2 * nearestInt a + 2 ^ 11 := by
  have hnear := two_mul_dist_nearestNat h
  unfold nearestInt
  split <;> omega

/-! ## The nearest double -/

/-- The bits of a number are those of its multiples by powers of two. -/
theorem log2_mul_two_pow (h : n ≠ 0) (s : Nat) : (n * 2 ^ s).log2 = n.log2 + s := by
  refine (Nat.log2_eq_iff (Nat.mul_ne_zero h (Nat.two_pow_pos s).ne')).2 ⟨?_, ?_⟩
  · rw [pow_add]
    exact Nat.mul_le_mul_right _ (Nat.log2_self_le h)
  · rw [Nat.add_right_comm, pow_add]
    exact Nat.mul_lt_mul_of_pos_right Nat.lt_log2_self (Nat.two_pow_pos s)

/-- A number counted in small steps is rounded as the number itself. -/
theorem roundDiv_scaled (n : Nat) {s : Nat} (hs : 52 ≤ s) :
    roundDiv (n * 2 ^ s) (2 ^ (n.log2 + s - 52)) * 2 ^ (n.log2 + s - 52) = nearestNat n * 2 ^ s := by
  rcases Nat.lt_or_ge n.log2 52 with hsmall | hlarge
  · -- the steps are finer than the unit of the number
    have hexact : n ≤ 2 ^ 53 :=
      Nat.lt_log2_self.le.trans (Nat.pow_le_pow_right (by decide) (by omega))
    have hsteps : n * 2 ^ s = n * 2 ^ (52 - n.log2) * 2 ^ (n.log2 + s - 52) := by
      rw [mul_assoc, ← pow_add]
      congr 2
      omega
    rw [hsteps, roundDiv_mul_self _ (Nat.two_pow_pos _), nearestNat_eq_self hexact, hsteps]
  · have hunit : 2 ^ (n.log2 + s - 52) = 2 ^ (n.log2 - 52) * 2 ^ s := by
      rw [← pow_add]
      congr 1
      omega
    rw [hunit, roundDiv_mul_right _ _ (Nat.two_pow_pos s), nearestNat, mul_assoc]

/-- One is a power of two of the smallest steps. -/
theorem exists_stepsInOne : ∃ s, s = 1074 ∧ stepsInOne = 2 ^ s := by
  have hpower (s : Nat) : 1 <<< s = 2 ^ s := Nat.one_shiftLeft s
  exact ⟨_, rfl, hpower _⟩

theorem stepsInOne_pos : 0 < stepsInOne := by
  obtain ⟨s, -, hs⟩ := exists_stepsInOne
  rw [hs]
  exact Nat.two_pow_pos s

theorem natCast_stepsInOne_pos : (0 : Int) < stepsInOne :=
  Int.natCast_pos.2 stepsInOne_pos

theorem exists_ofParts? (negative : Bool) {mantissa exponent : Nat} (hfits : mantissa < 2 ^ 53)
    (hnormal : 2 ^ 52 ≤ mantissa) (hbounded : exponent ≤ 2045) :
    ∃ d, ofParts? negative mantissa exponent = some d ∧ d.negative = negative ∧
      d.magnitude = mantissa * 2 ^ exponent := by
  rw [ofParts?, dif_pos ⟨hfits, .inr hnormal, hbounded⟩]
  exact ⟨_, rfl, rfl, Nat.shiftLeft_eq _ _⟩

/-- The double nearest to a number of 64 bits has the value of the nearest
number of 53 significant bits. -/
theorem exists_nearest? (negative : Bool) (h : n < 2 ^ 64) :
    ∃ d, nearest? negative n 1 = some d ∧ d.negative = negative ∧
      d.magnitude = nearestNat n * stepsInOne := by
  by_cases hn : n = 0
  · subst hn
    refine ⟨zero negative, ?_, rfl, ?_⟩
    · simp [nearest?, roundDiv, ofParts?, zero]
    · simp [magnitude, zero, nearestNat, roundDiv]
  obtain ⟨s, hs, hone⟩ := exists_stepsInOne
  have hlog : n.log2 < 64 := (Nat.log2_lt hn).2 h
  have hexponent : (n * stepsInOne / 1).log2 - 52 = n.log2 + s - 52 := by
    rw [Nat.div_one, hone, log2_mul_two_pow hn]
  have hvalue : roundDiv (n * stepsInOne) (1 <<< (n.log2 + s - 52)) * 2 ^ (n.log2 + s - 52) =
      nearestNat n * stepsInOne := by
    rw [hone, Nat.one_shiftLeft, roundDiv_scaled n (by omega)]
  rw [nearest?]
  simp only [hexponent]
  generalize roundDiv (n * stepsInOne) (1 <<< (n.log2 + s - 52)) = mantissa at hvalue
  have hexponentPos : 0 < 2 ^ (n.log2 + s - 52) := Nat.two_pow_pos _
  have hsplit {k l : Nat} (hkl : k + s = l + (n.log2 + s - 52)) :
      2 ^ k * stepsInOne = 2 ^ l * 2 ^ (n.log2 + s - 52) := by
    rw [hone, ← pow_add, ← pow_add, hkl]
  have hlow : 2 ^ 52 ≤ mantissa := by
    refine Nat.le_of_mul_le_mul_right ?_ hexponentPos
    rw [hvalue, ← hsplit (k := n.log2) (by omega)]
    exact Nat.mul_le_mul_right _ (nearestNat_bounds hn).1
  have hhigh : mantissa ≤ 2 ^ 53 := by
    refine Nat.le_of_mul_le_mul_right ?_ hexponentPos
    rw [hvalue, ← hsplit (k := n.log2 + 1) (by omega)]
    exact Nat.mul_le_mul_right _ (nearestNat_bounds hn).2
  split
  · -- the carry into the next power of two leaves the value as it is
    rename_i hcarry
    obtain ⟨d, hd, hsign, hmagnitude⟩ :=
      exists_ofParts? negative (show 1 <<< 52 < 2 ^ 53 by decide) (by decide)
        (show n.log2 + s - 52 + 1 ≤ 2045 by omega)
    refine ⟨d, hd, hsign, ?_⟩
    rw [hmagnitude, ← hvalue, hcarry, Nat.one_shiftLeft, Nat.one_shiftLeft, pow_succ]
    ring
  · rename_i hfits
    obtain ⟨d, hd, hsign, hmagnitude⟩ :=
      exists_ofParts? negative (show mantissa < 2 ^ 53 by omega) hlow
        (show n.log2 + s - 52 ≤ 2045 by omega)
    exact ⟨d, hd, hsign, hmagnitude.trans hvalue⟩

/-- **The double nearest to an integer** of 64 bits has the value of the
nearest integer of 53 significant bits. -/
theorem units_ofInt {a : Int} (h : a.natAbs < 2 ^ 64) :
    (ofInt a).units = nearestInt a * stepsInOne := by
  obtain ⟨d, hd, hsign, hmagnitude⟩ := exists_nearest? (decide (a < 0)) h
  rw [ofInt, hd, Option.getD_some, units, hsign, hmagnitude, nearestInt]
  by_cases ha : a < 0 <;> simp [ha]

/-- A double that is a position has its value. -/
theorem toInt?_eq_some {d : Double} {a : Int} (h : d.toInt? = some a) :
    d.units = a * stepsInOne := by
  unfold toInt? at h
  split at h
  · rename_i hwhole
    have hmagnitude : d.magnitude / stepsInOne * stepsInOne = d.magnitude := by
      rw [Nat.div_mul_cancel (Nat.dvd_of_mod_eq_zero hwhole.1)]
    rw [units, ← hmagnitude]
    cases h
    split <;> simp
  · cases h

/-- A double of the value of a signed word is this position. -/
theorem toInt?_of_units {d : Double} {a : Int} (h : d.units = a * stepsInOne)
    (ha : a.natAbs < 2 ^ 63) : d.toInt? = some a := by
  have hpos := stepsInOne_pos
  have hmagnitude : d.magnitude = a.natAbs * stepsInOne := by
    have := congrArg Int.natAbs h
    rw [Int.natAbs_mul, Int.natAbs_natCast, units] at this
    rw [← this]
    split <;> simp
  have hwhole : d.magnitude / stepsInOne = a.natAbs := by
    rw [hmagnitude, Nat.mul_div_cancel _ hpos]
  have hsign : (if d.negative then -(a.natAbs : Int) else a.natAbs) = a := by
    have hcancel : (if d.negative then -(a.natAbs : Int) else a.natAbs) * stepsInOne =
        a * stepsInOne := by
      rw [← h, units, hmagnitude]
      split <;> push_cast <;> ring
    exact Int.eq_of_mul_eq_mul_right natCast_stepsInOne_pos.ne' hcancel
  have hproper : d.magnitude % stepsInOne = 0 ∧ d.magnitude < stepsInOne <<< 63 := by
    rw [hmagnitude, Nat.shiftLeft_eq, Nat.mul_mod_left, Nat.mul_comm stepsInOne]
    exact ⟨rfl, Nat.mul_lt_mul_of_pos_right ha hpos⟩
  rw [toInt?, if_pos hproper, hwhole, hsign]

theorem units_neg (d : Double) : d.neg.units = -d.units := by
  have hmagnitude : d.neg.magnitude = d.magnitude := rfl
  have hnegative : d.neg.negative = !d.negative := rfl
  rw [units, units, hmagnitude, hnegative]
  cases d.negative <;> simp

theorem isZero_iff {d : Double} : d.isZero = true ↔ d.units = 0 := by
  have hmagnitude : d.magnitude = 0 ↔ d.mantissa = 0 := by
    rw [magnitude, Nat.shiftLeft_eq]
    simp
  rw [isZero, beq_iff_eq, ← hmagnitude, units]
  split <;> omega

end Double

namespace Number

open Double

/-- The value of a number by its nearest double, counted in the smallest
steps. -/
def units (x : Number) : Int := x.toDouble.units

theorem units_integer (a : Int) (h : -(1 <<< 63) ≤ a ∧ a < 1 <<< 64) :
    (Number.integer a h).units = nearestInt a * stepsInOne :=
  units_ofInt (show a.natAbs < 2 ^ 64 by omega)

theorem eq_iff {x y : Number} : x.eq y = true ↔ x.units = y.units := Double.eq_iff

theorem isZero_congr {x y : Number} (h : x.units = y.units) : x.isZero = y.isZero := by
  rw [Bool.eq_iff_iff, isZero, isZero, Double.isZero_iff, Double.isZero_iff]
  exact iff_of_eq (congrArg (· = 0) h)

theorem compare_congr {x y x' y' : Number} (hx : x.units = x'.units) (hy : y.units = y'.units) :
    x.compare y = x'.compare y' := congrArg₂ Ord.compare hx hy

/-- **Negation goes by value,** on either side of the signed words. -/
theorem units_neg (x : Number) : x.neg.units = -x.units := by
  cases x with
  | double d => exact d.units_neg
  | integer a h =>
    rw [neg]
    split
    · rw [units_integer, units_integer, nearestInt_neg, neg_mul]
    · exact (Double.ofInt a).units_neg

/-- **A position below `2 ^ 53` goes by value:** the number is this position
exactly if its double has this value. -/
theorem toInt?_eq_some_iff {x : Number} {a : Int} (ha : a.natAbs < 2 ^ 53) :
    x.toInt? = some a ↔ x.units = a * stepsInOne := by
  cases x with
  | double d => exact ⟨Double.toInt?_eq_some, fun h => Double.toInt?_of_units h (by omega)⟩
  | integer b h =>
    rw [units_integer, Int.mul_eq_mul_right_iff natCast_stepsInOne_pos.ne', nearestInt_eq_iff ha,
      toInt?]
    constructor
    · intro hword
      split at hword
      · cases hword
        rfl
      · cases hword
    · rintro rfl
      exact if_pos (by omega)

/-- Numbers of one value are the same position, or none below `2 ^ 53`. -/
theorem toInt?_congr {x y : Number} (h : x.units = y.units) :
    (∃ a, x.toInt? = some a ∧ y.toInt? = some a) ∨
      (∀ a, x.toInt? = some a → 2 ^ 53 ≤ a.natAbs) ∧
        ∀ a, y.toInt? = some a → 2 ^ 53 ≤ a.natAbs := by
  have hnear : ∀ {a : Int}, a.natAbs < 2 ^ 53 → (x.toInt? = some a ↔ y.toInt? = some a) := by
    intro a ha
    rw [toInt?_eq_some_iff ha, toInt?_eq_some_iff ha, h]
  by_cases hsmall : ∃ a, x.toInt? = some a ∧ a.natAbs < 2 ^ 53
  · obtain ⟨a, hx, ha⟩ := hsmall
    exact .inl ⟨a, hx, (hnear ha).1 hx⟩
  · have hfar : ∀ a, x.toInt? = some a → 2 ^ 53 ≤ a.natAbs := fun a hx =>
      Nat.le_of_not_lt fun ha => hsmall ⟨a, hx, ha⟩
    refine .inr ⟨hfar, fun a hy => Nat.le_of_not_lt fun ha => ?_⟩
    exact hsmall ⟨a, (hnear ha).2 hy, ha⟩

end Number

end PromptTemplate
