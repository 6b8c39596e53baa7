/-!
# PromptTemplate — finite binary floating-point numbers

A number with a fraction or an exponent is kept as a binary64 number:
53 significant bits and an exponent between the smallest subnormal and
the largest finite number. Infinities and not-a-number never occur in a
document, so `Double` has none, and every such number is an integer
count of the smallest one, `units`. Comparison is comparison of those
counts. Arithmetic is exact up to one rounding, `nearest?`: to the
nearest representable number, a tie to the even mantissa, and nothing
where the result would leave the finite range.
-/

namespace PromptTemplate

/-- A finite binary64 number: a sign and `mantissa * 2 ^ exponent` units
of `2 ^ -1074`. The three bounds make the representation unique. -/
structure Double where
  negative : Bool
  mantissa : Nat
  exponent : Nat
  fits : mantissa < 1 <<< 53
  normal : exponent = 0 ∨ 1 <<< 52 ≤ mantissa
  bounded : exponent ≤ 2045
deriving DecidableEq

/-- The quotient of two natural numbers, rounded to the nearest integer;
a tie goes to the even one. -/
def roundDiv (num den : Nat) : Nat :=
  let q := num / den
  let r := num % den
  if den < 2 * r || (2 * r == den && q % 2 == 1) then q + 1 else q

namespace Double

/-- The number of smallest steps in one: every double is a whole number of
them. -/
def stepsInOne : Nat := 1 <<< 1074

/-- Zero with a sign. -/
def zero (negative : Bool) : Double :=
  ⟨negative, 0, 0, by decide, .inl rfl, by decide⟩

/-- The number with these parts, if they are those of a finite number. -/
def ofParts? (negative : Bool) (mantissa exponent : Nat) : Option Double :=
  if h : mantissa < 1 <<< 53 ∧ (exponent = 0 ∨ 1 <<< 52 ≤ mantissa) ∧ exponent ≤ 2045 then
    some ⟨negative, mantissa, exponent, h.1, h.2.1, h.2.2⟩
  else none

/-- The number nearest to `num / den`, with the given sign; none if that
lies beyond the largest finite number. -/
def nearest? (negative : Bool) (num den : Nat) : Option Double :=
  let scaled := num * stepsInOne
  let exponent := Nat.log2 (scaled / den) - 52
  let mantissa := roundDiv scaled (den <<< exponent)
  if mantissa = 1 <<< 53 then ofParts? negative (1 <<< 52) (exponent + 1)
  else ofParts? negative mantissa exponent

/-- The magnitude, counted in units of `2 ^ -1074`. -/
def magnitude (d : Double) : Nat := d.mantissa <<< d.exponent

/-- The value, counted in units of `2 ^ -1074`. -/
def units (d : Double) : Int := if d.negative then -(d.magnitude : Int) else d.magnitude

/-- The double nearest to an integer. Integers of documents lie far below
the largest finite number, where rounding always succeeds. -/
def ofInt (n : Int) : Double := (nearest? (n < 0) n.natAbs 1).getD (zero false)

/-- The number with the opposite sign. -/
def neg (d : Double) : Double := { d with negative := !d.negative }

/-- The product, rounded; none if it is not finite. -/
def mul? (a b : Double) : Option Double :=
  nearest? (a.negative != b.negative) (a.magnitude * b.magnitude) (stepsInOne * stepsInOne)

/-- The quotient by a number that is not zero, rounded; none if it is not
finite. -/
def div? (a b : Double) : Option Double :=
  nearest? (a.negative != b.negative) a.magnitude b.magnitude

/-- Whether the value is zero, of either sign. -/
def isZero (d : Double) : Bool := d.mantissa == 0

/-- Whether two numbers have one value; the two zeros do. -/
def eq (a b : Double) : Bool := a.units == b.units

/-- The order of the values. -/
def compare (a b : Double) : Ordering := Ord.compare a.units b.units

/-- The value as an integer, if it is one of magnitude below `2 ^ 63`. -/
def toInt? (d : Double) : Option Int :=
  let whole : Int := (d.magnitude / stepsInOne : Nat)
  if d.magnitude % stepsInOne = 0 ∧ d.magnitude < stepsInOne <<< 63 then
    some (if d.negative then -whole else whole)
  else none

/-- The double nearest to a power of ten, up to the three hundred and
eighth. -/
def powerOfTen (k : Nat) : Double := (nearest? false (Nat.pow 10 k) 1).getD (zero false)

/-- The quotient by a power of ten, rounded. A power beyond a table that
ends at the three hundred and eighth is split off in steps of that size,
until the number has become zero. -/
def shrink? (d : Double) (k : Nat) : Option Double :=
  if k ≤ 308 then d.div? (powerOfTen k)
  else if d.isZero then some d
  else (d.div? (powerOfTen 308)).bind fun q => shrink? q (k - 308)
termination_by k

/-- The number written as `significand * 10 ^ exponent`, by one rounded
product or quotient where the power of ten is in the table; none if the
result is not finite. -/
def ofDecimal? (significand : Double) (exponent : Int) : Option Double :=
  if exponent < 0 then significand.shrink? exponent.natAbs
  else if exponent ≤ 308 then significand.mul? (powerOfTen exponent.natAbs)
  else if significand.isZero then some significand
  else none

/-- Two numbers of equal value compare as equal, and only they do. -/
theorem eq_iff {a b : Double} : a.eq b = true ↔ a.units = b.units := by
  simp [eq]

end Double

end PromptTemplate
