import PromptTemplate.Number.Basic
/-!
# PromptTemplate — reading numbers

A number is written as in JSON: an optional sign, a whole part without
superfluous zeros, an optional fraction and an optional exponent. Without
fraction and exponent it is exact where it is in range. Otherwise it is a
double made of a significand and a power of ten: the significand takes as
many leading digits as fit a word of 64 bits, the digits behind those
count for the exponent only, and rounding happens once for the
significand and once for the power of ten.
-/

namespace PromptTemplate

namespace Number

/-- Splits off the leading decimal digits. -/
def spanDigits (cs : List Char) : List Char × List Char :=
  (cs.takeWhile Char.isDigit, cs.dropWhile Char.isDigit)

/-- The value of a run of decimal digits. -/
def natOfDigits (ds : List Char) : Nat :=
  ds.foldl (fun n c => n * 10 + (c.toNat - '0'.toNat)) 0

/-- The largest significand: an unsigned word of 64 bits. -/
def maxSignificand : Nat := 18446744073709551615

/-- A significand under construction, with the power of ten it stands at. -/
structure Scaled where
  significand : Nat
  exponent : Int

/-- Takes the digits of the whole part: from the first one that no longer
fits on, each raises the exponent instead. -/
def Scaled.ofWhole (ds : List Char) : Scaled :=
  ds.foldl
    (fun s c =>
      let next := s.significand * 10 + (c.toNat - '0'.toNat)
      if 0 < s.exponent ∨ maxSignificand < next then ⟨s.significand, s.exponent + 1⟩
      else ⟨next, s.exponent⟩)
    ⟨0, 0⟩

/-- Takes the digits of the fraction: from the first one that no longer
fits on, they are dropped. -/
def Scaled.addFraction (s : Scaled) : List Char → Scaled
  | [] => s
  | c :: ds =>
    let next := s.significand * 10 + (c.toNat - '0'.toNat)
    if maxSignificand < next then s else addFraction ⟨next, s.exponent - 1⟩ ds

/-- The double of a significand at a power of ten; none if that is not
finite. -/
def Scaled.toDouble? (s : Scaled) (negative : Bool) : Option Double :=
  (Double.ofDecimal? (.ofInt s.significand) s.exponent).map fun d =>
    if negative then d.neg else d

/-- The exact number of a whole part, or a double where it is out of range
or a negative zero. -/
def ofWhole? (negative : Bool) (ds : List Char) : Option Number :=
  let n := natOfDigits ds
  if negative then
    if n = 0 then some (.double (.zero true))
    else match ofInt? (-n) with
      | some k => some k
      | none => ((Scaled.ofWhole ds).toDouble? true).map .double
  else match ofInt? n with
    | some k => some k
    | none => ((Scaled.ofWhole ds).toDouble? false).map .double

/-- Splits off an exponent part, if there is one: `some none` where there
is none, and `none` where its digits are missing. -/
def readExponent? : List Char → Option (Option Int × List Char)
  | c :: r =>
    if c = 'e' ∨ c = 'E' then
      let (negative, r) := match r with
        | '-' :: r' => (true, r')
        | '+' :: r' => (false, r')
        | r' => (false, r')
      match spanDigits r with
      | ([], _) => none
      | (ds, rest) =>
        let n : Int := natOfDigits ds
        some (some (if negative then -n else n), rest)
    else some (none, c :: r)
  | [] => some (none, [])

/-- Splits off the fraction digits, if there is a point: `some none` where
there is none, and `none` where no digit follows it. -/
def readFraction? : List Char → Option (Option (List Char) × List Char)
  | '.' :: r =>
    match spanDigits r with
    | ([], _) => none
    | (ds, rest) => some (some ds, rest)
  | r => some (none, r)

/-- Splits off an unsigned number. -/
def readMagnitude? (negative : Bool) (cs : List Char) : Option (Number × List Char) := do
  let (whole, rest) := spanDigits cs
  if whole.isEmpty then none
  if whole.head? = some '0' ∧ 1 < whole.length then none
  let (fraction, rest) ← readFraction? rest
  let (exponent, rest) ← readExponent? rest
  if fraction.isNone ∧ exponent.isNone then
    let n ← ofWhole? negative whole
    return (n, rest)
  let scaled := (Scaled.ofWhole whole).addFraction (fraction.getD [])
  let d ← Scaled.toDouble? ⟨scaled.significand, scaled.exponent + exponent.getD 0⟩ negative
  return (.double d, rest)

/-- Splits a number off the front of a text. -/
def read? : List Char → Option (Number × List Char)
  | '-' :: r => readMagnitude? true r
  | r => readMagnitude? false r

/-- The number that a text is, if it is one from end to end. -/
def parse? (cs : List Char) : Option Number :=
  match read? cs with
  | some (n, []) => some n
  | _ => none

end Number

end PromptTemplate
