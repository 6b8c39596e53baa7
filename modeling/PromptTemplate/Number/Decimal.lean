import PromptTemplate.Number.Double
/-!
# PromptTemplate — the shortest decimal text of a number

A double is written with the fewest significant digits that read back as
the same number, and of two such texts with the nearer one. `shortest`
finds digits and exponent by exact arithmetic: it walks down the decimal
grids, from coarse to fine, and takes the first grid that has a point in
the interval of reals that round to the number. `Double.text` lays the
digits out: positionally from `10 ^ -5` up to below `10 ^ 16`, always
with a fraction, and with an exponent elsewhere.
-/

namespace PromptTemplate

namespace Double

/-- A decimal magnitude, `digits * 10 ^ exponent`. -/
structure Decimal where
  digits : Nat
  exponent : Int
deriving DecidableEq

/-- The interval of the reals that round to a positive double, with its
value between the ends, all three as multiples of one quarter unit. The
ends belong to it exactly when the mantissa is even. -/
structure Interval where
  low : Nat
  value : Nat
  high : Nat
  closed : Bool

/-- The rounding interval of a number. Below a power of two the spacing is
half of what it is above. -/
def interval (d : Double) : Interval :=
  let ulp := 1 <<< d.exponent
  let below := if d.mantissa = 1 <<< 52 ∧ 0 < d.exponent then 1 else 2
  { low := (4 * d.mantissa - below) * ulp
    value := 4 * d.mantissa * ulp
    high := (4 * d.mantissa + 2) * ulp
    closed := d.mantissa % 2 = 0 }

/-- The number of quarter units in one. -/
def quarters : Nat := 4 * stepsInOne

/-- The point of the grid of spacing `10 ^ k` that stands for the number:
of its two neighbours on that grid the nearer one inside the interval,
an exact tie to the even digit. -/
def gridPoint? (i : Interval) (k : Int) : Option Nat :=
  let up := if k < 0 then Nat.pow 10 k.natAbs else 1
  let down := if k < 0 then 1 else Nat.pow 10 k.natAbs
  let spacing := quarters * down
  let value := i.value * up
  let inside (g : Nat) : Bool :=
    let point := g * spacing
    if i.closed then i.low * up ≤ point && point ≤ i.high * up
    else i.low * up < point && point < i.high * up
  let floor := value / spacing
  let twice := 2 * (value % spacing)
  let nearer := if twice < spacing then floor
    else if spacing < twice then floor + 1
    else if floor % 2 = 0 then floor else floor + 1
  let other := if nearer = floor then floor + 1 else floor
  if inside nearer then some nearer else if inside other then some other else none

/-- The first grid with a point in the interval, from spacing `10 ^ k`
downwards. -/
def firstGrid (i : Interval) (k : Int) : Nat → Decimal
  | 0 => ⟨0, 0⟩
  | fuel + 1 =>
    match gridPoint? i k with
    | some g => ⟨g, k⟩
    | none => firstGrid i (k - 1) fuel

/-- The decimal of fewest digits that reads back as the number. The walk
starts at a grid coarser than the value; eighteen digits below that every
interval has a point. -/
def shortest (d : Double) : Decimal :=
  let i := d.interval
  let bits : Int := (Nat.log2 i.value : Int) - 1076
  firstGrid i (bits * 30103 / 100000 + 2) 24

/-- The digits of a natural number, most significant first. -/
def digitText (n : Nat) : List Char := Nat.toDigits 10 n

/-- The exponent of the first digit. -/
def Decimal.leading (x : Decimal) : Int := x.exponent + (digitText x.digits).length - 1

/-- The positional text of a positive decimal, always with a fraction. -/
def Decimal.positional (x : Decimal) : List Char :=
  let ds := digitText x.digits
  if 0 ≤ x.exponent then ds ++ List.replicate x.exponent.natAbs '0' ++ ['.', '0']
  else if 0 ≤ x.leading then
    ds.take (x.leading.natAbs + 1) ++ ['.'] ++ ds.drop (x.leading.natAbs + 1)
  else ['0', '.'] ++ List.replicate (x.leading.natAbs - 1) '0' ++ ds

/-- The text of a positive decimal: positional from the fifth place behind
the point to the sixteenth before it, with an exponent otherwise. -/
def Decimal.text (x : Decimal) : List Char :=
  if -5 ≤ x.leading ∧ x.leading < 16 then x.positional
  else
    let ds := digitText x.digits
    let fraction := ds.drop 1
    ds.take 1 ++ (if fraction.isEmpty then [] else '.' :: fraction) ++
      ['e', if x.leading < 0 then '-' else '+'] ++ digitText x.leading.natAbs

/-- The text of a double by a text of its magnitude; zero is `0.0` and
keeps its sign. -/
def textWith (magnitude : Decimal → List Char) (d : Double) : String :=
  let body := if d.isZero then ['0', '.', '0'] else magnitude d.shortest
  String.ofList (if d.negative then '-' :: body else body)

/-- The text of a double. -/
def text (d : Double) : String := textWith Decimal.text d

/-- The text of a double without an exponent. -/
def positionalText (d : Double) : String := textWith Decimal.positional d

end Double

end PromptTemplate
