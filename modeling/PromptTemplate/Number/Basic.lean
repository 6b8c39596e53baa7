import PromptTemplate.Number.Decimal
/-!
# PromptTemplate — the numbers of a document

A number is an exact integer, as far as a signed or an unsigned word of
64 bits holds it, or a double. Which of the two it is shows in its text
only: comparison (`eq`, `compare`) and truth (`isZero`) go by the nearest
doubles, so an integer and a double of equal value are equal. `neg` keeps
integers exact where the negation is a signed word, and `toInt?` is the
reading of a number as a position.
-/

namespace PromptTemplate

/-- A number: an integer of 64 bits, signed or unsigned, or a double. -/
inductive Number
  | integer (value : Int) (inRange : -(1 <<< 63) ≤ value ∧ value < 1 <<< 64)
  | double (value : Double)
deriving DecidableEq

namespace Number

/-- The exact number of an integer, if it is in range. -/
def ofInt? (n : Int) : Option Number :=
  if h : -(1 <<< 63) ≤ n ∧ n < 1 <<< 64 then some (.integer n h) else none

/-- The number of an integer: exact where that is in range, and the
nearest double elsewhere. -/
def ofInt (n : Int) : Number := (ofInt? n).getD (.double (.ofInt n))

/-- The number of a count. -/
def ofNat (n : Nat) : Number := ofInt n

/-- The nearest double. -/
def toDouble : Number → Double
  | .integer n _ => .ofInt n
  | .double d => d

/-- The number as a signed word of 64 bits, if it is one exactly. -/
def toInt? : Number → Option Int
  | .integer n _ => if n < 1 <<< 63 then some n else none
  | .double d => d.toInt?

/-- Whether the number counts as zero. -/
def isZero (n : Number) : Bool := n.toDouble.isZero

/-- The negation: exact where the number and its negation are signed words
of 64 bits, and of the nearest double elsewhere. -/
def neg : Number → Number
  | .integer n _ =>
    if h : -(1 <<< 63) < n ∧ n < 1 <<< 63 then .integer (-n) (by omega)
    else .double (Double.ofInt n).neg
  | .double d => .double d.neg

/-- Equality of value, by the nearest doubles. -/
def eq (a b : Number) : Bool := a.toDouble.eq b.toDouble

/-- The order of the values, by the nearest doubles. -/
def compare (a b : Number) : Ordering := a.toDouble.compare b.toDouble

/-- The text of an integer. -/
def integerText (n : Int) : String :=
  String.ofList (if n < 0 then '-' :: Double.digitText n.natAbs else Double.digitText n.natAbs)

/-- The text of a number. -/
def text : Number → String
  | .integer n _ => integerText n
  | .double d => d.text

end Number

end PromptTemplate
