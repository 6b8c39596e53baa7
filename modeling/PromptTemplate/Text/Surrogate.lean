/-!
# PromptTemplate — surrogate pairs in escapes

An escape names a code unit of 16 bits. Characters beyond those are written
as two units, a high and a low surrogate. `pair` puts them together, and
`pair_valid` says that the result is always a character.
-/

namespace PromptTemplate

namespace Surrogate

/-- Whether a code unit is the first of a pair. -/
def isHigh (unit : Nat) : Bool := 0xD800 ≤ unit && unit < 0xDC00

/-- Whether a code unit is the second of a pair. -/
def isLow (unit : Nat) : Bool := 0xDC00 ≤ unit && unit < 0xE000

/-- The code point of a pair. -/
def codePoint (high low : Nat) : Nat := 0x10000 + (high - 0xD800) * 0x400 + (low - 0xDC00)

/-- The character of a pair. -/
def pair (high low : Nat) : Char := Char.ofNat (codePoint high low)

/-- **A pair is never an invalid character:** its code point lies beyond
the surrogates and within Unicode. -/
theorem pair_valid {high low : Nat} (hh : isHigh high = true) (hl : isLow low = true) :
    (codePoint high low).isValidChar := by
  simp only [isHigh, isLow, Bool.and_eq_true, decide_eq_true_eq] at hh hl
  right
  unfold codePoint
  omega

end Surrogate

end PromptTemplate
