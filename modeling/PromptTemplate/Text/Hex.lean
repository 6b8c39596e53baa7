/-!
# PromptTemplate — digits to base sixteen

Escapes in strings, percent-encoded bytes and code points in tables are
all written to base sixteen. `value?` reads a digit of either case,
`lower` and `upper` write one, and `value?_lower` is the round trip.
-/

namespace PromptTemplate

namespace Hex

/-- The value of a digit, of either case. -/
def value? (c : Char) : Option Nat :=
  if '0' ≤ c ∧ c ≤ '9' then some (c.toNat - '0'.toNat)
  else if 'a' ≤ c ∧ c ≤ 'f' then some (c.toNat - 'a'.toNat + 10)
  else if 'A' ≤ c ∧ c ≤ 'F' then some (c.toNat - 'A'.toNat + 10)
  else none

/-- The digit of a value below sixteen, in lower case. -/
def lower (n : Nat) : Char :=
  if n < 10 then Char.ofNat ('0'.toNat + n) else Char.ofNat ('a'.toNat + (n - 10))

/-- The digit of a value below sixteen, in upper case. -/
def upper (n : Nat) : Char :=
  if n < 10 then Char.ofNat ('0'.toNat + n) else Char.ofNat ('A'.toNat + (n - 10))

/-- The value of four digits. -/
def value4? (a b c d : Char) : Option Nat := do
  let a ← value? a
  let b ← value? b
  let c ← value? c
  let d ← value? d
  return ((a * 16 + b) * 16 + c) * 16 + d

/-- A number in lower-case digits, without leading zeros. -/
def text (n : Nat) : List Char := Nat.toDigits 16 n

/-- A digit written in lower case reads back. -/
theorem value?_lower : ∀ n < 16, value? (lower n) = some n := by decide

/-- A digit written in upper case reads back. -/
theorem value?_upper : ∀ n < 16, value? (upper n) = some n := by decide

end Hex

end PromptTemplate
