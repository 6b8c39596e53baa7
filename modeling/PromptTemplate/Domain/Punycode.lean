/-!
# PromptTemplate — Punycode

A label beyond ASCII is registered under an ASCII name: its ASCII
characters in order, then the others as one row of digits. The row tells
for every further character, in rising order of code points, how far it
lies behind the one before, counted over all places where a character
could be put in. `encode` writes such a name and `decode?` reads it.
-/

namespace PromptTemplate

namespace Punycode

/-- The digit of a value below thirty-six. -/
def digit (n : Nat) : Char :=
  if n < 26 then Char.ofNat ('a'.toNat + n) else Char.ofNat ('0'.toNat + (n - 26))

/-- The value of a digit. -/
def digitValue? (c : Char) : Option Nat :=
  if 'a' ≤ c ∧ c ≤ 'z' then some (c.toNat - 'a'.toNat)
  else if 'A' ≤ c ∧ c ≤ 'Z' then some (c.toNat - 'A'.toNat)
  else if '0' ≤ c ∧ c ≤ '9' then some (c.toNat - '0'.toNat + 26)
  else none

/-- At which value the digit at a place ends a number: places count in
steps of thirty-six, and the bias shifts the scale. -/
def threshold (bias place : Nat) : Nat := max 1 (min 26 (place - bias))

theorem threshold_pos (bias place : Nat) : 0 < threshold bias place := by
  unfold threshold
  omega

/-- The bias for a distance: how often it can be divided before it is
small, with a fine part. -/
def biasOf (distance places : Nat) : Nat :=
  if _h : 455 < distance then biasOf (distance / 35) (places + 36)
  else places + 36 * distance / (distance + 38)
termination_by distance
decreasing_by omega

/-- The bias behind a distance, with the number of characters so far. -/
def adapted (distance count : Nat) (first : Bool) : Nat :=
  let scaled := if first then distance / 700 else distance / 2
  biasOf (scaled + scaled / count) 0

/-- The bias at the beginning. -/
def initialBias : Nat := 72

/-- The first code point beyond ASCII. -/
def firstBeyond : Nat := 128

/-! ## Writing -/

/-- The digits of a distance. -/
def digits (bias place n : Nat) : List Char :=
  let t := threshold bias place
  if _h : n < t then [digit n]
  else digit (t + (n - t) % (36 - t)) :: digits bias (place + 36) ((n - t) / (36 - t))
termination_by n
decreasing_by
  have h₁ := threshold_pos bias place
  have h₂ : (n - threshold bias place) / (36 - threshold bias place) ≤ n - threshold bias place :=
    Nat.div_le_self _ _
  omega

/-- What is kept while a label is written: the places passed since the last
character, the bias, the number of characters done, and the digits. -/
structure Writing where
  distance : Nat
  bias : Nat
  count : Nat
  written : List Char

/-- Passes a character of the label while those with code point `n` are
written. -/
def Writing.pass (basic n : Nat) (w : Writing) (c : Char) : Writing :=
  if c.toNat < n then { w with distance := w.distance + 1 }
  else if c.toNat = n then
    ⟨0, adapted w.distance (w.count + 1) (w.count == basic), w.count + 1,
      w.written ++ digits w.bias 36 w.distance⟩
  else w

/-- Writes the characters beyond ASCII, whose code points are given in
rising order; `done` code points lie behind already. -/
def writeAll (label : List Char) (basic : Nat) : List Nat → Nat → Writing → Writing
  | [], _, w => w
  | n :: ns, done, w =>
    let w := { w with distance := w.distance + (n - done) * (w.count + 1) }
    let w := label.foldl (Writing.pass basic n) w
    writeAll label basic ns (n + 1) { w with distance := w.distance + 1 }

/-- Puts a number into a rising row that may have it already. -/
def insertRising (n : Nat) : List Nat → List Nat
  | [] => [n]
  | m :: ms => if n < m then n :: m :: ms else if n = m then m :: ms else m :: insertRising n ms

/-- The code points beyond ASCII, each once, in rising order. -/
def pointsBeyond (label : List Char) : List Nat :=
  label.foldr (fun c ns => if firstBeyond ≤ c.toNat then insertRising c.toNat ns else ns) []

/-- The ASCII name of a label. -/
def encode (label : List Char) : List Char :=
  let basic := label.filter (·.toNat < firstBeyond)
  let w := writeAll label basic.length (pointsBeyond label) firstBeyond
    ⟨0, initialBias, basic.length, []⟩
  basic ++ (if basic.isEmpty then [] else ['-']) ++ w.written

/-! ## Reading -/

/-- Reads a distance off the front of a row of digits. -/
def distance? (bias : Nat) : Nat → Nat → List Char → Option (Nat × List Char)
  | _, _, [] => none
  | place, weight, c :: cs =>
    match digitValue? c with
    | none => none
    | some d =>
      let t := threshold bias place
      if d < t then some (d * weight, cs)
      else (distance? bias (place + 36) (weight * (36 - t)) cs).map fun (n, cs) =>
        (d * weight + n, cs)

/-- What follows a distance is shorter. -/
theorem length_lt_of_distance? {bias place weight n : Nat} {cs rest : List Char}
    (h : distance? bias place weight cs = some (n, rest)) : rest.length < cs.length := by
  induction cs generalizing place weight n with
  | nil => simp [distance?] at h
  | cons c cs ih =>
    unfold distance? at h
    split at h
    · cases h
    · dsimp only at h
      split at h
      · simp only [Option.some.injEq, Prod.mk.injEq] at h
        simp [h.2]
      · obtain ⟨⟨m, r⟩, hr, he⟩ := Option.map_eq_some_iff.1 h
        simp only [Prod.mk.injEq] at he
        obtain ⟨-, rfl⟩ := he
        have := ih hr
        simp
        omega

/-- Reads digits into a label, from a code point and a place on. -/
def readFrom (bias point place : Nat) (label cs : List Char) : Option (List Char) :=
  if cs.isEmpty then some label
  else match _h : distance? bias 36 1 cs with
    | none => none
    | some (distance, rest) =>
      let count := label.length + 1
      let point' := point + (place + distance) / count
      let place' := (place + distance) % count
      if point'.isValidChar then
        readFrom (adapted distance count (place == 0)) point' (place' + 1)
          (label.take place' ++ Char.ofNat point' :: label.drop place') rest
      else none
termination_by cs.length
decreasing_by exact length_lt_of_distance? _h

/-- Splits an ASCII name at its last hyphen, unless that is its first
character: what stands before it, and the digits. -/
def split (name : List Char) : List Char × List Char :=
  let digits := (name.reverse.takeWhile (· != '-')).reverse
  let basic := name.take (name.length - digits.length - 1)
  if digits.length = name.length ∨ basic.isEmpty then ([], name) else (basic, digits)

/-- The label of an ASCII name. -/
def decode? (name : List Char) : Option (List Char) :=
  let (basic, digits) := split name
  if basic.all (·.toNat < firstBeyond) then readFrom initialBias firstBeyond 0 basic digits
  else none

end Punycode

end PromptTemplate
