import PromptTemplate.Text.Hex
/-!
# PromptTemplate — sets of characters as ranges

Character properties are tables of ranges of code points. `Ranges` is such
a table in rising order and `Ranges.contains` looks a character up by
halving. `Ranges.ofText` reads the form in which tables are written here:
code points to base sixteen, a range as its two ends with a hyphen
between, and blanks between ranges.
-/

namespace PromptTemplate

/-- Ranges of code points in rising order, both ends included. -/
structure Ranges where
  ends : Array (Nat × Nat)

namespace Ranges

/-- What has been read of the range at hand, and the ranges before it. -/
structure Reading where
  first : Option Nat
  last : Option Nat
  done : Array (Nat × Nat)

/-- Closes the range at hand, if one has been begun. -/
def Reading.close (r : Reading) : Reading :=
  match r.last with
  | none => r
  | some last => ⟨none, none, r.done.push (r.first.getD last, last)⟩

/-- Takes one more character of the text of a table. -/
def Reading.step (r : Reading) (c : Char) : Reading :=
  match Hex.value? c with
  | some d => { r with last := some (r.last.getD 0 * 16 + d) }
  | none => if c = '-' then { r with first := r.last, last := none } else r.close

/-- Reads the text of a table. -/
def ofText (text : String) : Ranges :=
  ⟨(text.foldl Reading.step ⟨none, none, #[]⟩).close.done⟩

/-- Looks a code point up between two positions, in at most `fuel`
halvings. -/
def search (ends : Array (Nat × Nat)) (n : Nat) : Nat → Nat → Nat → Bool
  | 0, _, _ => false
  | fuel + 1, lo, hi =>
    if lo < hi then
      let mid := (lo + hi) / 2
      match ends[mid]? with
      | none => false
      | some (first, last) =>
        if n < first then search ends n fuel lo mid
        else if last < n then search ends n fuel (mid + 1) hi
        else true
    else false

/-- Whether a character lies in one of the ranges. -/
def contains (r : Ranges) (c : Char) : Bool :=
  search r.ends c.toNat 32 0 r.ends.size

end Ranges

end PromptTemplate
