import PromptTemplate.Text.Hex
/-!
# PromptTemplate — maps of characters as runs

A mapping of characters that a standard lists one by one is written as
runs: characters at equal distances whose images lie at the same
distances. `CharMap` is a row of runs in rising order that do not overlap,
and `CharMap.image?` looks a character up by halving. `CharMap.ofText`
reads the form in which the tables are written here, to base sixteen:
`first-last/step>image`, where the step is left out if it is one and the
last if it is the first, with commas between the characters of an image
and blanks between runs.
-/

namespace PromptTemplate

/-- Characters at equal distances, with the image of the first one. The
images of the others differ from it in their last character only, which
lies as far on as they do. -/
structure CharRun where
  first : Nat
  last : Nat
  step : Nat
  image : List Nat

/-- A map of characters as runs in rising order. -/
structure CharMap where
  runs : Array CharRun

namespace CharMap

/-- What has been read of a run: its ends and its step so far, the
characters of the image but for the last, in reverse, and the number at
hand; and the runs before it. -/
structure Reading where
  first : Option Nat
  last : Option Nat
  step : Nat
  image : List Nat
  number : Nat
  done : Array CharRun

/-- Closes the run at hand, if one has been begun. -/
def Reading.close (r : Reading) : Reading :=
  match r.last with
  | none => r
  | some last =>
    ⟨none, none, 1, [], 0,
      r.done.push ⟨r.first.getD last, last, r.step, (r.number :: r.image).reverse⟩⟩

/-- Takes one more character of the text of a map. -/
def Reading.next (r : Reading) (c : Char) : Reading :=
  match Hex.value? c with
  | some d => { r with number := r.number * 16 + d }
  | none =>
    if c = '-' then { r with first := some r.number, number := 0 }
    else if c = '/' then { r with last := some r.number, number := 0 }
    else if c = '>' then
      if r.last.isSome then { r with step := r.number, number := 0 }
      else { r with last := some r.number, number := 0 }
    else if c = ',' then { r with image := r.number :: r.image, number := 0 }
    else r.close

/-- Reads the text of a map. -/
def ofText (text : String) : CharMap :=
  ⟨(text.foldl Reading.next ⟨none, none, 1, [], 0, #[]⟩).close.done⟩

/-- The run around a code point, sought between two positions in at most
`fuel` halvings. -/
def search (runs : Array CharRun) (n : Nat) : Nat → Nat → Nat → Option CharRun
  | 0, _, _ => none
  | fuel + 1, lo, hi =>
    if lo < hi then
      let mid := (lo + hi) / 2
      match runs[mid]? with
      | none => none
      | some r =>
        if n < r.first then search runs n fuel lo mid
        else if r.last < n then search runs n fuel (mid + 1) hi
        else some r
    else none

/-- A row of code points with the last one moved. -/
def moved (distance : Nat) : List Nat → List Char
  | [] => []
  | [n] => [Char.ofNat (n + distance)]
  | n :: ns => Char.ofNat n :: moved distance ns

/-- The image of a character that the map mentions. -/
def image? (m : CharMap) (c : Char) : Option (List Char) :=
  match search m.runs c.toNat 32 0 m.runs.size with
  | none => none
  | some r =>
    let distance := c.toNat - r.first
    if distance % r.step = 0 then some (moved distance r.image) else none

end CharMap

end PromptTemplate
