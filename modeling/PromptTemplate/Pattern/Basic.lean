import PromptTemplate.Text.Blank
import PromptTemplate.Text.Letter
/-!
# PromptTemplate — text patterns

Blocked content is described by patterns: characters by class, sequences,
choices, repetitions of one class, and word boundaries. `ends` lists the
places where a match that begins at a place may end, and a pattern occurs
in a text if a match begins anywhere. A pattern that ignores case takes
every character for its simple folding, so the long s counts as an s and
the Kelvin sign as a k.
-/

namespace PromptTemplate

/-- A set of characters as it is listed in a class. -/
inductive CharSet
  | single (c : Char)
  | range (first last : Char)
  | blank
  | word
  | digit
  | any
deriving DecidableEq

namespace CharSet

/-- Whether a character belongs to a set. -/
def holds (s : CharSet) (c : Char) : Bool :=
  match s with
  | .single d => c == d
  | .range first last => first ≤ c && c ≤ last
  | .blank => Text.isBlank c
  | .word => Text.isWord c
  | .digit => c.isDigit
  | .any => c != '\n'

/-- The small letter that stands for a character and its other cases, for
the characters whose folding lies in ASCII. -/
def fold (c : Char) : Char :=
  if c = '\u017f' then 's' else if c = '\u212a' then 'k' else c.toLower

/-- Whether a character belongs to a set in one of its cases. -/
def holdsFolded (s : CharSet) (c : Char) : Bool :=
  s.holds c || s.holds (fold c) || s.holds (fold c).toUpper

end CharSet

/-- A class of characters: those of some sets, or all others, with or
without regard to case. -/
structure CharClass where
  sets : List CharSet
  negated : Bool
  folded : Bool
deriving DecidableEq

/-- Whether a character is in a class. -/
def CharClass.holds (k : CharClass) (c : Char) : Bool :=
  (k.sets.any fun s => if k.folded then s.holdsFolded c else s.holds c) != k.negated

/-- A pattern. A repetition has a least and perhaps a greatest count. -/
inductive Pattern
  | empty
  | boundary
  | repeated (k : CharClass) (least : Nat) (greatest : Option Nat)
  | sequence (first second : Pattern)
  | choice (first second : Pattern)
deriving DecidableEq

/-- A place in a text: the character before it, if there is one, and what
follows. -/
structure Place where
  before : Option Char
  after : List Char
deriving DecidableEq

/-- Whether a place is between a word character and another or none. -/
def Place.isBoundary (p : Place) : Bool :=
  p.before.any Text.isWord != p.after.head?.any Text.isWord

namespace Pattern

/-- The places where a repetition may end: behind every number of
characters of the class between the bounds. -/
def runEnds (k : CharClass) : Nat → Option Nat → Option Char → List Char → List Place
  | least, _, before, [] => if least = 0 then [⟨before, []⟩] else []
  | least, greatest, before, c :: r =>
    (if least = 0 then [⟨before, c :: r⟩] else []) ++
    (if greatest != some 0 && k.holds c then
      runEnds k (least - 1) (greatest.map (· - 1)) (some c) r
    else [])

/-- The places where a match that begins at a place may end. -/
def ends : Pattern → Place → List Place
  | .empty, p => [p]
  | .boundary, p => if p.isBoundary then [p] else []
  | .repeated k least greatest, p => runEnds k least greatest p.before p.after
  | .sequence first second, p => (first.ends p).flatMap second.ends
  | .choice first second, p => first.ends p ++ second.ends p

/-- Whether a match begins at a place or behind it. -/
def occursFrom (p : Pattern) : Option Char → List Char → Bool
  | before, [] => !(p.ends ⟨before, []⟩).isEmpty
  | before, c :: r => !(p.ends ⟨before, c :: r⟩).isEmpty || occursFrom p (some c) r

/-- Whether a pattern occurs in a text. -/
def occurs (p : Pattern) (text : String) : Bool := p.occursFrom none text.toList

end Pattern

end PromptTemplate
