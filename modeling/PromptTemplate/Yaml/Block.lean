import PromptTemplate.Yaml.Spot
/-!
# PromptTemplate — scalars in blocks

A block scalar is made of the lines below its header that are indented far
enough. It is literal or folded, and its header may say how far it is
indented and what becomes of the line breaks at its end.
-/

namespace PromptTemplate

namespace Yaml

/-- A line and the break that ends it. -/
structure Line where
  spots : List Spot
  ending : Option Spot

namespace Line

/-- The lines of what is left. -/
def ofSpots : List Spot → List Line
  | [] => []
  | s :: rest =>
    if isBreak s.char then ⟨[], some s⟩ :: ofSpots rest
    else
      match ofSpots rest with
      | [] => [⟨[s], none⟩]
      | l :: ls => ⟨s :: l.spots, l.ending⟩ :: ls

/-- The characters of lines. -/
def toSpots (ls : List Line) : List Spot := ls.flatMap fun l => l.spots ++ l.ending.toList

/-- Cutting into lines loses nothing. -/
theorem toSpots_ofSpots (input : List Spot) : toSpots (ofSpots input) = input := by
  induction input with
  | nil => rfl
  | cons s rest ih =>
    unfold ofSpots
    split
    · simpa [toSpots] using ih
    · split
      · rename_i h
        rw [h] at ih
        simp only [toSpots, List.flatMap_nil] at ih
        simp [toSpots, ← ih]
      · rename_i h
        rw [h] at ih
        simpa [toSpots] using ih

/-- How many spaces a line begins with. -/
def indentation (l : Line) : Nat := (l.spots.takeWhile (·.char == ' ')).length

/-- The break that ends a line, as text. -/
def breakText (l : Line) : List Char := l.ending.toList.map Spot.char

end Line

/-- What becomes of the line breaks at the end. -/
inductive Chomp
  | strip | clip | keep

/-- The mark that a header says what becomes of line breaks with. -/
def chomp? (c : Char) : Option Chomp :=
  match c with
  | '-' => some .strip
  | '+' => some .keep
  | _ => none

/-- The indentation that a header gives. -/
def increment? (c : Char) : Option Nat :=
  if '1' ≤ c ∧ c ≤ '9' then some (c.toNat - '0'.toNat) else none

/-- The marks of a header, in either order. -/
def marks (line : List Spot) : Chomp × Option Nat × List Spot :=
  match line with
  | [] => (.clip, none, [])
  | a :: rest =>
    match chomp? a.char, increment? a.char with
    | some c, _ =>
      match rest with
      | b :: rest' =>
        match increment? b.char with
        | some n => (c, some n, rest')
        | none => (c, none, rest)
      | [] => (c, none, [])
    | none, some n =>
      match rest with
      | b :: rest' =>
        match chomp? b.char with
        | some c => (c, some n, rest')
        | none => (.clip, some n, rest)
      | [] => (.clip, some n, [])
    | none, none => (.clip, none, line)

/-- Whether a line holds no more than spaces and a comment. -/
def isIdle (line : List Spot) : Bool :=
  match line.dropWhile (isSpace ·.char) with
  | [] => true
  | s :: _ => s.char == '#'

/-- How far the first line that is not empty is indented, but at least as
far as the empty lines above it. -/
def detectedIndent (deepest : Nat) : List Line → Option Nat
  | [] => some deepest
  | l :: ls =>
    let deepest := max deepest l.indentation
    match l.spots.drop l.indentation with
    | [] => if l.ending.isSome then detectedIndent deepest ls else some deepest
    | s :: _ => if s.char == '\t' then none else some deepest

/-- A block scalar that has been read in part. -/
structure BlockText where
  text : List Char
  /-- The break behind the last line. -/
  last : List Char
  /-- The breaks of the empty lines behind it. -/
  empties : List Char
  /-- The last line began with a blank. -/
  indented : Bool

namespace BlockText

/-- Nothing has been read. -/
def start : BlockText := ⟨[], [], [], false⟩

/-- Adds an empty line. -/
def addEmpty (b : BlockText) (l : Line) : BlockText :=
  { b with empties := b.empties ++ l.breakText }

/-- Adds a line, of which the indentation has been taken away. A folded
break between two lines that do not begin with blanks stands for a space,
or for nothing next to empty lines. -/
def addLine (fold : Bool) (b : BlockText) (first : Spot) (line : List Char) (ending : List Char) :
    BlockText :=
  let indented := isSpace first.char
  let joint :=
    if fold && b.last == ['\n'] && !b.indented && !indented then
      (if b.empties.isEmpty then [' '] else [])
    else b.last
  ⟨b.text ++ joint ++ b.empties ++ line, ending, [], indented⟩

/-- The text, with the breaks at its end. -/
def finish (b : BlockText) : Chomp → String
  | .strip => String.ofList b.text
  | .clip => String.ofList (b.text ++ b.last)
  | .keep => String.ofList (b.text ++ b.last ++ b.empties)

end BlockText

/-- Reads the lines that belong to a block scalar. Gives it and the rest. -/
def blockLines (fold : Bool) (indent : Nat) (b : BlockText) :
    List Line → Option (BlockText × List Line)
  | [] => some (b, [])
  | l :: ls =>
    let depth := min indent l.indentation
    match l.spots.drop depth with
    | [] =>
      if l.ending.isSome then blockLines fold indent (b.addEmpty l) ls else some (b, l :: ls)
    | s :: rest =>
      if indent ≤ depth then
        blockLines fold indent (b.addLine fold s ((s :: rest).map Spot.char) l.breakText) ls
      else if s.char == '\t' then none
      else some (b, l :: ls)

/-- Reads a block scalar behind its indicator, under an indentation. -/
def block? (fold : Bool) (outer : Int) (input : List Spot) : Option (String × List Spot) :=
  match Line.ofSpots input with
  | [] => some ("", [])
  | header :: body =>
    let (chomp, increment, rest) := marks header.spots
    if !isIdle rest then none
    else
      let indent := match increment with
        | some n => some (outer.toNat + n)
        | none => (detectedIndent 0 body).map fun n => max n (max (outer + 1).toNat 1)
      match indent.bind (fun n => blockLines fold n .start body) with
      | none => none
      | some (b, rest) => some (b.finish chomp, Line.toSpots rest)

end Yaml

end PromptTemplate
