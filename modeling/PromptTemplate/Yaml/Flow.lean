import PromptTemplate.Text.Hex
import PromptTemplate.Yaml.Spot
/-!
# PromptTemplate — scalars that flow

Plain and quoted scalars may go on over several lines. A line break in
them stands for a space, and more breaks for one less than there are; the
blanks around them do not count. `Gap` is what stands between two words
until the next one shows what it means.
-/

namespace PromptTemplate

namespace Yaml

/-- What stands between two words, in reverse: the blanks of one line, or
the line breaks. -/
structure Gap where
  blanks : List Char
  /-- There was a line break. -/
  broken : Bool
  /-- The first line break, if it is not escaped. -/
  first : Option Char
  more : List Char

namespace Gap

/-- Nothing stands between. -/
def empty : Gap := ⟨[], false, none, []⟩

/-- A line break that is escaped. -/
def escaped : Gap := ⟨[], true, none, []⟩

/-- Whether nothing stands between. -/
def isEmpty (g : Gap) : Bool := !g.broken && g.blanks.isEmpty

/-- Adds a blank or a line break. Blanks next to a line break are lost. -/
def add (g : Gap) (c : Char) : Gap :=
  if isBreak c then
    if g.broken then { g with more := c :: g.more } else ⟨[], true, some c, []⟩
  else if g.broken then g
  else { g with blanks := c :: g.blanks }

/-- What the gap means, in reverse. -/
def meaning (g : Gap) : List Char :=
  if !g.broken then g.blanks
  else if g.first == some '\n' then (if g.more.isEmpty then [' '] else g.more)
  else g.more ++ g.first.toList

end Gap

/-- The characters that structure flow collections. -/
def isFlowIndicator (c : Char) : Bool := ",[]\x7b\x7d".toList.contains c

/-- Reads on in a plain scalar, from the text so far in reverse and the gap
behind it. Gives the text, whether a line break follows it, and the rest. -/
def plainFrom (flow : Bool) (indent : Int) (text : List Char) (gap : Gap) :
    List Spot → Option (List Char × Bool × List Spot)
  | [] => some (text, gap.broken, [])
  | s :: rest =>
    if isSpace s.char || isBreak s.char then
      if gap.broken && s.char == '\t' && s.column < indent then none
      else plainFrom flow indent text (gap.add s.char) rest
    else if !gap.isEmpty && ((!flow && s.column < indent) || s.char == '#' || atMark (s :: rest))
    then some (text, gap.broken, s :: rest)
    else if flow && s.char == ':' && (next? rest).any (fun c => c == '?' || isFlowIndicator c) then
      none
    else if (s.char == ':' && atGap rest) || (flow && isFlowIndicator s.char) then
      some (text, gap.broken, s :: rest)
    else plainFrom flow indent (s.char :: (gap.meaning ++ text)) .empty rest

/-- Reads a plain scalar. -/
def plain? (flow : Bool) (indent : Int) (input : List Spot) :
    Option (String × Bool × List Spot) :=
  (plainFrom flow indent [] .empty input).map fun (text, broken, rest) =>
    (String.ofList text.reverse, broken, rest)

/-- Reads on in a scalar in single quotes, in which a quote is written
twice. -/
def singleFrom (text : List Char) (gap : Gap) : List Spot → Option (List Char × List Spot)
  | [] => none
  | s :: rest =>
    if isSpace s.char || isBreak s.char then singleFrom text (gap.add s.char) rest
    else if atMark (s :: rest) then none
    else if s.char == '\'' then
      match rest with
      | [] => some (gap.meaning ++ text, [])
      | t :: rest =>
        if t.char == '\'' then singleFrom ('\'' :: (gap.meaning ++ text)) .empty rest
        else some (gap.meaning ++ text, t :: rest)
    else singleFrom (s.char :: (gap.meaning ++ text)) .empty rest

/-- The character that an escape of one letter stands for. -/
def escape? (c : Char) : Option Char :=
  match c with
  | '0' => some (Char.ofNat 0)
  | 'a' => some (Char.ofNat 7)
  | 'b' => some (Char.ofNat 8)
  | 't' | '\t' => some '\t'
  | 'n' => some '\n'
  | 'v' => some (Char.ofNat 11)
  | 'f' => some (Char.ofNat 12)
  | 'r' => some '\r'
  | 'e' => some (Char.ofNat 27)
  | ' ' | '"' | '/' | '\\' => some c
  | 'N' => some (Char.ofNat 0x85)
  | '_' => some (Char.ofNat 0xA0)
  | 'L' => some (Char.ofNat 0x2028)
  | 'P' => some (Char.ofNat 0x2029)
  | _ => none

/-- How many digits follow an escape that gives a code point. -/
def escapeDigits? (c : Char) : Option Nat :=
  match c with
  | 'x' => some 2
  | 'u' => some 4
  | 'U' => some 8
  | _ => none

/-- The character of a code point. -/
def character? (n : Nat) : Option Char := if n.isValidChar then some (Char.ofNat n) else none

/-- Where the reader stands in an escape. -/
inductive Escaping
  | outside
  /-- Behind the backslash. -/
  | opened
  /-- In the digits of a code point: one more than are left, and the value so
  far. -/
  | digits (more value : Nat)

/-- Reads on in a scalar in double quotes. -/
def doubleFrom (text : List Char) (gap : Gap) : Escaping → List Spot →
    Option (List Char × List Spot)
  | _, [] => none
  | .opened, s :: rest =>
    if isBreak s.char then doubleFrom text .escaped .outside rest
    else
      match escapeDigits? s.char, escape? s.char with
      | some n, _ => doubleFrom text gap (.digits (n - 1) 0) rest
      | none, some c => doubleFrom (c :: text) gap .outside rest
      | none, none => none
  | .digits more value, s :: rest =>
    match Hex.value? s.char, more with
    | none, _ => none
    | some d, more + 1 => doubleFrom text gap (.digits more (value * 16 + d)) rest
    | some d, 0 =>
      match character? (value * 16 + d) with
      | some c => doubleFrom (c :: text) gap .outside rest
      | none => none
  | .outside, s :: rest =>
    if isSpace s.char || isBreak s.char then doubleFrom text (gap.add s.char) .outside rest
    else if atMark (s :: rest) then none
    else if s.char == '"' then some (gap.meaning ++ text, rest)
    else if s.char == '\\' then doubleFrom (gap.meaning ++ text) .empty .opened rest
    else doubleFrom (s.char :: (gap.meaning ++ text)) .empty .outside rest

/-- Reads a scalar in single quotes, behind the first one. -/
def single? (input : List Spot) : Option (String × List Spot) :=
  (singleFrom [] .empty input).map fun (text, rest) => (String.ofList text.reverse, rest)

/-- Reads a scalar in double quotes, behind the first one. -/
def double? (input : List Spot) : Option (String × List Spot) :=
  (doubleFrom [] .empty .outside input).map fun (text, rest) => (String.ofList text.reverse, rest)

end Yaml

end PromptTemplate
