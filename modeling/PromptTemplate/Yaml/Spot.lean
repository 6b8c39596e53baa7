/-!
# PromptTemplate — the characters of a YAML stream

YAML is read by lines and columns. A `Spot` is a character together with
its place, so that whatever is left of a stream says where it stands.
`spots?` places the characters of a text, writes its line breaks in one
way, and refuses characters that no stream may hold.
-/

namespace PromptTemplate

namespace Yaml

/-- A character and its place. -/
structure Spot where
  char : Char
  index : Nat
  line : Nat
  column : Nat

/-- Whether a stream may hold a character: tabs, line breaks and what can
be printed. -/
def isAllowed (c : Char) : Bool :=
  let n := c.toNat
  n == 9 || n == 10 || n == 13 || (0x20 ≤ n && n ≤ 0x7E) || n == 0x85 ||
    (0xA0 ≤ n && n ≤ 0xFFFD) || 0x10000 ≤ n

/-- Whether a character breaks a line, once breaks are written in one
way. -/
def isBreak (c : Char) : Bool := c == '\n' || c.toNat == 0x2028 || c.toNat == 0x2029

/-- Whether a character is a space or a tab. -/
def isSpace (c : Char) : Bool := c == ' ' || c == '\t'

/-- Writes the line breaks of a text in one way: carriage returns, alone or
before a line feed, and next lines become line feeds. -/
def unifyBreaks : List Char → List Char
  | [] => []
  | '\r' :: '\n' :: r => '\n' :: unifyBreaks r
  | '\r' :: r => '\n' :: unifyBreaks r
  | c :: r => (if c.toNat == 0x85 then '\n' else c) :: unifyBreaks r

/-- Places characters, from a place on. -/
def place (index line column : Nat) : List Char → List Spot
  | [] => []
  | c :: r =>
    ⟨c, index, line, column⟩ ::
      if isBreak c then place (index + 1) (line + 1) 0 r
      else place (index + 1) line (column + 1) r

/-- The characters of a text in their places, if a stream may hold them. -/
def spots? (text : String) : Option (List Spot) :=
  if text.toList.all isAllowed then some (place 0 0 0 (unifyBreaks text.toList)) else none

/-- Placing keeps the characters. -/
theorem map_char_place (index line column : Nat) (cs : List Char) :
    (place index line column cs).map Spot.char = cs := by
  induction cs generalizing index line column with
  | nil => rfl
  | cons c r ih =>
    unfold place
    split <;> simp [ih]

/-- Whether nothing, a space, a tab or a line break is next. -/
def atGap : List Spot → Bool
  | [] => true
  | s :: _ => isSpace s.char || isBreak s.char

/-- The next character. -/
def next? (input : List Spot) : Option Char := input.head?.map Spot.char

/-- Whether three times a character and a gap are next, at the start of a
line. -/
def atMarkOf (c : Char) : List Spot → Bool
  | a :: b :: d :: rest =>
    a.column == 0 && a.char == c && b.char == c && d.char == c && atGap rest
  | _ => false

/-- Whether a mark that opens or ends a document is next. -/
def atMark (input : List Spot) : Bool := atMarkOf '-' input || atMarkOf '.' input

end Yaml

end PromptTemplate
