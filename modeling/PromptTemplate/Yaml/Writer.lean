import PromptTemplate.Text.Search
import PromptTemplate.Yaml.Scalar
/-!
# PromptTemplate — writing YAML

A string is written plain where it reads back as itself. Otherwise it
stands in single quotes, in a block if it has several lines, and in double
quotes with escapes if it holds characters that must not stand in the open.
-/

namespace PromptTemplate

namespace Yaml

/-- The words that older readers take for truth values. -/
def oldBooleans : List String :=
  ["y", "Y", "yes", "Yes", "YES", "n", "N", "no", "No", "NO", "on", "On", "ON", "off", "Off", "OFF"]

/-- Whether a character can be written in the open. -/
def isWritable (c : Char) : Bool :=
  let n := c.toNat
  n == 10 || (0x20 ≤ n && n ≤ 0x7E) || (0xA0 ≤ n && n ≤ 0xFFFD && n != 0xFEFF) || 0x10000 ≤ n

/-- Whether one character directly follows another one somewhere. -/
def hasPair (p q : Char → Bool) (cs : List Char) : Bool :=
  (cs.zip cs.tail).any fun (a, b) => p a && q b

/-- Whether spaces or line breaks stand at an end. -/
def hasLooseEnds (cs : List Char) : Bool :=
  (cs.head?.toList ++ cs.getLast?.toList).any fun c => c == ' ' || isBreak c

/-- Whether a text has characters that can only be written with escapes:
those that are not writable, and breaks behind spaces. -/
def needsEscapes (cs : List Char) : Bool :=
  !cs.all isWritable || hasPair (· == ' ') isBreak cs

/-- Whether a character at the front of a text means something else. -/
def isIndicator (c : Char) (rest : List Char) : Bool :=
  "#,[]\x7b\x7d&*!|>'\"%@\x60".toList.contains c ||
    ("?:-".toList.contains c && (rest.head?.all fun d => isSpace d || isBreak d))

/-- Whether a text would end, or become a comment or a key, if it were
written plain. -/
def isInterrupted (cs : List Char) : Bool :=
  hasPair (· == ':') (fun d => isSpace d || isBreak d) cs.tail ||
    (cs.tail.getLast? == some ':') ||
    hasPair (fun d => isSpace d || isBreak d) (· == '#') cs

/-- Whether the shape of a text lets it be written plain. -/
def canBePlain (cs : List Char) : Bool :=
  !(needsEscapes cs || hasLooseEnds cs || cs.any isBreak || isInterrupted cs ||
    "---".toList.isPrefixOf cs || "...".toList.isPrefixOf cs ||
    match cs with
    | [] => false
    | c :: rest => isIndicator c rest)

/-- A text in single quotes. -/
def singleQuoted (text : String) : String := "'" ++ Text.replaceAll text "'" "''" ++ "'"

/-- The letter that an escape is written with. -/
def escapeLetter? (n : Nat) : Option Char :=
  match n with
  | 0 => some '0'
  | 7 => some 'a'
  | 8 => some 'b'
  | 9 => some 't'
  | 10 => some 'n'
  | 11 => some 'v'
  | 12 => some 'f'
  | 13 => some 'r'
  | 27 => some 'e'
  | 34 => some '"'
  | 92 => some '\\'
  | 0x85 => some 'N'
  | 0xA0 => some '_'
  | 0x2028 => some 'L'
  | 0x2029 => some 'P'
  | _ => none

/-- The digits of a number to base sixteen, of a width. -/
def hexDigits : Nat → Nat → List Char
  | 0, _ => []
  | width + 1, n => hexDigits width (n / 16) ++ [Hex.upper (n % 16)]

/-- A character in double quotes. -/
def escaped (c : Char) : List Char :=
  let n := c.toNat
  if isWritable c && !isBreak c && c != '"' && c != '\\' then [c]
  else
    match escapeLetter? n with
    | some letter => ['\\', letter]
    | none =>
      if n ≤ 0xFF then '\\' :: 'x' :: hexDigits 2 n
      else if n ≤ 0xFFFF then '\\' :: 'u' :: hexDigits 4 n
      else '\\' :: 'U' :: hexDigits 8 n

/-- A text in double quotes. -/
def doubleQuoted (text : String) : String :=
  "\"" ++ String.ofList (text.toList.flatMap escaped) ++ "\""

/-- How the header of a block says what becomes of the line breaks at the
end. -/
def chompMark (lines : List String) : String :=
  match lines.reverse with
  | "" :: "" :: _ => "+"
  | "" :: _ => ""
  | _ => "-"

/-- A text of several lines as an indented block. -/
def literalBlock (indent : String) (text : String) : String :=
  let lines := (Text.split '\n' text.toList).map String.ofList
  let increment := if (text.toList.head?.any fun c => c == ' ' || isBreak c) then "2" else ""
  "|" ++ increment ++ chompMark lines ++ "\n" ++
    Text.join "\n" (lines.map fun l => if l.isEmpty then "" else indent ++ l)

/-- A string as it is written in a sequence that is not indented. -/
def writeString (text : String) : String :=
  let cs := text.toList
  if cs.contains '\n' then
    if needsEscapes cs || cs.getLast? == some ' ' then doubleQuoted text
    else literalBlock "  " text
  else if needsEscapes cs || hasPair isBreak (· == ' ') cs then doubleQuoted text
  else if oldBooleans.contains text || hasMeaning text || !canBePlain cs then singleQuoted text
  else text

/-- The line, or the lines, of an item of a sequence. -/
def writeItem (text : String) : String :=
  let written := "- " ++ writeString text
  if written.endsWith "\n" then written else written ++ "\n"

/-- The lines of a field whose value is a sequence of strings. -/
def writeStrings (name : String) (texts : List String) : String :=
  if texts.isEmpty then s!"{name}: []\n"
  else s!"{name}:\n" ++ String.join (texts.map writeItem)

/-- The line of a field with a plain value. -/
def writePlain (name value : String) : String := s!"{name}: {value}\n"

end Yaml

end PromptTemplate
