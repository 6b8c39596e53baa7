import PromptTemplate.Value
import PromptTemplate.Number.Reader
import PromptTemplate.Text.Hex
import PromptTemplate.Text.Surrogate
/-!
# PromptTemplate — values from JSON text

A strict reader: one value, only blanks around it, no trailing commas, no
raw controls in strings, escaped surrogates in pairs only, and a bound on
how deep arrays and objects nest. A key given twice keeps the later
value.
-/

namespace PromptTemplate

namespace Json

/-- How deep arrays and objects may nest in a text. -/
def maxNesting : Nat := 127

/-- The blanks of JSON. -/
def isBlank (c : Char) : Bool := c = ' ' || c = '\n' || c = '\r' || c = '\t'

/-- Drops the blanks in front. -/
def skipBlanks (cs : List Char) : List Char := cs.dropWhile isBlank

/-- The character of an escape of one letter. -/
def unescape? (c : Char) : Option Char :=
  match c with
  | '"' => some '"'
  | '\\' => some '\\'
  | '/' => some '/'
  | 'b' => some '\x08'
  | 'f' => some '\x0c'
  | 'n' => some '\n'
  | 'r' => some '\r'
  | 't' => some '\t'
  | _ => none

/-- Reads a string up to its closing quote. -/
def readString? : List Char → Option (List Char × List Char)
  | [] => none
  | '"' :: r => some ([], r)
  | '\\' :: 'u' :: a :: b :: c :: d :: r =>
    match Hex.value4? a b c d with
    | none => none
    | some unit =>
      if Surrogate.isHigh unit then
        match r with
        | '\\' :: 'u' :: a' :: b' :: c' :: d' :: r' =>
          match Hex.value4? a' b' c' d' with
          | none => none
          | some low =>
            if Surrogate.isLow low then
              (readString? r').map fun (cs, rest) => (Surrogate.pair unit low :: cs, rest)
            else none
        | _ => none
      else if Surrogate.isLow unit then none
      else (readString? r).map fun (cs, rest) => (Char.ofNat unit :: cs, rest)
  | '\\' :: e :: r =>
    match unescape? e with
    | none => none
    | some c => (readString? r).map fun (cs, rest) => (c :: cs, rest)
  | c :: r =>
    if c.toNat < 0x20 ∨ c = '\\' then none
    else (readString? r).map fun (cs, rest) => (c :: cs, rest)

/-- Reads the colon behind a key. -/
def readColon? (cs : List Char) : Option (List Char) :=
  match skipBlanks cs with
  | ':' :: r => some r
  | _ => none

mutual

/-- Reads a value that may nest `depth` deep. Of two steps in a row one
consumes a character, so twice the length of the text suffices as
fuel. -/
def readValue? (depth : Nat) : Nat → List Char → Option (Value × List Char)
  | 0, _ => none
  | fuel + 1, cs =>
    match skipBlanks cs with
    | 'n' :: 'u' :: 'l' :: 'l' :: r => some (.null, r)
    | 't' :: 'r' :: 'u' :: 'e' :: r => some (.bool true, r)
    | 'f' :: 'a' :: 'l' :: 's' :: 'e' :: r => some (.bool false, r)
    | '"' :: r => (readString? r).map fun (s, rest) => (.string (String.ofList s), rest)
    | '[' :: r =>
      if depth = 0 then none
      else match skipBlanks r with
        | ']' :: rest => some (.array [], rest)
        | r => (readItems? (depth - 1) fuel r).map fun (vs, rest) => (.array vs, rest)
    | '\x7b' :: r =>
      if depth = 0 then none
      else match skipBlanks r with
        | '\x7d' :: rest => some (.object .nil, rest)
        | r => (readFields? (depth - 1) fuel r).map fun (es, rest) =>
            (.object (Table.ofList es), rest)
    | r => (Number.read? r).map fun (n, rest) => (.number n, rest)

/-- Reads the items of an array up to its closing bracket. -/
def readItems? (depth : Nat) : Nat → List Char → Option (List Value × List Char)
  | 0, _ => none
  | fuel + 1, cs =>
    match readValue? depth fuel cs with
    | none => none
    | some (v, r) =>
      match skipBlanks r with
      | ',' :: r => (readItems? depth fuel r).map fun (vs, rest) => (v :: vs, rest)
      | ']' :: rest => some ([v], rest)
      | _ => none

/-- Reads the fields of an object up to its closing brace. -/
def readFields? (depth : Nat) : Nat → List Char → Option (List (String × Value) × List Char)
  | 0, _ => none
  | fuel + 1, cs =>
    match skipBlanks cs with
    | '"' :: r =>
      match readString? r with
      | none => none
      | some (key, r) =>
        match readColon? r with
        | none => none
        | some r =>
          match readValue? depth fuel r with
          | none => none
          | some (v, r) =>
            let entry := (String.ofList key, v)
            match skipBlanks r with
            | ',' :: r => (readFields? depth fuel r).map fun (es, rest) => (entry :: es, rest)
            | '\x7d' :: rest => some ([entry], rest)
            | _ => none
    | _ => none

end

/-- The value that a text nested at most `depth` deep stands for. -/
def parseNested? (depth : Nat) (text : String) : Option Value :=
  let cs := text.toList
  match readValue? depth (2 * cs.length + 2) cs with
  | some (v, rest) => if (skipBlanks rest).isEmpty then some v else none
  | none => none

/-- The value that a text stands for, if it is valid. -/
def parse? (text : String) : Option Value := parseNested? maxNesting text

end Json

end PromptTemplate
