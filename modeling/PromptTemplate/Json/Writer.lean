import PromptTemplate.Value
import PromptTemplate.Text.Hex
/-!
# PromptTemplate — values as JSON text

The compact form of a value: no blanks, fields in key order, and strings
with the shortest escapes. Only the quote, the backslash and the controls
below the space are escaped; every other character stands for itself.
The size of a template is the number of bytes of this form.
-/

namespace PromptTemplate

namespace Json

/-- How a character is written inside a string. -/
def escape (c : Char) : List Char :=
  if c = '"' then ['\\', '"']
  else if c = '\\' then ['\\', '\\']
  else if c = '\n' then ['\\', 'n']
  else if c = '\r' then ['\\', 'r']
  else if c = '\t' then ['\\', 't']
  else if c = '\x08' then ['\\', 'b']
  else if c = '\x0c' then ['\\', 'f']
  else if c.toNat < 0x20 then
    ['\\', 'u', '0', '0', Hex.lower (c.toNat / 16), Hex.lower (c.toNat % 16)]
  else [c]

/-- A string between quotes. -/
def quote (s : String) : List Char := '"' :: s.toList.flatMap escape ++ ['"']

mutual

/-- The compact text of a value. -/
def compactChars : Value → List Char
  | .null => ['n', 'u', 'l', 'l']
  | .bool true => ['t', 'r', 'u', 'e']
  | .bool false => ['f', 'a', 'l', 's', 'e']
  | .number n => n.text.toList
  | .string s => quote s
  | .array items => '[' :: itemChars items ++ [']']
  | .object fields => '\x7b' :: fieldChars fields ++ ['\x7d']

/-- The items of an array, with a comma between two. -/
def itemChars : List Value → List Char
  | [] => []
  | [v] => compactChars v
  | v :: w :: rest => compactChars v ++ ',' :: itemChars (w :: rest)

/-- The fields of an object, with a comma between two. -/
def fieldChars : {lo : Option String} → Entries Value lo → List Char
  | _, .nil => []
  | _, .cons k _ v .nil => quote k ++ ':' :: compactChars v
  | _, .cons k _ v (.cons k' h w rest) =>
    quote k ++ ':' :: compactChars v ++ ',' :: fieldChars (.cons k' h w rest)

end

/-- The compact text of a value. -/
def compact (v : Value) : String := String.ofList (compactChars v)

/-- The number of bytes of the compact text. -/
def byteSize (v : Value) : Nat := (compact v).utf8ByteSize

end Json

end PromptTemplate
