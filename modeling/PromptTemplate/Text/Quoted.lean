import PromptTemplate.Text.Printable
/-!
# PromptTemplate — texts quoted in messages

A message that names a string shows it between double quotes, with the
quote, the backslash and everything that would not show escaped: by a
letter for the tab, the line ends and the null character, and by code
point elsewhere.
-/

namespace PromptTemplate

namespace Text

/-- How a character is shown inside a quoted text. -/
def shown (c : Char) : List Char :=
  if c = '\x00' then ['\\', '0']
  else if c = '\t' then ['\\', 't']
  else if c = '\r' then ['\\', 'r']
  else if c = '\n' then ['\\', 'n']
  else if c = '"' then ['\\', '"']
  else if c = '\\' then ['\\', '\\']
  else if isPrintable c then [c]
  else ['\\', 'u', '\x7b'] ++ Hex.text c.toNat ++ ['\x7d']

/-- A text between quotes, as messages show it. -/
def quoted (s : String) : String :=
  String.ofList ('"' :: s.toList.flatMap shown ++ ['"'])

end Text

end PromptTemplate
