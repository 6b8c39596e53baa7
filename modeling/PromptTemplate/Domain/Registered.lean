import PromptTemplate.Domain.Mapping
import PromptTemplate.Domain.Label
import PromptTemplate.Domain.Punycode
import PromptTemplate.Text.Search
/-!
# PromptTemplate — registered names

Every domain name has one ASCII form, under which it is registered. A name
is mapped to settled characters and composed; its labels are checked, and
those beyond ASCII are written in Punycode behind a mark. A label that
bears the mark already must be what a checked label is written as.
`registered?` gives the ASCII form, or nothing if the name cannot be
registered or holds a character that would end the host of an address.
-/

namespace PromptTemplate

namespace Domain

/-- What stands before the ASCII name of a label beyond ASCII. -/
def punycodeMark : List Char := ['x', 'n', '-', '-']

/-- The ASCII characters that no host name may hold. -/
def isForbidden (c : Char) : Bool :=
  c.toNat ≤ 0x20 || c.toNat == 0x7f ||
  ['%', '#', '/', ':', '<', '>', '?', '@', '[', '\\', ']', '^', '|'].contains c

/-- Whether a text is ASCII throughout. -/
def isAscii (cs : List Char) : Bool := cs.all (·.toNat < 0x80)

/-- The label that a marked ASCII name stands for: it is settled, composed,
and not ASCII itself. -/
def unmarked? (name : List Char) : Option (List Char) :=
  match Punycode.decode? name with
  | none => none
  | some label =>
    if label.all settled && composed label == label && !isAscii label then some label else none

/-- A label with the ASCII name of it. -/
structure Label where
  text : List Char
  name : List Char

/-- Reads a mapped label, which may be marked. -/
def label? (cs : List Char) : Option Label :=
  if punycodeMark.isPrefixOf cs then
    match unmarked? (cs.drop punycodeMark.length) with
    | none => none
    | some text => if obeysRules text then some ⟨text, cs⟩ else none
  else if isAscii cs then some ⟨cs, cs⟩
  else if obeysRules cs then some ⟨cs, punycodeMark ++ Punycode.encode cs⟩
  else none

/-- The ASCII form of a domain name. -/
def registered? (name : List Char) : Option (List Char) := do
  let cs ← mapped? name
  let ls ← (Text.split '.' (composed cs)).mapM label?
  let rightToLeft := ls.any (hasRight ·.text)
  if rightToLeft && !ls.all (keepsDirection ·.text) then none
  else
    let ascii := Text.unsplit '.' (ls.map (·.name))
    if ascii.any isForbidden then none else some ascii

end Domain

end PromptTemplate
