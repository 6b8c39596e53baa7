import PromptTemplate.Text.Hex
/-!
# PromptTemplate — percent-encoding

What may not stand in a part of an address is written as its bytes in
UTF-8, each as a percent sign and two digits. Which characters these are
depends on the part; characters beyond ASCII and controls are encoded in
all of them.
-/

namespace PromptTemplate

namespace Url

/-- Whether a character is encoded in every part. -/
def isControl (c : Char) : Bool := c.toNat < 0x20 || 0x7f ≤ c.toNat

/-- Whether a character is encoded in a fragment. -/
def encodedInFragment (c : Char) : Bool :=
  isControl c || [' ', '"', '<', '>', '\x60'].contains c

/-- Whether a character is encoded in a path. -/
def encodedInPath (c : Char) : Bool :=
  encodedInFragment c || ['#', '?', '\x7b', '\x7d'].contains c

/-- Whether a character is encoded in the name and the password of a
user. -/
def encodedInUser (c : Char) : Bool :=
  encodedInPath c || ['/', ':', ';', '=', '@', '[', '\\', ']', '^', '|'].contains c

/-- Whether a character is encoded in the query of an address; the single
quote is in those of special schemes. -/
def encodedInQuery (special : Bool) (c : Char) : Bool :=
  isControl c || [' ', '"', '#', '<', '>'].contains c || (special && c == '\'')

/-- A byte as a percent sign and two digits. -/
def percentByte (b : UInt8) : List Char :=
  ['%', Hex.upper (b.toNat / 16), Hex.upper (b.toNat % 16)]

/-- Writes a text with some of its characters as their bytes. -/
def percentEncode (encoded : Char → Bool) (cs : List Char) : List Char :=
  cs.flatMap fun c =>
    if encoded c then (String.utf8EncodeChar c).flatMap percentByte else [c]

/-- The bytes of a text, with those that are written by digits taken as
they are meant. -/
def percentBytes : List Char → List UInt8
  | [] => []
  | '%' :: a :: b :: cs =>
    match Hex.value? a, Hex.value? b with
    | some x, some y => UInt8.ofNat (x * 16 + y) :: percentBytes cs
    | _, _ => String.utf8EncodeChar '%' ++ percentBytes (a :: b :: cs)
  | c :: cs => String.utf8EncodeChar c ++ percentBytes cs

/-- The text that percent-encoding stands for, if its bytes are UTF-8. -/
def percentDecode? (cs : List Char) : Option (List Char) :=
  (String.fromUTF8? ⟨(percentBytes cs).toArray⟩).map String.toList

end Url

end PromptTemplate
