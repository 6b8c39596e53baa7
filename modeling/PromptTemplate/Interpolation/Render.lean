import PromptTemplate.Json.Writer
import PromptTemplate.Text.Search
import PromptTemplate.Fault
/-!
# PromptTemplate — values as prompt text and as literals

A value stands in a prompt as plain text: strings as they are, arrays as
their items with a comma between two, and objects by their number of
properties only, so that structure never leaks. Everything but a string is
cut after a thousand characters.

In a condition a value stands as a literal, in its JSON form, so that it
stays one literal whatever it holds. Objects have no literal, and neither
have controls that JSON can only write by their code.
-/

namespace PromptTemplate

namespace Interpolation

/-- How many characters of a rendered value are kept. -/
def maxRendered : Nat := 1000

/-- What stands behind a value that has been cut. -/
def truncationMark : String := "...[TRUNCATED]"

mutual

/-- The text of a value, uncut. -/
def fullText : Value → String
  | .string s => s
  | .array items => Text.join ", " (fullTexts items)
  | .object fields => s!"[Object with {fields.size} properties]"
  | .null => "null"
  | .bool true => "true"
  | .bool false => "false"
  | .number n => n.text

/-- The texts of the items of an array. -/
def fullTexts : List Value → List String
  | [] => []
  | v :: vs => fullText v :: fullTexts vs

end

/-- The text of a value in a prompt. -/
def render : Value → String
  | .string s => s
  | v => Text.truncated maxRendered truncationMark (fullText v)

mutual

/-- Whether a value is an object or an array that holds one, at any
depth. -/
def holdsObject : Value → Bool
  | .object _ => true
  | .array items => anyHoldsObject items
  | _ => false

/-- Whether one of the values holds an object. -/
def anyHoldsObject : List Value → Bool
  | [] => false
  | v :: vs => holdsObject v || anyHoldsObject vs

end

/-- Whether JSON can write a character only by its code. -/
def needsCode (c : Char) : Bool :=
  c.toNat < 0x20 && c != '\x08' && c != '\t' && c != '\n' && c != '\x0c' && c != '\r'

mutual

/-- The first character of a value that needs its code. -/
def findCoded? : Value → Option Char
  | .string s => s.toList.find? needsCode
  | .array items => findCodedIn? items
  | _ => none

/-- The first character in a list of values that needs its code. -/
def findCodedIn? : List Value → Option Char
  | [] => none
  | v :: vs => (findCoded? v).or (findCodedIn? vs)

end

/-- Why a value has no literal. -/
inductive LiteralFailure
  | object
  | control (c : Char)
deriving DecidableEq

/-- A code point in four upper-case digits or more. -/
def codeText (n : Nat) : String :=
  let ds := (Nat.toDigits 16 n).map Char.toUpper
  String.ofList (List.replicate (4 - ds.length) '0' ++ ds)

/-- The wording of a failure. -/
def LiteralFailure.message : LiteralFailure → String
  | .object => "objects cannot be interpolated into a condition"
  | .control c =>
    s!"control character U+{codeText c.toNat} cannot be interpolated into a condition"

/-- The literal of a value in a condition. -/
def literal (v : Value) : Except LiteralFailure String :=
  if holdsObject v then .error .object
  else match findCoded? v with
    | some c => .error (.control c)
    | none => .ok (Json.compact v)

/-- The literal of the value of a path; a value without one leaves the
reference unresolved. -/
def conditionLiteral (path : String) (v : Value) : Except Unresolved String :=
  match literal v with
  | .ok text => .ok text
  | .error why => .error ⟨path, why.message, []⟩

end Interpolation

end PromptTemplate
