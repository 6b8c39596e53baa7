import PromptTemplate.Number.Double
import PromptTemplate.Text.Hex
import PromptTemplate.Yaml.Node
/-!
# PromptTemplate — what plain scalars mean

A plain scalar may mean nothing, a truth value or a number; any other
scalar is a string. As a string a scalar is taken in whatever way it is
written.
-/

namespace PromptTemplate

namespace Yaml

/-- Whether a text means nothing. -/
def isNull (text : String) : Bool := ["null", "Null", "NULL", "~"].contains text

/-- The truth value that a text means. -/
def bool? (text : String) : Option Bool :=
  if ["true", "True", "TRUE"].contains text then some true
  else if ["false", "False", "FALSE"].contains text then some false
  else none

/-- The value of digits to a base, of which there has to be one. -/
def digits? (base : Nat) (cs : List Char) : Option Nat :=
  if cs.isEmpty then none
  else
    cs.foldl (fun value c =>
      match value, Hex.value? c with
      | some v, some d => if d < base then some (v * base + d) else none
      | _, _ => none) (some 0)

/-- Whether digits behind a leading zero stand where a number would. -/
def isPadded (cs : List Char) : Bool :=
  match cs with
  | '0' :: d :: rest => (d :: rest).all Char.isDigit
  | _ => false

/-- The natural number that digits mean: to base ten, or to another base
behind a mark of it. -/
def unsigned? (cs : List Char) : Option Nat :=
  match cs with
  | '0' :: 'x' :: rest => digits? 16 rest
  | '0' :: 'o' :: rest => digits? 8 rest
  | '0' :: 'b' :: rest => digits? 2 rest
  | _ => if isPadded cs then none else digits? 10 cs

/-- The natural number that a text means, with or without a plus sign. -/
def natural? (text : String) : Option Nat :=
  match text.toList with
  | '+' :: rest => unsigned? rest
  | cs => unsigned? cs

/-- Whether a text means an integer of 128 bits. -/
def isInteger (text : String) : Bool :=
  match text.toList with
  | '-' :: rest => (unsigned? rest).any (· ≤ 1 <<< 127)
  | _ => (natural? text).any (· < 1 <<< 128)

/-- Whether a text means a number that is not finite. -/
def isSpecialNumber (text : String) : Bool :=
  [".inf", ".Inf", ".INF", "+.inf", "+.Inf", "+.INF", "-.inf", "-.Inf", "-.INF",
    ".nan", ".NaN", ".NAN"].contains text

/-- The digits of a decimal number: those before and behind the point, and
the exponent. -/
def decimalParts? (cs : List Char) : Option (List Char × List Char × Int) :=
  let whole := cs.takeWhile Char.isDigit
  let rest := cs.dropWhile Char.isDigit
  let (fraction, rest) := match rest with
    | '.' :: r => (r.takeWhile Char.isDigit, r.dropWhile Char.isDigit)
    | _ => ([], rest)
  if whole.isEmpty && fraction.isEmpty then none
  else
    match rest with
    | [] => some (whole, fraction, 0)
    | e :: r =>
      if e != 'e' && e != 'E' then none
      else
        match r with
        | '-' :: r => (digits? 10 r).map fun n => (whole, fraction, -n)
        | '+' :: r => (digits? 10 r).map fun n => (whole, fraction, n)
        | _ => (digits? 10 r).map fun n => (whole, fraction, n)

/-- Whether there is a double next to a number of digits at a power of ten.
Most numbers show it by how many digits they have. -/
def isNearDouble (digits : Nat) (exponent : Int) : Bool :=
  let order := exponent + (Nat.toDigits 10 digits).length
  if digits == 0 || order < 300 then true
  else if 310 < order then false
  else
    let (num, den) := if exponent < 0 then (digits, Nat.pow 10 exponent.natAbs)
      else (digits * Nat.pow 10 exponent.natAbs, 1)
    (Double.nearest? false num den).isSome

/-- A text without its sign. -/
def unsignedPart (text : String) : List Char :=
  match text.toList with
  | '+' :: rest => rest
  | '-' :: rest => rest
  | cs => cs

/-- Whether a text means a decimal number that is not too large. -/
def isDecimal (text : String) : Bool :=
  (decimalParts? (unsignedPart text)).any fun (whole, fraction, exponent) =>
    isNearDouble ((digits? 10 (whole ++ fraction)).getD 0) (exponent - fraction.length)

/-- Whether a text means something else than a string if it is written
plain, or looks like a number with zeros in front. -/
def hasMeaning (text : String) : Bool :=
  text.isEmpty || isNull text || (bool? text).isSome || isInteger text || isSpecialNumber text ||
    isPadded (unsignedPart text) || isDecimal text

namespace Node

/-- Whether a scalar may mean something else than a string: if it is plain,
or literal under a tag. -/
def mayMean (style : Style) (tag : Option String) (kind : String) : Bool :=
  style == .plain || (style == .literal && tag == some ("tag:yaml.org,2002:" ++ kind))

/-- The truth value of a node. -/
def bool? : Node → Option Bool
  | .scalar style tag text => if mayMean style tag "bool" then Yaml.bool? text else none
  | _ => none

/-- The natural number of a node, of 64 bits. -/
def natural? : Node → Option Nat
  | .scalar style tag text =>
    if mayMean style tag "int" then (Yaml.natural? text).filter (· < 1 <<< 64) else none
  | _ => none

/-- The text of a scalar. -/
def text? : Node → Option String
  | .scalar _ _ text => some text
  | _ => none

/-- Whether a node is a plain scalar without text. -/
def isEmpty : Node → Bool
  | .scalar style _ text => style == .plain && text.isEmpty
  | _ => false

/-- The items of a sequence; nothing at all stands for none. -/
def items? : Node → Option (List Node)
  | .sequence items => some items
  | n => if n.isEmpty then some [] else none

/-- The fields of a mapping whose keys are scalars; nothing at all stands
for none. -/
def fields? : Node → Option (List (String × Node))
  | .mapping entries => entries.mapM fun (k, v) => k.text?.map fun name => (name, v)
  | n => if n.isEmpty then some [] else none

/-- A node that may mean nothing, read by a reader otherwise. -/
def optional? {α : Type} (read : Node → Option α) (n : Node) : Option (Option α) :=
  match n with
  | .scalar .plain none text => if text.isEmpty || isNull text then some none else (read n).map some
  | .scalar .plain (some "tag:yaml.org,2002:null") text => if isNull text then some none else none
  | _ => (read n).map some

/-- A field, read by a reader, or what stands for it if it is missing. A
field that is there twice cannot be read. -/
def field {α : Type} (fields : List (String × Node)) (name : String) (read : Node → Option α)
    (default : α) : Option α :=
  match fields.filter (·.1 == name) with
  | [] => some default
  | [(_, n)] => read n
  | _ => none

end Node

end Yaml

end PromptTemplate
