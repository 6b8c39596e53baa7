import PromptTemplate.Vetting.Text
import PromptTemplate.Value
/-!
# PromptTemplate — vetting variables

Variables pass if no key at any level is a name that code could trip over,
every string passes as text, arrays are not too long, and nothing nests
too deep: the variables themselves are at depth zero, and an array or an
object is one deeper than what holds it.
-/

namespace PromptTemplate

namespace Vetting

/-- The keys by which a variable would replace the inner workings of
objects. -/
def pollutionKeys : List String := ["__proto__", "constructor", "prototype"]

/-- The names that no variable may have, in lower case. -/
def forbiddenNames : List String := [
  "__proto__", "constructor", "prototype", "eval", "exec", "function", "import", "globals",
  "locals", "getattr", "setattr", "delattr", "hasattr", "compile", "builtins", "globalthis",
  "window", "document", "require", "settimeout", "setinterval", "setimmediate", "tostring",
  "valueof", "hasownproperty", "isprototypeof", "propertyisenumerable", "__definegetter__",
  "__definesetter__"]

/-- Whether a name is not allowed for variables: it begins with two
underscores or is forbidden in any case. -/
def isForbiddenName (name : String) : Bool :=
  ['_', '_'].isPrefixOf name.toList || forbiddenNames.contains (Text.lowercase name)

/-- The violation of nesting too deep at a place. -/
def variableDepth (p : Policy) (place : String) : Violation :=
  .plain .nestingTooDeep
    s!"variable nesting at '{place}' exceeds maximum depth of {p.maxNestingDepth}"

mutual

/-- Passes a variable at a depth and a place. -/
def checkVariable (p : Policy) (depth : Nat) (place : String) : Value → Except Violation Unit
  | .string s =>
    match checkText s with
    | .ok () => .ok ()
    | .error v => .error { v with detail := s!"{v.detail} in '{place}'" }
  | .array items =>
    if p.maxNestingDepth < depth then .error (variableDepth p place)
    else if p.maxArrayLength < items.length then
      .error (.plain .arrayTooLarge
        s!"array at '{place}' has {items.length} entries, maximum is {p.maxArrayLength}")
    else checkVariableItems p (depth + 1) place 0 items
  | .object fields =>
    if p.maxNestingDepth < depth then .error (variableDepth p place)
    else checkVariableFields p (depth + 1) place fields
  | _ => .ok ()

/-- Passes the items of an array, of which the first has a position. -/
def checkVariableItems (p : Policy) (depth : Nat) (place : String) (position : Nat) :
    List Value → Except Violation Unit
  | [] => .ok ()
  | v :: vs => do
    checkVariable p depth s!"{place}[{position}]" v
    checkVariableItems p depth place (position + 1) vs

/-- Passes the fields of an object, in key order. -/
def checkVariableFields (p : Policy) (depth : Nat) (place : String) :
    {lo : Option String} → Entries Value lo → Except Violation Unit
  | _, .nil => .ok ()
  | _, .cons k _ v rest => do
    if isForbiddenName k then
      throw (.because .unsafeVariableName s!"unsafe variable name at '{place}.{k}'" k)
    checkVariable p depth s!"{place}.{k}" v
    checkVariableFields p depth place rest

end

/-- Passes the variables of a template or of a caller. -/
def checkVariables (p : Policy) (vars : Table Value) : Except Violation Unit :=
  match vars.keys.find? pollutionKeys.contains with
  | some key =>
    .error (.because .prototypePollution s!"variables must not define '{key}'" key)
  | none => checkVariable p 0 "variables" (.object vars)

end Vetting

end PromptTemplate
