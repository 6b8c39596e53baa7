import PromptTemplate.Value
/-!
# PromptTemplate — paths into the variables

A path names a value inside the variables: a root variable and then steps,
each to a field or to a position. This file has the steps, the names that
no path may visit, and the ways in which reading or following a path can
fail.
-/

namespace PromptTemplate

namespace Path

/-- One step of a path: to the field of a name, or to a position, where a
negative one counts from the end. -/
inductive Step
  | property (name : String)
  | index (position : Int)
deriving DecidableEq

/-- The wording of a step in messages. -/
def Step.describe : Step → String
  | .property name => s!"property '{name}'"
  | .index position => s!"index [{position}]"

/-- The names that lead out of the data of an object. -/
def reservedNames : List String := ["__proto__", "constructor", "prototype"]

/-- Whether a path may not visit a name, whatever the value holds. -/
def isReserved (name : String) : Bool :=
  ['_', '_'].isPrefixOf name.toList || reservedNames.contains name

/-- What is wrong with the text of a path; positions count bytes of the
trimmed text. -/
inductive Malformation
  | empty
  | noRoot (path : String)
  | indexRoot
  | noName (position : Nat) (path : String)
  | unclosed (position : Nat) (path : String)
  | unexpected (c : Char) (position : Nat) (path : String)
  | emptyBrackets (path : String)
  | emptyKey (path : String)
  | badIndex (inner : String) (path : String)

/-- The wording of a malformation. -/
def Malformation.message : Malformation → String
  | .empty => "empty path"
  | .noRoot path => s!"'{path}' must start with a variable name"
  | .indexRoot => "path must start with a variable name"
  | .noName position path =>
    s!"expected property name after '.' at position {position} in '{path}'"
  | .unclosed position path => s!"unmatched '[' at position {position} in '{path}'"
  | .unexpected c position path =>
    s!"unexpected character '{c}' at position {position} in '{path}'"
  | .emptyBrackets path => s!"empty brackets in '{path}'"
  | .emptyKey path => s!"empty quoted key in '{path}'"
  | .badIndex inner path => s!"'{inner}' is not an integer index or quoted key in '{path}'"

/-- Why a path leads nowhere. -/
inductive Failure
  /-- The text is not a path. -/
  | malformed (m : Malformation)
  /-- The object has no such field; these are the ones it has. -/
  | missing (name : String) (available : List String)
  /-- The value has no such step. -/
  | notTraversable (step : Step) (found : Kind)
  /-- The array has no such position. -/
  | outOfRange (position : Int) (length : Nat)
  /-- The name may not be visited. -/
  | reserved (name : String)

namespace Failure

/-- The wording of a failure. -/
def message : Failure → String
  | .malformed m => s!"invalid path: {m.message}"
  | .missing name _ => s!"property '{name}' not found"
  | .notTraversable step found => s!"cannot access {step.describe} on {found.name}"
  | .outOfRange position length =>
    s!"index {position} out of range for array of length {length}"
  | .reserved name => s!"access to property '{name}' is not allowed"

/-- The keys that stood where the path ended, where that is known. -/
def available : Failure → List String
  | .missing _ keys => keys
  | _ => []

end Failure

end Path

end PromptTemplate
