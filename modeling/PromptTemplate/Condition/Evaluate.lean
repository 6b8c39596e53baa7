import PromptTemplate.Condition.Expr
import PromptTemplate.Path.Resolve
import PromptTemplate.Text.Search
/-!
# PromptTemplate — evaluating conditions

A condition is evaluated against the variables by walking its tree. Access
follows the rules of paths, numbers are compared by value, texts in the
order of code points, and a connective looks at its right operand only if
the left one leaves the outcome open. What a condition means as a yes or
no is its truth: nothing, zero and the empty text are false, and every
array and object is true.
-/

namespace PromptTemplate

namespace Condition

/-- Why a condition has no value. -/
inductive EvalFailure
  | undefined (name : String) (why : Path.Failure)
  | access (why : Path.Failure)
  | fractionalIndex (n : Number)
  | badIndex (found : Kind)
  | signOperand (op : UnaryOp) (found : Kind)
  | incomparable (left : Kind) (op : CompareOp) (right : Kind)
  | noMembers (needle haystack : Kind)

/-- The wording of a failure. -/
def EvalFailure.message : EvalFailure → String
  | .undefined name why =>
    let known := if why.available.isEmpty then ""
      else " (available: " ++ Text.join ", " why.available ++ ")"
    s!"undefined variable '{name}': {why.message}" ++ known
  | .access why => why.message
  | .fractionalIndex n => s!"array index must be an integer, got {n.text}"
  | .badIndex found => s!"cannot index with {found.name}"
  | .signOperand op found => s!"unary '{op.symbol}' requires a number, got {found.name}"
  | .incomparable left op right => s!"cannot compare {left.name} {op.symbol} {right.name}"
  | .noMembers needle haystack =>
    s!"'in' is not supported between {needle.name} and {haystack.name}"

/-- What a value means as a yes or no. -/
def isTrue : Value → Bool
  | .null => false
  | .bool b => b
  | .number n => !n.isZero
  | .string s => !s.isEmpty
  | .array _ => true
  | .object _ => true

mutual

/-- Whether two values are equal, numbers by value. -/
def equal : Value → Value → Bool
  | .null, .null => true
  | .bool a, .bool b => a == b
  | .number a, .number b => a.eq b
  | .string a, .string b => a == b
  | .array a, .array b => equalItems a b
  | .object a, .object b => a.size == b.size && equalFields a b
  | _, _ => false

/-- Whether two lists have as many items, equal one by one. -/
def equalItems : List Value → List Value → Bool
  | [], [] => true
  | v :: vs, w :: ws => equal v w && equalItems vs ws
  | _, _ => false

/-- Whether every field stands in a table too, with an equal value. -/
def equalFields : {lo : Option String} → Entries Value lo → Table Value → Bool
  | _, .nil, _ => true
  | _, .cons k _ v rest, other =>
    (match other.find? k with
      | some w => equal v w
      | none => false) && equalFields rest other

end

/-- The order of two values, for numbers and for texts. -/
def order? : Value → Value → Option Ordering
  | .number a, .number b => some (a.compare b)
  | .string a, .string b => some (if a < b then .lt else if a = b then .eq else .gt)
  | _, _ => none

/-- Whether a value is a member: an item of an array, a part of a text, or a
key of an object. -/
def isMember (needle haystack : Value) : Except EvalFailure Bool :=
  match haystack, needle with
  | .array items, _ => .ok (items.any fun item => equal item needle)
  | .string text, .string part => .ok (Text.contains text part)
  | .object fields, .string key => .ok (fields.contains key)
  | _, _ => .error (.noMembers needle.kind haystack.kind)

/-- Whether an ordering comparison holds between values in a given order. -/
def CompareOp.holds : CompareOp → Ordering → Bool
  | .less, o => o == .lt
  | .lessOrEqual, o => o != .gt
  | .greater, o => o == .gt
  | .greaterOrEqual, o => o != .lt
  | _, _ => false

/-- The outcome of a comparison. -/
def compareValues (op : CompareOp) (left right : Value) : Except EvalFailure Bool :=
  match op with
  | .equal => .ok (equal left right)
  | .notEqual => .ok (!equal left right)
  | .within => isMember left right
  | .notWithin => (isMember left right).map (!·)
  | op =>
    match order? left right with
    | some o => .ok (op.holds o)
    | none => .error (.incomparable left.kind op right.kind)

/-- The outcome of an operator in front of one operand. -/
def applyUnary : UnaryOp → Value → Except EvalFailure Value
  | .not, v => .ok (.bool (!isTrue v))
  | .plus, .number n => .ok (.number n)
  | .negate, .number n => .ok (.number n.neg)
  | op, v => .error (.signOperand op v.kind)

/-- The step that the value of an index stands for. -/
def indexStep : Value → Except EvalFailure Path.Step
  | .number n =>
    match n.toInt? with
    | some i => .ok (.index i)
    | none => .error (.fractionalIndex n)
  | .string s => .ok (.property s)
  | v => .error (.badIndex v.kind)

/-- Takes a step from a value. -/
def stepFrom (v : Value) (step : Path.Step) : Except EvalFailure Value :=
  match step.reach v with
  | .ok w => .ok w
  | .error why => .error (.access why)

mutual

/-- The value of a condition under the variables. -/
def evaluate (vars : Table Value) : Expr → Except EvalFailure Value
  | .literal v => .ok v
  | .variable name =>
    match Path.root vars name with
    | .ok v => .ok v
    | .error why => .error (.undefined name why)
  | .member object property => do
    let v ← evaluate vars object
    stepFrom v (.property property)
  | .index object position => do
    let v ← evaluate vars object
    let i ← evaluate vars position
    let step ← indexStep i
    stepFrom v step
  | .unary op operand => do
    let v ← evaluate vars operand
    applyUnary op v
  | .compare op left right => do
    let l ← evaluate vars left
    let r ← evaluate vars right
    let b ← compareValues op l r
    return .bool b
  | .logical .and left right => do
    let l ← evaluate vars left
    if isTrue l then evaluate vars right else return l
  | .logical .or left right => do
    let l ← evaluate vars left
    if isTrue l then return l else evaluate vars right
  | .array items => do
    let vs ← evaluateAll vars items
    return .array vs

/-- The values of conditions, one after another. -/
def evaluateAll (vars : Table Value) : List Expr → Except EvalFailure (List Value)
  | [] => .ok []
  | e :: es => do
    let v ← evaluate vars e
    let vs ← evaluateAll vars es
    return v :: vs

end

end Condition

end PromptTemplate
