import PromptTemplate.Path.Parser
/-!
# PromptTemplate — following paths

A path is followed from the variables one step at a time. A property step
goes to a field of an object, an index step to a position of an array, and
`length` counts the items of an array or the characters of a string. A
reserved name is refused wherever it stands, and the first step that
cannot be taken is the failure of the path.
-/

namespace PromptTemplate

namespace Path

/-- The position that an index stands for in an array of a given length:
counted from the end where it is negative. Lengths are counted in signed
words of 64 bits, so that an array beyond them has no positions. -/
def position? (index : Int) (length : Nat) : Option Nat :=
  let n := if index < 0 then length + index else index
  if length < 1 <<< 63 ∧ 0 ≤ n ∧ n < length then some n.toNat else none

/-- Takes one step from a value. -/
def Step.reach (step : Step) (v : Value) : Except Failure Value :=
  match step with
  | .property name =>
    if isReserved name then .error (.reserved name)
    else match v with
      | .object fields =>
        match fields.find? name with
        | some w => .ok w
        | none => .error (.missing name fields.keys)
      | .array items =>
        if name = "length" then .ok (.ofNat items.length)
        else .error (.notTraversable step v.kind)
      | .string s =>
        if name = "length" then .ok (.ofNat s.length)
        else .error (.notTraversable step v.kind)
      | _ => .error (.notTraversable step v.kind)
  | .index i =>
    match v with
    | .array items =>
      match (position? i items.length).bind (items[·]?) with
      | some w => .ok w
      | none => .error (.outOfRange i items.length)
    | _ => .error (.notTraversable step v.kind)

/-- Takes steps one after another. -/
def walk (v : Value) : List Step → Except Failure Value
  | [] => .ok v
  | step :: steps => do
    let w ← step.reach v
    walk w steps

/-- The value of a root variable. -/
def root (vars : Table Value) (name : String) : Except Failure Value :=
  if isReserved name then .error (.reserved name)
  else match vars.find? name with
    | some v => .ok v
    | none => .error (.missing name vars.keys)

/-- The value that steps lead to; the first must name a root variable. -/
def resolveSteps (vars : Table Value) : List Step → Except Failure Value
  | [] => .error (.malformed .empty)
  | .index _ :: _ => .error (.malformed .indexRoot)
  | .property name :: steps => do
    let v ← root vars name
    walk v steps

/-- The value that the text of a path leads to. -/
def resolve (vars : Table Value) (path : String) : Except Failure Value :=
  match parse path with
  | .error m => .error (.malformed m)
  | .ok steps => resolveSteps vars steps

end Path

end PromptTemplate
