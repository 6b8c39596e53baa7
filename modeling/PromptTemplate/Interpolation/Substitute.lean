import PromptTemplate.Interpolation.Segment
import PromptTemplate.Interpolation.Render
import PromptTemplate.Path.Resolve
import PromptTemplate.Template.Basic
/-!
# PromptTemplate — substitution

Substitution puts the values of the variables in the place of references:
as prompt text in texts and in the configuration of placeholders, and as
literals in conditions. It reaches every string of every element, in both
branches of conditionals, and changes nothing else. The first reference
without a value, in the order of the document, is the failure.
-/

namespace PromptTemplate

namespace Interpolation

/-- The value of a reference. -/
def lookUp (vars : Table Value) (path : String) : Except Unresolved Value :=
  match Path.resolve vars path with
  | .ok v => .ok v
  | .error why => .error ⟨path, why.message, why.available⟩

/-- The text of segments, with every reference replaced by the rendering of
its value. -/
def fill (render : String → Value → Except Unresolved String) (vars : Table Value) :
    List Segment → Except Unresolved String
  | [] => .ok ""
  | .literal text :: rest => do
    let after ← fill render vars rest
    return text ++ after
  | .reference path :: rest => do
    let v ← lookUp vars path
    let text ← render path v
    let after ← fill render vars rest
    return text ++ after

/-- Replaces every reference of a text by the rendering of its value. -/
def substituteWith (render : String → Value → Except Unresolved String)
    (vars : Table Value) (text : String) : Except Unresolved String :=
  match segments text with
  | .error why => .error why.toUnresolved
  | .ok ss => fill render vars ss

/-- Substitution in prompt text. -/
def substituteText (vars : Table Value) (text : String) : Except Unresolved String :=
  substituteWith (fun _ v => .ok (render v)) vars text

/-- Substitution in a condition. -/
def substituteCondition (vars : Table Value) (condition : String) :
    Except Unresolved String :=
  substituteWith conditionLiteral vars condition

mutual

/-- Substitution in every string of a value; keys stay as they are. -/
def substituteValue (vars : Table Value) : Value → Except Unresolved Value
  | .string s => (substituteText vars s).map .string
  | .array items => (substituteItems vars items).map .array
  | .object fields => (substituteFields vars fields).map .object
  | .null => .ok .null
  | .bool b => .ok (.bool b)
  | .number n => .ok (.number n)

/-- Substitution in the items of an array. -/
def substituteItems (vars : Table Value) : List Value → Except Unresolved (List Value)
  | [] => .ok []
  | v :: vs => do
    let w ← substituteValue vars v
    let ws ← substituteItems vars vs
    return w :: ws

/-- Substitution in the fields of an object, in key order. -/
def substituteFields (vars : Table Value) : {lo : Option String} → Entries Value lo →
    Except Unresolved (Entries Value lo)
  | _, .nil => .ok .nil
  | _, .cons k h v rest => do
    let w ← substituteValue vars v
    let rest' ← substituteFields vars rest
    return .cons k h w rest'

end

mutual

/-- Substitution in a content element. -/
def substituteElement (vars : Table Value) : Element → Except Unresolved Element
  | .text id text => do
    let text' ← substituteText vars text
    return .text id text'
  | .placeholder id type config => do
    let config' ← substituteFields vars config
    return .placeholder id type config'
  | .conditional id condition content otherwise => do
    let condition' ← substituteCondition vars condition
    let content' ← substituteElements vars content
    let otherwise' ← substituteBranch vars otherwise
    return .conditional id condition' content' otherwise'

/-- Substitution in a sequence of content elements. -/
def substituteElements (vars : Table Value) : List Element →
    Except Unresolved (List Element)
  | [] => .ok []
  | e :: es => do
    let e' ← substituteElement vars e
    let es' ← substituteElements vars es
    return e' :: es'

/-- Substitution in a branch, if there is one. -/
def substituteBranch (vars : Table Value) : Option (List Element) →
    Except Unresolved (Option (List Element))
  | none => .ok none
  | some es => (substituteElements vars es).map some

end

end Interpolation

end PromptTemplate
