import PromptTemplate.Condition.Verdict
import PromptTemplate.Template.Basic
/-!
# PromptTemplate — pruning conditionals

A conditional leaves the branch that its condition chooses, and what is
left of the branches stands in its place. The result is a row of pieces,
texts and placeholders, in the order of the document.
-/

namespace PromptTemplate

/-- An element of content without conditionals. -/
inductive Piece
  | text (id : Option String) (text : String)
  | placeholder (id : Option String) (type : String) (config : Table Value)

namespace Compile

/-- Whether the condition of the conditional at a position holds; a
condition without a value fails the compilation there. -/
def decideAt (p : Policy) (vars : Table Value) (position : Nat) (id : Option String)
    (condition : String) : Except Fault Bool :=
  match Condition.verdict p vars condition with
  | .ok b => .ok b
  | .error (.condition b) =>
    .error (.compilation .conditionalEvaluation b.message (some ⟨position, id, "conditional"⟩))
  | .error fault => .error fault

mutual

/-- What is left of the element at a position of its sequence. -/
def pruneElement (p : Policy) (vars : Table Value) (position : Nat) :
    Element → Except Fault (List Piece)
  | .text id text => .ok [.text id text]
  | .placeholder id type config => .ok [.placeholder id type config]
  | .conditional id condition content otherwise => do
    let holds ← decideAt p vars position id condition
    if holds then pruneFrom p vars 0 content else pruneBranch p vars otherwise

/-- What is left of elements, of which the first has a position. -/
def pruneFrom (p : Policy) (vars : Table Value) (position : Nat) :
    List Element → Except Fault (List Piece)
  | [] => .ok []
  | e :: es => do
    let here ← pruneElement p vars position e
    let rest ← pruneFrom p vars (position + 1) es
    return here ++ rest

/-- What is left of a branch, if there is one. -/
def pruneBranch (p : Policy) (vars : Table Value) :
    Option (List Element) → Except Fault (List Piece)
  | none => .ok []
  | some es => pruneFrom p vars 0 es

end

/-- What is left of a sequence of elements. -/
def prune (p : Policy) (vars : Table Value) (es : List Element) :
    Except Fault (List Piece) :=
  pruneFrom p vars 0 es

end Compile

end PromptTemplate
