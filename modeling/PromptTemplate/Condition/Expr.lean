import PromptTemplate.Value
/-!
# PromptTemplate — condition expressions

The trees that conditions stand for: literals, variables, access to fields
and positions, signs and negation, comparisons, the two connectives, and
arrays. There is no call, no assignment and no arithmetic.
-/

namespace PromptTemplate

namespace Condition

/-- The operators in front of one operand. -/
inductive UnaryOp
  | not | negate | plus
deriving DecidableEq

/-- The comparisons, membership included. -/
inductive CompareOp
  | equal | notEqual | less | lessOrEqual | greater | greaterOrEqual | within | notWithin
deriving DecidableEq

/-- The connectives. -/
inductive LogicalOp
  | and | or
deriving DecidableEq

/-- The symbol of an operator in front of one operand. -/
def UnaryOp.symbol : UnaryOp → String
  | .not => "!"
  | .negate => "-"
  | .plus => "+"

/-- The symbol of a comparison. -/
def CompareOp.symbol : CompareOp → String
  | .equal => "=="
  | .notEqual => "!="
  | .less => "<"
  | .lessOrEqual => "<="
  | .greater => ">"
  | .greaterOrEqual => ">="
  | .within => "in"
  | .notWithin => "not in"

/-- The symbol of a connective. -/
def LogicalOp.symbol : LogicalOp → String
  | .and => "&&"
  | .or => "||"

/-- A condition. -/
inductive Expr
  | literal (v : Value)
  | variable (name : String)
  | member (object : Expr) (property : String)
  | index (object position : Expr)
  | unary (op : UnaryOp) (operand : Expr)
  | compare (op : CompareOp) (left right : Expr)
  | logical (op : LogicalOp) (left right : Expr)
  | array (items : List Expr)

end Condition

end PromptTemplate
