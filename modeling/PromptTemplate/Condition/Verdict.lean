import PromptTemplate.Condition.Parser
import PromptTemplate.Condition.Evaluate
import PromptTemplate.Vetting.Text
/-!
# PromptTemplate — verdicts on conditions

What the text of a condition comes to under the variables. `read` and
`valueOf` take the text as it is and name it in every failure; `verdict`
lets only conditions in that pass the policy, and gives a yes or no.
-/

namespace PromptTemplate

namespace Condition

/-- The expression of a text, or the failure with the text in it. -/
def read (source : String) : Except BadCondition Expr :=
  match parse source with
  | .ok e => .ok e
  | .error why => .error ⟨source, why.message⟩

/-- The value that the text of a condition has under the variables. -/
def valueOf (vars : Table Value) (source : String) : Except BadCondition Value :=
  match read source with
  | .error b => .error b
  | .ok e =>
    match evaluate vars e with
    | .ok v => .ok v
    | .error why => .error ⟨source, why.message⟩

/-- Whether the condition of a text holds under the variables; a text that
does not pass the policy is not even read. -/
def verdict (p : Policy) (vars : Table Value) (source : String) : Except Fault Bool :=
  match Vetting.checkCondition p source with
  | .error v => .error (.security v)
  | .ok () =>
    match valueOf vars source with
    | .error b => .error (.condition b)
    | .ok v => .ok (isTrue v)

end Condition

end PromptTemplate
