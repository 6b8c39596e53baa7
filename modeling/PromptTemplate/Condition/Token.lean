import PromptTemplate.Number.Basic
import PromptTemplate.Text.Quoted
/-!
# PromptTemplate — the tokens of conditions

A condition is a row of tokens: literals, names, words and symbols. Words
and symbols of one meaning are one token, so `and` and `&&` cannot be told
apart behind this point. `Token.describe` is the wording in messages.
-/

namespace PromptTemplate

namespace Condition

/-- A token of a condition. -/
inductive Token
  | number (n : Number)
  | text (s : String)
  | name (s : String)
  | truth (b : Bool)
  | null
  /-- `&&` or `and` -/
  | and
  /-- `||` or `or` -/
  | or
  /-- `!` or `not` -/
  | not
  /-- `in` -/
  | within
  /-- `==` or `===` -/
  | equal
  /-- `!=` or `!==` -/
  | notEqual
  | less
  | lessOrEqual
  | greater
  | greaterOrEqual
  | plus
  | minus
  | dot
  | openBracket
  | closeBracket
  | openParen
  | closeParen
  | comma
deriving DecidableEq

/-- The wording of a token in messages. -/
def Token.describe : Token → String
  | .number n => s!"number {n.text}"
  | .text s => s!"string {Text.quoted s}"
  | .name s => s!"identifier '{s}'"
  | .truth true => "'true'"
  | .truth false => "'false'"
  | .null => "'null'"
  | .and => "'&&'"
  | .or => "'||'"
  | .not => "'!'"
  | .within => "'in'"
  | .equal => "'=='"
  | .notEqual => "'!='"
  | .less => "'<'"
  | .lessOrEqual => "'<='"
  | .greater => "'>'"
  | .greaterOrEqual => "'>='"
  | .plus => "'+'"
  | .minus => "'-'"
  | .dot => "'.'"
  | .openBracket => "'['"
  | .closeBracket => "']'"
  | .openParen => "'('"
  | .closeParen => "')'"
  | .comma => "','"

/-- A token where it stands: with the characters it is written as, and the
byte they begin at. -/
structure Lexeme where
  token : Token
  source : List Char
  offset : Nat

/-- The token that a word is: a keyword, or a name. -/
def Token.ofWord (word : String) : Token :=
  if word = "true" then .truth true
  else if word = "false" then .truth false
  else if word = "null" then .null
  else if word = "and" then .and
  else if word = "or" then .or
  else if word = "not" then .not
  else if word = "in" then .within
  else .name word

end Condition

end PromptTemplate
