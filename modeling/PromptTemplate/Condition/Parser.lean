import PromptTemplate.Condition.Expr
import PromptTemplate.Condition.Lexer
/-!
# PromptTemplate — parsing conditions

The grammar, loosest binding first, with every level associating to the
left:

* a disjunction joins conjunctions by `or`, a conjunction comparisons by
  `and`, and a comparison operands by comparison operators;
* an operand is one of `not`, `-`, `+` before an operand, or an access;
* an access is an atom followed by any number of `.name` and
  `[disjunction]`;
* an atom is a literal, a name, a parenthesised disjunction or an array of
  disjunctions.

Disjunctions and signs nest up to `maxDepth` deep. The parsers of one
level are built from those of the level below (`Level`), so that the bound
on nesting is also what makes parsing end.
-/

namespace PromptTemplate

namespace Condition

/-- Why a row of tokens is no condition; positions count bytes. -/
inductive ParseFailure
  | lex (why : LexFailure)
  | empty
  | unexpectedEnd
  | unexpected (token : Token) (position : Nat)
  | tooDeep
  | noProperty (found : Option Token)
  | call
  | expected (wanted : Token) (found : Option (Token × Nat))
  | arraySeparator (found : Token)
  | openArray

/-- How deep disjunctions and signs may nest. -/
def maxDepth : Nat := 64

/-- The wording of a failure. -/
def ParseFailure.message : ParseFailure → String
  | .lex why => why.message
  | .empty => "empty expression"
  | .unexpectedEnd => "unexpected end of expression"
  | .unexpected token position => s!"unexpected {token.describe} at position {position}"
  | .tooDeep => s!"expression nesting exceeds {maxDepth} levels"
  | .noProperty none => "expected property name after '.'"
  | .noProperty (some token) => s!"expected property name after '.', found {token.describe}"
  | .call => "function calls are not supported"
  | .expected wanted none => s!"expected {wanted.describe} but reached end of expression"
  | .expected wanted (some (token, position)) =>
    s!"expected {wanted.describe} but found {token.describe} at position {position}"
  | .arraySeparator token => s!"expected ',' or ']' in array literal, found {token.describe}"
  | .openArray => "unterminated array literal"

/-- A parser takes an expression off the front of a row of tokens. -/
abbrev Parser : Type := List Lexeme → Except ParseFailure (Expr × List Lexeme)

/-- What joins two operands of a level, if it stands at the front. -/
abbrev Joint : Type := List Lexeme → Option ((Expr → Expr → Expr) × List Lexeme)

/-- The joint of disjunctions. -/
def orJoint : Joint
  | ⟨.or, _, _⟩ :: ts => some (.logical .or, ts)
  | _ => none

/-- The joint of conjunctions. -/
def andJoint : Joint
  | ⟨.and, _, _⟩ :: ts => some (.logical .and, ts)
  | _ => none

/-- The joint of comparisons; `not in` is made of two tokens. -/
def compareJoint : Joint
  | ⟨.equal, _, _⟩ :: ts => some (.compare .equal, ts)
  | ⟨.notEqual, _, _⟩ :: ts => some (.compare .notEqual, ts)
  | ⟨.less, _, _⟩ :: ts => some (.compare .less, ts)
  | ⟨.lessOrEqual, _, _⟩ :: ts => some (.compare .lessOrEqual, ts)
  | ⟨.greater, _, _⟩ :: ts => some (.compare .greater, ts)
  | ⟨.greaterOrEqual, _, _⟩ :: ts => some (.compare .greaterOrEqual, ts)
  | ⟨.within, _, _⟩ :: ts => some (.compare .within, ts)
  | ⟨.not, _, _⟩ :: ⟨.within, _, _⟩ :: ts => some (.compare .notWithin, ts)
  | _ => none

/-- Goes on with a chain of operands behind a first one. Every round takes
a token, so the number of tokens suffices as fuel. -/
def chainFrom (operand : Parser) (joint : Joint) :
    Nat → Expr → List Lexeme → Except ParseFailure (Expr × List Lexeme)
  | 0, left, ts => .ok (left, ts)
  | fuel + 1, left, ts =>
    match joint ts with
    | none => .ok (left, ts)
    | some (join, ts) =>
      match operand ts with
      | .error e => .error e
      | .ok (right, ts) => chainFrom operand joint fuel (join left right) ts

/-- Parses operands with joints between two, associating to the left. -/
def chain (operand : Parser) (joint : Joint) : Parser := fun ts =>
  match operand ts with
  | .error e => .error e
  | .ok (left, ts) => chainFrom operand joint ts.length left ts

/-- Takes a token off the front, which must be the one wanted. -/
def expect (wanted : Token) : List Lexeme → Except ParseFailure (List Lexeme)
  | [] => .error (.expected wanted none)
  | t :: ts =>
    if t.token = wanted then .ok ts
    else .error (.expected wanted (some (t.token, t.offset)))

/-- Parses the items of an array behind its bracket or a comma. Every round
takes a token, so the number of tokens suffices as fuel. -/
def arrayItems (disjunction : Parser) :
    Nat → List Lexeme → Except ParseFailure (List Expr × List Lexeme)
  | 0, _ => .error .openArray
  | fuel + 1, ts =>
    match disjunction ts with
    | .error e => .error e
    | .ok (item, ts) =>
      match ts with
      | [] => .error .openArray
      | ⟨.comma, _, _⟩ :: ts =>
        (arrayItems disjunction fuel ts).map fun (items, ts) => (item :: items, ts)
      | ⟨.closeBracket, _, _⟩ :: ts => .ok ([item], ts)
      | t :: _ => .error (.arraySeparator t.token)

/-- Parses an atom. -/
def atom (disjunction : Parser) : Parser
  | [] => .error .unexpectedEnd
  | ⟨.number n, _, _⟩ :: ts => .ok (.literal (.number n), ts)
  | ⟨.text s, _, _⟩ :: ts => .ok (.literal (.string s), ts)
  | ⟨.truth b, _, _⟩ :: ts => .ok (.literal (.bool b), ts)
  | ⟨.null, _, _⟩ :: ts => .ok (.literal .null, ts)
  | ⟨.name s, _, _⟩ :: ts => .ok (.variable s, ts)
  | ⟨.openParen, _, _⟩ :: ts =>
    match disjunction ts with
    | .error e => .error e
    | .ok (inner, ts) => (expect .closeParen ts).map fun ts => (inner, ts)
  | ⟨.openBracket, _, _⟩ :: ts =>
    match ts with
    | ⟨.closeBracket, _, _⟩ :: ts => .ok (.array [], ts)
    | ts => (arrayItems disjunction (ts.length + 1) ts).map fun (items, ts) => (.array items, ts)
  | t :: _ => .error (.unexpected t.token t.offset)

/-- Goes on with the accesses behind an atom. Every round takes a token, so
the number of tokens suffices as fuel. -/
def accessFrom (disjunction : Parser) :
    Nat → Expr → List Lexeme → Except ParseFailure (Expr × List Lexeme)
  | 0, object, ts => .ok (object, ts)
  | fuel + 1, object, ts =>
    match ts with
    | ⟨.dot, _, _⟩ :: ts =>
      match ts with
      | ⟨.name property, _, _⟩ :: ts =>
        accessFrom disjunction fuel (.member object property) ts
      | t :: _ => .error (.noProperty (some t.token))
      | [] => .error (.noProperty none)
    | ⟨.openBracket, _, _⟩ :: ts =>
      match disjunction ts with
      | .error e => .error e
      | .ok (position, ts) =>
        match expect .closeBracket ts with
        | .error e => .error e
        | .ok ts => accessFrom disjunction fuel (.index object position) ts
    | ⟨.openParen, _, _⟩ :: _ => .error .call
    | ts => .ok (object, ts)

/-- Parses an atom and the accesses behind it. -/
def access (disjunction : Parser) : Parser := fun ts =>
  match atom disjunction ts with
  | .error e => .error e
  | .ok (object, ts) => accessFrom disjunction ts.length object ts

/-- The sign that a token is. -/
def sign? : Token → Option UnaryOp
  | .not => some .not
  | .minus => some .negate
  | .plus => some .plus
  | _ => none

/-- Parses an operand, from the parser of operands behind a sign and the
one of disjunctions. -/
def signed (inner disjunction : Parser) : Parser
  | [] => access disjunction []
  | t :: ts =>
    match sign? t.token with
    | some op => (inner ts).map fun (operand, ts) => (.unary op operand, ts)
    | none => access disjunction (t :: ts)

/-- Parses a disjunction, from the parser of operands. -/
def disjunctionOf (operand : Parser) : Parser :=
  chain (chain (chain operand compareJoint) andJoint) orJoint

/-- The parsers of disjunctions and of operands that may still nest a
number of levels deeper. -/
structure Level where
  disjunction : Parser
  operand : Parser

/-- The parser that refuses to nest deeper. -/
def tooDeep : Parser := fun _ => .error .tooDeep

/-- The parsers for every depth that is left. -/
def level : Nat → Level
  | 0 => ⟨tooDeep, signed tooDeep tooDeep⟩
  | depth + 1 =>
    let below := level depth
    let disjunction := disjunctionOf below.operand
    ⟨disjunction, signed below.operand disjunction⟩

/-- Parses a row of tokens from end to end. -/
def ofLexemes (ts : List Lexeme) : Except ParseFailure Expr :=
  if ts.isEmpty then .error .empty
  else match (level maxDepth).disjunction ts with
    | .error e => .error e
    | .ok (e, []) => .ok e
    | .ok (_, t :: _) => .error (.unexpected t.token t.offset)

/-- The expression that the text of a condition stands for. -/
def parse (source : String) : Except ParseFailure Expr :=
  match lexemes source with
  | .error why => .error (.lex why)
  | .ok ts => ofLexemes ts

end Condition

end PromptTemplate
