import Mathlib.Data.List.Chain
import PromptTemplate.Condition.Parser
/-!
# PromptTemplate — the grammar of conditions

The grammar as a relation between rows of tokens and the expressions they
denote, read off its productions and not off the parser. `Derives s n ts e`
also says how deep the derivation nests: a disjunction and a sign each
count one level for everything inside them. A row of operands with joints
between them is derived from its front, so that every level associates to
the left.

What the parser makes of these derivations is the business of
`Proofs.Condition.Soundness` and `Proofs.Condition.Completeness`. Here
stand the facts about derivations alone: what they begin with
(`Derives.head_access`), and that an operand is never followed by an
opening parenthesis (`Derives.no_call`).
-/

namespace PromptTemplate

namespace Condition

/-- The tokens of a row of lexemes. -/
def tokens (ls : List Lexeme) : List Token := ls.map Lexeme.token

/-- The symbols of the grammar. `alternatives` are the conjunctions of a
disjunction, and `items` what stands between the brackets of an array. -/
inductive Symbol
  | disjunction | alternatives | conjunction | comparison | operand | access | atom | items
deriving DecidableEq

/-- A token that is a literal, and its value. -/
inductive LiteralToken : Token → Value → Prop
  | number (n : Number) : LiteralToken (.number n) (.number n)
  | text (s : String) : LiteralToken (.text s) (.string s)
  | truth (b : Bool) : LiteralToken (.truth b) (.bool b)
  | null : LiteralToken .null .null

/-- A token that is a sign in front of an operand. -/
inductive SignToken : Token → UnaryOp → Prop
  | not : SignToken .not .not
  | minus : SignToken .minus .negate
  | plus : SignToken .plus .plus

/-- Tokens that compare two operands; `not in` is the only pair. -/
inductive CompareTokens : List Token → CompareOp → Prop
  | equal : CompareTokens [.equal] .equal
  | notEqual : CompareTokens [.notEqual] .notEqual
  | less : CompareTokens [.less] .less
  | lessOrEqual : CompareTokens [.lessOrEqual] .lessOrEqual
  | greater : CompareTokens [.greater] .greater
  | greaterOrEqual : CompareTokens [.greaterOrEqual] .greaterOrEqual
  | within : CompareTokens [.within] .within
  | notWithin : CompareTokens [.not, .within] .notWithin

/-- **The grammar.** `Derives s n ts e`: the tokens `ts` derive from the
symbol `s`, denote `e`, and no position among them lies inside more than
`n` disjunctions and signs, where some position lies inside `n`. -/
inductive Derives : Symbol → Nat → List Token → Expr → Prop
  | disjunction {n ts e} : Derives .alternatives n ts e → Derives .disjunction (n + 1) ts e
  | alternative {n ts e} : Derives .conjunction n ts e → Derives .alternatives n ts e
  | or {n m ts us e f} : Derives .alternatives n ts e → Derives .conjunction m us f →
      Derives .alternatives (max n m) (ts ++ .or :: us) (.logical .or e f)
  | conjunct {n ts e} : Derives .comparison n ts e → Derives .conjunction n ts e
  | and {n m ts us e f} : Derives .conjunction n ts e → Derives .comparison m us f →
      Derives .conjunction (max n m) (ts ++ .and :: us) (.logical .and e f)
  | compared {n ts e} : Derives .operand n ts e → Derives .comparison n ts e
  | compare {n m ts js us op e f} : Derives .comparison n ts e → CompareTokens js op →
      Derives .operand m us f → Derives .comparison (max n m) (ts ++ js ++ us) (.compare op e f)
  | sign {n t ts op e} : SignToken t op → Derives .operand n ts e →
      Derives .operand (n + 1) (t :: ts) (.unary op e)
  | unsigned {n ts e} : Derives .access n ts e → Derives .operand n ts e
  | atom {n ts e} : Derives .atom n ts e → Derives .access n ts e
  | member {n ts e name} : Derives .access n ts e →
      Derives .access n (ts ++ [.dot, .name name]) (.member e name)
  | index {n m ts us e f} : Derives .access n ts e → Derives .disjunction m us f →
      Derives .access (max n m) (ts ++ .openBracket :: us ++ [.closeBracket]) (.index e f)
  | literal {t v} : LiteralToken t v → Derives .atom 0 [t] (.literal v)
  | variable {name} : Derives .atom 0 [.name name] (.variable name)
  | parens {n ts e} : Derives .disjunction n ts e →
      Derives .atom n (.openParen :: ts ++ [.closeParen]) e
  | emptyArray : Derives .atom 0 [.openBracket, .closeBracket] (.array [])
  | array {n ts es} : Derives .items n ts (.array es) →
      Derives .atom n (.openBracket :: ts ++ [.closeBracket]) (.array es)
  | item {n ts e} : Derives .disjunction n ts e → Derives .items n ts (.array [e])
  | items {n m ts us e es} : Derives .disjunction n ts e → Derives .items m us (.array es) →
      Derives .items (max n m) (ts ++ .comma :: us) (.array (e :: es))

/-- An operand is a condition, one level further out. -/
theorem Derives.of_operand {n : Nat} {ts : List Token} {e : Expr}
    (h : Derives .operand n ts e) : Derives .disjunction (n + 1) ts e :=
  .disjunction (.alternative (.conjunct (.compared h)))

/-- So is an atom. -/
theorem Derives.of_atom {n : Nat} {ts : List Token} {e : Expr}
    (h : Derives .atom n ts e) : Derives .disjunction (n + 1) ts e :=
  .of_operand (.unsigned (.atom h))

/-! ## What derivations begin with -/

/-- Nothing derives from no tokens. -/
theorem Derives.ne_nil {s : Symbol} {n : Nat} {ts : List Token} {e : Expr}
    (h : Derives s n ts e) : ts ≠ [] := by
  induction h with
  | compare _ _ _ ihl ihr => simp [ihl, ihr]
  | disjunction _ ih | alternative _ ih | conjunct _ ih | compared _ ih | unsigned _ ih
  | atom _ ih | item _ ih => exact ih
  | _ => simp

/-- An access begins with a token that is no sign, so a sign in front of an
operand is never a part of an access. -/
theorem Derives.head_access {s : Symbol} {n : Nat} {ts : List Token} {e : Expr}
    (h : Derives s n ts e) (hs : s = .access ∨ s = .atom) :
    ∃ t us, ts = t :: us ∧ sign? t = none := by
  induction h with
  | atom _ ih => exact ih (.inr rfl)
  | member _ ih =>
    obtain ⟨t, us, rfl, ht⟩ := ih (.inl rfl)
    exact ⟨t, _, rfl, ht⟩
  | index _ _ ih _ =>
    obtain ⟨t, us, rfl, ht⟩ := ih (.inl rfl)
    exact ⟨t, _, rfl, ht⟩
  | literal hl => cases hl <;> exact ⟨_, _, rfl, rfl⟩
  | «variable» | parens | emptyArray | array => exact ⟨_, _, rfl, rfl⟩
  | _ => simp at hs

/-- Nothing that derives begins with a closing bracket, so an empty array is
told apart by its second token. -/
theorem Derives.head_ne_closeBracket {s : Symbol} {n : Nat} {ts : List Token} {e : Expr}
    (h : Derives s n ts e) : ts.head? ≠ some .closeBracket := by
  induction h with
  | or hl _ ih _ | and hl _ ih _ | member hl ih | index hl _ ih _ | items hl _ ih _
  | compare hl _ _ ih _ =>
    obtain ⟨t, us, rfl⟩ := List.exists_cons_of_ne_nil hl.ne_nil
    simpa using ih
  | disjunction _ ih | alternative _ ih | conjunct _ ih | compared _ ih | unsigned _ ih
  | atom _ ih | item _ ih => exact ih
  | sign ht _ => cases ht <;> simp
  | literal hl => cases hl <;> simp
  | _ => simp

/-! ## Calls

Every production puts a token between the parts that it joins, and that
token is neither the end of an operand nor an opening parenthesis. -/

/-- Whether an operand can end in a token. -/
def Token.endsOperand : Token → Bool
  | .number _ | .text _ | .truth _ | .null | .name _ | .closeParen | .closeBracket => true
  | _ => false

/-- Two neighbours that do not begin a call. -/
def NoCall (before after : Token) : Prop := before.endsOperand = true → after ≠ .openParen

/-- Rows without calls are joined by a token that neither ends an operand
nor opens a parenthesis. -/
theorem isChain_noCall_join {ts us : List Token} {joint : Token} (hts : ts.IsChain NoCall)
    (hus : us.IsChain NoCall) (hend : joint.endsOperand = false) (hopen : joint ≠ .openParen) :
    (ts ++ joint :: us).IsChain NoCall := by
  refine hts.append (List.isChain_cons.2 ⟨fun t _ h => ?_, hus⟩) fun t _ u hu _ => ?_
  · rw [hend] at h
    cases h
  · cases hu
    exact hopen

/-- Rows without calls stay without when a token closes them. -/
theorem isChain_noCall_close {ts : List Token} {closing : Token} (hts : ts.IsChain NoCall)
    (hopen : closing ≠ .openParen) : (ts ++ [closing]).IsChain NoCall := by
  refine hts.append (List.isChain_singleton _) fun t _ u hu _ => ?_
  cases hu
  exact hopen

/-- **No derivation holds a call:** an operand is never followed by an
opening parenthesis. -/
theorem Derives.no_call {s : Symbol} {n : Nat} {ts : List Token} {e : Expr}
    (h : Derives s n ts e) : ts.IsChain NoCall := by
  induction h with
  | disjunction _ ih | alternative _ ih | conjunct _ ih | compared _ ih | unsigned _ ih
  | atom _ ih | item _ ih => exact ih
  | or _ _ ihl ihr | and _ _ ihl ihr | items _ _ ihl ihr =>
    exact isChain_noCall_join ihl ihr rfl (by simp)
  | compare _ hj _ ihl ihr =>
    rw [List.append_assoc]
    cases hj with
    | notWithin =>
      -- the joint is two tokens, so that the right part is joined twice
      have hright := @isChain_noCall_join [] _ .within .nil ihr rfl (by simp)
      exact isChain_noCall_join ihl hright rfl (by simp)
    | _ => exact isChain_noCall_join ihl ihr rfl (by simp)
  | sign ht _ ih => cases ht <;> exact isChain_noCall_join .nil ih rfl (by simp)
  | member _ ih => exact isChain_noCall_join ih (List.isChain_singleton _) rfl (by simp)
  | index _ _ ihl ihr =>
    exact isChain_noCall_close (isChain_noCall_join ihl ihr rfl (by simp)) (by simp)
  | literal | «variable» => exact List.isChain_singleton _
  | parens _ ih | array _ ih =>
    refine isChain_noCall_close (List.isChain_cons.2 ⟨fun t _ h => ?_, ih⟩) (by simp)
    cases h
  | emptyArray => exact isChain_noCall_join .nil (List.isChain_singleton _) rfl (by simp)

end Condition

end PromptTemplate
