import PromptTemplate.Condition.Evaluate
import PromptTemplate.Proofs.Outcome
import PromptTemplate.Proofs.Path.Chain
/-!
# PromptTemplate — chains of accesses, read as conditions

The text of a chain is a condition too, and what it evaluates to is what
the path leads to: `resolve_eq_evaluate`. The two readings share no code but
the single step. The condition splits into tokens (`Lexes`), which derive
an expression from the grammar (`Derives`), and the expression takes the
steps of the path one by one, where it has first to evaluate what stands in
the brackets. There the two could part: the least signed word is the
negation of a number that is none, so that the condition has a fraction in
its place. It refuses this as an index, and the path refuses every array.
-/

namespace PromptTemplate

namespace Condition

open PromptTemplate.Path (Access Chain Identifier Numeral QuotedKey Step)

/-! ## Tokens and expressions of chains -/

/-- The number of the digits of a numeral. -/
def numeralDigits (n : Numeral) : Number :=
  .integer n.magnitude (by have := n.inRange; omega)

/-- The tokens of a numeral. -/
def numeralTokens (n : Numeral) : List Token :=
  if n.negative then [.minus, .number (numeralDigits n)] else [.number (numeralDigits n)]

/-- The expression of a numeral, whose sign is an operator. -/
def numeralExpr (n : Numeral) : Expr :=
  if n.negative then .unary .negate (.literal (.number (numeralDigits n)))
  else .literal (.number (numeralDigits n))

/-- The tokens of an access. -/
def accessTokens : Access → List Token
  | .name x => [.dot, .name x.text]
  | .position n => .openBracket :: numeralTokens n ++ [.closeBracket]
  | .key k => [.openBracket, .text (String.ofList k.chars), .closeBracket]

/-- The expression of an access to the value of another. -/
def accessExpr (object : Expr) : Access → Expr
  | .name x => .member object x.text
  | .position n => .index object (numeralExpr n)
  | .key k => .index object (.literal (.string (String.ofList k.chars)))

/-- The expression of a chain. -/
def chainExpr (c : Chain) : Expr := c.accesses.foldl accessExpr (.variable c.root.text)

/-! ## Chains are conditions -/

/-- A name that is no word of the conditions is a token of its own. -/
theorem ofWord_identifier (x : Identifier) : Token.ofWord x.text = .name x.text := by
  have hfree := x.free
  simp only [Path.keywords, List.mem_cons, List.not_mem_nil, or_false, not_or] at hfree
  simp only [Token.ofWord, Identifier.text, Identifier.chars, hfree, if_false]

/-- A name is taken off in front of the accesses behind it. -/
theorem lexes_identifier (x : Identifier) (accesses : List Access) :
    Lexes (x.chars ++ accesses.flatMap Access.chars) [.name x.text]
      (accesses.flatMap Access.chars) := by
  rw [← ofWord_identifier]
  exact lexes_word x.starts x.continues
    (Path.endsRun_accesses (by decide) (by decide) accesses)

/-- A numeral is taken off in front of the bracket that closes it. -/
theorem lexes_numeral (n : Numeral) (rest : List Char) :
    Lexes (n.chars ++ ']' :: rest) (numeralTokens n) (']' :: rest) := by
  have hdigits := lexes_digits (n := n.magnitude) (by have := n.inRange; omega)
    (delimited_close rest)
  unfold Numeral.chars numeralTokens
  split
  · exact (SymbolToken.minus.lexes _).append hdigits
  · exact hdigits

/-- An access is taken off in front of those behind it. -/
theorem lexes_access (a : Access) (accesses : List Access) :
    Lexes (a.chars ++ accesses.flatMap Access.chars) (accessTokens a)
      (accesses.flatMap Access.chars) := by
  cases a with
  | name x => exact (SymbolToken.dot.lexes _).append (lexes_identifier x accesses)
  | position n =>
    simp only [Access.chars, List.cons_append, List.append_assoc]
    exact (SymbolToken.openBracket.lexes _).append
      ((lexes_numeral n _).append (SymbolToken.closeBracket.lexes _))
  | key k =>
    simp only [Access.chars, List.cons_append, List.append_assoc]
    exact (SymbolToken.openBracket.lexes _).append
      ((lexes_verbatim k.quote k.verbatim _).append (SymbolToken.closeBracket.lexes _))

/-- Accesses are taken off one by one. -/
theorem lexes_accesses (accesses : List Access) :
    Lexes (accesses.flatMap Access.chars) (accesses.flatMap accessTokens) [] := by
  induction accesses with
  | nil => exact .refl []
  | cons a accesses ih => exact (lexes_access a accesses).append ih

/-- A numeral is a condition, nesting two deep at most. -/
theorem derives_numeral (n : Numeral) :
    ∃ m ≤ 2, Derives .disjunction m (numeralTokens n) (numeralExpr n) := by
  have hliteral : Derives .atom 0 [.number (numeralDigits n)]
      (.literal (.number (numeralDigits n))) := .literal (.number _)
  unfold numeralTokens numeralExpr
  split
  · exact ⟨2, le_rfl, .of_operand (.sign .minus (.unsigned (.atom hliteral)))⟩
  · exact ⟨1, by omega, .of_atom hliteral⟩

/-- An access behind what derives as one derives as one, no matter how many
there are. -/
theorem derives_access {ts : List Token} {object : Expr} (a : Access)
    (h : ∃ m ≤ 2, Derives .access m ts object) :
    ∃ m ≤ 2, Derives .access m (ts ++ accessTokens a) (accessExpr object a) := by
  obtain ⟨m, hm, hobject⟩ := h
  cases a with
  | name x => exact ⟨m, hm, .member hobject⟩
  | position n =>
    obtain ⟨k, hk, hnumeral⟩ := derives_numeral n
    refine ⟨max m k, by omega, ?_⟩
    have hindex := Derives.index hobject hnumeral
    rwa [List.append_assoc] at hindex
  | key k =>
    have hkey : Derives .disjunction 1 [.text (String.ofList k.chars)]
        (.literal (.string (String.ofList k.chars))) := .of_atom (.literal (.text _))
    refine ⟨max m 1, by omega, ?_⟩
    have hindex := Derives.index hobject hkey
    rwa [List.append_assoc] at hindex

/-- So a chain of accesses derives its expression. -/
theorem derives_accesses {ts : List Token} {object : Expr} (accesses : List Access)
    (h : ∃ m ≤ 2, Derives .access m ts object) :
    ∃ m ≤ 2, Derives .access m (ts ++ accesses.flatMap accessTokens)
      (accesses.foldl accessExpr object) := by
  induction accesses generalizing ts object with
  | nil => simpa using h
  | cons a accesses ih =>
    rw [List.flatMap_cons, ← List.append_assoc, List.foldl_cons]
    exact ih (derives_access a h)

/-- **A chain is a condition** with its expression. -/
theorem parse_chain (c : Chain) : parse c.text = .ok (chainExpr c) := by
  obtain ⟨ls, hls, hts⟩ := ((lexes_identifier c.root c.accesses).append
    (lexes_accesses c.accesses)).lexemes
  obtain ⟨m, hm, hderives⟩ := derives_accesses c.accesses
    ⟨0, by omega, .atom (@Derives.variable c.root.text)⟩
  refine parse_eq_ok.2 ⟨ls, hls, ofLexemes_eq_ok_iff.2 ⟨m + 1, by omega, ?_⟩⟩
  rw [hts]
  exact .of_operand (.unsigned hderives)

/-! ## Steps are taken alike -/

/-- The number that a numeral evaluates to. -/
def numeralNumber (n : Numeral) : Number :=
  if n.negative then (numeralDigits n).neg else numeralDigits n

theorem evaluate_numeral (vars : Table Value) (n : Numeral) :
    evaluate vars (numeralExpr n) = .ok (.number (numeralNumber n)) := by
  unfold numeralExpr numeralNumber
  cases n.negative <;> simp [evaluate, applyUnary, bind, Except.bind]

/-- This number is the integer that the numeral stands for, unless that is
the least signed word, -/
theorem toInt?_numeral {n : Numeral} (h : n.value ≠ -(1 <<< 63)) :
    (numeralNumber n).toInt? = some n.value := by
  have hrange := n.inRange
  unfold numeralNumber numeralDigits
  unfold Numeral.value at h ⊢
  cases hnegative : n.negative with
  | false =>
    have hword : (n.magnitude : Int) < 1 <<< 63 := by
      simp only [hnegative, Bool.false_eq_true, false_and, or_false] at hrange
      omega
    simp only [Bool.false_eq_true, if_false]
    rw [Number.toInt?, if_pos hword]
  | true =>
    simp only [hnegative, if_true] at h
    have hbounds : -(1 <<< 63) < (n.magnitude : Int) ∧ (n.magnitude : Int) < 1 <<< 63 := by omega
    have hword : -(n.magnitude : Int) < 1 <<< 63 := by omega
    simp only [if_true]
    rw [Number.neg, dif_pos hbounds, Number.toInt?, if_pos hword]

/-- and then it is no position: its digits are no signed word, so that they
are negated as a double. -/
theorem toInt?_least {n : Numeral} (h : n.value = -(1 <<< 63)) :
    (numeralNumber n).toInt? = none := by
  have hnumber : numeralNumber n = Number.neg (.integer (1 <<< 63) (by decide)) := by
    unfold Numeral.value at h
    unfold numeralNumber numeralDigits
    cases hnegative : n.negative with
    | false =>
      simp only [hnegative, Bool.false_eq_true, if_false] at h
      omega
    | true =>
      simp only [hnegative, if_true] at h
      have hmagnitude : (n.magnitude : Int) = 1 <<< 63 := by omega
      simp only [if_true, hmagnitude]
  rw [hnumber]
  decide +kernel

/-- No array has a position that is the least signed word. -/
theorem reach_least (v : Value) : ((Step.index (-(1 <<< 63))).reach v).toOption = none := by
  cases v with
  | array items =>
    have hnone : Path.position? (-(1 <<< 63)) items.length = none := by
      have hnegative : (-(1 <<< 63) : Int) < 0 := by decide
      unfold Path.position?
      simp only [if_pos hnegative]
      exact if_neg (by omega)
    simp only [Step.reach, hnone, Option.bind_none]
    rfl
  | _ => rfl

theorem stepFrom_toOption (v : Value) (step : Step) :
    (stepFrom v step).toOption = (step.reach v).toOption := by
  unfold stepFrom
  cases step.reach v <;> rfl

/-- A number in brackets takes the step to the position that it is. -/
theorem indexStep_number (v : Value) (m : Number) :
    (indexStep (.number m) >>= stepFrom v).toOption =
      m.toInt?.bind fun i => ((Step.index i).reach v).toOption := by
  cases hword : m.toInt? with
  | none =>
    simp only [indexStep, hword]
    rfl
  | some i =>
    simp only [indexStep, hword]
    exact stepFrom_toOption v (.index i)

/-- **An access takes its step** from the value of what it stands behind,
or gets nowhere with it. -/
theorem evaluate_access (vars : Table Value) (object : Expr) (a : Access) :
    (evaluate vars (accessExpr object a)).toOption =
      (evaluate vars object).toOption.bind fun v => (a.step.reach v).toOption := by
  cases a with
  | name x =>
    rw [accessExpr, evaluate, Outcome.toOption_bind]
    simp only [stepFrom_toOption, Access.step]
  | position n =>
    have hstep : ∀ v, (indexStep (.number (numeralNumber n)) >>= stepFrom v).toOption =
        ((Step.index n.value).reach v).toOption := by
      intro v
      rw [indexStep_number]
      by_cases hleast : n.value = -(1 <<< 63)
      · rw [toInt?_least hleast, hleast, reach_least, Option.bind_none]
      · rw [toInt?_numeral hleast, Option.bind_some]
    rw [accessExpr, evaluate, Outcome.toOption_bind]
    simp only [evaluate_numeral]
    exact congrArg _ (funext hstep)
  | key k =>
    rw [accessExpr, evaluate, Outcome.toOption_bind]
    simp only [evaluate]
    exact congrArg _ (funext fun v => stepFrom_toOption v _)

/-- Accesses take their steps one after another. -/
theorem evaluate_accesses (vars : Table Value) (object : Expr) (accesses : List Access) :
    (evaluate vars (accesses.foldl accessExpr object)).toOption =
      (evaluate vars object).toOption.bind fun v =>
        (Path.walk v (accesses.map Access.step)).toOption := by
  induction accesses generalizing object with
  | nil =>
    rw [List.foldl_nil]
    exact (Option.bind_fun_some _).symm
  | cons a accesses ih =>
    rw [List.foldl_cons, ih, evaluate_access, Option.bind_assoc]
    simp only [List.map_cons, Path.walk, Outcome.toOption_bind]

/-- A variable is the root that a path begins at. -/
theorem evaluate_variable (vars : Table Value) (name : String) :
    (evaluate vars (.variable name)).toOption = (Path.root vars name).toOption := by
  rw [evaluate]
  cases Path.root vars name <;> rfl

/-- **Paths and conditions read chains alike.** The text of a chain of
accesses is a path and a condition, and under all variables the path leads
to a value exactly if the condition has one, which is the same. -/
theorem resolve_eq_evaluate (c : Chain) :
    ∃ e, parse c.text = .ok e ∧
      ∀ vars, (Path.resolve vars c.text).toOption = (evaluate vars e).toOption := by
  refine ⟨chainExpr c, parse_chain c, fun vars => ?_⟩
  rw [Path.resolve, Path.parse_text, chainExpr, evaluate_accesses, evaluate_variable,
    ← Outcome.toOption_bind]
  rfl

/-- The number of characters in the first name of the last user. -/
def lastFirstName : Chain where
  root := ⟨'u', "sers".toList, by decide, List.all_eq_true.1 (by decide), by decide⟩
  accesses := [.position ⟨true, 1, .inl (by decide)⟩,
    .key ⟨.single, "first name".toList, by decide, by simp [Quote.char]⟩,
    .name ⟨'l', "ength".toList, by decide, List.all_eq_true.1 (by decide), by decide⟩]

/-- Two users, one of them with a first name. -/
def userList : List Value := [.null, .object (Table.ofList [("first name", .string "Ada")])]

/-- Variables with these users. -/
def users : Table Value := Table.ofList [("users", .array userList)]

/-- As a path and as a condition this is three. -/
theorem lastFirstName_resolve_eq_evaluate :
    lastFirstName.text = "users[-1]['first name'].length" ∧
      Path.resolve users lastFirstName.text = .ok (.ofNat 3) ∧
      ∃ e, parse lastFirstName.text = .ok e ∧ evaluate users e = .ok (.ofNat 3) := by
  have hlast : Path.position? (-1) userList.length = some 1 := by decide
  have hresolve : Path.resolve users lastFirstName.text = .ok (.ofNat 3) := by
    rw [Path.resolve, Path.parse_text]
    show (Step.reach (.index (-1)) (.array userList) >>= fun user =>
      Path.walk user [.property "first name", .property "length"]) = _
    simp only [Step.reach, hlast]
    rfl
  obtain ⟨e, hparse, heval⟩ := resolve_eq_evaluate lastFirstName
  refine ⟨rfl, hresolve, e, hparse, Outcome.toOption_eq_some.1 ?_⟩
  rw [← heval, hresolve]
  rfl

end Condition

end PromptTemplate
