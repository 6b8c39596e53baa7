import PromptTemplate.Proofs.Condition.Soundness
/-!
# PromptTemplate — what derives is read

The parser of conditions takes every derivation off the front of a row, at
every level that is deep enough, provided that the rest does not go on with
the derived part (`Stops`). The induction is on the derivation. The rows of
operands and the accesses are derived from their front, while the parser
loops over them; so what is stated of them is how far the loop has come
(`ChainAt`, `AccessAt`), and the loop is only left where the rest stops it.
-/

namespace PromptTemplate

namespace Condition

/-! ## Rows by their tokens -/

theorem tokens_eq_cons {ls : List Lexeme} {t : Token} {us : List Token}
    (h : tokens ls = t :: us) : ∃ l back, ls = l :: back ∧ l.token = t ∧ tokens back = us :=
  List.map_eq_cons_iff.1 h

theorem tokens_eq_singleton {ls : List Lexeme} {t : Token} (h : tokens ls = [t]) :
    ∃ l, ls = [l] ∧ l.token = t := by
  obtain ⟨l, back, rfl, hl, hback⟩ := tokens_eq_cons h
  obtain rfl : back = [] := List.map_eq_nil_iff.1 hback
  exact ⟨l, rfl, hl⟩

theorem tokens_eq_append {ls : List Lexeme} {ts us : List Token} (h : tokens ls = ts ++ us) :
    ∃ front back, ls = front ++ back ∧ tokens front = ts ∧ tokens back = us :=
  List.map_eq_append_iff.1 h

/-- A row whose tokens are two parts with a token between. -/
theorem tokens_eq_append_cons {ls : List Lexeme} {t : Token} {ts us : List Token}
    (h : tokens ls = ts ++ t :: us) :
    ∃ front l back, ls = front ++ l :: back ∧ tokens front = ts ∧ l.token = t ∧
      tokens back = us := by
  obtain ⟨front, more, rfl, hfront, hmore⟩ := tokens_eq_append h
  obtain ⟨l, back, rfl, hl, hback⟩ := tokens_eq_cons hmore
  exact ⟨front, l, back, rfl, hfront, hl, hback⟩

/-! ## How far a loop has come -/

/-- A chain has come to an expression and a rest, with fuel for all of it. -/
def ChainAt (operand : Parser) (joint : Joint) (input : List Lexeme) (e : Expr)
    (rest : List Lexeme) : Prop :=
  ∃ fuel, rest.length ≤ fuel ∧ chain operand joint input = chainFrom operand joint fuel e rest

section Chain

variable {operand : Parser} {joint : Joint} {input mid behind rest : List Lexeme}
variable {e left right : Expr} {join : Expr → Expr → Expr}

theorem ChainAt.first (h : operand input = .ok (e, rest)) : ChainAt operand joint input e rest := by
  refine ⟨rest.length, le_rfl, ?_⟩
  rw [chain, h]

theorem ChainAt.next (h : ChainAt operand joint input left mid)
    (hj : joint mid = some (join, behind)) (ho : operand behind = .ok (right, rest))
    (hlt : rest.length < mid.length) : ChainAt operand joint input (join left right) rest := by
  obtain ⟨fuel, hfuel, heq⟩ := h
  cases fuel with
  | zero => omega
  | succ fuel =>
    refine ⟨fuel, by omega, ?_⟩
    rw [heq, chainFrom, hj]
    dsimp only
    rw [ho]

theorem ChainAt.stop (h : ChainAt operand joint input e rest) (hj : joint rest = none) :
    chain operand joint input = .ok (e, rest) := by
  obtain ⟨fuel, -, heq⟩ := h
  rw [heq]
  cases fuel with
  | zero => rfl
  | succ fuel => rw [chainFrom, hj]

end Chain

/-- An access has come to an expression and a rest, with fuel for all of
it. -/
def AccessAt (disjunction : Parser) (input : List Lexeme) (e : Expr) (rest : List Lexeme) : Prop :=
  ∃ fuel, rest.length ≤ fuel ∧ access disjunction input = accessFrom disjunction fuel e rest

/-- A rest that does not go on with an access. -/
def EndsAccess (rest : List Lexeme) : Prop :=
  ∀ l ∈ rest.head?, l.token ≠ .dot ∧ l.token ≠ .openBracket ∧ l.token ≠ .openParen

section Access

variable {disjunction : Parser} {input behind rest : List Lexeme} {e object position : Expr}

theorem AccessAt.first (h : atom disjunction input = .ok (e, rest)) :
    AccessAt disjunction input e rest := by
  refine ⟨rest.length, le_rfl, ?_⟩
  rw [access, h]

theorem AccessAt.member {l m : Lexeme} {name : String}
    (h : AccessAt disjunction input object (l :: m :: rest)) (hl : l.token = .dot)
    (hm : m.token = .name name) : AccessAt disjunction input (.member object name) rest := by
  obtain ⟨fuel, hfuel, heq⟩ := h
  obtain ⟨_, _, _⟩ := l
  obtain ⟨_, _, _⟩ := m
  cases hl
  cases hm
  cases fuel with
  | zero => simp at hfuel
  | succ fuel => exact ⟨fuel, by simp at hfuel; omega, by rw [heq, accessFrom]⟩

theorem AccessAt.index {l m : Lexeme}
    (h : AccessAt disjunction input object (l :: behind)) (hl : l.token = .openBracket)
    (hd : disjunction behind = .ok (position, m :: rest)) (hm : m.token = .closeBracket)
    (hlt : rest.length < behind.length) :
    AccessAt disjunction input (.index object position) rest := by
  obtain ⟨fuel, hfuel, heq⟩ := h
  obtain ⟨_, _, _⟩ := l
  cases hl
  cases fuel with
  | zero => simp at hfuel
  | succ fuel =>
    have hclose : expect .closeBracket (m :: rest) = .ok rest := expect_eq_ok.2 ⟨m, rfl, hm⟩
    refine ⟨fuel, by simp at hfuel; omega, ?_⟩
    rw [heq, accessFrom, hd]
    dsimp only
    rw [hclose]

theorem AccessAt.stop (h : AccessAt disjunction input e rest) (hends : EndsAccess rest) :
    access disjunction input = .ok (e, rest) := by
  obtain ⟨fuel, -, heq⟩ := h
  rw [heq]
  cases fuel with
  | zero => rfl
  | succ fuel =>
    unfold accessFrom
    split
    · exact absurd rfl (hends _ rfl).1
    · exact absurd rfl (hends _ rfl).2.1
    · exact absurd rfl (hends _ rfl).2.2
    · rfl

end Access

/-! ## Where parts stop -/

theorem orJoint_cons {l : Lexeme} (h : l.token = .or) (rest : List Lexeme) :
    orJoint (l :: rest) = some (.logical .or, rest) := by
  obtain ⟨_, _, _⟩ := l
  cases h
  rfl

theorem andJoint_cons {l : Lexeme} (h : l.token = .and) (rest : List Lexeme) :
    andJoint (l :: rest) = some (.logical .and, rest) := by
  obtain ⟨_, _, _⟩ := l
  cases h
  rfl

/-- A rest that does not go on with a part of the kind of a symbol. What
rows of operands are stated by only has to stop the last operand. -/
def Stops : Symbol → List Lexeme → Prop
  | .atom, _ | .access, _ | .items, _ => True
  | .operand, rest | .comparison, rest => EndsAccess rest
  | .conjunction, rest => EndsAccess rest ∧ compareJoint rest = none
  | .alternatives, rest => EndsAccess rest ∧ compareJoint rest = none ∧ andJoint rest = none
  | .disjunction, rest =>
    EndsAccess rest ∧ compareJoint rest = none ∧ andJoint rest = none ∧ orJoint rest = none

/-- Everything stops at the end. -/
theorem stops_nil (s : Symbol) : Stops s [] := by
  have hends : EndsAccess [] := fun l hl => by cases hl
  cases s <;> simp [Stops, hends, compareJoint, andJoint, orJoint]

/-- Everything stops at a closing bracket or parenthesis and at a comma. -/
theorem stops_close {l : Lexeme} (rest : List Lexeme) (s : Symbol)
    (h : l.token = .closeParen ∨ l.token = .closeBracket ∨ l.token = .comma) :
    Stops s (l :: rest) := by
  have hends : EndsAccess (l :: rest) := by
    intro l' hl'
    cases hl'
    rcases h with h | h | h <;> simp [h]
  obtain ⟨t, _, _⟩ := l
  rcases h with rfl | rfl | rfl <;> cases s <;>
    simp [Stops, hends, compareJoint, andJoint, orJoint]

theorem stops_or {l : Lexeme} (rest : List Lexeme) (h : l.token = .or) :
    Stops .alternatives (l :: rest) := by
  obtain ⟨_, _, _⟩ := l
  cases h
  refine ⟨fun l hl => ?_, rfl, rfl⟩
  cases hl
  simp

theorem stops_and {l : Lexeme} (rest : List Lexeme) (h : l.token = .and) :
    Stops .conjunction (l :: rest) := by
  obtain ⟨_, _, _⟩ := l
  cases h
  refine ⟨fun l hl => ?_, rfl⟩
  cases hl
  simp

theorem stops_compare {js : List Lexeme} {op : CompareOp} (rest : List Lexeme)
    (h : CompareTokens (tokens js) op) : Stops .comparison (js ++ rest) := by
  intro l hl
  generalize hts : tokens js = ts at h
  cases h
  all_goals
    obtain ⟨j, _, rfl, hj, -⟩ := List.map_eq_cons_iff.1 hts
    cases hl
    simp [hj]

/-! ## The induction -/

/-- What the parsers with `d` levels left do on a row that begins with a
part derived from a symbol. -/
def Completes : Symbol → Nat → List Lexeme → Expr → List Lexeme → Prop
  | .disjunction, d, input, e, rest => (level d).disjunction input = .ok (e, rest)
  | .alternatives, d, input, e, rest =>
    ChainAt (chain (chain (level d).operand compareJoint) andJoint) orJoint input e rest
  | .conjunction, d, input, e, rest =>
    ChainAt (chain (level d).operand compareJoint) andJoint input e rest
  | .comparison, d, input, e, rest => ChainAt (level d).operand compareJoint input e rest
  | .operand, d, input, e, rest => (level d).operand input = .ok (e, rest)
  | .access, d, input, e, rest => AccessAt (level d).disjunction input e rest
  | .atom, d, input, e, rest => Condition.atom (level d).disjunction input = .ok (e, rest)
  | .items, d, input, e, rest => ∀ es close rest' fuel, e = .array es → rest = close :: rest' →
    close.token = .closeBracket → input.length ≤ fuel →
    arrayItems (level d).disjunction fuel input = .ok (es, rest')

/-- A row that begins with no sign is an operand by its access. -/
theorem operand_eq_access (d : Nat) {l : Lexeme} (ls : List Lexeme) (h : sign? l.token = none) :
    (level d).operand (l :: ls) = access (level d).disjunction (l :: ls) := by
  cases d <;> simp [level, signed, h]

theorem operand_sign (d : Nat) {l : Lexeme} {ls rest : List Lexeme} {op : UnaryOp} {e : Expr}
    (h : SignToken l.token op) (hoperand : (level d).operand ls = .ok (e, rest)) :
    (level (d + 1)).operand (l :: ls) = .ok (.unary op e, rest) := by
  simp [level, signed, sign?_eq_some.2 h, hoperand, Except.map]

theorem atom_literal {disjunction : Parser} {l : Lexeme} {v : Value} (rest : List Lexeme)
    (h : LiteralToken l.token v) : atom disjunction (l :: rest) = .ok (.literal v, rest) := by
  obtain ⟨_, _, _⟩ := l
  cases h <;> rfl

theorem atom_parens {disjunction : Parser} {l m : Lexeme} {ls rest : List Lexeme} {e : Expr}
    (hl : l.token = .openParen) (hd : disjunction ls = .ok (e, m :: rest))
    (hm : m.token = .closeParen) : atom disjunction (l :: ls) = .ok (e, rest) := by
  obtain ⟨_, _, _⟩ := l
  cases hl
  have hclose : expect .closeParen (m :: rest) = .ok rest := expect_eq_ok.2 ⟨m, rfl, hm⟩
  rw [atom, hd]
  dsimp only
  rw [hclose]
  rfl

/-- An opening bracket with no closing one right behind it opens items. -/
theorem atom_items {disjunction : Parser} {l : Lexeme} {ls rest : List Lexeme} {es : List Expr}
    (hl : l.token = .openBracket) (hne : (tokens ls).head? ≠ some .closeBracket)
    (hitems : arrayItems disjunction (ls.length + 1) ls = .ok (es, rest)) :
    atom disjunction (l :: ls) = .ok (.array es, rest) := by
  obtain ⟨_, _, _⟩ := l
  cases hl
  unfold atom
  dsimp only
  split
  · exact absurd rfl hne
  · rw [hitems]
    rfl

/-- **Completeness.** What derives from a symbol is read at every level that
is deep enough, where the rest stops it. -/
theorem Derives.completes {s : Symbol} {n : Nat} {ts : List Token} {e : Expr}
    (h : Derives s n ts e) : ∀ (d : Nat) (ls rest : List Lexeme), n ≤ d → tokens ls = ts →
      Stops s rest → Completes s d (ls ++ rest) e rest := by
  induction h with
  | disjunction _ ih =>
    intro d ls rest hd hls hstop
    -- a disjunction costs a level; its alternatives have those that are left
    cases d with
    | zero => omega
    | succ d =>
      have hchain := ih d ls rest (by omega) hls ⟨hstop.1, hstop.2.1, hstop.2.2.1⟩
      exact hchain.stop hstop.2.2.2
  | alternative _ ih =>
    intro d ls rest hd hls hstop
    have hchain := ih d ls rest hd hls ⟨hstop.1, hstop.2.1⟩
    exact .first (hchain.stop hstop.2.2)
  | or _ _ ihl ihr =>
    intro d ls rest hd hls hstop
    obtain ⟨front, l, back, rfl, hfront, hl, hback⟩ := tokens_eq_append_cons hls
    have hleft := ihl d front (l :: back ++ rest) (by omega) hfront (stops_or _ hl)
    have hright := (ihr d back rest (by omega) hback ⟨hstop.1, hstop.2.1⟩).stop hstop.2.2
    rw [List.append_assoc]
    refine hleft.next (orJoint_cons hl _) hright ?_
    simp only [List.length_append, List.length_cons]
    omega
  | conjunct _ ih =>
    intro d ls rest hd hls hstop
    have hchain := ih d ls rest hd hls hstop.1
    exact .first (hchain.stop hstop.2)
  | and _ _ ihl ihr =>
    intro d ls rest hd hls hstop
    obtain ⟨front, l, back, rfl, hfront, hl, hback⟩ := tokens_eq_append_cons hls
    have hleft := ihl d front (l :: back ++ rest) (by omega) hfront (stops_and _ hl)
    have hright := (ihr d back rest (by omega) hback hstop.1).stop hstop.2
    rw [List.append_assoc]
    refine hleft.next (andJoint_cons hl _) hright ?_
    simp only [List.length_append, List.length_cons]
    omega
  | compared _ ih =>
    intro d ls rest hd hls hstop
    exact .first (ih d ls rest hd hls hstop)
  | compare _ hjs _ ihl ihr =>
    intro d ls rest hd hls hstop
    rw [List.append_assoc] at hls
    obtain ⟨front, more, rfl, hfront, hmore⟩ := tokens_eq_append hls
    obtain ⟨js, back, rfl, rfl, hback⟩ := tokens_eq_append hmore
    have hleft := ihl d front (js ++ (back ++ rest)) (by omega) hfront (stops_compare _ hjs)
    have hright := ihr d back rest (by omega) hback hstop
    rw [List.append_assoc, List.append_assoc]
    refine hleft.next (compareJoint_append hjs _) hright ?_
    -- the loop goes on only because a joint is not empty
    have hne : js ≠ [] := by
      rintro rfl
      cases hjs
    have := List.length_pos_iff.2 hne
    simp only [List.length_append]
    omega
  | sign ht _ ih =>
    intro d ls rest hd hls hstop
    obtain ⟨l, back, rfl, rfl, hback⟩ := tokens_eq_cons hls
    cases d with
    | zero => omega
    | succ d => exact operand_sign d ht (ih d back rest (by omega) hback hstop)
  | unsigned ha ih =>
    intro d ls rest hd hls hstop
    -- a sign is looked for first, and an access does not begin with one
    obtain ⟨t, us, rfl, ht⟩ := ha.head_access (.inl rfl)
    have haccess := (ih d ls rest hd hls trivial).stop hstop
    obtain ⟨l, back, rfl, rfl, -⟩ := tokens_eq_cons hls
    exact (operand_eq_access d _ ht).trans haccess
  | atom _ ih =>
    intro d ls rest hd hls hstop
    exact .first (ih d ls rest hd hls trivial)
  | member _ ih =>
    intro d ls rest hd hls hstop
    obtain ⟨front, l, more, rfl, hfront, hl, hmore⟩ := tokens_eq_append_cons hls
    obtain ⟨m, rfl, hm⟩ := tokens_eq_singleton hmore
    have hobject := ih d front (l :: m :: rest) hd hfront trivial
    rw [List.append_assoc]
    exact hobject.member hl hm
  | index _ _ ihl ihr =>
    intro d ls rest hd hls hstop
    obtain ⟨all, closing, rfl, hall, hclosing⟩ := tokens_eq_append hls
    obtain ⟨front, l, back, rfl, hfront, hl, hback⟩ := tokens_eq_append_cons hall
    obtain ⟨m, rfl, hm⟩ := tokens_eq_singleton hclosing
    have hobject := ihl d front (l :: (back ++ m :: rest)) (by omega) hfront trivial
    have hposition := ihr d back (m :: rest) (by omega) hback (stops_close _ _ (.inr (.inl hm)))
    have hread := hobject.index hl hposition hm (by simp; omega)
    simpa [Completes] using hread
  | literal hv =>
    intro d ls rest hd hls hstop
    obtain ⟨l, rfl, rfl⟩ := tokens_eq_singleton hls
    exact atom_literal rest hv
  | «variable» =>
    intro d ls rest hd hls hstop
    obtain ⟨⟨_, _, _⟩, rfl, hl⟩ := tokens_eq_singleton hls
    cases hl
    rfl
  | parens _ ih =>
    intro d ls rest hd hls hstop
    obtain ⟨all, closing, rfl, hall, hclosing⟩ := tokens_eq_append hls
    obtain ⟨l, inner, rfl, hl, hinner⟩ := tokens_eq_cons hall
    obtain ⟨m, rfl, hm⟩ := tokens_eq_singleton hclosing
    have hread := ih d inner (m :: rest) hd hinner (stops_close _ _ (.inl hm))
    have hatom := atom_parens hl hread hm
    simpa [Completes] using hatom
  | emptyArray =>
    intro d ls rest hd hls hstop
    obtain ⟨⟨_, _, _⟩, more, rfl, hl, hmore⟩ := tokens_eq_cons hls
    obtain ⟨⟨_, _, _⟩, rfl, hm⟩ := tokens_eq_singleton hmore
    cases hl
    cases hm
    rfl
  | array hi ih =>
    intro d ls rest hd hls hstop
    obtain ⟨all, closing, rfl, hall, hclosing⟩ := tokens_eq_append hls
    obtain ⟨l, inner, rfl, hl, hinner⟩ := tokens_eq_cons hall
    obtain ⟨m, rfl, hm⟩ := tokens_eq_singleton hclosing
    have hitems := ih d inner (m :: rest) hd hinner trivial _ m rest _ rfl rfl hm (Nat.le_succ _)
    -- nor do items begin with the bracket that would end an empty array
    have hhead : (tokens (inner ++ m :: rest)).head? ≠ some .closeBracket := by
      have hne := hi.head_ne_closeBracket
      obtain ⟨t, us, hts⟩ := List.exists_cons_of_ne_nil hi.ne_nil
      rw [hts] at hne hinner
      obtain ⟨k, _, rfl, rfl, -⟩ := tokens_eq_cons hinner
      simpa [tokens] using hne
    have hatom := atom_items hl hhead hitems
    simpa [Completes] using hatom
  | item _ ih =>
    intro d ls rest hd hls hstop es close rest' fuel hes hrest hclose hfuel
    cases hes
    subst hrest
    have hitem := ih d ls (close :: rest') hd hls (stops_close _ _ (.inr (.inl hclose)))
    cases fuel with
    | zero => simp at hfuel
    | succ fuel =>
      obtain ⟨_, _, _⟩ := close
      cases hclose
      rw [arrayItems, hitem]
  | items _ _ ihl ihr =>
    intro d ls rest hd hls hstop es close rest' fuel hes hrest hclose hfuel
    cases hes
    obtain ⟨front, l, back, rfl, hfront, hl, hback⟩ := tokens_eq_append_cons hls
    have hitem := ihl d front (l :: (back ++ rest)) (by omega) hfront
      (stops_close _ _ (.inr (.inr hl)))
    rw [List.append_assoc, List.cons_append] at hfuel ⊢
    cases fuel with
    | zero => simp at hfuel
    | succ fuel =>
      have hmore := ihr d back rest (by omega) hback trivial _ close rest' fuel rfl hrest hclose
        (by simp at hfuel ⊢; omega)
      obtain ⟨_, _, _⟩ := l
      cases hl
      rw [arrayItems, hitem]
      dsimp only
      rw [hmore]
      rfl

end Condition

end PromptTemplate
