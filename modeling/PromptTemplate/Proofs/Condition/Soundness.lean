import PromptTemplate.Proofs.Condition.Grammar
/-!
# PromptTemplate — what the parser reads derives

Whatever the parser of conditions takes off the front of a row of lexemes
derives from the grammar. The argument goes along the levels of the
parser: with `d` levels left, nothing is read but derivations that nest at
most `d` deep (`level_sound`). Every loop has the same invariant: what has
been taken so far is already a whole part of the kind that the loop reads.
-/

namespace PromptTemplate

namespace Condition

/-! ## Joints and signs -/

theorem orJoint_eq_some {ls rest : List Lexeme} {join : Expr → Expr → Expr}
    (h : orJoint ls = some (join, rest)) :
    ∃ l, ls = l :: rest ∧ l.token = .or ∧ join = .logical .or := by
  unfold orJoint at h
  split at h
  · cases h
    exact ⟨_, rfl, rfl, rfl⟩
  · cases h

theorem andJoint_eq_some {ls rest : List Lexeme} {join : Expr → Expr → Expr}
    (h : andJoint ls = some (join, rest)) :
    ∃ l, ls = l :: rest ∧ l.token = .and ∧ join = .logical .and := by
  unfold andJoint at h
  split at h
  · cases h
    exact ⟨_, rfl, rfl, rfl⟩
  · cases h

theorem compareJoint_eq_some {ls rest : List Lexeme} {join : Expr → Expr → Expr}
    (h : compareJoint ls = some (join, rest)) :
    ∃ js op, ls = js ++ rest ∧ CompareTokens (tokens js) op ∧ join = .compare op := by
  unfold compareJoint at h
  split at h
  -- case 8 is `not in`, and in case 9 there is no joint
  case h_9 => cases h
  case h_8 =>
    cases h
    exact ⟨[_, _], _, rfl, .notWithin, rfl⟩
  all_goals
    cases h
    exact ⟨[_], _, rfl, by constructor, rfl⟩

/-- The joint of comparisons is at the front of what begins with its
tokens. -/
theorem compareJoint_append {js : List Lexeme} {op : CompareOp} (h : CompareTokens (tokens js) op)
    (rest : List Lexeme) : compareJoint (js ++ rest) = some (.compare op, rest) := by
  generalize hts : tokens js = ts at h
  cases h
  case notWithin =>
    obtain ⟨⟨t, _, _⟩, ls, rfl, ht, hls⟩ := List.map_eq_cons_iff.1 hts
    obtain ⟨⟨u, _, _⟩, ms, rfl, hu, hms⟩ := List.map_eq_cons_iff.1 hls
    obtain rfl : ms = [] := List.map_eq_nil_iff.1 hms
    cases ht
    cases hu
    rfl
  all_goals
    obtain ⟨⟨t, _, _⟩, ls, rfl, ht, hls⟩ := List.map_eq_cons_iff.1 hts
    obtain rfl : ls = [] := List.map_eq_nil_iff.1 hls
    cases ht
    rfl

theorem sign?_eq_some {t : Token} {op : UnaryOp} : sign? t = some op ↔ SignToken t op := by
  constructor
  · intro h
    unfold sign? at h
    split at h <;> cases h <;> constructor
  · rintro ⟨⟩ <;> rfl

/-! ## What is read derives -/

/-- A front part of a row derives from a symbol, at most `d` levels deep,
and leaves a rest. -/
def Reads (s : Symbol) (d : Nat) (ls : List Lexeme) (e : Expr) (rest : List Lexeme) : Prop :=
  ∃ us n, ls = us ++ rest ∧ n ≤ d ∧ Derives s n (tokens us) e

/-- A parser reads nothing but what derives from a symbol. -/
def Sound (p : Parser) (s : Symbol) (d : Nat) : Prop :=
  ∀ ⦃ls e rest⦄, p ls = .ok (e, rest) → Reads s d ls e rest

/-- What derives from one symbol derives from another by the same tokens. -/
theorem Reads.imp {s s' : Symbol} {d : Nat} {ls rest : List Lexeme} {e e' : Expr}
    (himp : ∀ {n ts}, Derives s n ts e → Derives s' n ts e') (h : Reads s d ls e rest) :
    Reads s' d ls e' rest := by
  obtain ⟨us, n, rfl, hn, hd⟩ := h
  exact ⟨us, n, rfl, hn, himp hd⟩

/-- Two parts with a joint between them are read as one part. -/
theorem Reads.join {s s₁ s₂ : Symbol} {d : Nat} {ls mid rest' rest : List Lexeme}
    {e e₁ e₂ : Expr} (joint : List Lexeme)
    (himp : ∀ {n m ts us}, Derives s₁ n ts e₁ → Derives s₂ m us e₂ →
      Derives s (max n m) (ts ++ tokens joint ++ us) e)
    (h₁ : Reads s₁ d ls e₁ mid) (hmid : mid = joint ++ rest') (h₂ : Reads s₂ d rest' e₂ rest) :
    Reads s d ls e rest := by
  obtain ⟨us, n, rfl, hn, hd₁⟩ := h₁
  obtain ⟨vs, m, rfl, hm, hd₂⟩ := h₂
  refine ⟨us ++ joint ++ vs, max n m, ?_, by omega, ?_⟩
  · rw [hmid]
    simp
  · have hd := himp hd₁ hd₂
    simpa [tokens] using hd

/-- A chain is read as a symbol if its first operand is and every further
one goes on with it. -/
theorem chain_sound {operand : Parser} {joint : Joint} {s : Symbol} {d : Nat}
    (hfirst : Sound operand s d)
    (hnext : ∀ {ls mid behind rest : List Lexeme} {join : Expr → Expr → Expr} {left right : Expr},
      Reads s d ls left mid → joint mid = some (join, behind) →
      operand behind = .ok (right, rest) → Reads s d ls (join left right) rest) :
    Sound (chain operand joint) s d := by
  -- the loop keeps: what has been taken so far is read as the symbol
  have hloop : ∀ (fuel : Nat) {ls mid rest : List Lexeme} {left e : Expr},
      Reads s d ls left mid → chainFrom operand joint fuel left mid = .ok (e, rest) →
      Reads s d ls e rest := by
    intro fuel
    induction fuel with
    | zero =>
      intro ls mid rest left e hread h
      cases h
      exact hread
    | succ fuel ih =>
      intro ls mid rest left e hread h
      rw [chainFrom] at h
      split at h
      · cases h
        exact hread
      · rename_i hj
        split at h
        · cases h
        · rename_i ho
          exact ih (hnext hread hj ho) h
  intro ls e rest h
  rw [chain] at h
  split at h
  · cases h
  · rename_i ho
    exact hloop _ (hfirst ho) h

/-- The three rows of operands, each built on the one below. -/
theorem disjunctionOf_sound {operand : Parser} {d : Nat} (h : Sound operand .operand d) :
    Sound (disjunctionOf operand) .disjunction (d + 1) := by
  have hcomparison : Sound (chain operand compareJoint) .comparison d := by
    refine chain_sound (fun _ _ _ ho => (h ho).imp .compared) fun hread hj ho => ?_
    obtain ⟨js, op, hmid, hjs, rfl⟩ := compareJoint_eq_some hj
    exact hread.join js (fun h₁ h₂ => .compare h₁ hjs h₂) hmid (h ho)
  have hconjunction : Sound (chain (chain operand compareJoint) andJoint) .conjunction d := by
    refine chain_sound (fun _ _ _ ho => (hcomparison ho).imp .conjunct) fun hread hj ho => ?_
    obtain ⟨l, hmid, hl, rfl⟩ := andJoint_eq_some hj
    refine hread.join [l] (fun h₁ h₂ => ?_) hmid (hcomparison ho)
    simpa [tokens, hl] using Derives.and h₁ h₂
  have halternatives : Sound (disjunctionOf operand) .alternatives d := by
    refine chain_sound (fun _ _ _ ho => (hconjunction ho).imp .alternative) fun hread hj ho => ?_
    obtain ⟨l, hmid, hl, rfl⟩ := orJoint_eq_some hj
    refine hread.join [l] (fun h₁ h₂ => ?_) hmid (hconjunction ho)
    simpa [tokens, hl] using Derives.or h₁ h₂
  intro ls e rest hd
  obtain ⟨us, n, rfl, hn, hder⟩ := halternatives hd
  exact ⟨us, n + 1, rfl, by omega, .disjunction hder⟩

theorem expect_eq_ok {wanted : Token} {ls rest : List Lexeme} :
    expect wanted ls = .ok rest ↔ ∃ l, ls = l :: rest ∧ l.token = wanted := by
  unfold expect
  split
  · simp
  · split
    · rename_i h
      simp [h]
    · rename_i h
      simp [h]

theorem arrayItems_sound {disjunction : Parser} {d : Nat} (h : Sound disjunction .disjunction d)
    (fuel : Nat) {ls rest : List Lexeme} {es : List Expr}
    (hitems : arrayItems disjunction fuel ls = .ok (es, rest)) :
    ∃ mid close, Reads .items d ls (.array es) mid ∧ mid = close :: rest ∧
      close.token = .closeBracket := by
  induction fuel generalizing ls es with
  | zero => cases hitems
  | succ fuel ih =>
    rw [arrayItems] at hitems
    split at hitems
    · cases hitems
    rename_i item behind hitem
    split at hitems
    · cases hitems
    · rename_i source offset behind'
      obtain ⟨⟨more, rest'⟩, hmore, heq⟩ := Outcome.map_eq_ok.1 hitems
      cases heq
      obtain ⟨mid, close, hread, hmid, hclose⟩ := ih hmore
      refine ⟨mid, close, ?_, hmid, hclose⟩
      refine (h hitem).join [⟨.comma, source, offset⟩] (fun h₁ h₂ => ?_) rfl hread
      simpa [tokens] using Derives.items h₁ h₂
    · cases hitems
      exact ⟨_, _, (h hitem).imp .item, rfl, rfl⟩
    · cases hitems

/-- What a part between two tokens is read as. -/
theorem Reads.enclosed {s s' : Symbol} {d : Nat} {ls mid rest : List Lexeme} {e e' : Expr}
    {left right : Lexeme}
    (himp : ∀ {n ts}, Derives s n ts e → Derives s' n (left.token :: ts ++ [right.token]) e')
    (h : Reads s d ls e mid) (hmid : mid = right :: rest) :
    Reads s' d (left :: ls) e' rest := by
  obtain ⟨us, n, rfl, hn, hd⟩ := h
  refine ⟨left :: us ++ [right], n, ?_, hn, ?_⟩
  · simp [hmid]
  · have hd' := himp hd
    simpa [tokens] using hd'

theorem atom_sound {disjunction : Parser} {d : Nat} (h : Sound disjunction .disjunction d) :
    Sound (atom disjunction) .atom d := by
  have hliteral : ∀ {l : Lexeme} {ls : List Lexeme} {v : Value}, LiteralToken l.token v →
      Reads .atom d (l :: ls) (.literal v) ls := by
    intro l ls v hv
    exact ⟨[l], 0, rfl, by omega, .literal hv⟩
  intro ls e rest ha
  unfold atom at ha
  split at ha
  · cases ha
  · cases ha
    exact hliteral (.number _)
  · cases ha
    exact hliteral (.text _)
  · cases ha
    exact hliteral (.truth _)
  · cases ha
    exact hliteral .null
  · rename_i name source offset _
    cases ha
    exact ⟨[⟨.name name, source, offset⟩], 0, rfl, by omega, .variable⟩
  · split at ha
    · cases ha
    · rename_i hinner
      obtain ⟨rest', hclose, heq⟩ := Outcome.map_eq_ok.1 ha
      cases heq
      obtain ⟨l, hmid, hl⟩ := expect_eq_ok.1 hclose
      refine (h hinner).enclosed (fun hd => ?_) hmid
      rw [hl]
      exact .parens hd
  · split at ha
    · rename_i source offset _ source' offset' _
      cases ha
      exact ⟨[⟨.openBracket, source, offset⟩, ⟨.closeBracket, source', offset'⟩], 0, rfl, by omega,
        .emptyArray⟩
    · obtain ⟨⟨es, rest'⟩, hitems, heq⟩ := Outcome.map_eq_ok.1 ha
      cases heq
      obtain ⟨mid, close, hread, hmid, hclose⟩ := arrayItems_sound h _ hitems
      refine hread.enclosed (fun hd => ?_) hmid
      rw [hclose]
      exact .array hd
  · cases ha

theorem access_sound {disjunction : Parser} {d : Nat} (h : Sound disjunction .disjunction d) :
    Sound (access disjunction) .access d := by
  -- the loop keeps: what has been taken so far is read as an access
  have hloop : ∀ (fuel : Nat) {ls mid rest : List Lexeme} {object e : Expr},
      Reads .access d ls object mid →
      accessFrom disjunction fuel object mid = .ok (e, rest) → Reads .access d ls e rest := by
    intro fuel
    induction fuel with
    | zero =>
      intro ls mid rest object e hread ha
      cases ha
      exact hread
    | succ fuel ih =>
      intro ls mid rest object e hread ha
      unfold accessFrom at ha
      split at ha
      · rename_i source offset _
        split at ha
        · rename_i name source' offset' _
          refine ih ?_ ha
          obtain ⟨us, n, rfl, hn, hd⟩ := hread
          refine ⟨us ++ [⟨.dot, source, offset⟩, ⟨.name name, source', offset'⟩], n, ?_, hn, ?_⟩
          · simp
          · have hmember : Derives .access n (tokens us ++ [.dot, .name name]) _ := hd.member
            simpa [tokens] using hmember
        · cases ha
        · cases ha
      · rename_i source offset behind
        split at ha
        · cases ha
        · rename_i hposition
          split at ha
          · cases ha
          · rename_i hclose
            refine ih ?_ ha
            obtain ⟨l, hmid, hl⟩ := expect_eq_ok.1 hclose
            obtain ⟨us, n, rfl, hn, hd⟩ := hread
            obtain ⟨vs, m, hvs, hm, hd'⟩ := h hposition
            refine ⟨us ++ ⟨.openBracket, source, offset⟩ :: vs ++ [l], max n m, ?_, by omega, ?_⟩
            · simp [hvs, hmid]
            · simpa [tokens, hl] using hd.index hd'
      · cases ha
      · cases ha
        exact hread
  intro ls e rest ha
  rw [access] at ha
  split at ha
  · cases ha
  · rename_i hatom
    exact hloop _ ((atom_sound h hatom).imp .atom) ha

theorem signed_sound {inner disjunction : Parser} {d : Nat}
    (hinner : ∀ ⦃ls e rest⦄, inner ls = .ok (e, rest) →
      ∃ us n, ls = us ++ rest ∧ n + 1 ≤ d ∧ Derives .operand n (tokens us) e)
    (h : Sound disjunction .disjunction d) : Sound (signed inner disjunction) .operand d := by
  intro ls e rest hs
  unfold signed at hs
  split at hs
  · exact (access_sound h hs).imp .unsigned
  · rename_i l ls'
    split at hs
    · rename_i op hop
      obtain ⟨⟨operand, rest'⟩, hoperand, heq⟩ := Outcome.map_eq_ok.1 hs
      cases heq
      obtain ⟨us, n, rfl, hn, hd⟩ := hinner hoperand
      exact ⟨l :: us, n + 1, rfl, hn, .sign (sign?_eq_some.1 hop) hd⟩
    · exact (access_sound h hs).imp .unsigned

/-- **Soundness, level by level.** With `d` levels left a disjunction and an
operand are read from derivations that nest at most `d` deep. -/
theorem level_sound (d : Nat) :
    Sound (level d).disjunction .disjunction d ∧ Sound (level d).operand .operand d := by
  have hdeep : Sound tooDeep .disjunction 0 := by
    intro ls e rest h
    cases h
  -- the operands of a level are built on its disjunctions, and those on the
  -- operands of the level below, so that both go through one induction
  induction d with
  | zero =>
    refine ⟨hdeep, signed_sound (fun ls e rest h => ?_) hdeep⟩
    cases h
  | succ d ih =>
    have hdisjunction : Sound (level (d + 1)).disjunction .disjunction (d + 1) :=
      disjunctionOf_sound ih.2
    refine ⟨hdisjunction, signed_sound (fun ls e rest h => ?_) hdisjunction⟩
    obtain ⟨us, n, hus, hn, hd⟩ := ih.2 h
    exact ⟨us, n, hus, by omega, hd⟩

end Condition

end PromptTemplate
