import PromptTemplate.Proofs.Outcome
import PromptTemplate.Proofs.Condition.Acceptance
/-!
# PromptTemplate — the shape of a condition

Two conditions have the same shape if they differ in nothing but what their
string literals say. `tokenShapes` and `treeShape` erase the strings from
the tokens and from the tree of a text. The parser looks at what a token
is and never into a string, so that `treeShape` is determined by
`tokenShapes`; the proof goes through the grammar and not through the
parser, as derivations do not care what a string says
(`Derives.reshape`).
-/

namespace PromptTemplate

namespace Condition

/-! ## Shapes -/

/-- A token without what it says, if it is a string. -/
def Token.shape : Token → Token
  | .text _ => .text ""
  | t => t

/-- A literal without what it says, if it is a string. -/
def literalShape : Value → Value
  | .string _ => .string ""
  | v => v

mutual

/-- An expression without what its strings say. -/
def Expr.shape : Expr → Expr
  | .literal v => .literal (literalShape v)
  | .variable name => .variable name
  | .member object property => .member object.shape property
  | .index object position => .index object.shape position.shape
  | .unary op operand => .unary op operand.shape
  | .compare op left right => .compare op left.shape right.shape
  | .logical op left right => .logical op left.shape right.shape
  | .array items => .array (shapes items)

/-- Expressions without what their strings say. -/
def shapes : List Expr → List Expr
  | [] => []
  | e :: es => e.shape :: shapes es

end

/-- The tokens of a text without what the strings say, if it splits into
tokens. -/
def tokenShapes (source : String) : Option (List Token) :=
  (lexemes source).toOption.map fun ls => (tokens ls).map Token.shape

/-- The tree of a text without what the strings say, if it has one. -/
def treeShape (source : String) : Option Expr := (parse source).toOption.map Expr.shape

/-! ## Rows of tokens of one shape -/

/-- A token that is no string is all that its shape says. -/
theorem Token.eq_of_shape_eq {t k : Token} (h : t.shape = k.shape) (hk : ∀ s, k ≠ .text s) :
    t = k := by
  have hshape : k.shape = k := by
    unfold Token.shape
    split
    · exact absurd rfl (hk _)
    · rfl
  rw [hshape] at h
  unfold Token.shape at h
  split at h
  · exact absurd h.symm (hk _)
  · exact h

/-- What has the shape of two rows is made of two rows. -/
theorem exists_append_of_shape {us ts vs : List Token}
    (h : us.map Token.shape = (ts ++ vs).map Token.shape) :
    ∃ a b, us = a ++ b ∧ a.map Token.shape = ts.map Token.shape ∧
      b.map Token.shape = vs.map Token.shape := by
  rw [List.map_append] at h
  exact List.map_eq_append_iff.1 h

/-- What has the shape of a row with a token in front that is no string
begins with this token. -/
theorem exists_cons_of_shape {us ts : List Token} {k : Token} (hk : ∀ s, k ≠ .text s)
    (h : us.map Token.shape = (k :: ts).map Token.shape) :
    ∃ b, us = k :: b ∧ b.map Token.shape = ts.map Token.shape := by
  rw [List.map_cons] at h
  obtain ⟨t, b, rfl, ht, hb⟩ := List.map_eq_cons_iff.1 h
  exact ⟨b, by rw [Token.eq_of_shape_eq ht hk], hb⟩

/-- What has the shape of a row with a token behind that is no string ends
with this token. -/
theorem exists_concat_of_shape {us ts : List Token} {k : Token} (hk : ∀ s, k ≠ .text s)
    (h : us.map Token.shape = (ts ++ [k]).map Token.shape) :
    ∃ a, us = a ++ [k] ∧ a.map Token.shape = ts.map Token.shape := by
  obtain ⟨a, b, rfl, ha, hb⟩ := exists_append_of_shape h
  obtain ⟨c, rfl, hc⟩ := exists_cons_of_shape hk hb
  obtain rfl : c = [] := by simpa using hc
  exact ⟨a, rfl, ha⟩

/-- Comparisons are no strings. -/
theorem CompareTokens.eq_of_shape {js us : List Token} {op : CompareOp} (h : CompareTokens js op)
    (hus : us.map Token.shape = js.map Token.shape) : us = js := by
  cases h with
  | notWithin =>
    obtain ⟨b, rfl, hb⟩ := exists_cons_of_shape (by simp) hus
    obtain ⟨c, rfl, hc⟩ := exists_cons_of_shape (by simp) hb
    obtain rfl : c = [] := by simpa using hc
    rfl
  | _ =>
    obtain ⟨b, rfl, hb⟩ := exists_cons_of_shape (by simp) hus
    obtain rfl : b = [] := by simpa using hb
    rfl

/-- A literal of the shape of another one has a value of its shape. -/
theorem LiteralToken.reshape {t k : Token} {v : Value} (h : LiteralToken k v)
    (ht : t.shape = k.shape) : ∃ w, LiteralToken t w ∧ literalShape w = literalShape v := by
  cases h with
  | text s =>
    cases t with
    | text r => exact ⟨_, .text r, rfl⟩
    | _ => cases ht
  | number n =>
    obtain rfl := Token.eq_of_shape_eq ht (by simp)
    exact ⟨_, .number n, rfl⟩
  | truth b =>
    obtain rfl := Token.eq_of_shape_eq ht (by simp)
    exact ⟨_, .truth b, rfl⟩
  | null =>
    obtain rfl := Token.eq_of_shape_eq ht (by simp)
    exact ⟨_, .null, rfl⟩

/-- An expression of the shape of an array is an array. -/
theorem exists_array_of_shape {e : Expr} {es : List Expr} (h : e.shape = (Expr.array es).shape) :
    ∃ fs, e = .array fs ∧ shapes fs = shapes es := by
  cases e with
  | array fs =>
    rw [Expr.shape, Expr.shape] at h
    exact ⟨fs, rfl, by injection h⟩
  | _ =>
    rw [Expr.shape, Expr.shape] at h
    cases h

/-! ## The tree is determined by the tokens -/

/-- **Derivations do not look into strings:** a row of the same shape
derives an expression of the same shape, as deep. -/
theorem Derives.reshape {s : Symbol} {n : Nat} {ts us : List Token} {e : Expr}
    (h : Derives s n ts e) (hus : us.map Token.shape = ts.map Token.shape) :
    ∃ f, Derives s n us f ∧ f.shape = e.shape := by
  induction h generalizing us with
  | disjunction _ ih =>
    obtain ⟨f, hf, hshape⟩ := ih hus
    exact ⟨f, .disjunction hf, hshape⟩
  | alternative _ ih =>
    obtain ⟨f, hf, hshape⟩ := ih hus
    exact ⟨f, .alternative hf, hshape⟩
  | conjunct _ ih =>
    obtain ⟨f, hf, hshape⟩ := ih hus
    exact ⟨f, .conjunct hf, hshape⟩
  | compared _ ih =>
    obtain ⟨f, hf, hshape⟩ := ih hus
    exact ⟨f, .compared hf, hshape⟩
  | unsigned _ ih =>
    obtain ⟨f, hf, hshape⟩ := ih hus
    exact ⟨f, .unsigned hf, hshape⟩
  | atom _ ih =>
    obtain ⟨f, hf, hshape⟩ := ih hus
    exact ⟨f, .atom hf, hshape⟩
  | or _ _ ihl ihr =>
    obtain ⟨a, b, rfl, ha, hb⟩ := exists_append_of_shape hus
    obtain ⟨c, rfl, hc⟩ := exists_cons_of_shape (by simp) hb
    obtain ⟨f, hf, hleft⟩ := ihl ha
    obtain ⟨g, hg, hright⟩ := ihr hc
    exact ⟨_, .or hf hg, by simp only [Expr.shape, hleft, hright]⟩
  | and _ _ ihl ihr =>
    obtain ⟨a, b, rfl, ha, hb⟩ := exists_append_of_shape hus
    obtain ⟨c, rfl, hc⟩ := exists_cons_of_shape (by simp) hb
    obtain ⟨f, hf, hleft⟩ := ihl ha
    obtain ⟨g, hg, hright⟩ := ihr hc
    exact ⟨_, .and hf hg, by simp only [Expr.shape, hleft, hright]⟩
  | compare _ hjs _ ihl ihr =>
    obtain ⟨ab, c, rfl, hab, hc⟩ := exists_append_of_shape hus
    obtain ⟨a, b, rfl, ha, hb⟩ := exists_append_of_shape hab
    obtain rfl := hjs.eq_of_shape hb
    obtain ⟨f, hf, hleft⟩ := ihl ha
    obtain ⟨g, hg, hright⟩ := ihr hc
    exact ⟨_, .compare hf hjs hg, by simp only [Expr.shape, hleft, hright]⟩
  | @sign _ k _ _ _ hsign _ ih =>
    have hk : ∀ s, k ≠ .text s := by
      rintro s rfl
      cases hsign
    obtain ⟨b, rfl, hb⟩ := exists_cons_of_shape hk hus
    obtain ⟨f, hf, hshape⟩ := ih hb
    exact ⟨_, .sign hsign hf, by simp only [Expr.shape, hshape]⟩
  | member _ ih =>
    obtain ⟨a, b, rfl, ha, hb⟩ := exists_append_of_shape hus
    obtain ⟨c, rfl, hc⟩ := exists_cons_of_shape (by simp) hb
    obtain ⟨d, rfl, hd⟩ := exists_cons_of_shape (by simp) hc
    obtain rfl : d = [] := by simpa using hd
    obtain ⟨f, hf, hshape⟩ := ih ha
    exact ⟨_, .member hf, by simp only [Expr.shape, hshape]⟩
  | index _ _ ihl ihr =>
    obtain ⟨ab, rfl, hab⟩ := exists_concat_of_shape (by simp) hus
    obtain ⟨a, b, rfl, ha, hb⟩ := exists_append_of_shape hab
    obtain ⟨c, rfl, hc⟩ := exists_cons_of_shape (by simp) hb
    obtain ⟨f, hf, hleft⟩ := ihl ha
    obtain ⟨g, hg, hright⟩ := ihr hc
    exact ⟨_, .index hf hg, by simp only [Expr.shape, hleft, hright]⟩
  | literal hliteral =>
    -- the one token that may differ is that of a string
    rw [List.map_cons] at hus
    obtain ⟨t, b, rfl, ht, hb⟩ := List.map_eq_cons_iff.1 hus
    obtain rfl : b = [] := by simpa using hb
    obtain ⟨w, hw, hshape⟩ := hliteral.reshape ht
    exact ⟨_, .literal hw, by simp only [Expr.shape, hshape]⟩
  | «variable» =>
    obtain ⟨b, rfl, hb⟩ := exists_cons_of_shape (by simp) hus
    obtain rfl : b = [] := by simpa using hb
    exact ⟨_, .variable, rfl⟩
  | parens _ ih =>
    obtain ⟨a, rfl, ha⟩ := exists_concat_of_shape (by simp) hus
    obtain ⟨b, rfl, hb⟩ := exists_cons_of_shape (by simp) ha
    obtain ⟨f, hf, hshape⟩ := ih hb
    exact ⟨f, .parens hf, hshape⟩
  | emptyArray =>
    obtain ⟨b, rfl, hb⟩ := exists_cons_of_shape (by simp) hus
    obtain ⟨c, rfl, hc⟩ := exists_cons_of_shape (by simp) hb
    obtain rfl : c = [] := by simpa using hc
    exact ⟨_, .emptyArray, rfl⟩
  | array _ ih =>
    obtain ⟨a, rfl, ha⟩ := exists_concat_of_shape (by simp) hus
    obtain ⟨b, rfl, hb⟩ := exists_cons_of_shape (by simp) ha
    obtain ⟨f, hf, hshape⟩ := ih hb
    obtain ⟨fs, rfl, hfs⟩ := exists_array_of_shape hshape
    exact ⟨_, .array hf, hshape⟩
  | item _ ih =>
    obtain ⟨f, hf, hshape⟩ := ih hus
    exact ⟨_, .item hf, by simp only [Expr.shape, shapes, hshape]⟩
  | items _ _ ihl ihr =>
    obtain ⟨a, b, rfl, ha, hb⟩ := exists_append_of_shape hus
    obtain ⟨c, rfl, hc⟩ := exists_cons_of_shape (by simp) hb
    obtain ⟨f, hf, hleft⟩ := ihl ha
    obtain ⟨g, hg, hright⟩ := ihr hc
    obtain ⟨fs, rfl, hfs⟩ := exists_array_of_shape hright
    exact ⟨_, .items hf hg, by simp only [Expr.shape, shapes, hleft, hfs]⟩

/-- A text that stands for an expression splits into tokens that do. -/
theorem parse_eq_ok {source : String} {e : Expr} :
    parse source = .ok e ↔ ∃ ls, lexemes source = .ok ls ∧ ofLexemes ls = .ok e := by
  unfold parse
  cases lexemes source <;> simp

/-- A tree for one text is a tree for every text of the same tokens, up to
what the strings say. -/
theorem treeShape_of_tokenShapes {t u : String} {e : Expr} (h : tokenShapes t = tokenShapes u)
    (ht : treeShape t = some e) : treeShape u = some e := by
  obtain ⟨f, hparse, rfl⟩ := Option.map_eq_some_iff.1 ht
  obtain ⟨ts, hts, hf⟩ := parse_eq_ok.1 (Outcome.toOption_eq_some.1 hparse)
  obtain ⟨n, hn, hderives⟩ := ofLexemes_eq_ok_iff.1 hf
  unfold tokenShapes at h
  rw [hts, Except.toOption, Option.map_some] at h
  obtain ⟨us, hus, hshape⟩ := Option.map_eq_some_iff.1 h.symm
  obtain ⟨g, hg, heq⟩ := hderives.reshape hshape
  have hparsed : parse u = .ok g :=
    parse_eq_ok.2 ⟨us, Outcome.toOption_eq_some.1 hus, ofLexemes_eq_ok_iff.2 ⟨n, hn, hg⟩⟩
  rw [treeShape, hparsed, ← heq]
  rfl

/-- **The tokens determine the tree,** strings apart. -/
theorem treeShape_eq_of_tokenShapes_eq {t u : String} (h : tokenShapes t = tokenShapes u) :
    treeShape t = treeShape u := by
  refine Option.ext fun e => ?_
  constructor
  · exact treeShape_of_tokenShapes h
  · exact treeShape_of_tokenShapes h.symm

end Condition

end PromptTemplate
