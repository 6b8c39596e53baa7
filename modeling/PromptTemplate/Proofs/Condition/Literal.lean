import PromptTemplate.Condition.Evaluate
import PromptTemplate.Proofs.Condition.Lexes
import PromptTemplate.Proofs.Value
/-!
# PromptTemplate — JSON reads back as a condition

The compact JSON text of a value without objects and doubles is a
condition, and its value is the value that was written, whatever the
variables say. `Plain n v` says which values these are and how deep their
arrays nest.

The way back is that of every condition: the text splits into tokens
(`Lexes`), the tokens derive an expression from the grammar, and the
expression is evaluated. `ReadsBack` says all three of a value, and
`Plain.readsBack` that it holds of every plain value that can be written.
A negative number comes back as a sign in front of a literal, so that it
nests two levels deep where other values nest one.
-/

namespace PromptTemplate

namespace Condition

variable {rest : List Char} {ts us : List Token}

/-! ## Plain values -/

/-- **Plain values:** nothing, truth values, texts, whole numbers of 64 bits
but the least one, and arrays of these that nest at most `n` deep. -/
inductive Plain : Nat → Value → Prop
  | null {n : Nat} : Plain n .null
  | bool {n : Nat} (b : Bool) : Plain n (.bool b)
  | string {n : Nat} (s : String) : Plain n (.string s)
  | integer {n : Nat} (i : Int) (h : -(1 <<< 63) ≤ i ∧ i < 1 <<< 64) (hlow : -(1 <<< 63) < i) :
      Plain n (.number (.integer i h))
  | array {n : Nat} {items : List Value} : (∀ v ∈ items, Plain n v) → Plain (n + 1) (.array items)

/-- **A value reads back** through tokens and an expression, nesting at most
two levels deeper than its arrays do. -/
structure ReadsBack (n : Nat) (v : Value) (ts : List Token) (e : Expr) : Prop where
  /-- The compact text of the value is the tokens, in front of what may
  follow a value. -/
  lexes : ∀ rest, Delimited rest → Lexes (Json.compactChars v ++ rest) ts rest
  /-- The tokens are a condition. -/
  derives : ∃ m ≤ n + 2, Derives .disjunction m ts e
  /-- The condition has the value. -/
  evaluates : ∀ vars, evaluate vars e = .ok v

/-- A value that is one token reads back. -/
theorem readsBack_literal {n : Nat} {v : Value} {t : Token} (ht : LiteralToken t v)
    (hlexes : ∀ rest, Delimited rest → Lexes (Json.compactChars v ++ rest) [t] rest) :
    ReadsBack n v [t] (.literal v) where
  lexes := hlexes
  derives := ⟨1, by omega, .of_atom (.literal ht)⟩
  evaluates vars := by rw [evaluate]

theorem readsBack_null {n : Nat} : ReadsBack n .null [.null] (.literal .null) :=
  readsBack_literal .null fun _ hrest =>
    lexes_word (by decide) (List.all_eq_true.1 (by decide)) (hrest.endsRun (by decide) (by decide))

theorem readsBack_bool {n : Nat} (b : Bool) :
    ReadsBack n (.bool b) [.truth b] (.literal (.bool b)) := by
  refine readsBack_literal (.truth b) fun rest hrest => ?_
  have hends : EndsRun isNamePart rest := hrest.endsRun (by decide) (by decide)
  cases b with
  | false => exact lexes_word (by decide) (List.all_eq_true.1 (by decide)) hends
  | true => exact lexes_word (by decide) (List.all_eq_true.1 (by decide)) hends

theorem readsBack_string {n : Nat} {s : String} (hs : Writable s) :
    ReadsBack n (.string s) [.text s] (.literal (.string s)) := by
  refine readsBack_literal (.text s) fun rest _ => ?_
  have hnext := fun position => Alike.next_quote hs position rest
  rw [Alike.quote_append] at hnext
  rw [Json.compactChars, Alike.quote_append]
  exact lexes_of_next (by decide) hnext

/-- A number without a sign is one token, -/
theorem readsBack_natCast {n k : Nat} (h : -(1 <<< 63) ≤ (k : Int) ∧ (k : Int) < 1 <<< 64) :
    ReadsBack n (.number (.integer k h)) [.number (.integer k h)]
      (.literal (.number (.integer k h))) := by
  refine readsBack_literal (.number _) fun rest hrest => ?_
  have htext : Json.compactChars (.number (.integer k h)) = Double.digitText k := by
    rw [Json.compactChars, Number.text, Number.integerText, if_neg (by omega), Int.natAbs_natCast,
      String.toList_ofList]
  rw [htext]
  exact lexes_digits h hrest

/-- and one with a sign is a sign and a token, whose negation is exact. -/
theorem readsBack_neg {n k : Nat} (hpos : 0 < k) (hlow : k < 1 <<< 63)
    (h : -(1 <<< 63) ≤ -(k : Int) ∧ -(k : Int) < 1 <<< 64)
    (h' : -(1 <<< 63) ≤ (k : Int) ∧ (k : Int) < 1 <<< 64) :
    ReadsBack n (.number (.integer (-k) h)) [.minus, .number (.integer k h')]
      (.unary .negate (.literal (.number (.integer k h')))) where
  lexes rest hrest := by
    have htext : Json.compactChars (.number (.integer (-k) h)) = '-' :: Double.digitText k := by
      rw [Json.compactChars, Number.text, Number.integerText, if_pos (by omega), Int.natAbs_neg,
        Int.natAbs_natCast, String.toList_ofList]
    rw [htext, List.cons_append]
    exact (SymbolToken.minus.lexes _).append (lexes_digits h' hrest)
  derives := ⟨2, by omega, .of_operand (.sign .minus (.unsigned (.atom (.literal (.number _)))))⟩
  evaluates vars := by
    have hrange : -(1 <<< 63) < (k : Int) ∧ (k : Int) < 1 <<< 63 := by omega
    have hneg : Number.neg (.integer k h') = .integer (-k) h := by
      rw [Number.neg, dif_pos hrange]
    simp [evaluate, applyUnary, hneg, bind, Except.bind]

/-- Items that read back do so together. -/
theorem exists_items {n : Nat} {items : List Value} (hne : items ≠ [])
    (h : ∀ v ∈ items, ∃ ts e, ReadsBack n v ts e) :
    ∃ ts es, (∃ m ≤ n + 2, Derives .items m ts (.array es)) ∧
      (∀ vars, evaluateAll vars es = .ok items) ∧
      ∀ rest, Lexes (Json.itemChars items ++ ']' :: rest) ts (']' :: rest) := by
  have hcomma : ∀ rest, Delimited (',' :: rest) := by simp [Delimited]
  induction items with
  | nil => exact absurd rfl hne
  | cons v items ih =>
    rw [List.forall_mem_cons] at h
    obtain ⟨⟨ts, e, hv⟩, h⟩ := h
    obtain ⟨m, hm, hderives⟩ := hv.derives
    cases items with
    | nil =>
      refine ⟨ts, [e], ⟨m, hm, .item hderives⟩, fun vars => ?_, fun rest => ?_⟩
      · simp [evaluateAll, hv.evaluates vars, bind, Except.bind, pure, Except.pure]
      · exact hv.lexes _ (delimited_close rest)
    | cons w items =>
      obtain ⟨us, es, ⟨m', hm', hderives'⟩, hevaluates, hlexes⟩ := ih (by simp) h
      refine ⟨ts ++ .comma :: us, e :: es, ⟨max m m', by omega, .items hderives hderives'⟩,
        fun vars => ?_, fun rest => ?_⟩
      · rw [evaluateAll]
        simp [hv.evaluates vars, hevaluates vars, bind, Except.bind, pure, Except.pure]
      · rw [Json.itemChars, List.append_assoc]
        exact (hv.lexes _ (hcomma _)).append ((SymbolToken.comma.lexes _).append (hlexes rest))

/-- An array reads back if its items do. -/
theorem readsBack_array {n : Nat} {items : List Value}
    (h : ∀ v ∈ items, ∃ ts e, ReadsBack n v ts e) :
    ∃ ts e, ReadsBack (n + 1) (.array items) ts e := by
  cases items with
  | nil =>
    refine ⟨[.openBracket, .closeBracket], .array [], ?_, ⟨1, by omega, .of_atom .emptyArray⟩, ?_⟩
    · intro rest _
      exact (SymbolToken.openBracket.lexes _).append (SymbolToken.closeBracket.lexes rest)
    · intro vars
      simp [evaluate, evaluateAll, bind, Except.bind, pure, Except.pure]
  | cons v items =>
    obtain ⟨ts, es, ⟨m, hm, hderives⟩, hevaluates, hlexes⟩ := exists_items (by simp) h
    refine ⟨.openBracket :: ts ++ [.closeBracket], .array es, ?_,
      ⟨m + 1, by omega, .of_atom (.array hderives)⟩, ?_⟩
    · intro rest _
      rw [Json.compactChars, List.append_assoc, List.cons_append]
      exact (((SymbolToken.openBracket.lexes _).append (hlexes rest)).append
        (SymbolToken.closeBracket.lexes rest))
    · intro vars
      simp [evaluate, hevaluates vars, bind, Except.bind, pure, Except.pure]

/-- **Every plain value reads back** if its strings can be written. -/
theorem Plain.readsBack {n : Nat} {v : Value} (h : Plain n v)
    (hwritable : ∀ s, v.Holds s → Writable s) : ∃ ts e, ReadsBack n v ts e := by
  induction h with
  | null => exact ⟨_, _, readsBack_null⟩
  | bool b => exact ⟨_, _, readsBack_bool b⟩
  | string s => exact ⟨_, _, readsBack_string (hwritable s (.string s))⟩
  | integer i h hlow =>
    rcases Int.lt_or_le i 0 with hneg | hpos
    · obtain ⟨k, rfl⟩ : ∃ k : Nat, i = -k := ⟨i.natAbs, by omega⟩
      exact ⟨_, _, readsBack_neg (by omega) (by omega) h (by omega)⟩
    · obtain ⟨k, rfl⟩ := Int.eq_ofNat_of_zero_le hpos
      exact ⟨_, _, readsBack_natCast h⟩
  | array _ ih =>
    exact readsBack_array fun v hv => ih v hv fun s hs => hwritable s (.item hv hs)

/-- **The text of a plain value is a condition** with this value. -/
theorem Plain.parse_compact {v : Value} (h : Plain 62 v)
    (hwritable : ∀ s, v.Holds s → Writable s) :
    ∃ e, parse (Json.compact v) = .ok e ∧ ∀ vars, evaluate vars e = .ok v := by
  obtain ⟨ts, e, hreads⟩ := h.readsBack hwritable
  have hlexes := hreads.lexes [] (by simp [Delimited])
  rw [List.append_nil] at hlexes
  obtain ⟨ls, hls, rfl⟩ := hlexes.lexemes
  exact ⟨e, parse_eq_ok.2 ⟨ls, hls, ofLexemes_eq_ok_iff.2 hreads.derives⟩, hreads.evaluates⟩

end Condition

end PromptTemplate
