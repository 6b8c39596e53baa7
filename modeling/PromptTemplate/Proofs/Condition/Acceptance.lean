import Mathlib.Data.List.TakeWhile
import PromptTemplate.Proofs.Condition.Completeness
/-!
# PromptTemplate — what the parser accepts

A row of lexemes is accepted exactly if it derives from the grammar without
nesting more than 64 deep, and the expression is the one that the
derivation denotes (`ofLexemes_eq_ok_iff`). Since every level of the parser
finds one expression at most, the grammar has one for every row at every
depth (`Derives.unique`).

Two forms are never accepted. A call would need an opening parenthesis
behind an operand, which no derivation has. An assignment would need an
equals sign of its own, and the only tokens written with one are
comparisons and strings (`equals_of_next`).
-/

namespace PromptTemplate

namespace Condition

/-- **The parser accepts what the grammar derives.** -/
theorem ofLexemes_eq_ok_iff {ls : List Lexeme} {e : Expr} :
    ofLexemes ls = .ok e ↔ ∃ n ≤ 64, Derives .disjunction n (tokens ls) e := by
  unfold ofLexemes
  constructor
  · intro h
    split at h
    · cases h
    · split at h
      · cases h
      · rename_i hread
        cases h
        obtain ⟨us, n, hus, hn, hd⟩ := (level_sound maxDepth).1 hread
        rw [List.append_nil] at hus
        exact ⟨n, hn, hus ▸ hd⟩
      · cases h
  · rintro ⟨n, hn, hd⟩
    have hne : ls ≠ [] := by
      rintro rfl
      exact hd.ne_nil rfl
    have hread : (level maxDepth).disjunction (ls ++ []) = .ok (e, []) :=
      hd.completes maxDepth ls [] hn rfl (stops_nil _)
    rw [List.append_nil] at hread
    rw [if_neg (by simpa using hne), hread]

/-- **The grammar is unambiguous,** at any depth: a level deep enough for
two derivations reads both of them. -/
theorem Derives.unique {n m : Nat} {ts : List Token} {e f : Expr}
    (he : Derives .disjunction n ts e) (hf : Derives .disjunction m ts f) : e = f := by
  -- any row with these tokens will do, whatever its lexemes say besides
  let ls : List Lexeme := ts.map fun t => ⟨t, [], 0⟩
  have hls : tokens ls = ts := by simp [ls, tokens, Function.comp_def]
  have hreade : (level (max n m)).disjunction (ls ++ []) = .ok (e, []) :=
    he.completes _ ls [] (by omega) hls (stops_nil _)
  have hreadf : (level (max n m)).disjunction (ls ++ []) = .ok (f, []) :=
    hf.completes _ ls [] (by omega) hls (stops_nil _)
  rw [hreade] at hreadf
  cases hreadf
  rfl

/-! ## Equals signs -/

/-- The characters of numbers. -/
def isNumberChar (c : Char) : Bool := c.isDigit || ['.', 'e', 'E', '+', '-'].contains c

theorem isNumberChar_of_mem_takeWhile {c : Char} {cs : List Char}
    (h : c ∈ cs.takeWhile Char.isDigit) : isNumberChar c = true := by
  have hdigit : c.isDigit = true := List.mem_takeWhile_imp h
  simp [isNumberChar, hdigit]

theorem isNumberChar_of_mem_splitFraction {c : Char} {cs : List Char}
    (h : c ∈ (splitFraction cs).1) : isNumberChar c = true := by
  unfold splitFraction at h
  split at h
  · split at h
    · rcases List.mem_cons.1 h with rfl | h
      · rfl
      · exact isNumberChar_of_mem_takeWhile h
    · cases h
  · cases h

theorem isNumberChar_of_mem_splitSign {c : Char} {cs : List Char}
    (h : c ∈ (splitSign cs).1) : isNumberChar c = true := by
  unfold splitSign at h
  split at h
  · rw [List.mem_singleton.1 h]
    rfl
  · rw [List.mem_singleton.1 h]
    rfl
  · cases h

theorem isNumberChar_of_mem_splitExponent {c : Char} {cs : List Char}
    (h : c ∈ (splitExponent cs).1) : isNumberChar c = true := by
  unfold splitExponent at h
  split at h
  · split at h
    · rename_i he
      rcases List.mem_append.1 h with h | h
      · rcases List.mem_cons.1 h with rfl | h
        · rcases he with rfl | rfl <;> rfl
        · exact isNumberChar_of_mem_splitSign h
      · exact isNumberChar_of_mem_takeWhile h
    · cases h
  · cases h

/-- A number is written with nothing but the characters of numbers. -/
theorem isNumberChar_of_mem_splitNumber {c : Char} {cs : List Char}
    (h : c ∈ (splitNumber cs).1) : isNumberChar c = true := by
  rcases List.mem_append.1 h with h | h
  · rcases List.mem_append.1 h with h | h
    · exact isNumberChar_of_mem_takeWhile h
    · exact isNumberChar_of_mem_splitFraction h
  · exact isNumberChar_of_mem_splitExponent h

/-- A symbol written with an equals sign compares. -/
theorem equals_of_symbol {position : Nat} {cs : List Char} {t : Taken}
    (h : symbol position cs = .ok t) (heq : '=' ∈ t.source) : ∃ op, CompareTokens [t.token] op := by
  unfold symbol at h
  -- four symbols have an equals sign, and they compare
  split at h <;> cases h <;> first
    | exact ⟨_, .equal⟩
    | exact ⟨_, .notEqual⟩
    | exact ⟨_, .lessOrEqual⟩
    | exact ⟨_, .greaterOrEqual⟩
    | simp at heq

/-- **An equals sign stands in a string or in a comparison.** -/
theorem equals_of_next {position : Nat} {cs : List Char} {t : Taken}
    (h : next position cs = .ok t) (heq : '=' ∈ t.source) :
    (∃ s, t.token = .text s) ∨ ∃ op, CompareTokens [t.token] op := by
  unfold next at h
  split at h
  · cases h
  · split at h
    · dsimp only at h
      split at h
      · cases h
        have hnumber := isNumberChar_of_mem_splitNumber heq
        exact absurd hnumber (by decide)
      · cases h
    · split at h
      · obtain ⟨b, -, rfl⟩ := Outcome.map_eq_ok.1 h
        exact .inl ⟨_, rfl⟩
      · split at h
        · rename_i hstart
          cases h
          rcases List.mem_cons.1 heq with rfl | hmem
          · exact absurd hstart (by decide)
          · have hpart : isNamePart '=' = true := List.mem_takeWhile_imp hmem
            exact absurd hpart (by decide)
        · exact .inr (equals_of_symbol h heq)

/-- Every lexeme of a text has been taken off its front at some point. -/
theorem next_of_mem_lexemesFrom {position : Nat} {cs : List Char} {ls : List Lexeme} {l : Lexeme}
    (h : lexemesFrom position cs = .ok ls) (hl : l ∈ ls) :
    ∃ cs' t, next l.offset cs' = .ok t ∧ l.token = t.token ∧ l.source = t.source := by
  fun_induction lexemesFrom position cs generalizing ls with
  | case1 =>
    cases h
    cases hl
  | case2 _ _ _ _ ih => exact ih h hl
  | case3 => cases h
  | case4 position c r _ t hnext ih =>
    obtain ⟨rest, hrest, rfl⟩ := Outcome.map_eq_ok.1 h
    rcases List.mem_cons.1 hl with rfl | hl
    · exact ⟨_, t, hnext, rfl, rfl⟩
    · exact ih hrest hl

/-! ## What is accepted -/

/-- **The parser accepts exactly its grammar.** A row of lexemes stands for
an expression if and only if it derives it from the grammar without nesting
more than 64 deep. No row derives two expressions, no accepted row has an
opening parenthesis behind an operand, and in no text that splits into
lexemes does an equals sign stand outside strings and comparisons. -/
theorem parser_accepts_grammar (ls : List Lexeme) :
    (∀ e, ofLexemes ls = .ok e ↔ ∃ n ≤ 64, Derives .disjunction n (tokens ls) e) ∧
    (∀ n m e f, Derives .disjunction n (tokens ls) e → Derives .disjunction m (tokens ls) f →
      e = f) ∧
    (∀ e, ofLexemes ls = .ok e → (tokens ls).IsChain NoCall) ∧
    (∀ source, lexemes source = .ok ls → ∀ l ∈ ls, '=' ∈ l.source →
      (∃ s, l.token = .text s) ∨ ∃ op, CompareTokens [l.token] op) := by
  refine ⟨fun e => ofLexemes_eq_ok_iff, fun n m e f => Derives.unique, fun e h => ?_,
    fun source h l hl heq => ?_⟩
  · obtain ⟨n, -, hd⟩ := ofLexemes_eq_ok_iff.1 h
    exact hd.no_call
  · obtain ⟨cs, t, hnext, htoken, hsource⟩ := next_of_mem_lexemesFrom h hl
    rw [hsource] at heq
    rw [htoken]
    exact equals_of_next hnext heq

end Condition

end PromptTemplate
