import PromptTemplate.Proofs.Condition.Interchange
import PromptTemplate.Proofs.Number.Digits
/-!
# PromptTemplate — reading tokens off a text

`Lexes cs ts rest` says that a text begins with tokens wherever it stands,
and that what is left is read on its own. Statements of this form put texts
together that are written part by part: words, digits, symbols and strings
are taken off in front of whatever cannot go on with them (`EndsRun`), and
`Lexes.append` joins them.
-/

namespace PromptTemplate

namespace Condition

/-- A text begins with tokens, wherever it stands, and the rest of it is
read on its own. -/
def Lexes (cs : List Char) (ts : List Token) (rest : List Char) : Prop :=
  ∀ position, ∃ ls position', tokens ls = ts ∧
    lexemesFrom position cs = (lexemesFrom position' rest).map (ls ++ ·)

variable {a b c rest : List Char} {ts us : List Token}

/-- Tokens of the rest follow those in front. -/
theorem Lexes.append (h : Lexes a ts b) (h' : Lexes b us c) : Lexes a (ts ++ us) c := by
  intro position
  obtain ⟨ls, position', rfl, hls⟩ := h position
  obtain ⟨ms, position'', rfl, hms⟩ := h' position'
  refine ⟨ls ++ ms, position'', by simp [tokens], ?_⟩
  rw [hls, hms]
  cases lexemesFrom position'' c <;> simp [Except.map]

/-- A text without tokens is all rest. -/
theorem Lexes.refl (rest : List Char) : Lexes rest [] rest := by
  intro position
  refine ⟨[], position, rfl, ?_⟩
  cases lexemesFrom position rest <;> rfl

/-- A token that is taken off wherever the text stands. -/
theorem lexes_of_next {x : Char} {r : List Char} {t : Token} (hblank : ¬ Text.isBlank x = true)
    (h : ∀ position, ∃ source, next position (x :: r) = .ok ⟨t, source, rest⟩) :
    Lexes (x :: r) [t] rest := by
  intro position
  obtain ⟨source, hnext⟩ := h position
  refine ⟨[⟨t, source, position⟩], position + Text.byteLength source, rfl, ?_⟩
  rw [Alike.lexemesFrom_of_next hblank hnext]
  rfl

/-- A text that is all tokens splits into them. -/
theorem Lexes.lexemes (h : Lexes a ts []) :
    ∃ ls, lexemes (String.ofList a) = .ok ls ∧ tokens ls = ts := by
  obtain ⟨ls, position', hts, hls⟩ := h 0
  refine ⟨ls, ?_, hts⟩
  rw [Condition.lexemes, String.toList_ofList, hls, lexemesFrom]
  simp [Except.map]

/-! ## Runs of characters -/

/-- The codes of letters, -/
theorem toNat_of_isAlpha {x : Char} (h : x.isAlpha = true) : 0x41 ≤ x.toNat ∧ x.toNat ≤ 0x7a := by
  have hcode : x.toNat = x.val.toNat := rfl
  delta Char.isAlpha Char.isUpper Char.isLower at h
  simp only [Bool.or_eq_true, Bool.and_eq_true, decide_eq_true_eq, UInt32.le_iff_toNat_le,
    ge_iff_le, Char.reduceVal, UInt32.reduceToNat] at h
  omega

/-- of digits -/
theorem toNat_of_isDigit {x : Char} (h : x.isDigit = true) : 0x30 ≤ x.toNat ∧ x.toNat ≤ 0x39 := by
  have hcode : x.toNat = x.val.toNat := rfl
  delta Char.isDigit at h
  simp only [Bool.and_eq_true, decide_eq_true_eq, UInt32.le_iff_toNat_le, ge_iff_le,
    Char.reduceVal, UInt32.reduceToNat] at h
  omega

/-- and of the characters of names, -/
theorem toNat_of_isNamePart {x : Char} (h : isNamePart x = true) :
    x.toNat = 0x24 ∨ (0x30 ≤ x.toNat ∧ x.toNat ≤ 0x39) ∨ 0x41 ≤ x.toNat ∧ x.toNat ≤ 0x7a := by
  simp only [isNamePart, Char.isAlphanum, Bool.or_eq_true, beq_iff_eq] at h
  rcases h with ((halpha | hdigit) | rfl) | rfl
  · exact .inr (.inr (toNat_of_isAlpha halpha))
  · exact .inr (.inl (toNat_of_isDigit hdigit))
  · decide
  · decide

/-- which are no blanks. -/
theorem not_isBlank_of_isNamePart {x : Char} (h : isNamePart x = true) :
    ¬ Text.isBlank x = true := by
  have hcode := toNat_of_isNamePart h
  simp only [Text.isBlank, Bool.or_eq_true, Bool.and_eq_true, decide_eq_true_eq, beq_iff_eq]
  omega

/-- What begins a name may also go on with one. -/
theorem isNamePart_of_isNameStart {x : Char} (h : isNameStart x = true) : isNamePart x = true := by
  simp only [isNameStart, isNamePart, Char.isAlphanum, Bool.or_eq_true] at h ⊢
  exact h.imp_left fun h => h.imp_left .inl

/-- A digit may go on with a name, -/
theorem isNamePart_of_isDigit {x : Char} (h : x.isDigit = true) : isNamePart x = true := by
  simp [isNamePart, Char.isAlphanum, h]

/-- but does not begin one. -/
theorem not_isDigit_of_isNameStart {x : Char} (h : isNameStart x = true) : ¬ x.isDigit = true := by
  intro hdigit
  have hcode := toNat_of_isDigit hdigit
  simp only [isNameStart, Bool.or_eq_true, beq_iff_eq] at h
  rcases h with (halpha | rfl) | rfl
  · have hletter := toNat_of_isAlpha halpha
    omega
  · exact absurd hdigit (by decide)
  · exact absurd hdigit (by decide)

/-! ## Words, digits, symbols and strings -/

/-- A word is taken off up to what does not go on with it. -/
theorem lexes_word {x : Char} {r : List Char} (hx : isNameStart x = true)
    (hr : ∀ y ∈ r, isNamePart y = true) (hrest : EndsRun isNamePart rest) :
    Lexes (x :: r ++ rest) [.ofWord (String.ofList (x :: r))] rest := by
  have hspan := span_of_endsRun hrest hr
  have hquote : ¬ (x = '"' ∨ x = '\'') := by
    rintro (rfl | rfl) <;> exact absurd hx (by decide)
  rw [List.cons_append]
  refine lexes_of_next (not_isBlank_of_isNamePart (isNamePart_of_isNameStart hx))
    fun position => ⟨x :: r, ?_⟩
  unfold next
  simp only [if_neg (not_isDigit_of_isNameStart hx), if_neg hquote, if_pos hx, hspan]

/-- What follows a value in JSON: nothing, the next item or the end of an
array. -/
def Delimited (rest : List Char) : Prop := ∀ x ∈ rest.head?, x = ',' ∨ x = ']'

/-- Nothing goes on with what follows a value, -/
theorem Delimited.endsRun {test : Char → Bool} (h : Delimited rest) (hcomma : test ',' = false)
    (hclose : test ']' = false) : EndsRun test rest := by
  intro x hx
  rcases h x hx with rfl | rfl
  · exact hcomma
  · exact hclose

/-- and the end of an array is such a rest. -/
theorem delimited_close (rest : List Char) : Delimited (']' :: rest) := by
  simp [Delimited]

/-- The digits of a number of 64 bits are taken off as this number. -/
theorem lexes_digits {n : Nat} (h : -(1 <<< 63) ≤ (n : Int) ∧ (n : Int) < 1 <<< 64)
    (hrest : Delimited rest) :
    Lexes (Double.digitText n ++ rest) [.number (.integer n h)] rest := by
  have hdigits : ∀ x ∈ Double.digitText n, x.isDigit = true :=
    fun x => Number.isDigit_of_mem_digitText
  obtain ⟨htake, hdrop⟩ := span_of_endsRun (hrest.endsRun (by decide) (by decide)) hdigits
  have hsplit : splitNumber (Double.digitText n ++ rest) = (Double.digitText n, rest) := by
    have hfraction : splitFraction rest = ([], rest) := by
      refine splitFraction_of_none fun d r hd => ?_
      rcases hrest '.' (by simp [hd]) with h | h <;> cases h
    have hexponent : splitExponent rest = ([], rest) := by
      refine splitExponent_of_none (fun r hr => ?_) fun r hr => ?_
      · rcases hrest 'e' (by simp [hr]) with h | h <;> cases h
      · rcases hrest 'E' (by simp [hr]) with h | h <;> cases h
    rw [splitNumber, htake, hdrop, hfraction]
    simp only [hexponent, List.append_nil]
  obtain ⟨x, r, hxr⟩ := List.exists_cons_of_ne_nil (@Number.digitText_ne_nil n)
  have hx : x.isDigit = true := hdigits x (by simp [hxr])
  have hblank : ¬ Text.isBlank x = true := not_isBlank_of_isNamePart (isNamePart_of_isDigit hx)
  rw [hxr, List.cons_append] at hsplit ⊢
  refine lexes_of_next hblank fun position => ⟨x :: r, ?_⟩
  unfold next
  simp only [if_pos hx, hsplit, ← hxr, Number.parse?_digitText h]

/-- Symbols of one character that no longer one begins with, and the tokens
they are. -/
inductive SymbolToken : Char → Token → Prop
  | openBracket : SymbolToken '[' .openBracket
  | closeBracket : SymbolToken ']' .closeBracket
  | comma : SymbolToken ',' .comma
  | minus : SymbolToken '-' .minus
  | dot : SymbolToken '.' .dot

/-- A symbol is taken off in front of whatever follows it. -/
theorem SymbolToken.lexes {x : Char} {t : Token} (h : SymbolToken x t) (rest : List Char) :
    Lexes (x :: rest) [t] rest := by
  cases h <;> exact lexes_of_next (by decide) fun _ => ⟨_, rfl⟩

/-- A string without its own quote and without backslashes stands for
itself, up to the closing quote. -/
theorem stringBody_verbatim {quote : Char} (h : ∀ x ∈ a, x ≠ quote ∧ x ≠ '\\')
    (start position : Nat) :
    ∃ source, stringBody quote start position (a ++ quote :: rest) = .ok ⟨a, source, rest⟩ := by
  induction a generalizing position with
  | nil => exact ⟨_, stringBody_of_quote start position⟩
  | cons x a ih =>
    rw [List.forall_mem_cons] at h
    obtain ⟨⟨hquote, hbackslash⟩, ha⟩ := h
    obtain ⟨source, hsource⟩ := ih ha (position + x.utf8Size)
    rw [List.cons_append, stringBody_of_char start position hquote hbackslash, hsource]
    exact ⟨_, rfl⟩

/-- So it is taken off as the text that stands between its quotes. -/
theorem lexes_verbatim (q : Quote) (h : ∀ x ∈ a, x ≠ q.char ∧ x ≠ '\\') (rest : List Char) :
    Lexes (q.char :: (a ++ q.char :: rest)) [.text (String.ofList a)] rest := by
  refine lexes_of_next (not_isBlank_quote q) fun position => ?_
  obtain ⟨source, hsource⟩ := @stringBody_verbatim a rest q.char h position (position + 1)
  rw [next_of_quote, hsource]
  exact ⟨q.char :: source, rfl⟩

end Condition

end PromptTemplate
