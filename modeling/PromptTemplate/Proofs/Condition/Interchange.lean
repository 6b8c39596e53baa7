import PromptTemplate.Proofs.Condition.Lookahead
import PromptTemplate.Proofs.Condition.Shape
/-!
# PromptTemplate — literals can be exchanged

Texts that are alike outside of strings split into tokens of the same
shapes, or both do not split at all (`tokenShapes_eq_of_alike`). The proof
goes the way of the lexer: each of its parts takes the same front part off
both texts and leaves texts that are alike, and a reading from end to end
is an induction over what is left. Texts that are alike resume each other,
so numbers and symbols are just taken off again (`resumes`). It is enough to
show that the second text follows when the first one splits, as being alike
is symmetric.
-/

namespace PromptTemplate

namespace Condition

namespace Alike

variable {live : Prop} {a b : List Char}

/-! ## Fronts -/

/-- A plain character stands in front of both texts. -/
theorem of_cons {c : Char} (h : Alike live .outside (c :: a) b) (hc : isPlain c = true) :
    ∃ b', b = c :: b' ∧ Alike live .outside a b' := by
  obtain ⟨hnil, -⟩ | ⟨d, a', b', ha, rfl, hrest⟩ := h.front
  · cases hnil
  · cases ha
    exact ⟨b', rfl, hrest hc⟩

/-- A run of characters that pass a test stands in front of both texts. -/
theorem span {test : Char → Bool} (htest : ∀ c, test c = true → isPlain c = true)
    (h : Alike live .outside a b) :
    b.takeWhile test = a.takeWhile test ∧
      Alike live .outside (a.dropWhile test) (b.dropWhile test) := by
  induction a generalizing b with
  | nil =>
    obtain ⟨-, rfl, -⟩ | ⟨c, a', b', ha, -⟩ := h.front
    · exact ⟨rfl, h⟩
    · cases ha
  | cons c a ih =>
    obtain ⟨hnil, -⟩ | ⟨d, a', b', ha, rfl, hrest⟩ := h.front
    · cases hnil
    · cases ha
      by_cases hc : test c = true
      · obtain ⟨htake, hdrop⟩ := ih (hrest (htest c hc))
        rw [List.takeWhile_cons_of_pos hc, List.takeWhile_cons_of_pos hc, htake,
          List.dropWhile_cons_of_pos hc, List.dropWhile_cons_of_pos hc]
        exact ⟨rfl, hdrop⟩
      · rw [List.takeWhile_cons_of_neg hc, List.takeWhile_cons_of_neg hc,
          List.dropWhile_cons_of_neg hc, List.dropWhile_cons_of_neg hc]
        exact ⟨rfl, h⟩

/-- A test that fails for the quotes and the stop is passed by plain
characters only. -/
theorem isPlain_of_test {test : Char → Bool} (hdouble : test '"' = false)
    (hsingle : test '\'' = false) (hstop : test '#' = false) {c : Char} (hc : test c = true) :
    isPlain c = true := by
  refine isPlain_eq_true.2 ⟨?_, ?_, ?_⟩
  · rintro rfl
    rw [hdouble] at hc
    cases hc
  · rintro rfl
    rw [hsingle] at hc
    cases hc
  · rintro rfl
    rw [hstop] at hc
    cases hc

theorem isPlain_of_isNamePart {c : Char} : isNamePart c = true → isPlain c = true :=
  @isPlain_of_test isNamePart rfl rfl rfl c

theorem isPlain_of_isJoining {c : Char} : isJoining c = true → isPlain c = true :=
  @isPlain_of_test isJoining rfl rfl rfl c

theorem isPlain_of_isNumberChar {c : Char} : isNumberChar c = true → isPlain c = true :=
  @isPlain_of_test isNumberChar rfl rfl rfl c

theorem isPlain_of_isBlank {c : Char} : Text.isBlank c = true → isPlain c = true :=
  @isPlain_of_test Text.isBlank rfl rfl rfl c

/-- Plain characters in front of one text stand in front of both. -/
theorem of_append (cs : List Char) {r : List Char} (h : Alike live .outside (cs ++ r) b)
    (hcs : ∀ c ∈ cs, isPlain c = true) :
    ∃ r', b = cs ++ r' ∧ Alike live .outside r r' := by
  induction cs generalizing b with
  | nil => exact ⟨b, rfl, h⟩
  | cons c cs ih =>
    rw [List.forall_mem_cons] at hcs
    obtain ⟨b', rfl, hrest⟩ := h.of_cons hcs.1
    obtain ⟨r', rfl, hr⟩ := ih hrest hcs.2
    exact ⟨r', rfl, hr⟩

/-- **One text resumes the other.** -/
theorem resumes (h : Alike live .outside a b) : Resumes b a := by
  rw [Resumes, (h.span @isPlain_of_isJoining).1]
  exact List.takeWhile_prefix isJoining

/-! ## Numbers and symbols -/

/-- The same number stands in front of both texts. -/
theorem alike_splitNumber (h : Alike live .outside a b) :
    (splitNumber b).1 = (splitNumber a).1 ∧
      Alike live .outside (splitNumber a).2 (splitNumber b).2 := by
  have hplain : ∀ c ∈ (splitNumber a).1, isPlain c = true := fun c hc =>
    isPlain_of_isNumberChar (isNumberChar_of_mem_splitNumber hc)
  obtain ⟨b', rfl, hrest⟩ := of_append (splitNumber a).1 ((splitNumber_eq a).symm ▸ h) hplain
  rw [splitNumber_again hrest.resumes]
  exact ⟨rfl, hrest⟩

/-- A symbol is written with plain characters. -/
theorem isPlain_of_symbol {position : Nat} {t : Taken} (ht : symbol position a = .ok t) :
    ∀ c ∈ t.source, isPlain c = true := by
  unfold symbol at ht
  split at ht <;> cases ht <;> exact List.all_eq_true.1 rfl

/-- The same symbol stands in front of both texts. -/
theorem alike_symbol {position : Nat} {t : Taken} (h : Alike live .outside a b)
    (ht : symbol position a = .ok t) (position' : Nat) :
    ∃ r, symbol position' b = .ok ⟨t.token, t.source, r⟩ ∧ Alike live .outside t.rest r := by
  obtain ⟨b', rfl, hrest⟩ := of_append t.source ((symbol_eq ht).1 ▸ h) (isPlain_of_symbol ht)
  exact ⟨b', symbol_again ht hrest.resumes position', hrest⟩

/-! ## Strings -/

theorem value?_of_value4? {h₁ h₂ h₃ h₄ : Char} {n : Nat} (h : Hex.value4? h₁ h₂ h₃ h₄ = some n) :
    ∀ c ∈ [h₁, h₂, h₃, h₄], ∃ m, Hex.value? c = some m := by
  unfold Hex.value4? at h
  obtain ⟨a, ha, h⟩ := Option.bind_eq_some_iff.1 h
  obtain ⟨b, hb, h⟩ := Option.bind_eq_some_iff.1 h
  obtain ⟨c, hc, h⟩ := Option.bind_eq_some_iff.1 h
  obtain ⟨d, hd, h⟩ := Option.bind_eq_some_iff.1 h
  simp [ha, hb, hc, hd]

/-- A code of four digits stands in both texts. -/
theorem tail_of_code {q : Quote} {h₁ h₂ h₃ h₄ : Char} {n : Nat} {r : List Char}
    (h : Alike live (.inside q) ('\\' :: 'u' :: h₁ :: h₂ :: h₃ :: h₄ :: r) b)
    (hvalue : Hex.value4? h₁ h₂ h₃ h₄ = some n) :
    ∃ r', b = '\\' :: 'u' :: h₁ :: h₂ :: h₃ :: h₄ :: r' ∧ Alike live (.inside q) r r' := by
  obtain ⟨b₁, rfl, h₁⟩ := h.tail_of_inside
  rw [Place.after_inside_backslash] at h₁
  obtain ⟨b₂, rfl, h₂⟩ | ⟨s, t, a', b', -, hu, -⟩ := h₁.cases_of_escaped
  · obtain ⟨r', rfl, hr⟩ := h₂.tail_of_digits [_, _, _, _] (value?_of_value4? hvalue)
    exact ⟨r', rfl, hr⟩
  · cases hu

/-- **Strings end together,** whatever they say. -/
theorem alike_stringBody {q : Quote} {start position : Nat} {x : StringBody}
    (h : Alike live (.inside q) a b) (ha : stringBody q.char start position a = .ok x)
    (start' position' : Nat) :
    ∃ y, stringBody q.char start' position' b = .ok y ∧ Alike live .outside x.rest y.rest := by
  have hquote := quote_ne_backslash q
  generalize hchar : q.char = quote at ha hquote ⊢
  -- the cases of the reading that fail are closed together
  fun_induction stringBody quote start position a generalizing b x position' with
  | case1 | case3 | case4 | case5 | case7 | case8 | case9 | case10 | case12 | case13 => cases ha
  | case2 position r =>
    cases ha
    obtain ⟨b', rfl, hrest⟩ := h.tail_of_inside
    rw [← hchar, Place.after_inside_quote] at hrest
    exact ⟨_, stringBody_of_quote start' position', hrest⟩
  | case6 position h₁ h₂ h₃ h₄ unit hvalue hhigh l₁ l₂ l₃ l₄ r low hvalue' hlow _ ih =>
    obtain ⟨x', hx', rfl⟩ := Outcome.map_eq_ok.1 ha
    obtain ⟨b', rfl, hpair⟩ := h.tail_of_code hvalue
    obtain ⟨r', rfl, hr⟩ := hpair.tail_of_code hvalue'
    obtain ⟨y, hy, hrest⟩ := ih hr (position' + 12) hx'
    rw [stringBody_of_pair start' position' hquote hvalue hhigh hvalue' hlow, hy]
    exact ⟨_, rfl, hrest⟩
  | case11 position h₁ h₂ h₃ h₄ r unit hvalue hhigh hlow _ ih =>
    obtain ⟨x', hx', rfl⟩ := Outcome.map_eq_ok.1 ha
    obtain ⟨r', rfl, hr⟩ := h.tail_of_code hvalue
    obtain ⟨y, hy, hrest⟩ := ih hr (position' + 6) hx'
    rw [stringBody_of_unit start' position' hquote hvalue hhigh hlow, hy]
    exact ⟨_, rfl, hrest⟩
  | case14 position e r hu v hv _ ih =>
    obtain ⟨x', hx', rfl⟩ := Outcome.map_eq_ok.1 ha
    obtain ⟨b', rfl, hescaped⟩ := h.tail_of_inside
    rw [Place.after_inside_backslash] at hescaped
    obtain ⟨r', rfl, hr⟩ | ⟨s, t, a', r', rfl, rfl, hs, ht, rfl, rfl, hr⟩ :=
      hescaped.cases_of_escaped
    · obtain ⟨y, hy, hrest⟩ := ih hr (position' + 2) hx'
      rw [stringBody_of_escape start' position' hquote hu hv, hy]
      exact ⟨_, rfl, hrest⟩
    · -- the quote of the literals is escaped, and so are all in them: the
      -- string ends where they do
      obtain rfl : '"' = quote := hchar
      obtain ⟨source, hsource⟩ := stringBody_escape hs start (position + 2)
      obtain ⟨source', hsource'⟩ := stringBody_escape ht start' (position' + 2)
      rw [hsource] at hx'
      cases hx'
      rw [stringBody_of_escape start' position' hquote hu hv, hsource']
      exact ⟨_, rfl, hr⟩
  | case15 position c r hc hbackslash ih =>
    obtain ⟨x', hx', rfl⟩ := Outcome.map_eq_ok.1 ha
    obtain ⟨b', rfl, hr⟩ := h.tail_of_inside
    rw [Place.after_inside (hchar ▸ hc) hbackslash] at hr
    obtain ⟨y, hy, hrest⟩ := ih hr (position' + c.utf8Size) hx'
    rw [stringBody_of_char start' position' hc hbackslash, hy]
    exact ⟨_, rfl, hrest⟩

/-! ## Tokens -/

/-- A string is taken off both texts. -/
theorem alike_next_string {q : Quote} {position : Nat} {t : Taken} {r : List Char}
    (h : Alike live (.inside q) r b) (ht : next position (q.char :: r) = .ok t)
    (position' : Nat) :
    ∃ u, next position' (q.char :: b) = .ok u ∧ u.token.shape = t.token.shape ∧
      Alike live .outside t.rest u.rest := by
  rw [next_of_quote] at ht
  obtain ⟨x, hx, rfl⟩ := Outcome.map_eq_ok.1 ht
  obtain ⟨y, hy, hrest⟩ := h.alike_stringBody hx position' (position' + 1)
  rw [next_of_quote, hy]
  exact ⟨_, rfl, rfl, hrest⟩

/-- A literal is taken off as a string. -/
theorem next_quote {s : String} (hs : Writable s) (position : Nat) (a : List Char) :
    ∃ source, next position (Json.quote s ++ a) = .ok ⟨.text s, source, a⟩ := by
  obtain ⟨source, hsource⟩ := stringBody_escape hs position (position + 1)
  rw [quote_append, next, if_neg (by decide), if_pos (.inl rfl), hsource]
  exact ⟨'"' :: source, by simp [Except.map]⟩

/-- **Tokens of the same shape stand in front** of texts that are alike,
and what is left is alike. -/
theorem alike_next {position : Nat} {t : Taken} (h : Alike live .outside a b)
    (ht : next position a = .ok t) (position' : Nat) :
    ∃ u, next position' b = .ok u ∧ u.token.shape = t.token.shape ∧
      Alike live .outside t.rest u.rest := by
  cases h with
  | nil => cases ht
  | stop => cases ht
  | literal hs hr hab =>
    obtain ⟨source, hsource⟩ := next_quote hs position _
    obtain ⟨source', hsource'⟩ := next_quote hr position' _
    rw [hsource] at ht
    cases ht
    exact ⟨_, hsource', rfl, hab⟩
  | @char _ c a b hab =>
    by_cases hdouble : c = '"'
    · subst hdouble
      exact @alike_next_string _ _ .double _ _ _ hab ht position'
    by_cases hsingle : c = '\''
    · subst hsingle
      exact @alike_next_string _ _ .single _ _ _ hab ht position'
    have hquote : ¬ (c = '"' ∨ c = '\'') := by simp [hdouble, hsingle]
    have houtside : Alike live .outside (c :: a) (c :: b) := .char hab
    rw [Place.after_outside hdouble hsingle] at hab
    unfold next at ht ⊢
    by_cases hdigit : c.isDigit = true
    · obtain ⟨hsource, hrest⟩ := alike_splitNumber houtside
      simp only [if_pos hdigit] at ht ⊢
      rw [hsource]
      split at ht
      · rename_i n hn
        cases ht
        exact ⟨_, rfl, rfl, hrest⟩
      · cases ht
    by_cases hname : isNameStart c = true
    · obtain ⟨htake, hdrop⟩ := hab.span @isPlain_of_isNamePart
      simp only [if_neg hdigit, if_neg hquote, if_pos hname] at ht ⊢
      cases ht
      rw [htake]
      exact ⟨_, rfl, rfl, hdrop⟩
    · simp only [if_neg hdigit, if_neg hquote, if_neg hname] at ht ⊢
      obtain ⟨r, hr, hrest⟩ := houtside.alike_symbol ht position'
      exact ⟨_, hr, rfl, hrest⟩

/-! ## Texts -/

theorem lexemesFrom_of_blank {c : Char} {r : List Char} (position : Nat)
    (h : Text.isBlank c = true) :
    lexemesFrom position (c :: r) = lexemesFrom (position + c.utf8Size) r := by
  rw [lexemesFrom, if_pos h]

/-- A text splits into tokens if its first token is taken off and the rest
splits, -/
theorem lexemesFrom_of_next {c : Char} {r : List Char} {position : Nat} {t : Taken}
    (hblank : ¬ Text.isBlank c = true) (h : next position (c :: r) = .ok t) :
    lexemesFrom position (c :: r) =
      (lexemesFrom (position + Text.byteLength t.source) t.rest).map
        (⟨t.token, t.source, position⟩ :: ·) := by
  rw [lexemesFrom, if_neg hblank]
  split
  · rename_i e he
    rw [h] at he
    cases he
  · rename_i u hu
    rw [h] at hu
    cases hu
    rfl

/-- and it does not if no token is taken off. -/
theorem lexemesFrom_of_error {c : Char} {r : List Char} {position : Nat} {e : LexFailure}
    (hblank : ¬ Text.isBlank c = true) (h : next position (c :: r) = .error e) :
    lexemesFrom position (c :: r) = .error e := by
  rw [lexemesFrom, if_neg hblank]
  split
  · rename_i e' he
    rw [h] at he
    cases he
    rfl
  · rename_i t ht
    rw [h] at ht
    cases ht

/-- **If one text splits into tokens then it is live, and the other one
splits into tokens of the same shapes.** -/
theorem alike_lexemesFrom {position : Nat} {ts : List Lexeme} (h : Alike live .outside a b)
    (hts : lexemesFrom position a = .ok ts) (position' : Nat) :
    live ∧ ∃ us, lexemesFrom position' b = .ok us ∧
      (tokens us).map Token.shape = (tokens ts).map Token.shape := by
  fun_induction lexemesFrom position a generalizing b ts position' with
  | case1 =>
    cases hts
    obtain ⟨-, rfl, hlive⟩ | ⟨c, a', b', hnil, -⟩ := h.front
    · exact ⟨hlive, [], by rw [lexemesFrom], rfl⟩
    · cases hnil
  | case2 position c r hblank ih =>
    obtain ⟨b', rfl, hrest⟩ := h.of_cons (isPlain_of_isBlank hblank)
    rw [lexemesFrom_of_blank position' hblank]
    exact ih hrest hts (position' + c.utf8Size)
  | case3 => cases hts
  | case4 position c r hblank t hnext ih =>
    obtain ⟨ts', hts', rfl⟩ := Outcome.map_eq_ok.1 hts
    obtain ⟨u, hu, hshape, hrest⟩ := h.alike_next hnext position'
    -- the same character stands in front, so that the other text does not
    -- begin with a blank
    obtain ⟨hnil, -⟩ | ⟨d, a', b', hcons, rfl, -⟩ := h.front
    · cases hnil
    · cases hcons
      obtain ⟨hlive, us, hus, hshapes⟩ :=
        ih hrest hts' (position' + Text.byteLength u.source)
      refine ⟨hlive, ⟨u.token, u.source, position'⟩ :: us, ?_, ?_⟩
      · rw [lexemesFrom_of_next hblank hu, hus]
        rfl
      · simp only [tokens, List.map_cons, hshape, List.cons.injEq, true_and]
        exact hshapes

end Alike

/-- **Texts that are alike have the same tokens,** strings apart, or none
of them splits into tokens. -/
theorem tokenShapes_eq_of_alike {t u : String} (h : Alike True .outside t.toList u.toList) :
    tokenShapes t = tokenShapes u := by
  -- one direction is enough, as being alike is symmetric
  have hforward : ∀ {t u : String}, Alike True .outside t.toList u.toList →
      ∀ {x}, tokenShapes t = some x → tokenShapes u = some x := by
    intro t u halike x hx
    obtain ⟨ts, hts, rfl⟩ := Option.map_eq_some_iff.1 hx
    obtain ⟨-, us, hus, hshapes⟩ :=
      halike.alike_lexemesFrom (Outcome.toOption_eq_some.1 hts) 0
    rw [tokenShapes, lexemes, hus, ← hshapes]
    rfl
  refine Option.ext fun x => ?_
  constructor
  · exact hforward h
  · exact hforward h.symm

/-- A text that stops outside of strings does not split into tokens. -/
theorem tokenShapes_eq_none_of_stop {t : String} (h : Alike False .outside t.toList t.toList) :
    tokenShapes t = none := by
  cases hx : tokenShapes t with
  | none => rfl
  | some x =>
    obtain ⟨ts, hts, -⟩ := Option.map_eq_some_iff.1 hx
    exact (h.alike_lexemesFrom (Outcome.toOption_eq_some.1 hts) 0).1.elim

end Condition

end PromptTemplate
