import Mathlib.Data.List.TakeWhile
import PromptTemplate.Proofs.Condition.Place
/-!
# PromptTemplate — what a token sees of the text behind it

The longest token is taken off a text, so what follows it decides where it
ends. But it decides little: only the characters that a number, a name or a
symbol can go on with matter (`isJoining`), and only as far as they stand in
a row. `Resumes` compares two texts by these. A token that has been taken
off in front of one text is taken off in front of any text that resumes it,
as the same token and with the same characters: `next_again`. The end of a
text and a blank resume everything.
-/

namespace PromptTemplate

namespace Condition

variable {rest new old : List Char}

/-! ## Runs of characters -/

/-- A text does not go on with a run of characters that pass a test. -/
def EndsRun (test : Char → Bool) (rest : List Char) : Prop := ∀ x ∈ rest.head?, test x = false

/-- A run of characters goes up to what does not go on with it. -/
theorem span_of_endsRun {a : List Char} {test : Char → Bool} (hrest : EndsRun test rest)
    (ha : ∀ x ∈ a, test x = true) :
    (a ++ rest).takeWhile test = a ∧ (a ++ rest).dropWhile test = rest := by
  rw [List.takeWhile_append_of_pos ha, List.dropWhile_append_of_pos ha]
  cases rest with
  | nil => simp
  | cons x rest =>
    have hx : test x = false := hrest x rfl
    simp [hx]

/-! ## Texts that resume others -/

/-- The characters that a number, a name or a symbol can go on with. -/
def isJoining (c : Char) : Bool := isNamePart c || c == '.' || c == '+' || c == '-' || c == '='

/-- **A text resumes another one:** what tokens can go on with in front of it
stands in front of the other one, too. -/
def Resumes (new old : List Char) : Prop := new.takeWhile isJoining <+: old

namespace Resumes

theorem refl (old : List Char) : Resumes old old := List.takeWhile_prefix isJoining

/-- The end of a text resumes everything, -/
theorem nil (old : List Char) : Resumes [] old := List.nil_prefix

/-- and so does what begins with a character that no token goes on with. -/
theorem of_not_isJoining {c : Char} (hc : isJoining c = false) (new old : List Char) :
    Resumes (c :: new) old := by
  rw [Resumes, List.takeWhile_cons_of_neg (by simp [hc])]
  exact List.nil_prefix

/-- The same characters may stand in front of both texts. -/
theorem append_left (h : Resumes new old) (cs : List Char) : Resumes (cs ++ new) (cs ++ old) := by
  induction cs with
  | nil => exact h
  | cons c cs ih =>
    by_cases hc : isJoining c = true
    · rw [Resumes, List.cons_append, List.cons_append, List.takeWhile_cons_of_pos hc]
      exact List.cons_prefix_cons.2 ⟨rfl, ih⟩
    · exact of_not_isJoining (by simpa using hc) _ _

/-- What tokens can go on with stands in front of both texts. -/
theorem of_cons {c : Char} (h : Resumes (c :: new) old) (hc : isJoining c = true) :
    ∃ r, old = c :: r ∧ Resumes new r := by
  rw [Resumes, List.takeWhile_cons_of_pos hc] at h
  obtain ⟨r, rfl⟩ := h
  exact ⟨_, rfl, List.prefix_append _ r⟩

/-- What does not stand in front of the other text does not stand in front of
this one. -/
theorem ne_cons {c : Char} (h : Resumes new old) (hc : isJoining c = true)
    (hold : ∀ r, old ≠ c :: r) (r : List Char) : new ≠ c :: r := by
  rintro rfl
  obtain ⟨r', hr', -⟩ := h.of_cons hc
  exact hold r' hr'

end Resumes

/-- A run of characters that has been taken off is taken off again. -/
theorem span_again {test : Char → Bool} (htest : ∀ c, test c = true → isJoining c = true)
    {cs : List Char} (h : Resumes new (cs.dropWhile test)) :
    (cs.takeWhile test ++ new).takeWhile test = cs.takeWhile test ∧
      (cs.takeWhile test ++ new).dropWhile test = new := by
  refine span_of_endsRun (fun x hx => ?_) fun x hx => List.mem_takeWhile_imp hx
  obtain ⟨r, rfl⟩ := List.head?_eq_some_iff.1 hx
  refine Bool.eq_false_iff.2 fun hpass => ?_
  obtain ⟨r', hr', -⟩ := h.of_cons (htest x hpass)
  have hnot := List.head?_dropWhile_not test cs
  rw [hr'] at hnot
  exact absurd hpass (by simpa using hnot)

theorem isJoining_of_isNamePart {c : Char} (h : isNamePart c = true) : isJoining c = true := by
  simp [isJoining, h]

theorem isJoining_of_isDigit {c : Char} (h : c.isDigit = true) : isJoining c = true :=
  isJoining_of_isNamePart (by simp [isNamePart, Char.isAlphanum, h])

/-! ## Numbers -/

theorem splitFraction_of_digit {d : Char} (r : List Char) (hd : d.isDigit = true) :
    splitFraction ('.' :: d :: r) =
      ('.' :: (d :: r).takeWhile Char.isDigit, (d :: r).dropWhile Char.isDigit) := by
  rw [splitFraction, if_pos hd]

theorem splitFraction_of_none {cs : List Char}
    (h : ∀ d r, cs = '.' :: d :: r → d.isDigit ≠ true) : splitFraction cs = ([], cs) := by
  unfold splitFraction
  split
  · rw [if_neg (h _ _ rfl)]
  · rfl

theorem splitSign_of_none {cs : List Char} (hplus : ∀ r, cs ≠ '+' :: r)
    (hminus : ∀ r, cs ≠ '-' :: r) : splitSign cs = ([], cs) := by
  unfold splitSign
  split
  · exact absurd rfl (hplus _)
  · exact absurd rfl (hminus _)
  · rfl

theorem splitExponent_of_letter {e : Char} (r : List Char) (he : e = 'e' ∨ e = 'E') :
    splitExponent (e :: r) =
      (e :: (splitSign r).1 ++ (splitSign r).2.takeWhile Char.isDigit,
        (splitSign r).2.dropWhile Char.isDigit) := by
  rw [splitExponent, if_pos he]

theorem splitExponent_of_none {cs : List Char} (hsmall : ∀ r, cs ≠ 'e' :: r)
    (hcapital : ∀ r, cs ≠ 'E' :: r) : splitExponent cs = ([], cs) := by
  unfold splitExponent
  split
  · rename_i e r
    have he : ¬ (e = 'e' ∨ e = 'E') := by
      rintro (rfl | rfl)
      · exact hsmall r rfl
      · exact hcapital r rfl
    rw [if_neg he]
  · rfl

theorem splitFraction_again {cs : List Char} (h : Resumes new (splitFraction cs).2) :
    splitFraction ((splitFraction cs).1 ++ new) = ((splitFraction cs).1, new) := by
  by_cases hfraction : ∃ d r, cs = '.' :: d :: r ∧ d.isDigit = true
  · obtain ⟨d, r, rfl, hd⟩ := hfraction
    rw [splitFraction_of_digit r hd] at h ⊢
    obtain ⟨htake, hdrop⟩ := span_again @isJoining_of_isDigit h
    rw [List.takeWhile_cons_of_pos hd] at htake hdrop ⊢
    rw [List.cons_append, List.cons_append, splitFraction_of_digit _ hd, ← List.cons_append, htake,
      hdrop]
  · have hnone : splitFraction cs = ([], cs) :=
      splitFraction_of_none fun d r hcons hd => hfraction ⟨d, r, hcons, hd⟩
    rw [hnone] at h ⊢
    refine splitFraction_of_none ?_
    rintro d r rfl hd
    obtain ⟨r', rfl, hdigit⟩ := h.of_cons (by decide)
    obtain ⟨r'', rfl, -⟩ := hdigit.of_cons (isJoining_of_isDigit hd)
    exact hfraction ⟨d, r'', rfl, hd⟩

theorem splitSign_again {cs : List Char} (h : Resumes new (splitSign cs).2) :
    splitSign ((splitSign cs).1 ++ new) = ((splitSign cs).1, new) := by
  by_cases hplus : ∃ r, cs = '+' :: r
  · obtain ⟨r, rfl⟩ := hplus
    rfl
  by_cases hminus : ∃ r, cs = '-' :: r
  · obtain ⟨r, rfl⟩ := hminus
    rfl
  have hplus' : ∀ r, cs ≠ '+' :: r := fun r hr => hplus ⟨r, hr⟩
  have hminus' : ∀ r, cs ≠ '-' :: r := fun r hr => hminus ⟨r, hr⟩
  rw [splitSign_of_none hplus' hminus'] at h ⊢
  exact splitSign_of_none (h.ne_cons (by decide) hplus') (h.ne_cons (by decide) hminus')

theorem splitExponent_again {cs : List Char} (h : Resumes new (splitExponent cs).2) :
    splitExponent ((splitExponent cs).1 ++ new) = ((splitExponent cs).1, new) := by
  by_cases hletter : ∃ e r, cs = e :: r ∧ (e = 'e' ∨ e = 'E')
  · obtain ⟨e, r, rfl, he⟩ := hletter
    rw [splitExponent_of_letter r he] at h ⊢
    obtain ⟨htake, hdrop⟩ := span_again @isJoining_of_isDigit h
    -- behind the sign stand the digits, and then the new text
    have hsign : Resumes ((splitSign r).2.takeWhile Char.isDigit ++ new) (splitSign r).2 := by
      have happend := h.append_left ((splitSign r).2.takeWhile Char.isDigit)
      rwa [List.takeWhile_append_dropWhile] at happend
    rw [List.cons_append, List.cons_append, List.append_assoc, splitExponent_of_letter _ he,
      splitSign_again hsign, htake, hdrop, List.cons_append]
  · have hsmall : ∀ r, cs ≠ 'e' :: r := fun r hr => hletter ⟨'e', r, hr, .inl rfl⟩
    have hcapital : ∀ r, cs ≠ 'E' :: r := fun r hr => hletter ⟨'E', r, hr, .inr rfl⟩
    rw [splitExponent_of_none hsmall hcapital] at h ⊢
    exact splitExponent_of_none (h.ne_cons (by decide) hsmall) (h.ne_cons (by decide) hcapital)

/-- **A number is taken off again.** -/
theorem splitNumber_again {cs : List Char} (h : Resumes new (splitNumber cs).2) :
    splitNumber ((splitNumber cs).1 ++ new) = ((splitNumber cs).1, new) := by
  unfold splitNumber at h ⊢
  dsimp only at h ⊢
  have hexponent := splitExponent_again h
  have hfront := h.append_left (splitExponent (splitFraction (cs.dropWhile Char.isDigit)).2).1
  rw [splitExponent_eq] at hfront
  have hfraction := splitFraction_again hfront
  have hmiddle := hfront.append_left (splitFraction (cs.dropWhile Char.isDigit)).1
  rw [splitFraction_eq] at hmiddle
  obtain ⟨htake, hdrop⟩ := span_again @isJoining_of_isDigit hmiddle
  simp only [List.append_assoc, htake, hdrop, hfraction, hexponent]

/-! ## Symbols, strings and tokens -/

variable {position : Nat} {cs : List Char}

/-- A symbol is taken off again. -/
theorem symbol_again {t : Taken} (ht : symbol position cs = .ok t) (h : Resumes new t.rest)
    (position' : Nat) :
    symbol position' (t.source ++ new) = .ok ⟨t.token, t.source, new⟩ := by
  unfold symbol at ht
  split at ht
  -- where a longer symbol has been ruled out, it is ruled out again
  case h_2 | h_5 | h_8 | h_10 =>
    rename_i hne
    cases ht
    simp only [List.cons_append, List.nil_append]
    rw [symbol]
    exact h.ne_cons (by decide) hne
  case h_6 =>
    rename_i hne
    cases ht
    have hne' := h.ne_cons (by decide) hne
    rw [List.singleton_append, symbol]
    · exact fun r => hne' ('=' :: r)
    · exact hne'
  all_goals cases ht <;> rfl

/-- A string is taken off again, in front of any text: it ends at its quote. -/
theorem stringBody_again {quote : Char} {start : Nat} {b : StringBody} (hquote : quote ≠ '\\')
    (hb : stringBody quote start position cs = .ok b) (start' position' : Nat) (new : List Char) :
    stringBody quote start' position' (b.source ++ new) = .ok ⟨b.value, b.source, new⟩ := by
  -- the cases of the reading that fail are closed together
  fun_induction stringBody quote start position cs generalizing b position' with
  | case1 | case3 | case4 | case5 | case7 | case8 | case9 | case10 | case12 | case13 => cases hb
  | case2 position r =>
    cases hb
    exact stringBody_of_quote start' position'
  | case6 position h₁ h₂ h₃ h₄ unit hvalue hhigh l₁ l₂ l₃ l₄ r low hvalue' hlow _ ih =>
    obtain ⟨b', hb', rfl⟩ := Outcome.map_eq_ok.1 hb
    have hrest := ih hb' (position' + 12)
    simp only [StringBody.push, List.cons_append, List.nil_append]
    rw [stringBody_of_pair start' position' hquote hvalue hhigh hvalue' hlow, hrest]
    rfl
  | case11 position h₁ h₂ h₃ h₄ r unit hvalue hhigh hlow _ ih =>
    obtain ⟨b', hb', rfl⟩ := Outcome.map_eq_ok.1 hb
    have hrest := ih hb' (position' + 6)
    simp only [StringBody.push, List.cons_append, List.nil_append]
    rw [stringBody_of_unit start' position' hquote hvalue hhigh hlow, hrest]
    rfl
  | case14 position e r hu v hv _ ih =>
    obtain ⟨b', hb', rfl⟩ := Outcome.map_eq_ok.1 hb
    have hrest := ih hb' (position' + 2)
    simp only [StringBody.push, List.cons_append, List.nil_append]
    rw [stringBody_of_escape start' position' hquote hu hv, hrest]
    rfl
  | case15 position c r hc hbackslash ih =>
    obtain ⟨b', hb', rfl⟩ := Outcome.map_eq_ok.1 hb
    have hrest := ih hb' (position' + c.utf8Size)
    simp only [StringBody.push, List.cons_append, List.nil_append]
    rw [stringBody_of_char start' position' hc hbackslash, hrest]
    rfl

/-- **A token is taken off again,** in front of any text that resumes what
followed it. -/
theorem next_again {t : Taken} (ht : next position cs = .ok t) (h : Resumes new t.rest)
    (position' : Nat) :
    next position' (t.source ++ new) = .ok ⟨t.token, t.source, new⟩ := by
  cases cs with
  | nil => cases ht
  | cons c r =>
    unfold next at ht
    by_cases hdigit : c.isDigit = true
    · simp only [if_pos hdigit] at ht
      split at ht
      · rename_i n hn
        cases ht
        have hnumber := splitNumber_again h
        -- the number begins with the same digit
        obtain ⟨source, hsource⟩ : ∃ source, (splitNumber (c :: r)).1 = c :: source := by
          rw [splitNumber, List.takeWhile_cons_of_pos hdigit]
          exact ⟨_, rfl⟩
        simp only [hsource, List.cons_append] at hnumber hn ⊢
        rw [next, if_pos hdigit]
        simp only [hnumber, hn]
      · cases ht
    by_cases hquote : c = '"' ∨ c = '\''
    · simp only [if_neg hdigit, if_pos hquote] at ht
      obtain ⟨b, hb, rfl⟩ := Outcome.map_eq_ok.1 ht
      have hbackslash : c ≠ '\\' := by rcases hquote with rfl | rfl <;> decide
      simp only [List.cons_append]
      rw [next, if_neg hdigit, if_pos hquote, stringBody_again hbackslash hb]
      rfl
    by_cases hname : isNameStart c = true
    · simp only [if_neg hdigit, if_neg hquote, if_pos hname] at ht
      cases ht
      obtain ⟨htake, hdrop⟩ := span_again @isJoining_of_isNamePart h
      simp only [List.cons_append]
      rw [next, if_neg hdigit, if_neg hquote, if_pos hname, htake, hdrop]
    · simp only [if_neg hdigit, if_neg hquote, if_neg hname] at ht
      have hsymbol := symbol_again ht h position'
      obtain ⟨hfront, hne⟩ := symbol_eq ht
      obtain ⟨d, source, hsource⟩ := List.exists_cons_of_ne_nil hne
      rw [hsource] at hfront
      cases hfront
      rw [hsource, List.cons_append] at hsymbol ⊢
      rw [next, if_neg hdigit, if_neg hquote, if_neg hname]
      exact hsymbol

end Condition

end PromptTemplate
