import PromptTemplate.Interpolation.Render
import PromptTemplate.Condition.Lexer
/-!
# PromptTemplate — where a reading of a condition stands

A condition is read outside strings, inside a string, or inside a string
behind a backslash. `Place.after` says how a character moves the reading
from one to the other; it is all that matters about a text for what may be
put into it.

`Alike live p a b` relates two texts that go on from the same place `p`:
character by character they are the same, except that where one has the
literal of a string the other may have the literal of another one. The
literal may stand outside, or behind a backslash in a string of double
quotes, which its closing quote then ends. Texts that are `live` are alike
to their ends; of others nothing is said behind a `#` outside, where no
token begins.
-/

namespace PromptTemplate

namespace Condition

/-! ## Places -/

/-- The quotes of strings. -/
inductive Quote
  | single | double
deriving DecidableEq

/-- The character of a quote. -/
def Quote.char : Quote → Char
  | .single => '\''
  | .double => '"'

/-- Where a reading stands. -/
inductive Place
  /-- Outside of strings. -/
  | outside
  /-- Inside a string. -/
  | inside (q : Quote)
  /-- Inside a string, behind a backslash. -/
  | escaped (q : Quote)
deriving DecidableEq

/-- The place behind a character. -/
def Place.after : Place → Char → Place
  | .outside, c =>
    if c = '"' then .inside .double else if c = '\'' then .inside .single else .outside
  | .inside q, c => if c = q.char then .outside else if c = '\\' then .escaped q else .inside q
  | .escaped q, _ => .inside q

/-- The place behind a text. -/
def Place.behind (p : Place) (cs : List Char) : Place := cs.foldl after p

theorem Place.after_outside {c : Char} (hd : c ≠ '"') (hs : c ≠ '\'') :
    outside.after c = outside := by
  simp [after, hd, hs]

@[simp] theorem Place.after_inside_quote (q : Quote) : (inside q).after q.char = outside := by
  simp [after]

@[simp] theorem Place.after_inside_backslash (q : Quote) :
    (inside q).after '\\' = escaped q := by
  cases q <;> rfl

theorem Place.after_inside {q : Quote} {c : Char} (hq : c ≠ q.char) (hb : c ≠ '\\') :
    (inside q).after c = inside q := by
  simp [after, hq, hb]

/-- A character that neither opens a string nor stops a reading. -/
def isPlain (c : Char) : Bool := c != '"' && c != '\'' && c != '#'

theorem isPlain_eq_true {c : Char} : isPlain c = true ↔ c ≠ '"' ∧ c ≠ '\'' ∧ c ≠ '#' := by
  simp [isPlain, and_assoc]

/-! ## Literals of strings -/

/-- A string that has a literal: no character needs its code. -/
def Writable (s : String) : Prop := ∀ c ∈ s.toList, Interpolation.needsCode c = false

/-- What reads an escape back. -/
theorem escape_eq {c : Char} (h : Interpolation.needsCode c = false) :
    (Json.escape c = [c] ∧ c ≠ '"' ∧ c ≠ '\\') ∨
      ∃ e, Json.escape c = ['\\', e] ∧ e ≠ 'u' ∧ unescape? e = some c := by
  by_cases hquote : c = '"'
  · subst hquote
    exact .inr ⟨'"', rfl, by decide, rfl⟩
  by_cases hbackslash : c = '\\'
  · subst hbackslash
    exact .inr ⟨'\\', rfl, by decide, rfl⟩
  by_cases hn : c = '\n'
  · subst hn
    exact .inr ⟨'n', rfl, by decide, rfl⟩
  by_cases hr : c = '\r'
  · subst hr
    exact .inr ⟨'r', rfl, by decide, rfl⟩
  by_cases ht : c = '\t'
  · subst ht
    exact .inr ⟨'t', rfl, by decide, rfl⟩
  by_cases hb : c = '\x08'
  · subst hb
    exact .inr ⟨'b', rfl, by decide, rfl⟩
  by_cases hf : c = '\x0c'
  · subst hf
    exact .inr ⟨'f', rfl, by decide, rfl⟩
  have hlow : ¬ c.toNat < 0x20 := by
    simpa [Interpolation.needsCode, hb, ht, hn, hf, hr] using h
  refine .inl ⟨?_, hquote, hbackslash⟩
  simp [Json.escape, hquote, hbackslash, hn, hr, ht, hb, hf, hlow]

section Reading

variable {quote c e v : Char} {r : List Char}

/-- A string ends at its quote. -/
theorem stringBody_of_quote (start position : Nat) :
    stringBody quote start position (quote :: r) = .ok ⟨[], [quote], r⟩ := by
  unfold stringBody
  rw [if_pos rfl]

/-- A string goes on behind a letter that is escaped, -/
theorem stringBody_of_escape (start position : Nat) (hquote : quote ≠ '\\') (hu : e ≠ 'u')
    (h : unescape? e = some v) :
    stringBody quote start position ('\\' :: e :: r) =
      (stringBody quote start (position + 2) r).map (·.push v ['\\', e]) := by
  rw [stringBody.eq_def]
  simp only [if_neg hquote.symm, if_pos, if_neg hu, h]

/-- and behind a character that stands for itself. -/
theorem stringBody_of_char (start position : Nat) (hquote : c ≠ quote) (hbackslash : c ≠ '\\') :
    stringBody quote start position (c :: r) =
      (stringBody quote start (position + c.utf8Size) r).map (·.push c [c]) := by
  rw [stringBody.eq_def]
  simp only [if_neg hquote, if_neg hbackslash]

/-- A string goes on behind four digits that are a character, -/
theorem stringBody_of_unit {h₁ h₂ h₃ h₄ : Char} {unit : Nat} (start position : Nat)
    (hquote : quote ≠ '\\') (h : Hex.value4? h₁ h₂ h₃ h₄ = some unit)
    (hhigh : ¬ Surrogate.isHigh unit = true) (hlow : ¬ Surrogate.isLow unit = true) :
    stringBody quote start position ('\\' :: 'u' :: h₁ :: h₂ :: h₃ :: h₄ :: r) =
      (stringBody quote start (position + 6) r).map
        (·.push (Char.ofNat unit) ['\\', 'u', h₁, h₂, h₃, h₄]) := by
  rw [stringBody.eq_def]
  simp only [if_neg hquote.symm, if_pos, h, if_neg hhigh, if_neg hlow]

/-- and behind two times four digits that are one together. -/
theorem stringBody_of_pair {h₁ h₂ h₃ h₄ l₁ l₂ l₃ l₄ : Char} {unit low : Nat}
    (start position : Nat) (hquote : quote ≠ '\\') (h : Hex.value4? h₁ h₂ h₃ h₄ = some unit)
    (hhigh : Surrogate.isHigh unit = true) (hl : Hex.value4? l₁ l₂ l₃ l₄ = some low)
    (hlow : Surrogate.isLow low = true) :
    stringBody quote start position
        ('\\' :: 'u' :: h₁ :: h₂ :: h₃ :: h₄ :: '\\' :: 'u' :: l₁ :: l₂ :: l₃ :: l₄ :: r) =
      (stringBody quote start (position + 12) r).map
        (·.push (Surrogate.pair unit low)
          ['\\', 'u', h₁, h₂, h₃, h₄, '\\', 'u', l₁, l₂, l₃, l₄]) := by
  rw [stringBody.eq_def]
  simp only [if_neg hquote.symm, if_pos, h, hhigh, hl, hlow]

end Reading

/-! ## Quotes -/

theorem not_isBlank_quote (q : Quote) : ¬ Text.isBlank q.char = true := by
  cases q <;> decide

theorem quote_ne_backslash (q : Quote) : q.char ≠ '\\' := by
  cases q <;> decide

/-- Behind a quote the rest of a string is read. -/
theorem next_of_quote (q : Quote) (position : Nat) (r : List Char) :
    next position (q.char :: r) = (stringBody q.char position (position + 1) r).map fun b =>
      ⟨.text (String.ofList b.value), q.char :: b.source, b.rest⟩ := by
  have hdigit : ¬ q.char.isDigit = true := by cases q <;> decide
  have hquote : q.char = '"' ∨ q.char = '\'' := by cases q <;> decide
  rw [next, if_neg hdigit, if_pos hquote]

/-- **The inside of a literal reads back** as the string it was made from,
up to its closing quote. -/
theorem stringBody_escape {cs rest : List Char} (h : ∀ c ∈ cs, Interpolation.needsCode c = false)
    (start position : Nat) :
    ∃ source, stringBody '"' start position (cs.flatMap Json.escape ++ '"' :: rest) =
      .ok ⟨cs, source, rest⟩ := by
  induction cs generalizing position with
  | nil => exact ⟨_, stringBody_of_quote start position⟩
  | cons c cs ih =>
    have hrest := ih fun d hd => h d (List.mem_cons_of_mem c hd)
    rw [List.flatMap_cons, List.append_assoc]
    obtain ⟨hescape, hquote, hbackslash⟩ | ⟨e, hescape, hu, hback⟩ :=
      escape_eq (h c List.mem_cons_self)
    · obtain ⟨source, hsource⟩ := hrest (position + c.utf8Size)
      rw [hescape, List.singleton_append, stringBody_of_char start position hquote hbackslash,
        hsource]
      exact ⟨_, rfl⟩
    · obtain ⟨source, hsource⟩ := hrest (position + 2)
      rw [hescape, List.cons_append, List.singleton_append,
        stringBody_of_escape start position (by decide) hu hback, hsource]
      exact ⟨_, rfl⟩

/-! ## Texts that are alike -/

/-- Texts that differ in the literals of strings only. -/
inductive Alike (live : Prop) : Place → List Char → List Char → Prop
  | nil {p : Place} : live → Alike live p [] []
  | char {p : Place} {c : Char} {a b : List Char} : Alike live (p.after c) a b →
      Alike live p (c :: a) (c :: b)
  | literal {s t : String} {a b : List Char} : Writable s → Writable t →
      Alike live .outside a b → Alike live .outside (Json.quote s ++ a) (Json.quote t ++ b)
  | closing {s t : String} {a b : List Char} : Writable s → Writable t →
      Alike live .outside a b →
      Alike live (.escaped .double) (Json.quote s ++ a) (Json.quote t ++ b)
  | stop {a b : List Char} : Alike live .outside ('#' :: a) ('#' :: b)

namespace Alike

variable {live : Prop} {p : Place} {a b : List Char}

theorem symm (h : Alike live p a b) : Alike live p b a := by
  induction h with
  | nil hlive => exact .nil hlive
  | char _ ih => exact .char ih
  | literal hs ht _ ih => exact .literal ht hs ih
  | closing hs ht _ ih => exact .closing ht hs ih
  | stop => exact .stop

/-- The same characters in front lead to the place behind them. -/
theorem append_left (cs : List Char) (h : Alike live (p.behind cs) a b) :
    Alike live p (cs ++ a) (cs ++ b) := by
  induction cs generalizing p with
  | nil => exact h
  | cons c cs ih => exact .char (ih h)

/-- A literal begins with a quote. -/
theorem quote_append (s : String) (a : List Char) :
    Json.quote s ++ a = '"' :: (s.toList.flatMap Json.escape ++ '"' :: a) := by
  simp [Json.quote]

/-- **What stands in front:** outside, texts that are alike end together or
begin with the same character, and are alike behind it unless strings or
stops begin there. -/
theorem front (h : Alike live .outside a b) :
    (a = [] ∧ b = [] ∧ live) ∨
      ∃ c a' b', a = c :: a' ∧ b = c :: b' ∧
        (isPlain c = true → Alike live .outside a' b') := by
  cases h with
  | nil hlive => exact .inl ⟨rfl, rfl, hlive⟩
  | @char _ c a b hab =>
    refine .inr ⟨c, a, b, rfl, rfl, ?_⟩
    intro hplain
    obtain ⟨hdouble, hsingle, -⟩ := isPlain_eq_true.1 hplain
    rw [Place.after_outside hdouble hsingle] at hab
    exact hab
  | literal =>
    rw [quote_append, quote_append]
    exact .inr ⟨'"', _, _, rfl, rfl, fun hplain => nomatch hplain⟩
  | @stop a b => exact .inr ⟨'#', a, b, rfl, rfl, fun hplain => nomatch hplain⟩

/-- Inside a string, texts that are alike go on with the same character. -/
theorem tail_of_inside {q : Quote} {c : Char} {a b : List Char}
    (h : Alike live (.inside q) (c :: a) b) :
    ∃ b', b = c :: b' ∧ Alike live ((Place.inside q).after c) a b' := by
  cases h with
  | char hab => exact ⟨_, rfl, hab⟩

/-- Behind a backslash they do so too, unless it is the quote of literals
that they go on with. -/
theorem cases_of_escaped {q : Quote} {c : Char} {a b : List Char}
    (h : Alike live (.escaped q) (c :: a) b) :
    (∃ b', b = c :: b' ∧ Alike live (.inside q) a b') ∨
      ∃ s t a' b', q = .double ∧ c = '"' ∧ Writable s ∧ Writable t ∧
        a = s.toList.flatMap Json.escape ++ '"' :: a' ∧
        b = '"' :: (t.toList.flatMap Json.escape ++ '"' :: b') ∧ Alike live .outside a' b' := by
  generalize hcs : c :: a = cs at h
  cases h with
  | nil => cases hcs
  | char hab =>
    cases hcs
    exact .inl ⟨_, rfl, hab⟩
  | @closing s t a' b' hs ht hab =>
    rw [quote_append] at hcs ⊢
    cases hcs
    exact .inr ⟨s, t, a', b', rfl, rfl, hs, ht, rfl, rfl, hab⟩

/-- The digits of a code stand in both texts. -/
theorem tail_of_digits {q : Quote} (cs : List Char) {a b : List Char}
    (h : Alike live (.inside q) (cs ++ a) b) (hcs : ∀ c ∈ cs, ∃ n, Hex.value? c = some n) :
    ∃ b', b = cs ++ b' ∧ Alike live (.inside q) a b' := by
  induction cs generalizing b with
  | nil => exact ⟨b, rfl, h⟩
  | cons c cs ih =>
    obtain ⟨n, hn⟩ := hcs c List.mem_cons_self
    have hq : c ≠ q.char := by
      rintro rfl
      cases q <;> simp [Quote.char, Hex.value?] at hn
    have hb : c ≠ '\\' := by
      rintro rfl
      simp [Hex.value?] at hn
    obtain ⟨b', rfl, hrest⟩ := h.tail_of_inside
    rw [Place.after_inside hq hb] at hrest
    obtain ⟨b'', rfl, ha⟩ := ih hrest fun d hd => hcs d (List.mem_cons_of_mem c hd)
    exact ⟨b'', rfl, ha⟩

end Alike

end Condition

end PromptTemplate
