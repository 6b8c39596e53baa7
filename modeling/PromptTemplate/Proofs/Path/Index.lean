import PromptTemplate.Path.Parser
import PromptTemplate.Proofs.Condition.Place
import PromptTemplate.Proofs.Text.Blank
/-!
# PromptTemplate — indexes of paths

What stands between brackets in a path goes up to the first closing bracket
that stands out of quotes (`splitBracket_eq_some`). `Index` lists what is
read there. Two forms are regular: decimal digits, behind a minus sign or
not, and a key in quotes that do not stand in the key. Reading takes two
more for an index: digits behind a plus sign, and a key that holds the
quote that it stands between, if the quotes pair up. There is nothing else,
and an index is determined by its characters: `bracketStep_eq_ok_iff`,
`Index.chars_injective`.
-/

namespace PromptTemplate

namespace Path

open Condition (Quote)

/-! ## What is read as an index -/

/-- One or more decimal digits. -/
@[ext]
structure Digits where
  chars : List Char
  nonempty : chars ≠ []
  decimal : ∀ c ∈ chars, c.isDigit = true

/-- The number that digits stand for. -/
def Digits.value (ds : Digits) : Int := Number.natOfDigits ds.chars

/-- An integer is a signed word of 64 bits. -/
def IsWord (n : Int) : Prop := -(1 <<< 63) ≤ n ∧ n < 1 <<< 63

/-- How the quote that is open changes at a character between brackets;
nothing if the character closes the bracket. -/
def quoteAfter : Option Quote → Char → Option (Option Quote)
  | none, c =>
    if c = ']' then none
    else if c = '\'' then some (some .single)
    else if c = '"' then some (some .double)
    else some none
  | some q, c => if c = q.char then some none else some (some q)

/-- The quote that is open behind some characters; nothing if one of them
closes the bracket. -/
def quoteBehind (quote : Option Quote) (cs : List Char) : Option (Option Quote) :=
  cs.foldlM quoteAfter quote

/-- Between brackets, no bracket that closes stands out of quotes, and no
quote is left open. -/
def Closed (cs : List Char) : Prop := quoteBehind none cs = some none

/-- What is read as an index. -/
inductive Index
  /-- Digits, behind a minus sign or not. -/
  | position (negative : Bool) (ds : Digits)
      (inRange : IsWord (if negative then -ds.value else ds.value))
  /-- Characters between two quotes, none of them this quote. -/
  | key (quote : Quote) (chars : List Char) (nonempty : chars ≠ []) (free : quote.char ∉ chars)
  /-- Digits behind a plus sign. -/
  | plus (ds : Digits) (inRange : IsWord ds.value)
  /-- Characters between two quotes, some of them this quote. -/
  | patched (quote : Quote) (chars : List Char) (held : quote.char ∈ chars)
      (closed : Closed (quote.char :: (chars ++ [quote.char])))

namespace Index

/-- The characters of an index. -/
def chars : Index → List Char
  | position negative ds _ => if negative then '-' :: ds.chars else ds.chars
  | key quote cs _ _ | patched quote cs _ _ => quote.char :: (cs ++ [quote.char])
  | plus ds _ => '+' :: ds.chars

/-- The step that an index is: digits are a position, and what stands
between quotes is a property, as it is written. -/
def step : Index → Step
  | position negative ds _ => .index (if negative then -ds.value else ds.value)
  | key _ cs _ _ | patched _ cs _ _ => .property (String.ofList cs)
  | plus ds _ => .index ds.value

/-- The grammar has the index. -/
def isRegular : Index → Bool
  | position .. | key .. => true
  | plus .. | patched .. => false

end Index

/-! ## Brackets -/

section Brackets

variable {quote : Option Quote} {cs inner rest : List Char}

theorem quoteBehind_cons {c : Char} :
    quoteBehind quote (c :: cs) = (quoteAfter quote c).bind fun next => quoteBehind next cs :=
  List.foldlM_cons

theorem quoteBehind_append {more : List Char} :
    quoteBehind quote (cs ++ more) =
      (quoteBehind quote cs).bind fun next => quoteBehind next more :=
  List.foldlM_append

/-- Only a bracket out of quotes closes an index. -/
theorem quoteAfter_eq_none {c : Char} : quoteAfter quote c = none ↔ quote = none ∧ c = ']' := by
  cases quote with
  | none => simp only [quoteAfter, true_and]; grind
  | some q => simp only [quoteAfter]; grind

/-- Any other character belongs to the index. -/
theorem splitBracket_cons {c : Char} {next : Option Quote} (h : quoteAfter quote c = some next) :
    splitBracket (quote.map Quote.char) (c :: cs) =
      (splitBracket (next.map Quote.char) cs).map fun (inner, rest) => (c :: inner, rest) := by
  cases quote with
  | none =>
    have hclose : c ≠ ']' := by
      rintro rfl
      cases h
    rw [Option.map_none, splitBracket, if_neg hclose]
    by_cases hsingle : c = '\''
    · subst hsingle
      cases h
      rfl
    · by_cases hdouble : c = '"'
      · subst hdouble
        cases h
        rfl
      · rw [if_neg (by simp [hsingle, hdouble])]
        obtain rfl : none = next := by simpa [quoteAfter, hclose, hsingle, hdouble] using h
        rfl
  | some q =>
    rw [Option.map_some, splitBracket]
    by_cases hc : c = q.char
    · obtain rfl : none = next := by simpa [quoteAfter, hc] using h
      rw [if_pos hc]
      rfl
    · obtain rfl : some q = next := by simpa [quoteAfter, hc] using h
      rw [if_neg hc]
      rfl

/-- **An index goes up to the bracket that closes it.** -/
theorem splitBracket_eq_some :
    splitBracket (quote.map Quote.char) cs = some (inner, rest) ↔
      cs = inner ++ ']' :: rest ∧ quoteBehind quote inner = some none := by
  induction cs generalizing quote inner with
  | nil => simp [splitBracket]
  | cons c r ih =>
    cases hafter : quoteAfter quote c with
    | none =>
      obtain ⟨rfl, rfl⟩ := quoteAfter_eq_none.1 hafter
      rw [Option.map_none, splitBracket, if_pos rfl, Option.some.injEq, Prod.mk.injEq]
      constructor
      · rintro ⟨rfl, rfl⟩
        exact ⟨rfl, rfl⟩
      · rintro ⟨hcs, hbehind⟩
        cases inner with
        | nil => exact ⟨rfl, (List.cons.inj hcs).2⟩
        | cons d inner =>
          obtain ⟨rfl, -⟩ := List.cons.inj hcs
          cases hbehind
    | some next =>
      rw [splitBracket_cons hafter, Option.map_eq_some_iff]
      constructor
      · rintro ⟨⟨inner', rest'⟩, hsplit, heq⟩
        cases heq
        obtain ⟨rfl, hbehind⟩ := ih.1 hsplit
        exact ⟨rfl, by rw [quoteBehind_cons, hafter]; exact hbehind⟩
      · rintro ⟨hcs, hbehind⟩
        cases inner with
        | nil =>
          -- a bracket that closes nothing stands inside of quotes
          obtain ⟨rfl, rfl⟩ := List.cons.inj hcs
          cases hbehind
          cases hafter
        | cons d inner =>
          obtain ⟨rfl, rfl⟩ := List.cons.inj hcs
          rw [quoteBehind_cons, hafter] at hbehind
          exact ⟨_, ih.2 ⟨rfl, hbehind⟩, rfl⟩

/-- What is closed is split off with the bracket behind it. -/
theorem splitBracket_of_closed (h : Closed inner) :
    splitBracket none (inner ++ ']' :: rest) = some (inner, rest) :=
  (@splitBracket_eq_some none _ _ _).2 ⟨rfl, h⟩

/-- Blanks neither open a quote nor close one, nor the bracket. -/
theorem quoteBehind_of_blank (h : ∀ c ∈ cs, Text.isBlank c = true) :
    quoteBehind quote cs = some quote := by
  induction cs with
  | nil => rfl
  | cons c r ih =>
    obtain ⟨hc, hr⟩ := List.forall_mem_cons.1 h
    have hafter : quoteAfter quote c = some quote := by
      cases quote with
      | none =>
        have hclose : c ≠ ']' := by rintro rfl; revert hc; decide
        have hsingle : c ≠ '\'' := by rintro rfl; revert hc; decide
        have hdouble : c ≠ '"' := by rintro rfl; revert hc; decide
        simp [quoteAfter, hclose, hsingle, hdouble]
      | some q =>
        have hquote : c ≠ q.char := by rintro rfl; revert hc; cases q <;> decide
        simp [quoteAfter, hquote]
    rw [quoteBehind_cons, hafter]
    exact ih hr

/-- So trimming does not change what is closed. -/
theorem closed_trim : Closed (Text.trim cs) ↔ Closed cs := by
  obtain ⟨front, behind, hfront, hbehind, hcs⟩ := Text.exists_trim cs
  have hquote : quoteBehind none cs = quoteBehind none (Text.trim cs) := by
    conv_lhs => rw [hcs]
    rw [quoteBehind_append, quoteBehind_of_blank hfront, Option.bind_some, quoteBehind_append]
    cases quoteBehind none (Text.trim cs) with
    | none => rfl
    | some next => exact quoteBehind_of_blank hbehind
  rw [Closed, Closed, hquote]

/-- Inside of quotes, what is not the quote leaves it open. -/
theorem quoteBehind_of_not_mem {q : Quote} (h : q.char ∉ cs) :
    quoteBehind (some q) cs = some (some q) := by
  induction cs with
  | nil => rfl
  | cons c r ih =>
    rw [List.mem_cons, not_or] at h
    have hafter : quoteAfter (some q) c = some (some q) := by simp [quoteAfter, Ne.symm h.1]
    rw [quoteBehind_cons, hafter]
    exact ih h.2

/-- Characters that are no quotes and do not close the bracket are
closed. -/
theorem closed_of_plain (h : ∀ c ∈ cs, c ≠ ']' ∧ c ≠ '\'' ∧ c ≠ '"') : Closed cs := by
  induction cs with
  | nil => rfl
  | cons c r ih =>
    obtain ⟨⟨hclose, hsingle, hdouble⟩, hr⟩ := List.forall_mem_cons.1 h
    have hafter : quoteAfter none c = some none := by
      simp [quoteAfter, hclose, hsingle, hdouble]
    rw [Closed, quoteBehind_cons, hafter]
    exact ih hr

theorem quoteAfter_quote (q : Quote) : quoteAfter none q.char = some (some q) := by
  cases q <;> rfl

/-- A digit is no quote and does not close the bracket. -/
theorem ne_of_isDigit {c d : Char} (hc : c.isDigit = true) (hd : d.isDigit = false) : c ≠ d := by
  rintro rfl
  rw [hc] at hd
  cases hd

theorem Digits.closed (ds : Digits) : Closed ds.chars :=
  closed_of_plain fun c hc =>
    have hdigit := ds.decimal c hc
    ⟨ne_of_isDigit hdigit rfl, ne_of_isDigit hdigit rfl, ne_of_isDigit hdigit rfl⟩

/-- **Every index is closed.** -/
theorem Index.closed (i : Index) : Closed i.chars := by
  cases i with
  | position negative ds _ =>
    cases negative with
    | true => exact ds.closed
    | false => exact ds.closed
  | key q cs _ hfree =>
    rw [Closed, Index.chars, quoteBehind_cons, quoteAfter_quote, Option.bind_some,
      quoteBehind_append, quoteBehind_of_not_mem hfree]
    simp [quoteBehind, quoteAfter]
  | plus ds _ => exact ds.closed
  | patched _ _ _ hclosed => exact hclosed

/-- So is an index with blanks around it. -/
theorem Index.closed_around {i : Index} (h : Text.trim inner = i.chars) : Closed inner :=
  closed_trim.1 (h ▸ i.closed)

end Brackets

/-! ## Indexes -/

section Indexes

variable {cs : List Char} {n : Int}

/-- Digits begin with nothing else. -/
theorem Digits.ne_cons (ds : Digits) {c : Char} (hc : c.isDigit = false) {r : List Char} :
    ds.chars ≠ c :: r := by
  intro h
  have hdigit := ds.decimal c (h ▸ List.mem_cons_self)
  rw [hc] at hdigit
  cases hdigit

/-- What is left of an integer behind its sign has to be digits, and what it
stands for a word. -/
theorem word_eq_some {r : List Char} {value : Int} :
    (if r.isEmpty || !r.all Char.isDigit then none
      else if -(1 <<< 63) ≤ value ∧ value < 1 <<< 63 then some value else none) = some n ↔
      IsWord n ∧ value = n ∧ ∃ ds : Digits, ds.chars = r := by
  constructor
  · intro h
    split at h
    · cases h
    · rename_i hr
      simp only [Bool.or_eq_true, List.isEmpty_iff, Bool.not_eq_true', not_or,
        Bool.not_eq_false, List.all_eq_true] at hr
      split at h
      · rename_i hword
        cases h
        exact ⟨hword, rfl, ⟨r, hr.1, hr.2⟩, rfl⟩
      · cases h
  · rintro ⟨hword, rfl, ds, rfl⟩
    have hproper : (ds.chars.isEmpty || !ds.chars.all Char.isDigit) = false := by
      simp [ds.nonempty, List.all_eq_true.2 ds.decimal]
    rw [hproper, if_neg Bool.false_ne_true]
    exact if_pos hword

/-- Digits of a word of 64 bits, with a sign or without, are read as their
integer. -/
theorem integer?_eq_some :
    integer? cs = some n ↔ IsWord n ∧ ∃ ds : Digits,
      (cs = ds.chars ∧ n = ds.value) ∨ (cs = '-' :: ds.chars ∧ n = -ds.value) ∨
        (cs = '+' :: ds.chars ∧ n = ds.value) := by
  unfold integer?
  split
  rename_i negative r hsign
  dsimp only
  rw [word_eq_some]
  refine and_congr_right fun _ => ?_
  -- a sign is no digit, so that it says which of the forms the text has
  split at hsign <;> cases hsign
  · rw [if_pos rfl]
    constructor
    · rintro ⟨rfl, ds, rfl⟩
      exact ⟨ds, .inr (.inl ⟨rfl, rfl⟩)⟩
    · rintro ⟨ds, ⟨hcs, -⟩ | ⟨hcs, rfl⟩ | ⟨hcs, -⟩⟩
      · exact absurd hcs.symm (ds.ne_cons rfl)
      · obtain rfl := (List.cons.inj hcs).2
        exact ⟨rfl, ds, rfl⟩
      · exact absurd (List.cons.inj hcs).1 (by decide)
  · rw [if_neg Bool.false_ne_true]
    constructor
    · rintro ⟨rfl, ds, rfl⟩
      exact ⟨ds, .inr (.inr ⟨rfl, rfl⟩)⟩
    · rintro ⟨ds, ⟨hcs, -⟩ | ⟨hcs, -⟩ | ⟨hcs, rfl⟩⟩
      · exact absurd hcs.symm (ds.ne_cons rfl)
      · exact absurd (List.cons.inj hcs).1 (by decide)
      · obtain rfl := (List.cons.inj hcs).2
        exact ⟨rfl, ds, rfl⟩
  · rename_i hminus hplus
    rw [if_neg Bool.false_ne_true]
    constructor
    · rintro ⟨rfl, ds, rfl⟩
      exact ⟨ds, .inl ⟨rfl, rfl⟩⟩
    · rintro ⟨ds, ⟨rfl, rfl⟩ | ⟨hcs, -⟩ | ⟨hcs, -⟩⟩
      · exact ⟨rfl, ds, rfl⟩
      · exact absurd hcs (hminus _)
      · exact absurd hcs (hplus _)

/-- A key is what stands between two quotes that enclose a text. -/
theorem quotedKey?_eq_some {quote : Char} {key : List Char} :
    quotedKey? quote cs = some key ↔ cs = quote :: (key ++ [quote]) := by
  unfold quotedKey?
  split
  · rename_i first r
    constructor
    · intro h
      split at h
      · rename_i hquotes
        obtain ⟨rfl, hlast⟩ := hquotes
        cases h
        rw [List.dropLast_append_getLast? _ hlast]
      · cases h
    · rintro ⟨⟩
      rw [if_pos ⟨rfl, List.getLast?_concat⟩, List.dropLast_concat]
  · simp

/-- Only one of the quotes encloses a text. -/
theorem quotedKey?_eq_none {quote other : Char} (h : quote ≠ other) {key : List Char} :
    quotedKey? other (quote :: (key ++ [quote])) = none := by
  rw [quotedKey?, if_neg fun hquotes => h hquotes.1]

/-- A text between two equal quotes is a key. -/
theorem quotedKeys_eq_some {key : List Char} :
    (quotedKey? '\'' cs).or (quotedKey? '"' cs) = some key ↔
      ∃ q : Quote, cs = q.char :: (key ++ [q.char]) := by
  rw [Option.or_eq_some_iff, quotedKey?_eq_some, quotedKey?_eq_some]
  constructor
  · rintro (hcs | ⟨-, hcs⟩)
    · exact ⟨.single, hcs⟩
    · exact ⟨.double, hcs⟩
  · rintro ⟨q, rfl⟩
    cases q with
    | single => exact .inl rfl
    | double => exact .inr ⟨quotedKey?_eq_none (by decide), rfl⟩

/-- What stands in quotes is determined with them. -/
theorem quoted_injective {q q' : Quote} {key key' : List Char}
    (h : q.char :: (key ++ [q.char]) = q'.char :: (key' ++ [q'.char])) : q = q' ∧ key = key' := by
  obtain ⟨hquote, hkey⟩ := List.cons.inj h
  have hq : q = q' := by
    cases q <;> cases q' <;> first | rfl | exact absurd hquote (by decide)
  subst hq
  exact ⟨rfl, List.append_cancel_right hkey⟩

/-- An integer is in no quotes. -/
theorem ne_quoted_of_integer? (h : integer? cs = some n) (q : Quote) {r : List Char} :
    cs ≠ q.char :: r := by
  have hdigit : q.char.isDigit = false := by cases q <;> rfl
  obtain ⟨-, ds, ⟨rfl, -⟩ | ⟨rfl, -⟩ | ⟨rfl, -⟩⟩ := integer?_eq_some.1 h
  · exact ds.ne_cons hdigit
  · intro hcs
    cases q <;> exact absurd (List.cons.inj hcs).1 (by decide)
  · intro hcs
    cases q <;> exact absurd (List.cons.inj hcs).1 (by decide)

/-- What stands between brackets is read as a key, if it is not empty, and
as an integer else. -/
theorem bracketStep_eq_ok {path : String} {step : Step} :
    bracketStep path cs = .ok step ↔
      (∃ (q : Quote) (key : List Char), cs = q.char :: (key ++ [q.char]) ∧ key ≠ [] ∧
        step = .property (String.ofList key)) ∨
      ∃ n, integer? cs = some n ∧ step = .index n := by
  unfold bracketStep
  split
  · rename_i hempty
    rw [List.isEmpty_iff.1 hempty]
    simp [integer?]
  · cases hkey : (quotedKey? '\'' cs).or (quotedKey? '"' cs) with
    | some key =>
      obtain ⟨q, rfl⟩ := quotedKeys_eq_some.1 hkey
      cases key with
      | nil =>
        refine iff_of_false (by simp) ?_
        rintro (⟨q', key', hcs, hne, -⟩ | ⟨n, hn, -⟩)
        · exact hne (quoted_injective hcs).2.symm
        · exact ne_quoted_of_integer? hn q rfl
      | cons c r =>
        dsimp only
        rw [Except.ok.injEq]
        constructor
        · rintro rfl
          exact .inl ⟨q, c :: r, rfl, by simp, rfl⟩
        · rintro (⟨q', key', hcs, -, rfl⟩ | ⟨n, hn, -⟩)
          · rw [(quoted_injective hcs).2]
          · exact absurd rfl (ne_quoted_of_integer? hn q)
    | none =>
      have hbare : ∀ (q : Quote) (key : List Char), cs ≠ q.char :: (key ++ [q.char]) := by
        intro q key hcs
        rw [quotedKeys_eq_some.2 ⟨q, hcs⟩] at hkey
        cases hkey
      cases hn : integer? cs with
      | none => simp [hbare]
      | some n => simp [hbare, eq_comm]

/-- **What is read between brackets** is an index, if it is closed. -/
theorem bracketStep_eq_ok_iff {path : String} {step : Step} (h : Closed cs) :
    bracketStep path cs = .ok step ↔ ∃ i : Index, cs = i.chars ∧ i.step = step := by
  rw [bracketStep_eq_ok]
  constructor
  · rintro (⟨q, key, rfl, hne, rfl⟩ | ⟨n, hn, rfl⟩)
    · by_cases hheld : q.char ∈ key
      · exact ⟨.patched q key hheld h, rfl, rfl⟩
      · exact ⟨.key q key hne hheld, rfl, rfl⟩
    · obtain ⟨hword, ds, ⟨rfl, rfl⟩ | ⟨rfl, rfl⟩ | ⟨rfl, rfl⟩⟩ := integer?_eq_some.1 hn
      · exact ⟨.position false ds hword, rfl, rfl⟩
      · exact ⟨.position true ds hword, rfl, rfl⟩
      · exact ⟨.plus ds hword, rfl, rfl⟩
  · rintro ⟨i, rfl, rfl⟩
    cases i with
    | position negative ds hword =>
      refine .inr ⟨_, integer?_eq_some.2 ⟨hword, ds, ?_⟩, rfl⟩
      cases negative with
      | true => exact .inr (.inl ⟨rfl, rfl⟩)
      | false => exact .inl ⟨rfl, rfl⟩
    | key q cs hne _ => exact .inl ⟨q, cs, rfl, hne, rfl⟩
    | plus ds hword => exact .inr ⟨_, integer?_eq_some.2 ⟨hword, ds, .inr (.inr ⟨rfl, rfl⟩)⟩, rfl⟩
    | patched q cs hheld _ => exact .inl ⟨q, cs, rfl, List.ne_nil_of_mem hheld, rfl⟩

/-- **An index is determined by its characters.** -/
theorem Index.chars_injective {i j : Index} (h : i.chars = j.chars) : i = j := by
  -- it is read as one step only, so that it is in quotes or an integer
  have hstep : i.step = j.step := by
    have hi : bracketStep "" i.chars = .ok i.step :=
      (bracketStep_eq_ok_iff i.closed).2 ⟨i, rfl, rfl⟩
    rw [(bracketStep_eq_ok_iff i.closed).2 ⟨j, h, rfl⟩] at hi
    exact (Except.ok.inj hi).symm
  cases i with
  | position negative ds _ =>
    cases j with
    | position negative' ds' _ =>
      cases negative <;> cases negative'
      · obtain rfl := Digits.ext h
        rfl
      · exact absurd h (ds.ne_cons rfl)
      · exact absurd h.symm (ds'.ne_cons rfl)
      · obtain rfl := Digits.ext (List.cons.inj h).2
        rfl
    | plus ds' _ =>
      cases negative
      · exact absurd h (ds.ne_cons rfl)
      · exact absurd (List.cons.inj h).1 (by decide)
    | key => cases hstep
    | patched => cases hstep
  | plus ds _ =>
    cases j with
    | position negative' ds' _ =>
      cases negative'
      · exact absurd h.symm (ds'.ne_cons rfl)
      · exact absurd (List.cons.inj h).1 (by decide)
    | plus ds' _ =>
      obtain rfl := Digits.ext (List.cons.inj h).2
      rfl
    | key => cases hstep
    | patched => cases hstep
  | key q cs _ hfree =>
    cases j with
    | position => cases hstep
    | plus => cases hstep
    | key q' cs' _ _ =>
      obtain ⟨rfl, rfl⟩ := quoted_injective h
      rfl
    | patched q' cs' hheld _ =>
      obtain ⟨rfl, rfl⟩ := quoted_injective h
      exact absurd hheld hfree
  | patched q cs hheld _ =>
    cases j with
    | position => cases hstep
    | plus => cases hstep
    | key q' cs' _ hfree =>
      obtain ⟨rfl, rfl⟩ := quoted_injective h
      exact absurd hheld hfree
    | patched q' cs' _ _ =>
      obtain ⟨rfl, rfl⟩ := quoted_injective h
      rfl

end Indexes

end Path

end PromptTemplate
