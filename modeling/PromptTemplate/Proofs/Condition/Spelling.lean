import PromptTemplate.Proofs.Condition.Lexes
import PromptTemplate.Proofs.Text.CodeUnits
/-!
# PromptTemplate — string literals as in JSON

A string literal is a row of items between quotes: characters that stand for
themselves, letters behind a backslash, and codes of four digits. Every item
spells code units, and a literal denotes the string with these as its UTF-16
form (`Denotes`). Conditions allow more than JSON does (`Item.Inside`,
`Item.InJson`), namely single quotes and control characters.

The lexer never sees code units: it reads an item at a time, and two codes
at once where they are a pair. `Paired` has its view of a literal, and
`paired_iff` says that both agree. Where they cannot, a surrogate is `Lone`,
and the reading fails there. `spelling_as_in_json` has all of it.
-/

namespace PromptTemplate

namespace Hex

/-- A digit to base sixteen, small or capital. -/
structure Digit where
  value : Fin 16
  isCapital : Bool

/-- The character of a digit. -/
def Digit.char (d : Digit) : Char := if d.isCapital then upper d.value else lower d.value

theorem value?_char (d : Digit) : value? d.char = some d.value := by
  unfold Digit.char
  split
  · exact value?_upper d.value d.value.isLt
  · exact value?_lower d.value d.value.isLt

theorem ascii_of_value? {c : Char} {n : Nat} (h : value? c = some n) : c.toNat < 0x67 := by
  unfold value? at h
  simp only [Char.le_def, UInt32.le_iff_toNat_le, Char.reduceVal, UInt32.reduceToNat] at h
  have hcode : c.val.toNat = c.toNat := rfl
  by_contra hbeyond
  rw [if_neg (by omega), if_neg (by omega), if_neg (by omega)] at h
  cases h

/-- A look at every character below `g`. -/
theorem written_of_value? : ∀ code < 0x67, ∀ n ∈ value? (Char.ofNat code),
    ∃ h : n < 16, ∃ isCapital, (Digit.mk ⟨n, h⟩ isCapital).char = Char.ofNat code := by
  decide

/-- No other characters are digits. -/
theorem exists_digit {c : Char} {n : Nat} (h : value? c = some n) :
    ∃ d : Digit, d.char = c ∧ d.value = n := by
  have hwritten := written_of_value? c.toNat (ascii_of_value? h)
  rw [Char.ofNat_toNat] at hwritten
  obtain ⟨hn, isCapital, hchar⟩ := hwritten n h
  exact ⟨⟨⟨n, hn⟩, isCapital⟩, hchar, rfl⟩

end Hex

namespace Condition

namespace Spelling

open Surrogate (isHigh isLow)

/-! ## Items -/

/-- Four digits, which name a code unit. -/
structure Code where
  first : Hex.Digit
  second : Hex.Digit
  third : Hex.Digit
  fourth : Hex.Digit

/-- The code unit that is named. -/
def Code.unit (k : Code) : Nat :=
  ((k.first.value.val * 16 + k.second.value.val) * 16 + k.third.value.val) * 16 +
    k.fourth.value.val

/-- How a code is written. -/
def Code.chars (k : Code) : List Char :=
  ['\\', 'u', k.first.char, k.second.char, k.third.char, k.fourth.char]

/-- What may stand behind a backslash besides codes. -/
inductive Escape
  | quote | apostrophe | backslash | slash | backspace | formFeed | lineFeed | carriageReturn | tab
deriving DecidableEq

/-- The letter of an escape. -/
def Escape.letter : Escape → Char
  | .quote => '"'
  | .apostrophe => '\''
  | .backslash => '\\'
  | .slash => '/'
  | .backspace => 'b'
  | .formFeed => 'f'
  | .lineFeed => 'n'
  | .carriageReturn => 'r'
  | .tab => 't'

/-- The character that an escape stands for. -/
def Escape.char : Escape → Char
  | .quote => '"'
  | .apostrophe => '\''
  | .backslash => '\\'
  | .slash => '/'
  | .backspace => '\x08'
  | .formFeed => '\x0c'
  | .lineFeed => '\n'
  | .carriageReturn => '\r'
  | .tab => '\t'

/-- An item of a string literal. -/
inductive Item
  | plain (c : Char)
  | escape (e : Escape)
  | code (k : Code)

/-- How an item is written. -/
def Item.chars : Item → List Char
  | .plain c => [c]
  | .escape e => ['\\', e.letter]
  | .code k => k.chars

/-- The code units that an item spells. -/
def Item.units : Item → List Nat
  | .plain c => Utf16.units c
  | .escape e => Utf16.units e.char
  | .code k => [k.unit]

/-- An item may stand in a literal of JSON: a character that stands for itself
is no control and needs no escape, and apostrophes are not escaped. -/
def Item.InJson : Item → Prop
  | .plain c => 0x20 ≤ c.toNat ∧ c ≠ '"' ∧ c ≠ '\\'
  | .escape e => e ≠ .apostrophe
  | .code _ => True

/-- An item may stand in a literal of a condition. -/
def Item.Inside (q : Quote) : Item → Prop
  | .plain c => c ≠ q.char ∧ c ≠ '\\'
  | .escape _ => True
  | .code _ => True

/-- How a row of items is written. -/
def charsOf (items : List Item) : List Char := items.flatMap Item.chars

/-- The code units that a row of items spells. -/
def unitsOf (items : List Item) : List Nat := items.flatMap Item.units

/-- A literal, with its quotes. -/
def literal (q : Quote) (items : List Item) : List Char := q.char :: (charsOf items ++ [q.char])

/-- **A literal denotes the string** whose code units it spells. -/
def Denotes (items : List Item) (s : String) : Prop := Utf16.encode s.toList = unitsOf items

@[simp] theorem charsOf_nil : charsOf [] = [] := rfl

@[simp] theorem charsOf_cons (i : Item) (items : List Item) :
    charsOf (i :: items) = i.chars ++ charsOf items := rfl

@[simp] theorem unitsOf_cons (i : Item) (items : List Item) :
    unitsOf (i :: items) = i.units ++ unitsOf items := rfl

theorem Item.InJson.inside {i : Item} (h : i.InJson) : i.Inside .double := by
  cases i with
  | plain c => exact h.2
  | escape e => trivial
  | code k => trivial

theorem Code.unit_lt (k : Code) : k.unit < 0x10000 := by
  unfold Code.unit
  omega

/-- The four digits of a code read back, -/
theorem Code.value4? (k : Code) :
    Hex.value4? k.first.char k.second.char k.third.char k.fourth.char = some k.unit := by
  simp only [Hex.value4?, Hex.value?_char]
  rfl

/-- and four digits that are read are a code. -/
theorem exists_code {a b c d : Char} {n : Nat} (h : Hex.value4? a b c d = some n) :
    ∃ k : Code, k.chars = ['\\', 'u', a, b, c, d] ∧ k.unit = n := by
  unfold Hex.value4? at h
  obtain ⟨_, ha, h⟩ := Option.bind_eq_some_iff.1 h
  obtain ⟨_, hb, h⟩ := Option.bind_eq_some_iff.1 h
  obtain ⟨_, hc, h⟩ := Option.bind_eq_some_iff.1 h
  obtain ⟨_, hd, h⟩ := Option.bind_eq_some_iff.1 h
  obtain ⟨first, rfl, rfl⟩ := Hex.exists_digit ha
  obtain ⟨second, rfl, rfl⟩ := Hex.exists_digit hb
  obtain ⟨third, rfl, rfl⟩ := Hex.exists_digit hc
  obtain ⟨fourth, rfl, rfl⟩ := Hex.exists_digit hd
  exact ⟨⟨first, second, third, fourth⟩, rfl, Option.some.inj h⟩

/-- Codes that are written alike name the same unit. -/
theorem Code.unit_eq {k m : Code} {rest : List Char} (h : k.chars <+: m.chars ++ rest) :
    k.unit = m.unit := by
  obtain ⟨more, hmore⟩ := h
  have hk := k.value4?
  simp only [Code.chars, List.cons_append, List.nil_append, List.cons.injEq, true_and] at hmore
  obtain ⟨hfirst, hsecond, hthird, hfourth, -⟩ := hmore
  rw [hfirst, hsecond, hthird, hfourth, m.value4?] at hk
  exact (Option.some.inj hk).symm

/-- Only a code begins like a code. -/
theorem Item.exists_code {q : Quote} {i : Item} {k : Code} {rest : List Char} (hi : i.Inside q)
    (h : k.chars <+: i.chars ++ rest) : ∃ m, i = .code m ∧ m.unit = k.unit := by
  cases i with
  | plain c =>
    rw [Item.chars, List.singleton_append, Code.chars, List.cons_prefix_cons] at h
    exact absurd h.1.symm hi.2
  | escape e =>
    rw [Item.chars, List.cons_append, Code.chars, List.cons_prefix_cons, List.cons_append,
      List.cons_prefix_cons] at h
    have hletter : e.letter ≠ 'u' := by cases e <;> decide
    exact absurd h.2.1.symm hletter
  | code m => exact ⟨m, rfl, (Code.unit_eq h).symm⟩

/-! ## One item after the other -/

/-- The character that an item stands for by itself. -/
def Item.char? : Item → Option Char
  | .plain c => some c
  | .escape e => some e.char
  | .code k => if isHigh k.unit = true ∨ isLow k.unit = true then none else some (Char.ofNat k.unit)

/-- It has the code units that are spelled. -/
theorem Item.units_eq {i : Item} {c : Char} (h : i.char? = some c) : i.units = Utf16.units c := by
  cases i with
  | plain => cases h; rfl
  | escape => cases h; rfl
  | code k =>
    rw [Item.char?] at h
    split at h
    · cases h
    · rename_i hsurrogate
      cases h
      rw [not_or] at hsurrogate
      exact (Utf16.units_ofNat k.unit_lt hsurrogate.1 hsurrogate.2).symm

/-- An item that stands for none by itself is the code of a surrogate. -/
theorem Item.eq_code {i : Item} (h : i.char? = none) :
    ∃ k, i = .code k ∧ (isHigh k.unit = true ∨ isLow k.unit = true) := by
  cases i with
  | plain => cases h
  | escape => cases h
  | code k =>
    rw [Item.char?] at h
    split at h
    · rename_i hsurrogate
      exact ⟨k, rfl, hsurrogate⟩
    · cases h

/-- **Induction over a literal** in the way it is read: item by item, two at
once where these are a pair, and up to a surrogate that is not one of a pair. -/
theorem items_induction {motive : List Item → Prop} (nil : motive [])
    (item : ∀ i c items, i.char? = some c → motive items → motive (i :: items))
    (pair : ∀ high low items, isHigh high.unit = true → isLow low.unit = true → motive items →
      motive (.code high :: .code low :: items))
    (low : ∀ low items, isLow low.unit = true → motive (.code low :: items))
    (high : ∀ high items, isHigh high.unit = true →
      (∀ low more, items = .code low :: more → ¬ isLow low.unit = true) →
      motive (.code high :: items))
    (items : List Item) : motive items := by
  -- two items may be read at once, so what is known of the tail is kept
  have hboth : motive items ∧ motive items.tail := by
    induction items with
    | nil => exact ⟨nil, nil⟩
    | cons i items ih =>
      refine ⟨?_, ih.1⟩
      cases hc : i.char? with
      | some c => exact item i c items hc ih.1
      | none =>
        obtain ⟨k, rfl, hhigh | hlow⟩ := Item.eq_code hc
        · by_cases hpair : ∃ m more, items = .code m :: more ∧ isLow m.unit = true
          · obtain ⟨m, more, rfl, hm⟩ := hpair
            exact pair k m more hhigh hm ih.2
          · exact high k items hhigh fun m more hmore hm => hpair ⟨m, more, hmore, hm⟩
        · exact low k items hlow
  exact hboth.1

/-! ## Pairs -/

/-- **The lexer's view of a literal:** items that stand for characters, and
pairs of codes. -/
inductive Paired : List Item → List Char → Prop
  | nil : Paired [] []
  | item {i : Item} {c : Char} {items : List Item} {cs : List Char} :
      i.char? = some c → Paired items cs → Paired (i :: items) (c :: cs)
  | pair {high low : Code} {items : List Item} {cs : List Char} :
      isHigh high.unit = true → isLow low.unit = true → Paired items cs →
      Paired (.code high :: .code low :: items) (Surrogate.pair high.unit low.unit :: cs)

/-- A literal begins with the code unit of a low surrogate only if it begins
with the code of one. -/
theorem exists_code_of_unitsOf {items : List Item} {n : Nat} {us : List Nat}
    (h : unitsOf items = n :: us) (hlow : isLow n = true) :
    ∃ low more, items = .code low :: more ∧ isLow low.unit = true := by
  cases items with
  | nil => cases h
  | cons i items =>
    rw [unitsOf_cons] at h
    cases hc : i.char? with
    | some c =>
      rw [Item.units_eq hc] at h
      obtain ⟨hunits, -, hnot⟩ | ⟨high, low, hunits, hhigh, -⟩ := Utf16.units_cases c
      · rw [hunits] at h
        cases h
        exact absurd hlow hnot
      · rw [hunits] at h
        cases h
        exact absurd hlow (Utf16.not_isLow_of_isHigh hhigh)
    | none =>
      obtain ⟨k, rfl, -⟩ := Item.eq_code hc
      cases h
      exact ⟨k, items, rfl, hlow⟩

/-- **Both views of a literal** agree. -/
theorem paired_iff {items : List Item} {cs : List Char} :
    Paired items cs ↔ Utf16.encode cs = unitsOf items := by
  constructor
  · intro h
    induction h with
    | nil => rfl
    | item hc _ ih => rw [Utf16.encode_cons, unitsOf_cons, Item.units_eq hc, ih]
    | pair hhigh hlow _ ih =>
      rw [Utf16.encode_cons, Utf16.units_pair hhigh hlow, ih]
      rfl
  · intro h
    induction items using items_induction generalizing cs with
    | nil =>
      rw [Utf16.encode_eq_nil h]
      exact .nil
    | item i c items hc ih =>
      rw [unitsOf_cons, Item.units_eq hc] at h
      obtain ⟨r, rfl, hr⟩ := Utf16.encode_eq_append_iff.1 h
      exact .item hc (ih hr)
    | pair high low items hhigh hlow ih =>
      have hpair : unitsOf (.code high :: .code low :: items) =
          Utf16.units (Surrogate.pair high.unit low.unit) ++ unitsOf items := by
        rw [Utf16.units_pair hhigh hlow]
        rfl
      rw [hpair] at h
      obtain ⟨r, rfl, hr⟩ := Utf16.encode_eq_append_iff.1 h
      exact .pair hhigh hlow (ih hr)
    | low low items hlow => exact absurd hlow (Utf16.not_isLow_of_encode_eq_cons h)
    | high high items hhigh hnot =>
      obtain ⟨low, us, hus, hlow⟩ := Utf16.encode_eq_cons_high h hhigh
      obtain ⟨k, more, hmore, hk⟩ := exists_code_of_unitsOf hus hlow
      exact absurd hk (hnot k more hmore)

/-! ## Reading a literal -/

theorem Escape.unescape?_letter (e : Escape) : unescape? e.letter = some e.char := by
  cases e <;> rfl

theorem Escape.letter_ne (e : Escape) : e.letter ≠ 'u' := by
  cases e <;> decide

/-- An item that stands for a character is read as this character. -/
theorem stringBody_item {q : Quote} {i : Item} {c : Char} (hi : i.Inside q)
    (hc : i.char? = some c) (start position : Nat) :
    ∃ position', ∀ rest, stringBody q.char start position (i.chars ++ rest) =
      (stringBody q.char start position' rest).map (·.push c i.chars) := by
  cases i with
  | plain x =>
    cases hc
    exact ⟨_, fun rest => stringBody_of_char start position hi.1 hi.2⟩
  | escape e =>
    cases hc
    exact ⟨_, fun rest =>
      stringBody_of_escape start position (quote_ne_backslash q) e.letter_ne e.unescape?_letter⟩
  | code k =>
    rw [Item.char?] at hc
    split at hc
    · cases hc
    · rename_i hsurrogate
      cases hc
      rw [not_or] at hsurrogate
      exact ⟨_, fun rest => stringBody_of_unit start position (quote_ne_backslash q) k.value4?
        hsurrogate.1 hsurrogate.2⟩

/-- A pair of codes is read as one character. -/
theorem stringBody_pair {high low : Code} (q : Quote) (hhigh : isHigh high.unit = true)
    (hlow : isLow low.unit = true) (start position : Nat) (rest : List Char) :
    stringBody q.char start position (high.chars ++ (low.chars ++ rest)) =
      (stringBody q.char start (position + 12) rest).map
        (·.push (Surrogate.pair high.unit low.unit) (high.chars ++ low.chars)) :=
  stringBody_of_pair start position (quote_ne_backslash q) high.value4? hhigh low.value4? hlow

/-- **A literal whose surrogates are paired** is read to its end. -/
theorem Paired.stringBody {q : Quote} {items : List Item} {cs : List Char} (h : Paired items cs)
    (hinside : ∀ i ∈ items, i.Inside q) (start position : Nat) (rest : List Char) :
    stringBody q.char start position (charsOf items ++ q.char :: rest) =
      .ok ⟨cs, charsOf items ++ [q.char], rest⟩ := by
  induction h generalizing position with
  | nil => exact stringBody_of_quote start position
  | @item i c items cs hc _ ih =>
    rw [List.forall_mem_cons] at hinside
    obtain ⟨position', hread⟩ := stringBody_item hinside.1 hc start position
    rw [charsOf_cons, List.append_assoc, hread, ih hinside.2, List.append_assoc]
    rfl
  | @pair high low items cs hhigh hlow _ ih =>
    rw [List.forall_mem_cons, List.forall_mem_cons] at hinside
    have hread := stringBody_pair q hhigh hlow start position (charsOf items ++ q.char :: rest)
    simp only [charsOf_cons, Item.chars, List.append_assoc]
    rw [hread, ih hinside.2.2]
    simp only [Except.map, StringBody.push, List.append_assoc]

/-! ## Surrogates that are not one of a pair -/

/-- **A surrogate is lone** if it is a high one without a low one behind it,
or a low one without a high one in front of it. -/
def Lone (before : List Item) (k : Code) (behind : List Char) : Prop :=
  (isHigh k.unit = true ∧ ∀ low : Code, isLow low.unit = true → ¬ low.chars <+: behind) ∨
    (isLow k.unit = true ∧ ∀ high : Code, isHigh high.unit = true →
      before.getLast? ≠ some (.code high))

/-- What is lone in a literal is lone in its tail. -/
theorem Lone.tail {i : Item} {items : List Item} {k : Code} {behind : List Char}
    (h : Lone (i :: items) k behind) : Lone items k behind := by
  refine h.imp_right fun ⟨hlow, hbefore⟩ => ⟨hlow, fun high hhigh hlast => ?_⟩
  refine hbefore high hhigh ?_
  rw [List.getLast?_cons, hlast]
  rfl

/-- What is lone in the tail of a literal is lone in it, unless it comes
first in the tail and is completed by the head. -/
theorem Lone.cons {i : Item} {items : List Item} {k : Code} {behind : List Char}
    (h : Lone items k behind)
    (hi : items = [] → ∀ high : Code, isHigh high.unit = true → i ≠ .code high) :
    Lone (i :: items) k behind := by
  refine h.imp_right fun ⟨hlow, hbefore⟩ => ⟨hlow, fun high hhigh hlast => ?_⟩
  rw [List.getLast?_cons, Option.some.injEq] at hlast
  cases hitems : items.getLast? with
  | none =>
    rw [hitems] at hlast
    exact hi (List.getLast?_eq_none_iff.1 hitems) high hhigh hlast
  | some j =>
    rw [hitems] at hlast
    exact hbefore high hhigh (hitems.trans (congrArg some hlast))

/-- The reading fails at a low surrogate, -/
theorem stringBody_low {low : Code} (q : Quote) (hlow : isLow low.unit = true)
    (start position : Nat) (rest : List Char) :
    ∃ e, stringBody q.char start position (low.chars ++ rest) = .error e := by
  have hhigh : ¬ isHigh low.unit = true := fun hhigh => Utf16.not_isLow_of_isHigh hhigh hlow
  rw [stringBody.eq_def]
  simp only [Code.chars, List.cons_append, List.nil_append, if_neg (quote_ne_backslash q).symm,
    if_pos, low.value4?, if_neg hhigh, hlow]
  exact ⟨_, rfl⟩

/-- and at a high one without a low one behind it. -/
theorem stringBody_high {high : Code} {rest : List Char} (q : Quote)
    (hhigh : isHigh high.unit = true)
    (hrest : ∀ low : Code, isLow low.unit = true → ¬ low.chars <+: rest) (start position : Nat) :
    ∃ e, stringBody q.char start position (high.chars ++ rest) = .error e := by
  rw [stringBody.eq_def]
  simp only [Code.chars, List.cons_append, List.nil_append, if_neg (quote_ne_backslash q).symm,
    if_pos, high.value4?, hhigh]
  split
  · rename_i l₁ l₂ l₃ l₄ r
    split
    · exact ⟨_, rfl⟩
    · rename_i n hn
      obtain ⟨k, hk, rfl⟩ := exists_code hn
      have hlow : ¬ isLow k.unit = true := fun hlow =>
        hrest k hlow ⟨r, by rw [hk]; rfl⟩
      rw [if_neg hlow]
      exact ⟨_, rfl⟩
  · exact ⟨_, rfl⟩
  · exact ⟨_, rfl⟩

/-- **The reading of a literal fails** if it comes to a lone surrogate,
whatever stands behind that. -/
theorem Lone.stringBody {q : Quote} {before : List Item} {k : Code} {behind : List Char}
    (h : Lone before k behind) (hinside : ∀ i ∈ before, i.Inside q) (start position : Nat) :
    ∃ e, stringBody q.char start position (charsOf before ++ (k.chars ++ behind)) = .error e := by
  induction before using items_induction generalizing position with
  | nil =>
    rcases h with ⟨hhigh, hbehind⟩ | ⟨hlow, -⟩
    · exact stringBody_high q hhigh hbehind start position
    · exact stringBody_low q hlow start position behind
  | item i c items hc ih =>
    rw [List.forall_mem_cons] at hinside
    obtain ⟨position', hread⟩ := stringBody_item hinside.1 hc start position
    obtain ⟨e, he⟩ := ih h.tail hinside.2 position'
    rw [charsOf_cons, List.append_assoc, hread, he]
    exact ⟨e, rfl⟩
  | pair high low items hhigh hlow ih =>
    rw [List.forall_mem_cons, List.forall_mem_cons] at hinside
    obtain ⟨e, he⟩ := ih h.tail.tail hinside.2.2 (position + 12)
    simp only [charsOf_cons, Item.chars, List.append_assoc]
    rw [stringBody_pair q hhigh hlow, he]
    exact ⟨e, rfl⟩
  | low low items hlow =>
    rw [charsOf_cons, List.append_assoc]
    exact stringBody_low q hlow start position _
  | high high items hhigh hnot =>
    rw [charsOf_cons, List.append_assoc]
    refine stringBody_high q hhigh (fun low hlow hprefix => ?_) start position
    cases items with
    | nil =>
      -- the code behind it is the one that is lone, and so not its own
      have hunit := Code.unit_eq hprefix
      rw [hunit] at hlow
      rcases h with ⟨hk, -⟩ | ⟨-, hbefore⟩
      · exact Utf16.not_isLow_of_isHigh hk hlow
      · exact hbefore high hhigh rfl
    | cons i items =>
      rw [charsOf_cons, List.append_assoc] at hprefix
      obtain ⟨m, rfl, hm⟩ := Item.exists_code (hinside i (by simp)) hprefix
      exact hnot m items rfl (hm ▸ hlow)

/-- **A literal denotes a string** or has a lone surrogate. -/
theorem paired_or_lone {q : Quote} (items : List Item) (hinside : ∀ i ∈ items, i.Inside q) :
    (∃ cs, Paired items cs) ∨
      ∃ before k after, items = before ++ .code k :: after ∧
        Lone before k (charsOf after ++ [q.char]) := by
  induction items using items_induction with
  | nil => exact .inl ⟨[], .nil⟩
  | item i c items hc ih =>
    rw [List.forall_mem_cons] at hinside
    refine (ih hinside.2).imp (fun ⟨cs, hcs⟩ => ⟨c :: cs, .item hc hcs⟩) ?_
    rintro ⟨before, k, after, rfl, hlone⟩
    refine ⟨i :: before, k, after, rfl, hlone.cons ?_⟩
    rintro - high hhigh rfl
    simp [Item.char?, hhigh] at hc
  | pair high low items hhigh hlow ih =>
    rw [List.forall_mem_cons, List.forall_mem_cons] at hinside
    refine (ih hinside.2.2).imp (fun ⟨cs, hcs⟩ => ⟨_, .pair hhigh hlow hcs⟩) ?_
    rintro ⟨before, k, after, rfl, hlone⟩
    refine ⟨.code high :: .code low :: before, k, after, rfl, (hlone.cons ?_).cons nofun⟩
    rintro - high' hhigh' ⟨⟩
    exact Utf16.not_isLow_of_isHigh hhigh' hlow
  | low low items hlow => exact .inr ⟨[], low, items, rfl, .inr ⟨hlow, nofun⟩⟩
  | high high items hhigh hnot =>
    refine .inr ⟨[], high, items, rfl, .inl ⟨hhigh, fun low hlow hprefix => ?_⟩⟩
    cases items with
    | nil =>
      rw [charsOf_nil, List.nil_append, Code.chars, List.cons_prefix_cons] at hprefix
      exact quote_ne_backslash q hprefix.1.symm
    | cons i items =>
      rw [charsOf_cons, List.append_assoc] at hprefix
      obtain ⟨m, rfl, hm⟩ := Item.exists_code (hinside i (by simp)) hprefix
      exact hnot m items rfl (hm ▸ hlow)

/-! ## Literals in texts -/

/-- A literal whose surrogates are paired is one token. -/
theorem Paired.lexemes {q : Quote} {items : List Item} {cs : List Char} (h : Paired items cs)
    (hinside : ∀ i ∈ items, i.Inside q) :
    lexemes (String.ofList (literal q items)) =
      .ok [⟨.text (String.ofList cs), literal q items, 0⟩] := by
  have hnext : next 0 (literal q items) = .ok ⟨.text (String.ofList cs), literal q items, []⟩ := by
    rw [literal, next_of_quote, h.stringBody hinside]
    rfl
  rw [Condition.lexemes, String.toList_ofList]
  unfold literal at hnext ⊢
  rw [Alike.lexemesFrom_of_next (not_isBlank_quote q) hnext, lexemesFrom]
  rfl

/-- A text does not split into tokens if it comes to a literal with a lone
surrogate. -/
theorem Lone.lexemes {q : Quote} {before : List Item} {k : Code} {behind cs : List Char}
    {ts : List Token} (h : Lone before k behind) (hinside : ∀ i ∈ before, i.Inside q)
    (hcs : Lexes cs ts (q.char :: (charsOf before ++ (k.chars ++ behind)))) :
    ∃ e, lexemes (String.ofList cs) = .error e := by
  obtain ⟨ls, position, -, hls⟩ := hcs 0
  obtain ⟨e, he⟩ := h.stringBody hinside position (position + 1)
  have hnext : next position (q.char :: (charsOf before ++ (k.chars ++ behind))) = .error e := by
    rw [next_of_quote, he]
    rfl
  rw [Condition.lexemes, String.toList_ofList, hls,
    Alike.lexemesFrom_of_error (not_isBlank_quote q) hnext]
  exact ⟨e, rfl⟩

/-- **Strings are spelled as in JSON.** A literal of JSON that denotes a
string is one token, of this string. A pair of surrogates is never an invalid
character, and it is the one with these code units. A lone surrogate in a
literal, in front of whatever it stands and whatever comes before the literal,
is a failure; and a literal of JSON that has none denotes a string. -/
theorem spelling_as_in_json :
    (∀ items s, (∀ i ∈ items, i.InJson) → Denotes items s →
      lexemes (String.ofList (literal .double items)) =
        .ok [⟨.text s, literal .double items, 0⟩]) ∧
    (∀ high low, isHigh high = true → isLow low = true →
      (Surrogate.codePoint high low).isValidChar ∧
        Utf16.units (Surrogate.pair high low) = [high, low]) ∧
    (∀ (q : Quote) before k behind cs ts, (∀ i ∈ before, i.Inside q) → Lone before k behind →
      Lexes cs ts (q.char :: (charsOf before ++ (k.chars ++ behind))) →
      ∃ e, lexemes (String.ofList cs) = .error e) ∧
    ∀ items, (∀ i ∈ items, i.InJson) →
      (∃ s, Denotes items s) ∨ ∃ before k after, items = before ++ .code k :: after ∧
        Lone before k (charsOf after ++ [Quote.double.char]) := by
  refine ⟨fun items s hjson hs => ?_, fun high low hhigh hlow => ?_,
    fun q before k behind cs ts hinside hlone hcs => hlone.lexemes hinside hcs,
    fun items hjson => ?_⟩
  · have hpaired : Paired items s.toList := paired_iff.2 hs
    have hlexemes := hpaired.lexemes fun i hi => (hjson i hi).inside
    rwa [String.ofList_toList] at hlexemes
  · exact ⟨Surrogate.pair_valid hhigh hlow, Utf16.units_pair hhigh hlow⟩
  · refine (paired_or_lone items fun i hi => (hjson i hi).inside).imp_left fun ⟨cs, hcs⟩ => ?_
    exact ⟨String.ofList cs, by rw [Denotes, String.toList_ofList, paired_iff.1 hcs]⟩

/-- The code of the high surrogate of a face, -/
def faceHigh : Code := ⟨⟨13, false⟩, ⟨8, false⟩, ⟨3, false⟩, ⟨13, false⟩⟩

/-- and the one of the low surrogate. -/
def faceLow : Code := ⟨⟨13, true⟩, ⟨14, true⟩, ⟨0, true⟩, ⟨0, true⟩⟩

/-- Items of every kind, with small and capital digits. -/
def faceItems : List Item :=
  [.plain 'a', .escape .lineFeed, .code ⟨⟨0, false⟩, ⟨0, false⟩, ⟨14, false⟩, ⟨11, true⟩⟩,
    .code faceHigh, .code faceLow]

/-- A face that is spelled as a pair, and half of one in single quotes behind
a name. -/
theorem spelling_as_in_json_face :
    lexemes (String.ofList ['"', 'a', '\\', 'n', '\\', 'u', '0', '0', 'e', 'B', '\\', 'u', 'd', '8',
      '3', 'd', '\\', 'u', 'D', 'E', '0', '0', '"']) =
      .ok [⟨.text (String.ofList ['a', '\n', 'ë', '😀']), literal .double faceItems, 0⟩] ∧
    Utf16.units '😀' = [0xD83D, 0xDE00] ∧
    ∃ e, lexemes (String.ofList ['x', '.', '\'', 'a', '\\', 'u', 'd', '8', '3', 'd', 'a', '\'']) =
      .error e := by
  obtain ⟨hread, hpair, hlone, -⟩ := spelling_as_in_json
  have hjson : ∀ i ∈ faceItems, i.InJson := by
    simp [faceItems, Item.InJson]
  have hhalf : Lone [.plain 'a'] faceHigh ['a', '\''] :=
    .inl ⟨rfl, fun low _ hprefix => absurd (List.cons_prefix_cons.1 hprefix).1 (by decide)⟩
  have hfront : Lexes ['x', '.', '\'', 'a', '\\', 'u', 'd', '8', '3', 'd', 'a', '\'']
      [.name (String.ofList ['x']), .dot] ['\'', 'a', '\\', 'u', 'd', '8', '3', 'd', 'a', '\''] :=
    .append (lexes_of_next (by decide) fun _ => ⟨_, rfl⟩) (SymbolToken.dot.lexes _)
  exact ⟨hread faceItems _ hjson rfl, (hpair 0xD83D 0xDE00 rfl rfl).2,
    hlone .single [.plain 'a'] faceHigh ['a', '\''] _ _ (by simp [Item.Inside, Quote.char])
      hhalf hfront⟩

end Spelling

end Condition

end PromptTemplate
