import PromptTemplate.Proofs.Path.Grammar
/-!
# PromptTemplate — chains of accesses, read as paths

A chain is a root name and then accesses, each to a name, to a position or
to a quoted key: `users[-1]['first name'].length`. Paths and conditions
have texts of this form in common. The parts of a chain carry what makes
their texts readable in both: a name is an identifier and no word of the
conditions, a position is written without superfluous zeros and is a signed
word of 64 bits, and a key has neither backslashes nor its own quote in it.

A chain is a tree of the grammar of paths (`Chain.tree`), and its text spells
this tree. So it is read as the steps of the chain: `parse_text`.
-/

namespace PromptTemplate

namespace Path

open Condition (Quote isNameStart isNamePart EndsRun)

/-! ## Chains -/

/-- The words of conditions. -/
def keywords : List String := ["true", "false", "null", "and", "or", "not", "in"]

/-- A name: a letter, an underscore or a dollar sign, more of these and
digits, all of them in ASCII, and no word of the conditions. -/
structure Identifier where
  first : Char
  rest : List Char
  starts : isNameStart first = true
  continues : ∀ c ∈ rest, isNamePart c = true
  free : String.ofList (first :: rest) ∉ keywords

namespace Identifier

/-- The characters of a name. -/
def chars (x : Identifier) : List Char := x.first :: x.rest

/-- A name as a string. -/
def text (x : Identifier) : String := String.ofList x.chars

end Identifier

/-- A decimal integer, with a minus sign or without, that is a signed word
of 64 bits. -/
structure Numeral where
  negative : Bool
  magnitude : Nat
  inRange : magnitude < 1 <<< 63 ∨ negative = true ∧ magnitude = 1 <<< 63

namespace Numeral

/-- The characters of a numeral: its sign and its digits, without
superfluous zeros. -/
def chars (n : Numeral) : List Char :=
  if n.negative then '-' :: Double.digitText n.magnitude else Double.digitText n.magnitude

/-- The integer that a numeral stands for. -/
def value (n : Numeral) : Int := if n.negative then -n.magnitude else n.magnitude

end Numeral

/-- A quoted key: some characters, none of them a backslash or the quote
that it stands between. -/
structure QuotedKey where
  quote : Quote
  chars : List Char
  nonempty : chars ≠ []
  verbatim : ∀ c ∈ chars, c ≠ quote.char ∧ c ≠ '\\'

/-- One access of a chain. -/
inductive Access
  /-- `.name` -/
  | name (x : Identifier)
  /-- `[n]` -/
  | position (n : Numeral)
  /-- `['key']` or `["key"]` -/
  | key (k : QuotedKey)

namespace Access

/-- The characters of an access. -/
def chars : Access → List Char
  | .name x => '.' :: x.chars
  | .position n => '[' :: (n.chars ++ [']'])
  | .key k => '[' :: k.quote.char :: (k.chars ++ [k.quote.char, ']'])

/-- The step of a path that an access is. -/
def step : Access → Step
  | .name x => .property x.text
  | .position n => .index n.value
  | .key k => .property (String.ofList k.chars)

end Access

/-- A chain of accesses behind a root name. -/
structure Chain where
  root : Identifier
  accesses : List Access

/-- The text of a chain. -/
def Chain.text (c : Chain) : String :=
  String.ofList (c.root.chars ++ c.accesses.flatMap Access.chars)

/-- The steps of a chain. -/
def Chain.steps (c : Chain) : List Step := .property c.root.text :: c.accesses.map Access.step

/-! ## Names -/

/-- What may stand in a name of a condition may stand in one of a path. -/
theorem isNameChar_of_isNamePart {c : Char} (h : isNamePart c = true) : isNameChar c = true := by
  have hcode := Condition.toNat_of_isNamePart h
  simp only [isNameChar, Text.isAlphanumeric_of_ascii (show c.toNat < 0x80 by omega)]
  simp only [isNamePart, Bool.or_eq_true] at h ⊢
  exact .inl h

/-- Names are made of the characters of names. -/
theorem Identifier.isNamePart_of_mem (x : Identifier) {c : Char} (h : c ∈ x.chars) :
    isNamePart c = true := by
  rcases List.mem_cons.1 h with rfl | h
  · exact Condition.isNamePart_of_isNameStart x.starts
  · exact x.continues c h

/-- A chain goes on with an access, which does not go on with the name in
front of it. -/
theorem endsRun_accesses {test : Char → Bool} (hdot : test '.' = false) (hopen : test '[' = false)
    (accesses : List Access) : EndsRun test (accesses.flatMap Access.chars) := by
  intro c hc
  cases accesses with
  | nil => cases hc
  | cons a accesses =>
    cases a <;> cases hc
    · exact hdot
    · exact hopen
    · exact hopen

/-! ## Chains as trees -/

/-- An identifier as a name of paths. -/
def Identifier.name (x : Identifier) : Name :=
  ⟨x.chars, List.cons_ne_nil _ _, fun _ hc => isNameChar_of_isNamePart (x.isNamePart_of_mem hc)⟩

/-- The digits of a numeral. -/
def Numeral.digits (n : Numeral) : Digits :=
  ⟨Double.digitText n.magnitude, Number.digitText_ne_nil, fun _ => Number.isDigit_of_mem_digitText⟩

theorem Numeral.value_digits (n : Numeral) : n.digits.value = n.magnitude := by
  rw [Digits.value, digits, Number.natOfDigits_digitText]

theorem Numeral.value_eq (n : Numeral) :
    n.value = if n.negative then -n.digits.value else n.digits.value := by
  rw [value_digits, value]

theorem Numeral.isWord (n : Numeral) : IsWord n.value := by
  unfold IsWord value
  rcases n.inRange with hrange | ⟨hnegative, hrange⟩
  · split <;> constructor <;> omega
  · rw [if_pos hnegative]
    constructor <;> omega

/-- A numeral as an index. -/
def Numeral.index (n : Numeral) : Index := .position n.negative n.digits (n.value_eq ▸ n.isWord)

/-- A quoted key as an index. -/
def QuotedKey.index (k : QuotedKey) : Index :=
  .key k.quote k.chars k.nonempty fun h => (k.verbatim _ h).1 rfl

/-- An access as a part of a path. -/
def Access.part : Access → Part
  | .name x => .name x.name
  | .position n => .index n.index
  | .key k => .index k.index

/-- A chain as a path. -/
def Chain.tree (c : Chain) : Tree := ⟨c.root.name, c.accesses.map Access.part⟩

theorem Access.step_part (a : Access) : a.part.step = a.step := by
  cases a with
  | name x => rfl
  | position n => rw [step, n.value_eq]; rfl
  | key k => rfl

theorem Chain.steps_tree (c : Chain) : c.tree.steps = c.steps := by
  have hsteps : (c.accesses.map Access.part).map Part.step = c.accesses.map Access.step := by
    rw [List.map_map]
    exact List.map_congr_left fun a _ => a.step_part
  rw [Tree.steps, tree, hsteps]
  rfl

/-- Accesses are spelled as the parts that they are. -/
theorem spells_accesses (accesses : List Access) :
    Spells (accesses.map Access.part) (accesses.flatMap Access.chars) := by
  induction accesses with
  | nil => exact .nil
  | cons a accesses ih =>
    rw [List.map_cons, List.flatMap_cons]
    cases a with
    | name x => exact .name ih
    | position n =>
      have hchars : (Access.position n).chars ++ accesses.flatMap Access.chars =
          '[' :: (n.index.chars ++ ']' :: accesses.flatMap Access.chars) := by
        simp [Access.chars, Numeral.index, Numeral.chars, Numeral.digits, Index.chars]
      rw [hchars]
      exact .index n.index.trim_chars ih
    | key k =>
      have hchars : (Access.key k).chars ++ accesses.flatMap Access.chars =
          '[' :: (k.index.chars ++ ']' :: accesses.flatMap Access.chars) := by
        simp [Access.chars, QuotedKey.index, Index.chars]
      rw [hchars]
      exact .index k.index.trim_chars ih

/-! ## Chains are paths -/

/-- An access ends in a bracket or in a name, and not in a blank, -/
theorem Access.not_isBlank_of_mem_getLast? (a : Access) {c : Char} (h : c ∈ a.chars.getLast?) :
    Text.isBlank c = false := by
  cases a with
  | name x =>
    rcases List.mem_cons.1 (List.mem_of_getLast? h) with rfl | hc
    · decide
    · exact Bool.eq_false_iff.2 (Condition.not_isBlank_of_isNamePart (x.isNamePart_of_mem hc))
  | position n =>
    rw [chars, ← List.cons_append, List.getLast?_concat] at h
    cases h
    decide
  | key k =>
    have hlast : (Access.key k).chars =
        '[' :: k.quote.char :: (k.chars ++ [k.quote.char]) ++ [']'] := by simp [chars]
    rw [hlast, List.getLast?_concat] at h
    cases h
    decide

/-- and so does a chain of accesses behind a text that does not. -/
theorem not_isBlank_of_mem_getLast? {accesses : List Access} {front : List Char}
    (hfront : ∀ c ∈ front.getLast?, Text.isBlank c = false) {c : Char}
    (hc : c ∈ (front ++ accesses.flatMap Access.chars).getLast?) : Text.isBlank c = false := by
  induction accesses generalizing front with
  | nil =>
    rw [List.flatMap_nil, List.append_nil] at hc
    exact hfront c hc
  | cons a accesses ih =>
    rw [List.flatMap_cons, ← List.append_assoc] at hc
    refine ih (fun d hd => ?_) hc
    rw [List.getLast?_append] at hd
    rcases Option.or_eq_some_iff.1 hd with hd | ⟨-, hd⟩
    · exact a.not_isBlank_of_mem_getLast? hd
    · exact hfront d hd

/-- **A chain is a path** with its steps. -/
theorem parse_text (c : Chain) : parse c.text = .ok c.steps := by
  have hblank : ∀ x ∈ c.root.chars, Text.isBlank x = false := fun x hx =>
    Bool.eq_false_iff.2 (Condition.not_isBlank_of_isNamePart (c.root.isNamePart_of_mem hx))
  have htrim : Text.trim c.text.toList = c.root.chars ++ c.accesses.flatMap Access.chars := by
    rw [Chain.text, String.toList_ofList]
    refine Text.trim_eq_self (fun x hx => ?_) fun x hx => ?_
    · cases hx
      exact hblank _ List.mem_cons_self
    · exact not_isBlank_of_mem_getLast? (fun y hy => hblank y (List.mem_of_getLast? hy)) hx
  exact parse_eq_ok_iff.2 ⟨c.tree, ⟨_, spells_accesses c.accesses, htrim⟩, c.steps_tree⟩

end Path

end PromptTemplate
