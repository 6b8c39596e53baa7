import PromptTemplate.Value
/-!
# PromptTemplate — what stands in a value

`v.Holds s` says that a string is a value or stands inside it, below any
number of arrays and fields; keys do not count. `mem_strings` says that
`strings` lists just these.

`v.Nests depth w` says of any value that it stands in another one, and how
many levels below it.

`withField` sets one field of an object and leaves the others.
-/

namespace PromptTemplate

namespace Value

/-- A string is a value, or stands in it at any depth. -/
inductive Holds : Value → String → Prop
  | string (s : String) : Holds (.string s) s
  | item {items : List Value} {v : Value} {s : String} : v ∈ items → Holds v s →
      Holds (.array items) s
  | field {fields : Table Value} {key : String} {v : Value} {s : String} :
      (key, v) ∈ fields.toList → Holds v s → Holds (.object fields) s

theorem mem_itemStrings {items : List Value} {s : String} :
    s ∈ itemStrings items ↔ ∃ v ∈ items, s ∈ v.strings := by
  induction items with
  | nil => simp [itemStrings]
  | cons v vs ih => simp [itemStrings, ih]

theorem mem_fieldStrings {lo : Option String} {fields : Entries Value lo} {s : String} :
    s ∈ fieldStrings fields ↔ ∃ e ∈ fields.toList, s ∈ e.2.strings := by
  induction fields with
  | nil => simp [fieldStrings, Entries.toList]
  | cons k hk v rest ih => simp [fieldStrings, Entries.toList, ih]

/-- **The listed strings** are those that stand in a value at any depth. -/
theorem mem_strings {v : Value} {s : String} : s ∈ v.strings ↔ v.Holds s := by
  induction v using Value.induction with
  | null | bool | number =>
    constructor
    · intro h
      simp [strings] at h
    · rintro ⟨⟩
  | string t =>
    constructor
    · intro h
      obtain rfl : s = t := by simpa [strings] using h
      exact .string s
    · rintro ⟨⟩
      simp [strings]
  | array items ih =>
    rw [strings, mem_itemStrings]
    constructor
    · rintro ⟨v, hv, hs⟩
      exact .item hv ((ih v hv).1 hs)
    · rintro ⟨⟩
      rename_i v hv hs
      exact ⟨v, hv, (ih v hv).2 hs⟩
  | object fields ih =>
    rw [strings, mem_fieldStrings]
    constructor
    · rintro ⟨⟨key, v⟩, he, hs⟩
      exact .field he ((ih _ he).1 hs)
    · rintro ⟨⟩
      rename_i key v he hs
      exact ⟨(key, v), he, (ih _ he).2 hs⟩

/-- A value has another one directly in it, as an item or in a field. -/
inductive Has : Value → Value → Prop
  | item {items : List Value} {v : Value} (mem : v ∈ items) : Has (.array items) v
  | field {fields : Table Value} {key : String} {v : Value} (mem : (key, v) ∈ fields.toList) :
      Has (.object fields) v

/-- A value has another one in it, a number of levels below. -/
inductive Nests : Value → Nat → Value → Prop
  | self (v : Value) : Nests v 0 v
  | inside {v u w : Value} {depth : Nat} (has : v.Has u) (nests : Nests u depth w) :
      Nests v (depth + 1) w

/-- What holds of all that nests in a value holds of the value and of all
that nests in what it has. -/
theorem forall_nests_iff {P : Nat → Value → Prop} {v : Value} :
    (∀ depth w, v.Nests depth w → P depth w) ↔
      P 0 v ∧ ∀ u, v.Has u → ∀ depth w, u.Nests depth w → P (depth + 1) w := by
  constructor
  · intro h
    exact ⟨h 0 v (.self v), fun u hu depth w hw => h (depth + 1) w (.inside hu hw)⟩
  · rintro ⟨hself, hinside⟩ depth w hw
    cases hw with
    | self => exact hself
    | inside hu hw => exact hinside _ hu _ w hw

/-- An object with another value in a field. -/
def withField (v : Value) (key : String) (w : Value) : Value :=
  match v with
  | .object fields => .object (Table.insert fields key w)
  | v => v

/-- It stays an object. -/
theorem isNone_object?_withField {v : Value} (h : v.object?.isNone = false) (key : String)
    (w : Value) : (v.withField key w).object?.isNone = false := by
  cases v with
  | object fields => rfl
  | null | bool | number | string | array => cases h

/-- The fields of an object beside the one that is set stay as they are. -/
theorem field?_withField {v w : Value} (h : v.object?.isNone = false) (key other : String) :
    (v.withField key w).field? other = if other = key then some w else v.field? other := by
  cases v with
  | object fields => exact Table.find?_insert fields key w other
  | null | bool | number | string | array => cases h

end Value

end PromptTemplate
