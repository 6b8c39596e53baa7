/-!
# PromptTemplate — tables kept in key order

Every collection of named things here (the fields of an object, the
instruction types of a schema) is listed by key, in the order of code
points, and a key stands in it once. The type carries both: `Entries α lo`
holds entries whose keys rise strictly from above `lo`, and a `Table` is
a run of entries without a lower bound. `find?_insert` is the law of
insertion, and `ext_find?` says that a table is determined by what can be
looked up in it.
-/

namespace PromptTemplate

/-- A key lies above a bound, where there is one. -/
def Above (lo : Option String) (key : String) : Prop :=
  ∀ k, lo = some k → k < key

/-- Every key lies above no bound. -/
theorem above_none (key : String) : Above none key := by
  intro k h
  cases h

/-- Above a given key is what is greater. -/
theorem above_some {k key : String} : Above (some k) key ↔ k < key := by
  constructor
  · intro h
    exact h k rfl
  · rintro h k' ⟨rfl⟩
    exact h

/-- Entries whose keys rise strictly and lie above `lo`. -/
inductive Entries (α : Type) : Option String → Type
  | nil {lo : Option String} : Entries α lo
  | cons {lo : Option String} (key : String) (above : Above lo key) (value : α)
      (rest : Entries α (some key)) : Entries α lo

/-- A table: entries in key order, each key once. -/
abbrev Table (α : Type) : Type := Entries α none

namespace Entries

variable {α β ε : Type} {lo : Option String}

/-- The value stored under a key. -/
def find? : {lo : Option String} → Entries α lo → String → Option α
  | _, .nil, _ => none
  | _, .cons k _ v rest, key => if key = k then some v else rest.find? key

/-- Whether a key occurs. -/
def contains (t : Entries α lo) (key : String) : Bool := (t.find? key).isSome

/-- The entries as pairs, in key order. -/
def toList : {lo : Option String} → Entries α lo → List (String × α)
  | _, .nil => []
  | _, .cons k _ v rest => (k, v) :: rest.toList

/-- The keys, in order. -/
def keys (t : Entries α lo) : List String := t.toList.map (·.1)

/-- The values, in key order. -/
def values (t : Entries α lo) : List α := t.toList.map (·.2)

/-- The number of entries. -/
def size : {lo : Option String} → Entries α lo → Nat
  | _, .nil => 0
  | _, .cons _ _ _ rest => rest.size + 1

/-- Whether there is no entry. -/
def isEmpty : Entries α lo → Bool
  | .nil => true
  | .cons .. => false

/-- Stores a value under a key above the bound, in place of the value
that stood there. -/
def insertAbove : {lo : Option String} → Entries α lo → (key : String) → Above lo key → α →
    Entries α lo
  | _, .nil, key, h, v => .cons key h v .nil
  | _, .cons k hk w rest, key, h, v =>
    if lt : key < k then .cons key h v (.cons k (above_some.2 lt) w rest)
    else if gt : k < key then .cons k hk w (rest.insertAbove key (above_some.2 gt) v)
    else .cons k hk v rest

/-- Entries above a bound, taken as entries above a lower one. -/
def lowered : {lo : Option String} → {key : String} → Above lo key → Entries α (some key) →
    Entries α lo
  | _, _, _, .nil => .nil
  | _, _, h, .cons k hk v rest =>
    .cons k (fun l hl => String.lt_trans (h l hl) (above_some.1 hk)) v rest

/-- The entries without the one under a key. -/
def erase : {lo : Option String} → Entries α lo → String → Entries α lo
  | _, .nil, _ => .nil
  | _, .cons k hk v rest, key => if key = k then lowered hk rest else .cons k hk v (rest.erase key)

/-- Applies a function to every value. -/
def map (f : α → β) : {lo : Option String} → Entries α lo → Entries β lo
  | _, .nil => .nil
  | _, .cons k h v rest => .cons k h (f v) (rest.map f)

/-- Applies a function that may fail to every entry, in key order, and
stops at the first failure. -/
def mapE (f : String → α → Except ε β) : {lo : Option String} → Entries α lo →
    Except ε (Entries β lo)
  | _, .nil => .ok .nil
  | _, .cons k h v rest => do
    let w ← f k v
    let rest' ← rest.mapE f
    return .cons k h w rest'

/-- The first entry a function accepts, in key order. -/
def findSome? (f : String → α → Option β) (t : Entries α lo) : Option β :=
  t.toList.findSome? fun e => f e.1 e.2

theorem key_ne_of_above {k key : String} (h : Above (some k) key) : key ≠ k := by
  rintro rfl
  exact String.lt_irrefl _ (above_some.1 h)

/-- Nothing is stored under a key at or below the bound. -/
theorem find?_of_not_above (t : Entries α lo) {key : String} (h : ¬ Above lo key) :
    t.find? key = none := by
  induction t with
  | nil => rfl
  | cons k hk v rest ih =>
    have hne : key ≠ k := by
      rintro rfl
      exact h hk
    have hnot : ¬ Above (some k) key := by
      intro hkey
      refine h fun l hl => String.lt_trans (hk l hl) (above_some.1 hkey)
    simp [find?, hne, ih hnot]

/-- **Insertion.** After an insertion the key holds the new value, and
every other key what it held. -/
theorem find?_insertAbove (t : Entries α lo) (key : String) (h : Above lo key) (v : α)
    (other : String) :
    (t.insertAbove key h v).find? other = if other = key then some v else t.find? other := by
  induction t with
  | nil => simp [insertAbove, find?]
  | cons k hk w rest ih =>
    unfold insertAbove
    split
    · simp [find?]
    · rename_i hlt
      split
      · rename_i hgt
        by_cases ho : other = k
        · subst ho
          have : other ≠ key := fun e => String.lt_irrefl key (e ▸ hgt)
          simp [find?, this]
        · simp [find?, ho, ih]
      · rename_i hgt
        have he : key = k := String.le_antisymm (String.not_lt.1 hgt) (String.not_lt.1 hlt)
        subst he
        by_cases ho : other = key <;> simp [find?, ho]

/-- A lower bound changes no look-up. -/
@[simp] theorem find?_lowered {key : String} (h : Above lo key) (t : Entries α (some key))
    (other : String) : (lowered h t).find? other = t.find? other := by
  cases t <;> rfl

/-- **Erasing.** What has been erased is not found, and every other key
holds what it held. -/
@[simp] theorem find?_erase (t : Entries α lo) (key other : String) :
    (t.erase key).find? other = if other = key then none else t.find? other := by
  induction t with
  | nil => simp [erase, find?]
  | cons k hk v rest ih =>
    unfold erase
    split
    · rename_i he
      subst he
      by_cases ho : other = key
      · subst ho
        rw [find?_lowered, find?_of_not_above rest fun hc => key_ne_of_above hc rfl]
        simp
      · simp [find?, ho]
    · rename_i hne
      by_cases ho : other = k
      · subst ho
        simp [find?, Ne.symm hne]
      · simp [find?, ho, ih]

/-- **A table is determined by its look-ups.** -/
theorem ext_find? {s t : Entries α lo} (h : ∀ key, s.find? key = t.find? key) : s = t := by
  induction s with
  | nil =>
    cases t with
    | nil => rfl
    | cons k _ v rest =>
      have := h k
      simp [find?] at this
  | cons k hk v rest ih =>
    cases t with
    | nil =>
      have := h k
      simp [find?] at this
    | cons k' hk' v' rest' =>
      have hkk : k = k' := by
        rcases Classical.em (k = k') with he | hne
        · exact he
        · exfalso
          have hl := h k
          have hr := h k'
          simp only [find?, if_true, hne, if_false, Ne.symm hne] at hl hr
          have habove : Above (some k') k := Classical.byContradiction fun hc => by
            rw [find?_of_not_above rest' hc] at hl
            cases hl
          have habove' : Above (some k) k' := Classical.byContradiction fun hc => by
            rw [find?_of_not_above rest hc] at hr
            cases hr
          exact String.lt_irrefl _
            (String.lt_trans (above_some.1 habove) (above_some.1 habove'))
      subst hkk
      have hv : v = v' := by
        have := h k
        simpa [find?] using this
      subst hv
      have hrest : rest = rest' := ih fun key => by
        rcases Classical.em (key = k) with he | hne
        · subst he
          have hnot : ¬ Above (some key) key := fun hc => key_ne_of_above hc rfl
          rw [find?_of_not_above rest hnot, find?_of_not_above rest' hnot]
        · have := h key
          simpa [find?, hne] using this
      rw [hrest]

end Entries

namespace Table

variable {α : Type}

/-- The empty table. -/
def empty : Table α := .nil

/-- Stores a value under a key, in place of the value that stood there. -/
def insert (t : Table α) (key : String) (v : α) : Table α :=
  t.insertAbove key (above_none key) v

/-- The table of a list of entries; of two entries under one key the
later stays. -/
def ofList (entries : List (String × α)) : Table α :=
  entries.foldl (fun t e => t.insert e.1 e.2) empty

/-- Lays the entries of a second table over the first. -/
def override (below above : Table α) : Table α :=
  above.toList.foldl (fun t e => t.insert e.1 e.2) below

/-- After an insertion the key holds the new value, and every other key
what it held. -/
@[simp] theorem find?_insert (t : Table α) (key : String) (v : α) (other : String) :
    (t.insert key v).find? other = if other = key then some v else t.find? other :=
  t.find?_insertAbove key (above_none key) v other

end Table

end PromptTemplate
