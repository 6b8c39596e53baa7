import PromptTemplate.Template.Decode
import PromptTemplate.Template.Encode
/-!
# PromptTemplate — fields that are read and written

Documents are read field by field with readers, and written field by field
with writers. A reader and a writer belong together if what is read is just
what is written (`Inverts`); then a field is read exactly if it holds what
would be written, be it required (`required?_eq_some`) or optional
(`optional?_eq_some`). What is written stands where it is looked for:
`field?_ofFields`.
-/

namespace PromptTemplate

namespace Value

variable {α β : Type} {read : Value → Option α} {write : α → Value} {v : Value} {key : String}

/-! ## Readers -/

/-- A reader reads what a writer writes, and nothing else. -/
structure Inverts (read : Value → Option α) (write : α → Value) : Prop where
  eq_some {v : Value} {a : α} : read v = some a ↔ v = write a

theorem string?_inverts : Inverts string? string where
  eq_some {v s} := by cases v <;> simp [string?]

theorem array?_inverts : Inverts array? array where
  eq_some {v items} := by cases v <;> simp [array?]

theorem object?_inverts : Inverts object? object where
  eq_some {v fields} := by cases v <;> simp [object?]

/-- Strings are read one by one. -/
theorem mapM_string?_eq_some {items : List Value} {texts : List String} :
    items.mapM string? = some texts ↔ items = texts.map string := by
  induction items generalizing texts with
  | nil => cases texts <;> simp
  | cons v items ih =>
    simp only [List.mapM_cons, Option.bind_eq_bind, Option.bind_eq_some_iff,
      string?_inverts.eq_some, ih]
    cases texts with
    | nil => simp
    | cons s texts =>
      constructor
      · rintro ⟨s, rfl, texts, rfl, h⟩
        cases h
        rfl
      · intro h
        cases h
        exact ⟨s, rfl, texts, rfl, rfl⟩

theorem strings?_inverts : Inverts strings? ofStrings where
  eq_some {v texts} := by
    rw [strings?, Option.bind_eq_some_iff]
    constructor
    · rintro ⟨items, hitems, htexts⟩
      rw [array?_inverts.eq_some.1 hitems, mapM_string?_eq_some.1 htexts, ofStrings]
    · rintro rfl
      exact ⟨_, rfl, mapM_string?_eq_some.2 rfl⟩

/-- **A required field** is read if it holds what would be written. -/
theorem required?_eq_some (h : Inverts read write) {a : α} :
    v.required? key read = some a ↔ v.field? key = some (write a) := by
  rw [required?, Option.bind_eq_some_iff]
  constructor
  · rintro ⟨w, hfield, hread⟩
    rw [hfield, h.eq_some.1 hread]
  · intro hfield
    exact ⟨_, hfield, h.eq_some.2 rfl⟩

/-- The items of a branch stand in its field. -/
theorem branch?_eq_some {items : List Value} :
    v.branch? key = some items ↔ v.field? key = some (.array items) :=
  required?_eq_some array?_inverts

/-- **An optional field** is read if it holds what would be written, or
nothing if nothing would be. -/
theorem optional?_eq_some (h : Inverts read write) {a : Option α} :
    v.optional? key read = some a ↔ v.field? key = a.map write := by
  unfold optional?
  cases v.field? key with
  | none => cases a <;> simp
  | some w => cases a <;> simp [h.eq_some]

/-- An optional field whose content is read further is read if it holds what
would be written of something that can be read. -/
theorem optional?_bind_eq_some (h : Inverts read write) {next : α → Option β} {b : Option β} :
    v.optional? key (fun w => (read w).bind next) = some b ↔
      ∃ a : Option α, v.field? key = a.map write ∧ a.map next = b.map some := by
  unfold optional?
  cases v.field? key with
  | none =>
    constructor
    · intro hnone
      cases hnone
      exact ⟨none, rfl, rfl⟩
    · rintro ⟨a, hfield, hnext⟩
      cases a <;> cases b <;> simp_all
  | some w =>
    simp only [Option.map_eq_some_iff, Option.bind_eq_some_iff, h.eq_some]
    constructor
    · rintro ⟨b, ⟨a, rfl, hnext⟩, rfl⟩
      exact ⟨some a, rfl, congrArg some hnext⟩
    · rintro ⟨a, hfield, hnext⟩
      obtain ⟨a, rfl, rfl⟩ := Option.map_eq_some_iff.1 hfield.symm
      obtain ⟨b, rfl, hb⟩ := Option.map_eq_some_iff.1 hnext.symm
      exact ⟨b, ⟨a, rfl, hb.symm⟩, rfl⟩

/-! ## Written objects -/

/-- A key that is not among those of a list is not found in it. -/
theorem lookup_eq_none {entries : List (String × α)} (h : key ∉ entries.map Prod.fst) :
    entries.lookup key = none := by
  rw [List.lookup_eq_none_iff]
  intro e he
  have hne : key ≠ e.1 := by
    rintro rfl
    exact h (List.mem_map_of_mem he)
  simpa using hne

/-- Of fields under different names each is found where it is there, and
what stood in the table otherwise. -/
theorem find?_foldl_insert {fields : List (String × Option α)} (h : (fields.map Prod.fst).Nodup)
    (t : Table α) (key : String) :
    ((fields.filterMap fun (key, v) => v.map fun w => (key, w)).foldl
      (fun t e => t.insert e.1 e.2) t).find? key = (fields.lookup key).join.or (t.find? key) := by
  induction fields generalizing t with
  | nil => rfl
  | cons field fields ih =>
    obtain ⟨name, v⟩ := field
    rw [List.map_cons, List.nodup_cons] at h
    by_cases hkey : key = name
    · -- the name does not occur again
      subst hkey
      have hrest : fields.lookup key = none := lookup_eq_none h.1
      rw [List.lookup_cons, beq_self_eq_true]
      cases v with
      | none => simp [ih h.2, hrest]
      | some w => simp [ih h.2, hrest]
    · rw [List.lookup_cons, beq_eq_false_iff_ne.2 hkey]
      cases v with
      | none => simp [ih h.2]
      | some w => simp [ih h.2, hkey]

/-- **What is written stands under its key,** and nothing else does. -/
@[simp] theorem field?_ofFields {fields : List (String × Option Value)}
    (h : (fields.map Prod.fst).Nodup) (key : String) :
    (ofFields fields).field? key = (fields.lookup key).join := by
  have hfind := find?_foldl_insert h .empty key
  rw [Table.empty, Entries.find?, Option.or_none] at hfind
  exact hfind

end Value

end PromptTemplate
