import PromptTemplate.Table
/-!
# PromptTemplate — tables as lists

What can be looked up in a table is just what is listed (`mem_toList`), and
the list is in strict key order, so that a key picks out one entry
(`filter_toList`). `find?_override` is the law of laying one table over
another: the upper one prevails.
-/

namespace PromptTemplate

namespace Entries

variable {α : Type} {lo : Option String}

/-- Every key of a table lies above its bound. -/
theorem above_of_mem {t : Entries α lo} {e : String × α} (h : e ∈ t.toList) : Above lo e.1 := by
  induction t with
  | nil => cases h
  | cons k hk v rest ih =>
    rcases List.mem_cons.1 h with rfl | h
    · exact hk
    · intro k' hk'
      exact String.lt_trans (hk k' hk') (above_some.1 (ih h))

/-- **The keys rise strictly.** -/
theorem pairwise_toList (t : Entries α lo) : t.toList.Pairwise fun a b => a.1 < b.1 := by
  induction t with
  | nil => exact .nil
  | cons k hk v rest ih =>
    refine List.pairwise_cons.2 ⟨fun e he => ?_, ih⟩
    exact above_some.1 (above_of_mem he)

/-- A key that is not above the first one is not found behind it. -/
theorem find?_rest {k : String} (rest : Entries α (some k)) : rest.find? k = none :=
  rest.find?_of_not_above fun hk => key_ne_of_above hk rfl

/-- **What is listed is what can be looked up.** -/
theorem mem_toList {t : Entries α lo} {key : String} {v : α} :
    (key, v) ∈ t.toList ↔ t.find? key = some v := by
  induction t with
  | nil => simp [toList, find?]
  | cons k hk w rest ih =>
    rw [toList, List.mem_cons, ih, find?]
    by_cases hkey : key = k
    · subst hkey
      simp [find?_rest, eq_comm]
    · simp [hkey]

/-- A key is one of a table exactly if something is found under it. -/
theorem mem_keys {t : Entries α lo} {key : String} : key ∈ t.keys ↔ (t.find? key).isSome = true := by
  rw [keys, List.mem_map, Option.isSome_iff_exists]
  constructor
  · rintro ⟨⟨k, v⟩, he, rfl⟩
    exact ⟨v, mem_toList.1 he⟩
  · rintro ⟨v, hv⟩
    exact ⟨(key, v), mem_toList.2 hv, rfl⟩

/-- A key picks out its entry. -/
theorem filter_toList (t : Entries α lo) (key : String) :
    t.toList.filter (·.1 == key) = ((t.find? key).map fun v => (key, v)).toList := by
  induction t with
  | nil => rfl
  | cons k hk v rest ih =>
    by_cases hkey : k = key
    · subst hkey
      have hrest : rest.toList.filter (·.1 == k) = [] := by rw [ih, find?_rest]; rfl
      simp [toList, find?, hrest]
    · have hne : key ≠ k := fun h => hkey h.symm
      simp [toList, find?, hkey, hne, ih]

/-- The entries of a table are looked up in any order as in the table. -/
theorem lookup_of_perm {t : Entries α lo} {entries : List (String × α)}
    (h : entries.Perm t.toList) (key : String) : entries.lookup key = t.find? key := by
  cases hfound : entries.lookup key with
  | some v =>
    obtain ⟨before, after, rfl, -⟩ := List.lookup_eq_some_iff.1 hfound
    exact (mem_toList.1 (h.subset (by simp))).symm
  | none =>
    refine (Option.eq_none_iff_forall_ne_some.2 fun v hv => ?_).symm
    have hmem : (key, v) ∈ entries := h.symm.subset (mem_toList.2 hv)
    simpa using List.lookup_eq_none_iff.1 hfound _ hmem

/-- A new key makes a table larger by one, and another value for a key that
is there does not. -/
theorem size_insertAbove (t : Entries α lo) (key : String) (h : Above lo key) (v : α) :
    (t.insertAbove key h v).size = if (t.find? key).isSome then t.size else t.size + 1 := by
  induction t with
  | nil => rfl
  | cons k hk w rest ih =>
    unfold insertAbove
    split
    · rename_i hlt
      have hne : key ≠ k := fun he => String.lt_irrefl k (he ▸ hlt)
      have hrest : rest.find? key = none :=
        rest.find?_of_not_above fun ha => String.lt_irrefl _ (String.lt_trans hlt (above_some.1 ha))
      simp [find?, size, hne, hrest]
    · rename_i hlt
      split
      · rename_i hgt
        have hne : key ≠ k := fun he => String.lt_irrefl k (he ▸ hgt)
        rw [size, ih, find?, if_neg hne, size]
        split <;> rfl
      · rename_i hgt
        have he : key = k := String.le_antisymm (String.not_lt.1 hgt) (String.not_lt.1 hlt)
        simp [find?, size, he]

/-- A lower bound changes no size. -/
@[simp] theorem size_lowered {key : String} (h : Above lo key) (t : Entries α (some key)) :
    (lowered h t).size = t.size := by
  cases t <;> rfl

/-- Erasing a key that is there makes a table smaller by one. -/
theorem size_erase {t : Entries α lo} {key : String} {v : α} (h : t.find? key = some v) :
    (t.erase key).size + 1 = t.size := by
  induction t with
  | nil => cases h
  | cons k hk w rest ih =>
    unfold erase
    split
    · rw [size_lowered, size]
    · rename_i hne
      rw [find?, if_neg hne] at h
      rw [size, size, ih h]

/-- What has been inserted entry by entry is found, and below it what was
there before. -/
theorem find?_foldl_insert (t : Entries α lo) (below : Table α) (key : String) :
    (t.toList.foldl (fun t e => t.insert e.1 e.2) below).find? key =
      (t.find? key).or (below.find? key) := by
  induction t generalizing below with
  | nil => rfl
  | cons k hk v rest ih =>
    rw [toList, List.foldl_cons, ih, Table.find?_insert, find?]
    by_cases hkey : key = k
    · subst hkey
      simp [find?_rest]
    · simp [hkey]

end Entries

namespace Table

variable {α : Type}

/-- **Laying a table over another:** what the upper one has prevails. -/
theorem find?_override (below above : Table α) (key : String) :
    (below.override above).find? key = (above.find? key).or (below.find? key) :=
  Entries.find?_foldl_insert above below key

/-- A new key makes a table larger by one. -/
theorem size_insert (t : Table α) (key : String) (v : α) :
    (t.insert key v).size = if (t.find? key).isSome then t.size else t.size + 1 :=
  t.size_insertAbove key (above_none key) v

end Table

end PromptTemplate
