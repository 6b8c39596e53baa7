import Mathlib.Data.List.Perm.Subperm
import Mathlib.Data.List.Forall2
import PromptTemplate.Condition.Evaluate
import PromptTemplate.Proofs.Number.Rounding
import PromptTemplate.Proofs.Table
/-!
# PromptTemplate — equality of values in conditions

Two values are equivalent if `==` holds between them in a condition: numbers
by value, arrays item by item, and objects if they have as many fields and
every field of the one stands in the other, too. Only this one inclusion is
looked at, and the count makes up for the other (`keys_eq_of_size_eq`), so
that two objects are equivalent exactly if they have the same keys, with
equivalent values under them (`equivalent_object_iff`).

`equivalence_equivalent` says that this is an equivalence.
-/

namespace PromptTemplate

namespace Entries

variable {α : Type} {lo : Option String}

theorem length_keys (t : Entries α lo) : t.keys.length = t.size := by
  induction t with
  | nil => rfl
  | cons k hk v rest ih => exact congrArg (· + 1) ih

theorem pairwise_keys (t : Entries α lo) : t.keys.Pairwise (· < ·) :=
  List.pairwise_map.2 (pairwise_toList t)

theorem nodup_keys (t : Entries α lo) : t.keys.Nodup := by
  refine (pairwise_keys t).imp ?_
  rintro a b hlt rfl
  exact String.lt_irrefl a hlt

/-- **Counting keys:** of two tables of one size, the second one has no other
keys than the first if it has all of them. -/
theorem keys_eq_of_size_eq {s t : Entries α lo} (hsize : s.size = t.size)
    (hkeys : s.keys ⊆ t.keys) : s.keys = t.keys := by
  have hlength : t.keys.length ≤ s.keys.length := by
    rw [length_keys, length_keys, hsize]
  have hperm : s.keys.Perm t.keys :=
    (List.subperm_of_subset (nodup_keys s) hkeys).perm_of_length_le hlength
  refine hperm.eq_of_pairwise (fun a b _ _ hab hba => ?_) (pairwise_keys s) (pairwise_keys t)
  exact absurd hba (String.lt_asymm hab)

/-- Tables with the same keys hold something in the same places. -/
theorem exists_find?_of_keys_eq {s t : Entries α lo} (hkeys : s.keys = t.keys) {key : String}
    {v : α} (h : s.find? key = some v) : ∃ w, t.find? key = some w := by
  have hmem : key ∈ s.keys := mem_keys.2 (by rw [h]; rfl)
  exact Option.isSome_iff_exists.1 (mem_keys.1 (hkeys ▸ hmem))

/-- And they hold nothing in the same places. -/
theorem find?_eq_none_of_keys_eq {s t : Entries α lo} (hkeys : s.keys = t.keys) {key : String}
    (h : s.find? key = none) : t.find? key = none := by
  rw [Option.eq_none_iff_forall_not_mem]
  intro w hw
  obtain ⟨v, hv⟩ := exists_find?_of_keys_eq hkeys.symm hw
  rw [h] at hv
  cases hv

end Entries

namespace Condition

/-- Two values are equal for a condition. -/
def Equivalent (v w : Value) : Prop := equal v w = true

/-- Two tables have the same keys, and equivalent values under them. -/
structure SameFields (a b : Table Value) : Prop where
  keys : a.keys = b.keys
  values : ∀ key v w, a.find? key = some v → b.find? key = some w → Equivalent v w

/-! ## Arrays and objects -/

/-- **Arrays are equivalent** item by item. -/
theorem equivalent_array_iff {vs ws : List Value} :
    Equivalent (.array vs) (.array ws) ↔ List.Forall₂ Equivalent vs ws := by
  rw [Equivalent, equal]
  induction vs generalizing ws with
  | nil => cases ws <;> simp [equalItems]
  | cons v vs ih =>
    cases ws with
    | nil => simp [equalItems]
    | cons w ws => rw [equalItems, Bool.and_eq_true, ih, List.forall₂_cons, Equivalent]

theorem equalFields_iff {lo : Option String} {fields : Entries Value lo} {other : Table Value} :
    equalFields fields other = true ↔
      ∀ key v, fields.find? key = some v → ∃ w, other.find? key = some w ∧ Equivalent v w := by
  simp only [← Entries.mem_toList (t := fields)]
  induction fields with
  | nil => simp [equalFields, Entries.toList]
  | cons k hk v rest ih =>
    rw [equalFields, Bool.and_eq_true, ih, Entries.toList]
    constructor
    · rintro ⟨hfirst, hrest⟩ key w hw
      rcases List.mem_cons.1 hw with heq | hw
      · cases heq
        split at hfirst
        · rename_i x hx
          exact ⟨x, hx, hfirst⟩
        · cases hfirst
      · exact hrest key w hw
    · intro hall
      refine ⟨?_, fun key w hw => hall key w (List.mem_cons_of_mem _ hw)⟩
      obtain ⟨w, hw, hequal⟩ := hall k v List.mem_cons_self
      rw [hw]
      exact hequal

/-- **Objects are equivalent** exactly if they have the same keys, with
equivalent values under them. -/
theorem equivalent_object_iff {a b : Table Value} :
    Equivalent (.object a) (.object b) ↔ SameFields a b := by
  rw [Equivalent, equal, Bool.and_eq_true, beq_iff_eq, equalFields_iff]
  constructor
  · rintro ⟨hsize, hfields⟩
    have hkeys : a.keys ⊆ b.keys := by
      intro key hkey
      obtain ⟨v, hv⟩ := Option.isSome_iff_exists.1 (Entries.mem_keys.1 hkey)
      obtain ⟨w, hw, -⟩ := hfields key v hv
      exact Entries.mem_keys.2 (by rw [hw]; rfl)
    refine ⟨Entries.keys_eq_of_size_eq hsize hkeys, fun key v w hv hw => ?_⟩
    obtain ⟨x, hx, hequal⟩ := hfields key v hv
    rw [hw] at hx
    cases hx
    exact hequal
  · rintro ⟨hkeys, hvalues⟩
    refine ⟨?_, fun key v hv => ?_⟩
    · rw [← Entries.length_keys, ← Entries.length_keys, hkeys]
    · obtain ⟨w, hw⟩ := Entries.exists_find?_of_keys_eq hkeys hv
      exact ⟨w, hw, hvalues key v w hv hw⟩

/-! ## An equivalence -/

/-- Equivalent values are of one sort, and made of equivalent parts. -/
inductive Matches : Value → Value → Prop
  | null : Matches .null .null
  | bool (b : Bool) : Matches (.bool b) (.bool b)
  | number {m n : Number} (h : m.units = n.units) : Matches (.number m) (.number n)
  | string (s : String) : Matches (.string s) (.string s)
  | array {vs ws : List Value} (h : List.Forall₂ Equivalent vs ws) :
      Matches (.array vs) (.array ws)
  | object {a b : Table Value} (h : SameFields a b) : Matches (.object a) (.object b)

/-- What equivalent values are, as cases. -/
theorem Equivalent.matches {v w : Value} (h : Equivalent v w) : Matches v w := by
  cases v <;> cases w <;> first | exact absurd h Bool.false_ne_true | skip
  · exact .null
  · cases beq_iff_eq.1 h
    exact .bool _
  · exact .number (Number.eq_iff.1 h)
  · cases beq_iff_eq.1 h
    exact .string _
  · exact .array (equivalent_array_iff.1 h)
  · exact .object (equivalent_object_iff.1 h)

theorem equivalent_number_iff {m n : Number} :
    Equivalent (.number m) (.number n) ↔ m.units = n.units := Number.eq_iff

theorem Equivalent.refl (v : Value) : Equivalent v v := by
  induction v using Value.induction with
  | null => rfl
  | bool b => exact beq_self_eq_true b
  | number n => exact equivalent_number_iff.2 rfl
  | string s => exact beq_self_eq_true s
  | array items ih => exact equivalent_array_iff.2 (List.forall₂_same.2 ih)
  | object fields ih =>
    refine equivalent_object_iff.2 ⟨rfl, fun key v w hv hw => ?_⟩
    rw [hv] at hw
    cases hw
    exact ih (key, v) (Entries.mem_toList.2 hv)

theorem Equivalent.symm {v w : Value} (h : Equivalent v w) : Equivalent w v := by
  induction v using Value.induction generalizing w with
  | null | bool | string =>
    cases h.matches
    exact .refl _
  | number n =>
    cases h.matches with
    | number hunits => exact equivalent_number_iff.2 hunits.symm
  | array items ih =>
    cases h.matches with
    | array hitems =>
      have hback := (List.forall₂_and_left _ _).2 ⟨fun v hv w => @ih v hv w, hitems⟩
      exact equivalent_array_iff.2 (List.Forall₂.flip (hback.imp fun v w h => h.1 w h.2))
  | object fields ih =>
    cases h.matches with
    | object hfields =>
      refine equivalent_object_iff.2 ⟨hfields.keys.symm, fun key w v hw hv => ?_⟩
      exact ih (key, v) (Entries.mem_toList.2 hv) (hfields.values key v w hv hw)

/-- Items can be compared through those of a third array, if each of them
can. -/
theorem forall₂_trans {us vs ws : List Value}
    (hstep : ∀ u ∈ us, ∀ v w, Equivalent u v → Equivalent v w → Equivalent u w)
    (huv : List.Forall₂ Equivalent us vs) (hvw : List.Forall₂ Equivalent vs ws) :
    List.Forall₂ Equivalent us ws := by
  induction huv generalizing ws with
  | nil => exact hvw
  | cons hu hrest ih =>
    rw [List.forall_mem_cons] at hstep
    cases hvw with
    | cons hv hrest' => exact .cons (hstep.1 _ _ hu hv) (ih hstep.2 hrest')

theorem Equivalent.trans {u v w : Value} (huv : Equivalent u v) (hvw : Equivalent v w) :
    Equivalent u w := by
  induction u using Value.induction generalizing v w with
  | null | bool | string =>
    cases huv.matches
    exact hvw
  | number n =>
    cases huv.matches with
    | number h =>
      cases hvw.matches with
      | number h' => exact equivalent_number_iff.2 (h.trans h')
  | array items ih =>
    cases huv.matches with
    | array h =>
      cases hvw.matches with
      | array h' =>
        exact equivalent_array_iff.2 (forall₂_trans (fun u hu v w => @ih u hu v w) h h')
  | object fields ih =>
    cases huv.matches with
    | object h =>
      cases hvw.matches with
      | object h' =>
        refine equivalent_object_iff.2 ⟨h.keys.trans h'.keys, fun key u w hu hw => ?_⟩
        obtain ⟨v, hv⟩ := Entries.exists_find?_of_keys_eq h.keys hu
        exact ih (key, u) (Entries.mem_toList.2 hu) (h.values key u v hu hv)
          (h'.values key v w hv hw)

/-- **Equality of conditions is an equivalence.** -/
theorem equivalence_equivalent : Equivalence Equivalent := ⟨.refl, .symm, .trans⟩

end Condition

end PromptTemplate
