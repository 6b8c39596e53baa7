import PromptTemplate.Path.Resolve
import PromptTemplate.Proofs.Outcome
/-!
# PromptTemplate — paths that lead to strings

`Value.mapStrings` puts other strings in the place of the strings of a
value and leaves everything else. A path that leads to a string leads to
the one in its place then (`resolve_mapStrings`): nothing inside a string
is a string again, so that no step of the path depends on what one says.
-/

namespace PromptTemplate

namespace Value

mutual

/-- A value with every string in it replaced. -/
def mapStrings (f : String → String) : Value → Value
  | .null => .null
  | .bool b => .bool b
  | .number n => .number n
  | .string s => .string (f s)
  | .array items => .array (mapItems f items)
  | .object fields => .object (mapFields f fields)

/-- Items with every string in them replaced. -/
def mapItems (f : String → String) : List Value → List Value
  | [] => []
  | v :: vs => mapStrings f v :: mapItems f vs

/-- Fields with every string in them replaced; keys stay. -/
def mapFields (f : String → String) : {lo : Option String} → Entries Value lo → Entries Value lo
  | _, .nil => .nil
  | _, .cons k h v rest => .cons k h (mapStrings f v) (mapFields f rest)

end

theorem mapItems_eq_map (f : String → String) (items : List Value) :
    mapItems f items = items.map (mapStrings f) := by
  induction items with
  | nil => rfl
  | cons v vs ih => rw [mapItems, ih, List.map_cons]

theorem find?_mapFields (f : String → String) {lo : Option String} (fields : Entries Value lo)
    (key : String) : (mapFields f fields).find? key = (fields.find? key).map (mapStrings f) := by
  induction fields with
  | nil => rfl
  | cons k hk v rest ih =>
    rw [mapFields, Entries.find?, Entries.find?]
    split
    · rfl
    · exact ih

end Value

namespace Path

variable {f : String → String}

/-- A step leads to the same place among the replaced strings, or to a
number. -/
theorem reach_mapStrings {step : Step} {v w : Value} (h : step.reach v = .ok w) :
    step.reach (v.mapStrings f) = .ok (w.mapStrings f) ∨ ∃ n, w = .number n := by
  unfold Step.reach at h
  split at h
  · rename_i name
    split at h
    · cases h
    · rename_i hreserved
      split at h
      · rename_i fields
        split at h
        · rename_i found hfound
          cases h
          refine .inl ?_
          simp only [Step.reach, if_neg hreserved, Value.mapStrings, Value.find?_mapFields, hfound,
            Option.map_some]
        · cases h
      -- lists and strings have a length, which says nothing of what is kept
      · split at h
        · cases h
          exact .inr ⟨_, rfl⟩
        · cases h
      · split at h
        · cases h
          exact .inr ⟨_, rfl⟩
        · cases h
      · cases h
  · rename_i i
    split at h
    · rename_i items
      split at h
      · rename_i found hfound
        cases h
        refine .inl ?_
        obtain ⟨k, hk, hitem⟩ := Option.bind_eq_some_iff.1 hfound
        simp only [Step.reach, Value.mapStrings, Value.mapItems_eq_map, List.length_map, hk,
          Option.bind_some, List.getElem?_map, hitem, Option.map_some]
      · cases h
    · cases h

/-- No path leads from a number to a string. -/
theorem walk_number_ne {n : Number} {steps : List Step} {s : String} :
    walk (.number n) steps ≠ .ok (.string s) := by
  intro h
  cases steps with
  | nil => cases h
  | cons step steps =>
    obtain ⟨w, hw, -⟩ := Outcome.bind_eq_ok.1 h
    unfold Step.reach at hw
    split at hw
    · split at hw
      · cases hw
      · cases hw
    · cases hw

theorem walk_mapStrings {v : Value} {steps : List Step} {s : String}
    (h : walk v steps = .ok (.string s)) :
    walk (v.mapStrings f) steps = .ok (.string (f s)) := by
  induction steps generalizing v with
  | nil =>
    cases h
    rfl
  | cons step steps ih =>
    obtain ⟨w, hw, hrest⟩ := Outcome.bind_eq_ok.1 h
    obtain hreach | ⟨n, rfl⟩ := reach_mapStrings hw
    · exact Outcome.bind_eq_ok.2 ⟨_, hreach, ih hrest⟩
    · exact absurd hrest walk_number_ne

/-- **A path that leads to a string leads to the one in its place,** after
all of them have been replaced. -/
theorem resolve_mapStrings {vars : Table Value} {path s : String}
    (h : resolve vars path = .ok (.string s)) :
    resolve (Value.mapFields f vars) path = .ok (.string (f s)) := by
  unfold resolve at h ⊢
  split at h
  · cases h
  · unfold resolveSteps at h ⊢
    split at h
    · cases h
    · cases h
    · rename_i name steps
      obtain ⟨v, hroot, hwalk⟩ := Outcome.bind_eq_ok.1 h
      refine Outcome.bind_eq_ok.2 ⟨v.mapStrings f, ?_, walk_mapStrings hwalk⟩
      unfold root at hroot ⊢
      split at hroot
      · cases hroot
      · rename_i hreserved
        split at hroot
        · rename_i found hfound
          cases hroot
          rw [if_neg hreserved, Value.find?_mapFields, hfound]
          rfl
        · cases hroot

end Path

end PromptTemplate
