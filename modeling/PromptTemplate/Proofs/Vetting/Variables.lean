import PromptTemplate.Proofs.Outcome
import PromptTemplate.Proofs.Table
import PromptTemplate.Proofs.Text.Lowercase
import PromptTemplate.Proofs.Value
import PromptTemplate.Vetting.Variables
/-!
# PromptTemplate — what vetting asks of variables

Variables are vetted field by field, and nothing that is asked of one
depends on the others (`checkVariables_eq_ok`). So what passes in two parts
passes when one part is laid over the other: `checkVariables_override`.

`Fits` says what is asked of a single value at its depth, without the
values in it, and a value is safe if all that nests in it fits. Vetting
accepts exactly the safe trees (`checkVariable_eq_ok_iff`, by induction on
the tree). Keys that replace the inner workings of objects are reported
before all else, and nothing else is reported in their name:
`vetting_accepts_safe`.
-/

namespace PromptTemplate

namespace Vetting

variable {p : Policy} {depth : Nat} {place : String}

/-- The fields of an object pass exactly if each of them does. -/
theorem checkVariableFields_eq_ok {lo : Option String} {fields : Entries Value lo} :
    checkVariableFields p depth place fields = .ok () ↔
      ∀ e ∈ fields.toList, isForbiddenName e.1 = false ∧
        checkVariable p depth s!"{place}.{e.1}" e.2 = .ok () := by
  induction fields with
  | nil => simp [checkVariableFields, Entries.toList]
  | cons k hk v rest ih =>
    rw [checkVariableFields, Entries.toList, List.forall_mem_cons, ← ih]
    cases hname : isForbiddenName k with
    | true =>
      refine iff_of_false ?_ (by simp)
      rintro ⟨⟩
    | false => simpa using Outcome.andThen_eq_ok

/-- What is asked of one variable. -/
def PassesVariable (p : Policy) (key : String) (v : Value) : Prop :=
  pollutionKeys.contains key = false ∧ isForbiddenName key = false ∧
    checkVariable p 1 s!"variables.{key}" v = .ok ()

/-- **Variables pass** exactly if each of them does. -/
theorem checkVariables_eq_ok {vars : Table Value} :
    checkVariables p vars = .ok () ↔
      ∀ key v, vars.find? key = some v → PassesVariable p key v := by
  have hfields : checkVariable p 0 "variables" (.object vars) = .ok () ↔
      ∀ e ∈ vars.toList, isForbiddenName e.1 = false ∧
        checkVariable p 1 s!"variables.{e.1}" e.2 = .ok () := by
    rw [checkVariable, if_neg (Nat.not_lt_zero _)]
    exact checkVariableFields_eq_ok
  unfold checkVariables
  split
  · rename_i key hkey
    have hpollutes := List.find?_some hkey
    obtain ⟨⟨key, v⟩, he, rfl⟩ := List.mem_map.1 (List.mem_of_find?_eq_some hkey)
    refine iff_of_false (by simp) fun h => ?_
    have hclean := (h key v (Entries.mem_toList.1 he)).1
    rw [hclean] at hpollutes
    cases hpollutes
  · rename_i hnone
    rw [hfields]
    constructor
    · intro h key v hv
      have he : (key, v) ∈ vars.toList := Entries.mem_toList.2 hv
      have hclean := List.find?_eq_none.1 hnone key (List.mem_map_of_mem he)
      exact ⟨Bool.eq_false_iff.2 hclean, h _ he⟩
    · rintro h ⟨key, v⟩ he
      exact (h key v (Entries.mem_toList.1 he)).2

/-- **Vetting is closed under laying variables over others.** -/
theorem checkVariables_override {declared supplied : Table Value}
    (hdeclared : checkVariables p declared = .ok ())
    (hsupplied : checkVariables p supplied = .ok ()) :
    checkVariables p (declared.override supplied) = .ok () := by
  rw [checkVariables_eq_ok] at hdeclared hsupplied ⊢
  intro key v hv
  rw [Table.find?_override, Option.or_eq_some_iff] at hv
  rcases hv with hv | ⟨-, hv⟩
  · exact hsupplied key v hv
  · exact hdeclared key v hv

/-! ## Safe trees -/

/-- A single value fits at a depth: a string passes as a text, an array is
neither too deep nor too long, and an object is not too deep and has no key
with a name that is forbidden. -/
def Fits (p : Policy) (depth : Nat) : Value → Prop
  | .string s => checkText s = .ok ()
  | .array items => depth ≤ p.maxNestingDepth ∧ items.length ≤ p.maxArrayLength
  | .object fields =>
    depth ≤ p.maxNestingDepth ∧ ∀ key ∈ fields.keys, isForbiddenName key = false
  | .null | .bool _ | .number _ => True

/-- A value at a depth is safe: all that nests in it fits. -/
def Safe (p : Policy) (depth : Nat) (v : Value) : Prop :=
  ∀ below w, v.Nests below w → Fits p (depth + below) w

variable {v : Value}

/-- A value is safe exactly if it fits and what it has in it is safe one
level deeper. -/
theorem safe_iff : Safe p depth v ↔ Fits p depth v ∧ ∀ u, v.Has u → Safe p (depth + 1) u := by
  rw [Safe, Value.forall_nests_iff, Nat.add_zero]
  refine and_congr_right fun _ => forall₂_congr fun u _ => forall₃_congr fun below w _ => ?_
  rw [Nat.add_comm below 1, Nat.add_assoc]

theorem checkVariable_string {s : String} :
    checkVariable p depth place (.string s) = .ok () ↔ checkText s = .ok () := by
  rw [checkVariable]
  -- the check is named first: nothing here is to look into the deny-list
  generalize checkText s = r
  cases r <;> simp

/-- Items pass exactly if each of them is safe, wherever it stands. -/
theorem checkVariableItems_eq_ok_iff {position : Nat} {items : List Value}
    (h : ∀ v ∈ items, ∀ place, checkVariable p depth place v = .ok () ↔ Safe p depth v) :
    checkVariableItems p depth place position items = .ok () ↔ ∀ v ∈ items, Safe p depth v := by
  induction items generalizing position with
  | nil => simp [checkVariableItems]
  | cons v vs ih =>
    obtain ⟨hv, hvs⟩ := List.forall_mem_cons.1 h
    rw [checkVariableItems, Outcome.andThen_eq_ok, hv, ih hvs, List.forall_mem_cons]

/-- **A value passes exactly if it is safe,** at every depth and place. -/
theorem checkVariable_eq_ok_iff : checkVariable p depth place v = .ok () ↔ Safe p depth v := by
  induction v using Value.induction generalizing depth place with
  | null | bool | number =>
    refine iff_of_true rfl (safe_iff.2 ⟨trivial, ?_⟩)
    rintro u ⟨⟩
  | string s =>
    rw [checkVariable_string, safe_iff]
    refine ⟨fun h => ⟨h, ?_⟩, fun h => h.1⟩
    rintro u ⟨⟩
  | array items ih =>
    have hhas : (∀ u, (Value.array items).Has u → Safe p (depth + 1) u) ↔
        ∀ v ∈ items, Safe p (depth + 1) v := by
      constructor
      · intro h v hv
        exact h v (.item hv)
      · rintro h u ⟨hu⟩
        exact h u hu
    rw [safe_iff, hhas, Fits, checkVariable]
    split
    · rename_i hdeep
      exact iff_of_false (by simp) fun h => absurd h.1.1 (by omega)
    · split
      · rename_i hlong
        exact iff_of_false (by simp) fun h => absurd h.1.2 (by omega)
      · rename_i hdeep hlong
        rw [checkVariableItems_eq_ok_iff fun v hv _ => ih v hv,
          and_iff_right ⟨Nat.not_lt.1 hdeep, Nat.not_lt.1 hlong⟩]
  | object fields ih =>
    have hhas : (∀ u, (Value.object fields).Has u → Safe p (depth + 1) u) ↔
        ∀ e ∈ fields.toList, Safe p (depth + 1) e.2 := by
      constructor
      · intro h e he
        exact h e.2 (.field he)
      · rintro h u ⟨⟩
        rename_i key hu
        exact h (key, u) hu
    rw [safe_iff, hhas, Fits, checkVariable]
    split
    · rename_i hdeep
      exact iff_of_false (by simp) fun h => absurd h.1.1 (by omega)
    · rename_i hdeep
      have hfields : (∀ e ∈ fields.toList, isForbiddenName e.1 = false ∧
            checkVariable p (depth + 1) s!"{place}.{e.1}" e.2 = .ok ()) ↔
          ∀ e ∈ fields.toList, isForbiddenName e.1 = false ∧ Safe p (depth + 1) e.2 :=
        forall₂_congr fun e he => and_congr_right fun _ => ih e he
      rw [checkVariableFields_eq_ok, hfields, and_iff_right (Nat.not_lt.1 hdeep), Entries.keys,
        List.forall_mem_map]
      simp only [imp_and, forall_and]

/-! ## What is reported -/

/-- The sorts of violations that are found below the keys at the top. -/
def innerKinds : List ViolationKind :=
  [.nestingTooDeep, .arrayTooLarge, .unsafeVariableName, .maliciousContent]

theorem kind_mem_of_checkText {s : String} {x : Violation} (h : checkText s = .error x) :
    x.kind ∈ innerKinds := by
  unfold checkText at h
  split at h
  · cases h
    simp [innerKinds, Violation.because]
  · cases h

theorem kind_mem_of_checkVariableItems {position : Nat} {items : List Value} {x : Violation}
    (ih : ∀ v ∈ items, ∀ place, checkVariable p depth place v = .error x → x.kind ∈ innerKinds)
    (h : checkVariableItems p depth place position items = .error x) : x.kind ∈ innerKinds := by
  induction items generalizing position with
  | nil => cases h
  | cons v vs ihs =>
    obtain ⟨hv, hvs⟩ := List.forall_mem_cons.1 ih
    rcases Outcome.bind_eq_error.1 h with h | ⟨-, -, h⟩
    · exact hv _ h
    · exact ihs hvs h

theorem kind_mem_of_checkVariableFields {lo : Option String} {fields : Entries Value lo}
    {x : Violation}
    (ih : ∀ e ∈ fields.toList, ∀ place, checkVariable p depth place e.2 = .error x →
      x.kind ∈ innerKinds)
    (h : checkVariableFields p depth place fields = .error x) : x.kind ∈ innerKinds := by
  induction fields with
  | nil => cases h
  | cons k hk v rest ihs =>
    obtain ⟨hv, hrest⟩ := List.forall_mem_cons.1 ih
    unfold checkVariableFields at h
    split at h
    · cases h
      simp [innerKinds, Violation.because]
    · rcases Outcome.bind_eq_error.1 h with h | ⟨-, -, h⟩
      · exact hv _ h
      · exact ihs hrest h

/-- Nothing in a value is reported as a pollution. -/
theorem kind_mem_of_checkVariable {x : Violation} (h : checkVariable p depth place v = .error x) :
    x.kind ∈ innerKinds := by
  induction v using Value.induction generalizing depth place with
  | null | bool | number => cases h
  | string s =>
    unfold checkVariable at h
    split at h
    · cases h
    · rename_i y hy
      cases h
      exact (kind_mem_of_checkText hy :)
  | array items ih =>
    unfold checkVariable at h
    split at h
    · cases h
      simp [innerKinds, variableDepth, Violation.plain]
    · split at h
      · cases h
        simp [innerKinds, Violation.plain]
      · exact kind_mem_of_checkVariableItems (fun v hv _ => ih v hv) h
  | object fields ih =>
    unfold checkVariable at h
    split at h
    · cases h
      simp [innerKinds, variableDepth, Violation.plain]
    · exact kind_mem_of_checkVariableFields (fun e he _ => ih e he) h

theorem forbiddenNames_small : (forbiddenNames.all fun name =>
    name.toList.all (·.toNat < 0x80) && name.toList.map Char.toLower == name.toList) = true := by
  decide

/-- The forbidden names are in lower case, so each is itself forbidden. -/
theorem isForbiddenName_of_mem {name : String} (h : name ∈ forbiddenNames) :
    isForbiddenName name = true := by
  have hsmall := List.all_eq_true.1 forbiddenNames_small name h
  simp only [Bool.and_eq_true, List.all_eq_true, decide_eq_true_eq, beq_iff_eq] at hsmall
  obtain ⟨hascii, hlower⟩ := hsmall
  have hname : Text.lowercase name = name := by
    have hfrom := Text.lowercaseFrom_of_ascii hascii [] []
    rw [List.append_nil, Text.lowercaseFrom, List.append_nil, hlower] at hfrom
    rw [Text.lowercase, hfrom, String.ofList_toList]
  rw [isForbiddenName, hname, List.contains_iff_mem.2 h, Bool.or_true]

theorem isForbiddenName_of_mem_pollutionKeys {key : String} (h : key ∈ pollutionKeys) :
    isForbiddenName key = true := by
  refine isForbiddenName_of_mem ?_
  revert key
  decide

/-- A key at the top that pollutes is reported, whatever else is wrong. -/
theorem checkVariables_of_pollution {vars : Table Value}
    (h : ∃ key ∈ vars.keys, key ∈ pollutionKeys) :
    ∃ key ∈ vars.keys, key ∈ pollutionKeys ∧ checkVariables p vars = .error
      (.because .prototypePollution s!"variables must not define '{key}'" key) := by
  obtain ⟨key, hkey⟩ : ∃ key, vars.keys.find? pollutionKeys.contains = some key := by
    rw [← Option.isSome_iff_exists, List.find?_isSome]
    simpa using h
  refine ⟨key, List.mem_of_find?_eq_some hkey, by simpa using List.find?_some hkey, ?_⟩
  rw [checkVariables, hkey]

/-- Without one, the variables are vetted as one object. -/
theorem checkVariables_of_clean {vars : Table Value}
    (h : ¬∃ key ∈ vars.keys, key ∈ pollutionKeys) :
    checkVariables p vars = checkVariable p 0 "variables" (.object vars) := by
  have hnone : vars.keys.find? pollutionKeys.contains = none := by
    rw [List.find?_eq_none]
    intro key hkey hpollutes
    exact h ⟨key, hkey, List.contains_iff_mem.1 hpollutes⟩
  rw [checkVariables, hnone]

/-- A tree that is safe has no key that pollutes at its top. -/
theorem Safe.clean {vars : Table Value} (h : Safe p depth (.object vars)) :
    ¬∃ key ∈ vars.keys, key ∈ pollutionKeys := by
  rintro ⟨key, hkey, hpollutes⟩
  have hname := (safe_iff.1 h).1.2 key hkey
  rw [isForbiddenName_of_mem_pollutionKeys hpollutes] at hname
  cases hname

/-- Variables pass exactly if the tree of them is safe. -/
theorem checkVariables_eq_ok_iff {vars : Table Value} :
    checkVariables p vars = .ok () ↔ Safe p 0 (.object vars) := by
  by_cases hpollution : ∃ key ∈ vars.keys, key ∈ pollutionKeys
  · obtain ⟨key, -, -, herror⟩ := checkVariables_of_pollution (p := p) hpollution
    rw [herror]
    exact iff_of_false (by simp) fun h => h.clean hpollution
  · rw [checkVariables_of_clean hpollution, checkVariable_eq_ok_iff]

/-- **Vetting accepts exactly the safe trees:** everything in the tree has to
fit at its depth, with the variables themselves at depth zero. A key at the
top that would replace the inner workings of objects is reported as such,
whatever else is wrong, and nothing else is reported so. -/
theorem vetting_accepts_safe (p : Policy) (vars : Table Value) :
    (checkVariables p vars = .ok () ↔
      ∀ depth w, (Value.object vars).Nests depth w → Fits p depth w) ∧
    ((∃ key ∈ vars.keys, key ∈ ["__proto__", "constructor", "prototype"]) →
      ∃ key ∈ vars.keys, key ∈ ["__proto__", "constructor", "prototype"] ∧
        checkVariables p vars = .error
          (.because .prototypePollution s!"variables must not define '{key}'" key)) ∧
    ∀ x, checkVariables p vars = .error x → x.kind = .prototypePollution →
      ∃ key ∈ vars.keys, key ∈ ["__proto__", "constructor", "prototype"] := by
  refine ⟨?_, checkVariables_of_pollution, fun x hx hkind => ?_⟩
  · rw [checkVariables_eq_ok_iff, Safe]
    simp only [Nat.zero_add]
  · refine Classical.byContradiction fun hclean => ?_
    rw [checkVariables_of_clean hclean] at hx
    have hinner := kind_mem_of_checkVariable hx
    rw [hkind] at hinner
    revert hinner
    decide

end Vetting

end PromptTemplate
