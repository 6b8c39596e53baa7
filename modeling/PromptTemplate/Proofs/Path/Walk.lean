import PromptTemplate.Path.Resolve
import PromptTemplate.Proofs.Vetting.Variables
/-!
# PromptTemplate — where steps lead

`Goes` says of a step from which value to which other one it goes, and
`Leads` of a list of steps where they lead, both without a word on what may
fail. Steps that may be taken at all (`Step.Free`) are followed just to
where they lead (`walk_eq_ok_iff`), and a failure is that of the first
step that is refused (`walk_eq_error_iff`); both are inductions on the
steps, over what is said of a single one.

A name that no path may visit is not the name of a variable either. So all
steps that lead somewhere in a safe tree are free, and there are steps to
everything in it: `resolves_what_is_there`.

Lengths are words of 64 bits. What has a length is therefore to be
`Addressable`, as all is that has a place in memory.
-/

namespace PromptTemplate

/-- The items or characters of a value can be counted in a signed word of 64
bits. -/
def Value.Countable : Value → Prop
  | .array items => items.length < 1 <<< 63
  | .string s => s.length < 1 <<< 63
  | _ => True

/-- All that nests in a value can be counted. -/
def Value.Addressable (v : Value) : Prop := ∀ depth w, v.Nests depth w → w.Countable

/-- A value is addressable exactly if it can be counted and what it has in
it is addressable. -/
theorem Value.addressable_iff {v : Value} :
    v.Addressable ↔ v.Countable ∧ ∀ u, v.Has u → u.Addressable :=
  Value.forall_nests_iff

namespace Path

/-! ## One step -/

/-- A name that no path may visit. -/
def Reserved (name : String) : Prop :=
  name = "constructor" ∨ name = "prototype" ∨ ['_', '_'] <+: name.toList

theorem isReserved_eq_true {name : String} : isReserved name = true ↔ Reserved name := by
  have hproto : name = "__proto__" → ['_', '_'] <+: name.toList := by
    rintro rfl
    decide
  simp only [isReserved, reservedNames, Bool.or_eq_true, List.isPrefixOf_iff_prefix,
    List.contains_iff_mem, List.mem_cons, List.not_mem_nil, or_false, Reserved]
  grind

instance (name : String) : Decidable (Reserved name) := decidable_of_iff _ isReserved_eq_true

/-- A step that may be taken, whatever the value holds. -/
def Step.Free : Step → Prop
  | .property name => ¬Reserved name
  | .index _ => True

instance : (step : Step) → Decidable step.Free
  | .property name => inferInstanceAs (Decidable (¬Reserved name))
  | .index _ => inferInstanceAs (Decidable True)

/-- A step goes from a value to another one: to a field, to a position that
is counted from the front or from the back, or to a count. -/
inductive Goes : Value → Step → Value → Prop
  | field {fields : Table Value} {name : String} {v : Value} (mem : (name, v) ∈ fields.toList) :
      Goes (.object fields) (.property name) v
  | front {items : List Value} {position : Nat} {v : Value} (mem : items[position]? = some v) :
      Goes (.array items) (.index position) v
  | back {items : List Value} {i : Int} {position : Nat} {v : Value}
      (counts : items.length + i = position) (mem : items[position]? = some v) :
      Goes (.array items) (.index i) v
  | itemCount {items : List Value} {inRange} :
      Goes (.array items) (.property "length") (.number (.integer items.length inRange))
  | charCount {s : String} {inRange} :
      Goes (.string s) (.property "length") (.number (.integer s.length inRange))

/-- A step is refused at a value, with what is reported then: a reserved name
at every value, and any other step where it goes nowhere. -/
inductive Refuses : Value → Step → Failure → Prop
  | reserved {v : Value} {name : String} (reserved : Reserved name) :
      Refuses v (.property name) (.reserved name)
  | missing {fields : Table Value} {name : String} (free : ¬Reserved name)
      (absent : name ∉ fields.keys) :
      Refuses (.object fields) (.property name) (.missing name fields.keys)
  | outOfRange {items : List Value} {i : Int} (outside : i < -items.length ∨ items.length ≤ i) :
      Refuses (.array items) (.index i) (.outOfRange i items.length)
  | noFields {v : Value} {name : String} (free : ¬Reserved name) (kind : v.kind ≠ .object)
      (uncounted : name = "length" → v.kind ≠ .array ∧ v.kind ≠ .string) :
      Refuses v (.property name) (.notTraversable (.property name) v.kind)
  | noItems {v : Value} {i : Int} (kind : v.kind ≠ .array) :
      Refuses v (.index i) (.notTraversable (.index i) v.kind)

variable {u v w : Value} {step : Step} {steps : List Step} {why : Failure}

/-! ## What a step does -/

/-- An index stands for a position that it counts from the front or from the
back. -/
theorem position?_eq_some {i : Int} {n position : Nat} (hn : n < 1 <<< 63) :
    position? i n = some position ↔ position < n ∧ (i = position ∨ n + i = position) := by
  unfold position?
  dsimp only
  split <;> split <;> simp <;> omega

theorem position?_eq_none {i : Int} {n : Nat} (hn : n < 1 <<< 63) :
    position? i n = none ↔ i < -n ∨ n ≤ i := by
  unfold position?
  dsimp only
  split <;> split <;> simp <;> omega

theorem ofNat_eq {n : Nat} (hn : n < 1 <<< 63) :
    Value.ofNat n = .number (.integer n (by omega)) := by
  rw [Value.ofNat, Number.ofNat, Number.ofInt, Number.ofInt?, dif_pos (by omega)]
  rfl

theorem goes_field_iff {fields : Table Value} {name : String} :
    Goes (.object fields) (.property name) w ↔ fields.find? name = some w := by
  rw [← Entries.mem_toList]
  constructor
  · rintro ⟨mem⟩
    exact mem
  · exact .field

theorem goes_item_iff {items : List Value} {i : Int} (hn : items.length < 1 <<< 63) :
    Goes (.array items) (.index i) w ↔
      (position? i items.length).bind (items[·]?) = some w := by
  simp only [Option.bind_eq_some_iff, position?_eq_some hn]
  constructor
  · rintro (_ | mem | ⟨counts, mem⟩)
    · exact ⟨_, ⟨(List.getElem?_eq_some_iff.1 mem).1, .inl rfl⟩, mem⟩
    · exact ⟨_, ⟨(List.getElem?_eq_some_iff.1 mem).1, .inr counts⟩, mem⟩
  · rintro ⟨position, ⟨-, rfl | counts⟩, mem⟩
    · exact .front mem
    · exact .back counts mem

theorem goes_itemCount_iff {items : List Value} (hv : (Value.array items).Countable) :
    Goes (.array items) (.property "length") w ↔ .ofNat items.length = w := by
  rw [ofNat_eq hv]
  constructor
  · rintro ⟨⟩
    rfl
  · rintro rfl
    exact .itemCount

theorem goes_charCount_iff {s : String} (hv : (Value.string s).Countable) :
    Goes (.string s) (.property "length") w ↔ .ofNat s.length = w := by
  rw [ofNat_eq hv]
  constructor
  · rintro ⟨⟩
    rfl
  · rintro rfl
    exact .charCount

/-- **A step is taken** exactly if it is free, to where it goes. -/
theorem reach_eq_ok_iff (hv : v.Countable) :
    step.reach v = .ok w ↔ step.Free ∧ Goes v step w := by
  unfold Step.reach
  cases step with
  | index i =>
    rw [Step.Free, true_and]
    cases v with
    | array items =>
      rw [goes_item_iff hv]
      dsimp only
      cases (position? i items.length).bind (items[·]?) <;> simp
    | _ => exact iff_of_false (by simp) (by rintro ⟨⟩)
  | property name =>
    by_cases hreserved : Reserved name
    · simp only [if_pos (isReserved_eq_true.2 hreserved)]
      exact iff_of_false (by simp) fun h => h.1 hreserved
    simp only [if_neg (mt isReserved_eq_true.1 hreserved)]
    rw [Step.Free, and_iff_right hreserved]
    cases v with
    | object fields =>
      rw [goes_field_iff]
      cases hfield : fields.find? name <;> simp [hfield]
    | array | string =>
      by_cases hname : name = "length"
      · subst hname
        simp [goes_itemCount_iff, goes_charCount_iff, hv]
      · refine iff_of_false (by simp [hname]) ?_
        rintro ⟨⟩
        exact hname rfl
    | _ => exact iff_of_false (by simp) (by rintro ⟨⟩)

/-- A name that may not be visited is refused for that alone. -/
theorem refuses_reserved_iff {name : String} (h : Reserved name) :
    Refuses v (.property name) why ↔ .reserved name = why := by
  constructor
  · rintro (_ | ⟨free, -⟩ | _ | ⟨free, -, -⟩)
    · rfl
    · exact absurd h free
    · exact absurd h free
  · rintro rfl
    exact .reserved h

/-- What is neither an object nor counted has no fields. -/
theorem refuses_noFields_iff {name : String} (free : ¬Reserved name) (kind : v.kind ≠ .object)
    (uncounted : name = "length" → v.kind ≠ .array ∧ v.kind ≠ .string) :
    Refuses v (.property name) why ↔ .notTraversable (.property name) v.kind = why := by
  constructor
  · rintro (reserved | _ | _ | _)
    · exact absurd reserved free
    · exact absurd rfl kind
    · rfl
  · rintro rfl
    exact .noFields free kind uncounted

/-- What is counted is not refused the step to its count. -/
theorem not_refuses_length (h : v.kind = .array ∨ v.kind = .string) :
    ¬Refuses v (.property "length") why := by
  rintro (reserved | _ | _ | ⟨-, -, uncounted⟩)
  · exact absurd reserved (by decide)
  · exact h.elim nofun nofun
  · obtain ⟨harray, hstring⟩ := uncounted rfl
    exact h.elim harray hstring

theorem refuses_field_iff {fields : Table Value} {name : String} (free : ¬Reserved name) :
    Refuses (.object fields) (.property name) why ↔
      fields.find? name = none ∧ .missing name fields.keys = why := by
  have habsent : name ∉ fields.keys ↔ fields.find? name = none := by
    rw [Entries.mem_keys, Option.not_isSome_iff_eq_none]
  rw [← habsent]
  constructor
  · rintro (reserved | ⟨-, absent⟩ | _ | ⟨-, kind, -⟩)
    · exact absurd reserved free
    · exact ⟨absent, rfl⟩
    · exact absurd rfl kind
  · rintro ⟨absent, rfl⟩
    exact .missing free absent

theorem refuses_item_iff {items : List Value} {i : Int} (hn : items.length < 1 <<< 63) :
    Refuses (.array items) (.index i) why ↔
      (position? i items.length).bind (items[·]?) = none ∧ .outOfRange i items.length = why := by
  have houtside : (position? i items.length).bind (items[·]?) = none ↔
      i < -items.length ∨ items.length ≤ i := by
    rw [← position?_eq_none hn]
    cases hposition : position? i items.length with
    | none => simp
    | some position => simp [(position?_eq_some hn).1 hposition]
  rw [houtside]
  constructor
  · rintro (_ | _ | outside | _ | kind)
    · exact ⟨outside, rfl⟩
    · exact absurd rfl kind
  · rintro ⟨outside, rfl⟩
    exact .outOfRange outside

/-- What is no array has no items. -/
theorem refuses_noItems_iff {i : Int} (kind : v.kind ≠ .array) :
    Refuses v (.index i) why ↔ .notTraversable (.index i) v.kind = why := by
  constructor
  · rintro (_ | _ | _ | _ | _)
    · exact absurd rfl kind
    · rfl
  · rintro rfl
    exact .noItems kind

/-- **A step fails** exactly if it is refused. -/
theorem reach_eq_error_iff (hv : v.Countable) :
    step.reach v = .error why ↔ Refuses v step why := by
  unfold Step.reach
  cases step with
  | index i =>
    cases v with
    | array items =>
      rw [refuses_item_iff hv]
      dsimp only
      cases (position? i items.length).bind (items[·]?) <;> simp
    | _ =>
      rw [refuses_noItems_iff (by simp [Value.kind])]
      simp
  | property name =>
    by_cases hreserved : Reserved name
    · simp only [if_pos (isReserved_eq_true.2 hreserved), refuses_reserved_iff hreserved,
        Except.error.injEq]
    simp only [if_neg (mt isReserved_eq_true.1 hreserved)]
    cases v with
    | object fields =>
      rw [refuses_field_iff hreserved]
      cases hfield : fields.find? name <;> simp [hfield]
    | array | string =>
      by_cases hname : name = "length"
      · subst hname
        simp [not_refuses_length, Value.kind]
      · rw [refuses_noFields_iff hreserved (by simp [Value.kind]) fun h => absurd h hname]
        simp [hname]
    | _ =>
      rw [refuses_noFields_iff hreserved (by simp [Value.kind]) (by simp [Value.kind])]
      simp

/-! ## Steps one after another -/

/-- Steps lead from a value to another one. -/
inductive Leads : Value → List Step → Value → Prop
  | here (v : Value) : Leads v [] v
  | step {v u w : Value} {step : Step} {steps : List Step} (goes : Goes v step u)
      (leads : Leads u steps w) : Leads v (step :: steps) w

/-- A step goes to what a value has in it, or to a number. -/
theorem Goes.has_or_number (h : Goes v step w) : v.Has w ∨ ∃ n, w = .number n := by
  cases h with
  | field mem => exact .inl (.field mem)
  | front mem => exact .inl (.item (List.mem_of_getElem? mem))
  | back _ mem => exact .inl (.item (List.mem_of_getElem? mem))
  | itemCount => exact .inr ⟨_, rfl⟩
  | charCount => exact .inr ⟨_, rfl⟩

theorem addressable_number (n : Number) : (Value.number n).Addressable :=
  Value.addressable_iff.2 ⟨trivial, nofun⟩

theorem Goes.addressable (h : Goes v step w) (hv : v.Addressable) : w.Addressable := by
  rcases h.has_or_number with h | ⟨n, rfl⟩
  · exact (Value.addressable_iff.1 hv).2 w h
  · exact addressable_number n

theorem Leads.addressable (h : Leads v steps w) (hv : v.Addressable) : w.Addressable := by
  induction h with
  | here => exact hv
  | step goes _ ih => exact ih (goes.addressable hv)

theorem countable_of_addressable (h : v.Addressable) : v.Countable :=
  (Value.addressable_iff.1 h).1

/-- **Steps are followed** exactly if each is free, to where they lead. -/
theorem walk_eq_ok_iff (hv : v.Addressable) :
    walk v steps = .ok w ↔ (∀ step ∈ steps, step.Free) ∧ Leads v steps w := by
  induction steps generalizing v with
  | nil =>
    rw [walk]
    constructor
    · rintro ⟨⟩
      exact ⟨by simp, .here _⟩
    · rintro ⟨-, ⟨⟩⟩
      rfl
  | cons step steps ih =>
    rw [walk, Outcome.bind_eq_ok, List.forall_mem_cons]
    constructor
    · rintro ⟨u, hstep, hrest⟩
      obtain ⟨hfree, hgoes⟩ := (reach_eq_ok_iff (countable_of_addressable hv)).1 hstep
      obtain ⟨hfrees, hleads⟩ := (ih (hgoes.addressable hv)).1 hrest
      exact ⟨⟨hfree, hfrees⟩, .step hgoes hleads⟩
    · rintro ⟨⟨hfree, hfrees⟩, ⟨⟩⟩
      rename_i u hgoes hleads
      exact ⟨u, (reach_eq_ok_iff (countable_of_addressable hv)).2 ⟨hfree, hgoes⟩,
        (ih (hgoes.addressable hv)).2 ⟨hfrees, hleads⟩⟩

/-- Among steps there is a first one that is refused, where those in front of
it lead. -/
def Stops (v : Value) (steps : List Step) (why : Failure) : Prop :=
  ∃ front step rest u, steps = front ++ step :: rest ∧ (∀ step ∈ front, step.Free) ∧
    Leads v front u ∧ Refuses u step why

theorem stops_cons_iff :
    Stops v (step :: steps) why ↔
      Refuses v step why ∨ step.Free ∧ ∃ u, Goes v step u ∧ Stops u steps why := by
  constructor
  · rintro ⟨front, last, rest, u, hsteps, hfree, hleads, hrefuses⟩
    cases hleads with
    | here =>
      obtain ⟨rfl, rfl⟩ := List.cons.inj hsteps
      exact .inl hrefuses
    | step goes leads =>
      obtain ⟨rfl, rfl⟩ := List.cons.inj hsteps
      rw [List.forall_mem_cons] at hfree
      exact .inr ⟨hfree.1, _, goes, _, last, rest, u, rfl, hfree.2, leads, hrefuses⟩
  · rintro (hrefuses | ⟨hfree, u, hgoes, front, last, rest, w, rfl, hfrees, hleads, hrefuses⟩)
    · exact ⟨[], step, steps, v, rfl, by simp, .here v, hrefuses⟩
    · exact ⟨step :: front, last, rest, w, rfl, List.forall_mem_cons.2 ⟨hfree, hfrees⟩,
        .step hgoes hleads, hrefuses⟩

/-- **Steps fail** exactly as the first of them that is refused. -/
theorem walk_eq_error_iff (hv : v.Addressable) :
    walk v steps = .error why ↔ Stops v steps why := by
  induction steps generalizing v with
  | nil =>
    rw [walk]
    refine iff_of_false (by simp) ?_
    rintro ⟨front, step, rest, u, hsteps, -⟩
    simp at hsteps
  | cons step steps ih =>
    rw [walk, Outcome.bind_eq_error, stops_cons_iff,
      reach_eq_error_iff (countable_of_addressable hv)]
    refine or_congr_right ?_
    rw [← exists_and_left]
    refine exists_congr fun u => ?_
    rw [reach_eq_ok_iff (countable_of_addressable hv), and_assoc]
    exact and_congr_right fun _ => and_congr_right fun hgoes => ih (hgoes.addressable hv)

/-! ## Steps in a safe tree -/

open Vetting (Safe safe_iff isForbiddenName isForbiddenName_of_mem)

variable {p : Policy} {depth : Nat}

/-- What no path may visit, no variable may be called. -/
theorem Reserved.isForbiddenName {name : String} (h : Reserved name) :
    isForbiddenName name = true := by
  rcases h with rfl | rfl | h
  · exact isForbiddenName_of_mem (by decide)
  · exact isForbiddenName_of_mem (by decide)
  · rw [Vetting.isForbiddenName, List.isPrefixOf_iff_prefix.2 h, Bool.true_or]

theorem Goes.safe (h : Goes v step w) (hv : Safe p depth v) : Safe p (depth + 1) w := by
  rcases h.has_or_number with h | ⟨n, rfl⟩
  · exact (safe_iff.1 hv).2 w h
  · exact safe_iff.2 ⟨trivial, nofun⟩

/-- From a safe value, no step that goes anywhere is reserved. -/
theorem Goes.free (h : Goes v step w) (hv : Safe p depth v) : step.Free := by
  cases h with
  | field mem =>
    intro hreserved
    have hallowed := (safe_iff.1 hv).1.2 _ (List.mem_map_of_mem mem)
    rw [hreserved.isForbiddenName] at hallowed
    cases hallowed
  | front | back => trivial
  | itemCount | charCount => decide

theorem Leads.free (h : Leads v steps w) (hv : Safe p depth v) : ∀ step ∈ steps, step.Free := by
  induction h generalizing depth with
  | here => simp
  | step goes _ ih => exact List.forall_mem_cons.2 ⟨goes.free hv, ih (goes.safe hv)⟩

/-- There is a step to all that a value has in it. -/
theorem exists_goes_of_has (h : v.Has w) : ∃ step, Goes v step w := by
  cases h with
  | item mem =>
    obtain ⟨position, hposition⟩ := List.getElem?_of_mem mem
    exact ⟨_, .front hposition⟩
  | field mem => exact ⟨_, .field mem⟩

/-- Everything that nests in a value is led to, by one step for each level. -/
theorem exists_leads_of_nests (h : v.Nests depth w) :
    ∃ steps, steps.length = depth ∧ Leads v steps w := by
  induction h with
  | self v => exact ⟨[], rfl, .here v⟩
  | inside has _ ih =>
    obtain ⟨step, hgoes⟩ := exists_goes_of_has has
    obtain ⟨steps, rfl, hleads⟩ := ih
    exact ⟨step :: steps, rfl, .step hgoes hleads⟩

/-! ## Resolution -/

variable {vars : Table Value}

/-- From the variables, the first step is one like the others, from the
object of them. -/
theorem resolveSteps_property {name : String} :
    resolveSteps vars (.property name :: steps) = walk (.object vars) (.property name :: steps) :=
  rfl

theorem walk_append (front : List Step) :
    walk v (front ++ steps) = walk v front >>= fun u => walk u steps := by
  induction front generalizing v with
  | nil => rfl
  | cons step front ih =>
    rw [List.cons_append, walk, walk]
    cases step.reach v with
    | error why => rfl
    | ok u => exact ih

theorem resolveSteps_eq_ok_iff (hvars : (Value.object vars).Addressable) :
    resolveSteps vars steps = .ok v ↔
      (∃ name rest, steps = .property name :: rest) ∧ (∀ step ∈ steps, step.Free) ∧
        Leads (.object vars) steps v := by
  match steps with
  | [] => exact iff_of_false (by simp [resolveSteps]) (by simp)
  | .index i :: rest => exact iff_of_false (by simp [resolveSteps]) (by simp)
  | .property name :: rest =>
    rw [resolveSteps_property, walk_eq_ok_iff hvars]
    exact (and_iff_right ⟨name, rest, rfl⟩).symm

theorem resolveSteps_eq_error_iff (hvars : (Value.object vars).Addressable) :
    resolveSteps vars steps = .error why ↔
      steps = [] ∧ why = .malformed .empty ∨
      (∃ i rest, steps = .index i :: rest) ∧ why = .malformed .indexRoot ∨
      (∃ name rest, steps = .property name :: rest) ∧ Stops (.object vars) steps why := by
  match steps with
  | [] => simpa [resolveSteps] using eq_comm
  | .index i :: rest => simpa [resolveSteps] using eq_comm
  | .property name :: rest =>
    rw [resolveSteps_property, walk_eq_error_iff hvars]
    simp

/-- In a safe tree, all steps that lead somewhere resolve. -/
theorem resolveSteps_of_leads (hvars : (Value.object vars).Addressable)
    (hsafe : Safe p 0 (.object vars)) (hne : steps ≠ []) (h : Leads (.object vars) steps v) :
    resolveSteps vars steps = .ok v := by
  refine (resolveSteps_eq_ok_iff hvars).2 ⟨?_, h.free hsafe, h⟩
  -- an object has no positions, so the first step is a name
  cases h with
  | here => exact absurd rfl hne
  | step goes leads =>
    cases goes
    exact ⟨_, _, rfl⟩

/-- The count of an array or a string is a number, from which no step goes
on. -/
theorem not_leads_behind_length (hu : u.kind = .array ∨ u.kind = .string) :
    ¬Leads u (.property "length" :: step :: steps) w := by
  rintro ⟨⟩
  rename_i count goes leads
  obtain ⟨n, rfl⟩ : ∃ n, count = .number n := by
    cases goes with
    | field => exact hu.elim nofun nofun
    | itemCount | charCount => exact ⟨_, rfl⟩
  cases leads with
  | step goes _ => cases goes

theorem resolveSteps_behind_length {front : List Step} (hvars : (Value.object vars).Addressable)
    (hfront : Leads (.object vars) front u) (hu : u.kind = .array ∨ u.kind = .string) :
    resolveSteps vars (front ++ .property "length" :: step :: steps) ≠ .ok v := by
  intro h
  obtain ⟨⟨name, rest, hname⟩, hfree, -⟩ := (resolveSteps_eq_ok_iff hvars).1 h
  have hwalk : walk (.object vars) front = .ok u :=
    (walk_eq_ok_iff hvars).2 ⟨fun step hstep => hfree step (List.mem_append_left _ hstep), hfront⟩
  rw [hname, resolveSteps_property, ← hname, walk_append, hwalk] at h
  exact not_leads_behind_length hu ((walk_eq_ok_iff (hfront.addressable hvars)).1 h).2

/-- **Resolution gives exactly what is there.** Steps resolve to the value
that they lead to, if the first is a name and none is reserved; where they
fail, it is with the first step that cannot be taken. Behind the length of
an array or a string no step succeeds. Under variables that pass vetting,
all steps that lead somewhere resolve, and there are steps to everything in
them. -/
theorem resolves_what_is_there {vars : Table Value} (hvars : (Value.object vars).Addressable)
    (steps : List Step) :
    (∀ v, resolveSteps vars steps = .ok v ↔
      (∃ name rest, steps = .property name :: rest) ∧ (∀ step ∈ steps, step.Free) ∧
        Leads (.object vars) steps v) ∧
    (∀ why, resolveSteps vars steps = .error why ↔
      steps = [] ∧ why = .malformed .empty ∨
      (∃ i rest, steps = .index i :: rest) ∧ why = .malformed .indexRoot ∨
      (∃ name rest, steps = .property name :: rest) ∧ Stops (.object vars) steps why) ∧
    (∀ front step rest u v, steps = front ++ .property "length" :: step :: rest →
      Leads (.object vars) front u → u.kind = .array ∨ u.kind = .string →
        resolveSteps vars steps ≠ .ok v) ∧
    ∀ p, Vetting.checkVariables p vars = .ok () →
      (∀ v, steps ≠ [] → Leads (.object vars) steps v → resolveSteps vars steps = .ok v) ∧
      ∀ depth v, (Value.object vars).Nests (depth + 1) v →
        ∃ steps, steps.length = depth + 1 ∧ resolveSteps vars steps = .ok v := by
  refine ⟨fun v => resolveSteps_eq_ok_iff hvars, fun why => resolveSteps_eq_error_iff hvars, ?_, ?_⟩
  · rintro front step rest u v rfl hfront hu
    exact resolveSteps_behind_length hvars hfront hu
  · intro p hp
    have hsafe := Vetting.checkVariables_eq_ok_iff.1 hp
    refine ⟨fun v => resolveSteps_of_leads hvars hsafe, fun depth v hv => ?_⟩
    obtain ⟨steps, hlength, hleads⟩ := exists_leads_of_nests hv
    refine ⟨steps, hlength, resolveSteps_of_leads hvars hsafe ?_ hleads⟩
    rintro rfl
    cases hlength

/-- The names of two guests, in the order of their arrival. -/
def guestNames : List Value := [.string "Ann", .string "Bo"]

/-- Variables with a list of guests. -/
def guests : Table Value := Table.ofList [("guests", .array guestNames)]

theorem addressable_guests : (Value.object guests).Addressable := by
  have hname : ∀ s : String, s.length < 1 <<< 63 → (Value.string s).Addressable :=
    fun s hs => Value.addressable_iff.2 ⟨hs, nofun⟩
  have hnames : (Value.array guestNames).Addressable := by
    refine Value.addressable_iff.2 ⟨by simp [Value.Countable, guestNames], ?_⟩
    rintro u ⟨mem⟩
    simp only [guestNames, List.mem_cons, List.not_mem_nil, or_false] at mem
    rcases mem with rfl | rfl
    · exact hname _ (by decide)
    · exact hname _ (by decide)
  refine Value.addressable_iff.2 ⟨trivial, ?_⟩
  rintro u ⟨⟩
  rename_i key mem
  have htable : guests.toList = [("guests", .array guestNames)] := rfl
  rw [htable, List.mem_singleton] at mem
  cases mem
  exact hnames

/-- The list passes vetting. -/
theorem checkVariables_guests : Vetting.checkVariables .strict guests = .ok () :=
  Outcome.toOption_eq_some.1 (by decide +kernel)

/-- The length of the name of the last guest can be read, and nothing behind
it. As the list passes vetting, the steps need only lead there, and there are
steps to the name itself. -/
theorem resolves_last_guest :
    (Value.object guests).Addressable ∧
    resolveSteps guests [.property "guests", .index (-1), .property "length"] =
      .ok (.number (.integer 2 (by decide))) ∧
    resolveSteps guests [.property "guests", .index (-1), .property "length", .index 0] =
      .error (.notTraversable (.index 0) .number) ∧
    Vetting.checkVariables .strict guests = .ok () ∧
    resolveSteps guests [.property "guests", .index (-1)] = .ok (.string "Bo") ∧
    ∃ steps, steps.length = 2 ∧ resolveSteps guests steps = .ok (.string "Bo") := by
  have hguests : Goes (.object guests) (.property "guests") (.array guestNames) :=
    .field (.head _)
  have hlast : Goes (.array guestNames) (.index (-1)) (.string "Bo") :=
    .back (show (2 : Int) + -1 = (1 : Nat) from rfl) rfl
  have hcount : Goes (.string "Bo") (.property "length") (.number (.integer 2 (by decide))) :=
    .charCount
  have hleads : Leads (.object guests) [.property "guests", .index (-1), .property "length"]
      (.number (.integer 2 (by decide))) :=
    .step hguests (.step hlast (.step hcount (.here _)))
  have hfree : ∀ step ∈ [Step.property "guests", .index (-1), .property "length"], step.Free := by
    decide
  have hnests : (Value.object guests).Nests 2 (.string "Bo") :=
    .inside (.field (.head _)) (.inside (.item (.tail _ (.head _))) (.self _))
  refine ⟨addressable_guests, ?_, ?_, checkVariables_guests, ?_, ?_⟩
  · exact ((resolves_what_is_there addressable_guests _).1 _).2 ⟨⟨_, _, rfl⟩, hfree, hleads⟩
  · refine ((resolves_what_is_there addressable_guests _).2.1 _).2 (.inr (.inr ⟨⟨_, _, rfl⟩, ?_⟩))
    exact ⟨_, .index 0, [], _, rfl, hfree, hleads, .noItems nofun⟩
  · exact ((resolves_what_is_there addressable_guests _).2.2.2 .strict checkVariables_guests).1 _
      (List.cons_ne_nil _ _) (.step hguests (.step hlast (.here _)))
  · exact ((resolves_what_is_there addressable_guests []).2.2.2 .strict checkVariables_guests).2
      1 _ hnests

end Path

end PromptTemplate
