import PromptTemplate.Compile.Assembly
import PromptTemplate.Proofs.Table
/-!
# PromptTemplate — the slots of an instruction

The slots of an instruction are filled one key after another, and each time
the whole text is searched, with what has been filled in before. `Stretch`
reads an instruction as a row of texts and slots without braces of their
own. As long as keys and values have no braces either, a pass finds just
the slots of its key (`fillSlot_write`), and leaves such a row again. So the
passes together come to filling every slot at once, in whatever order they
are made: `slots_filled_at_once`.
-/

namespace PromptTemplate

namespace Text

/-! ## Replacing a text -/

variable {c : Char} {pattern before : List Char}

/-- What belongs to an occurrence is skipped. -/
theorem replaceFrom_skip (pattern new : List Char) (skip : Nat) (text : List Char) :
    replaceFrom pattern new skip text = replaceFrom pattern new 0 (text.drop skip) := by
  induction text generalizing skip with
  | nil => simp [replaceFrom]
  | cons c r ih =>
    cases skip with
    | zero => rfl
    | succ skip => exact ih skip

/-- An occurrence in front is replaced. -/
theorem replaceFrom_append (hpattern : pattern ≠ []) (new after : List Char) :
    replaceFrom pattern new 0 (pattern ++ after) = new ++ replaceFrom pattern new 0 after := by
  cases pattern with
  | nil => exact absurd rfl hpattern
  | cons c r =>
    have hprefix : (c :: r).isPrefixOf (c :: (r ++ after)) = true :=
      List.isPrefixOf_iff_prefix.2 (List.prefix_append (c :: r) after)
    rw [List.cons_append, replaceFrom, if_pos hprefix, replaceFrom_skip]
    simp

/-- A text in which the pattern cannot begin stays. -/
theorem replaceFrom_of_not_mem (h : c ∉ before) (pattern new after : List Char) :
    replaceFrom (c :: pattern) new 0 (before ++ after) =
      before ++ replaceFrom (c :: pattern) new 0 after := by
  induction before with
  | nil => rfl
  | cons d before ih =>
    rw [List.mem_cons, not_or] at h
    have hprefix : ¬ (c :: pattern).isPrefixOf (d :: (before ++ after)) = true := by
      rw [List.isPrefixOf_iff_prefix, List.cons_prefix_cons]
      exact fun hboth => h.1 hboth.1
    rw [List.cons_append, replaceFrom, if_neg hprefix, ih h.2, List.cons_append]

/-- What stands before the first place of a character is determined. -/
theorem eq_of_append_cons {before' after after' : List Char} (hbefore : c ∉ before)
    (hbefore' : c ∉ before') (h : before ++ c :: after = before' ++ c :: after') :
    before = before' := by
  have htake {x y : List Char} (hx : c ∉ x) : (x ++ c :: y).takeWhile (· != c) = x := by
    rw [List.takeWhile_append_of_pos, List.takeWhile_cons_of_neg (by simp), List.append_nil]
    intro d hd
    exact bne_iff_ne.2 fun hdc => hx (hdc ▸ hd)
  rw [← htake hbefore, h, htake hbefore']

end Text

namespace Compile

open Interpolation Text

/-! ## Instructions without stray braces -/

/-- A text has no braces. -/
def Braceless (s : String) : Prop := '\x7b' ∉ s.toList ∧ '\x7d' ∉ s.toList

instance (s : String) : Decidable (Braceless s) := inferInstanceAs (Decidable (_ ∧ _))

/-- A stretch of an instruction: text, or the slot of a name. -/
inductive Stretch
  | text (s : String)
  | slot (name : String)

namespace Stretch

/-- A stretch as it is written. -/
def written : Stretch → String
  | .text s => s
  | .slot name => Compile.slot name

/-- The text of a stretch, or the name of its slot. -/
def inside : Stretch → String
  | .text s => s
  | .slot name => name

/-- A stretch has no braces, those of the slot apart. -/
def Plain (s : Stretch) : Prop := Braceless s.inside

instance (s : Stretch) : Decidable s.Plain := inferInstanceAs (Decidable (Braceless _))

/-- A stretch with the value of a configuration in the place of a slot, if
its name is a key there. -/
def filled (config : Table Value) : Stretch → String
  | .text s => s
  | .slot name =>
    match config.find? name with
    | some value => render value
    | none => Compile.slot name

/-- A stretch after the slots of one name have been filled. -/
def fill (name : String) (value : Value) : Stretch → Stretch
  | .text s => .text s
  | .slot other => if other = name then .text (render value) else .slot other

end Stretch

/-- An instruction that is written stretch by stretch. -/
def write (stretches : List Stretch) : String := String.join (stretches.map Stretch.written)

variable {stretches : List Stretch} {name : String} {value : Value} {config : Table Value}
  {entries : List (String × Value)}

theorem toList_write_cons (stretch : Stretch) (rest : List Stretch) :
    (write (stretch :: rest)).toList = stretch.written.toList ++ (write rest).toList := by
  simp [write]

theorem toList_slot (name : String) :
    (slot name).toList = '\x7b' :: (name.toList ++ ['\x7d']) := by
  simp [slot]

/-! ## One pass -/

/-- **Another slot** is passed over: its name ends where its brace is. -/
theorem replaceFrom_slot_of_ne {other : String} (hname : Braceless name) (hother : Braceless other)
    (hne : other ≠ name) (new after : List Char) :
    replaceFrom (slot name).toList new 0 ((slot other).toList ++ after) =
      (slot other).toList ++ replaceFrom (slot name).toList new 0 after := by
  rw [toList_slot, toList_slot]
  have hprefix : ¬ ('\x7b' :: (name.toList ++ ['\x7d'])).isPrefixOf
      ('\x7b' :: (other.toList ++ ['\x7d'] ++ after)) = true := by
    rw [List.isPrefixOf_iff_prefix, List.cons_prefix_cons]
    rintro ⟨-, rest, hrest⟩
    rw [List.append_assoc, List.append_assoc] at hrest
    exact hne (String.toList_inj.1 (eq_of_append_cons hname.2 hother.2 hrest)).symm
  have hinside : '\x7b' ∉ other.toList ++ ['\x7d'] := by
    simp [hother.1]
  rw [List.cons_append, replaceFrom, if_neg hprefix, replaceFrom_of_not_mem hinside,
    List.cons_append]

/-- **One pass** fills the slots of its name, and nothing else. -/
theorem fillSlot_write (hstretches : ∀ s ∈ stretches, s.Plain) (hname : Braceless name)
    (value : Value) : fillSlot name value (write stretches) =
      write (stretches.map (Stretch.fill name value)) := by
  have hslot : (slot name).toList ≠ [] := by simp [toList_slot]
  rw [← String.toList_inj, fillSlot, replaceAll, String.toList_ofList, Text.replace,
    if_neg (by simpa using hslot)]
  induction stretches with
  | nil => simp [write, replaceFrom]
  | cons stretch rest ih =>
    rw [List.forall_mem_cons] at hstretches
    rw [List.map_cons, toList_write_cons, toList_write_cons, ← ih hstretches.2]
    cases stretch with
    | text s =>
      rw [toList_slot]
      exact replaceFrom_of_not_mem hstretches.1.1 _ _ _
    | slot other =>
      by_cases hother : other = name
      · subst hother
        rw [Stretch.fill, if_pos rfl]
        exact replaceFrom_append hslot _ _
      · rw [Stretch.fill, if_neg hother]
        exact replaceFrom_slot_of_ne hname hstretches.1 hother _ _

/-- What a pass leaves has no stray braces, if the value has none. -/
theorem Stretch.Plain.fill {stretch : Stretch} (h : stretch.Plain)
    (hvalue : Braceless (render value)) (name : String) : (stretch.fill name value).Plain := by
  cases stretch with
  | text s => exact h
  | slot other =>
    rw [Stretch.fill]
    split
    · exact hvalue
    · exact h

/-! ## All passes -/

/-- Fills the slots of entries, one pass for each. -/
def fillSlots (entries : List (String × Value)) (instruction : String) : String :=
  entries.foldl (fun text entry => fillSlot entry.1 entry.2 text) instruction

/-- A stretch after the passes for entries. -/
def Stretch.fillFrom (entries : List (String × Value)) (stretch : Stretch) : Stretch :=
  entries.foldl (fun stretch entry => stretch.fill entry.1 entry.2) stretch

/-- **The passes** each do their part on every stretch. -/
theorem fillSlots_write (hstretches : ∀ s ∈ stretches, s.Plain)
    (hentries : ∀ e ∈ entries, Braceless e.1 ∧ Braceless (render e.2)) :
    fillSlots entries (write stretches) = write (stretches.map (Stretch.fillFrom entries)) := by
  induction entries generalizing stretches with
  | nil =>
    have hself : Stretch.fillFrom [] = id := rfl
    rw [hself, List.map_id]
    rfl
  | cons entry rest ih =>
    rw [List.forall_mem_cons] at hentries
    have hfilled : ∀ s ∈ stretches.map (Stretch.fill entry.1 entry.2), s.Plain := by
      intro s hs
      obtain ⟨stretch, hmem, rfl⟩ := List.mem_map.1 hs
      exact (hstretches stretch hmem).fill hentries.1.2 entry.1
    have hrest := ih hfilled hentries.2
    rw [List.map_map] at hrest
    rw [fillSlots, List.foldl_cons, fillSlot_write hstretches hentries.1.1]
    exact hrest

theorem Stretch.fillFrom_text (entries : List (String × Value)) (s : String) :
    Stretch.fillFrom entries (.text s) = .text s := by
  induction entries with
  | nil => rfl
  | cons entry rest ih => exact ih

/-- A slot is filled by the first entry of its name, and no later one finds
it. -/
theorem Stretch.fillFrom_slot (entries : List (String × Value)) (name : String) :
    Stretch.fillFrom entries (.slot name) =
      match entries.lookup name with
      | some value => .text (render value)
      | none => .slot name := by
  induction entries with
  | nil => rfl
  | cons entry rest ih =>
    rw [Stretch.fillFrom, List.foldl_cons, Stretch.fill]
    by_cases hname : name = entry.1
    · rw [if_pos hname, List.lookup_cons, beq_iff_eq.2 hname]
      exact Stretch.fillFrom_text rest _
    · rw [if_neg hname, List.lookup_cons, beq_eq_false_iff_ne.2 hname]
      exact ih

/-- So the entries of a configuration fill a stretch as the configuration
does, in any order. -/
theorem Stretch.written_fillFrom (h : entries.Perm config.toList) (stretch : Stretch) :
    (stretch.fillFrom entries).written = stretch.filled config := by
  cases stretch with
  | text s => rw [Stretch.fillFrom_text, Stretch.written, Stretch.filled]
  | slot name =>
    rw [Stretch.fillFrom_slot, Entries.lookup_of_perm h, Stretch.filled]
    cases config.find? name with
    | some value => rfl
    | none => rfl

/-- The description first and the others in key order are all entries. -/
theorem renderInstruction_eq (instruction : String) (config : Table Value) :
    ∃ entries, entries.Perm config.toList ∧
      renderInstruction instruction config = fillSlots entries instruction := by
  refine ⟨_, List.filter_append_perm (·.1 == descriptionKey) config.toList, ?_⟩
  rw [Entries.filter_toList, fillSlots, List.foldl_append, renderInstruction]
  cases config.find? descriptionKey with
  | some value => rfl
  | none => rfl

/-- **Slots are filled at once.** Of an instruction that is a row of texts
and slots without stray braces, under a configuration without braces in its
keys and in the texts of its values: rendering it puts into the place of
every slot whose name is a key the text of the value of that key, and
leaves all other slots and all texts as they are written; and passes in any
other order of the keys do the same. -/
theorem slots_filled_at_once (hstretches : ∀ s ∈ stretches, s.Plain)
    (hconfig : ∀ e ∈ config.toList, Braceless e.1 ∧ Braceless (render e.2)) :
    renderInstruction (write stretches) config =
        String.join (stretches.map (Stretch.filled config)) ∧
      ∀ entries, entries.Perm config.toList →
        fillSlots entries (write stretches) =
          String.join (stretches.map (Stretch.filled config)) := by
  have horder : ∀ entries, entries.Perm config.toList →
      fillSlots entries (write stretches) =
        String.join (stretches.map (Stretch.filled config)) := by
    intro entries hperm
    have hentries : ∀ e ∈ entries, Braceless e.1 ∧ Braceless (render e.2) :=
      fun e he => hconfig e (hperm.subset he)
    rw [fillSlots_write hstretches hentries, write, List.map_map]
    exact congrArg String.join (List.map_congr_left fun s _ => Stretch.written_fillFrom hperm s)
  obtain ⟨entries, hperm, hrender⟩ := renderInstruction_eq (write stretches) config
  exact ⟨hrender.trans (horder entries hperm), horder⟩

/-- An instruction with a name that begins another one, with a slot that
comes twice, with the slot of no name, and with one of an unknown name. -/
def welcome : List Stretch :=
  [.text "Ask ", .slot "name", .text " and ", .slot "names", .text "; then ", .slot "name",
    .slot "", .slot "place"]

/-- Values for all of its names but the last one. -/
def guests : Table Value :=
  Table.ofList [("", .string "!"), ("description", .null), ("name", .string "Ann"),
    ("names", .array [.string "Bo", .bool true])]

theorem slots_filled_at_once_welcome :
    (∀ s ∈ welcome, s.Plain) ∧
      (∀ e ∈ guests.toList, Braceless e.1 ∧ Braceless (render e.2)) ∧
      renderInstruction (write welcome) guests =
        "Ask Ann and Bo, true; then Ann!\x7bplace\x7d" := by
  have hstretches : ∀ s ∈ welcome, s.Plain := by decide +kernel
  have hconfig : ∀ e ∈ guests.toList, Braceless e.1 ∧ Braceless (render e.2) := by decide +kernel
  have hfilled : String.join (welcome.map (Stretch.filled guests)) =
      "Ask Ann and Bo, true; then Ann!\x7bplace\x7d" := by
    decide +kernel
  exact ⟨hstretches, hconfig, (slots_filled_at_once hstretches hconfig).1.trans hfilled⟩

end Compile

end PromptTemplate
