import Mathlib.Data.List.Forall2
import PromptTemplate.Interpolation.Render
/-!
# PromptTemplate — what a rendered value shows

A value in a prompt shows of an object only how many properties it has.
`Resembles` says that two values differ at most inside of objects, which
stand at the same places and are of the same size; they have the same text
(`Resembles.fullText_eq`).

Texts of values are cut between two characters, wherever these lie among the
bytes: `Front` says of a text in what sense another one is its front.
`render_opaque` has both.
-/

namespace PromptTemplate

namespace Text

/-- The front of a text up to the boundary between two characters: so many
characters, and as many bytes of the text as they take; more follows. -/
structure Front (n : Nat) (text front : String) : Prop where
  length : front.length = n
  more : ∃ rest, rest ≠ "" ∧ text = front ++ rest
  boundary : front.rawEndPos.IsValid text
  bytes : text.toByteArray.extract 0 front.utf8ByteSize = front.toByteArray

/-- The first characters of a longer text are its front. -/
theorem front_take {n : Nat} {text : String} (h : n < text.length) :
    Front n text (String.ofList (text.toList.take n)) := by
  have hsplit :
      text = String.ofList (text.toList.take n) ++ String.ofList (text.toList.drop n) := by
    rw [← String.ofList_append, List.take_append_drop, String.ofList_toList]
  have hlength : n < text.toList.length := by rwa [String.length_toList]
  refine ⟨?_, ⟨String.ofList (text.toList.drop n), ?_, hsplit⟩, ?_, ?_⟩
  · rw [String.length_ofList, List.length_take]
    omega
  · rw [ne_eq, String.ofList_eq_empty_iff, List.drop_eq_nil_iff]
    omega
  · exact String.Pos.Raw.isValid_iff_exists_append.2 ⟨_, _, hsplit, rfl⟩
  · have hbytes := congrArg String.toByteArray hsplit
    rw [String.toByteArray_append] at hbytes
    rw [hbytes]
    exact ByteArray.extract_append_eq_left rfl

end Text

namespace Interpolation

/-- A value resembles another one: they differ at most in objects that stand
at the same places, and these have as many properties. -/
inductive Resembles : Value → Value → Prop
  | same (v : Value) : Resembles v v
  | object {fields fields' : Table Value} (size : fields.size = fields'.size) :
      Resembles (.object fields) (.object fields')
  | array {items items' : List Value} (items_resemble : List.Forall₂ Resembles items items') :
      Resembles (.array items) (.array items')

/-- Every item of an array has its text. -/
theorem fullTexts_eq_map (items : List Value) : fullTexts items = items.map fullText := by
  induction items with
  | nil => rfl
  | cons v vs ih => rw [fullTexts, ih, List.map_cons]

/-- **Values that resemble each other** have the same text. -/
theorem Resembles.fullText_eq {v w : Value} (h : Resembles v w) : fullText v = fullText w := by
  induction v using Value.induction generalizing w with
  | null | bool | number | string =>
    cases h
    rfl
  | object fields _ =>
    cases h with
    | same => rfl
    | object size => rw [fullText, fullText, size]
  | array items ih =>
    cases h with
    | same => rfl
    | array items_resemble =>
      rw [fullText, fullText, fullTexts_eq_map, fullTexts_eq_map]
      refine congrArg (Text.join ", ") ?_
      induction items_resemble with
      | nil => rfl
      | cons hhead _ htail =>
        rw [List.forall_mem_cons] at ih
        rw [List.map_cons, List.map_cons, ih.1 hhead, htail ih.2]

/-- What resembles a string is that string. -/
theorem Resembles.eq_of_string {s : String} {w : Value} (h : Resembles (.string s) w) :
    w = .string s := by
  cases h
  rfl

/-- A value that is no string is rendered by its text, cut if it is long. -/
theorem render_of_ne_string {v : Value} (h : ∀ s, v ≠ .string s) :
    render v = Text.truncated maxRendered truncationMark (fullText v) := by
  unfold render
  split
  · rename_i s
    exact absurd rfl (h s)
  · rfl

theorem Resembles.render_eq {v w : Value} (h : Resembles v w) : render v = render w := by
  by_cases hstring : ∃ s, v = .string s
  · obtain ⟨s, rfl⟩ := hstring
    rw [h.eq_of_string]
  · have hv : ∀ s, v ≠ .string s := fun s hs => hstring ⟨s, hs⟩
    have hw : ∀ s, w ≠ .string s := by
      rintro s rfl
      cases h
      exact hv s rfl
    rw [render_of_ne_string hv, render_of_ne_string hw, h.fullText_eq]

/-- **A rendered value does not show objects, and is bounded.** Values that
resemble each other are rendered alike. A value that is no string is rendered
by its text if that has at most a thousand characters, and by the front of a
thousand characters and the mark of a cut if it has more. -/
theorem render_opaque (v : Value) :
    (∀ w, Resembles v w → render v = render w) ∧
      ((∀ s, v ≠ .string s) →
        ((fullText v).length ≤ 1000 → render v = fullText v) ∧
        (1000 < (fullText v).length →
          ∃ front, Text.Front 1000 (fullText v) front ∧ render v = front ++ truncationMark)) := by
  refine ⟨fun w h => h.render_eq, fun hv => ⟨fun hshort => ?_, fun hlong => ?_⟩⟩
  · have hfits : ¬ maxRendered < (fullText v).toList.length := by
      rw [String.length_toList]
      exact Nat.not_lt.2 hshort
    rw [render_of_ne_string hv]
    exact if_neg hfits
  · have hcut : maxRendered < (fullText v).toList.length := by
      rw [String.length_toList]
      exact hlong
    refine ⟨_, Text.front_take hlong, ?_⟩
    rw [render_of_ne_string hv, Text.truncated, if_pos hcut, String.ofList_append,
      String.ofList_toList]
    rfl

/-- A guest, as an object or as another one of its size, and a long name in
which every character takes two bytes. -/
def guestList (guest : String × Value) : Value :=
  .array [.object (Table.ofList [guest]), .string (String.ofList (List.replicate 1000 'é'))]

theorem render_opaque_guestList :
    let named := guestList ("name", .string "Ann")
    let invited := guestList ("invited", .bool true)
    Resembles named invited ∧ render named = render invited ∧
      1000 < (fullText named).length ∧
      ∃ front, Text.Front 1000 (fullText named) front ∧ render named = front ++ truncationMark := by
  intro named invited
  have hresembles : Resembles named invited := .array (.cons (.object rfl) (.cons (.same _) .nil))
  have hlong : 1000 < (fullText named).length := by
    have hseparator : ", ".length = 2 := by decide
    show 1000 < (Text.join ", " (fullTexts [.object (Table.ofList _), .string _])).length
    rw [fullTexts_eq_map, Text.join, List.map_cons, List.map_singleton,
      String.intercalate_cons_cons, String.intercalate_singleton, String.length_append,
      String.length_append, hseparator, fullText, String.length_ofList, List.length_replicate]
    omega
  have hnotString : ∀ s, named ≠ .string s := nofun
  obtain ⟨hsame, hbounded⟩ := render_opaque named
  exact ⟨hresembles, hsame invited hresembles, hlong, (hbounded hnotString).2 hlong⟩

end Interpolation

end PromptTemplate
