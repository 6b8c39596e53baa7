import PromptTemplate.Text.Search
/-!
# PromptTemplate — texts and their parts

A text is split at every separator, and its parts put together again are
the text. Both ways respect the place of a separator, so the parts of a
text are the last parts of another one exactly if it is that text or ends
it behind a separator (`split_suffix_iff`): `example.com` ends
`www.example.com`, but not `badexample.com`.
-/

namespace PromptTemplate

namespace Text

variable {separator : Char}

/-- The parts before a separator and those behind it are the parts of the
text. -/
theorem split_append (separator : Char) (before after : List Char) :
    split separator (before ++ separator :: after) =
      split separator before ++ split separator after := by
  induction before with
  | nil => simp [split]
  | cons c before ih =>
    rw [List.cons_append, split, split, ih]
    by_cases hc : c = separator
    · rw [if_pos hc, if_pos hc, List.cons_append]
    · rw [if_neg hc, if_neg hc]
      cases hbefore : split separator before with
      | nil => exact absurd hbefore (split_ne_nil separator before)
      | cons part parts => rfl

/-- A text without a separator is its only part. -/
theorem split_of_not_mem {text : List Char} (h : separator ∉ text) :
    split separator text = [text] := by
  induction text with
  | nil => rfl
  | cons c text ih =>
    rw [List.mem_cons, not_or] at h
    rw [split, if_neg (Ne.symm h.1), ih h.2]

/-- A part is put in front of others with a separator between. -/
theorem unsplit_cons (part : List Char) {parts : List (List Char)} (h : parts ≠ []) :
    unsplit separator (part :: parts) = part ++ separator :: unsplit separator parts := by
  cases parts with
  | nil => exact absurd rfl h
  | cons next parts => rfl

/-- So are several ones. -/
theorem unsplit_append {parts more : List (List Char)} (hparts : parts ≠ []) (hmore : more ≠ []) :
    unsplit separator (parts ++ more) =
      unsplit separator parts ++ separator :: unsplit separator more := by
  induction parts with
  | nil => exact absurd rfl hparts
  | cons part parts ih =>
    by_cases hnil : parts = []
    · rw [hnil, List.singleton_append, unsplit_cons part hmore]
      rfl
    · rw [List.cons_append, unsplit_cons part (by simp [hmore]), ih hnil, unsplit_cons part hnil]
      simp

/-- Every part stands in the text that parts are put together to. -/
theorem infix_unsplit {parts : List (List Char)} {part : List Char} (h : part ∈ parts) :
    part <:+: unsplit separator parts := by
  induction parts with
  | nil => cases h
  | cons first parts ih =>
    by_cases hnil : parts = []
    · rw [hnil] at h ⊢
      obtain rfl := List.mem_singleton.1 h
      exact List.infix_refl _
    · rw [unsplit_cons first hnil]
      rcases List.mem_cons.1 h with rfl | h
      · exact (List.prefix_append _ _).isInfix
      · exact (ih h).trans (((List.suffix_cons _ _).trans (List.suffix_append _ _)).isInfix)

/-- **The last parts of a text** are those of another one exactly if that is
the text or ends it behind a separator. -/
theorem split_suffix_iff {ending text : List Char} :
    split separator ending <:+ split separator text ↔
      text = ending ∨ separator :: ending <:+ text := by
  constructor
  · rintro ⟨front, hfront⟩
    have htext := unsplit_split separator text
    rw [← hfront] at htext
    by_cases hnil : front = []
    · left
      rw [← htext, hnil, List.nil_append, unsplit_split]
    · right
      refine ⟨unsplit separator front, ?_⟩
      rw [← htext, unsplit_append hnil (split_ne_nil separator ending), unsplit_split]
  · rintro (rfl | ⟨before, rfl⟩)
    · exact List.suffix_refl _
    · rw [split_append]
      exact List.suffix_append _ _

end Text

end PromptTemplate
