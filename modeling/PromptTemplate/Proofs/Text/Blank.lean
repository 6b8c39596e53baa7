import Mathlib.Data.List.DropRight
import PromptTemplate.Text.Blank
/-!
# PromptTemplate — what trimming leaves

Trimming takes a run of blanks off each end of a text (`exists_trim`) and
leaves a text that neither begins nor ends with a blank, so that trimming
it once more changes nothing: `trim_trim`.
-/

namespace PromptTemplate

namespace Text

/-- A text without blanks is left alone by trimming, -/
theorem trim_of_forall {cs : List Char} (h : ∀ c ∈ cs, isBlank c = false) : trim cs = cs :=
  trim_eq_self (fun c hc => h c (List.mem_of_head? hc)) fun c hc => h c (List.mem_of_getLast? hc)

/-- and so is one whose ends are no blanks. -/
theorem trim_enclosed {x y : Char} {cs : List Char} (hx : isBlank x = false)
    (hy : isBlank y = false) : trim (x :: (cs ++ [y])) = x :: (cs ++ [y]) := by
  refine trim_eq_self (fun c hc => ?_) fun c hc => ?_
  · cases hc
    exact hx
  · rw [← List.cons_append, List.getLast?_concat] at hc
    cases hc
    exact hy

/-- Behind the blanks in front, there are only blanks behind what trimming
leaves. -/
theorem exists_trimStart (cs : List Char) :
    ∃ behind, (∀ c ∈ behind, isBlank c = true) ∧ trimStart cs = trim cs ++ behind := by
  refine ⟨((trimStart cs).reverse.takeWhile isBlank).reverse,
    fun c hc => List.mem_takeWhile_imp (List.mem_reverse.1 hc), ?_⟩
  have hsplit := List.takeWhile_append_dropWhile (p := isBlank) (l := (trimStart cs).reverse)
  rw [trim, trimEnd, ← List.reverse_append, hsplit, List.reverse_reverse]

/-- **A text is what trimming leaves of it,** between blanks. -/
theorem exists_trim (cs : List Char) :
    ∃ front behind, (∀ c ∈ front, isBlank c = true) ∧ (∀ c ∈ behind, isBlank c = true) ∧
      cs = front ++ (trim cs ++ behind) := by
  obtain ⟨behind, hbehind, hstart⟩ := exists_trimStart cs
  refine ⟨cs.takeWhile isBlank, behind, fun c hc => List.mem_takeWhile_imp hc, hbehind, ?_⟩
  rw [← hstart, trimStart, List.takeWhile_append_dropWhile]

/-- On each side of a character that is no blank, trimming goes on by
itself. -/
theorem trim_append_cons {c : Char} (hc : isBlank c = false) (cs r : List Char) :
    trim (cs ++ c :: r) = trimStart cs ++ c :: trimEnd r := by
  have hstart : trimStart (cs ++ c :: r) = trimStart cs ++ c :: r := by
    rw [trimStart, List.dropWhile_append]
    split
    · rename_i hblank
      rw [trimStart, List.isEmpty_iff.1 hblank, List.dropWhile_cons_of_neg (by simp [hc])]
      rfl
    · rfl
  rw [trim, hstart, trimEnd, trimEnd, List.reverse_append, List.reverse_cons, List.append_assoc,
    List.dropWhile_append]
  split
  · rename_i hblank
    rw [List.isEmpty_iff.1 hblank, List.singleton_append,
      List.dropWhile_cons_of_neg (by simp [hc])]
    simp
  · simp

/-- What trimming leaves does not begin with a blank, -/
theorem not_isBlank_of_mem_head?_trim {cs : List Char} {c : Char} (h : c ∈ (trim cs).head?) :
    isBlank c = false := by
  have hprefix : trim cs <+: trimStart cs := List.rdropWhile_prefix isBlank _
  have hhead : (trimStart cs).head? = some c := by
    obtain ⟨behind, hbehind⟩ := hprefix
    rw [← hbehind, List.head?_append, Option.mem_def.1 h]
    rfl
  have hnot := List.head?_dropWhile_not isBlank cs
  rw [trimStart] at hhead
  rw [hhead] at hnot
  simpa using hnot

/-- nor does it end with one. -/
theorem not_isBlank_of_mem_getLast?_trim {cs : List Char} {c : Char}
    (h : c ∈ (trim cs).getLast?) : isBlank c = false := by
  have hne : trim cs ≠ [] := by
    rintro hnil
    rw [hnil] at h
    cases h
  have hlast := List.rdropWhile_last_not isBlank (trimStart cs) hne
  have hc : (trim cs).getLast hne = c := by
    rw [Option.mem_def, List.getLast?_eq_some_getLast hne, Option.some.injEq] at h
    exact h
  exact Bool.eq_false_iff.2 fun hblank => hlast (hc ▸ hblank)

/-- **Trimming twice** is trimming once. -/
theorem trim_trim (cs : List Char) : trim (trim cs) = trim cs :=
  trim_eq_self (fun _ => not_isBlank_of_mem_head?_trim) fun _ => not_isBlank_of_mem_getLast?_trim

end Text

end PromptTemplate
