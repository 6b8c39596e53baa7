/-!
# PromptTemplate — blanks, and what trimming takes away

Paths, references and host names are read after the blanks around them
are taken away. This file fixes which characters are blank and defines
trimming on character lists: `trim` drops the longest blank run at each
end and touches nothing between. `trim_eq_self` says which texts it
leaves alone, and `mem_of_mem_trim` that it invents nothing.
-/

namespace PromptTemplate

namespace Text

/-- The white space of Unicode: the ASCII controls from tab to carriage
return, the space, next line, the no-break space, the Ogham space, the
typographic spaces, the line and paragraph separators, and the
mathematical and ideographic spaces. -/
def isBlank (c : Char) : Bool :=
  let n := c.toNat
  (9 ≤ n && n ≤ 13) || n == 0x20 || n == 0x85 || n == 0xA0 || n == 0x1680 ||
    (0x2000 ≤ n && n ≤ 0x200A) || n == 0x2028 || n == 0x2029 || n == 0x202F ||
    n == 0x205F || n == 0x3000

/-- Drops the blanks in front. -/
def trimStart (cs : List Char) : List Char := cs.dropWhile isBlank

/-- Drops the blanks behind. -/
def trimEnd (cs : List Char) : List Char := (cs.reverse.dropWhile isBlank).reverse

/-- Drops the blanks on both sides. -/
def trim (cs : List Char) : List Char := trimEnd (trimStart cs)

/-- The trimmed text of a string. -/
def trimmed (s : String) : String := String.ofList (trim s.toList)

/-- Whether a text has nothing but blanks. -/
def isAllBlank (s : String) : Bool := s.toList.all isBlank

/-- What is left after trimming was there before. -/
theorem mem_of_mem_trim {c : Char} {cs : List Char} (h : c ∈ trim cs) : c ∈ cs := by
  unfold trim trimEnd trimStart at h
  have h' := (List.dropWhile_sublist _).subset (List.mem_reverse.mp h)
  exact (List.dropWhile_sublist _).subset (List.mem_reverse.mp h')

/-- A text whose first and last characters are not blank is left alone. -/
theorem trim_eq_self {cs : List Char} (first : ∀ c ∈ cs.head?, isBlank c = false)
    (last : ∀ c ∈ cs.getLast?, isBlank c = false) : trim cs = cs := by
  have hstart : trimStart cs = cs := by
    cases cs with
    | nil => rfl
    | cons c r => simp [trimStart, first c rfl]
  have hend : trimEnd cs = cs := by
    unfold trimEnd
    have hrev : ∀ c ∈ cs.reverse.head?, isBlank c = false := by
      intro c hc
      exact last c (by simpa [List.head?_reverse] using hc)
    cases hcs : cs.reverse with
    | nil => simpa using hcs.symm
    | cons c r =>
      have hc := hrev c (by simp [hcs])
      have : (c :: r).dropWhile isBlank = c :: r := by simp [hc]
      rw [this, ← hcs, List.reverse_reverse]
  rw [trim, hstart, hend]

end Text

end PromptTemplate
