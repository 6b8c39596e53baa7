/-!
# PromptTemplate — finding and replacing text

Texts are searched as lists of characters. `splitOn?` cuts at the first
occurrence of a pattern, `replace` puts a text in the place of every
occurrence, from left to right and without rescanning, and `splitOn?_eq`
says that a cut loses nothing.
-/

namespace PromptTemplate

namespace Text

/-- Cuts a text at the first occurrence of a pattern: what stands before
it and what follows it. -/
def splitOn? (pattern : List Char) : List Char → Option (List Char × List Char)
  | [] => if pattern.isEmpty then some ([], []) else none
  | c :: r =>
    if pattern.isPrefixOf (c :: r) then some ([], (c :: r).drop pattern.length)
    else (splitOn? pattern r).map fun (before, after) => (c :: before, after)

/-- Whether a pattern occurs in a text. -/
def occurs (pattern text : List Char) : Bool := (splitOn? pattern text).isSome

/-- Whether a string occurs in another one. -/
def contains (text part : String) : Bool := occurs part.toList text.toList

/-- A cut loses nothing. -/
theorem splitOn?_eq {pattern text before after : List Char}
    (h : splitOn? pattern text = some (before, after)) : text = before ++ pattern ++ after := by
  induction text generalizing before with
  | nil =>
    unfold splitOn? at h
    split at h
    · rename_i hp
      simp only [Option.some.injEq, Prod.mk.injEq] at h
      obtain ⟨rfl, rfl⟩ := h
      simp [List.isEmpty_iff.1 hp]
    · cases h
  | cons c r ih =>
    unfold splitOn? at h
    split at h
    · rename_i hp
      obtain ⟨t, ht⟩ := List.isPrefixOf_iff_prefix.1 hp
      simp only [Option.some.injEq, Prod.mk.injEq] at h
      obtain ⟨rfl, rfl⟩ := h
      simp [← ht]
    · cases hr : splitOn? pattern r with
      | none => simp [hr] at h
      | some p =>
        obtain ⟨b, a⟩ := p
        simp only [hr, Option.map_some, Option.some.injEq, Prod.mk.injEq] at h
        obtain ⟨rfl, rfl⟩ := h
        simp [ih hr]

/-- What follows a cut behind a pattern that is not empty is shorter. -/
theorem length_lt_of_splitOn? {pattern text before after : List Char} (hp : pattern ≠ [])
    (h : splitOn? pattern text = some (before, after)) : after.length < text.length := by
  rw [splitOn?_eq h]
  have : 0 < pattern.length := List.length_pos_iff.2 hp
  simp
  omega

/-- Copies a text with another one in the place of every occurrence of a
pattern that is not empty; the first `skip` characters still belong to
the occurrence before. -/
def replaceFrom (pattern new : List Char) : Nat → List Char → List Char
  | _, [] => []
  | skip + 1, _ :: r => replaceFrom pattern new skip r
  | 0, c :: r =>
    if pattern.isPrefixOf (c :: r) then new ++ replaceFrom pattern new (pattern.length - 1) r
    else c :: replaceFrom pattern new 0 r

/-- Replaces every occurrence of a pattern that is not empty, from left to
right; what has been put in is not searched again. -/
def replace (pattern new text : List Char) : List Char :=
  if pattern.isEmpty then text else replaceFrom pattern new 0 text

/-- Replaces every occurrence of a string that is not empty. -/
def replaceAll (text pattern new : String) : String :=
  String.ofList (replace pattern.toList new.toList text.toList)

/-- The parts of a text between the occurrences of a separator; without
one, the whole text. -/
def split (separator : Char) : List Char → List (List Char)
  | [] => [[]]
  | c :: cs =>
    if c = separator then [] :: split separator cs
    else match split separator cs with
      | [] => [[c]]
      | part :: parts => (c :: part) :: parts

/-- Puts parts together with a separator between two. -/
def unsplit (separator : Char) : List (List Char) → List Char
  | [] => []
  | [part] => part
  | part :: parts => part ++ separator :: unsplit separator parts

/-- There is always a part. -/
theorem split_ne_nil (separator : Char) (cs : List Char) : split separator cs ≠ [] := by
  cases cs with
  | nil => simp [split]
  | cons c cs =>
    unfold split
    split
    · simp
    · split <;> simp

/-- Putting the parts of a text together gives the text. -/
theorem unsplit_split (separator : Char) (cs : List Char) :
    unsplit separator (split separator cs) = cs := by
  induction cs with
  | nil => rfl
  | cons c cs ih =>
    cases hs : split separator cs with
    | nil => exact absurd hs (split_ne_nil separator cs)
    | cons part parts =>
      rw [hs] at ih
      unfold split
      split
      · rename_i h
        rw [hs, h]
        exact congrArg (separator :: ·) ih
      · rw [hs]
        cases parts with
        | nil => exact congrArg (c :: ·) ih
        | cons next rest => exact congrArg (c :: ·) ih

/-- The number of bytes of a text in UTF-8. -/
def byteLength (cs : List Char) : Nat := cs.foldr (fun c n => c.utf8Size + n) 0

/-- The first `n` characters of a text, with a mark behind them if it has
more. -/
def truncated (n : Nat) (mark s : String) : String :=
  let cs := s.toList
  if n < cs.length then String.ofList (cs.take n ++ mark.toList) else s

/-- Joins texts with a separator between two. -/
def join (separator : String) (texts : List String) : String := separator.intercalate texts

end Text

end PromptTemplate
