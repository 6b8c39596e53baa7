import PromptTemplate.Text.Blank
import PromptTemplate.Text.Search
import PromptTemplate.Fault
/-!
# PromptTemplate — references inside texts

A reference is written `${path}`: a dollar sign, an opening brace, a
path with blanks around it, and the next closing brace. `segments` splits
a text into references and the literal texts between them, from left to
right; a dollar sign without a brace is literal. A reference that is not
closed, or holds nothing but blanks, is an error, never literal text.
-/

namespace PromptTemplate

namespace Interpolation

/-- A piece of a text: literal, or a reference by its trimmed path. -/
inductive Segment
  | literal (text : String)
  | reference (path : String)
deriving DecidableEq

/-- What is wrong with the references of a text. -/
inductive ScanFailure
  /-- A reference is not closed; this stands behind its opening. -/
  | unterminated (rest : String)
  /-- A reference holds nothing but blanks. -/
  | empty
deriving DecidableEq

/-- A failed scan as an unresolved reference. -/
def ScanFailure.toUnresolved : ScanFailure → Unresolved
  | .unterminated rest => ⟨rest, "unterminated '$\x7b' reference", []⟩
  | .empty => ⟨"", "empty '$\x7b\x7d' reference", []⟩

/-- What opens a reference. -/
def opening : List Char := ['$', '\x7b']

/-- What closes a reference. -/
def closing : List Char := ['\x7d']

/-- The literal segment of a text, if it is not empty. -/
def literalSegment (cs : List Char) : List Segment :=
  if cs.isEmpty then [] else [.literal (String.ofList cs)]

/-- Splits a text into its segments. -/
def segmentsOf (cs : List Char) : Except ScanFailure (List Segment) :=
  match _opened : Text.splitOn? opening cs with
  | none => .ok (literalSegment cs)
  | some (before, inside) =>
    match _closed : Text.splitOn? closing inside with
    | none => .error (.unterminated (String.ofList inside))
    | some (path, rest) =>
      let path := Text.trim path
      if path.isEmpty then .error .empty
      else
        (segmentsOf rest).map
          (literalSegment before ++ .reference (String.ofList path) :: ·)
termination_by cs.length
decreasing_by
  have h₁ := Text.length_lt_of_splitOn? (by decide) _opened
  have h₂ := Text.length_lt_of_splitOn? (by decide) _closed
  omega

/-- Splits a text into its segments. -/
def segments (text : String) : Except ScanFailure (List Segment) := segmentsOf text.toList

/-- The paths of the references of a text. -/
def Segment.paths (ss : List Segment) : List String :=
  ss.filterMap fun
    | .reference path => some path
    | .literal _ => none

end Interpolation

end PromptTemplate
