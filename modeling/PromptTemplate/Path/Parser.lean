import PromptTemplate.Path.Basic
import PromptTemplate.Text.Blank
import PromptTemplate.Text.Letter
import PromptTemplate.Text.Search
import PromptTemplate.Number.Reader
/-!
# PromptTemplate — reading paths

A path is a root name and then any number of steps `.name`, `[index]` or
`['key']`. Names are made of letters and numbers of any script, `_`, `$`
and `-`. Inside brackets, blanks around the index are ignored, and quotes
protect a closing bracket. `parse` reads a whole text; the first thing
wrong from the left is the one reported.
-/

namespace PromptTemplate

namespace Path

/-- The characters of names. -/
def isNameChar (c : Char) : Bool :=
  Text.isAlphanumeric c || c == '_' || c == '$' || c == '-'

/-- Splits at the bracket that closes the index; inside a pair of equal
quotes a bracket does not close it. -/
def splitBracket : Option Char → List Char → Option (List Char × List Char)
  | _, [] => none
  | none, c :: r =>
    if c = ']' then some ([], r)
    else
      let quote := if c = '\'' ∨ c = '"' then some c else none
      (splitBracket quote r).map fun (inner, rest) => (c :: inner, rest)
  | some q, c :: r =>
    let quote := if c = q then none else some q
    (splitBracket quote r).map fun (inner, rest) => (c :: inner, rest)

/-- What follows a bracketed index is shorter than what begins with it. -/
theorem length_lt_of_splitBracket {quote : Option Char} {cs inner rest : List Char}
    (h : splitBracket quote cs = some (inner, rest)) : rest.length < cs.length := by
  induction cs generalizing quote inner with
  | nil => simp [splitBracket] at h
  | cons c r ih =>
    cases quote with
    | none =>
      unfold splitBracket at h
      split at h
      · simp only [Option.some.injEq, Prod.mk.injEq] at h
        simp [h.2]
      · obtain ⟨p, hp, he⟩ := Option.map_eq_some_iff.1 h
        obtain ⟨-, rfl⟩ := Prod.mk.injEq .. ▸ he
        have := ih hp
        simp
        omega
    | some q =>
      unfold splitBracket at h
      obtain ⟨p, hp, he⟩ := Option.map_eq_some_iff.1 h
      obtain ⟨-, rfl⟩ := Prod.mk.injEq .. ▸ he
      have := ih hp
      simp
      omega

/-- The integer that a text of digits with an optional sign stands for, if
it is a signed word of 64 bits. -/
def integer? (cs : List Char) : Option Int :=
  let (negative, ds) := match cs with
    | '-' :: r => (true, r)
    | '+' :: r => (false, r)
    | r => (false, r)
  if ds.isEmpty || !ds.all Char.isDigit then none
  else
    let n : Int := Number.natOfDigits ds
    let value := if negative then -n else n
    if -(1 <<< 63) ≤ value ∧ value < 1 <<< 63 then some value else none

/-- The key between two equal quotes that enclose a whole text. -/
def quotedKey? (quote : Char) (cs : List Char) : Option (List Char) :=
  match cs with
  | first :: r =>
    if first = quote ∧ r.getLast? = some quote then some r.dropLast else none
  | [] => none

/-- The step that the trimmed text between brackets stands for. -/
def bracketStep (path : String) (inner : List Char) : Except Malformation Step :=
  if inner.isEmpty then .error (.emptyBrackets path)
  else match (quotedKey? '\'' inner).or (quotedKey? '"' inner) with
    | some [] => .error (.emptyKey path)
    | some key => .ok (.property (String.ofList key))
    | none =>
      match integer? inner with
      | some n => .ok (.index n)
      | none => .error (.badIndex (String.ofList inner) path)

/-- Splits a name off the front of a text. -/
def spanName (cs : List Char) : List Char × List Char :=
  (cs.takeWhile isNameChar, cs.dropWhile isNameChar)

theorem length_spanName_le (cs : List Char) : (spanName cs).2.length ≤ cs.length :=
  (List.dropWhile_sublist _).length_le

/-- Reads the steps behind the root, from a byte position on. -/
def parseSteps (path : String) (position : Nat) (cs : List Char) :
    Except Malformation (List Step) :=
  match cs with
  | [] => .ok []
  | '.' :: r =>
    let name := (spanName r).1
    let rest := (spanName r).2
    if name.isEmpty then .error (.noName position path)
    else do
      let steps ← parseSteps path (position + 1 + Text.byteLength name) rest
      return .property (String.ofList name) :: steps
  | '[' :: r =>
    match h : splitBracket none r with
    | none => .error (.unclosed position path)
    | some (inner, rest) => do
      let step ← bracketStep path (Text.trim inner)
      let steps ← parseSteps path (position + 2 + Text.byteLength inner) rest
      return step :: steps
  | c :: _ => .error (.unexpected c position path)
termination_by cs.length
decreasing_by
  · have := length_spanName_le r
    simp
    omega
  · have := length_lt_of_splitBracket h
    simp
    omega

/-- The steps of a path; the first names the root variable. -/
def parse (text : String) : Except Malformation (List Step) :=
  let cs := Text.trim text.toList
  let path := String.ofList cs
  let root := (spanName cs).1
  if cs.isEmpty then .error .empty
  else if root.isEmpty then .error (.noRoot path)
  else do
    let steps ← parseSteps path (Text.byteLength root) (spanName cs).2
    return .property (String.ofList root) :: steps

end Path

end PromptTemplate
