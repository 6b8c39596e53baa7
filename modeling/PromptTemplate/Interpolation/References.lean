import PromptTemplate.Interpolation.Substitute
/-!
# PromptTemplate — the references of a content sequence

Before anything is substituted, the references of a content sequence can be
listed and tried. `strings` are the texts that substitution visits, in its
order; `references` are their paths, each once, where it stands first; and
`referenceErrors` has one message for every malformed text and for every
path without a value.
-/

namespace PromptTemplate

namespace Interpolation

mutual

/-- The strings of a content element that substitution visits. -/
def elementStrings : Element → List String
  | .text _ text => [text]
  | .placeholder _ _ config => Value.fieldStrings config
  | .conditional _ condition content otherwise =>
    condition :: (strings content ++ branchStrings otherwise)

/-- The strings of a content sequence that substitution visits. -/
def strings : List Element → List String
  | [] => []
  | e :: es => elementStrings e ++ strings es

/-- The strings of a branch, if there is one. -/
def branchStrings : Option (List Element) → List String
  | none => []
  | some es => strings es

end

/-- Puts an item at the end of a list that does not have it yet. -/
def pushNew (list : List String) (item : String) : List String :=
  if list.contains item then list else list ++ [item]

/-- The paths of the references of a text; none if the text is malformed. -/
def textReferences (text : String) : List String :=
  match segments text with
  | .ok ss => Segment.paths ss
  | .error _ => []

/-- The paths of all references, each once, in the order in which they
first stand. -/
def references (elements : List Element) : List String :=
  ((strings elements).flatMap textReferences).foldl pushNew []

/-- The message about a path without a value. -/
def undefinedReference (path : String) (why : Unresolved) : String :=
  "undefined variable reference '$\x7b" ++ path ++ "\x7d': " ++ why.message

/-- Messages so far, and the paths that have been tried. -/
structure Trial where
  errors : List String
  tried : List String

/-- Tries the path of one reference, unless it has been tried. -/
def Trial.path (vars : Table Value) (t : Trial) (path : String) : Trial :=
  if t.tried.contains path then t
  else
    let tried := t.tried ++ [path]
    match lookUp vars path with
    | .ok _ => ⟨t.errors, tried⟩
    | .error why => ⟨t.errors ++ [undefinedReference path why], tried⟩

/-- Tries the references of one text. -/
def Trial.text (vars : Table Value) (t : Trial) (text : String) : Trial :=
  match segments text with
  | .error why => ⟨pushNew t.errors why.toUnresolved.message, t.tried⟩
  | .ok ss => (Segment.paths ss).foldl (Trial.path vars) t

/-- A message for every malformed text and every path without a value. -/
def referenceErrors (vars : Table Value) (elements : List Element) : List String :=
  ((strings elements).foldl (Trial.text vars) ⟨[], []⟩).errors

end Interpolation

end PromptTemplate
