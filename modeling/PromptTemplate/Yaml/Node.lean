import PromptTemplate.Yaml.Scanner
/-!
# PromptTemplate — YAML documents

A document is a tree of nodes: scalars, sequences and mappings. `parse?`
reads the one document of a text; aliases stand for the nodes that their
anchors name. An empty text is an empty plain scalar.
-/

namespace PromptTemplate

namespace Yaml

/-- A node of a document. -/
inductive Node
  | scalar (style : Style) (tag : Option String) (text : String)
  | sequence (items : List Node)
  | mapping (entries : List (Node × Node))

namespace Node

/-- The scalar that stands where nothing is written. -/
def empty : Node := .scalar .plain none ""

/-- What the parser knows: the tokens that are left, the nodes that have an
anchor, and the handles of tags. -/
structure Reading where
  tokens : List Token
  anchors : List (String × Node)
  handles : List (String × String)

/-- A step of the parser, which may fail. -/
abbrev Parse := StateT Reading Option

/-- The next token. -/
def peek : Parse (Option Token) := do return (← get).tokens.head?

/-- Skips a token. -/
def skip : Parse Unit := modify fun r => { r with tokens := r.tokens.tail }

/-- Skips a token if it is the next one, and says whether it is. -/
def accept (t : Token) : Parse Bool := do
  if (← peek) == some t then
    skip
    return true
  else return false

/-- Skips the token that has to be next. -/
def expect (t : Token) : Parse Unit := do
  if ← accept t then return () else failure

/-- Names a node. -/
def bind (anchor : Option String) (n : Node) : Parse Node := do
  match anchor with
  | some name => modify fun r => { r with anchors := (name, n) :: r.anchors }
  | none => pure ()
  return n

/-- The full form of a tag. -/
def tagOf (handle suffix : String) : Parse String := do
  if handle.isEmpty then return suffix
  else
    match (← get).handles.lookup handle with
    | some expansion => return expansion ++ suffix
    | none => failure

/-- Reads an anchor and a tag, of which each may stand once. -/
def properties : Parse (Option String × Option String) := do
  match ← peek with
  | some (.anchor name) =>
    skip
    match ← peek with
    | some (.tag handle suffix) =>
      skip
      return (some name, some (← tagOf handle suffix))
    | _ => return (some name, none)
  | some (.tag handle suffix) =>
    skip
    let tag ← tagOf handle suffix
    match ← peek with
    | some (.anchor name) =>
      skip
      return (some name, some tag)
    | _ => return (none, some tag)
  | _ => return (none, none)

mutual

/-- Reads a node. Block collections are only read where they may stand, and
sequences that are not indented only behind keys and colons. -/
def node (fuel : Nat) (block loose : Bool) : Parse Node := do
  match fuel with
  | 0 => failure
  | fuel + 1 =>
    match ← peek with
    | some (.alias name) =>
      skip
      (← get).anchors.lookup name
    | _ =>
      let (anchor, tag) ← properties
      -- inside of a collection its anchor stands for something of no use
      let _ ← bind anchor (.mapping [])
      match ← peek with
      | some (.scalar style text) =>
        skip
        bind anchor (.scalar style tag text)
      | some .openSequence =>
        skip
        bind anchor (.sequence (← flowItems fuel true))
      | some .openMapping =>
        skip
        bind anchor (.mapping (← flowEntries fuel true))
      | some .item =>
        if loose then bind anchor (.sequence (← looseItems fuel))
        else if anchor.isSome || tag.isSome then bind anchor (.scalar .plain tag "")
        else failure
      | some .blockSequence =>
        if block then
          skip
          bind anchor (.sequence (← blockItems fuel))
        else if anchor.isSome || tag.isSome then bind anchor (.scalar .plain tag "")
        else failure
      | some .blockMapping =>
        if block then
          skip
          bind anchor (.mapping (← blockEntries fuel))
        else if anchor.isSome || tag.isSome then bind anchor (.scalar .plain tag "")
        else failure
      | _ =>
        if anchor.isSome || tag.isSome then bind anchor (.scalar .plain tag "") else failure

/-- Reads a node, or the empty one if one of some tokens is next. -/
def nodeUnless (fuel : Nat) (block loose : Bool) (stops : List Token) : Parse Node := do
  match fuel with
  | 0 => failure
  | fuel + 1 =>
    match ← peek with
    | none => return empty
    | some t => if stops.contains t then return empty else node fuel block loose

/-- Reads the items of a block sequence. -/
def blockItems (fuel : Nat) : Parse (List Node) := do
  match fuel with
  | 0 => failure
  | fuel + 1 =>
    if ← accept .item then
      let n ← nodeUnless fuel true false [.item, .blockEnd]
      return n :: (← blockItems fuel)
    else
      expect .blockEnd
      return []

/-- Reads the items of a sequence that is not indented. -/
def looseItems (fuel : Nat) : Parse (List Node) := do
  match fuel with
  | 0 => failure
  | fuel + 1 =>
    if ← accept .item then
      let n ← nodeUnless fuel true false [.item, .key, .value, .blockEnd]
      return n :: (← looseItems fuel)
    else return []

/-- Reads the entries of a block mapping. -/
def blockEntries (fuel : Nat) : Parse (List (Node × Node)) := do
  match fuel with
  | 0 => failure
  | fuel + 1 =>
    if ← accept .key then
      let k ← nodeUnless fuel true true [.key, .value, .blockEnd]
      let v ← blockValue fuel
      return (k, v) :: (← blockEntries fuel)
    else
      expect .blockEnd
      return []

/-- Reads the value of an entry of a block mapping. -/
def blockValue (fuel : Nat) : Parse Node := do
  match fuel with
  | 0 => failure
  | fuel + 1 =>
    if ← accept .value then nodeUnless fuel true true [.key, .value, .blockEnd]
    else return empty

/-- Reads the items of a flow sequence. An item may be one entry of a
mapping. -/
def flowItems (fuel : Nat) (first : Bool) : Parse (List Node) := do
  match fuel with
  | 0 => failure
  | fuel + 1 =>
    if ← accept .closeSequence then return []
    else
      if !first then expect .comma
      if ← accept .closeSequence then return []
      else if ← accept .key then
        let k ← nodeUnless fuel false false [.value, .comma, .closeSequence]
        let v ← flowValue fuel [.comma, .closeSequence]
        return .mapping [(k, v)] :: (← flowItems fuel false)
      else
        let n ← node fuel false false
        return n :: (← flowItems fuel false)

/-- Reads the entries of a flow mapping. -/
def flowEntries (fuel : Nat) (first : Bool) : Parse (List (Node × Node)) := do
  match fuel with
  | 0 => failure
  | fuel + 1 =>
    if ← accept .closeMapping then return []
    else
      if !first then expect .comma
      if ← accept .closeMapping then return []
      else if ← accept .key then
        let k ← nodeUnless fuel false false [.value, .comma, .closeMapping]
        let v ← flowValue fuel [.comma, .closeMapping]
        return (k, v) :: (← flowEntries fuel false)
      else
        let k ← node fuel false false
        return (k, empty) :: (← flowEntries fuel false)

/-- Reads the value of an entry in a flow collection. -/
def flowValue (fuel : Nat) (stops : List Token) : Parse Node := do
  match fuel with
  | 0 => failure
  | fuel + 1 =>
    if ← accept .value then nodeUnless fuel false false stops else return empty

end

/-- The handles of tags that need no directive. -/
def commonHandles : List (String × String) := [("!", "!"), ("!!", "tag:yaml.org,2002:")]

/-- Reads the directives of a document: at most one version, and handles
with different names. -/
def directives : List Token → Bool → List (String × String) →
    Option (List (String × String) × List Token)
  | .version :: rest, false, handles => directives rest true handles
  | .version :: _, true, _ => none
  | .handle name expansion :: rest, v, handles =>
    if (handles.lookup name).isSome then none
    else directives rest v ((name, expansion) :: handles)
  | tokens, _, handles => some (handles, tokens)

/-- Reads the content of a document up to one of some tokens, and gives the
tokens that are left. -/
def content (handles : List (String × String)) (stops tokens : List Token) :
    Option (Node × List Token) := do
  let (n, r) ← (nodeUnless (4 * tokens.length + 4) true false stops).run
    ⟨tokens, [], handles ++ commonHandles⟩
  return (n, r.tokens)

/-- Reads the document that tokens begin with. It has to be marked if there
are directives, and may be empty if it is marked. -/
def document (tokens : List Token) : Option (Node × List Token) := do
  let (handles, rest) ← directives tokens false []
  match rest with
  | .documentStart :: rest => content handles [.version, .documentStart, .documentEnd] rest
  | _ => if rest.length < tokens.length then none else content handles [] rest

/-- Reads the document of a text that holds no other one. -/
def parse? (text : String) : Option Node := do
  let (n, rest) ← document (← tokens? text)
  if rest.all (· == .documentEnd) then some n else none

end Node

end Yaml

end PromptTemplate
