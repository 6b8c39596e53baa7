import PromptTemplate.Yaml.Block
import PromptTemplate.Yaml.Flow
import PromptTemplate.Yaml.Token
/-!
# PromptTemplate — from YAML text to tokens

The scanner reads one token after another. It knows how far the open block
collections are indented, and closes them when a line is indented less.
Whether a token is a key only shows at the colon behind it: until then it
is a candidate, and the mark for a key goes before it afterwards.
-/

namespace PromptTemplate

namespace Yaml

/-- A token that may turn out to be a key. -/
structure Candidate where
  /-- It is the first on a line of a block mapping, so it has to be one. -/
  required : Bool
  /-- How many tokens stand before it. -/
  position : Nat
  spot : Spot

/-- What the scanner knows: what is left of the stream, the tokens so far,
how far the innermost open block collection and the ones around it are
indented, the candidates of the innermost flow collection and of what is
around it, and whether a key may begin here. -/
structure Scan where
  input : List Spot
  tokens : List Token
  indent : Int
  outerIndents : List Int
  candidate : Option Candidate
  outerCandidates : List (Option Candidate)
  keyAllowed : Bool

namespace Scan

/-- The beginning of a stream. -/
def start (input : List Spot) : Scan := ⟨input, [], -1, [], none, [], true⟩

/-- Whether a flow collection is open. -/
def inFlow (s : Scan) : Bool := !s.outerCandidates.isEmpty

/-- Adds a token. -/
def emit (s : Scan) (t : Token) : Scan := { s with tokens := s.tokens ++ [t] }

/-- Puts a token before others. -/
def insertAt (s : Scan) (position : Nat) (t : Token) : Scan :=
  { s with tokens := s.tokens.take position ++ t :: s.tokens.drop position }

/-- How many block collections are indented more than a column, and the
indentations of the others. -/
def closing (column : Int) : Int → List Int → Nat × Int × List Int
  | indent, [] => (0, indent, [])
  | indent, outer :: rest =>
    if column < indent then
      let (n, left) := closing column outer rest
      (n + 1, left)
    else (0, indent, outer :: rest)

/-- Closes the block collections that are indented more than a column. -/
def unroll (s : Scan) (column : Int) : Scan :=
  if s.inFlow then s
  else
    let (n, indent, outer) := closing column s.indent s.outerIndents
    { s with
      tokens := s.tokens ++ List.replicate n .blockEnd
      indent := indent
      outerIndents := outer }

/-- Opens a block collection at a column, if none there is open. -/
def roll (s : Scan) (column position : Nat) (t : Token) : Scan :=
  if s.inFlow || column ≤ s.indent then s
  else { s.insertAt position t with indent := column, outerIndents := s.indent :: s.outerIndents }

/-- Gives up the candidate, unless it has to be a key. -/
def forget (s : Scan) : Option Scan :=
  if s.candidate.any Candidate.required then none else some { s with candidate := none }

/-- Whether a candidate is too far away to be a key: it has to be on the
same line and not more than 1024 characters before. -/
def isStale (here : Spot) (c : Candidate) : Bool :=
  c.spot.line < here.line || c.spot.index + 1024 < here.index

/-- Drops a candidate that is too far away; none if it has to be a key. -/
def refresh (here : Spot) : Option Candidate → Option (Option Candidate)
  | none => some none
  | some c => if !isStale here c then some (some c) else if c.required then none else some none

/-- Drops all candidates that are too far away. -/
def dropStale (s : Scan) (here : Spot) : Option Scan := do
  let candidate ← refresh here s.candidate
  let outer ← s.outerCandidates.mapM (refresh here)
  return { s with candidate := candidate, outerCandidates := outer }

/-- Makes what is next a candidate, if a key may begin here. -/
def save (s : Scan) (here : Spot) : Option Scan :=
  if !s.keyAllowed then some s
  else
    s.forget.map fun s => { s with
      candidate := some ⟨!s.inFlow && s.indent == here.column, s.tokens.length, here⟩ }

/-- Skips spaces, comments and line breaks. A new line lets a key begin
outside of flow collections. Tabs are only skipped where no key may
begin. -/
def skipIdle (flow : Bool) : Bool → Bool → List Spot → List Spot × Bool
  | keyAllowed, _, [] => ([], keyAllowed)
  | keyAllowed, inComment, s :: rest =>
    if isBreak s.char then skipIdle flow (keyAllowed || !flow) false rest
    else if inComment then skipIdle flow keyAllowed true rest
    else if s.char == ' ' || (s.char == '\t' && (flow || !keyAllowed)) ||
        (s.char.toNat == 0xFEFF && s.index == 0) then
      skipIdle flow keyAllowed false rest
    else if s.char == '#' then skipIdle flow keyAllowed true rest
    else (s :: rest, keyAllowed)

/-! ## Single tokens -/

/-- Whether a character may stand in names. -/
def isWord (c : Char) : Bool := c.isAlphanum || c == '_' || c == '-'

/-- Whether a character may stand in tags. -/
def isTagChar (c : Char) : Bool := c.isAlphanum || "_-;/?:@&=+$.%!~*'()".toList.contains c

/-- Splits off the longest run of characters of a class. -/
def run (p : Char → Bool) (input : List Spot) : String × List Spot :=
  (String.ofList ((input.takeWhile (p ·.char)).map Spot.char), input.dropWhile (p ·.char))

/-- Reads the name of an anchor. -/
def name? (input : List Spot) : Option (String × List Spot) :=
  let (name, rest) := run isWord input
  if name.isEmpty then none
  else if atGap rest || (next? rest).any "?:,]\x7d%@\x60".toList.contains then some (name, rest)
  else none

/-- Reads the handle of a tag: from one exclamation mark to the next. -/
def handle? (input : List Spot) : Option (String × List Spot) :=
  match input with
  | [] => none
  | s :: rest =>
    if s.char != '!' then none
    else
      let (name, rest) := run isWord rest
      if next? rest == some '!' then some ("!" ++ name ++ "!", rest.drop 1)
      else some ("!" ++ name, rest)

/-- Reads a tag: its handle and what follows it. -/
def tag? (flow : Bool) (input : List Spot) : Option (Token × List Spot) := do
  let (token, rest) ←
    if next? (input.drop 1) == some '<' then
      let (name, rest) := run (fun c => isTagChar c || ",[]".toList.contains c) (input.drop 2)
      if name.isEmpty || next? rest != some '>' then none
      else some (Token.tag "" name, rest.drop 1)
    else do
      let (handle, rest) ← handle? input
      let (suffix, rest) := run isTagChar rest
      if handle != "!" && handle.endsWith "!" then
        if suffix.isEmpty then none else some (Token.tag handle suffix, rest)
      else
        let whole := String.ofList (handle.toList.drop 1) ++ suffix
        some (if whole.isEmpty then Token.tag "" "!" else Token.tag "!" whole, rest)
  if atGap rest || (flow && next? rest == some ',') then some (token, rest) else none

/-- Reads what follows the name of a version directive. -/
def version? (line : List Spot) : Option Token := do
  let (major, rest) := run Char.isDigit (line.dropWhile (isSpace ·.char))
  if major.isEmpty || 9 < major.length || next? rest != some '.' then none
  else
    let (minor, rest) := run Char.isDigit (rest.drop 1)
    if minor.isEmpty || 9 < minor.length then none
    else if major.toNat? == some 1 && (minor.toNat? == some 1 || minor.toNat? == some 2) &&
        isIdle rest then
      some .version
    else none

/-- Reads what follows the name of a directive that declares a handle. -/
def declared? (line : List Spot) : Option Token := do
  let (name, rest) ← handle? (line.dropWhile (isSpace ·.char))
  let (expansion, behind) :=
    run (fun c => isTagChar c || ",[]".toList.contains c) (rest.dropWhile (isSpace ·.char))
  if name.endsWith "!" && !rest.isEmpty && atGap rest && !expansion.isEmpty && atGap behind &&
      isIdle behind then
    some (.handle name expansion)
  else none

/-- Reads a directive, which is all of a line. -/
def directive? (line : List Spot) : Option Token :=
  let (name, rest) := run isWord (line.drop 1)
  if !atGap rest then none
  else
    match name with
    | "YAML" => version? rest
    | "TAG" => declared? rest
    | _ => none

/-! ## Steps -/

/-- What a step of the scanner leads to. -/
inductive Progress
  | more (s : Scan)
  | done (tokens : List Token)

/-- Ends the stream. -/
def finish (s : Scan) : Option Progress := do
  let s ← (s.unroll (-1)).forget
  return .done s.tokens

/-- A token that stands for itself, is never a key, and of which the
characters are skipped. -/
def mark (s : Scan) (t : Token) (length : Nat) (keyAllowed : Bool) : Option Scan := do
  let s ← s.forget
  return { s.emit t with input := s.input.drop length, keyAllowed := keyAllowed }

/-- A mark between documents. -/
def documentMark (s : Scan) (t : Token) : Option Scan := (s.unroll (-1)).mark t 3 false

/-- A directive. -/
def directive (s : Scan) : Option Scan := do
  let s ← (s.unroll (-1)).forget
  let t ← directive? (s.input.takeWhile (!isBreak ·.char))
  return { s.emit t with input := s.input.dropWhile (!isBreak ·.char), keyAllowed := false }

/-- The beginning of a flow collection. -/
def openFlow (s : Scan) (here : Spot) (t : Token) : Option Scan := do
  let s ← s.save here
  return { s.emit t with
    input := s.input.drop 1
    candidate := none
    outerCandidates := s.candidate :: s.outerCandidates
    keyAllowed := true }

/-- The end of a flow collection. -/
def closeFlow (s : Scan) (t : Token) : Option Scan := do
  let s ← s.mark t 1 false
  match s.outerCandidates with
  | [] => return s
  | candidate :: outer => return { s with candidate := candidate, outerCandidates := outer }

/-- A dash or a question mark, which opens a block collection. -/
def opener (s : Scan) (here : Spot) (collection t : Token) (keyAllowed : Bool) : Option Scan :=
  if s.inFlow then s.mark t 1 keyAllowed
  else if !s.keyAllowed then none
  else (s.roll here.column s.tokens.length collection).mark t 1 keyAllowed

/-- A colon, behind a key or alone. -/
def valueMark (s : Scan) (here : Spot) : Option Scan :=
  match s.candidate with
  | some c =>
    let s := (s.insertAt c.position .key).roll c.spot.column c.position .blockMapping
    some { s.emit .value with input := s.input.drop 1, candidate := none, keyAllowed := false }
  | none => s.opener here .blockMapping .value (!s.inFlow)

/-- A token that may be a key, with the rest behind it. -/
def atom (s : Scan) (here : Spot) (t : Token) (rest : List Spot) (keyAllowed : Bool) :
    Option Scan := do
  let s ← s.save here
  return { s.emit t with input := rest, keyAllowed := keyAllowed }

/-- A block scalar, which is never a key. -/
def blockScalar (s : Scan) (fold : Bool) : Option Scan := do
  let s ← s.forget
  let (text, rest) ← block? fold s.indent (s.input.drop 1)
  let style := if fold then .folded else .literal
  return { s.emit (.scalar style text) with input := rest, keyAllowed := true }

/-- A plain scalar. -/
def plainScalar (s : Scan) (here : Spot) : Option Scan := do
  let (text, broken, rest) ← plain? s.inFlow (s.indent + 1) s.input
  s.atom here (.scalar .plain text) rest broken

/-- Whether a plain scalar can begin here. -/
def canBePlain (flow : Bool) (c : Char) (rest : List Spot) : Bool :=
  !"-?:,[]\x7b\x7d#&*!|>'\"%@\x60\t".toList.contains c || (c == '-' && !atGap rest) ||
    (!flow && (c == '?' || c == ':') && !atGap rest)

/-- Reads the token that begins with a character. -/
def token (s : Scan) (here : Spot) (rest : List Spot) : Option Scan :=
  match here.char with
  | '[' => s.openFlow here .openSequence
  | '{' => s.openFlow here .openMapping
  | ']' => s.closeFlow .closeSequence
  | '}' => s.closeFlow .closeMapping
  | ',' => s.mark .comma 1 true
  | '*' => do
    let (name, rest) ← name? rest
    s.atom here (.alias name) rest false
  | '&' => do
    let (name, rest) ← name? rest
    s.atom here (.anchor name) rest false
  | '!' => do
    let (t, rest) ← tag? s.inFlow s.input
    s.atom here t rest false
  | '\'' => do
    let (text, rest) ← single? rest
    s.atom here (.scalar .single text) rest false
  | '"' => do
    let (text, rest) ← double? rest
    s.atom here (.scalar .double text) rest false
  | c =>
    if c == '-' && atGap rest then s.opener here .blockSequence .item true
    else if c == '?' && (s.inFlow || atGap rest) then s.opener here .blockMapping .key (!s.inFlow)
    else if c == ':' && (s.inFlow || atGap rest) then s.valueMark here
    else if (c == '|' || c == '>') && !s.inFlow then s.blockScalar (c == '>')
    else if canBePlain s.inFlow c rest then s.plainScalar here
    else none

/-- Reads one token. -/
def step (s : Scan) : Option Progress :=
  let (input, keyAllowed) := skipIdle s.inFlow s.keyAllowed false s.input
  let s := { s with input := input, keyAllowed := keyAllowed }
  match input with
  | [] => s.finish
  | here :: rest => do
    let s ← s.dropStale here
    let s := s.unroll here.column
    if here.column == 0 && here.char == '%' then s.directive.map .more
    else if atMarkOf '-' input then (s.documentMark .documentStart).map .more
    else if atMarkOf '.' input then (s.documentMark .documentEnd).map .more
    else (s.token here rest).map .more

/-- Reads on for a number of steps. -/
def steps : Nat → Scan → Option (List Token)
  | 0, _ => none
  | n + 1, s =>
    match s.step with
    | none => none
    | some (.done tokens) => some tokens
    | some (.more s) => steps n s

end Scan

/-- The tokens of a text. Every step but the last reads a character. -/
def tokens? (text : String) : Option (List Token) := do
  let input ← spots? text
  Scan.steps (input.length + 1) (.start input)

end Yaml

end PromptTemplate
