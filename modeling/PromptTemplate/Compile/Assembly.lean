import PromptTemplate.Compile.Prune
import PromptTemplate.Interpolation.Render
/-!
# PromptTemplate — assembling the prompt

The prompt has an introduction, numbered instructions on how to process
it, and the body: the pieces one behind another, where a placeholder
becomes the text of its instruction type with the slots filled, wrapped as
the layout says.
-/

namespace PromptTemplate

namespace Compile

/-- The slot of a name in an instruction. -/
def slot (name : String) : String := "\x7b" ++ name ++ "\x7d"

/-- Fills the slot of a name with a value, everywhere. -/
def fillSlot (name : String) (value : Value) (instruction : String) : String :=
  Text.replaceAll instruction (slot name) (Interpolation.render value)

/-- The key that is filled first. -/
def descriptionKey : String := "description"

/-- Fills the slots of an instruction from a configuration: that of the
description first and the others in key order. A slot without a key stays
as it is written. -/
def renderInstruction (instruction : String) (config : Table Value) : String :=
  let described := match config.find? descriptionKey with
    | some value => fillSlot descriptionKey value instruction
    | none => instruction
  (config.toList.filter (·.1 != descriptionKey)).foldl
    (fun text entry => fillSlot entry.1 entry.2 text) described

/-- An instruction as it stands in the body. -/
def wrapInstruction (layout : Layout) (instruction : String) : String :=
  Text.replaceAll layout.instructionFrame Layout.instructionSlot instruction

/-- What stands before and behind the slot of a wrapper; behind is nothing
if there is no slot. -/
def markers (frame slot : String) : String × String :=
  match Text.splitOn? slot.toList frame.toList with
  | some (before, behind) => (String.ofList before, String.ofList behind)
  | none => (frame, "")

/-- The instructions where a template has none. They name the markers of
placeholders and of user content. -/
def defaultInstructions (layout : Layout) : List String :=
  let (opening, closing) := markers layout.instructionFrame Layout.instructionSlot
  let (contentOpening, contentClosing) := markers layout.userContentFrame Layout.contentSlot
  ["Replace each placeholder in the template below with the content it asks for.",
    s!"Placeholders start with {opening} and end with {closing}.",
    s!"Text between {contentOpening} and {contentClosing} describes what the user wants " ++
      "generated.",
    "Keep all text outside the placeholders exactly as written.",
    "Do not include the placeholder markers or these instructions in your response."]

/-- The instructions of a layout. -/
def instructions (layout : Layout) : List String :=
  layout.processingInstructions.getD (defaultInstructions layout)

/-- Lines with their numbers, counted from one. -/
def numbered (lines : List String) : String :=
  Text.join "\n" (lines.zipIdx.map fun (line, i) => s!"{i + 1}. {line}")

/-- The part of the prompt before the body. -/
def header (layout : Layout) : String :=
  "INTRODUCTION\n\n" ++ layout.introduction ++ "\n\nINSTRUCTIONS\n\n" ++
    numbered (instructions layout) ++ "\n\nTEMPLATE\n\n"

/-- The message about an instruction type that is not defined. -/
def unknownType (name : String) (types : Table InstructionType) : String :=
  s!"unknown instruction type '{name}' " ++
    if types.isEmpty then "(no instruction types loaded)"
    else "(available: " ++ Text.join ", " types.keys ++ ")"

/-- The text of the piece at a position. -/
def pieceText (types : Table InstructionType) (layout : Layout) (position : Nat) :
    Piece → Except Fault String
  | .text _ text => .ok text
  | .placeholder id type config =>
    match types.find? type with
    | none =>
      .error (.compilation .promptAssembly (unknownType type types)
        (some ⟨position, id, "placeholder"⟩))
    | some t => .ok (wrapInstruction layout (renderInstruction t.spec.template config))

/-- The body of pieces, of which the first has a position. -/
def body (types : Table InstructionType) (layout : Layout) (position : Nat) :
    List Piece → Except Fault String
  | [] => .ok ""
  | piece :: rest => do
    let here ← pieceText types layout position piece
    let behind ← body types layout (position + 1) rest
    return here ++ behind

/-- The prompt of pieces. -/
def assemble (types : Table InstructionType) (layout : Layout) (pieces : List Piece) :
    Except Fault String :=
  (body types layout 0 pieces).map (header layout ++ ·)

end Compile

end PromptTemplate
