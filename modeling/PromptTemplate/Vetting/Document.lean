import PromptTemplate.Vetting.Address
import PromptTemplate.Vetting.Variables
import PromptTemplate.Json.Writer
/-!
# PromptTemplate — vetting documents

A document is vetted before it is known to be a template: its size, the
number and the nesting of its content elements, its texts and conditions,
its variables, and the addresses of the schemas that it extends. What does
not have the shape of content is passed over. The first violation in this
order is the one reported.
-/

namespace PromptTemplate

namespace Vetting

/-- Whether a document is an element of a type. -/
def hasType (v : Value) (type : String) : Bool := (v.field? "type").bind Value.string? == some type

/-- The violation of conditionals that nest too deep. -/
def conditionalDepth (p : Policy) : Violation :=
  .plain .nestingTooDeep
    s!"conditional nesting exceeds maximum depth of {p.maxNestingDepth}"

/-- Passes the items of a branch at a depth, if there are none or the depth
is allowed. -/
def checkDepth (p : Policy) (depth : Nat) (items : List Value) : Except Violation Unit :=
  if !items.isEmpty && p.maxNestingDepth < depth then .error (conditionalDepth p) else .ok ()

mutual

/-- Counts an element and what stands in its branches, on top of a count,
as long as the limits allow. -/
def countElement (p : Policy) (depth count : Nat) (v : Value) : Except Violation Nat :=
  if p.maxContentElements < count + 1 then
    .error (.plain .tooManyElements
      s!"template has more than {p.maxContentElements} content elements")
  else if hasType v "conditional" then do
    let count ← countBranch p (depth + 1) (count + 1) v "content"
    countBranch p (depth + 1) count v "else"
  else .ok (count + 1)
termination_by (sizeOf v, 1)

/-- Counts what stands in a branch of an element. -/
def countBranch (p : Policy) (depth count : Nat) (v : Value) (key : String) :
    Except Violation Nat :=
  match _branch : v.branch? key with
  | none => .ok count
  | some items => do
    checkDepth p depth items
    countElements p depth count items
termination_by (sizeOf v, 0)
decreasing_by exact Prod.Lex.left _ _ (Value.sizeOf_branch?_lt _branch)

/-- Counts elements and what stands in their branches. -/
def countElements (p : Policy) (depth count : Nat) (items : List Value) : Except Violation Nat :=
  match items with
  | [] => .ok count
  | v :: rest => do
    let count ← countElement p depth count v
    countElements p depth count rest
termination_by (sizeOf items, 0)

end

/-- Passes texts, one after another. -/
def checkTexts (texts : List String) : Except Violation Unit := texts.forM checkText

/-- Passes a string in a field with a check; anything else passes. -/
def checkField (v : Value) (key : String) (check : String → Except Violation Unit) :
    Except Violation Unit :=
  match v.field? key with
  | some (.string s) => check s
  | _ => .ok ()

mutual

/-- Passes the texts and the condition of an element, and its branches. -/
def checkElement (p : Policy) (v : Value) : Except Violation Unit :=
  if hasType v "text" then checkField v "text" checkText
  else if hasType v "placeholder" then checkTexts (((v.field? "config").map Value.strings).getD [])
  else if hasType v "conditional" then do
    checkField v "condition" (checkCondition p)
    checkBranch p v "content"
    checkBranch p v "else"
  else .ok ()
termination_by (sizeOf v, 1)

/-- Passes what stands in a branch of an element. -/
def checkBranch (p : Policy) (v : Value) (key : String) : Except Violation Unit :=
  match _branch : v.branch? key with
  | none => .ok ()
  | some items => checkElements p items
termination_by (sizeOf v, 0)
decreasing_by exact Prod.Lex.left _ _ (Value.sizeOf_branch?_lt _branch)

/-- Passes elements, one after another. -/
def checkElements (p : Policy) (items : List Value) : Except Violation Unit :=
  match items with
  | [] => .ok ()
  | v :: rest => do
    checkElement p v
    checkElements p rest
termination_by (sizeOf items, 0)

end

/-- Passes the size of a document, written compactly. -/
def checkSize (p : Policy) (doc : Value) : Except Violation Unit :=
  let size := Json.byteSize doc
  if p.maxTemplateSize < size then
    .error (.plain .templateTooLarge
      s!"template size {size} bytes exceeds maximum of {p.maxTemplateSize} bytes")
  else .ok ()

/-- Passes the content of a document. -/
def checkContent (p : Policy) (items : List Value) : Except Violation Unit := do
  let _ ← countElements p 0 0 items
  checkElements p items

/-- Passes the address of a schema as it is meant under a base. -/
def checkExtension (p : Policy) (base : Option String) (address : String) :
    Except Violation Unit :=
  (checkAddress p (Url.resolved base address)).map fun _ => ()

/-- Passes a document, whose addresses are relative to a base. -/
def checkDocument (p : Policy) (base : Option String) (doc : Value) : Except Violation Unit := do
  checkSize p doc
  if doc.object?.isNone then throw (.plain .invalidDocument "template must be a JSON object")
  checkContent p ((doc.branch? "content").getD [])
  checkVariables p (((doc.field? "variables").bind Value.object?).getD .nil)
  (((doc.branch? "extends").getD []).filterMap Value.string?).forM (checkExtension p base)

end Vetting

end PromptTemplate
