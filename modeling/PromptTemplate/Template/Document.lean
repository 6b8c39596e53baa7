import PromptTemplate.Json.Reader
import PromptTemplate.Fault
/-!
# PromptTemplate — documents from texts

A document is JSON text, given as such or as the content of a file. A text
that is not JSON, and a file that cannot be read, are mistakes of the user.
-/

namespace PromptTemplate

namespace Template

/-- The document of a text. -/
def documentOfText (text : String) : Except Fault Value :=
  match Json.parse? text with
  | some doc => .ok doc
  | none => .error (.user "invalid template JSON")

/-- The document of a file, from its content if it can be read. -/
def documentOfFile (name : String) (content : Option String) : Except Fault Value :=
  match content with
  | none => .error (.user s!"failed to read '{name}'")
  | some text =>
    match Json.parse? text with
    | some doc => .ok doc
    | none => .error (.user s!"invalid JSON in '{name}'")

end Template

end PromptTemplate
