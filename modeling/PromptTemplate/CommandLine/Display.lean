import PromptTemplate.Compile.Report
import PromptTemplate.Json.Writer
/-!
# PromptTemplate — reports for reading

A report is shown as text, with a part for every kind of finding that
there is, or as an indented JSON object whose fields have a fixed order.
-/

namespace PromptTemplate

namespace Report

/-- How many things are wrong. -/
def issues (r : Report) : Nat := r.securityIssues.length + r.errors.length

/-- A part of a report with a title; empty if nothing belongs into it. -/
def paragraph (title : String) (items : List String) : String :=
  if items.isEmpty then ""
  else s!"\n{title}:\n" ++ String.join (items.map fun item => s!"  - {item}\n")

/-- A report as text, under the name of what it is about. -/
def text (r : Report) (name : String) : String :=
  let verdict := if r.isValid then "valid" else "invalid"
  s!"{name}: {verdict}\n" ++ paragraph "Security issues" r.securityIssues ++
    paragraph "Errors" r.errors ++ paragraph "Warnings" r.warnings

/-- Strings as an indented array, inside of an object. -/
def jsonStrings (texts : List String) : String :=
  if texts.isEmpty then "[]"
  else
    "[\n" ++ Text.join ",\n" (texts.map fun t => "    " ++ String.ofList (Json.quote t)) ++ "\n  ]"

/-- A field of an indented object. -/
def jsonField (key value : String) : String :=
  "  " ++ String.ofList (Json.quote key) ++ ": " ++ value

/-- A report as JSON, with the time that it took. -/
def json (r : Report) (milliseconds : Nat) : String :=
  let fields :=
    [jsonField "isValid" (if r.isValid then "true" else "false"),
      jsonField "errors" (jsonStrings r.errors),
      jsonField "warnings" (jsonStrings r.warnings),
      jsonField "securityIssues" (jsonStrings r.securityIssues),
      jsonField "validationTimeMs" (toString milliseconds)]
  "\x7b\n" ++ Text.join ",\n" fields ++ "\n\x7d"

end Report

end PromptTemplate
