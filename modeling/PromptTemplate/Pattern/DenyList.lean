import PromptTemplate.Pattern.Parser
import PromptTemplate.Fault
/-!
# PromptTemplate — lists of blocked patterns

A deny-list is a row of patterns with the texts they are written as; what
it finds in a content is the first pattern that occurs, by its text. Two
lists are in use: `text` for everything that goes into a prompt, and
`expression` for conditions, which may not hold what is blocked in texts
nor name the inner workings of interpreters.
-/

namespace PromptTemplate

/-- A pattern with its text. -/
structure Rule where
  source : String
  pattern : Pattern

/-- A list of blocked patterns. -/
structure DenyList where
  rules : List Rule

namespace DenyList

/-- The rule of a text, or the fault that it is no pattern. -/
def compileRule (source : String) : Except Fault Rule :=
  match Pattern.parse? source with
  | some p => .ok ⟨source, p⟩
  | none => .error (.user s!"invalid deny-list pattern '{source}'")

/-- The deny-list of some texts; the first one that is no pattern is a
fault. -/
def compile (sources : List String) : Except Fault DenyList :=
  (sources.mapM compileRule).map DenyList.mk

/-- The text of the first pattern that occurs in a content. -/
def find? (d : DenyList) (content : String) : Option String :=
  (d.rules.find? (·.pattern.occurs content)).map Rule.source

/-- The number of patterns. -/
def size (d : DenyList) : Nat := d.rules.length

/-- The patterns that are blocked in texts: scripts and script addresses,
event handlers, calls that run code, access to page objects, and escapes
that could hide any of these. -/
def textSources : List String := [
  r"(?i)<\s*/?\s*script\b",
  r"(?i)javascript\s*:",
  r"(?i)vbscript\s*:",
  r"(?i)data\s*:\s*text/html",
  r"(?i)<[^>]*\bon[a-z]+\s*=",
  r"(?i)\beval\s*\(",
  r"\bFunction\s*\(",
  r"(?i)\bset(?:Timeout|Interval|Immediate)\s*\(",
  r"\bdocument\s*\.\s*(?:cookie|write|location|domain|body|createElement|getElementById|querySelector)",
  r"\bwindow\s*\.\s*(?:location|open|eval|document|localStorage|sessionStorage|fetch)",
  r"\bglobalThis\b",
  "\\\\x[0-9a-fA-F]\x7b2\x7d",
  "\\\\u[0-9a-fA-F]\x7b4\x7d",
  "%[0-9a-fA-F]\x7b2\x7d",
  "(?i)&#x?[0-9a-f]\x7b2,6\x7d;"]

/-- The patterns that are blocked in conditions besides: names between
double underscores, calls that run, load or inspect code, and the inner
workings of objects. -/
def conditionSources : List String := [
  r"__\w+__",
  r"(?i)\bexec\s*\(",
  r"(?i)\bimport\b",
  r"(?i)\b(?:globals|locals|vars|dir)\s*\(",
  r"(?i)\b(?:getattr|setattr|delattr|hasattr)\s*\(",
  r"(?i)\b(?:compile|open|require)\s*\(",
  r"(?i)\b(?:constructor|prototype)\b"]

/-- The rules of texts that are patterns. -/
def rulesOf (sources : List String) : List Rule :=
  sources.filterMap fun source => (Pattern.parse? source).map (Rule.mk source)

/-- The deny-list of texts. -/
def text : DenyList := ⟨rulesOf textSources⟩

/-- The deny-list of conditions. -/
def expression : DenyList := ⟨rulesOf (textSources ++ conditionSources)⟩

end DenyList

end PromptTemplate
