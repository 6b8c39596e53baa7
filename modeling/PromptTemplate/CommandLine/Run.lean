import PromptTemplate.CommandLine.Arguments
import PromptTemplate.CommandLine.Display
import PromptTemplate.Compile.Report
import PromptTemplate.Policy.Document
import PromptTemplate.Schema.Exchange
import PromptTemplate.Template.Document
/-!
# PromptTemplate — running a command

A command reads files, may write one, and ends with an exit code and what
it says. It runs in any surroundings that offer files and a clock: those of
the system, or a directory that is a value. The policy is settled first,
then the variables are read, and then the template.
-/

namespace PromptTemplate

namespace CommandLine

/-- What a command needs around it. -/
structure Surroundings (m : Type → Type) where
  /-- The content of a file, if it can be read. -/
  read : String → m (Option String)
  /-- Writes a file, and says whether that was possible. -/
  write : String → String → m Bool
  /-- A number of milliseconds that grows as time passes. -/
  milliseconds : m Nat
  transport : Schema.Transport

/-- How a run ends: the exit code, what is printed, and the messages. -/
structure Outcome where
  exitCode : Nat
  output : String
  messages : List String

namespace Outcome

/-- A run that prints something and has nothing to complain about. -/
def printed (text : String) : Outcome := ⟨0, text, []⟩

/-- A run that ends in a fault, behind other messages. The fault is told,
unless the user knows of it. -/
def failed (fault : Fault) (output : String) (messages : List String) : Outcome :=
  ⟨fault.exitCode, output,
    if fault.isReported then messages else messages ++ [s!"Error: {fault.message}"]⟩

end Outcome

/-- The version of the program. -/
def versionNumber : String := "0.1.0"

/-- How the program is used. -/
def usage : String :=
  "Usage: its [-v] compile <TEMPLATE> [--variables <FILE>] [-o <FILE>] [SECURITY]\n" ++
    "       its [-v] validate <TEMPLATE> [--json] [SECURITY]\n\n" ++
    "SECURITY: [--base-url <URL>] [--dev | --security-config <FILE>] [--allow-http]\n"

/-- The policy that options ask for, from the content of the policy file. A
file prevails over the policy for development, and unencrypted addresses can
be allowed on top of either. -/
def policyFor (s : Security) (content : Option String) : Except Fault Policy :=
  let chosen := match s.policyFile with
    | some name => Policy.ofFile name content
    | none => .ok (if s.development then .development else .strict)
  chosen.map fun p => if s.allowHttp then { p with allowHttp := true } else p

/-- The variables of a file, which has to hold a JSON object. -/
def variablesOfFile (name : String) (content : Option String) : Except Fault (Table Value) :=
  match content with
  | none => .error (.user s!"failed to read variables file '{name}'")
  | some text =>
    match Json.parse? text with
    | none => .error (.user s!"invalid JSON in variables file '{name}'")
    | some (.object fields) => .ok fields
    | some _ => .error (.user s!"variables file '{name}' must contain a JSON object")

/-- The shelf of a run, which lasts no longer than the run. -/
def emptyShelf : Schema.Shelf := .start Schema.Cache.defaultTtl 0

variable {m : Type → Type} [Monad m]

/-- Reads the file of a name, if there is one. -/
def readOptional (s : Surroundings m) (name : Option String) : m (Option String) :=
  match name with
  | none => pure none
  | some n => s.read n

/-- Settles the policy. -/
def settlePolicy (s : Surroundings m) (security : Security) : ExceptT Fault m Policy := do
  let content ← ExceptT.lift (readOptional s security.policyFile)
  policyFor security content

/-- Reads the variables, if there is a file of them. -/
def readVariables (s : Surroundings m) (name : Option String) :
    ExceptT Fault m (Option (Table Value)) :=
  match name with
  | none => pure none
  | some n => do
    let content ← s.read n
    some <$> variablesOfFile n content

/-- Reads the document of a template. -/
def readDocument (s : Surroundings m) (name : String) : ExceptT Fault m Value := do
  let content ← s.read name
  Template.documentOfFile name content

/-- Compiles the template of a file. -/
def compileFile (s : Surroundings m) (template : String) (vars : Option String)
    (security : Security) : ExceptT Fault m Compiled := do
  let p ← settlePolicy s security
  let supplied ← readVariables s vars
  let doc ← readDocument s template
  (Compile.compile p (s.transport.source p.maxSchemaSize) security.base doc supplied emptyShelf).1

/-- Reports on the template of a file. -/
def validateFile (s : Surroundings m) (template : String) (security : Security) :
    ExceptT Fault m Report := do
  let p ← settlePolicy s security
  let doc ← readDocument s template
  return (Compile.validate p (s.transport.source p.maxSchemaSize) security.base doc emptyShelf).1

/-- Delivers a prompt: to a file, or by printing it. -/
def deliver (s : Surroundings m) (template : String) (output : Option String) (took : Nat)
    (c : Compiled) : m Outcome := do
  let warnings := c.warnings.map fun w => s!"Warning: {w}"
  match output with
  | none => return ⟨0, c.prompt ++ "\n", warnings⟩
  | some file =>
    if ← s.write file c.prompt then
      return ⟨0, "", warnings ++ [s!"Compiled {template} in {took}ms -> {file}"]⟩
    else return .failed (.user s!"failed to write '{file}'") "" warnings

/-- Shows a report. -/
def showReport (template : String) (json : Bool) (took : Nat) (r : Report) : Outcome :=
  let shown := if json then r.json took ++ "\n" else r.text template
  if r.isValid then .printed shown else .failed (.reported r.issues) shown []

/-- Runs a command. -/
def runCommand (s : Surroundings m) (c : Command) : m Outcome := do
  let start ← s.milliseconds
  match c with
  | .compile template vars output security =>
    match ← (compileFile s template vars security).run with
    | .error fault => return .failed fault "" []
    | .ok compiled =>
      let stop ← s.milliseconds
      deliver s template output (stop - start) compiled
  | .validate template json security =>
    match ← (validateFile s template security).run with
    | .error fault => return .failed fault "" []
    | .ok report =>
      let stop ← s.milliseconds
      return showReport template json (stop - start) report

/-- Runs the program with arguments. -/
def run (s : Surroundings m) (arguments : List String) : m Outcome :=
  match Request.ofArguments arguments with
  | none => pure ⟨2, "", ["usage error"]⟩
  | some (.version name) => pure (.printed s!"{name} {versionNumber}\n")
  | some .help => pure (.printed usage)
  | some (.run command) => runCommand s command

end CommandLine

end PromptTemplate
