/-!
# PromptTemplate — arguments of the command line

The arguments name a command, its operand and options. An option is long or
short, is a switch or takes a value, and may stand only once; short
switches can be written together. `Request.ofArguments` gives what is asked
for, or nothing if the arguments are not well formed.
-/

namespace PromptTemplate

namespace CommandLine

/-- How a command vets what it reads. -/
structure Security where
  /-- The base of relative addresses. -/
  base : Option String
  /-- The policy for work on one machine is wanted. -/
  development : Bool
  /-- Schemas may be loaded without encryption. -/
  allowHttp : Bool
  /-- The file that holds the policy. -/
  policyFile : Option String

/-- A command on the template in a file. -/
inductive Command
  | compile (template : String) (vars output : Option String) (security : Security)
  | validate (template : String) (json : Bool) (security : Security)

/-- What is asked for. -/
inductive Request
  /-- The version, of the program or of one of its commands. -/
  | version (name : String)
  | help
  | run (command : Command)

/-- An option. -/
inductive Switch
  | verbose | help | version | baseUrl | dev | allowHttp | securityConfig | vars | output | json
deriving DecidableEq

namespace Switch

/-- The long name of an option. -/
def long : Switch → String
  | .verbose => "verbose"
  | .help => "help"
  | .version => "version"
  | .baseUrl => "base-url"
  | .dev => "dev"
  | .allowHttp => "allow-http"
  | .securityConfig => "security-config"
  | .vars => "variables"
  | .output => "output"
  | .json => "json"

/-- The short name of an option. -/
def short? : Switch → Option Char
  | .verbose => some 'v'
  | .help => some 'h'
  | .version => some 'V'
  | .output => some 'o'
  | _ => none

/-- Whether an option takes a value. -/
def takesValue : Switch → Bool
  | .baseUrl | .securityConfig | .vars | .output => true
  | _ => false

/-- Whether a value can be given: files have names that are not empty. -/
def accepts (s : Switch) (value : String) : Bool := s == .baseUrl || !value.isEmpty

/-- The options that every part of the program has. -/
def general : List Switch := [.verbose, .help, .version]

/-- The options that every command has. -/
def vetting : List Switch := [.baseUrl, .dev, .allowHttp, .securityConfig]

end Switch

/-- What has been read of the arguments of a command. -/
structure Given where
  switches : List Switch
  values : List (Switch × String)
  operand : Option String

/-- Why reading the arguments ends before their end. -/
inductive Stop
  | usage
  | version
  | help

namespace Given

/-- Nothing has been read. -/
def empty : Given := ⟨[], [], none⟩

/-- Whether an option has been given. -/
def has (g : Given) (s : Switch) : Bool := g.switches.contains s

/-- The value of an option. -/
def value? (g : Given) (s : Switch) : Option String := g.values.lookup s

/-- Adds an option, which may not be there yet. -/
def addSwitch (g : Given) (s : Switch) : Except Stop Given :=
  match s with
  | .version => .error .version
  | .help => .error .help
  | s => if g.has s then .error .usage else .ok { g with switches := s :: g.switches }

/-- Adds an option with its value. -/
def addValue (g : Given) (s : Switch) (value : String) : Except Stop Given :=
  if s.accepts value then
    (g.addSwitch s).map fun g => { g with values := (s, value) :: g.values }
  else .error .usage

/-- Adds the operand, of which there is only one. -/
def addOperand (g : Given) (text : String) : Except Stop Given :=
  if g.operand.isSome || text.isEmpty then .error .usage else .ok { g with operand := some text }

end Given

/-- Whether an argument is written as an option. A dash alone is a value. -/
def isOption (argument : String) : Bool := argument.startsWith "-" && argument != "-"

/-- Reads short options that are written together. Gives the one that waits
for its value in the next argument. -/
def shortOptions (known : List Switch) (g : Given) :
    List Char → Except Stop (Given × Option Switch)
  | [] => .ok (g, none)
  | c :: rest =>
    match known.find? (·.short? == some c) with
    | none => .error .usage
    | some s =>
      if s.takesValue then
        match rest with
        | [] => .ok (g, some s)
        | '=' :: value => (g.addValue s (String.ofList value)).map (·, none)
        | value => (g.addValue s (String.ofList value)).map (·, none)
      else
        match g.addSwitch s with
        | .error stop => .error stop
        | .ok g => shortOptions known g rest

/-- Reads a long option, of which the value may stand behind an equals
sign. Gives it if it waits for its value in the next argument. -/
def longOption (known : List Switch) (g : Given) (text : List Char) :
    Except Stop (Given × Option Switch) :=
  let name := String.ofList (text.takeWhile (· != '='))
  let attached := text.dropWhile (· != '=')
  match known.find? (·.long == name), attached with
  | none, _ => .error .usage
  | some s, [] => if s.takesValue then .ok (g, some s) else (g.addSwitch s).map (·, none)
  | some s, _ :: value =>
    if s.takesValue then (g.addValue s (String.ofList value)).map (·, none) else .error .usage

/-- Reads an option. -/
def readOption (known : List Switch) (g : Given) (argument : String) :
    Except Stop (Given × Option Switch) :=
  match argument.toList with
  | '-' :: '-' :: name => longOption known g name
  | '-' :: names => shortOptions known g names
  | _ => .error .usage

/-- Reads arguments, of which the first may be the value of an option. -/
def readArguments (known : List Switch) (g : Given) :
    Option Switch → List String → Except Stop Given
  | none, [] => .ok g
  | some _, [] => .error .usage
  | some s, a :: rest =>
    if isOption a then .error .usage
    else
      match g.addValue s a with
      | .error stop => .error stop
      | .ok g => readArguments known g none rest
  | none, a :: rest =>
    if a == "--" then rest.foldlM Given.addOperand g
    else if isOption a then
      match readOption known g a with
      | .error stop => .error stop
      | .ok (g, pending) => readArguments known g pending rest
    else
      match g.addOperand a with
      | .error stop => .error stop
      | .ok g => readArguments known g none rest

/-- How a command vets what it reads, as given. A policy in a file and the
policy for development exclude each other. -/
def Given.security? (g : Given) : Option Security :=
  if g.has .dev && g.has .securityConfig then none
  else some ⟨g.value? .baseUrl, g.has .dev, g.has .allowHttp, g.value? .securityConfig⟩

namespace Request

/-- The name of the program. -/
def program : String := "its"

/-- What is asked for where reading the arguments of a part of the program
ended. -/
def ofStop (name : String) : Stop → Option Request
  | .usage => none
  | .version => some (.version name)
  | .help => some .help

/-- What is asked for with the arguments of a command. -/
def ofCommand (name : String) (options : List Switch) (make : Given → String → Security → Command)
    (arguments : List String) : Option Request :=
  match readArguments (options ++ Switch.vetting ++ Switch.general) .empty none arguments with
  | .error stop => ofStop s!"{program}-{name}" stop
  | .ok g => do
    let template ← g.operand
    let security ← g.security?
    return .run (make g template security)

/-- The names of the commands. -/
def commandNames : List String := ["compile", "validate", "help"]

/-- Help is there for the program and for each of its commands. -/
def ofHelp : List String → Option Request
  | [] => some .help
  | [name] => if commandNames.contains name then some .help else none
  | _ => none

/-- What is asked for with the arguments from the name of a command on. -/
def ofCommandLine (name : String) (rest : List String) : Option Request :=
  match name with
  | "compile" =>
    ofCommand name [.vars, .output]
      (fun g template security =>
        .compile template (g.value? .vars) (g.value? .output) security) rest
  | "validate" =>
    ofCommand name [.json]
      (fun g template security => .validate template (g.has .json) security) rest
  | "help" => ofHelp rest
  | _ => none

/-- What is asked for where options of the program may stand in front of the
command. -/
def ofArgumentsFrom (g : Given) : List String → Option Request
  | [] => none
  | a :: rest =>
    if !isOption a then ofCommandLine a rest
    else if a == "--" then none
    else
      match readOption Switch.general g a with
      | .error stop => ofStop program stop
      | .ok (g, _) => ofArgumentsFrom g rest

/-- What the arguments ask for; none if they are not well formed. -/
def ofArguments (arguments : List String) : Option Request := ofArgumentsFrom .empty arguments

end Request

end CommandLine

end PromptTemplate
