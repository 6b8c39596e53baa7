import PromptTemplate.Fault
import PromptTemplate.Text.Blank
import PromptTemplate.Text.Lowercase
/-!
# PromptTemplate — the security policy

A policy says from where schemas may be loaded and how large templates,
conditions, variables and schemas may be. `strict` is the policy where
nothing is said, `development` lets schemas come from the machine at hand,
and `check` admits a policy: every limit is positive, and the entries of
an allow-list are host names.
-/

namespace PromptTemplate

/-- A security policy. -/
structure Policy where
  /-- Schemas may be loaded without encryption. -/
  allowHttp : Bool
  /-- The names and addresses of the machine itself are refused. -/
  blockLocalhost : Bool
  /-- Addresses of private networks are refused. -/
  blockPrivateNetworks : Bool
  /-- Where this is given, hosts must be, or lie under, one of its
  entries. -/
  domainAllowlist : Option (List String)
  /-- The greatest number of bytes of a template. -/
  maxTemplateSize : Nat
  /-- The greatest number of content elements, nested ones included. -/
  maxContentElements : Nat
  /-- How deep conditionals and variables may nest. -/
  maxNestingDepth : Nat
  /-- The greatest number of characters of a condition. -/
  maxExpressionLength : Nat
  /-- The greatest number of items of an array of variables. -/
  maxArrayLength : Nat
  /-- The greatest number of bytes of a schema. -/
  maxSchemaSize : Nat
  /-- How many seconds one request may take. -/
  requestTimeoutSecs : Nat
deriving DecidableEq

namespace Policy

/-- The number of bytes of a mebibyte. -/
def mebibyte : Nat := 1048576

/-- The policy where nothing is said. -/
def strict : Policy where
  allowHttp := false
  blockLocalhost := true
  blockPrivateNetworks := true
  domainAllowlist := none
  maxTemplateSize := mebibyte
  maxContentElements := 1000
  maxNestingDepth := 10
  maxExpressionLength := 500
  maxArrayLength := 1000
  maxSchemaSize := 10 * mebibyte
  requestTimeoutSecs := 10

/-- The policy for work on one machine: schemas may come from it, and
without encryption. -/
def development : Policy :=
  { strict with
    allowHttp := true
    blockLocalhost := false
    blockPrivateNetworks := false
    requestTimeoutSecs := 30 }

/-- The limits of a policy, by name. -/
def limits (p : Policy) : List (String × Nat) :=
  [("max_template_size", p.maxTemplateSize),
    ("max_content_elements", p.maxContentElements),
    ("max_nesting_depth", p.maxNestingDepth),
    ("max_expression_length", p.maxExpressionLength),
    ("max_array_length", p.maxArrayLength),
    ("max_schema_size", p.maxSchemaSize),
    ("request_timeout_secs", p.requestTimeoutSecs)]

/-- What is wrong with an entry of an allow-list, if anything is. -/
def entryProblem? (entry : String) : Option String :=
  if Text.isAllBlank entry then some "domain_allowlist entries must be non-empty"
  else if entry.toList.contains '/' then
    some s!"domain_allowlist entries must be host names, not URLs (found '{entry}')"
  else none

/-- The first thing that is wrong with a policy, if anything is. -/
def problem? (p : Policy) : Option String :=
  match p.limits.find? (·.2 == 0) with
  | some (name, _) => some s!"{name} must be greater than 0"
  | none => (p.domainAllowlist.getD []).findSome? entryProblem?

/-- Admits a policy, or says what is wrong with it. -/
def check (p : Policy) : Except Fault Unit :=
  match p.problem? with
  | some problem => .error (.user s!"security config validation failed: {problem}")
  | none => .ok ()

/-- The entry of an allow-list as hosts are compared with it: in lower
case, without blanks around it and without dots in front. -/
def normalizedEntry (entry : String) : String :=
  Text.lowercase (String.ofList ((Text.trim entry.toList).dropWhile (· == '.')))

/-- The allow-list as hosts are compared with it. -/
def normalizedAllowlist (p : Policy) : Option (List String) :=
  p.domainAllowlist.map (·.map normalizedEntry)

end Policy

end PromptTemplate
