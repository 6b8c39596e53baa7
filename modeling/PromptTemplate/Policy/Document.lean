import PromptTemplate.Policy.Basic
import PromptTemplate.Yaml.Writer
/-!
# PromptTemplate — policies as documents

A policy can be kept as a YAML document: a mapping from the names of its
fields to their values. A field that is missing takes the strict value,
unknown fields are ignored, and a policy that was read is checked before it
is used.
-/

namespace PromptTemplate

namespace Policy

/-- Reads an allow-list: a sequence of scalars, whatever they would mean. -/
def allowlist? (n : Yaml.Node) : Option (List String) :=
  n.items?.bind (·.mapM Yaml.Node.text?)

/-- The policy of a node. -/
def ofNode? (n : Yaml.Node) : Option Policy := do
  let fields ← n.fields?
  let flag := fun name => Yaml.Node.field fields name Yaml.Node.bool?
  let limit := fun name => Yaml.Node.field fields name Yaml.Node.natural?
  return {
    allowHttp := ← flag "allow_http" strict.allowHttp
    blockLocalhost := ← flag "block_localhost" strict.blockLocalhost
    blockPrivateNetworks := ← flag "block_private_networks" strict.blockPrivateNetworks
    domainAllowlist :=
      ← Yaml.Node.field fields "domain_allowlist" (Yaml.Node.optional? allowlist?) none
    maxTemplateSize := ← limit "max_template_size" strict.maxTemplateSize
    maxContentElements := ← limit "max_content_elements" strict.maxContentElements
    maxNestingDepth := ← limit "max_nesting_depth" strict.maxNestingDepth
    maxExpressionLength := ← limit "max_expression_length" strict.maxExpressionLength
    maxArrayLength := ← limit "max_array_length" strict.maxArrayLength
    maxSchemaSize := ← limit "max_schema_size" strict.maxSchemaSize
    requestTimeoutSecs := ← limit "request_timeout_secs" strict.requestTimeoutSecs }

/-- The policy of a text, if it passes. -/
def ofText (text : String) : Except Fault Policy := do
  match (Yaml.Node.parse? text).bind ofNode? with
  | none => .error (.user "failed to parse security config YAML")
  | some p =>
    p.check
    return p

/-- The policy of a file, from its content if it can be read. -/
def ofFile (name : String) (content : Option String) : Except Fault Policy :=
  match content with
  | none => .error (.user s!"failed to read security config '{name}'")
  | some text => ofText text

/-- How a truth value is written. -/
def flagText (b : Bool) : String := if b then "true" else "false"

/-- The document of a policy. -/
def toText (p : Policy) : String :=
  Yaml.writePlain "allow_http" (flagText p.allowHttp) ++
    Yaml.writePlain "block_localhost" (flagText p.blockLocalhost) ++
    Yaml.writePlain "block_private_networks" (flagText p.blockPrivateNetworks) ++
    (match p.domainAllowlist with
      | none => ""
      | some entries => Yaml.writeStrings "domain_allowlist" entries) ++
    String.join (p.limits.map fun (name, n) => Yaml.writePlain name (toString n))

end Policy

end PromptTemplate
