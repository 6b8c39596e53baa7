import PromptTemplate.Text.Blank
import PromptTemplate.Text.Letter
import PromptTemplate.Text.Quoted
import PromptTemplate.Text.Lowercase
import PromptTemplate.Text.Search
import PromptTemplate.Vetting.Document
import PromptTemplate.Compile.Report
import PromptTemplate.Schema.Exchange
import PromptTemplate.Path.Resolve
import PromptTemplate.Condition.Parser
import PromptTemplate.Template.Decode
import PromptTemplate.Template.Encode
import PromptTemplate.Interpolation.References
import PromptTemplate.Vetting.Variables
import PromptTemplate.Interpolation.Render
import PromptTemplate.Condition.Evaluate
import PromptTemplate.Json.Reader
import PromptTemplate.Json.Writer
import PromptTemplate.Template.Document
import PromptTemplate.Session
import PromptTemplate.Yaml.Flow
import PromptTemplate.Yaml.Block
import PromptTemplate.Yaml.Token
import PromptTemplate.Yaml.Scanner
import PromptTemplate.Yaml.Node
import PromptTemplate.Policy.Document
import PromptTemplate.CommandLine.Run
import PromptTemplate.Main
import PromptTemplate.Proofs.Condition.Acceptance
import PromptTemplate.Proofs.Vetting.Document
import PromptTemplate.Proofs.Interpolation.Injection
import PromptTemplate.Proofs.Compile.Soundness
import PromptTemplate.Proofs.Compile.Reading
import PromptTemplate.Proofs.Vetting.Climbing
import PromptTemplate.Proofs.Number.Digits
import PromptTemplate.Proofs.Condition.Literal
import PromptTemplate.Proofs.Interpolation.Literal
import PromptTemplate.Proofs.Interpolation.Dependence
import PromptTemplate.Proofs.Path.Chain
import PromptTemplate.Proofs.Condition.Chain
import PromptTemplate.Proofs.Schema.Freshness
import PromptTemplate.Proofs.Template.Fields
import PromptTemplate.Proofs.Template.Structure
import PromptTemplate.Proofs.Template.RoundTrip
import PromptTemplate.Proofs.Schema.Layers
import PromptTemplate.Proofs.Compile.Supplied
import PromptTemplate.Proofs.Compile.Alarms
import PromptTemplate.Proofs.Compile.Seams
import PromptTemplate.Proofs.Schema.Access
import PromptTemplate.Proofs.Condition.Equality
import PromptTemplate.Proofs.Condition.Indifference
import PromptTemplate.Proofs.Condition.Integers
import PromptTemplate.Proofs.Interpolation.Preflight
import PromptTemplate.Proofs.Interpolation.Paths
import PromptTemplate.Proofs.Path.Walk
import PromptTemplate.Proofs.Schema.Accounting
import PromptTemplate.Proofs.Compile.Slots
import PromptTemplate.Proofs.Schema.SizeLimit
import PromptTemplate.Proofs.Interpolation.Opaque
import PromptTemplate.Proofs.Condition.Layout
import PromptTemplate.Proofs.Condition.Spelling
