/-!
# PromptTemplate — the tokens of YAML

A YAML stream is a sequence of tokens. Those of the block collections
have no text of their own: they come from the indentation.
-/

namespace PromptTemplate

namespace Yaml

/-- How a scalar is written. -/
inductive Style
  | plain | single | double | literal | folded
deriving DecidableEq

/-- A token. -/
inductive Token
  /-- A directive that says which version of YAML the stream is in. -/
  | version
  /-- A directive that declares a handle for tags. -/
  | handle (name expansion : String)
  | documentStart
  | documentEnd
  | blockSequence
  | blockMapping
  /-- The end of a block collection. -/
  | blockEnd
  | openSequence
  | closeSequence
  | openMapping
  | closeMapping
  /-- The dash before an item of a block sequence. -/
  | item
  /-- The comma between entries of a flow collection. -/
  | comma
  | key
  | value
  | alias (name : String)
  | anchor (name : String)
  | tag (handle suffix : String)
  | scalar (style : Style) (text : String)
deriving DecidableEq

end Yaml

end PromptTemplate
