import PromptTemplate.Json.Reader
import PromptTemplate.Schema.Loader
import PromptTemplate.Text.Blank
import PromptTemplate.Text.Search
/-!
# PromptTemplate — fetching over the network

A schema is fetched with one request. The server may not be reached, or
give a response: its status, the type of its content, the length that it
declares, and the bytes that arrive, behind which the connection may break.
`Exchange.body` says what body such an exchange gives: redirections are not
followed, only JSON and text are taken, and nothing larger than the limit
is read. A `Transport` carries out the requests; `offline` is the one that
reaches no server.
-/

namespace PromptTemplate

namespace Schema

/-- A response to a request. -/
structure Response where
  status : Nat
  /-- The field that names the type of the content, where there is one. -/
  contentType : Option (List UInt8)
  /-- The number of bytes that the server declares, where it does. -/
  declared : Option Nat
  /-- The bytes that arrive. -/
  arrived : List UInt8
  /-- Whether the connection breaks behind them, before the end. -/
  broken : Bool

/-- What comes of a request. -/
inductive Exchange
  /-- No response arrived, for a reason. -/
  | failed (reason : String)
  | answered (r : Response)

/-- Why an exchange gives no body. -/
inductive ExchangeFailure
  | noResponse (reason : String)
  | status (code : Nat)
  | contentType (type : String)
  | declaredTooLarge (size limit : Nat)
  | broken
  | tooLarge (limit : Nat)
  | notJson

/-- The wording of a failure. -/
def ExchangeFailure.message : ExchangeFailure → String
  | .noResponse reason => s!"request failed: {reason}"
  | .status code => s!"server responded with HTTP {code}"
  | .contentType type => s!"unsupported content type '{type}'"
  | .declaredTooLarge size limit => s!"schema is {size} bytes, maximum is {limit} bytes"
  | .broken => "failed to read response"
  | .tooLarge limit => s!"schema exceeds maximum of {limit} bytes"
  | .notJson => "invalid JSON"

/-- Whether a byte of a field is text: a printable character of ASCII, or a
tab. -/
def isFieldText (b : UInt8) : Bool := (0x20 ≤ b && b < 0x7f) || b == 0x09

/-- The text of a field, if it is text throughout. -/
def fieldText? (bytes : List UInt8) : Option String :=
  if bytes.all isFieldText then some (String.ofList (bytes.map fun b => Char.ofNat b.toNat))
  else none

/-- The type of content without its parameters. -/
def essence (contentType : String) : List Char :=
  Text.trim (contentType.toList.takeWhile (· != ';'))

/-- Whether a type of content is taken, in lower case: JSON, a format built
on it, or text. -/
def isAccepted (contentType : String) : Bool :=
  let type := essence contentType
  type == "application/json".toList || "+json".toList.isSuffixOf type ||
    "text/".toList.isPrefixOf type

/-- The text of bytes, if they are UTF-8. -/
def textOfBytes? (bytes : List UInt8) : Option String := String.fromUTF8? ⟨bytes.toArray⟩

/-- How many bytes are asked for under a limit: one more than the limit, to
see whether there is more, as a word of 64 bits. -/
def window (limit : Nat) : Nat := (limit + 1) % (1 <<< 64)

namespace Response

/-- The type of content in lower case; the empty text, if the response names
none in a field that is text. -/
def type (r : Response) : String :=
  String.ofList (((r.contentType.bind fieldText?).getD "").toList.map Char.toLower)

/-- What is read of a response if at most `n` bytes are asked for: nothing
if the connection breaks before these have arrived. -/
def read? (n : Nat) (r : Response) : Option (List UInt8) :=
  if n ≤ r.arrived.length then some (r.arrived.take n)
  else if r.broken then none
  else some r.arrived

/-- The body of a response, of at most `limit` bytes. -/
def body (limit : Nat) (r : Response) : Except ExchangeFailure Value :=
  if r.status < 200 ∨ 300 ≤ r.status then .error (.status r.status)
  else if !isAccepted r.type then .error (.contentType r.type)
  else if limit < r.declared.getD 0 then
    .error (.declaredTooLarge (r.declared.getD 0) limit)
  else match r.read? (window limit) with
    | none => .error .broken
    | some bytes =>
      if limit < bytes.length then .error (.tooLarge limit)
      else match (textOfBytes? bytes).bind Json.parse? with
        | none => .error .notJson
        | some v => .ok v

end Response

/-- The body that comes of a request. -/
def Exchange.body (limit : Nat) : Exchange → Except ExchangeFailure Value
  | .failed reason => .error (.noResponse reason)
  | .answered r => r.body limit

/-- What comes of a request, for every address. -/
def Transport : Type := String → Exchange

/-- The transport that reaches no server. -/
def offline : Transport := fun url => .failed s!"error sending request for url ({url})"

/-- The source of schemas that requests them, each of at most `limit`
bytes. -/
def Transport.source (transport : Transport) (limit : Nat) : Source := fun url =>
  ((transport url).body limit).mapError ExchangeFailure.message

end Schema

end PromptTemplate
