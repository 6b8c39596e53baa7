import PromptTemplate.Domain.Registered
import PromptTemplate.Url.Ipv6
import PromptTemplate.Url.Percent
/-!
# PromptTemplate — hosts

The host of an address is a name or an address of a machine. Under the
schemes that browsers know, names are domain names in their registered
form; under others a name is any text without the marks of an address.
-/

namespace PromptTemplate

namespace Url

/-- What makes a text no address. -/
inductive Defect
  | relativeWithoutBase | relativeToOpaque | emptyHost | badPort | badIpv4 | badIpv6
  | badHostCharacter | badDomain
deriving DecidableEq

/-- The wording of a defect. -/
def Defect.message : Defect → String
  | .relativeWithoutBase => "relative URL without a base"
  | .relativeToOpaque => "relative URL with a cannot-be-a-base base"
  | .emptyHost => "empty host"
  | .badPort => "invalid port number"
  | .badIpv4 => "invalid IPv4 address"
  | .badIpv6 => "invalid IPv6 address"
  | .badHostCharacter => "invalid domain character"
  | .badDomain => "invalid international domain name"

/-- A host. -/
inductive Host
  | name (text : String)
  | ipv4 (address : Ipv4)
  | ipv6 (address : Ipv6)
deriving DecidableEq

namespace Host

/-- The host without a name. -/
def empty : Host := .name ""

/-- The text of a host in an address. -/
def text : Host → String
  | .name text => text
  | .ipv4 address => address.text
  | .ipv6 address => "[" ++ address.compressed ++ "]"

/-- Reads an address of version six between brackets, if the text begins
with one. -/
def bracketed? : List Char → Option (Except Defect Host)
  | '[' :: cs =>
    if cs.getLast? = some ']' then
      match Ipv6.parse? cs.dropLast with
      | some address => some (.ok (.ipv6 address))
      | none => some (.error .badIpv6)
    else some (.error .badIpv6)
  | _ => none

/-- Reads a host under a scheme that browsers know. -/
def parse (cs : List Char) : Except Defect Host :=
  match bracketed? cs with
  | some host => host
  | none =>
    match (percentDecode? cs).bind Domain.registered? with
    | none => .error .badDomain
    | some [] => .error .emptyHost
    | some domain =>
      if Ipv4.endsInNumber domain then
        match Ipv4.parse? domain with
        | some address => .ok (.ipv4 address)
        | none => .error .badIpv4
      else .ok (.name (String.ofList domain))

/-- The characters that no host may hold. -/
def isForbidden (c : Char) : Bool :=
  ['\x00', '\t', '\n', '\r', ' ', '#', '/', ':', '<', '>', '?', '@', '[', '\\', ']', '^',
    '|'].contains c

/-- Reads a host under any other scheme. -/
def parseOpaque (cs : List Char) : Except Defect Host :=
  match bracketed? cs with
  | some host => host
  | none =>
    if cs.any isForbidden then .error .badHostCharacter
    else .ok (.name (String.ofList (percentEncode isControl cs)))

end Host

end Url

end PromptTemplate
