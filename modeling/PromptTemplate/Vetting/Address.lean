import PromptTemplate.Url.Parser
import PromptTemplate.Policy.Basic
/-!
# PromptTemplate — vetting addresses

An address of a schema passes a policy if its scheme is allowed, nothing
in it as written climbs up in a path, and its host is neither the machine
itself nor in a private network where the policy refuses these, and is on
the allow-list where there is one. An address of version six that maps one
of version four is judged as that one.
-/

namespace PromptTemplate

namespace Vetting

/-- The schemes that no policy allows. -/
def deniedSchemes : List String := ["file", "ftp", "gopher", "ldap", "dict", "data"]

/-- What is wrong with a scheme, if anything is. -/
def schemeProblem? (p : Policy) (scheme : String) : Option String :=
  if deniedSchemes.contains scheme then some s!"scheme '{scheme}' is not allowed"
  else if scheme = "https" ∨ (p.allowHttp ∧ scheme = "http") then none
  else if scheme = "http" then some "plain HTTP is not allowed"
  else some s!"scheme '{scheme}' is not allowed"

/-- The ways to write two dots. -/
def climbs : List String := ["..", "%2e%2e", ".%2e", "%2e."]

/-- Whether two dots stand anywhere in an address as written. -/
def hasClimb (raw : String) : Bool :=
  let lowered := Text.lowercase raw
  climbs.any fun climb => Text.contains lowered climb

/-- The names of the machine itself. -/
def localNames : List String := ["localhost", "localhost.localdomain", "ip6-localhost"]

/-- Whether a host has the name of the machine itself, or one below it. -/
def isLocalName (domain : String) : Bool :=
  localNames.contains domain || ".localhost".toList.isSuffixOf domain.toList

/-- Whether a host is an entry of an allow-list, or lies under it. -/
def liesUnder (domain entry : String) : Bool :=
  domain == entry || ('.' :: entry.toList).isSuffixOf domain.toList

/-- A host name as it is compared: in lower case and without dots at the
end. -/
def comparedName (name : String) : String :=
  Text.lowercase (String.ofList (name.toList.reverse.dropWhile (· == '.')).reverse)

/-- The problem of a host that is not on the allow-list, where there is
one. -/
def allowlistProblem? (p : Policy) (host : String) (allows : String → Bool) : Option String :=
  match p.normalizedAllowlist with
  | none => none
  | some entries =>
    if entries.any allows then none else some s!"host '{host}' is not in the domain allow-list"

/-- What is wrong with a host name, if anything is. -/
def nameProblem? (p : Policy) (name : String) : Option String :=
  let domain := comparedName name
  if p.blockLocalhost && isLocalName domain then
    some s!"localhost host '{domain}' is not allowed"
  else allowlistProblem? p domain (liesUnder domain)

/-- What is wrong with an address whose text and ranges are known, if
anything is. -/
def rangeProblem? (p : Policy) (text : String) (isLoopback isPrivate : Bool) : Option String :=
  if p.blockLocalhost && isLoopback then some s!"loopback address '{text}' is not allowed"
  else if p.blockPrivateNetworks && isPrivate then
    some s!"private network address '{text}' is not allowed"
  else none

/-- What is wrong with the ranges of an address of version four. -/
def ipv4Problem? (p : Policy) (x : Url.Ipv4) : Option String :=
  rangeProblem? p x.text x.isLoopback x.isPrivate

/-- What is wrong with the ranges of an address of version six; a mapped
one is judged as the address it maps. -/
def ipv6Problem? (p : Policy) (x : Url.Ipv6) : Option String :=
  match x.mapped? with
  | some y => ipv4Problem? p y
  | none => rangeProblem? p x.text x.isLoopback x.isPrivate

/-- What is wrong with a host, if anything is. -/
def hostProblem? (p : Policy) : Option Url.Host → Option String
  | none => some "URL has no host"
  | some (.name name) => nameProblem? p name
  | some (.ipv4 x) => (ipv4Problem? p x).or (allowlistProblem? p x.text (· == x.text))
  | some (.ipv6 x) => (ipv6Problem? p x).or (allowlistProblem? p x.text (· == x.text))

/-- The first thing that is wrong with an address that was read from a
text, if anything is. -/
def addressProblem? (p : Policy) (raw : String) (u : Url) : Option String :=
  match schemeProblem? p u.scheme with
  | some problem => some problem
  | none =>
    if hasClimb raw then some "path traversal ('..') is not allowed" else hostProblem? p u.host

/-- Reads an address and passes it, or says what is wrong. -/
def checkAddress (p : Policy) (raw : String) : Except Violation Url :=
  match Url.parse none (Text.trimmed raw) with
  | .error defect => .error (.because .urlRejected s!"invalid URL: {defect.message}" raw)
  | .ok u =>
    match addressProblem? p raw u with
    | some problem => .error (.because .urlRejected problem raw)
    | none => .ok u

end Vetting

end PromptTemplate
