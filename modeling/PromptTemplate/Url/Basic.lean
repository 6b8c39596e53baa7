import PromptTemplate.Url.Host
/-!
# PromptTemplate — addresses

An address has a scheme, perhaps an authority, which is a host with a
port and a user, a path, a query and a fragment. `Url.text` writes it
down; every part holds the text that stands in the address, with the
characters that may not stand there encoded.
-/

namespace PromptTemplate

namespace Url

/-- The path of an address: segments behind slashes, or a text that is not
divided. -/
inductive Location
  | segments (segments : List String)
  | opaqueText (text : String)
deriving DecidableEq

end Url

/-- An address. -/
structure Url where
  scheme : String
  username : String
  password : Option String
  host : Option Url.Host
  port : Option Nat
  location : Url.Location
  query : Option String
  fragment : Option String
deriving DecidableEq

namespace Url

/-- What a scheme says about addresses: those of files have rules of their
own, and those that browsers know have a host and a usual port. -/
inductive SchemeKind
  | file
  | known (port : Nat)
  | other
deriving DecidableEq

/-- What is known of a scheme. -/
def schemeKind (scheme : String) : SchemeKind :=
  if scheme = "file" then .file
  else if scheme = "http" ∨ scheme = "ws" then .known 80
  else if scheme = "https" ∨ scheme = "wss" then .known 443
  else if scheme = "ftp" then .known 21
  else .other

/-- Whether browsers know the scheme, so that a backslash is a slash. -/
def SchemeKind.isSpecial : SchemeKind → Bool
  | .other => false
  | _ => true

/-- The usual port of a scheme, which is not written. -/
def SchemeKind.usualPort? : SchemeKind → Option Nat
  | .known port => some port
  | _ => none

/-- The segments of a path that has them. -/
def Location.segmentList : Location → List String
  | .segments ss => ss
  | .opaqueText _ => []

/-- The text of a path. -/
def Location.text : Location → String
  | .segments ss => String.join (ss.map ("/" ++ ·))
  | .opaqueText text => text

/-- The text of the user in front of a host. -/
def userText (u : Url) : String :=
  match u.password with
  | some password => u.username ++ ":" ++ password ++ "@"
  | none => if u.username.isEmpty then "" else u.username ++ "@"

/-- The text of the authority. A path without a host that begins with two
slashes would read as an authority, so a dot is put in front. -/
def authorityText (u : Url) : String :=
  match u.host with
  | some host =>
    "//" ++ u.userText ++ host.text ++
      match u.port with
      | some port => ":" ++ port.repr
      | none => ""
  | none =>
    match u.location with
    | .segments ("" :: _ :: _) => "/."
    | _ => ""

/-- The text of an address up to its query. -/
def textBeforeQuery (u : Url) : String :=
  u.scheme ++ ":" ++ u.authorityText ++ u.location.text

/-- The text of an address. -/
def text (u : Url) : String :=
  u.textBeforeQuery ++
    (match u.query with
      | some query => "?" ++ query
      | none => "") ++
    (match u.fragment with
      | some fragment => "#" ++ fragment
      | none => "")

end Url

end PromptTemplate
