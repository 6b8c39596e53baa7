import PromptTemplate.Url.Basic
/-!
# PromptTemplate — reading addresses

An address is read from left to right: scheme, authority, path, query and
fragment. A text without a scheme is relative, and takes what it leaves
out from a base. Blanks and controls around the text are dropped, tabs and
line ends everywhere; under the schemes that browsers know a backslash is
a slash, and a usual port is not kept. Segments of one dot vanish, and
those of two take away the segment before.
-/

namespace PromptTemplate

namespace Url

/-- The text as it is read: without blanks and controls around it, and
without tabs and line ends. -/
def cleaned (text : String) : List Char :=
  let outer (c : Char) : Bool := c.toNat ≤ 0x20
  let cs := ((text.toList.dropWhile outer).reverse.dropWhile outer).reverse
  cs.filter fun c => c != '\t' && c != '\n' && c != '\r'

/-- Whether a character may stand in a scheme. -/
def isSchemeChar (c : Char) : Bool := c.isAlphanum || c == '+' || c == '-' || c == '.'

/-- Splits the scheme off the front of a text, in lower case. -/
def splitScheme? (cs : List Char) : Option (String × List Char) :=
  match cs, cs.dropWhile isSchemeChar with
  | c :: _, ':' :: rest =>
    if c.isAlpha then
      some (String.ofList ((cs.takeWhile isSchemeChar).map Char.toLower), rest)
    else none
  | _, _ => none

/-- Whether a character is a slash, or a backslash that counts as one. -/
def isSlash (special : Bool) (c : Char) : Bool := c == '/' || (special && c == '\\')

/-- Whether a character is a slash of either kind. -/
def isAnySlash (c : Char) : Bool := isSlash true c

/-- Whether a character ends an authority. -/
def endsAuthority (special : Bool) (c : Char) : Bool :=
  isSlash special c || c == '?' || c == '#'

/-! ## Query and fragment -/

/-- Whether a character ends a path. -/
def endsPath (c : Char) : Bool := c == '?' || c == '#'

/-- The fragment, from its mark on. -/
def fragmentOf : List Char → Option String
  | '#' :: cs => some (String.ofList (percentEncode encodedInFragment cs))
  | _ => none

/-- The query and the fragment, from the mark of the first on. -/
def tailOf (special : Bool) : List Char → Option String × Option String
  | '?' :: cs =>
    let query := cs.takeWhile (· != '#')
    (some (String.ofList (percentEncode (encodedInQuery special) query)),
      fragmentOf (cs.dropWhile (· != '#')))
  | cs => (none, fragmentOf cs)

/-- An address with the query and the fragment that a text has. -/
def withTail (u : Url) (cs : List Char) : Url :=
  let (query, fragment) := tailOf (schemeKind u.scheme).isSpecial cs
  { u with query := query, fragment := fragment }

/-! ## Paths -/

/-- A dot as it may be written. -/
def dotSpellings : List String := [".", "%2e"]

/-- Whether a segment is one dot. -/
def isDot (segment : List Char) : Bool :=
  dotSpellings.contains (String.ofList (segment.map Char.toLower))

/-- Whether a segment is two dots. -/
def isDoubleDot (segment : List Char) : Bool :=
  (dotSpellings.flatMap fun a => dotSpellings.map (a ++ ·)).contains
    (String.ofList (segment.map Char.toLower))

/-- Whether a segment is a letter with a colon or a bar, which names a
drive. -/
def isDrive (segment : List Char) : Bool :=
  match segment with
  | [c, d] => c.isAlpha && (d == ':' || d == '|')
  | _ => false

/-- The segments without the last one; a drive stays. -/
def shortened (segments : List String) : List String :=
  match segments.getLast? with
  | some last => if isDrive last.toList then segments else segments.dropLast
  | none => []

/-- A segment as it is kept; the drive of a file gets its colon. -/
def keptSegment (kind : SchemeKind) (first : Bool) (segment : List Char) : String :=
  match segment with
  | [c, _] =>
    if kind = .file ∧ first ∧ isDrive segment then String.ofList [c, ':']
    else String.ofList (percentEncode encodedInPath segment)
  | _ => String.ofList (percentEncode encodedInPath segment)

/-- Puts segments behind others. -/
def appendSegments (kind : SchemeKind) : List String → List (List Char) → List String
  | done, [] => done
  | done, segment :: rest =>
    let close (segments : List String) := if rest.isEmpty then segments ++ [""] else segments
    let done :=
      if isDoubleDot segment then close (shortened done)
      else if isDot segment then close done
      else done ++ [keptSegment kind done.isEmpty segment]
    appendSegments kind done rest

/-- The parts of a path between its slashes. -/
def splitPath (special : Bool) (cs : List Char) : List (List Char) :=
  Text.split '/' (cs.map fun c => if isSlash special c then '/' else c)

/-- The segments of a file have no empty ones in front. -/
def trimmedSegments (kind : SchemeKind) (segments : List String) : List String :=
  if kind = .file then
    match segments.dropWhile String.isEmpty with
    | [] => [""]
    | rest => rest
  else segments

/-- Puts a path behind given segments and reads the query and the fragment
behind it. -/
def withPath (u : Url) (before : List String) (cs : List Char) : Url :=
  let kind := schemeKind u.scheme
  let path := cs.takeWhile fun c => !endsPath c
  let segments := appendSegments kind before (splitPath kind.isSpecial path)
  withTail { u with location := .segments (trimmedSegments kind segments) }
    (cs.dropWhile fun c => !endsPath c)

/-- Reads the path behind an authority, with or without a slash in
front. -/
def withPathStart (u : Url) (cs : List Char) : Url :=
  let special := (schemeKind u.scheme).isSpecial
  match cs with
  | [] => if special then u.withPath [] [] else u
  | c :: rest =>
    if isSlash special c then u.withPath [] rest
    else if endsPath c && !special then u.withTail cs
    else u.withPath [] cs

/-! ## Authorities -/

/-- The user in front of a host: a name, and a password behind a colon that
is dropped if there is nothing behind it. -/
def userOf (cs : List Char) : String × Option String :=
  let encode (cs : List Char) := String.ofList (percentEncode encodedInUser cs)
  let name := cs.takeWhile (· != ':')
  match cs.dropWhile (· != ':') with
  | _ :: c :: rest => (encode name, some (encode (c :: rest)))
  | _ => (encode name, none)

/-- Splits at the last sign between a user and a host. -/
def splitUser? (authority : List Char) : Option (List Char × List Char) :=
  match authority.reverse.dropWhile (· != '@') with
  | [] => none
  | _ :: user => some (user.reverse, (authority.reverse.takeWhile (· != '@')).reverse)

/-- Splits the host off the front; inside brackets a colon does not end
it. -/
def splitHost (special : Bool) : Bool → List Char → List Char × List Char
  | _, [] => ([], [])
  | inside, c :: cs =>
    if endsAuthority special c || (c == ':' && !inside) then ([], c :: cs)
    else
      let inside := if c = '[' then true else if c = ']' then false else inside
      let (host, rest) := splitHost special inside cs
      (c :: host, rest)

/-- Reads a port behind its colon; the usual one is dropped. -/
def portOf (kind : SchemeKind) (cs : List Char) :
    Except Defect (Option Nat × List Char) :=
  let digits := cs.takeWhile Char.isDigit
  let rest := cs.dropWhile Char.isDigit
  let port := Number.natOfDigits digits
  if 65535 < port then .error .badPort
  else if rest.head?.any fun c => !endsAuthority true c then .error .badPort
  else if digits.isEmpty ∨ kind.usualPort? = some port then .ok (none, rest)
  else .ok (some port, rest)

/-- Reads the host and the port off the front of a text. -/
def hostAndPort (kind : SchemeKind) (cs : List Char) :
    Except Defect (Host × Option Nat × List Char) := do
  let (hostText, rest) := splitHost kind.isSpecial false cs
  if kind.isSpecial && hostText.isEmpty then throw .emptyHost
  let host ← if kind.isSpecial then Host.parse hostText else Host.parseOpaque hostText
  match rest with
  | ':' :: rest =>
    if hostText.isEmpty then throw .emptyHost
    let (port, rest) ← portOf kind rest
    return (host, port, rest)
  | rest => return (host, none, rest)

/-- An address of which only the scheme is known. -/
def ofScheme (scheme : String) : Url := ⟨scheme, "", none, none, none, .segments [], none, none⟩

/-- Reads what stands behind the two slashes of an authority. -/
def withAuthority (scheme : String) (cs : List Char) : Except Defect Url := do
  let kind := schemeKind scheme
  let authority := cs.takeWhile fun c => !endsAuthority kind.isSpecial c
  let rest := cs.dropWhile fun c => !endsAuthority kind.isSpecial c
  let (username, password, hostPart) ← match splitUser? authority with
    | none => pure ("", none, cs)
    | some (user, host) =>
      if user.isEmpty && host.isEmpty && !rest.isEmpty then throw .emptyHost
      let (username, password) := userOf user
      pure (username, password, host ++ rest)
  let (host, port, rest) ← hostAndPort kind hostPart
  if host = .empty && (!username.isEmpty || password.isSome) then throw .emptyHost
  let u : Url := ⟨scheme, username, password, some host, port, .segments [], none, none⟩
  return u.withPathStart rest

/-! ## Files -/

/-- Whether the text begins with a segment that names a drive. -/
def startsWithDrive (cs : List Char) : Bool := isDrive (cs.takeWhile fun c => !endsAuthority true c)

/-- The address of a file on a host; a path that begins with a drive has no
host. -/
def fileOn (host : Host) (cs : List Char) : Url :=
  let u : Url := ⟨"file", "", none, some host, none, .segments [], none, none⟩
  if startsWithDrive (cs.dropWhile isAnySlash) then
    { u with host := some .empty }.withPathStart cs
  else u.withPathStart cs

/-- Reads the address of a file behind its two slashes. -/
def fileHost (cs : List Char) : Except Defect Url :=
  let hostText := cs.takeWhile fun c => !endsAuthority true c
  let rest := cs.dropWhile fun c => !endsAuthority true c
  if hostText.isEmpty || isDrive hostText then
    .ok (fileOn .empty (if hostText.isEmpty then rest else cs))
  else do
    let host ← Host.parse hostText
    return fileOn (if host = .name "localhost" then .empty else host) rest

/-- The segment of a base that names a drive, which a path from the root
keeps. -/
def driveOf (base : Url) : List String :=
  match base.location.segmentList with
  | s :: _ => if isDrive s.toList && s.toList.getLast? == some ':' then [s] else []
  | [] => []

/-- Reads the address of a file behind its scheme, relative to another
file. -/
def fileFrom (base : Url) (cs : List Char) : Except Defect Url :=
  match cs with
  | [] => .ok { base with fragment := none }
  | '#' :: _ => .ok { base with fragment := fragmentOf cs }
  | '?' :: _ => .ok (base.withTail cs)
  | c :: rest =>
    if isAnySlash c then
      match rest with
      | d :: host =>
        if isAnySlash d then fileHost host
        else if startsWithDrive rest then .ok (fileOn .empty cs)
        else
          let drive := driveOf base
          .ok ({ base with host := if drive.isEmpty then base.host else some .empty }.withPath
            drive rest)
      | [] => .ok (base.withPath (driveOf base) [])
    else if startsWithDrive cs then .ok (fileOn .empty cs)
    else
      let before := base.location.segmentList
      .ok (base.withPath (if before.length = 1 then shortened before else before.dropLast) cs)

/-- The root of the files of a machine. -/
def fileRoot : Url := ⟨"file", "", none, some .empty, none, .segments [""], none, none⟩

/-! ## Relative texts -/

/-- Reads a relative text under the scheme of its base. -/
def relativeTo (base : Url) (cs : List Char) : Except Defect Url :=
  match cs with
  | [] => .ok { base with fragment := none }
  | '#' :: _ => .ok { base with fragment := fragmentOf cs }
  | '?' :: _ => .ok (base.withTail cs)
  | c :: rest =>
    if isAnySlash c then
      match rest with
      | d :: host =>
        if c = '/' ∧ d = '/' then withAuthority base.scheme host
        else if isAnySlash d then withAuthority base.scheme (host.dropWhile isAnySlash)
        else .ok (base.withPath [] rest)
      | [] => .ok (base.withPath [] [])
    else .ok (base.withPath base.location.segmentList.dropLast cs)

/-- Reads a text without a scheme. -/
def withoutScheme (base : Option Url) (cs : List Char) : Except Defect Url :=
  match base with
  | none => .error .relativeWithoutBase
  | some base =>
    match cs, base.location with
    | '#' :: _, _ => .ok { base with fragment := fragmentOf cs }
    | _, .opaqueText _ => .error .relativeToOpaque
    | _, .segments _ => if base.scheme = "file" then fileFrom base cs else relativeTo base cs

/-- Reads what stands behind a scheme. -/
def behindScheme (base : Option Url) (scheme : String) (cs : List Char) : Except Defect Url :=
  let same := base.filter (·.scheme == scheme)
  match schemeKind scheme with
  | .file => fileFrom (same.getD fileRoot) cs
  | .known _ =>
    let slashes := (cs.takeWhile isAnySlash).length
    match same with
    | some base =>
      if slashes < 2 then relativeTo base cs
      else withAuthority scheme (cs.dropWhile isAnySlash)
    | none => withAuthority scheme (cs.dropWhile isAnySlash)
  | .other =>
    match cs with
    | '/' :: '/' :: rest => withAuthority scheme rest
    | '/' :: rest => .ok ((ofScheme scheme).withPath [] rest)
    | cs =>
      let path := cs.takeWhile fun c => !endsPath c
      let u := { ofScheme scheme with
        location := .opaqueText (String.ofList (percentEncode isControl path)) }
      .ok (u.withTail (cs.dropWhile fun c => !endsPath c))

/-- Reads an address, relative to a base if there is one. -/
def parse (base : Option Url) (text : String) : Except Defect Url :=
  let cs := cleaned text
  match splitScheme? cs with
  | some (scheme, rest) => behindScheme base scheme rest
  | none => withoutScheme base cs

/-- The text of an address as it is meant under a base; as it stands, if
there is no base or one of the two cannot be read. -/
def resolved (base : Option String) (text : String) : String :=
  match base with
  | none => text
  | some b =>
    match parse none b with
    | .error _ => text
    | .ok base =>
      match parse (some base) text with
      | .error _ => text
      | .ok u => u.text

end Url

end PromptTemplate
