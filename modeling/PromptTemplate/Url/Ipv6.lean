import PromptTemplate.Url.Ipv4
/-!
# PromptTemplate — addresses of version six

An address has eight pieces of sixteen bits, written to base sixteen with
colons between. Two colons stand for zeros as many as are missing, and
the last two pieces may be written as an address of version four.
-/

namespace PromptTemplate

namespace Url

/-- An address of version six. -/
structure Ipv6 where
  pieces : Vector UInt16 8
deriving DecidableEq

namespace Ipv6

/-- The pieces as numbers. -/
def numbers (x : Ipv6) : List Nat := x.pieces.toList.map UInt16.toNat

/-- The address of eight numbers. -/
def ofNumbers? (ns : List Nat) : Option Ipv6 :=
  if h : ns.length = 8 then some ⟨⟨(ns.map UInt16.ofNat).toArray, by simp [h]⟩⟩ else none

/-! ## Writing -/

/-- How many zeros stand at the front. -/
def zeros (ns : List Nat) : Nat := (ns.takeWhile (· == 0)).length

/-- The first of the longest runs of zeros from a place on, better than a
given one: its place and its length. -/
def longestRun (best : Nat × Nat) (place : Nat) : List Nat → Nat × Nat
  | [] => best
  | n :: ns =>
    let here := zeros (n :: ns)
    longestRun (if best.2 < here then (place, here) else best) (place + 1) ns

/-- Pieces with colons between. -/
def piecesText (ns : List Nat) : String :=
  ":".intercalate (ns.map fun n => String.ofList (Hex.text n))

/-- The text of an address, in which two colons stand for the first of the
longest runs of at least two zeros. -/
def compressed (x : Ipv6) : String :=
  let ns := x.numbers
  let (place, length) := longestRun (0, 0) 0 ns
  if length < 2 then piecesText ns
  else piecesText (ns.take place) ++ "::" ++ piecesText (ns.drop (place + length))

/-- The address of version four that is mapped into version six. -/
def mapped? (x : Ipv6) : Option Ipv4 :=
  match x.numbers with
  | [0, 0, 0, 0, 0, 0xffff, m, n] => some (.ofNat (m * 0x10000 + n))
  | _ => none

/-- The text of an address in messages, which shows a mapped address in
its own form. -/
def text (x : Ipv6) : String :=
  match x.mapped? with
  | some y => "::ffff:" ++ y.text
  | none => x.compressed

/-! ## Ranges -/

/-- Whether the address belongs to the machine itself, or is the one
without an interface. -/
def isLoopback (x : Ipv6) : Bool :=
  x.numbers == [0, 0, 0, 0, 0, 0, 0, 1] || x.numbers == [0, 0, 0, 0, 0, 0, 0, 0]

/-- Whether the address is local to a network, fc00::/7, or to a link,
fe80::/10. -/
def isPrivate (x : Ipv6) : Bool :=
  let first := x.numbers.headD 0
  first / 0x200 == 0xfc00 / 0x200 || first / 0x40 == 0xfe80 / 0x40

/-! ## Reading -/

/-- Pieces that have been read, and how many of them stand before the two
colons, if these have been read. -/
structure Reading where
  pieces : List Nat
  gap : Option Nat

/-- The number of pieces for which there is writing so far. -/
def Reading.written (r : Reading) : Nat := r.pieces.length + (if r.gap.isSome then 1 else 0)

/-- The number of an octet: at most 255, and without leading zeros. -/
def octet? (cs : List Char) : Option Nat :=
  match cs with
  | [] => none
  | ['0'] => some 0
  | '0' :: _ => none
  | cs =>
    if cs.all Char.isDigit then
      let n := Number.natOfDigits cs
      if n < 256 then some n else none
    else none

/-- The two pieces that an address of version four fills. -/
def mappedPieces? (cs : List Char) : Option (List Nat) :=
  match (Text.split '.' cs).mapM octet? with
  | some [a, b, c, d] => some [a * 256 + b, c * 256 + d]
  | _ => none

/-- Reads pieces. Every round takes a character, so the length suffices as
fuel. -/
def readPieces : Nat → Reading → List Char → Option Reading
  | _, r, [] => some r
  | 0, _, _ => none
  | fuel + 1, r, c :: cs =>
    if r.written = 8 then none
    else if c = ':' then
      if r.gap.isSome then none else readPieces fuel { r with gap := some r.pieces.length } cs
    else
      let front := (c :: cs).take 4
      let digits := front.takeWhile fun c => (Hex.value? c).isSome
      let push := { r with pieces := r.pieces ++ [(Ipv4.valueOf? 16 digits).getD 0] }
      match (c :: cs).drop digits.length with
      | [] => some push
      | ':' :: rest => if rest.isEmpty then none else readPieces fuel push rest
      | '.' :: _ =>
        if digits.isEmpty ∨ 6 < r.written then none
        else (mappedPieces? (c :: cs)).map fun ns => { r with pieces := r.pieces ++ ns }
      | _ => none

/-- The eight numbers of what has been read. -/
def Reading.numbers (r : Reading) : List Nat :=
  match r.gap with
  | none => r.pieces
  | some place =>
    r.pieces.take place ++ List.replicate (8 - r.pieces.length) 0 ++ r.pieces.drop place

/-- The address that a text is written as. -/
def parse? (cs : List Char) : Option Ipv6 :=
  let read := match cs with
    | ':' :: ':' :: rest => readPieces cs.length ⟨[], some 0⟩ rest
    | ':' :: _ => none
    | cs => readPieces cs.length ⟨[], none⟩ cs
  read.bind fun r => ofNumbers? r.numbers

end Ipv6

end Url

end PromptTemplate
