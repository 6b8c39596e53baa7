import PromptTemplate.Number.Reader
import PromptTemplate.Text.Hex
import PromptTemplate.Text.Search
/-!
# PromptTemplate — addresses of version four

An address has four octets. In a host it may be written with one to four
numbers, each decimal, octal behind a zero or hexadecimal behind `0x`; the
last number fills all octets that are left. A host whose last label is a
number is such an address or none at all.
-/

namespace PromptTemplate

namespace Url

/-- An address of version four. -/
structure Ipv4 where
  a : UInt8
  b : UInt8
  c : UInt8
  d : UInt8
deriving DecidableEq

namespace Ipv4

/-- The octets as numbers. -/
def octets (x : Ipv4) : List Nat := [x.a.toNat, x.b.toNat, x.c.toNat, x.d.toNat]

/-- The decimal text of an address. -/
def text (x : Ipv4) : String := ".".intercalate (x.octets.map Nat.repr)

/-- The address of a number below 2³². -/
def ofNat (n : Nat) : Ipv4 :=
  ⟨.ofNat (n / 0x1000000), .ofNat (n / 0x10000), .ofNat (n / 0x100), .ofNat n⟩

/-- Whether the address belongs to the machine itself: 127/8 and the
address without an interface. -/
def isLoopback (x : Ipv4) : Bool := x.a == 127 || x == ⟨0, 0, 0, 0⟩

/-- Whether the address belongs to a private network or to a link: 10/8,
172.16/12, 192.168/16 and 169.254/16. -/
def isPrivate (x : Ipv4) : Bool :=
  x.a == 10 || (x.a == 172 && 16 ≤ x.b && x.b < 32) || (x.a == 192 && x.b == 168) ||
    (x.a == 169 && x.b == 254)

/-- The value of digits to a base, if all are digits of it. -/
def valueOf? (base : Nat) (cs : List Char) : Option Nat :=
  cs.foldlM (fun n c =>
    match Hex.value? c with
    | some d => if d < base then some (n * base + d) else none
    | none => none) 0

/-- The number that a part of an address is written as; nothing behind the
mark of a base is zero. -/
def number? : List Char → Option Nat
  | [] => none
  | '0' :: 'x' :: cs => valueOf? 16 cs
  | '0' :: 'X' :: cs => valueOf? 16 cs
  | '0' :: c :: cs => valueOf? 8 (c :: cs)
  | cs => valueOf? 10 cs

/-- The parts of a host without the empty one behind a last dot. -/
def properParts (host : List Char) : List (List Char) :=
  let ps := Text.split '.' host
  if ps.getLast? = some [] ∧ 1 < ps.length then ps.dropLast else ps

/-- Whether the last part of a host is a number, so that the host can only
be an address. -/
def endsInNumber (host : List Char) : Bool :=
  match (properParts host).getLast? with
  | none => false
  | some p => (!p.isEmpty && p.all Char.isDigit) || (number? p).isSome

/-- Puts numbers together: each takes one octet and the last one all that
are left. -/
def ofNumbers? (numbers : List Nat) : Option Ipv4 :=
  match numbers.getLast? with
  | none => none
  | some last =>
    let front := numbers.dropLast
    if 4 < numbers.length ∨ front.any (255 < ·) ∨ Nat.pow 256 (4 - front.length) ≤ last then none
    else some (ofNat (front.foldl (fun n o => n * 256 + o) 0 * Nat.pow 256 (4 - front.length) + last))

/-- The address that a host is written as. -/
def parse? (host : List Char) : Option Ipv4 := ((properParts host).mapM number?).bind ofNumbers?

end Ipv4

end Url

end PromptTemplate
