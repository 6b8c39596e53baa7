import Mathlib.Algebra.Group.Nat.Defs
import PromptTemplate.Url.Ipv6
/-!
# PromptTemplate — addresses as numbers

An address of either version is a number, and a block of addresses is a
range of numbers: `x.IsIn network length` says that an address lies among
those that begin with the first `length` bits of a network. The tests of
octets and pieces that decide which addresses belong to the machine itself,
to a private network or to a link are membership in such blocks
(`Ipv4.isPrivate_iff`, `Ipv6.isPrivate_iff`), and the addresses of version
four are mapped into version six with sixteen bits in front
(`Ipv6.mapped?_eq_some`).
-/

namespace PromptTemplate

namespace Url

namespace Ipv4

/-- The number of an address, below 2³². -/
def value (x : Ipv4) : Nat :=
  x.a.toNat * 2 ^ 24 + x.b.toNat * 2 ^ 16 + x.c.toNat * 2 ^ 8 + x.d.toNat

theorem value_lt (x : Ipv4) : x.value < 2 ^ 32 := by
  have ha := x.a.toNat_lt
  have hb := x.b.toNat_lt
  have hc := x.c.toNat_lt
  have hd := x.d.toNat_lt
  unfold value
  omega

/-- **An address lies in a block:** it begins with the first `length` bits of
a network whose other bits are zero, so that its number is in a range from
that of the network on. -/
def IsIn (x network : Ipv4) (length : Nat) : Prop :=
  network.value ≤ x.value ∧ x.value < network.value + 2 ^ (32 - length)

/-- The address of a number has it. -/
theorem value_ofNat {n : Nat} (h : n < 2 ^ 32) : (ofNat n).value = n := by
  simp only [ofNat, value, UInt8.toNat_ofNat']
  omega

/-- An address is that of its number. -/
theorem ofNat_value (x : Ipv4) : ofNat x.value = x := by
  obtain ⟨a, b, c, d⟩ := x
  have ha := a.toNat_lt
  have hb := b.toNat_lt
  have hc := c.toNat_lt
  have hd := d.toNat_lt
  simp only [ofNat, value, mk.injEq, ← UInt8.toNat_inj, UInt8.toNat_ofNat']
  omega

/-- The addresses of the machine itself: 127/8 and the number zero. -/
theorem isLoopback_iff (x : Ipv4) :
    x.isLoopback = true ↔ x.IsIn ⟨127, 0, 0, 0⟩ 8 ∨ x.value = 0 := by
  obtain ⟨a, b, c, d⟩ := x
  have hb := b.toNat_lt
  have hc := c.toNat_lt
  have hd := d.toNat_lt
  simp only [isLoopback, IsIn, value, Bool.or_eq_true, beq_iff_eq, mk.injEq, ← UInt8.toNat_inj,
    UInt8.reduceToNat]
  omega

/-- The addresses of private networks and of links: 10/8, 172.16/12,
192.168/16 and 169.254/16. -/
theorem isPrivate_iff (x : Ipv4) :
    x.isPrivate = true ↔ x.IsIn ⟨10, 0, 0, 0⟩ 8 ∨ x.IsIn ⟨172, 16, 0, 0⟩ 12 ∨
      x.IsIn ⟨192, 168, 0, 0⟩ 16 ∨ x.IsIn ⟨169, 254, 0, 0⟩ 16 := by
  obtain ⟨a, b, c, d⟩ := x
  have hb := b.toNat_lt
  have hc := c.toNat_lt
  have hd := d.toNat_lt
  simp only [isPrivate, IsIn, value, Bool.or_eq_true, Bool.and_eq_true, beq_iff_eq,
    decide_eq_true_eq, ← UInt8.toNat_inj, UInt8.le_iff_toNat_le, UInt8.lt_iff_toNat_lt,
    UInt8.reduceToNat]
  omega

end Ipv4

namespace Ipv6

/-- The number of an address, below 2¹²⁸. -/
def value (x : Ipv6) : Nat := x.numbers.foldl (fun n piece => n * 2 ^ 16 + piece) 0

/-- **An address lies in a block:** it begins with the first `length` bits of
a network of which only the first piece is not zero. -/
def IsIn (x : Ipv6) (first length : Nat) : Prop :=
  first * 2 ^ 112 ≤ x.value ∧ x.value < first * 2 ^ 112 + 2 ^ (128 - length)

/-- **An address is mapped:** its first 96 bits are those of ::ffff:0:0, and
the others an address of version four. -/
def Maps (x : Ipv6) (y : Ipv4) : Prop := x.value = 0xffff * 2 ^ 32 + y.value

/-- An address has eight pieces of sixteen bits. -/
theorem exists_numbers (x : Ipv6) : ∃ a b c d e f m n : Nat,
    x.numbers = [a, b, c, d, e, f, m, n] ∧ ∀ piece ∈ [a, b, c, d, e, f, m, n], piece < 2 ^ 16 := by
  have hlength : x.numbers.length = 8 := by simp [numbers]
  have hbound : ∀ piece ∈ x.numbers, piece < 2 ^ 16 := by
    intro piece hpiece
    obtain ⟨word, -, rfl⟩ := List.mem_map.1 hpiece
    exact word.toNat_lt
  match hx : x.numbers, hlength with
  | [a, b, c, d, e, f, m, n], _ => exact ⟨a, b, c, d, e, f, m, n, rfl, hx ▸ hbound⟩

/-- The addresses of the machine itself: :: and ::1. -/
theorem isLoopback_iff (x : Ipv6) : x.isLoopback = true ↔ x.value = 1 ∨ x.value = 0 := by
  obtain ⟨a, b, c, d, e, f, m, n, hx, hbound⟩ := x.exists_numbers
  simp only [isLoopback, value, hx, List.foldl_cons, List.foldl_nil, Bool.or_eq_true, beq_iff_eq,
    List.cons.injEq, and_true]
  omega

/-- The addresses that are local to a network, fc00::/7, or to a link,
fe80::/10. -/
theorem isPrivate_iff (x : Ipv6) : x.isPrivate = true ↔ x.IsIn 0xfc00 7 ∨ x.IsIn 0xfe80 10 := by
  obtain ⟨a, b, c, d, e, f, m, n, hx, hbound⟩ := x.exists_numbers
  simp only [List.forall_mem_cons, List.not_mem_nil, false_implies, implies_true] at hbound
  simp only [isPrivate, IsIn, value, hx, List.headD_cons, List.foldl_cons, List.foldl_nil,
    Bool.or_eq_true, beq_iff_eq]
  omega

/-- A mapped address is that of version four that it maps. -/
theorem mapped?_eq_some (x : Ipv6) (y : Ipv4) : x.mapped? = some y ↔ x.Maps y := by
  obtain ⟨a, b, c, d, e, f, m, n, hx, hbound⟩ := x.exists_numbers
  simp only [List.forall_mem_cons, List.not_mem_nil, false_implies, implies_true] at hbound
  have hvalue : x.value = ((((((a * 2 ^ 16 + b) * 2 ^ 16 + c) * 2 ^ 16 + d) * 2 ^ 16 + e) * 2 ^ 16
      + f) * 2 ^ 16 + m) * 2 ^ 16 + n := by
    simp [value, hx]
  have hy := y.value_lt
  rw [mapped?, hx, Maps]
  split
  · rename_i m' n' hpieces
    simp only [List.cons.injEq, and_true] at hpieces
    obtain ⟨rfl, rfl, rfl, rfl, rfl, rfl, rfl, rfl⟩ := hpieces
    constructor
    · intro h
      obtain rfl := Option.some.inj h
      rw [hvalue, Ipv4.value_ofNat (by omega)]
      omega
    · intro h
      have hlast : m * 0x10000 + n = y.value := by omega
      rw [hlast, Ipv4.ofNat_value]
  · rename_i hother
    refine iff_of_false (by simp) ?_
    intro h
    obtain ⟨rfl, rfl, rfl, rfl, rfl, rfl⟩ :
        a = 0 ∧ b = 0 ∧ c = 0 ∧ d = 0 ∧ e = 0 ∧ f = 0xffff := by omega
    exact hother m n rfl

end Ipv6

end Url

end PromptTemplate
