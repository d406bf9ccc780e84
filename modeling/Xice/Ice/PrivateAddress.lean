import Xice.Stun.Address

/-!
# Private addresses

`xice_address_is_private` against the networks that its comments name. The mask for `fe80::/10`
leaves two bits that the expected value does not have, so that no link-local address is found.
-/

namespace Xice.Ice

open Xice.Lib Xice.Stun

/-- `ipv4_address_is_private`, after `ntohl`. -/
def ipv4AddressIsPrivate (addr : UInt32) : Bool :=
  addr &&& 0xff000000 = 0x0a000000 || addr &&& 0xfff00000 = 0xac100000 ||
    addr &&& 0xffff0000 = 0xc0a80000 || addr &&& 0xff000000 = 0x7f000000

/-- `ipv6_address_is_private`. -/
def ipv6AddressIsPrivate (addr : Mem) : Bool :=
  (addr 0 = 0xfe && addr 1 &&& 0xc = 0x80) || addr 0 &&& 0xfe = 0xfc ||
    addr.read 16 = List.replicate 15 0 ++ [1]

/-- `xice_address_is_private`. -/
def XiceAddress.isPrivate : XiceAddress → Bool
  | .ip4 addr _ => ipv4AddressIsPrivate addr
  | .ip6 addr _ _ => ipv6AddressIsPrivate (Mem.ofList (ip6Bytes addr))
  | .unspec => false

/-- The first `length` bits of an address are those of a network. -/
def InNetwork {width : Nat} (addr network : BitVec width) (length : Nat) : Prop :=
  addr.toNat / 2 ^ (width - length) = network.toNat / 2 ^ (width - length)

instance {width : Nat} (addr network : BitVec width) (length : Nat) :
    Decidable (InNetwork addr network length) := inferInstanceAs (Decidable (_ = _))

/-- An address of `fe80::/10`. -/
def XiceAddress.LinkLocal : XiceAddress → Prop
  | .ip6 addr _ _ => InNetwork addr (0xfe80#128 <<< 112) 10
  | _ => False

/-- An address of a network that is not routed on the Internet. -/
def XiceAddress.Private : XiceAddress → Prop
  | .ip4 addr _ => InNetwork addr.toBitVec 0x0a000000 8 ∨ InNetwork addr.toBitVec 0xac100000 12 ∨
      InNetwork addr.toBitVec 0xc0a80000 16 ∨ InNetwork addr.toBitVec 0x7f000000 8
  | .ip6 addr _ _ => InNetwork addr (0xfe80#128 <<< 112) 10 ∨ InNetwork addr (0xfc00#128 <<< 112) 7 ∨
      addr = 1
  | .unspec => False

/-- A mask of high bits, compared with a number that has no others. -/
theorem masked_iff (addr network : UInt32) (shift : Nat) (mask : UInt32)
    (high : mask.toNat = (2 ^ (32 - shift) - 1) <<< shift) :
    addr &&& mask = network ↔
      addr.toNat / 2 ^ shift % 2 ^ (32 - shift) * 2 ^ shift = network.toNat := by
  rw [← UInt32.toNat_inj, UInt32.toNat_and, high, Word.and_mask]

/-- IPv4 addresses are classified as the networks are. -/
theorem ipv4_iff (addr : UInt32) (port : UInt16) :
    (XiceAddress.ip4 addr port).isPrivate = true ↔ (XiceAddress.ip4 addr port).Private := by
  have bound := addr.toNat_lt
  simp only [XiceAddress.isPrivate, ipv4AddressIsPrivate, Bool.or_eq_true, decide_eq_true_eq,
    masked_iff addr _ 24 0xff000000 rfl, masked_iff addr _ 20 0xfff00000 rfl,
    masked_iff addr _ 16 0xffff0000 rfl, XiceAddress.Private, InNetwork, UInt32.reduceToNat,
    UInt32.toNat_toBitVec, BitVec.ofNat_eq_ofNat, BitVec.toNat_ofNat]
  omega

/-- An address is known from its bytes. -/
theorem ip6Bytes_injective {addr other : BitVec 128} (same : ip6Bytes addr = ip6Bytes other) :
    addr = other := by
  apply BitVec.eq_of_getLsbD_eq
  intro bit inside
  -- The bit is one of the byte that it lies in.
  have byte (addr : BitVec 128) : (addr.toNat / 256 ^ (bit / 8) % 2 ^ 8).testBit (bit % 8) =
      addr.getLsbD bit := by
    rw [show 256 = 2 ^ 8 from rfl, ← Nat.pow_mul, Nat.testBit_mod_two_pow, Nat.testBit_div_two_pow,
      decide_eq_true (Nat.mod_lt _ (by decide)), Bool.true_and, Nat.mod_add_div]
    rfl
  have read := List.map_inj_left.mp same (15 - bit / 8) (List.mem_range.mpr (by omega))
  have place : 15 - (15 - bit / 8) = bit / 8 := by omega
  rw [← UInt8.toNat_inj, UInt8.toNat_ofNat', UInt8.toNat_ofNat', place] at read
  rw [← byte addr, ← byte other, read]

/-- The sixteen bytes of `::1`. -/
theorem read_ip6Bytes (addr : BitVec 128) :
    (Mem.ofList (ip6Bytes addr)).read 16 = List.replicate 15 0 ++ [1] ↔ addr = 1 := by
  rw [Mem.read_ofList (by simp [ip6Bytes]), List.take_of_length_le (by simp [ip6Bytes])]
  have loopback : List.replicate 15 0 ++ [1] = ip6Bytes 1 := by decide
  rw [loopback]
  exact ⟨ip6Bytes_injective, congrArg ip6Bytes⟩

/-- The first byte decides `fc00::/7`, the others `::1`. -/
theorem ipv6_iff (addr : BitVec 128) (port : UInt16) (scope : UInt32) :
    (XiceAddress.ip6 addr port scope).isPrivate = true ↔
      InNetwork addr (0xfc00#128 <<< 112) 7 ∨ addr = 1 := by
  have bound := addr.isLt
  have never (byte : UInt8) : byte &&& 0xc ≠ 0x80 := by
    intro same
    have most := Nat.and_le_right (n := byte.toNat) (m := 0xc)
    have same := congrArg UInt8.toNat same
    rw [UInt8.toNat_and] at same
    change byte.toNat &&& 0xc = 0x80 at same
    omega
  have first : (Mem.ofList (ip6Bytes addr) 0).toNat = addr.toNat / 2 ^ 120 := by
    change addr.toNat / 256 ^ 15 % 2 ^ 8 = _
    omega
  have top : Mem.ofList (ip6Bytes addr) 0 &&& 0xfe = 0xfc ↔ addr.toNat / 2 ^ 121 = 126 := by
    rw [← UInt8.toNat_inj, UInt8.toNat_and, first]
    have mask : addr.toNat / 2 ^ 120 &&& 0xfe = _ := Word.and_mask (addr.toNat / 2 ^ 120) 7 1
    change addr.toNat / 2 ^ 120 &&& 0xfe = 0xfc ↔ _
    rw [mask]
    omega
  simp only [XiceAddress.isPrivate, ipv6AddressIsPrivate, never, top, read_ip6Bytes, InNetwork,
    decide_false, Bool.and_false, Bool.false_or, Bool.or_eq_true, decide_eq_true_eq]
  rfl

/-- The classification is right exactly for addresses that are not link-local. -/
theorem isPrivate_agrees_iff (address : XiceAddress) :
    (address.isPrivate = true ↔ address.Private) ↔ ¬address.LinkLocal := by
  cases address with
  | unspec => simp [XiceAddress.isPrivate, XiceAddress.Private, XiceAddress.LinkLocal]
  | ip4 addr port => simp [ipv4_iff, XiceAddress.LinkLocal]
  | ip6 addr port scope =>
    rw [ipv6_iff]
    have apart : InNetwork addr (0xfe80#128 <<< 112) 10 →
        ¬(InNetwork addr (0xfc00#128 <<< 112) 7 ∨ addr = 1) := by
      rintro here (there | rfl)
      · change addr.toNat / 2 ^ 118 = 0x3fa at here
        change addr.toNat / 2 ^ 121 = 126 at there
        omega
      · exact absurd here (by decide)
    simp only [XiceAddress.Private, XiceAddress.LinkLocal]
    tauto

/-- `fe80::1` is not found to be private. -/
theorem linkLocal_missed : (XiceAddress.ip6 (0xfe80#128 <<< 112 + 1) 0 0).isPrivate = false ∧
    (XiceAddress.ip6 (0xfe80#128 <<< 112 + 1) 0 0).Private :=
  ⟨by decide +kernel, .inl (by decide +kernel)⟩

end Xice.Ice
