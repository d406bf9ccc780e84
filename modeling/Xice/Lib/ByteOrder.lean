import Xice.Lib.Memory
import Xice.Lib.Word

/-!
# Network byte order

`htonl`, `htons`, `ntohl` and `ntohs` between words and the bytes they stand for in memory.
-/

namespace Xice.Lib

/-- `htonl`, as the bytes it leaves in memory. -/
def htonl (word : UInt32) : List UInt8 :=
  [(word >>> 24).toUInt8, (word >>> 16).toUInt8, (word >>> 8).toUInt8, word.toUInt8]

/-- `htons`, as the bytes it leaves in memory. -/
def htons (word : UInt16) : List UInt8 := [(word >>> 8).toUInt8, word.toUInt8]

/-- `ntohl` of the four bytes at an index. -/
def ntohl (buffer : Mem) (index : Nat) : UInt32 :=
  ((buffer index).toUInt32 <<< 24) ||| ((buffer (index + 1)).toUInt32 <<< 16) |||
    ((buffer (index + 2)).toUInt32 <<< 8) ||| (buffer (index + 3)).toUInt32

/-- `ntohs` of the two bytes at an index. -/
def ntohs (buffer : Mem) (index : Nat) : UInt16 :=
  ((buffer index).toUInt16 <<< 8) ||| (buffer (index + 1)).toUInt16

variable (buffer : Mem) (index : Nat)

/-- Two bytes decide a 16-bit number. -/
theorem ntohs_congr {buffer other : Mem} {index : Nat} (high : buffer index = other index)
    (low : buffer (index + 1) = other (index + 1)) : ntohs buffer index = ntohs other index := by
  rw [ntohs, ntohs, high, low]

/-- The number is big-endian. -/
theorem toNat_ntohs :
    (ntohs buffer index).toNat = 256 * (buffer index).toNat + (buffer (index + 1)).toNat := by
  have high := (buffer index).toNat_lt
  have low := (buffer (index + 1)).toNat_lt
  have shifted : ((buffer index).toUInt16 <<< 8).toNat = (buffer index).toNat <<< 8 := by
    rw [UInt16.toNat_shiftLeft, UInt8.toNat_toUInt16, Nat.mod_eq_of_lt]
    · rfl
    · change (buffer index).toNat <<< 8 < _
      rw [Nat.shiftLeft_eq]
      omega
  rw [ntohs, UInt16.toNat_or, shifted, UInt8.toNat_toUInt16,
    ← Nat.shiftLeft_add_eq_or_of_lt low, Nat.shiftLeft_eq]
  omega

/-- Its low byte comes second. -/
theorem ntohs_low : buffer (index + 1) = (ntohs buffer index).toUInt8 := by
  have low := (buffer (index + 1)).toNat_lt
  rw [← UInt8.toNat_inj, UInt16.toNat_toUInt8, toNat_ntohs]
  omega

/-- A 16-bit word read back from the bytes it was written to. -/
theorem ntohs_htons {buffer : Mem} {index : Nat} {word : UInt16}
    (high : buffer index = (word >>> 8).toUInt8) (low : buffer (index + 1) = word.toUInt8) :
    ntohs buffer index = word := by
  have bound := word.toNat_lt
  rw [← UInt16.toNat_inj, toNat_ntohs, high, low, UInt16.toNat_toUInt8, UInt16.toNat_toUInt8,
    UInt16.toNat_shiftRight]
  change 256 * (word.toNat >>> 8 % 2 ^ 8) + word.toNat % 2 ^ 8 = word.toNat
  rw [Nat.shiftRight_eq_div_pow]
  omega

/-- A number of 32 bits is big-endian. -/
theorem toNat_ntohl :
    (ntohl buffer index).toNat = 2 ^ 24 * (buffer index).toNat + 2 ^ 16 * (buffer (index + 1)).toNat +
      2 ^ 8 * (buffer (index + 2)).toNat + (buffer (index + 3)).toNat := by
  have first := (buffer index).toNat_lt
  have second := (buffer (index + 1)).toNat_lt
  have third := (buffer (index + 2)).toNat_lt
  have fourth := (buffer (index + 3)).toNat_lt
  have shifted (byte : UInt8) : (byte.toUInt32 <<< 24).toNat = byte.toNat * 2 ^ 24 ∧
      (byte.toUInt32 <<< 16).toNat = byte.toNat * 2 ^ 16 ∧
      (byte.toUInt32 <<< 8).toNat = byte.toNat * 2 ^ 8 := by
    have bound := byte.toNat_lt
    simp [UInt32.toNat_shiftLeft, Nat.shiftLeft_eq]
    omega
  rw [ntohl, UInt32.toNat_or, UInt32.toNat_or, UInt32.toNat_or, (shifted _).1, (shifted _).2.1,
    (shifted _).2.2, UInt8.toNat_toUInt32, Nat.or_assoc, Nat.or_assoc, Word.or_low 8 (by omega),
    Word.or_low 16 (by omega), Word.or_low 24 (by omega)]
  omega

/-- The bytes of a 32-bit word that was read from memory. -/
theorem htonl_ntohl : htonl (ntohl buffer index) = (buffer.offset index).read 4 := by
  have first := (buffer index).toNat_lt
  have second := (buffer (index + 1)).toNat_lt
  have third := (buffer (index + 2)).toNat_lt
  have fourth := (buffer (index + 3)).toNat_lt
  have number := toNat_ntohl buffer index
  have byte (count : UInt32) {cell : UInt8} (small : count.toNat < 32)
      (same : (ntohl buffer index).toNat / 2 ^ count.toNat % 2 ^ 8 = cell.toNat) :
      (ntohl buffer index >>> count).toUInt8 = cell := by
    have amount : count.toNat % 32 = count.toNat := Nat.mod_eq_of_lt small
    rwa [← UInt8.toNat_inj, UInt32.toNat_toUInt8, UInt32.toNat_shiftRight, amount,
      Nat.shiftRight_eq_div_pow]
  have high : (ntohl buffer index >>> 24).toUInt8 = buffer index := by
    apply byte 24 (by decide)
    change _ / 2 ^ 24 % _ = _
    omega
  have next : (ntohl buffer index >>> 16).toUInt8 = buffer (index + 1) := by
    apply byte 16 (by decide)
    change _ / 2 ^ 16 % _ = _
    omega
  have low : (ntohl buffer index >>> 8).toUInt8 = buffer (index + 2) := by
    apply byte 8 (by decide)
    change _ / 2 ^ 8 % _ = _
    omega
  have last : (ntohl buffer index).toUInt8 = buffer (index + 3) := by
    rw [← UInt8.toNat_inj, UInt32.toNat_toUInt8]
    omega
  have cells : (buffer.offset index).read 4 =
      [buffer index, buffer (index + 1), buffer (index + 2), buffer (index + 3)] := rfl
  rw [cells, htonl, high, next, low, last]

end Xice.Lib
