import Xice.Stun.Message
import Xice.Lib.Chain

/-!
# The layout of a message

A message is a header of twenty bytes and a row of attributes. These are given twice: as a chain of
the offsets at which the code finds them, and as byte strings, the grammar of a message.
-/

namespace Xice.Stun

open Xice.Lib Mem List

/-! ## Sizes -/

variable {unaligned : Bool} {start stop : Nat} {buffer : Mem}

/-- The padding as a number. -/
theorem toNat_stunPadding (l : UInt64) : (stunPadding l).toNat = (4 - l.toNat % 4) % 4 := by
  have low : (l &&& 3).toNat = l.toNat % 4 := by
    rw [UInt64.toNat_and]
    exact Nat.and_two_pow_sub_one_eq_mod _ 2
  have rest : (4 - (l &&& 3)).toNat = 4 - l.toNat % 4 := by
    rw [UInt64.toNat_sub_of_le _ _ (UInt64.le_iff_toNat_le.mpr (by rw [low]; change _ ≤ 4; omega)),
      low]
    rfl
  rw [stunPadding, UInt64.toNat_and, rest]
  exact Nat.and_two_pow_sub_one_eq_mod _ 2

/-- Rounding up to words. -/
theorem toNat_stunAlign {l : UInt64} (small : l.toNat + 3 < 2 ^ 64) :
    (stunAlign l).toNat = (l.toNat + 3) / 4 * 4 := by
  have sum : (l + 3).toNat = l.toNat + 3 := by
    rw [UInt64.toNat_add]
    exact Nat.mod_eq_of_lt small
  have mask : (~~~3 : UInt64).toNat = (2 ^ 62 - 1) <<< 2 := by decide
  have shifted : (l.toNat + 3) / 4 * 4 = (l.toNat + 3) >>> 2 <<< 2 := by
    rw [Nat.shiftLeft_eq, Nat.shiftRight_eq_div_pow]
  rw [stunAlign, UInt64.toNat_and, sum, mask, shifted]
  apply Nat.eq_of_testBit_eq
  intro bit
  rw [Nat.testBit_and, Nat.testBit_shiftLeft, Nat.testBit_shiftLeft, Nat.testBit_shiftRight,
    Nat.testBit_two_pow_sub_one]
  by_cases low : 2 ≤ bit
  · by_cases high : bit < 64
    · simp [low, show bit - 2 < 62 by omega, show 2 + (bit - 2) = bit by omega]
    · have zero : (l.toNat + 3).testBit bit = false :=
        Nat.testBit_lt_two_pow (lt_of_lt_of_le small (Nat.pow_le_pow_right (by decide) (by omega)))
      simp [low, zero, show 2 + (bit - 2) = bit by omega]
  · simp [low]

/-- The number of bytes of padding behind a value. -/
def paddingOf (unaligned : Bool) (len : Nat) : Nat := if unaligned then 0 else (4 - len % 4) % 4

/-- The next attribute comes behind the value and its padding. -/
theorem stride_eq (unaligned : Bool) (alen : UInt16) :
    (stride unaligned alen).toNat = alen.toNat + paddingOf unaligned alen.toNat := by
  have bound := alen.toNat_lt
  cases unaligned with
  | true => simp [stride, paddingOf]
  | false =>
    have aligned := toNat_stunAlign (l := alen.toUInt64) (by rw [UInt16.toNat_toUInt64]; omega)
    rw [UInt16.toNat_toUInt64] at aligned
    simp only [stride, paddingOf, Bool.false_eq_true, if_false, aligned]
    omega

/-! ## Attributes in memory -/

/-- Where the next attribute begins. -/
def attrNext (buffer : Mem) (unaligned : Bool) (offset : Nat) : Nat :=
  offset + 4 + (stride unaligned (ntohs buffer (offset + 2))).toNat

/-- Attributes follow one another. -/
theorem attrNext_grows (buffer : Mem) (unaligned : Bool) (offset : Nat) :
    offset < attrNext buffer unaligned offset := by
  unfold attrNext
  omega

/-- The attributes of a message that ends at `stop`. -/
abbrev Laid (buffer : Mem) (unaligned : Bool) (stop : Nat) (offsets : List Nat) : Prop :=
  Chain (attrNext buffer unaligned) 20 stop offsets

/-- The size of a message, as its header gives it. -/
def StunMessage.recorded (msg : StunMessage) : Nat := (ntohs msg.buffer 2).toNat + 20

/-! ## Attributes as byte strings -/

/-- An attribute as it is written, with whatever bytes pad it. -/
structure Attribute (unaligned : Bool) where
  type : StunAttribute
  value : List UInt8
  padding : List UInt8
  /-- The value has a length of sixteen bits. -/
  fits : value.length < 2 ^ 16
  /-- The padding fills the last four bytes. -/
  padded : padding.length = paddingOf unaligned value.length

/-- The bytes of an attribute: type, length, value, padding. -/
def Attribute.bytes {unaligned : Bool} (attr : Attribute unaligned) : List UInt8 :=
  htons attr.type ++ htons (UInt16.ofNat attr.value.length) ++ attr.value ++ attr.padding

/-- Head, value and padding. -/
theorem Attribute.length_bytes (attr : Attribute unaligned) :
    attr.bytes.length = 4 + attr.value.length + paddingOf unaligned attr.value.length := by
  simp [Attribute.bytes, htons, attr.padded]
  omega

/-- The bytes of a memory from one offset up to another. -/
def slice (buffer : Mem) (start stop : Nat) : List UInt8 := (buffer.offset start).read (stop - start)

/-- The number of bytes. -/
@[simp] theorem length_slice (buffer : Mem) (start stop : Nat) :
    (slice buffer start stop).length = stop - start := by
  simp [slice]

/-- A run is cut in two. -/
theorem slice_append (buffer : Mem) {middle : Nat} (first : start ≤ middle)
    (second : middle ≤ stop) :
    slice buffer start stop = slice buffer start middle ++ slice buffer middle stop := by
  have sizes : stop - start = (middle - start) + (stop - middle) := by omega
  rw [slice, sizes, read_add]
  congr 2
  funext index
  simp only [offset_apply]
  congr 1
  omega

/-- Stored bytes are read back. -/
theorem slice_store (buffer : Mem) (start : Nat) (bytes : List UInt8) :
    slice (buffer.store start bytes) start (start + bytes.length) = bytes := by
  apply ext_getElem
  · simp
  · intro index inside _
    rw [length_slice, Nat.add_sub_cancel_left] at inside
    simp only [slice, getElem_read, offset_apply]
    exact store_inside buffer index inside

/-- The bytes decide. -/
theorem slice_congr {other : Mem}
    (same : ∀ index, start ≤ index → index < stop → buffer index = other index) :
    slice buffer start stop = slice other start stop := by
  apply read_congr
  intro index inside
  exact same (start + index) (Nat.le_add_right _ _) (by omega)

/-- Bytes that are stored elsewhere do not matter. -/
theorem slice_store_outside (buffer : Mem) {place : Nat} {bytes : List UInt8}
    (outside : stop ≤ place ∨ place + bytes.length ≤ start) :
    slice (buffer.store place bytes) start stop = slice buffer start stop := by
  apply slice_congr
  intro index from_ to_
  exact store_outside buffer (by omega)

/-- A run known as two strings is cut between them. -/
theorem slice_eq_append {left right : List UInt8} (whole : slice buffer start stop = left ++ right)
    (positive : start ≤ stop) :
    slice buffer start (start + left.length) = left ∧
      slice buffer (start + left.length) stop = right := by
  have sizes := congrArg List.length whole
  rw [length_slice, length_append] at sizes
  rw [slice_append buffer (Nat.le_add_right start left.length) (by omega)] at whole
  exact append_inj whole (by simp)

/-- A number is read from its bytes. -/
theorem ntohs_of_slice {word : UInt16} (bytes : slice buffer start (start + 2) = htons word) :
    ntohs buffer start = word := by
  have cells : [buffer start, buffer (start + 1)] = htons word := by
    rw [← bytes, slice, Nat.add_sub_cancel_left]
    rfl
  injection cells with high tail
  injection tail with low
  exact ntohs_htons high low

/-- A number is two bytes. -/
theorem slice_word (buffer : Mem) (start : Nat) :
    slice buffer start (start + 2) = htons (ntohs buffer start) := by
  have high := (buffer start).toNat_lt
  have low := (buffer (start + 1)).toNat_lt
  have cells : slice buffer start (start + 2) = [buffer start, buffer (start + 1)] := by
    rw [slice, Nat.add_sub_cancel_left]
    rfl
  rw [cells, htons]
  congr 1
  · rw [← UInt8.toNat_inj, UInt16.toNat_toUInt8, UInt16.toNat_shiftRight, toNat_ntohs]
    change _ = (256 * (buffer start).toNat + (buffer (start + 1)).toNat) >>> 8 % 2 ^ 8
    rw [Nat.shiftRight_eq_div_pow]
    omega
  · congr 1
    rw [← UInt8.toNat_inj, UInt16.toNat_toUInt8, toNat_ntohs]
    omega

/-- The attribute that lies at an offset. -/
def attributeAt (buffer : Mem) (unaligned : Bool) (offset : Nat) : Attribute unaligned where
  type := ntohs buffer offset
  value := slice buffer (offset + 4) (offset + 4 + (ntohs buffer (offset + 2)).toNat)
  padding := slice buffer (offset + 4 + (ntohs buffer (offset + 2)).toNat)
    (attrNext buffer unaligned offset)
  fits := by
    have := (ntohs buffer (offset + 2)).toNat_lt
    rw [length_slice, Nat.add_sub_cancel_left]
    exact this
  padded := by
    rw [length_slice, length_slice, Nat.add_sub_cancel_left, attrNext, stride_eq]
    omega

/-- An attribute has the bytes at its offset. -/
theorem bytes_attributeAt (buffer : Mem) (unaligned : Bool) (offset : Nat) :
    (attributeAt buffer unaligned offset).bytes =
      slice buffer offset (attrNext buffer unaligned offset) := by
  have stop : offset + 4 + (ntohs buffer (offset + 2)).toNat ≤ attrNext buffer unaligned offset := by
    rw [attrNext, stride_eq]
    omega
  rw [slice_append buffer (by omega) stop,
    slice_append buffer (show offset ≤ offset + 4 by omega) (Nat.le_add_right _ _),
    slice_append buffer (show offset ≤ offset + 2 by omega) (show offset + 2 ≤ offset + 4 by omega),
    slice_word buffer offset, show offset + 4 = offset + 2 + 2 by omega, slice_word buffer (offset + 2)]
  simp [Attribute.bytes, attributeAt]

/-- A chain has the bytes of its attributes. -/
theorem slice_chain {offsets : List Nat}
    (chain : Chain (attrNext buffer unaligned) start stop offsets) :
    slice buffer start stop =
      (offsets.map (attributeAt buffer unaligned)).flatMap Attribute.bytes := by
  induction chain with
  | nil => simp [slice, Mem.read]
  | @cons start _ _ rest ih =>
    have grows := attrNext_grows buffer unaligned
    rw [slice_append buffer (Nat.le_of_lt (grows start)) (rest.le grows), ih, map_cons,
      flatMap_cons, bytes_attributeAt]

/-- Such bytes are the attribute at their offset. -/
theorem attributeAt_of_slice {offset : Nat} {attr : Attribute unaligned}
    (bytes : slice buffer offset (offset + attr.bytes.length) = attr.bytes) :
    attrNext buffer unaligned offset = offset + attr.bytes.length ∧
      attributeAt buffer unaligned offset = attr := by
  have size := attr.length_bytes
  have fits := attr.fits
  have parts : slice buffer offset (offset + attr.bytes.length) =
      htons attr.type ++ (htons (UInt16.ofNat attr.value.length) ++ (attr.value ++ attr.padding)) := by
    rw [bytes]
    simp [Attribute.bytes]
  obtain ⟨type, parts⟩ := slice_eq_append parts (by omega)
  obtain ⟨length, parts⟩ := slice_eq_append parts (by simp [htons]; omega)
  obtain ⟨value, padding⟩ := slice_eq_append parts (by simp [htons]; omega)
  simp only [htons, length_cons, length_nil] at type length value padding
  have atype : ntohs buffer offset = attr.type := ntohs_of_slice type
  have alen : (ntohs buffer (offset + 2)).toNat = attr.value.length := by
    rw [ntohs_of_slice length, UInt16.toNat_ofNat', Nat.mod_eq_of_lt fits]
  have next : attrNext buffer unaligned offset = offset + attr.bytes.length := by
    rw [attrNext, stride_eq, alen, size]
    omega
  refine ⟨next, ?_⟩
  obtain ⟨attrType, attrValue, attrPadding, _, _⟩ := attr
  simp only [attributeAt, Attribute.mk.injEq, next, alen]
  exact ⟨atype, value, padding⟩

/-- Bytes that are known as attributes are a chain of them. -/
theorem chain_of_slice {attrs : List (Attribute unaligned)} (positive : start ≤ stop)
    (bytes : slice buffer start stop = attrs.flatMap Attribute.bytes) :
    ∃ offsets, Chain (attrNext buffer unaligned) start stop offsets ∧
      offsets.map (attributeAt buffer unaligned) = attrs := by
  induction attrs generalizing start with
  | nil =>
    have size := congrArg List.length bytes
    simp only [length_slice, flatMap_nil, length_nil] at size
    have same : start = stop := by omega
    subst same
    exact ⟨[], .nil _, rfl⟩
  | cons attr rest ih =>
    rw [flatMap_cons] at bytes
    have size := congrArg List.length bytes
    rw [length_slice, length_append] at size
    obtain ⟨first, tail⟩ := slice_eq_append bytes positive
    have more := attr.length_bytes
    obtain ⟨offsets, chain, same⟩ := ih (by omega) tail
    obtain ⟨next, found⟩ := attributeAt_of_slice first
    refine ⟨start :: offsets, .cons ?_, ?_⟩
    · rw [next]
      exact chain
    · rw [map_cons, found, same]

end Xice.Stun
