import Xice.Stun.Types

/-!
# Messages

`utils.c`, `stunmessage.c`, `stuncrc32.c` and the message functions of `stun5389.c`. Functions that
look at received bytes are readings, so that where they look can be stated; those that fill a buffer
also return the runs of bytes they wrote.
-/

namespace Xice.Stun

open Xice.Lib

variable (msg : StunMessage) (type : StunAttribute) (buffer : Mem) (index : Nat)

/-! ## Words, padding and message types -/

/-- `stun_padding`. -/
def stunPadding (l : UInt64) : UInt64 := (4 - (l &&& 3)) &&& 3

/-- `stun_align`. -/
def stunAlign (l : UInt64) : UInt64 := (l + 3) &&& ~~~3

/-- `stun_getw`. -/
def stunGetw : Reading UInt16 := .look index 2 (ntohs buffer index)

/-- `stun_setw`. -/
def stunSetw (value : UInt16) : Mem := buffer.store index (htons value)

/-- `stun_set_type`. -/
def stunSetType (c : StunClass) (m : StunMethod) : Mem :=
  let high : UInt16 := (c.bits >>> 1) ||| ((m >>> 6) &&& (0x3e : UInt16))
  let low : UInt16 :=
    ((c.bits <<< 4) &&& (0x10 : UInt16)) ||| ((m <<< 1) &&& (0xe0 : UInt16)) ||| (m &&& 0x0f)
  buffer.store 0 [high.toUInt8, low.toUInt8]

/-- The Google and MSN data indication is put right. -/
def fixedType (t : UInt16) : UInt16 := if t = 0x0115 then 0x0017 else t

/-- `stun_message_get_method`. -/
def StunMessage.getMethod : Reading StunMethod := do
  let t := fixedType (← stunGetw msg.buffer 0)
  return ((t &&& 0x3e00) >>> 2) ||| ((t &&& 0x00e0) >>> 1) ||| (t &&& 0x000f)

/-- `stun_message_get_class`. -/
def StunMessage.getClass : Reading StunClass := do
  let t := fixedType (← stunGetw msg.buffer 0)
  return match decide (t &&& 0x0100 ≠ 0), decide (t &&& 0x0010 ≠ 0) with
    | false, false => .request
    | false, true => .indication
    | true, false => .response
    | true, true => .error

/-- `stun_message_id`. -/
def StunMessage.id : Reading StunTransactionId :=
  .look 4 16 (Vector.ofFn fun index => msg.buffer (4 + index))

/-- `stun_message_has_cookie`. -/
def StunMessage.hasCookie : Reading Bool := do
  return (← msg.id).toList.take 4 = htonl magicCookie

/-- `stun_message_init`: `none` when the buffer is too small for a header. -/
def StunMessage.init (c : StunClass) (m : StunMethod) (id : StunTransactionId) :
    Option StunMessage :=
  if msg.bufferLen < 20 then none
  else some { msg with
    buffer := (stunSetType (msg.buffer.store 0 [0, 0, 0, 0]) c m).store 4 id.toList }

/-- `stun_message_length`, in sixteen bits. -/
def StunMessage.length : Reading UInt16 := do
  return (← stunGetw msg.buffer 2) + 20

/-- The bytes from an attribute value to the next attribute. -/
def stride (unaligned : Bool) (alen : UInt16) : UInt64 :=
  if unaligned then alen.toUInt64 else stunAlign alen.toUInt64

/-! ## Looking for attributes -/

/-- Whether the agent of a message does not pad attributes. -/
def StunMessage.unaligned : Bool :=
  msg.agent.any fun agent => agent.usageFlags.noAlignedAttributes

/-- MS-TURN swaps REALM and NONCE. -/
def StunMessage.wireType : StunAttribute :=
  if msg.agent.any fun agent => agent.compatibility = .oc2007 then
    if type = attrRealm then attrNonce else if type = attrNonce then attrRealm else type
  else type

/-- Where the value of an attribute lies. -/
structure Found where
  offset : Nat
  len : UInt16
  deriving DecidableEq, Repr

/-- The loop of `stun_message_find`. -/
def findLoop (buffer : Mem) (unaligned : Bool) (type : StunAttribute) (length offset : Nat) :
    Reading (Option Found) :=
  if offset < length then do
    let atype ← stunGetw buffer offset
    let alen ← stunGetw buffer (offset + 2)
    if atype = type then return some ⟨offset + 4, alen⟩
    -- Only FINGERPRINT may come after MESSAGE-INTEGRITY, and nothing after FINGERPRINT.
    else if atype = attrMessageIntegrity ∧ type ≠ attrFingerprint ∨ atype = attrFingerprint then
      return none
    else findLoop buffer unaligned type length (offset + 4 + (stride unaligned alen).toNat)
  else return none
termination_by length - offset

/-- `stun_message_find`. -/
def StunMessage.find : Reading (Option Found) := do
  let length ← msg.length
  findLoop msg.buffer msg.unaligned (msg.wireType type) length.toNat 20

/-- `stun_message_has_attribute`. -/
def StunMessage.hasAttribute : Reading Bool := do
  return (← msg.find type).isSome

/-- `stun_message_find32`. -/
def StunMessage.find32 :
    Reading (Except StunMessageReturn UInt32) := do
  match ← msg.find type with
  | none => return .error .notFound
  | some found =>
    if found.len = 4 then .look found.offset 4 (.ok (ntohl msg.buffer found.offset))
    else return .error .invalid

/-- `stun_message_find_flag`. -/
def StunMessage.findFlag :
    Reading StunMessageReturn := do
  match ← msg.find type with
  | none => return .notFound
  | some found => return if found.len = 0 then .success else .invalid

/-- `stun_message_find64`. -/
def StunMessage.find64 :
    Reading (Except StunMessageReturn UInt64) := do
  match ← msg.find type with
  | none => return .error .notFound
  | some found =>
    if found.len = 8 then
      .look found.offset 8 (.ok ((ntohl msg.buffer found.offset).toUInt64 <<< 32 |||
        (ntohl msg.buffer (found.offset + 4)).toUInt64))
    else return .error .invalid

/-- `stun_message_find_string` into `buflen` bytes. -/
def StunMessage.findString (buflen : UInt64) : Reading (Except StunMessageReturn (List UInt8)) := do
  match ← msg.find type with
  | none => return .error .notFound
  | some found =>
    if found.len.toUInt64 ≥ buflen then return .error .notEnoughSpace
    else
      .look found.offset found.len.toNat
        (.ok ((msg.buffer.offset found.offset).read found.len.toNat ++ [0]))

/-- `stun_message_find_error`. -/
def StunMessage.findError : Reading (Except StunMessageReturn Nat) := do
  match ← msg.find attrErrorCode with
  | none => return .error .notFound
  | some found =>
    if found.len < 4 then return .error .invalid
    else
      let (hundreds, number) ← .look (found.offset + 2) 2
        (msg.buffer (found.offset + 2) &&& 0x7, msg.buffer (found.offset + 3))
      if hundreds < 3 ∨ hundreds > 6 ∨ number > 99 then return .error .invalid
      else return .ok (hundreds.toNat * 100 + number.toNat)

/-! ## Appending attributes -/

/-- A message after an attribute was appended. -/
structure Appended where
  ptr : Nat
  msg : StunMessage
  writes : List Span

/-- `stun_message_append`: `none` when the attribute does not fit. -/
def StunMessage.append (length : UInt64) : Option Appended :=
  let mlen := msg.length.value
  let type := msg.wireType type
  if mlen.toUInt64 + 4 + length > msg.bufferLen then none
  else
    let a := mlen.toNat
    let buffer := stunSetw msg.buffer a type
    if msg.unaligned then
      let buffer := stunSetw buffer (a + 2) length.toUInt16
      let mlen := mlen + (4 + length).toUInt16
      some {
        ptr := a + 4
        msg := { msg with buffer := stunSetw buffer 2 (mlen - 20) }
        writes := [⟨a, 2⟩, ⟨a + 2, 2⟩, ⟨2, 2⟩] }
    else
      -- Without the cookie the length is a multiple of four, for the old RFC 3489.
      let cookie := StunMessage.hasCookie { msg with buffer := buffer }
      let buffer := stunSetw buffer (a + 2)
        (if cookie.value then length else stunAlign length).toUInt16
      let padding := stunPadding length
      let buffer := buffer.store (a + 4 + length.toNat) (List.replicate padding.toNat 32)
      let mlen := mlen + padding.toUInt16
      let mlen := mlen + (4 + length).toUInt16
      some {
        ptr := a + 4
        msg := { msg with buffer := stunSetw buffer 2 (mlen - 20) }
        writes := [⟨a, 2⟩, ⟨a + 2, 2⟩, ⟨a + 4 + length.toNat, padding.toNat⟩, ⟨2, 2⟩] }

/-- Fill a part of an attribute value. -/
def Appended.fill (done : Appended) (index : Nat) (bytes : List UInt8) : Appended where
  ptr := done.ptr
  msg := { done.msg with buffer := done.msg.buffer.store (done.ptr + index) bytes }
  writes := done.writes ++ [⟨done.ptr + index, bytes.length⟩]

/-- `stun_message_append_bytes`: `none` when there is not enough space. -/
def StunMessage.appendBytes (data : Mem) (len : UInt64) : Option Appended :=
  match msg.append type len with
  | none => none
  | some done => some (done.fill 0 (data.read len.toNat))

/-- `stun_message_append_error`. -/
def StunMessage.appendError (error : StunError) : Option Appended :=
  let phrase := (stunStrerror error).toUTF8.toList
  match msg.append attrErrorCode (UInt64.ofNat (4 + phrase.length)) with
  | none => none
  | some done =>
    some ((done.fill 0 [0, 0, UInt8.ofNat (error.code / 100), UInt8.ofNat (error.code % 100)]).fill
      4 phrase)

/-- `utf8_skip_data`. -/
def utf8Skip (byte : UInt8) : Nat :=
  if byte < 0xC0 then 1
  else if byte < 0xE0 then 2
  else if byte < 0xF0 then 3
  else if byte < 0xF8 then 4
  else if byte < 0xFC then 5
  else if byte < 0xFE then 6
  else 1

/-- The places looked at: the byte is tested before the count of characters. -/
def softwareReads (software : Mem) : (left : Nat) → (ptr : Nat) → List Nat
  | 0, ptr => [ptr]
  | left + 1, ptr =>
    ptr :: if software ptr ≠ 0 then softwareReads software left (ptr + utf8Skip (software ptr)) else []

/-- The place where the loop stops. -/
def softwareEnd (software : Mem) (left ptr : Nat) : Nat :=
  (softwareReads software left ptr).getLastD ptr

/-- A turn of the loop. -/
theorem softwareEnd_succ (software : Mem) (left ptr : Nat) :
    softwareEnd software (left + 1) ptr =
      if software ptr ≠ 0 then softwareEnd software left (ptr + utf8Skip (software ptr)) else ptr := by
  have looks : ∀ other place, (softwareReads software left place).getLastD other =
      (softwareReads software left place).getLastD place := by
    intro other place
    cases left <;> rw [softwareReads, List.getLastD_cons, List.getLastD_cons]
  rw [softwareEnd, softwareReads, List.getLastD_cons]
  split
  · exact looks _ _
  · rfl

/-- `PACKAGE_STRING`. -/
def packageString : Mem := Mem.ofList "libxice 0.1.4".toUTF8.toList

/-- `stun_message_append_software`. -/
def StunMessage.appendSoftware (software : Option Mem) : Option Appended :=
  let software := software.getD packageString
  msg.appendBytes attrSoftware software (UInt64.ofNat (softwareEnd software 128 0))

/-! ## The size of a message -/

/-- `STUN_MESSAGE_BUFFER_INVALID`. -/
def bufferInvalid : Int := -1

/-- `STUN_MESSAGE_BUFFER_INCOMPLETE`. -/
def bufferIncomplete : Int := 0

/-- The attributes fill the message. The count of bytes is unsigned. A walk of so many attributes
has left the message. -/
def validateLoop (msg : Mem) (hasPadding : Bool) :
    (fuel : Nat) → (offset : Nat) → (len : UInt64) → Reading (Option Bool)
  | 0, _, _ => return none
  | fuel + 1, offset, len =>
    if len > 0 then do
      let alen := stride (!hasPadding) (← stunGetw msg (offset + 2))
      let len := len - 4
      if len < alen then return some false
      else validateLoop msg hasPadding fuel (offset + 4 + alen.toNat) (len - alen)
    else return some true

/-- `stun_message_validate_buffer_length`: `none` when it does not return. There is room for 16383
attributes. -/
def validateBufferLength (msg : Mem) (length : UInt64) (hasPadding : Bool) :
    Reading (Option Int) := do
  if length < 1 then return some bufferInvalid
  else if (← .look 0 1 (msg 0)) >>> 6 ≠ 0 then return some bufferInvalid
  else if length < 4 then return some bufferIncomplete
  else
    let mlen := (← stunGetw msg 2).toUInt64 + 20
    if hasPadding ∧ stunPadding mlen ≠ 0 then return some bufferInvalid
    else if length < mlen then return some bufferIncomplete
    else
      match ← validateLoop msg hasPadding 16385 20 (mlen - 20) with
      | none => return none
      | some false => return some bufferInvalid
      | some true => return some mlen.toNat

/-! ## Fingerprints -/

/-- `crc32_tab`. -/
def crc32Tab : List UInt32 :=
  [
    0x00000000, 0x77073096, 0xee0e612c, 0x990951ba, 0x076dc419, 0x706af48f, 0xe963a535, 0x9e6495a3,
    0x0edb8832, 0x79dcb8a4, 0xe0d5e91e, 0x97d2d988, 0x09b64c2b, 0x7eb17cbd, 0xe7b82d07, 0x90bf1d91,
    0x1db71064, 0x6ab020f2, 0xf3b97148, 0x84be41de, 0x1adad47d, 0x6ddde4eb, 0xf4d4b551, 0x83d385c7,
    0x136c9856, 0x646ba8c0, 0xfd62f97a, 0x8a65c9ec, 0x14015c4f, 0x63066cd9, 0xfa0f3d63, 0x8d080df5,
    0x3b6e20c8, 0x4c69105e, 0xd56041e4, 0xa2677172, 0x3c03e4d1, 0x4b04d447, 0xd20d85fd, 0xa50ab56b,
    0x35b5a8fa, 0x42b2986c, 0xdbbbc9d6, 0xacbcf940, 0x32d86ce3, 0x45df5c75, 0xdcd60dcf, 0xabd13d59,
    0x26d930ac, 0x51de003a, 0xc8d75180, 0xbfd06116, 0x21b4f4b5, 0x56b3c423, 0xcfba9599, 0xb8bda50f,
    0x2802b89e, 0x5f058808, 0xc60cd9b2, 0xb10be924, 0x2f6f7c87, 0x58684c11, 0xc1611dab, 0xb6662d3d,
    0x76dc4190, 0x01db7106, 0x98d220bc, 0xefd5102a, 0x71b18589, 0x06b6b51f, 0x9fbfe4a5, 0xe8b8d433,
    0x7807c9a2, 0x0f00f934, 0x9609a88e, 0xe10e9818, 0x7f6a0dbb, 0x086d3d2d, 0x91646c97, 0xe6635c01,
    0x6b6b51f4, 0x1c6c6162, 0x856530d8, 0xf262004e, 0x6c0695ed, 0x1b01a57b, 0x8208f4c1, 0xf50fc457,
    0x65b0d9c6, 0x12b7e950, 0x8bbeb8ea, 0xfcb9887c, 0x62dd1ddf, 0x15da2d49, 0x8cd37cf3, 0xfbd44c65,
    0x4db26158, 0x3ab551ce, 0xa3bc0074, 0xd4bb30e2, 0x4adfa541, 0x3dd895d7, 0xa4d1c46d, 0xd3d6f4fb,
    0x4369e96a, 0x346ed9fc, 0xad678846, 0xda60b8d0, 0x44042d73, 0x33031de5, 0xaa0a4c5f, 0xdd0d7cc9,
    0x5005713c, 0x270241aa, 0xbe0b1010, 0xc90c2086, 0x5768b525, 0x206f85b3, 0xb966d409, 0xce61e49f,
    0x5edef90e, 0x29d9c998, 0xb0d09822, 0xc7d7a8b4, 0x59b33d17, 0x2eb40d81, 0xb7bd5c3b, 0xc0ba6cad,
    0xedb88320, 0x9abfb3b6, 0x03b6e20c, 0x74b1d29a, 0xead54739, 0x9dd277af, 0x04db2615, 0x73dc1683,
    0xe3630b12, 0x94643b84, 0x0d6d6a3e, 0x7a6a5aa8, 0xe40ecf0b, 0x9309ff9d, 0x0a00ae27, 0x7d079eb1,
    0xf00f9344, 0x8708a3d2, 0x1e01f268, 0x6906c2fe, 0xf762575d, 0x806567cb, 0x196c3671, 0x6e6b06e7,
    0xfed41b76, 0x89d32be0, 0x10da7a5a, 0x67dd4acc, 0xf9b9df6f, 0x8ebeeff9, 0x17b7be43, 0x60b08ed5,
    0xd6d6a3e8, 0xa1d1937e, 0x38d8c2c4, 0x4fdff252, 0xd1bb67f1, 0xa6bc5767, 0x3fb506dd, 0x48b2364b,
    0xd80d2bda, 0xaf0a1b4c, 0x36034af6, 0x41047a60, 0xdf60efc3, 0xa867df55, 0x316e8eef, 0x4669be79,
    0xcb61b38c, 0xbc66831a, 0x256fd2a0, 0x5268e236, 0xcc0c7795, 0xbb0b4703, 0x220216b9, 0x5505262f,
    0xc5ba3bbe, 0xb2bd0b28, 0x2bb45a92, 0x5cb36a04, 0xc2d7ffa7, 0xb5d0cf31, 0x2cd99e8b, 0x5bdeae1d,
    0x9b64c2b0, 0xec63f226, 0x756aa39c, 0x026d930a, 0x9c0906a9, 0xeb0e363f, 0x72076785, 0x05005713,
    0x95bf4a82, 0xe2b87a14, 0x7bb12bae, 0x0cb61b38, 0x92d28e9b, 0xe5d5be0d, 0x7cdcefb7, 0x0bdbdf21,
    0x86d3d2d4, 0xf1d4e242, 0x68ddb3f8, 0x1fda836e, 0x81be16cd, 0xf6b9265b, 0x6fb077e1, 0x18b74777,
    0x88085ae6, 0xff0f6a70, 0x66063bca, 0x11010b5c, 0x8f659eff, 0xf862ae69, 0x616bffd3, 0x166ccf45,
    0xa00ae278, 0xd70dd2ee, 0x4e048354, 0x3903b3c2, 0xa7672661, 0xd06016f7, 0x4969474d, 0x3e6e77db,
    0xaed16a4a, 0xd9d65adc, 0x40df0b66, 0x37d83bf0, 0xa9bcae53, 0xdebb9ec5, 0x47b2cf7f, 0x30b5ffe9,
    0xbdbdf21c, 0xcabac28a, 0x53b39330, 0x24b4a3a6, 0xbad03605, 0xcdd70693, 0x54de5729, 0x23d967bf,
    0xb3667a2e, 0xc4614ab8, 0x5d681b02, 0x2a6f2b94, 0xb40bbe37, 0xc30c8ea1, 0x5a05df1b, 0x2d02ef8d]

/-- `stun_crc32` of all parts, with the entry that WLM2009 has wrong. -/
def stunCrc32 (data : List UInt8) (wlm2009StupidCrc32Typo : Bool) : UInt32 :=
  let step (crc : UInt32) (byte : UInt8) : UInt32 :=
    let lkp := crc32Tab.getD ((crc ^^^ byte.toUInt32) &&& 0xFF).toNat 0
    let lkp := if lkp = 0x8bbeb8ea ∧ wlm2009StupidCrc32Typo then 0x8bbe8ea else lkp
    lkp ^^^ (crc >>> 8)
  data.foldl step 0xffffffff ^^^ 0xffffffff

/-- `stun_fingerprint`, as the bytes it leaves in memory. -/
def stunFingerprint (msg : Mem) (len : UInt64) (wlm2009StupidCrc32Typo : Bool) :
    Reading (List UInt8) := do
  let type ← .look 0 2 (msg.read 2)
  let rest ← .look 4 (len - 12).toNat ((msg.offset 4).read (len - 12).toNat)
  return htonl (stunCrc32 (type ++ htons (len - 20).toUInt16 ++ rest) wlm2009StupidCrc32Typo ^^^
    0x5354554e)

end Xice.Stun
