import Xice.Ice.Types
import Xice.Stun.Agent

/-!
# Addresses in messages

The address functions of `stunmessage.c` and `stun_xor_address` of `utils.c`. A `sockaddr` is an
address of the agent; its length is that of a `sockaddr_storage`, or of a plain `sockaddr`, which
has no room for an IPv6 address.
-/

namespace Xice.Stun

open Xice.Ice (XiceAddress)
open Xice.Lib

variable (msg : StunMessage) (type : StunAttribute)

/-- `STUN_ATTRIBUTE_CHANNEL_NUMBER`. -/
def attrChannelNumber : StunAttribute := 0x000C

/-- `STUN_ATTRIBUTE_MAGIC_COOKIE`. -/
def attrMagicCookie : StunAttribute := 0x000F

/-- `STUN_ATTRIBUTE_DESTINATION_ADDRESS`. -/
def attrDestinationAddress : StunAttribute := 0x0011

/-- `STUN_ATTRIBUTE_REMOTE_ADDRESS`, `STUN_ATTRIBUTE_PEER_ADDRESS` and
`STUN_ATTRIBUTE_XOR_PEER_ADDRESS`. -/
def attrPeerAddress : StunAttribute := 0x0012

/-- `STUN_ATTRIBUTE_DATA`. -/
def attrData : StunAttribute := 0x0013

/-- `STUN_ATTRIBUTE_OPTIONS`. -/
def attrOptions : StunAttribute := 0x8001

/-- `STUN_ATTRIBUTE_MS_VERSION`. -/
def attrMsVersion : StunAttribute := 0x8008

/-- `STUN_ATTRIBUTE_MS_SEQUENCE_NUMBER`. -/
def attrMsSequenceNumber : StunAttribute := 0x8050

/-- The bytes of an IPv6 address, in network order. -/
def ip6Bytes (addr : BitVec 128) : List UInt8 :=
  (List.range 16).map fun index => UInt8.ofNat (addr.toNat / 256 ^ (15 - index))

/-- The IPv6 address whose bytes lie at an index. -/
def ip6At (buffer : Mem) (index : Nat) : BitVec 128 :=
  BitVec.ofNat 128 (((buffer.offset index).read 16).foldl (fun sum byte => sum * 256 + byte.toNat) 0)

/-- `stun_xor_address` with `STUN_MAGIC_COOKIE`; `none` for other families. -/
def StunMessage.xorAddress : XiceAddress → Option XiceAddress
  | .ip4 addr port => some (.ip4 (addr ^^^ magicCookie) (port ^^^ (magicCookie >>> 16).toUInt16))
  | .ip6 addr port scope =>
    some (.ip6 (addr ^^^ ip6At msg.buffer 4) (port ^^^ (magicCookie >>> 16).toUInt16) scope)
  | .unspec => none

/-- `stun_message_append32`. -/
def StunMessage.append32 (value : UInt32) : Option Appended := msg.appendBytes type (Mem.ofList (htonl value)) 4

/-- `stun_message_append_addr`, with the length of a `sockaddr_storage`. -/
def StunMessage.appendAddr :
    XiceAddress → Option Appended
  | .ip4 addr port => (msg.append type 8).map fun done =>
      ((done.fill 0 [0, 1]).fill 2 (htons port)).fill 4 (htonl addr)
  | .ip6 addr port _ => (msg.append type 20).map fun done =>
      ((done.fill 0 [0, 2]).fill 2 (htons port)).fill 4 (ip6Bytes addr)
  | .unspec => none

/-- `stun_message_append_xor_addr`, with the length of a `sockaddr_storage`. -/
def StunMessage.appendXorAddr (addr : XiceAddress) : Option Appended :=
  (msg.xorAddress addr).bind (msg.appendAddr type)

/-- `stun_message_append_xor_addr`, with the length of a `sockaddr`: an IPv6 address is longer, and
invalid. -/
def StunMessage.appendXorAddrShort (addr : XiceAddress) : Option Appended :=
  match addr with
  | .ip6 _ _ _ => none
  | _ => msg.appendXorAddr type addr

/-- `stun_message_find_addr` into `addrlen` bytes, with the number left there: 16 for a
`sockaddr_in` and 28 for a `sockaddr_in6`. -/
def StunMessage.findAddrInto (addrlen : Nat) :
    Reading (Except StunMessageReturn XiceAddress × Nat) := do
  match ← msg.find type with
  | none => return (.error .notFound, addrlen)
  | some found =>
    if found.len < 4 then return (.error .invalid, addrlen)
    else
      let family ← .look (found.offset + 1) 1 (msg.buffer (found.offset + 1))
      if family = 1 then
        if addrlen < 16 ∨ found.len ≠ 8 then return (.error .invalid, 16)
        else
          let addr := ntohl msg.buffer (found.offset + 4)
          .look (found.offset + 2) 6 (.ok (.ip4 addr (ntohs msg.buffer (found.offset + 2))), 16)
      else if family = 2 then
        if addrlen < 28 ∨ found.len ≠ 20 then return (.error .invalid, 28)
        else
          let addr := ip6At msg.buffer (found.offset + 4)
          .look (found.offset + 2) 18
            (.ok (.ip6 addr (ntohs msg.buffer (found.offset + 2)) 0), 28)
      else return (.error .unsupportedAddress, addrlen)

/-- `stun_message_find_addr` into the 128 bytes of a `sockaddr_storage`. -/
def StunMessage.findAddr : Reading (Option XiceAddress) := do
  return (← msg.findAddrInto type 128).1.toOption

/-- `stun_message_find_xor_addr` into a `sockaddr_storage`. -/
def StunMessage.findXorAddr :
    Reading (Option XiceAddress) := do
  match ← msg.findAddr type with
  | none => return none
  | some addr => .look 4 16 (msg.xorAddress addr)

end Xice.Stun
