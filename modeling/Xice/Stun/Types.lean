import Xice.Lib.ByteOrder
import Xice.Lib.Reading

/-!
# STUN messages and agents

The records of `stunmessage.h` and `stunagent.h`. A message is a view of a buffer: a total memory
from the pointer on, and the number of bytes that belong to it. A `size_t` is a `UInt64`, offsets
into the buffer are natural numbers, and a key is a byte string, or `none` for a null pointer.
-/

namespace Xice.Stun

open Xice.Lib

/-- `StunClass`. -/
inductive StunClass where
  | request
  | indication
  | response
  | error
  deriving DecidableEq, Repr

/-- The bits of a message class. -/
def StunClass.bits : StunClass → UInt16
  | .request => 0
  | .indication => 1
  | .response => 2
  | .error => 3

/-- `StunMethod`: a method number of twelve bits. -/
abbrev StunMethod := UInt16

/-- `StunAttribute`: an attribute type as it is written. -/
abbrev StunAttribute := UInt16

/-- `STUN_ATTRIBUTE_USERNAME`. -/
def attrUsername : StunAttribute := 0x0006

/-- `STUN_ATTRIBUTE_MESSAGE_INTEGRITY`. -/
def attrMessageIntegrity : StunAttribute := 0x0008

/-- `STUN_ATTRIBUTE_ERROR_CODE`. -/
def attrErrorCode : StunAttribute := 0x0009

/-- `STUN_ATTRIBUTE_UNKNOWN_ATTRIBUTES`. -/
def attrUnknownAttributes : StunAttribute := 0x000A

/-- `STUN_ATTRIBUTE_REALM`. -/
def attrRealm : StunAttribute := 0x0014

/-- `STUN_ATTRIBUTE_NONCE`. -/
def attrNonce : StunAttribute := 0x0015

/-- `STUN_ATTRIBUTE_SOFTWARE`. -/
def attrSoftware : StunAttribute := 0x8022

/-- `STUN_ATTRIBUTE_FINGERPRINT`. -/
def attrFingerprint : StunAttribute := 0x8028

/-- `STUN_MAGIC_COOKIE`. -/
def magicCookie : UInt32 := 0x2112A442

/-- `StunTransactionId`. -/
abbrev StunTransactionId := Vector UInt8 16

/-- `StunError`. -/
inductive StunError where
  | tryAlternate
  | badRequest
  | unauthorized
  | unknownAttribute
  | allocationMismatch
  | staleNonce
  | actDstAlready
  | unsupportedFamily
  | wrongCredentials
  | unsupportedTransport
  | invalidIp
  | invalidPort
  | opTcpOnly
  | connAlready
  | allocationQuotaReached
  | roleConflict
  | serverError
  | serverCapacity
  | insufficientCapacity
  deriving DecidableEq, Repr

/-- The number of an error. -/
def StunError.code : StunError → Nat
  | .tryAlternate => 300
  | .badRequest => 400
  | .unauthorized => 401
  | .unknownAttribute => 420
  | .allocationMismatch => 437
  | .staleNonce => 438
  | .actDstAlready => 439
  | .unsupportedFamily => 440
  | .wrongCredentials => 441
  | .unsupportedTransport => 442
  | .invalidIp => 443
  | .invalidPort => 444
  | .opTcpOnly => 445
  | .connAlready => 446
  | .allocationQuotaReached => 486
  | .roleConflict => 487
  | .serverError => 500
  | .serverCapacity => 507
  | .insufficientCapacity => 508

/-- `stun_strerror`. -/
def stunStrerror : StunError → String
  | .tryAlternate => "Try alternate server"
  | .badRequest => "Bad request"
  | .unauthorized => "Unauthorized"
  | .unknownAttribute => "Unknown Attribute"
  | .allocationMismatch => "Allocation Mismatch"
  | .staleNonce => "Stale Nonce"
  | .actDstAlready => "Active Destination Already Set"
  | .unsupportedFamily => "Address Family not Supported"
  | .wrongCredentials => "Unknown error"
  | .unsupportedTransport => "Unsupported Transport Protocol"
  | .invalidIp => "Invalid IP Address"
  | .invalidPort => "Invalid Port"
  | .opTcpOnly => "Operation for TCP Only"
  | .connAlready => "Connection Already Exists"
  | .allocationQuotaReached => "Allocation Quota Reached"
  | .roleConflict => "Role conflict"
  | .serverError => "Server Error"
  | .serverCapacity => "Insufficient Capacity"
  | .insufficientCapacity => "Insufficient Capacity"

/-- `StunMessageReturn`, for the functions that return a value on success. -/
inductive StunMessageReturn where
  | success
  | notFound
  | invalid
  | notEnoughSpace
  | unsupportedAddress
  deriving DecidableEq, Repr

/-- `StunCompatibility`. -/
inductive StunCompatibility where
  | rfc3489
  | rfc5389
  | wlm2009
  | oc2007
  deriving DecidableEq, Repr

/-- `StunAgentUsageFlags`, one field for each bit. -/
structure StunAgentUsageFlags where
  shortTermCredentials : Bool := false
  longTermCredentials : Bool := false
  useFingerprint : Bool := false
  addSoftware : Bool := false
  ignoreCredentials : Bool := false
  noIndicationAuth : Bool := false
  forceValidater : Bool := false
  noAlignedAttributes : Bool := false
  deriving DecidableEq, Repr

/-- `StunValidationStatus`. -/
inductive StunValidationStatus where
  | success
  | notStun
  | incompleteStun
  | badRequest
  | unauthorizedBadRequest
  | unauthorized
  | unmatchedResponse
  | unknownRequestAttribute
  | unknownAttribute
  deriving DecidableEq, Repr

/-- What `stun_agent_init` fixes and messages read through their agent. -/
structure StunDialect where
  compatibility : StunCompatibility
  usageFlags : StunAgentUsageFlags
  deriving DecidableEq, Repr

/-- The two modes with a magic cookie. -/
def StunDialect.modern (d : StunDialect) : Bool :=
  d.compatibility = .rfc5389 || d.compatibility = .wlm2009

/-- `struct _StunMessage`. -/
structure StunMessage where
  agent : Option StunDialect
  buffer : Mem
  bufferLen : UInt64
  key : Option (List UInt8)
  /-- The key made of the long-term credentials. -/
  longTermKey : Vector UInt8 16
  /-- Whether `longTermKey` was computed. -/
  longTermValid : Bool

/-- `StunAgentSavedIds`. -/
structure StunAgentSavedIds where
  id : StunTransactionId
  method : StunMethod
  key : Option (List UInt8)
  /-- The key made of the long-term credentials. -/
  longTermKey : Vector UInt8 16
  /-- Whether `longTermKey` was computed. -/
  longTermValid : Bool
  valid : Bool
  deriving DecidableEq, Repr

/-- `struct stun_agent_t`. `STUN_AGENT_MAX_SAVED_IDS` is 200. -/
structure StunAgent extends StunDialect where
  /-- The transactions that wait for an answer. -/
  sentIds : Vector StunAgentSavedIds 200
  /-- `known_attributes`, an array that ends at its first zero. -/
  knownAttributes : List UInt16
  /-- `software_attribute`, a string that ends at its first zero. -/
  softwareAttribute : Option Mem

/-- HMAC-SHA1 and the hash of the credentials are functions of their byte strings. -/
structure Platform where
  hmacSha1 : (key data : List UInt8) → Vector UInt8 20
  hashCreds : (realm username password : List UInt8) → Vector UInt8 16
  /-- What a local array holds before it is written. -/
  uninitialised : Vector UInt8 16

end Xice.Stun
