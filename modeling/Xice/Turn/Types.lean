import Xice.Socket.Wrapper
import Xice.Stun.Address
import Xice.Stun.Append
import Xice.Stun.Timer
import Xice.Stun.Validation

/-!
# The TURN socket

The records of `turn.c`. Objects that the source compares by their pointers have names, which are
never given out again. The clock counts microseconds, and stands still while one event is handled.
Datagrams, calls of the upper layer and what becomes of bindings are logged with the time.
-/

namespace Xice.Turn

open Xice.Ice (XiceAddress)
open Xice.Lib
open Xice.Socket (Message XiceSocketCondition XiceTurnSocketCompatibility)
open Xice.Stun

/-! ## Retransmission timers -/

/-- `STUN_TIMER_DEFAULT_TIMEOUT`. -/
def timerDefaultTimeout : UInt32 := 600

/-- `STUN_TIMER_DEFAULT_MAX_RETRANSMISSIONS`. -/
def timerDefaultMaxRetransmissions : UInt32 := 3

/-- `STUN_TIMER_DEFAULT_RELIABLE_TIMEOUT`. -/
def timerDefaultReliableTimeout : UInt32 := 7900

/-! ## Constants -/

/-- `STUN_MAX_MESSAGE_SIZE`. -/
def stunMaxMessageSize : Nat := 65552

/-- `STUN_END_TIMEOUT`. -/
def stunEndTimeout : Nat := 8000

/-- `STUN_EXPIRE_TIMEOUT`. -/
def stunExpireTimeout : Nat := 60

/-- `STUN_PERMISSION_TIMEOUT`. -/
def stunPermissionTimeout : Nat := 300 - stunExpireTimeout

/-- `STUN_BINDING_TIMEOUT`. -/
def stunBindingTimeout : Nat := 600 - stunExpireTimeout

/-- `TURN_MAGIC_COOKIE`. -/
def turnMagicCookie : UInt32 := 0x72c64bc6

/-- `STUN_SEND`, and the method of TURN Refresh. -/
def methodSend : StunMethod := 0x004

/-- `STUN_OLD_SET_ACTIVE_DST` and `STUN_IND_SEND`. -/
def methodIndSend : StunMethod := 0x006

/-- `STUN_IND_DATA`. -/
def methodIndData : StunMethod := 0x007

/-- `STUN_CREATEPERMISSION`. -/
def methodCreatePermission : StunMethod := 0x008

/-- `STUN_CHANNELBIND`. -/
def methodChannelBind : StunMethod := 0x009

/-- `STUN_ALL_KNOWN_ATTRIBUTES`, each number once. -/
def stunAllKnownAttributes : List UInt16 :=
  [0x0001, 0x0002, 0x0003, 0x0004, 0x0005, 0x0006, 0x0007, 0x0008, 0x0009, 0x000A, 0x000B, 0x000C,
    0x000D, 0x000F, 0x0010, 0x0011, 0x0012, 0x0013, 0x0014, 0x0015, 0x0016, 0x0017, 0x0018, 0x0019,
    0x001A, 0x0020, 0x0021, 0x0022, 0x0023, 0x0024, 0x0025, 0]

/-! ## The socket -/

/-- A pointer to a timer, a binding or a message. -/
abbrev Ref := Nat

/-- `TURNMessage`, whose `buffer` is that of the message. -/
structure TURNMessage where
  ref : Ref
  message : StunMessage
  timer : StunTimer
  /-- The binding asked for, which the source does not keep. -/
  binding : Ref

/-- `ChannelBinding`. -/
structure ChannelBinding where
  ref : Ref
  peer : XiceAddress
  channel : UInt16
  renew : Bool
  timeoutSource : Option Ref
  deriving DecidableEq, Repr

/-- `SendRequest`, whose timer is its name. -/
structure SendRequest where
  id : StunTransactionId
  source : Ref
  deriving DecidableEq, Repr

/-- The functions that timers call. -/
inductive XiceTimerFunc where
  | retransmissionsTick
  /-- `priv_retransmissions_create_permission_tick`. -/
  | createPermissionTick
  | bindingTimeout
  | bindingExpiredTimeout
  | permissionTimeout
  | forgetSendRequest
  deriving DecidableEq, Repr

/-- A timer that runs. -/
structure Timer where
  ref : Ref
  started : Nat
  interval : Nat
  func : XiceTimerFunc
  deriving DecidableEq, Repr

/-- `TurnPriv`. -/
structure TurnPriv where
  agent : StunAgent
  channels : List ChannelBinding
  pendingBindings : List XiceAddress
  currentBinding : Option ChannelBinding
  /-- The request of the binding that is asked for or renewed. -/
  currentBindingMsg : Option TURNMessage
  pendingPermissions : List TURNMessage
  tickSourceChannelBind : Option Ref
  tickSourceCreatePermission : Option Ref
  serverAddr : XiceAddress
  username : List UInt8
  password : Option (List UInt8)
  compatibility : XiceTurnSocketCompatibility
  sendRequests : List SendRequest
  msRealm : List UInt8
  msConnectionId : Vector UInt8 20
  msSequenceNum : UInt32
  msConnectionIdValid : Bool
  permissions : List XiceAddress
  /-- Peers for which a permission is asked for. -/
  sentPermissions : List XiceAddress
  /-- Datagrams that wait for a permission, for each peer. -/
  sendDataQueues : List (XiceAddress × List (List UInt8))
  permissionTimeoutSource : Option Ref

/-- What is written to the log. -/
inductive Effect where
  | ask (message : Message)
  /-- A payload for a peer is wrapped, and becomes this datagram. -/
  | wrap (peer : XiceAddress) (buf datagram : List UInt8)
  /-- A payload that could not be wrapped is sent as it is. -/
  | bare (peer : XiceAddress) (buf : List UInt8)
  /-- A payload for a peer is not accepted. -/
  | refuse (peer : XiceAddress) (buf : List UInt8)
  /-- A permission is over, while these datagrams wait for it. -/
  | permit (peer : XiceAddress) (waiting : List (List UInt8))
  /-- A datagram is sent. `carries` is the peer of its payload. -/
  | send (message : Message) (carries : Option XiceAddress)
  /-- The callback of the upper layer is called. -/
  | upcall (condition : XiceSocketCondition) (buf : List UInt8) (source : Option XiceAddress)
  /-- A channel number is chosen while these are bound. -/
  | choose (bound : List UInt16) (channel : UInt16)
  /-- A request is answered, and taken for this binding. -/
  | answer (binding : Ref) (taken : Option Ref)
  /-- The request for a binding succeeds. -/
  | confirm (binding : Ref)
  | timer (timer : Timer)
  /-- A request to renew a binding is sent. -/
  | renewal (binding : Ref)
  | remove (binding : Ref)
  deriving DecidableEq, Repr

/-- An entry of the log and its time. -/
abbrev Entry := Nat × Effect

/-- A socket and what it depends on. -/
structure TurnSocket where
  priv : TurnPriv
  now : Nat
  timers : List Timer
  nextRef : Ref
  transactions : Nat
  log : List Entry

/-- What the socket takes from outside. -/
structure Env where
  platform : Platform
  /-- The transaction ids of `stun_make_transid`, in order. -/
  ids : Nat → StunTransactionId
  /-- `xice_socket_is_reliable` of the base socket. -/
  reliable : Bool
  /-- What the base socket returns for a datagram. -/
  baseSend : List Entry → Bool
  /-- What the upper layer sends from its callback, and its result. -/
  callback : List Entry → List Message × Bool

namespace TurnSocket

/-- Write to the log. -/
def emit (turn : TurnSocket) (effect : Effect) : TurnSocket :=
  { turn with log := turn.log ++ [(turn.now, effect)] }

/-- `xice_socket_send` of the base socket. -/
def baseSend (env : Env) (turn : TurnSocket) (message : Message) (carries : Option XiceAddress) :
    TurnSocket × Bool :=
  let turn := turn.emit (.send message carries)
  (turn, env.baseSend turn.log)

/-- A datagram for the server. -/
def sendServer (env : Env) (turn : TurnSocket) (buf : List UInt8) (carries : Option XiceAddress) :
    TurnSocket × Bool :=
  turn.baseSend env ⟨some turn.priv.serverAddr, buf⟩ carries

/-- `priv_timeout_add_with_context`. -/
def timeoutAdd (turn : TurnSocket) (interval : Nat) (func : XiceTimerFunc) : TurnSocket × Ref :=
  ({ turn with
      timers := turn.timers ++ [⟨turn.nextRef, turn.now, interval, func⟩]
      nextRef := turn.nextRef + 1 }, turn.nextRef)

/-- `xice_timer_destroy`. -/
def timerDestroy (turn : TurnSocket) (ref : Ref) : TurnSocket :=
  { turn with timers := turn.timers.filter fun timer => timer.ref ≠ ref }

/-- Destroy the timer of a field, if there is one. -/
def timerClear (turn : TurnSocket) (ref : Option Ref) : TurnSocket :=
  match ref with
  | some ref => turn.timerDestroy ref
  | none => turn

/-- `stun_make_transid`. -/
def makeTransid (env : Env) (turn : TurnSocket) : TurnSocket × StunTransactionId :=
  ({ turn with transactions := turn.transactions + 1 }, env.ids turn.transactions)

end TurnSocket

/-- The STUN agent of `xice_turn_socket_new`. -/
def turnAgent : XiceTurnSocketCompatibility → StunAgent
  | .draft9 | .rfc5766 =>
    StunAgent.init freeSlots stunAllKnownAttributes .rfc5389 { longTermCredentials := true }
  | .msn =>
    StunAgent.init freeSlots stunAllKnownAttributes .rfc3489
      { shortTermCredentials := true, noIndicationAuth := true }
  | .google =>
    StunAgent.init freeSlots stunAllKnownAttributes .rfc3489
      { shortTermCredentials := true, ignoreCredentials := true }
  | .oc2007 =>
    StunAgent.init freeSlots stunAllKnownAttributes .oc2007
      { noIndicationAuth := true, longTermCredentials := true, noAlignedAttributes := true }

/-- `xice_turn_socket_new`. For MSN and OC2007 the user name and the password are given decoded. -/
def turnSocketNew (serverAddr : XiceAddress) (username password : List UInt8)
    (compatibility : XiceTurnSocketCompatibility) : TurnSocket where
  priv := {
    agent := turnAgent compatibility
    channels := []
    pendingBindings := []
    currentBinding := none
    currentBindingMsg := none
    pendingPermissions := []
    tickSourceChannelBind := none
    tickSourceCreatePermission := none
    serverAddr := serverAddr
    username := username
    password := if compatibility = .google then none else some password
    compatibility := compatibility
    sendRequests := []
    msRealm := []
    msConnectionId := Vector.replicate 20 0
    msSequenceNum := 0
    msConnectionIdValid := false
    permissions := []
    sentPermissions := []
    sendDataQueues := []
    permissionTimeoutSource := none }
  now := 0
  timers := []
  nextRef := 0
  transactions := 0
  log := []

end Xice.Turn
