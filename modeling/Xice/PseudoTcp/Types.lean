import Xice.Lib.Exec
import Xice.Lib.ByteOrder

/-!
# The pseudo-TCP socket

The state of `struct _PseudoTcpSocketPrivate`, grouped by what is stated about it, the packets it
hands to `WritePacket`, and the world it runs in. The machine is LP64; arithmetic wraps where the C
types wrap, and `long` is an `Int` that never leaves its range here.

What the socket learns from outside is a reply of the environment: a clock reading, the result of
`WritePacket`, and the calls that application code makes from inside a callback. The replies are an
arbitrary sequence, so a statement about every environment covers every application and clock.
-/

namespace Xice.PseudoTcp

open Xice.Lib

/-- `PACKET_MAXIMUMS`, with its end of list marker. -/
def packetMaximums : List UInt32 :=
  [65535, 32000, 17914, 8166, 4352, 2002, 1492, 1006, 508, 296, 0]

/-- `MAX_PACKET`. -/
def maxPacket : UInt32 := 65535

/-- `MIN_PACKET`. -/
def minPacket : UInt32 := 296

/-- `HEADER_SIZE`. -/
def headerSize : UInt32 := 24

/-- `PACKET_OVERHEAD`: the header, UDP, IP and the jingle framing. -/
def packetOverhead : UInt32 := headerSize + 8 + 20 + 64

/-- Every level leaves room for a segment. -/
theorem packetMaximums_range :
    ∀ maximum ∈ packetMaximums, maximum ≠ 0 →
      0 < (maximum - packetOverhead).toNat ∧ (maximum - packetOverhead).toNat ≤ 65419 := by
  simp only [packetMaximums, List.mem_cons, List.not_mem_nil, or_false, forall_eq_or_imp, forall_eq]
  decide

/-- `MIN_RTO`. -/
def minRto : UInt32 := 250

/-- `DEF_RTO`. -/
def defRto : UInt32 := 3000

/-- `MAX_RTO`. -/
def maxRto : UInt32 := 60000

/-- `ACK_DELAY`. -/
def ackDelay : UInt32 := 100

/-- `FLAG_CTL`. -/
def flagCtl : UInt8 := 0x02

/-- `FLAG_RST`. -/
def flagRst : UInt8 := 0x04

/-- `CTL_CONNECT`. -/
def ctlConnect : UInt8 := 0

/-- `DEFAULT_TIMEOUT`. -/
def defaultTimeout : Int := 4000

/-- `CLOSED_TIMEOUT`. -/
def closedTimeout : Int := 60 * 1000

/-- `kRcvBufSize`, the size of `rbuf`. -/
def kRcvBufSize : UInt64 := 1024 * 60

/-- `kSndBufSize`, the size of `sbuf`. -/
def kSndBufSize : UInt64 := 1024 * 90

/-- `PseudoTcpState`. -/
inductive PseudoTcpState where
  | listen
  | synSent
  | synReceived
  | established
  | closed
  deriving DecidableEq, Repr

/-- `PseudoTcpWriteResult`. -/
inductive PseudoTcpWriteResult where
  | success
  | tooLarge
  | fail
  deriving DecidableEq, Repr

/-- `Shutdown`. -/
inductive Shutdown where
  | none
  | graceful
  | forceful
  deriving DecidableEq, Repr

/-- `SendFlags`. -/
inductive SendFlags where
  | none
  | delayedAck
  | immediateAck
  deriving DecidableEq, Repr

/-- The values of `priv->error` and of the argument of `PseudoTcpClosed`. -/
inductive Errno where
  | ok
  | einval
  | enotconn
  | ewouldblock
  | econnaborted
  | econnreset
  deriving DecidableEq, Repr

/-- `SSegment`: a run of the send queue. -/
structure SSegment where
  /-- Sequence number of its first byte. -/
  seq : UInt32
  len : UInt32
  xmit : UInt8
  /-- Whether it is the control segment. -/
  bCtrl : Bool
  deriving DecidableEq, Repr

/-- `RSegment`: a run of bytes received out of order. -/
structure RSegment where
  /-- Sequence number of its first byte. -/
  seq : UInt32
  len : UInt32
  deriving DecidableEq, Repr

/-- `Segment`: a parsed packet, with its payload from index `data` on. -/
structure Segment where
  conv : UInt32
  seq : UInt32
  ack : UInt32
  flags : UInt8
  wnd : UInt16
  /-- Where the payload starts in the packet. -/
  data : Nat
  len : UInt32
  tsval : UInt32
  tsecr : UInt32
  deriving DecidableEq, Repr

/-- The connection. -/
structure Link where
  /-- Whether and how the application closed the socket. -/
  shutdown : Shutdown
  state : PseudoTcpState
  conv : UInt32

/-- Incoming data. -/
structure Incoming where
  rlist : List RSegment
  /-- Its first `rlen` bytes are ready for the application. -/
  rbuf : Mem
  rcvNxt : UInt32
  rcvWnd : UInt32
  rlen : UInt32

/-- Outgoing data. -/
structure Outgoing where
  /-- The send queue, cut into segments. -/
  slist : List SSegment
  /-- Its first `slen` bytes are queued. -/
  sbuf : Mem
  sndNxt : UInt32
  sndWnd : UInt32
  slen : UInt32
  /-- First unacknowledged sequence number. -/
  sndUna : UInt32

/-- Retransmit timer and fast recovery. -/
structure Recovery where
  /-- Start of the retransmit timer, zero when it is off. -/
  rtoBase : UInt32
  dupAcks : UInt8
  recover : UInt32

/-- What decides when something is sent, and never what. -/
structure Control where
  error : Errno
  /-- Whether new data is to be announced. -/
  bReadEnable : Bool
  /-- Whether room in the send queue is to be announced. -/
  bWriteEnable : Bool
  /-- Whether the last traffic was outgoing. -/
  bOutgoing : Bool
  lastTraffic : UInt32
  lastrecv : UInt32
  lastsend : UInt32
  mss : UInt32
  msslevel : UInt32
  largest : UInt32
  mtuAdvise : UInt32
  tsRecent : UInt32
  tsLastack : UInt32
  rxRttvar : UInt32
  rxSrtt : UInt32
  rxRto : UInt32
  ssthresh : UInt32
  cwnd : UInt32
  /-- Start of the acknowledgement timer, zero when it is off. -/
  tAck : UInt32

/-- `struct _PseudoTcpSocketPrivate`, without the callback table. -/
structure PseudoTcpSocket extends Link, Incoming, Outgoing, Recovery, Control

/-- `pseudo_tcp_socket_init` with a conversation number. -/
def PseudoTcpSocket.new (conversation now : UInt32) : PseudoTcpSocket where
  shutdown := .none
  error := .ok
  state := .listen
  conv := conversation
  bReadEnable := true
  bWriteEnable := false
  bOutgoing := false
  lastTraffic := now
  rlist := []
  rbuf := fun _ => 0
  rcvNxt := 0
  rcvWnd := kRcvBufSize.toUInt32
  rlen := 0
  lastrecv := now
  slist := []
  sbuf := fun _ => 0
  sndNxt := 0
  sndWnd := 1
  slen := 0
  lastsend := now
  sndUna := 0
  mss := minPacket - packetOverhead
  msslevel := 0
  largest := 0
  mtuAdvise := maxPacket
  rtoBase := 0
  tsRecent := 0
  tsLastack := 0
  rxRttvar := 0
  rxSrtt := 0
  rxRto := defRto
  ssthresh := kRcvBufSize.toUInt32
  cwnd := 2 * (minPacket - packetOverhead)
  dupAcks := 0
  recover := 0
  tAck := 0

/-- A packet handed to `WritePacket`, field by field. -/
structure Packet where
  conv : UInt32
  seq : UInt32
  ack : UInt32
  flags : UInt8
  wnd : UInt16
  tsval : UInt32
  tsecr : UInt32
  data : List UInt8
  deriving DecidableEq, Repr

/-- The buffer that `packet` fills. -/
def Packet.bytes (p : Packet) : List UInt8 :=
  htonl p.conv ++ htonl p.seq ++ htonl p.ack ++ [0, p.flags] ++ htons p.wnd ++
    htonl p.tsval ++ htonl p.tsecr ++ p.data

/-- The calls that application code may make from inside a callback. -/
inductive Call where
  /-- `pseudo_tcp_socket_recv` of so many bytes. -/
  | recv (len : UInt64)
  | send (buffer : Mem) (len : UInt32)
  | close (force : Bool)
  | notifyMtu (mtu : UInt16)

/-- The answer of the environment, of which only the part asked for is used. -/
structure Reply where
  clock : UInt32
  wres : PseudoTcpWriteResult
  /-- Calls made by the application inside the callback. -/
  calls : List Call

/-- What a socket does that can be observed, in order. -/
inductive Event where
  /-- `WritePacket` returned the result for a packet. -/
  | writePacket (packet : Packet) (result : PseudoTcpWriteResult)
  | opened
  | readable
  | writable
  | closed (err : Errno)
  /-- The control byte, or bytes accepted by `send`, were queued. -/
  | queued (bCtrl : Bool) (bytes : List UInt8)
  | received (bytes : List UInt8)
  /-- Bytes of the incoming packet were read. -/
  | packetRead (index len : Nat)
  /-- Payload was copied into `rbuf`. -/
  | rbufWrite (index len : Nat)
  deriving DecidableEq, Repr

/-- Why a run stops. -/
inductive Fault where
  | queueAssert
  /-- `g_assert(HEADER_SIZE + len <= MAX_PACKET)` in `packet`. -/
  | packetAssert
  /-- `g_assert_not_reached` on a negative round-trip time in `process`. -/
  | rttAssert
  /-- `g_assert(priv->slist != NULL)` in `process`. -/
  | freeAssert
  /-- `g_assert(iter)` in `attempt_send`. -/
  | unsentAssert
  /-- `g_assert_not_reached` on an empty queue in `notify_clock`. -/
  | clockAssert
  | nullPointer
  | zeroDivision
  /-- The send loop went round too often. -/
  | endless
  deriving DecidableEq, Repr

/-- The socket and what it did so far. -/
structure History where
  sock : PseudoTcpSocket
  trace : List Event

/-- A history, and the replies still to come. -/
structure World extends History where
  env : Nat → Reply
  pos : Nat

/-- Programs of the socket. -/
abbrev Run (α : Type) := Exec Fault World α

/-- The socket as it is now. -/
def getSock : Run PseudoTcpSocket := return (← get).sock

/-- Change the socket. -/
def modifySock (f : PseudoTcpSocket → PseudoTcpSocket) : Run Unit :=
  modify fun w => { w with sock := f w.sock }

/-- Record an event. -/
def emit (event : Event) : Run Unit := modify fun w => { w with trace := w.trace ++ [event] }

/-- Take the next reply of the environment. -/
def nextReply : Run Reply := do
  let w ← get
  set { w with pos := w.pos + 1 }
  return w.env w.pos

/-- `get_current_time`. -/
def getCurrentTime : Run UInt32 := return (← nextReply).clock

/-- `g_assert`, and other conditions whose failure ends the process. -/
def require (condition : Prop) [Decidable condition] (fault : Fault) : Run Unit :=
  if condition then pure () else throw fault

section Rules

variable {α : Type} (E : Fault → World → Prop) (w : World)

/-- The socket is read. -/
@[simp] theorem wp_getSock (Q : PseudoTcpSocket → World → Prop) :
    Exec.wp getSock Q E w = Q w.sock w := by
  simp only [getSock, Exec.wp_bind, Exec.wp_get, Exec.wp_pure]

/-- The socket is changed. -/
@[simp] theorem wp_modifySock (f : PseudoTcpSocket → PseudoTcpSocket) (Q : Unit → World → Prop) :
    Exec.wp (modifySock f) Q E w = Q () { w with sock := f w.sock } := by
  rw [modifySock, Exec.wp_modify]

/-- An event is recorded. -/
@[simp] theorem wp_emit (event : Event) (Q : Unit → World → Prop) :
    Exec.wp (emit event) Q E w = Q () { w with trace := w.trace ++ [event] } := by
  rw [emit, Exec.wp_modify]

/-- The next reply is used. -/
@[simp] theorem wp_nextReply (Q : Reply → World → Prop) :
    Exec.wp nextReply Q E w = Q (w.env w.pos) { w with pos := w.pos + 1 } := by
  simp only [nextReply, Exec.wp_bind, Exec.wp_get, Exec.wp_set, Exec.wp_pure]

/-- The clock is read. -/
@[simp] theorem wp_getCurrentTime (Q : UInt32 → World → Prop) :
    Exec.wp getCurrentTime Q E w = Q (w.env w.pos).clock { w with pos := w.pos + 1 } := by
  simp only [getCurrentTime, Exec.wp_bind, wp_nextReply, Exec.wp_pure]

/-- The condition holds, or the program stops. -/
@[simp] theorem wp_require (condition : Prop) [Decidable condition] (fault : Fault)
    (Q : Unit → World → Prop) :
    Exec.wp (require condition fault) Q E w = if condition then Q () w else E fault w := by
  simp only [require, Exec.wp_ite, Exec.wp_pure, Exec.wp_throw]

end Rules

open Exec in
/-- The rules that run a program up to its calls. -/
theorem wp_rules :
    (∀ {α β : Type} (m : Run α) (f : α → Run β) Q E w,
      wp (m >>= f) Q E w = wp m (fun a t => wp (f a) Q E t) E w) ∧
    (∀ {α : Type} (a : α) Q E w, wp (pure a : Run α) Q E w = Q a w) ∧
    (∀ {α : Type} (fault : Fault) Q E w, wp (throw fault : Run α) Q E w = E fault w) ∧
    (∀ {α : Type} (c : Prop) [Decidable c] (m n : Run α) Q E w,
      wp (if c then m else n) Q E w = if c then wp m Q E w else wp n Q E w) ∧
    (∀ E w Q, wp getSock Q E w = Q w.sock w) ∧
    (∀ E w f Q, wp (modifySock f) Q E w = Q () { w with sock := f w.sock }) ∧
    (∀ E w event Q, wp (emit event) Q E w = Q () { w with trace := w.trace ++ [event] }) ∧
    (∀ E w Q, wp nextReply Q E w = Q (w.env w.pos) { w with pos := w.pos + 1 }) ∧
    (∀ E w Q, wp getCurrentTime Q E w = Q (w.env w.pos).clock { w with pos := w.pos + 1 }) ∧
    (∀ E w (c : Prop) [Decidable c] fault Q,
      wp (require c fault) Q E w = if c then Q () w else E fault w) :=
  ⟨wp_bind, wp_pure, wp_throw, wp_ite, wp_getSock, wp_modifySock, wp_emit, wp_nextReply,
    wp_getCurrentTime, wp_require⟩

end Xice.PseudoTcp
