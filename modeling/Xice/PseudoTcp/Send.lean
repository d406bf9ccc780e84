import Xice.PseudoTcp.Clock

/-!
# Sending

The sending half, with the calls that callbacks may make. A pointer into `slist` is the index of its
node: while a packet is written, segments are only inserted behind the node in use. The application
code that runs inside `WritePacket` is the parameter `user`; it is given the calls of the reply.
-/

namespace Xice.PseudoTcp

open Xice.Lib

/-- Application code run inside `WritePacket`, given the calls it makes. -/
abbrev UserCode := List Call → Run Unit

namespace Outgoing

variable (o : Outgoing)

/-- Bytes transmitted and not acknowledged, in `guint32` arithmetic. -/
def inFlight : UInt32 := o.sndNxt - o.sndUna

/-- Queued bytes join the last segment when it is of the same type and was not transmitted. -/
def appendSegment (len : UInt32) (bCtrl : Bool) : List SSegment :=
  let sseg : SSegment := { seq := o.sndUna + o.slen, len, xmit := 0, bCtrl }
  match o.slist.getLast? with
  | some last =>
    if last.bCtrl = bCtrl ∧ last.xmit = 0 then
      o.slist.dropLast ++ [{ last with len := last.len + len }]
    else o.slist ++ [sseg]
  | none => [sseg]

/-- `queue` after the length was cut to the free room. -/
def enqueue (data : Mem) (len : UInt32) (bCtrl : Bool) : Outgoing :=
  { o with
    slist := o.appendSegment len bCtrl
    sbuf := o.sbuf.write kSndBufSize.toNat o.slen.toNat data len.toNat
    slen := o.slen + len }

/-- Cut a segment after `count` bytes; the rest comes behind it with the given transmission count.
-/
def splitSegment (index : Nat) (count : UInt32) (xmit : UInt8) : Outgoing :=
  match o.slist[index]? with
  | some segment =>
    let subseg : SSegment :=
      { seq := segment.seq + count, len := segment.len - count, xmit, bCtrl := segment.bCtrl }
    { o with
      slist := (o.slist.modify index fun data => { data with len := count }).insertIdx
        (index + 1) subseg }
  | none => o

/-- Count a transmission; the first one moves `snd_nxt`. -/
def markSent (index : Nat) : Outgoing :=
  match o.slist[index]? with
  | some segment =>
    { o with
      sndNxt := if segment.xmit = 0 then o.sndNxt + segment.len else o.sndNxt
      slist := o.slist.modify index fun data => { data with xmit := data.xmit + 1 } }
  | none => o

end Outgoing

variable (user : UserCode) (s : PseudoTcpSocket) (index : Nat)

/-- `queue`. -/
def queue (data : Mem) (len : UInt32) (bCtrl : Bool) : Run UInt32 := do
  let s ← getSock
  let room := kSndBufSize - s.slen.toUInt64
  if len.toUInt64 > room then
    require (bCtrl = false) .queueAssert
  let len := if len.toUInt64 > room then room.toUInt32 else len
  emit (.queued bCtrl (data.read len.toNat))
  modifySock fun s => { s with toOutgoing := s.toOutgoing.enqueue data len bCtrl }
  return len

/-- The packet that `packet` builds from the socket. -/
def PseudoTcpSocket.packetOf (seq : UInt32) (flags : UInt8) (now : UInt32) (data : List UInt8) :
    Packet where
  conv := s.conv
  seq := seq
  ack := s.rcvNxt
  flags := flags
  wnd := s.rcvWnd.toUInt16
  tsval := now
  tsecr := s.tsRecent
  data := data

/-- The `WritePacket` callback. -/
def writePacket (user : UserCode) (p : Packet) : Run PseudoTcpWriteResult := do
  let reply ← nextReply
  emit (.writePacket p reply.wres)
  user reply.calls
  return reply.wres

/-- `packet`. For a null `data`, of length zero, the result of `WritePacket` is not looked at. -/
def packet (seq : UInt32) (flags : UInt8) (data : Option Mem) (len : UInt32) :
    Run PseudoTcpWriteResult := do
  let now ← getCurrentTime
  require (headerSize + len ≤ maxPacket) .packetAssert
  let s ← getSock
  let payload := (data.map fun mem => mem.read len.toNat).getD []
  modifySock fun s => { s with tsLastack := s.rcvNxt }
  let wres ← writePacket user (s.packetOf seq flags now payload)
  if wres ≠ .success ∧ data.isSome then
    return wres
  modifySock fun s =>
    { s with
      tAck := 0
      lastsend := if len > 0 then now else s.lastsend
      lastTraffic := now
      bOutgoing := true }
  return .success

/-- One call of `packet` in `transmit`, for the first `count` bytes of a segment. -/
def sendSegment (count : UInt32) : Run PseudoTcpWriteResult := do
  let s ← getSock
  match s.slist[index]? with
  | none => throw .nullPointer
  | some segment =>
    let flags := if segment.bCtrl then flagCtl else 0
    packet user segment.seq flags (some (s.sbuf.offset (segment.seq - s.sndUna).toNat)) count

/-- The inner loop of `transmit` after a packet of `count` bytes was too large, over the levels
behind `msslevel`: go on until the segment size is below `count`. The flag tells whether that was
found. -/
def PseudoTcpSocket.lowerMss (count : UInt32) :
    List UInt32 → PseudoTcpSocket → PseudoTcpSocket × Bool
  | [], s => (s, false)
  | maximum :: levels, s =>
    if maximum = 0 then (s, false)
    else
      let mss := maximum - packetOverhead
      let s := { s with msslevel := s.msslevel + 1, mss := mss, cwnd := 2 * mss }
      if mss < count then (s, true) else lowerMss count levels s

/-- The outer loop of `transmit`: the number of bytes that went out, or nothing when the
transmission failed. The sizes tried fall along `packetMaximums`, which bounds the rounds. -/
def transmitLoop (user : UserCode) (index : Nat) : Nat → UInt32 → Run (Option UInt32)
  | 0, _ => throw .endless
  | fuel + 1, nTransmit => do
    match ← sendSegment user index nTransmit with
    | .success => return some nTransmit
    | .fail => return none
    | .tooLarge =>
      let s ← getSock
      let (s, found) := s.lowerMss nTransmit (packetMaximums.drop (s.msslevel.toNat + 1))
      modifySock fun _ => s
      if found then transmitLoop user index fuel s.mss else return none

/-- How often a segment may be transmitted. -/
def PseudoTcpSocket.xmitLimit : UInt8 :=
  if s.state = .established then 15 else 30

/-- The end of `transmit`: cut the segment, count the transmission and start the timer. -/
def PseudoTcpSocket.transmitted (count now : UInt32) : PseudoTcpSocket :=
  match s.slist[index]? with
  | some segment =>
    let cut := if count < segment.len then s.toOutgoing.splitSegment index count segment.xmit
      else s.toOutgoing
    { s with
      toOutgoing := cut.markSent index
      rtoBase := if s.rtoBase = 0 then now else s.rtoBase }
  | none => s

/-- `transmit`, for the node of `slist` at an index. -/
def transmit (now : UInt32) : Run Bool := do
  let s ← getSock
  match s.slist[index]? with
  | none => throw .nullPointer
  | some segment =>
    if segment.xmit ≥ s.xmitLimit then
      return false
    let sent ← transmitLoop user index packetMaximums.length (min segment.len s.mss)
    match sent with
    | none => return false
    | some nTransmit =>
      modifySock fun s => s.transmitted index nTransmit now
      return true

/-- The loop of `adjustMTU` over `packetMaximums` from a level on. -/
def mssLevel (mtu : UInt32) : List UInt32 → UInt32 → UInt32
  | maximum :: next :: levels, level =>
    if next > 0 then
      if maximum ≤ mtu then level else mssLevel mtu (next :: levels) (level + 1)
    else level
  | _, level => level

/-- `adjustMTU`. -/
def PseudoTcpSocket.adjustMTU : PseudoTcpSocket :=
  let mss := s.mtuAdvise - packetOverhead
  { s with
    msslevel := mssLevel s.mtuAdvise packetMaximums 0
    mss := mss
    ssthresh := max s.ssthresh (2 * mss)
    cwnd := max s.cwnd mss }

/-- `nWindow` in `attempt_send`, with the limited transmit rule. -/
def PseudoTcpSocket.nWindow : UInt32 :=
  let cwnd := if s.dupAcks = 1 ∨ s.dupAcks = 2 then s.cwnd + s.dupAcks.toUInt32 * s.mss else s.cwnd
  min s.sndWnd cwnd

/-- `nUseable` in `attempt_send`. -/
def PseudoTcpSocket.nUseable : UInt32 :=
  if s.inFlight < s.nWindow then s.nWindow - s.inFlight else 0

/-- `nAvailable` in `attempt_send`, with the rule against silly windows. -/
def PseudoTcpSocket.nAvailable (s : PseudoTcpSocket) : UInt32 :=
  let nAvailable := min (s.slen - s.inFlight) s.mss
  if nAvailable > s.nUseable then
    if s.nUseable * 4 < s.nWindow then 0 else s.nUseable
  else nAvailable

/-- The test of Nagle's algorithm in `attempt_send`. -/
def PseudoTcpSocket.nagle : Prop :=
  s.sndNxt > s.sndUna ∧ s.nAvailable < s.mss

instance (s : PseudoTcpSocket) : Decidable s.nagle :=
  inferInstanceAs (Decidable (_ ∧ _))

/-- What `attempt_send` does about the acknowledgement with nothing to transmit. -/
def acknowledge (sflags : SendFlags) : Run Unit := do
  if sflags = .none then
    return
  let s ← getSock
  if sflags = .immediateAck ∨ s.tAck ≠ 0 then
    let _ ← packet user s.sndNxt 0 none 0
  else
    let now ← getCurrentTime
    modifySock fun s => { s with tAck := now }

/-- The next segment to transmit, cut when it is too large. -/
def nextSegment (nAvailable : UInt32) : Run Nat := do
  let s ← getSock
  match s.slist.findIdx? (fun segment => segment.xmit = 0) with
  | none => throw (if s.slist.isEmpty then .nullPointer else .unsentAssert)
  | some index =>
    if ((s.slist[index]?).map SSegment.len).getD 0 > nAvailable then
      modifySock fun s => { s with toOutgoing := s.toOutgoing.splitSegment index nAvailable 0 }
    return index

/-- The loop of `attempt_send`. A round that goes on transmits new bytes inside the window of the
peer, which bounds the rounds. -/
def attemptSendLoop (user : UserCode) (now : UInt32) : Nat → SendFlags → Run Unit
  | 0, _ => throw .endless
  | fuel + 1, sflags => do
    let s ← getSock
    if s.nAvailable = 0 then
      acknowledge user sflags
    else if s.nagle then
      return
    else
      let index ← nextSegment s.nAvailable
      if ← transmit user index now then
        attemptSendLoop user now fuel .none

/-- `attempt_send`. -/
def attemptSend (sflags : SendFlags) : Run Unit := do
  let now ← getCurrentTime
  modifySock fun s =>
    { s with cwnd := if timeDiff now s.lastsend > s.rxRto.toNat then s.mss else s.cwnd }
  let s ← getSock
  attemptSendLoop user now (s.sndWnd.toNat + 1) sflags

/-- `pseudo_tcp_socket_recv`: the number of bytes returned, or -1. -/
def recv (len : UInt64) : Run Int := do
  let s ← getSock
  if s.state ≠ .established then
    modifySock fun s => { s with error := .enotconn }
    return -1
  if s.rlen = 0 then
    modifySock fun s => { s with bReadEnable := true, error := .ewouldblock }
    return -1
  let read := min len.toUInt32 s.rlen
  emit (.received (s.rbuf.read read.toNat))
  let size := kRcvBufSize.toNat
  modifySock fun s =>
    { s with
      rlen := s.rlen - read
      rbuf := s.rbuf.write size 0 (s.rbuf.offset read.toNat) (size - read.toNat) }
  let s ← getSock
  if kRcvBufSize - s.rlen.toUInt64 - s.rcvWnd.toUInt64 ≥ min (kRcvBufSize / 2) s.mss.toUInt64 then
    let bWasClosed := s.rcvWnd = 0
    modifySock fun s => { s with rcvWnd := (kRcvBufSize - s.rlen.toUInt64).toUInt32 }
    if bWasClosed then
      attemptSend user .immediateAck
  return read.toNat

/-- `pseudo_tcp_socket_send`: the number of bytes accepted, or -1. -/
def send (buffer : Mem) (len : UInt32) : Run Int := do
  let s ← getSock
  if s.state ≠ .established then
    modifySock fun s => { s with error := .enotconn }
    return -1
  if s.slen.toUInt64 = kSndBufSize then
    modifySock fun s => { s with bWriteEnable := true, error := .ewouldblock }
    return -1
  let written ← queue buffer len false
  attemptSend user .none
  if written > 0 ∧ written < len then
    modifySock fun s => { s with bWriteEnable := true }
  return written.toNat

/-- `pseudo_tcp_socket_close`. -/
def close (force : Bool) : Run Unit :=
  modifySock fun s => { s with shutdown := if force then .forceful else .graceful }

/-- `pseudo_tcp_socket_notify_mtu`. -/
def notifyMtu (mtu : UInt16) : Run Unit :=
  modifySock fun s =>
    let s := { s with mtuAdvise := mtu.toUInt32 }
    if s.state = .established then s.adjustMTU else s

/-- A call made by the application. -/
def runCall : Call → Run Unit
  | .recv len => do let _ ← recv user len
  | .send buffer len => do let _ ← send user buffer len
  | .close force => close force
  | .notifyMtu mtu => notifyMtu mtu

/-- The calls of one callback, in order. -/
def runCalls (user : UserCode) : List Call → Run Unit
  | [] => return
  | call :: calls => do
    runCall user call
    runCalls user calls

/-- Application code in `WritePacket` nests at most to a depth. -/
def userCode : Nat → UserCode
  | 0, _ => return
  | depth + 1, calls => runCalls (userCode depth) calls

/-- One of the four callbacks besides `WritePacket`. -/
def callback (event : Event) : Run Unit := do
  emit event
  let reply ← nextReply
  runCalls user reply.calls

/-- `closedown`. -/
def closedown (err : Errno) : Run Unit := do
  modifySock fun s => { s with slen := 0, state := .closed }
  callback user (.closed err)

end Xice.PseudoTcp
