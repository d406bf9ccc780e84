import Xice.PseudoTcp.Send

/-!
# Receiving

`parse` and `process`, in the order of the source: control data, timestamp, acknowledgement,
payload, answer. Reads of the incoming packet and copies into `rbuf` are recorded as events, so that
statements about memory are statements about the trace.
-/

namespace Xice.PseudoTcp

open Xice.Lib

variable (seg : Segment) (user : UserCode) (buffer : Mem) (now : UInt32) (r : Incoming)
  (bConnect : Bool)

/-- The segment that `parse` reads out of a packet of the given size. -/
def segmentOf (size : UInt32) : Segment where
  conv := ntohl buffer 0
  seq := ntohl buffer 4
  ack := ntohl buffer 8
  flags := buffer 13
  wnd := ntohs buffer 14
  data := headerSize.toNat
  len := size - headerSize
  tsval := ntohl buffer 16
  tsecr := ntohl buffer 20

/-- The reads of the header made by `parse`. -/
def headerReads : List Event :=
  [.packetRead 0 4, .packetRead 4 4, .packetRead 8 4, .packetRead 13 1, .packetRead 14 2,
    .packetRead 16 4, .packetRead 20 4]

/-- Whether a segment carries the control flag. -/
def Segment.isCtl : Prop := seg.flags &&& flagCtl ≠ 0

instance (seg : Segment) : Decidable seg.isCtl := inferInstanceAs (Decidable (_ ≠ _))

/-- Whether a segment carries the reset flag. -/
def Segment.isRst : Prop := seg.flags &&& flagRst ≠ 0

instance (seg : Segment) : Decidable seg.isRst := inferInstanceAs (Decidable (_ ≠ _))

/-- Control data in `process`: nothing when the segment is refused, else `bConnect`. -/
def processControl (seg : Segment) : Run (Option Bool) := do
  if ¬seg.isCtl then
    return some false
  if seg.len = 0 then
    return none
  emit (.packetRead seg.data 1)
  if buffer seg.data ≠ ctlConnect then
    return none
  let s ← getSock
  if s.state = .listen then
    modifySock fun s => { s with state := .synReceived }
    let _ ← queue (fun _ => ctlConnect) 1 true
  else if s.state = .synSent then
    modifySock fun s => { s with state := .established }.adjustMTU
    callback user .opened
  return some true

/-- The timestamp update in `process`. -/
def PseudoTcpSocket.updateTimestamp (s : PseudoTcpSocket) (seg : Segment) : PseudoTcpSocket :=
  { s with
    tsRecent := if seg.seq ≤ s.tsLastack ∧ s.tsLastack < seg.seq + seg.len then seg.tsval
      else s.tsRecent }

/-- The round-trip estimate. `abs` takes an `int`, the other sums are in `guint32` or wider. -/
def PseudoTcpSocket.measured (s : PseudoTcpSocket) (rtt : Int) : PseudoTcpSocket :=
  let deviation := UInt32.ofNat (Int32.ofInt (rtt - s.rxSrtt.toNat)).toInt.natAbs
  let rxRttvar := if s.rxSrtt = 0 then UInt32.ofNat (rtt / 2).toNat
    else (3 * s.rxRttvar + deviation) / 4
  let rxSrtt := if s.rxSrtt = 0 then UInt32.ofNat rtt.toNat
    else UInt32.ofNat (((7 * s.rxSrtt).toNat + rtt.toNat) / 8)
  let rto := rxSrtt.toUInt64 + max 1 (4 * rxRttvar).toUInt64
  { s with rxRttvar, rxSrtt, rxRto := bound minRto rto.toUInt32 maxRto }

/-- The round-trip measurement in `process`. -/
def measureRtt : Run Unit := do
  if seg.tsecr ≠ 0 then
    require (timeDiff now seg.tsecr ≥ 0) .rttAssert
    modifySock fun s => s.measured (timeDiff now seg.tsecr)

/-- The send buffer after an acknowledgement, before segments are released. -/
def Outgoing.acknowledged (o : Outgoing) (ack : UInt32) (wnd : UInt16) : Outgoing :=
  let nAcked := ack - o.sndUna
  { o with
    sndWnd := wnd.toUInt32
    sndUna := ack
    slen := o.slen - nAcked
    sbuf := o.sbuf.write kSndBufSize.toNat 0 (o.sbuf.offset nAcked.toNat) (o.slen - nAcked).toNat }

/-- The release of `nFree` acknowledged bytes, with the largest segment released so far; nothing
when the list ends before. -/
def freeSegments : List SSegment → UInt32 → UInt32 → Option (List SSegment × UInt32)
  | slist, nFree, largest =>
    if nFree = 0 then some (slist, largest)
    else match slist with
      | [] => none
      | data :: slist =>
        if nFree < data.len then some ({ data with len := data.len - nFree } :: slist, largest)
        else freeSegments slist (nFree - data.len) (if data.len > largest then data.len else largest)

/-- The acknowledged bytes leave the send queue. -/
def releaseAcked : Run Unit := do
  let s ← getSock
  modifySock fun s =>
    { s with
      toOutgoing := s.toOutgoing.acknowledged seg.ack seg.wnd
      rtoBase := if seg.ack = s.sndNxt then 0 else now }
  match freeSegments s.slist (seg.ack - s.sndUna) s.largest with
  | none => throw .freeAssert
  | some (slist, largest) => modifySock fun s => { s with slist := slist, largest := largest }

/-- The congestion window after new data was acknowledged. False is returned when the socket was
closed. -/
def growWindow (nAcked : UInt32) : Run Bool := do
  let s ← getSock
  if s.dupAcks ≥ 3 then
    if s.sndUna ≥ s.recover then
      modifySock fun s => { s with cwnd := min s.ssthresh (s.inFlight + s.mss), dupAcks := 0 }
      return true
    else if ← transmit user 0 now then
      modifySock fun s => { s with cwnd := s.cwnd + (s.mss - min nAcked s.cwnd) }
      return true
    else
      closedown user .econnaborted
      return false
  else if s.cwnd < s.ssthresh then
    modifySock fun s => { s with dupAcks := 0, cwnd := s.cwnd + s.mss }
    return true
  else
    require (s.cwnd ≠ 0) .zeroDivision
    modifySock fun s => { s with dupAcks := 0, cwnd := s.cwnd + max 1 (s.mss * s.mss / s.cwnd) }
    return true

/-- `kIdealRefillSize`. -/
def kIdealRefillSize : UInt32 := ((kSndBufSize + kRcvBufSize) / 2).toUInt32

/-- The connection is established by an acknowledgement without control data. -/
def announceOpened : Run Unit := do
  if (← getSock).state = .synReceived ∧ bConnect = false then
    modifySock fun s => { s with state := .established }.adjustMTU
    callback user .opened

/-- The application is told of room when it asked for it. -/
def announceWritable : Run Unit := do
  let s ← getSock
  if s.bWriteEnable = true ∧ s.slen < kIdealRefillSize then
    modifySock fun s => { s with bWriteEnable := false }
    callback user .writable

/-- An acknowledgement of new data in `process`. -/
def processNewAck (seg : Segment) (now : UInt32) (bConnect : Bool) : Run Bool := do
  measureRtt seg now
  let nAcked := seg.ack - (← getSock).sndUna
  releaseAcked seg now
  if ← growWindow user now nAcked then
    announceOpened user bConnect
    announceWritable user
    return true
  else return false

/-- A repeated acknowledgement in `process`. -/
def processDupAck (seg : Segment) (now : UInt32) : Run Bool := do
  modifySock fun s => { s with sndWnd := seg.wnd.toUInt32 }
  let s ← getSock
  if seg.len > 0 then
    return true
  else if s.sndUna ≠ s.sndNxt then
    modifySock fun s => { s with dupAcks := s.dupAcks + 1 }
    if s.dupAcks + 1 = 3 then
      if ← transmit user 0 now then
        modifySock fun s =>
          let ssthresh := max (s.inFlight / 2) (2 * s.mss)
          { s with recover := s.sndNxt, ssthresh := ssthresh, cwnd := ssthresh + 3 * s.mss }
        return true
      else
        closedown user .econnaborted
        return false
    else if s.dupAcks + 1 > 3 then
      modifySock fun s => { s with cwnd := s.cwnd + s.mss }
      return true
    else return true
  else
    modifySock fun s => { s with dupAcks := 0 }
    return true

/-- The acknowledgement number in `process`. False is returned when the socket was closed. -/
def processAck (seg : Segment) (now : UInt32) (bConnect : Bool) : Run Bool := do
  let s ← getSock
  if seg.ack > s.sndUna ∧ seg.ack ≤ s.sndNxt then
    processNewAck user seg now bConnect
  else if seg.ack = s.sndUna then
    processDupAck user seg now
  else return true

/-- The acknowledgement that `process` decides on before the segment is cut. -/
def Incoming.ackNeeded (seg : Segment) : SendFlags :=
  if seg.seq ≠ r.rcvNxt then .immediateAck
  else if seg.len ≠ 0 then .delayedAck
  else .none

/-- Drop what was received before. -/
def Incoming.trimFront (seg : Segment) : Segment :=
  if seg.seq < r.rcvNxt then
    let nAdjust := r.rcvNxt - seg.seq
    if nAdjust < seg.len then
      { seg with
        seq := seg.seq + nAdjust, data := seg.data + nAdjust.toNat, len := seg.len - nAdjust }
    else { seg with len := 0 }
  else seg

/-- Drop what does not fit the receive buffer. -/
def Incoming.trimBack (seg : Segment) : Segment :=
  let beyond := (seg.seq + seg.len - r.rcvNxt).toUInt64
  let room := kRcvBufSize - r.rlen.toUInt64
  if beyond > room then
    let nAdjust := (beyond - room).toUInt32
    if nAdjust < seg.len then { seg with len := seg.len - nAdjust } else { seg with len := 0 }
  else seg

/-- Adjust the incoming segment to fit the receive buffer. -/
def Incoming.trim (seg : Segment) : Segment := r.trimBack (r.trimFront seg)

/-- Copy the payload of a segment into the receive buffer. -/
def Incoming.copyIn (buffer : Mem) (seg : Segment) : Incoming :=
  { r with
    rbuf := r.rbuf.write kRcvBufSize.toNat (r.rlen.toNat + (seg.seq - r.rcvNxt).toNat)
      (buffer.offset seg.data) seg.len.toNat }

/-- Bytes up to `rcv_nxt + count` are now in order. -/
def Incoming.advance (count : UInt32) : Incoming :=
  { r with rlen := r.rlen + count, rcvNxt := r.rcvNxt + count, rcvWnd := r.rcvWnd - count }

/-- The loop over the saved runs; the flag tells whether bytes were recovered. -/
def Incoming.recover : List RSegment → Incoming → Incoming × Bool
  | [], r => ({ r with rlist := [] }, false)
  | data :: rlist, r =>
    if data.seq ≤ r.rcvNxt then
      if data.seq + data.len > r.rcvNxt then
        ((Incoming.recover rlist (r.advance (data.seq + data.len - r.rcvNxt))).1, true)
      else Incoming.recover rlist r
    else ({ r with rlist := data :: rlist }, false)

/-- A run is put before the first that does not start below it. -/
def insertSegment (rseg : RSegment) : List RSegment → List RSegment
  | [] => [rseg]
  | data :: rlist =>
    if data.seq < rseg.seq then data :: insertSegment rseg rlist else rseg :: data :: rlist

/-- The payload of a cut segment in `process`: what to acknowledge, and `bNewData`. -/
def storeData (seg : Segment) (sflags : SendFlags) : Run (SendFlags × Bool) := do
  let s ← getSock
  if seg.len = 0 then
    return (sflags, false)
  else if seg.isCtl ∨ s.shutdown ≠ .none then
    if seg.seq = s.rcvNxt then
      modifySock fun s => { s with rcvNxt := s.rcvNxt + seg.len }
    return (sflags, false)
  else
    emit (.packetRead seg.data seg.len.toNat)
    emit (.rbufWrite (s.rlen.toNat + (seg.seq - s.rcvNxt).toNat) seg.len.toNat)
    modifySock fun s => { s with toIncoming := s.toIncoming.copyIn buffer seg }
    if seg.seq = s.rcvNxt then
      let s ← getSock
      let (r, recovered) := Incoming.recover s.rlist (s.toIncoming.advance seg.len)
      modifySock fun s => { s with toIncoming := r }
      return (if recovered then .immediateAck else sflags, true)
    else
      modifySock fun s =>
        { s with rlist := insertSegment { seq := seg.seq, len := seg.len } s.rlist }
      return (sflags, false)

/-- The application is told of new data when it asked for it. -/
def announceReadable (bNewData : Bool) : Run Unit := do
  if bNewData = true ∧ (← getSock).bReadEnable = true then
    modifySock fun s => { s with bReadEnable := false }
    callback user .readable

/-- The payload and the answer in `process`. -/
def processData (seg : Segment) : Run Unit := do
  let s ← getSock
  let (sflags, bNewData) ←
    storeData buffer (s.toIncoming.trim seg) (s.toIncoming.ackNeeded seg)
  attemptSend user sflags
  announceReadable user bNewData

/-- `process`. -/
def process (seg : Segment) : Run Bool := do
  if seg.conv ≠ (← getSock).conv then
    return false
  let now ← getCurrentTime
  modifySock fun s => { s with lastTraffic := now, lastrecv := now, bOutgoing := false }
  if (← getSock).state = .closed then
    return false
  if seg.isRst then
    closedown user .econnreset
    return false
  match ← processControl user buffer seg with
  | none => return false
  | some bConnect =>
    modifySock fun s => s.updateTimestamp seg
    if ← processAck user seg now bConnect then
      processData user buffer seg
      return true
    else return false

/-- Record the header reads. -/
def readHeader : List Event → Run Unit
  | [] => return
  | event :: events => do
    emit event
    readHeader events

/-- `parse`. -/
def parse (size : UInt32) : Run Bool := do
  if size < 12 then
    return false
  readHeader headerReads
  process user buffer (segmentOf buffer size)

end Xice.PseudoTcp
