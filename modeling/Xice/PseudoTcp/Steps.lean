import Xice.PseudoTcp.Api

/-!
# What a call can do

Every entry point is a sequence of small steps on the socket and its trace. `Quiet` lists the steps
that do not look at the incoming packet, with the tests that guard them in the source; `AckStep` and
`DataStep` use the acknowledgement number and the payload. Invariants are proved from this list.
Application code, a set of calls, runs here inside the four notices and not inside `WritePacket`.
-/

namespace Xice.PseudoTcp

open Xice.Lib Exec

/-- The range that an MTU above `packetOverhead` gives. -/
structure Control.Sane (c : Control) : Prop where
  mtu : 116 < c.mtuAdvise.toNat ∧ c.mtuAdvise.toNat ≤ 65535
  mss : 0 < c.mss.toNat ∧ c.mss.toNat ≤ 65419
  ssthresh : 0 < c.ssthresh.toNat

/-- Only control fields differ, and they stay sane. -/
structure Tuned (s s' : PseudoTcpSocket) : Prop where
  same : s' = { s with toControl := s'.toControl }
  sane : s.Sane → s'.Sane

/-- The first `count` bytes of a segment in the send buffer. -/
def Outgoing.payload (o : Outgoing) (segment : SSegment) (count : UInt32) : List UInt8 :=
  (o.sbuf.offset (segment.seq - o.sndUna).toNat).read count.toNat

/-- The packet for the first `count` bytes of a segment. -/
def PseudoTcpSocket.dataPacket (s : PseudoTcpSocket) (segment : SSegment) (count now : UInt32) :
    Packet :=
  s.packetOf segment.seq (if segment.bCtrl then flagCtl else 0) now
    (s.toOutgoing.payload segment count)

/-- Steps that do not use the incoming packet, with the calls that are allowed. -/
inductive Quiet (allowed : Call → Prop) : History → History → Prop
  /-- Control fields change. -/
  | tune {h : History} {s' : PseudoTcpSocket} (tuned : Tuned h.sock s') :
      Quiet allowed h { h with sock := s' }
  /-- A new MTU is set. -/
  | advise {h : History} {s' : PseudoTcpSocket} (mtu : UInt16) (made : allowed (.notifyMtu mtu))
      (same : s' = { h.sock with toControl := s'.toControl })
      (sane : 116 < mtu.toNat → h.sock.Sane → s'.Sane) :
      Quiet allowed h { h with sock := s' }
  /-- The incoming packet is read. -/
  | look {h : History} (index len : Nat) :
      Quiet allowed h { h with trace := h.trace ++ [.packetRead index len] }
  /-- A packet without data is written. -/
  | writeEmpty {h : History} (seq now : UInt32) (result : PseudoTcpWriteResult) :
      Quiet allowed h
        { h with trace := h.trace ++ [.writePacket (h.sock.packetOf seq 0 now []) result] }
  /-- A packet with data is refused by `WritePacket`. -/
  | writeRefused {h : History} {index : Nat} {segment : SSegment} (count now : UInt32)
      (result : PseudoTcpWriteResult) (live : h.sock.state ≠ .closed)
      (found : h.sock.slist[index]? = some segment)
      (within : count.toNat ≤ segment.len.toNat) (refused : result ≠ .success) :
      Quiet allowed h
        { h with trace := h.trace ++ [.writePacket (h.sock.dataPacket segment count now) result] }
  /-- A first transmission, inside the window of the peer. -/
  | transmitNew {h : History} {index : Nat} {segment : SSegment} (count now stamp : UInt32)
      (live : h.sock.state ≠ .closed) (found : h.sock.slist[index]? = some segment)
      (unsent : segment.xmit = 0) (first : ∀ earlier ∈ h.sock.slist.take index, earlier.xmit ≠ 0)
      (within : count.toNat ≤ segment.len.toNat) (nonempty : 0 < count.toNat ∨ segment.len = 0)
      (pending : h.sock.slen ≠ h.sock.inFlight)
      (window : h.sock.inFlight.toNat + segment.len.toNat ≤ h.sock.sndWnd.toNat) :
      Quiet allowed h
        { sock := h.sock.transmitted index count now
          trace := h.trace ++ [.writePacket (h.sock.dataPacket segment count stamp) .success] }
  /-- The first segment is transmitted again. -/
  | retransmit {h : History} {segment : SSegment} (count now stamp : UInt32)
      (live : h.sock.state ≠ .closed) (found : h.sock.slist[0]? = some segment)
      (limit : segment.xmit.toNat < 30) (within : count.toNat ≤ segment.len.toNat)
      (reason : h.sock.rtoBase ≠ 0 ∨ h.sock.sndUna < h.sock.recover ∨
        h.sock.sndUna ≠ h.sock.sndNxt) :
      Quiet allowed h
        { sock := h.sock.transmitted 0 count now
          trace := h.trace ++ [.writePacket (h.sock.dataPacket segment count stamp) .success] }
  /-- A segment that was not transmitted yet is cut. -/
  | split {h : History} {index : Nat} {segment : SSegment} (count : UInt32)
      (found : h.sock.slist[index]? = some segment) (unsent : segment.xmit = 0)
      (first : ∀ earlier ∈ h.sock.slist.take index, earlier.xmit ≠ 0)
      (nonempty : 0 < count.toNat) (within : count.toNat < segment.len.toNat) :
      Quiet allowed h
        { h with sock := { h.sock with toOutgoing := h.sock.toOutgoing.splitSegment index count 0 } }
  /-- The connection is opened: the control byte is queued. -/
  | openCtl {h : History} (state : PseudoTcpState) (listening : h.sock.state = .listen)
      (opened : state = .synSent ∨ state = .synReceived)
      (room : 1 ≤ (kSndBufSize - h.sock.slen.toUInt64).toNat) :
      Quiet allowed h
        { sock := { h.sock with
            state := state
            toOutgoing := h.sock.toOutgoing.enqueue (fun _ => ctlConnect) 1 true }
          trace := h.trace ++ [.queued true [ctlConnect]] }
  /-- Bytes of the application are queued. -/
  | enqueue {h : History} (buffer : Mem) (len count : UInt32) (made : allowed (.send buffer len))
      (established : h.sock.state = .established)
      (room : count.toNat ≤ (kSndBufSize - h.sock.slen.toUInt64).toNat) :
      Quiet allowed h
        { sock := { h.sock with toOutgoing := h.sock.toOutgoing.enqueue buffer count false }
          trace := h.trace ++ [.queued false (buffer.read count.toNat)] }
  /-- The count of duplicate acknowledgements changes. -/
  | countDup {h : History} (dupAcks : UInt8) :
      Quiet allowed h { h with sock := { h.sock with dupAcks := dupAcks } }
  /-- A recovery period begins. -/
  | enterRecovery {h : History} :
      Quiet allowed h { h with sock := { h.sock with recover := h.sock.sndNxt } }
  /-- The retransmit timer starts anew. -/
  | rearm {h : History} (now : UInt32) (armed : h.sock.rtoBase ≠ 0) :
      Quiet allowed h { h with sock := { h.sock with rtoBase := now } }
  /-- The connection is established. -/
  | establish {h : History} {s' : PseudoTcpSocket}
      (opening : h.sock.state = .synSent ∨ h.sock.state = .synReceived)
      (tuned : Tuned { h.sock with state := .established } s') :
      Quiet allowed h { sock := s', trace := h.trace ++ [.opened] }
  /-- The application is told of new data. -/
  | readable {h : History} : Quiet allowed h { h with trace := h.trace ++ [.readable] }
  /-- The application is told of room in the send queue. -/
  | writable {h : History} : Quiet allowed h { h with trace := h.trace ++ [.writable] }
  /-- The connection is closed. -/
  | closedown {h : History} (err : Errno) :
      Quiet allowed h
        { sock := { h.sock with slen := 0, state := .closed }
          trace := h.trace ++ [.closed err] }
  /-- The application takes bytes out of the receive buffer. -/
  | consume {h : History} (len : UInt64) (read : UInt32) (made : allowed (.recv len))
      (established : h.sock.state = .established) (ready : read ≤ h.sock.rlen) :
      Quiet allowed h
        { sock := { h.sock with
            rlen := h.sock.rlen - read
            rbuf := h.sock.rbuf.write kRcvBufSize.toNat 0 (h.sock.rbuf.offset read.toNat)
              (kRcvBufSize.toNat - read.toNat) }
          trace := h.trace ++ [.received (h.sock.rbuf.read read.toNat)] }
  /-- The window to advertise becomes the free room. -/
  | widen {h : History} (rcvWnd : UInt32)
      (room : rcvWnd = (kRcvBufSize - h.sock.rlen.toUInt64).toUInt32) :
      Quiet allowed h { h with sock := { h.sock with rcvWnd := rcvWnd } }
  /-- The application closes the socket. -/
  | shut {h : History} (force : Bool) (made : allowed (.close force)) :
      Quiet allowed h
        { h with sock :=
          { h.sock with shutdown := if force then .forceful else .graceful } }

/-- The use of the acknowledgement number of a segment. -/
inductive AckStep (seg : Segment) : History → History → Prop
  /-- New data is acknowledged. -/
  | newAck {h : History} {slist : List SSegment} {largest : UInt32} (now : UInt32)
      (new : h.sock.sndUna < seg.ack) (sent : seg.ack ≤ h.sock.sndNxt)
      (freed : freeSegments h.sock.slist (seg.ack - h.sock.sndUna) h.sock.largest =
        some (slist, largest)) :
      AckStep seg h
        { h with sock :=
          { h.sock with
            toOutgoing := { h.sock.toOutgoing.acknowledged seg.ack seg.wnd with slist := slist }
            rtoBase := if seg.ack = h.sock.sndNxt then 0 else now } }
  /-- The window is updated. -/
  | sameAck {h : History} (same : seg.ack = h.sock.sndUna) :
      AckStep seg h { h with sock := { h.sock with sndWnd := seg.wnd.toUInt32 } }

/-- The use of the payload of a segment, after it was cut. -/
inductive DataStep (buffer : Mem) (seg : Segment) : History → History → Prop
  /-- Payload that is not kept advances the sequence number. -/
  | skip {h : History} (cut : Segment) (trimmed : cut = h.sock.toIncoming.trim seg)
      (nonempty : cut.len ≠ 0) (ignored : seg.isCtl ∨ h.sock.shutdown ≠ .none)
      (next : cut.seq = h.sock.rcvNxt) :
      DataStep buffer seg h
        { h with sock := { h.sock with rcvNxt := h.sock.rcvNxt + cut.len } }
  /-- Payload in order is copied, and saved runs are recovered. -/
  | inOrder {h : History} (cut : Segment) (trimmed : cut = h.sock.toIncoming.trim seg)
      (nonempty : cut.len ≠ 0) (kept : ¬seg.isCtl ∧ h.sock.shutdown = .none)
      (next : cut.seq = h.sock.rcvNxt) :
      DataStep buffer seg h
        { sock := { h.sock with
            toIncoming := (Incoming.recover h.sock.rlist
              ((h.sock.toIncoming.copyIn buffer cut).advance cut.len)).1 }
          trace := h.trace ++ [.packetRead cut.data cut.len.toNat,
            .rbufWrite (h.sock.rlen.toNat + (cut.seq - h.sock.rcvNxt).toNat) cut.len.toNat] }
  /-- Payload out of order is copied and its run saved. -/
  | outOfOrder {h : History} (cut : Segment) (trimmed : cut = h.sock.toIncoming.trim seg)
      (nonempty : cut.len ≠ 0) (kept : ¬seg.isCtl ∧ h.sock.shutdown = .none)
      (later : cut.seq ≠ h.sock.rcvNxt) :
      DataStep buffer seg h
        { sock := { h.sock with
            toIncoming :=
              { h.sock.toIncoming.copyIn buffer cut with
                rlist := insertSegment { seq := cut.seq, len := cut.len } h.sock.rlist } }
          trace := h.trace ++ [.packetRead cut.data cut.len.toNat,
            .rbufWrite (h.sock.rlen.toNat + (cut.seq - h.sock.rcvNxt).toNat) cut.len.toNat] }

end Xice.PseudoTcp
