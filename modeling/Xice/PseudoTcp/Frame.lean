import Xice.PseudoTcp.Api

/-!
# What most of the socket leaves alone

Packets are written by `packet`, the delayed acknowledgement timer is started in one place,
`rcv_nxt` is moved by payload, `snd_nxt` by `transmit`, and `snd_una` by acknowledgement numbers. A
relation between the start of a program and the states after it that survives changes of other
fields, `packet` and `transmit` is kept by everything that sends (`Frame`); if it survives a
round-trip measurement and changes of the connection state too, by control data and callbacks
(`FullFrame`), and if no field of the send queue matters, by what `process` does about
acknowledgement numbers (`AckFrame`).
-/

namespace Xice.Lib.Exec.Keeps

open Xice.PseudoTcp

variable {I : World → Prop}

/-- Reading the socket keeps it. -/
theorem getSock : Keeps I getSock := by
  intro w kept
  rwa [ends, wp_getSock]

/-- So does a test that may stop. -/
theorem require (condition : Prop) [Decidable condition] (fault : Fault) :
    Keeps I (require condition fault) := .ite (.pure _) (.throw _)

end Xice.Lib.Exec.Keeps

namespace Xice.PseudoTcp

open Xice.Lib Exec

/-- The fields that few functions change are the same. -/
structure PseudoTcpSocket.Framed (s s' : PseudoTcpSocket) : Prop where
  state : s'.state = s.state
  rcvNxt : s'.rcvNxt = s.rcvNxt
  tAck : s'.tAck = s.tAck
  rxRto : s'.rxRto = s.rxRto
  sndNxt : s'.sndNxt = s.sndNxt
  sndUna : s'.sndUna = s.sndUna
  sndWnd : s'.sndWnd = s.sndWnd

/-- Those fields, to compare them at once. -/
def PseudoTcpSocket.framed (s : PseudoTcpSocket) :
    PseudoTcpState × UInt32 × UInt32 × UInt32 × UInt32 × UInt32 × UInt32 :=
  (s.state, s.rcvNxt, s.tAck, s.rxRto, s.sndNxt, s.sndUna, s.sndWnd)

/-- They are compared at once. -/
theorem PseudoTcpSocket.Framed.of_eq {s s' : PseudoTcpSocket} (same : s'.framed = s.framed) :
    s.Framed s' := by
  obtain ⟨state, rcvNxt, tAck, rxRto, sndNxt, sndUna, sndWnd⟩ := by
    simpa only [framed, Prod.mk.injEq] using same
  exact ⟨state, rcvNxt, tAck, rxRto, sndNxt, sndUna, sndWnd⟩

/-- Events of the queues. -/
def Event.OfQueue : Event → Prop
  | .queued _ _ => True
  | .received _ => True
  | _ => False

/-- Events of the callbacks. -/
def Event.Notice : Event → Prop
  | .opened => True
  | .readable => True
  | .writable => True
  | .closed _ => True
  | _ => False

/-- A relation to the states after a program that sending does not touch. -/
structure Frame (R : World → World → Prop) : Prop where
  sock : ∀ {w₀ w : World} {s : PseudoTcpSocket}, R w₀ w → w.sock.Framed s →
    R w₀ { w with sock := s }
  event : ∀ {w₀ w : World} {event : Event}, R w₀ w → event.OfQueue →
    R w₀ { w with trace := w.trace ++ [event] }
  reply : ∀ {w₀ w : World}, R w₀ w → R w₀ { w with pos := w.pos + 1 }
  packet : ∀ {user : UserCode}, (∀ w₀ calls, Keeps (R w₀) (user calls)) →
    ∀ (w₀ : World) (seq : UInt32) (flags : UInt8) (data : Option Mem) (len : UInt32),
      Keeps (R w₀) (packet user seq flags data len)
  transmit : ∀ {user : UserCode}, (∀ w₀ calls, Keeps (R w₀) (user calls)) →
    ∀ (w₀ : World) (index : Nat) (now : UInt32), Keeps (R w₀) (transmit user index now)

/-- A measurement and the connection state do not touch it either. -/
structure FullFrame (R : World → World → Prop) : Prop extends Frame R where
  state : ∀ {w₀ w : World} (state : PseudoTcpState), R w₀ w →
    R w₀ { w with sock := { w.sock with state := state } }
  notice : ∀ {w₀ w : World} {event : Event}, R w₀ w → event.Notice →
    R w₀ { w with trace := w.trace ++ [event] }
  measured : ∀ {w₀ w : World} (rtt : Int), R w₀ w → R w₀ { w with sock := w.sock.measured rtt }

/-- The send queue and the retransmit timer do not touch it either. -/
structure AckFrame (R : World → World → Prop) : Prop extends FullFrame R where
  outgoing : ∀ {w₀ w : World} (o : Outgoing) (rtoBase : UInt32), R w₀ w →
    R w₀ { w with sock := { w.sock with toOutgoing := o, rtoBase := rtoBase } }

/-- Smaller segments change segment size and congestion window. -/
theorem PseudoTcpSocket.lowerMss_framed (count : UInt32) (levels : List UInt32)
    (s : PseudoTcpSocket) : s.Framed (s.lowerMss count levels).1 := by
  induction levels generalizing s with
  | nil => exact .of_eq rfl
  | cons maximum levels ih =>
    simp only [PseudoTcpSocket.lowerMss]
    split
    · exact .of_eq rfl
    · split
      · exact .of_eq rfl
      · obtain ⟨state, rcvNxt, tAck, rxRto, sndNxt, sndUna, sndWnd⟩ := ih _
        exact ⟨state, rcvNxt, tAck, rxRto, sndNxt, sndUna, sndWnd⟩

/-- The limits of the retransmission timeout. -/
theorem limit_range {state : PseudoTcpState} {limit : UInt32} (chosen : (match state with
    | .listen | .synSent | .synReceived => defRto
    | .established | .closed => maxRto) = limit) : 250 ≤ limit.toNat ∧ limit ≤ maxRto := by
  subst chosen
  cases state <;> decide

section Transmit

variable {R : World → Prop} {user : UserCode}
  (sock : ∀ {w : World} {s : PseudoTcpSocket}, R w → w.sock.Framed s → R { w with sock := s })
  (outgoing : ∀ {w : World} (o : Outgoing) (rtoBase : UInt32), R w →
    R { w with sock := { w.sock with toOutgoing := o, rtoBase := rtoBase } })
  (packet : ∀ seq flags data len, Keeps R (packet user seq flags data len))

include sock packet

/-- What `packet` keeps, the loop of `transmit` keeps. -/
theorem transmitLoop_keeps (index fuel : Nat) (nTransmit : UInt32) :
    Keeps R (transmitLoop user index fuel nTransmit) := by
  have segment (count : UInt32) : Keeps R (sendSegment user index count) := by
    refine .bind .getSock fun s => ?_
    cases s.slist[index]? with
    | none => exact .throw _
    | some segment => exact packet _ _ _ _
  induction fuel generalizing nTransmit with
  | zero => exact .throw _
  | succ fuel ih =>
    refine .bind (segment _) fun result => ?_
    cases result with
    | success => exact .pure _
    | fail => exact .pure _
    | tooLarge =>
      intro w related
      simp only [↓wp_rules]
      have lowered := sock related (w.sock.lowerMss_framed nTransmit
        (packetMaximums.drop (w.sock.msslevel.toNat + 1)))
      split
      · exact ih _ _ lowered
      · exact lowered

include outgoing

/-- `transmit` keeps it when the send queue does not matter. -/
theorem transmit_keeps (index : Nat) (now : UInt32) : Keeps R (transmit user index now) := by
  refine .bind .getSock fun s => ?_
  cases s.slist[index]? with
  | none => exact .throw _
  | some segment =>
    refine .ite (.pure _) (.bind (transmitLoop_keeps sock packet _ _ _) fun count => ?_)
    cases count with
    | none => exact .pure _
    | some count =>
      refine .bind (Keeps.modify fun w related => ?_) fun _ => .pure _
      dsimp only [PseudoTcpSocket.transmitted]
      split
      · exact outgoing _ _ related
      · exact related

end Transmit

namespace Frame

variable {R : World → World → Prop} (frame : Frame R) {w₀ : World}

include frame

/-- Changes of other fields keep it. -/
theorem modifySock {f : PseudoTcpSocket → PseudoTcpSocket}
    (framed : ∀ s : PseudoTcpSocket, s.Framed (f s)) : Keeps (R w₀) (modifySock f) :=
  Keeps.modify fun w kept => frame.sock kept (framed w.sock)

/-- So do changes that frame nothing. -/
theorem setSock {f : PseudoTcpSocket → PseudoTcpSocket}
    (same : ∀ s, (f s).framed = s.framed) : Keeps (R w₀) (PseudoTcp.modifySock f) :=
  frame.modifySock fun s => .of_eq (same s)

/-- So do events of the queue. -/
theorem emit {event : Event} (queue : event.OfQueue) : Keeps (R w₀) (emit event) :=
  Keeps.modify fun _ kept => frame.event kept queue

/-- A reply of the environment keeps it. -/
theorem nextReply : Keeps (R w₀) nextReply := by
  intro w kept
  rw [ends, wp_nextReply]
  exact frame.reply kept

/-- So does the clock. -/
theorem getCurrentTime : Keeps (R w₀) getCurrentTime := .bind frame.nextReply fun _ => .pure _

/-- `queue` keeps it. -/
theorem queue (data : Mem) (len : UInt32) (bCtrl : Bool) : Keeps (R w₀) (queue data len bCtrl) := by
  have append (len : UInt32) : Keeps (R w₀) (do
      PseudoTcp.emit (.queued bCtrl (data.read len.toNat))
      PseudoTcp.modifySock fun s => { s with toOutgoing := s.toOutgoing.enqueue data len bCtrl }
      return len) :=
    .bind (frame.emit trivial) fun _ => .bind (frame.setSock fun _ => rfl) fun _ =>
      .pure _
  exact .bind .getSock fun _ => .ite (.bind (.require _ _) fun _ => append _) (append _)

/-- The next segment may be cut. -/
theorem nextSegment (nAvailable : UInt32) : Keeps (R w₀) (nextSegment nAvailable) := by
  refine .bind .getSock fun s => ?_
  cases s.slist.findIdx? (fun segment => segment.xmit = 0) with
  | none => exact .throw _
  | some index =>
    refine .ite (.bind (frame.setSock fun s => ?_) fun _ => .pure _) (.pure _)
    unfold Outgoing.splitSegment
    cases s.slist[index]? with
    | none | some => rfl

/-- `close` keeps it. -/
theorem close (force : Bool) : Keeps (R w₀) (close force) :=
  (frame.setSock fun _ => rfl)

/-- `notify_mtu` keeps it. -/
theorem notifyMtu (mtu : UInt16) : Keeps (R w₀) (notifyMtu mtu) := by
  refine frame.modifySock fun s => ?_
  dsimp only
  split <;> exact .of_eq rfl

/-! ## With application code -/

variable {user : UserCode} (kept : ∀ w₀ calls, Keeps (R w₀) (user calls))
include kept

/-- The delayed acknowledgement timer is started here only. -/
theorem acknowledge {sflags : SendFlags} (timer : sflags = .delayedAck → ∀ (w : World) (now : UInt32),
    R w₀ w → R w₀ { w with sock := { w.sock with tAck := now } }) :
    Keeps (R w₀) (acknowledge user sflags) := by
  intro w related
  simp only [PseudoTcp.acknowledge, ↓wp_rules]
  split
  · exact related
  · rename_i some
    split
    · exact frame.packet kept _ _ _ _ _ w related
    · rename_i later
      refine timer ?_ _ _ (frame.reply related)
      cases sflags with
      | none => exact absurd rfl some
      | immediateAck => exact absurd (.inl rfl) later
      | delayedAck => rfl

/-- The loop of `attempt_send` keeps it. -/
theorem attemptSendLoop (now : UInt32) (fuel : Nat) {sflags : SendFlags}
    (timer : sflags = .delayedAck → ∀ (w : World) (now : UInt32),
      R w₀ w → R w₀ { w with sock := { w.sock with tAck := now } }) :
    Keeps (R w₀) (attemptSendLoop user now fuel sflags) := by
  induction fuel generalizing sflags with
  | zero => exact .throw _
  | succ fuel ih =>
    exact .bind .getSock fun _ => .ite (frame.acknowledge kept timer) (.ite (.pure _)
      (.bind (frame.nextSegment _) fun _ => .bind (frame.transmit kept _ _ _) fun _ =>
        .ite (ih nofun) (.pure _)))

/-- So does `attempt_send`. -/
theorem attemptSend {sflags : SendFlags} (timer : sflags = .delayedAck → ∀ (w : World) (now : UInt32),
    R w₀ w → R w₀ { w with sock := { w.sock with tAck := now } }) :
    Keeps (R w₀) (attemptSend user sflags) :=
  .bind frame.getCurrentTime fun _ => .bind (frame.setSock fun _ => rfl) fun _ =>
    .bind .getSock fun _ => frame.attemptSendLoop kept _ _ timer

/-- `recv` keeps it. -/
theorem recv (len : UInt64) : Keeps (R w₀) (recv user len) := by
  unfold PseudoTcp.recv
  refine .bind .getSock fun _ =>
    .ite (.bind (frame.setSock fun _ => rfl) fun _ => .pure _)
      (.ite (.bind (frame.setSock fun _ => rfl) fun _ => .pure _)
        (.bind (frame.emit trivial) fun _ => .bind (frame.setSock fun _ => rfl)
          fun _ => .bind .getSock fun _ => ?_))
  exact .ite (.bind (frame.modifySock fun _ => ⟨rfl, rfl, rfl, rfl, rfl, rfl, rfl⟩) fun _ =>
    .ite (.bind (frame.attemptSend kept nofun) fun _ => .pure _) (.pure _)) (.pure _)

/-- `send` keeps it. -/
theorem send (buffer : Mem) (len : UInt32) : Keeps (R w₀) (send user buffer len) :=
  .bind .getSock fun _ =>
    .ite (.bind (frame.setSock fun _ => rfl) fun _ => .pure _)
      (.ite (.bind (frame.setSock fun _ => rfl) fun _ => .pure _)
        (.bind (frame.queue _ _ _) fun _ => .bind (frame.attemptSend kept nofun) fun _ =>
          .ite (.bind (frame.setSock fun _ => rfl) fun _ => .pure _) (.pure _)))

/-- Every call keeps it. -/
theorem runCall (call : Call) : Keeps (R w₀) (runCall user call) := by
  cases call with
  | recv len => exact .bind (frame.recv kept len) fun _ => .pure _
  | send buffer len => exact .bind (frame.send kept buffer len) fun _ => .pure _
  | close force => exact frame.close force
  | notifyMtu mtu => exact frame.notifyMtu mtu

/-- So do calls in a row. -/
theorem runCalls (calls : List Call) : Keeps (R w₀) (runCalls user calls) := by
  induction calls with
  | nil => exact .pure _
  | cons call calls ih => exact .bind (frame.runCall kept call) fun _ => ih

omit kept in
/-- Application code keeps the relation, however deep it nests. -/
theorem userCode (depth : Nat) (w₀ : World) (calls : List Call) :
    Keeps (R w₀) (userCode depth calls) := by
  induction depth generalizing w₀ calls with
  | zero => exact .pure _
  | succ depth ih => exact frame.runCalls ih calls

end Frame

namespace FullFrame

variable {R : World → World → Prop} (frame : FullFrame R) {w₀ : World}
include frame

/-- A measurement keeps it. -/
theorem measureRtt (seg : Segment) (now : UInt32) : Keeps (R w₀) (measureRtt seg now) :=
  .ite (.bind (.require _ _) fun _ => Keeps.modify fun _ kept => frame.measured _ kept) (.pure _)

/-- A new connection state keeps it. -/
theorem setState (state : PseudoTcpState) {f : PseudoTcpSocket → PseudoTcpSocket}
    (same : ∀ s, (f s).framed = { s with state := state }.framed) : Keeps (R w₀) (modifySock f) :=
  Keeps.modify fun w kept =>
    have moved := frame.sock (frame.state state kept) (.of_eq (same w.sock))
    moved

variable {user : UserCode} (kept : ∀ w₀ calls, Keeps (R w₀) (user calls))
include kept

/-- Callbacks keep it. -/
theorem callback {event : Event} (notice : event.Notice) : Keeps (R w₀) (callback user event) :=
  .bind (Keeps.modify fun _ related => frame.notice related notice) fun _ =>
    .bind frame.nextReply fun _ => frame.runCalls kept _

/-- `closedown` keeps it. -/
theorem closedown (err : Errno) : Keeps (R w₀) (closedown user err) :=
  .bind (frame.setState .closed fun _ => rfl) fun _ => frame.callback kept trivial

/-- Control data is looked at when there is some. -/
theorem processControl (buffer : Mem) {seg : Segment} (look : seg.len ≠ 0 → ∀ w, R w₀ w →
    R w₀ { w with trace := w.trace ++ [.packetRead seg.data 1] }) :
    Keeps (R w₀) (processControl user buffer seg) := by
  refine .ite (.pure _) ?_
  by_cases empty : seg.len = 0
  · rw [if_pos empty]
    exact .pure _
  · rw [if_neg empty]
    refine .bind (Keeps.modify (look empty)) fun _ => .ite (.pure _) (.bind .getSock fun _ =>
      .ite ?_ (.ite ?_ (.pure _)))
    · exact .bind (frame.setState .synReceived fun _ => rfl) fun _ =>
        .bind (frame.queue _ _ _) fun _ => .pure _
    · exact .bind (frame.setState .established fun _ => rfl) fun _ =>
        .bind (frame.callback kept trivial) fun _ => .pure _

/-- The congestion window does not matter. -/
theorem growWindow (now nAcked : UInt32) : Keeps (R w₀) (growWindow user now nAcked) :=
  .bind .getSock fun _ => .ite
    (.ite (.bind (frame.setSock fun _ => rfl) fun _ => .pure _)
      (.bind (frame.transmit kept _ _ _) fun _ => .ite
        (.bind (frame.setSock fun _ => rfl) fun _ => .pure _)
        (.bind (frame.closedown kept _) fun _ => .pure _)))
    (.ite (.bind (frame.setSock fun _ => rfl) fun _ => .pure _)
      (.bind (.require _ _) fun _ => .bind (frame.setSock fun _ => rfl) fun _ =>
        .pure _))

/-- The notice of an open connection keeps it. -/
theorem announceOpened (bConnect : Bool) : Keeps (R w₀) (announceOpened user bConnect) :=
  .bind .getSock fun _ => .ite (.bind (frame.setState .established fun _ => rfl) fun _ =>
    frame.callback kept trivial) (.pure _)

/-- So does that of room to write. -/
theorem announceWritable : Keeps (R w₀) (announceWritable user) :=
  .bind .getSock fun _ => .ite (.bind (frame.setSock fun _ => rfl) fun _ =>
    frame.callback kept trivial) (.pure _)

/-- So does that of data to read. -/
theorem announceReadable (bNewData : Bool) : Keeps (R w₀) (announceReadable user bNewData) :=
  .bind .getSock fun _ => .ite (.bind (frame.setSock fun _ => rfl) fun _ =>
    frame.callback kept trivial) (.pure _)

end FullFrame

namespace AckFrame

variable {R : World → World → Prop} (frame : AckFrame R) {w₀ : World}
include frame

/-- The acknowledged bytes leave the send queue. -/
theorem releaseAcked (seg : Segment) (now : UInt32) : Keeps (R w₀) (releaseAcked seg now) := by
  refine .bind .getSock fun s => .bind (Keeps.modify fun w related => ?_) fun _ => ?_
  · exact frame.outgoing (w.sock.acknowledged seg.ack seg.wnd) _ related
  · cases freeSegments s.slist (seg.ack - s.sndUna) s.largest with
    | none => exact .throw _
    | some rest => exact frame.setSock fun _ => rfl

variable {user : UserCode} (kept : ∀ w₀ calls, Keeps (R w₀) (user calls))
include kept

/-- An acknowledgement of new data. -/
theorem processNewAck (seg : Segment) (now : UInt32) (bConnect : Bool) :
    Keeps (R w₀) (processNewAck user seg now bConnect) :=
  .bind (frame.measureRtt _ _) fun _ => .bind .getSock fun _ => .bind (frame.releaseAcked _ _) fun _ =>
    .bind (frame.growWindow kept _ _) fun _ => .ite
      (.bind (frame.announceOpened kept _) fun _ => .bind (frame.announceWritable kept) fun _ =>
        .pure _)
      (.pure _)

/-- A repeated acknowledgement. -/
theorem processDupAck (seg : Segment) (now : UInt32) :
    Keeps (R w₀) (processDupAck user seg now) := by
  refine .bind (Keeps.modify fun w related => frame.outgoing { w.sock.toOutgoing with
    sndWnd := seg.wnd.toUInt32 } w.sock.rtoBase related) fun _ => .bind .getSock fun _ =>
    .ite (.pure _) (.ite ?_ (.bind (frame.setSock fun _ => rfl) fun _ => .pure _))
  refine .bind (frame.setSock fun _ => rfl) fun _ => .ite ?_
    (.ite (.bind (frame.setSock fun _ => rfl) fun _ => .pure _) (.pure _))
  exact .bind (frame.transmit kept _ _ _) fun _ => .ite
    (.bind (frame.setSock fun _ => rfl) fun _ => .pure _)
    (.bind (frame.closedown kept _) fun _ => .pure _)

/-- The acknowledgement number. -/
theorem processAck (seg : Segment) (now : UInt32) (bConnect : Bool) :
    Keeps (R w₀) (processAck user seg now bConnect) :=
  .bind .getSock fun _ => .ite (frame.processNewAck kept _ _ _)
    (.ite (frame.processDupAck kept _ _) (.pure _))

end AckFrame

end Xice.PseudoTcp
