import Xice.PseudoTcp.Limits

/-!
# Limits and progress of whole runs

In every run the gauge and the packets stay inside their limits; and as long as the clock does not
read zero, `WritePacket` succeeds and the congestion window does not wrap, no entry point leaves
bytes behind that nothing will send.
-/

namespace Xice.PseudoTcp

open Xice.Lib Exec Relation Word

variable {free : Prop} {w w' : World} {seg : Segment} {now : UInt32}

/-! ## Acknowledgements -/

variable (buffer : Mem) (bConnect : Bool)

/-- A measurement keeps the timeout between its bounds. -/
theorem measured_rto (s : PseudoTcpSocket) (rtt : Int) :
    250 ≤ (s.measured rtt).rxRto.toNat ∧ (s.measured rtt).rxRto.toNat ≤ 60000 := by
  simp only [PseudoTcpSocket.measured, bound, toNat_min32, toNat_max32]
  have least : minRto.toNat = 250 := rfl
  have most : maxRto.toNat = 60000 := rfl
  omega

/-- New acknowledged data does not wrap the congestion window. -/
def PseudoTcpSocket.Grows (s : PseudoTcpSocket) (nAcked : UInt32) : Prop :=
  if s.dupAcks ≥ 3 then
    s.sndUna ≥ s.recover ∨
      s.cwnd.toNat - min nAcked.toNat s.cwnd.toNat + s.mss.toNat < 2 ^ 32
  else if s.cwnd < s.ssthresh then s.cwnd.toNat + s.mss.toNat < 2 ^ 32
  else s.cwnd.toNat + max 1 (s.mss * s.mss / s.cwnd).toNat < 2 ^ 32
  deriving Decidable

/-- The acknowledgement number of a segment does not. -/
def PseudoTcpSocket.CwndFits (s : PseudoTcpSocket) (seg : Segment) : Prop :=
  if seg.ack > s.sndUna ∧ seg.ack ≤ s.sndNxt then
    { s with sndUna := seg.ack }.Grows (seg.ack - s.sndUna)
  else seg.ack = s.sndUna → seg.len = 0 → s.sndUna ≠ s.sndNxt → s.dupAcks + 1 > 3 →
    s.cwnd.toNat + s.mss.toNat < 2 ^ 32
  deriving Decidable

/-- Between the release of acknowledged bytes and the new congestion window. -/
structure Releasing (free : Prop) (nAcked : UInt32) (w : World) : Prop where
  fit : Fit True w
  replies : free ∨ ∀ n, (w.env n).clock ≠ 0 ∧ (w.env n).wres = .success
  armed : free ∨ (w.sock.state ≠ .closed → w.sock.sndUna ≠ w.sock.sndNxt → w.sock.rtoBase ≠ 0)
  window : free ∨ w.sock.cwnd ≠ 0
  grows : free ∨ w.sock.Grows nAcked
  flight : free ∨ w.sock.inFlight.toNat ≤ 92160

/-- A change of the congestion window after an acknowledgement. -/
theorem Releasing.update {nAcked cwnd : UInt32} (releasing : Releasing free nAcked w)
    (opened : free ∨ cwnd ≠ 0) :
    Fit free { w with sock := { w.sock with dupAcks := 0, cwnd := cwnd } } := by
  obtain ⟨calls, -, limits, packets, -⟩ := releasing.fit
  refine ⟨calls, releasing.replies, { limits with }, packets, ?_⟩
  rcases releasing.armed with free | armed
  · exact .inl free
  · have none : (0 : UInt8) ≠ 1 ∧ (0 : UInt8) ≠ 2 := by decide
    exact opened.imp_right fun opened => ⟨armed, opened, fun _ => none⟩

/-- A sum that does not wrap and has a term that is not zero. -/
theorem add_ne_zero {a b : UInt32} (positive : a ≠ 0) (fits : a.toNat + b.toNat < 2 ^ 32) :
    a + b ≠ 0 := by
  have positive := mt eq_zero32.mpr positive
  rw [ne_eq, eq_zero32, toNat_add32 fits]
  omega

/-- The congestion window after an acknowledgement of new data. -/
theorem growWindow_fit (nAcked : UInt32) (ticks : free ∨ now ≠ 0)
    (releasing : Releasing free nAcked w) :
    wp (growWindow (userCode 0) now nAcked)
      (fun go w' => Fit free w' ∧ (go = false → free ∨ w'.sock.Settled)) Faulty w := by
  have mss : 1 ≤ w.sock.mss.toNat ∧ w.sock.mss.toNat ≤ 65419 := releasing.fit.limits.mss
  have ssthresh : 2 * w.sock.mss.toNat ≤ w.sock.ssthresh.toNat := releasing.fit.limits.ssthresh
  simp only [growWindow, ↓wp_rules]
  split
  · rename_i three
    have many : w.sock.dupAcks ≠ 1 ∧ w.sock.dupAcks ≠ 2 := by
      constructor
      · intro one
        rw [one] at three
        exact absurd three (by decide)
      · intro two
        rw [two] at three
        exact absurd three (by decide)
    split
    · refine ⟨releasing.update ?_, by simp⟩
      refine releasing.flight.imp_right fun flight => ?_
      rw [ne_eq, eq_zero32, toNat_min32, toNat_add32 (by omega)]
      omega
    · rename_i partly
      have fit : Fit free w := by
        obtain ⟨calls, -, limits, packets, -⟩ := releasing.fit
        refine ⟨calls, releasing.replies, limits, packets, ?_⟩
        rcases releasing.armed with free | armed
        · exact .inl free
        · exact releasing.window.imp_right fun window => ⟨armed, window, fun _ => many⟩
      refine wp_imp (transmit_fit 0 now fit ticks (.inr (.inl many))) ?_
      rintro sent w₁ ⟨fit₁, same⟩
      split
      · refine ⟨fit₁.move rfl { fit₁.limits with } ?_, by simp⟩
        rcases same with free | ⟨cwnd, size, -⟩
        · exact .inl free
        · rcases releasing.grows with free | grows
          · exact .inl free
          · refine fit₁.lively.imp_right fun lively => ⟨lively.armed, ?_, lively.limited⟩
            rw [PseudoTcpSocket.Grows, if_pos three] at grows
            have grows := grows.resolve_left partly
            change w₁.sock.cwnd + (w₁.sock.mss - min nAcked w₁.sock.cwnd) ≠ 0
            rw [cwnd, size]
            have least : (min nAcked w.sock.cwnd).toNat = min nAcked.toNat w.sock.cwnd.toNat :=
              toNat_min32 _ _
            have moved : w.sock.cwnd + (w.sock.mss - min nAcked w.sock.cwnd) =
                w.sock.mss + (w.sock.cwnd - min nAcked w.sock.cwnd) := by grind
            rw [moved]
            have rest : (w.sock.cwnd - min nAcked w.sock.cwnd).toNat =
                w.sock.cwnd.toNat - min nAcked.toNat w.sock.cwnd.toNat := by
              rw [toNat_sub32 (by omega), least]
            exact add_ne_zero (by rw [ne_eq, eq_zero32]; omega) (by omega)
      · refine wp_imp (closedown_fit .econnaborted fit₁) ?_
        exact fun _ _ => .imp_right fun settled _ => settled
  · rename_i few
    split
    · rename_i slow
      refine ⟨releasing.update ?_, by simp⟩
      rcases releasing.window with free | window
      · exact .inl free
      · refine releasing.grows.imp_right fun grows => ?_
        rw [PseudoTcpSocket.Grows, if_neg few, if_pos slow] at grows
        exact add_ne_zero window grows
    · rename_i fast
      have fast := UInt32.le_iff_toNat_le.mp (UInt32.not_lt.mp fast)
      have divisor : w.sock.cwnd ≠ 0 := by
        rw [ne_eq, eq_zero32]
        omega
      rw [if_pos divisor]
      refine ⟨releasing.update ?_, by simp⟩
      refine releasing.grows.imp_right fun grows => ?_
      rw [PseudoTcpSocket.Grows, if_neg few, if_neg (by assumption)] at grows
      refine add_ne_zero divisor ?_
      rwa [toNat_max32]

variable (fit : Fit free w)

include fit

/-- The round-trip measurement changes the timeout only. -/
theorem measureRtt_fit :
    wp (measureRtt seg now)
      (fun _ w' => Fit free w' ∧ ∃ rxRttvar rxSrtt rxRto, w'.sock =
        { w.sock with rxRttvar := rxRttvar, rxSrtt := rxSrtt, rxRto := rxRto }) Faulty w := by
  simp only [measureRtt, ↓wp_rules]
  split
  · split
    · have rto := measured_rto w.sock (timeDiff now seg.tsecr)
      refine ⟨fit.move rfl { fit.limits with rto := rto } ?_, _, _, _, rfl⟩
      exact fit.lively.imp_right fun lively => { lively with }
    · exact ⟨by decide, fit.loose⟩
  · exact ⟨fit, _, _, _, rfl⟩

/-- The release of acknowledged bytes. -/
theorem releaseAcked_fit (ticks : free ∨ now ≠ 0)
    (new : w.sock.sndUna < seg.ack) (sent : seg.ack ≤ w.sock.sndNxt)
    (grows : free ∨ { w.sock with sndUna := seg.ack }.Grows (seg.ack - w.sock.sndUna))
    (flight : free ∨ w.sock.inFlight.toNat ≤ 92160) :
    wp (releaseAcked seg now) (fun _ w' => Releasing free (seg.ack - w.sock.sndUna) w') Faulty w := by
  have wnd : seg.wnd.toUInt32.toNat ≤ 65535 := by
    have := seg.wnd.toNat_lt
    rw [UInt16.toNat_toUInt32]
    omega
  simp only [releaseAcked, ↓wp_rules]
  cases freeSegments w.sock.slist (seg.ack - w.sock.sndUna) w.sock.largest with
  | none =>
    simp only [↓wp_rules]
    exact ⟨by decide, fit.loose.move rfl { fit.limits with peer := wnd } (.inl trivial)⟩
  | some freed =>
    simp only [↓wp_rules]
    refine ⟨fit.loose.move rfl { fit.limits with peer := wnd } (.inl trivial), fit.replies,
      ticks.imp_right fun ticks _ apart => ?_, fit.lively.imp_right Gauge.Lively.window, grows, ?_⟩
    · have apart : seg.ack ≠ w.sock.sndNxt := apart
      change (if seg.ack = w.sock.sndNxt then 0 else now) ≠ 0
      rwa [if_neg apart]
    · refine flight.imp_right fun flight => ?_
      have new := UInt32.lt_iff_toNat_lt.mp new
      have sent := UInt32.le_iff_toNat_le.mp sent
      have before : w.sock.inFlight.toNat = w.sock.sndNxt.toNat - w.sock.sndUna.toNat :=
        toNat_sub32 (by omega)
      change (w.sock.sndNxt - seg.ack).toNat ≤ 92160
      rw [toNat_sub32 sent]
      omega

/-- The connection is established. -/
theorem established_fit (live : w.sock.state ≠ .closed) :
    Fit free { w with sock := { w.sock with state := .established }.adjustMTU } := by
  refine fit.move rfl (Gauge.Limited.adjustMTU { fit.limits with })
    (fit.lively.imp_right fun lively => Gauge.Lively.adjustMTU ?_)
  exact { lively with armed := fun _ => lively.armed live }

/-- The connection is established by an acknowledgement. -/
theorem announceOpened_fit :
    wp (announceOpened (userCode 0) bConnect) (fun _ => Fit free) Faulty w := by
  simp only [announceOpened, ↓wp_rules]
  split
  · rename_i opening
    have live : w.sock.state ≠ .closed := by
      rw [opening.1]
      decide
    exact wp_imp (callback_carries .opened (established_fit fit live) (by simp))
      (fun _ _ after => after.fit)
  · exact fit

/-- The notice of room to write. -/
theorem announceWritable_fit : wp (announceWritable (userCode 0)) (fun _ => Fit free) Faulty w := by
  simp only [announceWritable, ↓wp_rules]
  split
  · exact wp_imp (callback_carries .writable (fit.same rfl) (by simp))
      (fun _ _ after => after.fit)
  · exact fit

/-- An acknowledgement of new data keeps the invariant. -/
theorem processNewAck_fit (ticks : free ∨ now ≠ 0)
    (new : w.sock.sndUna < seg.ack) (sent : seg.ack ≤ w.sock.sndNxt)
    (grows : free ∨ { w.sock with sndUna := seg.ack }.Grows (seg.ack - w.sock.sndUna))
    (flight : free ∨ w.sock.inFlight.toNat ≤ 92160) :
    wp (processNewAck (userCode 0) seg now bConnect)
      (fun go w' => Fit free w' ∧ (go = false → free ∨ w'.sock.Settled)) Faulty w := by
  simp only [processNewAck, ↓wp_rules]
  refine wp_imp (measureRtt_fit fit) ?_
  rintro _ w₁ ⟨fit₁, rxRttvar, rxSrtt, rxRto, same⟩
  have una : w₁.sock.sndUna = w.sock.sndUna := by rw [same]
  refine wp_imp (releaseAcked_fit fit₁ ticks (by rw [una]; exact new) (by rw [same]; exact sent)
    (by rw [same]; exact grows) (by rw [same]; exact flight)) ?_
  intro _ w₂ releasing
  refine wp_imp (growWindow_fit _ ticks releasing) ?_
  rintro go w₃ ⟨fit₃, closed⟩
  cases go with
  | false =>
    simp only [Bool.false_eq_true, ite_false]
    exact ⟨fit₃, fun _ => closed rfl⟩
  | true =>
    simp only [ite_true]
    refine wp_imp (announceOpened_fit bConnect fit₃) ?_
    intro _ w₄ fit₄
    refine wp_imp (announceWritable_fit fit₄) ?_
    intro _ w₅ fit₅
    exact ⟨fit₅, by simp⟩

omit fit

/-- The threshold after a loss is at least two segments, and three more fit. -/
theorem halved_threshold {mss : UInt32} (outstanding : UInt32) (range : mss.toNat ≤ 65419) :
    2 * mss.toNat ≤ (max (outstanding / 2) (2 * mss)).toNat ∧
      (max (outstanding / 2) (2 * mss)).toNat + (3 * mss).toNat < 2 ^ 32 := by
  have twice : (2 * mss).toNat = 2 * mss.toNat := by
    rw [UInt32.toNat_mul]
    exact Nat.mod_eq_of_lt (by change 2 * _ < _; omega)
  have thrice : (3 * mss).toNat = 3 * mss.toNat := by
    rw [UInt32.toNat_mul]
    exact Nat.mod_eq_of_lt (by change 3 * _ < _; omega)
  have half : (outstanding / 2).toNat = outstanding.toNat / 2 := UInt32.toNat_div _ _
  have small := outstanding.toNat_lt
  rw [toNat_max32, twice, thrice, half]
  omega

/-- A repeated acknowledgement keeps the invariant. -/
theorem processDupAck_fit (fit : Fit free w) (ticks : free ∨ now ≠ 0)
    (grows : free ∨ (seg.len = 0 → w.sock.sndUna ≠ w.sock.sndNxt → w.sock.dupAcks + 1 > 3 →
      w.sock.cwnd.toNat + w.sock.mss.toNat < 2 ^ 32)) :
    wp (processDupAck (userCode 0) seg now)
      (fun go w' => Fit free w' ∧ (go = false → free ∨ w'.sock.Settled)) Faulty w := by
  have wnd : seg.wnd.toUInt32.toNat ≤ 65535 := by
    have := seg.wnd.toNat_lt
    rw [UInt16.toNat_toUInt32]
    omega
  have updated : Fit free { w with sock := { w.sock with sndWnd := seg.wnd.toUInt32 } } :=
    fit.move rfl { fit.limits with peer := wnd } (fit.lively.imp_right fun lively => { lively with })
  simp only [processDupAck, ↓wp_rules]
  split
  · exact ⟨updated, by simp⟩
  · rename_i empty
    split
    · rename_i apart
      have counted : Fit free { w with sock := { w.sock with
          sndWnd := seg.wnd.toUInt32, dupAcks := w.sock.dupAcks + 1 } } :=
        updated.move rfl { updated.limits with } (updated.lively.imp_right fun lively =>
          { lively with limited := fun met => absurd met apart })
      split
      · rename_i third
        have many : w.sock.dupAcks + 1 ≠ 1 ∧ w.sock.dupAcks + 1 ≠ 2 := by
          rw [third]
          decide
        refine wp_imp (transmit_fit 0 now counted ticks (.inr (.inl many))) ?_
        rintro sent w₁ ⟨fit₁, _⟩
        split
        · have range : 1 ≤ w₁.sock.mss.toNat ∧ w₁.sock.mss.toNat ≤ 65419 := fit₁.limits.mss
          obtain ⟨least, most⟩ := halved_threshold w₁.sock.inFlight range.2
          refine ⟨fit₁.move rfl { fit₁.limits with ssthresh := least }
            (fit₁.lively.imp_right fun lively => { lively with window := ?_ }), by simp⟩
          refine add_ne_zero ?_ most
          rw [ne_eq, eq_zero32]
          omega
        · refine wp_imp (closedown_fit .econnaborted fit₁) ?_
          exact fun _ _ => .imp_right fun settled _ => settled
      · split
        · rename_i more
          refine ⟨counted.move rfl { counted.limits with } ?_, by simp⟩
          rcases grows with free | grows
          · exact .inl free
          · refine counted.lively.imp_right fun lively =>
              { lively with window := add_ne_zero lively.window (grows ?_ apart more) }
            have none := UInt32.le_iff_toNat_le.mp (UInt32.not_lt.mp empty)
            change _ ≤ 0 at none
            rw [eq_zero32]
            omega
        · exact ⟨counted, by simp⟩
    · have none : (0 : UInt8) ≠ 1 ∧ (0 : UInt8) ≠ 2 := by decide
      exact ⟨updated.move rfl { updated.limits with } (updated.lively.imp_right fun lively =>
        { lively with limited := fun _ => none }), by simp⟩

/-- The use of an acknowledgement number keeps the invariant. -/
theorem processAck_fit (fit : Fit free w) (ticks : free ∨ now ≠ 0)
    (grows : free ∨ w.sock.CwndFits seg) (flight : free ∨ w.sock.inFlight.toNat ≤ 92160) :
    wp (processAck (userCode 0) seg now bConnect)
      (fun go w' => Fit free w' ∧ (go = false → free ∨ w'.sock.Settled)) Faulty w := by
  simp only [processAck, ↓wp_rules]
  split
  · rename_i new
    refine processNewAck_fit bConnect fit ticks new.1 new.2 (grows.imp_right fun grows => ?_) flight
    rwa [PseudoTcpSocket.CwndFits, if_pos new] at grows
  · rename_i old
    split
    · rename_i same
      refine processDupAck_fit fit ticks (grows.imp_right fun grows => ?_)
      rw [PseudoTcpSocket.CwndFits, if_neg old] at grows
      exact grows same
    · exact ⟨fit, by simp⟩

/-! ## `process` -/

/-- `process` before the acknowledgement number: the time and `bConnect`, or nothing when the packet
is dropped. -/
def beforeAck (user : UserCode) (buffer : Mem) (seg : Segment) : Run (Option (UInt32 × Bool)) := do
  if seg.conv ≠ (← getSock).conv then
    return none
  let now ← getCurrentTime
  modifySock fun s => { s with lastTraffic := now, lastrecv := now, bOutgoing := false }
  if (← getSock).state = .closed then
    return none
  if seg.isRst then
    closedown user .econnreset
    return none
  match ← processControl user buffer seg with
  | none => return none
  | some bConnect =>
    modifySock fun s => s.updateTimestamp seg
    return some (now, bConnect)

/-- `process` goes on with the acknowledgement number and the payload. -/
theorem wp_process (user : UserCode) (buffer : Mem) (seg : Segment) (Q : Bool → World → Prop)
    (E : Fault → World → Prop) (w : World) :
    wp (process user buffer seg) Q E w =
      wp (beforeAck user buffer seg) (fun reached w₁ => match reached with
        | none => Q false w₁
        | some (now, bConnect) => wp (processAck user seg now bConnect) (fun goes w₂ =>
          if goes = true then wp (processData user buffer seg) (fun _ => Q true) E w₂
          else Q false w₂) E w₁) E w := by
  simp only [process, beforeAck, ↓wp_rules]
  split
  · rfl
  · split
    · rfl
    · split
      · rfl
      · congr 1
        funext bConnect w₁
        cases bConnect with
        | none | some => simp only [↓wp_rules]

/-- Control data keeps the invariant. -/
theorem processControl_fit (fit : Fit free w) :
    wp (processControl (userCode 0) buffer seg)
      (fun reached w' => Fit free w' ∧ (reached = none → free ∨ (w.sock.Settled → w'.sock.Settled)))
      Faulty w := by
  have looked : Fit free { w with trace := w.trace ++ [.packetRead seg.data 1] } :=
    fit.event rfl (by simp)
  simp only [processControl, ↓wp_rules]
  split
  · exact ⟨fit, by simp⟩
  · split
    · exact ⟨fit, fun _ => .inr id⟩
    · split
      · exact ⟨looked, fun _ => .inr id⟩
      · split
        · rename_i listening
          have live : w.sock.state ≠ .closed := by
            rw [listening]
            decide
          refine wp_imp (queue_fit _ 1 true (looked.move rfl { looked.limits with }
            (looked.lively.imp_right fun lively =>
              { lively with armed := fun _ => lively.armed live }))) ?_
          exact fun _ _ queued => ⟨queued.1, by simp⟩
        · split
          · rename_i requested
            have live : w.sock.state ≠ .closed := by
              rw [requested]
              decide
            refine wp_imp (callback_carries .opened (established_fit looked live) (by simp)) ?_
            exact fun _ _ after => ⟨after.fit, by simp⟩
          · exact ⟨looked, by simp⟩

/-- So does the payload. -/
theorem storeData_fit (cut : Segment) (sflags : SendFlags) (fit : Fit free w) :
    wp (storeData buffer cut sflags) (fun _ => Fit free) Faulty w := by
  have look : Fit free { w with trace := w.trace ++ [.packetRead cut.data cut.len.toNat] } :=
    fit.event rfl (by simp)
  have copied : Fit free { w with trace := w.trace ++ [.packetRead cut.data cut.len.toNat] ++
      [.rbufWrite (w.sock.rlen.toNat + (cut.seq - w.sock.rcvNxt).toNat) cut.len.toNat] } :=
    look.event rfl (by simp)
  simp only [storeData, ↓wp_rules]
  split
  · exact fit
  · split
    · split
      · exact fit.same rfl
      · exact fit
    · split
      · exact copied.same rfl
      · exact copied.same rfl

/-- The answer leaves the bytes for a peer with room in flight. -/
theorem processData_fit (fit : Fit free w) :
    wp (processData (userCode 0) buffer seg)
      (fun _ w' => Fit free w' ∧ (free ∨ w'.sock.Settled)) Faulty w := by
  simp only [processData, ↓wp_rules]
  refine wp_imp (storeData_fit buffer _ _ fit) ?_
  intro stored w₁ fit₁
  refine wp_imp (attemptSend_fit stored.1 fit₁) ?_
  rintro _ w₂ ⟨fit₂, settled⟩
  simp only [announceReadable, ↓wp_rules]
  split
  · refine wp_imp (callback_carries .readable (fit₂.same rfl) (by simp)) ?_
    intro _ w₃ after
    refine ⟨after.fit, ?_⟩
    rcases settled with free | settled
    · exact .inl free
    · exact after.settled.imp_right fun keeps => keeps settled
  · exact ⟨fit₂, settled⟩

/-- The queue bounds what is in flight. -/
theorem PseudoTcpSocket.Ordered.flight {s : PseudoTcpSocket} (ordered : s.Ordered)
    (live : s.state ≠ .closed) : s.inFlight.toNat ≤ 92160 := by
  obtain ⟨sent, unsent, parts⟩ := ordered.counted live
  have size : kSndBufSize.toNat = 92160 := rfl
  have room := parts.room
  have queued := parts.queued
  rw [parts.listed, Tiling.total_append] at queued
  rw [← parts.flight]
  omega

include fit

/-- What comes before the acknowledgement number keeps the invariant. -/
theorem beforeAck_fit (early : w.sock.Early) (ordered : w.sock.Ordered) :
    wp (beforeAck (userCode 0) buffer seg)
      (fun reached w' => match reached with
        | none => Carries free w w'
        | some (now, _) => Fit free w' ∧ (free ∨ now ≠ 0) ∧ w'.sock.inFlight.toNat ≤ 92160)
      Faulty w := by
  simp only [beforeAck, ↓wp_rules]
  split
  · exact .refl fit
  · generalize clock : (w.env w.pos).clock = now
    have ticks : free ∨ now ≠ 0 := by
      rw [← clock]
      exact fit.clock _
    generalize looked : ({ w with
      sock := { w.sock with lastTraffic := now, lastrecv := now, bOutgoing := false }
      pos := w.pos + 1 } : World) = w₁
    have fit₁ : Fit free w₁ := by
      rw [← looked]
      exact fit.same rfl
    have carries : Carries free w w₁ := by
      refine .of_same fit₁ ?_
      rw [← looked]
      rfl
    have ordered : w₁.sock.Ordered := by
      rw [← looked]
      exact Tuned.ordered (.of_same rfl) ordered
    have lives : Lives True w₁.toHistory w₁ := by
      refine ⟨.refl, ?_⟩
      rwa [← looked]
    split
    · exact carries
    · rename_i live
      have live : w₁.sock.state ≠ .closed := by
        rwa [← looked]
      split
      · refine wp_imp (closedown_fit .econnreset fit₁) ?_
        exact fun _ _ => .of_settled
      · have opening : Opening Call.MtuAbove w₁.toHistory w₁.toHistory :=
          ⟨.refl, fun _ => ⟨rfl, rfl⟩, fun _ _ => rfl⟩
        refine wp_mono (wp_and (processControl_fit buffer fit₁) (wp_and
          (@processControl_opening _ buffer seg now _ _ fit₁.calls opening rfl)
          (processControl_lives (userCode_calm 0) (fun _ _ _ _ => trivial) live lives))) ?_
          (fun _ _ stopped => stopped.1)
        rintro reached w₂ ⟨⟨fit₂, settled⟩, ⟨_, opened⟩, _, live₂, _⟩
        cases reached with
        | none =>
          rw [wp_pure]
          exact carries.trans ⟨fit₂, settled rfl⟩
        | some bConnect =>
          simp only [↓wp_rules]
          refine ⟨fit₂.same rfl, ticks, ?_⟩
          exact (ordered_of_quiet ordered opened.steps).flight live₂

/-- So does `process` when the congestion window does not wrap. -/
theorem process_carries (early : w.sock.Early) (ordered : w.sock.Ordered)
    (fits : free ∨ ∀ now bConnect w₁, beforeAck (userCode 0) buffer seg w =
      (.ok (some (now, bConnect)), w₁) → w₁.sock.CwndFits seg) :
    wp (process (userCode 0) buffer seg) (fun _ => Carries free w) Faulty w := by
  rw [wp_process]
  have known : wp (beforeAck (userCode 0) buffer seg) _ _ _ := beforeAck_fit buffer fit early ordered
  refine wp_intro ?_ (fun fault w₁ run => wp_error known run)
  intro reached w₁ run
  have after := wp_ok known run
  cases reached with
  | none => exact after
  | some reached =>
    obtain ⟨now, bConnect⟩ := reached
    obtain ⟨fit₁, ticks, flight⟩ := after
    have grows := fits.imp_right fun fits => fits now bConnect w₁ run
    refine wp_imp (processAck_fit bConnect fit₁ ticks grows (.inr flight)) ?_
    rintro goes w₂ ⟨fit₂, closed⟩
    cases goes with
    | false => exact ⟨fit₂, (closed rfl).imp_right fun settled _ => settled⟩
    | true =>
      refine wp_imp (processData_fit buffer fit₂) ?_
      exact fun _ _ => .of_settled

/-! ## Entry points -/

/-- `connect` carries the invariant. -/
theorem connect_carries : wp (connect (userCode 0)) (fun _ => Carries free w) Faulty w := by
  simp only [connect, ↓wp_rules]
  split
  · exact .of_same (fit.same rfl) rfl
  · rename_i listening
    have live : w.sock.state ≠ .closed := by
      rw [not_not.mp listening]
      decide
    refine wp_imp (queue_fit _ 1 true (fit.move rfl { fit.limits with }
      (fit.lively.imp_right fun lively =>
        { lively with armed := fun _ => lively.armed live }))) ?_
    rintro _ w₁ ⟨queued, _⟩
    refine wp_imp (attemptSend_fit .none queued) ?_
    exact fun _ _ => .of_settled

omit fit

/-- A timeout that is doubled stays between its bounds. -/
theorem doubled_rto {rxRto limit : UInt32} (range : 250 ≤ rxRto.toNat ∧ rxRto.toNat ≤ 60000)
    (least : 250 ≤ limit.toNat) (most : limit.toNat ≤ 60000) :
    250 ≤ (min limit (rxRto * 2)).toNat ∧ (min limit (rxRto * 2)).toNat ≤ 60000 := by
  have twice : (rxRto * 2).toNat = rxRto.toNat * 2 := by
    rw [UInt32.toNat_mul]
    exact Nat.mod_eq_of_lt (by change _ * 2 < _; omega)
  rw [toNat_min32, twice]
  omega

/-- A retransmission leaves the queue and the pointers. -/
theorem retransmitted_settled {s s' : PseudoTcpSocket} {segment : SSegment} {count : UInt32}
    (found : s.slist[0]? = some segment) (again : segment.xmit ≠ 0)
    (tuned : Tuned (s.transmitted 0 count now) s') (settled : s.Settled) : s'.Settled := by
  have same := tuned.outgoing
  have rest : s.slist = [] ++ segment :: s.slist.drop 1 := Lists.eq_append_cons found
  intro queued peer
  rw [same] at queued peer ⊢
  by_cases cut : count < segment.len
  · have marked : s.transmitted 0 count now = _ := transmitted_cut rest count now cut
    rw [marked] at queued peer ⊢
    simp only [if_neg again]
    exact settled queued peer
  · have marked : s.transmitted 0 count now = _ := transmitted_whole rest count now cut
    rw [marked] at queued peer ⊢
    simp only [if_neg again]
    exact settled queued peer

/-- The retransmission carries the invariant. -/
theorem checkRetransmit_carries (fit : Fit free w) (ordered : w.sock.Ordered)
    (live : w.sock.state ≠ .closed) (ticks : free ∨ now ≠ 0) :
    wp (checkRetransmit (userCode 0) now) (fun _ => Carries free w) Faulty w := by
  simp only [checkRetransmit, ↓wp_rules]
  split
  · rename_i due
    split
    · rename_i filled
      obtain ⟨segment, found⟩ : ∃ segment, w.sock.slist[0]? = some segment := by
        cases listed : w.sock.slist with
        | nil => exact absurd listed filled
        | cons segment rest => exact ⟨segment, rfl⟩
      have again : segment.xmit ≠ 0 :=
        (ordered.counted live).first_sent ((ordered.timed live).armed due.1) found
      have rounds : Rounds w.sock 0 := by
        refine .inr fun other listed => .inl ?_
        obtain rfl : segment = other := by
          rw [found] at listed
          simpa using listed
        exact again
      have start : Quietly Call.MtuAbove w w := .refl w
      refine wp_mono (wp_and (transmit_fit 0 now fit ticks (.inr rounds))
        (transmit_spec now live found start)) ?_ (fun _ _ stopped => stopped.1)
      rintro sent w₁ ⟨⟨fit₁, _⟩, _, went⟩
      split
      · rename_i sent
        obtain ⟨w₂, count, stamp, -, tuned, -, -, -, -, -, marked⟩ := went sent
        have range : w₁.sock.mss.toNat ≤ 65419 := fit₁.limits.mss.2
        have least : 1 ≤ w₁.sock.mss.toNat := fit₁.limits.mss.1
        refine ⟨fit₁.move rfl { fit₁.limits with
          ssthresh := (halved_threshold w₁.sock.inFlight range).1
          rto := doubled_rto fit₁.limits.rto (limit_range rfl).1
            (UInt32.le_iff_toNat_le.mp (limit_range rfl).2) } ?_, .inr fun settled => ?_⟩
        · rcases ticks with free | ticks
          · exact .inl free
          · refine fit₁.lively.imp_right fun lively =>
              { lively with armed := fun _ _ => ticks, window := ?_ }
            rw [ne_eq, eq_zero32]
            change ¬w₁.sock.mss.toNat = 0
            omega
        · have settled : w₂.sock.Settled := by
            rwa [tuned.same]
          have found : w₂.sock.slist[0]? = some segment := by
            rwa [tuned.same]
          have after : w₁.sock.Settled := retransmitted_settled found again marked settled
          exact after
      · refine wp_imp (closedown_fit .econnaborted fit₁) ?_
        exact fun _ _ => .of_settled
    · exact ⟨by decide, fit.loose⟩
  · exact .refl fit

/-- So do packets. -/
theorem Steady.carries (steady : Steady w w') (fit : Fit free w) : Carries free w w' :=
  .of_same (fit.steady steady) (by rw [steady.gauge, steady.same])

include fit

/-- The probe of a closed window keeps the invariant. -/
theorem checkProbe_carries :
    wp (checkProbe (userCode 0) now) (fun _ => Carries free w) Faulty w := by
  simp only [checkProbe, ↓wp_rules]
  split
  · split
    · refine wp_imp (closedown_fit .econnaborted fit) ?_
      exact fun _ _ => .of_settled
    · refine wp_mono (packet_steady _ _ none _ (by simp) w) ?_
        (fun _ _ stopped => ⟨stopped.1, (fit.steady stopped.2).loose⟩)
      rintro _ w₁ ⟨steady, _⟩
      have carries := steady.carries fit
      have fit₁ := carries.fit
      refine ⟨fit₁.move rfl { fit₁.limits with
        rto := doubled_rto fit₁.limits.rto (by decide) (by decide) }
        (fit₁.lively.imp_right fun lively => { lively with }), carries.settled⟩
  · exact .refl fit

/-- The delayed acknowledgement keeps the invariant. -/
theorem checkDelayedAck_carries :
    wp (checkDelayedAck (userCode 0) now) (fun _ => Carries free w) Faulty w := by
  simp only [checkDelayedAck, ↓wp_rules]
  split
  · refine wp_mono (packet_steady _ _ none _ (by simp) w) (fun _ _ after => after.1.carries fit)
      (fun _ _ stopped => ⟨stopped.1, (fit.steady stopped.2).loose⟩)
  · exact .refl fit

/-- So does `notify_clock`. -/
theorem notifyClock_carries (ordered : w.sock.Ordered) :
    wp (notifyClock (userCode 0)) (fun _ => Carries free w) Faulty w := by
  have ticked : Carries free w { w with pos := w.pos + 1 } := .of_same (fit.same rfl) rfl
  simp only [notifyClock, ↓wp_rules]
  split
  · rename_i live
    refine wp_imp (checkRetransmit_carries ticked.fit ordered live (fit.clock _)) ?_
    intro goes w₁ first
    split
    · refine wp_imp (checkProbe_carries first.fit) ?_
      intro goes w₂ second
      split
      · refine wp_imp (checkDelayedAck_carries second.fit) ?_
        exact fun _ _ third => ticked.trans (first.trans (second.trans third))
      · exact ticked.trans (first.trans second)
    · exact ticked.trans first
  · exact ticked

omit fit

/-- A packet does not wrap the congestion window. -/
def Entry.CwndFits (w : World) : Entry → Prop
  | .notifyPacket buffer len => 12 ≤ len → len ≤ maxPacket → ∀ now bConnect w₁,
    beforeAck (userCode 0) buffer (segmentOf buffer len) { w with trace := w.trace ++ headerReads } =
      (.ok (some (now, bConnect)), w₁) → w₁.sock.CwndFits (segmentOf buffer len)
  | _ => True

/-- Every entry point carries the invariant. -/
theorem Entry.run_carries (entry : Entry) (fit : Fit free w) (early : w.sock.Early)
    (ordered : w.sock.Ordered) (made : entry.Allowed Call.MtuAbove)
    (fits : free ∨ entry.CwndFits w) :
    wp (entry.run (userCode 0)) (fun _ => Carries free w) Faulty w := by
  cases entry with
  | connect =>
    simp only [Entry.run, ↓wp_rules]
    exact connect_carries fit
  | call made' => exact runCall_carries made' made fit
  | notifyClock => exact notifyClock_carries fit ordered
  | notifyPacket buffer len =>
    simp only [Entry.run, PseudoTcp.notifyPacket, parse, ↓wp_rules, wp_readHeader]
    split
    · exact .refl fit
    · rename_i small
      split
      · exact .refl fit
      · rename_i large
        have read : Carries free w { w with trace := w.trace ++ headerReads } := by
          refine .of_same ⟨fit.calls, fit.replies, fit.limits, ?_, fit.lively⟩ rfl
          intro packet result member
          rcases List.mem_append.mp member with member | member
          · exact fit.packets packet result member
          · simp [headerReads] at member
        refine wp_imp (process_carries buffer read.fit early ordered (fits.imp_right fun fits =>
          fits (UInt32.not_lt.mp large) (UInt32.not_lt.mp small))) ?_
        exact fun _ _ => read.trans

/-! ## Runs -/

/-- The invariant between two entry points. -/
structure Going (free : Prop) (w : World) : Prop where
  limits : w.sock.gauge.Limited
  packets : Small w.trace
  lively : free ∨ w.sock.gauge.Lively
  settled : free ∨ w.sock.Settled

/-- A new socket is fit. -/
theorem Going.new (free : Prop) (conversation now : UInt32) :
    Going free (World.new conversation now) := by
  have same : (World.new conversation now).sock.gauge = (World.new 0 0).sock.gauge := rfl
  refine ⟨?_, by simp [Small, World.new], .inr ?_, .inr ?_⟩
  · rw [same]
    exact ⟨by decide, by decide, by decide, by decide, by decide, by decide, by decide⟩
  · rw [same]
    exact ⟨by decide, by decide, by decide⟩
  · simp [PseudoTcpSocket.Settled, World.new, PseudoTcpSocket.new]

/-- In every run the invariant holds between two entry points. -/
theorem Reachable.goes {meets : World → Entry → (Nat → Reply) → Prop} {result : Except Fault Unit}
    (reached : Reachable 0 meets result w)
    (calls : ∀ w entry env, meets w entry env →
      entry.Allowed Call.MtuAbove ∧ Allows Call.MtuAbove env)
    (replies : free ∨ ∀ w entry env, meets w entry env →
      (∀ n, (env n).clock ≠ 0 ∧ (env n).wres = .success) ∧ entry.CwndFits (w.within env)) :
    (result = .ok () → Going free w) ∧ ∀ fault, result = .error fault → Faulty fault w := by
  induction reached with
  | new conversation now => exact ⟨fun _ => .new free conversation now, fun _ stopped => nomatch stopped⟩
  | @step w w' result entry env before condition ended ih =>
    obtain ⟨made, allows⟩ := calls _ entry env condition
    have going := ih.1 rfl
    have fit : Fit free (w.within env) :=
      ⟨allows, replies.imp_right fun replies => (replies _ _ _ condition).1, going.limits,
        going.packets, going.lively⟩
    have known := entry.run_carries fit before.lived.2 before.ordered made
      (replies.imp_right fun replies => (replies _ _ _ condition).2)
    refine ⟨fun returned => ?_, fun fault stopped => ?_⟩
    · rw [returned] at ended
      have carries := wp_ok known ended
      refine ⟨carries.fit.limits, carries.fit.packets, carries.fit.lively, ?_⟩
      rcases carries.settled with free | settles
      · exact .inl free
      · exact going.settled.imp_right settles
    · rw [stopped] at ended
      exact wp_error known ended

/-- In every run in which every MTU is above 116 the segment size, the threshold, the timeout and
the level stay inside their bounds, nothing is divided by zero, and every packet fits a datagram. -/
theorem bounds_of_run {meets : World → Entry → (Nat → Reply) → Prop} {result : Except Fault Unit}
    {w : World} (reached : Reachable 0 meets result w)
    (calls : ∀ w entry env, meets w entry env →
      entry.Allowed Call.MtuAbove ∧ Allows Call.MtuAbove env) :
    (1 ≤ w.sock.mss.toNat ∧ w.sock.mss.toNat ≤ 65419) ∧
    2 * w.sock.mss.toNat ≤ w.sock.ssthresh.toNat ∧
    (250 ≤ w.sock.rxRto.toNat ∧ w.sock.rxRto.toNat ≤ 60000) ∧
    w.sock.msslevel.toNat + 1 < packetMaximums.length ∧
    result ≠ .error .zeroDivision ∧
    w.sock.mss.toNat * w.sock.mss.toNat < 2 ^ 32 ∧
    ∀ packet answer, .writePacket packet answer ∈ w.trace → packet.bytes.length ≤ 65535 := by
  have goes := reached.goes calls (.inl trivial : True ∨ _)
  obtain ⟨limits, packets, whole⟩ :
      w.sock.gauge.Limited ∧ Small w.trace ∧ result ≠ .error .zeroDivision := by
    cases result with
    | ok _ => exact ⟨(goes.1 rfl).limits, (goes.1 rfl).packets, nofun⟩
    | error fault =>
      have faulty := goes.2 fault rfl
      exact ⟨faulty.fit.limits, faulty.fit.packets, fun same => faulty.fault (Except.error.inj same)⟩
  have level : w.sock.msslevel.toNat ≤ 9 := limits.level
  have levels : packetMaximums.length = 11 := rfl
  have square : w.sock.mss.toNat * w.sock.mss.toNat ≤ 65419 * 65419 :=
    Nat.mul_le_mul limits.mss.2 limits.mss.2
  exact ⟨limits.mss, limits.ssthresh, limits.rto, by omega, whole, by omega, packets⟩

/-- With a raised MTU 300 bytes are sent in a packet that is too large, and the timer goes off. -/
def lowered : World :=
  let tooLarge : Nat → Reply := fun n => ⟨1000, if n ≤ 2 then .tooLarge else .success, []⟩
  let w := Entry.connect.after (userCode 0) steady (World.new 0 1000)
  let w := (Entry.delivery ⟨0, 0, 1, flagCtl, 61440, 1000, 1000, [0]⟩).after (userCode 0) steady w
  let w := (Entry.call (.notifyMtu 1500)).after (userCode 0) steady w
  let w := (Entry.call (.send (Mem.ofList []) 300)).after (userCode 0) tooLarge w
  Entry.notifyClock.after (userCode 0) (fun _ => ⟨5000, .success, []⟩) w

/-- The bounds after a packet that is too large and a timeout. -/
theorem bounds_of_run_lowered :
    lowered.sock.msslevel = 9 ∧ lowered.sock.rxRto = 500 ∧
      2 * lowered.sock.mss.toNat ≤ lowered.sock.ssthresh.toNat := by
  have allows : ∀ env : Nat → Reply, (∀ n, (env n).calls = []) → Allows Call.MtuAbove env := by
    intro env none n call member
    rw [none] at member
    exact absurd member List.not_mem_nil
  have mtu : 116 < (1500 : UInt16).toNat := by decide
  have reached : Reachable 0
      (fun _ entry env => entry.Allowed Call.MtuAbove ∧ Allows Call.MtuAbove env) (.ok ())
      lowered := by
    refine .next _ _ (.next _ _ (.next _ _ (.next _ _ (.next _ _ (.new 0 1000)
      ⟨trivial, allows _ fun _ => rfl⟩ ?_) ⟨trivial, allows _ fun _ => rfl⟩ ?_)
      ⟨mtu, allows _ fun _ => rfl⟩ ?_) ⟨trivial, allows _ fun _ => rfl⟩ ?_)
      ⟨trivial, allows _ fun _ => rfl⟩ ?_
    · decide +kernel
    · decide +kernel
    · decide +kernel
    · decide +kernel
    · decide +kernel
  exact ⟨by decide +kernel, by decide +kernel,
    (bounds_of_run reached fun _ _ _ condition => condition).2.1⟩

/-- Every MTU is above 116, the clock does not read zero, `WritePacket` succeeds and the congestion
window does not wrap. -/
structure Smooth (w : World) (entry : Entry) (env : Nat → Reply) : Prop where
  made : entry.Allowed Call.MtuAbove
  calls : Allows Call.MtuAbove env
  replies : ∀ n, (env n).clock ≠ 0 ∧ (env n).wres = .success
  cwnd : entry.CwndFits (w.within env)

/-- In such a run, whenever an entry point has returned, bytes that are not acknowledged have the
retransmission timer armed, unless the window of the peer is closed. -/
theorem no_stall_of_run {w : World} (reached : Reachable 0 Smooth (.ok ()) w)
    (live : w.sock.state ≠ .closed) (waiting : w.sock.slen ≠ 0) :
    w.sock.rtoBase ≠ 0 ∨ w.sock.sndWnd = 0 := by
  have going : Going False w :=
    (reached.goes (fun _ _ _ smooth => ⟨smooth.made, smooth.calls⟩)
      (.inr fun _ _ _ smooth => ⟨smooth.replies, smooth.cwnd⟩)).1 rfl
  have lively := going.lively.resolve_left id
  by_cases peer : w.sock.sndWnd = 0
  · exact .inr peer
  · exact .inl (lively.armed live (going.settled.resolve_left id waiting peer))

/-- The connection is opened, and five bytes are sent. -/
def fiveSent : World :=
  let w := Entry.connect.after (userCode 0) steady (World.new 0 1000)
  let w := (Entry.delivery ⟨0, 0, 1, flagCtl, 61440, 1000, 1000, [0]⟩).after (userCode 0) steady w
  (Entry.call (.send (Mem.ofList []) 5)).after (userCode 0) steady w

/-- Five bytes on their way are watched by the timer. -/
theorem no_stall_of_run_sent :
    fiveSent.sock.slen = 5 ∧ (fiveSent.sock.rtoBase ≠ 0 ∨ fiveSent.sock.sndWnd = 0) := by
  have smooth (w : World) (entry : Entry) (made : entry.Allowed Call.MtuAbove)
      (cwnd : entry.CwndFits (w.within steady)) : Smooth w entry steady :=
    ⟨made, fun _ _ member => absurd member List.not_mem_nil, fun _ => ⟨by simp [steady], rfl⟩, cwnd⟩
  have reached : Reachable 0 Smooth (.ok ()) fiveSent := by
    refine .next _ steady (.next _ steady (.next .connect steady (.new 0 1000)
      (smooth _ _ trivial trivial) ?_) (smooth _ _ trivial ?_) ?_) (smooth _ _ trivial trivial) ?_
    · decide +kernel
    · intro _ _ now bConnect w₁ run
      rw [show w₁ = _ from congrArg Prod.snd run.symm]
      decide +kernel
    · decide +kernel
    · decide +kernel
  exact ⟨by decide +kernel, no_stall_of_run reached (by decide +kernel) (by decide +kernel)⟩

end Xice.PseudoTcp
