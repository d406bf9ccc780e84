import Xice.PseudoTcp.SendSteps
import Xice.PseudoTcp.Lifecycle

/-!
# Entry points as sequences of steps

`process` opens the connection, uses the acknowledgement number, uses the payload and answers;
each stage is a sequence of quiet steps around at most one use of the packet. All other entry
points are quiet.
-/

namespace Xice.PseudoTcp

open Xice.Lib Exec Relation List

/-- What `process` does before the acknowledgement number. It can transmit only in `SYN_SENT`, where
the application is told that the connection is open. -/
structure Opening (allowed : Call → Prop) (h h' : History) : Prop where
  steps : ReflTransGen (Quiet allowed) h h'
  pointers : h.sock.state ≠ .synSent →
    h'.sock.sndUna = h.sock.sndUna ∧ h'.sock.sndNxt = h.sock.sndNxt
  segments : h.sock.state ≠ .synSent → h.sock.state ≠ .listen → h'.sock.slist = h.sock.slist

/-- What `process` does before it looks at the payload. -/
def Acked (allowed : Call → Prop) (seg : Segment) (h h' : History) : Prop :=
  ∃ h₁ h₂, Opening allowed h h₁ ∧ ReflGen (AckStep seg) h₁ h₂ ∧ ReflTransGen (Quiet allowed) h₂ h'

/-- What `process` does. -/
def Processed (allowed : Call → Prop) (buffer : Mem) (seg : Segment) (h h' : History) : Prop :=
  ∃ h₁ h₂, Acked allowed seg h h₁ ∧ ReflGen (DataStep buffer seg) h₁ h₂ ∧
    ReflTransGen (Quiet allowed) h₂ h'

/-- A stage of `process` is reached, in the same environment. -/
structure Stage (env : Nat → Reply) (reached : History → Prop) (w : World) : Prop where
  env : w.env = env
  reached : reached w.toHistory

/-- What is wrong with an acknowledgement that ends in a fault. -/
def AckCause (seg : Segment) (now : UInt32) (s : PseudoTcpSocket) : Fault → Prop
  | .rttAssert => s.sndUna < seg.ack ∧ seg.ack ≤ s.sndNxt ∧ seg.tsecr ≠ 0 ∧
      timeDiff now seg.tsecr < 0
  | .freeAssert => s.state ≠ .closed ∧ s.sndUna < seg.ack ∧ seg.ack ≤ s.sndNxt ∧
      freeSegments s.slist (seg.ack - s.sndUna) s.largest = none
  | _ => False

/-- `process` stopped. -/
structure Halts (allowed : Call → Prop) (buffer : Mem) (seg : Segment) (now : UInt32) (h : History)
    (fault : Fault) (h' : History) : Prop where
  processed : fault ≠ .queueAssert → fault ≠ .freeAssert → Processed allowed buffer seg h h'
  cause : (∃ h₁, Processed allowed buffer seg h h₁ ∧ Cause h₁.sock fault) ∨
    ∃ h₁, Opening allowed h h₁ ∧ AckCause seg now h₁.sock fault

variable {allowed : Call → Prop} {buffer : Mem} {seg : Segment} {now : UInt32} {h h' : History}
  {w w' : World}

variable (bConnect : Bool) {w₀ : World}

/-- Control fields may change in the opening. -/
theorem Opening.tune (before : Opening allowed h h') {s' : PseudoTcpSocket}
    (tuned : Tuned h'.sock s') : Opening allowed h { h' with sock := s' } := by
  have same := tuned.outgoing
  refine ⟨before.steps.tail (.tune tuned), fun other => ?_, fun other another => ?_⟩
  · rw [same]
    exact before.pointers other
  · rw [same]
    exact before.segments other another

/-- The acknowledgement number may be of no use. -/
theorem Opening.acked (before : Opening allowed h h') : Acked allowed seg h h' :=
  ⟨h', h', before, .refl, .refl⟩

/-- So may the payload. -/
theorem Acked.processed (before : Acked allowed seg h h') : Processed allowed buffer seg h h' :=
  ⟨h', h', before, .refl, .refl⟩

/-- Quiet steps behind the acknowledgement number. -/
theorem Acked.trans {h'' : History} (before : Acked allowed seg h h')
    (steps : ReflTransGen (Quiet allowed) h' h'') : Acked allowed seg h h'' := by
  obtain ⟨h₁, h₂, opening, ack, rest⟩ := before
  exact ⟨h₁, h₂, opening, ack, rest.trans steps⟩

/-- Quiet steps behind the payload. -/
theorem Processed.trans {h'' : History} (before : Processed allowed buffer seg h h')
    (steps : ReflTransGen (Quiet allowed) h' h'') : Processed allowed buffer seg h h'' := by
  obtain ⟨h₁, h₂, acked, data, rest⟩ := before
  exact ⟨h₁, h₂, acked, data, rest.trans steps⟩

/-- A stop of the sending half after the payload stage began. -/
theorem Processed.halts {fault : Fault} (before : Processed allowed buffer seg h w.toHistory)
    (stopped : Stops allowed w fault w') : Halts allowed buffer seg now h fault w'.toHistory := by
  obtain ⟨w₁, quiet, cause⟩ := stopped.cause
  exact ⟨fun other _ => before.trans (stopped.quietly other).steps,
    .inl ⟨w₁.toHistory, before.trans quiet.steps, cause⟩⟩

/-- What every step but the use of payload keeps holds until the payload is used. -/
theorem Acked.keeps {I : History → Prop} (quiet : ∀ h h', Quiet allowed h h' → I h → I h')
    (ack : ∀ h h', AckStep seg h h' → I h → I h') (acked : Acked allowed seg h h') (start : I h) :
    I h' := by
  obtain ⟨h₁, h₂, opening, used, after⟩ := acked
  have opened : I h₁ := invariant_of_steps quiet opening.steps start
  refine invariant_of_steps quiet after ?_
  cases used with
  | refl => exact opened
  | single step => exact ack _ _ step opened

/-- What every step of `process` keeps, `process` keeps. -/
theorem Processed.keeps {I : History → Prop}
    (quiet : ∀ h h', Quiet allowed h h' → I h → I h')
    (ack : ∀ h h', AckStep seg h h' → I h → I h')
    (data : ∀ h h', DataStep buffer seg h h' → I h → I h')
    (processed : Processed allowed buffer seg h h') (start : I h) : I h' := by
  obtain ⟨h₁, h₂, acked, stored, last⟩ := processed
  have answered : I h₁ := acked.keeps quiet ack start
  refine invariant_of_steps quiet last ?_
  cases stored with
  | refl => exact answered
  | single step => exact data _ _ step answered

/-! ## Control data -/

/-- The reads of the header are recorded. -/
theorem wp_readHeader (events : List Event) (Q : Unit → World → Prop) (E : Fault → World → Prop)
    (w : World) : wp (readHeader events) Q E w = Q () { w with trace := w.trace ++ events } := by
  induction events generalizing w with
  | nil => simp [readHeader]
  | cons event events ih => simp [readHeader, ih]

/-- Reading the packet is quiet. -/
theorem readHeader_opening (events : List Event)
    (reads : ∀ event ∈ events, ∃ index len, event = .packetRead index len)
    (before : Opening allowed h w.toHistory) :
    wp (readHeader events)
      (fun _ w' => Stage w.env (Opening allowed h) w' ∧ w'.pos = w.pos ∧ w'.sock = w.sock)
      (fun _ _ => False) w := by
  induction events generalizing w with
  | nil =>
    rw [readHeader, wp_pure]
    exact ⟨⟨rfl, before⟩, rfl, rfl⟩
  | cons event events ih =>
    obtain ⟨index, len, rfl⟩ := reads event mem_cons_self
    simp only [readHeader, ↓wp_rules]
    exact ih (w := { w with trace := w.trace ++ [.packetRead index len] })
      (forall_mem_of_forall_mem_cons reads)
      ⟨before.steps.tail (.look index len), before.pointers, before.segments⟩

/-- Control data is part of the opening. -/
theorem processControl_opening (allows : Allows allowed w.env)
    (before : Opening allowed h w.toHistory) (same : w.sock.state = h.sock.state) :
    wp (processControl (userCode 0) buffer seg)
      (fun _ w' => Stage w.env (Opening allowed h) w')
      (fun fault w' => Halts allowed buffer seg now h fault w'.toHistory) w := by
  simp only [processControl, ↓wp_rules]
  have look : Opening allowed h { w.toHistory with
      trace := w.trace ++ [.packetRead seg.data 1] } :=
    ⟨before.steps.tail (.look _ _), before.pointers, before.segments⟩
  split
  · exact ⟨rfl, before⟩
  · split
    · exact ⟨rfl, before⟩
    · split
      · exact ⟨rfl, look⟩
      · split
        · rename_i listening
          refine wp_mono (queue_spec (fun _ => ctlConnect) 1 true _) ?_ ?_
          · intro count w₁ queued
            obtain rfl := queued.whole rfl
            have step : Quiet allowed { w.toHistory with
                trace := w.trace ++ [.packetRead seg.data 1] } _ :=
              .openCtl .synReceived listening (.inr rfl) queued.room
            refine ⟨queued.env, ⟨?_, fun _ => ?_, fun _ other => ?_⟩⟩
            · refine look.steps.tail ?_
              obtain ⟨⟨sock, trace⟩, env, pos⟩ := w₁
              obtain ⟨-, -, -, rfl, rfl⟩ := queued
              exact step
            · rw [queued.sock]
              exact look.pointers (by rw [← same, listening]; decide)
            · exact absurd (same.symm.trans listening) other
          · intro fault w₁ full
            obtain rfl := full.assert
            refine ⟨fun other => absurd rfl other, .inl ⟨_, look.acked.processed, listening, ?_⟩⟩
            exact full.full
        · split
          · rename_i opening
            have step : Quiet allowed { w.toHistory with
                trace := w.trace ++ [.packetRead seg.data 1] } _ :=
              .establish (.inl opening) (adjustMTU_tuned _)
            have quiet := look.steps.tail step
            have announced : Quietly allowed { w with
                sock := { w.sock with state := .established }.adjustMTU
                trace := w.trace ++ [.packetRead seg.data 1] ++ [.opened] } _ := ⟨rfl, .refl⟩
            refine wp_mono (callback_quiet .opened ?_ announced) ?_ ?_
            · exact allows
            · intro _ w₁ after
              exact ⟨after.env, ⟨quiet.trans after.steps,
                fun other => absurd (same.symm.trans opening) other,
                fun other => absurd (same.symm.trans opening) other⟩⟩
            · intro fault w₁ stopped
              refine Processed.halts (w := { w with
                sock := { w.sock with state := .established }.adjustMTU
                trace := w.trace ++ [.packetRead seg.data 1] ++ [.opened] }) ?_ stopped
              refine Acked.processed (Opening.acked ⟨quiet,
                fun other => absurd (same.symm.trans opening) other,
                fun other => absurd (same.symm.trans opening) other⟩)
          · exact ⟨rfl, look⟩

/-! ## The acknowledgement number -/

/-- The round-trip measurement changes control fields only. -/
theorem measured_tuned (s : PseudoTcpSocket) (rtt : Int) : Tuned s (s.measured rtt) :=
  .of_same rfl

/-- The congestion window after new data was acknowledged. -/
theorem growWindow_quiet (now nAcked : UInt32) (allows : Allows allowed w₀.env)
    (live : w.sock.state ≠ .closed) (before : Quietly allowed w₀ w) :
    wp (growWindow (userCode 0) now nAcked) (fun _ => Quietly allowed w₀)
      (Stops allowed w₀) w := by
  simp only [growWindow, ↓wp_rules]
  split
  · split
    · have tuned : Quietly allowed w₀ { w with
          sock := { w.sock with cwnd := min w.sock.ssthresh (w.sock.inFlight + w.sock.mss) } } :=
        before.tune (.of_same rfl) rfl
      exact tuned.step rfl (.countDup 0)
    · rename_i below
      have below : w.sock.sndUna < w.sock.recover := UInt32.not_le.mp below
      refine wp_imp (transmit_first now live (.inr (.inl below)) before) ?_
      rintro sent w₁ ⟨quiet, _⟩
      split
      · exact quiet.tune (.of_same rfl) rfl
      · exact closedown_quiet _ allows quiet
  · split
    · have tuned : Quietly allowed w₀ { w with
          sock := { w.sock with cwnd := w.sock.cwnd + w.sock.mss } } :=
        before.tune (.of_same rfl) rfl
      exact tuned.step rfl (.countDup 0)
    · rename_i large
      split
      · have tuned : Quietly allowed w₀ { w with
            sock := { w.sock with
              cwnd := w.sock.cwnd + max 1 (w.sock.mss * w.sock.mss / w.sock.cwnd) } } :=
          before.tune (.of_same rfl) rfl
        exact tuned.step rfl (.countDup 0)
      · rename_i zero
        refine Stops.here before ?_
        change w.sock.ssthresh = 0
        have zero := Word.eq_zero32.mp (not_not.mp zero)
        have large := UInt32.le_iff_toNat_le.mp (UInt32.not_lt.mp large)
        rw [Word.eq_zero32]
        omega

/-- The notice of an open connection is quiet. -/
theorem announceOpened_quiet (allows : Allows allowed w₀.env) (before : Quietly allowed w₀ w) :
    wp (announceOpened (userCode 0) bConnect) (fun _ => Quietly allowed w₀)
      (Stops allowed w₀) w := by
  simp only [announceOpened, ↓wp_rules]
  split
  · rename_i opening
    exact callback_quiet .opened allows (before.step rfl
      (.establish (.inr opening.1) (adjustMTU_tuned _)))
  · exact before

/-- So is that of room to write. -/
theorem announceWritable_quiet (allows : Allows allowed w₀.env) (before : Quietly allowed w₀ w) :
    wp (announceWritable (userCode 0)) (fun _ => Quietly allowed w₀)
      (Stops allowed w₀) w := by
  simp only [announceWritable, ↓wp_rules]
  split
  · have tuned : Quietly allowed w₀ { w with sock := { w.sock with bWriteEnable := false } } :=
      before.tune (.of_same rfl) rfl
    exact callback_quiet .writable allows (tuned.step rfl .writable)
  · exact before

/-- Acknowledged bytes are released. -/
theorem releaseAcked_step (allowed : Call → Prop) (now : UInt32) (new : w.sock.sndUna < seg.ack)
    (sent : seg.ack ≤ w.sock.sndNxt) (live : w.sock.state ≠ .closed) :
    wp (releaseAcked seg now)
      (fun _ w' => Stage w.env (fun h' => h'.sock.state = w.sock.state ∧
        ∃ h₁, AckStep seg w.toHistory h₁ ∧ ReflTransGen (Quiet allowed) h₁ h') w')
      (fun fault _ => AckCause seg now w.sock fault ∧ fault = .freeAssert) w := by
  simp only [releaseAcked, ↓wp_rules]
  cases freed : freeSegments w.sock.slist (seg.ack - w.sock.sndUna) w.sock.largest with
  | none =>
    rw [wp_throw]
    exact ⟨⟨live, new, sent, freed⟩, rfl⟩
  | some released =>
    obtain ⟨slist, largest⟩ := released
    rw [wp_modifySock]
    exact ⟨rfl, rfl, _, .newAck now new sent freed, .single (.tune (.of_same rfl))⟩

/-- The sending half goes on from there. -/
theorem Acked.continue {α : Type} {m : Run α} (before : Acked allowed seg h w.toHistory)
    (quiet : wp m (fun _ => Quietly allowed w) (Stops allowed w) w) :
    wp m (fun _ w' => Stage w.env (Acked allowed seg h) w')
      (fun fault w' => Halts allowed buffer seg now h fault w'.toHistory) w := by
  refine wp_mono quiet ?_ ?_
  · intro _ w' after
    exact ⟨after.env, before.trans after.steps⟩
  · intro fault w' stopped
    exact before.processed.halts stopped

/-- A measurement opens, or fails on a timestamp of the future. -/
theorem measureRtt_opening (before : Opening allowed h w.toHistory) :
    wp (measureRtt seg now)
      (fun _ w' => Stage w.env (fun h' => Opening allowed h h' ∧ Tuned w.sock h'.sock) w')
      (fun fault w' => fault = .rttAssert ∧ seg.tsecr ≠ 0 ∧ timeDiff now seg.tsecr < 0 ∧
        w'.toHistory = w.toHistory) w := by
  unfold measureRtt
  by_cases echoed : seg.tsecr = 0
  · rw [if_neg (by simpa using echoed), wp_pure]
    exact ⟨rfl, before, .refl _⟩
  · rw [if_pos echoed, wp_bind, wp_require]
    split
    · rw [wp_modifySock]
      exact ⟨rfl, before.tune (measured_tuned _ _), measured_tuned _ _⟩
    · rename_i past
      exact ⟨rfl, echoed, not_le.mp past, rfl⟩

/-- An acknowledgement of new data. -/
theorem processNewAck_acked (allows : Allows allowed w.env) (new : w.sock.sndUna < seg.ack)
    (sent : seg.ack ≤ w.sock.sndNxt) (live : w.sock.state ≠ .closed)
    (before : Opening allowed h w.toHistory) :
    wp (processNewAck (userCode 0) seg now bConnect)
      (fun _ w' => Stage w.env (Acked allowed seg h) w')
      (fun fault w' => Halts allowed buffer seg now h fault w'.toHistory) w := by
  simp only [processNewAck, ↓wp_rules]
  refine wp_mono (measureRtt_opening before) ?_ ?_
  · rintro _ w₁ ⟨env₁, opening, tuned⟩
    have same : w₁.sock.toOutgoing = w.sock.toOutgoing := tuned.outgoing
    refine wp_mono (releaseAcked_step allowed now (by rw [same]; exact new)
      (by rw [same]; exact sent) (tuned.live live)) ?_ ?_
    · rintro _ w₂ ⟨env₂, state₂, h₁, step, rest⟩
      have live₂ : w₂.sock.state ≠ .closed := by
        rw [state₂]
        exact tuned.live live
      have acked : Acked allowed seg h w₂.toHistory :=
        ⟨w₁.toHistory, h₁, opening, .single step, rest⟩
      have env₂ : w₂.env = w.env := env₂.trans env₁
      rw [← env₂] at allows ⊢
      refine wp_imp (acked.continue (growWindow_quiet now _ allows live₂ (.refl w₂))) ?_
      rintro live w₃ ⟨env₃, acked₃⟩
      rw [← env₃] at allows ⊢
      split
      · refine wp_imp (acked₃.continue (announceOpened_quiet bConnect allows (.refl w₃))) ?_
        rintro _ w₄ ⟨env₄, acked₄⟩
        rw [← env₄] at allows ⊢
        exact acked₄.continue (announceWritable_quiet allows (.refl w₄))
      · exact ⟨rfl, acked₃⟩
    · rintro fault w₂ ⟨cause, assert⟩
      subst assert
      exact ⟨fun _ other => absurd rfl other, .inr ⟨_, opening, cause⟩⟩
  · rintro fault w₁ ⟨assert, echoed, past, same⟩
    subst assert
    rw [same]
    exact ⟨fun _ _ => before.acked.processed, .inr ⟨_, before, new, sent, echoed, past⟩⟩

/-- The threshold is not zero. -/
theorem threshold_positive {mss : UInt32} (outstanding : UInt32)
    (sane : 0 < mss.toNat ∧ mss.toNat ≤ 65419) : 0 < (max outstanding (2 * mss)).toNat := by
  have twice : (2 * mss).toNat = 2 * mss.toNat := by
    rw [UInt32.toNat_mul]
    change 2 * mss.toNat % 2 ^ 32 = _
    omega
  rw [Word.toNat_max32, twice]
  omega

/-- A repeated acknowledgement. -/
theorem processDupAck_acked (allows : Allows allowed w.env) (same : seg.ack = w.sock.sndUna)
    (live : w.sock.state ≠ .closed) (before : Opening allowed h w.toHistory) :
    wp (processDupAck (userCode 0) seg now)
      (fun _ w' => Stage w.env (Acked allowed seg h) w')
      (fun fault w' => Halts allowed buffer seg now h fault w'.toHistory) w := by
  simp only [processDupAck, ↓wp_bind, ↓wp_getSock, ↓wp_modifySock]
  have acked : Acked allowed seg h { w with
      sock := { w.sock with sndWnd := seg.wnd.toUInt32 } }.toHistory :=
    ⟨w.toHistory, _, before, .single (.sameAck same), .refl⟩
  refine acked.continue ?_
  simp only [↓wp_rules]
  have counted : Quietly allowed _ { w with
      sock := { w.sock with sndWnd := seg.wnd.toUInt32, dupAcks := w.sock.dupAcks + 1 } } :=
    (Quietly.refl { w with sock := { w.sock with sndWnd := seg.wnd.toUInt32 } }).step rfl
      (.countDup _)
  split
  · exact .refl _
  · split
    · rename_i outstanding
      split
      · refine wp_imp (transmit_first now live (.inr (.inr outstanding)) counted) ?_
        rintro sent w₁ ⟨quiet, _⟩
        split
        · have entered : Quietly allowed _ { w₁ with
              sock := { w₁.sock with recover := w₁.sock.sndNxt } } := quiet.step rfl .enterRecovery
          exact entered.tune
            ⟨rfl, fun sane => ⟨sane.mtu, sane.mss, threshold_positive _ sane.mss⟩⟩ rfl
        · exact closedown_quiet _ allows quiet
      · split
        · exact counted.tune (.of_same rfl) rfl
        · exact counted
    · exact (Quietly.refl _).step rfl (.countDup 0)

/-- The acknowledgement number. -/
theorem processAck_acked (allows : Allows allowed w.env) (live : w.sock.state ≠ .closed)
    (before : Opening allowed h w.toHistory) :
    wp (processAck (userCode 0) seg now bConnect)
      (fun _ w' => Stage w.env (Acked allowed seg h) w')
      (fun fault w' => Halts allowed buffer seg now h fault w'.toHistory) w := by
  simp only [processAck, ↓wp_rules]
  split
  · rename_i new
    exact processNewAck_acked bConnect allows new.1 new.2 live before
  · split
    · rename_i same
      exact processDupAck_acked allows same live before
    · exact ⟨rfl, before.acked⟩

/-! ## The payload -/

/-- Cutting leaves the flags. -/
theorem trim_flags (r : Incoming) (seg : Segment) : (r.trim seg).flags = seg.flags := by
  have front : (r.trimFront seg).flags = seg.flags := by
    unfold Incoming.trimFront
    simp only
    split
    · split <;> rfl
    · rfl
  rw [← front]
  unfold Incoming.trim Incoming.trimBack
  simp only
  split
  · split <;> rfl
  · rfl

/-- Storing the payload is the use of the payload. -/
theorem storeData_step (sflags : SendFlags) (w : World) :
    wp (storeData buffer (w.sock.toIncoming.trim seg) sflags)
      (fun _ w' => Stage w.env (fun h' => h'.sock.state = w.sock.state ∧
        ReflGen (DataStep buffer seg) w.toHistory h') w')
      (fun _ _ => False) w := by
  have flags := trim_flags w.sock.toIncoming seg
  have ctl : (w.sock.toIncoming.trim seg).isCtl ↔ seg.isCtl := by
    simp only [Segment.isCtl, flags]
  generalize trimmed : w.sock.toIncoming.trim seg = cut at ctl
  simp only [storeData, ↓wp_rules]
  split
  · exact ⟨rfl, rfl, .refl⟩
  · rename_i nonempty
    split
    · rename_i ignored
      rw [ctl] at ignored
      split
      · rename_i next
        exact ⟨rfl, rfl, .single (.skip cut trimmed.symm nonempty ignored next)⟩
      · exact ⟨rfl, rfl, .refl⟩
    · rename_i kept
      rw [ctl, not_or, not_not] at kept
      split
      · rename_i next
        refine ⟨rfl, rfl, .single ?_⟩
        rw [append_assoc]
        exact .inOrder cut trimmed.symm nonempty kept next
      · rename_i later
        refine ⟨rfl, rfl, .single ?_⟩
        rw [append_assoc]
        exact .outOfOrder cut trimmed.symm nonempty kept later

/-- Steps of the sending half after the payload was used. -/
theorem Processed.continue {α : Type} {m : Run α} (before : Processed allowed buffer seg h w.toHistory)
    (quiet : wp m (fun _ => Quietly allowed w) (Stops allowed w) w) :
    wp m (fun _ w' => Stage w.env (Processed allowed buffer seg h) w')
      (fun fault w' => Halts allowed buffer seg now h fault w'.toHistory) w := by
  refine wp_mono quiet ?_ ?_
  · intro _ w' after
    exact ⟨after.env, before.trans after.steps⟩
  · intro fault w' stopped
    exact before.halts stopped

/-- The notice of data to read is quiet. -/
theorem announceReadable_quiet (bNewData : Bool) (allows : Allows allowed w₀.env)
    (before : Quietly allowed w₀ w) :
    wp (announceReadable (userCode 0) bNewData) (fun _ => Quietly allowed w₀)
      (Stops allowed w₀) w := by
  simp only [announceReadable, ↓wp_rules]
  split
  · have tuned : Quietly allowed w₀ { w with sock := { w.sock with bReadEnable := false } } :=
      before.tune (.of_same rfl) rfl
    exact callback_quiet .readable allows (tuned.step rfl .readable)
  · exact before

/-- The payload and the answer. -/
theorem processData_processed (allows : Allows allowed w.env) (live : w.sock.state ≠ .closed)
    (before : Acked allowed seg h w.toHistory) :
    wp (processData (userCode 0) buffer seg)
      (fun _ w' => Stage w.env (Processed allowed buffer seg h) w')
      (fun fault w' => Halts allowed buffer seg now h fault w'.toHistory) w := by
  simp only [processData, ↓wp_rules]
  refine wp_mono (storeData_step _ w) ?_ (fun _ _ impossible => impossible.elim)
  rintro stored w₁ ⟨env₁, state₁, data⟩
  have live₁ : w₁.sock.state ≠ .closed := by
    rwa [state₁]
  have processed : Processed allowed buffer seg h w₁.toHistory := ⟨_, _, before, data, .refl⟩
  rw [← env₁] at allows ⊢
  refine wp_imp (processed.continue (attemptSend_quiet _ live₁ (.refl w₁))) ?_
  rintro _ w₂ ⟨env₂, processed₂⟩
  rw [← env₂] at allows ⊢
  exact processed₂.continue (announceReadable_quiet _ allows (.refl w₂))

/-- `process` opens, acknowledges, stores and answers. -/
theorem process_processed (allows : Allows allowed w.env) (early : w.sock.Early)
    (same : w.sock.state = h.sock.state) (before : Opening allowed h w.toHistory) :
    wp (process (userCode 0) buffer seg)
      (fun _ w' => Stage w.env (Processed allowed buffer seg h) w')
      (fun fault w' => Halts allowed buffer seg (w.env w.pos).clock h fault w'.toHistory) w := by
  simp only [process, ↓wp_rules]
  split
  · exact ⟨rfl, before.acked.processed⟩
  · generalize now : (w.env w.pos).clock = clock
    generalize looked : ({ w with
      sock := { w.sock with lastTraffic := clock, lastrecv := clock, bOutgoing := false }
      pos := w.pos + 1 } : World) = w₁
    have opening : Opening allowed h w₁.toHistory := by
      rw [← looked]
      exact before.tune (.of_same rfl)
    have env : w₁.env = w.env := by rw [← looked]
    have same : w₁.sock.state = h.sock.state := by
      rwa [← looked]
    have lives : Lives True w₁.toHistory w₁ := by
      refine ⟨.refl, ?_⟩
      rwa [← looked]
    rw [← env] at allows ⊢
    split
    · exact ⟨rfl, opening.acked.processed⟩
    · rename_i live
      have live : w₁.sock.state ≠ .closed := by
        rwa [← looked]
      split
      · exact opening.acked.processed.continue (closedown_quiet _ allows (.refl w₁))
      · refine wp_mono (wp_and (processControl_opening allows opening same)
          (processControl_lives (userCode_calm 0) (fun _ _ _ _ => trivial) live lives)) ?_
          (fun _ _ h => h.1)
        rintro bConnect w₂ ⟨⟨env₂, opening₂⟩, lives₂, live₂, _⟩
        cases bConnect with
        | none =>
          rw [wp_pure]
          exact ⟨env₂, opening₂.acked.processed⟩
        | some bConnect =>
          simp only [↓wp_rules]
          rw [← env₂] at allows ⊢
          have stamped : Tuned w₂.sock (w₂.sock.updateTimestamp seg) := .of_same rfl
          have lives₂ : Lives True w₁.toHistory { w₂ with sock := w₂.sock.updateTimestamp seg } :=
            lives₂.same rfl
          refine wp_mono (wp_and (processAck_acked bConnect allows live₂ (opening₂.tune stamped))
            (processAck_lives (userCode_calm 0) (userCode_idle 0) clock bConnect
              (fun _ _ _ _ => trivial) live₂ lives₂)) ?_ (fun _ _ h => h.1)
          rintro goes w₃ ⟨⟨env₃, acked⟩, going⟩
          have env₃ : w₃.env = w₂.env := env₃
          rw [← env₃] at allows ⊢
          split
          · rename_i goes
            exact processData_processed allows (going.state goes) acked
          · exact ⟨rfl, acked.processed⟩

/-- `notify_packet` uses the packet as `process` does. -/
theorem notifyPacket_processed (len : UInt32) (allows : Allows allowed w.env)
    (early : w.sock.Early) :
    wp (notifyPacket (userCode 0) buffer len)
      (fun _ w' => Stage w.env (Processed allowed buffer (segmentOf buffer len) w.toHistory) w')
      (fun fault w' => Halts allowed buffer (segmentOf buffer len) (w.env w.pos).clock w.toHistory
        fault w'.toHistory) w := by
  have start : Opening allowed w.toHistory w.toHistory :=
    ⟨.refl, fun _ => ⟨rfl, rfl⟩, fun _ _ => rfl⟩
  simp only [notifyPacket, parse, ↓wp_rules]
  split
  · exact ⟨rfl, start.acked.processed⟩
  · split
    · exact ⟨rfl, start.acked.processed⟩
    · refine wp_mono (readHeader_opening headerReads (by simp [headerReads]) start) ?_
        (fun _ _ impossible => impossible.elim)
      rintro _ w₁ ⟨⟨env, opening⟩, pos, sock⟩
      rw [← env] at allows ⊢
      rw [← pos]
      exact process_processed allows (by rw [sock]; exact early) (by rw [sock]) opening

/-! ## The other entry points -/

/-- `connect` is quiet. -/
theorem connect_quiet (w : World) :
    wp (connect (userCode 0)) (fun _ => Quietly allowed w) (Stops allowed w) w := by
  simp only [connect, ↓wp_rules]
  split
  · exact (Quietly.refl w).tune (.of_same rfl) rfl
  · rename_i listening
    have listening := not_not.mp listening
    refine wp_mono (queue_spec (fun _ => ctlConnect) 1 true _) ?_ ?_
    · intro count w₁ queued
      obtain rfl := queued.whole rfl
      have step : Quiet allowed w.toHistory ⟨_, _⟩ :=
        .openCtl .synSent listening (.inl rfl) queued.room
      have sock := queued.sock
      have trace := queued.trace
      simp only at sock trace
      refine attemptSend_quiet .none ?_ ((Quietly.refl w).step queued.env ?_)
      · rw [sock]
        simp
      obtain ⟨⟨_, _⟩, _, _⟩ := w₁
      subst sock trace
      exact step
    · intro fault w₁ full
      obtain rfl := full.assert
      exact ⟨fun other => absurd rfl other, w, .refl w, listening, full.full⟩

/-- The retransmission is quiet. -/
theorem checkRetransmit_quiet (now : UInt32) (allows : Allows allowed w₀.env)
    (live : w.sock.state ≠ .closed) (before : Quietly allowed w₀ w) :
    wp (checkRetransmit (userCode 0) now) (fun _ => Quietly allowed w₀)
      (Stops allowed w₀) w := by
  simp only [checkRetransmit, ↓wp_rules]
  split
  · rename_i armed
    split
    · rename_i nonempty
      refine wp_imp (transmit_first now live (.inl ⟨armed.1, nonempty⟩) before) ?_
      rintro sent w₁ ⟨quiet, timer⟩
      split
      · rename_i went
        have rearmed : Quietly allowed w₀ { w₁ with sock := { w₁.sock with rtoBase := now } } :=
          quiet.step rfl (.rearm now (timer went armed.1))
        exact rearmed.tune
          ⟨rfl, fun sane => ⟨sane.mtu, sane.mss, threshold_positive _ sane.mss⟩⟩ rfl
      · exact closedown_quiet _ allows quiet
    · rename_i empty
      exact Stops.here before ⟨live, armed.1, not_not.mp empty⟩
  · exact before

/-- The probe is quiet. -/
theorem checkProbe_quiet (now : UInt32) (allows : Allows allowed w₀.env)
    (before : Quietly allowed w₀ w) :
    wp (checkProbe (userCode 0) now) (fun _ => Quietly allowed w₀) (Stops allowed w₀) w := by
  simp only [checkProbe, ↓wp_rules]
  split
  · split
    · exact closedown_quiet _ allows before
    · refine wp_imp (packet_none _ before) ?_
      rintro _ w₁ ⟨quiet, _⟩
      exact quiet.tune (.of_same rfl) rfl
  · exact before

/-- The acknowledgement is quiet. -/
theorem checkDelayedAck_quiet (now : UInt32) (before : Quietly allowed w₀ w) :
    wp (checkDelayedAck (userCode 0) now) (fun _ => Quietly allowed w₀)
      (Stops allowed w₀) w := by
  simp only [checkDelayedAck, ↓wp_rules]
  split
  · exact wp_imp (packet_none _ before) (fun _ _ h => h.1)
  · exact before

/-- `notify_clock` is quiet. -/
theorem notifyClock_quiet (allows : Allows allowed w.env) :
    wp (notifyClock (userCode 0)) (fun _ => Quietly allowed w) (Stops allowed w) w := by
  simp only [notifyClock, ↓wp_rules]
  have ticked : Quietly allowed w { w with pos := w.pos + 1 } := (Quietly.refl w).tick rfl rfl
  split
  · rename_i live
    refine wp_imp (checkRetransmit_quiet _ allows live ticked) ?_
    intro live w₁ quiet
    split
    · refine wp_imp (checkProbe_quiet _ allows quiet) ?_
      intro live w₂ quiet
      split
      · exact checkDelayedAck_quiet _ quiet
      · exact quiet
    · exact quiet
  · exact ticked

/-- Quiet steps, around the use of a packet when there is one. -/
def Entry.Does (allowed : Call → Prop) : Entry → History → History → Prop
  | .notifyPacket buffer len, h, h' => Processed allowed buffer (segmentOf buffer len) h h'
  | _, h, h' => ReflTransGen (Quiet allowed) h h'

/-- How an entry point stops. -/
def Entry.Fails (allowed : Call → Prop) (env : Nat → Reply) :
    Entry → History → Fault → History → Prop
  | .notifyPacket buffer len, h, fault, h' =>
    Halts allowed buffer (segmentOf buffer len) (env 0).clock h fault h'
  | _, h, fault, h' => (fault ≠ .queueAssert → ReflTransGen (Quiet allowed) h h') ∧
    ∃ h₁, ReflTransGen (Quiet allowed) h h₁ ∧ Cause h₁.sock fault

/-- The calls that an entry point makes are allowed. -/
def Entry.Allowed (allowed : Call → Prop) : Entry → Prop
  | .call made => allowed made
  | _ => True

/-- Entry points are sequences of steps, also when they stop. -/
theorem Entry.run_steps {env : Nat → Reply} (entry : Entry) (w : World)
    (early : w.sock.Early) (made : entry.Allowed allowed) (allows : Allows allowed env) :
    wp (entry.run (userCode 0)) (fun _ w' => entry.Does allowed w.toHistory w'.toHistory)
      (fun fault w' => entry.Fails allowed env w.toHistory fault w'.toHistory) (w.within env) := by
  have quiet : ∀ {m : Run Unit}, wp m (fun _ w' => Quietly allowed (w.within env) w')
      (Stops allowed (w.within env)) (w.within env) →
      wp m (fun _ w' => ReflTransGen (Quiet allowed) w.toHistory w'.toHistory)
        (fun fault w' => (fault ≠ .queueAssert →
            ReflTransGen (Quiet allowed) w.toHistory w'.toHistory) ∧
          ∃ h₁, ReflTransGen (Quiet allowed) w.toHistory h₁ ∧ Cause h₁.sock fault)
        (w.within env) := by
    intro m known
    refine wp_mono known (fun _ _ after => after.steps) ?_
    intro fault w' stopped
    obtain ⟨w₁, after, cause⟩ := stopped.cause
    exact ⟨fun other => (stopped.quietly other).steps, w₁.toHistory, after.steps, cause⟩
  cases entry with
  | connect =>
    refine quiet ?_
    simp only [Entry.run, ↓wp_rules]
    exact connect_quiet _
  | call call => exact quiet (runCall_quiet call made (.refl _))
  | notifyClock => exact quiet (notifyClock_quiet allows)
  | notifyPacket buffer len =>
    simp only [Entry.run, ↓wp_rules]
    exact wp_mono (notifyPacket_processed len allows early) (fun _ _ after => after.reached)
      (fun _ _ stopped => stopped)

end Xice.PseudoTcp
