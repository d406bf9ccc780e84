import Xice.PseudoTcp.SendQueue

/-!
# The assertions hold

With an MTU above the packet overhead a run can only stop at the assertion on the round-trip time:
it fails when a packet that acknowledges new data echoes a timestamp of the future.
-/

namespace Xice.PseudoTcp

open Xice.Lib Exec Relation

/-- A call that sets an MTU leaves room for a payload. -/
def Call.MtuAbove : Call → Prop
  | .notifyMtu mtu => 116 < mtu.toNat
  | _ => True

/-- A packet that may acknowledge new data echoes no timestamp of the future. In `SYN_SENT` the
application may transmit before the acknowledgement number is looked at. -/
def Entry.EchoPast (s : PseudoTcpSocket) (now : UInt32) : Entry → Prop
  | .notifyPacket buffer len =>
    let seg := segmentOf buffer len
    s.sndUna < seg.ack → seg.ack ≤ s.sndNxt ∨ s.state = .synSent → seg.tsecr ≠ 0 →
      0 ≤ timeDiff now seg.tsecr
  | _ => True

variable {h h' : History} {w : World} {result : Except Fault Unit}

/-- A quiet step keeps the segment size in range. -/
theorem Quiet.sane (step : Quiet Call.MtuAbove h h') (sane : h.sock.Sane) : h'.sock.Sane := by
  cases step with
  | tune tuned => exact tuned.sane sane
  | advise mtu made same kept => exact kept made sane
  | transmitNew | retransmit =>
    rwa [transmitted_same]
  | establish opening tuned => exact tuned.sane sane
  | look | writeEmpty | writeRefused | split | openCtl | enqueue | countDup | enterRecovery
  | rearm | readable | writable | closedown | consume | widen | shut => exact sane

/-- Quiet steps keep the socket sane. -/
theorem sane_of_quiet (sane : h.sock.Sane) (steps : ReflTransGen (Quiet Call.MtuAbove) h h') :
    h'.sock.Sane :=
  invariant_of_steps (I := fun h => h.sock.Sane) (fun _ _ step => step.sane) steps sane

/-- So does `process`. -/
theorem Processed.sane {buffer : Mem} {seg : Segment} (sane : h.sock.Sane)
    (processed : Processed Call.MtuAbove buffer seg h h') : h'.sock.Sane := by
  refine processed.keeps (I := fun h => h.sock.Sane) (fun _ _ step => step.sane) ?_ ?_ sane
  · intro h₁ h₂ step sane
    cases step <;> exact sane
  · intro h₁ h₂ step sane
    cases step <;> exact sane

/-- An entry point keeps the segment size in range. -/
theorem Entry.Does.sane {entry : Entry} (sane : h.sock.Sane)
    (does : entry.Does Call.MtuAbove h h') : h'.sock.Sane := by
  cases entry with
  | connect | call | notifyClock => exact sane_of_quiet sane does
  | notifyPacket => exact Processed.sane sane does

/-- The segment size of a new socket is in range. -/
theorem sane_new (conversation now : UInt32) : (PseudoTcpSocket.new conversation now).Sane := by
  have mtu : 116 < maxPacket.toNat ∧ maxPacket.toNat ≤ 65535 := by decide
  have mss : 0 < (minPacket - packetOverhead).toNat ∧ (minPacket - packetOverhead).toNat ≤ 65419 := by
    decide
  have ssthresh : 0 < kRcvBufSize.toUInt32.toNat := by decide
  exact ⟨mtu, mss, ssthresh⟩

/-- An entry point on a sending half in order does not stop. -/
theorem Entry.run_returns {env : Nat → Reply} {fault : Fault} {w' : World} (entry : Entry)
    (early : w.sock.Early) (ordered : w.sock.Ordered) (sane : w.sock.Sane)
    (made : entry.Allowed Call.MtuAbove) (allows : Allows Call.MtuAbove env)
    (past : entry.EchoPast w.sock (env 0).clock) :
    entry.run (userCode 0) (w.within env) ≠ (.error fault, w') := by
  intro ended
  have fails := wp_error (entry.run_steps w early made allows) ended
  have quiet : ¬∃ h₁, ReflTransGen (Quiet Call.MtuAbove) w.toHistory h₁ ∧ Cause h₁.sock fault := by
    rintro ⟨h₁, steps, cause⟩
    exact ((ordered_of_quiet ordered steps).not_sane cause).1 (sane_of_quiet sane steps)
  cases entry with
  | connect | call | notifyClock => exact quiet fails.2
  | notifyPacket buffer len =>
    rcases fails.cause with ⟨h₁, processed, cause⟩ | ⟨h₁, opening, cause⟩
    · exact ((Processed.ordered ordered processed).not_sane cause).1 (Processed.sane sane processed)
    · obtain rfl := (ordered_of_quiet ordered opening.steps).rtt_of_ackCause cause
      obtain ⟨new, sent, echoed, future⟩ := cause
      have una : h₁.sock.sndUna = w.sock.sndUna :=
        invariant_of_steps (I := fun h => h.sock.sndUna = w.sock.sndUna)
          (fun _ _ step same => step.sndUna.trans same) opening.steps rfl
      rw [una] at new
      refine absurd (past new ?_ echoed) (not_le.mpr future)
      by_cases requested : w.sock.state = .synSent
      · exact .inr requested
      · left
        rwa [← (opening.pointers requested).2]

/-- No run stops, whatever the clock reads and `WritePacket` returns, in which every MTU is above
the packet overhead and every packet that acknowledges new data echoes a timestamp of the past. -/
theorem no_fault_of_run
    (reached : Reachable 0 (fun w entry env => entry.Allowed Call.MtuAbove ∧
      Allows Call.MtuAbove env ∧ entry.EchoPast w.sock (env 0).clock) result w) :
    result = .ok () := by
  cases reached with
  | new conversation now => rfl
  | step entry env before condition ended =>
    obtain ⟨made, allows, past⟩ := condition
    have sane := before.keeps_allowed (I := fun h => h.sock.Sane) Call.MtuAbove
      (fun _ _ _ condition => ⟨condition.1, condition.2.1⟩) sane_new
      (fun _ _ _ _ _ _ does sane => does.sane sane)
    cases result with
    | ok returned => rfl
    | error fault =>
      exact absurd ended (entry.run_returns before.lived.2 before.ordered sane made allows past)

/-- A packet that acknowledges the control byte. -/
def ackPacket (tsecr : UInt32) : Entry := .delivery ⟨0, 0, 1, 0, 61440, 1000, tsecr, []⟩

/-- An acknowledgement of the control byte that echoes the present is processed. -/
theorem no_fault_of_run_handshake :
    let w := Entry.connect.after (userCode 0) steady (World.new 0 1000)
    w.sock.sndUna < 1 ∧ 1 ≤ w.sock.sndNxt ∧
      ((ackPacket 1000).run (userCode 0) (w.within steady)).1 = .ok () := by
  intro w
  have reached : Reachable 0 (fun w entry env => entry.Allowed Call.MtuAbove ∧
      Allows Call.MtuAbove env ∧ entry.EchoPast w.sock (env 0).clock) (.ok ()) w :=
    .next .connect steady (.new 0 1000) ⟨trivial, by simp [Allows, steady], trivial⟩ (by rfl)
  have past : (ackPacket 1000).EchoPast w.sock (steady 0).clock := by
    intro _ _ _
    decide +kernel
  refine ⟨by decide +kernel, by decide +kernel, ?_⟩
  exact no_fault_of_run (.step (ackPacket 1000) steady reached
    ⟨trivial, by simp [Allows, steady], past⟩ rfl)

/-- With a clock that stands still and packets of a whole header, the assertion on the round-trip
time fails for an echoed timestamp of the future. -/
theorem rttAssert_of_future_echo :
    ∃ w, Reachable 0 (fun _ entry env => entry.Allowed Call.MtuAbove ∧ Allows Call.MtuAbove env ∧
      entry.Headed ∧ ∀ n, (env n).clock = 1000) (.error .rttAssert) w := by
  have opened : Reachable 0 (fun _ entry env => entry.Allowed Call.MtuAbove ∧
      Allows Call.MtuAbove env ∧ entry.Headed ∧ ∀ n, (env n).clock = 1000) (.ok ())
      (Entry.connect.after (userCode 0) steady (World.new 0 1000)) :=
    .next .connect steady (.new 0 1000)
      ⟨trivial, by simp [Allows, steady], trivial, fun _ => rfl⟩ (by rfl)
  exact ⟨_, .step (ackPacket 2000) steady opened
    ⟨trivial, by simp [Allows, steady], Nat.le_refl 24, fun _ => rfl⟩ (Prod.ext (by rfl) rfl)⟩

end Xice.PseudoTcp
