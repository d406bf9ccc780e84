import Xice.PseudoTcp.Frame

/-!
# The next clock

`get_next_clock` says in how many milliseconds `notify_clock` is to be called again. Deadlines are
compared with the 32-bit clock through `time_diff`, and `adjust_tcp_clock` hands the difference to a
timer that takes an unsigned interval. Times are natural numbers here, whose last 32 bits are read.
-/

namespace Xice.PseudoTcp

open Xice.Lib Exec Option

/-! ## The retransmit timeout -/

/-- The retransmit timeout is at most `MAX_RTO`. -/
def PseudoTcpSocket.Patient (s : PseudoTcpSocket) : Prop := s.rxRto ≤ maxRto

/-- A timeout of at most `MAX_RTO` stays so. -/
def Patience (w₀ w : World) : Prop := w₀.sock.Patient → w.sock.Patient

/-- A program that keeps the timeout below `MAX_RTO`. -/
abbrev Patiently (w₀ : World) {α : Type} (m : Run α) : Prop := Keeps (Patience w₀) m

namespace Patiently

variable {w₀ : World}

/-- A change of the socket that is patient. -/
theorem modifySock {f : PseudoTcpSocket → PseudoTcpSocket} (kept : ∀ s, s.Patient → (f s).Patient) :
    Patiently w₀ (modifySock f) :=
  Keeps.modify fun w start patient => kept w.sock (start patient)

/-- Events do not matter. -/
theorem emit (event : Event) : Patiently w₀ (emit event) := Keeps.modify fun _ kept => kept

/-- Nor do replies. -/
theorem nextReply : Patiently w₀ nextReply := by
  intro w kept
  rwa [ends, wp_nextReply]

/-- `packet` is patient. -/
theorem packet {user : UserCode} (kept : ∀ w₀ calls, Patiently w₀ (user calls)) (seq : UInt32)
    (flags : UInt8) (data : Option Mem) (len : UInt32) :
    Patiently w₀ (packet user seq flags data len) := by
  have write (p : Packet) : Patiently w₀ (writePacket user p) :=
    .bind nextReply fun _ => .bind (emit _) fun _ => .bind (kept _ _) fun _ => .pure _
  exact .bind (.bind nextReply fun _ => .pure _) fun _ => .bind (.require _ _) fun _ =>
    .bind .getSock fun _ => .bind (modifySock fun _ same => same) fun _ =>
      .bind (write _) fun _ =>
        .ite (.pure _) (.bind (modifySock fun _ same => same) fun _ => .pure _)

/-- The timeout is not touched by most of what a socket does. -/
theorem frame : AckFrame Patience where
  sock kept framed patient := by
    rw [PseudoTcpSocket.Patient, framed.rxRto]
    exact kept patient
  event kept _ := kept
  reply kept := kept
  state _ kept := kept
  notice kept _ := kept
  measured _ _ _ := UInt32.le_iff_toNat_le.mpr (by
    simp only [PseudoTcpSocket.measured, bound, Word.toNat_min32]
    omega)
  packet kept _ := packet kept
  transmit kept _ := transmit_keeps (fun held framed patient => by
    rw [PseudoTcpSocket.Patient, framed.rxRto]
    exact held patient) (fun _ _ held => held) (packet kept)
  outgoing _ _ kept := kept

variable {user : UserCode} (kept : ∀ w₀ calls, Patiently w₀ (user calls))
include kept

/-- `attempt_send` is patient. -/
theorem attemptSend (sflags : SendFlags) : Patiently w₀ (attemptSend user sflags) :=
  frame.attemptSend kept fun _ _ _ patient => patient

omit kept in
/-- Storing payload is patient. -/
theorem storeData (buffer : Mem) (seg : Segment) (sflags : SendFlags) :
    Patiently w₀ (storeData buffer seg sflags) :=
  .bind .getSock fun _ => .ite (.pure _) (.ite
    (.ite (.bind (modifySock fun _ same => same) fun _ => .pure _) (.pure _))
    (.bind (emit _) fun _ => .bind (emit _) fun _ => .bind (modifySock fun _ same => same) fun _ =>
      .ite (.bind .getSock fun _ => .bind (modifySock fun _ same => same) fun _ => .pure _)
        (.bind (modifySock fun _ same => same) fun _ => .pure _)))

/-- So is the payload stage. -/
theorem processData (buffer : Mem) (seg : Segment) : Patiently w₀ (processData user buffer seg) :=
  .bind .getSock fun _ => .bind (storeData _ _ _) fun _ => .bind (attemptSend kept _) fun _ =>
    frame.announceReadable kept _

/-- So is `process`. -/
theorem process (buffer : Mem) (seg : Segment) : Patiently w₀ (process user buffer seg) := by
  refine .bind .getSock fun _ => .ite (.pure _) (.bind frame.getCurrentTime fun _ =>
    .bind (modifySock fun _ same => same) fun _ => .bind .getSock fun _ => .ite (.pure _)
      (.ite (.bind (frame.closedown kept _) fun _ => .pure _)
        (.bind (frame.processControl kept _ fun _ _ patient => patient) fun control => ?_)))
  cases control with
  | none => exact .pure _
  | some bConnect =>
    exact .bind (modifySock fun _ same => same) fun _ => .bind (frame.processAck kept _ _ _) fun _ =>
      .ite (.bind (processData kept _ _) fun _ => .pure _) (.pure _)

omit kept in
/-- So is reading the header. -/
theorem readHeader (events : List Event) : Patiently w₀ (readHeader events) := by
  induction events with
  | nil => exact .pure _
  | cons event events ih => exact .bind (emit _) fun _ => ih

/-- So is `notify_packet`. -/
theorem notifyPacket (buffer : Mem) (len : UInt32) : Patiently w₀ (notifyPacket user buffer len) :=
  .ite (.pure _) (.ite (.pure _) (.bind (readHeader _) fun _ => process kept _ _))

/-- So is `connect`. -/
theorem connect : Patiently w₀ (connect user) :=
  .bind .getSock fun _ => .ite (.bind (modifySock fun _ same => same) fun _ => .pure _)
    (.bind (modifySock fun _ same => same) fun _ => .bind (frame.queue _ _ _) fun _ =>
      .bind (attemptSend kept _) fun _ => .pure _)

omit kept in
/-- A cap below the maximum. -/
theorem capped {limit : UInt32} (low : limit ≤ maxRto) (rto : UInt32) : min limit rto ≤ maxRto := by
  rw [UInt32.le_iff_toNat_le] at low ⊢
  rw [Word.toNat_min32]
  omega

/-- The retransmission is patient. -/
theorem checkRetransmit (now : UInt32) : Patiently w₀ (checkRetransmit user now) := by
  refine .bind .getSock fun _ => .ite (.bind (.require _ _) fun _ => .bind (frame.transmit kept _ _ _) fun _ =>
    .ite (.bind (modifySock fun s _ => ?_) fun _ => .pure _)
      (.bind (frame.closedown kept _) fun _ => .pure _)) (.pure _)
  exact capped (limit_range rfl).2 _

/-- So is the probe. -/
theorem checkProbe (now : UInt32) : Patiently w₀ (checkProbe user now) :=
  .bind .getSock fun _ => .ite (.ite (.bind (frame.closedown kept _) fun _ => .pure _)
    (.bind (packet kept _ _ _ _) fun _ => .bind (modifySock fun _ _ => capped UInt32.le_rfl _) fun _ =>
      .pure _)) (.pure _)

/-- So is the acknowledgement. -/
theorem checkDelayedAck (now : UInt32) : Patiently w₀ (checkDelayedAck user now) :=
  .bind .getSock fun _ => .ite (.bind (packet kept _ _ _ _) fun _ => .pure _) (.pure _)

/-- So is `notify_clock`. -/
theorem notifyClock : Patiently w₀ (notifyClock user) :=
  .bind frame.getCurrentTime fun _ => .bind .getSock fun _ => .ite
    (.bind (checkRetransmit kept _) fun _ => .ite
      (.bind (checkProbe kept _) fun _ => .ite (checkDelayedAck kept _) (.pure _)) (.pure _))
    (.pure _)

end Patiently

/-- Every entry point keeps the timeout below `MAX_RTO`. -/
theorem Entry.run_patiently (depth : Nat) (entry : Entry) (w₀ : World) :
    Patiently w₀ (entry.run (userCode depth)) := by
  have kept := Patiently.frame.userCode depth
  cases entry with
  | connect => exact .bind (Patiently.connect kept) fun _ => .pure _
  | call made => exact Patiently.frame.runCall kept made
  | notifyClock => exact Patiently.notifyClock kept
  | notifyPacket buffer len => exact .bind (Patiently.notifyPacket kept buffer len) fun _ => .pure _

/-- In every run the timeout is at most `MAX_RTO`. -/
theorem Reachable.patient {depth : Nat} {meets : World → Entry → (Nat → Reply) → Prop}
    {result : Except Fault Unit} {w : World} (reached : Reachable depth meets result w) :
    w.sock.Patient := by
  induction reached with
  | new conversation now =>
    have first : defRto ≤ maxRto := by decide
    exact first
  | step entry env before condition ended ih =>
    exact ends_run (entry.run_patiently depth _ (World.within _ env) id) ended ih

/-! ## Differences of times -/

/-- `time_diff` of two times less than half of the range apart. -/
theorem timeDiff_ofNat {later earlier : Nat} (below : later < earlier + 2 ^ 31)
    (above : earlier < later + 2 ^ 31) :
    timeDiff (UInt32.ofNat later) (UInt32.ofNat earlier) = (later : Int) - earlier := by
  rw [timeDiff_eq, UInt32.toNat_ofNat', UInt32.toNat_ofNat', Int.bmod_def]
  omega

/-! ## Deadlines -/

/-- The interval of the timer of `adjust_tcp_clock`: the timeout as a `guint`, if the socket is not
to be destroyed. -/
def PseudoTcpSocket.adjustTcpClock (s : PseudoTcpSocket) (now : UInt32) : Option UInt32 :=
  (s.getNextClock now).map UInt32.ofInt

/-- The times that a socket recorded, none of them after `now`. -/
structure Recorded (s : PseudoTcpSocket) (now : Nat) where
  /-- When the delayed acknowledgement was put off. -/
  tAck : Nat
  /-- When the retransmit timer was started. -/
  rtoBase : Nat
  lastsend : Nat
  tAck_reads : UInt32.ofNat tAck = s.tAck
  rtoBase_reads : UInt32.ofNat rtoBase = s.rtoBase
  lastsend_reads : UInt32.ofNat lastsend = s.lastsend
  past : tAck ≤ now ∧ rtoBase ≤ now ∧ lastsend ≤ now

namespace Recorded

variable {s : PseudoTcpSocket} {now : Nat} {timeout : Int}

/-- The deadlines of `notify_clock`: the delayed acknowledgement, the retransmission and the probe.
A closed socket has none. -/
def Pending (times : Recorded s now) (deadline : Nat) : Prop :=
  s.state ≠ .closed ∧
    (s.tAck ≠ 0 ∧ deadline = times.tAck + ackDelay.toNat ∨
      s.rtoBase ≠ 0 ∧ deadline = times.rtoBase + s.rxRto.toNat ∨
      s.sndWnd = 0 ∧ deadline = times.lastsend + s.rxRto.toNat)

/-- A timeout is not negative, at most a minute, no later than any deadline, where one that has
passed counts as now, and the timer that `adjust_tcp_clock` starts keeps to that. -/
structure Contract (times : Recorded s now) (timeout : Int) : Prop where
  range : 0 ≤ timeout ∧ timeout ≤ 60000
  deadline : ∀ deadline, times.Pending deadline → now + timeout ≤ max now deadline
  timer : ∀ interval, s.adjustTcpClock (UInt32.ofNat now) = some interval →
    ∀ deadline, times.Pending deadline → now + interval.toNat ≤ max now deadline

/-- The time left until a deadline. -/
theorem timeDiff_deadline {time : Nat} {reading delay : UInt32}
    (reads : UInt32.ofNat time = reading) (past : time ≤ now) (short : delay ≤ maxRto)
    (recent : now < time + delay.toNat + 2 ^ 31) :
    timeDiff (reading + delay) (UInt32.ofNat now) = ((time + delay.toNat : Nat) : Int) - now := by
  have limit : maxRto.toNat = 60000 := rfl
  rw [UInt32.le_iff_toNat_le, limit] at short
  have same : reading + delay = UInt32.ofNat (time + delay.toNat) := by
    rw [UInt32.ofNat_add, UInt32.ofNat_toNat, reads]
  rw [same]
  exact timeDiff_ofNat (by omega) (by omega)

/-- A timeout is lowered to the time left. -/
theorem lowered_timeout {set : Prop} [Decidable set] {timeout left result : Int}
    (same : result = if set then min timeout left else timeout) :
    result ≤ timeout ∧ (set → result ≤ left) ∧ (result = timeout ∨ set ∧ result = left) := by
  by_cases on : set
  · rw [if_pos on] at same
    refine ⟨by omega, fun _ => by omega, ?_⟩
    rcases le_total timeout left with first | first
    · exact .inl (by omega)
    · exact .inr ⟨on, by omega⟩
  · rw [if_neg on] at same
    exact ⟨by omega, fun set => absurd set on, .inl same⟩

/-- The timeout starts at `DEFAULT_TIMEOUT` and is lowered three times. -/
theorem getNextClock_live {now : UInt32} (answered : s.getNextClock now = some timeout)
    (live : s.state ≠ .closed) :
    ∃ first second : Int,
      first = (if s.tAck ≠ 0 then min defaultTimeout (timeDiff (s.tAck + ackDelay) now)
        else defaultTimeout) ∧
      second = (if s.rtoBase ≠ 0 then min first (timeDiff (s.rtoBase + s.rxRto) now) else first) ∧
      timeout = if s.sndWnd = 0 then min second (timeDiff (s.lastsend + s.rxRto) now) else second := by
  simp only [PseudoTcpSocket.getNextClock] at answered
  split at answered
  · exact nomatch answered
  · split at answered
    · exact nomatch answered
    · exact ⟨_, _, rfl, rfl, (some.inj answered).symm⟩

/-- It is the least of the times left and `DEFAULT_TIMEOUT`. -/
theorem getNextClock_least (times : Recorded s now) (patient : s.Patient)
    (recent : ∀ deadline, times.Pending deadline → now < deadline + 2 ^ 31)
    (answered : s.getNextClock (UInt32.ofNat now) = some timeout) (live : s.state ≠ .closed) :
    timeout ≤ 4000 ∧ (∀ deadline, times.Pending deadline → timeout ≤ (deadline : Int) - now) ∧
      (timeout = 4000 ∨ ∃ deadline : Nat, times.Pending deadline ∧ timeout = (deadline : Int) - now) := by
  have ack (on : s.tAck ≠ 0) : times.Pending (times.tAck + ackDelay.toNat) :=
    ⟨live, .inl ⟨on, rfl⟩⟩
  have resend (on : s.rtoBase ≠ 0) : times.Pending (times.rtoBase + s.rxRto.toNat) :=
    ⟨live, .inr (.inl ⟨on, rfl⟩)⟩
  have probe (on : s.sndWnd = 0) : times.Pending (times.lastsend + s.rxRto.toNat) :=
    ⟨live, .inr (.inr ⟨on, rfl⟩)⟩
  have ackLeft (on : s.tAck ≠ 0) := timeDiff_deadline times.tAck_reads times.past.1
    (by decide : ackDelay ≤ maxRto) (recent _ (ack on))
  have resendLeft (on : s.rtoBase ≠ 0) := timeDiff_deadline times.rtoBase_reads times.past.2.1 patient
    (recent _ (resend on))
  have probeLeft (on : s.sndWnd = 0) := timeDiff_deadline times.lastsend_reads times.past.2.2 patient
    (recent _ (probe on))
  obtain ⟨first, second, one, two, three⟩ := getNextClock_live answered live
  obtain ⟨low₁, left₁, from₁⟩ := lowered_timeout one
  obtain ⟨low₂, left₂, from₂⟩ := lowered_timeout two
  obtain ⟨low₃, left₃, from₃⟩ := lowered_timeout three
  have start : defaultTimeout = 4000 := rfl
  refine ⟨by omega, ?_, ?_⟩
  · rintro deadline ⟨-, ⟨on, rfl⟩ | ⟨on, rfl⟩ | ⟨on, rfl⟩⟩
    · have left := left₁ on
      rw [ackLeft on] at left
      omega
    · have left := left₂ on
      rw [resendLeft on] at left
      omega
    · have left := left₃ on
      rw [probeLeft on] at left
      omega
  · rcases from₃ with same₃ | ⟨on, last⟩
    · rcases from₂ with same₂ | ⟨on, last⟩
      · rcases from₁ with same₁ | ⟨on, last⟩
        · exact .inl (by omega)
        · exact .inr ⟨_, ack on, by rw [same₃, same₂, last, ackLeft on]⟩
      · exact .inr ⟨_, resend on, by rw [same₃, last, resendLeft on]⟩
    · exact .inr ⟨_, probe on, by rw [last, probeLeft on]⟩

/-- A closed socket waits a minute. -/
theorem getNextClock_closed (answered : s.getNextClock (UInt32.ofNat now) = some timeout)
    (closed : s.state = .closed) : timeout = 60000 := by
  simp only [PseudoTcpSocket.getNextClock] at answered
  split at answered
  · exact nomatch answered
  · split at answered
    · exact nomatch answered
    · exact (some.inj answered).symm

/-- A timeout inside its range is the interval of the timer. -/
theorem toNat_interval {interval : UInt32} (range : 0 ≤ timeout ∧ timeout ≤ 60000)
    (answered : s.getNextClock (UInt32.ofNat now) = some timeout)
    (started : s.adjustTcpClock (UInt32.ofNat now) = some interval) :
    (interval.toNat : Int) = timeout := by
  rw [PseudoTcpSocket.adjustTcpClock, answered, map_some, some.injEq] at started
  rw [← started, Word.toNat_ofInt32 (by omega) (by omega)]
  omega

end Recorded

/-- In every state of every run, at a time after the recorded times and less than half of the range
of the clock after the deadlines, the timeout is as it should be just when no pending deadline has
passed. -/
theorem contract_of_run {depth : Nat} {meets : World → Entry → (Nat → Reply) → Prop}
    {result : Except Fault Unit} {w : World} (reached : Reachable depth meets result w) {now : Nat}
    (times : Recorded w.sock now) {timeout : Int}
    (answered : w.sock.getNextClock (UInt32.ofNat now) = some timeout)
    (recent : ∀ deadline, times.Pending deadline → now < deadline + 2 ^ 31) :
    times.Contract timeout ↔ ∀ deadline, times.Pending deadline → now ≤ deadline := by
  by_cases closed : w.sock.state = .closed
  · have minute := Recorded.getNextClock_closed answered closed
    have idle : ∀ deadline, ¬times.Pending deadline := fun _ pending => pending.1 closed
    exact ⟨fun _ _ pending => absurd pending (idle _), fun _ => ⟨by omega,
      fun _ pending => absurd pending (idle _), fun _ _ _ pending => absurd pending (idle _)⟩⟩
  · obtain ⟨most, least, reason⟩ := times.getNextClock_least reached.patient recent answered closed
    constructor
    · intro contract deadline pending
      have left := least deadline pending
      have range := contract.range
      omega
    · intro early
      have range : 0 ≤ timeout ∧ timeout ≤ 60000 := by
        refine ⟨?_, by omega⟩
        rcases reason with same | ⟨deadline, pending, same⟩
        · omega
        · have := early deadline pending
          omega
      refine ⟨range, fun deadline pending => ?_, fun interval started deadline pending => ?_⟩
      · have left := least deadline pending
        omega
      · have left := least deadline pending
        have same := Recorded.toNat_interval range answered started
        omega

/-- The connect message was sent at 1000, to be repeated at 4000. -/
def connecting : World := Entry.connect.after (userCode 0) steady (World.new 0 1000)

/-- A run leads there. -/
theorem connecting_reached : Reachable 0 (fun _ _ _ => True) (.ok ()) connecting :=
  .next .connect steady (.new 0 1000) trivial (by decide +kernel)

/-- The times that the connecting socket recorded. -/
def connectingTimes (now : Nat) (late : 1000 ≤ now) : Recorded connecting.sock now where
  tAck := 0
  rtoBase := 1000
  lastsend := 1000
  tAck_reads := by decide +kernel
  rtoBase_reads := by decide +kernel
  lastsend_reads := by decide +kernel
  past := ⟨by omega, late, late⟩

/-- One deadline is pending. -/
theorem connecting_pending {now deadline : Nat} {late : 1000 ≤ now} :
    (connectingTimes now late).Pending deadline ↔ deadline = 4000 := by
  have live : connecting.sock.state ≠ .closed := by decide +kernel
  have ack : connecting.sock.tAck = 0 := by decide +kernel
  have resend : connecting.sock.rtoBase ≠ 0 := by decide +kernel
  have peer : connecting.sock.sndWnd ≠ 0 := by decide +kernel
  have rto : connecting.sock.rxRto.toNat = 3000 := by decide +kernel
  simp [Recorded.Pending, connectingTimes, live, ack, resend, peer, rto]

/-- At 2500 the timer is set to the remaining 1500 ms. -/
theorem contract_of_run_connecting :
    connecting.sock.getNextClock 2500 = some 1500 ∧
      (connectingTimes 2500 (by decide)).Contract 1500 := by
  have answered : connecting.sock.getNextClock (UInt32.ofNat 2500) = some 1500 := by decide +kernel
  refine ⟨answered, (contract_of_run connecting_reached _ answered ?_).mpr ?_⟩
  · intro deadline pending
    rw [connecting_pending] at pending
    omega
  · intro deadline pending
    rw [connecting_pending] at pending
    omega

/-- At 5000 the timeout is negative, and the timer that `adjust_tcp_clock` starts goes off after
more than 49 days. -/
theorem contract_broken_late :
    Reachable 0 (fun _ _ _ => True) (.ok ()) connecting ∧
      connecting.sock.getNextClock 5000 = some (-1000) ∧
      connecting.sock.adjustTcpClock 5000 = some 4294966296 ∧
      ¬(connectingTimes 5000 (by decide)).Contract (-1000) := by
  refine ⟨connecting_reached, by decide +kernel, by decide +kernel, fun contract => ?_⟩
  have range := contract.range.1
  omega

end Xice.PseudoTcp
