import Xice.PseudoTcp.Progress

/-!
# What is acknowledged

`process` decides on an acknowledgement before it cuts the segment, and `attempt_send` carries it
out: with a packet now, or with the delayed acknowledgement timer. Its loop leaves early when
Nagle's rule holds small segments back, and then does neither. The timer is a time whose zero means
off.
-/

namespace Xice.PseudoTcp

open Xice.Lib Exec

variable {s s' : PseudoTcpSocket} {sflags : SendFlags} {seg : Segment}

/-- Whether an event is a call of `WritePacket`. -/
def Event.isWrite : Event → Bool
  | .writePacket _ _ => true
  | _ => false

/-- The number of packets handed to `WritePacket`. -/
def World.writes (w : World) : Nat := w.trace.countP Event.isWrite

/-- The timer, what is in flight and the window of the peer are the same. -/
structure PseudoTcpSocket.Rests (s s' : PseudoTcpSocket) : Prop where
  tAck : s'.tAck = s.tAck
  sndNxt : s'.sndNxt = s.sndNxt
  sndUna : s'.sndUna = s.sndUna
  sndWnd : s'.sndWnd = s.sndWnd

/-- `rcv_nxt` stayed, and the rest did unless a packet was written. -/
structure Since (w₀ w : World) : Prop where
  writes : w₀.writes ≤ w.writes
  rcvNxt : w.sock.rcvNxt = w₀.sock.rcvNxt
  env : w.env = w₀.env
  rests : w.writes = w₀.writes → w₀.sock.Rests w.sock

/-- Between two worlds a packet was written. -/
structure Handed (w₀ w : World) : Prop where
  writes : w₀.writes < w.writes
  rcvNxt : w.sock.rcvNxt = w₀.sock.rcvNxt
  env : w.env = w₀.env

variable {w₀ w w' : World} {user : UserCode}

/-- Nothing happened. -/
theorem PseudoTcpSocket.Rests.refl (s : PseudoTcpSocket) : s.Rests s := ⟨rfl, rfl, rfl, rfl⟩

/-- One rest after the other. -/
theorem PseudoTcpSocket.Rests.trans {s'' : PseudoTcpSocket} (first : s.Rests s')
    (second : s'.Rests s'') : s.Rests s'' :=
  ⟨second.tAck.trans first.tAck, second.sndNxt.trans first.sndNxt, second.sndUna.trans first.sndUna,
    second.sndWnd.trans first.sndWnd⟩

/-- Nothing happened. -/
theorem Since.refl (w : World) : Since w w := ⟨le_rfl, rfl, rfl, fun _ => .refl _⟩

/-- One after the other. -/
theorem Since.trans (first : Since w₀ w) (second : Since w w') : Since w₀ w' where
  writes := first.writes.trans second.writes
  rcvNxt := second.rcvNxt.trans first.rcvNxt
  env := second.env.trans first.env
  rests same := by
    have := first.writes
    have := second.writes
    exact (first.rests (by omega)).trans (second.rests (by omega))

/-- When a packet was written, nothing else is said. -/
theorem Handed.since (wrote : Handed w₀ w) : Since w₀ w :=
  ⟨wrote.writes.le, wrote.rcvNxt, wrote.env, fun same => absurd same wrote.writes.ne'⟩

/-- A packet was written before. -/
theorem Handed.after (first : Handed w₀ w) (second : Since w w') : Handed w₀ w' :=
  ⟨first.writes.trans_le second.writes, second.rcvNxt.trans first.rcvNxt,
    second.env.trans first.env⟩

/-- A packet was written then. -/
theorem Since.hands (first : Since w₀ w) (second : Handed w w') : Handed w₀ w' :=
  ⟨first.writes.trans_lt second.writes, second.rcvNxt.trans first.rcvNxt,
    second.env.trans first.env⟩

/-- The event of a packet. -/
theorem Handed.of_write {p : Packet} {wres : PseudoTcpWriteResult}
    (trace : w'.trace = w.trace ++ [.writePacket p wres]) (rcvNxt : w'.sock.rcvNxt = w.sock.rcvNxt)
    (env : w'.env = w.env) : Handed w w' := by
  refine ⟨?_, rcvNxt, env⟩
  simp [World.writes, trace, Event.isWrite]

/-- `packet` calls `WritePacket`, whatever comes back. -/
theorem packet_hands (kept : ∀ w₀ calls, Keeps (Since w₀) (user calls)) (seq : UInt32)
    (flags : UInt8) (data : Option Mem) (len : UInt32) (w : World) :
    wp (packet user seq flags data len) (fun _ => Handed w) (fun _ => Since w) w := by
  simp only [packet, writePacket, ↓wp_rules]
  split
  · refine wp_mono (kept _ _ _ (Since.refl _)) ?_ ?_
    · intro _ w₁ after
      have handed : Handed w w₁ := by
        refine Handed.after ?_ after
        exact .of_write rfl rfl rfl
      split
      · exact handed
      · exact ⟨handed.writes, handed.rcvNxt, handed.env⟩
    · intro _ w₁ after
      have handed : Handed w w₁ := by
        refine Handed.after ?_ after
        exact .of_write rfl rfl rfl
      exact handed.since
  · exact ⟨le_rfl, rfl, rfl, fun _ => ⟨rfl, rfl, rfl, rfl⟩⟩

/-- Another event. -/
theorem Since.event {event : Event} (since : Since w₀ w) (other : event.isWrite = false) :
    Since w₀ { w with trace := w.trace ++ [event] } := by
  have same : World.writes { w with trace := w.trace ++ [event] } = w.writes := by
    simp [World.writes, other]
  exact ⟨same ▸ since.writes, since.rcvNxt, since.env, fun equal => since.rests (same ▸ equal)⟩

/-! ## `attempt_send` -/

section Sending

variable (kept : ∀ w₀ calls, Keeps (Since w₀) (user calls))
include kept

/-- One call of `packet` in `transmit`. -/
theorem sendSegment_hands (index : Nat) (count : UInt32) (w : World) :
    wp (sendSegment user index count) (fun _ => Handed w) (fun _ => Since w) w := by
  simp only [sendSegment, ↓wp_rules]
  cases w.sock.slist[index]? with
  | none =>
    simp only [↓wp_rules]
    exact Since.refl w
  | some segment => exact packet_hands kept _ _ _ _ w

/-- The loop of `transmit` writes a packet, also when it fails. -/
theorem transmitLoop_hands (index fuel : Nat) (count : UInt32) (w : World) :
    wp (transmitLoop user index fuel count) (fun _ => Handed w) (fun _ => Since w) w := by
  induction fuel generalizing count w with
  | zero =>
    simp only [transmitLoop, ↓wp_rules]
    exact Since.refl w
  | succ fuel ih =>
    simp only [transmitLoop, ↓wp_rules]
    refine wp_imp (sendSegment_hands kept index count w) ?_
    intro result w₁ wrote
    cases result with
    | success => simpa only [↓wp_pure] using wrote
    | fail => simpa only [↓wp_pure] using wrote
    | tooLarge =>
      simp only [↓wp_rules]
      have framed := w₁.sock.lowerMss_framed count (packetMaximums.drop (w₁.sock.msslevel.toNat + 1))
      have lowered : Handed w { w₁ with sock := (w₁.sock.lowerMss count
          (packetMaximums.drop (w₁.sock.msslevel.toNat + 1))).1 } :=
        ⟨wrote.writes, framed.rcvNxt.trans wrote.rcvNxt, wrote.env⟩
      split
      · exact wp_mono (ih _ _) (fun _ _ again => lowered.since.hands again)
          (fun _ _ since => (lowered.after since).since)
      · exact lowered

/-- `transmit` writes a packet, unless the segment was transmitted too often. -/
theorem transmit_hands (index : Nat) (now : UInt32) (w : World) :
    wp (transmit user index now) (fun sent w' => Handed w w' ∨ sent = false ∧ w' = w ∧
      ∃ segment, w.sock.slist[index]? = some segment ∧ segment.xmit ≥ w.sock.xmitLimit)
      (fun _ => Since w) w := by
  simp only [transmit, ↓wp_rules]
  cases found : w.sock.slist[index]? with
  | none =>
    simp only [↓wp_rules]
    exact Since.refl w
  | some segment =>
    simp only [↓wp_rules]
    split
    · rename_i often
      exact .inr ⟨trivial, trivial, segment, rfl, often⟩
    · refine wp_imp (transmitLoop_hands kept index _ _ w) ?_
      intro sent w₁ wrote
      cases sent with
      | none => simpa only [↓wp_pure] using .inl wrote
      | some count =>
        simp only [↓wp_rules]
        refine .inl ⟨wrote.writes, Eq.trans ?_ wrote.rcvNxt, wrote.env⟩
        unfold PseudoTcpSocket.transmitted
        split <;> rfl

end Sending

/-- Most functions leave `rcv_nxt`, and the rest unless they write a packet. -/
theorem Since.frame : FullFrame Since where
  sock since framed := since.trans ⟨le_rfl, framed.rcvNxt, rfl, fun _ =>
    ⟨framed.tAck, framed.sndNxt, framed.sndUna, framed.sndWnd⟩⟩
  event {_ _ event} since queue := by
    refine since.event ?_
    cases event <;> first | rfl | exact queue.elim
  reply since := since.trans ⟨le_rfl, rfl, rfl, fun _ => ⟨rfl, rfl, rfl, rfl⟩⟩
  state _ since := since.trans ⟨le_rfl, rfl, rfl, fun _ => ⟨rfl, rfl, rfl, rfl⟩⟩
  notice {_ _ event} since notice := by
    refine since.event ?_
    cases event <;> first | rfl | exact notice.elim
  measured _ since := since.trans ⟨le_rfl, rfl, rfl, fun _ => ⟨rfl, rfl, rfl, rfl⟩⟩
  packet kept w₀ seq flags data len w since :=
    wp_mono (packet_hands kept seq flags data len w) (fun _ _ wrote => since.trans wrote.since)
      (fun _ _ => since.trans)
  transmit kept w₀ index now w since := by
    refine wp_mono (transmit_hands kept index now w) ?_ (fun _ _ => since.trans)
    rintro _ w₁ (wrote | ⟨_, rfl, _⟩)
    · exact since.trans wrote.since
    · exact since

/-- The congestion window after a pause in `attempt_send`. -/
def PseudoTcpSocket.afterIdle (s : PseudoTcpSocket) (now : UInt32) : PseudoTcpSocket :=
  { s with cwnd := if timeDiff now s.lastsend > s.rxRto.toNat then s.mss else s.cwnd }

/-- Nagle's rule holds back bytes that could be transmitted. -/
def PseudoTcpSocket.HeldBack (s : PseudoTcpSocket) : Prop := s.nAvailable ≠ 0 ∧ s.nagle

instance (s : PseudoTcpSocket) : Decidable s.HeldBack := inferInstanceAs (Decidable (_ ∧ _))

/-- The socket as the loop of `attempt_send` finds it. -/
def World.waking (w : World) : PseudoTcpSocket := w.sock.afterIdle (w.env w.pos).clock

/-- What `attempt_send` does about an acknowledgement. -/
inductive Answer (sflags : SendFlags) (w w' : World) : Prop
  /-- Bytes are held back, and nothing happens. -/
  | held (held : w.waking.HeldBack) (writes : w'.writes = w.writes)
      (tAck : w'.sock.tAck = w.sock.tAck)
  /-- A packet is written. -/
  | wrote (wrote : w.writes < w'.writes)
  /-- The timer is started with the reading of the clock. -/
  | timed (delayed : sflags = .delayedAck) (writes : w'.writes = w.writes)
      (tAck : ∃ n, w'.sock.tAck = (w.env n).clock)
  /-- Nothing was to be acknowledged. -/
  | none (none : sflags = .none) (writes : w'.writes = w.writes)

/-- No packet is taken back. -/
theorem Answer.writes_le (answer : Answer sflags w w') :
    w.writes ≤ w'.writes := by
  cases answer with
  | wrote wrote => exact wrote.le
  | held _ writes | timed _ writes | none _ writes => exact writes.ge

/-- What `process` decides to acknowledge. -/
structure Segment.Decided (seg : Segment) (rcvNxt : UInt32) (sflags : SendFlags) : Prop where
  none : sflags = .none → seg.seq = rcvNxt ∧ seg.len = 0
  delayed : sflags = .delayedAck → seg.seq = rcvNxt ∧ seg.len ≠ 0

/-- `snd_una` after the acknowledgement number of a segment. -/
def PseudoTcpSocket.ackedUna (s : PseudoTcpSocket) (seg : Segment) : UInt32 :=
  if seg.ack > s.sndUna ∧ seg.ack ≤ s.sndNxt then seg.ack else s.sndUna

/-- The window of the peer after it. -/
def PseudoTcpSocket.ackedWnd (s : PseudoTcpSocket) (seg : Segment) : UInt32 :=
  if seg.ack > s.sndUna ∧ seg.ack ≤ s.sndNxt ∨ seg.ack = s.sndUna then seg.wnd.toUInt32 else s.sndWnd

/-- Every queued byte is in flight, and the application does not wait for room. -/
def PseudoTcpSocket.AllSent (s : PseudoTcpSocket) : Prop :=
  s.slen = s.inFlight ∧ s.state = .established ∧ s.bWriteEnable = false

instance (s : PseudoTcpSocket) : Decidable s.AllSent := inferInstanceAs (Decidable (_ ∧ _))

/-- What an acknowledgement number does when nothing is written. -/
structure PseudoTcpSocket.Acked (seg : Segment) (s s' : PseudoTcpSocket) : Prop where
  rcvNxt : s'.rcvNxt = s.rcvNxt
  tAck : s'.tAck = s.tAck
  sndNxt : s'.sndNxt = s.sndNxt
  sndUna : s'.sndUna = s.ackedUna seg
  sndWnd : s'.sndWnd = s.ackedWnd seg
  allSent : s.AllSent → s'.AllSent

/-- The acknowledgement number was used, and nothing was written. -/
structure Acks (seg : Segment) (w w' : World) : Prop where
  writes : w'.writes = w.writes
  env : w'.env = w.env
  acked : w.sock.Acked seg w'.sock

/-- What is known after the acknowledgement number. -/
def AfterAck (seg : Segment) (w w' : World) : Prop :=
  Handed w w' ∨ ∃ w₁, Acks seg w w₁ ∧ Since w₁ w' ∧ (w.sock.AllSent → w' = w₁)

/-- Nothing follows the acknowledgement number. -/
theorem Acks.after (acks : Acks seg w w') : AfterAck seg w w' :=
  .inr ⟨w', acks, .refl w', fun _ => rfl⟩

/-- What the number never changes. -/
theorem AfterAck.keeps (after : AfterAck seg w w') :
    w.writes ≤ w'.writes ∧ w'.sock.rcvNxt = w.sock.rcvNxt ∧ w'.env = w.env := by
  rcases after with wrote | ⟨w₁, ⟨writes, env, acked⟩, since, _⟩
  · exact ⟨wrote.writes.le, wrote.rcvNxt, wrote.env⟩
  · exact ⟨writes ▸ since.writes, since.rcvNxt.trans acked.rcvNxt, since.env.trans env⟩

section Acknowledgements

variable (kept : ∀ w₀ calls, Keeps (Since w₀) (user calls))
include kept

end Acknowledgements

/-- For a segment out of order a packet was written, and for one with payload a packet was written
or the timer runs. -/
def Answered (seg : Segment) (w w' : World) : Prop :=
  (seg.len ≠ 0 ∨ seg.seq ≠ w.sock.rcvNxt → w.writes < w'.writes ∨ w'.sock.tAck ≠ 0) ∧
  (seg.seq ≠ w.sock.rcvNxt → w.writes < w'.writes)

instance (seg : Segment) (w w' : World) : Decidable (Answered seg w w') :=
  inferInstanceAs (Decidable (_ ∧ _))

/-- Bytes cannot be held back: nothing is in flight, the window of the peer is full, or every byte
is in flight. -/
def Outgoing.Free (o : Outgoing) : Prop :=
  ¬o.sndNxt > o.sndUna ∨ o.sndWnd ≤ o.inFlight ∨ o.slen = o.inFlight

/-- Nothing is available then, or Nagle's rule does not apply. -/
theorem PseudoTcpSocket.not_heldBack (free : s.toOutgoing.Free) :
    ¬s.HeldBack := by
  rintro ⟨some, flying, _⟩
  rcases free with none | full | sent
  · exact none flying
  · have room := (nAvailable_window s some).1
    have full := UInt32.le_iff_toNat_le.mp full
    exact some (Word.eq_zero32.mpr (by omega))
  · exact slen_ne_inFlight some sent

/-- The segment is in order and the timer runs; or its acknowledgement number leaves nothing in
flight, or more than the window of the peer holds; or every queued byte is in flight. -/
def PseudoTcpSocket.Answerable (s : PseudoTcpSocket) (seg : Segment) : Prop :=
  seg.seq = s.rcvNxt ∧ s.tAck ≠ 0 ∨ ¬s.sndNxt > s.ackedUna seg ∨
    s.ackedWnd seg ≤ s.sndNxt - s.ackedUna seg ∨ s.AllSent

instance (s : PseudoTcpSocket) (seg : Segment) : Decidable (s.Answerable seg) :=
  inferInstanceAs (Decidable (_ ∨ _))

/-- It is decided before the acknowledgement number is used. -/
theorem PseudoTcpSocket.Answerable.rests
    (free : s.Answerable seg) (rests : s.Rests s') (rcvNxt : s'.rcvNxt = s.rcvNxt)
    (all : s.AllSent → s'.AllSent) : s'.Answerable seg := by
  unfold Answerable ackedUna ackedWnd
  rw [rcvNxt, rests.tAck, rests.sndNxt, rests.sndUna, rests.sndWnd]
  exact free.imp_right (.imp_right (.imp_right all))

/-- What `attempt_send` finds. -/
structure Due (seg : Segment) (w m : World) (sflags : SendFlags) : Prop where
  writes : w.writes ≤ m.writes
  env : m.env = w.env
  decided : seg.Decided w.sock.rcvNxt sflags
  free : m.writes = w.writes → m.sock.toOutgoing.Free ∨ seg.seq = w.sock.rcvNxt ∧ m.sock.tAck ≠ 0

/-- After the acknowledgement number nothing can be held back. -/
theorem AfterAck.free (after : AfterAck seg w w') (free : w.sock.Answerable seg)
    (same : w'.writes = w.writes) :
    w'.sock.toOutgoing.Free ∨ seg.seq = w.sock.rcvNxt ∧ w'.sock.tAck ≠ 0 := by
  rcases after with wrote | ⟨w₁, ⟨writes, _, acked⟩, since, quiet⟩
  · exact absurd same wrote.writes.ne'
  · have rests := since.rests (same.trans writes.symm)
    rcases free with ⟨order, on⟩ | none | full | all
    · exact .inr ⟨order, by rwa [rests.tAck, acked.tAck]⟩
    · exact .inl (.inl (by rwa [rests.sndNxt, rests.sndUna, acked.sndNxt, acked.sndUna]))
    · refine .inl (.inr (.inl ?_))
      rwa [Outgoing.inFlight, rests.sndNxt, rests.sndUna, rests.sndWnd, acked.sndNxt, acked.sndUna,
        acked.sndWnd]
    · rw [quiet all]
      exact .inl (.inr (.inr (acked.allSent all).1))

/-- What `attempt_send` does meets the obligation. -/
theorem Due.answered {m m₂ : World} (due : Due seg w m sflags)
    (clock : ∀ n, (w.env n).clock ≠ 0) (answer : Answer sflags m m₂) (since : Since m₂ w') :
    Answered seg w w' := by
  by_cases wrote : w.writes < w'.writes
  · exact ⟨fun _ => .inl wrote, fun _ => wrote⟩
  have := due.writes
  have := answer.writes_le
  have := since.writes
  have tAck : w'.sock.tAck = m₂.sock.tAck := (since.rests (by omega)).tAck
  cases answer with
  | held held _ kept =>
    rcases due.free (by omega) with free | ⟨order, on⟩
    · exact absurd held (PseudoTcpSocket.not_heldBack free)
    · exact ⟨fun _ => .inr (by rwa [tAck, kept]), fun out => absurd order out⟩
  | wrote wrote => omega
  | timed delayed _ started =>
    obtain ⟨n, started⟩ := started
    refine ⟨fun _ => .inr ?_, fun out => absurd (due.decided.delayed delayed).1 out⟩
    rw [tAck, started, due.env]
    exact clock n
  | none none _ =>
    obtain ⟨order, empty⟩ := due.decided.none none
    exact ⟨fun due => due.elim (absurd empty) (absurd order), fun out => absurd order out⟩

end Xice.PseudoTcp
