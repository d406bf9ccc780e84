import Xice.PseudoTcp.ReceiveBuffer

/-!
# Copies into the receive buffer

Copies of payload lie inside the receive buffer as long as no segment comes round the sequence
space.
-/

namespace Xice.PseudoTcp

open Xice.Lib Exec Relation Word List

variable {runs : List RSegment} {data : RSegment} {cut : Segment}

/-- The bytes that `recv` returned at an event. -/
def Event.receivedBytes : Event → List UInt8
  | .received bytes => bytes
  | _ => []

/-- All bytes that `recv` returned so far. -/
def History.received (h : History) : List UInt8 := h.trace.flatMap Event.receivedBytes

/-- What a step that does not use the payload does to the receive buffer. -/
inductive BufferStep (h h' : History) : Prop
  /-- Nothing. -/
  | same (incoming : h'.sock.toIncoming = h.sock.toIncoming) (received : h'.received = h.received)
  /-- The application takes bytes. -/
  | consume (read : UInt32) (ready : read.toNat ≤ h.sock.rlen.toNat)
      (incoming : h'.sock.toIncoming = { h.sock.toIncoming with
        rlen := h.sock.rlen - read
        rbuf := h.sock.rbuf.write kRcvBufSize.toNat 0 (h.sock.rbuf.offset read.toNat)
          (kRcvBufSize.toNat - read.toNat) })
      (received : h'.received = h.received ++ h.sock.rbuf.read read.toNat)
  /-- The window is set to the free room. -/
  | widen (rcvWnd : UInt32) (room : rcvWnd = (kRcvBufSize - h.sock.rlen.toUInt64).toUInt32)
      (incoming : h'.sock.toIncoming = { h.sock.toIncoming with rcvWnd := rcvWnd })
      (received : h'.received = h.received)

variable {allowed : Call → Prop} {h h' : History} {seg : Segment} {buffer : Mem} {r : Incoming}

/-- What a quiet step does to the receive buffer. -/
theorem Quiet.bufferStep (step : Quiet allowed h h') : BufferStep h h' := by
  have event : ∀ {s' : PseudoTcpSocket} {event : Event},
      s'.toIncoming = h.sock.toIncoming → event.receivedBytes = [] →
      BufferStep h ⟨s', h.trace ++ [event]⟩ := by
    intro s' event incoming nothing
    exact .same incoming (by simp [History.received, nothing])
  cases step with
  | tune tuned => exact .same (by rw [tuned.same]) rfl
  | advise mtu made same sane => exact .same (by rw [same]) rfl
  | look | writeEmpty | writeRefused | openCtl | enqueue | readable | writable | closedown =>
    exact event rfl rfl
  | transmitNew | retransmit => exact event (by rw [transmitted_same]) rfl
  | split | countDup | enterRecovery | rearm | shut => exact .same rfl rfl
  | establish opening tuned => exact event (by rw [tuned.same]) rfl
  | consume len read made established ready =>
    refine .consume read (UInt32.le_iff_toNat_le.mp ready) rfl ?_
    simp [History.received, Event.receivedBytes]
  | widen rcvWnd room => exact .widen rcvWnd room rfl rfl

/-- An acknowledgement number leaves the receive buffer alone. -/
theorem AckStep.bufferStep (step : AckStep seg h h') : BufferStep h h' := by
  cases step with
  | newAck | sameAck => exact .same rfl rfl

/-- `rcv_nxt` and the saved runs change with the payload only. -/
theorem BufferStep.pointers (keeps : BufferStep h h') :
    h'.sock.rcvNxt = h.sock.rcvNxt ∧ h'.sock.rlist = h.sock.rlist := by
  cases keeps with
  | same incoming => exact ⟨by rw [incoming], by rw [incoming]⟩
  | consume read ready incoming => exact ⟨by rw [incoming], by rw [incoming]⟩
  | widen rcvWnd room incoming => exact ⟨by rw [incoming], by rw [incoming]⟩

/-- `rcv_nxt` and the saved runs are those of the start of the call. -/
theorem Acked.pointers (acked : Acked allowed seg h h') :
    h'.sock.rcvNxt = h.sock.rcvNxt ∧ h'.sock.rlist = h.sock.rlist := by
  have same : ∀ {h₁ h₂ : History}, BufferStep h₁ h₂ →
      h₁.sock.rcvNxt = h.sock.rcvNxt ∧ h₁.sock.rlist = h.sock.rlist →
      h₂.sock.rcvNxt = h.sock.rcvNxt ∧ h₂.sock.rlist = h.sock.rlist := by
    intro h₁ h₂ keeps before
    obtain ⟨rcvNxt, rlist⟩ := keeps.pointers
    exact ⟨rcvNxt.trans before.1, rlist.trans before.2⟩
  exact acked.keeps
    (I := fun h₂ => h₂.sock.rcvNxt = h.sock.rcvNxt ∧ h₂.sock.rlist = h.sock.rlist)
    (fun _ _ step => same step.bufferStep) (fun _ _ step => same step.bufferStep) ⟨rfl, rfl⟩

/-! ## Bounds -/

/-- The bytes in order and the saved runs end inside the receive buffer. -/
structure Incoming.Bounded (r : Incoming) (runs : List RSegment) : Prop where
  fits : r.rlen.toNat ≤ 61440
  runs : ∀ run ∈ runs,
    run.seq.toNat + run.len.toNat + r.rlen.toNat ≤ r.rcvNxt.toNat + 61440

/-- Bytes in order keep the bounds. -/
theorem Incoming.Bounded.advance {count : UInt32} (bounded : r.Bounded runs)
    (inside : count.toNat + r.rlen.toNat ≤ 61440)
    (stays : runs ≠ [] → r.rcvNxt.toNat + count.toNat < 2 ^ 32) : (r.advance count).Bounded runs := by
  have rlen : (r.rlen + count).toNat = r.rlen.toNat + count.toNat := toNat_add32 (by omega)
  refine ⟨?_, fun run member => ?_⟩
  · simp only [Incoming.advance, rlen]
    omega
  · have := bounded.runs run member
    simp only [Incoming.advance, rlen]
    rw [toNat_add32 (stays (ne_nil_of_mem member))]
    omega

/-- The bytes in order reach the end of the first saved run, which does not wrap. -/
theorem RSegment.toNat_reach (room : Nat) (reached : data.seq ≤ r.rcvNxt)
    (more : data.seq + data.len > r.rcvNxt)
    (inside : data.seq.toNat + data.len.toNat ≤ r.rcvNxt.toNat + room) (small : room ≤ 61440) :
    (data.seq + data.len - r.rcvNxt).toNat =
        data.seq.toNat + data.len.toNat - r.rcvNxt.toNat ∧
      r.rcvNxt.toNat < data.seq.toNat + data.len.toNat ∧
      data.seq.toNat + data.len.toNat < 2 ^ 32 := by
  have more := UInt32.lt_iff_toNat_lt.mp more
  have reached := UInt32.le_iff_toNat_le.mp reached
  have sum := UInt32.toNat_add data.seq data.len
  have len := data.len.toNat_lt
  have small : data.seq.toNat + data.len.toNat < 2 ^ 32 := by omega
  rw [Nat.mod_eq_of_lt small] at sum
  rw [toNat_sub32 (by omega), sum]
  exact ⟨rfl, by omega, small⟩

/-- The first saved run is dropped. -/
theorem Incoming.Bounded.tail
    (bounded : r.Bounded (data :: runs)) : r.Bounded runs :=
  ⟨bounded.fits, forall_mem_of_forall_mem_cons bounded.runs⟩

/-- The loop over the saved runs keeps the bounds. -/
theorem Incoming.Bounded.recover (bounded : r.Bounded runs) :
    (Incoming.recover runs r).1.Bounded (Incoming.recover runs r).1.rlist := by
  fun_induction Incoming.recover runs r with
  | case1 r => exact ⟨bounded.fits, by simp⟩
  | case2 data runs r reached more ih =>
    have first := bounded.runs data mem_cons_self
    have fits := bounded.fits
    obtain ⟨count, ahead, below⟩ := RSegment.toNat_reach (61440 - r.rlen.toNat)
      reached more (by omega) (by omega)
    exact ih (bounded.tail.advance (by omega) (fun _ => by omega))
  | case3 data runs r reached passed ih => exact ih bounded.tail
  | case4 => exact ⟨bounded.fits, bounded.runs⟩

/-- A segment does not come round: one beyond `rcv_nxt` ends before it reaches `rcv_nxt` again, and
one before it that wraps finds no run saved out of order. -/
def Segment.Apart (seg : Segment) (r : Incoming) : Prop :=
  (r.rcvNxt.toNat ≤ seg.seq.toNat →
    seg.seq.toNat - r.rcvNxt.toNat + seg.len.toNat < 2 ^ 32) ∧
  (seg.seq.toNat ≤ r.rcvNxt.toNat → 2 ^ 32 ≤ seg.seq.toNat + seg.len.toNat → r.rlist = [])

instance (seg : Segment) (r : Incoming) : Decidable (seg.Apart r) :=
  inferInstanceAs (Decidable ((_ → _) ∧ (_ → _ → _)))

/-- The bounds, and the copies made so far. -/
structure History.Bounded (h : History) : Prop where
  buffer : h.sock.toIncoming.Bounded h.sock.rlist
  copies : ∀ index len, .rbufWrite index len ∈ h.trace → index + len ≤ 61440

/-- Quiet steps copy nothing. -/
theorem Quiet.copies (step : Quiet allowed h h') {index len : Nat}
    (copied : .rbufWrite index len ∈ h'.trace) : .rbufWrite index len ∈ h.trace := by
  cases step with
  | _ => simpa using copied

/-- A step that does not use the payload keeps the bounds. -/
theorem BufferStep.bounded (keeps : BufferStep h h') (bounded : h.sock.toIncoming.Bounded h.sock.rlist) :
    h'.sock.toIncoming.Bounded h'.sock.rlist := by
  rw [keeps.pointers.2]
  cases keeps with
  | same incoming =>
    rwa [incoming]
  | consume read ready incoming =>
    have fits := bounded.fits
    have rlen : (h.sock.rlen - read).toNat = h.sock.rlen.toNat - read.toNat :=
      toNat_sub32 ready
    rw [incoming]
    refine ⟨?_, fun run member => ?_⟩
    · simp only [rlen]
      omega
    · have := bounded.runs run member
      simp only [rlen]
      omega
  | widen rcvWnd room incoming =>
    rw [incoming]
    exact ⟨bounded.fits, bounded.runs⟩

/-- A segment beyond `rcv_nxt` keeps its sequence number. -/
theorem trim_seq (ahead : r.rcvNxt.toNat < seg.seq.toNat) : (r.trim seg).seq = seg.seq := by
  have front : r.trimFront seg = seg := by
    unfold Incoming.trimFront
    rw [if_neg fun before => by
      have := UInt32.lt_iff_toNat_lt.mp before
      omega]
  simp only [Incoming.trim, front, Incoming.trimBack]
  split_ifs <;> rfl

/-- A segment used in order begins at or behind `rcv_nxt`, and is cut to fit. -/
theorem trim_next (fits : r.rlen.toNat ≤ 61440) (trimmed : cut = r.trim seg)
    (nonempty : cut.len ≠ 0) (next : cut.seq = r.rcvNxt) :
    seg.seq.toNat ≤ r.rcvNxt.toNat ∧ cut.len.toNat + r.rlen.toNat ≤ 61440 ∧
      r.rcvNxt.toNat + cut.len.toNat ≤ seg.seq.toNat + seg.len.toNat := by
  subst trimmed
  by_cases behind : seg.seq.toNat ≤ r.rcvNxt.toNat
  · obtain ⟨-, -, within, len⟩ := trim_behind fits behind nonempty
    exact ⟨behind, by omega, by omega⟩
  · rw [trim_seq (Nat.not_le.mp behind)] at next
    rw [next] at behind
    exact absurd (Nat.le_refl _) behind

/-- A segment saved out of order begins beyond `rcv_nxt`. -/
theorem trim_later (fits : r.rlen.toNat ≤ 61440) (trimmed : cut = r.trim seg)
    (nonempty : cut.len ≠ 0) (later : cut.seq ≠ r.rcvNxt) : r.rcvNxt.toNat < seg.seq.toNat := by
  subst trimmed
  by_contra behind
  exact later (trim_behind fits (Nat.not_lt.mp behind) nonempty).1

/-- The payload of a segment that does not come round keeps the bounds. -/
theorem DataStep.bounded (step : DataStep buffer seg h h') (bounded : h.Bounded)
    (apart : seg.Apart h.sock.toIncoming) : h'.Bounded := by
  have fits := bounded.buffer.fits
  have runs := bounded.buffer.runs
  have nxt := h.sock.rcvNxt.toNat_lt
  have copied : ∀ {s' : PseudoTcpSocket} {data start len : Nat},
      s'.toIncoming.Bounded s'.rlist → start + len ≤ 61440 →
      History.Bounded ⟨s', h.trace ++ [.packetRead data len, .rbufWrite start len]⟩ := by
    intro s' data start len buffer inside
    refine ⟨buffer, fun index count member => ?_⟩
    rcases mem_append.mp member with member | member
    · exact bounded.copies index count member
    · simp only [mem_cons, not_mem_nil, or_false, reduceCtorEq, false_or,
        Event.rbufWrite.injEq] at member
      omega
  cases step with
  | skip cut trimmed nonempty ignored next =>
    obtain ⟨behind, -, stop⟩ := trim_next fits trimmed nonempty next
    refine ⟨⟨fits, fun run member => ?_⟩, bounded.copies⟩
    by_cases stays : h.sock.rcvNxt.toNat + cut.len.toNat < 2 ^ 32
    · have := runs run member
      simp only
      rw [toNat_add32 stays]
      omega
    · have member : run ∈ h.sock.rlist := member
      rw [apart.2 behind (by omega)] at member
      simp at member
  | inOrder cut trimmed nonempty kept next =>
    obtain ⟨behind, inside, stop⟩ := trim_next fits trimmed nonempty next
    have zero : (cut.seq - h.sock.rcvNxt).toNat = 0 := by
      rw [next, UInt32.sub_self, UInt32.toNat_zero]
    have held : (h.sock.toIncoming.copyIn buffer cut).Bounded h.sock.rlist := ⟨fits, runs⟩
    refine copied (held.advance inside fun saved => ?_).recover (by omega)
    by_contra beyond
    have beyond : ¬h.sock.rcvNxt.toNat + cut.len.toNat < 2 ^ 32 := beyond
    exact saved (apart.2 behind (by omega))
  | outOfOrder cut trimmed nonempty kept later =>
    have ahead := trim_later fits trimmed nonempty later
    obtain ⟨seq, -, len⟩ := trim_ahead fits ahead (apart.1 (Nat.le_of_lt ahead))
    have offset : (seg.seq - h.sock.rcvNxt).toNat = seg.seq.toNat - h.sock.rcvNxt.toNat :=
      toNat_sub32 (Nat.le_of_lt ahead)
    rw [← trimmed] at seq len
    have positive := mt eq_zero32.mpr nonempty
    refine copied ⟨fits, fun run member => ?_⟩ ?_
    · rcases mem_insertSegment.mp member with rfl | member
      · simp only [Incoming.copyIn, seq]
        omega
      · exact runs run member
    · rw [seq, offset]
      omega

/-! ## Runs -/

/-- An incoming packet does not come round the sequence space. -/
def Entry.Apart (s : PseudoTcpSocket) : Entry → Prop
  | .notifyPacket buffer len => (segmentOf buffer len).Apart s.toIncoming
  | _ => True

/-- Quiet steps keep the bounds. -/
theorem Quiet.bounded (step : Quiet allowed h h') (bounded : h.Bounded) : h'.Bounded :=
  ⟨step.bufferStep.bounded bounded.buffer, fun index len copied =>
    bounded.copies index len (step.copies copied)⟩

/-- The use of an acknowledgement number keeps the bounds. -/
theorem AckStep.bounded (step : AckStep seg h h') (bounded : h.Bounded) : h'.Bounded := by
  refine ⟨step.bufferStep.bounded bounded.buffer, fun index len copied =>
    bounded.copies index len ?_⟩
  cases step <;> exact copied

/-- So do entry points. -/
theorem Entry.Does.bounded {entry : Entry} (does : entry.Does allowed h h') (bounded : h.Bounded)
    (apart : entry.Apart h.sock) : h'.Bounded := by
  have quiet : ∀ h₁ h₂, Quiet allowed h₁ h₂ → h₁.Bounded → h₂.Bounded :=
    fun _ _ step => step.bounded
  cases entry with
  | connect | call | notifyClock => exact invariant_of_steps quiet does bounded
  | notifyPacket buffer len =>
    obtain ⟨h₁, h₂, acked, stored, last⟩ := does
    obtain ⟨rcvNxt, rlist⟩ := acked.pointers
    have before : h₁.Bounded := acked.keeps quiet (fun _ _ step => step.bounded) bounded
    refine invariant_of_steps quiet last ?_
    cases stored with
    | refl => exact before
    | single step =>
      refine step.bounded before ?_
      rwa [Segment.Apart, rcvNxt, rlist]

/-- In every run whose packets do not come round the sequence space, every copy of payload lies
inside the 61440 bytes of the receive buffer. -/
theorem copies_inside_of_run {result : Except Fault Unit} {w : World}
    (reached : Reachable 0 (fun w entry _ => entry.Apart w.sock) result w) (index len : Nat)
    (copied : .rbufWrite index len ∈ w.trace) : index + len ≤ 61440 := by
  have bounded : w.toHistory.Bounded :=
    reached.keeps
      (fun _ _ => ⟨⟨Nat.zero_le _, by simp [World.new, PseudoTcpSocket.new]⟩, by simp [World.new]⟩)
      (fun _ _ _ _ _ apart does before => does.bounded before apart)
  exact bounded.copies index len copied

/-- A connection is opened, and three bytes arrive in order. -/
def threeReceived : World :=
  let w := Entry.connect.after (userCode 0) steady (World.new 0 1000)
  let w := (Entry.delivery ⟨0, 0, 1, flagCtl, 61440, 1000, 1000, [0]⟩).after (userCode 0) steady w
  (Entry.delivery ⟨0, 1, 1, 0, 61440, 1000, 1000, [1, 2, 3]⟩).after (userCode 0) steady w

/-- The three bytes are copied to the front of the buffer. -/
theorem copies_inside_of_run_in_order : .rbufWrite 0 3 ∈ threeReceived.trace ∧ 0 + 3 ≤ 61440 := by
  have reached : Reachable 0 (fun w entry _ => entry.Apart w.sock) (.ok ()) threeReceived := by
    refine .next _ steady (.next _ steady (.next .connect steady (.new 0 1000) trivial ?_) ?_ ?_)
      ?_ ?_
    · decide +kernel
    · change Segment.Apart _ _
      decide +kernel
    · decide +kernel
    · change Segment.Apart _ _
      decide +kernel
    · decide +kernel
  have copied : .rbufWrite 0 3 ∈ threeReceived.trace := by decide +kernel
  exact ⟨copied, copies_inside_of_run reached 0 3 copied⟩

/-- A segment that comes round is copied far outside the buffer of a new socket. -/
theorem copy_outside_of_wrapped_segment :
    ∃ w index len, Reachable 0 (fun _ entry _ => entry.Headed) (.ok ()) w ∧
      .rbufWrite index len ∈ w.trace ∧ ¬index + len ≤ 61440 := by
  have whole : 24 ≤ (44 : UInt32).toNat := by decide
  refine ⟨(Entry.delivery ⟨0, 4294967286, 0, 0, 61440, 1000, 1000, replicate 20 7⟩).after
    (userCode 0) steady (World.new 0 1000), 4294967286, 20,
    .next _ steady (.new 0 1000) whole (by rfl), ?_, by decide⟩
  decide +kernel

end Xice.PseudoTcp
