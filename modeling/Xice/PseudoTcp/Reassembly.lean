import Xice.PseudoTcp.Bounds

/-!
# Reassembly

What `recv` has returned and what the receive buffer holds are together the stream that the peer
sends, from its start up to `rcv_nxt`, when every incoming segment is a slice of that stream: in any
order, with duplicates and overlaps, and with calls of `recv` anywhere in between.
-/

namespace Xice.PseudoTcp

open Xice.Lib Exec Relation Word

variable {allowed : Call → Prop} {h h' : History} {seg : Segment} {buffer : Mem} {r : Incoming}
  {stream : Nat → Option UInt8} {start : Nat}

/-- A slice that is cut is one beyond `rcv_nxt` and inside the buffer. -/
theorem Segment.Slices.trim (slice : seg.Slices buffer stream) (fits : r.rlen.toNat ≤ 61440)
    (nonempty : (r.trim seg).len ≠ 0) :
    (r.trim seg).Slices buffer stream ∧ r.rcvNxt.toNat ≤ (r.trim seg).seq.toNat ∧
      (r.trim seg).seq.toNat - r.rcvNxt.toNat + (r.trim seg).len.toNat + r.rlen.toNat ≤ 61440 := by
  have below := slice.below
  have positive := mt eq_zero32.mpr nonempty
  by_cases behind : seg.seq.toNat ≤ r.rcvNxt.toNat
  · obtain ⟨seq, data, within, len⟩ := trim_behind fits behind nonempty
    refine ⟨⟨by rw [seq]; omega, fun index inside => ?_⟩, by rw [seq], by rw [seq]; omega⟩
    have byte := slice.bytes (r.rcvNxt.toNat - seg.seq.toNat + index) (by omega)
    rw [seq, data, Nat.add_assoc, ← byte]
    congr 1
    omega
  · have ahead : r.rcvNxt.toNat < seg.seq.toNat := Nat.not_le.mp behind
    obtain ⟨seq, data, len⟩ := trim_ahead fits ahead (by omega)
    refine ⟨⟨by rw [seq]; omega, fun index inside => ?_⟩, by rw [seq]; omega, by rw [seq]; omega⟩
    rw [seq, data]
    exact slice.bytes index (by omega)

/-- The window says nothing about what the buffer holds. -/
theorem Incoming.Holds.widen {runs : List RSegment} (holds : r.Holds runs stream)
    (rcvWnd : UInt32) : { r with rcvWnd := rcvWnd }.Holds runs stream :=
  { holds with saved := fun run member => { holds.saved run member with } }

/-- One more run that is in the buffer may be saved. -/
theorem Incoming.Holds.save {runs : List RSegment} {run : RSegment} (holds : r.Holds runs stream)
    (new : run.Saved r stream) :
    { r with rlist := insertSegment run runs }.Holds (insertSegment run runs) stream := by
  refine ⟨holds.fits, holds.behind, holds.ready, sorted_insertSegment holds.sorted, ?_⟩
  intro other member
  rcases mem_insertSegment.mp member with rfl | member
  · exact { new with }
  · exact { holds.saved other member with }

/-- What the receiving half knows of a stream from `start` on. -/
structure History.Assembles (h : History) (start : Nat) (stream : Nat → Option UInt8) : Prop where
  holds : h.sock.toIncoming.Holds h.sock.rlist stream
  above : ∀ run ∈ h.sock.rlist, h.sock.rcvNxt.toNat < run.seq.toNat
  counted : start + h.received.length + h.sock.rlen.toNat = h.sock.rcvNxt.toNat
  taken : ∀ index < h.received.length, stream (start + index) = h.received[index]?

/-- Steps that do not use the payload keep it. -/
theorem BufferStep.assembles (keeps : BufferStep h h') (before : h.Assembles start stream) :
    h'.Assembles start stream := by
  have pointers := keeps.pointers
  obtain ⟨holds, above, counted, taken⟩ := before
  cases keeps with
  | same incoming received =>
    rw [← received] at counted taken
    exact ⟨by rwa [incoming], by rwa [incoming], by rwa [incoming], taken⟩
  | consume read ready incoming received =>
    have rlen : (h.sock.rlen - read).toNat = h.sock.rlen.toNat - read.toNat :=
      toNat_sub32 ready
    refine ⟨?_, ?_, ?_, ?_⟩
    · rw [incoming]
      exact holds.consume ready
    · rwa [incoming]
    · rw [incoming, received, List.length_append, Mem.length_read]
      simp only [rlen]
      omega
    · rw [received]
      intro index inside
      rw [List.length_append, Mem.length_read] at inside
      by_cases old : index < h.received.length
      · rw [List.getElem?_append_left old]
        exact taken index old
      · rw [List.getElem?_append_right (by omega), Mem.getElem?_read _ (by omega),
          ← holds.ready _ (by omega)]
        congr 1
        omega
  | widen rcvWnd room incoming received =>
    rw [← received] at counted taken
    exact ⟨by rw [incoming]; exact holds.widen rcvWnd, by rwa [incoming], by rwa [incoming], taken⟩

/-- So does the payload of a slice of the stream, when it is kept. -/
theorem DataStep.assembles (step : DataStep buffer seg h h') (slice : seg.Slices buffer stream)
    (data : ¬seg.isCtl) (opened : h.sock.shutdown = .none) (before : h.Assembles start stream) :
    h'.Assembles start stream := by
  obtain ⟨holds, above, counted, taken⟩ := before
  have received : ∀ {s' : PseudoTcpSocket} {first count index len : Nat},
      History.received ⟨s', h.trace ++ [.packetRead first count, .rbufWrite index len]⟩ =
        h.received := by
    intros
    simp [History.received, Event.receivedBytes]
  have slices : ∀ cut : Segment, cut = h.sock.toIncoming.trim seg → cut.len ≠ 0 →
      cut.Slices buffer stream ∧ h.sock.rcvNxt.toNat ≤ cut.seq.toNat ∧
        cut.seq.toNat - h.sock.rcvNxt.toNat + cut.len.toNat + h.sock.rlen.toNat ≤ 61440 := by
    rintro cut rfl nonempty
    exact slice.trim holds.fits nonempty
  cases step with
  | skip cut trimmed nonempty ignored =>
    rcases ignored with control | shut
    · exact absurd control data
    · exact absurd opened shut
  | inOrder cut trimmed nonempty kept next =>
    obtain ⟨sliced, ahead, inside⟩ := slices cut trimmed nonempty
    obtain ⟨copied, put⟩ := holds.copyIn sliced ahead inside
    have nxt : cut.seq.toNat = h.sock.rcvNxt.toNat := by rw [next]
    have below := sliced.below
    rw [nxt] at put inside below
    have advanced := copied.advance cut.len (show h.sock.rlen.toNat + _ ≤ _ by omega) below put
    obtain ⟨whole, beyond, -, moved, -, -, -⟩ := advanced.recover
    refine ⟨whole, beyond, ?_, ?_⟩
    · rw [received]
      have rlen : (h.sock.rlen + cut.len).toNat = h.sock.rlen.toNat + cut.len.toNat :=
        toNat_add32 (by omega)
      have rcvNxt : (h.sock.rcvNxt + cut.len).toNat = h.sock.rcvNxt.toNat + cut.len.toNat :=
        toNat_add32 below
      generalize Incoming.recover h.sock.rlist
        ((h.sock.toIncoming.copyIn buffer cut).advance cut.len) = after at moved
      simp only [Incoming.advance, Incoming.copyIn, rlen, rcvNxt] at moved
      simp only
      omega
    · rwa [received]
  | outOfOrder cut trimmed nonempty kept later =>
    obtain ⟨sliced, ahead, inside⟩ := slices cut trimmed nonempty
    obtain ⟨copied, put⟩ := holds.copyIn sliced ahead inside
    have beyond : h.sock.rcvNxt.toNat < cut.seq.toNat := by
      have := mt UInt32.toNat_inj.mp later
      omega
    have saved : RSegment.Saved ⟨cut.seq, cut.len⟩ (h.sock.toIncoming.copyIn buffer cut) stream := by
      refine ⟨sliced.below, ?_, fun position from_ to_ _ => put position from_ to_⟩
      change cut.seq.toNat + cut.len.toNat + h.sock.rlen.toNat ≤ h.sock.rcvNxt.toNat + 61440
      omega
    refine ⟨copied.save saved, ?_, ?_, ?_⟩
    · intro run member
      rcases mem_insertSegment.mp member with rfl | member
      · exact beyond
      · exact above run member
    · rwa [received]
    · rwa [received]

/-! ## Runs -/

/-- A stream whose first byte has the given sequence number. -/
def streamFrom (start : Nat) (bytes : List UInt8) (position : Nat) : Option UInt8 :=
  if position < start then none else bytes[position - start]?

/-- An incoming packet is a data segment with a slice of a stream, and the application does not
close the socket. -/
def Entry.Slices (start : Nat) (bytes : List UInt8) : Entry → Prop
  | .notifyPacket buffer len =>
    let seg := segmentOf buffer len
    24 ≤ len.toNat ∧ ¬seg.isCtl ∧ start ≤ seg.seq.toNat ∧
      seg.seq.toNat + seg.len.toNat ≤ start + bytes.length ∧
      (buffer.offset 24).read seg.len.toNat =
        (bytes.drop (seg.seq.toNat - start)).take seg.len.toNat
  | .call (.close _) => False
  | _ => True

/-- A call that is not `pseudo_tcp_socket_close`. -/
def Call.Leaves : Call → Prop
  | .close _ => False
  | _ => True

/-- The socket is or was established, and was not closed by the application. -/
def Link.Kept (l : Link) : Prop :=
  l.shutdown = .none ∧ (l.state = .established ∨ l.state = .closed)

/-- A quiet step keeps the connection while the socket is not closed. -/
theorem Quiet.kept (step : Quiet Call.Leaves h h') (kept : h.sock.Kept) : h'.sock.Kept := by
  have open_ : h.sock.state ≠ .listen ∧ h.sock.state ≠ .synSent ∧ h.sock.state ≠ .synReceived := by
    rcases kept.2 with state | state <;> simp [state]
  cases step with
  | tune tuned =>
    rwa [tuned.same]
  | advise mtu made same sane =>
    rwa [same]
  | look | writeEmpty | writeRefused | split | enqueue | countDup | enterRecovery | rearm
  | readable | writable | consume | widen => exact kept
  | transmitNew | retransmit =>
    rwa [transmitted_same]
  | openCtl state listening => exact absurd listening open_.1
  | establish opening =>
    rcases opening with state | state
    · exact absurd state open_.2.1
    · exact absurd state open_.2.2
  | closedown => exact ⟨kept.1, .inr rfl⟩
  | shut force made => exact absurd made id

/-- The use of the acknowledgement number keeps the connection. -/
theorem AckStep.link (step : AckStep seg h h') : h'.sock.toLink = h.sock.toLink := by
  cases step <;> rfl

/-- The payload leaves the connection alone. -/
theorem DataStep.link (step : DataStep buffer seg h h') : h'.sock.toLink = h.sock.toLink := by
  cases step <;> rfl

/-- A packet with a slice of the bytes is a slice of the stream. -/
theorem slices_of_entry {bytes : List UInt8} {len : UInt32}
    (slice : (Entry.notifyPacket buffer len).Slices start bytes)
    (below : start + bytes.length < 2 ^ 32) :
    (segmentOf buffer len).Slices buffer (streamFrom start bytes) := by
  obtain ⟨-, -, from_, to_, payload⟩ := slice
  refine ⟨by omega, fun index inside => ?_⟩
  have byte : ((buffer.offset 24).read (segmentOf buffer len).len.toNat)[index]? =
      some (buffer (24 + index)) := Mem.getElem?_read _ inside
  rw [payload, List.getElem?_take_of_lt inside, List.getElem?_drop] at byte
  have position : (segmentOf buffer len).seq.toNat + index - start =
      (segmentOf buffer len).seq.toNat - start + index := by omega
  rwa [streamFrom, if_neg (by omega), position]

/-- An entry point keeps what is known of the stream. -/
theorem Entry.Does.assembles {entry : Entry} {bytes : List UInt8}
    (does : entry.Does Call.Leaves h h') (slice : entry.Slices start bytes)
    (below : start + bytes.length < 2 ^ 32)
    (before : h.sock.Kept ∧ h.Assembles start (streamFrom start bytes)) :
    h'.sock.Kept ∧ h'.Assembles start (streamFrom start bytes) := by
  have quiet : ∀ h h', Quiet Call.Leaves h h' →
      h.sock.Kept ∧ h.Assembles start (streamFrom start bytes) →
      h'.sock.Kept ∧ h'.Assembles start (streamFrom start bytes) :=
    fun _ _ step before => ⟨step.kept before.1, step.bufferStep.assembles before.2⟩
  cases entry with
  | connect | call | notifyClock => exact invariant_of_steps quiet does before
  | notifyPacket buffer len =>
    refine Processed.keeps quiet ?_ ?_ does before
    · intro h h' step before
      refine ⟨?_, step.bufferStep.assembles before.2⟩
      rw [step.link]
      exact before.1
    · intro h h' step before
      refine ⟨?_, step.assembles (slices_of_entry slice below) slice.2.1 before.1.1 before.2⟩
      rw [step.link]
      exact before.1

/-- What was returned and what is ready are the stream up to `rcv_nxt`. -/
theorem History.Assembles.bytes {bytes : List UInt8}
    (known : h.Assembles start (streamFrom start bytes)) :
    h.sock.rcvNxt.toNat ≤ start + bytes.length ∧
      h.received ++ h.sock.rbuf.read h.sock.rlen.toNat =
        bytes.take (h.sock.rcvNxt.toNat - start) := by
  obtain ⟨holds, above, counted, taken⟩ := known
  have byte : ∀ index < h.received.length + h.sock.rlen.toNat,
      bytes[index]? = (h.received ++ h.sock.rbuf.read h.sock.rlen.toNat)[index]? ∧
        index < bytes.length := by
    intro index inside
    have found : streamFrom start bytes (start + index) =
        (h.received ++ h.sock.rbuf.read h.sock.rlen.toNat)[index]? := by
      by_cases old : index < h.received.length
      · rw [List.getElem?_append_left old]
        exact taken index old
      · rw [List.getElem?_append_right (by omega), Mem.getElem?_read _ (by omega),
          ← holds.ready _ (by omega)]
        congr 1
        omega
    rw [streamFrom, if_neg (by omega), Nat.add_sub_cancel_left] at found
    refine ⟨found, ?_⟩
    by_contra beyond
    rw [List.getElem?_eq_none (by omega)] at found
    have := List.getElem?_eq_none_iff.mp found.symm
    simp at this
    omega
  refine ⟨?_, ?_⟩
  · by_contra beyond
    have := (byte bytes.length (by omega)).2
    omega
  · apply List.ext_getElem?
    intro index
    by_cases inside : index < h.received.length + h.sock.rlen.toNat
    · rw [List.getElem?_take_of_lt (by omega)]
      exact (byte index inside).1.symm
    · rw [List.getElem?_eq_none (by simp; omega), List.getElem?_eq_none (by simp; omega)]

/-- A run of an established socket that is given slices of a stream. -/
theorem Runs.assembles {s : PseudoTcpSocket} {bytes : List UInt8} {w : World}
    (run : Runs 0 (fun entry env => entry.Slices s.rcvNxt.toNat bytes ∧ Allows Call.Leaves env)
      (World.holding s) w)
    (established : s.state = .established) (nothing : s.rlist = [] ∧ s.rlen = 0)
    (opened : s.shutdown = .none) (below : s.rcvNxt.toNat + bytes.length < 2 ^ 32) :
    w.sock.Kept ∧ w.toHistory.Assembles s.rcvNxt.toNat (streamFrom s.rcvNxt.toNat bytes) := by
  induction run with
  | refl =>
    refine ⟨⟨opened, .inl established⟩, ⟨⟨?_, ?_, ?_, ?_, ?_⟩, ?_, ?_, ?_⟩⟩ <;>
      simp [World.holding, nothing, History.received]
  | @step w _ entry env before condition returned ih =>
    have early : w.sock.Early := by
      intro unestablished live
      rcases ih.1.2 with state | state
      · exact absurd state unestablished
      · exact absurd state live
    have made : entry.Allowed Call.Leaves := by
      cases entry with
      | call call => cases call <;> first | trivial | exact condition.1
      | _ => trivial
    have does := wp_ok (entry.run_steps w early made condition.2) returned
    exact does.assembles condition.1 below ih

/-- The bytes returned by `recv` followed by the first `rlen` bytes of the receive buffer are the
stream up to `rcv_nxt`, and the runs saved out of order are sorted and lie strictly beyond. -/
theorem reassembly_of_run {s : PseudoTcpSocket} {bytes : List UInt8} {w : World}
    (established : s.state = .established) (nothing : s.rlist = [] ∧ s.rlen = 0)
    (opened : s.shutdown = .none) (below : s.rcvNxt.toNat + bytes.length < 2 ^ 32)
    (run : Runs 0 (fun entry env => entry.Slices s.rcvNxt.toNat bytes ∧ Allows Call.Leaves env)
      (World.holding s) w) :
    s.rcvNxt.toNat ≤ w.sock.rcvNxt.toNat ∧
      w.sock.rcvNxt.toNat ≤ s.rcvNxt.toNat + bytes.length ∧
      w.received ++ w.sock.rbuf.read w.sock.rlen.toNat =
        bytes.take (w.sock.rcvNxt.toNat - s.rcvNxt.toNat) ∧
      w.sock.rlist.Pairwise (fun run later => run.seq.toNat ≤ later.seq.toNat) ∧
      ∀ run ∈ w.sock.rlist, w.sock.rcvNxt.toNat < run.seq.toNat := by
  have known := (run.assembles established nothing opened below).2
  have counted := known.counted
  exact ⟨by omega, known.bytes.1, known.bytes.2, known.holds.sorted, known.above⟩

/-- An established socket with nothing received yet. -/
def listening : PseudoTcpSocket :=
  { PseudoTcpSocket.new 0 1000 with state := .established, rcvNxt := 1, sndUna := 1, sndNxt := 1 }

/-- The end of a stream, then its start with an overlap; two bytes are taken. -/
def overlapReceived : World :=
  let w := (Entry.delivery ⟨0, 3, 1, 0, 61440, 1000, 1000, [12, 13, 14]⟩).after (userCode 0) steady
    (World.holding listening)
  let w := (Entry.delivery ⟨0, 1, 1, 0, 61440, 1000, 1000, [10, 11, 12]⟩).after (userCode 0) steady w
  (Entry.call (.recv 2)).after (userCode 0) steady w

/-- The whole stream is known after both packets. -/
theorem reassembly_of_run_overlap :
    overlapReceived.received = [10, 11] ∧ overlapReceived.sock.rcvNxt = 6 ∧
      overlapReceived.received ++ overlapReceived.sock.rbuf.read overlapReceived.sock.rlen.toNat =
        [10, 11, 12, 13, 14] := by
  have run : Runs 0 (fun entry env => entry.Slices listening.rcvNxt.toNat [10, 11, 12, 13, 14] ∧
      Allows Call.Leaves env) (World.holding listening) overlapReceived := by
    have quiet : Allows Call.Leaves steady := fun _ _ member => absurd member (by simp [steady])
    refine .next _ steady (.next _ steady (.next _ steady .refl ⟨?_, quiet⟩ ?_) ⟨?_, quiet⟩ ?_)
      ⟨trivial, quiet⟩ ?_
    · change _ ∧ _
      decide +kernel
    · decide +kernel
    · change _ ∧ _
      decide +kernel
    · decide +kernel
    · decide +kernel
  have known := reassembly_of_run rfl ⟨rfl, rfl⟩ rfl (by decide) run
  have rcvNxt : overlapReceived.sock.rcvNxt = 6 := by decide +kernel
  refine ⟨by decide +kernel, rcvNxt, ?_⟩
  rw [known.2.2.1, rcvNxt]
  rfl

end Xice.PseudoTcp
