import Xice.PseudoTcp.Frame

/-!
# What is read of an incoming packet

Of a packet of at least 24 bytes nothing is read beyond its length; for sizes from 12 to 23, which
`parse` lets pass, the header reads alone go beyond it.
-/

namespace Xice.PseudoTcp

open Xice.Lib Exec List Word

/-- Every event of the program has the property. -/
def Emits (P : Event → Prop) {α : Type} (m : Run α) : Prop :=
  ∀ w : World, ends m (fun w' => ∃ new, w'.trace = w.trace ++ new ∧ ∀ event ∈ new, P event) w

/-- What was added to the trace since `w₀` has it. -/
def Grows (P : Event → Prop) (w₀ w : World) : Prop :=
  ∃ new, w.trace = w₀.trace ++ new ∧ ∀ event ∈ new, P event

variable {P : Event → Prop} {w₀ : World}

/-- Nothing was added. -/
theorem Grows.refl (P : Event → Prop) (w : World) : Grows P w w :=
  ⟨[], (append_nil _).symm, by simp⟩

/-- An event was added. -/
theorem Grows.event {w : World} {event : Event} (grown : Grows P w₀ w) (holds : P event) :
    Grows P w₀ { w with trace := w.trace ++ [event] } := by
  obtain ⟨new, trace, all⟩ := grown
  refine ⟨new ++ [event], by rw [trace, append_assoc], fun other member => ?_⟩
  rcases mem_append.mp member with member | member
  · exact all other member
  · rwa [mem_singleton.mp member]

/-- A program that keeps this emits such events only. -/
theorem Emits.of_keeps {α : Type} {m : Run α} (kept : ∀ w₀, Keeps (Grows P w₀) m) : Emits P m :=
  fun w => kept w w (Grows.refl P w)

/-- The event has the property. -/
theorem Grows.emit {event : Event} (holds : P event) : Keeps (Grows P w₀) (emit event) :=
  Keeps.modify fun _ grown => grown.event holds

/-- A change of the socket leaves the trace alone. -/
theorem Grows.modifySock (change : PseudoTcpSocket → PseudoTcpSocket) :
    Keeps (Grows P w₀) (modifySock change) := Keeps.modify fun _ grown => grown

/-- Not a read of the packet, or one inside its first `size` bytes. -/
def Event.ReadsBelow (size : Nat) : Event → Prop
  | .packetRead index count => index + count ≤ size
  | _ => True

variable {size : Nat} {user : UserCode}

/-- Application code reads nothing beyond the size. -/
def UserCode.ReadsBelow (size : Nat) (user : UserCode) : Prop :=
  ∀ calls, Emits (Event.ReadsBelow size) (user calls)

/-- Such application code keeps the growth of the trace. -/
theorem UserCode.ReadsBelow.keeps (reads : user.ReadsBelow size) (w₀ : World) (calls : List Call) :
    Keeps (Grows (Event.ReadsBelow size) w₀) (user calls) := by
  rintro w ⟨old, trace, holds⟩
  have extend : ∀ w' : World, Grows (Event.ReadsBelow size) w w' →
      Grows (Event.ReadsBelow size) w₀ w' := by
    rintro w' ⟨new, trace', holds'⟩
    refine ⟨old ++ new, by rw [trace', trace, append_assoc], fun event member => ?_⟩
    rcases mem_append.mp member with member | member
    · exact holds event member
    · exact holds' event member
  exact wp_mono (reads calls w) (fun _ => extend) (fun _ => extend)

/-- `packet` reads nothing of the packet that came. -/
theorem packet_reads {user : UserCode}
    (kept : ∀ w₀ calls, Keeps (Grows (Event.ReadsBelow size) w₀) (user calls)) (w₀ : World)
    (seq : UInt32) (flags : UInt8) (data : Option Mem) (len : UInt32) :
    Keeps (Grows (Event.ReadsBelow size) w₀) (packet user seq flags data len) := by
  refine .bind (.bind ?_ fun _ => .pure _) fun now => .bind (.require _ _) fun _ =>
    .bind .getSock fun s => .bind (Grows.modifySock _) fun _ => .bind ?_ fun wres =>
      .ite (.pure _) (.bind (Grows.modifySock _) fun _ => .pure _)
  · intro w grown
    rwa [ends, wp_nextReply]
  · refine .bind ?_ fun reply => .bind (Grows.emit trivial) fun _ => .bind (kept _ _) fun _ => .pure _
    intro w grown
    rwa [ends, wp_nextReply]

/-- Most of what a socket does reads nothing of the packet. -/
theorem reads_frame : AckFrame (Grows (Event.ReadsBelow size)) where
  sock grown _ := grown
  event {_ _ event} grown queue := by
    refine grown.event ?_
    cases event <;> trivial
  reply grown := grown
  state _ grown := grown
  notice {_ _ event} grown notice := by
    refine grown.event ?_
    cases event <;> trivial
  measured _ grown := grown
  packet := packet_reads
  transmit kept w₀ := transmit_keeps (fun grown _ => grown) (fun _ _ grown => grown)
    (packet_reads kept w₀)
  outgoing _ _ grown := grown

/-- Application code does not read the packet, however deep it nests. -/
theorem userCode_reads (depth : Nat) : (userCode depth).ReadsBelow size :=
  fun calls => .of_keeps fun w₀ => reads_frame.userCode depth w₀ calls

/-! ## `process` -/

section Process

variable {buffer : Mem} {seg : Segment} (reads : user.ReadsBelow size)
include reads

omit reads in
/-- Cutting stays inside the packet. -/
theorem trim_inside (r : Incoming) (inside : seg.data + seg.len.toNat ≤ size) :
    (r.trim seg).data + (r.trim seg).len.toNat ≤ size := by
  have front : (r.trimFront seg).data + (r.trimFront seg).len.toNat ≤ size := by
    unfold Incoming.trimFront
    generalize r.rcvNxt - seg.seq = nAdjust
    split
    · simp only
      split
      · rename_i less
        have less := UInt32.lt_iff_toNat_lt.mp less
        simp only
        rw [toNat_sub32 (by omega)]
        omega
      · simp only [UInt32.toNat_zero]
        omega
    · exact inside
  unfold Incoming.trim Incoming.trimBack
  generalize r.trimFront seg = cut at front
  simp only
  split
  · split
    · rename_i less
      have less := UInt32.lt_iff_toNat_lt.mp less
      simp only
      rw [toNat_sub32 (by omega)]
      omega
    · simp only [UInt32.toNat_zero]
      omega
  · exact front

/-- The payload is read inside the packet. -/
theorem processData_reads {w₀ : World} (inside : seg.data + seg.len.toNat ≤ size) :
    Keeps (Grows (Event.ReadsBelow size) w₀) (processData user buffer seg) := by
  unfold processData storeData
  refine .bind .getSock fun s => .bind (.bind .getSock fun s' => .ite (.pure _) (.ite ?_ ?_))
    fun stored => .bind (reads_frame.attemptSend reads.keeps fun _ _ _ grown => grown) fun _ =>
      reads_frame.announceReadable reads.keeps _
  · exact .ite (.bind (Grows.modifySock _) fun _ => .pure _) (.pure _)
  · refine .bind (Grows.emit (trim_inside s.toIncoming inside)) fun _ => .bind (Grows.emit trivial)
      fun _ => .bind (Grows.modifySock _) fun _ => .ite ?_ ?_
    · exact .bind .getSock fun s => .bind (Grows.modifySock _) fun _ => .pure _
    · exact .bind (Grows.modifySock _) fun _ => .pure _

/-- So is all that `process` reads. -/
theorem process_reads {w₀ : World} (inside : seg.data + seg.len.toNat ≤ size) :
    Keeps (Grows (Event.ReadsBelow size) w₀) (process user buffer seg) := by
  have first (some : seg.len ≠ 0) : Event.ReadsBelow size (.packetRead seg.data 1) := by
    have := mt eq_zero32.mpr some
    change seg.data + 1 ≤ size
    omega
  unfold process
  refine .bind .getSock fun s => .ite (.pure _) (.bind reads_frame.getCurrentTime fun now =>
    .bind (Grows.modifySock _) fun _ => .bind .getSock fun s => .ite (.pure _) (.ite ?_ ?_))
  · exact .bind (reads_frame.closedown reads.keeps _) fun _ => .pure _
  · refine .bind (reads_frame.processControl reads.keeps buffer fun some _ grown =>
      grown.event (first some)) fun control => ?_
    cases control with
    | none => exact .pure _
    | some bConnect =>
      exact .bind (Grows.modifySock _) fun _ =>
        .bind (reads_frame.processAck reads.keeps _ _ _) fun goes =>
          .ite (.bind (processData_reads reads inside) fun _ => .pure _) (.pure _)

end Process

variable (buffer : Mem) {len : UInt32}

/-- So is a header of such reads. -/
theorem readHeader_reads {w₀ : World} (events : List Event)
    (inside : ∀ event ∈ events, event.ReadsBelow size) :
    Keeps (Grows (Event.ReadsBelow size) w₀) (readHeader events) := by
  induction events with
  | nil => exact .pure _
  | cons event events ih =>
    exact .bind (Grows.emit (inside event mem_cons_self)) fun _ =>
      ih (forall_mem_of_forall_mem_cons inside)

/-- The length that `parse` reads out of a whole header. -/
theorem segmentOf_len (whole : 24 ≤ len.toNat) :
    (segmentOf buffer len).len.toNat = len.toNat - 24 :=
  toNat_sub32 whole

/-- Of a packet with a whole header, or one that is refused, no byte beyond its end is read. -/
theorem notifyPacket_reads (depth : Nat) (buffer : Mem) (whole : len.toNat < 12 ∨ 24 ≤ len.toNat) :
    Emits (Event.ReadsBelow len.toNat) (notifyPacket (userCode depth) buffer len) := by
  refine .of_keeps fun w₀ => ?_
  unfold notifyPacket parse
  refine .ite (.pure _) ?_
  by_cases short : len < 12
  · rw [if_pos short]
    exact .pure _
  · rw [if_neg short]
    have long : ¬len.toNat < 12 := fun less => short (UInt32.lt_iff_toNat_lt.mpr less)
    have whole := whole.resolve_left long
    refine .bind (readHeader_reads _ ?_) fun _ => process_reads (userCode_reads depth) ?_
    · intro event member
      simp only [headerReads, mem_cons, not_mem_nil, or_false] at member
      rcases member with rfl | rfl | rfl | rfl | rfl | rfl | rfl <;>
        simp only [Event.ReadsBelow] <;> omega
    · rw [segmentOf_len buffer whole]
      change 24 + (len.toNat - 24) ≤ len.toNat
      omega

/-- Every read of the header is recorded. -/
theorem readHeader_trace (events : List Event) (w : World) :
    wp (readHeader events) (fun _ w' => w'.trace = w.trace ++ events) (fun _ _ => False) w := by
  induction events generalizing w with
  | nil =>
    rw [readHeader, wp_pure, append_nil]
  | cons event events ih =>
    rw [readHeader, wp_bind, wp_emit]
    refine wp_imp (ih _) (fun _ w' trace => ?_)
    rw [trace, append_assoc]
    rfl

/-- A packet that is not refused has its header read. -/
theorem notifyPacket_header (depth : Nat) (buffer : Mem) (w : World) (passes : 12 ≤ len.toNat)
    (below : len.toNat ≤ 65535) :
    ends (notifyPacket (userCode depth) buffer len)
      (fun w' => w.trace ++ headerReads <+: w'.trace) w := by
  have long : ¬len > maxPacket := by
    intro more
    have more : maxPacket.toNat < len.toNat := UInt32.lt_iff_toNat_lt.mp more
    have most : maxPacket.toNat = 65535 := rfl
    omega
  have short : ¬len < 12 := by
    intro less
    have less : len.toNat < 12 := UInt32.lt_iff_toNat_lt.mp less
    omega
  -- What follows the header adds to the trace only.
  have later : ∀ seg : Segment, Emits (fun _ => True) (process (userCode depth) buffer seg) := by
    intro seg w
    have emits : Emits (Event.ReadsBelow (seg.data + seg.len.toNat))
        (process (userCode depth) buffer seg) :=
      .of_keeps fun _ => process_reads (userCode_reads depth) (Nat.le_refl _)
    exact ends_mono (emits w) fun _ => .imp fun _ => .imp_right fun _ _ _ => trivial
  rw [notifyPacket, if_neg long, parse, if_neg short, ends, wp_bind]
  refine wp_mono (readHeader_trace headerReads w) ?_ (fun _ _ none => none.elim)
  intro _ w₁ trace
  refine wp_mono (later _ w₁) ?_ ?_
  · rintro _ w₂ ⟨new, trace₂, _⟩
    rw [trace₂, trace]
    exact prefix_append _ _
  · rintro _ w₂ ⟨new, trace₂, _⟩
    rw [trace₂, trace]
    exact prefix_append _ _

/-- In any state: an incoming packet is read inside its length, and its segment length is the size
without the header unless the packet is refused for its size, exactly when it is shorter than twelve
bytes or has a whole header. -/
theorem reads_inside_iff (depth : Nat) (w : World) (env : Nat → Reply) (buffer : Mem)
    (len : UInt32) :
    ((∀ index count, .packetRead index count ∈
          ((Entry.notifyPacket buffer len).after (userCode depth) env w).trace.drop w.trace.length →
        index + count ≤ len.toNat) ∧
      (12 ≤ len.toNat → len.toNat ≤ 65535 →
        ((segmentOf buffer len).len.toNat : Int) = len.toNat - 24)) ↔
    len.toNat < 12 ∨ 24 ≤ len.toNat := by
  have runs : ∀ {R : World → Prop}, ends (notifyPacket (userCode depth) buffer len) R (w.within env) →
      R ((Entry.notifyPacket buffer len).after (userCode depth) env w) := by
    intro R known
    have whole : ends ((Entry.notifyPacket buffer len).run (userCode depth)) R (w.within env) := by
      rw [Entry.run, ends, wp_bind]
      exact wp_imp known (fun _ _ done => by rw [wp_pure]; exact done)
    exact ends_run whole rfl
  have same : (w.within env).trace = w.trace := rfl
  constructor
  · rintro ⟨inside, length⟩
    by_contra neither
    have passes : 12 ≤ len.toNat := by omega
    obtain ⟨new, trace⟩ := runs (notifyPacket_header depth buffer (w.within env) passes (by omega))
    have member : .packetRead 20 4 ∈
        ((Entry.notifyPacket buffer len).after (userCode depth) env w).trace.drop w.trace.length := by
      rw [← trace, same, append_assoc, drop_left' rfl]
      simp [headerReads]
    have := inside 20 4 member
    omega
  · intro whole
    refine ⟨fun index count member => ?_, fun passes _ => ?_⟩
    · obtain ⟨new, trace, below⟩ := runs (notifyPacket_reads depth buffer whole (w.within env))
      rw [trace, same, drop_left' rfl] at member
      exact below _ member
    · rw [segmentOf_len buffer (by omega)]
      omega

/-- Of a packet of twelve bytes a new socket reads bytes that are not there. -/
theorem reads_beyond_short_packet :
    ∃ index count, .packetRead index count ∈
        ((Entry.notifyPacket (fun _ => 0) 12).after (userCode 0) steady (World.new 0 1000)).trace ∧
      ¬index + count ≤ (12 : UInt32).toNat :=
  ⟨20, 4, by decide +kernel, by decide⟩

end Xice.PseudoTcp
