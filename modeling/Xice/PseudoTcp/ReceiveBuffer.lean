import Xice.PseudoTcp.SendQueue

/-!
# The receive buffer

The first `rlen` bytes of the receive buffer are those before `rcv_nxt`, and every run saved in
`rlist` lies where the bytes in order will meet it. The bytes are those of a stream, a partial map
from sequence numbers to bytes.
-/

namespace Xice.PseudoTcp

open Xice.Lib Exec Relation Word List

variable {r : Incoming} {seg cut : Segment} {buffer : Mem}

/-! ## Cutting a segment -/

/-- The size of the buffer. -/
theorem kRcvBufSize_toNat : kRcvBufSize.toNat = 61440 := rfl

/-- Trimming at the back leaves what fits, when the end of the segment does not come round. -/
theorem trimBack_len (r : Incoming) (seg : Segment) (fits : r.rlen.toNat ≤ 61440)
    (apart : (seg.seq - r.rcvNxt).toNat + seg.len.toNat < 2 ^ 32) :
    (r.trimBack seg).len.toNat =
      min seg.len.toNat (61440 - r.rlen.toNat - (seg.seq - r.rcvNxt).toNat) ∧
    (r.trimBack seg).seq = seg.seq ∧ (r.trimBack seg).data = seg.data := by
  have beyond : (seg.seq + seg.len - r.rcvNxt).toUInt64.toNat =
      (seg.seq - r.rcvNxt).toNat + seg.len.toNat := by
    rw [UInt32.toNat_toUInt64, toNat_add_sub32 r.rcvNxt seg.seq seg.len apart]
  have room : (kRcvBufSize - r.rlen.toUInt64).toNat = 61440 - r.rlen.toNat := by
    have size := kRcvBufSize_toNat
    rw [toNat_sub64 (by rw [UInt32.toNat_toUInt64]; omega), UInt32.toNat_toUInt64, size]
  unfold Incoming.trimBack
  simp only
  generalize (seg.seq + seg.len - r.rcvNxt).toUInt64 = beyond64 at beyond
  generalize kRcvBufSize - r.rlen.toUInt64 = room64 at room
  have adjust (more : room64.toNat ≤ beyond64.toNat) :
      (beyond64 - room64).toUInt32.toNat = beyond64.toNat - room64.toNat := by
    rw [UInt64.toNat_toUInt32, toNat_sub64 more, Nat.mod_eq_of_lt (by omega)]
  split_ifs <;> grind [UInt64.lt_iff_toNat_lt, UInt32.lt_iff_toNat_lt, toNat_sub32]

/-- A segment at or behind `rcv_nxt` is cut to begin there. -/
theorem trim_behind (fits : r.rlen.toNat ≤ 61440) (behind : seg.seq.toNat ≤ r.rcvNxt.toNat)
    (nonempty : (r.trim seg).len ≠ 0) :
    (r.trim seg).seq = r.rcvNxt ∧
      (r.trim seg).data = seg.data + (r.rcvNxt.toNat - seg.seq.toNat) ∧
      r.rcvNxt.toNat - seg.seq.toNat < seg.len.toNat ∧
      (r.trim seg).len.toNat =
        min (seg.len.toNat - (r.rcvNxt.toNat - seg.seq.toNat)) (61440 - r.rlen.toNat) := by
  have positive := mt eq_zero32.mpr nonempty
  have bound := seg.len.toNat_lt
  have adjust : (r.rcvNxt - seg.seq).toNat = r.rcvNxt.toNat - seg.seq.toNat :=
    toNat_sub32 behind
  have front : (r.trimFront seg).len ≠ 0 → (r.trimFront seg).seq = r.rcvNxt ∧
      (r.trimFront seg).data = seg.data + (r.rcvNxt.toNat - seg.seq.toNat) ∧
      r.rcvNxt.toNat - seg.seq.toNat < seg.len.toNat ∧
      (r.trimFront seg).len.toNat = seg.len.toNat - (r.rcvNxt.toNat - seg.seq.toNat) := by
    have same (reached : ¬seg.seq < r.rcvNxt) : seg.seq = r.rcvNxt := by
      have := mt UInt32.lt_iff_toNat_lt.mpr reached
      exact UInt32.toNat_inj.mp (by omega)
    simp only [Incoming.trimFront]
    split_ifs <;> grind [UInt32.lt_iff_toNat_lt, toNat_sub32, eq_zero32]
  obtain ⟨seq, data, within, len⟩ := front fun empty => nonempty (by
    simp only [Incoming.trim, Incoming.trimBack]
    split_ifs <;> grind)
  have zero : (r.trimFront seg).seq - r.rcvNxt = 0 := by rw [seq, UInt32.sub_self]
  have back := trimBack_len r (r.trimFront seg) fits (by rw [zero, UInt32.toNat_zero]; omega)
  rw [zero, UInt32.toNat_zero, len] at back
  exact ⟨back.2.1.trans seq, back.2.2.trans data, within, by
    have := back.1
    unfold Incoming.trim
    omega⟩

/-- A segment beyond `rcv_nxt` is cut at the end of the buffer. -/
theorem trim_ahead (fits : r.rlen.toNat ≤ 61440) (ahead : r.rcvNxt.toNat < seg.seq.toNat)
    (apart : seg.seq.toNat - r.rcvNxt.toNat + seg.len.toNat < 2 ^ 32) :
    (r.trim seg).seq = seg.seq ∧ (r.trim seg).data = seg.data ∧
      (r.trim seg).len.toNat =
        min seg.len.toNat (61440 - r.rlen.toNat - (seg.seq.toNat - r.rcvNxt.toNat)) := by
  have front : r.trimFront seg = seg := by
    unfold Incoming.trimFront
    rw [if_neg fun before => by
      have := UInt32.lt_iff_toNat_lt.mp before
      omega]
  have offset : (seg.seq - r.rcvNxt).toNat = seg.seq.toNat - r.rcvNxt.toNat :=
    toNat_sub32 (Nat.le_of_lt ahead)
  have back := trimBack_len r seg fits (by rw [offset]; exact apart)
  rw [offset] at back
  rw [Incoming.trim, front]
  exact ⟨back.2.1, back.2.2, back.1⟩

/-! ## What the buffer holds -/

/-- A run saved out of order is in the buffer where it lies beyond `rcv_nxt`. -/
structure RSegment.Saved (run : RSegment) (r : Incoming) (stream : Nat → Option UInt8) : Prop where
  below : run.seq.toNat + run.len.toNat < 2 ^ 32
  inside : run.seq.toNat + run.len.toNat + r.rlen.toNat ≤ r.rcvNxt.toNat + 61440
  bytes : ∀ position, run.seq.toNat ≤ position → position < run.seq.toNat + run.len.toNat →
    r.rcvNxt.toNat ≤ position →
    stream position = some (r.rbuf (r.rlen.toNat + (position - r.rcvNxt.toNat)))

/-- The receive buffer holds a stream, with the given runs saved out of order. -/
structure Incoming.Holds (r : Incoming) (runs : List RSegment) (stream : Nat → Option UInt8) :
    Prop where
  fits : r.rlen.toNat ≤ 61440
  behind : r.rlen.toNat ≤ r.rcvNxt.toNat
  ready : ∀ index < r.rlen.toNat,
    stream (r.rcvNxt.toNat - r.rlen.toNat + index) = some (r.rbuf index)
  sorted : runs.Pairwise fun run later => run.seq.toNat ≤ later.seq.toNat
  saved : ∀ run ∈ runs, run.Saved r stream

variable {runs : List RSegment} {stream : Nat → Option UInt8}

/-- Bytes behind those in order become ready. -/
theorem Incoming.Holds.advance (holds : r.Holds runs stream) (count : UInt32)
    (fits : r.rlen.toNat + count.toNat ≤ 61440) (below : r.rcvNxt.toNat + count.toNat < 2 ^ 32)
    (next : ∀ position, r.rcvNxt.toNat ≤ position → position < r.rcvNxt.toNat + count.toNat →
      stream position = some (r.rbuf (r.rlen.toNat + (position - r.rcvNxt.toNat)))) :
    (r.advance count).Holds runs stream := by
  have rlen : (r.rlen + count).toNat = r.rlen.toNat + count.toNat := toNat_add32 (by omega)
  have rcvNxt : (r.rcvNxt + count).toNat = r.rcvNxt.toNat + count.toNat := toNat_add32 below
  have behind := holds.behind
  simp only [Incoming.advance]
  refine ⟨by grind, by grind, fun index inside => ?_, holds.sorted, fun run member => ?_⟩
  · simp only [rlen, rcvNxt] at inside ⊢
    by_cases old : index < r.rlen.toNat
    · rw [← holds.ready index old]
      grind
    · rw [next _ (by omega) (by omega)]
      grind
  · obtain ⟨small, inside, bytes⟩ := holds.saved run member
    refine ⟨small, by grind, fun position from_ to_ ahead => ?_⟩
    simp only [rlen, rcvNxt] at ahead ⊢
    rw [bytes position from_ to_ (by omega)]
    grind

/-- The bytes in order reach as far as the runs do, and the runs left lie strictly beyond. -/
structure Recovered (r : Incoming) (runs : List RSegment) (stream : Nat → Option UInt8)
    (r' : Incoming) : Prop where
  holds : r'.Holds r'.rlist stream
  above : ∀ run ∈ r'.rlist, r'.rcvNxt.toNat < run.seq.toNat
  left : r'.rlist <:+ runs
  moved : r'.rcvNxt.toNat + r.rlen.toNat = r.rcvNxt.toNat + r'.rlen.toNat
  forward : r.rcvNxt.toNat ≤ r'.rcvNxt.toNat
  window : r'.rcvNxt + r'.rcvWnd = r.rcvNxt + r.rcvWnd
  stops : r'.rcvNxt = r.rcvNxt ∨
    ∃ run ∈ runs, r'.rcvNxt.toNat = run.seq.toNat + run.len.toNat

/-- The first saved run is dropped. -/
theorem Incoming.Holds.tail {data : RSegment} (holds : r.Holds (data :: runs) stream) :
    r.Holds runs stream :=
  { holds with
    sorted := (pairwise_cons.mp holds.sorted).2
    saved := forall_mem_of_forall_mem_cons holds.saved }

/-- The loop over the saved runs. -/
theorem Incoming.Holds.recover (holds : r.Holds runs stream) :
    Recovered r runs stream (Incoming.recover runs r).1 := by
  fun_induction Incoming.recover runs r with
  | case1 r =>
    exact ⟨⟨holds.fits, holds.behind, holds.ready, .nil, by simp⟩, by simp, suffix_refl _, rfl,
      Nat.le_refl _, rfl, .inl rfl⟩
  | case2 data runs r reached more ih =>
    obtain ⟨below, inside, bytes⟩ := holds.saved data mem_cons_self
    have stop : (data.seq + data.len).toNat = data.seq.toNat + data.len.toNat :=
      toNat_add32 below
    have reached := UInt32.le_iff_toNat_le.mp reached
    have more := UInt32.lt_iff_toNat_lt.mp more
    have count : (data.seq + data.len - r.rcvNxt).toNat =
        data.seq.toNat + data.len.toNat - r.rcvNxt.toNat := by
      rw [toNat_sub32 (by omega), stop]
    have next := holds.tail.advance (data.seq + data.len - r.rcvNxt) (by omega) (by omega)
      (fun position from_ to_ => bytes position (by omega) (by omega) from_)
    have rcvNxt : (r.advance (data.seq + data.len - r.rcvNxt)).rcvNxt = data.seq + data.len := by
      simp only [Incoming.advance]
      grind
    have rlen : (r.advance (data.seq + data.len - r.rcvNxt)).rlen.toNat =
        r.rlen.toNat + (data.seq.toNat + data.len.toNat - r.rcvNxt.toNat) := by
      simp only [Incoming.advance]
      rw [toNat_add32 (by omega), count]
    obtain ⟨kept, above, left, moved, forward, window, stops⟩ := ih next
    rw [rcvNxt] at moved forward stops
    simp only
    refine ⟨kept, above, left.trans (suffix_cons _ _), by omega, by omega, ?_, .inr ?_⟩
    · rw [window]
      simp only [Incoming.advance]
      grind
    · rcases stops with same | ⟨run, member, same⟩
      · exact ⟨data, mem_cons_self, by rw [same, stop]⟩
      · exact ⟨run, mem_cons_of_mem _ member, same⟩
  | case3 data runs r reached passed ih =>
    obtain ⟨kept, above, left, moved, forward, window, stops⟩ := ih holds.tail
    refine ⟨kept, above, left.trans (suffix_cons _ _), moved, forward, window, ?_⟩
    exact stops.imp_right fun stopped => stopped.imp fun _ => .imp_left (mem_cons_of_mem _)
  | case4 data runs r reached =>
    have ahead := mt UInt32.le_iff_toNat_le.mpr reached
    have sorted := (pairwise_cons.mp holds.sorted).1
    exact ⟨⟨holds.fits, holds.behind, holds.ready, holds.sorted, fun run member =>
      { holds.saved run member with }⟩, by grind, suffix_refl _, rfl, Nat.le_refl _, rfl,
      .inl rfl⟩

/-- The payload of a segment is a slice of a stream. -/
structure Segment.Slices (seg : Segment) (buffer : Mem) (stream : Nat → Option UInt8) : Prop where
  below : seg.seq.toNat + seg.len.toNat < 2 ^ 32
  bytes : ∀ index < seg.len.toNat, stream (seg.seq.toNat + index) = some (buffer (seg.data + index))

/-- A slice of the stream is copied to its place. -/
theorem Incoming.Holds.copyIn (holds : r.Holds runs stream) (slice : cut.Slices buffer stream)
    (ahead : r.rcvNxt.toNat ≤ cut.seq.toNat)
    (inside : cut.seq.toNat - r.rcvNxt.toNat + cut.len.toNat + r.rlen.toNat ≤ 61440) :
    (r.copyIn buffer cut).Holds runs stream ∧
      ∀ position, cut.seq.toNat ≤ position → position < cut.seq.toNat + cut.len.toNat →
        stream position =
          some ((r.copyIn buffer cut).rbuf (r.rlen.toNat + (position - r.rcvNxt.toNat))) := by
  have size := kRcvBufSize_toNat
  have offset : (cut.seq - r.rcvNxt).toNat = cut.seq.toNat - r.rcvNxt.toNat :=
    toNat_sub32 ahead
  have cell : ∀ index, (r.copyIn buffer cut).rbuf index =
      if r.rlen.toNat + (cut.seq.toNat - r.rcvNxt.toNat) ≤ index ∧
        index < r.rlen.toNat + (cut.seq.toNat - r.rcvNxt.toNat) + cut.len.toNat
      then buffer (cut.data + (index - (r.rlen.toNat + (cut.seq.toNat - r.rcvNxt.toNat))))
      else r.rbuf index := by
    intro index
    simp only [Incoming.copyIn, Mem.write, offset, Mem.offset_apply]
    by_cases written : r.rlen.toNat + (cut.seq.toNat - r.rcvNxt.toNat) ≤ index ∧
        index < r.rlen.toNat + (cut.seq.toNat - r.rcvNxt.toNat) + cut.len.toNat
    · rw [if_pos written, if_pos ⟨written.1, written.2, by omega⟩]
    · rw [if_neg written, if_neg fun both => written ⟨both.1, both.2.1⟩]
  have put : ∀ position, cut.seq.toNat ≤ position →
      position < cut.seq.toNat + cut.len.toNat → stream position =
        some ((r.copyIn buffer cut).rbuf (r.rlen.toNat + (position - r.rcvNxt.toNat))) := by
    intro position from_ to_
    rw [cell, if_pos (by omega)]
    have byte := slice.bytes (position - cut.seq.toNat) (by omega)
    rw [Nat.add_sub_cancel' from_] at byte
    rw [byte]
    congr 3
    omega
  refine ⟨⟨holds.fits, holds.behind, ?_, holds.sorted, ?_⟩, put⟩
  · intro index old
    have old : index < r.rlen.toNat := old
    rw [cell, if_neg (by omega)]
    exact holds.ready index old
  · intro run member
    obtain ⟨below, within, bytes⟩ := holds.saved run member
    refine ⟨below, within, fun position from_ to_ beyond => ?_⟩
    by_cases fresh : cut.seq.toNat ≤ position ∧ position < cut.seq.toNat + cut.len.toNat
    · exact put position fresh.1 fresh.2
    · have beyond : r.rcvNxt.toNat ≤ position := beyond
      change stream position =
        some ((r.copyIn buffer cut).rbuf (r.rlen.toNat + (position - r.rcvNxt.toNat)))
      rw [cell, if_neg (by omega)]
      exact bytes position from_ to_ beyond

/-- One run is inserted. -/
theorem mem_insertSegment {run other : RSegment} :
    other ∈ insertSegment run runs ↔ other = run ∨ other ∈ runs := by
  induction runs with
  | nil => simp [insertSegment]
  | cons data runs ih => grind [insertSegment]

/-- Insertion keeps the order. -/
theorem sorted_insertSegment {run : RSegment}
    (sorted : runs.Pairwise fun run later => run.seq.toNat ≤ later.seq.toNat) :
    (insertSegment run runs).Pairwise fun run later => run.seq.toNat ≤ later.seq.toNat := by
  induction runs with
  | nil => simp [insertSegment]
  | cons data runs ih =>
    grind [insertSegment, mem_insertSegment, UInt32.lt_iff_toNat_lt, pairwise_cons]

/-- The application takes bytes from the front. -/
theorem Incoming.Holds.consume {read : UInt32} (holds : r.Holds runs stream)
    (ready : read.toNat ≤ r.rlen.toNat) :
    { r with
      rlen := r.rlen - read
      rbuf := r.rbuf.write kRcvBufSize.toNat 0 (r.rbuf.offset read.toNat)
        (kRcvBufSize.toNat - read.toNat) }.Holds runs stream := by
  have size := kRcvBufSize_toNat
  have fits := holds.fits
  have behind := holds.behind
  have rlen : (r.rlen - read).toNat = r.rlen.toNat - read.toNat := toNat_sub32 ready
  have cell : ∀ index, index < 61440 - read.toNat →
      r.rbuf.write kRcvBufSize.toNat 0 (r.rbuf.offset read.toNat) (kRcvBufSize.toNat - read.toNat)
        index = r.rbuf (read.toNat + index) := by
    intro index inside
    simp only [Mem.write, Mem.offset_apply]
    rw [if_pos (by omega), Nat.sub_zero]
  refine ⟨by grind, by grind, fun index inside => ?_, holds.sorted, fun run member => ?_⟩
  · simp only [rlen] at inside ⊢
    rw [cell index (by omega), ← holds.ready (read.toNat + index) (by omega)]
    grind
  · obtain ⟨below, within, bytes⟩ := holds.saved run member
    refine ⟨below, by grind, fun position from_ to_ beyond => ?_⟩
    simp only [rlen]
    rw [cell _ (by grind), bytes position from_ to_ beyond]
    grind

end Xice.PseudoTcp
