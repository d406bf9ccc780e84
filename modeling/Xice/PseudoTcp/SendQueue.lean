import Xice.PseudoTcp.ProcessSteps
import Xice.Lib.Tiling

/-!
# The accounts of the send queue

In every run the segment list is a front of transmitted segments and a back of others, the lengths
add up to `slen`, and those of the front to the bytes in flight; the retransmit timer and the
recovery period are on only while bytes are in flight. Acknowledgement numbers are arbitrary.
-/

namespace Xice.PseudoTcp

open Xice.Lib Exec Relation Tiling Word List Option

variable {bCtrl : Bool} {len nFree ack : UInt32} {index : Nat} {s' : PseudoTcpSocket}
  {buffer : Mem} {fault : Fault}

/-- Where a segment begins. -/
abbrev SSegment.start (segment : SSegment) : Nat := segment.seq.toNat

/-- How long a segment is. -/
abbrev SSegment.size (segment : SSegment) : Nat := segment.len.toNat

/-- Segments that were transmitted, and others. -/
structure Outgoing.Parts (o : Outgoing) (sent unsent : List SSegment) : Prop where
  listed : o.slist = sent ++ unsent
  transmitted : ∀ segment ∈ sent, segment.xmit ≠ 0
  fresh : ∀ segment ∈ unsent, segment.xmit = 0
  flight : total SSegment.size sent = o.inFlight.toNat
  queued : total SSegment.size o.slist = o.slen.toNat
  room : o.slen.toNat ≤ kSndBufSize.toNat
  filled : ∀ segment ∈ unsent.dropLast, segment.len ≠ 0
  control : ∀ segment ∈ unsent, segment.bCtrl = true → segment.len ≠ 0

/-- The accounts of the send queue are in order. -/
def Outgoing.Counted (o : Outgoing) : Prop := ∃ sent unsent, o.Parts sent unsent

/-- Timer and recovery are on only while bytes are in flight. -/
structure PseudoTcpSocket.Timed (s : PseudoTcpSocket) : Prop where
  armed : s.rtoBase ≠ 0 → s.sndUna ≠ s.sndNxt
  recovers : s.sndUna ≤ s.sndNxt → s.recover ≤ s.sndNxt

/-- Nothing was queued yet. -/
structure Outgoing.Unused (o : Outgoing) : Prop where
  slist : o.slist = []
  slen : o.slen = 0
  una : o.sndUna = 0
  nxt : o.sndNxt = 0

/-- The sending half is in order. -/
structure PseudoTcpSocket.Ordered (s : PseudoTcpSocket) : Prop where
  counted : s.state ≠ .closed → s.Counted
  timed : s.state ≠ .closed → s.Timed
  unused : s.state = .listen → s.Unused

variable {allowed : Call → Prop} {o : Outgoing} {s : PseudoTcpSocket} {h h' : History}
  {sent unsent front back : List SSegment} {segment : SSegment}

/-! ## Bytes in flight -/

variable (largest : UInt32) {count now : UInt32} {seg : Segment}

/-- Nothing is in flight exactly when the two pointers meet. -/
theorem inFlight_eq_zero (o : Outgoing) : o.inFlight.toNat = 0 ↔ o.sndUna = o.sndNxt := by
  rw [← eq_zero32, Outgoing.inFlight]
  constructor <;> grind

/-- The parts at the first segment that was not transmitted. -/
theorem Outgoing.Parts.at (parts : o.Parts sent unsent) (listed : o.slist = front ++ segment :: back)
    (first : ∀ earlier ∈ front, earlier.xmit ≠ 0) (new : segment.xmit = 0) :
    sent = front ∧ unsent = segment :: back := by
  refine Lists.eq_of_parts (p := fun segment => segment.xmit ≠ 0) (parts.listed.symm.trans listed)
    parts.transmitted first ?_ ?_
  · intro other head
    exact not_not.mpr (parts.fresh other (mem_of_mem_head? head))
  · intro other head
    simp only [List.head?_cons, mem_def, some.injEq] at head
    rw [← head]
    exact not_not.mpr new

/-- While bytes are in flight the first segment is one of them. -/
theorem Outgoing.Counted.first_sent (counted : o.Counted) (flight : o.sndUna ≠ o.sndNxt)
    (found : o.slist[0]? = some segment) : segment.xmit ≠ 0 := by
  obtain ⟨sent, unsent, parts⟩ := counted
  cases sent with
  | nil =>
    have empty := parts.flight
    rw [total_nil] at empty
    exact absurd ((inFlight_eq_zero o).mp empty.symm) flight
  | cons head sent =>
    rw [parts.listed] at found
    simp only [cons_append, List.getElem?_cons_zero, some.injEq] at found
    rw [← found]
    exact parts.transmitted head mem_cons_self

/-- While bytes are in flight the list is not empty. -/
theorem Outgoing.Counted.nonempty (counted : o.Counted) (flight : o.sndUna ≠ o.sndNxt) :
    o.slist ≠ [] := by
  obtain ⟨sent, unsent, parts⟩ := counted
  intro empty
  have none := parts.flight
  rw [parts.listed, append_eq_nil_iff] at empty
  rw [empty.1, total_nil] at none
  exact flight ((inFlight_eq_zero o).mp none.symm)

/-- Bytes are in flight where the source retransmits. -/
theorem PseudoTcpSocket.Timed.flight (timed : s.Timed)
    (reason : s.rtoBase ≠ 0 ∨ s.sndUna < s.recover ∨ s.sndUna ≠ s.sndNxt) :
    s.sndUna ≠ s.sndNxt := by
  rcases reason with armed | recovering | flight
  · exact timed.armed armed
  · intro same
    have within := UInt32.le_iff_toNat_le.mp (timed.recovers (by rw [same]; exact UInt32.le_refl _))
    have recovering := UInt32.lt_iff_toNat_lt.mp recovering
    rw [same] at recovering
    omega
  · exact flight

/-! ## Queueing -/

/-- The bytes that fit the free room of the send buffer. -/
theorem room_add {slen : UInt32} (within : slen.toNat ≤ kSndBufSize.toNat)
    (room : count.toNat ≤ (kSndBufSize - slen.toUInt64).toNat) :
    slen.toNat + count.toNat ≤ kSndBufSize.toNat := by
  rw [toNat_sub64 (by simpa using within), UInt32.toNat_toUInt64] at room
  omega

/-- Bytes queued as a segment of their own are accounted for. -/
theorem Outgoing.Parts.append (parts : o.Parts sent unsent)
    (sbuf : Mem) (fits : o.slen.toNat + len.toNat ≤ kSndBufSize.toNat)
    (full : ∀ segment ∈ unsent, segment.len ≠ 0) (control : bCtrl = true → len ≠ 0) :
    { o with
      slist := o.slist ++ [⟨o.sndUna + o.slen, len, 0, bCtrl⟩]
      sbuf := sbuf
      slen := o.slen + len : Outgoing }.Parts sent
        (unsent ++ [⟨o.sndUna + o.slen, len, 0, bCtrl⟩]) := by
  have small : kSndBufSize.toNat = 92160 := rfl
  have slen : (o.slen + len).toNat = o.slen.toNat + len.toNat := toNat_add32 (by omega)
  refine ⟨?_, parts.transmitted, ?_, parts.flight, ?_, by rw [slen]; exact fits, ?_, ?_⟩
  · rw [parts.listed, append_assoc]
  · intro segment member
    rcases mem_append.mp member with member | member
    · exact parts.fresh segment member
    · rw [mem_singleton.mp member]
  · rw [total_append, parts.queued, slen]
    rfl
  · intro segment member
    rw [dropLast_concat] at member
    exact full segment member
  · intro segment member ctrl
    rcases mem_append.mp member with member | member
    · exact parts.control segment member ctrl
    · rw [mem_singleton.mp member] at ctrl ⊢
      exact control ctrl

/-- Bytes queued in the last segment are accounted for. -/
theorem Outgoing.Parts.join {last : SSegment} (parts : o.Parts sent unsent)
    (listed : o.slist = front ++ [last]) (fresh : last.xmit = 0) (sbuf : Mem)
    (fits : o.slen.toNat + len.toNat ≤ kSndBufSize.toNat) (control : last.bCtrl = false) :
    { o with
      slist := front ++ [{ last with len := last.len + len }]
      sbuf := sbuf
      slen := o.slen + len : Outgoing }.Counted := by
  have small : kSndBufSize.toNat = 92160 := rfl
  have slen : (o.slen + len).toNat = o.slen.toNat + len.toNat := toNat_add32 (by omega)
  have queued := parts.queued
  simp only [listed, total_append, total_cons, total_nil, SSegment.size] at queued
  have joined : (last.len + len).toNat = last.len.toNat + len.toNat := toNat_add32 (by omega)
  obtain ⟨init, rfl⟩ : ∃ init, unsent = init ++ [last] := by
    have tail : (sent ++ unsent).getLast? = some last := by
      rw [← parts.listed, listed, List.getLast?_concat]
    rcases eq_nil_or_concat unsent with rfl | ⟨init, other, rfl⟩
    · rw [append_nil] at tail
      exact absurd fresh (parts.transmitted last (mem_of_getLast? tail))
    · rw [concat_eq_append, ← append_assoc, List.getLast?_concat] at tail
      exact ⟨init, by rw [← some.inj tail, concat_eq_append]⟩
  have split : front = sent ++ init := by
    have same := parts.listed.symm.trans listed
    rw [← append_assoc] at same
    exact (append_inj_left' same rfl).symm
  refine ⟨sent, init ++ [{ last with len := last.len + len }], ?_, parts.transmitted, ?_,
    parts.flight, ?_, by rw [slen]; exact fits, ?_, ?_⟩
  · rw [split, append_assoc]
  · intro segment member
    rcases mem_append.mp member with member | member
    · exact parts.fresh segment (mem_append_left _ member)
    · rwa [mem_singleton.mp member]
  · simp only [total_append, total_cons, total_nil, SSegment.size]
    omega
  · intro segment member
    rw [dropLast_concat] at member
    exact parts.filled segment (by rw [dropLast_concat]; exact member)
  · intro segment member ctrl
    rcases mem_append.mp member with member | member
    · exact parts.control segment (mem_append_left _ member) ctrl
    · rw [mem_singleton.mp member] at ctrl
      exact absurd (ctrl.symm.trans control) (by decide)

/-- Queued bytes join the last segment or make one of their own. -/
theorem appendSegment_cases (o : Outgoing) (len : UInt32) (bCtrl : Bool) :
    (∃ front last, o.slist = front ++ [last] ∧ last.bCtrl = bCtrl ∧ last.xmit = 0 ∧
      o.appendSegment len bCtrl = front ++ [{ last with len := last.len + len }]) ∨
    (∀ front last, o.slist = front ++ [last] → last.bCtrl = bCtrl → last.xmit ≠ 0) ∧
      o.appendSegment len bCtrl = o.slist ++ [⟨o.sndUna + o.slen, len, 0, bCtrl⟩] := by
  rcases eq_nil_or_concat o.slist with empty | ⟨front, last, listed⟩
  · right
    refine ⟨fun front last listed => ?_, ?_⟩
    · rw [empty] at listed
      simp at listed
    · simp [Outgoing.appendSegment, empty]
  · rw [concat_eq_append] at listed
    have tail : o.slist.getLast? = some last := by rw [listed, List.getLast?_concat]
    by_cases join : last.bCtrl = bCtrl ∧ last.xmit = 0
    · left
      refine ⟨front, last, listed, join.1, join.2, ?_⟩
      simp only [Outgoing.appendSegment, tail, if_pos join]
      rw [listed, dropLast_concat]
    · right
      refine ⟨fun front' last' listed' same => ?_, ?_⟩
      · rw [listed', List.getLast?_concat, some.injEq] at tail
        subst tail
        exact fun fresh => join ⟨same, fresh⟩
      · simp only [Outgoing.appendSegment, tail, if_neg join]

/-- Queued bytes are accounted for. Control bytes come first. -/
theorem Outgoing.Counted.enqueue (counted : o.Counted) (data : Mem) (len : UInt32)
    (room : len.toNat ≤ (kSndBufSize - o.slen.toUInt64).toNat)
    (control : bCtrl = true → o.slist = [] ∧ len ≠ 0) : (o.enqueue data len bCtrl).Counted := by
  obtain ⟨sent, unsent, parts⟩ := counted
  have fits := room_add parts.room room
  rcases appendSegment_cases o len bCtrl with
    ⟨front, last, listed, ctrl, fresh, appended⟩ | ⟨closed, appended⟩
  · have plain : bCtrl = false := by
      cases bCtrl with
      | false => rfl
      | true =>
        rw [(control rfl).1] at listed
        simp at listed
    rw [Outgoing.enqueue, appended]
    exact parts.join listed fresh _ fits (ctrl.trans plain)
  · have full : ∀ segment ∈ unsent, segment.len ≠ 0 := by
      rcases eq_nil_or_concat unsent with rfl | ⟨init, last, ended⟩
      · simp
      · rw [concat_eq_append] at ended
        subst ended
        have listed : o.slist = (sent ++ init) ++ [last] := by rw [parts.listed, append_assoc]
        have fresh : last.xmit = 0 := parts.fresh last (by simp)
        have differs : last.bCtrl ≠ bCtrl := fun same => closed _ _ listed same fresh
        have plain : bCtrl = false := by
          cases bCtrl with
          | false => rfl
          | true =>
            rw [(control rfl).1] at listed
            simp at listed
        intro segment member
        rcases mem_append.mp member with member | member
        · exact parts.filled segment (by rw [dropLast_concat]; exact member)
        · rw [mem_singleton.mp member]
          exact parts.control last (by simp) (by simpa [plain] using differs)
    rw [Outgoing.enqueue, appended]
    exact ⟨_, _, parts.append _ fits full (fun ctrl => (control ctrl).2)⟩

/-! ## Transmitting -/

/-- A member of a list whose first entry is cut in two. -/
theorem mem_cut {a b c : SSegment} (member : c ∈ a :: b :: back) : c = a ∨ c = b ∨ c ∈ back := by
  simpa using member

/-- A segment that was not transmitted, cut in two. -/
theorem splitSegment_fresh (count : UInt32) (found : o.slist[index]? = some segment)
    (unsent : segment.xmit = 0) :
    o.splitSegment index count 0 =
      { o with
        slist := o.slist.take index ++ { segment with len := count } ::
          { segment with seq := segment.seq + count, len := segment.len - count } ::
            o.slist.drop (index + 1) } := by
  have cut := splitSegment_slist (Lists.eq_append_cons found) count 0
  rw [Lists.length_take found] at cut
  rw [splitSegment_same, cut, unsent]

/-- The first segment that was not transmitted is cut. -/
theorem Outgoing.Parts.cut (parts : o.Parts front (segment :: back)) (nonempty : 0 < count.toNat)
    (within : count.toNat < segment.len.toNat) :
    { o with
      slist := front ++ { segment with len := count } ::
        { segment with seq := segment.seq + count, len := segment.len - count } ::
          back : Outgoing }.Parts front ({ segment with len := count } ::
        { segment with seq := segment.seq + count, len := segment.len - count } :: back) := by
  have rest : (segment.len - count).toNat = segment.len.toNat - count.toNat :=
    toNat_sub32 (by omega)
  have fresh := parts.fresh segment mem_cons_self
  have queued := parts.queued
  rw [parts.listed] at queued
  have head : count ≠ 0 := mt eq_zero32.mp (by omega)
  have tail : segment.len - count ≠ 0 := mt eq_zero32.mp (by omega)
  refine ⟨rfl, parts.transmitted, ?_, parts.flight, ?_, parts.room, ?_, ?_⟩
  · intro other member
    rcases mem_cut member with rfl | rfl | member
    · exact fresh
    · exact fresh
    · exact parts.fresh other (mem_cons_of_mem _ member)
  · simp only [total_append, total_cons, SSegment.size] at queued ⊢
    omega
  · intro other member
    cases back with
    | nil =>
      rwa [mem_singleton.mp member]
    | cons next back =>
      have filled := parts.filled
      rw [dropLast_cons_of_ne_nil (by simp)] at filled
      rw [dropLast_cons_of_ne_nil (by simp), dropLast_cons_of_ne_nil (by simp)] at member
      rcases mem_cut member with rfl | rfl | member
      · exact head
      · exact tail
      · exact filled other (mem_cons_of_mem _ member)
  · intro other member ctrl
    rcases mem_cut member with rfl | rfl | member
    · exact head
    · exact tail
    · exact parts.control other (mem_cons_of_mem _ member) ctrl

/-- It is not empty when bytes are left to transmit. -/
theorem Outgoing.Parts.first_nonempty (parts : o.Parts front (segment :: back))
    (pending : o.slen ≠ o.inFlight) : 0 < segment.len.toNat := by
  cases back with
  | nil =>
    have queued := parts.queued
    have flight := parts.flight
    simp only [parts.listed, total_append, total_cons, total_nil, SSegment.size] at queued
    by_contra empty
    apply pending
    rw [← UInt32.toNat_inj]
    omega
  | cons next back =>
    have filled := parts.filled segment (by simp)
    have := mt eq_zero32.mpr filled
    omega

/-- The first transmission of a segment keeps the accounts. -/
theorem Outgoing.Parts.mark (parts : o.Parts front (segment :: back)) :
    { o with
      slist := front ++ { segment with xmit := segment.xmit + 1 } :: back
      sndNxt := o.sndNxt + segment.len : Outgoing }.Parts
        (front ++ [{ segment with xmit := segment.xmit + 1 }]) back := by
  have fresh := parts.fresh segment mem_cons_self
  have queued := parts.queued
  have flight := parts.flight
  have room := parts.room
  have small : kSndBufSize.toNat = 92160 := rfl
  simp only [parts.listed, total_append, total_cons, SSegment.size] at queued
  have moved := toNat_add_sub32 o.sndUna o.sndNxt segment.len
    (by simp only [Outgoing.inFlight] at flight; omega)
  refine ⟨by simp, ?_, forall_mem_of_forall_mem_cons parts.fresh,
    ?_, ?_, parts.room, ?_, forall_mem_of_forall_mem_cons parts.control⟩
  · intro other member
    rcases mem_append.mp member with member | member
    · exact parts.transmitted other member
    · rw [mem_singleton.mp member]
      change segment.xmit + 1 ≠ 0
      rw [fresh]
      decide
  · simp only [total_append, total_cons, total_nil, SSegment.size, Outgoing.inFlight] at flight ⊢
    omega
  · simp only [total_append, total_cons, SSegment.size]
    omega
  · intro other member
    cases back with
    | nil => simp at member
    | cons next back =>
      have filled := parts.filled
      rw [dropLast_cons_of_ne_nil (by simp)] at filled
      exact filled other (mem_cons_of_mem _ member)

/-- Cutting a segment that was transmitted keeps the accounts. -/
theorem Outgoing.Parts.cut_sent (parts : o.Parts (segment :: sent) unsent)
    (within : count.toNat ≤ segment.len.toNat) :
    { o with
      slist := { segment with len := count } ::
        { segment with seq := segment.seq + count, len := segment.len - count } ::
          (sent ++ unsent) : Outgoing }.Parts ({ segment with len := count } ::
        { segment with seq := segment.seq + count, len := segment.len - count } :: sent) unsent := by
  have rest : (segment.len - count).toNat = segment.len.toNat - count.toNat :=
    toNat_sub32 within
  have old := parts.transmitted segment mem_cons_self
  have queued := parts.queued
  have flight := parts.flight
  rw [parts.listed] at queued
  refine ⟨rfl, ?_, parts.fresh, ?_, ?_, parts.room, parts.filled, parts.control⟩
  · intro other member
    rcases mem_cut member with rfl | rfl | member
    · exact old
    · exact old
    · exact parts.transmitted other (mem_cons_of_mem _ member)
  · simp only [total_cons, SSegment.size, Outgoing.inFlight] at flight ⊢
    omega
  · simp only [cons_append, total_append, total_cons, SSegment.size] at queued ⊢
    omega

/-- A count below the limit is not zero after one more. -/
theorem xmit_succ {xmit : UInt8} (limit : xmit.toNat < 30) : xmit + 1 ≠ 0 := by
  intro zero
  have zero := congrArg UInt8.toNat zero
  rw [UInt8.toNat_add] at zero
  simp only [UInt8.toNat_one, UInt8.toNat_zero] at zero
  omega

/-- The first segment is transmitted again. -/
theorem Outgoing.Parts.mark_sent (parts : o.Parts (segment :: sent) unsent)
    (limit : segment.xmit.toNat < 30) :
    { o with
      slist := { segment with xmit := segment.xmit + 1 } :: (sent ++ unsent) : Outgoing }.Parts
        ({ segment with xmit := segment.xmit + 1 } :: sent) unsent := by
  have queued := parts.queued
  have flight := parts.flight
  rw [parts.listed] at queued
  refine ⟨rfl, ?_, parts.fresh, ?_, ?_, parts.room, parts.filled, parts.control⟩
  · intro other member
    rcases mem_cons.mp member with rfl | member
    · exact xmit_succ limit
    · exact parts.transmitted other (mem_cons_of_mem _ member)
  · simpa only [total_cons, SSegment.size, Outgoing.inFlight] using flight
  · simpa only [cons_append, total_cons, SSegment.size] using queued

/-! ## Acknowledging -/

/-- Nothing is released. -/
theorem freeSegments_zero (slist : List SSegment) (largest : UInt32) :
    freeSegments slist 0 largest = some (slist, largest) := by
  rw [freeSegments.eq_def]
  exact if_pos rfl

/-- A segment is released, or cut at the front. -/
theorem freeSegments_cons (data : SSegment) (slist : List SSegment)
    (largest : UInt32) (positive : nFree ≠ 0) :
    freeSegments (data :: slist) nFree largest =
      if nFree < data.len then some ({ data with len := data.len - nFree } :: slist, largest)
      else freeSegments slist (nFree - data.len)
        (if data.len > largest then data.len else largest) := by
  rw [freeSegments.eq_def]
  exact if_neg positive

/-- Releasing bytes of the front shortens the front. -/
theorem freeSegments_parts (within : nFree.toNat ≤ total SSegment.size sent)
    (old : ∀ segment ∈ sent, segment.xmit ≠ 0) :
    ∃ rest largest', freeSegments (sent ++ unsent) nFree largest = some (rest ++ unsent, largest') ∧
      (∀ segment ∈ rest, segment.xmit ≠ 0) ∧
      total SSegment.size rest + nFree.toNat = total SSegment.size sent := by
  induction sent generalizing nFree largest with
  | nil =>
    rw [total_nil] at within
    obtain rfl : nFree = 0 := eq_zero32.mpr (by omega)
    exact ⟨[], largest, freeSegments_zero _ _, by simp, by simp⟩
  | cons data sent ih =>
    by_cases none : nFree = 0
    · subst none
      exact ⟨data :: sent, largest, freeSegments_zero _ _, old, by simp⟩
    · simp only [total_cons, SSegment.size] at within ⊢
      by_cases inside : nFree < data.len
      · have less := UInt32.lt_iff_toNat_lt.mp inside
        have left : (data.len - nFree).toNat = data.len.toNat - nFree.toNat :=
          toNat_sub32 (by omega)
        refine ⟨{ data with len := data.len - nFree } :: sent, largest, ?_, ?_, ?_⟩
        · rw [cons_append, freeSegments_cons _ _ _ none, if_pos inside, cons_append]
        · intro segment member
          rcases mem_cons.mp member with rfl | member
          · exact old data mem_cons_self
          · exact old segment (mem_cons_of_mem _ member)
        · simp only [total_cons, SSegment.size]
          omega
      · have more := UInt32.le_iff_toNat_le.mp (UInt32.not_lt.mp inside)
        have left : (nFree - data.len).toNat = nFree.toNat - data.len.toNat :=
          toNat_sub32 more
        obtain ⟨rest, largest', freed, older, sum⟩ :=
          ih (if data.len > largest then data.len else largest)
            (show (nFree - data.len).toNat ≤ total SSegment.size sent by omega) (forall_mem_of_forall_mem_cons old)
        refine ⟨rest, largest', ?_, older, by omega⟩
        rwa [cons_append, freeSegments_cons _ _ _ none, if_neg inside]

/-- Released bytes are in flight. -/
theorem acked_le (new : o.sndUna < ack) (sent : ack ≤ o.sndNxt) :
    (ack - o.sndUna).toNat = ack.toNat - o.sndUna.toNat ∧
      o.inFlight.toNat = o.sndNxt.toNat - o.sndUna.toNat ∧ o.sndUna.toNat < ack.toNat ∧
      ack.toNat ≤ o.sndNxt.toNat := by
  have new := UInt32.lt_iff_toNat_lt.mp new
  have sent := UInt32.le_iff_toNat_le.mp sent
  exact ⟨toNat_sub32 (by omega), toNat_sub32 (by omega), new, sent⟩

/-- An acknowledgement of new data finds the bytes it releases. -/
theorem Outgoing.Counted.acknowledged (counted : o.Counted) (wnd : UInt16)
    (new : o.sndUna < ack) (sent : ack ≤ o.sndNxt) (largest : UInt32) :
    ∃ slist largest', freeSegments o.slist (ack - o.sndUna) largest = some (slist, largest') ∧
      { o.acknowledged ack wnd with slist := slist }.Counted := by
  obtain ⟨front, back, parts⟩ := counted
  obtain ⟨acked, flight, above, below⟩ := acked_le new sent
  have inside := parts.flight
  have queued := parts.queued
  have room := parts.room
  rw [parts.listed, total_append] at queued
  obtain ⟨rest, largest', freed, older, sum⟩ :=
    freeSegments_parts largest
      (show (ack - o.sndUna).toNat ≤ total SSegment.size front by omega) parts.transmitted
  rw [← parts.listed] at freed
  have slen : (o.slen - (ack - o.sndUna)).toNat = o.slen.toNat - (ack - o.sndUna).toNat :=
    toNat_sub32 (by omega)
  have left : (o.sndNxt - ack).toNat = o.sndNxt.toNat - ack.toNat := toNat_sub32 below
  refine ⟨rest ++ back, largest', freed, rest, back, rfl, older, parts.fresh, ?_, ?_, ?_,
    parts.filled, parts.control⟩
  · simp only [Outgoing.inFlight, Outgoing.acknowledged]
    omega
  · simp only [total_append, Outgoing.acknowledged]
    omega
  · simp only [Outgoing.acknowledged]
    omega

/-! ## Steps and runs -/

/-- Other fields do not matter. -/
theorem PseudoTcpSocket.Ordered.of_same (ordered : s.Ordered)
    (state : s'.state = s.state) (outgoing : s'.toOutgoing = s.toOutgoing)
    (recovery : s'.toRecovery = s.toRecovery) : s'.Ordered := by
  refine ⟨fun live => ?_, fun live => ?_, fun listening => ?_⟩
  · rw [outgoing]
    exact ordered.counted (state ▸ live)
  · have timed := ordered.timed (state ▸ live)
    constructor
    · rw [outgoing, recovery]
      exact timed.armed
    · rw [outgoing, recovery]
      exact timed.recovers
  · rw [outgoing]
    exact ordered.unused (state ▸ listening)

/-- Nor do control fields. -/
theorem Tuned.ordered (tuned : Tuned s s') (ordered : s.Ordered) :
    s'.Ordered :=
  ordered.of_same (by rw [tuned.same]) (by rw [tuned.same]) (by rw [tuned.same])

/-- `snd_nxt` moves on and keeps the recovery period inside. -/
theorem recover_le_nxt {recover : UInt32} (recovers : o.sndUna ≤ o.sndNxt → recover ≤ o.sndNxt)
    (fits : o.inFlight.toNat + count.toNat ≤ kSndBufSize.toNat)
    (forward : o.sndUna ≤ o.sndNxt + count) : recover ≤ o.sndNxt + count := by
  have small : kSndBufSize.toNat = 92160 := rfl
  have una := o.sndUna.toNat_lt
  have nxt := o.sndNxt.toNat_lt
  simp only [Outgoing.inFlight, UInt32.toNat_sub] at fits
  simp only [UInt32.le_iff_toNat_le, UInt32.toNat_add] at recovers forward ⊢
  by_cases before : o.sndUna.toNat ≤ o.sndNxt.toNat
  · have within := recovers before
    omega
  · omega

/-- The first transmission of a segment keeps the order. -/
theorem PseudoTcpSocket.Ordered.transmitNew (ordered : s.Ordered)
    (live : s.state ≠ .closed) (found : s.slist[index]? = some segment) (unsent : segment.xmit = 0)
    (first : ∀ earlier ∈ s.slist.take index, earlier.xmit ≠ 0)
    (within : count.toNat ≤ segment.len.toNat) (nonempty : 0 < count.toNat ∨ segment.len = 0)
    (pending : s.slen ≠ s.inFlight) : (s.transmitted index count now).Ordered := by
  have listed := Lists.eq_append_cons found
  have length := Lists.length_take found
  have counted := ordered.counted live
  have timed := ordered.timed live
  have listening : s.state ≠ .listen := by
    intro listening
    rw [(ordered.unused listening).slist] at found
    simp at found
  obtain ⟨sent, rest, parts⟩ := id counted
  obtain ⟨rfl, rfl⟩ := parts.at listed first unsent
  have positive := parts.first_nonempty pending
  have queued := parts.queued
  have room := parts.room
  have flight := parts.flight
  rw [parts.listed, total_append, total_cons] at queued
  -- What goes out is not empty, so bytes are in flight afterwards.
  have moved : ∀ n : UInt32, 0 < n.toNat → n.toNat ≤ segment.len.toNat →
      s.inFlight.toNat + n.toNat ≤ kSndBufSize.toNat ∧ s.sndUna ≠ s.sndNxt + n := by
    intro n some most
    have small : kSndBufSize.toNat = 92160 := rfl
    simp only [SSegment.size] at queued
    refine ⟨by omega, fun same => ?_⟩
    have zero := toNat_add_sub32 s.sndUna s.sndNxt n
      (by simp only [Outgoing.inFlight] at flight; omega)
    rw [← same, UInt32.sub_self, UInt32.toNat_zero] at zero
    omega
  rw [← length]
  by_cases cut : count < segment.len
  · have less := UInt32.lt_iff_toNat_lt.mp cut
    have some : 0 < count.toNat := nonempty.resolve_right (mt eq_zero32.mp (by omega))
    obtain ⟨fits, apart⟩ := moved count some within
    rw [transmitted_cut listed count now cut]
    simp only [if_pos unsent]
    refine ⟨fun _ => ⟨_, _, (parts.cut some less).mark⟩, fun _ => ⟨fun _ => apart, ?_⟩,
      fun state => absurd state listening⟩
    exact recover_le_nxt timed.recovers fits
  · obtain ⟨fits, apart⟩ := moved segment.len positive (le_refl _)
    rw [transmitted_whole listed count now cut]
    simp only [if_pos unsent]
    refine ⟨fun _ => ⟨_, _, parts.mark⟩, fun _ => ⟨fun _ => apart, ?_⟩,
      fun state => absurd state listening⟩
    exact recover_le_nxt timed.recovers fits

/-- So does a retransmission. -/
theorem PseudoTcpSocket.Ordered.retransmit (ordered : s.Ordered) (live : s.state ≠ .closed)
    (found : s.slist[0]? = some segment) (limit : segment.xmit.toNat < 30)
    (within : count.toNat ≤ segment.len.toNat)
    (reason : s.rtoBase ≠ 0 ∨ s.sndUna < s.recover ∨ s.sndUna ≠ s.sndNxt) :
    (s.transmitted 0 count now).Ordered := by
  have counted := ordered.counted live
  have timed := ordered.timed live
  have flight := timed.flight reason
  have old := counted.first_sent flight found
  have listening : s.state ≠ .listen := by
    intro listening
    rw [(ordered.unused listening).slist] at found
    simp at found
  have listed : s.slist = [] ++ segment :: s.slist.drop 1 := Lists.eq_append_cons found
  obtain ⟨sent, rest, parts⟩ := counted
  obtain ⟨tail, rfl⟩ : ∃ tail, sent = segment :: tail := by
    cases sent with
    | nil =>
      have empty := parts.flight
      rw [total_nil] at empty
      exact absurd ((inFlight_eq_zero _).mp empty.symm) flight
    | cons head tail =>
      have same := parts.listed.symm.trans listed
      rw [cons_append, nil_append, List.cons.injEq] at same
      exact ⟨tail, by rw [same.1]⟩
  have dropped : s.slist.drop 1 = tail ++ rest := by
    have same := parts.listed.symm.trans listed
    rw [cons_append, nil_append, List.cons.injEq] at same
    exact same.2.symm
  rw [dropped] at listed
  by_cases cut : count < segment.len
  · have shape := transmitted_cut listed count now cut
    rw [length_nil] at shape
    rw [shape]
    simp only [if_neg old, nil_append]
    exact ⟨fun _ => ⟨_, _, (parts.cut_sent within).mark_sent limit⟩,
      fun _ => ⟨fun _ => flight, timed.recovers⟩, fun state => absurd state listening⟩
  · have shape := transmitted_whole listed count now cut
    rw [length_nil] at shape
    rw [shape]
    simp only [if_neg old, nil_append]
    exact ⟨fun _ => ⟨_, _, parts.mark_sent limit⟩,
      fun _ => ⟨fun _ => flight, timed.recovers⟩, fun state => absurd state listening⟩

/-- A quiet step keeps the sending half in order. -/
theorem Quiet.ordered (step : Quiet allowed h h') (ordered : h.sock.Ordered) : h'.sock.Ordered := by
  cases step with
  | tune tuned => exact tuned.ordered ordered
  | advise mtu made same sane => exact ordered.of_same (by rw [same]) (by rw [same]) (by rw [same])
  | look | writeEmpty | writeRefused | readable | writable => exact ordered
  | transmitNew count now stamp live found unsent first within nonempty pending window =>
    exact ordered.transmitNew live found unsent first within nonempty pending
  | retransmit count now stamp live found limit within reason =>
    exact ordered.retransmit live found limit within reason
  | split count found unsent first nonempty within =>
    rw [splitSegment_fresh count found unsent]
    have listening : h.sock.state ≠ .listen := by
      intro listening
      rw [(ordered.unused listening).slist] at found
      simp at found
    refine ⟨fun live => ?_, fun live => ⟨(ordered.timed live).armed, (ordered.timed live).recovers⟩,
      fun state => absurd state listening⟩
    obtain ⟨sent, rest, parts⟩ := ordered.counted live
    obtain ⟨rfl, rfl⟩ := parts.at (Lists.eq_append_cons found) first unsent
    exact ⟨_, _, parts.cut nonempty within⟩
  | openCtl state listening opened room =>
    have unused := ordered.unused listening
    have live : h.sock.state ≠ .closed := by
      rw [listening]
      decide
    have timed := ordered.timed live
    refine ⟨fun _ => ?_, fun _ => ⟨timed.armed, timed.recovers⟩, fun state => ?_⟩
    · exact (ordered.counted live).enqueue _ 1 room (fun _ => ⟨unused.slist, by decide⟩)
    · rcases opened with rfl | rfl <;> simp at state
  | enqueue buffer len count made established room =>
    have live : h.sock.state ≠ .closed := by
      rw [established]
      decide
    have timed := ordered.timed live
    refine ⟨fun _ => ?_, fun _ => ⟨timed.armed, timed.recovers⟩, fun state => ?_⟩
    · exact (ordered.counted live).enqueue buffer count room (by simp)
    · simp [established] at state
  | countDup dupAcks =>
    exact ⟨ordered.counted, fun live => ⟨(ordered.timed live).armed, (ordered.timed live).recovers⟩,
      ordered.unused⟩
  | enterRecovery =>
    exact ⟨ordered.counted, fun live => ⟨(ordered.timed live).armed, fun _ => UInt32.le_refl _⟩,
      ordered.unused⟩
  | rearm now armed =>
    exact ⟨ordered.counted, fun live => ⟨fun _ => (ordered.timed live).armed armed,
      (ordered.timed live).recovers⟩, ordered.unused⟩
  | establish opening tuned =>
    have live : h.sock.state ≠ .closed := by
      rcases opening with opening | opening <;> rw [opening] <;> decide
    have timed := ordered.timed live
    refine tuned.ordered ⟨fun _ => ordered.counted live, fun _ => ⟨timed.armed, timed.recovers⟩, ?_⟩
    simp
  | closedown err => exact ⟨by simp, by simp, by simp⟩
  | consume | widen | shut => exact ordered.of_same rfl rfl rfl

/-- A transmission moves the list, `snd_nxt` and the timer. -/
theorem transmitted_same (s : PseudoTcpSocket) (index : Nat) (count now : UInt32) :
    s.transmitted index count now = { s with
      slist := (s.transmitted index count now).slist
      sndNxt := (s.transmitted index count now).sndNxt
      rtoBase := (s.transmitted index count now).rtoBase } := by
  cases found : s.slist[index]? with
  | none => simp only [PseudoTcpSocket.transmitted, found]
  | some segment =>
    have listed := Lists.eq_append_cons found
    rw [← Lists.length_take found]
    by_cases cut : count < segment.len
    · rw [transmitted_cut listed count now cut]
    · rw [transmitted_whole listed count now cut]

/-- Quiet steps leave `snd_una`. -/
theorem Quiet.sndUna (step : Quiet allowed h h') : h'.sock.sndUna = h.sock.sndUna := by
  cases step with
  | tune tuned => rw [tuned.same]
  | advise mtu made same sane => rw [same]
  | transmitNew | retransmit => rw [transmitted_same]
  | split =>
    simp only
    rw [splitSegment_same]
  | establish opening tuned => rw [tuned.same]
  | look | writeEmpty | writeRefused | openCtl | enqueue | countDup | enterRecovery | rearm
  | readable | writable | closedown | consume | widen | shut => rfl

/-- An acknowledgement number keeps the order. -/
theorem AckStep.ordered (step : AckStep seg h h') (ordered : h.sock.Ordered) : h'.sock.Ordered := by
  cases step with
  | newAck now new sent freed =>
    have listening : h.sock.state ≠ .listen := by
      intro listening
      have unused := ordered.unused listening
      rw [unused.una] at new
      rw [unused.nxt] at sent
      exact absurd (UInt32.lt_iff_toNat_lt.mp new) (Nat.not_lt.mpr (UInt32.le_iff_toNat_le.mp sent))
    refine ⟨fun live => ?_, fun live => ⟨fun armed => ?_, fun _ => ?_⟩,
      fun state => absurd state listening⟩
    · obtain ⟨slist, largest, freed', counted⟩ :=
        (ordered.counted live).acknowledged seg.wnd new sent h.sock.largest
      rw [freed] at freed'
      obtain ⟨rfl, -⟩ := Prod.mk.inj (some.inj freed')
      exact counted
    · intro same
      exact armed (if_pos same)
    · refine (ordered.timed live).recovers ?_
      rw [UInt32.le_iff_toNat_le]
      have := acked_le new sent
      omega
  | sameAck same =>
    refine ⟨fun live => ?_, fun live => ⟨(ordered.timed live).armed, (ordered.timed live).recovers⟩,
      fun state => ?_⟩
    · obtain ⟨front, back, parts⟩ := ordered.counted live
      exact ⟨front, back, parts.listed, parts.transmitted, parts.fresh, parts.flight, parts.queued,
        parts.room, parts.filled, parts.control⟩
    · have unused := ordered.unused state
      exact ⟨unused.slist, unused.slen, unused.una, unused.nxt⟩

/-- The use of the payload leaves the sending half alone. -/
theorem DataStep.ordered (step : DataStep buffer seg h h')
    (ordered : h.sock.Ordered) : h'.sock.Ordered := by
  cases step with
  | skip | inOrder | outOfOrder => exact ordered.of_same rfl rfl rfl

/-- The sending half of a new socket is in order. -/
theorem ordered_new (conversation now : UInt32) : (PseudoTcpSocket.new conversation now).Ordered := by
  refine ⟨fun _ => ⟨[], [], rfl, by simp, by simp, by simp [Outgoing.inFlight, PseudoTcpSocket.new], rfl,
      ?_, by simp, by simp⟩,
    fun _ => ⟨fun armed => absurd rfl armed, fun _ => UInt32.le_refl _⟩,
    fun _ => ⟨rfl, rfl, rfl, rfl⟩⟩
  exact Nat.zero_le _

/-- With bytes to send, the first segment that was not transmitted has some. -/
theorem PseudoTcpSocket.Ordered.not_endless (ordered : s.Ordered) : ¬Cause s .endless := by
  rintro ⟨live, pending, index, segment, found, fresh, empty, first⟩
  obtain ⟨sent, unsent, parts⟩ := ordered.counted live
  obtain ⟨rfl, rfl⟩ := parts.at (Lists.eq_append_cons found) first fresh
  have positive := parts.first_nonempty pending
  rw [empty] at positive
  exact absurd positive (by decide)

/-- Only segment size and threshold can then cause a fault. -/
theorem PseudoTcpSocket.Ordered.not_sane (ordered : s.Ordered)
    (cause : Cause s fault) : ¬s.Sane ∧ fault ≠ .queueAssert ∧ fault ≠ .freeAssert := by
  cases fault with
  | queueAssert =>
    obtain ⟨listening, full⟩ := cause
    rw [(ordered.unused listening).slen] at full
    exact absurd full (by decide)
  | packetAssert =>
    exact ⟨fun sane => absurd sane.mss.2 (Nat.not_le.mpr cause), by decide, by decide⟩
  | rttAssert | freeAssert => exact cause.elim
  | unsentAssert =>
    obtain ⟨live, pending, old⟩ := cause
    obtain ⟨sent, unsent, parts⟩ := ordered.counted live
    have none : unsent = [] := by
      rw [eq_nil_iff_forall_not_mem]
      intro segment member
      refine old segment ?_ (parts.fresh segment member)
      rw [parts.listed]
      exact mem_append_right _ member
    have queued := parts.queued
    rw [parts.listed, none, append_nil, parts.flight] at queued
    exact absurd (UInt32.toNat_inj.mp queued).symm pending
  | clockAssert =>
    obtain ⟨live, armed, empty⟩ := cause
    exact absurd empty ((ordered.counted live).nonempty ((ordered.timed live).armed armed))
  | nullPointer =>
    obtain ⟨live, empty, reason⟩ := cause
    obtain ⟨sent, unsent, parts⟩ := ordered.counted live
    have queued := parts.queued
    have flight := parts.flight
    have none := parts.listed
    rw [empty] at queued none
    obtain ⟨rfl, rfl⟩ := append_eq_nil_iff.mp none.symm
    rw [total_nil] at queued flight
    rcases reason with pending | reason
    · exact absurd (UInt32.toNat_inj.mp (queued.symm.trans flight)) pending
    · exact absurd ((inFlight_eq_zero _).mp flight.symm)
        ((ordered.timed live).flight (.inr reason))
  | zeroDivision =>
    refine ⟨fun sane => ?_, by decide, by decide⟩
    have positive := sane.ssthresh
    rw [cause] at positive
    exact absurd positive (by decide)
  | endless => exact absurd cause ordered.not_endless

/-- Released bytes are found. -/
theorem PseudoTcpSocket.Ordered.rtt_of_ackCause (ordered : s.Ordered)
    (cause : AckCause seg now s fault) : fault = .rttAssert := by
  cases fault with
  | freeAssert =>
    obtain ⟨live, new, sent, lost⟩ := cause
    obtain ⟨slist, largest, freed, -⟩ :=
      (ordered.counted live).acknowledged seg.wnd new sent s.largest
    rw [lost] at freed
    simp at freed
  | rttAssert => rfl
  | queueAssert | packetAssert | unsentAssert | clockAssert | nullPointer | zeroDivision
  | endless => exact cause.elim

/-- `process` keeps the order. -/
theorem Processed.ordered (ordered : h.sock.Ordered)
    (processed : Processed allowed buffer seg h h') : h'.sock.Ordered :=
  processed.keeps (I := fun h => h.sock.Ordered) (fun _ _ step => step.ordered)
    (fun _ _ step => step.ordered) (fun _ _ step => step.ordered) ordered

/-- So do quiet steps. -/
theorem ordered_of_quiet (ordered : h.sock.Ordered) (steps : ReflTransGen (Quiet allowed) h h') :
    h'.sock.Ordered :=
  invariant_of_steps (I := fun h => h.sock.Ordered) (fun _ _ step => step.ordered) steps ordered

/-- An entry point keeps the sending half in order. -/
theorem Entry.Does.ordered {entry : Entry} (ordered : h.sock.Ordered)
    (does : entry.Does allowed h h') : h'.sock.Ordered := by
  cases entry with
  | connect | call | notifyClock => exact ordered_of_quiet ordered does
  | notifyPacket => exact Processed.ordered ordered does

/-- Every entry point is then a sequence of whole steps, also when it stops. -/
theorem Entry.run_does {env : Nat → Reply} {w : World} (entry : Entry) (early : w.sock.Early)
    (ordered : w.sock.Ordered) (made : entry.Allowed allowed) (allows : Allows allowed env) :
    ends (entry.run (userCode 0)) (fun w' => entry.Does allowed w.toHistory w'.toHistory)
      (w.within env) := by
  refine wp_mono (entry.run_steps w early made allows) (fun _ _ does => does) ?_
  intro fault w' fails
  have quiet : (fault ≠ .queueAssert → ReflTransGen (Quiet allowed) w.toHistory w'.toHistory) ∧
      (∃ h₁, ReflTransGen (Quiet allowed) w.toHistory h₁ ∧ Cause h₁.sock fault) →
      ReflTransGen (Quiet allowed) w.toHistory w'.toHistory := by
    rintro ⟨steps, h₁, before, cause⟩
    exact steps ((ordered_of_quiet ordered before).not_sane cause).2.1
  cases entry with
  | connect | call | notifyClock => exact quiet fails
  | notifyPacket buffer len =>
    rcases fails.cause with ⟨h₁, processed, cause⟩ | ⟨h₁, opening, cause⟩
    · obtain ⟨-, queue, free⟩ := (Processed.ordered ordered processed).not_sane cause
      exact fails.processed queue free
    · obtain rfl := (ordered_of_quiet ordered opening.steps).rtt_of_ackCause cause
      exact fails.processed (by decide) (by decide)

variable {meets : World → Entry → (Nat → Reply) → Prop} {result : Except Fault Unit} {w : World}

/-- Every call is allowed. -/
theorem Entry.allowed_all (entry : Entry) : entry.Allowed (fun _ => True) := by
  cases entry <;> trivial

/-- The order holds in every run. -/
theorem Reachable.ordered (reached : Reachable 0 meets result w) : w.sock.Ordered := by
  induction reached with
  | new conversation now => exact ordered_new conversation now
  | step entry env before condition ended ih =>
    exact (ends_run (entry.run_does before.lived.2 ih entry.allowed_all (fun _ _ _ => trivial))
      ended).ordered ih

/-- What every allowed entry point keeps, the run keeps. -/
theorem Reachable.keeps_allowed {I : History → Prop} (reached : Reachable 0 meets result w)
    (allowed : Call → Prop)
    (calls : ∀ w entry env, meets w entry env → entry.Allowed allowed ∧ Allows allowed env)
    (start : ∀ conversation now, I (World.new conversation now).toHistory)
    (keeps : ∀ w entry env h', Reachable 0 meets (.ok ()) w → meets w entry env →
      entry.Does allowed w.toHistory h' → I w.toHistory → I h') : I w.toHistory := by
  induction reached with
  | new conversation now => exact start conversation now
  | step entry env before condition ended ih =>
    obtain ⟨made, allows⟩ := calls _ entry env condition
    have does := ends_run (entry.run_does before.lived.2 before.ordered made allows) ended
    exact keeps _ entry env _ before condition does ih

/-- The same without a condition on calls. -/
theorem Reachable.keeps {I : History → Prop} (reached : Reachable 0 meets result w)
    (start : ∀ conversation now, I (World.new conversation now).toHistory)
    (keeps : ∀ w entry env h', Reachable 0 meets (.ok ()) w → meets w entry env →
      entry.Does (fun _ => True) w.toHistory h' → I w.toHistory → I h') : I w.toHistory :=
  reached.keeps_allowed (fun _ => True)
    (fun _ entry _ _ => ⟨entry.allowed_all, fun _ _ _ => trivial⟩) start keeps

/-! ## Transmissions -/

/-- No segment was transmitted more than thirty times. -/
def Outgoing.Tried (o : Outgoing) : Prop := ∀ segment ∈ o.slist, segment.xmit.toNat ≤ 30

/-- A transmission below the limit. -/
theorem Outgoing.Tried.transmitted (tried : s.Tried)
    (found : s.slist[index]? = some segment) (limit : segment.xmit.toNat < 30) :
    (s.transmitted index count now).Tried := by
  have listed := Lists.eq_append_cons found
  have next : (segment.xmit + 1).toNat ≤ 30 := (Nat.mod_le _ _).trans limit
  rw [Outgoing.Tried, listed] at tried
  rw [← Lists.length_take found, Outgoing.Tried]
  by_cases cut : count < segment.len
  · rw [transmitted_cut listed count now cut]
    grind
  · rw [transmitted_whole listed count now cut]
    grind

/-- A release leaves the counts. -/
theorem freeSegments_tried {slist rest : List SSegment} {largest largest' : UInt32}
    (freed : freeSegments slist nFree largest = some (rest, largest'))
    (tried : ∀ segment ∈ slist, segment.xmit.toNat ≤ 30) :
    ∀ segment ∈ rest, segment.xmit.toNat ≤ 30 := by
  fun_induction freeSegments slist nFree largest <;> grind

/-- Quiet steps keep the limit. -/
theorem Quiet.tried (step : Quiet allowed h h') (tried : h.sock.Tried) : h'.sock.Tried := by
  have queued (data : Mem) (len : UInt32) (ctrl : Bool) : (h.sock.enqueue data len ctrl).Tried := by
    unfold Outgoing.Tried Outgoing.enqueue
    rcases appendSegment_cases h.sock.toOutgoing len ctrl with
      ⟨front, last, listed, -, fresh, made⟩ | ⟨-, made⟩
    · rw [Outgoing.Tried, listed] at tried
      grind
    · rw [made, forall_mem_append, forall_mem_singleton]
      exact ⟨tried, Nat.zero_le _⟩
  cases step with
  | tune tuned => rwa [tuned.outgoing]
  | advise mtu made same sane => rwa [same]
  | transmitNew count now stamp live found unsent =>
    exact tried.transmitted found (by rw [unsent]; decide)
  | retransmit count now stamp live found limit => exact tried.transmitted found limit
  | split count found unsent =>
    rw [splitSegment_fresh count found unsent]
    unfold Outgoing.Tried at *
    grind
  | openCtl | enqueue => exact queued _ _ _
  | establish opening tuned => rwa [tuned.outgoing]
  | look | writeEmpty | writeRefused | countDup | enterRecovery | rearm | readable | writable
  | closedown | consume | widen | shut => exact tried

/-- In every run a segment is transmitted at most thirty times, and the accounts of a socket that is
not closed are in order. -/
theorem send_accounts_of_run (reached : Reachable 0 meets result w) :
    w.sock.Tried ∧ (w.sock.state ≠ .closed → w.sock.Counted ∧ w.sock.Timed) := by
  refine ⟨reached.keeps (I := fun h => h.sock.Tried) (fun _ _ => forall_mem_nil _) ?_,
    fun live => ⟨reached.ordered.counted live, reached.ordered.timed live⟩⟩
  intro w entry env h' _ _ does
  have quiet : ∀ h h', Quiet (fun _ => True) h h' → h.sock.Tried → h'.sock.Tried :=
    fun _ _ => Quiet.tried
  cases entry with
  | connect | call | notifyClock => exact invariant_of_steps quiet does
  | notifyPacket =>
    refine Processed.keeps quiet ?_ ?_ does
    · rintro _ _ (⟨now, new, sent, freed⟩ | ⟨same⟩) tried
      · exact freeSegments_tried freed tried
      · exact tried
    · rintro _ _ (_ | _ | _) tried <;> exact tried

/-- `connect` transmits the control byte. -/
theorem send_accounts_of_connect :
    let w := Entry.connect.after (userCode 0) steady (World.new 0 1000)
    w.sock.slist = [⟨0, 1, 1, true⟩] ∧ w.sock.Tried ∧ w.sock.Counted ∧ w.sock.Timed := by
  intro w
  have reached : Reachable 0 (fun _ _ _ => True) (.ok ()) w :=
    .next .connect steady (.new 0 1000) trivial (by rfl)
  obtain ⟨tried, accounts⟩ := send_accounts_of_run reached
  exact ⟨by decide +kernel, tried, accounts (by decide +kernel)⟩

end Xice.PseudoTcp
