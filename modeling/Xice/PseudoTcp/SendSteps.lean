import Xice.PseudoTcp.Steps
import Xice.PseudoTcp.Calls
import Xice.Lib.Lists

/-!
# Sending as a sequence of steps

Each function of the sending half is a sequence of quiet steps, also when it stops with a fault;
what a fault says about the socket is listed in `Cause`. The statements carry earlier steps along.
-/

namespace Xice.PseudoTcp

open Xice.Lib Exec Relation Option Word List

/-- Quiet steps in the same environment. -/
structure Quietly (allowed : Call → Prop) (w w' : World) : Prop where
  env : w'.env = w.env
  steps : ReflTransGen (Quiet allowed) w.toHistory w'.toHistory

/-- The application makes only allowed calls. -/
def Allows (allowed : Call → Prop) (env : Nat → Reply) : Prop :=
  ∀ n, ∀ call ∈ (env n).calls, allowed call

/-- The first segment that was not transmitted is empty. -/
def Outgoing.EmptyNext (o : Outgoing) : Prop :=
  ∃ index segment, o.slist[index]? = some segment ∧ segment.xmit = 0 ∧ segment.len = 0 ∧
    ∀ earlier ∈ o.slist.take index, earlier.xmit ≠ 0

/-- What is wrong with a socket on which the sending half fails. -/
def Cause (s : PseudoTcpSocket) : Fault → Prop
  | .queueAssert => s.state = .listen ∧ (kSndBufSize - s.slen.toUInt64).toNat < 1
  | .packetAssert => 65419 < s.mss.toNat
  | .rttAssert => False
  | .freeAssert => False
  | .unsentAssert => s.state ≠ .closed ∧ s.slen ≠ s.inFlight ∧
      ∀ segment ∈ s.slist, segment.xmit ≠ 0
  | .clockAssert => s.state ≠ .closed ∧ s.rtoBase ≠ 0 ∧ s.slist = []
  | .nullPointer => s.state ≠ .closed ∧ s.slist = [] ∧
      (s.slen ≠ s.inFlight ∨ s.sndUna < s.recover ∨ s.sndUna ≠ s.sndNxt)
  | .zeroDivision => s.ssthresh = 0
  | .endless => s.state ≠ .closed ∧ s.slen ≠ s.inFlight ∧ s.EmptyNext

/-- A call stopped: the steps before are quiet, and some socket on the way shows the cause. The
assertion of `queue` leaves the socket between two steps. -/
structure Stops (allowed : Call → Prop) (w₀ : World) (fault : Fault) (w : World) : Prop where
  quietly : fault ≠ .queueAssert → Quietly allowed w₀ w
  cause : ∃ w₁, Quietly allowed w₀ w₁ ∧ Cause w₁.sock fault

variable {allowed : Call → Prop} {w₀ w w' : World}

variable (count now : UInt32) (sflags : SendFlags) {s s' : PseudoTcpSocket} {index : Nat}
  {segment : SSegment} {front back : List SSegment}

/-- Nothing happened. -/
theorem Quietly.refl (w : World) : Quietly allowed w w := ⟨rfl, .refl⟩

variable (before : Quietly allowed w₀ w)

include before

/-- One more quiet step. -/
theorem Quietly.step (env : w'.env = w.env)
    (quiet : Quiet allowed w.toHistory w'.toHistory) : Quietly allowed w₀ w' :=
  ⟨env.trans before.env, before.steps.tail quiet⟩

/-- A reply was used. -/
theorem Quietly.tick (env : w'.env = w.env)
    (same : w'.toHistory = w.toHistory) : Quietly allowed w₀ w' :=
  ⟨env.trans before.env, by rw [same]; exact before.steps⟩

/-- Control fields changed. -/
theorem Quietly.tune (tuned : Tuned w.sock w'.sock) (same : (w'.env, w'.trace) =
    (w.env, w.trace)) : Quietly allowed w₀ w' := by
  obtain ⟨env, trace⟩ := Prod.mk.inj same
  refine ⟨env.trans before.env, before.steps.tail ?_⟩
  have step : Quiet allowed w.toHistory ⟨w'.sock, w.trace⟩ := .tune tuned
  rwa [← trace] at step

/-- The socket itself shows the cause. -/
theorem Stops.here {fault : Fault} (cause : Cause w.sock fault) : Stops allowed w₀ fault w :=
  ⟨fun _ => before, w, before, cause⟩

omit before

/-- Nothing changed. -/
theorem Tuned.refl (s : PseudoTcpSocket) : Tuned s s := ⟨rfl, id⟩

/-- One after the other. -/
theorem Tuned.trans {t u : PseudoTcpSocket} (first : Tuned s t) (second : Tuned t u) :
    Tuned s u := by
  refine ⟨?_, fun sane => second.sane (first.sane sane)⟩
  rw [second.same, first.same]

/-- Other control fields than segment size, threshold and MTU may change freely. -/
theorem Tuned.of_same (same : (s', s'.mtuAdvise, s'.mss, s'.ssthresh) =
    ({ s with toControl := s'.toControl }, s.mtuAdvise, s.mss, s.ssthresh)) : Tuned s s' := by
  obtain ⟨same, mtu, mss, ssthresh⟩ := by simpa only [Prod.mk.injEq] using same
  refine ⟨same, fun sane => ⟨?_, ?_, ?_⟩⟩
  · rw [mtu]
    exact sane.mtu
  · rw [mss]
    exact sane.mss
  · rw [ssthresh]
    exact sane.ssthresh

/-- The socket is still live. -/
theorem Tuned.live (tuned : Tuned s s') (live : s.state ≠ .closed) : s'.state ≠ .closed := by
  rwa [tuned.same]

/-- The send queue stays. -/
theorem Tuned.outgoing (tuned : Tuned s s') : s'.toOutgoing = s.toOutgoing := by
  rw [tuned.same]

/-! ## Packets -/

/-- One packet was written, and control fields other than the segment size changed. -/
structure Wrote (w : World) (packet : UInt32 → Packet) (result : PseudoTcpWriteResult)
    (w' : World) : Prop where
  env : w'.env = w.env
  tuned : Tuned w.sock w'.sock
  trace : ∃ now, w'.trace = w.trace ++ [.writePacket (packet now) result]
  level : w'.sock.msslevel = w.sock.msslevel

/-- A packet was not built because its payload is too long. -/
structure Oversized (w : World) (len : UInt32) (fault : Fault) (w' : World) : Prop where
  assert : fault = .packetAssert
  env : w'.env = w.env
  same : w'.toHistory = w.toHistory
  large : 65419 < len.toNat

/-- `packet` with data writes one packet of at most `maxPacket`. -/
theorem packet_some (seq : UInt32) (flags : UInt8) (mem : Mem) (len : UInt32) (w : World) :
    wp (packet (userCode 0) seq flags (some mem) len)
      (fun result w' =>
        Wrote w (fun now => w.sock.packetOf seq flags now (mem.read len.toNat)) result w')
      (Oversized w len) w := by
  simp only [packet, writePacket, userCode, ↓wp_rules, map_some, getD_some,
    isSome_some, and_true, ite_not]
  split
  · split
    · rename_i success
      refine ⟨rfl, .of_same rfl, ⟨(w.env w.pos).clock, ?_⟩, rfl⟩
      rw [← success]
    · exact ⟨rfl, .of_same rfl, ⟨_, rfl⟩, rfl⟩
  · rename_i large
    refine ⟨rfl, rfl, rfl, ?_⟩
    by_contra small
    apply large
    have header : headerSize.toNat = 24 := rfl
    have maximum : maxPacket.toNat = 65535 := rfl
    rw [UInt32.le_iff_toNat_le, toNat_add32 (by omega)]
    omega

/-- `packet` without data is quiet. -/
theorem packet_none (seq : UInt32) (before : Quietly allowed w₀ w) :
    wp (packet (userCode 0) seq 0 none 0)
      (fun _ w' => Quietly allowed w₀ w' ∧ Tuned w.sock w'.sock)
      (Stops allowed w₀) w := by
  simp only [packet, writePacket, userCode, ↓wp_rules, map_none, getD_none,
    isSome_none, Bool.false_eq_true, and_false, ite_false]
  rw [if_pos (by decide)]
  have written : Quiet allowed w.toHistory { w.toHistory with
      trace := w.trace ++ [.writePacket (w.sock.packetOf seq 0 (w.env w.pos).clock [])
        (w.env (w.pos + 1)).wres] } := .writeEmpty seq _ _
  refine ⟨⟨before.env, (before.steps.tail written).tail (.tune ?_)⟩, ?_⟩
  · exact .of_same rfl
  · exact .of_same rfl

/-- A packet of `transmit` carries the first bytes of its segment. -/
theorem sendSegment_wrote (found : w.sock.slist[index]? = some segment) (count : UInt32) :
    wp (sendSegment (userCode 0) index count)
      (fun result w' => Wrote w (w.sock.dataPacket segment count) result w')
      (Oversized w count) w := by
  simp only [sendSegment, ↓wp_rules, found]
  exact packet_some _ _ _ _ _

/-- A refused packet is a quiet step. -/
theorem Quietly.refuse {count : UInt32} {result : PseudoTcpWriteResult}
    (before : Quietly allowed w₀ w) (live : w.sock.state ≠ .closed)
    (found : w.sock.slist[index]? = some segment) (within : count.toNat ≤ segment.len.toNat)
    (refused : result ≠ .success) (wrote : Wrote w (w.sock.dataPacket segment count) result w') :
    Quietly allowed w₀ w' := by
  obtain ⟨now, trace⟩ := wrote.trace
  refine ⟨wrote.env.trans before.env, before.steps.trans ?_⟩
  refine .tail (.single (.writeRefused count now result live found within refused)) ?_
  rw [← trace]
  exact .tune wrote.tuned

/-! ## Segment sizes -/

/-- Going down the levels changes control fields only. -/
theorem lowerMss_tuned (levels : List UInt32) (s : PseudoTcpSocket)
    (listed : ∀ maximum ∈ levels, maximum ∈ packetMaximums) :
    Tuned s (s.lowerMss count levels).1 := by
  induction levels generalizing s with
  | nil => exact Tuned.refl s
  | cons maximum levels ih =>
    simp only [PseudoTcpSocket.lowerMss]
    split
    · exact Tuned.refl s
    · rename_i positive
      have range := packetMaximums_range maximum (listed _ mem_cons_self) positive
      have lowered : Tuned s { s with
          msslevel := s.msslevel + 1
          mss := maximum - packetOverhead
          cwnd := 2 * (maximum - packetOverhead) } :=
        ⟨rfl, fun sane => ⟨sane.mtu, range, sane.ssthresh⟩⟩
      split
      · exact lowered
      · exact lowered.trans (ih _ (forall_mem_of_forall_mem_cons listed))

/-- The level found is positive and below the refused size, and lies further on. -/
theorem lowerMss_found (levels : List UInt32) (s : PseudoTcpSocket)
    (listed : ∀ maximum ∈ levels, maximum ∈ packetMaximums)
    (inside : levels ≠ [] → s.msslevel.toNat + levels.length ≤ 10)
    (found : (s.lowerMss count levels).2 = true) :
    0 < (s.lowerMss count levels).1.mss.toNat ∧ (s.lowerMss count levels).1.mss < count ∧
      s.msslevel.toNat < (s.lowerMss count levels).1.msslevel.toNat ∧
      (s.lowerMss count levels).1.msslevel.toNat ≤ 10 := by
  induction levels generalizing s with
  | nil => simp [PseudoTcpSocket.lowerMss] at found
  | cons maximum levels ih =>
    have inside := inside (cons_ne_nil _ _)
    rw [length_cons] at inside
    have next : (s.msslevel + 1).toNat = s.msslevel.toNat + 1 :=
      toNat_add32 (by change _ + 1 < _; omega)
    simp only [PseudoTcpSocket.lowerMss] at found ⊢
    split at found
    · contradiction
    · rename_i positive
      rw [if_neg positive]
      split at found
      · rename_i below
        rw [if_pos below]
        refine ⟨(packetMaximums_range maximum (listed _ mem_cons_self) positive).1, below, ?_⟩
        simp only [next]
        omega
      · rename_i above
        rw [if_neg above]
        have rest := ih _ (forall_mem_of_forall_mem_cons listed) (fun _ => by
          simp only [next]
          omega) found
        simp only [next] at rest
        exact ⟨rest.1, rest.2.1, by omega, rest.2.2.2⟩

/-- The levels behind a position lie inside the list. -/
theorem length_levels (level : Nat) (nonempty : packetMaximums.drop (level + 1) ≠ []) :
    level + (packetMaximums.drop (level + 1)).length ≤ 10 := by
  have inside : level + 1 < packetMaximums.length := by
    by_contra beyond
    exact nonempty (drop_eq_nil_of_le (by omega))
  have length : packetMaximums.length = 11 := rfl
  rw [length_drop]
  omega

/-! ## Transmission -/

/-- The loop of `transmit` refuses packets until one goes out, at most once for each level. -/
theorem transmitLoop_spec (fuel : Nat) (count : UInt32) (live : w.sock.state ≠ .closed)
    (found : w.sock.slist[index]? = some segment) (within : count.toNat ≤ segment.len.toNat)
    (small : count.toNat ≤ w.sock.mss.toNat) (positive : 0 < fuel)
    (enough : 11 ≤ fuel + w.sock.msslevel.toNat) (before : Quietly allowed w₀ w) :
    wp (transmitLoop (userCode 0) index fuel count)
      (fun sent w' => (sent = none → Quietly allowed w₀ w') ∧
        ∀ n, sent = some n → n.toNat ≤ count.toNat ∧ (0 < n.toNat ∨ n = count) ∧
          ∃ w₁, Quietly allowed w₀ w₁ ∧ Tuned w.sock w₁.sock ∧
            Wrote w₁ (w₁.sock.dataPacket segment n) .success w')
      (Stops allowed w₀) w := by
  induction fuel generalizing w count with
  | zero => omega
  | succ fuel ih =>
    simp only [transmitLoop, ↓wp_rules]
    refine wp_mono (sendSegment_wrote found count) ?_ ?_
    · intro result w₁ wrote
      cases result with
      | success =>
        rw [wp_pure]
        refine ⟨fun none => by simp at none, fun n some => ?_⟩
        obtain rfl : count = n := by simpa using some
        exact ⟨le_refl _, .inr rfl, w, before, Tuned.refl _, wrote⟩
      | fail =>
        rw [wp_pure]
        exact ⟨fun _ => before.refuse live found within (by decide) wrote, fun n some => by simp at some⟩
      | tooLarge =>
        have refused := before.refuse live found within (by decide) wrote
        have listed : ∀ maximum ∈ packetMaximums.drop (w₁.sock.msslevel.toNat + 1),
            maximum ∈ packetMaximums := fun maximum member => mem_of_mem_drop member
        have lowered := lowerMss_tuned count _ w₁.sock listed
        simp only [↓wp_rules]
        split
        · rename_i next
          obtain ⟨mss, below, further, last⟩ :=
            lowerMss_found count _ w₁.sock listed (length_levels _) next
          have level := wrote.level
          rw [← level] at enough
          have fewer := UInt32.lt_iff_toNat_lt.mp below
          have tuned := wrote.tuned.trans lowered
          refine wp_imp (ih _ (tuned.live live) (by rw [tuned.same]; exact found) (by omega) (le_refl _)
            (by omega) (by simp only; omega) (refused.tune lowered rfl)) ?_
          rintro sent w₂ ⟨stopped, went⟩
          refine ⟨stopped, fun n some => ?_⟩
          obtain ⟨less, nonempty, w₃, quiet, same, sent⟩ := went n some
          refine ⟨by omega, .inl ?_, w₃, quiet, tuned.trans same, sent⟩
          rcases nonempty with positive | rfl <;> assumption
        · exact ⟨fun _ => refused.tune lowered rfl, fun n some => by simp at some⟩
    · rintro fault w₁ ⟨assert, env, same, large⟩
      subst assert
      refine Stops.here (before.tick env same) ?_
      change 65419 < w₁.toHistory.sock.mss.toNat
      rw [same]
      omega

/-- `transmitted` commutes with a change of control fields. -/
theorem Tuned.transmitted (tuned : Tuned s s') (index : Nat) (count now : UInt32) :
    Tuned (s.transmitted index count now) (s'.transmitted index count now) := by
  rw [tuned.same]
  simp only [PseudoTcpSocket.transmitted]
  cases s.slist[index]? with
  | none | some => exact ⟨rfl, tuned.sane⟩

/-- Packets are refused, or one goes out and the segment is marked. -/
theorem transmit_spec (live : w.sock.state ≠ .closed) (found : w.sock.slist[index]? = some segment)
    (before : Quietly allowed w₀ w) :
    wp (transmit (userCode 0) index now)
      (fun sent w' => (sent = false → Quietly allowed w₀ w') ∧
        (sent = true → ∃ w₁ count stamp, Quietly allowed w₀ w₁ ∧ Tuned w.sock w₁.sock ∧
          count.toNat ≤ segment.len.toNat ∧
          (0 < count.toNat ∨ count = min segment.len w.sock.mss) ∧
          segment.xmit < w.sock.xmitLimit ∧ w'.env = w₁.env ∧
          w'.trace = w₁.trace ++ [.writePacket (w₁.sock.dataPacket segment count stamp) .success] ∧
          Tuned (w₁.sock.transmitted index count now) w'.sock))
      (Stops allowed w₀) w := by
  simp only [transmit, ↓wp_rules, found]
  split
  · exact ⟨fun _ => before, fun absurd => by simp at absurd⟩
  · rename_i limit
    have levels : packetMaximums.length = 11 := rfl
    refine wp_imp (transmitLoop_spec _ _ live found (by simp) (by simp) (by omega) (by omega) before)
      ?_
    rintro sent w₁ ⟨stopped, went⟩
    cases sent with
    | none =>
      rw [wp_pure]
      exact ⟨fun _ => stopped rfl, fun absurd => by simp at absurd⟩
    | some n =>
      rw [wp_bind, wp_modifySock, wp_pure]
      obtain ⟨less, nonempty, w₂, quiet, tuned, wrote⟩ := went n rfl
      obtain ⟨stamp, trace⟩ := wrote.trace
      rw [toNat_min32] at less
      exact ⟨fun absurd => by simp at absurd, fun _ => ⟨w₂, n, stamp, quiet, tuned, by omega,
        nonempty, UInt8.not_le.mp limit, wrote.env, trace, wrote.tuned.transmitted _ _ _⟩⟩

/-- The list after a cut. -/
theorem splitSegment_slist {o : Outgoing} (listed : o.slist = front ++ segment :: back)
    (count : UInt32) (xmit : UInt8) :
    (o.splitSegment front.length count xmit).slist =
      front ++ { segment with len := count } ::
        { seq := segment.seq + count, len := segment.len - count, xmit, bCtrl := segment.bCtrl } ::
        back := by
  have found : (front ++ segment :: back)[front.length]? = some segment := by simp
  simp only [Outgoing.splitSegment, listed, found, Lists.modify_append, Lists.insertIdx_append]

/-- Cutting a segment changes nothing but the list. -/
theorem splitSegment_same (o : Outgoing) (index : Nat) (count : UInt32) (xmit : UInt8) :
    o.splitSegment index count xmit =
      { o with slist := (o.splitSegment index count xmit).slist } := by
  unfold Outgoing.splitSegment
  cases o.slist[index]? with
  | none | some => rfl

/-- A transmission without a cut, on the list taken apart. -/
theorem transmitted_whole (listed : s.slist = front ++ segment :: back) (count now : UInt32)
    (whole : ¬count < segment.len) :
    s.transmitted front.length count now =
      { s with
        slist := front ++ { segment with xmit := segment.xmit + 1 } :: back
        sndNxt := if segment.xmit = 0 then s.sndNxt + segment.len else s.sndNxt
        rtoBase := if s.rtoBase = 0 then now else s.rtoBase } := by
  have found : s.slist[front.length]? = some segment := by simp [listed]
  have marked : s.slist.modify front.length (fun data => { data with xmit := data.xmit + 1 }) =
      front ++ { segment with xmit := segment.xmit + 1 } :: back := by
    rw [listed, Lists.modify_append]
  simp only [PseudoTcpSocket.transmitted, found, if_neg whole, Outgoing.markSent, marked]

/-- A transmission that cuts the segment. -/
theorem transmitted_cut (listed : s.slist = front ++ segment :: back) (count now : UInt32)
    (cut : count < segment.len) :
    s.transmitted front.length count now =
      { s with
        slist := front ++ { segment with len := count, xmit := segment.xmit + 1 } ::
          { segment with seq := segment.seq + count, len := segment.len - count } :: back
        sndNxt := if segment.xmit = 0 then s.sndNxt + count else s.sndNxt
        rtoBase := if s.rtoBase = 0 then now else s.rtoBase } := by
  have found : s.slist[front.length]? = some segment := by simp [listed]
  have split := splitSegment_slist listed count segment.xmit
  have first : (s.toOutgoing.splitSegment front.length count segment.xmit).slist[front.length]? =
      some { segment with len := count } := by
    rw [split]
    simp
  simp only [PseudoTcpSocket.transmitted, found, if_pos cut, Outgoing.markSent, first]
  rw [split, Lists.modify_append, splitSegment_same]

/-- A first transmission counts as in flight. -/
theorem transmitted_inFlight (found : s.slist[index]? = some segment) (unsent : segment.xmit = 0)
    (count now : UInt32) (within : count.toNat ≤ segment.len.toNat)
    (small : s.inFlight.toNat + segment.len.toNat < 2 ^ 32) :
    (s.transmitted index count now).inFlight.toNat = s.inFlight.toNat + count.toNat ∧
      (s.transmitted index count now).sndWnd = s.sndWnd := by
  have listed := Lists.eq_append_cons found
  have length := Lists.length_take found
  have moved : (s.sndNxt + count - s.sndUna).toNat = s.inFlight.toNat + count.toNat := by
    have split : s.sndNxt + count - s.sndUna = s.inFlight + count := by
      simp only [Outgoing.inFlight]
      grind
    rw [split, toNat_add32 (by omega)]
  rw [← length]
  by_cases cut : count < segment.len
  · rw [transmitted_cut listed count now cut]
    simp only [Outgoing.inFlight, if_pos unsent]
    exact ⟨moved, trivial⟩
  · have whole : count = segment.len := by
      rw [UInt32.lt_iff_toNat_lt] at cut
      exact UInt32.toNat_inj.mp (by omega)
    rw [transmitted_whole listed count now cut]
    simp only [Outgoing.inFlight, if_pos unsent, ← whole]
    exact ⟨moved, trivial⟩

/-- New bytes inside the window move `snd_nxt` on, and not beyond it. -/
theorem transmitted_progress (found : s.slist[index]? = some segment) (unsent : segment.xmit = 0)
    (count now : UInt32) (within : count.toNat ≤ segment.len.toNat) (nonempty : 0 < count.toNat)
    (window : s.inFlight.toNat + segment.len.toNat ≤ s.sndWnd.toNat) :
    s.inFlight.toNat < (s.transmitted index count now).inFlight.toNat ∧
      (s.transmitted index count now).inFlight.toNat ≤ s.sndWnd.toNat ∧
      (s.transmitted index count now).sndWnd = s.sndWnd := by
  have bound := s.sndWnd.toNat_lt
  obtain ⟨flight, same⟩ := transmitted_inFlight found unsent count now within (by omega)
  exact ⟨by omega, by omega, same⟩

/-- A first transmission inside the window is quiet, and counts as in flight. -/
theorem transmit_new (live : w.sock.state ≠ .closed) (found : w.sock.slist[index]? = some segment)
    (unsent : segment.xmit = 0) (first : ∀ earlier ∈ w.sock.slist.take index, earlier.xmit ≠ 0)
    (pending : w.sock.slen ≠ w.sock.inFlight)
    (window : w.sock.inFlight.toNat + segment.len.toNat ≤ w.sock.sndWnd.toNat)
    (room : w.sock.mss ≠ 0) (before : Quietly allowed w₀ w) :
    wp (transmit (userCode 0) index now)
      (fun sent w' => Quietly allowed w₀ w' ∧ (sent = true → segment.len ≠ 0 →
        w.sock.inFlight.toNat < w'.sock.inFlight.toNat ∧
        w'.sock.inFlight.toNat ≤ w.sock.sndWnd.toNat ∧ w'.sock.sndWnd = w.sock.sndWnd))
      (Stops allowed w₀) w := by
  refine wp_imp (transmit_spec now live found before) ?_
  rintro sent w' ⟨stopped, went⟩
  cases sent with
  | false => exact ⟨stopped rfl, fun absurd => by simp at absurd⟩
  | true =>
    obtain ⟨w₁, count, stamp, quiet, tuned, within, nonempty, -, env, trace, marked⟩ := went rfl
    have nonempty : 0 < count.toNat ∨ segment.len = 0 := by
      rcases nonempty with positive | rfl
      · exact .inl positive
      · by_cases empty : segment.len = 0
        · exact .inr empty
        · have mss := mt eq_zero32.mpr room
          have len := mt eq_zero32.mpr empty
          left
          rw [toNat_min32]
          omega
    have same := tuned.outgoing
    have found : w₁.sock.slist[index]? = some segment := by rw [same]; exact found
    have window : w₁.sock.inFlight.toNat + segment.len.toNat ≤ w₁.sock.sndWnd.toNat := by
      rwa [same]
    have step : Quiet allowed w₁.toHistory _ :=
      .transmitNew count now stamp (tuned.live live) found unsent (by rw [same]; exact first) within
        nonempty (by rw [same]; exact pending) window
    refine ⟨⟨env.trans quiet.env, (quiet.steps.tail step).trans (.single ?_)⟩, fun _ full => ?_⟩
    · rw [← trace]
      exact .tune marked
    · have progress := transmitted_progress found unsent count now within
        (nonempty.resolve_right full) window
      rwa [marked.outgoing, ← same]

/-- A retransmission is quiet, and leaves the timer armed. -/
theorem transmit_again (live : w.sock.state ≠ .closed) (found : w.sock.slist[0]? = some segment)
    (reason : w.sock.rtoBase ≠ 0 ∨ w.sock.sndUna < w.sock.recover ∨ w.sock.sndUna ≠ w.sock.sndNxt)
    (before : Quietly allowed w₀ w) :
    wp (transmit (userCode 0) 0 now)
      (fun sent w' => Quietly allowed w₀ w' ∧
        (sent = true → w.sock.rtoBase ≠ 0 → w'.sock.rtoBase ≠ 0))
      (Stops allowed w₀) w := by
  refine wp_imp (transmit_spec now live found before) ?_
  rintro sent w' ⟨stopped, went⟩
  cases sent with
  | false => exact ⟨stopped rfl, by simp⟩
  | true =>
    obtain ⟨w₁, count, stamp, quiet, tuned, within, -, limit, env, trace, marked⟩ := went rfl
    have limit : segment.xmit.toNat < 30 := by
      have below := UInt8.lt_iff_toNat_lt.mp limit
      have most : w.sock.xmitLimit.toNat ≤ 30 := by
        unfold PseudoTcpSocket.xmitLimit
        split <;> decide
      omega
    have same : w₁.sock = { w.sock with toControl := w₁.sock.toControl } := tuned.same
    have found : w₁.sock.slist[0]? = some segment := by rw [same]; exact found
    have step : Quiet allowed w₁.toHistory _ :=
      .retransmit count now stamp (tuned.live live) found limit within (by rw [same]; exact reason)
    refine ⟨⟨env.trans quiet.env, (quiet.steps.tail step).trans (.single ?_)⟩, fun _ armed => ?_⟩
    · rw [← trace]
      exact .tune marked
    · rw [marked.same]
      simp only [PseudoTcpSocket.transmitted, found]
      rw [same]
      simpa only [if_neg armed] using armed

/-- Without a first segment a null pointer is followed. -/
theorem transmit_first (live : w.sock.state ≠ .closed)
    (reason : w.sock.rtoBase ≠ 0 ∧ w.sock.slist ≠ [] ∨ w.sock.sndUna < w.sock.recover ∨
      w.sock.sndUna ≠ w.sock.sndNxt) (before : Quietly allowed w₀ w) :
    wp (transmit (userCode 0) 0 now)
      (fun sent w' => Quietly allowed w₀ w' ∧
        (sent = true → w.sock.rtoBase ≠ 0 → w'.sock.rtoBase ≠ 0))
      (Stops allowed w₀) w := by
  cases found : w.sock.slist[0]? with
  | some segment => exact transmit_again now live found (reason.imp_left And.left) before
  | none =>
    have empty : w.sock.slist = [] := by
      simpa [← List.head?_eq_getElem?] using found
    simp only [transmit, ↓wp_rules, found]
    refine Stops.here before ⟨live, empty, .inr ?_⟩
    rcases reason with ⟨-, nonempty⟩ | reason
    · exact absurd empty nonempty
    · exact reason

/-! ## `attempt_send` -/

/-- The room to fill is inside the window and the segment size. -/
theorem nAvailable_nWindow (s : PseudoTcpSocket) (nonempty : s.nAvailable ≠ 0) :
    s.inFlight.toNat + s.nAvailable.toNat ≤ s.nWindow.toNat ∧ s.mss ≠ 0 := by
  have positive := mt eq_zero32.mpr nonempty
  have useable : 0 < s.nUseable.toNat → s.inFlight.toNat + s.nUseable.toNat ≤ s.nWindow.toNat := by
    unfold PseudoTcpSocket.nUseable
    split
    · rename_i below
      have below := UInt32.lt_iff_toNat_lt.mp below
      rw [toNat_sub32 (by omega)]
      omega
    · simp
  have least : s.nAvailable.toNat ≤ s.nUseable.toNat ∧ s.nAvailable.toNat ≤ s.mss.toNat := by
    unfold PseudoTcpSocket.nAvailable at positive ⊢
    simp only at positive ⊢
    split
    · rename_i above
      have above := UInt32.lt_iff_toNat_lt.mp above
      rw [toNat_min32] at above
      split
      · simp
      · omega
    · rename_i below
      have below := UInt32.not_lt.mp below
      have below := UInt32.le_iff_toNat_le.mp below
      rw [toNat_min32] at below ⊢
      omega
  refine ⟨by omega, fun zero => ?_⟩
  rw [eq_zero32] at zero
  omega

/-- It is inside the window of the peer. -/
theorem nAvailable_window (s : PseudoTcpSocket) (nonempty : s.nAvailable ≠ 0) :
    s.inFlight.toNat + s.nAvailable.toNat ≤ s.sndWnd.toNat ∧ s.mss ≠ 0 := by
  obtain ⟨inside, positive⟩ := nAvailable_nWindow s nonempty
  refine ⟨inside.trans ?_, positive⟩
  simp only [PseudoTcpSocket.nWindow, toNat_min32]
  exact Nat.min_le_left _ _

/-- There is something to transmit when room for it is found. -/
theorem slen_ne_inFlight (nonempty : s.nAvailable ≠ 0) : s.slen ≠ s.inFlight := by
  intro same
  apply nonempty
  have least : min (s.slen - s.inFlight) s.mss = 0 := by
    rw [eq_zero32, toNat_min32, same, UInt32.sub_self]
    exact Nat.zero_min _
  simp [PseudoTcpSocket.nAvailable, least]

/-- The first segment that was not transmitted, of at most `count` bytes; only the list changed. -/
structure Chosen (w : World) (count : UInt32) (index : Nat) (w' : World) : Prop where
  same : w'.sock = { w.sock with slist := w'.sock.slist }
  found : ∃ segment, w'.sock.slist[index]? = some segment ∧ segment.xmit = 0 ∧
    (∀ earlier ∈ w'.sock.slist.take index, earlier.xmit ≠ 0) ∧ segment.len.toNat ≤ count.toNat

/-- `nextSegment` finds the first segment that was not transmitted, and cuts it to `count`. It stops
when there is none. -/
theorem nextSegment_cut (w : World) :
    wp (nextSegment count)
      (fun index w' => ∃ segment, w.sock.slist[index]? = some segment ∧ segment.xmit = 0 ∧
        (∀ earlier ∈ w.sock.slist.take index, earlier.xmit ≠ 0) ∧
        (count < segment.len ∧ w' = { w with
          sock := { w.sock with toOutgoing := w.sock.toOutgoing.splitSegment index count 0 } } ∨
          segment.len ≤ count ∧ w' = w))
      (fun fault w' => w' = w ∧ (fault = .nullPointer ∧ w.sock.slist = [] ∨
        fault = .unsentAssert ∧ ∀ segment ∈ w.sock.slist, segment.xmit ≠ 0)) w := by
  simp only [nextSegment, ↓wp_rules]
  cases search : w.sock.slist.findIdx? (fun segment => segment.xmit = 0) with
  | none =>
    have sent : ∀ segment ∈ w.sock.slist, segment.xmit ≠ 0 := by
      simpa using List.findIdx?_eq_none_iff.mp search
    simp only [↓wp_rules]
    split
    · rename_i empty
      exact ⟨trivial, .inl ⟨rfl, isEmpty_iff.mp empty⟩⟩
    · exact ⟨trivial, .inr ⟨rfl, sent⟩⟩
  | some index =>
    obtain ⟨inside, unsent, sent⟩ := List.findIdx?_eq_some_iff_getElem.mp search
    have found : w.sock.slist[index]? = some w.sock.slist[index] := by simp [inside]
    have unsent : w.sock.slist[index].xmit = 0 := by simpa using unsent
    have first : ∀ earlier ∈ w.sock.slist.take index, earlier.xmit ≠ 0 := by
      intro earlier member
      obtain ⟨j, below, rfl⟩ := mem_take_iff_getElem.mp member
      simpa using sent j (by omega)
    simp only [↓wp_rules]
    rw [found, map_some, getD_some]
    split
    · rename_i large
      exact ⟨_, rfl, unsent, first, .inl ⟨large, trivial⟩⟩
    · rename_i small
      exact ⟨_, rfl, unsent, first, .inr ⟨UInt32.not_lt.mp small, trivial⟩⟩

/-- The segment that was found is chosen, cut or not. -/
theorem Chosen.of_cut {count : UInt32} (found : w.sock.slist[index]? = some segment)
    (unsent : segment.xmit = 0) (first : ∀ earlier ∈ w.sock.slist.take index, earlier.xmit ≠ 0) :
    Chosen w count index { w with
      sock := { w.sock with toOutgoing := w.sock.toOutgoing.splitSegment index count 0 } } := by
  have length := Lists.length_take found
  have cut := splitSegment_slist (Lists.eq_append_cons found) count 0
  rw [length] at cut
  refine ⟨?_, { segment with len := count }, ?_, unsent, ?_, le_refl _⟩
  · simp only
    rw [splitSegment_same]
  · simp [cut, length]
  · intro earlier member
    simp only [cut] at member
    rw [take_append_of_le_length (by omega)] at member
    exact first earlier (mem_of_mem_take member)

/-- So the segment is cut to what is available. -/
theorem nextSegment_spec (live : w.sock.state ≠ .closed) (available : w.sock.nAvailable ≠ 0)
    (before : Quietly allowed w₀ w) :
    wp (nextSegment w.sock.nAvailable)
      (fun index w' => Quietly allowed w₀ w' ∧ Chosen w w.sock.nAvailable index w')
      (Stops allowed w₀) w := by
  have pending := slen_ne_inFlight available
  have positive := mt eq_zero32.mpr available
  refine wp_mono (nextSegment_cut _ w) ?_ ?_
  · rintro index w' ⟨segment, found, unsent, first, ⟨large, rfl⟩ | ⟨small, rfl⟩⟩
    · have large := UInt32.lt_iff_toNat_lt.mp large
      exact ⟨before.step rfl (.split _ found unsent first (by omega) large),
        .of_cut found unsent first⟩
    · exact ⟨before, rfl, segment, found, unsent, first, UInt32.le_iff_toNat_le.mp small⟩
  · rintro fault w' ⟨rfl, ⟨rfl, empty⟩ | ⟨rfl, sent⟩⟩
    · exact Stops.here before ⟨live, empty, .inl pending⟩
    · exact Stops.here before ⟨live, pending, sent⟩

/-- The acknowledgement is quiet. -/
theorem acknowledge_quiet (before : Quietly allowed w₀ w) :
    wp (acknowledge (userCode 0) sflags) (fun _ => Quietly allowed w₀)
      (Stops allowed w₀) w := by
  simp only [acknowledge, ↓wp_rules]
  split
  · exact before
  · split
    · exact wp_imp (packet_none _ before) (fun _ _ h => h.1)
    · exact before.tune (.of_same rfl) rfl

/-- The loop of `attempt_send` is quiet. It runs out of rounds only on an empty segment. -/
theorem attemptSendLoop_quiet (fuel : Nat) (sflags : SendFlags) (live : w.sock.state ≠ .closed)
    (enough : 0 < fuel ∧ w.sock.sndWnd.toNat < fuel + w.sock.inFlight.toNat ∨
      ∃ w₁, Quietly allowed w₀ w₁ ∧ Cause w₁.sock .endless) (before : Quietly allowed w₀ w) :
    wp (attemptSendLoop (userCode 0) now fuel sflags) (fun _ => Quietly allowed w₀)
      (Stops allowed w₀) w := by
  induction fuel generalizing w sflags with
  | zero =>
    rcases enough with ⟨absurd, -⟩ | cause
    · omega
    · rw [attemptSendLoop, wp_throw]
      exact ⟨fun _ => before, cause⟩
  | succ fuel ih =>
    simp only [attemptSendLoop, ↓wp_rules]
    split
    · exact acknowledge_quiet sflags before
    · rename_i available
      split
      · exact before
      · obtain ⟨window, room⟩ := nAvailable_window w.sock available
        refine wp_imp (nextSegment_spec live available before) ?_
        rintro index w₁ ⟨quiet, same, segment, found, unsent, first, small⟩
        have inFlight : w₁.sock.inFlight = w.sock.inFlight := by
          rw [same]
          rfl
        have wnd : w₁.sock.sndWnd = w.sock.sndWnd := by rw [same]
        have pending : w₁.sock.slen ≠ w₁.sock.inFlight := by
          rw [same]
          exact slen_ne_inFlight available
        have live : w₁.sock.state ≠ .closed := by
          rwa [same]
        refine wp_mono (wp_and (transmit_new now live found unsent first pending ?_ ?_ quiet)
          (transmit_calm (userCode_calm 0) index now live)) ?_ (fun _ _ h => h.1)
        · rw [inFlight, wnd]
          omega
        · rwa [same]
        · rintro sent w₂ ⟨⟨quiet₂, progress⟩, calm⟩
          split
          · rename_i went
            refine ih _ (calm.state ▸ live) ?_ quiet₂
            by_cases empty : segment.len = 0
            · exact .inr ⟨w₁, quiet, live, pending, index, segment, found, unsent, empty, first⟩
            · refine enough.imp_left fun rounds => ?_
              have rounds := rounds.2
              obtain ⟨more, inside, same⟩ := progress went empty
              rw [same, wnd]
              rw [inFlight] at more
              rw [wnd] at inside
              omega
          · exact quiet₂

/-- So is `attempt_send`. -/
theorem attemptSend_quiet (live : w.sock.state ≠ .closed) (before : Quietly allowed w₀ w) :
    wp (attemptSend (userCode 0) sflags) (fun _ => Quietly allowed w₀)
      (Stops allowed w₀) w := by
  simp only [attemptSend, ↓wp_rules]
  refine attemptSendLoop_quiet _ _ _ live (.inl ⟨by omega, by simp only; omega⟩) ?_
  exact before.tune (.of_same rfl) rfl

/-! ## Calls of the application -/

/-- Bytes were queued, as many as there is room for. -/
structure Queued (data : Mem) (len : UInt32) (bCtrl : Bool) (w : World) (count : UInt32)
    (w' : World) : Prop where
  room : count.toNat ≤ (kSndBufSize - w.sock.slen.toUInt64).toNat
  whole : bCtrl = true → count = len
  env : w'.env = w.env
  sock : w'.sock = { w.sock with toOutgoing := w.sock.toOutgoing.enqueue data count bCtrl }
  trace : w'.trace = w.trace ++ [.queued bCtrl (data.read count.toNat)]

/-- The control byte was not queued because the buffer is full. -/
structure QueueFull (len : UInt32) (bCtrl : Bool) (w : World) (fault : Fault) : Prop where
  assert : fault = .queueAssert
  ctrl : bCtrl = true
  full : (kSndBufSize - w.sock.slen.toUInt64).toNat < len.toNat

/-- Bytes are queued, or the queue is full. -/
theorem queue_spec (data : Mem) (len : UInt32) (bCtrl : Bool) (w : World) :
    wp (queue data len bCtrl) (Queued data len bCtrl w) (fun fault _ => QueueFull len bCtrl w fault)
      w := by
  simp only [queue, ↓wp_rules]
  generalize room : kSndBufSize - w.sock.slen.toUInt64 = free
  have wide : len.toUInt64.toNat = len.toNat := by simp
  split
  · rename_i large
    have large := UInt64.lt_iff_toNat_lt.mp large
    split
    · rename_i data
      refine ⟨?_, fun ctrl => absurd (ctrl.symm.trans data) (by decide), rfl, rfl, rfl⟩
      rw [room, UInt64.toNat_toUInt32]
      exact Nat.mod_le _ _
    · rename_i ctrl
      exact ⟨rfl, by simpa using ctrl, by rw [room]; omega⟩
  · rename_i small
    have small := UInt64.le_iff_toNat_le.mp (UInt64.not_lt.mp small)
    exact ⟨by rw [room]; omega, fun _ => rfl, rfl, rfl, rfl⟩

/-- `recv` is quiet. -/
theorem recv_quiet (len : UInt64) (made : allowed (.recv len)) (before : Quietly allowed w₀ w) :
    wp (recv (userCode 0) len) (fun _ => Quietly allowed w₀) (Stops allowed w₀) w := by
  simp only [recv, ↓wp_rules]
  split
  · exact before.tune (.of_same rfl) rfl
  · rename_i established
    have live : w.sock.state ≠ .closed := by
      rw [not_not.mp established]
      decide
    split
    · exact before.tune (.of_same rfl) rfl
    · have ready : min len.toUInt32 w.sock.rlen ≤ w.sock.rlen := by
        rw [UInt32.le_iff_toNat_le, toNat_min32]
        exact Nat.min_le_right _ _
      have consumed : Quiet allowed w.toHistory _ :=
        .consume len _ made (not_not.mp established) ready
      have before := before.steps.tail consumed
      split
      · have widened := before.tail (.widen _ rfl)
        split
        · exact wp_imp (attemptSend_quiet .immediateAck live ⟨‹Quietly allowed w₀ w›.env, widened⟩)
            (fun _ _ h => h)
        · exact ⟨‹Quietly allowed w₀ w›.env, widened⟩
      · exact ⟨‹Quietly allowed w₀ w›.env, before⟩

/-- So is `send`. -/
theorem send_quiet (buffer : Mem) (len : UInt32) (made : allowed (.send buffer len))
    (before : Quietly allowed w₀ w) :
    wp (send (userCode 0) buffer len) (fun _ => Quietly allowed w₀) (Stops allowed w₀) w := by
  simp only [send, ↓wp_rules]
  split
  · exact before.tune (.of_same rfl) rfl
  · rename_i established
    split
    · exact before.tune (.of_same rfl) rfl
    · refine wp_mono (queue_spec buffer len false w) ?_ ?_
      · intro count w₁ queued
        have step : Quiet allowed w.toHistory ⟨_, _⟩ :=
          .enqueue buffer len count made (not_not.mp established) queued.room
        rw [← queued.sock, ← queued.trace] at step
        have live : w₁.sock.state ≠ .closed := by
          rw [queued.sock]
          change w.sock.state ≠ .closed
          rw [not_not.mp established]
          decide
        refine wp_imp (attemptSend_quiet .none live (before.step queued.env step)) ?_
        intro _ w₂ quiet
        split
        · exact quiet.tune (.of_same rfl) rfl
        · exact quiet
      · intro fault w₁ full
        exact absurd full.ctrl (by decide)

/-- A new MTU keeps a socket sane. -/
theorem adjustMTU_sane (sane : s.Sane) : s.adjustMTU.Sane := by
  have least := sane.mtu
  have overhead : packetOverhead.toNat = 116 := rfl
  have mss : (s.mtuAdvise - packetOverhead).toNat = s.mtuAdvise.toNat - 116 :=
    toNat_sub32 (by omega)
  refine ⟨sane.mtu, ?_, ?_⟩
  · simp only [PseudoTcpSocket.adjustMTU, mss]
    omega
  · simp only [PseudoTcpSocket.adjustMTU, toNat_max32]
    have := sane.ssthresh
    omega

/-- Adjusting to the MTU changes control fields only. -/
theorem adjustMTU_tuned (s : PseudoTcpSocket) : Tuned s s.adjustMTU := ⟨rfl, adjustMTU_sane⟩

/-- `notify_mtu` is quiet. -/
theorem notifyMtu_quiet (mtu : UInt16) (made : allowed (.notifyMtu mtu))
    (before : Quietly allowed w₀ w) :
    wp (notifyMtu mtu) (fun _ => Quietly allowed w₀) (Stops allowed w₀) w := by
  simp only [notifyMtu, ↓wp_rules]
  have sane : 116 < mtu.toNat → w.sock.Sane → { w.sock with mtuAdvise := mtu.toUInt32 }.Sane := by
    intro large sane
    have bound := mtu.toNat_lt
    refine ⟨?_, sane.mss, sane.ssthresh⟩
    simp only [UInt16.toNat_toUInt32]
    omega
  split
  · exact before.step rfl (.advise mtu made rfl fun large old => adjustMTU_sane (sane large old))
  · exact before.step rfl (.advise mtu made rfl sane)

/-- Calls are quiet. -/
theorem runCall_quiet (call : Call) (made : allowed call) (before : Quietly allowed w₀ w) :
    wp (runCall (userCode 0) call) (fun _ => Quietly allowed w₀) (Stops allowed w₀) w := by
  cases call with
  | recv len =>
    simp only [runCall, ↓wp_rules]
    exact recv_quiet len made before
  | send buffer len =>
    simp only [runCall, ↓wp_rules]
    exact send_quiet buffer len made before
  | close force =>
    rw [runCall, close, wp_modifySock]
    exact before.step rfl (.shut force made)
  | notifyMtu mtu => exact notifyMtu_quiet mtu made before

/-- So are calls in a row. -/
theorem runCalls_quiet (calls : List Call) (made : ∀ call ∈ calls, allowed call)
    (before : Quietly allowed w₀ w) :
    wp (runCalls (userCode 0) calls) (fun _ => Quietly allowed w₀) (Stops allowed w₀) w := by
  induction calls generalizing w with
  | nil =>
    rwa [runCalls, wp_pure]
  | cons call calls ih =>
    simp only [runCalls, ↓wp_rules]
    refine wp_imp (runCall_quiet call (made call mem_cons_self) before) ?_
    intro _ w₁ quiet
    exact ih (forall_mem_of_forall_mem_cons made) quiet

/-- A callback is quiet when its announcement is. -/
theorem callback_quiet (event : Event) (allows : Allows allowed w₀.env)
    (before : Quietly allowed w₀ { w with trace := w.trace ++ [event] }) :
    wp (callback (userCode 0) event) (fun _ => Quietly allowed w₀) (Stops allowed w₀) w := by
  simp only [callback, ↓wp_rules]
  refine runCalls_quiet _ ?_ (before.tick rfl rfl)
  have env : w.env = w₀.env := before.env
  rw [env]
  exact allows w.pos

/-- `closedown` is quiet. -/
theorem closedown_quiet (err : Errno) (allows : Allows allowed w₀.env)
    (before : Quietly allowed w₀ w) :
    wp (closedown (userCode 0) err) (fun _ => Quietly allowed w₀) (Stops allowed w₀) w := by
  simp only [closedown, ↓wp_rules]
  exact callback_quiet _ allows (before.step rfl (.closedown err))

end Xice.PseudoTcp
