import Xice.PseudoTcp.Asserts

/-!
# The numbers that decide when something is sent

Segment size, thresholds, timeout and windows of a socket are its gauge, whose limits are carried
through every function. The same invariant carries what keeps a connection going: bytes in flight
are watched by the retransmit timer and the congestion window is not zero. That half asks for a
clock that is not zero and a `WritePacket` that succeeds.
-/

namespace Xice.PseudoTcp

open Xice.Lib Exec Relation List Word

/-! ## The gauge -/

/-- What decides when a socket sends. -/
structure Gauge where
  state : PseudoTcpState
  /-- First unacknowledged sequence number. -/
  sndUna : UInt32
  sndNxt : UInt32
  sndWnd : UInt32
  rtoBase : UInt32
  dupAcks : UInt8
  mss : UInt32
  msslevel : UInt32
  mtuAdvise : UInt32
  rxRto : UInt32
  ssthresh : UInt32
  cwnd : UInt32

/-- The gauge of a socket. -/
def PseudoTcpSocket.gauge (s : PseudoTcpSocket) : Gauge where
  state := s.state
  sndUna := s.sndUna
  sndNxt := s.sndNxt
  sndWnd := s.sndWnd
  rtoBase := s.rtoBase
  dupAcks := s.dupAcks
  mss := s.mss
  msslevel := s.msslevel
  mtuAdvise := s.mtuAdvise
  rxRto := s.rxRto
  ssthresh := s.ssthresh
  cwnd := s.cwnd

/-- The limits of a gauge. -/
structure Gauge.Limited (g : Gauge) : Prop where
  mtu : 116 < g.mtuAdvise.toNat ∧ g.mtuAdvise.toNat ≤ 65535
  mss : 1 ≤ g.mss.toNat ∧ g.mss.toNat ≤ 65419
  level : g.msslevel.toNat ≤ 9
  lowest : g.msslevel.toNat < 9 → 180 ≤ g.mss.toNat
  ssthresh : 2 * g.mss.toNat ≤ g.ssthresh.toNat
  rto : 250 ≤ g.rxRto.toNat ∧ g.rxRto.toNat ≤ 60000
  peer : g.sndWnd.toNat ≤ 65535

/-- What keeps a connection going. -/
structure Gauge.Lively (g : Gauge) : Prop where
  armed : g.state ≠ .closed → g.sndUna ≠ g.sndNxt → g.rtoBase ≠ 0
  window : g.cwnd ≠ 0
  limited : g.sndUna = g.sndNxt → g.dupAcks ≠ 1 ∧ g.dupAcks ≠ 2

/-- Every packet written fits a datagram. -/
def Small (trace : List Event) : Prop :=
  ∀ packet result, .writePacket packet result ∈ trace → packet.bytes.length ≤ 65535

/-- A free environment may stop the clock at zero and refuse packets. -/
structure Fit (free : Prop) (w : World) : Prop where
  calls : Allows Call.MtuAbove w.env
  replies : free ∨ ∀ n, (w.env n).clock ≠ 0 ∧ (w.env n).wres = .success
  limits : w.sock.gauge.Limited
  packets : Small w.trace
  lively : free ∨ w.sock.gauge.Lively

/-- After a fault, which is no division by zero, the limits hold. -/
structure Faulty (fault : Fault) (w : World) : Prop where
  fault : fault ≠ .zeroDivision
  fit : Fit True w

variable {free : Prop} {w w' : World}

variable (count : UInt32) (index : Nat) (sflags : SendFlags) {s : PseudoTcpSocket}

/-- A free environment asks for less. -/
theorem Fit.loose (fit : Fit free w) : Fit True w :=
  ⟨fit.calls, .inl trivial, fit.limits, fit.packets, .inl trivial⟩

/-- The clock of an environment that is not free. -/
theorem Fit.clock (fit : Fit free w) (n : Nat) : free ∨ (w.env n).clock ≠ 0 :=
  fit.replies.imp_right fun replies => (replies n).1

/-- A new gauge inside the limits. -/
theorem Fit.move (fit : Fit free w) (same : (w'.env, w'.trace) = (w.env, w.trace))
    (limits : w'.sock.gauge.Limited) (lively : free ∨ w'.sock.gauge.Lively) : Fit free w' := by
  obtain ⟨env, trace⟩ := Prod.mk.inj same
  exact ⟨by rw [env]; exact fit.calls, by rw [env]; exact fit.replies, limits,
    by rw [trace]; exact fit.packets, lively⟩

/-- The gauge stays. -/
theorem Fit.same (fit : Fit free w) (same : (w'.sock.gauge, w'.env, w'.trace) =
    (w.sock.gauge, w.env, w.trace)) : Fit free w' := by
  obtain ⟨gauge, rest⟩ := Prod.mk.inj same
  exact fit.move rest (by rw [gauge]; exact fit.limits) (by rw [gauge]; exact fit.lively)

/-- Something else than a packet is recorded. -/
theorem Small.event {trace : List Event} {event : Event} (small : Small trace)
    (other : ∀ packet result, event ≠ .writePacket packet result) : Small (trace ++ [event]) := by
  intro packet result member
  rcases mem_append.mp member with member | member
  · exact small packet result member
  · exact absurd (mem_singleton.mp member).symm (other packet result)

/-- The same, and the gauge stays. -/
theorem Fit.event {event : Event} (fit : Fit free w) (same : (w'.trace, w'.env, w'.sock.gauge) =
    (w.trace ++ [event], w.env, w.sock.gauge))
    (other : ∀ packet result, event ≠ .writePacket packet result) : Fit free w' := by
  obtain ⟨trace, env, gauge⟩ := by simpa only [Prod.mk.injEq] using same
  exact ⟨by rw [env]; exact fit.calls, by rw [env]; exact fit.replies, by rw [gauge]; exact fit.limits,
    by rw [trace]; exact fit.packets.event other, by rw [gauge]; exact fit.lively⟩

/-! ## Packets -/

/-- Packets were written, and gauge and send queue stayed. -/
structure Steady (w w' : World) : Prop where
  env : w'.env = w.env
  gauge : w'.sock.gauge = w.sock.gauge
  same : w'.sock = { w.sock with toControl := w'.sock.toControl }
  small : Small w.trace → Small w'.trace

/-- Packets leave the invariant. -/
theorem Fit.steady (fit : Fit free w) (steady : Steady w w') : Fit free w' :=
  ⟨by rw [steady.env]; exact fit.calls, by rw [steady.env]; exact fit.replies,
    by rw [steady.gauge]; exact fit.limits, steady.small fit.packets,
    by rw [steady.gauge]; exact fit.lively⟩

/-- The length of the buffer that `packet` fills. -/
theorem Packet.bytes_length (p : Packet) : p.bytes.length = 24 + p.data.length := by
  simp only [Packet.bytes, length_append, htonl, htons, length_cons, length_nil]

/-- A short packet is recorded. -/
theorem Small.packet {trace : List Event} {packet : Packet} {result : PseudoTcpWriteResult}
    (small : Small trace) (short : packet.data.length ≤ 65419) :
    Small (trace ++ [.writePacket packet result]) := by
  intro other answer member
  rcases mem_append.mp member with member | member
  · exact small other answer member
  · obtain ⟨rfl, -⟩ : other = packet ∧ answer = result := by simpa using member
    rw [Packet.bytes_length]
    omega

/-- `packet` succeeds when `WritePacket` does. -/
theorem packet_steady (seq : UInt32) (flags : UInt8) (data : Option Mem) (len : UInt32)
    (short : ∀ mem, data = some mem → len.toNat ≤ 65419) (w : World) :
    wp (packet (userCode 0) seq flags data len)
      (fun result w' => Steady w w' ∧ ((∀ n, (w.env n).wres = .success) → result = .success))
      (fun fault w' => fault ≠ .zeroDivision ∧ Steady w w') w := by
  have payload : ((data.map fun mem => mem.read len.toNat).getD []).length ≤ 65419 := by
    cases data with
    | none => exact Nat.zero_le _
    | some mem =>
      rw [Option.map_some, Option.getD_some, Mem.length_read]
      exact short mem rfl
  simp only [packet, writePacket, userCode, ↓wp_rules]
  split
  · split
    · rename_i refused
      exact ⟨⟨rfl, rfl, rfl, fun small => small.packet payload⟩,
        fun success => absurd (success _) refused.1⟩
    · exact ⟨⟨rfl, rfl, rfl, fun small => small.packet payload⟩, fun _ => trivial⟩
  · exact ⟨by decide, ⟨rfl, rfl, rfl, id⟩⟩

/-! ## Segment sizes -/

/-- The segment size of every level, and where the list ends. -/
theorem packetMaximums_levels :
    ∀ level, level ≤ 10 → packetMaximums[level]? = some 0 ∧ level = 10 ∨
      ∃ maximum, packetMaximums[level]? = some maximum ∧ maximum ≠ 0 ∧ level ≤ 9 ∧
        180 ≤ (maximum - packetOverhead).toNat ∧ (maximum - packetOverhead).toNat ≤ 65419 ∧
        (level = 9 → (maximum - packetOverhead).toNat = 180) := by
  intro level inside
  interval_cases level <;> simp [packetMaximums, packetOverhead, headerSize]

/-- The levels tried after a packet of `count` bytes was too large. -/
structure Lowered (s : PseudoTcpSocket) (count : UInt32) (s' : PseudoTcpSocket) (found : Bool) :
    Prop where
  /-- Only segment size and congestion window changed. -/
  same : s' = { s with msslevel := s'.msslevel, mss := s'.mss, cwnd := 2 * s'.mss }
  /-- The level moved on inside the list. -/
  level : s.msslevel.toNat < s'.msslevel.toNat ∧ s'.msslevel.toNat ≤ 9
  mss : 180 ≤ s'.mss.toNat ∧ s'.mss.toNat ≤ 65419
  /-- It is below the size that was refused, or the last one. -/
  stop : found = true ∧ s'.mss < count ∨ found = false ∧ s'.mss.toNat = 180

/-- The inner loop of `transmit` goes down the levels. -/
theorem lowerMss_cases (levels : List UInt32) (s : PseudoTcpSocket)
    (listed : levels = packetMaximums.drop (s.msslevel.toNat + 1)) (inside : s.msslevel.toNat ≤ 9) :
    s.lowerMss count levels = (s, false) ∧ s.msslevel.toNat = 9 ∨
      Lowered s count (s.lowerMss count levels).1 (s.lowerMss count levels).2 := by
  induction levels generalizing s with
  | nil =>
    have length := congrArg List.length listed
    rw [length_drop] at length
    have entries : packetMaximums.length = 11 := rfl
    simp only [length_nil] at length
    omega
  | cons maximum levels ih =>
    have here : packetMaximums[s.msslevel.toNat + 1]? = some maximum := by
      rw [← List.head?_drop, ← listed, List.head?_cons]
    have rest : levels = packetMaximums.drop (s.msslevel.toNat + 1 + 1) := by
      rw [← tail_drop, ← listed, tail_cons]
    have next : (s.msslevel + 1).toNat = s.msslevel.toNat + 1 :=
      toNat_add32 (by change _ + 1 < _; omega)
    simp only [PseudoTcpSocket.lowerMss]
    rcases packetMaximums_levels (s.msslevel.toNat + 1) (by omega) with
      ⟨found, last⟩ | ⟨other, found, positive, below, least, most, smallest⟩
    · obtain rfl : maximum = 0 := by
        rw [here] at found
        simpa using found
      exact .inl ⟨by simp, by omega⟩
    · obtain rfl : maximum = other := by
        rw [here] at found
        simpa using found
      right
      rw [if_neg positive]
      split
      · rename_i small
        exact ⟨rfl, by simp only [next]; omega, ⟨least, most⟩, .inl ⟨rfl, small⟩⟩
      · rcases ih { s with
            msslevel := s.msslevel + 1
            mss := maximum - packetOverhead
            cwnd := 2 * (maximum - packetOverhead) } (by simp only [next]; exact rest)
            (by simp only [next]; exact below) with ⟨stays, last⟩ | ⟨same, level, range, stop⟩
        · rw [stays]
          simp only [next] at last
          refine ⟨rfl, by simp only [next]; omega, ⟨least, most⟩, .inr ⟨rfl, smallest last⟩⟩
        · simp only [next] at level
          exact ⟨same, ⟨by omega, level.2⟩, range, stop⟩

/-- A lower level stays inside the limits. -/
theorem Lowered.limits {s' : PseudoTcpSocket} {count : UInt32} {found : Bool}
    (lowered : Lowered s count s' found) (small : count.toNat ≤ s.mss.toNat)
    (limits : s.gauge.Limited) : s'.gauge.Limited ∧ s'.mss.toNat ≤ s.mss.toNat := by
  have level := lowered.level
  have mss := lowered.mss
  have less : s'.mss.toNat ≤ s.mss.toNat := by
    rcases lowered.stop with ⟨-, below⟩ | ⟨-, last⟩
    · have := UInt32.lt_iff_toNat_lt.mp below
      omega
    · have := limits.lowest (by change s.msslevel.toNat < 9; omega)
      change 180 ≤ s.mss.toNat at this
      omega
  have ssthresh : 2 * s.mss.toNat ≤ s.ssthresh.toNat := limits.ssthresh
  rw [lowered.same]
  refine ⟨⟨limits.mtu, ?_, ?_, ?_, ?_, limits.rto, limits.peer⟩, less⟩
  · change 1 ≤ s'.mss.toNat ∧ s'.mss.toNat ≤ 65419
    omega
  · exact level.2
  · intro _
    exact mss.1
  · change 2 * s'.mss.toNat ≤ s.ssthresh.toNat
    omega

/-! ## Transmission -/

/-- Packets were refused and the segment size went down. -/
structure Resized (w w' : World) : Prop where
  env : w'.env = w.env
  same : w'.sock = { w.sock with toControl := w'.sock.toControl }

/-- A segment is sent as one packet. -/
theorem sendSegment_steady (count : UInt32) (short : count.toNat ≤ 65419) (w : World) :
    wp (sendSegment (userCode 0) index count)
      (fun result w' => Steady w w' ∧ ((∀ n, (w.env n).wres = .success) → result = .success))
      (fun fault w' => fault ≠ .zeroDivision ∧ Steady w w') w := by
  simp only [sendSegment, ↓wp_rules]
  cases w.sock.slist[index]? with
  | none =>
    simp only [↓wp_rules]
    exact ⟨by decide, rfl, rfl, rfl, id⟩
  | some segment => exact packet_steady _ _ _ _ (fun _ _ => short) w

/-- A lower level keeps the invariant. -/
theorem Fit.lowered {s' : PseudoTcpSocket} {count : UInt32} {found : Bool} (fit : Fit free w)
    (lowered : Lowered w.sock count s' found) (small : count.toNat ≤ w.sock.mss.toNat) :
    Fit free { w with sock := s' } := by
  refine fit.move rfl (lowered.limits small fit.limits).1 (fit.lively.imp_right fun lively => ?_)
  have mss := lowered.mss
  rw [lowered.same]
  refine ⟨lively.armed, fun zero => ?_, lively.limited⟩
  have twice : (2 * s'.mss).toNat = 2 * s'.mss.toNat := by
    rw [UInt32.toNat_mul]
    exact Nat.mod_eq_of_lt (by change 2 * _ < _; omega)
  have zero : (2 * s'.mss).toNat = 0 := eq_zero32.mp zero
  omega

/-- The loop of `transmit` keeps the invariant; it sends when `WritePacket` succeeds. -/
theorem transmitLoop_fit (fuel : Nat) (count : UInt32) (fit : Fit free w)
    (small : count.toNat ≤ w.sock.mss.toNat) :
    wp (transmitLoop (userCode 0) index fuel count)
      (fun sent w' => Fit free w' ∧ Resized w w' ∧
        (0 < fuel → (∀ n, (w.env n).wres = .success) →
          sent = some count ∧ w'.sock.gauge = w.sock.gauge))
      Faulty w := by
  induction fuel generalizing w count with
  | zero =>
    rw [transmitLoop, wp_throw]
    exact ⟨by decide, fit.loose⟩
  | succ fuel ih =>
    have most : w.sock.mss.toNat ≤ 65419 := fit.limits.mss.2
    simp only [transmitLoop, ↓wp_rules]
    refine wp_mono (sendSegment_steady index count (by omega) w) ?_
      (fun _ _ h => ⟨h.1, (fit.steady h.2).loose⟩)
    rintro result w₁ ⟨steady, success⟩
    have after := fit.steady steady
    have resized : Resized w w₁ := ⟨steady.env, steady.same⟩
    cases result with
    | success =>
      rw [wp_pure]
      exact ⟨after, resized, fun _ _ => ⟨rfl, steady.gauge⟩⟩
    | fail =>
      rw [wp_pure]
      exact ⟨after, resized, fun _ always => by simpa using success always⟩
    | tooLarge =>
      have small : count.toNat ≤ w₁.sock.mss.toNat := by
        have mss : w₁.sock.mss = w.sock.mss := congrArg Gauge.mss steady.gauge
        rwa [mss]
      have refused : ∀ (sent : Option UInt32) (s' : PseudoTcpSocket), 0 < fuel + 1 →
          (∀ n, (w.env n).wres = .success) → sent = some count ∧ s'.gauge = w.sock.gauge :=
        fun _ _ _ always => by simpa using success always
      simp only [↓wp_rules]
      rcases lowerMss_cases count _ w₁.sock rfl after.limits.level with ⟨stays, -⟩ | lowered
      · rw [stays]
        exact ⟨after, resized, refused none _⟩
      · have smaller := after.lowered lowered small
        split
        · refine wp_imp (ih _ smaller (Nat.le_refl _)) ?_
          rintro sent w₂ ⟨fit₂, again, _⟩
          refine ⟨fit₂, ⟨again.env.trans steady.env, ?_⟩, refused sent _⟩
          rw [again.same]
          simp only
          rw [lowered.same, steady.same]
        · refine ⟨smaller, ⟨steady.env, ?_⟩, refused none _⟩
          simp only
          rw [lowered.same, steady.same]

/-- After a transmission the timer is on, and a first one moves `snd_nxt`. -/
theorem gauge_transmitted {index : Nat} {segment : SSegment}
    (found : s.slist[index]? = some segment) (count now : UInt32) :
    ∃ n : UInt32, n.toNat ≤ segment.len.toNat ∧ (s.transmitted index count now).gauge =
      { s.gauge with
        sndNxt := if segment.xmit = 0 then s.sndNxt + n else s.sndNxt
        rtoBase := if s.rtoBase = 0 then now else s.rtoBase } := by
  have listed := Lists.eq_append_cons found
  rw [← Lists.length_take found]
  by_cases cut : count < segment.len
  · refine ⟨count, Nat.le_of_lt (UInt32.lt_iff_toNat_lt.mp cut), ?_⟩
    rw [transmitted_cut listed count now cut]
    rfl
  · refine ⟨segment.len, Nat.le_refl _, ?_⟩
    rw [transmitted_whole listed count now cut]
    rfl

/-- `snd_nxt` does not come round to `snd_una` while limited transmit is on. -/
def Rounds (s : PseudoTcpSocket) (index : Nat) : Prop :=
  (s.dupAcks ≠ 1 ∧ s.dupAcks ≠ 2) ∨ ∀ segment, s.slist[index]? = some segment →
    segment.xmit ≠ 0 ∨ s.inFlight.toNat + segment.len.toNat < 2 ^ 32

/-- A transmission keeps the connection going. -/
theorem Gauge.Lively.transmitted {index : Nat} {segment : SSegment} (lively : s.gauge.Lively)
    (found : s.slist[index]? = some segment) (count : UInt32) {now : UInt32} (ticks : now ≠ 0)
    (rounds : Rounds s index) : (s.transmitted index count now).gauge.Lively := by
  obtain ⟨n, within, gauge⟩ := gauge_transmitted found count now
  rw [gauge]
  refine ⟨fun _ _ => ?_, lively.window, fun met => ?_⟩
  · change (if s.rtoBase = 0 then now else s.rtoBase) ≠ 0
    split
    · exact ticks
    · assumption
  · rcases rounds with quiet | apart
    · exact quiet
    · have met : s.sndUna = if segment.xmit = 0 then s.sndNxt + n else s.sndNxt := met
      refine lively.limited ?_
      change s.sndUna = s.sndNxt
      rcases apart segment found with again | below
      · rwa [if_neg again] at met
      · split at met
        · -- The bytes in flight do not come round, so there are none.
          have moved : (s.sndNxt + n - s.sndUna).toNat = (s.sndNxt - s.sndUna).toNat + n.toNat :=
            toNat_add_sub32 _ _ _ (by simp only [Outgoing.inFlight] at below; omega)
          rw [← met, UInt32.sub_self] at moved
          change 0 = _ at moved
          exact (inFlight_eq_zero s.toOutgoing).mp (by simp only [Outgoing.inFlight]; omega)
        · exact met

/-- `transmit` keeps the invariant. It succeeds when `WritePacket` does, unless it was tried too
often. -/
theorem transmit_fit (now : UInt32) (fit : Fit free w) (ticks : free ∨ now ≠ 0)
    (rounds : free ∨ Rounds w.sock index) :
    wp (transmit (userCode 0) index now)
      (fun sent w' => Fit free w' ∧ (free ∨
        w'.sock.cwnd = w.sock.cwnd ∧ w'.sock.mss = w.sock.mss ∧ ∀ segment,
        w.sock.slist[index]? = some segment → segment.xmit < w.sock.xmitLimit → sent = true))
      Faulty w := by
  simp only [transmit, ↓wp_rules]
  cases found : w.sock.slist[index]? with
  | none =>
    simp only [↓wp_rules]
    exact ⟨by decide, fit.loose⟩
  | some segment =>
    simp only [↓wp_rules]
    split
    · rename_i limit
      exact ⟨fit, .inr ⟨trivial, trivial, fun other same below => absurd limit (by
        obtain rfl : segment = other := by simpa using same
        exact UInt8.not_le.mpr below)⟩⟩
    · have most : (min segment.len w.sock.mss).toNat ≤ w.sock.mss.toNat := by
        rw [toNat_min32]
        omega
      refine wp_imp (transmitLoop_fit index _ _ fit most) ?_
      rintro sent w₁ ⟨after, resized, success⟩
      cases sent with
      | none =>
        rw [wp_pure]
        refine ⟨after, fit.replies.imp_right fun replies => ?_⟩
        have went := (success (by decide) fun n => (replies n).2).1
        simp at went
      | some count =>
        rw [wp_bind, wp_modifySock, wp_pure]
        have found₁ : w₁.sock.slist[index]? = some segment := by
          rwa [resized.same]
        obtain ⟨n, within, gauge⟩ := gauge_transmitted found₁ count now
        refine ⟨after.move rfl ?_ ?_, fit.replies.imp_right fun replies => ?_⟩
        · rw [gauge]
          exact { after.limits with }
        · rcases ticks with free | ticks
          · exact .inl free
          · rcases rounds with free | rounds
            · exact .inl free
            · refine after.lively.imp_right fun lively => lively.transmitted found₁ count ticks ?_
              rwa [resized.same]
        · have same := (success (by decide) fun n => (replies n).2).2
          refine ⟨?_, ?_, fun _ _ _ => rfl⟩
          · exact (congrArg Gauge.cwnd gauge).trans (congrArg Gauge.cwnd same)
          · exact (congrArg Gauge.mss gauge).trans (congrArg Gauge.mss same)

/-! ## `attempt_send` -/

/-- Queued bytes are in flight when the peer has room. -/
def PseudoTcpSocket.Settled (s : PseudoTcpSocket) : Prop :=
  s.slen ≠ 0 → s.sndWnd ≠ 0 → s.sndUna ≠ s.sndNxt

/-- With nothing in flight there is something to send to a peer with room. -/
theorem nAvailable_ne_zero (limits : s.gauge.Limited) (lively : s.gauge.Lively)
    (queued : s.slen ≠ 0) (peer : s.sndWnd ≠ 0) (idle : s.sndUna = s.sndNxt) :
    s.nAvailable ≠ 0 := by
  have inFlight : s.inFlight = 0 := eq_zero32.mpr ((inFlight_eq_zero s.toOutgoing).mpr idle)
  have wnd : s.sndWnd.toNat ≤ 65535 := limits.peer
  have mss : 1 ≤ s.mss.toNat := limits.mss.1
  have cwnd : s.cwnd.toNat ≠ 0 := mt eq_zero32.mpr lively.window
  have peer := mt eq_zero32.mpr peer
  have queued := mt eq_zero32.mpr queued
  have window : s.nWindow = min s.sndWnd s.cwnd := by
    have quiet : ¬(s.dupAcks = 1 ∨ s.dupAcks = 2) := by
      rintro (one | two)
      · exact (lively.limited idle).1 one
      · exact (lively.limited idle).2 two
    simp only [PseudoTcpSocket.nWindow, if_neg quiet]
  have size : s.nWindow.toNat = min s.sndWnd.toNat s.cwnd.toNat := by
    rw [window, toNat_min32]
  have useable : s.nUseable = s.nWindow := by
    have room : (0 : UInt32) < s.nWindow := by
      rw [UInt32.lt_iff_toNat_lt]
      change 0 < _
      omega
    simp only [PseudoTcpSocket.nUseable, inFlight, if_pos room, UInt32.sub_zero]
  have whole : ¬s.nWindow * 4 < s.nWindow := by
    rw [UInt32.lt_iff_toNat_lt, UInt32.toNat_mul]
    change ¬_ * 4 % 2 ^ 32 < _
    omega
  simp only [PseudoTcpSocket.nAvailable, inFlight, useable, if_neg whole, UInt32.sub_zero]
  split
  · rw [ne_eq, eq_zero32]
    omega
  · rw [ne_eq, eq_zero32, toNat_min32]
    omega

/-- The acknowledgement leaves the gauge. -/
theorem acknowledge_steady (w : World) :
    wp (acknowledge (userCode 0) sflags) (fun _ => Steady w)
      (fun fault w' => fault ≠ .zeroDivision ∧ Steady w w') w := by
  simp only [acknowledge, ↓wp_rules]
  split
  · exact ⟨rfl, rfl, rfl, id⟩
  · split
    · exact wp_imp (packet_steady _ _ _ _ (by simp) w) (fun _ _ after => after.1)
    · exact ⟨rfl, rfl, rfl, id⟩

/-- The next segment was not transmitted yet and is not larger than what is available. -/
theorem nextSegment_fit (fit : Fit free w) :
    wp (nextSegment count)
      (fun index w' => Fit free w' ∧ w'.sock = { w.sock with slist := w'.sock.slist } ∧
        ∃ segment, w'.sock.slist[index]? = some segment ∧ segment.xmit = 0 ∧
          segment.len.toNat ≤ count.toNat)
      Faulty w := by
  refine wp_mono (nextSegment_cut count w) ?_ ?_
  · rintro index w' ⟨segment, found, unsent, first, ⟨-, rfl⟩ | ⟨small, rfl⟩⟩
    · have chosen : Chosen w count index _ := .of_cut found unsent first
      obtain ⟨cut, listed, unsent, -, small⟩ := chosen.found
      refine ⟨fit.same ?_, chosen.same, cut, listed, unsent, small⟩
      rw [chosen.same]
      rfl
    · exact ⟨fit, rfl, segment, found, unsent, UInt32.le_iff_toNat_le.mp small⟩
  · rintro fault w' ⟨rfl, ⟨rfl, -⟩ | ⟨rfl, -⟩⟩
    · exact ⟨by decide, fit.loose⟩
    · exact ⟨by decide, fit.loose⟩

/-- The loop keeps the invariant, and goes on until the bytes for a peer with room are in flight. -/
theorem attemptSendLoop_fit (now : UInt32) (fuel : Nat) (sflags : SendFlags) (fit : Fit free w)
    (ticks : free ∨ now ≠ 0) :
    wp (attemptSendLoop (userCode 0) now fuel sflags)
      (fun _ w' => Fit free w' ∧ (free ∨ w'.sock.Settled)) Faulty w := by
  induction fuel generalizing w sflags with
  | zero =>
    rw [attemptSendLoop, wp_throw]
    exact ⟨by decide, fit.loose⟩
  | succ fuel ih =>
    simp only [attemptSendLoop, ↓wp_rules]
    split
    · rename_i nothing
      refine wp_mono (acknowledge_steady sflags w) ?_
        (fun _ _ h => ⟨h.1, (fit.steady h.2).loose⟩)
      intro _ w' steady
      refine ⟨fit.steady steady, fit.lively.imp_right fun lively queued peer idle => ?_⟩
      rw [steady.same] at queued peer idle
      exact nAvailable_ne_zero fit.limits lively queued peer idle nothing
    · rename_i available
      split
      · rename_i nagle
        refine ⟨fit, .inr fun _ _ same => ?_⟩
        have more : w.sock.sndUna < w.sock.sndNxt := nagle.1
        rw [same] at more
        exact UInt32.lt_irrefl _ more
      · obtain ⟨window, -⟩ := nAvailable_window w.sock available
        refine wp_imp (nextSegment_fit _ fit) ?_
        rintro index w₁ ⟨fit₁, same, segment, found, unsent, small⟩
        have rounds : Rounds w₁.sock index := by
          refine .inr fun other listed => .inr ?_
          obtain rfl : segment = other := by
            rw [found] at listed
            simpa using listed
          have flight : w₁.sock.inFlight = w.sock.inFlight := by
            rw [same]
            rfl
          have wnd := w.sock.sndWnd.toNat_lt
          rw [flight]
          omega
        refine wp_imp (transmit_fit index now fit₁ ticks (.inr rounds)) ?_
        rintro sent w₂ ⟨fit₂, went⟩
        split
        · exact ih _ fit₂
        · rename_i refused
          refine ⟨fit₂, went.imp_right fun went => absurd (went.2.2 segment found ?_) refused⟩
          rw [unsent]
          unfold PseudoTcpSocket.xmitLimit
          split <;> decide

/-- So does `attempt_send`. -/
theorem attemptSend_fit (fit : Fit free w) :
    wp (attemptSend (userCode 0) sflags)
      (fun _ w' => Fit free w' ∧ (free ∨ w'.sock.Settled)) Faulty w := by
  simp only [attemptSend, ↓wp_rules]
  refine attemptSendLoop_fit _ _ _ (fit.move rfl ?_ ?_) (fit.clock _)
  · exact { fit.limits with }
  · refine fit.lively.imp_right fun lively => ⟨lively.armed, ?_, lively.limited⟩
    have mss : 1 ≤ w.sock.mss.toNat := fit.limits.mss.1
    change (if _ then w.sock.mss else w.sock.cwnd) ≠ 0
    split
    · rw [ne_eq, eq_zero32]
      omega
    · exact lively.window

/-! ## Calls of the application -/

/-- The level of an MTU has a level behind it. -/
theorem mssLevel_range (mtu : UInt32) :
    (mssLevel mtu packetMaximums 0).toNat ≤ 9 ∧
      ((mssLevel mtu packetMaximums 0).toNat < 9 → 296 ≤ mtu.toNat) := by
  -- The list has eleven levels: the walk is one test after the other.
  simp only [packetMaximums, mssLevel, gt_iff_lt, UInt32.reduceLT, UInt32.reduceAdd,
    UInt32.le_iff_toNat_le, UInt32.reduceToNat, if_true, if_false]
  split_ifs <;> simp <;> omega

/-- A new MTU stays inside the limits. -/
theorem Gauge.Limited.adjustMTU (limits : s.gauge.Limited) : s.adjustMTU.gauge.Limited := by
  have mtu : 116 < s.mtuAdvise.toNat ∧ s.mtuAdvise.toNat ≤ 65535 := limits.mtu
  have overhead : packetOverhead.toNat = 116 := rfl
  have mss : (s.mtuAdvise - packetOverhead).toNat = s.mtuAdvise.toNat - 116 :=
    toNat_sub32 (by omega)
  obtain ⟨level, lowest⟩ := mssLevel_range s.mtuAdvise
  refine ⟨limits.mtu, ?_, level, fun below => ?_, ?_, limits.rto, limits.peer⟩
  · change 1 ≤ (s.mtuAdvise - packetOverhead).toNat ∧ (s.mtuAdvise - packetOverhead).toNat ≤ 65419
    omega
  · have := lowest below
    change 180 ≤ (s.mtuAdvise - packetOverhead).toNat
    omega
  · have twice : (2 * (s.mtuAdvise - packetOverhead)).toNat = 2 * (s.mtuAdvise.toNat - 116) := by
      rw [UInt32.toNat_mul, mss]
      exact Nat.mod_eq_of_lt (by change 2 * _ < _; omega)
    change 2 * (s.mtuAdvise - packetOverhead).toNat ≤
      (max s.ssthresh (2 * (s.mtuAdvise - packetOverhead))).toNat
    rw [toNat_max32, twice, mss]
    omega

/-- Adjusting to the MTU keeps the connection going. -/
theorem Gauge.Lively.adjustMTU (lively : s.gauge.Lively) : s.adjustMTU.gauge.Lively := by
  refine ⟨lively.armed, fun zero => lively.window ?_, lively.limited⟩
  have zero : (max s.cwnd (s.mtuAdvise - packetOverhead)).toNat = 0 := eq_zero32.mp zero
  rw [toNat_max32] at zero
  refine eq_zero32.mpr ?_
  change s.cwnd.toNat = 0
  omega

/-- A part of a run keeps the invariant, and leaves nothing behind that should be in flight. -/
structure Carries (free : Prop) (w w' : World) : Prop where
  fit : Fit free w'
  settled : free ∨ (w.sock.Settled → w'.sock.Settled)

/-- Nothing happened. -/
theorem Carries.refl (fit : Fit free w) : Carries free w w := ⟨fit, .inr id⟩

/-- One after the other. -/
theorem Carries.trans {w₀ : World} (first : Carries free w₀ w) (second : Carries free w w') :
    Carries free w₀ w' := by
  refine ⟨second.fit, ?_⟩
  rcases first.settled with free | early
  · exact .inl free
  · exact second.settled.imp_right fun late settled => late (early settled)

/-- All that should be is in flight. -/
theorem Carries.of_settled (after : Fit free w' ∧ (free ∨ w'.sock.Settled)) : Carries free w w' :=
  ⟨after.1, after.2.imp_right fun settled _ => settled⟩

/-- Queue and gauge stay. -/
theorem Carries.of_same (fit : Fit free w') (same : (w'.sock.slen, w'.sock.gauge) =
    (w.sock.slen, w.sock.gauge)) : Carries free w w' := by
  obtain ⟨slen, gauge⟩ := Prod.mk.inj same
  refine ⟨fit, .inr fun settled queued peer => ?_⟩
  have una : w'.sock.sndUna = w.sock.sndUna := congrArg Gauge.sndUna gauge
  have nxt : w'.sock.sndNxt = w.sock.sndNxt := congrArg Gauge.sndNxt gauge
  have wnd : w'.sock.sndWnd = w.sock.sndWnd := congrArg Gauge.sndWnd gauge
  rw [slen] at queued
  rw [wnd] at peer
  rw [una, nxt]
  exact settled queued peer

/-- `recv` carries the invariant. -/
theorem recv_carries (len : UInt64) (fit : Fit free w) :
    wp (recv (userCode 0) len) (fun _ => Carries free w) Faulty w := by
  have other : ∀ bytes packet result, Event.received bytes ≠ .writePacket packet result := by simp
  simp only [recv, ↓wp_rules]
  split
  · exact .of_same (fit.same rfl) rfl
  · split
    · exact .of_same (fit.same rfl) rfl
    · split
      · split
        · refine wp_imp (attemptSend_fit .immediateAck (fit.event rfl (other _))) ?_
          rintro _ w' ⟨after, settled⟩
          exact ⟨after, settled.imp_right fun settled _ => settled⟩
        · exact .of_same (fit.event rfl (other _)) rfl
      · exact .of_same (fit.event rfl (other _)) rfl

/-- `queue` leaves the gauge. -/
theorem queue_fit (data : Mem) (len : UInt32) (bCtrl : Bool) (fit : Fit free w) :
    wp (queue data len bCtrl) (fun _ w' => Fit free w' ∧ w'.sock.gauge = w.sock.gauge) Faulty w := by
  simp only [queue, ↓wp_rules]
  split
  · split
    · exact ⟨fit.event rfl (by simp), rfl⟩
    · exact ⟨by decide, fit.loose⟩
  · exact ⟨fit.event rfl (by simp), rfl⟩

/-- `send` carries the invariant. -/
theorem send_carries (buffer : Mem) (len : UInt32) (fit : Fit free w) :
    wp (send (userCode 0) buffer len) (fun _ => Carries free w) Faulty w := by
  simp only [send, ↓wp_rules]
  split
  · exact .of_same (fit.same rfl) rfl
  · split
    · exact .of_same (fit.same rfl) rfl
    · refine wp_imp (queue_fit buffer len false fit) ?_
      rintro count w₁ ⟨queued, _⟩
      refine wp_imp (attemptSend_fit .none queued) ?_
      rintro _ w₂ ⟨after, settled⟩
      have settled := settled.imp_right fun settled (_ : w.sock.Settled) => settled
      split
      · exact ⟨after.same rfl, settled⟩
      · exact ⟨after, settled⟩

/-- So does `notify_mtu`. -/
theorem notifyMtu_carries (mtu : UInt16) (large : 116 < mtu.toNat) (fit : Fit free w) :
    wp (notifyMtu mtu) (fun _ => Carries free w) Faulty w := by
  have bound := mtu.toNat_lt
  have advised : { w.sock with mtuAdvise := mtu.toUInt32 }.gauge.Limited := by
    refine ⟨?_, fit.limits.mss, fit.limits.level, fit.limits.lowest, fit.limits.ssthresh,
      fit.limits.rto, fit.limits.peer⟩
    change 116 < mtu.toUInt32.toNat ∧ mtu.toUInt32.toNat ≤ 65535
    rw [UInt16.toNat_toUInt32]
    omega
  have lively : free ∨ { w.sock with mtuAdvise := mtu.toUInt32 }.gauge.Lively :=
    fit.lively.imp_right fun lively => ⟨lively.armed, lively.window, lively.limited⟩
  simp only [notifyMtu, ↓wp_rules]
  split
  · exact ⟨fit.move rfl advised.adjustMTU (lively.imp_right Gauge.Lively.adjustMTU), .inr id⟩
  · exact ⟨fit.move rfl advised lively, .inr id⟩

/-- A call of the application keeps the invariant. -/
theorem runCall_carries (call : Call) (made : call.MtuAbove) (fit : Fit free w) :
    wp (runCall (userCode 0) call) (fun _ => Carries free w) Faulty w := by
  cases call with
  | recv len =>
    simp only [runCall, ↓wp_rules]
    exact recv_carries len fit
  | send buffer len =>
    simp only [runCall, ↓wp_rules]
    exact send_carries buffer len fit
  | close force =>
    rw [runCall, close, wp_modifySock]
    exact .of_same (fit.same rfl) rfl
  | notifyMtu mtu => exact notifyMtu_carries mtu made fit

/-- The calls of one callback keep the invariant. -/
theorem runCalls_carries (calls : List Call) (made : ∀ call ∈ calls, call.MtuAbove)
    (fit : Fit free w) : wp (runCalls (userCode 0) calls) (fun _ => Carries free w) Faulty w := by
  induction calls generalizing w with
  | nil =>
    rw [runCalls, wp_pure]
    exact .refl fit
  | cons call calls ih =>
    simp only [runCalls, ↓wp_rules]
    refine wp_imp (runCall_carries call (made call mem_cons_self) fit) ?_
    intro _ w₁ first
    refine wp_imp (ih (forall_mem_of_forall_mem_cons made) first.fit) ?_
    exact fun _ _ => first.trans

/-- So do callbacks. -/
theorem callback_carries (event : Event) (fit : Fit free w)
    (other : ∀ packet result, event ≠ .writePacket packet result) :
    wp (callback (userCode 0) event) (fun _ => Carries free w) Faulty w := by
  simp only [callback, ↓wp_rules]
  have told : Carries free w { w with trace := w.trace ++ [event], pos := w.pos + 1 } :=
    .of_same (fit.event rfl other) rfl
  exact wp_imp (runCalls_carries _ (fit.calls w.pos) told.fit) (fun _ _ => told.trans)

/-- `closedown` keeps the invariant, and leaves nothing queued. -/
theorem closedown_fit (err : Errno) (fit : Fit free w) :
    wp (closedown (userCode 0) err) (fun _ w' => Fit free w' ∧ (free ∨ w'.sock.Settled)) Faulty w := by
  simp only [closedown, ↓wp_rules]
  have closed : Fit free { w with sock := { w.sock with slen := 0, state := .closed } } := by
    refine fit.move rfl { fit.limits with } (fit.lively.imp_right fun lively => ?_)
    exact ⟨fun live => absurd rfl live, lively.window, lively.limited⟩
  refine wp_imp (callback_carries (.closed err) closed (by simp)) ?_
  intro _ w' after
  exact ⟨after.fit, after.settled.imp_right fun settled => settled fun queued => absurd rfl queued⟩


end Xice.PseudoTcp
