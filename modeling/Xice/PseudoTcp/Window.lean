import Xice.PseudoTcp.Bounds

/-!
# The advertised window

`rcv_wnd` is given to the peer as a 16-bit number and is meant to be room in the receive buffer. It
shrinks by the bytes that come into order and is set to the free room by `recv` only now and then,
while a segment is cut to the free room: a peer that does not keep to the window takes it below
zero.
-/

namespace Xice.PseudoTcp

open Xice.Lib Exec Relation List Word

variable {allowed : Call → Prop} {h h' : History} {seg : Segment} {buffer : Mem} {r : Incoming}
variable {runs : List RSegment} {start : History}

/-! ## Histories on the way -/

/-- One step of a socket. -/
inductive Step (h h' : History) : Prop
  /-- The incoming packet is not used. -/
  | quiet (step : Quiet (fun _ => True) h h')
  /-- An acknowledgement number is used. -/
  | ack (seg : Segment) (step : AckStep seg h h')
  /-- Payload is used. -/
  | data (buffer : Mem) (seg : Segment) (step : DataStep buffer seg h h')

/-- A history that a new socket comes to. -/
def History.Met (h : History) : Prop :=
  ∃ conversation now, ReflTransGen Step (World.new conversation now).toHistory h

/-- Events are new, and a packet written in a quiet step is built from the socket before. -/
theorem Quiet.writes (step : Quiet allowed h h') :
    h.trace <+: h'.trace ∧ ∀ packet result, .writePacket packet result ∈ h'.trace →
      .writePacket packet result ∈ h.trace ∨
      h'.trace = h.trace ++ [.writePacket packet result] ∧ packet.wnd = h.sock.rcvWnd.toUInt16 := by
  have wrote : ∀ {event : Event},
      (∀ packet result, event = .writePacket packet result →
        packet.wnd = h.sock.rcvWnd.toUInt16) →
      h.trace <+: h.trace ++ [event] ∧
        ∀ packet result, .writePacket packet result ∈ h.trace ++ [event] →
          .writePacket packet result ∈ h.trace ∨
          h.trace ++ [event] = h.trace ++ [.writePacket packet result] ∧
            packet.wnd = h.sock.rcvWnd.toUInt16 := by
    refine fun {event} window => ⟨prefix_append _ _, fun packet result member => ?_⟩
    rcases mem_append.mp member with member | member
    · exact .inl member
    · obtain rfl := mem_singleton.mp member
      exact .inr ⟨rfl, window packet result rfl⟩
  cases step with
  | tune | advise | split | countDup | enterRecovery | rearm | widen | shut =>
    exact ⟨prefix_rfl, fun _ _ => .inl⟩
  | look | openCtl | enqueue | establish | readable | writable | closedown | consume =>
    exact wrote (by simp)
  | writeEmpty | writeRefused | transmitNew | retransmit =>
    refine wrote fun packet result same => ?_
    obtain ⟨rfl, -⟩ := Event.writePacket.inj same
    rfl

/-- The same of every step. -/
theorem Step.writes (step : Step h h') :
    h.trace <+: h'.trace ∧ ∀ packet result, .writePacket packet result ∈ h'.trace →
      .writePacket packet result ∈ h.trace ∨
      h'.trace = h.trace ++ [.writePacket packet result] ∧ packet.wnd = h.sock.rcvWnd.toUInt16 := by
  cases step with
  | quiet step => exact step.writes
  | ack seg step =>
    cases step with
    | newAck | sameAck => exact ⟨prefix_rfl, fun _ _ => .inl⟩
  | data buffer seg step =>
    cases step with
    | skip => exact ⟨prefix_rfl, fun _ _ => .inl⟩
    | inOrder | outOfOrder =>
      exact ⟨prefix_append _ _, fun _ _ member => .inl (by simpa using member)⟩

/-! ## The account -/

/-- Window and bytes in order fit the buffer, and saved runs end inside the window. -/
structure Incoming.Accounted (r : Incoming) (runs : List RSegment) : Prop where
  room : r.rcvWnd.toNat + r.rlen.toNat ≤ 61440
  runs : ∀ run ∈ runs, run.seq.toNat + run.len.toNat ≤ r.rcvNxt.toNat + r.rcvWnd.toNat

/-- Bytes of the window come into order. -/
theorem Incoming.Accounted.advance {count : UInt32}
    (accounted : r.Accounted runs) (inside : count.toNat ≤ r.rcvWnd.toNat)
    (stays : runs ≠ [] → r.rcvNxt.toNat + count.toNat < 2 ^ 32) :
    (r.advance count).Accounted runs := by
  have room := accounted.room
  have wnd : (r.rcvWnd - count).toNat = r.rcvWnd.toNat - count.toNat := toNat_sub32 inside
  refine ⟨?_, fun run member => ?_⟩
  · simp only [Incoming.advance, wnd]
    rw [toNat_add32 (by omega)]
    omega
  · have := accounted.runs run member
    simp only [Incoming.advance, wnd]
    rw [toNat_add32 (stays (ne_nil_of_mem member))]
    omega

/-- The first saved run is dropped. -/
theorem Incoming.Accounted.tail {data : RSegment}
    (accounted : r.Accounted (data :: runs)) : r.Accounted runs :=
  ⟨accounted.room, forall_mem_of_forall_mem_cons accounted.runs⟩

/-- The loop over the saved runs keeps the account. -/
theorem Incoming.Accounted.recover (accounted : r.Accounted runs) :
    (Incoming.recover runs r).1.Accounted (Incoming.recover runs r).1.rlist := by
  fun_induction Incoming.recover runs r with
  | case1 r => exact ⟨accounted.room, by simp⟩
  | case2 data runs r reached more ih =>
    have first := accounted.runs data mem_cons_self
    have room := accounted.room
    obtain ⟨count, further, below⟩ := RSegment.toNat_reach _ reached more first (by omega)
    exact ih (accounted.tail.advance (by omega) (fun _ => by omega))
  | case3 data runs r reached passed ih => exact ih accounted.tail
  | case4 => exact ⟨accounted.room, accounted.runs⟩

/-- A segment ends inside the window. -/
def Segment.InWindow (seg : Segment) (r : Incoming) : Prop :=
  seg.seq.toNat + seg.len.toNat ≤ r.rcvNxt.toNat + r.rcvWnd.toNat

/-- A segment that takes `rcv_nxt` over the end of the sequence space finds no saved run. -/
def Segment.Turns (seg : Segment) (r : Incoming) : Prop :=
  seg.seq.toNat ≤ r.rcvNxt.toNat → 2 ^ 32 ≤ seg.seq.toNat + seg.len.toNat → r.rlist = []

instance (seg : Segment) (r : Incoming) : Decidable (seg.InWindow r) :=
  inferInstanceAs (Decidable (_ ≤ _))

instance (seg : Segment) (r : Incoming) : Decidable (seg.Turns r) :=
  inferInstanceAs (Decidable (_ → _ → _))

/-- Other steps keep the account, and take back no window. -/
theorem BufferStep.accounted (keeps : BufferStep h h')
    (accounted : h.sock.toIncoming.Accounted h.sock.rlist) :
    h'.sock.toIncoming.Accounted h'.sock.rlist ∧ h.sock.rcvWnd.toNat ≤ h'.sock.rcvWnd.toNat := by
  have room := accounted.room
  rw [keeps.pointers.2]
  cases keeps with
  | same incoming =>
    rw [incoming]
    exact ⟨accounted, Nat.le_refl _⟩
  | consume read ready incoming =>
    have rlen : (h.sock.rlen - read).toNat = h.sock.rlen.toNat - read.toNat :=
      toNat_sub32 ready
    rw [incoming]
    refine ⟨⟨?_, accounted.runs⟩, Nat.le_refl _⟩
    simp only [rlen]
    omega
  | widen rcvWnd free incoming =>
    have size := kRcvBufSize_toNat
    have wnd : rcvWnd.toNat = 61440 - h.sock.rlen.toNat := by
      rw [free, UInt64.toNat_toUInt32, toNat_sub64 (by rw [UInt32.toNat_toUInt64]; omega),
        UInt32.toNat_toUInt64, size, Nat.mod_eq_of_lt (by omega)]
    rw [incoming]
    refine ⟨⟨by simp only; omega, fun run member => ?_⟩, by simp only; omega⟩
    have := accounted.runs run member
    simp only
    omega

/-- The payload of a segment inside the window keeps the account. -/
theorem DataStep.accounted (step : DataStep buffer seg h h')
    (accounted : h.sock.toIncoming.Accounted h.sock.rlist)
    (inside : ¬seg.isCtl → h.sock.shutdown = .none → seg.InWindow h.sock.toIncoming)
    (turns : seg.Turns h.sock.toIncoming) : h'.sock.toIncoming.Accounted h'.sock.rlist := by
  have room := accounted.room
  have fits : h.sock.rlen.toNat ≤ 61440 := by omega
  have window : ¬seg.isCtl ∧ h.sock.shutdown = .none →
      seg.seq.toNat + seg.len.toNat ≤ h.sock.rcvNxt.toNat + h.sock.rcvWnd.toNat :=
    fun kept => inside kept.1 kept.2
  have stays : ∀ cut : Segment, seg.seq.toNat ≤ h.sock.rcvNxt.toNat →
      h.sock.rcvNxt.toNat + cut.len.toNat ≤ seg.seq.toNat + seg.len.toNat →
      h.sock.rlist ≠ [] → h.sock.rcvNxt.toNat + cut.len.toNat < 2 ^ 32 := by
    intro cut behind stop saved
    by_contra beyond
    exact saved (turns behind (by omega))
  cases step with
  | skip cut trimmed nonempty ignored next =>
    obtain ⟨behind, -, stop⟩ := trim_next fits trimmed nonempty next
    refine ⟨room, fun run member => ?_⟩
    have := accounted.runs run member
    simp only
    rw [toNat_add32 (stays cut behind stop (ne_nil_of_mem member))]
    omega
  | inOrder cut trimmed nonempty kept next =>
    obtain ⟨behind, -, stop⟩ := trim_next fits trimmed nonempty next
    have window := window kept
    have copied : (h.sock.toIncoming.copyIn buffer cut).Accounted h.sock.rlist :=
      ⟨room, accounted.runs⟩
    exact (copied.advance (show cut.len.toNat ≤ h.sock.rcvWnd.toNat by omega)
      (stays cut behind stop)).recover
  | outOfOrder cut trimmed nonempty kept later =>
    have ahead := trim_later fits trimmed nonempty later
    have window := window kept
    have wnd := h.sock.rcvWnd.toNat_lt
    obtain ⟨seq, -, len⟩ := trim_ahead fits ahead (by omega)
    rw [← trimmed] at seq len
    refine ⟨room, fun run member => ?_⟩
    rcases mem_insertSegment.mp member with rfl | member
    · simp only [Incoming.copyIn, seq]
      omega
    · exact accounted.runs run member

/-- A socket that was closed by the application stays so. -/
theorem Quiet.shutdown (step : Quiet allowed h h') (running : h'.sock.shutdown = .none) :
    h.sock.shutdown = .none := by
  cases step with
  | tune tuned => rwa [tuned.same] at running
  | advise mtu made same => rwa [same] at running
  | transmitNew | retransmit => rwa [transmitted_same] at running
  | establish opening tuned => rwa [tuned.same] at running
  | shut force => cases force <;> simp at running
  | look | writeEmpty | writeRefused | split | openCtl | enqueue | countDup | enterRecovery
  | rearm | readable | writable | closedown | consume | widen => exact running

/-! ## Runs -/

/-- The history is on the way to another one. -/
def History.Before (h last : History) : Prop := h.Met ∧ ReflTransGen Step h last

/-- The account is right, and was when packets were written. -/
structure History.Advertised (h : History) : Prop where
  met : h.Met
  account : h.sock.toIncoming.Accounted h.sock.rlist
  written : ∀ packet result, .writePacket packet result ∈ h.trace →
    ∃ earlier : History, earlier.Before h ∧
      earlier.trace ++ [.writePacket packet result] <+: h.trace ∧
      packet.wnd.toNat = earlier.sock.rcvWnd.toNat ∧
      earlier.sock.rcvWnd.toNat + earlier.sock.rlen.toNat ≤ 61440

/-- One more step. -/
theorem History.Advertised.step (advertised : h.Advertised) (step : Step h h')
    (account : h'.sock.toIncoming.Accounted h'.sock.rlist) : h'.Advertised := by
  obtain ⟨conversation, now, met⟩ := advertised.met
  obtain ⟨grows, writes⟩ := step.writes
  refine ⟨⟨conversation, now, met.tail step⟩, account, fun packet result member => ?_⟩
  rcases writes packet result member with old | ⟨trace, window⟩
  · obtain ⟨earlier, ⟨start, steps⟩, place, rest⟩ := advertised.written packet result old
    exact ⟨earlier, ⟨start, steps.tail step⟩, place.trans grows, rest⟩
  · have room := advertised.account.room
    refine ⟨h, ⟨advertised.met, .single step⟩, by rw [trace], ?_, room⟩
    rw [window, UInt32.toNat_toUInt16, Nat.mod_eq_of_lt (by omega)]

/-- A packet is processed and its payload not used yet. -/
structure History.Waits (start h : History) : Prop where
  advertised : h.Advertised
  window : start.sock.rcvWnd.toNat ≤ h.sock.rcvWnd.toNat
  running : h.sock.shutdown = .none → start.sock.shutdown = .none

/-- Quiet steps go on waiting. -/
theorem History.Waits.quiet (step : Quiet (fun _ => True) h h')
    (waits : start.Waits h) : start.Waits h' := by
  obtain ⟨account, wider⟩ := step.bufferStep.accounted waits.advertised.account
  exact ⟨waits.advertised.step (.quiet step) account, waits.window.trans wider,
    fun running => waits.running (step.shutdown running)⟩

/-- The use of an acknowledgement number keeps the account. -/
theorem History.Waits.ack (step : AckStep seg h h') (waits : start.Waits h) :
    start.Waits h' := by
  obtain ⟨account, wider⟩ := step.bufferStep.accounted waits.advertised.account
  refine ⟨waits.advertised.step (.ack seg step) account, waits.window.trans wider,
    fun running => waits.running ?_⟩
  cases step <;> exact running

/-- Payload that is kept ends inside the window, and `rcv_nxt` does not wrap while runs are saved.
-/
def Entry.InWindow (s : PseudoTcpSocket) : Entry → Prop
  | .notifyPacket buffer len =>
    let seg := segmentOf buffer len
    (¬seg.isCtl → s.shutdown = .none → seg.InWindow s.toIncoming) ∧ seg.Turns s.toIncoming
  | _ => True

/-- Entry points keep the account. -/
theorem Entry.Does.advertised {entry : Entry} (does : entry.Does (fun _ => True) h h')
    (advertised : h.Advertised) (inside : entry.InWindow h.sock) : h'.Advertised := by
  have quiet : ∀ {h₁ h₂ : History}, h₁.Advertised →
      ReflTransGen (Quiet fun _ => True) h₁ h₂ → h₂.Advertised := by
    intro h₁ h₂ before steps
    have start : h₁.Waits h₁ := ⟨before, Nat.le_refl _, id⟩
    exact (invariant_of_steps (fun _ _ step => History.Waits.quiet step) steps start).advertised
  cases entry with
  | connect | call | notifyClock => exact quiet advertised does
  | notifyPacket buffer len =>
    obtain ⟨h₁, h₂, acked, stored, last⟩ := does
    obtain ⟨rcvNxt, rlist⟩ := acked.pointers
    have waits : h.Waits h₁ := acked.keeps (fun _ _ step => History.Waits.quiet step)
      (fun _ _ step => History.Waits.ack step) ⟨advertised, Nat.le_refl _, id⟩
    refine quiet ?_ last
    cases stored with
    | refl => exact waits.advertised
    | single step =>
      refine waits.advertised.step (.data _ _ step)
        (step.accounted waits.advertised.account ?_ ?_)
      · intro plain running
        have window := waits.window
        have ends : _ ≤ _ := inside.1 plain (waits.running running)
        rw [Segment.InWindow, rcvNxt]
        omega
      · rw [Segment.Turns, rcvNxt, rlist]
        exact inside.2

/-- In every run in which the peer keeps to the window, the window and the bytes not yet taken fit
the receive buffer, and every packet carries the whole window as it was when the packet was written.
-/
theorem window_of_run {result : Except Fault Unit} {w : World}
    (reached : Reachable 0 (fun w entry _ => entry.InWindow w.sock) result w) :
    w.sock.rcvWnd.toNat + w.sock.rlen.toNat ≤ 61440 ∧
    ∀ packet answer, .writePacket packet answer ∈ w.trace →
      ∃ h : History, h.Before w.toHistory ∧
        h.trace ++ [.writePacket packet answer] <+: w.trace ∧
        packet.wnd.toNat = h.sock.rcvWnd.toNat ∧
        h.sock.rcvWnd.toNat + h.sock.rlen.toNat ≤ 61440 := by
  have fresh : ∀ conversation now, (World.new conversation now).toHistory.Advertised := by
    intro conversation now
    have room : kRcvBufSize.toUInt32.toNat + (0 : UInt32).toNat ≤ 61440 := by decide
    exact ⟨⟨conversation, now, .refl⟩, ⟨room, by simp [World.new, PseudoTcpSocket.new]⟩,
      by simp [World.new]⟩
  have advertised : w.toHistory.Advertised :=
    reached.keeps fresh (fun _ _ _ _ _ inside does before => does.advertised before inside)
  exact ⟨advertised.account.room, advertised.written⟩

/-- Three bytes in order take three bytes of the window. -/
theorem window_of_run_in_order :
    threeReceived.sock.rlen = 3 ∧
      threeReceived.sock.rcvWnd.toNat + threeReceived.sock.rlen.toNat ≤ 61440 := by
  have reached : Reachable 0 (fun w entry _ => entry.InWindow w.sock) (.ok ()) threeReceived := by
    refine .next _ steady (.next _ steady (.next .connect steady (.new 0 1000) trivial ?_) ?_ ?_)
      ?_ ?_
    · decide +kernel
    · change (_ → _ → Segment.InWindow _ _) ∧ Segment.Turns _ _
      decide +kernel
    · decide +kernel
    · change (_ → _ → Segment.InWindow _ _) ∧ Segment.Turns _ _
      decide +kernel
    · decide +kernel
  exact ⟨by decide +kernel, (window_of_run reached).1⟩

/-- A packet from the peer with a payload of zero bytes. -/
def zerosPacket (seq len : UInt32) : Entry :=
  .notifyPacket (Mem.ofList (Packet.bytes ⟨0, seq, 1, 0, 61440, 1000, 1000, []⟩)) (24 + len)

/-- The buffer is filled, one byte is taken, and the peer sends one beyond the window; then an old byte
again. -/
def overrunWindow : World :=
  let w := Entry.connect.after (userCode 0) steady (World.new 0 1000)
  let w := (Entry.delivery ⟨0, 0, 1, flagCtl, 61440, 1000, 1000, [0]⟩).after (userCode 0) steady w
  let w := (zerosPacket 1 61440).after (userCode 0) steady w
  let w := (Entry.call (.recv 1)).after (userCode 0) steady w
  let w := (zerosPacket 61441 1).after (userCode 0) steady w
  (zerosPacket 1 1).after (userCode 0) steady w

/-- After a byte beyond the window `rcv_wnd` is far above the size of the buffer, and the peer is
offered 65535 bytes. -/
theorem window_exceeded :
    ∃ w, Reachable 0 (fun _ entry _ => entry.Headed) (.ok ()) w ∧
      ¬w.sock.rcvWnd.toNat + w.sock.rlen.toNat ≤ 61440 ∧ w.sock.rlen.toNat = 61440 ∧
      ∃ packet, w.trace.getLast? = some (.writePacket packet .success) ∧
        packet.wnd.toNat = 65535 := by
  refine ⟨overrunWindow, ?_, by decide +kernel, by decide +kernel, ⟨0, 1, 61442, 0, 65535, 1000, 1000,
    []⟩, by decide +kernel, rfl⟩
  refine .next _ steady (.next _ steady (.next _ steady (.next _ steady (.next _ steady
    (.next .connect steady (.new 0 1000) trivial ?_) ?_ ?_) ?_ ?_) trivial ?_) ?_ ?_) ?_ ?_
  · decide +kernel
  · change 24 ≤ UInt32.toNat _
    decide +kernel
  · decide +kernel
  · change 24 ≤ UInt32.toNat _
    decide +kernel
  · decide +kernel
  · decide +kernel
  · change 24 ≤ UInt32.toNat _
    decide +kernel
  · decide +kernel
  · change 24 ≤ UInt32.toNat _
    decide +kernel
  · decide +kernel

end Xice.PseudoTcp
