import Xice.PseudoTcp.Frame

/-!
# What application code can do

Application code may call `recv`, `send`, `close` and `notify_mtu` from every callback, to any
depth. Whatever it does, the connection state stays and only packets, queued bytes and received
bytes are added to the trace; on a closed socket no packet is written.
-/

namespace Xice.PseudoTcp

open Xice.Lib Exec

/-- The events that a call can cause in a state. -/
def Event.OfCall (state : PseudoTcpState) : Event → Prop
  | .writePacket _ _ => state ≠ .closed
  | .queued _ _ => True
  | .received _ => True
  | _ => False

/-- The connection state stays, and the trace grows by events of calls. -/
structure Calm (w w' : World) : Prop where
  state : w'.sock.state = w.sock.state
  trace : ∃ new, w'.trace = w.trace ++ new ∧ ∀ event ∈ new, event.OfCall w.sock.state

/-- Application code that is calm. -/
def UserCode.Calm (user : UserCode) : Prop :=
  ∀ calls w, ends (user calls) (PseudoTcp.Calm w) w

variable {user : UserCode} {w₀ w w' : World}

/-- Nothing happened. -/
theorem Calm.refl (w : World) : Calm w w := ⟨rfl, [], by simp, by simp⟩

/-- One after the other. -/
theorem Calm.trans (first : Calm w₀ w) (second : Calm w w') : Calm w₀ w' := by
  obtain ⟨early, earlyTrace, earlyEvents⟩ := first.trace
  obtain ⟨late, lateTrace, lateEvents⟩ := second.trace
  refine ⟨second.state.trans first.state, early ++ late, ?_, ?_⟩
  · rw [lateTrace, earlyTrace, List.append_assoc]
  · intro event member
    rcases List.mem_append.mp member with member | member
    · exact earlyEvents event member
    · rw [← first.state]
      exact lateEvents event member

/-- A change of other fields is calm. -/
theorem Calm.sock (before : Calm w₀ w) (same : (w'.sock.state, w'.trace) =
    (w.sock.state, w.trace)) : Calm w₀ w' := by
  obtain ⟨state, trace⟩ := Prod.mk.inj same
  exact before.trans ⟨state, [], by simp [trace], by simp⟩

/-- So is an event of a call. -/
theorem Calm.event {event : Event} (before : Calm w₀ w) (state : w'.sock.state = w.sock.state)
    (trace : w'.trace = w.trace ++ [event]) (caused : event.OfCall w.sock.state) : Calm w₀ w' :=
  before.trans ⟨state, [event], trace, by simpa using caused⟩

/-! ## On a socket that is not closed -/

/-- Calm steps, if the socket was not closed before them. -/
def CalmAlive (w₀ w : World) : Prop := w₀.sock.state ≠ .closed → Calm w₀ w

/-- Calm code keeps a live socket calm. -/
theorem UserCode.Calm.kept (calm : user.Calm) (w₀ : World) (calls : List Call) :
    Keeps (CalmAlive w₀) (user calls) := fun w before =>
  wp_mono (calm calls w) (fun _ _ after live => (before live).trans after)
    (fun _ _ after live => (before live).trans after)

/-- `packet` is calm on a socket that is not closed. -/
theorem packet_calmAlive (kept : ∀ w₀ calls, Keeps (CalmAlive w₀) (user calls)) (w₀ : World)
    (seq : UInt32) (flags : UInt8) (data : Option Mem) (len : UInt32) :
    Keeps (CalmAlive w₀) (packet user seq flags data len) := by
  intro w before
  by_cases live : w₀.sock.state = .closed
  · exact wp_intro (fun _ _ _ other => absurd live other) (fun _ _ _ other => absurd live other)
  have written {w₁ : World} {p : Packet} {wres : PseudoTcpWriteResult}
      (state : w₁.sock.state = w.sock.state) (trace : w₁.trace = w.trace ++ [.writePacket p wres]) :
      CalmAlive w₀ w₁ := fun other => (before other).event state trace ((before other).state ▸ other)
  simp only [packet, writePacket, ↓wp_rules]
  split
  · refine wp_imp (kept w₀ _ _ (written rfl rfl)) ?_
    intro _ w₁ after
    split
    · exact after
    · exact fun other => (after other).sock rfl
  · exact fun other => (before other).sock rfl

/-- Sending is calm on a socket that is not closed. -/
theorem CalmAlive.frame : Frame CalmAlive where
  sock before framed live := (before live).sock (by rw [framed.state])
  event {_ _ event} before queue live := by
    refine (before live).event rfl rfl ?_
    cases event <;> trivial
  reply before live := (before live).sock rfl
  packet := packet_calmAlive
  transmit kept w₀ := transmit_keeps
    (fun before framed live => (before live).sock (by rw [framed.state]))
    (fun _ _ before live => (before live).sock rfl) (packet_calmAlive kept w₀)

/-- On a socket that is not closed, such a program is calm. -/
theorem CalmAlive.ends {α : Type} {m : Run α} (kept : Keeps (CalmAlive w) m)
    (live : w.sock.state ≠ .closed) : Exec.ends m (Calm w) w :=
  wp_mono (kept w fun _ => Calm.refl w) (fun _ _ after => after live) (fun _ _ after => after live)

/-- `packet` is calm. -/
theorem packet_calm (calm : user.Calm) (seq : UInt32) (flags : UInt8) (data : Option Mem)
    (len : UInt32) (live : w.sock.state ≠ .closed) :
    ends (packet user seq flags data len) (Calm w) w :=
  CalmAlive.ends (packet_calmAlive calm.kept w seq flags data len) live

/-- `transmit` is calm. -/
theorem transmit_calm (calm : user.Calm) (index : Nat) (now : UInt32)
    (live : w.sock.state ≠ .closed) : ends (transmit user index now) (Calm w) w :=
  CalmAlive.ends (CalmAlive.frame.transmit calm.kept w index now) live

/-- `attempt_send` is calm. -/
theorem attemptSend_calm (calm : user.Calm) (sflags : SendFlags) (live : w.sock.state ≠ .closed) :
    ends (attemptSend user sflags) (Calm w) w :=
  CalmAlive.ends (CalmAlive.frame.attemptSend calm.kept fun _ _ _ before live =>
    (before live).sock rfl) live

/-! ## On a socket that is not established -/

/-- Application code does nothing to the queue of a socket that is not established. -/
structure Idle (w w' : World) : Prop where
  state : w'.sock.state = w.sock.state
  outgoing : w'.sock.toOutgoing = w.sock.toOutgoing
  mss : w'.sock.mss = w.sock.mss

/-- Such application code. -/
def UserCode.Idle (user : UserCode) : Prop :=
  ∀ calls w, w.sock.state ≠ .established → ends (user calls) (PseudoTcp.Idle w) w

/-- Nothing happened. -/
theorem Idle.refl (w : World) : Idle w w := ⟨rfl, rfl, rfl⟩

/-- One after the other. -/
theorem Idle.trans (first : Idle w₀ w) (second : Idle w w') : Idle w₀ w' :=
  ⟨second.state.trans first.state, second.outgoing.trans first.outgoing,
    second.mss.trans first.mss⟩

/-- On such a socket a call is refused, or changes what is not sent. -/
theorem runCall_refused (call : Call) (opening : w.sock.state ≠ .established) :
    ends (runCall user call) (fun w' => Idle w w' ∧ w'.trace = w.trace) w := by
  cases call with
  | recv len =>
    simp only [runCall, recv, ↓wp_rules]
    rw [if_pos opening]
    exact ⟨⟨rfl, rfl, rfl⟩, trivial⟩
  | send buffer len =>
    simp only [runCall, send, ↓wp_rules]
    rw [if_pos opening]
    exact ⟨⟨rfl, rfl, rfl⟩, trivial⟩
  | close force =>
    rw [runCall, close, ends, wp_modifySock]
    exact ⟨⟨rfl, rfl, rfl⟩, rfl⟩
  | notifyMtu mtu =>
    rw [runCall, notifyMtu, ends, wp_modifySock]
    simp only [if_neg opening]
    exact ⟨⟨rfl, rfl, rfl⟩, trivial⟩

/-- A call is idle on a socket that is not established. -/
theorem runCall_idle (call : Call) (opening : w.sock.state ≠ .established) :
    ends (runCall user call) (Idle w) w :=
  wp_mono (runCall_refused call opening) (fun _ _ after => after.1) (fun _ _ after => after.1)

/-! ## In any state -/

/-- Every call is calm. -/
theorem runCall_calm (calm : user.Calm) (call : Call) (w : World) :
    ends (runCall user call) (Calm w) w := by
  by_cases live : w.sock.state = .closed
  · have opening : w.sock.state ≠ .established := by
      rw [live]
      decide
    refine wp_mono (runCall_refused call opening) ?_ ?_ <;>
    · rintro _ w' ⟨idle, trace⟩
      exact (Calm.refl w).sock (by rw [idle.state, trace])
  · exact CalmAlive.ends (CalmAlive.frame.runCall calm.kept call) live

/-- So are calls in a row. -/
theorem runCalls_calm (calm : user.Calm) (calls : List Call) (w : World) :
    ends (runCalls user calls) (Calm w) w := by
  induction calls generalizing w with
  | nil =>
    rw [runCalls, ends, wp_pure]
    exact Calm.refl w
  | cons call calls ih =>
    simp only [runCalls, ↓wp_rules]
    refine wp_imp (runCall_calm calm call w) ?_
    intro _ w₁ first
    exact wp_mono (ih w₁) (fun _ _ => first.trans)
      (fun _ _ => first.trans)

/-- Application code is calm, however deep it nests. -/
theorem userCode_calm (depth : Nat) : (userCode depth).Calm := by
  induction depth with
  | zero =>
    intro calls w
    rw [userCode, ends, wp_pure]
    exact Calm.refl w
  | succ depth ih =>
    intro calls w
    rw [userCode]
    exact runCalls_calm ih calls w

end Xice.PseudoTcp
