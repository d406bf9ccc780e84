import Xice.PseudoTcp.Process

/-!
# Entry points and runs

The functions of `pseudotcp.h` and the runs of one socket: any sequence of entry points, each with
an environment of its own. The trace of a run is the trace of all its calls.
-/

namespace Xice.PseudoTcp

open Xice.Lib

variable (user : UserCode) (now : UInt32) (entry : Entry)

/-- `pseudo_tcp_socket_connect`. -/
def connect : Run Bool := do
  if (← getSock).state ≠ .listen then
    modifySock fun s => { s with error := .einval }
    return false
  modifySock fun s => { s with state := .synSent }
  let _ ← queue (fun _ => ctlConnect) 1 true
  attemptSend user .none
  return true

/-- Retransmission in `notify_clock`. False is returned when the socket was closed. -/
def checkRetransmit : Run Bool := do
  let s ← getSock
  if s.rtoBase ≠ 0 ∧ timeDiff (s.rtoBase + s.rxRto) now ≤ 0 then
    require (s.slist ≠ []) .clockAssert
    if ← transmit user 0 now then
      modifySock fun s =>
        let rtoLimit := match s.state with
          | .listen | .synSent | .synReceived => defRto
          | .established | .closed => maxRto
        { s with
          ssthresh := max (s.inFlight / 2) (2 * s.mss)
          cwnd := s.mss
          rxRto := min rtoLimit (s.rxRto * 2)
          rtoBase := now }
      return true
    else
      closedown user .econnaborted
      return false
  else return true

/-- The probe of a closed window in `notify_clock`. False is returned when the socket was closed. -/
def checkProbe : Run Bool := do
  let s ← getSock
  if s.sndWnd = 0 ∧ timeDiff (s.lastsend + s.rxRto) now ≤ 0 then
    if timeDiff now s.lastrecv ≥ 15000 then
      closedown user .econnaborted
      return false
    else
      let _ ← packet user (s.sndNxt - 1) 0 none 0
      modifySock fun s => { s with lastsend := now, rxRto := min maxRto (s.rxRto * 2) }
      return true
  else return true

/-- The delayed acknowledgement in `notify_clock`. -/
def checkDelayedAck : Run Unit := do
  let s ← getSock
  if s.tAck ≠ 0 ∧ timeDiff (s.tAck + ackDelay) now ≤ 0 then
    let _ ← packet user s.sndNxt 0 none 0

/-- `pseudo_tcp_socket_notify_clock`. -/
def notifyClock : Run Unit := do
  let now ← getCurrentTime
  if (← getSock).state ≠ .closed then
    if ← checkRetransmit user now then
      if ← checkProbe user now then
        checkDelayedAck user now

/-- `pseudo_tcp_socket_notify_packet`. -/
def notifyPacket (buffer : Mem) (len : UInt32) : Run Bool :=
  if len > maxPacket then return false else parse user buffer len

/-- `pseudo_tcp_socket_get_next_clock`: nothing is returned when the socket may be destroyed. -/
def PseudoTcpSocket.getNextClock (s : PseudoTcpSocket) (now : UInt32) : Option Int :=
  if s.shutdown = .forceful then none
  else if s.shutdown = .graceful ∧ (s.state ≠ .established ∨ (s.slen = 0 ∧ s.tAck = 0)) then none
  else if s.state = .closed then some closedTimeout
  else
    let timeout := defaultTimeout
    let timeout := if s.tAck ≠ 0 then min timeout (timeDiff (s.tAck + ackDelay) now) else timeout
    let timeout := if s.rtoBase ≠ 0 then min timeout (timeDiff (s.rtoBase + s.rxRto) now)
      else timeout
    some (if s.sndWnd = 0 then min timeout (timeDiff (s.lastsend + s.rxRto) now) else timeout)

/-- The entry points that change a socket. -/
inductive Entry where
  | connect
  /-- A call that callbacks may make too. -/
  | call (made : Call)
  | notifyClock
  /-- `pseudo_tcp_socket_notify_packet`. -/
  | notifyPacket (buffer : Mem) (len : UInt32)

/-- Run an entry point. -/
def Entry.run : Entry → Run Unit
  | .connect => do let _ ← PseudoTcp.connect user
  | .call made => runCall user made
  | .notifyClock => PseudoTcp.notifyClock user
  | .notifyPacket buffer len => do let _ ← PseudoTcp.notifyPacket user buffer len

/-- A packet has a whole header. -/
def Entry.Headed : Entry → Prop
  | .notifyPacket _ len => 24 ≤ len.toNat
  | _ => True

/-- The arrival of a packet. -/
def Entry.delivery (packet : Packet) : Entry :=
  .notifyPacket (Mem.ofList packet.bytes) (UInt32.ofNat packet.bytes.length)

/-- The same socket and trace in another environment. -/
def World.within (w : World) (env : Nat → Reply) : World := { w with env := env, pos := 0 }

/-- The world after an entry point. -/
def Entry.after (env : Nat → Reply) (w : World) : World :=
  (entry.run user (w.within env)).2

/-- The clock stands still and every packet is taken. -/
def steady : Nat → Reply := fun _ => ⟨1000, .success, []⟩

/-- A new socket, with nothing done yet. -/
def World.new (conversation now : UInt32) : World where
  sock := PseudoTcpSocket.new conversation now
  trace := []
  env := fun _ => ⟨0, .success, []⟩
  pos := 0

/-- Worlds reached by runs in which application code nests to `depth` and every entry point meets a
condition. The result is that of the last entry point; a fault ends the run. -/
inductive Reachable (depth : Nat) (meets : World → Entry → (Nat → Reply) → Prop) :
    Except Fault Unit → World → Prop
  /-- A new socket. -/
  | new (conversation now : UInt32) : Reachable depth meets (.ok ()) (World.new conversation now)
  /-- One more entry point. -/
  | step {w w' : World} {result : Except Fault Unit} (entry : Entry) (env : Nat → Reply)
      (before : Reachable depth meets (.ok ()) w) (condition : meets w entry env)
      (ended : entry.run (userCode depth) (w.within env) = (result, w')) :
      Reachable depth meets result w'

/-- A run goes on behind an entry point that returns. -/
theorem Reachable.next {depth : Nat} {meets : World → Entry → (Nat → Reply) → Prop} {w : World}
    (env : Nat → Reply) (before : Reachable depth meets (.ok ()) w) (condition : meets w entry env)
    (returned : (entry.run (userCode depth) (w.within env)).1 = .ok ()) :
    Reachable depth meets (.ok ()) (entry.after (userCode depth) env w) :=
  .step entry env before condition (Prod.ext returned rfl)

/-- A given socket, with nothing done yet. -/
def World.holding (s : PseudoTcpSocket) : World where
  sock := s
  trace := []
  env := fun _ => ⟨0, .success, []⟩
  pos := 0

/-- Runs from a given world in which every entry point returns. -/
inductive Runs (depth : Nat) (meets : Entry → (Nat → Reply) → Prop) (start : World) : World → Prop
  /-- Nothing is done. -/
  | refl : Runs depth meets start start
  /-- One more entry point. -/
  | step {w w' : World} (entry : Entry) (env : Nat → Reply) (before : Runs depth meets start w)
      (condition : meets entry env)
      (returned : entry.run (userCode depth) (w.within env) = (.ok (), w')) :
      Runs depth meets start w'

/-- Such a run goes on. -/
theorem Runs.next {depth : Nat} {meets : Entry → (Nat → Reply) → Prop} {start w : World}
    (env : Nat → Reply) (before : Runs depth meets start w) (condition : meets entry env)
    (returned : (entry.run (userCode depth) (w.within env)).1 = .ok ()) :
    Runs depth meets start (entry.after (userCode depth) env w) :=
  .step entry env before condition (Prod.ext returned rfl)

end Xice.PseudoTcp
