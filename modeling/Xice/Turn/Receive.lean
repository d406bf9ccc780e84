import Xice.Turn.Channels

/-!
# Packets that are received

What `xice_turn_socket_parse_recv` hands to the upper layer for one packet, and what
`read_callback` makes of it. The label `recv` is reached by packets of any origin, and the length
of a ChannelData message is not compared with that of the packet.
-/

namespace Xice.Turn

open Xice.Ice (XiceAddress)
open Xice.Lib List
open Xice.Socket (Message XiceSocketCondition XiceTurnSocketCompatibility)
open Xice.Stun

variable {effect : Effect} {last : TurnSocket} {recvBuf : Mem} {recvLen : Nat}

/-- The condition, the bytes and the source. -/
abbrev Upcall := XiceSocketCondition × List UInt8 × Option XiceAddress

/-- The call of the upper layer that an entry stands for. -/
def Effect.upcall? : Effect → Option Upcall
  | .upcall condition buf source => some (condition, buf, source)
  | _ => none

/-- The calls of the upper layer. -/
def upcalls (log : List Entry) : List Upcall := log.filterMap fun entry => entry.2.upcall?

/-- Calls of two parts. -/
theorem upcalls_append (log more : List Entry) :
    upcalls (log ++ more) = upcalls log ++ upcalls more := filterMap_append

/-- Silent effects are no calls. -/
theorem Effect.upcall?_of_silent (silent : effect.isUpcall = false) :
    effect.upcall? = none := by
  cases effect with
  | upcall => exact absurd silent (by simp [isUpcall])
  | ask | wrap | bare | refuse | permit | send | choose | answer | confirm | timer | renewal | remove =>
    rfl

/-- Nor are there any in a silent log. -/
theorem upcalls_of_silent {more : List Entry}
    (silent : ∀ entry ∈ more, entry.2.isUpcall = false) : upcalls more = [] :=
  filterMap_eq_nil_iff.mpr fun entry member =>
    Effect.upcall?_of_silent (silent entry member)

/-- The relay is silent. -/
theorem Effect.isUpcall_of_ofRelay (relay : effect.ofRelay = true) :
    effect.isUpcall = false := by
  cases effect with
  | send | permit => rfl
  | ask | wrap | bare | refuse | upcall | choose | answer | confirm | timer | renewal | remove =>
    exact absurd relay (by simp [ofRelay])

namespace TurnSocket

variable {env : Env}

variable {turn : TurnSocket} {recvFrom : XiceAddress}

/-- So are requests. -/
theorem Working.silent (working : turn.Working effect) :
    effect.isUpcall = false := by
  cases working with
  | other relay => exact Effect.isUpcall_of_ofRelay relay
  | choose | renewal => rfl

/-- A silent move calls nobody. -/
theorem Move.upcalls (move : Move env false turn last) :
    upcalls last.log = upcalls turn.log := by
  have grown : ∀ {log more : List Entry}, (∀ entry ∈ more, entry.2.isUpcall = false) →
      Turn.upcalls (log ++ more) = Turn.upcalls log := fun silent => by
    rw [upcalls_append, upcalls_of_silent silent, append_nil]
  cases move with
  | upcall condition buf source allowed => exact absurd allowed (by decide)
  | wait elapsed => rfl
  | quiet quiet =>
    obtain ⟨more, log, other⟩ := quiet.log
    rw [log]
    exact grown fun entry member => (other entry member).2
  | works works =>
    obtain ⟨more, log, writes⟩ := works.log
    rw [log]
    exact grown fun entry member => (writes entry member).2.silent
  | answer | idle | renew => exact grown (forall_mem_singleton.mpr rfl)
  | retry asked taken again =>
    rename_i request binding next
    obtain ⟨more, log, other⟩ := again.log
    have sent : Turn.upcalls next.log = Turn.upcalls turn.log := by
      rw [log, grown fun entry member => Effect.isUpcall_of_ofRelay (other entry member).2]
      exact grown (forall_mem_singleton.mpr rfl)
    split
    · exact (grown (forall_mem_singleton.mpr rfl)).trans sent
    · exact sent
  | confirm asked =>
    rename_i request
    rw [(confirmed_spec env turn request).log]
    exact grown (by simp [Effect.isUpcall])
  | expire | reclaim =>
    exact (grown (forall_mem_singleton.mpr rfl)).trans (grown (forall_mem_singleton.mpr rfl))

/-- Nor do silent moves. -/
theorem Moves.upcalls (moves : Moves env false turn last) :
    upcalls last.log = upcalls turn.log := by
  induction moves with
  | refl => rfl
  | tail _ move ih => exact move.upcalls.trans ih

/-- The packets are delivered with what the upper layer sends meanwhile. -/
theorem upcalls_callback (env : Env) (mode : turn.Rfc5766) (condition : XiceSocketCondition)
    (buf : List UInt8) (source : Option XiceAddress) :
    upcalls (turn.callback env condition buf source).1.log =
      upcalls turn.log ++ [(condition, buf, source)] := by
  have rfc : (turn.emit (.upcall condition buf source)).Rfc5766 := mode
  have sends : Moves env false (turn.emit (.upcall condition buf source))
      (turn.callback env condition buf source).1 := moves_sends env rfc _
  exact (Moves.upcalls sends).trans (upcalls_append _ _)

/-- The first binding with the number that a packet starts with. -/
def boundTo (turn : TurnSocket) (recvBuf : Mem) : Option ChannelBinding :=
  turn.priv.channels.find? fun binding => binding.channel = ntohs recvBuf 0

/-- The length that the header of a ChannelData message states. -/
def stated (recvBuf : Mem) : Nat := (ntohs recvBuf 2).toNat

/-- What the label `recv` delivers. -/
def received (turn : TurnSocket) (len : Nat) (recvFrom : XiceAddress) (recvBuf : Mem)
    (recvLen : Nat) : Upcall :=
  match turn.boundTo recvBuf with
  | some binding => (.readable, (recvBuf.offset 4).read (min len (stated recvBuf)), some binding.peer)
  | none => (.readable, recvBuf.read (min len recvLen), some recvFrom)

/-- The label `recv` makes one call. -/
theorem upcalls_recv (env : Env) (mode : turn.Rfc5766) (len : Nat) (recvFrom : XiceAddress)
    (recvBuf : Mem) (recvLen : Nat) :
    upcalls (turn.recv env len recvFrom recvBuf recvLen).log =
      upcalls turn.log ++ [turn.received len recvFrom recvBuf recvLen] := by
  rw [recv, if_pos (.inr (show turn.priv.compatibility = .rfc5766 from mode)), received, boundTo]
  cases turn.priv.channels.find? fun binding => binding.channel = ntohs recvBuf 0 with
  | some | none => exact upcalls_callback env mode _ _ _

/-- What `stun_agent_validate` returns for a packet. -/
def validated (env : Env) (turn : TurnSocket) (recvBuf : Mem) (recvLen : Nat) : Option Validation :=
  (turn.priv.agent.validate env.platform emptyMessage recvBuf (UInt64.ofNat recvLen) none).value

/-- The methods that the socket takes in. -/
def ownMethods : List StunMethod :=
  [methodSend, methodIndSend, methodChannelBind, methodCreatePermission]

/-- An accepted message of such a method and of some classes. -/
def Takes (env : Env) (turn : TurnSocket) (recvBuf : Mem) (recvLen : Nat) (classes : List StunClass) :
    Prop :=
  ∃ validation, turn.validated env recvBuf recvLen = some validation ∧
    validation.status = .success ∧ validation.msg.getMethod.value ∈ ownMethods ∧
    validation.msg.getClass.value ∈ classes

/-- A packet of a stranger comes to the label `recv`. -/
theorem parseRecv_stranger (env : Env) (mode : turn.Rfc5766)
    (stranger : ¬turn.priv.serverAddr.equal recvFrom = true) (recvBuf : Mem) (recvLen : Nat) :
    upcalls (turn.parseRecv env recvLen recvFrom recvBuf recvLen).1.log =
      upcalls turn.log ++ [turn.received recvLen recvFrom recvBuf recvLen] := by
  rw [parseRecv, if_neg stranger]
  exact upcalls_recv env mode recvLen recvFrom recvBuf recvLen

/-! ### Whose data it is -/

/-- The first binding with the number is one of the list. -/
theorem boundTo_some {binding : ChannelBinding}
    (found : turn.boundTo recvBuf = some binding) :
    binding ∈ turn.priv.channels ∧ binding.channel = ntohs recvBuf 0 := by
  have holds := find?_some found
  exact ⟨mem_of_find?_eq_some found, by simpa using holds⟩

/-- The socket with the first peer bound. -/
def boundSocket : TurnSocket := plainSocket.run plainEnv (reordered.take 2)

end TurnSocket

end Xice.Turn
