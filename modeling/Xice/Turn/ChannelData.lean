import Xice.Turn.Receive

/-!
# ChannelData messages

A packet from the server that starts with the number of a binding reaches the label `recv`. What is
delivered lies inside a packet that is as long as its header states; and what `socket_send` makes
for a bound peer comes back as its payload when the first binding with its number is the peer's.
-/

namespace Xice.Turn

open Xice.Ice (XiceAddress)
open Xice.Lib List
open Xice.Socket (Message XiceSocketCondition XiceTurnSocketCompatibility)
open Xice.Stun

variable {recvBuf : Mem} {buf : List UInt8}

/-- A packet that starts with a channel number is not a STUN message. -/
theorem validate_channel (platform : Platform) (agent : StunAgent) (msg : StunMessage)
    (recvLen : UInt64) (channel : 0x4000 ≤ ntohs recvBuf 0) (validater : Option Validater) :
    (agent.validate platform msg recvBuf recvLen validater).value = some ⟨.notStun, msg, agent⟩ := by
  have large : ¬(recvBuf 0 >>> 6 = 0) := by
    rw [shiftRight_six]
    have size := UInt16.le_iff_toNat_le.mp channel
    rw [toNat_ntohs, show (0x4000 : UInt16).toNat = 16384 from rfl] at size
    have low := (recvBuf (0 + 1)).toNat_lt
    omega
  have refused : (validateBufferLength recvBuf recvLen
      !agent.usageFlags.noAlignedAttributes).value = some bufferInvalid := by
    rw [validateBufferLength_eq]
    by_cases empty : recvLen < 1
    · rw [if_pos empty]
      rfl
    · rw [if_neg empty, Reading.value_bind, if_pos large]
      rfl
  rw [StunAgent.validate, Reading.value_bind, refused]
  rfl

namespace TurnSocket

variable {env : Env}

/-- Channel numbers are large enough. -/
def Ranged (turn : TurnSocket) : Prop := ∀ binding ∈ turn.priv.channels, 0x4000 ≤ binding.channel

variable (channel : UInt16) {turn : TurnSocket} {binding : ChannelBinding}

/-- A packet on a bound channel reaches the label `recv`. -/
theorem upcalls_bound (env : Env) (mode : turn.Rfc5766) (ranged : turn.Ranged)
    (found : turn.boundTo recvBuf = some binding) (recvFrom : XiceAddress) (recvLen : Nat) :
    upcalls (turn.parseRecv env recvLen recvFrom recvBuf recvLen).1.log = upcalls turn.log ++
      [(.readable, (recvBuf.offset 4).read (min recvLen (stated recvBuf)), some binding.peer)] := by
  have delivered : turn.received recvLen recvFrom recvBuf recvLen =
      (.readable, (recvBuf.offset 4).read (min recvLen (stated recvBuf)), some binding.peer) := by
    rw [received, found]
  rw [← delivered]
  by_cases server : turn.priv.serverAddr.equal recvFrom = true
  · obtain ⟨listed, number⟩ := boundTo_some found
    have channel : 0x4000 ≤ ntohs recvBuf 0 := number ▸ ranged binding listed
    rw [parseRecv, if_pos server, validate_channel env.platform turn.priv.agent emptyMessage
      (UInt64.ofNat recvLen) channel none]
    exact upcalls_recv env mode recvLen recvFrom recvBuf recvLen
  · exact parseRecv_stranger env mode server recvBuf recvLen

/-- Payloads lie in the packet behind the header, with the length that is stated. -/
def Framed (turn : TurnSocket) (recvBuf : Mem) (recvLen : Nat) (last : TurnSocket) : Prop :=
  ∀ delivered, upcalls last.log = upcalls turn.log ++ delivered → ∀ call ∈ delivered,
    call.2.1.length = stated recvBuf ∧ 4 + call.2.1.length ≤ recvLen ∧
      call.2.1 = (recvBuf.offset 4).read call.2.1.length

/-- That is so for packets that are long enough. -/
theorem framed_parseRecv_iff (env : Env) (mode : turn.Rfc5766) (ranged : turn.Ranged) (found : turn.boundTo recvBuf = some binding) (recvFrom : XiceAddress)
    (recvLen : Nat) :
    turn.Framed recvBuf recvLen (turn.parseRecv env recvLen recvFrom recvBuf recvLen).1 ↔
      4 + stated recvBuf ≤ recvLen := by
  have calls := upcalls_bound env mode ranged found recvFrom recvLen
  constructor
  · intro framed
    obtain ⟨whole, inside, -⟩ := framed _ calls _ (mem_singleton_self _)
    simp only [Mem.length_read] at whole inside
    omega
  · intro fits delivered same call member
    rw [calls] at same
    obtain rfl := append_cancel_left same
    rw [mem_singleton.mp member]
    simp only [Mem.length_read]
    exact ⟨by omega, by omega, trivial⟩

/-! ### The way there and back -/

/-- The datagrams that payloads become. -/
def wraps (log : List Entry) : List (XiceAddress × List UInt8 × List UInt8) :=
  log.filterMap fun entry => match entry.2 with
    | .wrap peer buf datagram => some (peer, buf, datagram)
    | _ => none

/-- The last datagram that was made is that of the payload. -/
theorem wraps_sendDatagram (env : Env) (turn : TurnSocket) (peer : XiceAddress)
    (buf datagram : List UInt8) :
    (wraps (turn.sendDatagram env peer buf datagram).1.log).getLast? = some (peer, buf, datagram) := by
  rw [sendDatagram]
  split
  · simp [wraps, emit]
  · simp [wraps, emit, sendServer, baseSend]

/-- A payload is wrapped for a bound peer. -/
theorem wraps_socketSend (env : Env) (mode : turn.Rfc5766) {peer : XiceAddress}
    (found : turn.priv.channels.find? (fun binding => binding.peer.equal peer) = some binding)
    (small : buf.length ≤ 65531) :
    (wraps (turn.socketSend env peer buf).1.log).getLast? =
      some (peer, buf, channelData binding.channel buf) := by
  have channel : (turn.emit (.ask ⟨some peer, buf⟩)).priv.channels.find?
      (fun binding => binding.peer.equal peer) = some binding := found
  have rfc : (turn.emit (.ask ⟨some peer, buf⟩)).priv.compatibility = .rfc5766 := mode
  have fits : buf.length + 4 ≤ stunMaxMessageSize := by
    rw [stunMaxMessageSize]
    omega
  simp only [socketSend, channel, rfc, or_true, if_true, if_pos fits]
  exact wraps_sendDatagram env _ peer buf _

/-- The header has four bytes. -/
theorem length_channelData (buf : List UInt8) :
    (channelData channel buf).length = 4 + buf.length := by
  simp [channelData, htons]
  omega

/-- They are the number and the length. -/
theorem ntohs_channelData (buf : List UInt8) :
    ntohs (Mem.ofList (channelData channel buf)) 0 = channel ∧
      ntohs (Mem.ofList (channelData channel buf)) 2 = UInt16.ofNat buf.length :=
  ⟨ntohs_htons rfl rfl, ntohs_htons rfl rfl⟩

/-- The payload follows. -/
theorem read_channelData (buf : List UInt8) :
    ((Mem.ofList (channelData channel buf)).offset 4).read buf.length = buf := by
  have whole := Mem.read_ofList (Nat.le_refl (channelData channel buf).length)
  have behind := Mem.read_offset (Mem.ofList (channelData channel buf)) 4 (4 + buf.length)
  rw [Nat.add_sub_cancel_left] at behind
  rw [behind, ← length_channelData channel buf, whole, take_length]
  rfl

/-- It is delivered as that of a peer exactly when the first binding with its number is the peer's.
-/
theorem delivered_channelData_iff (env : Env) (mode : turn.Rfc5766) (ranged : turn.Ranged)
    (bound : binding ∈ turn.priv.channels) (small : buf.length ≤ 65531)
    (recvFrom : XiceAddress) :
    upcalls (turn.parseRecv env (channelData binding.channel buf).length recvFrom
        (Mem.ofList (channelData binding.channel buf)) (channelData binding.channel buf).length).1.log =
        upcalls turn.log ++ [(.readable, buf, some binding.peer)] ↔
      ∀ first, turn.priv.channels.find? (fun other => other.channel = binding.channel) = some first →
        first.peer = binding.peer := by
  obtain ⟨number, length⟩ := ntohs_channelData binding.channel buf
  have search : turn.boundTo (Mem.ofList (channelData binding.channel buf)) =
      turn.priv.channels.find? (fun other => other.channel = binding.channel) := by
    rw [boundTo, number]
  obtain ⟨first, found⟩ : ∃ first, turn.priv.channels.find?
      (fun other => other.channel = binding.channel) = some first :=
    Option.isSome_iff_exists.mp (find?_isSome.mpr ⟨binding, bound, by simp⟩)
  have size : stated (Mem.ofList (channelData binding.channel buf)) = buf.length := by
    rw [stated, length]
    exact UInt16.toNat_ofNat_of_lt' (by simpa [UInt16.size] using (by omega : buf.length < 65536))
  have calls := upcalls_bound env mode ranged (search.trans found) recvFrom
    (channelData binding.channel buf).length
  have whole : min (channelData binding.channel buf).length buf.length = buf.length := by
    rw [length_channelData]
    omega
  rw [size, whole, read_channelData] at calls
  rw [calls, append_cancel_left_eq, found]
  simp

/-- What is delivered for a channel is framed exactly when the packet is long enough, and a payload
for a bound peer comes back exactly when the first binding with its number is the peer's. -/
theorem channelData_iff (env : Env) (turn : TurnSocket) (mode : turn.Rfc5766) (ranged : turn.Ranged) :
    (∀ (recvFrom : XiceAddress) (recvBuf : Mem) (recvLen : Nat) (binding : ChannelBinding),
      turn.priv.serverAddr.equal recvFrom = true → turn.boundTo recvBuf = some binding →
      (turn.Framed recvBuf recvLen (turn.parseRecv env recvLen recvFrom recvBuf recvLen).1 ↔
        4 + stated recvBuf ≤ recvLen)) ∧
    ∀ (sender : TurnSocket) (others : Env) (recvFrom peer : XiceAddress) (binding : ChannelBinding)
      (buf : List UInt8), sender.Rfc5766 → sender.priv.channels = turn.priv.channels →
      turn.priv.serverAddr.equal recvFrom = true →
      sender.priv.channels.find? (fun binding => binding.peer.equal peer) = some binding →
      buf.length ≤ 65531 →
      ∃ datagram, (wraps (sender.socketSend others peer buf).1.log).getLast? =
          some (peer, buf, datagram) ∧
        (upcalls (turn.parseRecv env datagram.length recvFrom (Mem.ofList datagram)
            datagram.length).1.log = upcalls turn.log ++ [(.readable, buf, some binding.peer)] ↔
          ∀ first, turn.priv.channels.find? (fun other => other.channel = binding.channel) =
            some first → first.peer = binding.peer) := by
  constructor
  · intro recvFrom recvBuf recvLen binding _ found
    exact framed_parseRecv_iff env mode ranged found recvFrom recvLen
  · intro sender others recvFrom peer binding buf rfc table _ found small
    refine ⟨channelData binding.channel buf, wraps_socketSend others rfc found small, ?_⟩
    exact delivered_channelData_iff env mode ranged (table ▸ mem_of_find?_eq_some found) small
      recvFrom

/-- The payload of a ChannelData message comes back to the first peer. -/
theorem channelData_one :
    boundSocket.Framed (Mem.ofList [0x40, 0, 0, 1, 5]) 5
      (boundSocket.parseRecv plainEnv 5 plainServer (Mem.ofList [0x40, 0, 0, 1, 5]) 5).1 ∧
    ∃ datagram, (wraps (boundSocket.socketSend plainEnv (plainPeer 1) [5]).1.log).getLast? =
        some (plainPeer 1, [5], datagram) ∧
      upcalls (boundSocket.parseRecv plainEnv datagram.length plainServer (Mem.ofList datagram)
        datagram.length).1.log = upcalls boundSocket.log ++ [(.readable, [5], some (plainPeer 1))] := by
  have mode : boundSocket.Rfc5766 := Moves.mode (moves_run plainEnv plainSocket rfl _)
  have table : boundSocket.priv.channels = [⟨0, plainPeer 1, 0x4000, false, some 3⟩] := by
    decide +kernel
  have ranged : boundSocket.Ranged := by
    rw [Ranged, table]
    decide
  have server : boundSocket.priv.serverAddr.equal plainServer = true := by decide +kernel
  have found : boundSocket.boundTo (Mem.ofList [0x40, 0, 0, 1, 5]) =
      some ⟨0, plainPeer 1, 0x4000, false, some 3⟩ := by
    rw [boundTo, table]
    decide
  obtain ⟨frames, returns⟩ := channelData_iff plainEnv boundSocket mode ranged
  refine ⟨(frames plainServer _ 5 _ server found).mpr (by decide), ?_⟩
  obtain ⟨datagram, made, back⟩ := returns boundSocket plainEnv plainServer (plainPeer 1)
    ⟨0, plainPeer 1, 0x4000, false, some 3⟩ [5] mode rfl server (by rw [table]; decide) (by decide)
  refine ⟨datagram, made, back.mpr ?_⟩
  rw [table]
  decide

/-- A packet of five bytes states a payload of five: four bytes behind the packet are delivered with
it. And of three bindings that share two numbers, the third one's payload is delivered as the second
one's. -/
theorem channelData_out_of_range :
    upcalls (boundSocket.parseRecv plainEnv 5 plainServer (Mem.ofList [0x40, 0, 0, 5, 1, 2, 3, 4, 5])
        5).1.log = [(.readable, [1, 2, 3, 4, 5], some (plainPeer 1))] ∧
      (let turn := plainSocket.run plainEnv
        (reordered ++ [(0, .setPeer (plainPeer 3)), (0, bindSuccess 3)])
       turn.priv.channels.map (fun binding => (binding.peer, binding.channel)) =
          [(plainPeer 2, 0x4001), (plainPeer 1, 0x4000), (plainPeer 3, 0x4001)] ∧
        upcalls (turn.parseRecv plainEnv 5 plainServer (Mem.ofList (channelData 0x4001 [7])) 5).1.log =
          [(.readable, [7], some (plainPeer 2))]) := by
  decide +kernel

end TurnSocket

end Xice.Turn
