import Xice.Stun.Authentication
import Xice.Turn.Moves

/-!
# Channel numbers

The walk of `priv_add_channel_binding` goes on with the second binding of the list when it counts
up, so the number of the first one is looked at once. A chosen number is free unless the first
binding holds it; the numbers stay distinct in every run in which that does not happen.
-/

namespace Xice.Turn

open Xice.Ice (XiceAddress)
open Xice.Lib List Option
open Xice.Stun

/-- The first binding holds a number, and the others all numbers below. -/
def Shadowed : List UInt16 → Prop
  | [] => False
  | head :: rest =>
    0x4000 < head ∧ ∀ offset < head.toNat - 0x4000, UInt16.ofNat (0x4000 + offset) ∈ rest

instance (bound : List UInt16) : Decidable (Shadowed bound) :=
  match bound with
  | [] => isFalse id
  | head :: rest => inferInstanceAs (Decidable (0x4000 < head ∧
      ∀ offset < head.toNat - 0x4000, UInt16.ofNat (0x4000 + offset) ∈ rest))

/-- The walk ends at the first number that is free behind the first binding. -/
theorem walkChannels_tail {bound : List UInt16} (zero : 0 ∉ bound.tail) (restarts : Nat)
    (channel : UInt16) (low : 0 < channel.toNat) (enough : 65536 - channel.toNat < restarts) :
    walkChannels bound restarts channel bound.tail ∉ bound.tail ∧
      (walkChannels bound restarts channel bound.tail = 0 ∨
        channel.toNat ≤ (walkChannels bound restarts channel bound.tail).toNat ∧
        ∀ number, channel.toNat ≤ number →
          number < (walkChannels bound restarts channel bound.tail).toNat →
          UInt16.ofNat number ∈ bound.tail) := by
  induction restarts generalizing channel with
  | zero => omega
  | succ restarts ih =>
    rw [walkChannels]
    by_cases held : channel ∈ bound.tail
    · rw [if_pos held]
      have size := channel.toNat_lt
      by_cases last : channel.toNat = 65535
      · -- The count wraps to zero, which no binding holds.
        have wraps : channel + 1 = 0 := UInt16.toNat_inj.mp (by simp [UInt16.toNat_add, last])
        obtain ⟨more, rfl⟩ : ∃ more, restarts = more + 1 := ⟨restarts - 1, by omega⟩
        rw [wraps, walkChannels, if_neg zero]
        exact ⟨zero, .inl rfl⟩
      · have next : (channel + 1).toNat = channel.toNat + 1 := by
          rw [UInt16.toNat_add]
          exact Nat.mod_eq_of_lt (by simpa using (by omega : channel.toNat + 1 < 65536))
        obtain ⟨free, below⟩ := ih (channel + 1) (by omega) (by omega)
        refine ⟨free, below.imp id fun held_below => ⟨by omega, fun number above before => ?_⟩⟩
        by_cases first : number = channel.toNat
        · rw [first, UInt16.ofNat_toNat]
          exact held
        · exact held_below.2 number (by omega) before
    · rw [if_neg held]
      exact ⟨held, .inr ⟨Nat.le_refl _, fun number above before => absurd before (by omega)⟩⟩

/-- The chosen number is free, unless it is shadowed. -/
theorem chosen_not_mem {bound : List UInt16} (zero : 0 ∉ bound)
    (range : 0x4000 ≤ TurnSocket.chosen bound) (clear : ¬Shadowed bound) :
    TurnSocket.chosen bound ∉ bound := by
  unfold TurnSocket.chosen at range ⊢
  rw [walkChannels] at range ⊢
  by_cases held : (0x4000 : UInt16) ∈ bound
  · rw [if_pos held] at range ⊢
    have walked := walkChannels_tail (fun member => zero (mem_of_mem_tail member)) 65535
      (0x4000 + 1) (by decide) (by decide)
    generalize walkChannels bound 65535 (0x4000 + 1) bound.tail = number at walked range ⊢
    obtain ⟨free, below⟩ := walked
    intro member
    cases bound with
    | nil => exact absurd member not_mem_nil
    | cons head rest =>
      rw [tail_cons] at free below
      rcases mem_cons.mp member with rfl | behind
      · rcases below with rfl | ⟨above, held_below⟩
        · exact absurd range (by decide)
        · have above : 0x4001 ≤ number.toNat := above
          refine clear ⟨UInt16.lt_iff_toNat_lt.mpr above, fun offset before => ?_⟩
          by_cases first : offset = 0
          · rw [first]
            refine (mem_cons.mp held).resolve_left fun same => ?_
            rw [← same] at above
            exact absurd above (by decide)
          · exact held_below _ (show 0x4001 ≤ 0x4000 + offset by omega) (by omega)
      · exact free behind
  · rw [if_neg held]
    exact held

namespace TurnSocket

/-- The bindings of the list, and the one that is asked for. -/
def live (turn : TurnSocket) : List ChannelBinding :=
  turn.priv.channels ++ turn.priv.currentBinding.toList

/-- A key that does not depend on timer or renewal. -/
def Steady {α : Type} (key : ChannelBinding → α) : Prop :=
  ∀ binding renew source, key { binding with renew := renew, timeoutSource := source } = key binding

variable {env : Env} {calls : Bool} {α : Type} {key : ChannelBinding → α}

variable {turn last : TurnSocket}

/-- The bindings decide. -/
theorem map_live_of_bindings (channels : last.priv.channels.map key = turn.priv.channels.map key)
    (current : last.priv.currentBinding = turn.priv.currentBinding) :
    last.live.map key = turn.live.map key := by
  rw [live, live, map_append, map_append, channels, current]

/-- A timer or renewal is set. -/
theorem map_set {index : Nat} {binding : ChannelBinding} {renew : Bool} {source : Option Ref}
    (steady : Steady key) (place : turn.priv.channels[index]? = some binding) :
    (turn.priv.channels.set index { binding with renew := renew, timeoutSource := source }).map key =
      turn.priv.channels.map key := by
  rw [List.map_set, steady binding]
  obtain ⟨below, rfl⟩ := List.getElem?_eq_some_iff.mp place
  rw [← List.getElem_map key (h := by simpa using below)]
  exact List.set_getElem_self _

/-- A confirmed binding was asked for. -/
theorem ConfirmedAs.live {request : TURNMessage} {taken : Option ChannelBinding}
    {channels : List ChannelBinding} (steady : Steady key)
    (confirmed : turn.ConfirmedAs request taken channels) :
    channels.map key = turn.live.map key := by
  cases confirmed with
  | added current =>
    rw [TurnSocket.live, current, map_append, map_append]
    exact congrArg (turn.priv.channels.map key ++ [·]) (steady _ _ _)
  | renewed free place =>
    rw [TurnSocket.live, free, toList_none, append_nil]
    exact map_set steady place
  | lost free => rw [TurnSocket.live, free, toList_none, append_nil]

/-- The bindings were there before, or those of the list and a new one. -/
theorem Move.live (steady : Steady key) (move : Move env calls turn last) :
    (last.live.map key).Subperm (turn.live.map key) ∨
      ∃ binding, turn.Fresh last binding ∧
        last.live.map key = turn.priv.channels.map key ++ [key binding] := by
  have same : ∀ {next : TurnSocket}, next.priv.channels.map key = turn.priv.channels.map key →
      next.priv.currentBinding = turn.priv.currentBinding →
      (next.live.map key).Subperm (turn.live.map key) := fun channels current =>
    map_live_of_bindings channels current ▸ List.Subperm.refl _
  cases move with
  | upcall | wait | answer | idle => exact .inl (same rfl rfl)
  | quiet quiet =>
    exact .inl (same (congrArg (fun b => b.channels.map key) quiet.bindings)
      (congrArg Bindings.currentBinding quiet.bindings))
  | works works =>
    cases current : last.priv.currentBinding with
    | none =>
      refine .inl (List.Sublist.subperm ?_)
      rw [TurnSocket.live, current, works.channels, toList_none, append_nil]
      exact (sublist_append_left _ _).map key
    | some binding =>
      rcases works.current binding current with old | fresh
      · exact .inl (same (congrArg (List.map key) works.channels) (current.trans old.symm))
      · refine .inr ⟨binding, fresh, ?_⟩
        rw [TurnSocket.live, current, works.channels, map_append]
        rfl
  | retry asked taken again =>
    obtain ⟨msg, -, bindings⟩ := again.bindings
    have sent := same (congrArg (fun b => b.channels.map key) bindings)
      (congrArg Bindings.currentBinding bindings)
    split <;> exact .inl sent
  | confirm asked =>
    rename_i request
    have confirmed := confirmed_spec env turn request
    rw [TurnSocket.live, confirmed.current, toList_none, append_nil,
      confirmed.channels.live steady]
    exact .inl (List.Subperm.refl _)
  | renew times => exact .inl (same (map_set steady times.place) rfl)
  | expire times =>
    refine .inl (List.Sublist.subperm (List.Sublist.map key ?_))
    exact (eraseIdx_sublist _ _).append_right _
  | reclaim times free =>
    refine .inl (List.Perm.subperm (List.Perm.map key ?_))
    have before : turn.live = turn.priv.channels := by
      rw [TurnSocket.live, free, toList_none, append_nil]
    obtain ⟨below, rfl⟩ := List.getElem?_eq_some_iff.mp times.place
    rw [before]
    exact perm_append_comm.trans (getElem_cons_eraseIdx_perm below)

/-! ### Runs -/

/-- A number is not chosen while the first binding shadows it. -/
def Clear : Effect → Prop
  | .choose bound _ => ¬Shadowed bound
  | _ => True

instance : DecidablePred Clear := fun effect =>
  match effect with
  | .choose bound _ => inferInstanceAs (Decidable (¬Shadowed bound))
  | .ask _ | .wrap _ _ _ | .bare _ _ | .refuse _ _ | .permit _ _ | .send _ _ | .upcall _ _ _
  | .answer _ _ | .confirm _ | .timer _ | .renewal _ | .remove _ => isTrue trivial

/-- The numbers are distinct, and none is too small. -/
structure Numbered (turn : TurnSocket) : Prop where
  distinct : (turn.live.map ChannelBinding.channel).Nodup
  range : ∀ binding ∈ turn.live, 0x4000 ≤ binding.channel

/-- Numbers are such. -/
theorem steady_channel : Steady ChannelBinding.channel := fun _ _ _ => rfl

/-- No binding has the number zero. -/
theorem Numbered.zero (numbered : turn.Numbered) : 0 ∉ turn.numbers := by
  intro member
  obtain ⟨binding, listed, zero⟩ := mem_map.mp member
  have range := numbered.range binding (mem_append_left _ listed)
  rw [zero] at range
  exact absurd range (by decide)

/-- Numbers stay in their range. -/
theorem Move.range (move : Move env calls turn last)
    (range : ∀ binding ∈ turn.live, 0x4000 ≤ binding.channel) :
    ∀ binding ∈ last.live, 0x4000 ≤ binding.channel := by
  have all : ∀ number ∈ turn.live.map ChannelBinding.channel, 0x4000 ≤ number :=
    forall_mem_map.mpr range
  rcases move.live steady_channel with fewer | ⟨binding, fresh, added⟩
  · exact forall_mem_map.mp fun number member => all number (fewer.subset member)
  · refine forall_mem_map.mp fun number member => ?_
    rw [added, mem_append, mem_singleton] at member
    rcases member with old | rfl
    · exact all number (((sublist_append_left _ _).map _).subset old)
    · exact fresh.range

/-- Moves keep the numbers distinct. -/
theorem Numbered.move (numbered : turn.Numbered) (move : Move env calls turn last)
    (clear : ∀ entry ∈ last.log, Clear entry.2) : last.Numbered := by
  refine ⟨?_, move.range numbered.range⟩
  rcases move.live steady_channel with ⟨some, perm, sublist⟩ | ⟨binding, fresh, added⟩
  · exact perm.nodup (numbered.distinct.sublist sublist)
  · have free : binding.channel ∉ turn.numbers := by
      have range := fresh.range
      rw [fresh.number] at range ⊢
      exact chosen_not_mem numbered.zero range (clear _ fresh.choice)
    have listed : (turn.priv.channels.map ChannelBinding.channel).Sublist
        (turn.live.map ChannelBinding.channel) := (sublist_append_left _ _).map _
    rw [added, ← concat_eq_append]
    exact (numbered.distinct.sublist listed).concat free

/-- In a run in which no choice is shadowed the numbers are distinct. -/
theorem channels_of_run (env : Env) (serverAddr : XiceAddress) (username password : List UInt8)
    (events : List (Nat × Event))
    (clear : ∀ entry ∈ ((turnSocketNew serverAddr username password .rfc5766).run env events).log,
      Clear entry.2) :
    (((turnSocketNew serverAddr username password .rfc5766).run env events).live.map
        ChannelBinding.channel).Nodup ∧
      ∀ binding ∈ ((turnSocketNew serverAddr username password .rfc5766).run env events).live,
        0x4000 ≤ binding.channel := by
  have moves := moves_run env (turnSocketNew serverAddr username password .rfc5766) rfl events
  have start : (turnSocketNew serverAddr username password .rfc5766).Numbered :=
    ⟨nodup_nil, forall_mem_nil _⟩
  have numbered := Moves.preserve (fun entry => Clear entry.2) Numbered
    (fun _ _ move good inv => inv.move move good) moves clear start
  exact ⟨numbered.distinct, numbered.range⟩

/-- Digests are zero, transactions are numbered, and every datagram is taken. -/
def plainEnv : Env where
  platform := zeroPlatform
  ids number := Vector.ofFn fun index => if index.val = 15 then UInt8.ofNat number else 0
  reliable := false
  baseSend _ := true
  callback _ := ([], true)

/-- A server. -/
def plainServer : XiceAddress := .ip4 0x01020304 3478

/-- A peer. -/
def plainPeer (number : UInt32) : XiceAddress := .ip4 number 1000

/-- A socket with an empty password. -/
def plainSocket : TurnSocket := turnSocketNew plainServer [117] [] .rfc5766

/-- A success response to a ChannelBind request. -/
def bindSuccess (number : UInt8) : Event :=
  .receive plainServer (Mem.ofList
    ([1, 9, 0, 0, 0x21, 0x12, 0xA4, 0x42] ++ List.replicate 11 0 ++ [number])) 20

/-- Two peers are bound. The first binding is renewed after it expired, so it goes behind the
second. -/
def reordered : List (Nat × Event) :=
  [(0, .setPeer (plainPeer 1)), (0, bindSuccess 0), (0, .setPeer (plainPeer 2)), (0, bindSuccess 1),
    (540000, .fire 3), (60000, .fire 8), (0, bindSuccess 2)]

/-- Two peers are bound to two numbers. -/
theorem channels_of_run_two :
    ((plainSocket.run plainEnv (reordered.take 4)).live.map ChannelBinding.channel).Nodup ∧
      ∀ binding ∈ (plainSocket.run plainEnv (reordered.take 4)).live, 0x4000 ≤ binding.channel :=
  channels_of_run plainEnv plainServer [117] [] (reordered.take 4) (by decide +kernel)

/-- A third peer gets the number of the second, which is now first. -/
theorem number_chosen_twice :
    (plainSocket.run plainEnv (reordered ++ [(0, .setPeer (plainPeer 3))])).live.map
      (fun binding => (binding.peer, binding.channel)) =
      [(plainPeer 2, 0x4001), (plainPeer 1, 0x4000), (plainPeer 3, 0x4001)] := by
  decide +kernel

end TurnSocket

end Xice.Turn
