import Xice.Ice.Events
import Xice.Lib.Decimal

/-!
# Foundations

A remote candidate that is learned from a check copies its foundation from a candidate of its type,
stream and IP address, or is given a number that is free in the last component with its component
id, whatever the stream.
-/

namespace Xice.Ice

open Xice.Stun List Option

/-- Other numbers have other digits. -/
theorem decimal_injective : Function.Injective decimal := by
  intro a b same
  unfold decimal at same
  rw [← Nat.ofDigitChars_ten_toDigits (n := a), same, Nat.ofDigitChars_ten_toDigits]

/-! ## Remote candidates -/

/-- The foundations of the remote candidates of a component. -/
def remoteFoundations (agent : XiceAgent) (component : Component) : List (List Char) :=
  component.remoteCandidates.map fun ref => (agent.candidates ref).foundation

/-- The number of `priv_highest_remote_foundation` is free: it tries one more than there are
candidates. -/
theorem highestRemoteFoundation_free (agent : XiceAgent) (component : Component) :
    decimal (privHighestRemoteFoundation agent component) ∉ remoteFoundations agent component := by
  have taken_iff (number : Nat) : (component.remoteCandidates.any fun ref =>
      (agent.candidates ref).foundation = decimal number) = true ↔
        decimal number ∈ remoteFoundations agent component := by
    simp [remoteFoundations]
  unfold privHighestRemoteFoundation
  dsimp only
  cases search : (List.range' 1 (component.remoteCandidates.length + 1)).find? fun number =>
      !component.remoteCandidates.any fun ref =>
        (agent.candidates ref).foundation = decimal number with
  | some number =>
    have free := List.find?_some search
    rwa [Bool.not_eq_true', ← Bool.not_eq_true, taken_iff] at free
  | none =>
    have taken : (List.range' 1 (component.remoteCandidates.length + 1)).map decimal ⊆
        remoteFoundations agent component := by
      intro foundation member
      obtain ⟨number, inside, rfl⟩ := mem_map.mp member
      have := List.find?_eq_none.mp search number inside
      rwa [Bool.not_eq_true', Bool.not_eq_false, taken_iff] at this
    have distinct : ((List.range' 1 (component.remoteCandidates.length + 1)).map decimal).Nodup :=
      List.Nodup.map decimal_injective nodup_range'
    have most := (subperm_of_subset distinct taken).length_le
    simp [remoteFoundations] at most

/-- A candidate has the type of a learned one and the IP address. -/
def XiceCandidate.alike (other : XiceCandidate) (address : XiceAddress) : Bool :=
  XiceCandidateType.peerReflexive = other.type && address.equal (other.addr.setPort address.port)

/-- No other candidate of the component has the foundation, but for those that are alike; if there
are some, one of them has it. -/
def Founds (agent : XiceAgent) (component : Component) (address : XiceAddress)
    (foundation : List Char) : Prop :=
  let others := component.remoteCandidates.map agent.candidates
  (∀ other ∈ others, other.alike address = false → other.foundation ≠ foundation) ∧
    ((∃ other ∈ others, other.alike address = true) →
      ∃ other ∈ others, other.alike address = true ∧ other.foundation = foundation)
  deriving Decidable

/-- The foundation is copied from the first candidate in the agent that is alike and of the stream.
-/
def copiedFrom (agent : XiceAgent) (streamId : Nat) (address : XiceAddress) : Option XiceCandidate :=
  (agent.everyCandidate Component.remoteCandidates).find? fun other =>
    XiceCandidateType.peerReflexive = other.type && streamId = other.streamId &&
      address.equal (other.addr.setPort address.port)

/-- The last component of any stream with the id. -/
def numberedIn (agent : XiceAgent) (componentId : Nat) : Option Component :=
  ((agent.streams.flatMap Stream.components).filter fun component =>
    component.id = componentId).getLast?

variable {agent : XiceAgent} {streamId componentId : Nat} {component : Component}

/-- The foundation that `discovery_learn_remote_peer_reflexive_candidate` gives. -/
theorem learned_foundation (out : Outside) (agent : XiceAgent) (streamId componentId : Nat)
    (priority : UInt32) (address : XiceAddress) (near far : Option CandidateRef) :
    let learned := discoveryLearnRemotePeerReflexiveCandidate out agent streamId componentId priority
      address near far
    (learned.2.candidates learned.1).foundation =
      match copiedFrom agent streamId address with
      | some other => other.foundation
      | none => ((numberedIn agent componentId).map fun last =>
          decimal (privHighestRemoteFoundation agent last)).getD [] := by
  intro learned
  obtain ⟨candidate, name, rfl, rfl, type, rfl, base, blank, made⟩ : ∃ candidate name,
      candidate.streamId = streamId ∧ candidate.componentId = componentId ∧
      candidate.type = .peerReflexive ∧ candidate.addr = address ∧ candidate.baseAddr = address ∧
      candidate.foundation = [] ∧ learned.2.candidates learned.1 =
        { privAssignRemoteFoundation agent candidate with username := name } := by
    refine ⟨_, _, ?_, ?_, ?_, ?_, ?_, ?_, if_pos rfl⟩ <;> rfl
  have search : (agent.everyCandidate Component.remoteCandidates).find? (fun other =>
      candidate.type = other.type && candidate.streamId = other.streamId &&
        candidate.addr.equal (other.addr.setPort candidate.baseAddr.port)) =
      copiedFrom agent candidate.streamId candidate.addr := by
    rw [type, base]
    rfl
  rw [made]
  simp only [privAssignRemoteFoundation, search]
  cases copiedFrom agent candidate.streamId candidate.addr with
  | some other => rfl
  | none =>
    cases last : numberedIn agent candidate.componentId with
    | none =>
      unfold numberedIn at last
      simp only [last]
      exact blank
    | some component =>
      unfold numberedIn at last
      simp only [last]
      rfl

/-- In a run the candidates of a component belong to its stream. -/
theorem Reachable.homes {out : Outside} {meets : XiceAgent → Event → Prop}
    (reach : Reachable out meets agent)
    (found : agent.findComponent streamId componentId = some component) :
    ∀ ref ∈ component.remoteCandidates, (agent.candidates ref).streamId = streamId := by
  intro ref among
  obtain ⟨stream, member, rfl, inside, rfl⟩ := exists_of_findComponent found
  have sound : Sound True agent := reach.sound (.inl trivial)
  exact ((sound.remotes stream member component inside).2 ref among).stream

/-- The foundation of a learned candidate is one of its own in its component just when the one that is
copied would be, or there is none to copy and the number that is free in the last component with the
component id is free in its own one. In a run the candidates of a component are at home in its
stream (`Reachable.homes`). -/
theorem learned_founds_iff (out : Outside) (priority : UInt32) (address : XiceAddress)
    (near far : Option CandidateRef)
    (found : agent.findComponent streamId componentId = some component)
    (homes : ∀ ref ∈ component.remoteCandidates, (agent.candidates ref).streamId = streamId) :
    let learned := discoveryLearnRemotePeerReflexiveCandidate out agent streamId componentId priority
      address near far
    Founds agent component address (learned.2.candidates learned.1).foundation ↔
      match copiedFrom agent streamId address with
      | some other => Founds agent component address other.foundation
      | none => ∃ last, numberedIn agent componentId = some last ∧ (last = component ∨
          decimal (privHighestRemoteFoundation agent last) ∉ remoteFoundations agent component) := by
  intro learned
  have foundation := learned_foundation out agent streamId componentId priority address near far
  rw [foundation]
  obtain ⟨stream, streams, inside⟩ := bind_eq_some_iff.mp found
  have listed : component ∈ agent.streams.flatMap Stream.components :=
    mem_flatMap.mpr ⟨stream, mem_of_find?_eq_some streams,
      mem_of_find?_eq_some inside⟩
  cases copied : copiedFrom agent streamId address with
  | some other => exact Iff.rfl
  | none =>
    -- none of the own candidates is alike: the foundation would have been copied from it
    have apart : ∀ ref ∈ component.remoteCandidates, (agent.candidates ref).alike address = false := by
      intro ref among
      have every : agent.candidates ref ∈ agent.everyCandidate Component.remoteCandidates := by
        obtain ⟨stream, member, components⟩ := mem_flatMap.mp listed
        exact mem_flatMap.mpr ⟨stream, member, mem_flatMap.mpr ⟨component, components,
          mem_map_of_mem among⟩⟩
      have other := List.find?_eq_none.mp copied _ every
      have own := homes ref among
      unfold XiceCandidate.alike
      grind
    have founds_iff (foundation : List Char) : Founds agent component address foundation ↔
        foundation ∉ remoteFoundations agent component := by
      unfold Founds remoteFoundations
      grind
    have named : component.id = componentId := by simpa using List.find?_some inside
    obtain ⟨last, picked⟩ : ∃ last, numberedIn agent componentId = some last :=
      ne_none_iff_exists'.mp fun none => by
        have empty := List.getLast?_eq_none_iff.mp none
        exact filter_eq_nil_iff.mp empty component listed (by simpa using named)
    dsimp only
    rw [founds_iff, picked]
    simp only [map_some, getD_some, some.injEq, exists_eq_left']
    constructor
    · exact .inr
    · rintro (rfl | free)
      · exact highestRemoteFoundation_free agent last
      · exact free

/-- An agent with one remote candidate, whose foundation is 1. -/
def numbered : XiceAgent :=
  (XiceAgent.new .rfc5245 true 5 100 false).play .counting (Event.setUpWith [.host 1 100])

/-- Its component. -/
def numberedComponent : Component := (numbered.findComponent 1 1).get (by decide +kernel)

/-- A learned candidate gets the number 2. -/
theorem learned_founds_iff_numbered :
    let learned := discoveryLearnRemotePeerReflexiveCandidate .counting numbered 1 1 5 (.ip4 9 9) none
      none
    (learned.2.candidates learned.1).foundation = ['2'] ∧
      Founds numbered numberedComponent (.ip4 9 9) (learned.2.candidates learned.1).foundation := by
  have found : numbered.findComponent 1 1 = some numberedComponent := (some_get _).symm
  have reach : Reachable .counting (fun _ _ => True) numbered := by
    apply (Reachable.new _ _ _ _ _).play
    decide +kernel
  refine ⟨by decide +kernel, ?_⟩
  refine (learned_founds_iff .counting 5 (.ip4 9 9) none none found (reach.homes found)).mpr ?_
  split
  · rename_i copied
    exact absurd (isSome_of_eq_some copied) (by decide +kernel)
  · exact ⟨numberedComponent, by decide +kernel, .inl rfl⟩

/-- With a second stream, whose component has no remote candidates, a candidate learned for the
first gets the number 1, the foundation of the host candidate there. -/
theorem learned_number_taken :
    let agent := numbered.play .counting [.addStream 1 [97]]
    let learned := discoveryLearnRemotePeerReflexiveCandidate .counting agent 1 1 5 (.ip4 9 9) none none
    let foundation := (learned.2.candidates learned.1).foundation
    agent.findComponent 1 1 = some numberedComponent ∧ foundation = ['1'] ∧
      ¬Founds agent numberedComponent (.ip4 9 9) foundation := by
  decide +kernel

end Xice.Ice
