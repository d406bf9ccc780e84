import Xice.Ice.ListInvariants

/-!
# Events that leave the check lists alone

An end of gathering when every pair is formed, a new local candidate without remote ones, and the
setting of no remote candidates while no checks are stored: such events form no pair and start no
check.
-/

namespace Xice.Ice

open Xice.Stun XiceAgent List

variable {P : Nat → List CandidateCheckPair → Prop} {a : XiceAgent} {streamId componentId : Nat}
  {out : Outside} {component : Component}

/-- A fold whose steps change nothing. -/
theorem foldl_eq_self {α β : Type} {step : β → α → β} {start : β} (list : List α)
    (still : ∀ x ∈ list, step start x = start) : list.foldl step start = start := by
  induction list with
  | nil => rfl
  | cons first rest ih =>
    rw [foldl_cons, still first mem_cons_self]
    apply ih
    intro x member
    exact still x (mem_cons_of_mem _ member)

/-! ## Gathering -/

/-- Every local candidate is paired with every remote one. -/
def AllPaired (agent : XiceAgent) : Prop :=
  ∀ stream ∈ agent.streams, ∀ component ∈ stream.components,
    ∀ near ∈ component.localCandidates, ∀ far ∈ component.remoteCandidates,
      ((agent.checkList stream.id).any fun pair =>
        pair.localCand = near && pair.remoteCand = far) = true

instance (agent : XiceAgent) : Decidable (AllPaired agent) :=
  inferInstanceAs (Decidable (∀ stream ∈ agent.streams, ∀ component ∈ stream.components,
    ∀ near ∈ component.localCandidates, ∀ far ∈ component.remoteCandidates, _))

/-- Then the end of gathering changes nothing. -/
theorem agentGatheringDone_of_allPaired (paired : AllPaired a) : agentGatheringDone a = a := by
  apply foldl_eq_self
  intro stream present
  apply foldl_eq_self
  intro component inside
  apply foldl_eq_self
  intro near local_one
  apply foldl_eq_self
  intro far remote_one
  exact if_pos (paired stream present component inside near local_one far remote_one)

/-! ## Local candidates -/

/-- The component has no remote candidates. -/
def NoRemotes (agent : XiceAgent) (streamId componentId : Nat) : Bool :=
  (agent.findComponent streamId componentId).all fun component =>
    component.remoteCandidates = []

/-- A new local candidate is paired with nothing. -/
theorem each_addLocalCandidatePruned (alone : NoRemotes a streamId componentId = true)
    (each : a.EachAt P) (ref : CandidateRef) :
    (privAddLocalCandidatePruned a streamId componentId ref).2.EachAt P := by
  unfold privAddLocalCandidatePruned
  cases found : a.findComponent streamId componentId with
  | none => exact each
  | some component =>
    rw [NoRemotes, found] at alone
    dsimp only
    split
    · exact each
    · let added : XiceAgent := a.onComponent streamId componentId fun component =>
        { component with localCandidates := component.localCandidates ++ [ref] }
      have same : added.findComponent streamId componentId =
          some { component with localCandidates := component.localCandidates ++ [ref] } := by
        have changed : added.findComponent streamId componentId = _ :=
          findComponent_onComponent fun _ => rfl
        rw [changed, found]
        simp
      have nothing : connCheckAddForLocalCandidate added streamId componentId ref = added := by
        rw [connCheckAddForLocalCandidate, same]
        dsimp only
        rw [of_decide_eq_true alone]
        rfl
      dsimp only
      rw [nothing]
      exact each.onComponent _

/-- A local candidate with a foundation is paired with nothing. -/
theorem each_addFounded (alone : NoRemotes a streamId componentId = true) (each : a.EachAt P)
    (candidate filled : XiceCandidate) :
    (privAddLocalCandidatePruned ((privAssignFoundation a candidate).2.newCandidate filled).2
      streamId componentId ((privAssignFoundation a candidate).2.newCandidate filled).1).2.EachAt P := by
  obtain ⟨next, same⟩ := assignFoundation_snd (a := a) candidate
  rw [same]
  apply each_addLocalCandidatePruned
  · exact alone
  · exact each.of_streams rfl

/-- A host candidate while there are no remote ones. -/
theorem each_addHost (alone : NoRemotes a streamId componentId = true) (each : a.EachAt P)
    (address : XiceAddress) (socket : Option SocketRef) (username : Option (List UInt8)) :
    (discoveryAddLocalHostCandidate out a streamId componentId address socket username).EachAt P := by
  unfold discoveryAddLocalHostCandidate
  split
  · exact each
  · dsimp only
    split
    · obtain ⟨next, same⟩ := assignFoundation_snd (a := a) _
      rw [same]
      exact each.of_streams rfl
    · exact each_addFounded alone each _ _

/-- A candidate from a server while there are none. -/
theorem each_addServer (alone : NoRemotes a streamId componentId = true) (each : a.EachAt P)
    (type : XiceCandidateType) (address : XiceAddress) (baseSocket socket : SocketRef)
    (username : Option (List UInt8)) :
    (discoveryAddServerCandidate out a streamId componentId type address baseSocket socket
      username).EachAt P := by
  unfold discoveryAddServerCandidate
  split
  · exact each
  · exact each_addFounded alone each _ _

/-! ## Answers -/

instance (agent : XiceAgent) (streamId componentId : Nat) (reply : StunReply) :
    Decidable (∀ mapped, reply.kind = .response (some mapped) →
      mappedIsLocal agent streamId componentId mapped = true) :=
  match h : reply.kind with
  | .response (some mapped) =>
    decidable_of_iff (mappedIsLocal agent streamId componentId mapped = true) (by simp)
  | .response none | .error _ | .other => isTrue (by simp)

/-! ## Stored checks -/

/-- No component has stored checks. -/
def NoneStored (agent : XiceAgent) : Prop :=
  ∀ stream ∈ agent.streams, ∀ component ∈ stream.components, component.incomingChecks = []

instance (agent : XiceAgent) : Decidable (NoneStored agent) :=
  inferInstanceAs (Decidable (∀ stream ∈ agent.streams, ∀ component ∈ stream.components,
    component.incomingChecks = []))

/-- A component whose stored checks are freed has none. -/
theorem onComponent_eq_self (none_stored : NoneStored a) (streamId componentId : Nat) :
    (a.onComponent streamId componentId fun component => { component with incomingChecks := [] }) =
      a := by
  have same : ∀ stream ∈ a.streams, ∀ component ∈ stream.components,
      (if component.id = componentId then { component with incomingChecks := [] } else component) =
        component := by
    intro stream member component inside
    split
    · rw [← none_stored stream member component inside]
    · rfl
  have streams : (a.onComponent streamId componentId fun component =>
      { component with incomingChecks := [] }).streams = a.streams := by
    dsimp only [onComponent, onStream]
    rw [map_congr_left (g := id), map_id]
    intro stream member
    split
    · rw [map_congr_left (same stream member), map_id']
      rfl
    · rfl
  have rest : (a.onComponent streamId componentId fun component =>
      { component with incomingChecks := [] }) = { a with
        streams := (a.onComponent streamId componentId fun component =>
          { component with incomingChecks := [] }).streams } := rfl
  rw [rest, streams]

/-- Then there are no stored checks to process. -/
theorem remoteCandidatesSet_eq_self (none_stored : NoneStored a) :
    connCheckRemoteCandidatesSet out a = a := by
  apply foldl_eq_self
  intro stream _
  apply foldl_eq_self
  intro ref _
  unfold processPending
  split
  · rfl
  · split
    · rfl
    · rename_i component known
      obtain ⟨home, there, _, inside, _⟩ := exists_of_findComponent known
      rw [none_stored home there component inside]
      exact onComponent_eq_self none_stored _ _

/-- Nor does `xice_agent_set_remote_candidates` do anything without a valid candidate. -/
theorem setRemoteCandidates_eq_self (none_stored : NoneStored a) {candidates : List CandidateData}
    (none_named : validCandidates candidates = []) {timers : Timers} :
    setRemoteCandidates out a streamId componentId candidates timers = a := by
  unfold validCandidates at none_named
  unfold setRemoteCandidates
  split
  · rfl
  · split
    · rfl
    · dsimp only
      rw [none_named, if_pos rfl]
      exact remoteCandidatesSet_eq_self none_stored

end Xice.Ice
