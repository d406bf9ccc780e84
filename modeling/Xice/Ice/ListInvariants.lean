import Xice.Ice.Events

/-!
# Invariants of check lists

A property of check lists that does not depend on how far the checks are, nor gets lost with pairs
that are dropped, is kept by a step if it is kept where pairs are formed and ranked again.
-/

namespace Xice.Ice

open Xice.Stun XiceAgent List

variable {P Q : Nat → List CandidateCheckPair → Prop} {a b : XiceAgent} {streamId componentId : Nat}
  {out : Outside} {rules : Rules}

/-- Every check list has a property that may depend on the stream. -/
def XiceAgent.EachAt (P : Nat → List CandidateCheckPair → Prop) (agent : XiceAgent) : Prop :=
  ∀ stream ∈ agent.streams, P stream.id stream.conncheckList

/-- Every check list has a property. -/
abbrev XiceAgent.Each (P : List CandidateCheckPair → Prop) (agent : XiceAgent) : Prop :=
  agent.EachAt fun _ => P

instance [∀ id, DecidablePred (P id)] (agent : XiceAgent) : Decidable (agent.EachAt P) :=
  inferInstanceAs (Decidable (∀ stream ∈ agent.streams, P stream.id stream.conncheckList))

/-- A property of check lists that is about the pairs that were formed. -/
structure Hereditary (P : Nat → List CandidateCheckPair → Prop) : Prop where
  sublist : ∀ {id : Nat} {list other : List CandidateCheckPair}, list.Sublist other → P id other →
    P id list
  core : ∀ {id : Nat} {list other : List CandidateCheckPair},
    list.map CandidateCheckPair.core = other.map CandidateCheckPair.core → P id other → P id list

/-- An agent forms a pair for a component of its own. -/
structure Forms (rules : Rules) (agent : XiceAgent) (streamId : Nat) (pair : CandidateCheckPair) :
    Prop where
  sound : Sound rules.stray agent
  present : HasComponent agent streamId pair.componentId
  /-- The local candidate belongs to it. -/
  near : Owns agent streamId pair.componentId true pair.localCand
  /-- The pair has the priority that its candidates give it. -/
  priority : pair.priority = agent.candidatePairPriority pair.localCand pair.remoteCand

/-- Kept where pairs are formed and where their priorities are computed again. -/
structure KeptBy (P : Nat → List CandidateCheckPair → Prop) (rules : Rules)
    (shape : List (Nat × List Nat)) : Prop where
  placed : ∀ {agent : XiceAgent} {streamId : Nat} {pair : CandidateCheckPair},
    agent.skeleton = shape → Forms rules agent streamId pair → rules.forms →
      (rules.again ∨ Unpaired agent streamId pair.localCand pair.remoteCand) →
      P streamId (agent.checkList streamId) → P streamId (placed pair (agent.checkList streamId))
  appended : ∀ {agent : XiceAgent} {streamId : Nat} {pair : CandidateCheckPair},
    agent.skeleton = shape → Forms rules agent streamId pair → rules.again →
      P streamId (agent.checkList streamId) → P streamId (agent.checkList streamId ++ [pair])
  ranked : ∀ {agent : XiceAgent} {control : Bool}, agent.skeleton = shape →
    Sound rules.stray agent → rules.roles agent control → agent.EachAt P →
      (privCheckForRoleConflict agent control).EachAt P

namespace XiceAgent.EachAt

/-- Check lists that have the property when others have it. -/
theorem of_lists (each : a.EachAt P)
    (lists : ∀ after ∈ b.streams, ∃ before ∈ a.streams,
      P before.id before.conncheckList → P after.id after.conncheckList) : b.EachAt P := by
  intro after member
  obtain ⟨before, present, follows⟩ := lists after member
  exact follows (each before present)

/-- A change that leaves the streams alone. -/
theorem of_streams (each : a.EachAt P) (same : b.streams = a.streams) : b.EachAt P := by
  unfold EachAt
  rwa [same]

/-- A change that leaves the pairs that were formed. -/
theorem of_core (each : a.EachAt P) (hereditary : Hereditary P) (same : b.core = a.core) :
    b.EachAt P := by
  obtain ⟨_, _, _, _, _, streams, _⟩ := XiceAgent.core_eq same
  apply each.of_lists
  intro after member
  obtain ⟨before, present, cores⟩ := exists_of_map_eq streams member
  obtain ⟨id, _, _, list⟩ := Stream.core_eq cores
  rw [← id]
  exact ⟨before, present, hereditary.core list.symm⟩

/-- Nothing is to be shown of empty lists. -/
theorem of_noPairs (nil : ∀ id, P id []) (empty : NoPairs a) : a.EachAt P := by
  intro stream member
  rw [empty stream member]
  exact nil _

/-- A check list is changed. -/
theorem onList (each : a.EachAt P) {stray : Prop} (sound : Sound stray a)
    {change : List CandidateCheckPair → List CandidateCheckPair}
    (here : P streamId (a.checkList streamId) → Q streamId (change (a.checkList streamId)))
    (there : ∀ id list, id ≠ streamId → P id list → Q id list) :
    (a.onList streamId change).EachAt Q := by
  intro after member
  obtain ⟨before, present, rfl⟩ := mem_map.mp member
  have holds := each before present
  split
  · rename_i same
    dsimp only
    rw [← sound.checkList present, same] at holds ⊢
    exact here holds
  · rename_i other
    exact there _ _ other holds

/-- A component is changed. -/
theorem onComponent (each : a.EachAt P) (change : Component → Component) :
    (a.onComponent streamId componentId change).EachAt P :=
  each.of_lists (onStream_origin (fun _ _ _ => id) fun _ _ => id)

/-- A check list is limited. -/
theorem limit (each : a.EachAt P) (hereditary : Hereditary P) :
    (limitCheckList a streamId).EachAt P := by
  have shorter : ∀ (id : Nat) (limit : UInt32) (list : List CandidateCheckPair), P id list →
      P id (privLimitConnCheckListSize list limit) := by
    intro id limit list holds
    unfold privLimitConnCheckListSize
    dsimp only
    split
    · split
      · exact hereditary.sublist (nil_sublist _) holds
      · exact hereditary.sublist (take_sublist _ _) holds
    · exact holds
  exact limit_rule each
    (each.of_lists (onStream_origin (fun _ _ _ => shorter _ _ _) fun _ _ => id))

end XiceAgent.EachAt

/-! ## Steps -/

/-- A step keeps the property. -/
theorem Step.each (step : Step rules a b) (sound : Sound rules.stray a)
    (hereditary : Hereditary P) (kept : KeptBy P rules a.skeleton) (each : a.EachAt P) :
    b.EachAt P := by
  cases step with
  | turn turn => exact each.of_core hereditary turn.core
  | @pair streamId componentId near far state useCandidate forms present nearOwned farOwned fresh =>
    rw [insertNewPair_eq sound]
    have inserted : (a.onList streamId (placed
        (newPair a streamId componentId near far state useCandidate))).EachAt P :=
      each.onList sound (kept.placed rfl ⟨sound, present, nearOwned, rfl⟩ forms fresh)
        fun _ _ _ => id
    exact inserted.of_streams rfl
  | @discovered streamId componentId near parent again present nearOwned farOwned =>
    rw [addPeerReflexivePair_eq]
    have appended : (a.onList streamId fun list => list ++
        [newPair a streamId componentId near parent.remoteCand .discovered false]).EachAt P :=
      each.onList sound (kept.appended rfl ⟨sound, present, nearOwned, rfl⟩ again) fun _ _ _ => id
    exact appended.of_streams rfl
  | limit streamId => exact each.limit hereditary
  | candidate | update | foundation | timers => exact each.of_streams rfl
  | addLocal | addRemote => exact each.onComponent _
  | role allowed => exact kept.ranked rfl sound allowed each

/-- So does a sequence of steps. -/
theorem Steps.each (steps : Steps rules a b) (sound : Sound rules.stray a)
    (hereditary : Hereditary P) (kept : KeptBy P rules a.skeleton) (each : a.EachAt P) :
    b.EachAt P := by
  induction steps with
  | refl => exact each
  | tail before step ih =>
    rw [← Steps.skeleton before] at kept
    exact step.each (Steps.sound before sound) hereditary kept ih

/-- So does a call of the client that is no step. -/
theorem Event.each_of_call (nil : ∀ id, P id []) {event : Event} (call : event.acts = false)
    (each : a.EachAt P) : (event.run out a).EachAt P := by
  rcases Event.outcome out a call with empty | same | ⟨nComponents, ufrag, rfl⟩ | ⟨mode, rfl⟩
  · exact XiceAgent.EachAt.of_noPairs nil empty
  · rwa [same]
  · intro stream member
    rcases mem_append.mp member with old | new
    · exact each stream old
    · rw [mem_singleton.mp new]
      exact nil _
  · exact each.of_streams rfl

/-- A new agent has no check lists. -/
theorem each_new (compatibility : XiceCompatibility) (controlling : Bool) (tie : UInt64)
    (maxConnChecks : UInt32) (reliable : Bool) :
    (XiceAgent.new compatibility controlling tie maxConnChecks reliable).EachAt P := by
  intro stream member
  exact absurd member not_mem_nil

end Xice.Ice
