import Xice.Ice.Standstill

/-!
# Pairs of the same candidates

Only `agent_gathering_done` looks for a pair of the same candidates, for each local candidate, but
then pairs all of them. The other functions rely on one candidate being new. It is not when a remote
candidate is set again, nor when a check finds a new local candidate, which is paired with every
remote candidate before the discovered pair is added.
-/

namespace Xice.Ice

open Xice.Stun XiceAgent List

variable {a : XiceAgent} {out : Outside} {rules : Rules}

/-! ## Distinct pairs -/

/-- The candidates of a pair. -/
def CandidateCheckPair.ends (pair : CandidateCheckPair) : CandidateRef × CandidateRef :=
  (pair.localCand, pair.remoteCand)

/-- No two entries have the same two candidates. -/
def NoTwins (list : List CandidateCheckPair) : Prop := (list.map CandidateCheckPair.ends).Nodup

instance : DecidablePred NoTwins := fun list =>
  inferInstanceAs (Decidable (list.map CandidateCheckPair.ends).Nodup)

/-- No check list has two entries of the same candidates. -/
abbrev Distinct (agent : XiceAgent) : Prop := agent.Each NoTwins

/-- They are distinct if they were formed so. -/
theorem hereditary_noTwins : Hereditary fun _ => NoTwins := by
  have own : ∀ list : List CandidateCheckPair, list.map CandidateCheckPair.ends =
      (list.map CandidateCheckPair.core).map CandidateCheckPair.ends := by
    intro list
    rw [map_map]
    rfl
  constructor
  · intro _ list other sublist distinct
    exact List.Nodup.sublist (sublist.map _) distinct
  · intro _ list other same distinct
    unfold NoTwins
    rwa [own, same, ← own]

/-- A pair of candidates that are not paired yet. -/
theorem noTwins_placed {pair : CandidateCheckPair} {list : List CandidateCheckPair}
    (unpaired : ∀ other ∈ list,
      ¬(other.localCand = pair.localCand ∧ other.remoteCand = pair.remoteCand))
    (distinct : NoTwins list) : NoTwins (placed pair list) := by
  have moved : (placed pair list).Perm (pair :: ((list.takeWhile fun other => other.priority ≠ 0) ++
      list.dropWhile fun other => other.priority ≠ 0)) := perm_middle
  rw [takeWhile_append_dropWhile] at moved
  apply (moved.map _).nodup_iff.mpr
  rw [map_cons]
  apply nodup_cons.mpr
  apply And.intro _ distinct
  intro twice
  obtain ⟨other, among, alike⟩ := mem_map.mp twice
  exact unpaired other among (Prod.mk.inj alike)

/-- It is kept when no candidates are paired again. -/
theorem noTwins_keptBy (once : ¬rules.again) (shape : List (Nat × List Nat)) :
    KeptBy (fun _ => NoTwins) rules shape := by
  constructor
  · intro agent streamId pair _ _ _ fresh distinct
    exact noTwins_placed (fresh.resolve_left once) distinct
  · intro agent streamId pair _ _ again _
    exact absurd again once
  · intro agent control _ _ _ each
    unfold privCheckForRoleConflict
    split
    · apply each.of_lists
      intro after member
      obtain ⟨before, present, rfl⟩ := mem_map.mp member
      apply Exists.intro before
      apply And.intro present
      intro distinct
      unfold NoTwins
      rwa [map_map]
    · exact each

/-! ## Runs -/

instance NewRemotes.decidable (streamId componentId : Nat) :
    ∀ (agent : XiceAgent) (list : List CandidateData),
      Decidable (NewRemotes streamId componentId agent list)
  | _, [] => instDecidableTrue
  | agent, data :: rest =>
    have := NewRemotes.decidable streamId componentId
      (privAddRemoteCandidate agent streamId componentId data) rest
    inferInstanceAs (Decidable ((∀ component,
      agent.findComponent streamId componentId = some component →
        componentFindRemoteCandidate agent component data.addr data.transport = none) ∧ _))

/-- Remote candidates are set once, gathering ends when every pair is formed, and checks are
answered from an address of a local candidate. -/
def Event.pairsOnce (agent : XiceAgent) : Event → Prop
  | .setRemoteCandidates streamId componentId candidates _ =>
    NewRemotes streamId componentId agent (validCandidates candidates)
  | .gatheringDone => AllPaired agent
  | .reply streamId componentId _ _ message =>
    ∀ mapped, message.kind = .response (some mapped) →
      mappedIsLocal agent streamId componentId mapped = true
  | _ => True

instance (agent : XiceAgent) (event : Event) : Decidable (event.pairsOnce agent) :=
  match event with
  | .setRemoteCandidates streamId componentId candidates _ =>
    inferInstanceAs (Decidable (NewRemotes streamId componentId agent (validCandidates candidates)))
  | .gatheringDone => inferInstanceAs (Decidable (AllPaired agent))
  | .reply streamId componentId _ _ message =>
    inferInstanceAs (Decidable (∀ mapped, message.kind = .response (some mapped) →
      mappedIsLocal agent streamId componentId mapped = true))
  | .addStream _ _ | .removeStream _ | .setRemoteCredentials _ _ | .addHost _ _ _ _ _
  | .addServer _ _ _ _ _ _ _ | .request _ _ _ _ _ _ | .tick _ | .setControlling _ | .restart _ _
  | .setSelectedPair _ _ _ _ | .setSelectedRemoteCandidate _ _ _ => isTrue trivial

/-- Such an event keeps the pairs distinct. -/
theorem Event.keeps_distinct (sound : Sound True a) (distinct : Distinct a) (event : Event)
    (once : event.pairsOnce a) : Distinct (event.run out a) := by
  let rules : Rules := ⟨fun _ _ => True, False, True, True, True⟩
  have permitted : Permits rules a event → Distinct (event.run out a) := by
    intro permits
    have steps : Steps rules a (event.run out a) := event.steps sound permits
    exact steps.each sound hereditary_noTwins (noTwins_keptBy id _) distinct
  cases acts : event.acts with
  | false => exact Event.each_of_call (P := fun _ => NoTwins) (fun _ => nodup_nil) acts distinct
  | true =>
    cases event with
    | gatheringDone =>
      dsimp only [Event.run]
      rwa [agentGatheringDone_of_allPaired once]
    | setRemoteCandidates streamId componentId candidates timers =>
      exact permitted ⟨trivial, trivial, .inr once⟩
    | request streamId componentId socket source message built =>
      exact permitted ⟨trivial, fun _ => trivial⟩
    | reply streamId componentId socket source message =>
      exact permitted ⟨.inl trivial, .inr once, fun _ _ _ => trivial⟩
    | setRemoteCredentials streamId ufrag => exact permitted trivial
    | addHost streamId componentId address socket username => exact permitted trivial
    | addServer streamId componentId type address baseSocket socket username =>
      exact permitted trivial
    | tick timers => exact permitted trivial
    | _ => exact absurd acts (by simp [Event.acts])

/-- In a run of such events, the pairs of a check list have different candidates. -/
theorem Reachable.distinct (reach : Reachable out (fun agent event => event.pairsOnce agent) a) :
    Distinct a := by
  induction reach with
  | new compatibility controlling tie maxConnChecks reliable => exact each_new _ _ _ _ _
  | step event before condition ih =>
    exact event.keeps_distinct (before.sound (.inl trivial)) ih condition

/-- The peer names two candidates, and the check of the first one is answered. -/
theorem distinct_of_two_remotes :
    MeetsAll .counting (fun agent event => event.pairsOnce agent) (.new .rfc5245 true 5 100 false)
      (Event.setUpWith [.host 3 200, .host 4 100] ++
        [.reply 1 1 7 (.ip4 2 3) (.success 0 (.ip4 1 7))]) ∧
    Distinct ((XiceAgent.new .rfc5245 true 5 100 false).play .counting
      (Event.setUpWith [.host 3 200, .host 4 100] ++
        [.reply 1 1 7 (.ip4 2 3) (.success 0 (.ip4 1 7))])) := by
  have meets : MeetsAll .counting (fun agent event => event.pairsOnce agent)
      (.new .rfc5245 true 5 100 false) (Event.setUpWith [.host 3 200, .host 4 100] ++
        [.reply 1 1 7 (.ip4 2 3) (.success 0 (.ip4 1 7))]) := by decide +kernel
  apply And.intro meets
  exact Reachable.distinct ((Reachable.new _ _ _ _ _).play _ meets)

/-- An agent with one pair, after one more event. -/
def onePairThen (event : Event) : XiceAgent :=
  (XiceAgent.new .rfc5245 true 5 100 false).play .counting (Event.setUpWith [.host 3 100] ++ [event])

/-- A remote candidate is set again, or a check is answered from an address that is not local: two
entries have the same candidates. -/
theorem twins_after_update_and_discovery :
    (Reachable .counting (fun _ _ => True)
      (onePairThen (.setRemoteCandidates 1 1 [.host 3 100] .quiet)) ∧
      ¬Distinct (onePairThen (.setRemoteCandidates 1 1 [.host 3 100] .quiet))) ∧
    Reachable .counting (fun _ _ => True)
      (onePairThen (.reply 1 1 7 (.ip4 2 3) (.success 0 (.ip4 9 9)))) ∧
      ¬Distinct (onePairThen (.reply 1 1 7 (.ip4 2 3) (.success 0 (.ip4 9 9)))) := by
  have reached : ∀ event, Reachable .counting (fun _ _ => True) (onePairThen event) := by
    intro event
    apply (Reachable.new _ _ _ _ _).play
    exact ⟨trivial, trivial, trivial, trivial, trivial, trivial⟩
  exact ⟨⟨reached _, by decide +kernel⟩, reached _, by decide +kernel⟩

end Xice.Ice
