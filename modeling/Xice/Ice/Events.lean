import Xice.Ice.Checking
import Xice.Ice.Dropping

/-!
# Events

What happens to an agent from outside is a sequence of steps, or a change by the client that frees
the check lists. Every agent that is reached is sound.
-/

namespace Xice.Ice

open Xice.Stun XiceAgent List

variable {a b : XiceAgent} {streamId componentId : Nat} {out : Outside} {rules : Rules}
  {stray : Prop}

/-! ## Events that are steps -/

/-- Each remote candidate is new to the component when it is added. -/
def NewRemotes (streamId componentId : Nat) : XiceAgent → List CandidateData → Prop
  | _, [] => True
  | agent, data :: rest =>
    (∀ component, agent.findComponent streamId componentId = some component →
      componentFindRemoteCandidate agent component data.addr data.transport = none) ∧
    NewRemotes streamId componentId (privAddRemoteCandidate agent streamId componentId data) rest

/-- The candidates that `xice_agent_set_remote_candidates` adds. -/
def validCandidates (candidates : List CandidateData) : List CandidateData :=
  candidates.filter fun data => data.addr.isValid

/-- The candidates of `xice_agent_set_remote_candidates` are added. -/
theorem steps_addRemoteCandidates (sound : Sound rules.stray a) (forms : rules.forms) (list : List CandidateData)
    (fresh : rules.again ∨ NewRemotes streamId componentId a list) :
    Steps rules a (list.foldl (fun agent data =>
      privAddRemoteCandidate agent streamId componentId data) a) := by
  induction list generalizing a with
  | nil => exact .refl
  | cons data rest ih =>
    rw [foldl_cons]
    have added : Steps rules a (privAddRemoteCandidate a streamId componentId data) :=
      steps_addRemoteCandidate sound forms data (fresh.imp_right And.left)
    exact added.trans (ih (added.sound sound) (fresh.imp_right And.right))

/-- Nothing is done, or the candidates are added and the checks go on if there are any. -/
theorem setRemoteCandidates_eq (sound : Sound rules.stray a) (forms : rules.forms) (candidates : List CandidateData)
    (timers : Timers)
    (fresh : rules.again ∨ NewRemotes streamId componentId a (validCandidates candidates)) :
    setRemoteCandidates out a streamId componentId candidates timers = a ∨
      ∃ set, Steps rules a set ∧
        setRemoteCandidates out a streamId componentId candidates timers =
          if validCandidates candidates = [] then set else connCheckScheduleNext out set timers := by
  unfold setRemoteCandidates
  split
  · exact .inl rfl
  · split
    · exact .inl rfl
    · right
      have added : Steps rules a ((validCandidates candidates).foldl (fun agent data =>
          privAddRemoteCandidate agent streamId componentId data) a) :=
        steps_addRemoteCandidates sound forms _ fresh
      exact ⟨_, added.trans (steps_remoteCandidatesSet (added.sound sound) forms), rfl⟩

/-- `xice_agent_set_remote_candidates` is a sequence of steps. -/
theorem steps_setRemoteCandidates (sound : Sound rules.stray a) (forms : rules.forms) (allowed : rules.timers)
    (candidates : List CandidateData) (timers : Timers)
    (fresh : rules.again ∨ NewRemotes streamId componentId a (validCandidates candidates)) :
    Steps rules a (setRemoteCandidates out a streamId componentId candidates timers) := by
  rcases setRemoteCandidates_eq sound forms candidates timers fresh with same | ⟨set, steps, whole⟩
  · rw [same]
  · rw [whole]
    split
    · exact steps
    · exact steps.trans (steps_scheduleNext (steps.sound sound) allowed timers)

/-- The rules let an agent do what an event asks of it. -/
def Permits (rules : Rules) (agent : XiceAgent) : Event → Prop
  | .setRemoteCredentials _ _ => True
  | .addHost _ _ _ _ _ => rules.forms
  | .addServer _ _ _ _ _ _ _ => rules.forms
  | .gatheringDone => rules.forms ∧ rules.again
  | .setRemoteCandidates streamId componentId candidates _ =>
    rules.forms ∧ rules.timers ∧
      (rules.again ∨ NewRemotes streamId componentId agent (validCandidates candidates))
  | .request _ _ _ _ message built =>
    let reply := iceConncheckCreateReply message agent.controllingMode agent.tieBreaker built
    rules.forms ∧ (reply.result = .roleConflict → rules.roles agent reply.control)
  | .reply streamId componentId _ _ message =>
    (rules.stray ∨ ∀ pair, answeredPair agent streamId message = some pair →
      pair.componentId = componentId) ∧
    (rules.forms ∧ rules.again ∨ ∀ mapped, message.kind = .response (some mapped) →
      mappedIsLocal agent streamId componentId mapped = true) ∧
    ∀ pair, answeredPair agent streamId message = some pair →
      iceConncheckProcess message = .roleConflict → rules.roles agent (!pair.controlling)
  | .tick _ => rules.timers
  | _ => False

/-- Every event that the rules permit is a sequence of steps. -/
theorem Event.steps (sound : Sound rules.stray a) (event : Event) (permits : Permits rules a event) :
    Steps rules a (event.run out a) := by
  cases event with
  | setRemoteCredentials streamId ufrag =>
    apply Turn.steps
    exact turn_onStream (fun _ => rfl) fun _ => rfl
  | addHost streamId componentId address socket username => exact steps_addHost sound permits _ _ _
  | addServer streamId componentId type address baseSocket socket username =>
    exact steps_addServer sound permits _ _ _ _ _
  | gatheringDone => exact steps_gatheringDone sound permits.1 permits.2
  | setRemoteCandidates streamId componentId candidates timers =>
    exact steps_setRemoteCandidates sound permits.1 permits.2.1 candidates timers permits.2.2
  | request streamId componentId socket source message built =>
    exact steps_handleRequest sound permits.1 permits.2
  | reply streamId componentId socket source message =>
    exact steps_handleReply sound permits.1 permits.2.1 permits.2.2
  | tick timers =>
    dsimp only [Event.run]
    split
    · exact steps_tick sound permits timers
    · exact .refl
  | addStream | removeStream | setControlling | restart | setSelectedPair
  | setSelectedRemoteCandidate => exact absurd permits id

/-! ## Calls of the client -/

/-- The agent goes on with its checks. -/
def Event.acts : Event → Bool
  | .addStream _ _ => false
  | .removeStream _ => false
  | .setControlling _ => false
  | .restart _ _ => false
  | .setSelectedPair _ _ _ _ => false
  | .setSelectedRemoteCandidate _ _ _ => false
  | _ => true

/-- The other calls free the check lists, add a stream, set the role or are refused. -/
theorem Event.outcome (out : Outside) (a : XiceAgent) {event : Event} (call : event.acts = false) :
    NoPairs (event.run out a) ∨ event.run out a = a ∨
      (∃ nComponents ufrag, event = .addStream nComponents ufrag) ∨
      ∃ controlling, event = .setControlling controlling := by
  cases event with
  | addStream nComponents ufrag => exact .inr (.inr (.inl ⟨nComponents, ufrag, rfl⟩))
  | setControlling controlling => exact .inr (.inr (.inr ⟨controlling, rfl⟩))
  | removeStream streamId =>
    cases found : a.findStream streamId with
    | none =>
      right; left
      simp only [Event.run, Ice.removeStream, found]
    | some stream =>
      left
      apply noPairs_of_prunes
      simp only [Event.prunes, found]
      rfl
  | restart tie ufrags =>
    left
    intro stream member
    obtain ⟨before, was, rfl⟩ := mem_map.mp member
    exact noPairs_connCheckFree before was
  | setSelectedPair streamId componentId lfoundation rfoundation =>
    cases found : a.findComponent streamId componentId with
    | none =>
      right; left
      simp only [Event.run, Ice.setSelectedPair, found]
    | some component =>
      cases chosen : componentFindPair a component lfoundation rfoundation with
      | none =>
        right; left
        simp only [Event.run, Ice.setSelectedPair, found, chosen]
      | some pair =>
        left
        apply noPairs_of_prunes
        simp only [Event.prunes, found, Option.bind_some, chosen]
        rfl
  | setSelectedRemoteCandidate streamId componentId data =>
    cases found : a.findComponent streamId componentId with
    | none =>
      right; left
      simp only [Event.run, Ice.setSelectedRemoteCandidate, found]
    | some component =>
      left
      apply noPairs_of_prunes
      simp only [Event.prunes, found]
      rfl
  | _ => exact absurd call (by simp [Event.acts])

/-- Answers come to the component that their check was sent from. -/
def Event.direct (agent : XiceAgent) : Event → Prop
  | .reply streamId componentId _ _ message =>
    ∀ pair, answeredPair agent streamId message = some pair → pair.componentId = componentId
  | _ => True

/-- What an agent may do when nothing is forbidden. -/
def Rules.free (stray : Prop) : Rules := ⟨fun _ _ => True, True, True, stray, True⟩

/-- Then every event that goes on with the checks is permitted. -/
theorem permits_free {event : Event} (acts : event.acts = true) (direct : stray ∨ event.direct a) :
    Permits (Rules.free stray) a event := by
  cases event with
  | setRemoteCandidates streamId componentId candidates timers =>
    exact ⟨trivial, trivial, .inl trivial⟩
  | request streamId componentId socket source message built =>
    exact ⟨trivial, fun _ => trivial⟩
  | reply streamId componentId socket source message =>
    exact ⟨direct, .inl ⟨trivial, trivial⟩, fun _ _ _ => trivial⟩
  | gatheringDone => exact ⟨trivial, trivial⟩
  | _ => first | exact trivial | exact absurd acts (by simp [Event.acts])

/-! ## Sound agents -/

section

variable (sound : Sound stray a)

include sound

/-- Checks are freed. -/
theorem Sound.free : Sound stray (connCheckFree a) := by
  refine sound.within rfl rfl rfl rfl ?_ ?_
  · unfold connCheckFree
    rw [map_map]
    rfl
  · intro after member
    obtain ⟨before, was, rfl⟩ := mem_map.mp member
    refine ⟨before, was, Stream.Within.of_pairs rfl rfl ?_, nil_subset _⟩
    exact fun pair among => absurd among not_mem_nil

/-- Checks are pruned. -/
theorem Sound.prune : Sound stray (connCheckPruneStream a streamId) := by
  unfold connCheckPruneStream
  dsimp only
  rw [pruneLoop_self, if_pos rfl]
  apply Sound.free
  apply sound.onList
  intro list
  exact nil_subset _

/-- A signal is emitted. -/
theorem Sound.signal (state : XiceComponentState) :
    Sound stray (signalComponentStateChange a streamId componentId state) :=
  (turn_signal streamId componentId state).sound sound

/-- A pair is selected. -/
theorem Sound.select (near far : CandidateRef) (priority : UInt64) :
    Sound stray (selectPair a streamId componentId near far priority) := by
  refine Turn.sound ?_ sound
  exact turn_onComponent fun _ => rfl

/-- A stream is added. -/
theorem Sound.addStream (nComponents : Nat) (ufrag : List UInt8) :
    Sound stray (addStream a nComponents ufrag) := by
  have grow : ∀ {home own near ref}, Owns a home own near ref →
      Owns (Ice.addStream a nComponents ufrag) home own near ref := fun owns =>
    owns.grow (Nat.le_refl _) fun _ _ => rfl
  have origin : ∀ after ∈ (Ice.addStream a nComponents ufrag).streams, after ∈ a.streams ∨
      after.id = a.nextStreamId ∧ after.conncheckList = [] ∧
        ∀ component ∈ after.components, component.localCandidates = [] ∧
          component.remoteCandidates = [] := by
    intro after member
    rcases mem_append.mp member with old | new
    · exact .inl old
    · right
      rw [mem_singleton.mp new]
      refine ⟨rfl, rfl, ?_⟩
      intro component among
      obtain ⟨_, _, rfl⟩ := mem_map.mp among
      exact ⟨rfl, rfl⟩
  constructor
  · constructor
    · have ids : (Ice.addStream a nComponents ufrag).streams.map Stream.id =
          a.streams.map Stream.id ++ [a.nextStreamId] := by
        unfold Ice.addStream
        rw [map_append]
        rfl
      rw [ids]
      apply sound.ids.append (nodup_singleton _)
      apply disjoint_singleton.mpr
      intro used
      obtain ⟨stream, member, same⟩ := mem_map.mp used
      exact Nat.ne_of_lt (sound.below stream member) same
    · intro after member
      rcases origin after member with old | ⟨id, _⟩
      · exact Nat.lt_succ_of_lt (sound.below after old)
      · rw [id]
        exact Nat.lt_succ_self _
    · exact sound.ranked
    · intro after member pair among
      rcases origin after member with old | ⟨_, list, _⟩
      · obtain ⟨below, here, present, near, far⟩ := sound.pairs after old pair among
        exact ⟨below, here, present, grow near, far.imp grow⟩
      · rw [list] at among
        exact absurd among not_mem_nil
    · intro after member component among
      rcases origin after member with old | ⟨_, _, none_yet⟩
      · obtain ⟨nodup, owns⟩ := sound.locals after old component among
        exact ⟨nodup, fun ref inside => grow (owns ref inside)⟩
      · rw [(none_yet component among).1]
        exact ⟨nodup_nil, fun ref inside => absurd inside not_mem_nil⟩
    · intro after member component among
      rcases origin after member with old | ⟨_, _, none_yet⟩
      · obtain ⟨nodup, owns⟩ := sound.remotes after old component among
        exact ⟨nodup, fun ref inside => grow (owns ref inside)⟩
      · rw [(none_yet component among).2]
        exact ⟨nodup_nil, fun ref inside => absurd inside not_mem_nil⟩
  · intro after member later present pair among twin inside same
    rcases origin after member with old | ⟨_, list, _⟩
    · rcases origin later present with old_later | ⟨_, list, _⟩
      · exact sound.unique after old later old_later pair among twin inside same
      · rw [list] at inside
        exact absurd inside not_mem_nil
    · rw [list] at among
      exact absurd among not_mem_nil
  · intro after member pair among waits
    rcases origin after member with old | ⟨_, list, _⟩
    · exact sound.waiting after old pair among waits
    · rw [list] at among
      exact absurd among not_mem_nil

/-- Streams and candidates stay. -/
theorem Sound.of_same (streams : b.streams = a.streams)
    (next : b.nextStreamId = a.nextStreamId) (candidates : b.candidates = a.candidates)
    (allocated : b.allocated = a.allocated) (compatibility : b.compatibility = a.compatibility) :
    Sound stray b := by
  apply sound.within compatibility next candidates allocated
  · rw [streams]
  · intro after member
    rw [streams] at member
    exact ⟨after, member, Stream.Within.of_core rfl, List.Subset.refl _⟩

/-- A stream is removed. -/
theorem Sound.removeStream : Sound stray (removeStream a streamId) := by
  unfold Ice.removeStream
  split
  · exact sound
  · dsimp only
    have pruned : Sound stray (connCheckPruneStream a streamId) := sound.prune
    have erased : Sound stray { connCheckPruneStream a streamId with
        streams := (connCheckPruneStream a streamId).streams.eraseP fun stream =>
          stream.id = streamId } := by
      refine pruned.within rfl rfl rfl rfl (List.Sublist.map _ eraseP_sublist) ?_
      intro after member
      exact ⟨after, mem_of_mem_eraseP member, Stream.Within.of_core rfl, List.Subset.refl _⟩
    exact erased.of_same rfl rfl rfl rfl rfl

/-- The agent is restarted. -/
theorem Sound.restart (tie : UInt64) (ufrags : Nat → List UInt8) :
    Sound stray (restart a tie ufrags) := by
  refine sound.free.within rfl rfl rfl rfl ?_ ?_
  · unfold Ice.restart
    rw [map_map]
    rfl
  · intro after member
    obtain ⟨before, was, rfl⟩ := mem_map.mp member
    refine ⟨before, was, ⟨rfl, ?_, ?_, ?_⟩, List.Subset.refl _⟩
    · intro pair among
      exact .inl ⟨pair, among, rfl, rfl, rfl, rfl, rfl⟩
    · intro component among
      exact ⟨componentRestart component, mem_map_of_mem among, rfl⟩
    · intro component among
      obtain ⟨earlier, inside, rfl⟩ := mem_map.mp among
      exact .inl ⟨earlier, inside, rfl, List.Sublist.refl _, nil_sublist _⟩

/-- The client selects a pair. -/
theorem Sound.setSelectedPair (lfoundation rfoundation : List Char) :
    Sound stray (setSelectedPair a streamId componentId lfoundation rfoundation) := by
  unfold Ice.setSelectedPair
  split
  · exact sound
  · split
    · exact sound
    · dsimp only
      split
      · exact sound.prune
      · exact ((sound.prune.signal .ready).select _ _ _).of_same rfl rfl rfl rfl rfl

/-- The client selects a remote candidate. -/
theorem Sound.setSelectedRemoteCandidate (data : CandidateData) :
    Sound stray (setSelectedRemoteCandidate a streamId componentId data) := by
  have selected : ∀ {agent : XiceAgent} (component : Component), Sound stray agent →
      Sound stray (componentSetSelectedRemoteCandidate agent streamId component data).2 := by
    intro agent component sound
    unfold componentSetSelectedRemoteCandidate
    split
    · exact sound
    · split
      · exact sound.select _ _ _
      · obtain ⟨added, _, _⟩ := steps_addRemote (Rules.free stray) sound
          (data.candidate streamId component.id) rfl rfl rfl
        exact (added.sound sound).select _ _ _
  unfold Ice.setSelectedRemoteCandidate
  split
  · exact sound
  · dsimp only
    split
    · exact sound.prune
    · split
      · exact ((selected _ sound.prune).signal .ready).of_same rfl rfl rfl rfl rfl
      · exact selected _ sound.prune

end

/-- Every event keeps the agent sound. -/
theorem Event.sound (sound : Sound stray a) (event : Event) (direct : stray ∨ event.direct a) :
    Sound stray (event.run out a) := by
  cases acts : event.acts with
  | true =>
    have steps : Steps (Rules.free stray) a (event.run out a) :=
      event.steps sound (permits_free acts direct)
    exact steps.sound sound
  | false =>
    cases event with
    | addStream nComponents ufrag => exact sound.addStream nComponents ufrag
    | removeStream streamId => exact sound.removeStream
    | setControlling controlling => exact sound.of_same rfl rfl rfl rfl rfl
    | restart tie ufrags => exact sound.restart tie ufrags
    | setSelectedPair streamId componentId lfoundation rfoundation =>
      exact sound.setSelectedPair lfoundation rfoundation
    | setSelectedRemoteCandidate streamId componentId data =>
      exact sound.setSelectedRemoteCandidate data
    | _ => exact absurd acts (by simp [Event.acts])

/-- A new agent is sound. -/
theorem sound_new (compatibility : XiceCompatibility) (controlling : Bool) (tie : UInt64)
    (maxConnChecks : UInt32) (reliable : Bool) :
    Sound stray (XiceAgent.new compatibility controlling tie maxConnChecks reliable) := by
  have none_yet : ∀ {stream : Stream}, stream ∉
      (XiceAgent.new compatibility controlling tie maxConnChecks reliable).streams := not_mem_nil
  constructor
  · constructor
    · exact nodup_nil
    · intro stream member
      exact absurd member none_yet
    · intro ref socket
      exact absurd socket (by simp [XiceAgent.new, XiceCandidate.new])
    · intro stream member
      exact absurd member none_yet
    · intro stream member
      exact absurd member none_yet
    · intro stream member
      exact absurd member none_yet
  · intro stream member
    exact absurd member none_yet
  · intro stream member
    exact absurd member none_yet

/-- So is the agent of a run. -/
theorem Reachable.sound {meets : XiceAgent → Event → Prop} (reach : Reachable out meets a)
    (direct : stray ∨ ∀ agent event, meets agent event → event.direct agent) : Sound stray a := by
  induction reach with
  | new compatibility controlling tie maxConnChecks reliable => exact sound_new _ _ _ _ _
  | step event before condition ih =>
    exact event.sound ih (direct.imp_right fun every => every _ event condition)

end Xice.Ice
