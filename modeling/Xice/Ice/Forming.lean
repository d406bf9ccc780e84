import Xice.Ice.Soundness

/-!
# Candidates and pairs

The functions that make candidates and form pairs, as sequences of steps.
-/

namespace Xice.Ice

open Xice.Stun XiceAgent List

variable {a b : XiceAgent} {streamId componentId : Nat} {out : Outside} {rules : Rules}

variable (candidate : XiceCandidate) (state : XiceComponentState) {near far : CandidateRef}

/-- A loop of steps. -/
theorem steps_foldl {α : Type} {step : XiceAgent → α → XiceAgent} (list : List α) (sound : Sound rules.stray a)
    (steps : ∀ agent, Steps rules a agent → Sound rules.stray agent → ∀ x ∈ list,
      Steps rules agent (step agent x)) : Steps rules a (list.foldl step a) := by
  have every : ∀ rest ⊆ list, ∀ agent, Steps rules a agent →
      Steps rules a (rest.foldl step agent) := by
    intro rest
    induction rest with
    | nil =>
      intro _ agent before
      exact before
    | cons first rest ih =>
      intro inside agent before
      rw [foldl_cons]
      apply ih
      · exact fun _ member => inside (mem_cons_of_mem _ member)
      · exact before.trans (steps agent before (before.sound sound) first (inside mem_cons_self))
  exact every list (List.Subset.refl list) a Relation.ReflTransGen.refl

/-! ## Pairs -/

/-- A pair is formed. -/
theorem steps_addNewCheckPair {state : XiceCheckState} (useCandidate : Bool) (forms : rules.forms)
    (present : HasComponent a streamId componentId)
    (nearOwned : Owns a streamId componentId true near)
    (farOwned : OwnsFar rules.stray a streamId componentId far)
    (fresh : rules.again ∨ Unpaired a streamId near far) :
    Steps rules a (privAddNewCheckPair a streamId componentId near far state useCandidate) :=
  (Step.pair useCandidate forms present nearOwned farOwned fresh).steps.tail (Step.limit streamId)

/-- Two candidates are paired if they match. -/
theorem steps_addForCandidatePair (forms : rules.forms) (present : HasComponent a streamId componentId)
    (nearOwned : Owns a streamId componentId true near)
    (farOwned : Owns a streamId componentId false far)
    (fresh : rules.again ∨ Unpaired a streamId near far) :
    Steps rules a (privConnCheckAddForCandidatePair a streamId componentId near far) := by
  have formed : Steps rules a
      (privAddNewCheckPair a streamId componentId near far .frozen false) :=
    steps_addNewCheckPair false forms present nearOwned farOwned.far fresh
  exact addForCandidatePair_rule (P := Steps rules a) .refl formed fun _ _ before =>
    before.trans (turn_signal ..).steps

/-- Signals leave the pairs. -/
theorem checkList_signal (id : Nat) :
    (signalComponentStateChange a streamId componentId state).checkList id = a.checkList id :=
  signal_rule (P := fun after => after.checkList id = a.checkList id) state rfl fun _ _ =>
    checkList_onComponent _

/-- The limit only drops pairs. -/
theorem checkList_limit_subset (id : Nat) :
    (limitCheckList a streamId).checkList id ⊆ a.checkList id := by
  have nothing : privLimitConnCheckListSize [] a.maxConnChecks = [] := rfl
  apply limit_rule (P := fun after => after.checkList id ⊆ a.checkList id) (List.Subset.refl _)
  rw [checkList_onList_of_nil nothing]
  split
  · exact limit_subset _ _
  · exact List.Subset.refl _

variable (sound : Sound rules.stray a)

include sound

/-- A pair is the new one, or was there before. -/
theorem mem_checkList_insertNewPair {state : XiceCheckState}
    {useCandidate : Bool} {pair : CandidateCheckPair} {id : Nat}
    (member : pair ∈ (insertNewPair a streamId componentId near far state useCandidate).checkList id)
    :
    pair = newPair a streamId componentId near far state useCandidate ∨ pair ∈ a.checkList id := by
  rw [insertNewPair_eq sound] at member
  change pair ∈ (a.onList streamId _).checkList id at member
  rw [checkList_onList] at member
  split at member
  · exact mem_placed.mp member
  · exact .inr member

/-- Candidates without a pair stay so when others are paired. -/
theorem unpaired_addForCandidatePair {one other : CandidateRef}
    (unpaired : Unpaired a streamId near far) (different : ¬(one = near ∧ other = far)) :
    Unpaired (privConnCheckAddForCandidatePair a streamId componentId one other) streamId near
      far := by
  refine addForCandidatePair_rule (P := fun after => Unpaired after streamId near far) unpaired ?_ ?_
  · intro pair member
    rcases mem_checkList_insertNewPair sound (checkList_limit_subset _ member) with rfl | old
    · exact different
    · exact unpaired pair old
  · intro after state kept pair member
    rw [checkList_signal] at member
    exact kept pair member

/-- A loop that pairs candidates. -/
theorem steps_pairAll (forms : rules.forms) (list : List (CandidateRef × CandidateRef))
    (nodup : list.Nodup) (present : HasComponent a streamId componentId)
    (owned : ∀ pair ∈ list, Owns a streamId componentId true pair.1 ∧
      Owns a streamId componentId false pair.2)
    (fresh : rules.again ∨ ∀ pair ∈ list, Unpaired a streamId pair.1 pair.2) :
    Steps rules a (list.foldl (fun agent pair =>
      privConnCheckAddForCandidatePair agent streamId componentId pair.1 pair.2) a) := by
  -- the candidates that are still to come stay unpaired
  induction list generalizing a with
  | nil => exact .refl
  | cons first rest ih =>
    rw [foldl_cons]
    obtain ⟨apart, nodup⟩ := nodup_cons.mp nodup
    have formed : Steps rules a
        (privConnCheckAddForCandidatePair a streamId componentId first.1 first.2) := by
      obtain ⟨near, far⟩ := owned first mem_cons_self
      apply steps_addForCandidatePair forms present near far
      exact fresh.imp_right fun unpaired => unpaired first mem_cons_self
    apply formed.trans
    apply ih (formed.sound sound) nodup (formed.hasComponent present)
    · intro pair member
      obtain ⟨near, far⟩ := owned pair (mem_cons_of_mem _ member)
      exact ⟨formed.owns near, formed.owns far⟩
    · apply fresh.imp_right
      intro unpaired pair member
      apply unpaired_addForCandidatePair sound (unpaired pair (mem_cons_of_mem _ member))
      rintro ⟨near, far⟩
      exact apart (Prod.ext near far ▸ member)

/-- A remote candidate is paired with the local ones. -/
theorem steps_addForCandidate (forms : rules.forms) (farOwned : Owns a streamId componentId false far)
    (fresh : rules.again ∨ ∀ near, Unpaired a streamId near far) :
    Steps rules a (connCheckAddForCandidate a streamId componentId far) := by
  unfold connCheckAddForCandidate
  split
  · exact .refl
  · rename_i component found
    have present := hasComponent_of_find found
    obtain ⟨stream, member, rfl, inside, rfl⟩ := exists_of_findComponent found
    obtain ⟨nodup, owned⟩ := sound.locals stream member component inside
    rw [← foldl_map (f := fun near => (near, far)) (g := fun agent pair =>
      privConnCheckAddForCandidatePair agent stream.id component.id pair.1 pair.2)]
    apply steps_pairAll sound forms _ (nodup.map (Prod.mk_left_injective far)) present
    · exact forall_mem_map.mpr fun near among => ⟨owned near among, farOwned⟩
    · exact fresh.imp_right fun unpaired => forall_mem_map.mpr fun near _ => unpaired near

/-- A local candidate is paired with the remote ones. -/
theorem steps_addForLocalCandidate (forms : rules.forms) (nearOwned : Owns a streamId componentId true near)
    (fresh : rules.again ∨ ∀ far, Unpaired a streamId near far) :
    Steps rules a (connCheckAddForLocalCandidate a streamId componentId near) := by
  unfold connCheckAddForLocalCandidate
  split
  · exact .refl
  · rename_i component found
    have present := hasComponent_of_find found
    obtain ⟨stream, member, rfl, inside, rfl⟩ := exists_of_findComponent found
    obtain ⟨nodup, owned⟩ := sound.remotes stream member component inside
    rw [← foldl_map (f := fun far => (near, far)) (g := fun agent pair =>
      privConnCheckAddForCandidatePair agent stream.id component.id pair.1 pair.2)]
    apply steps_pairAll sound forms _ (nodup.map (Prod.mk_right_injective near)) present
    · exact forall_mem_map.mpr fun far among => ⟨nearOwned, owned far among⟩
    · exact fresh.imp_right fun unpaired => forall_mem_map.mpr fun far _ => unpaired far

omit sound

/-! ## New candidates -/

/-- No pair and no component has a candidate. -/
structure Unused (agent : XiceAgent) (ref : CandidateRef) : Prop where
  near : ∀ streamId far, Unpaired agent streamId ref far
  far : ∀ streamId near, Unpaired agent streamId near ref
  locals : ∀ stream ∈ agent.streams, ∀ component ∈ stream.components,
    ref ∉ component.localCandidates
  remotes : ∀ stream ∈ agent.streams, ∀ component ∈ stream.components,
    ref ∉ component.remoteCandidates

/-- A candidate that was not allocated before is not used. -/
theorem Sound.unused {stray : Prop} (sound : Sound stray a) (candidate : XiceCandidate) :
    Unused (a.newCandidate candidate).2 (a.newCandidate candidate).1 := by
  constructor
  · rintro streamId far pair member ⟨same, _⟩
    obtain ⟨stream, found, _, inside⟩ := exists_stream_of_mem member
    have below := (sound.pairs stream found pair inside).2.2.2.1.allocated
    rw [same] at below
    exact Nat.lt_irrefl _ below
  · rintro streamId near pair member ⟨_, same⟩
    obtain ⟨stream, found, _, inside⟩ := exists_stream_of_mem member
    obtain ⟨owner, _, own⟩ := (sound.pairs stream found pair inside).2.2.2.2
    have below := own.allocated
    rw [same] at below
    exact Nat.lt_irrefl _ below
  · intro stream member component inside used
    exact Nat.lt_irrefl _ ((sound.locals stream member component inside).2 _ used).allocated
  · intro stream member component inside used
    exact Nat.lt_irrefl _ ((sound.remotes stream member component inside).2 _ used).allocated

/-- A new candidate belongs to the component that it names. -/
theorem owns_newCandidate :
    Owns (a.newCandidate candidate).2 candidate.streamId candidate.componentId
      candidate.sockptr.isSome (a.newCandidate candidate).1 := by
  have made : (a.newCandidate candidate).2.candidates (a.newCandidate candidate).1 = candidate :=
    if_pos rfl
  constructor
  · exact Nat.lt_succ_self _
  · rw [made]
  · rw [made]
  · rw [made]

/-- A local candidate is added unless it is redundant. -/
theorem steps_addLocalCandidatePruned (sound : Sound rules.stray a) (forms : rules.forms) {ref : CandidateRef}
    (owned : Owns a streamId componentId true ref) (unused : Unused a ref) :
    Steps rules a (privAddLocalCandidatePruned a streamId componentId ref).2 := by
  unfold privAddLocalCandidatePruned
  split
  · exact .refl
  · dsimp only
    split
    · exact .refl
    · have added : Step rules a (a.onComponent streamId componentId fun component =>
          { component with localCandidates := component.localCandidates ++ [ref] }) :=
        Step.addLocal owned unused.locals
      apply added.steps.trans
      apply steps_addForLocalCandidate (added.sound sound) forms (added.extends.owns owned)
      right
      intro far pair member
      rw [checkList_onComponent] at member
      exact unused.near streamId far pair member

/-- A foundation changes the candidate and its user name only. -/
theorem assignFoundation_fst :
    ∃ foundation username, (privAssignFoundation a candidate).1 =
      { candidate with foundation := foundation, username := username } := by
  unfold privAssignFoundation
  dsimp only
  split
  · exact ⟨_, _, rfl⟩
  · exact ⟨_, candidate.username, rfl⟩

/-- The agent counts foundations. -/
theorem assignFoundation_snd :
    ∃ next, (privAssignFoundation a candidate).2 = { a with nextCandidateId := next } := by
  unfold privAssignFoundation
  dsimp only
  split
  · exact ⟨a.nextCandidateId, rfl⟩
  · exact ⟨_, rfl⟩

/-- So it makes a step. -/
theorem steps_assignFoundation : Steps rules a (privAssignFoundation a candidate).2 := by
  obtain ⟨next, same⟩ := assignFoundation_snd (a := a) candidate
  rw [same]
  exact (Step.foundation next).steps

/-- A local candidate is made for a component and added to it. -/
theorem steps_addLocal (sound : Sound rules.stray a) (forms : rules.forms) {candidate : XiceCandidate}
    (ranked : Ranked a.compatibility candidate) (socket : candidate.sockptr.isSome = true)
    (stream : candidate.streamId = streamId) (component : candidate.componentId = componentId) :
    let made := a.newCandidate candidate
    let agent := (privAddLocalCandidatePruned made.2 streamId componentId made.1).2
    Steps rules a agent ∧ Owns agent streamId componentId true made.1 := by
  intro made agent
  have new : Step rules a made.2 := Step.candidate ranked
  have owns : Owns made.2 streamId componentId true made.1 := by
    rw [← stream, ← component, ← socket]
    exact owns_newCandidate candidate
  have added : Steps rules made.2 agent :=
    steps_addLocalCandidatePruned (new.sound sound) forms owns (sound.unused candidate)
  exact ⟨new.steps.trans added, added.owns owns⟩

/-- A local candidate is given a foundation and added. -/
theorem steps_addFounded (rules : Rules) (sound : Sound rules.stray a)
    (forms : rules.forms) (candidate : XiceCandidate)
    (fill : XiceCandidate → XiceCandidate)
    (filled : ∀ foundation username,
      let made := fill { candidate with foundation := foundation, username := username }
      made.streamId = streamId ∧ made.componentId = componentId ∧ made.sockptr.isSome = true ∧
        ∃ type preference, preference ≤ 1 ∧
          made.priority = newPriority a.compatibility type preference componentId) :
    let founded := privAssignFoundation a candidate
    let made := founded.2.newCandidate (fill founded.1)
    let agent := (privAddLocalCandidatePruned made.2 streamId componentId made.1).2
    Steps rules a agent ∧ Owns agent streamId componentId true made.1 := by
  have founded : Steps rules a (privAssignFoundation a candidate).2 :=
    steps_assignFoundation candidate
  obtain ⟨foundation, username, same⟩ := assignFoundation_fst (a := a) candidate
  obtain ⟨stream, component, socket, type, preference, small, priority⟩ := filled foundation username
  rw [← same] at stream component socket priority
  have ranked : Ranked (privAssignFoundation a candidate).2.compatibility
      (fill (privAssignFoundation a candidate).1) := by
    intro _
    obtain ⟨next, same⟩ := assignFoundation_snd (a := a) candidate
    rw [same, component]
    exact ⟨type, preference, small, priority⟩
  obtain ⟨added, owns⟩ := steps_addLocal (founded.sound sound) forms ranked socket stream component
  exact ⟨founded.trans added, owns⟩

include sound

/-- `discovery_add_local_host_candidate`. -/
theorem steps_addHost (forms : rules.forms) (address : XiceAddress) (socket : Option SocketRef)
    (username : Option (List UInt8)) :
    Steps rules a
      (discoveryAddLocalHostCandidate out a streamId componentId address socket username) := by
  unfold discoveryAddLocalHostCandidate
  split
  · exact .refl
  · dsimp only
    split
    · exact steps_assignFoundation _
    · rename_i socket
      apply And.left
      apply steps_addFounded rules sound forms _ fun candidate =>
        { candidate with
          sockptr := some socket
          addr := out.socketAddr socket
          baseAddr := out.socketAddr socket }
      intro _ _
      exact ⟨rfl, rfl, rfl, .host, 1, UInt32.le_refl _, rfl⟩

/-- `discovery_add_server_reflexive_candidate` and `discovery_add_relay_candidate`. -/
theorem steps_addServer (forms : rules.forms) (type : XiceCandidateType) (address : XiceAddress)
    (baseSocket socket : SocketRef) (username : Option (List UInt8)) :
    Steps rules a (discoveryAddServerCandidate out a streamId componentId type address baseSocket
      socket username) := by
  unfold discoveryAddServerCandidate
  split
  · exact .refl
  · apply And.left
    apply steps_addFounded rules sound forms _ id
    intro _ _
    exact ⟨rfl, rfl, rfl, type, 0, UInt32.zero_le, rfl⟩

/-- `discovery_add_peer_reflexive_candidate`, and the owner of its candidate. -/
theorem steps_addPeerReflexive (forms : rules.forms) (address : XiceAddress) (baseSocket : SocketRef)
    (near far : Option CandidateRef) :
    let made := discoveryAddPeerReflexiveCandidate out a streamId componentId address baseSocket near
      far
    Steps rules a made.2 ∧ ∀ ref, made.1 = some ref → Owns made.2 streamId componentId true ref := by
  intro made
  unfold made discoveryAddPeerReflexiveCandidate
  split
  · exact ⟨Relation.ReflTransGen.refl, fun _ none_made => absurd none_made (by simp)⟩
  · let candidate : XiceCandidate :=
      { XiceCandidate.new .peerReflexive streamId componentId with
        addr := address
        baseAddr := out.socketAddr baseSocket
        priority := newPriority a.compatibility .peerReflexive 0 componentId }
    let fill (candidate : XiceCandidate) : XiceCandidate :=
      { candidate with
        username := joinedUsername out a candidate.username near far near
        sockptr := some baseSocket }
    obtain ⟨added, owns⟩ := steps_addFounded rules sound forms candidate fill fun _ _ =>
      ⟨rfl, rfl, rfl, .peerReflexive, 0, UInt32.zero_le, rfl⟩
    apply And.intro added
    intro ref returned
    dsimp only at returned
    split at returned
    · cases returned
      exact owns
    · exact absurd returned (by simp)

omit sound

/-! ## Candidates of the peer -/

/-- A remote candidate is made and added to a component. -/
theorem steps_addRemote (rules : Rules) (sound : Sound rules.stray a) (candidate : XiceCandidate)
    (socket : candidate.sockptr = none) (stream : candidate.streamId = streamId) (component : candidate.componentId = componentId) :
    let made := a.newCandidate candidate
    let agent := made.2.onComponent streamId componentId fun component =>
      { component with remoteCandidates := component.remoteCandidates ++ [made.1] }
    Steps rules a agent ∧ Owns agent streamId componentId false made.1 ∧
      ∀ near, Unpaired agent streamId near made.1 := by
  intro made agent
  have ranked : Ranked a.compatibility candidate := by
    intro local_side
    rw [socket] at local_side
    exact absurd local_side (by simp)
  have new : Step rules a made.2 := Step.candidate ranked
  have owns : Owns made.2 streamId componentId false made.1 := by
    have own := owns_newCandidate (a := a) candidate
    rwa [stream, component, socket] at own
  have unused := sound.unused candidate
  have added : Step rules made.2 agent := Step.addRemote owns unused.remotes
  refine ⟨new.steps.tail added, added.extends.owns owns, ?_⟩
  intro near pair member
  rw [checkList_onComponent] at member
  exact unused.far streamId near pair member

/-- A foundation changes a remote candidate and its user name only. -/
theorem assignRemoteFoundation_eq :
    ∃ foundation username, privAssignRemoteFoundation a candidate =
      { candidate with foundation := foundation, username := username } := by
  unfold privAssignRemoteFoundation
  dsimp only
  split
  · exact ⟨_, _, rfl⟩
  · split
    · exact ⟨_, candidate.username, rfl⟩
    · exact ⟨candidate.foundation, candidate.username, rfl⟩

/-- `discovery_learn_remote_peer_reflexive_candidate`. -/
theorem steps_learnRemote (sound : Sound rules.stray a) (priority : UInt32) (address : XiceAddress)
    (near far : Option CandidateRef) :
    let learned := discoveryLearnRemotePeerReflexiveCandidate out a streamId componentId priority
      address near far
    Steps rules a learned.2 ∧ Owns learned.2 streamId componentId false learned.1 ∧
      ∀ near, Unpaired learned.2 streamId near learned.1 := by
  let candidate : XiceCandidate :=
    { XiceCandidate.new .peerReflexive streamId componentId with
      addr := address
      baseAddr := address
      priority := if priority ≠ 0 then priority
        else newPriority a.compatibility .peerReflexive 0 componentId }
  obtain ⟨foundation, username, same⟩ := assignRemoteFoundation_eq (a := a) candidate
  apply steps_addRemote rules sound
  · change (privAssignRemoteFoundation a candidate).sockptr = none
    rw [same]
    rfl
  · change (privAssignRemoteFoundation a candidate).streamId = streamId
    rw [same]
    rfl
  · change (privAssignRemoteFoundation a candidate).componentId = componentId
    rw [same]
    rfl

/-- A peer-reflexive candidate is learned and paired. -/
theorem steps_learnAndPair (out : Outside) (streamId componentId : Nat) (sound : Sound rules.stray a)
    (forms : rules.forms) (priority : UInt32) (address : XiceAddress) (near far : Option CandidateRef) :
    let learned := discoveryLearnRemotePeerReflexiveCandidate out a streamId componentId priority
      address near far
    let agent := connCheckAddForCandidate learned.2 streamId componentId learned.1
    Steps rules a agent ∧ Owns agent streamId componentId false learned.1 := by
  intro learned agent
  obtain ⟨known, owned, unpaired⟩ : Steps rules a learned.2 ∧
      Owns learned.2 streamId componentId false learned.1 ∧
      ∀ near, Unpaired learned.2 streamId near learned.1 := steps_learnRemote sound _ _ _ _
  have paired : Steps rules learned.2 agent :=
    steps_addForCandidate (known.sound sound) forms owned (.inr unpaired)
  exact ⟨known.trans paired, paired.owns owned⟩

/-- `priv_add_remote_candidate`. A known candidate is paired again. -/
theorem steps_addRemoteCandidate (sound : Sound rules.stray a) (forms : rules.forms)
    (data : CandidateData)
    (fresh : rules.again ∨ ∀ component, a.findComponent streamId componentId = some component →
      componentFindRemoteCandidate a component data.addr data.transport = none) :
    Steps rules a (privAddRemoteCandidate a streamId componentId data) := by
  unfold privAddRemoteCandidate
  split
  · exact .refl
  · rename_i component found
    split
    · rename_i ref known
      obtain ⟨stream, member, rfl, inside, rfl⟩ := exists_of_findComponent found
      have among : ref ∈ component.remoteCandidates := mem_of_find?_eq_some known
      have owns := (sound.remotes stream member component inside).2 ref among
      have remote : (a.candidates ref).sockptr = none := by
        have side := owns.side
        simpa using side
      have updated : Step rules a (a.onCandidate ref fun candidate =>
          { candidate with
            type := data.type
            baseAddr := data.baseAddr
            priority := data.priority
            foundation := data.foundation.take xiceCandidateMaxFoundation
            username := data.username.or candidate.username }) :=
        Step.update remote ⟨rfl, rfl, remote⟩
      apply updated.steps.trans
      apply steps_addForCandidate (updated.sound sound) forms (updated.extends.owns owns)
      rcases fresh with again | unknown
      · exact .inl again
      · rw [unknown component found] at known
        exact absurd known (by simp)
    · obtain ⟨added, owns, unpaired⟩ := steps_addRemote rules sound
        (data.candidate streamId componentId) rfl rfl rfl
      apply added.trans
      exact steps_addForCandidate (added.sound sound) forms owns (.inr unpaired)

/-- `agent_gathering_done`. It may pair candidates again. -/
theorem steps_gatheringDone (sound : Sound rules.stray a) (forms : rules.forms) (again : rules.again) :
    Steps rules a (agentGatheringDone a) := by
  apply steps_foldl _ sound
  intro agent reached sound_agent stream member
  apply steps_foldl _ sound_agent
  intro agent further sound_agent component inside
  apply steps_foldl _ sound_agent
  intro agent nearer sound_agent near _
  apply steps_foldl _ sound_agent
  intro agent nearest sound_agent far among
  split
  · exact .refl
  · have owns := (sound.remotes stream member component inside).2 far among
    have still := nearest.owns (nearer.owns (further.owns (reached.owns owns)))
    exact steps_addForCandidate sound_agent forms still (.inl again)

/-! ## Pairs that are not touched -/

/-- Pairs stay as they are, or are dropped. -/
structure Spares (a b : XiceAgent) : Prop where
  allocated : a.allocated ≤ b.allocated
  pairs : ∀ after ∈ b.streams, ∀ pair ∈ after.conncheckList, pair.ref < a.allocated →
    ∃ before ∈ a.streams, pair ∈ before.conncheckList

/-- One after the other. -/
theorem Spares.trans {c : XiceAgent} (first : Spares a b) (second : Spares b c) : Spares a c := by
  constructor
  · exact Nat.le_trans first.allocated second.allocated
  · intro after member pair among below
    obtain ⟨between, present, inside⟩ := second.pairs after member pair among
      (Nat.lt_of_lt_of_le below first.allocated)
    exact first.pairs between present pair inside below

/-- Check lists that shrink. -/
theorem Spares.of_subset (allocated : a.allocated ≤ b.allocated)
    (lists : ∀ after ∈ b.streams, ∃ before ∈ a.streams, after.conncheckList ⊆ before.conncheckList) :
    Spares a b := by
  apply Spares.mk allocated
  intro after member pair among _
  obtain ⟨before, present, subset⟩ := lists after member
  exact ⟨before, present, subset among⟩

/-- Check lists that stay. -/
theorem Spares.of_lists (allocated : a.allocated ≤ b.allocated)
    (lists : b.streams.map Stream.conncheckList = a.streams.map Stream.conncheckList) :
    Spares a b := by
  apply Spares.of_subset allocated
  intro after member
  obtain ⟨before, present, same⟩ := exists_of_map_eq lists member
  rw [← same]
  exact ⟨before, present, List.Subset.refl _⟩

/-- The check lists after a change of a component. -/
theorem lists_onComponent (change : Component → Component) :
    (a.onComponent streamId componentId change).streams.map Stream.conncheckList =
      a.streams.map Stream.conncheckList := by
  dsimp only [onComponent, onStream]
  rw [map_map]
  apply map_congr_left
  intro stream _
  dsimp only [Function.comp]
  split <;> rfl

/-- Signals leave the check lists. -/
theorem lists_signal :
    (signalComponentStateChange a streamId componentId state).streams.map Stream.conncheckList =
      a.streams.map Stream.conncheckList :=
  signal_rule (P := fun after => after.streams.map Stream.conncheckList =
    a.streams.map Stream.conncheckList) state rfl fun _ _ => lists_onComponent _

/-- Signals name no pair. -/
theorem allocated_signal :
    (signalComponentStateChange a streamId componentId state).allocated = a.allocated :=
  signal_rule (P := fun after => after.allocated = a.allocated) state rfl fun _ _ => rfl

/-- The limit spares pairs. -/
theorem spares_limit : Spares a (limitCheckList a streamId) := by
  apply Spares.of_subset _ limit_origin
  exact limit_rule (P := fun after => a.allocated ≤ after.allocated) le_rfl le_rfl

/-- So does a new pair. -/
theorem spares_insertNewPair (near far : CandidateRef) (state : XiceCheckState) (useCandidate : Bool) :
    Spares a (insertNewPair a streamId componentId near far state useCandidate) := by
  have named : (newPair a streamId componentId near far state useCandidate).ref = a.allocated := rfl
  have placed_blank : ∀ after ∈ (a.onList streamId fun list =>
      insertSorted list (blankPair a.allocated)).streams, ∃ before ∈ a.streams,
        ∀ pair ∈ after.conncheckList, pair = blankPair a.allocated ∨ pair ∈ before.conncheckList := by
    apply onStream_origin
    · intro stream _ _ pair among
      dsimp only at among
      rw [insertSorted_blank] at among
      exact mem_placed.mp among
    · exact fun _ _ _ among => .inr among
  apply Spares.mk (Nat.le_succ _)
  intro after member pair among below
  obtain ⟨middle, present, rfl⟩ := mem_map.mp member
  obtain ⟨before, was, pairs⟩ := placed_blank middle present
  obtain ⟨earlier, inside, rfl⟩ := mem_map.mp among
  have other : earlier.ref ≠ a.allocated := by
    intro same
    rw [if_pos (same.trans named.symm)] at below
    exact Nat.lt_irrefl _ below
  have kept : (if earlier.ref = (newPair a streamId componentId near far state useCandidate).ref then
      newPair a streamId componentId near far state useCandidate else earlier) = earlier :=
    if_neg other
  rw [kept]
  refine ⟨before, was, (pairs earlier inside).resolve_left ?_⟩
  rintro rfl
  exact other rfl

/-- So does a local candidate. -/
theorem spares_addLocalCandidatePruned (ref : CandidateRef) :
    Spares a (privAddLocalCandidatePruned a streamId componentId ref).2 := by
  have same : Spares a a := Spares.of_lists (Nat.le_refl _) rfl
  refine addLocalCandidatePruned_rule (P := Spares a) same
    (Spares.of_lists (Nat.le_refl _) (lists_onComponent _)) fun after far before => ?_
  refine addForCandidatePair_rule before
    (before.trans ((spares_insertNewPair ref far .frozen false).trans spares_limit)) ?_
  intro after state before
  exact before.trans (Spares.of_lists (Nat.le_of_eq (allocated_signal _).symm) (lists_signal _))

/-- So does `discovery_add_peer_reflexive_candidate`. -/
theorem spares_addPeerReflexive (address : XiceAddress) (baseSocket : SocketRef)
    (near far : Option CandidateRef) :
    Spares a (discoveryAddPeerReflexiveCandidate out a streamId componentId address baseSocket near
      far).2 := by
  unfold discoveryAddPeerReflexiveCandidate
  split
  · exact Spares.of_lists (Nat.le_refl _) rfl
  · dsimp only
    have made : ∀ candidate filling : XiceCandidate,
        Spares a ((privAssignFoundation a candidate).2.newCandidate filling).2 := by
      intro candidate filling
      obtain ⟨next, same⟩ := assignFoundation_snd (a := a) candidate
      rw [same]
      exact Spares.of_lists (Nat.le_succ _) rfl
    exact (made _ _).trans (spares_addLocalCandidatePruned _)

end Xice.Ice
