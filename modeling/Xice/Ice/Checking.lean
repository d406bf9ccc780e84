import Xice.Ice.Forming

/-!
# Checks

The functions that trigger checks, nominate pairs, answer checks and take answers, as sequences of
steps.
-/

namespace Xice.Ice

open Xice.Stun XiceAgent List CandidateCheckPair

variable {a b : XiceAgent} {streamId componentId : Nat} {out : Outside} {rules : Rules}

/-! ## Triggered checks -/

variable {far : CandidateRef} {ref : PairRef} {pair : CandidateCheckPair} {reply : Option Packet}
  {rcand : Option CandidateRef} {socket : SocketRef} {source : XiceAddress} {stray : Prop}
  {component : Component}

/-- A candidate has one component. -/
theorem Owns.component_eq {near : Bool} {other : Nat} {ref : CandidateRef}
    (owns : Owns a streamId componentId near ref) (also : Owns a streamId other near ref) :
    componentId = other := by
  rw [← owns.component, also.component]

variable (sound : Sound rules.stray a)

include sound

/-- `priv_schedule_triggered_check` forms a pair when there is none with the candidates. -/
theorem steps_scheduleTriggeredCheck (forms : rules.forms)
    (farOwned : OwnsFar rules.stray a streamId componentId far) (socket : SocketRef)
    (useCandidate : Bool) :
    Steps rules a
      (privScheduleTriggeredCheck out a streamId componentId socket far useCandidate) := by
  unfold privScheduleTriggeredCheck
  split
  · exact (turn_triggerPair out _).steps
  · rename_i missing
    split
    · rename_i near chosen
      obtain ⟨component, found, first⟩ := Option.bind_eq_some_iff.mp chosen
      have uses := find?_some first
      have present := hasComponent_of_find found
      obtain ⟨stream, member, rfl, inside, rfl⟩ := exists_of_findComponent found
      have nearOwned := (sound.locals stream member component inside).2 near
        (mem_of_find?_eq_some first)
      apply steps_addNewCheckPair useCandidate forms present nearOwned farOwned
      right
      rintro pair among ⟨rfl, rfl⟩
      -- such a pair would have been found
      obtain ⟨home, there, same, listed⟩ := exists_stream_of_mem among
      have owned := (sound.pairs home there pair listed).2.2.2.1
      rw [same] at owned
      have own := nearOwned.component_eq owned
      have missed := find?_eq_none.mp missing pair among
      simp [own, uses] at missed
    · exact .refl

/-! ## Early checks -/

/-- A candidate of the peer is nominated, if it should be, and checked. -/
theorem steps_markAndSchedule (forms : rules.forms)
    (farOwned : OwnsFar rules.stray a streamId componentId far) (socket : SocketRef)
    (useCandidate : Bool) :
    Steps rules a (privScheduleTriggeredCheck out
      (if useCandidate then privMarkPairNominated a streamId componentId far else a) streamId
      componentId socket far useCandidate) := by
  have marked : Steps rules a
      (if useCandidate then privMarkPairNominated a streamId componentId far else a) := by
    split
    · exact (turn_markPairNominated far).steps
    · exact .refl
  apply marked.trans
  apply steps_scheduleTriggeredCheck (marked.sound sound) forms
  exact farOwned.imp marked.owns

/-- One stored check in `priv_preprocess_conn_check_pending_data`. -/
theorem steps_preprocess (forms : rules.forms)
    (farOwned : OwnsFar rules.stray a streamId pair.componentId pair.remoteCand)
    (icheck : IncomingCheck) : Steps rules a (preprocess out streamId pair a icheck) := by
  unfold preprocess
  split
  · exact steps_markAndSchedule sound forms farOwned icheck.localSocket icheck.useCandidate
  · exact .refl

omit sound

/-- One stored check in the second loop of `conn_check_remote_candidates_set`. -/
theorem steps_learnEarly (seen : Bool × XiceAgent) (sound : Sound rules.stray seen.2)
    (forms : rules.forms)
    (icheck : IncomingCheck) :
    Steps rules seen.2 (learnEarly out streamId componentId seen icheck).2 := by
  unfold learnEarly
  split
  · exact .refl
  · dsimp only
    split
    · exact .refl
    · split
      · exact .refl
      · obtain ⟨learned, owned⟩ := steps_learnAndPair out streamId componentId sound forms
          icheck.priority icheck.source _ _
        apply learned.trans
        exact steps_markAndSchedule (learned.sound sound) forms owned.far icheck.localSocket
          icheck.useCandidate

/-- One pair in `conn_check_remote_candidates_set`. -/
theorem steps_processPending (sound : Sound rules.stray a) (forms : rules.forms)
    (here : ∀ pair, a.findPair ref = some pair → pair.streamId = streamId) :
    Steps rules a (processPending out streamId a ref) := by
  unfold processPending
  split
  · exact .refl
  · rename_i pair found
    split
    · exact .refl
    · rename_i component known
      have place := here pair found
      obtain ⟨_, stream, member, inside⟩ := exists_of_findPair found
      obtain ⟨_, same, _, _, farOwned⟩ := sound.pairs stream member pair inside
      rw [← same, place] at farOwned
      have first : Steps rules a
          (component.incomingChecks.foldl (preprocess out streamId pair) a) := by
        apply steps_foldl _ sound
        intro agent reached sound_agent icheck _
        exact steps_preprocess sound_agent forms (farOwned.imp reached.owns) icheck
      have second : ∀ (checks : List IncomingCheck) (seen : Bool × XiceAgent),
          Sound rules.stray seen.2 → Steps rules seen.2
            (checks.foldl (learnEarly out streamId pair.componentId) seen).2 := by
        intro checks
        induction checks with
        | nil => exact fun _ _ => Relation.ReflTransGen.refl
        | cons icheck rest ih =>
          intro seen sound_seen
          rw [foldl_cons]
          have learned : Steps rules seen.2
              (learnEarly out streamId pair.componentId seen icheck).2 :=
            steps_learnEarly seen sound_seen forms icheck
          exact learned.trans (ih _ (learned.sound sound_seen))
      apply (first.trans (second component.incomingChecks (false, _) (first.sound sound))).tail
      exact Step.turn (turn_onComponent fun _ => rfl)

/-- The stored checks are used up. -/
theorem steps_remoteCandidatesSet (sound : Sound rules.stray a) (forms : rules.forms) :
    Steps rules a (connCheckRemoteCandidatesSet out a) := by
  apply steps_foldl _ sound
  intro agent reached sound_agent stream member
  apply steps_foldl _ sound_agent
  intro later further sound_later ref among
  obtain ⟨pair, listed, rfl⟩ := mem_map.mp among
  obtain ⟨home, there, same, inside⟩ := exists_stream_of_mem listed
  apply steps_processPending sound_later forms
  intro found_pair found
  rw [(further.alike sound_agent there inside found).2.1,
    (sound_agent.pairs home there pair inside).2.1, same]

/-! ## Checks of the peer -/

/-- A check of the peer was received. -/
theorem turn_initialBinding : Turn a (a.onStream streamId fun stream =>
    { stream with initialBindingRequestReceived := true }) :=
  turn_onStream (fun _ => rfl) fun _ => rfl

/-- `priv_store_pending_check`. -/
theorem turn_storePending (icheck : IncomingCheck) :
    Turn a (privStorePendingCheck a streamId componentId icheck) := by
  apply turn_onComponent
  intro component
  split <;> rfl

/-- An answer is sent. -/
theorem turn_sendReply (socket : SocketRef) (dest : XiceAddress) (reply : Option Packet) :
    Turn a (sendReply a socket dest reply) := by
  cases reply with
  | none => exact .refl a
  | some packet => exact turn_note _

/-- `priv_reply_to_conn_check`. -/
theorem steps_replyToConnCheck (out : Outside) (sound : Sound rules.stray a) (forms : rules.forms)
    (owned : ∀ far, rcand = some far → Owns a streamId componentId false far) (source : XiceAddress)
    (socket : SocketRef) (reply : Option Packet) (useCandidate : Bool) :
    Steps rules a
      (privReplyToConnCheck out a streamId componentId rcand source socket reply useCandidate) := by
  have answered : Steps rules a (sendReply a socket source reply) :=
    (turn_sendReply socket source reply).steps
  unfold privReplyToConnCheck
  dsimp only
  split
  · exact answered
  · rename_i far
    have farOwned := answered.owns (owned far rfl)
    have scheduled : Steps rules (sendReply a socket source reply) (privScheduleTriggeredCheck out
        (sendReply a socket source reply) streamId componentId socket far useCandidate) :=
      steps_scheduleTriggeredCheck (answered.sound sound) forms farOwned.far socket useCandidate
    apply answered.trans
    split
    · exact scheduled.trans (turn_markPairNominated far).steps
    · exact scheduled

/-- A check from an unknown address makes a candidate of the peer. -/
theorem steps_learnUnknown (out : Outside) (sound : Sound rules.stray a) (forms : rules.forms)
    (owned : ∀ far, rcand = some far → Owns a streamId componentId false far) (source : XiceAddress)
    (request : StunRequest) (found : Option (CandidateRef × CandidateRef)) :
    let learned := learnUnknown out a streamId componentId source request rcand found
    Steps rules a learned.2 ∧
      ∀ far, learned.1 = some far → Owns learned.2 streamId componentId false far := by
  intro learned
  unfold learned learnUnknown
  dsimp only
  split
  · obtain ⟨paired, owns⟩ := steps_learnAndPair out streamId componentId sound forms request.priority source
      (found.map Prod.snd) ((found.map Prod.fst).or rcand)
    apply And.intro paired
    intro far same
    cases same
    exact owns
  · exact ⟨Relation.ReflTransGen.refl, owned⟩

/-- The part of `conn_check_handle_inbound_stun` after an answer was built. -/
theorem steps_acceptCheck (sound : Sound rules.stray a) (forms : rules.forms) {request : StunRequest}
    {found : Option (CandidateRef × CandidateRef)}
    (owned : ∀ far, rcand = some far → Owns a streamId componentId false far) :
    Steps rules a
      (acceptCheck out a streamId componentId socket source request reply rcand found) := by
  have bound : Steps rules a (a.onStream streamId fun stream =>
      { stream with initialBindingRequestReceived := true }) := turn_initialBinding.steps
  obtain ⟨learned, owns⟩ := steps_learnUnknown out (bound.sound sound) forms
    (fun far same => bound.owns (owned far same)) source request found
  unfold acceptCheck
  apply bound.trans
  apply learned.trans
  have replied : ∀ useCandidate, Steps rules _ _ :=
    steps_replyToConnCheck out (learned.sound (bound.sound sound)) forms owns source socket reply
  dsimp only
  split
  · exact (replied _).tail (Step.turn (turn_storePending _))
  · exact replied _

/-- `conn_check_handle_inbound_stun` for a check. -/
theorem steps_handleRequest (sound : Sound rules.stray a) (forms : rules.forms)
    {request : StunRequest} {built : Bool}
    (roles : (iceConncheckCreateReply request a.controllingMode a.tieBreaker built).result =
      .roleConflict → rules.roles a
        (iceConncheckCreateReply request a.controllingMode a.tieBreaker built).control) :
    Steps rules a (handleRequest out a streamId componentId socket source request built) := by
  unfold handleRequest
  split
  · exact .refl
  · rename_i component found
    have owned : ∀ far, remoteAt a component source = some far →
        Owns a streamId componentId false far := by
      intro far at_source
      obtain ⟨stream, member, rfl, inside, rfl⟩ := exists_of_findComponent found
      exact (sound.remotes stream member component inside).2 far (mem_of_find?_eq_some at_source)
    dsimp only
    split
    · exact .refl
    · split
      · exact .refl
      · split
        · rename_i conflict
          have switched : Step rules a (privCheckForRoleConflict a
              (iceConncheckCreateReply request a.controllingMode a.tieBreaker built).control) :=
            Step.role (roles conflict)
          apply switched.steps.trans
          apply steps_acceptCheck (switched.sound sound) forms
          intro far at_source
          exact switched.extends.owns (owned far at_source)
        · exact steps_acceptCheck sound forms owned
        · exact .refl

/-! ## Answers -/

/-- The components of an agent do not depend on its pairs. -/
theorem findComponent_onPair (change : CandidateCheckPair → CandidateCheckPair) :
    (a.onPair ref change).findComponent streamId componentId = a.findComponent streamId componentId := by
  unfold findComponent findStream onPair
  dsimp only
  rw [find_map_lists fun list => list.map fun pair => if pair.ref = ref then change pair else pair]
  cases a.streams.find? fun stream => decide (stream.id = streamId) with
  | none | some => rfl

/-- `priv_conn_check_unfreeze_related`. -/
theorem turn_unfreezeRelated (sound : Sound stray a) (ref : PairRef) :
    Turn a (privConnCheckUnfreezeRelated a streamId ref) := by
  unfold privConnCheckUnfreezeRelated
  split
  · exact .refl a
  · rename_i ok _
    let which (pair : CandidateCheckPair) : Bool :=
      pair.streamId = ok.streamId && pair.state = .frozen && pair.foundation = ok.foundation
    have first : Turn a (unfreeze a streamId which) := by
      apply turn_unfreeze
      intro pair chosen
      simp only [which, Bool.and_eq_true, decide_eq_true_eq] at chosen
      exact chosen.1.2
    -- one more pair is unfrozen when none was
    have finish : ∀ after : Nat × XiceAgent, Turn (unfreeze a streamId which) after.2 →
        Turn a (if after.1 = 0 then (privConnCheckUnfreezeNext after.2).2 else after.2) := by
      intro after turn
      have both := first.trans turn
      split
      · exact both.trans (turn_unfreezeNext (both.sound sound).unique)
      · exact both
    apply finish
    split
    · exact .refl _
    · split
      · exact turn_unfreezeOthers ok _ _ _
      · exact .refl _

/-- The end of a successful check. -/
theorem turn_conclude (ref : PairRef) : Turn a (concludeCheck a streamId componentId ref) := by
  have connected : Turn a (connect a streamId componentId) := by
    unfold connect
    split
    · exact turn_signal ..
    · exact .refl a
  unfold concludeCheck
  apply connected.trans
  refine Turn.trans ?_ turn_updateForReady
  split
  · exact .refl _
  · split
    · exact turn_updateSelectedPair _
    · exact .refl _

/-- No check on the pair waits for an answer. -/
def Silenced (agent : XiceAgent) (ref : PairRef) : Prop :=
  ∀ stream ∈ agent.streams, ∀ pair ∈ stream.conncheckList, pair.ref = ref → pair.message = none

/-- A check is forgotten. -/
theorem turn_forget : Turn a (a.onPair ref fun pair => { pair with message := none }) :=
  turn_onPair fun _ _ _ _ _ => ⟨rfl, fun _ waits => absurd waits (by simp)⟩

/-- Then it does not wait. -/
theorem silenced_forget : Silenced (a.onPair ref fun pair => { pair with message := none }) ref := by
  intro stream member pair among same
  obtain ⟨before, was, rfl⟩ := mem_map.mp member
  obtain ⟨earlier, inside, rfl⟩ := mem_map.mp among
  split at same
  · rename_i named
    rw [if_pos named]
  · rename_i other
    exact absurd same other

/-- The check comes to an end. -/
theorem Silenced.turn (silenced : Silenced a ref) (state : XiceCheckState) :
    Turn a (a.onPair ref fun pair => { pair with state := state }) :=
  turn_onPair fun stream member pair among same =>
    Eases.silent (silenced stream member pair among same) state

/-- An answer with an unknown mapped address makes a candidate, fails the pair of the check and
forms one of the candidate. -/
theorem steps_discover (out : Outside) (rules : Rules) (sound : Sound rules.stray a)
    (silenced : Silenced a pair.ref) (below : pair.ref < a.allocated)
    (farOwned : OwnsFar rules.stray a streamId componentId pair.remoteCand)
    (present : HasComponent a streamId componentId) (mapped : XiceAddress) (socket : SocketRef)
    (near far : Option CandidateRef) (forms : rules.forms) (again : rules.again) :
    let made := discoveryAddPeerReflexiveCandidate out a streamId componentId mapped socket near far
    let failing := made.2.onPair pair.ref fun pair => { pair with state := .failed }
    Steps rules a failing ∧ ∀ candidate, made.1 = some candidate →
      Step rules failing (privAddPeerReflexivePair failing streamId componentId candidate pair).2 := by
  intro made failing
  obtain ⟨added, owned⟩ : Steps rules a made.2 ∧
      ∀ ref, made.1 = some ref → Owns made.2 streamId componentId true ref :=
    steps_addPeerReflexive sound forms mapped socket near far
  have spared : Spares a made.2 := spares_addPeerReflexive mapped socket near far
  have still : Silenced made.2 pair.ref := by
    intro after member other among same
    obtain ⟨before, was, old⟩ := spared.pairs after member other among (same ▸ below)
    exact silenced before was other old same
  have failed : Turn made.2 failing := still.turn .failed
  have before : Steps rules a failing := added.trans failed.steps
  apply And.intro before
  intro candidate returned
  apply Step.discovered again
  · exact before.hasComponent present
  · exact (owned candidate returned).of_core failed.core
  · exact farOwned.imp before.owns

/-- `priv_process_response_check_for_peer_reflexive` and the end of the check. -/
theorem steps_processResponse (sound : Sound rules.stray a) (silenced : Silenced a pair.ref)
    (below : pair.ref < a.allocated)
    (farOwned : OwnsFar rules.stray a streamId componentId pair.remoteCand)
    (present : HasComponent a streamId componentId) (socket : SocketRef)
    {mapped : XiceAddress} (near far : Option CandidateRef)
    (known : rules.forms ∧ rules.again ∨ mappedIsLocal a streamId componentId mapped = true) :
    let ok := privProcessResponseCheckForPeerReflexive out a streamId componentId pair socket mapped
      near far
    Steps rules a (concludeCheck ok.2 streamId componentId ok.1) := by
  intro ok
  refine Relation.ReflTransGen.trans ?_ (turn_conclude ok.1).steps
  unfold ok privProcessResponseCheckForPeerReflexive
  split
  · have succeeded := silenced.turn .succeeded
    exact (succeeded.trans (turn_unfreezeRelated (succeeded.sound sound) pair.ref)).steps
  · rename_i foreign
    obtain ⟨forms, again⟩ := known.resolve_right foreign
    obtain ⟨before, discovered⟩ := steps_discover out rules sound silenced below farOwned present
      mapped socket near far forms again
    dsimp only
    split
    · exact before
    · rename_i candidate returned
      exact before.tail (discovered candidate returned)

/-- The pair whose check an answer answers. -/
def answeredPair (agent : XiceAgent) (streamId : Nat) (reply : StunReply) : Option CandidateCheckPair :=
  (agent.checkList streamId).find? fun pair =>
    pair.message.any fun request => request.id = reply.id

/-- `priv_map_reply_to_conn_check_request`. -/
theorem steps_mapReply (sound : Sound rules.stray a)
    (found : a.findComponent streamId componentId = some component) (socket : SocketRef)
    (source : XiceAddress) (near far : Option CandidateRef) {reply : StunReply}
    (own : rules.stray ∨ ∀ pair, answeredPair a streamId reply = some pair →
      pair.componentId = componentId)
    (known : rules.forms ∧ rules.again ∨ ∀ mapped, reply.kind = .response (some mapped) →
      mappedIsLocal a streamId componentId mapped = true)
    (roles : ∀ pair, answeredPair a streamId reply = some pair →
      iceConncheckProcess reply = .roleConflict → rules.roles a (!pair.controlling)) :
    Steps rules a (privMapReplyToConnCheckRequest out a streamId componentId socket source near
      far reply) := by
  unfold privMapReplyToConnCheckRequest
  split
  · exact .refl
  · rename_i pair matched
    obtain ⟨stream, member, here, inside⟩ := exists_stream_of_mem (mem_of_find?_eq_some matched)
    obtain ⟨below, _, _, _, owner, whose, owns⟩ := sound.pairs stream member pair inside
    let forgotten : XiceAgent := a.onPair pair.ref fun pair => { pair with message := none }
    have forgot : Turn a forgotten := turn_forget
    have sound_forgotten := forgot.sound sound
    have silenced : Silenced forgotten pair.ref := silenced_forget
    have failed := forgot.trans (silenced.turn .failed)
    have still : forgotten.findComponent streamId componentId = some component :=
      (findComponent_onPair _).trans found
    dsimp only
    split
    · rename_i mapped _ kind
      split
      · have farOwned : OwnsFar rules.stray forgotten streamId componentId pair.remoteCand := by
          rw [here] at owns
          refine ⟨owner, ?_, owns.of_core forgot.core⟩
          rcases whose with stray | same
          · exact .inl stray
          · exact own.imp_right fun every => same.trans (every pair matched)
        apply forgot.steps.trans
        apply steps_processResponse sound_forgotten silenced below farOwned
          (hasComponent_of_find still)
        apply known.imp_right
        intro every
        unfold mappedIsLocal
        rw [still, ← found]
        exact every mapped kind
      · exact failed.steps
    · split
      · have succeeded := silenced.turn .succeeded
        have unfrozen : Turn _ (privConnCheckUnfreezeRelated _ streamId pair.ref) :=
          turn_unfreezeRelated (succeeded.sound sound_forgotten) pair.ref
        exact (forgot.trans (succeeded.trans (unfrozen.trans (turn_conclude _)))).steps
      · exact failed.steps
    · rename_i conflict
      apply (Step.role (roles pair matched conflict)).steps.tail
      exact Step.turn (turn_onPair fun _ _ _ _ _ => Eases.forget _)
    · exact forgot.steps

/-- `conn_check_handle_inbound_stun` for an answer. -/
theorem steps_handleReply (sound : Sound rules.stray a) {reply : StunReply}
    (own : rules.stray ∨ ∀ pair, answeredPair a streamId reply = some pair →
      pair.componentId = componentId)
    (known : rules.forms ∧ rules.again ∨ ∀ mapped, reply.kind = .response (some mapped) →
      mappedIsLocal a streamId componentId mapped = true)
    (roles : ∀ pair, answeredPair a streamId reply = some pair →
      iceConncheckProcess reply = .roleConflict → rules.roles a (!pair.controlling)) :
    Steps rules a (handleReply out a streamId componentId socket source reply) := by
  unfold handleReply
  split
  · exact .refl
  · rename_i component found
    dsimp only
    split
    · exact .refl
    · exact steps_mapReply sound found socket source _ _ own known roles

/-! ## The timer -/

/-- The end of a tick that leaves nothing to do. -/
theorem turn_stopConnChecks : Turn a (a.streams.foldl (fun agent stream =>
    stream.components.foldl (fun agent component =>
      privUpdateCheckListStateForReady agent stream.id component.id)
      (privUpdateCheckListFailedComponents agent stream)) a) := by
  apply turn_foldl
  intro agent stream
  apply (turn_updateFailed stream).trans
  apply turn_foldl
  intro agent component
  exact turn_updateForReady

/-- A tick up to its end. -/
theorem turn_ticked (sound : Sound stray a) (out : Outside) (timers : Timers) :
    Turn a (tickStreams out timers a.streams (startNext out a).1 (startNext out a).2).2 := by
  refine Turn.trans ?_ (turn_tickStreams out _ _ _ _)
  unfold startNext
  split
  · exact turn_initiate out _
  · exact turn_unfreezeNext sound.unique

include sound

/-- A tick. -/
theorem steps_tick (allowed : rules.timers) (timers : Timers) :
    Steps rules a (privConnCheckTickUnlocked out a timers).2 := by
  unfold privConnCheckTickUnlocked
  dsimp only
  split
  · exact (turn_ticked sound out timers).steps
  · apply (turn_ticked sound out timers).steps.trans
    exact turn_stopConnChecks.steps.tail (Step.timers allowed false _)

/-- `conn_check_schedule_next`. -/
theorem steps_scheduleNext (allowed : rules.timers) (timers : Timers) :
    Steps rules a (connCheckScheduleNext out a timers) := by
  have unfrozen : Steps rules a (privConnCheckUnfreezeNext a).2 :=
    (turn_unfreezeNext sound.unique).steps
  have ticked : Steps rules a (privConnCheckTickUnlocked out (privConnCheckUnfreezeNext a).2
    timers).2 := unfrozen.trans (steps_tick (unfrozen.sound sound) allowed timers)
  exact ticked.tail (Step.timers allowed _ true)

end Xice.Ice
