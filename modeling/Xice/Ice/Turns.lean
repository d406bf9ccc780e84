import Xice.Ice.Access

/-!
# Quiet changes

Most functions of `conncheck.c` leave the candidates and the pairs that were formed as they are:
they only move checks on. Such a change is a `Turn`; what else can happen is in `Xice.Ice.Steps`.
-/

namespace Xice.Ice

open XiceAgent List

/-! ## What lasts -/

/-- A pair without the state of its check. -/
def CandidateCheckPair.core (pair : CandidateCheckPair) : CandidateCheckPair :=
  { pair with state := .waiting, nominated := false, timerRestarted := false, message := none }

/-- A component without what its checks have come to. -/
def Component.core (component : Component) : Component :=
  { component with
    state := .disconnected
    incomingChecks := []
    selectedPair := ⟨none, none, 0⟩
    restartCandidate := none }

/-- A stream without what its checks have come to. -/
def Stream.core (stream : Stream) : Stream :=
  { stream with
    components := stream.components.map Component.core
    conncheckList := stream.conncheckList.map CandidateCheckPair.core
    initialBindingRequestReceived := false
    localUfrag := []
    remoteUfrag := [] }

/-- An agent without the states of its checks: its candidates and the pairs formed of them. -/
def XiceAgent.core (agent : XiceAgent) : XiceAgent :=
  { agent with
    streams := agent.streams.map Stream.core
    nextCandidateId := 0
    conncheckTimer := false
    keepaliveTimer := false
    created := 0
    log := [] }

/-- What pairs with the same core have in common. -/
theorem CandidateCheckPair.core_eq {pair other : CandidateCheckPair} (same : pair.core = other.core) :
    pair.ref = other.ref ∧ pair.streamId = other.streamId ∧ pair.componentId = other.componentId ∧
      pair.localCand = other.localCand ∧ pair.remoteCand = other.remoteCand ∧
      pair.foundation = other.foundation ∧ pair.controlling = other.controlling ∧
      pair.priority = other.priority := by
  simpa [CandidateCheckPair.core] using same

/-- What components with the same core have in common. -/
theorem Component.core_eq {component other : Component} (same : component.core = other.core) :
    component.id = other.id ∧ component.localCandidates = other.localCandidates ∧
      component.remoteCandidates = other.remoteCandidates ∧ component.tcp = other.tcp := by
  simpa [Component.core] using same

/-- What streams with the same core have in common. -/
theorem Stream.core_eq {stream other : Stream} (same : stream.core = other.core) :
    stream.id = other.id ∧ stream.nComponents = other.nComponents ∧
      stream.components.map Component.core = other.components.map Component.core ∧
      stream.conncheckList.map CandidateCheckPair.core =
        other.conncheckList.map CandidateCheckPair.core := by
  simpa [Stream.core] using same

/-- What agents with the same core have in common. -/
theorem XiceAgent.core_eq {agent other : XiceAgent} (same : agent.core = other.core) :
    agent.compatibility = other.compatibility ∧ agent.controllingMode = other.controllingMode ∧
      agent.tieBreaker = other.tieBreaker ∧ agent.maxConnChecks = other.maxConnChecks ∧
      agent.reliable = other.reliable ∧
      agent.streams.map Stream.core = other.streams.map Stream.core ∧
      agent.nextStreamId = other.nextStreamId ∧ agent.candidates = other.candidates ∧
      agent.allocated = other.allocated := by
  simpa [XiceAgent.core] using same

/-! ## Turns -/

/-- A check that waits for an answer is in progress. -/
def CandidateCheckPair.Waits (pair : CandidateCheckPair) : Prop :=
  pair.message.isSome = true → pair.state = .inProgress

/-- The check on a pair moves on. -/
structure Eases (before after : CandidateCheckPair) : Prop where
  core : after.core = before.core
  waits : before.Waits → after.Waits

/-- A change of the pairs of each stream. -/
def XiceAgent.mapPairs (agent : XiceAgent) (change : Nat → CandidateCheckPair → CandidateCheckPair) :
    XiceAgent :=
  { agent with
    streams := agent.streams.map fun stream =>
      { stream with conncheckList := stream.conncheckList.map (change stream.id) } }

/-- The check lists of an agent, with the ids of their streams. -/
def XiceAgent.lists (agent : XiceAgent) : List (Nat × List CandidateCheckPair) :=
  agent.streams.map fun stream => (stream.id, stream.conncheckList)

/-- The candidates and the pairs that were formed stay, and the checks move on. -/
structure Turn (a b : XiceAgent) : Prop where
  core : b.core = a.core
  timer : b.conncheckTimer = a.conncheckTimer
  pairs : ∃ change : Nat → CandidateCheckPair → CandidateCheckPair,
    b.lists = a.lists.map (fun entry => (entry.1, entry.2.map (change entry.1))) ∧
      ∀ entry ∈ a.lists, ∀ pair ∈ entry.2, Eases pair (change entry.1 pair)

variable {agent a b : XiceAgent} {streamId componentId : Nat} {pair : CandidateCheckPair}

/-- A pair that is left alone. -/
theorem Eases.refl (pair : CandidateCheckPair) : Eases pair pair := ⟨rfl, id⟩

/-- A change that the check lists do not see. -/
theorem Turn.of_lists (core : b.core = a.core) (timer : b.conncheckTimer = a.conncheckTimer)
    (lists : b.lists = a.lists) : Turn a b := by
  refine ⟨core, timer, fun _ pair => pair, ?_, fun _ _ pair _ => Eases.refl pair⟩
  simp only [lists, map_id']

/-- Nothing is changed. -/
theorem Turn.refl (a : XiceAgent) : Turn a a := .of_lists rfl rfl rfl

/-- One quiet change after the other. -/
theorem Turn.trans {c : XiceAgent} (first : Turn a b) (second : Turn b c) : Turn a c := by
  obtain ⟨change, lists, eases⟩ := first.pairs
  obtain ⟨further, later, more⟩ := second.pairs
  refine ⟨second.core.trans first.core, second.timer.trans first.timer,
    fun id pair => further id (change id pair), ?_, ?_⟩
  · rw [later, lists, map_map]
    apply map_congr_left
    intro entry _
    exact congrArg _ (map_map ..)
  · intro entry member pair among
    obtain ⟨core, waits⟩ := eases entry member pair among
    obtain ⟨core_later, waits_later⟩ := more (entry.1, entry.2.map (change entry.1))
      (by rw [lists]; exact mem_map_of_mem member) _ (mem_map_of_mem among)
    exact ⟨core_later.trans core, waits_later ∘ waits⟩

/-! ## Elementary changes -/

/-- The streams after a change of one of them. -/
theorem onStream_origin {change : Stream → Stream} {P : Stream → Stream → Prop}
    (changed : ∀ stream ∈ agent.streams, stream.id = streamId → P stream (change stream))
    (same : ∀ stream ∈ agent.streams, P stream stream) :
    ∀ after ∈ (agent.onStream streamId change).streams, ∃ before ∈ agent.streams,
      P before after := by
  intro after member
  obtain ⟨before, present, rfl⟩ := mem_map.mp member
  refine ⟨before, present, ?_⟩
  split
  · exact changed before present ‹_›
  · exact same before present

/-- A change of a stream keeps the core. -/
theorem core_onStream {change : Stream → Stream} (kept : ∀ stream, (change stream).core = stream.core) :
    (agent.onStream streamId change).core = agent.core := by
  have streams : (agent.onStream streamId change).streams.map Stream.core =
      agent.streams.map Stream.core := by
    rw [onStream, map_map]
    apply map_congr_left
    intro stream _
    dsimp only [Function.comp]
    split
    · exact kept stream
    · rfl
  unfold XiceAgent.core
  rw [streams]
  rfl

/-- A change of a component keeps the core of its stream. -/
theorem core_mapComponents {change : Component → Component}
    (kept : ∀ component, (change component).core = component.core) (stream : Stream) :
    ({ stream with
      components := stream.components.map fun component =>
        if component.id = componentId then change component else component } : Stream).core =
      stream.core := by
  unfold Stream.core
  dsimp only
  congr 1
  rw [map_map]
  apply map_congr_left
  intro component _
  dsimp only [Function.comp]
  split
  · exact kept component
  · rfl

/-- A change of pairs keeps the core. -/
theorem core_mapPairs (change : Nat → CandidateCheckPair → CandidateCheckPair)
    (kept : ∀ stream ∈ agent.streams, ∀ pair ∈ stream.conncheckList,
      (change stream.id pair).core = pair.core) : (agent.mapPairs change).core = agent.core := by
  have streams : (agent.mapPairs change).streams.map Stream.core = agent.streams.map Stream.core := by
    rw [mapPairs, map_map]
    apply map_congr_left
    intro stream found
    unfold Stream.core
    dsimp only [Function.comp]
    congr 1
    rw [map_map]
    apply map_congr_left
    exact kept stream found
  unfold XiceAgent.core
  rw [streams]
  rfl

/-- An entry of the log is written. -/
theorem turn_note (entry : Note) : Turn agent (agent.note entry) := .of_lists rfl rfl rfl

/-- A stream changes outside its core and its pairs. -/
theorem turn_onStream {change : Stream → Stream} (core : ∀ stream, (change stream).core = stream.core)
    (list : ∀ stream, (change stream).conncheckList = stream.conncheckList) :
    Turn agent (agent.onStream streamId change) := by
  apply Turn.of_lists (core_onStream core) rfl
  unfold XiceAgent.lists onStream
  rw [map_map]
  apply map_congr_left
  intro stream _
  dsimp only [Function.comp]
  split
  · rw [list, (Stream.core_eq (core stream)).1]
  · rfl

/-- A component changes outside its core. -/
theorem turn_onComponent {change : Component → Component}
    (kept : ∀ component, (change component).core = component.core) :
    Turn agent (agent.onComponent streamId componentId change) :=
  turn_onStream (core_mapComponents kept) fun _ => rfl

/-- A component changes its state. -/
theorem turn_signal (streamId componentId : Nat) (state : XiceComponentState) :
    Turn agent (signalComponentStateChange agent streamId componentId state) := by
  apply signal_rule (P := Turn agent) state (.refl agent)
  intro _ _
  refine Turn.trans ?_ (turn_note _)
  exact turn_onComponent fun _ => rfl

/-- The checks on pairs move on. -/
theorem turn_mapPairs (change : Nat → CandidateCheckPair → CandidateCheckPair)
    (eases : ∀ stream ∈ agent.streams, ∀ pair ∈ stream.conncheckList,
      Eases pair (change stream.id pair)) : Turn agent (agent.mapPairs change) := by
  refine ⟨core_mapPairs change fun stream found pair member => (eases stream found pair member).core,
    rfl, change, ?_, ?_⟩
  · unfold XiceAgent.lists mapPairs
    rw [map_map, map_map]
    rfl
  · intro entry member
    obtain ⟨stream, found, rfl⟩ := mem_map.mp member
    exact eases stream found

/-- The pairs of one stream are changed. -/
theorem onList_map (change : CandidateCheckPair → CandidateCheckPair) :
    agent.onList streamId (List.map change) =
      agent.mapPairs fun id pair => if id = streamId then change pair else pair := by
  unfold onList onStream mapPairs
  congr 1
  apply map_congr_left
  intro stream _
  by_cases same : stream.id = streamId <;> simp [same]

/-- The checks on the pairs of a stream move on. -/
theorem turn_onList {change : CandidateCheckPair → CandidateCheckPair}
    (eases : ∀ pair, Eases pair (change pair)) :
    Turn agent (agent.onList streamId (List.map change)) := by
  rw [onList_map]
  apply turn_mapPairs
  intro stream _ pair _
  split
  · exact eases pair
  · exact Eases.refl pair

/-- The check on a pair moves on. -/
theorem turn_onPair {ref : PairRef} {change : CandidateCheckPair → CandidateCheckPair}
    (eases : ∀ stream ∈ agent.streams, ∀ pair ∈ stream.conncheckList, pair.ref = ref →
      Eases pair (change pair)) : Turn agent (agent.onPair ref change) := by
  apply turn_mapPairs fun _ pair => if pair.ref = ref then change pair else pair
  intro stream found pair member
  split
  · rename_i same
    exact eases stream found pair member same
  · exact Eases.refl pair

/-- A pair is nominated. -/
theorem turn_nominatePair (ref : PairRef) :
    Turn agent (agent.onPair ref fun pair => { pair with nominated := true }) :=
  turn_onPair fun _ _ _ _ _ => ⟨rfl, id⟩

/-! ## Checks that are started -/

/-- The state of a pair changes that was not in progress. -/
theorem Eases.idle (idle : pair.state ≠ .inProgress) (state : XiceCheckState) :
    Eases pair { pair with state := state } :=
  ⟨rfl, fun waits message => absurd (waits message) idle⟩

/-- The state of a pair changes whose check waits no longer. -/
theorem Eases.silent (silent : pair.message = none) (state : XiceCheckState) :
    Eases pair { pair with state := state } :=
  ⟨rfl, fun _ message => by simp [silent] at message⟩

/-- A check is forgotten. -/
theorem Eases.forget (state : XiceCheckState) :
    Eases pair { pair with state := state, message := none } :=
  ⟨rfl, fun _ message => absurd message (by simp)⟩

/-- `conn_check_send`, for a pair in progress. -/
theorem turn_send {ref : PairRef} (out : Outside) (running : ∀ stream ∈ agent.streams,
    ∀ pair ∈ stream.conncheckList, pair.ref = ref → pair.state = .inProgress) :
    Turn agent (connCheckSend out agent ref) := by
  unfold connCheckSend
  split
  · exact .refl agent
  · dsimp only
    generalize chosen : (if agent.controllingMode = true then
      agent.onPair ref fun pair => { pair with nominated := true } else agent) = after
    have nominated : Turn agent after ∧ ∀ stream ∈ after.streams, ∀ pair ∈ stream.conncheckList,
        pair.ref = ref → pair.state = .inProgress := by
      rw [← chosen]
      split
      · apply And.intro (turn_nominatePair ref)
        intro stream member pair among same
        obtain ⟨before, was, rfl⟩ := mem_map.mp member
        obtain ⟨earlier, inside, rfl⟩ := mem_map.mp among
        have named := running before was earlier inside
        split at same <;> simp_all
      · exact ⟨.refl agent, running⟩
    have written : ∀ message : Option ConnCheck,
        Turn after (after.onPair ref fun pair => { pair with message := message }) := by
      intro message
      apply turn_onPair
      intro stream member pair among same
      exact ⟨rfl, fun _ _ => nominated.2 stream member pair among same⟩
    apply nominated.1.trans
    repeat' split
    all_goals first
      | exact written none
      | exact (written none).trans (.of_lists rfl rfl rfl)
      | exact (written (some _)).trans (.of_lists rfl rfl rfl)

/-- `priv_conn_check_initiate`. -/
theorem turn_initiate (out : Outside) (ref : PairRef) :
    Turn agent (privConnCheckInitiate out agent ref) := by
  unfold privConnCheckInitiate
  split
  · exact .refl agent
  · refine Turn.trans ?_ (turn_send out ?_)
    · exact turn_onPair fun _ _ _ _ _ => ⟨rfl, fun _ _ => rfl⟩
    · intro stream member pair among same
      obtain ⟨before, was, rfl⟩ := mem_map.mp member
      obtain ⟨earlier, inside, rfl⟩ := mem_map.mp among
      split at same
      · rename_i named
        rw [if_pos named]
      · rename_i other
        exact absurd same other

/-! ## Unfreezing -/

/-- `unfreeze`, for a condition that only frozen pairs satisfy. -/
theorem turn_unfreeze {which : CandidateCheckPair → Bool}
    (frozen : ∀ pair, which pair = true → pair.state = .frozen) :
    Turn agent (unfreeze agent streamId which) := by
  apply turn_onList
  intro pair
  split
  · rename_i chosen
    exact Eases.idle (by simp [frozen pair chosen]) _
  · exact Eases.refl pair

/-- The best frozen pair is a frozen pair of the list. -/
theorem bestFrozen_eq_some {list : List CandidateCheckPair} (found : bestFrozen list = some pair) :
    pair ∈ list ∧ pair.state = .frozen := by
  have every : ∀ (rest : List CandidateCheckPair) (best : UInt64 × Option CandidateCheckPair),
      (∀ pair, best.2 = some pair → pair ∈ list ∧ pair.state = .frozen) → rest ⊆ list →
      ∀ pair, (rest.foldl (fun best pair =>
        if pair.state = .frozen ∧ best.1 < pair.priority then (pair.priority, some pair)
        else best) best).2 = some pair → pair ∈ list ∧ pair.state = .frozen := by
    intro rest
    induction rest with
    | nil =>
      intro best so_far _
      exact so_far
    | cons first rest ih =>
      intro best so_far inside
      rw [foldl_cons]
      apply ih
      · intro pair chosen
        split at chosen
        · rename_i better
          cases chosen
          exact ⟨inside mem_cons_self, better.1⟩
        · exact so_far pair chosen
      · exact fun _ member => inside (mem_cons_of_mem _ member)
  exact every list (0, none) (fun _ none_yet => absurd none_yet (by simp)) (List.Subset.refl list) pair
    found

/-- `priv_conn_check_unfreeze_next`, for pairs with names of their own. -/
theorem turn_unfreezeNext
    (unique : ∀ stream ∈ agent.streams, ∀ other ∈ agent.streams, ∀ pair ∈ stream.conncheckList,
      ∀ twin ∈ other.conncheckList, pair.ref = twin.ref → pair = twin) :
    Turn agent (privConnCheckUnfreezeNext agent).2 := by
  unfold privConnCheckUnfreezeNext
  split
  · rename_i pair found
    obtain ⟨stream, present, best⟩ := exists_of_findSome?_eq_some found
    obtain ⟨member, frozen⟩ := bestFrozen_eq_some best
    apply turn_onPair
    intro other there twin among same
    rw [unique other there stream present twin among pair member same]
    exact Eases.idle (by simp [frozen]) _
  · exact .refl agent

/-- The loop over the streams in `priv_conn_check_unfreeze_related`. -/
theorem turn_unfreezeOthers (ok : CandidateCheckPair) (streams : List Stream) (unfrozen : Nat)
    (agent : XiceAgent) : Turn agent (unfreezeOthers ok streams unfrozen agent).2 := by
  induction streams generalizing unfrozen agent with
  | nil => exact .refl agent
  | cons other rest ih =>
    unfold unfreezeOthers
    have first : Turn agent (unfreeze agent ok.streamId fun pair =>
        pair.streamId = other.id && pair.streamId ≠ ok.streamId && pair.state = .frozen &&
          pair.foundation = ok.foundation) := by
      apply turn_unfreeze
      intro pair chosen
      simp only [Bool.and_eq_true, decide_eq_true_eq] at chosen
      exact chosen.1.2
    dsimp only
    split
    · exact first
    · exact first.trans (ih _ _)

/-! ## Components -/

/-- Every pair is changed. -/
theorem checkList_mapPairs (change : Nat → CandidateCheckPair → CandidateCheckPair) (id : Nat) :
    (agent.mapPairs change).checkList id = (agent.checkList id).map (change id) := by
  unfold checkList findStream mapPairs
  dsimp only
  rw [find?_map]
  have same : (fun stream : Stream => decide (stream.id = id)) ∘ (fun stream : Stream =>
      ({ stream with conncheckList := stream.conncheckList.map (change stream.id) } : Stream)) =
        fun stream => decide (stream.id = id) := rfl
  rw [same]
  cases found : agent.streams.find? fun stream => stream.id = id with
  | none => rfl
  | some stream =>
    have named : stream.id = id := by simpa using find?_some found
    simp [named]

/-- A pair of a list is one of a stream. -/
theorem exists_stream_of_mem (member : pair ∈ agent.checkList streamId) :
    ∃ stream ∈ agent.streams, stream.id = streamId ∧ pair ∈ stream.conncheckList := by
  unfold checkList at member
  cases found : agent.findStream streamId with
  | none => simp [found] at member
  | some stream =>
    rw [found] at member
    exact ⟨stream, mem_of_find?_eq_some found, id_of_findStream found, member⟩

/-- `priv_prune_pending_checks`. -/
theorem turn_prunePending : Turn agent (privPrunePendingChecks agent streamId componentId).2 := by
  apply turn_onList
  intro pair
  unfold prunePending
  split
  · split
    · rename_i early
      apply Eases.idle
      rcases early with frozen | waiting
      · simp [frozen]
      · simp [waiting]
    · split
      · exact Eases.forget _
      · exact Eases.refl pair
  · exact Eases.refl pair

/-- `priv_update_check_list_state_for_ready`. -/
theorem turn_updateForReady :
    Turn agent (privUpdateCheckListStateForReady agent streamId componentId) := by
  unfold privUpdateCheckListStateForReady
  split
  · dsimp only
    split
    · exact turn_prunePending.trans (turn_signal ..)
    · exact turn_prunePending
  · exact .refl agent

/-- A loop of quiet changes. -/
theorem turn_foldl {α : Type} {step : XiceAgent → α → XiceAgent} (list : List α)
    (turns : ∀ agent x, Turn agent (step agent x)) (agent : XiceAgent) :
    Turn agent (list.foldl step agent) :=
  List.foldlRecOn (motive := Turn agent) list step (.refl agent) fun after before x _ =>
    before.trans (turns after x)

/-- `priv_update_check_list_failed_components`. -/
theorem turn_updateFailed (stream : Stream) :
    Turn agent (privUpdateCheckListFailedComponents agent stream) := by
  apply turn_foldl
  intro agent c
  split
  · exact .refl agent
  · dsimp only
    split
    · exact turn_signal ..
    · exact .refl agent

/-- `priv_update_selected_pair`. -/
theorem turn_updateSelectedPair (pair : CandidateCheckPair) :
    Turn agent (privUpdateSelectedPair agent streamId componentId pair) := by
  unfold privUpdateSelectedPair
  split
  · refine Turn.trans ?_ (turn_note _)
    exact turn_onComponent fun _ => rfl
  · exact .refl agent

/-- `priv_mark_pair_nominated`. -/
theorem turn_markPairNominated (far : CandidateRef) :
    Turn agent (privMarkPairNominated agent streamId componentId far) := by
  apply turn_foldl
  intro agent ref
  unfold markNominated
  dsimp only
  apply (turn_nominatePair ref).trans
  refine Turn.trans ?_ turn_updateForReady
  split
  · exact .refl _
  · split
    · exact turn_updateSelectedPair _
    · exact .refl _

/-- What happens to the pair of a triggered check. -/
theorem turn_triggerPair (out : Outside) (pair : CandidateCheckPair) :
    Turn agent (triggerPair out agent streamId componentId pair) := by
  have valid : Turn agent
      (let agent := privUpdateCheckListStateForReady agent streamId componentId
      if agent.compatibility.full ∧ agent.controllingMode then
        privConnCheckInitiate out agent pair.ref
      else agent) := by
    dsimp only
    split
    · exact turn_updateForReady.trans (turn_initiate out _)
    · exact turn_updateForReady
  unfold triggerPair
  split
  · exact turn_initiate out _
  · exact turn_initiate out _
  · exact turn_initiate out _
  · exact turn_onPair fun _ _ _ _ _ => ⟨rfl, id⟩
  · exact valid
  · exact valid
  · exact .refl _

/-! ## The timer -/

/-- What a tick does to a pair. -/
theorem eases_tickPair (timers : Timers) (pair : CandidateCheckPair) :
    Eases pair (tickPair timers pair).1 := by
  unfold tickPair
  split
  · split
    · rename_i silent
      exact Eases.silent silent _
    · exact Eases.refl pair
    · exact Eases.forget _
    · exact Eases.refl pair
    · exact Eases.refl pair
  · exact Eases.refl pair

/-- The nominations of a tick. -/
theorem turn_nominate (out : Outside) (count : Nat) (agent : XiceAgent) :
    Turn agent (nominate out streamId count agent) := by
  induction count generalizing agent with
  | zero => exact .refl agent
  | succ count ih =>
    unfold nominate
    split
    · exact ih agent
    · exact (turn_nominatePair _).trans ((turn_initiate out _).trans (ih _))

/-- `priv_conn_check_tick_stream`. -/
theorem turn_tickStream (out : Outside) (stream : Stream) (timers : Timers) :
    Turn agent (privConnCheckTickStream out agent stream timers).2 := by
  have ticked : Turn agent (({ agent with
      log := agent.log ++ (agent.checkList stream.id).filterMap (tickSends agent timers) } :
        XiceAgent).onList stream.id fun list => list.map fun pair => (tickPair timers pair).1) := by
    refine Turn.trans ?_ (turn_onList (eases_tickPair timers))
    exact .of_lists rfl rfl rfl
  unfold privConnCheckTickStream
  dsimp only
  split
  · apply ticked.trans
    split
    · exact turn_nominate out _ _
    · exact .refl _
  · exact ticked

/-- The loop over the streams of a tick. -/
theorem turn_tickStreams (out : Outside) (streams : List Stream) (timers : Timers) (keep : Bool)
    (agent : XiceAgent) : Turn agent (tickStreams out timers streams keep agent).2 := by
  induction streams generalizing keep agent with
  | nil => exact .refl agent
  | cons stream rest ih => exact (turn_tickStream out stream timers).trans (ih _ _)

end Xice.Ice
