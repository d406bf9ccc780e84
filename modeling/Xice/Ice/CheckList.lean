import Mathlib.Data.List.Sort
import Xice.Ice.Candidate

/-!
# Check lists

The functions of `conncheck.c` that work on check lists. A function that takes a pointer to a pair
takes its name here and reads the pair when the source does. A write of the source to a pair that
`priv_limit_conn_check_list_size` has freed changes nothing here.
-/

namespace Xice.Ice

open Xice.Stun

variable (agent : XiceAgent) (streamId componentId : Nat) (list : List CandidateCheckPair)
  (near : CandidateRef) (ref : PairRef) (far : CandidateRef) (out : Outside)
  (pair : CandidateCheckPair) (state : XiceCheckState) (remote : CandidateRef)

/-! ## Signals -/

/-- `agent_signal_component_state_change`. -/
def signalComponentStateChange (state : XiceComponentState) : XiceAgent :=
  match agent.findComponent streamId componentId with
  | none => agent
  | some component =>
    if agent.reliable && !component.tcp && state ≠ .failed then agent
    else if component.state ≠ state then
      (agent.onComponent streamId componentId fun component => { component with state := state }).note
        (.stateChanged streamId componentId state)
    else agent

/-! ## Checks -/

/-- Checks carry the attributes of ICE: not in the modes of Google and MSN. -/
def XiceCompatibility.full : XiceCompatibility → Bool
  | .google | .msn | .oc2007 => false
  | .rfc5245 | .wlm2009 | .oc2007r2 => true

/-- The check that `conn_check_send` builds. -/
def newCheck (id : StunTransactionId) (near : XiceCandidate) : ConnCheck :=
  let controlling := agent.controllingMode
  if agent.compatibility.full then
    { id := id
      role := some (controlling, agent.tieBreaker)
      priority := some (xiceCandidateIcePriorityFull XiceCandidateType.peerReflexive.preference 1
        near.componentId)
      useCandidate := controlling }
  else { id := id, role := none, priority := none, useCandidate := false }

/-- `conn_check_send`. -/
def connCheckSend (agent : XiceAgent) (ref : PairRef) : XiceAgent :=
  match agent.findPair ref with
  | none => agent
  | some pair =>
    let near := agent.candidates pair.localCand
    let far := agent.candidates pair.remoteCand
    let name := match agent.findStream pair.streamId with
      | none => []
      | some stream => privCreateUsername out agent stream pair.componentId far near false
    let agent := if agent.controllingMode then
      agent.onPair ref fun pair => { pair with nominated := true } else agent
    if name = [] then agent.onPair ref fun pair => { pair with message := none }
    else
      match out.request agent.created with
      | none =>
        { agent with created := agent.created + 1 }.onPair ref fun pair =>
          { pair with message := none }
      | some id =>
        let request := newCheck agent id near
        ({ agent with created := agent.created + 1 }.onPair ref fun pair =>
          { pair with message := some request }).note (.sent near.sockptr far.addr (.check request))

/-- `priv_conn_check_initiate`. -/
def privConnCheckInitiate (agent : XiceAgent) (ref : PairRef) : XiceAgent :=
  match agent.findPair ref with
  | none => agent
  | some _ =>
    connCheckSend out (agent.onPair ref fun pair => { pair with state := .inProgress }) ref

/-- `priv_conn_check_find_next_waiting`. -/
def privConnCheckFindNextWaiting : Option CandidateCheckPair :=
  list.find? fun pair => pair.state = .waiting

/-! ## Unfreezing -/

/-- The first frozen pair with the highest priority, if that is not zero. -/
def bestFrozen : Option CandidateCheckPair :=
  (list.foldl (fun best pair =>
    if pair.state = .frozen ∧ best.1 < pair.priority then (pair.priority, some pair) else best)
    ((0 : UInt64), none)).2

/-- `priv_conn_check_unfreeze_next`. -/
def privConnCheckUnfreezeNext : Bool × XiceAgent :=
  match agent.streams.findSome? fun stream => bestFrozen stream.conncheckList with
  | some pair => (true, agent.onPair pair.ref fun pair => { pair with state := .waiting })
  | none => (false, agent)

/-- `stream_all_components_ready`. -/
def streamAllComponentsReady (stream : Stream) : Bool :=
  stream.components.all fun component => component.state = .connected || component.state = .ready

/-- Unfreeze the pairs that satisfy a condition. -/
def unfreeze (which : CandidateCheckPair → Bool) : XiceAgent :=
  agent.onList streamId fun list => list.map fun pair =>
    if which pair then { pair with state := .waiting } else pair

/-- The loop of `priv_conn_check_unfreeze_related`, which walks over the check list of the stream of
`ok` each time. -/
def unfreezeOthers (ok : CandidateCheckPair) :
    List Stream → (unfrozen : Nat) → XiceAgent → Nat × XiceAgent
  | [], unfrozen, agent => (unfrozen, agent)
  | other :: rest, unfrozen, agent =>
    let which (pair : CandidateCheckPair) : Bool :=
      pair.streamId = other.id && pair.streamId ≠ ok.streamId && pair.state = .frozen &&
        pair.foundation = ok.foundation
    let unfrozen := unfrozen + (agent.checkList ok.streamId).countP which
    let agent := unfreeze agent ok.streamId which
    if unfrozen ≠ 0 then (unfrozen, agent) else unfreezeOthers ok rest unfrozen agent

/-- `priv_conn_check_unfreeze_related`. -/
def privConnCheckUnfreezeRelated : XiceAgent :=
  match agent.findPair ref with
  | none => agent
  | some ok =>
    let which (pair : CandidateCheckPair) : Bool :=
      pair.streamId = ok.streamId && pair.state = .frozen && pair.foundation = ok.foundation
    let unfrozen := (agent.checkList streamId).countP which
    let agent := unfreeze agent streamId which
    let after :=
      match agent.findStream ok.streamId with
      | none => (unfrozen, agent)
      | some stream =>
        if streamAllComponentsReady stream then unfreezeOthers ok agent.streams unfrozen agent
        else (unfrozen, agent)
    if after.1 = 0 then (privConnCheckUnfreezeNext after.2).2 else after.2

/-! ## Adding pairs -/

/-- `conn_check_compare`. -/
def connCheckCompare (a b : CandidateCheckPair) : Int :=
  if b.priority < a.priority then -1 else if a.priority < b.priority then 1 else 0

/-- `g_slist_insert_sorted` with `conn_check_compare`: before the first that is not smaller. -/
def insertSorted : List CandidateCheckPair :=
  list.orderedInsert (fun a b => connCheckCompare a b ≤ 0) pair

/-- `priv_limit_conn_check_list_size`. -/
def privLimitConnCheckListSize (upperLimit : UInt32) : List CandidateCheckPair :=
  let length := list.length
  if upperLimit.toNat < length then
    let c := length - upperLimit.toNat
    if c = length then [] else list.take c
  else list

/-- A check pair as `g_slice_new0` makes it. -/
def blankPair : CandidateCheckPair where
  ref := ref
  streamId := 0
  componentId := 0
  localCand := 0
  remoteCand := 0
  foundation := []
  state := .waiting
  nominated := false
  controlling := false
  timerRestarted := false
  priority := 0
  message := none

/-- The pair that `priv_add_new_check_pair` fills in. -/
def newPair (useCandidate : Bool) : CandidateCheckPair where
  ref := agent.allocated
  streamId := streamId
  componentId := componentId
  localCand := near
  remoteCand := far
  foundation := pairFoundation (agent.candidates near) (agent.candidates far)
  state := state
  nominated := useCandidate
  controlling := agent.controllingMode
  timerRestarted := false
  priority := agent.candidatePairPriority near far
  message := none

/-- The limit on a check list, for agents that have one. -/
def limitCheckList : XiceAgent :=
  if agent.compatibility = .rfc5245 then
    agent.onList streamId fun list => privLimitConnCheckListSize list agent.maxConnChecks
  else agent

/-- `priv_add_new_check_pair` up to the limit. The pair is in the list before it has a priority. -/
def insertNewPair (useCandidate : Bool) : XiceAgent :=
  let pair := newPair agent streamId componentId near far state useCandidate
  let agent := { agent with allocated := agent.allocated + 1 }.onList streamId fun list =>
    insertSorted list (blankPair pair.ref)
  agent.onPair pair.ref fun _ => pair

/-- `priv_add_new_check_pair`. -/
def privAddNewCheckPair (useCandidate : Bool) : XiceAgent :=
  limitCheckList (insertNewPair agent streamId componentId near far state useCandidate) streamId

/-- Whether local candidates of a type are left out of pairs. -/
def XiceCompatibility.leavesOut (compatibility : XiceCompatibility) (type : XiceCandidateType) :
    Bool :=
  match compatibility with
  | .rfc5245 | .wlm2009 | .oc2007r2 => type = .serverReflexive
  | .google | .msn | .oc2007 => false

/-- `priv_conn_check_add_for_candidate_pair` makes a pair of the two. -/
def XiceAgent.matches : Bool :=
  let near := agent.candidates near
  let far := agent.candidates far
  !agent.compatibility.leavesOut near.type && near.transport = far.transport &&
    near.addr.family = far.addr.family

/-- `priv_conn_check_add_for_candidate_pair`. -/
def privConnCheckAddForCandidatePair : XiceAgent :=
  if agent.matches near far then
    let agent := privAddNewCheckPair agent streamId componentId near far .frozen false
    match agent.findComponent streamId componentId with
    | none => agent
    | some component =>
      if component.state.number < XiceComponentState.connected.number then
        signalComponentStateChange agent streamId componentId .connecting
      else signalComponentStateChange agent streamId componentId .connected
  else agent

/-- `conn_check_add_for_candidate`. -/
def connCheckAddForCandidate : XiceAgent :=
  match agent.findComponent streamId componentId with
  | none => agent
  | some component =>
    component.localCandidates.foldl (fun agent near =>
      privConnCheckAddForCandidatePair agent streamId componentId near remote) agent

/-- `conn_check_add_for_local_candidate`. -/
def connCheckAddForLocalCandidate : XiceAgent :=
  match agent.findComponent streamId componentId with
  | none => agent
  | some component =>
    component.remoteCandidates.foldl (fun agent remote =>
      privConnCheckAddForCandidatePair agent streamId componentId near remote) agent

/-! ## Freeing -/

/-- `conn_check_free`. -/
def connCheckFree : XiceAgent :=
  { agent with
    streams := agent.streams.map fun stream => { stream with conncheckList := [] }
    conncheckTimer := false }

/-- The loop of `conn_check_prune_stream`: `g_slist_remove` for each pair. -/
def pruneLoop (pairs list : List CandidateCheckPair) : List CandidateCheckPair :=
  pairs.foldl (fun list pair => list.eraseP fun other => other.ref = pair.ref) list

/-- `conn_check_prune_stream`. -/
def connCheckPruneStream : XiceAgent :=
  let left := pruneLoop (agent.checkList streamId) (agent.checkList streamId)
  let agent := agent.onList streamId fun _ => left
  if left = [] then connCheckFree agent else agent

/-! ## Nomination -/

/-- The highest priority of valid nominated pairs of a component, or zero. -/
def highestNominatedPriority (componentId : Nat) : UInt64 :=
  list.foldl (fun highest pair =>
    if pair.componentId = componentId ∧ pair.valid ∧ pair.nominated ∧ highest < pair.priority then
      pair.priority else highest) 0

/-- What `priv_prune_pending_checks` does to a pair. -/
def prunePending (highest : UInt64) (pair : CandidateCheckPair) : CandidateCheckPair :=
  if pair.componentId = componentId then
    if pair.state = .frozen ∨ pair.state = .waiting then { pair with state := .cancelled }
    else if pair.state = .inProgress ∧ highest ≠ 0 ∧ pair.priority < highest then
      { pair with state := .cancelled, message := none }
    else pair
  else pair

/-- `priv_prune_pending_checks`. -/
def privPrunePendingChecks : Nat × XiceAgent :=
  let highest := highestNominatedPriority (agent.checkList streamId) componentId
  let agent := agent.onList streamId fun list => list.map (prunePending componentId highest)
  ((agent.checkList streamId).countP fun pair =>
    pair.componentId = componentId && pair.state = .inProgress, agent)

/-- `priv_update_check_list_state_for_ready`. -/
def privUpdateCheckListStateForReady : XiceAgent :=
  if (agent.checkList streamId).any fun pair =>
      pair.componentId = componentId && pair.valid && pair.nominated then
    let pruned := privPrunePendingChecks agent streamId componentId
    if pruned.1 = 0 then signalComponentStateChange pruned.2 streamId componentId .ready
    else pruned.2
  else agent

/-- `priv_update_selected_pair`. -/
def privUpdateSelectedPair : XiceAgent :=
  if (agent.selectedPair streamId componentId).priority < pair.priority then
    (agent.onComponent streamId componentId fun component =>
      { component with
        selectedPair := ⟨some pair.localCand, some pair.remoteCand, pair.priority⟩ }).note
      (.newSelectedPair streamId componentId)
  else agent

/-- One turn of the loop of `priv_mark_pair_nominated`. -/
def markNominated (agent : XiceAgent) (ref : PairRef) : XiceAgent :=
  let agent := agent.onPair ref fun pair => { pair with nominated := true }
  let agent :=
    match agent.findPair ref with
    | none => agent
    | some pair =>
      if pair.valid then privUpdateSelectedPair agent streamId componentId pair else agent
  privUpdateCheckListStateForReady agent streamId componentId

/-- `priv_mark_pair_nominated`. -/
def privMarkPairNominated : XiceAgent :=
  let pairs := (agent.checkList streamId).filter fun pair => pair.remoteCand = remote
  (pairs.map CandidateCheckPair.ref).foldl (markNominated streamId componentId) agent

/-- `priv_update_check_list_failed_components`. -/
def privUpdateCheckListFailedComponents (stream : Stream) : XiceAgent :=
  (List.range stream.nComponents).foldl (fun agent c =>
    match agent.findComponent stream.id (c + 1) with
    | none => agent
    | some component =>
      let alive (pair : CandidateCheckPair) : Bool :=
        pair.streamId = stream.id && pair.componentId = c + 1 && pair.state ≠ .failed
      if !(agent.checkList stream.id).any alive && component.remoteCandidates ≠ [] then
        signalComponentStateChange agent stream.id (c + 1) .failed
      else agent) agent

/-! ## Triggered checks -/

/-- What `priv_schedule_triggered_check` does with a pair that it finds. -/
def triggerPair (agent : XiceAgent) (streamId componentId : Nat) (pair : CandidateCheckPair) :
    XiceAgent :=
  match pair.state with
  | .waiting | .frozen | .failed => privConnCheckInitiate out agent pair.ref
  | .inProgress => agent.onPair pair.ref fun pair => { pair with timerRestarted := true }
  | .succeeded | .discovered =>
    let agent := privUpdateCheckListStateForReady agent streamId componentId
    if agent.compatibility.full ∧ agent.controllingMode then
      privConnCheckInitiate out agent pair.ref
    else agent
  | .cancelled => agent

/-- A local candidate has a socket. -/
def XiceAgent.uses (agent : XiceAgent) (localSocket : SocketRef) (ref : CandidateRef) : Bool :=
  (agent.candidates ref).sockptr = some localSocket

/-- The pair that `priv_schedule_triggered_check` looks for. -/
def triggeredPair (agent : XiceAgent) (streamId componentId : Nat) (localSocket : SocketRef)
    (remote : CandidateRef) : Option CandidateCheckPair :=
  (agent.checkList streamId).find? fun pair =>
    pair.componentId = componentId && pair.remoteCand = remote &&
      agent.uses localSocket pair.localCand

/-- `priv_schedule_triggered_check`. -/
def privScheduleTriggeredCheck (agent : XiceAgent) (streamId componentId : Nat)
    (localSocket : SocketRef) (remote : CandidateRef) (useCandidate : Bool) : XiceAgent :=
  match triggeredPair agent streamId componentId localSocket remote with
  | some pair => triggerPair out agent streamId componentId pair
  | none =>
    match (agent.findComponent streamId componentId).bind fun component =>
        component.localCandidates.find? (agent.uses localSocket) with
    | some near =>
      privAddNewCheckPair agent streamId componentId near remote .waiting useCandidate
    | none => agent

/-! ## Roles -/

/-- `priv_recalculate_pair_priorities`. -/
def privRecalculatePairPriorities : XiceAgent :=
  { agent with
    streams := agent.streams.map fun stream =>
      { stream with
        conncheckList := stream.conncheckList.map fun pair =>
          { pair with priority := agent.candidatePairPriority pair.localCand pair.remoteCand } } }

/-- `priv_check_for_role_conflict`. -/
def privCheckForRoleConflict (control : Bool) : XiceAgent :=
  if control ≠ agent.controllingMode then
    privRecalculatePairPriorities ({ agent with controllingMode := control }.note
      (.roleChanged control))
  else agent

end Xice.Ice
