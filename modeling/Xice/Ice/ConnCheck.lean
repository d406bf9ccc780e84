import Xice.Ice.Discovery

/-!
# Connectivity checks

The timer of the checks, the checks that came before the remote candidates, and the handling of
checks and of their answers. A message is what `stun_agent_validate` and `ice.c` read of it; whether
an answer can be built, and what the timer of a check says, comes from outside.
-/

namespace Xice.Ice

open Xice.Stun

/-! ## The timer -/

/-- `StunUsageTimerReturn`. -/
inductive StunUsageTimerReturn where
  | success
  | retransmit
  | timeout
  deriving DecidableEq, Repr

variable (agent : XiceAgent) (out : Outside) (streamId componentId : Nat) (socket : SocketRef)
  (timers : Timers) (pair : CandidateCheckPair) (request : StunRequest) (icheck : IncomingCheck)
  (reply : StunReply)

/-- The timer of a check at a tick: nothing before `next_tick`, then the result of
`stun_timer_refresh`. -/
abbrev Timers := PairRef → Option StunUsageTimerReturn

/-- What a tick does to a pair, and whether it keeps the timer. -/
def tickPair : CandidateCheckPair × Bool :=
  if pair.state = .inProgress then
    match pair.message, timers pair.ref with
    | none, _ => ({ pair with state := .failed }, false)
    | some _, none => (pair, false)
    | some _, some .timeout => ({ pair with state := .failed, message := none }, false)
    | some _, some .retransmit => (pair, true)
    | some _, some .success => (pair, true)
  else (pair, false)

/-- The check that a tick sends again for a pair. -/
def tickSends : Option Note :=
  if pair.state = .inProgress ∧ timers pair.ref = some .retransmit then
    pair.message.map fun request =>
      .sent (agent.candidates pair.localCand).sockptr (agent.candidates pair.remoteCand).addr
        (.check request)
  else none

/-- The nominations of `priv_conn_check_tick_stream`: so many times, the first valid pair is checked
again. -/
def nominate (out : Outside) (streamId : Nat) : Nat → XiceAgent → XiceAgent
  | 0, agent => agent
  | count + 1, agent =>
    match (agent.checkList streamId).find? CandidateCheckPair.valid with
    | none => nominate out streamId count agent
    | some pair =>
      nominate out streamId count (privConnCheckInitiate out
        (agent.onPair pair.ref fun pair => { pair with nominated := true }) pair.ref)

/-- `priv_conn_check_tick_stream`. -/
def privConnCheckTickStream (agent : XiceAgent) (stream : Stream) (timers : Timers) :
    Bool × XiceAgent :=
  let before := agent.checkList stream.id
  let agent : XiceAgent :=
    { agent with log := agent.log ++ before.filterMap (tickSends agent timers) }
  let agent := agent.onList stream.id fun list => list.map fun pair => (tickPair timers pair).1
  let list := agent.checkList stream.id
  let inProgress := list.countP fun pair => pair.state = .inProgress
  let nominated := list.countP fun pair => pair.valid && pair.nominated
  let waitingForNomination := list.countP fun pair => pair.valid && !pair.nominated
  let keep := before.any (fun pair => (tickPair timers pair).2) || 0 < inProgress
  if nominated < stream.nComponents ∧ 0 < waitingForNomination then
    (true, if agent.controllingMode then nominate out stream.id stream.nComponents agent else agent)
  else (keep, agent)

/-- The loop over the streams in `priv_conn_check_tick_unlocked`. -/
def tickStreams (out : Outside) (timers : Timers) :
    List Stream → (keep : Bool) → XiceAgent → Bool × XiceAgent
  | [], keep, agent => (keep, agent)
  | stream :: rest, keep, agent =>
    let ticked := privConnCheckTickStream out agent stream timers
    tickStreams out timers rest (keep || ticked.1) ticked.2

/-- The end of `priv_conn_check_tick_unlocked`, when no work is left. -/
def stopConnChecks : XiceAgent :=
  let agent := agent.streams.foldl (fun agent stream =>
    stream.components.foldl (fun agent component =>
      privUpdateCheckListStateForReady agent stream.id component.id)
      (privUpdateCheckListFailedComponents agent stream)) agent
  { agent with conncheckTimer := false }

/-- The first waiting pair is checked, or a pair is unfrozen. -/
def startNext (agent : XiceAgent) : Bool × XiceAgent :=
  match agent.streams.findSome? fun stream => privConnCheckFindNextWaiting stream.conncheckList with
  | some pair => (true, privConnCheckInitiate out agent pair.ref)
  | none => privConnCheckUnfreezeNext agent

/-- `priv_conn_check_tick_unlocked`. -/
def privConnCheckTickUnlocked (agent : XiceAgent) (timers : Timers) : Bool × XiceAgent :=
  let first := startNext out agent
  let ticked := tickStreams out timers agent.streams first.1 first.2
  if ticked.1 then ticked else (false, stopConnChecks ticked.2)

/-- `conn_check_schedule_next`. -/
def connCheckScheduleNext (agent : XiceAgent) (timers : Timers) : XiceAgent :=
  let unfrozen := (privConnCheckUnfreezeNext agent).2
  let ticked := privConnCheckTickUnlocked out unfrozen timers
  { ticked.2 with
    conncheckTimer := ticked.1 || ticked.2.conncheckTimer
    keepaliveTimer := true }

/-! ## Early checks -/

/-- One stored check in `priv_preprocess_conn_check_pending_data`. -/
def preprocess (agent : XiceAgent) (icheck : IncomingCheck) : XiceAgent :=
  if icheck.source.equal (agent.candidates pair.remoteCand).addr &&
      (agent.candidates pair.localCand).sockptr = some icheck.localSocket then
    let agent := if icheck.useCandidate then
      privMarkPairNominated agent streamId pair.componentId pair.remoteCand else agent
    privScheduleTriggeredCheck out agent streamId pair.componentId icheck.localSocket
      pair.remoteCand icheck.useCandidate
  else agent

/-- The remote and the local candidate whose user names make up a user name. -/
def usernameMatch (agent : XiceAgent) (streamId : Nat) (component : Component)
    (username : Option (List UInt8)) (inbound : Bool) : Option (CandidateRef × CandidateRef) :=
  if agent.compatibility.full then none
  else
    match agent.findStream streamId with
    | none => none
    | some stream =>
      component.remoteCandidates.findSome? fun far =>
        (component.localCandidates.find? fun near =>
          username = some (privCreateUsername out agent stream component.id (agent.candidates far)
            (agent.candidates near) inbound)).map fun near => (far, near)

/-- One stored check in the second loop of `conn_check_remote_candidates_set`. The flag is not reset
between checks. -/
def learnEarly (seen : Bool × XiceAgent) (icheck : IncomingCheck) : Bool × XiceAgent :=
  match seen.2.findComponent streamId componentId with
  | none => seen
  | some component =>
    let agent := seen.2
    let known := seen.1 || component.remoteCandidates.any fun ref =>
      icheck.source.equal (agent.candidates ref).addr
    if known then (true, agent)
    else
      let found := usernameMatch out agent streamId component icheck.username true
      if agent.compatibility = .google ∧ found = none then (false, agent)
      else
        let learned := discoveryLearnRemotePeerReflexiveCandidate out agent streamId componentId
          icheck.priority icheck.source (found.map Prod.snd) (found.map Prod.fst)
        let agent := connCheckAddForCandidate learned.2 streamId componentId learned.1
        let agent := if icheck.useCandidate then
          privMarkPairNominated agent streamId componentId learned.1 else agent
        (false, privScheduleTriggeredCheck out agent streamId componentId icheck.localSocket
          learned.1 icheck.useCandidate)

/-- The stored checks of the component of one pair are processed and freed. -/
def processPending (agent : XiceAgent) (ref : PairRef) : XiceAgent :=
  match agent.findPair ref with
  | none => agent
  | some pair =>
    match agent.findComponent streamId pair.componentId with
    | none => agent
    | some component =>
      let agent := component.incomingChecks.foldl (preprocess out streamId pair) agent
      let learned := component.incomingChecks.foldl (learnEarly out streamId pair.componentId)
        (false, agent)
      learned.2.onComponent streamId pair.componentId fun component =>
        { component with incomingChecks := [] }

/-- `conn_check_remote_candidates_set`. The walk also comes to the pairs that it adds, whose
component has no stored checks by then. -/
def connCheckRemoteCandidatesSet (agent : XiceAgent) : XiceAgent :=
  agent.streams.foldl (fun agent stream =>
    ((agent.checkList stream.id).map CandidateCheckPair.ref).foldl
      (processPending out stream.id) agent) agent

/-! ## Checks of the peer -/

/-- A Binding request, as it is read. -/
structure StunRequest where
  id : StunTransactionId
  binding : Bool
  username : Option (List UInt8)
  controlling : Option UInt64
  controlled : Option UInt64
  priority : UInt32
  useCandidate : Bool
  deriving DecidableEq, Repr

/-- A check as its receiver reads it. -/
def ConnCheck.read (request : ConnCheck) (username : Option (List UInt8)) : StunRequest where
  id := request.id
  binding := true
  username := username
  controlling := request.role.bind fun role => if role.1 then some role.2 else none
  controlled := request.role.bind fun role => if role.1 then none else some role.2
  priority := request.priority.getD 0
  useCandidate := request.useCandidate

/-- `StunUsageIceReturn`. -/
inductive StunUsageIceReturn where
  | success
  | error
  | invalid
  | roleConflict
  | invalidMethod
  | noMappedAddress
  deriving DecidableEq, Repr

/-- What `stun_usage_ice_conncheck_create_reply` returns and leaves behind. -/
structure IceReply where
  result : StunUsageIceReturn
  control : Bool
  packet : Option Packet

/-- `stun_usage_ice_conncheck_create_reply`, if the answer can be built. -/
def iceConncheckCreateReply (control : Bool) (tie : UInt64) (built : Bool) : IceReply :=
  let answer (result : StunUsageIceReturn) (control : Bool) (packet : Packet) : IceReply :=
    ⟨result, control, if built then some packet else none⟩
  if !request.binding then answer .invalidMethod control (.error request.id 400)
  else
    match if control then request.controlling else request.controlled with
    | none =>
      if built then answer .success control (.response request.id) else ⟨.error, control, none⟩
    | some q =>
      if tie < q then
        if built then answer .roleConflict (!control) (.response request.id)
        else ⟨.error, !control, none⟩
      else answer .success control (.error request.id 487)

/-- `XICE_AGENT_MAX_REMOTE_CANDIDATES`. -/
def xiceAgentMaxRemoteCandidates : Nat := 25

/-- `priv_store_pending_check`. -/
def privStorePendingCheck : XiceAgent :=
  agent.onComponent streamId componentId fun component =>
    if xiceAgentMaxRemoteCandidates ≤ component.incomingChecks.length then component
    else { component with incomingChecks := component.incomingChecks ++ [icheck] }

/-- Send an answer, if there is one. -/
def sendReply (dest : XiceAddress) : Option Packet → XiceAgent
  | none => agent
  | some packet => agent.note (.sent (some socket) dest packet)

/-- `priv_reply_to_conn_check`. -/
def privReplyToConnCheck (agent : XiceAgent) (streamId componentId : Nat)
    (rcand : Option CandidateRef) (source : XiceAddress) (socket : SocketRef)
    (reply : Option Packet) (useCandidate : Bool) : XiceAgent :=
  let agent := sendReply agent socket source reply
  match rcand with
  | none => agent
  | some rcand =>
    let agent := privScheduleTriggeredCheck out agent streamId componentId socket rcand useCandidate
    if useCandidate then privMarkPairNominated agent streamId componentId rcand else agent

/-- The remote candidate of a component with an address. -/
def remoteAt (component : Component) (source : XiceAddress) : Option CandidateRef :=
  component.remoteCandidates.find? fun ref => source.equal (agent.candidates ref).addr

/-- Once there are remote candidates, a check from another address makes one more. -/
def learnUnknown (agent : XiceAgent) (streamId componentId : Nat) (source : XiceAddress)
    (request : StunRequest) (rcand : Option CandidateRef)
    (found : Option (CandidateRef × CandidateRef)) : Option CandidateRef × XiceAgent :=
  let known := (agent.findComponent streamId componentId).any fun component =>
    component.remoteCandidates ≠ []
  if known ∧ rcand = none then
    let made := discoveryLearnRemotePeerReflexiveCandidate out agent streamId componentId
      request.priority source (found.map Prod.snd) ((found.map Prod.fst).or rcand)
    (some made.1, connCheckAddForCandidate made.2 streamId componentId made.1)
  else (rcand, agent)

/-- The part of `conn_check_handle_inbound_stun` after an answer to a check was built. -/
def acceptCheck (agent : XiceAgent) (streamId componentId : Nat) (socket : SocketRef)
    (source : XiceAddress) (request : StunRequest) (reply : Option Packet)
    (rcand : Option CandidateRef) (found : Option (CandidateRef × CandidateRef)) : XiceAgent :=
  let useCandidate := request.useCandidate || agent.controllingMode || !agent.compatibility.full
  let agent := agent.onStream streamId fun stream =>
    { stream with initialBindingRequestReceived := true }
  let learned := learnUnknown out agent streamId componentId source request rcand found
  let agent := privReplyToConnCheck out learned.2 streamId componentId learned.1 source socket reply
    useCandidate
  if (agent.findComponent streamId componentId).any fun component =>
      component.remoteCandidates = [] then
    privStorePendingCheck agent streamId componentId
      ⟨source, socket, request.priority, useCandidate, request.username⟩
  else agent

/-- `conn_check_handle_inbound_stun` for a request that was validated. -/
def handleRequest (agent : XiceAgent) (streamId componentId : Nat) (socket : SocketRef)
    (source : XiceAddress) (request : StunRequest) (built : Bool) : XiceAgent :=
  match agent.findComponent streamId componentId with
  | none => agent
  | some component =>
    let rcand := remoteAt agent component source
    let found := usernameMatch out agent streamId component request.username true
    if component.remoteCandidates ≠ [] ∧ agent.compatibility = .google ∧ found = none then agent
    else if (agent.compatibility = .msn ∨ agent.compatibility = .oc2007) ∧ found = none then agent
    else
      let reply := iceConncheckCreateReply request agent.controllingMode agent.tieBreaker built
      match reply.result with
      | .roleConflict =>
        acceptCheck out (privCheckForRoleConflict agent reply.control) streamId componentId socket
          source request reply.packet rcand found
      | .success =>
        acceptCheck out agent streamId componentId socket source request reply.packet rcand found
      | _ => agent

/-! ## Answers to checks -/

/-- What an answer says. -/
inductive StunReplyKind where
  /-- A success response with the mapped address, if there is one. -/
  | response (mapped : Option XiceAddress)
  /-- An error response with its code, if there is one. -/
  | error (code : Option Nat)
  | other
  deriving DecidableEq, Repr

/-- An answer, as it is read. -/
structure StunReply where
  id : StunTransactionId
  binding : Bool
  username : Option (List UInt8)
  kind : StunReplyKind
  deriving DecidableEq, Repr

/-- `stun_usage_ice_conncheck_process`. -/
def iceConncheckProcess : StunUsageIceReturn :=
  if !reply.binding then .invalid
  else
    match reply.kind with
    | .other => .invalid
    | .error none => .invalid
    | .error (some code) => if code = 487 then .roleConflict else .error
    | .response (some _) => .success
    | .response none => .noMappedAddress

/-- `priv_add_peer_reflexive_pair`. The check list is not limited here. -/
def privAddPeerReflexivePair (near : CandidateRef) (parent : CandidateCheckPair) :
    PairRef × XiceAgent :=
  let pair := newPair agent streamId componentId near parent.remoteCand .discovered false
  (pair.ref, { agent with allocated := agent.allocated + 1 }.onList streamId fun list => list ++ [pair])

/-- The mapped address of a response is that of a local candidate. -/
def mappedIsLocal (mapped : XiceAddress) : Bool :=
  (agent.findComponent streamId componentId).any fun component =>
    component.localCandidates.any fun ref => mapped.equal (agent.candidates ref).addr

/-- `priv_process_response_check_for_peer_reflexive`: the pair that becomes valid. -/
def privProcessResponseCheckForPeerReflexive (agent : XiceAgent) (streamId componentId : Nat)
    (pair : CandidateCheckPair) (socket : SocketRef) (mapped : XiceAddress)
    (near far : Option CandidateRef) : PairRef × XiceAgent :=
  if mappedIsLocal agent streamId componentId mapped then
    let agent := agent.onPair pair.ref fun pair => { pair with state := .succeeded }
    (pair.ref, privConnCheckUnfreezeRelated agent streamId pair.ref)
  else
    let made := discoveryAddPeerReflexiveCandidate out agent streamId componentId mapped socket near
      far
    let agent := made.2.onPair pair.ref fun pair => { pair with state := .failed }
    match made.1 with
    | none => (pair.ref, agent)
    | some candidate => privAddPeerReflexivePair agent streamId componentId candidate pair

/-- A component that is not READY becomes CONNECTED. -/
def connect : XiceAgent :=
  if (agent.findComponent streamId componentId).any fun component => component.state ≠ .ready then
    signalComponentStateChange agent streamId componentId .connected else agent

/-- The end of a successful check in `priv_map_reply_to_conn_check_request`. -/
def concludeCheck (ok : PairRef) : XiceAgent :=
  let agent := connect agent streamId componentId
  let agent := match agent.findPair ok with
    | none => agent
    | some pair =>
      if pair.nominated then privUpdateSelectedPair agent streamId componentId pair else agent
  privUpdateCheckListStateForReady agent streamId componentId

/-- `priv_map_reply_to_conn_check_request`. -/
def privMapReplyToConnCheckRequest (agent : XiceAgent) (streamId componentId : Nat)
    (socket : SocketRef) (source : XiceAddress) (near far : Option CandidateRef) (reply : StunReply)
    : XiceAgent :=
  match (agent.checkList streamId).find? fun pair =>
      pair.message.any fun request => request.id = reply.id with
  | none => agent
  | some pair =>
    let forgotten := agent.onPair pair.ref fun pair => { pair with message := none }
    match iceConncheckProcess reply, reply.kind with
    | .success, .response (some mapped) =>
      if source.equal (agent.candidates pair.remoteCand).addr then
        let ok := privProcessResponseCheckForPeerReflexive out forgotten streamId componentId pair
          socket mapped near far
        concludeCheck ok.2 streamId componentId ok.1
      else forgotten.onPair pair.ref fun pair => { pair with state := .failed }
    | .noMappedAddress, _ =>
      if source.equal (agent.candidates pair.remoteCand).addr then
        let agent := forgotten.onPair pair.ref fun pair => { pair with state := .succeeded }
        concludeCheck (privConnCheckUnfreezeRelated agent streamId pair.ref) streamId componentId
          pair.ref
      else forgotten.onPair pair.ref fun pair => { pair with state := .failed }
    | .roleConflict, _ =>
      (privCheckForRoleConflict agent (!pair.controlling)).onPair pair.ref fun pair =>
        { pair with message := none, state := .waiting }
    | _, _ => forgotten

/-- `conn_check_handle_inbound_stun` for a validated answer, up to the search among the checks. -/
def handleReply (agent : XiceAgent) (streamId componentId : Nat) (socket : SocketRef)
    (source : XiceAddress) (reply : StunReply) : XiceAgent :=
  match agent.findComponent streamId componentId with
  | none => agent
  | some component =>
    let far := remoteAt agent component source
    let inbound := agent.compatibility = .msn || reply.kind = .other
    let found := usernameMatch out agent streamId component reply.username inbound
    if component.remoteCandidates ≠ [] ∧ agent.compatibility = .google ∧ found = none then agent
    else
      privMapReplyToConnCheckRequest out agent streamId componentId socket source
        (found.map Prod.snd) far reply

end Xice.Ice
