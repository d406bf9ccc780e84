import Xice.Ice.ConnCheck

/-!
# The calls of an agent

The functions of `agent.c` that a client calls, the events that come from the network and the timer,
and runs of an agent: any sequence of them.
-/

namespace Xice.Ice

open Xice.Stun

variable (agent : XiceAgent) (streamId componentId : Nat) (component : Component)
  (data : CandidateData) (out : Outside)

/-! ## Streams -/

/-- `component_new`. -/
def Component.new (id : Nat) (tcp : Bool) : Component where
  id := id
  state := .disconnected
  localCandidates := []
  remoteCandidates := []
  incomingChecks := []
  selectedPair := ⟨none, none, 0⟩
  restartCandidate := none
  tcp := tcp

/-- `xice_agent_add_stream`, with the user fragment made up for it. -/
def addStream (nComponents : Nat) (ufrag : List UInt8) : XiceAgent :=
  let stream : Stream :=
    { id := agent.nextStreamId
      nComponents := nComponents
      components := (List.range nComponents).map fun n => Component.new (n + 1) agent.reliable
      conncheckList := []
      initialBindingRequestReceived := false
      localUfrag := ufrag
      remoteUfrag := [] }
  { agent with streams := agent.streams ++ [stream], nextStreamId := agent.nextStreamId + 1 }

/-- `xice_agent_remove_stream`. -/
def removeStream : XiceAgent :=
  match agent.findStream streamId with
  | none => agent
  | some _ =>
    let agent := connCheckPruneStream agent streamId
    let agent : XiceAgent :=
      { agent with streams := agent.streams.eraseP fun stream => stream.id = streamId }
    { agent with keepaliveTimer := agent.keepaliveTimer && agent.streams ≠ [] }

/-- `xice_agent_set_remote_credentials`. -/
def setRemoteCredentials (ufrag : List UInt8) : XiceAgent :=
  agent.onStream streamId fun stream => { stream with remoteUfrag := ufrag.take 256 }

/-! ## Remote candidates -/

/-- A candidate that a client hands over. -/
structure CandidateData where
  type : XiceCandidateType
  transport : XiceCandidateTransport
  addr : XiceAddress
  baseAddr : XiceAddress
  priority : UInt32
  username : Option (List UInt8)
  foundation : List Char
  deriving DecidableEq, Repr

/-- `component_find_remote_candidate`. -/
def componentFindRemoteCandidate (addr : XiceAddress) (transport : XiceCandidateTransport) :
    Option CandidateRef :=
  component.remoteCandidates.find? fun ref =>
    (agent.candidates ref).addr.equal addr && (agent.candidates ref).transport = transport

/-- A new remote candidate. -/
def CandidateData.candidate (streamId componentId : Nat) : XiceCandidate where
  type := data.type
  transport := data.transport
  addr := data.addr
  baseAddr := data.baseAddr
  priority := data.priority
  streamId := streamId
  componentId := componentId
  foundation := data.foundation.take xiceCandidateMaxFoundation
  username := data.username
  sockptr := none

/-- `priv_add_remote_candidate`. -/
def privAddRemoteCandidate : XiceAgent :=
  match agent.findComponent streamId componentId with
  | none => agent
  | some component =>
    match componentFindRemoteCandidate agent component data.addr data.transport with
    | some ref =>
      let agent := agent.onCandidate ref fun candidate =>
        { candidate with
          type := data.type
          baseAddr := data.baseAddr
          priority := data.priority
          foundation := data.foundation.take xiceCandidateMaxFoundation
          username := data.username.or candidate.username }
      connCheckAddForCandidate agent streamId componentId ref
    | none =>
      let made := agent.newCandidate (data.candidate streamId componentId)
      let agent := made.2.onComponent streamId componentId fun component =>
        { component with remoteCandidates := component.remoteCandidates ++ [made.1] }
      connCheckAddForCandidate agent streamId componentId made.1

/-- `xice_agent_set_remote_candidates`. -/
def setRemoteCandidates (agent : XiceAgent) (streamId componentId : Nat)
    (candidates : List CandidateData) (timers : Timers) : XiceAgent :=
  match agent.findComponent streamId componentId with
  | none => agent
  | some component =>
    if agent.reliable && !component.tcp then agent
    else
      let valid := candidates.filter fun data => data.addr.isValid
      let agent := valid.foldl (fun agent data =>
        privAddRemoteCandidate agent streamId componentId data) agent
      let agent := connCheckRemoteCandidatesSet out agent
      if valid = [] then agent else connCheckScheduleNext out agent timers

/-! ## Restart -/

/-- `component_restart`. -/
def componentRestart : Component :=
  { component with
    restartCandidate := (component.remoteCandidates.find? fun ref =>
      component.selectedPair.remoteCand = some ref).or component.restartCandidate
    remoteCandidates := []
    incomingChecks := [] }

/-- `xice_agent_restart`, with the tie-breaker and the user fragments made up for it. -/
def restart (tie : UInt64) (ufrags : Nat → List UInt8) : XiceAgent :=
  let agent := connCheckFree agent
  { agent with
    tieBreaker := tie
    streams := agent.streams.map fun stream =>
      { stream with
        initialBindingRequestReceived := false
        localUfrag := ufrags stream.id
        components := stream.components.map componentRestart } }

/-! ## The selected pair -/

/-- `component_find_pair`. -/
def componentFindPair (lfoundation rfoundation : List Char) :
    Option (CandidateRef × CandidateRef) :=
  let founded (foundation : List Char) (ref : CandidateRef) : Bool :=
    (agent.candidates ref).foundation = foundation
  match component.localCandidates.find? (founded lfoundation),
    component.remoteCandidates.find? (founded rfoundation) with
  | some near, some far => some (near, far)
  | _, _ => none

/-- Select a pair of candidates. -/
def selectPair (near far : CandidateRef) (priority : UInt64) : XiceAgent :=
  agent.onComponent streamId componentId fun component =>
    { component with selectedPair := ⟨some near, some far, priority⟩ }

/-- `xice_agent_set_selected_pair`. -/
def setSelectedPair (lfoundation rfoundation : List Char) : XiceAgent :=
  match agent.findComponent streamId componentId with
  | none => agent
  | some component =>
    match componentFindPair agent component lfoundation rfoundation with
    | none => agent
    | some (near, far) =>
      let priority := agent.candidatePairPriority near far
      let agent := connCheckPruneStream agent streamId
      if agent.reliable && !component.tcp then agent
      else
        let agent := signalComponentStateChange agent streamId componentId .ready
        (selectPair agent streamId componentId near far priority).note
          (.newSelectedPair streamId componentId)

/-- The choice of `component_set_selected_remote_candidate`, and its priority. -/
def bestHost : UInt64 × Option CandidateRef :=
  component.localCandidates.foldl (fun best ref =>
    let candidate := agent.candidates ref
    let priority := if agent.controllingMode then
      xiceCandidatePairPriority candidate.priority data.priority
      else xiceCandidatePairPriority data.priority candidate.priority
    if candidate.transport = data.transport ∧ candidate.addr.family = data.addr.family ∧
        candidate.type = .host ∧ best.1 < priority then (priority, some ref) else best) (0, none)

/-- `component_set_selected_remote_candidate`. -/
def componentSetSelectedRemoteCandidate : Bool × XiceAgent :=
  match bestHost agent component data with
  | (_, none) => (false, agent)
  | (priority, some near) =>
    match componentFindRemoteCandidate agent component data.addr data.transport with
    | some far => (true, selectPair agent streamId component.id near far priority)
    | none =>
      let made := agent.newCandidate (data.candidate streamId component.id)
      let agent := made.2.onComponent streamId component.id fun component =>
        { component with remoteCandidates := component.remoteCandidates ++ [made.1] }
      (true, selectPair agent streamId component.id near made.1 priority)

/-- `xice_agent_set_selected_remote_candidate`. -/
def setSelectedRemoteCandidate : XiceAgent :=
  match agent.findComponent streamId componentId with
  | none => agent
  | some component =>
    let agent := connCheckPruneStream agent streamId
    if agent.reliable && !component.tcp then agent
    else
      let selected := componentSetSelectedRemoteCandidate agent streamId component data
      if selected.1 then
        (signalComponentStateChange selected.2 streamId componentId .ready).note
          (.newSelectedPair streamId componentId)
      else selected.2

/-! ## Runs -/

/-- What happens to an agent. A call of `xice_agent_gather_candidates` that fails is not among the
events: it frees the local candidates that it gathered and leaves their pairs in the check lists. -/
inductive Event where
  | addStream (nComponents : Nat) (ufrag : List UInt8)
  | removeStream (streamId : Nat)
  /-- `xice_agent_set_remote_credentials`. -/
  | setRemoteCredentials (streamId : Nat) (ufrag : List UInt8)
  | addHost (streamId componentId : Nat) (address : XiceAddress) (socket : Option SocketRef)
      (username : Option (List UInt8))
  /-- A candidate is gathered from a STUN or TURN server. -/
  | addServer (streamId componentId : Nat) (type : XiceCandidateType) (address : XiceAddress)
      (baseSocket socket : SocketRef) (username : Option (List UInt8))
  | gatheringDone
  /-- `xice_agent_set_remote_candidates`. -/
  | setRemoteCandidates (streamId componentId : Nat) (candidates : List CandidateData)
      (timers : Timers)
  | request (streamId componentId : Nat) (socket : SocketRef) (source : XiceAddress)
      (message : StunRequest) (built : Bool)
  | reply (streamId componentId : Nat) (socket : SocketRef) (source : XiceAddress)
      (message : StunReply)
  | tick (timers : Timers)
  /-- The `controlling-mode` property is set. -/
  | setControlling (controlling : Bool)
  | restart (tie : UInt64) (ufrags : Nat → List UInt8)
  | setSelectedPair (streamId componentId : Nat) (lfoundation rfoundation : List Char)
  /-- `xice_agent_set_selected_remote_candidate`. -/
  | setSelectedRemoteCandidate (streamId componentId : Nat) (data : CandidateData)

/-- A timer that is not armed does not fire. -/
def Event.run (agent : XiceAgent) : Event → XiceAgent
  | .addStream nComponents ufrag => Ice.addStream agent nComponents ufrag
  | .removeStream streamId => Ice.removeStream agent streamId
  | .setRemoteCredentials streamId ufrag => Ice.setRemoteCredentials agent streamId ufrag
  | .addHost streamId componentId address socket username =>
    discoveryAddLocalHostCandidate out agent streamId componentId address socket username
  | .addServer streamId componentId type address baseSocket socket username =>
    discoveryAddServerCandidate out agent streamId componentId type address baseSocket socket username
  | .gatheringDone => agentGatheringDone agent
  | .setRemoteCandidates streamId componentId candidates timers =>
    Ice.setRemoteCandidates out agent streamId componentId candidates timers
  | .request streamId componentId socket source message built =>
    handleRequest out agent streamId componentId socket source message built
  | .reply streamId componentId socket source message =>
    handleReply out agent streamId componentId socket source message
  | .tick timers =>
    if agent.conncheckTimer then (privConnCheckTickUnlocked out agent timers).2 else agent
  | .setControlling controlling => { agent with controllingMode := controlling }
  | .restart tie ufrags => Ice.restart agent tie ufrags
  | .setSelectedPair streamId componentId lfoundation rfoundation =>
    Ice.setSelectedPair agent streamId componentId lfoundation rfoundation
  | .setSelectedRemoteCandidate streamId componentId data =>
    Ice.setSelectedRemoteCandidate agent streamId componentId data

/-- The agent after some events. -/
def XiceAgent.play (events : List Event) : XiceAgent :=
  events.foldl (Event.run out) agent

/-- A new agent. -/
def XiceAgent.new (compatibility : XiceCompatibility) (controlling : Bool) (tie : UInt64)
    (maxConnChecks : UInt32) (reliable : Bool) : XiceAgent where
  compatibility := compatibility
  controllingMode := controlling
  tieBreaker := tie
  maxConnChecks := maxConnChecks
  reliable := reliable
  streams := []
  nextStreamId := 1
  nextCandidateId := 1
  conncheckTimer := false
  keepaliveTimer := false
  candidates := fun _ => XiceCandidate.new .host 0 0
  allocated := 0
  created := 0
  log := []

/-- Agents reached by events that meet a condition on the agent before. -/
inductive Reachable (out : Outside) (meets : XiceAgent → Event → Prop) : XiceAgent → Prop
  /-- A new agent. -/
  | new (compatibility : XiceCompatibility) (controlling : Bool) (tie : UInt64)
      (maxConnChecks : UInt32) (reliable : Bool) :
      Reachable out meets (XiceAgent.new compatibility controlling tie maxConnChecks reliable)
  /-- One more event. -/
  | step {agent : XiceAgent} (event : Event) (before : Reachable out meets agent)
      (condition : meets agent event) : Reachable out meets (event.run out agent)

/-! ## Runs that are played through -/

/-- Each of some events meets a condition when it happens. -/
def MeetsAll (out : Outside) (meets : XiceAgent → Event → Prop) : XiceAgent → List Event → Prop
  | _, [] => True
  | agent, event :: rest => meets agent event ∧ MeetsAll out meets (event.run out agent) rest

/-- It can be decided. -/
instance MeetsAll.decidable (out : Outside) (meets : XiceAgent → Event → Prop)
    [∀ agent event, Decidable (meets agent event)] :
    ∀ (agent : XiceAgent) (events : List Event), Decidable (MeetsAll out meets agent events)
  | _, [] => instDecidableTrue
  | agent, event :: rest =>
    have := MeetsAll.decidable out meets (event.run out agent) rest
    instDecidableAnd

/-- A run goes on with events that meet the condition. -/
theorem Reachable.play {out : Outside} {meets : XiceAgent → Event → Prop} {agent : XiceAgent}
    (reach : Reachable out meets agent) (events : List Event) (all : MeetsAll out meets agent events) :
    Reachable out meets (agent.play out events) := by
  induction events generalizing agent with
  | nil => exact reach
  | cons event rest ih => exact ih (reach.step event all.1) all.2

/-- Each check can be built and has its number as its id. -/
def Outside.counting : Outside where
  request count := some (Vector.ofFn fun i => if i = 0 then UInt8.ofNat count else 0)
  base64Decode := id
  base64Encode := id
  socketAddr socket := .ip4 1 (UInt16.ofNat socket)

/-- A host candidate of the peer. -/
def CandidateData.host (port : UInt16) (priority : UInt32) : CandidateData where
  type := .host
  transport := .udp
  addr := .ip4 2 port
  baseAddr := .ip4 2 port
  priority := priority
  username := none
  foundation := [Char.ofNat (48 + port.toNat)]

/-- A stream with one component, a host candidate and the user fragment of the peer. -/
def Event.setUp (socket : SocketRef) : List Event :=
  [.addStream 1 [97], .addHost streamId 1 (.ip4 1 0) (some socket) none,
    .setRemoteCredentials streamId [98]]

/-- No timer of a check has run out. -/
def Timers.quiet : Timers := fun _ => none

/-- Such a stream is given the candidates of the peer. -/
def Event.setUpWith (candidates : List CandidateData) : List Event :=
  Event.setUp 1 7 ++ [.setRemoteCandidates 1 1 candidates .quiet]

/-- A success response with a mapped address, when the outside counts. -/
def StunReply.success (number : Nat) (mapped : XiceAddress) : StunReply where
  id := Vector.ofFn fun i => if i = 0 then UInt8.ofNat number else 0
  binding := true
  username := none
  kind := .response (some mapped)

/-- A check of a controlled peer. -/
def StunRequest.ofControlled : StunRequest :=
  ConnCheck.read ⟨Vector.ofFn fun _ => 1, some (false, 9), some 1, false⟩ none

end Xice.Ice
