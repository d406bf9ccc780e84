import Xice.Stun.Types

/-!
# The ICE agent

The state of `struct _XiceAgent` as far as connectivity checks depend on it. The source compares
pointers, so candidates and check pairs have names: a candidate its place in `candidates`, a pair a
field. Names are never given out again, so a pointer to a freed object names nothing.

What a client or a peer can see is written to a log. An entry holds what a client that handles it
finds in the agent at that moment.
-/

namespace Xice.Ice

open Xice.Stun

/-- `XiceCompatibility`. -/
inductive XiceCompatibility where
  | rfc5245
  | google
  | msn
  | wlm2009
  | oc2007
  | oc2007r2
  deriving DecidableEq, Repr

/-- `XiceAddress`: a `sockaddr` of the families that the agent knows. -/
inductive XiceAddress where
  | unspec
  | ip4 (addr : UInt32) (port : UInt16)
  | ip6 (addr : BitVec 128) (port : UInt16) (scope : UInt32)
  deriving DecidableEq, Repr

/-- `sa_family`. -/
inductive Family where
  | unspec
  | inet
  | inet6
  deriving DecidableEq, Repr

/-- The family of an address. -/
def XiceAddress.family : XiceAddress → Family
  | .unspec => .unspec
  | .ip4 _ _ => .inet
  | .ip6 _ _ _ => .inet6

/-- `xice_address_equal`. -/
def XiceAddress.equal : XiceAddress → XiceAddress → Bool
  | .ip4 a p, .ip4 b q => a = b && p = q
  | .ip6 a p s, .ip6 b q t => a = b && p = q && s = t
  | _, _ => false

/-- `xice_address_is_valid`. -/
def XiceAddress.isValid (address : XiceAddress) : Bool := address.family ≠ .unspec

/-- `xice_address_get_port`. -/
def XiceAddress.port : XiceAddress → UInt16
  | .unspec => 0
  | .ip4 _ port => port
  | .ip6 _ port _ => port

/-- `xice_address_set_port`. -/
def XiceAddress.setPort : XiceAddress → UInt16 → XiceAddress
  | .unspec, _ => .unspec
  | .ip4 addr _, port => .ip4 addr port
  | .ip6 addr _ scope, port => .ip6 addr port scope

/-- A pointer to a `XiceSocket`. -/
abbrev SocketRef := Nat

/-- A pointer to a `XiceCandidate`. -/
abbrev CandidateRef := Nat

/-- A pointer to a `CandidateCheckPair`. -/
abbrev PairRef := Nat

/-- `XiceCandidateType`. -/
inductive XiceCandidateType where
  | host
  | serverReflexive
  | peerReflexive
  | relayed
  deriving DecidableEq, Repr

/-- `XiceCandidateTransport`. -/
inductive XiceCandidateTransport where
  | udp
  deriving DecidableEq, Repr

/-- `struct _XiceCandidate`. Strings end before their zero. -/
structure XiceCandidate where
  type : XiceCandidateType
  transport : XiceCandidateTransport
  addr : XiceAddress
  baseAddr : XiceAddress
  priority : UInt32
  streamId : Nat
  componentId : Nat
  foundation : List Char
  /-- User name, when the candidate has its own. -/
  username : Option (List UInt8)
  sockptr : Option SocketRef
  deriving DecidableEq, Repr

/-- `XiceCheckState`. -/
inductive XiceCheckState where
  | waiting
  | inProgress
  | succeeded
  | failed
  | frozen
  | cancelled
  | discovered
  deriving DecidableEq, Repr

/-- A check as `stun_usage_ice_conncheck_create` makes it. -/
structure ConnCheck where
  id : StunTransactionId
  /-- Whether the sender is controlling, and its tie-breaker. -/
  role : Option (Bool × UInt64)
  priority : Option UInt32
  useCandidate : Bool
  deriving DecidableEq, Repr

/-- `struct _CandidateCheckPair`. -/
structure CandidateCheckPair where
  ref : PairRef
  streamId : Nat
  componentId : Nat
  localCand : CandidateRef
  remoteCand : CandidateRef
  foundation : List Char
  state : XiceCheckState
  nominated : Bool
  /-- The role of the agent when the pair was made. -/
  controlling : Bool
  /-- Whether the timer of its check was started again. -/
  timerRestarted : Bool
  priority : UInt64
  /-- `stun_message`: the check that waits for an answer. -/
  message : Option ConnCheck
  deriving DecidableEq, Repr

/-- A check has succeeded: the pair is on the VALID LIST of the specification. -/
def CandidateCheckPair.valid (pair : CandidateCheckPair) : Bool :=
  pair.state = .succeeded || pair.state = .discovered

/-- `struct _CandidatePair`: the selected pair of a component. -/
structure CandidatePair where
  localCand : Option CandidateRef
  remoteCand : Option CandidateRef
  priority : UInt64
  deriving DecidableEq, Repr

/-- `struct _IncomingCheck`: a check that came before the remote candidates. -/
structure IncomingCheck where
  source : XiceAddress
  localSocket : SocketRef
  priority : UInt32
  useCandidate : Bool
  username : Option (List UInt8)
  deriving DecidableEq, Repr

/-- `XiceComponentState`, without its end marker. -/
inductive XiceComponentState where
  | disconnected
  | gathering
  | connecting
  | connected
  | ready
  | failed
  deriving DecidableEq, Repr

/-- The number of a component state. -/
def XiceComponentState.number : XiceComponentState → Nat
  | .disconnected => 0
  | .gathering => 1
  | .connecting => 2
  | .connected => 3
  | .ready => 4
  | .failed => 5

/-- `struct _Component`. -/
structure Component where
  id : Nat
  state : XiceComponentState
  localCandidates : List CandidateRef
  remoteCandidates : List CandidateRef
  /-- Checks that came before the remote candidates. -/
  incomingChecks : List IncomingCheck
  selectedPair : CandidatePair
  /-- The remote candidate that is kept over a restart. -/
  restartCandidate : Option CandidateRef
  /-- Whether there is a pseudo-TCP socket. -/
  tcp : Bool
  deriving DecidableEq, Repr

/-- `struct _Stream`. -/
structure Stream where
  id : Nat
  nComponents : Nat
  components : List Component
  conncheckList : List CandidateCheckPair
  initialBindingRequestReceived : Bool
  localUfrag : List UInt8
  remoteUfrag : List UInt8
  deriving DecidableEq, Repr

/-- What an agent sends. -/
inductive Packet where
  | check (request : ConnCheck)
  | response (id : StunTransactionId)
  | error (id : StunTransactionId) (code : Nat)
  deriving DecidableEq, Repr

/-- An entry of the log. -/
inductive Note where
  /-- A packet is sent from a socket to an address. -/
  | sent (socket : Option SocketRef) (dest : XiceAddress) (packet : Packet)
  | stateChanged (streamId componentId : Nat) (state : XiceComponentState)
  | newSelectedPair (streamId componentId : Nat)
  | roleChanged (controlling : Bool)
  deriving DecidableEq, Repr

/-- `struct _XiceAgent`. -/
structure XiceAgent where
  compatibility : XiceCompatibility
  controllingMode : Bool
  tieBreaker : UInt64
  maxConnChecks : UInt32
  reliable : Bool
  streams : List Stream
  nextStreamId : Nat
  nextCandidateId : UInt32
  /-- `conncheck_timer_source`: whether the timer is armed. -/
  conncheckTimer : Bool
  /-- Whether the keepalive timer is armed. -/
  keepaliveTimer : Bool
  candidates : CandidateRef → XiceCandidate
  /-- The number of candidates and pairs that were allocated. -/
  allocated : Nat
  /-- The number of checks that were built. -/
  created : Nat
  log : List Note

/-- The results of code that is not modelled here. -/
structure Outside where
  /-- The transaction id of the next check, when so many were built; `none` when `stun_usage_ice_conncheck_create` returns zero. -/
  request : Nat → Option StunTransactionId
  base64Decode : List UInt8 → List UInt8
  base64Encode : List UInt8 → List UInt8
  socketAddr : SocketRef → XiceAddress

/-! ## Access -/

namespace XiceAgent

/-- Write an entry. -/
def note (agent : XiceAgent) (entry : Note) : XiceAgent :=
  { agent with log := agent.log ++ [entry] }

/-- `agent_find_stream`. -/
def findStream (agent : XiceAgent) (streamId : Nat) : Option Stream :=
  agent.streams.find? fun stream => stream.id = streamId

end XiceAgent

/-- `stream_find_component_by_id`. -/
def Stream.findComponentById (stream : Stream) (id : Nat) : Option Component :=
  stream.components.find? fun component => component.id = id

namespace XiceAgent

variable (agent : XiceAgent) (streamId : Nat)

/-- `agent_find_component`. -/
def findComponent (componentId : Nat) : Option Component :=
  (agent.findStream streamId).bind fun stream => stream.findComponentById componentId

/-- The check list of a stream. -/
def checkList : List CandidateCheckPair :=
  ((agent.findStream streamId).map Stream.conncheckList).getD []

/-- The pair with a name. -/
def findPair (ref : PairRef) : Option CandidateCheckPair :=
  agent.streams.findSome? fun stream => stream.conncheckList.find? fun pair => pair.ref = ref

/-- The selected pair of a component. -/
def selectedPair (agent : XiceAgent) (streamId componentId : Nat) : CandidatePair :=
  ((agent.findComponent streamId componentId).map Component.selectedPair).getD ⟨none, none, 0⟩

/-- Change a stream. -/
def onStream (change : Stream → Stream) : XiceAgent :=
  { agent with
    streams := agent.streams.map fun stream => if stream.id = streamId then change stream else stream }

/-- Change a component. -/
def onComponent (componentId : Nat) (change : Component → Component) : XiceAgent :=
  agent.onStream streamId fun stream =>
    { stream with
      components := stream.components.map fun component =>
        if component.id = componentId then change component else component }

/-- Change the check list of a stream. -/
def onList (change : List CandidateCheckPair → List CandidateCheckPair) : XiceAgent :=
  agent.onStream streamId fun stream => { stream with conncheckList := change stream.conncheckList }

/-- Change a pair, wherever it is. -/
def onPair (ref : PairRef) (change : CandidateCheckPair → CandidateCheckPair) : XiceAgent :=
  { agent with
    streams := agent.streams.map fun stream =>
      { stream with
        conncheckList := stream.conncheckList.map fun pair =>
          if pair.ref = ref then change pair else pair } }

/-- Allocate a candidate. -/
def newCandidate (candidate : XiceCandidate) : CandidateRef × XiceAgent :=
  (agent.allocated,
    { agent with
      candidates := fun ref => if ref = agent.allocated then candidate else agent.candidates ref
      allocated := agent.allocated + 1 })

/-- Change a candidate. -/
def onCandidate (ref : CandidateRef) (change : XiceCandidate → XiceCandidate) : XiceAgent :=
  { agent with
    candidates := fun other => if other = ref then change (agent.candidates ref)
      else agent.candidates other }

end XiceAgent

end Xice.Ice
