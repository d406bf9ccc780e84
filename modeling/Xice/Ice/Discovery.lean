import Xice.Ice.CheckList

/-!
# Candidates that are discovered

The functions of `discovery.c` that make candidates. A new local candidate is paired with every
remote candidate at once; a new remote candidate is not.
-/

namespace Xice.Ice

variable (agent : XiceAgent) (streamId componentId : Nat) (out : Outside)

/-- `priv_add_local_candidate_pruned`. -/
def privAddLocalCandidatePruned (ref : CandidateRef) : Bool × XiceAgent :=
  match agent.findComponent streamId componentId with
  | none => (false, agent)
  | some component =>
    let candidate := agent.candidates ref
    let redundant := component.localCandidates.any fun other =>
      (agent.candidates other).baseAddr.equal candidate.baseAddr &&
        (agent.candidates other).addr.equal candidate.addr
    if redundant then (false, agent)
    else
      let agent := agent.onComponent streamId componentId fun component =>
        { component with localCandidates := component.localCandidates ++ [ref] }
      (true, connCheckAddForLocalCandidate agent streamId componentId ref)

/-- A candidate as `xice_candidate_new` makes it, for a component. -/
def XiceCandidate.new (type : XiceCandidateType) (streamId componentId : Nat) : XiceCandidate where
  type := type
  transport := .udp
  addr := .unspec
  baseAddr := .unspec
  priority := 0
  streamId := streamId
  componentId := componentId
  foundation := []
  username := none
  sockptr := none

/-- `discovery_add_local_host_candidate`, with its UDP socket and generated user name. -/
def discoveryAddLocalHostCandidate (agent : XiceAgent) (streamId componentId : Nat)
    (address : XiceAddress) (socket : Option SocketRef) (username : Option (List UInt8)) :
    XiceAgent :=
  match agent.findComponent streamId componentId with
  | none => agent
  | some _ =>
    let candidate : XiceCandidate :=
      { XiceCandidate.new .host streamId componentId with
        addr := address
        baseAddr := address
        priority := newPriority agent.compatibility .host 1 componentId
        username := username }
    let founded := privAssignFoundation agent candidate
    match socket with
    | none => founded.2
    | some socket =>
      let made := founded.2.newCandidate
        { founded.1 with
          sockptr := some socket
          addr := out.socketAddr socket
          baseAddr := out.socketAddr socket }
      (privAddLocalCandidatePruned made.2 streamId componentId made.1).2

/-- `discovery_add_server_reflexive_candidate`, with the socket of the base, and
`discovery_add_relay_candidate`, with a TURN socket of its own. -/
def discoveryAddServerCandidate (agent : XiceAgent) (streamId componentId : Nat)
    (type : XiceCandidateType) (address : XiceAddress) (baseSocket socket : SocketRef)
    (username : Option (List UInt8)) : XiceAgent :=
  match agent.findComponent streamId componentId with
  | none => agent
  | some _ =>
    let candidate : XiceCandidate :=
      { XiceCandidate.new type streamId componentId with
        addr := address
        baseAddr := out.socketAddr baseSocket
        priority := newPriority agent.compatibility type 0 componentId
        username := username
        sockptr := some socket }
    let founded := privAssignFoundation agent candidate
    let made := founded.2.newCandidate founded.1
    (privAddLocalCandidatePruned made.2 streamId componentId made.1).2

/-- The user name of a peer-reflexive candidate: `first` before `second` in the modes that join
both. -/
def joinedUsername (agent : XiceAgent) (own : Option (List UInt8))
    (first second kept : Option CandidateRef) : Option (List UInt8) :=
  let name (ref : CandidateRef) : List UInt8 :=
    out.base64Decode ((agent.candidates ref).username.getD [])
  match agent.compatibility, first, second with
  | .msn, some first, some second => some (out.base64Encode (name first ++ name second))
  | .oc2007, some first, some second => some (out.base64Encode (name first ++ name second))
  | _, _, _ =>
    match kept with
    | some ref => (agent.candidates ref).username
    | none => own

/-- `discovery_add_peer_reflexive_candidate`. -/
def discoveryAddPeerReflexiveCandidate (agent : XiceAgent) (streamId componentId : Nat)
    (address : XiceAddress) (baseSocket : SocketRef) (near far : Option CandidateRef) :
    Option CandidateRef × XiceAgent :=
  match agent.findComponent streamId componentId with
  | none => (none, agent)
  | some _ =>
    let candidate : XiceCandidate :=
      { XiceCandidate.new .peerReflexive streamId componentId with
        addr := address
        baseAddr := out.socketAddr baseSocket
        priority := newPriority agent.compatibility .peerReflexive 0 componentId }
    let founded := privAssignFoundation agent candidate
    let made := founded.2.newCandidate
      { founded.1 with
        username := joinedUsername out agent founded.1.username near far near
        sockptr := some baseSocket }
    let added := privAddLocalCandidatePruned made.2 streamId componentId made.1
    (if added.1 then some made.1 else none, added.2)

/-- `discovery_learn_remote_peer_reflexive_candidate`. -/
def discoveryLearnRemotePeerReflexiveCandidate (agent : XiceAgent) (streamId componentId : Nat)
    (priority : UInt32) (address : XiceAddress) (near far : Option CandidateRef) :
    CandidateRef × XiceAgent :=
  let candidate : XiceCandidate :=
    { XiceCandidate.new .peerReflexive streamId componentId with
      addr := address
      baseAddr := address
      priority := if priority ≠ 0 then priority
        else newPriority agent.compatibility .peerReflexive 0 componentId }
  let founded := privAssignRemoteFoundation agent candidate
  let made := agent.newCandidate
    { founded with username := joinedUsername out agent founded.username far near far }
  (made.1, made.2.onComponent streamId componentId fun component =>
    { component with remoteCandidates := component.remoteCandidates ++ [made.1] })

/-- `agent_gathering_done`, the loop over every local and every remote candidate. -/
def agentGatheringDone : XiceAgent :=
  agent.streams.foldl (fun agent stream =>
    stream.components.foldl (fun agent component =>
      component.localCandidates.foldl (fun agent near =>
        component.remoteCandidates.foldl (fun agent far =>
          if (agent.checkList stream.id).any fun pair =>
              pair.localCand = near && pair.remoteCand = far then agent
          else connCheckAddForCandidate agent stream.id component.id far) agent) agent) agent) agent

end Xice.Ice
