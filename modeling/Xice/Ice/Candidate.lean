import Xice.Ice.Types

/-!
# Candidates

The priorities of `candidate.c`, the user names of `conncheck.c` and the foundations of
`discovery.c`.
-/

namespace Xice.Ice

variable (agent : XiceAgent)

/-- `xice_candidate_jingle_priority`. -/
def xiceCandidateJinglePriority : XiceCandidateType → UInt32
  | .host => 1000
  | .serverReflexive => 900
  | .peerReflexive => 900
  | .relayed => 500

/-- `xice_candidate_msn_priority`. -/
def xiceCandidateMsnPriority : XiceCandidateType → UInt32
  | .host => 830
  | .serverReflexive => 550
  | .peerReflexive => 550
  | .relayed => 450

/-- `XICE_CANDIDATE_TYPE_PREF_HOST` and its like. -/
def XiceCandidateType.preference : XiceCandidateType → UInt32
  | .host => 120
  | .peerReflexive => 110
  | .serverReflexive => 100
  | .relayed => 60

/-- `xice_candidate_ice_priority_full`. -/
def xiceCandidateIcePriorityFull (typePreference localPreference : UInt32) (componentId : Nat) :
    UInt32 :=
  0x1000000 * typePreference + 0x100 * localPreference + (0x100 - UInt32.ofNat componentId)

/-- The priority of a new candidate in each compatibility mode. -/
def newPriority (compatibility : XiceCompatibility) (type : XiceCandidateType)
    (localPreference : UInt32) (componentId : Nat) : UInt32 :=
  match compatibility with
  | .google => xiceCandidateJinglePriority type
  | .msn | .oc2007 => xiceCandidateMsnPriority type
  | _ => xiceCandidateIcePriorityFull type.preference localPreference componentId

/-- `xice_candidate_pair_priority`, with the product by two in 32 bits. -/
def xiceCandidatePairPriority (o a : UInt32) : UInt64 :=
  let max := if a < o then o else a
  let min := if o < a then o else a
  ((1 : UInt64) <<< 32) * min.toUInt64 + (2 * max).toUInt64 + if a < o then 1 else 0

/-- `agent_candidate_pair_priority`. -/
def XiceAgent.candidatePairPriority (near far : CandidateRef) : UInt64 :=
  let near := (agent.candidates near).priority
  let far := (agent.candidates far).priority
  if agent.controllingMode then xiceCandidatePairPriority near far
  else xiceCandidatePairPriority far near

/-! ## User names -/

/-- `XICE_STREAM_MAX_UNAME`. -/
def xiceStreamMaxUname : Nat := 256 * 2 + 1 + 1

/-- A number as `%u` prints it. -/
def decimal (number : Nat) : List Char := Nat.toDigits 10 number

/-- `priv_gen_username`, into `XICE_STREAM_MAX_UNAME` bytes. -/
def privGenUsername (out : Outside) (compatibility : XiceCompatibility) (componentId : Nat)
    (remote near : List UInt8) : List UInt8 :=
  let colon : UInt8 := 58
  if remote = [] ∨ near = [] then []
  else
    match compatibility with
    | .rfc5245 =>
      if remote.length + near.length + 1 ≤ xiceStreamMaxUname then remote ++ colon :: near else []
    | .wlm2009 | .oc2007r2 =>
      if remote.length + near.length + 4 ≤ xiceStreamMaxUname then
        let name := remote ++ colon :: near
        name ++ List.replicate ((4 - name.length % 4) % 4) 0
      else []
    | .google => if remote.length + near.length ≤ xiceStreamMaxUname then remote ++ near else []
    | .msn | .oc2007 =>
      let component := (decimal componentId).map fun digit => digit.toUInt8
      let remote := out.base64Decode remote
      let near := out.base64Decode near
      let total := remote.length + near.length + 3 + 2 * component.length
      let padding := 4 - total % 4
      if total + padding ≤ xiceStreamMaxUname then
        remote ++ colon :: component ++ colon :: near ++ colon :: component ++
          List.replicate padding 0
      else []

/-- `priv_create_username`. -/
def privCreateUsername (out : Outside) (agent : XiceAgent) (stream : Stream) (componentId : Nat)
    (remote near : XiceCandidate) (inbound : Bool) : List UInt8 :=
  let remote := remote.username.getD stream.remoteUfrag
  let near := near.username.getD stream.localUfrag
  if inbound then privGenUsername out agent.compatibility componentId near remote
  else privGenUsername out agent.compatibility componentId remote near

/-! ## Foundations -/

/-- `XICE_CANDIDATE_MAX_FOUNDATION`, without the terminating zero. -/
def xiceCandidateMaxFoundation : Nat := 32

/-- The foundation of a pair. -/
def pairFoundation (near far : XiceCandidate) : List Char :=
  near.foundation ++ ':' :: far.foundation

/-- `priv_highest_remote_foundation`: the first free number. There is one more number than
candidates. -/
def privHighestRemoteFoundation (component : Component) : Nat :=
  let taken (number : Nat) : Bool := component.remoteCandidates.any fun ref =>
    (agent.candidates ref).foundation = decimal number
  ((List.range' 1 (component.remoteCandidates.length + 1)).find? fun number => !taken number).getD 1

/-- The candidates as `priv_assign_foundation` walks over them. -/
def XiceAgent.everyCandidate (list : Component → List CandidateRef) : List XiceCandidate :=
  agent.streams.flatMap fun stream => stream.components.flatMap fun component =>
    (list component).map agent.candidates

/-- `priv_assign_foundation`. -/
def privAssignFoundation (candidate : XiceCandidate) : XiceCandidate × XiceAgent :=
  let like (n : XiceCandidate) : Bool :=
    candidate.type = n.type && candidate.transport = n.transport &&
      candidate.streamId = n.streamId &&
      candidate.baseAddr.equal (n.baseAddr.setPort candidate.baseAddr.port) &&
      !(agent.compatibility = .google && n.type = .relayed)
  match (agent.everyCandidate Component.localCandidates).find? like with
  | some n =>
    ({ candidate with foundation := n.foundation, username := n.username.or candidate.username },
      agent)
  | none =>
    ({ candidate with foundation := decimal agent.nextCandidateId.toNat },
      { agent with nextCandidateId := agent.nextCandidateId + 1 })

/-- `priv_assign_remote_foundation`. The component is the last one of any stream with the id. -/
def privAssignRemoteFoundation (candidate : XiceCandidate) : XiceCandidate :=
  let like (n : XiceCandidate) : Bool :=
    candidate.type = n.type && candidate.streamId = n.streamId &&
      candidate.addr.equal (n.addr.setPort candidate.baseAddr.port)
  match (agent.everyCandidate Component.remoteCandidates).find? like with
  | some n =>
    { candidate with foundation := n.foundation, username := n.username.or candidate.username }
  | none =>
    let components := (agent.streams.flatMap Stream.components).filter fun component =>
      component.id = candidate.componentId
    match components.getLast? with
    | some component =>
      { candidate with foundation := decimal (privHighestRemoteFoundation agent component) }
    | none => candidate

end Xice.Ice
