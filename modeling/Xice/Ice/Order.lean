import Xice.Ice.Lined
import Xice.Ice.Timer

/-!
# The order of check lists

A check list is in order as long as `xice_agent_set_remote_candidates` forms the pairs in the order
of their priorities, nothing else forms pairs, and a change of the role keeps that order.
-/

namespace Xice.Ice

open Xice.Stun XiceAgent List

/-- The check lists of an agent are in order. -/
abbrev Sorted (agent : XiceAgent) : Prop := agent.Each Ordered

variable {list : List CandidateCheckPair} {pair : CandidateCheckPair} {plan : List UInt64}
  {a b : XiceAgent} {streamId componentId : Nat} {out : Outside} {far : CandidateRef}
  {socket : SocketRef} {source : XiceAddress} {rcand : Option CandidateRef} {component : Component}

/-! ## Roles -/

/-- The priority of a pair but for the part that depends on the role. -/
def XiceAgent.roleless (agent : XiceAgent) (pair : CandidateCheckPair) : UInt64 :=
  let near := (agent.candidates pair.localCand).priority
  let far := (agent.candidates pair.remoteCand).priority
  xiceCandidatePairPriority (min near far) (max near far)

/-- Pairs of other priorities come in an order that no role changes. -/
def Steady (agent : XiceAgent) (list : List CandidateCheckPair) : Prop :=
  list.Pairwise fun first second => agent.roleless second < agent.roleless first ∨
    (agent.candidates second.localCand).priority = (agent.candidates first.localCand).priority ∧
      (agent.candidates second.remoteCand).priority = (agent.candidates first.remoteCand).priority

instance (agent : XiceAgent) : DecidablePred (Steady agent) := fun list =>
  inferInstanceAs (Decidable (list.Pairwise _))

/-- The role adds at most one. -/
theorem toNat_rank (control : Bool) (near far : UInt32) : ∃ bit ≤ 1, (rank control near far).toNat =
    (xiceCandidatePairPriority (min near far) (max near far)).toNat + bit := by
  have sides : (min near far).toNat = min near.toNat far.toNat ∧
      (max near far).toNat = max near.toNat far.toNat := by
    simp only [Nat.min_def, Nat.max_def, UInt32.min_def, UInt32.max_def, UInt32.le_iff_toNat_le]
    constructor <;> split <;> rfl
  unfold rank
  split
  · refine ⟨if far.toNat < near.toNat then 1 else 0, by split <;> omega, ?_⟩
    rw [toNat_pairPriority, toNat_pairPriority, sides.1, sides.2]
    split <;> split <;> omega
  · refine ⟨if near.toNat < far.toNat then 1 else 0, by split <;> omega, ?_⟩
    rw [toNat_pairPriority, toNat_pairPriority, sides.1, sides.2]
    split <;> split <;> omega

/-- A change of the role keeps such lists in order. -/
theorem sorted_role (control : Bool) (steady : a.Each (Steady a)) (sorted : Sorted a) :
    Sorted (privCheckForRoleConflict a control) := by
  unfold privCheckForRoleConflict
  split
  · intro stream member
    obtain ⟨before, was, rfl⟩ := mem_map.mp member
    apply pairwise_map.mpr
    apply (steady before was).imp
    intro first second above
    change rank control (a.candidates second.localCand).priority
      (a.candidates second.remoteCand).priority ≤ rank control
        (a.candidates first.localCand).priority (a.candidates first.remoteCand).priority
    rcases above with lower | ⟨near, far⟩
    · obtain ⟨bit, small, one⟩ := toNat_rank control (a.candidates first.localCand).priority
        (a.candidates first.remoteCand).priority
      obtain ⟨bit', small', other⟩ := toNat_rank control (a.candidates second.localCand).priority
        (a.candidates second.remoteCand).priority
      have below := UInt64.lt_iff_toNat_lt.mp lower
      dsimp only [roleless] at below
      rw [UInt64.le_iff_toNat_le, one, other]
      omega
    · rw [near, far]
      exact UInt64.le_refl _
  · exact sorted

/-! ## Checks of the peer -/

/-- A check finds its pair, or no local candidate has the socket. -/
def XiceAgent.hasPair (agent : XiceAgent) (streamId componentId : Nat) (socket : SocketRef)
    (far : CandidateRef) : Bool :=
  (triggeredPair agent streamId componentId socket far).isSome ||
    !(agent.locals streamId componentId).any (agent.uses socket)

/-- `priv_schedule_triggered_check`. -/
theorem turn_scheduleTriggeredCheck (out : Outside)
    (there : a.hasPair streamId componentId socket far = true) (useCandidate : Bool) :
    Turn a (privScheduleTriggeredCheck out a streamId componentId socket far useCandidate) := by
  unfold privScheduleTriggeredCheck
  unfold XiceAgent.hasPair XiceAgent.locals at there
  cases found : triggeredPair a streamId componentId socket far with
  | some pair => exact turn_triggerPair out pair
  | none =>
    rw [found] at there
    cases known : a.findComponent streamId componentId with
    | none => exact .refl a
    | some component =>
      rw [known] at there
      have nobody : component.localCandidates.find? (a.uses socket) = none := by simpa using there
      dsimp only [Option.bind_some]
      rw [nobody]
      exact .refl a

/-- The part of `conn_check_handle_inbound_stun` after an answer was built. -/
theorem turn_acceptCheck (out : Outside) (request : StunRequest) (reply : Option Packet)
    (found : Option (CandidateRef × CandidateRef))
    (known : a.findComponent streamId componentId = some component)
    (alone : rcand = none → component.remoteCandidates = [])
    (there : ∀ far, rcand = some far → a.hasPair streamId componentId socket far = true) :
    Turn a (acceptCheck out a streamId componentId socket source request reply rcand found) := by
  let bound : XiceAgent := a.onStream streamId fun stream =>
    { stream with initialBindingRequestReceived := true }
  obtain ⟨still, lists⟩ : bound.findComponent streamId componentId =
      a.findComponent streamId componentId ∧ ∀ id, bound.checkList id = a.checkList id := bound_eq
  have turned : Turn a bound := turn_initialBinding
  have learned : learnUnknown out bound streamId componentId source request rcand found =
      (rcand, bound) := learnUnknown_eq (still.trans known) alone request found
  have replied : ∀ useCandidate, Turn bound (privReplyToConnCheck out bound streamId componentId
      rcand source socket reply useCandidate) := by
    intro useCandidate
    have answered : Turn bound (sendReply bound socket source reply) :=
      turn_sendReply socket source reply
    unfold privReplyToConnCheck
    cases rcand with
    | none => exact answered
    | some far =>
      have same : (sendReply bound socket source reply).hasPair streamId componentId socket far =
          a.hasPair streamId componentId socket far := by
        have own : bound.hasPair streamId componentId socket far =
            a.hasPair streamId componentId socket far := by
          unfold XiceAgent.hasPair triggeredPair XiceAgent.locals
          rw [lists, still]
          rfl
        cases reply with
        | none | some => exact own
      have triggered := answered.trans
        (turn_scheduleTriggeredCheck out (same.trans (there far rfl)) useCandidate)
      dsimp only
      split
      · exact triggered.trans (turn_markPairNominated far)
      · exact triggered
  unfold acceptCheck
  dsimp only
  rw [learned]
  split
  · exact (turned.trans (replied _)).trans (turn_storePending _)
  · exact turned.trans (replied _)

/-- The pair is there in another role. -/
theorem hasPair_role (control : Bool) :
    (privCheckForRoleConflict a control).hasPair streamId componentId socket far =
      a.hasPair streamId componentId socket far := by
  obtain ⟨candidates, _, _, found⟩ := triggeredPair_role (a := a) streamId componentId socket far
    control
  unfold XiceAgent.hasPair XiceAgent.locals XiceAgent.uses
  rw [found, findComponent_role, candidates, Option.isSome_map]

/-- An empty plan fits. -/
theorem fits_nil : Fits [] list := ⟨Pairwise.nil, fun _ _ _ never => absurd never not_mem_nil⟩

/-- A list in order is lined up for a plan that fits. -/
theorem Sorted.lined (sorted : Sorted a) (sound : Sound True a)
    (fits : Fits plan (a.checkList streamId)) : a.EachAt (Lined streamId plan) := by
  intro stream member
  apply And.intro (sorted stream member)
  intro here
  rwa [← sound.checkList member, here]

/-- Lists that are lined up are in order. -/
theorem sorted_of_lined (lined : a.EachAt (Lined streamId [])) : Sorted a :=
  fun stream member => (lined stream member).1

/-- The order is that of the pairs that were formed. -/
theorem hereditary_ordered : Hereditary fun _ => Ordered :=
  ⟨fun sublist ordered => ordered.sublist sublist, Ordered.of_core⟩

/-- So a turn keeps it. -/
theorem Turn.keeps_sorted (turn : Turn a b) (sorted : Sorted a) : Sorted b :=
  sorted.of_core hereditary_ordered turn.core

/-- A check from an address forms no pair. -/
def XiceAgent.pairedWith (agent : XiceAgent) (streamId componentId : Nat) (socket : SocketRef)
    (source : XiceAddress) : Bool :=
  (agent.findComponent streamId componentId).all fun component =>
    match remoteAt agent component source with
    | none => component.remoteCandidates = []
    | some far => agent.hasPair streamId componentId socket far

/-- `conn_check_handle_inbound_stun` for a request. -/
theorem sorted_handleRequest (sorted : Sorted a) {request : StunRequest} {built : Bool}
    (there : a.pairedWith streamId componentId socket source = true)
    (role : (iceConncheckCreateReply request a.controllingMode a.tieBreaker built).result =
      .roleConflict → a.Each (Steady a)) :
    Sorted (handleRequest out a streamId componentId socket source request built) := by
  unfold handleRequest
  unfold XiceAgent.pairedWith at there
  split
  · exact sorted
  · rename_i component known
    rw [known] at there
    have alone : remoteAt a component source = none → component.remoteCandidates = [] := by
      intro unknown
      simpa [unknown] using there
    have pair : ∀ far, remoteAt a component source = some far →
        a.hasPair streamId componentId socket far = true := by
      intro far source
      simpa [source] using there
    dsimp only
    split
    · exact sorted
    · split
      · exact sorted
      · split
        · rename_i conflict
          apply (turn_acceptCheck out _ _ _ ((findComponent_role _).trans known) alone _).keeps_sorted
          · exact sorted_role _ (role conflict) sorted
          · intro far source
            rw [hasPair_role]
            exact pair far source
        · exact (turn_acceptCheck out _ _ _ known alone pair).keeps_sorted sorted
        · exact sorted

/-! ## Answers to checks -/

/-- `conn_check_handle_inbound_stun` for an answer. -/
theorem sorted_handleReply (sound : Sound True a) (sorted : Sorted a) {reply : StunReply}
    (known : ∀ mapped, reply.kind = .response (some mapped) →
      mappedIsLocal a streamId componentId mapped = true)
    (role : iceConncheckProcess reply = .roleConflict →
      (answeredPair a streamId reply).map CandidateCheckPair.controlling = some a.controllingMode →
        a.Each (Steady a)) :
    Sorted (handleReply out a streamId componentId socket source reply) := by
  let rules : Rules := ⟨fun agent control => agent = a ∧
    (control ≠ a.controllingMode → a.Each (Steady a)), False, True, True, False⟩
  have steps : Steps rules a (handleReply out a streamId componentId socket source reply) := by
    refine steps_handleReply sound (.inl trivial) (.inr known) fun pair answered conflict => ⟨rfl, ?_⟩
    intro other
    apply role conflict
    rw [answered, Option.map_some, Bool.eq_not_of_ne other.symm, Bool.not_not]
  refine steps.each sound hereditary_ordered ?_ sorted
  constructor
  · intro _ _ _ _ _ forms
    exact absurd forms id
  · intro _ _ _ _ _ again
    exact absurd again id
  · rintro agent control _ _ ⟨rfl, steady⟩ before
    by_cases same : control = agent.controllingMode
    · rwa [show privCheckForRoleConflict agent control = agent from if_neg (not_not.mpr same)]
    · exact sorted_role control (steady same) before

/-! ## Runs -/

/-- Each pair that an event may form fits into the check list, and a change of the role keeps the
order. -/
def InOrder (agent : XiceAgent) : Event → Prop
  | .addHost streamId componentId _ _ _ => NoRemotes agent streamId componentId = true
  | .addServer streamId componentId _ _ _ _ _ => NoRemotes agent streamId componentId = true
  | .gatheringDone => AllPaired agent
  | .setRemoteCandidates streamId componentId candidates _ =>
    NoneStored agent ∧ Fits ((validCandidates candidates).flatMap fun data =>
      agent.remotePlan streamId componentId data.priority) (agent.checkList streamId)
  | .request streamId componentId socket source message built =>
    agent.pairedWith streamId componentId socket source = true ∧
      ((iceConncheckCreateReply message agent.controllingMode agent.tieBreaker built).result =
        .roleConflict → agent.Each (Steady agent))
  | .reply streamId componentId _ _ message =>
    (∀ mapped, message.kind = .response (some mapped) →
        mappedIsLocal agent streamId componentId mapped = true) ∧
      (iceConncheckProcess message = .roleConflict →
        (answeredPair agent streamId message).map CandidateCheckPair.controlling =
          some agent.controllingMode → agent.Each (Steady agent))
  | _ => True

instance (agent : XiceAgent) (event : Event) : Decidable (InOrder agent event) :=
  match event with
  | .addHost _ _ _ _ _ | .addServer _ _ _ _ _ _ _ => inferInstanceAs (Decidable (_ = true))
  | .gatheringDone => inferInstanceAs (Decidable (AllPaired agent))
  | .setRemoteCandidates _ _ _ _ | .request _ _ _ _ _ _ | .reply _ _ _ _ _ =>
    inferInstanceAs (Decidable (_ ∧ _))
  | .addStream _ _ | .removeStream _ | .setRemoteCredentials _ _ | .tick _ | .setControlling _
  | .restart _ _ | .setSelectedPair _ _ _ _ | .setSelectedRemoteCandidate _ _ _ => isTrue trivial

/-- An event that forms pairs in order keeps the lists in order. -/
theorem Event.keeps_sorted (sound : Sound True a) (sorted : Sorted a) (event : Event)
    (inOrder : InOrder a event) : Sorted (event.run out a) := by
  have still : ∀ b, Steps Rules.still a b → Sorted b := by
    intro b steps
    have lined : a.EachAt (Lined 0 []) := sorted.lined sound fits_nil
    exact sorted_of_lined (Steps.lined steps sound lined)
  cases acts : event.acts with
  | false => exact Event.each_of_call (fun _ => Pairwise.nil) acts sorted
  | true =>
    cases event with
    | addHost streamId componentId address socket username =>
      exact each_addHost inOrder sorted address socket username
    | addServer streamId componentId type address baseSocket socket username =>
      exact each_addServer inOrder sorted type address baseSocket socket username
    | gatheringDone =>
      dsimp only [Event.run]
      rwa [agentGatheringDone_of_allPaired inOrder]
    | setRemoteCandidates streamId componentId candidates timers =>
      apply sorted_of_lined
      apply lined_setRemoteCandidates sound inOrder.1
      rw [append_nil]
      exact sorted.lined sound inOrder.2
    | request streamId componentId socket source message built =>
      exact sorted_handleRequest sorted inOrder.1 inOrder.2
    | reply streamId componentId socket source message =>
      exact sorted_handleReply sound sorted inOrder.1 inOrder.2
    | setRemoteCredentials streamId ufrag =>
      exact still _ ((Event.setRemoteCredentials streamId ufrag).steps sound trivial)
    | tick timers => exact still _ ((Event.tick timers).steps sound trivial)
    | _ => exact absurd acts (by simp [Event.acts])

/-- The pair whose check a tick starts. -/
def XiceAgent.nextWaiting (agent : XiceAgent) : Option CandidateCheckPair :=
  agent.streams.findSome? fun stream => privConnCheckFindNextWaiting stream.conncheckList

/-- The first waiting pair is checked. -/
theorem startNext_of_nextWaiting (next : a.nextWaiting = some pair) :
    startNext out a = (true, privConnCheckInitiate out a pair.ref) := by
  unfold startNext
  unfold nextWaiting at next
  rw [next]

/-- In order, the first waiting pair has the highest priority of them. -/
theorem highest_of_findNextWaiting (ordered : Ordered list)
    (next : privConnCheckFindNextWaiting list = some pair) :
    pair ∈ list ∧ pair.state = .waiting ∧
      ∀ other ∈ list, other.state = .waiting → other.priority ≤ pair.priority := by
  have waits : pair.state = .waiting := by simpa using find?_some next
  refine ⟨mem_of_find?_eq_some next, waits, ?_⟩
  intro other member waiting
  obtain ⟨_, front, back, rfl, before⟩ := find?_eq_some_iff_append.mp next
  rcases mem_append.mp member with early | late
  · exact absurd waiting (by simpa using before other early)
  · rcases mem_cons.mp late with rfl | behind
    · exact UInt64.le_refl _
    · exact rel_of_pairwise_cons (pairwise_append.mp ordered).2.1 behind

/-- In a run that forms pairs in order, the check lists are sorted, and a tick starts a check of the
highest priority. -/
theorem Reachable.sorted (reach : Reachable out InOrder a) :
    Sorted a ∧ ∀ pair, a.nextWaiting = some pair →
      startNext out a = (true, privConnCheckInitiate out a pair.ref) ∧
      ∃ stream ∈ a.streams, pair ∈ stream.conncheckList ∧ pair.state = .waiting ∧
        ∀ other ∈ stream.conncheckList, other.state = .waiting → other.priority ≤ pair.priority := by
  have sorted : Sorted a := by
    induction reach with
    | new compatibility controlling tie maxConnChecks reliable => exact each_new _ _ _ _ _
    | step event before condition ih =>
      exact event.keeps_sorted (before.sound (.inl trivial)) ih condition
  apply And.intro sorted
  intro pair next
  apply And.intro (startNext_of_nextWaiting next)
  obtain ⟨stream, member, first⟩ := exists_of_findSome?_eq_some next
  exact ⟨stream, member, highest_of_findNextWaiting (sorted stream member) first⟩

/-- The peer names its candidate of the higher priority first. -/
theorem sorted_high_then_low :
    MeetsAll .counting InOrder (.new .rfc5245 true 5 100 false)
      (Event.setUpWith [.host 3 200, .host 4 100]) ∧
    Sorted ((XiceAgent.new .rfc5245 true 5 100 false).play .counting
      (Event.setUpWith [.host 3 200, .host 4 100])) := by
  have meets : MeetsAll .counting InOrder (.new .rfc5245 true 5 100 false)
      (Event.setUpWith [.host 3 200, .host 4 100]) := by decide +kernel
  apply And.intro meets
  exact (Reachable.sorted ((Reachable.new _ _ _ _ _).play _ meets)).1

/-- The peer names its candidate of the lower priority first, and its pair comes first. -/
theorem unsorted_low_then_high :
    Reachable .counting (fun _ _ => True) ((XiceAgent.new .rfc5245 true 5 100 false).play .counting
      (Event.setUpWith [.host 3 100, .host 4 200])) ∧
    ¬Sorted ((XiceAgent.new .rfc5245 true 5 100 false).play .counting
      (Event.setUpWith [.host 3 100, .host 4 200])) := by
  constructor
  · apply (Reachable.new _ _ _ _ _).play
    decide +kernel
  · decide +kernel

end Xice.Ice
