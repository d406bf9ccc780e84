import Mathlib.Data.Prod.Lex
import Xice.Ice.Timer

/-!
# The priorities of two agents

The product by two in `xice_candidate_pair_priority` is one of 32 bits, so the result is that of the
specification for candidate priorities below `2^31`. The priority of a peer-reflexive candidate is
computed twice, for the check that the peer learns it from and again when the answer comes, with
another local preference.
-/

namespace Xice.Ice

open Xice.Stun XiceAgent

/-! ## Pairs -/

/-- The priority of a pair in the specification; the first candidate is that of the controlling
agent. -/
def exactPairPriority (o a : UInt32) : Nat :=
  2 ^ 32 * min o.toNat a.toNat + 2 * max o.toNat a.toNat + if a.toNat < o.toNat then 1 else 0

/-- The smaller priority, the larger one, and whether the first is larger. -/
def pairRank (o a : UInt32) : Nat ×ₗ Nat ×ₗ Nat :=
  toLex (min o.toNat a.toNat, toLex (max o.toNat a.toNat, if a.toNat < o.toNat then 1 else 0))

/-- A controlling and a controlled agent know two candidates with the same priorities, the first one
local to the former. -/
structure Facing (controlling controlled : XiceAgent) (near far near' far' : CandidateRef)
    (o a : UInt32) : Prop where
  roles : controlling.controllingMode = true ∧ controlled.controllingMode = false
  first : (controlling.candidates near).priority = o ∧ (controlled.candidates far').priority = o
  second : (controlling.candidates far).priority = a ∧ (controlled.candidates near').priority = a

section Pairs

variable {controlling controlled : XiceAgent} {near far near' far' : CandidateRef}
  {o a o' a' : UInt32}

/-- Both compute the priority of the pair in the same way. -/
theorem Facing.pairPriority (facing : Facing controlling controlled near far near' far' o a) :
    controlling.candidatePairPriority near far = xiceCandidatePairPriority o a ∧
      controlled.candidatePairPriority near' far' = xiceCandidatePairPriority o a := by
  obtain ⟨⟨role, role'⟩, ⟨rfl, first⟩, rfl, second⟩ := facing
  simp [candidatePairPriority, role, role', first, second]

/-- The number is exact below `2^31`. -/
theorem pairPriority_exact_iff :
    (xiceCandidatePairPriority o a).toNat = exactPairPriority o a ↔
      o < 0x80000000 ∧ a < 0x80000000 := by
  rw [toNat_pairPriority, exactPairPriority, UInt32.lt_iff_toNat_lt, UInt32.lt_iff_toNat_lt]
  have half : (0x80000000 : UInt32).toNat = 2 ^ 31 := rfl
  rw [half]
  omega

/-- Then it orders pairs as the specification does. -/
theorem pairPriority_lt_iff (first : o < 0x80000000 ∧ a < 0x80000000)
    (second : o' < 0x80000000 ∧ a' < 0x80000000) :
    xiceCandidatePairPriority o a < xiceCandidatePairPriority o' a' ↔
      pairRank o a < pairRank o' a' := by
  rw [UInt64.lt_iff_toNat_lt, pairPriority_exact_iff.mpr first, pairPriority_exact_iff.mpr second]
  simp only [UInt32.lt_iff_toNat_lt, UInt32.reduceToNat] at first second
  simp only [exactPairPriority, pairRank, Prod.Lex.toLex_lt_toLex]
  split <;> split <;> omega

/-- An agent with two candidates of given priorities. -/
def agentWith (controlling : Bool) (o a : UInt32) : XiceAgent :=
  { XiceAgent.new .rfc5245 controlling 5 100 false with
    candidates := fun ref =>
      { XiceCandidate.new .host 1 1 with priority := if ref = 0 then o else a } }

/-- Candidate priorities are below `2^31` just when both agents compute the priority of the
specification for every pair, and order the pairs as it does. -/
theorem pairPriority_agrees_iff (priorities : Set UInt32) :
    (∀ o ∈ priorities, ∀ a ∈ priorities,
      (∀ controlling controlled near far near' far',
        Facing controlling controlled near far near' far' o a →
          controlling.candidatePairPriority near far = controlled.candidatePairPriority near' far' ∧
          (controlling.candidatePairPriority near far).toNat = exactPairPriority o a) ∧
      ∀ o' ∈ priorities, ∀ a' ∈ priorities,
        (xiceCandidatePairPriority o a < xiceCandidatePairPriority o' a' ↔
          pairRank o a < pairRank o' a')) ↔
    ∀ priority ∈ priorities, priority < 0x80000000 := by
  constructor
  · intro agrees priority member
    have facing : Facing (agentWith true priority priority) (agentWith false priority priority)
        0 1 1 0 priority priority := ⟨⟨rfl, rfl⟩, ⟨rfl, rfl⟩, rfl, rfl⟩
    have exact := ((agrees priority member priority member).1 _ _ _ _ _ _ facing).2
    rw [facing.pairPriority.1] at exact
    exact (pairPriority_exact_iff.mp exact).1
  · intro small o first a second
    have bounds := And.intro (small o first) (small a second)
    refine ⟨fun _ _ _ _ _ _ facing => ?_, fun o' third a' fourth => ?_⟩
    · rw [facing.pairPriority.1, facing.pairPriority.2]
      exact ⟨rfl, pairPriority_exact_iff.mpr bounds⟩
    · exact pairPriority_lt_iff bounds ⟨small o' third, small a' fourth⟩

/-- With a candidate of priority `2^31` the number is too small by `2^32`, and the pair comes too
late. -/
theorem pairPriority_wraps :
    ((agentWith true 0x80000000 5).candidatePairPriority 0 1).toNat = 5 * 2 ^ 32 + 1 ∧
      exactPairPriority 0x80000000 5 = 6 * 2 ^ 32 + 1 ∧
      xiceCandidatePairPriority 0x80000000 5 < xiceCandidatePairPriority 10 5 ∧
      pairRank 10 5 < pairRank 0x80000000 5 := by
  refine ⟨by decide, by decide, by decide, ?_⟩
  simp [pairRank, Prod.Lex.toLex_lt_toLex]

end Pairs

/-! ## Peer-reflexive candidates -/

/-- The agents have the same candidates, and the same role. -/
def SameRanks (agent after : XiceAgent) : Prop :=
  after.candidates = agent.candidates ∧ after.controllingMode = agent.controllingMode

/-- Pruning leaves the priorities. -/
theorem sameRanks_addLocalCandidatePruned {agent : XiceAgent} (streamId componentId : Nat)
    (ref : CandidateRef) :
    SameRanks agent (privAddLocalCandidatePruned agent streamId componentId ref).2 := by
  refine addLocalCandidatePruned_rule (P := SameRanks agent) ⟨rfl, rfl⟩ ⟨rfl, rfl⟩ ?_
  intro after far kept
  refine addForCandidatePair_rule kept (limit_rule (P := SameRanks agent) kept kept) ?_
  exact fun _ _ kept => signal_rule (P := SameRanks agent) _ kept fun _ _ => kept

/-- A check through a NAT: the receiver learns a candidate, and the sender makes one when the answer
comes. -/
structure Reflection where
  /-- The sender when it sends the check. -/
  asking : XiceAgent
  /-- The sender when the answer comes. -/
  sender : XiceAgent
  receiver : XiceAgent
  modes : asking.compatibility = .rfc5245 ∧ sender.compatibility = .rfc5245 ∧
    receiver.compatibility = .rfc5245
  roles : sender.controllingMode = !receiver.controllingMode
  /-- The candidate that the check is sent from. -/
  near : XiceCandidate
  id : StunTransactionId
  /-- The address that the receiver sees. -/
  mapped : XiceAddress
  streamId : Nat
  streamId' : Nat
  socket : SocketRef
  out : Outside
  out' : Outside
  /-- The candidates with the user names of check and answer. -/
  named : Option CandidateRef × Option CandidateRef
  named' : Option CandidateRef × Option CandidateRef

namespace Reflection

variable (check : Reflection)

/-- What the receiver learns from the check. -/
def learned : CandidateRef × XiceAgent :=
  discoveryLearnRemotePeerReflexiveCandidate check.out' check.receiver check.streamId'
    check.near.componentId ((newCheck check.asking check.id check.near).read none).priority
    check.mapped check.named'.1 check.named'.2

/-- What the sender makes when the answer comes. -/
def created : Option CandidateRef × XiceAgent :=
  discoveryAddPeerReflexiveCandidate check.out check.sender check.streamId check.near.componentId
    check.mapped check.socket check.named.1 check.named.2

/-- The priority in the check, and that of a new peer-reflexive candidate. -/
def priority (preference : UInt32) : UInt32 :=
  xiceCandidateIcePriorityFull XiceCandidateType.peerReflexive.preference preference
    check.near.componentId

/-- The receiver takes the priority of the check, if there is one. -/
theorem learned_priority :
    (check.learned.2.candidates check.learned.1).priority =
      if check.priority 1 = 0 then check.priority 0 else check.priority 1 := by
  have founded (agent : XiceAgent) (candidate : XiceCandidate) :
      (privAssignRemoteFoundation agent candidate).priority = candidate.priority := by
    obtain ⟨foundation, username, same⟩ := assignRemoteFoundation_eq (a := agent) candidate
    rw [same]
  have sent : ((newCheck check.asking check.id check.near).read none).priority =
      check.priority 1 := by
    simp [newCheck, check.modes.1, XiceCompatibility.full, ConnCheck.read, priority]
  simp only [learned, discoveryLearnRemotePeerReflexiveCandidate, newCandidate,
    onComponent, onStream, if_true, founded, sent, newPriority, check.modes.2.2,
    ne_eq, ite_not]
  rfl

/-- The sender computes it again. -/
theorem created_priority {ref : CandidateRef} (made : check.created.1 = some ref) :
    (check.created.2.candidates ref).priority = check.priority 0 ∧
      check.created.2.controllingMode = check.sender.controllingMode := by
  have founded (agent : XiceAgent) (candidate : XiceCandidate) :
      (privAssignFoundation agent candidate).1.priority = candidate.priority ∧
        (privAssignFoundation agent candidate).2.controllingMode = agent.controllingMode := by
    obtain ⟨foundation, username, same⟩ := assignFoundation_fst (a := agent) candidate
    obtain ⟨next, other⟩ := assignFoundation_snd (a := agent) candidate
    rw [same, other]
    exact ⟨rfl, rfl⟩
  unfold created discoveryAddPeerReflexiveCandidate at made ⊢
  split at made
  · exact nomatch made
  · dsimp only at made ⊢
    split at made
    · obtain rfl := Option.some.inj made
      obtain ⟨candidates, role⟩ := sameRanks_addLocalCandidatePruned _ _ _
      rw [candidates, role]
      simp [newCandidate, founded, newPriority, check.modes.2.1, priority]
    · exact nomatch made

/-- The two priorities differ by the local preference. -/
theorem priority_succ : check.priority 1 = check.priority 0 + 0x100 := by
  unfold priority xiceCandidateIcePriorityFull
  grind

/-- A check carries zero for such component ids only. -/
theorem priority_eq_zero_iff :
    check.priority 1 = 0 ↔ UInt32.ofNat check.near.componentId = 0x6E000200 := by
  have value : check.priority 1 = 0x6E000200 - UInt32.ofNat check.near.componentId := by
    unfold priority xiceCandidateIcePriorityFull
    simp only [XiceCandidateType.preference]
    grind
  rw [value]
  grind

/-- Both agents give the candidate and the discovered pair the same priority just when the check
carries the priority zero: the receiver then computes it as the sender does. That is so for the
component ids that agree with `0x6E000200` in the last 32 bits. -/
theorem priority_agrees_iff {ref near far : CandidateRef} (made : check.created.1 = some ref)
    (other : (check.created.2.candidates far).priority =
      (check.learned.2.candidates near).priority) :
    ((check.created.2.candidates ref).priority =
        (check.learned.2.candidates check.learned.1).priority ∧
      check.created.2.candidatePairPriority ref far =
        check.learned.2.candidatePairPriority near check.learned.1) ↔
      UInt32.ofNat check.near.componentId = 0x6E000200 := by
  obtain ⟨priority, role⟩ := check.created_priority made
  have role' : check.learned.2.controllingMode = check.receiver.controllingMode := rfl
  rw [← priority_eq_zero_iff, candidatePairPriority, candidatePairPriority, role,
    role', check.roles, priority, check.learned_priority, other]
  constructor
  · rintro ⟨same, -⟩
    by_contra sent
    rw [if_neg sent, priority_succ] at same
    grind
  · intro sent
    rw [if_pos sent]
    cases check.receiver.controllingMode <;> exact ⟨rfl, rfl⟩

/-- An agent with one stream. -/
def started (controlling : Bool) : XiceAgent :=
  (XiceAgent.new .rfc5245 controlling 5 100 false).play .counting [.addStream 1 [1]]

/-- A check of the first component. -/
def crossing : Reflection where
  asking := started true
  sender := started true
  receiver := started false
  modes := ⟨rfl, rfl, rfl⟩
  roles := rfl
  near := .new .host 1 1
  id := Vector.replicate 16 0
  mapped := .ip4 9 9
  streamId := 1
  streamId' := 1
  socket := 2
  out := .counting
  out' := .counting
  named := (none, none)
  named' := (none, none)

/-- A check that crosses a NAT. -/
theorem priority_agrees_iff_crossing :
    crossing.created.1 = some 0 ∧
      ¬((crossing.created.2.candidates 0).priority =
          (crossing.learned.2.candidates crossing.learned.1).priority ∧
        crossing.created.2.candidatePairPriority 0 7 =
          crossing.learned.2.candidatePairPriority 7 crossing.learned.1) := by
  have made : crossing.created.1 = some 0 := by decide +kernel
  refine ⟨made, fun agrees => ?_⟩
  have component := (crossing.priority_agrees_iff made (by decide +kernel)).mp agrees
  exact absurd component (by decide)

/-- The learned priority is higher by 256. -/
theorem crossing_disagrees :
    crossing.created.1 = some 0 ∧ (crossing.created.2.candidates 0).priority = 0x6E0000FF ∧
      (crossing.learned.2.candidates crossing.learned.1).priority = 0x6E0001FF := by
  decide +kernel

end Reflection

end Xice.Ice
