import Mathlib.Logic.Relation
import Xice.Ice.Ownership

/-!
# Steps

What an agent does on its own is a sequence of steps: quiet changes, and those that form pairs, learn
candidates or take another role.
-/

namespace Xice.Ice

open Xice.Stun XiceAgent List

/-! ## Steps -/

/-- What an agent may do. -/
structure Rules where
  /-- The roles that it may take, and when. -/
  roles : XiceAgent → Bool → Prop
  /-- Candidates may be paired again. -/
  again : Prop
  /-- Whether it may start or stop its timers. -/
  timers : Prop
  /-- Answers may come to other components than their checks. -/
  stray : Prop
  /-- Whether it may form pairs. -/
  forms : Prop

variable (agent : XiceAgent)

/-- No pair of a stream has these candidates. -/
def Unpaired (streamId : Nat) (near far : CandidateRef) : Prop :=
  ∀ pair ∈ agent.checkList streamId, ¬(pair.localCand = near ∧ pair.remoteCand = far)

/-- The ids of the streams and of the components of each. -/
def XiceAgent.skeleton : List (Nat × List Nat) :=
  agent.streams.map fun stream => (stream.id, stream.components.map Component.id)

/-- There is such a component. -/
def HasComponent (streamId componentId : Nat) : Prop :=
  ∃ ids, (streamId, ids) ∈ agent.skeleton ∧ componentId ∈ ids

/-- A step of an agent. -/
inductive Step (rules : Rules) : XiceAgent → XiceAgent → Prop
  /-- A quiet change. -/
  | turn {a b : XiceAgent} (turn : Turn a b) : Step rules a b
  /-- A pair is formed. -/
  | pair {a : XiceAgent} {streamId componentId : Nat} {near far : CandidateRef}
      {state : XiceCheckState} (useCandidate : Bool) (forms : rules.forms)
      (present : HasComponent a streamId componentId)
      (nearOwned : Owns a streamId componentId true near)
      (farOwned : OwnsFar rules.stray a streamId componentId far)
      (fresh : rules.again ∨ Unpaired a streamId near far) :
      Step rules a (insertNewPair a streamId componentId near far state useCandidate)
  /-- A pair is discovered. -/
  | discovered {a : XiceAgent} {streamId componentId : Nat} {near : CandidateRef}
      {parent : CandidateCheckPair} (again : rules.again)
      (present : HasComponent a streamId componentId)
      (nearOwned : Owns a streamId componentId true near)
      (farOwned : OwnsFar rules.stray a streamId componentId parent.remoteCand) :
      Step rules a (privAddPeerReflexivePair a streamId componentId near parent).2
  /-- A check list is limited. -/
  | limit {a : XiceAgent} (streamId : Nat) : Step rules a (limitCheckList a streamId)
  /-- A candidate is made. -/
  | candidate {a : XiceAgent} {candidate : XiceCandidate} (ranked : Ranked a.compatibility candidate) :
      Step rules a (a.newCandidate candidate).2
  /-- The peer says more about one of its candidates. -/
  | update {a : XiceAgent} {ref : CandidateRef} {change : XiceCandidate → XiceCandidate}
      (remote : (a.candidates ref).sockptr = none)
      (kept : (change (a.candidates ref)).streamId = (a.candidates ref).streamId ∧
        (change (a.candidates ref)).componentId = (a.candidates ref).componentId ∧
        (change (a.candidates ref)).sockptr = none) :
      Step rules a (a.onCandidate ref change)
  /-- A component has a new local candidate. -/
  | addLocal {a : XiceAgent} {streamId componentId : Nat} {ref : CandidateRef}
      (owned : Owns a streamId componentId true ref)
      (fresh : ∀ stream ∈ a.streams, ∀ component ∈ stream.components,
        ref ∉ component.localCandidates) :
      Step rules a (a.onComponent streamId componentId fun component =>
        { component with localCandidates := component.localCandidates ++ [ref] })
  /-- A component has a new remote candidate. -/
  | addRemote {a : XiceAgent} {streamId componentId : Nat} {ref : CandidateRef}
      (owned : Owns a streamId componentId false ref)
      (fresh : ∀ stream ∈ a.streams, ∀ component ∈ stream.components,
        ref ∉ component.remoteCandidates) :
      Step rules a (a.onComponent streamId componentId fun component =>
        { component with remoteCandidates := component.remoteCandidates ++ [ref] })
  /-- A foundation is given out. -/
  | foundation {a : XiceAgent} (next : UInt32) : Step rules a { a with nextCandidateId := next }
  /-- A role is taken. -/
  | role {a : XiceAgent} {control : Bool} (allowed : rules.roles a control) :
      Step rules a (privCheckForRoleConflict a control)
  /-- The timers are started or stopped. -/
  | timers {a : XiceAgent} (allowed : rules.timers) (conncheck keepalive : Bool) :
      Step rules a { a with conncheckTimer := conncheck, keepaliveTimer := keepalive }

/-- Steps, one after the other. -/
abbrev Steps (rules : Rules) : XiceAgent → XiceAgent → Prop :=
  Relation.ReflTransGen (Step rules)

/-- One step. -/
theorem Step.steps {rules : Rules} {a b : XiceAgent} (step : Step rules a b) :
    Steps rules a b := Relation.ReflTransGen.single step

/-- A quiet change as steps. -/
theorem Turn.steps {rules : Rules} {a b : XiceAgent} (turn : Turn a b) : Steps rules a b :=
  (Step.turn turn).steps

/-! ## Pairs that are formed -/

section Forming

variable {a : XiceAgent} {streamId componentId : Nat}

variable {list : List CandidateCheckPair}

/-- A pair goes behind the first pairs that have a priority. -/
def placed (pair : CandidateCheckPair) (list : List CandidateCheckPair) : List CandidateCheckPair :=
  (list.takeWhile fun other => other.priority ≠ 0) ++
    pair :: list.dropWhile fun other => other.priority ≠ 0

/-- The members are the old ones and the pair. -/
theorem mem_placed {pair other : CandidateCheckPair} :
    other ∈ placed pair list ↔ other = pair ∨ other ∈ list := by
  have whole : other ∈ list ↔ other ∈ (list.takeWhile fun other => other.priority ≠ 0) ∨
      other ∈ list.dropWhile fun other => other.priority ≠ 0 := by
    rw [← mem_append, takeWhile_append_dropWhile]
  rw [placed, mem_append, mem_cons, whole]
  tauto

/-- A pair without priority goes before the first one without. -/
theorem insertSorted_blank (list : List CandidateCheckPair) (ref : PairRef) :
    insertSorted list (blankPair ref) = placed (blankPair ref) list := by
  have same : (fun other : CandidateCheckPair =>
      decide ¬connCheckCompare (blankPair ref) other ≤ 0) = fun other => decide (other.priority ≠ 0) := by
    funext other
    have zero : (blankPair ref).priority = 0 := rfl
    apply decide_eq_decide.mpr
    unfold connCheckCompare
    rw [zero]
    by_cases none_left : other.priority = 0
    · simp [none_left]
    · have positive : 0 < other.priority := UInt64.pos_iff_ne_zero.mpr none_left
      simp [positive, none_left]
  rw [insertSorted, orderedInsert_eq_take_drop, placed, same]

/-- A placed pair gets its fields. -/
theorem map_placed {ref : PairRef} (pair : CandidateCheckPair)
    (others : ∀ other ∈ list, other.ref ≠ ref) :
    (placed (blankPair ref) list).map (fun other => if other.ref = ref then pair else other) =
      placed pair list := by
  have still : ∀ {part : List CandidateCheckPair}, part ⊆ list →
      part.map (fun other => if other.ref = ref then pair else other) = part := by
    intro part subset
    rw [map_congr_left (g := id), map_id]
    intro other member
    exact if_neg (others other (subset member))
  have named : (blankPair ref).ref = ref := rfl
  unfold placed
  rw [map_append, map_cons, still (takeWhile_subset _),
    still (dropWhile_subset _), if_pos named]

/-- What `priv_add_new_check_pair` does up to the limit. -/
theorem insertNewPair_eq {stray : Prop} (sound : Sound stray a) (near far : CandidateRef) (state : XiceCheckState)
    (useCandidate : Bool) :
    insertNewPair a streamId componentId near far state useCandidate =
      { a.onList streamId (placed (newPair a streamId componentId near far state useCandidate)) with
        allocated := a.allocated + 1 } := by
  let pair := newPair a streamId componentId near far state useCandidate
  have others : ∀ stream ∈ a.streams, ∀ other ∈ stream.conncheckList, other.ref ≠ a.allocated := by
    intro stream member other among
    exact Nat.ne_of_lt (sound.pairs stream member other among).1
  have streams : (insertNewPair a streamId componentId near far state useCandidate).streams =
      (a.onList streamId (placed pair)).streams := by
    unfold insertNewPair onPair onList onStream
    dsimp only [note]
    rw [map_map]
    apply map_congr_left
    intro stream member
    have filled := map_placed pair (others stream member)
    have still : stream.conncheckList.map
        (fun other => if other.ref = a.allocated then pair else other) = stream.conncheckList := by
      rw [map_congr_left (g := id), map_id]
      intro other among
      exact if_neg (others stream member other among)
    dsimp only [Function.comp]
    by_cases same : stream.id = streamId
    · rw [if_pos same, if_pos same]
      dsimp only
      rw [insertSorted_blank]
      exact congrArg (fun list => { stream with conncheckList := list }) filled
    · rw [if_neg same, if_neg same]
      exact congrArg (fun list => { stream with conncheckList := list }) still
  have rest : insertNewPair a streamId componentId near far state useCandidate =
      { a with
        streams := (insertNewPair a streamId componentId near far state useCandidate).streams
        allocated := a.allocated + 1 } := rfl
  rw [rest, streams]
  rfl

/-- `priv_add_peer_reflexive_pair` puts the pair last. -/
theorem addPeerReflexivePair_eq (near : CandidateRef) (parent : CandidateCheckPair) :
    (privAddPeerReflexivePair a streamId componentId near parent).2 =
      { a.onList streamId fun list => list ++
          [newPair a streamId componentId near parent.remoteCand .discovered false] with
        allocated := a.allocated + 1 } := rfl

/-- The members of a list with one more at its end. -/
theorem mem_appended {pair other : CandidateCheckPair} (member : other ∈ list ++ [pair]) :
    other = pair ∨ other ∈ list := by
  rcases mem_append.mp member with old | new
  · exact .inr old
  · exact .inl (mem_singleton.mp new)

end Forming

end Xice.Ice
