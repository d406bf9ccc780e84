import Mathlib.Data.List.TakeWhile
import Xice.Ice.Standstill

/-!
# Pairs that are formed in order

`priv_add_new_check_pair` sorts a pair into the check list before it has a priority, so it comes
behind every pair that has one. A check list stays in order when the priorities still to come are in
order, and none is above that of a pair in the list.
-/

namespace Xice.Ice

open Xice.Stun XiceAgent List

/-! ## Ordered lists -/

/-- The pairs of a check list have non-increasing priorities. -/
def Ordered (list : List CandidateCheckPair) : Prop :=
  list.Pairwise fun first second => second.priority ≤ first.priority

instance (list : List CandidateCheckPair) : Decidable (Ordered list) :=
  inferInstanceAs (Decidable (list.Pairwise _))

/-- Priorities in order, none above that of a pair in a check list. -/
def Fits (plan : List UInt64) (list : List CandidateCheckPair) : Prop :=
  plan.Pairwise (fun first second => second ≤ first) ∧
    ∀ pair ∈ list, ∀ priority ∈ plan, priority ≤ pair.priority

instance (plan : List UInt64) (list : List CandidateCheckPair) : Decidable (Fits plan list) :=
  inferInstanceAs (Decidable (plan.Pairwise _ ∧ ∀ pair ∈ list, ∀ priority ∈ plan, _))

/-- A check list is in order, and pairs of some priorities may follow in one stream. -/
def Lined (streamId : Nat) (plan : List UInt64) (id : Nat) (list : List CandidateCheckPair) : Prop :=
  Ordered list ∧ (id = streamId → Fits plan list)

variable {list : List CandidateCheckPair} {pair : CandidateCheckPair} {plan front : List UInt64}
  {a b : XiceAgent} {streamId componentId : Nat} {out : Outside} {near far : CandidateRef}

/-- The order is about the pairs that were formed. -/
theorem Ordered.of_core {other : List CandidateCheckPair}
    (same : list.map CandidateCheckPair.core = other.map CandidateCheckPair.core)
    (ordered : Ordered other) : Ordered list := by
  have own : ∀ list : List CandidateCheckPair, Ordered list ↔
      (list.map CandidateCheckPair.core).Pairwise fun first second =>
        second.priority ≤ first.priority := by
    intro list
    rw [pairwise_map]
    rfl
  rwa [own, same, ← own]

/-- A pair is in its place when only pairs without priority come behind it. -/
theorem ordered_placed_iff (ordered : Ordered list) :
    Ordered (placed pair list) ↔
      ∀ other ∈ list, pair.priority ≤ other.priority ∨ other.priority = 0 := by
  have zeros : ∀ other ∈ list.dropWhile fun other => decide (other.priority ≠ 0),
      other.priority = 0 := by
    intro other member
    cases rest : list.dropWhile fun other => decide (other.priority ≠ 0) with
    | nil =>
      rw [rest] at member
      exact absurd member not_mem_nil
    | cons first later =>
      have head : first.priority = 0 := by
        have stops := head?_dropWhile_not (fun other : CandidateCheckPair =>
          decide (other.priority ≠ 0)) list
        rw [rest] at stops
        simpa using stops
      have tail : Ordered (first :: later) := by
        rw [← rest]
        exact ordered.sublist (dropWhile_sublist _)
      rw [rest] at member
      rcases mem_cons.mp member with rfl | behind
      · exact head
      · have below := rel_of_pairwise_cons tail behind
        rw [head] at below
        exact UInt64.le_zero_iff.mp below
  have split : ∀ other, other ∈ list ↔
      other ∈ (list.takeWhile fun other => decide (other.priority ≠ 0)) ∨
        other ∈ list.dropWhile fun other => decide (other.priority ≠ 0) := by
    intro other
    rw [← mem_append, takeWhile_append_dropWhile]
  have early : ∀ other ∈ list.takeWhile fun other => decide (other.priority ≠ 0),
      other.priority ≠ 0 := by
    intro other member
    simpa using mem_takeWhile_imp member
  unfold Ordered placed
  rw [pairwise_append, pairwise_cons]
  constructor
  · rintro ⟨_, _, across⟩ other member
    rcases (split other).mp member with front | back
    · exact .inl (across other front pair mem_cons_self)
    · exact .inr (zeros other back)
  · intro last
    refine ⟨ordered.sublist (takeWhile_sublist _),
      ⟨?_, ordered.sublist (dropWhile_sublist _)⟩, ?_⟩
    · intro other behind
      rw [zeros other behind]
      exact UInt64.zero_le
    · intro other front new there
      rcases mem_cons.mp there with rfl | behind
      · rcases last other ((split other).mpr (.inl front)) with below | zero
        · exact below
        · exact absurd zero (early other front)
      · rw [zeros new behind]
        exact UInt64.zero_le

/-! ## Plans -/

/-- Pairs that are not formed after all. -/
theorem Fits.skip (fits : Fits (front ++ plan) list) : Fits plan list := by
  constructor
  · exact (pairwise_append.mp fits.1).2.1
  · intro other member priority among
    exact fits.2 other member priority (mem_append_right _ among)

/-- The first pair of a plan is formed, wherever it is put. -/
theorem Fits.form (fits : Fits (pair.priority :: plan) list) {longer : List CandidateCheckPair}
    (members : ∀ other ∈ longer, other = pair ∨ other ∈ list) : Fits plan longer := by
  obtain ⟨behind, rest⟩ := pairwise_cons.mp fits.1
  apply And.intro rest
  intro other member priority among
  rcases members other member with rfl | old
  · exact behind priority among
  · exact fits.2 other old priority (mem_cons_of_mem _ among)

/-- What is lined up is about the pairs that were formed. -/
theorem hereditary_lined (streamId : Nat) (plan : List UInt64) :
    Hereditary (Lined streamId plan) := by
  constructor
  · rintro id list other sublist ⟨ordered, fits⟩
    refine ⟨ordered.sublist sublist, fun here => ⟨(fits here).1, ?_⟩⟩
    intro pair member
    exact (fits here).2 pair (sublist.subset member)
  · rintro id list other same ⟨ordered, fits⟩
    refine ⟨ordered.of_core same, fun here => ⟨(fits here).1, ?_⟩⟩
    intro pair member
    obtain ⟨earlier, inside, cores⟩ := exists_of_map_eq same member
    obtain ⟨_, _, _, _, _, _, _, priority⟩ := CandidateCheckPair.core_eq cores
    rw [← priority]
    exact (fits here).2 earlier inside

/-- Pairs that are not formed after all, in every list. -/
theorem lined_skip (front : List UInt64) (lined : a.EachAt (Lined streamId (front ++ plan))) :
    a.EachAt (Lined streamId plan) := by
  intro stream member
  obtain ⟨ordered, fits⟩ := lined stream member
  exact ⟨ordered, fun here => (fits here).skip⟩

/-- A quiet change leaves the lists lined up. -/
theorem Turn.lined (turn : Turn a b) (lined : a.EachAt (Lined streamId plan)) :
    b.EachAt (Lined streamId plan) := lined.of_core (hereditary_lined streamId plan) turn.core

/-- What an agent may do that forms no pairs and takes no role. -/
def Rules.still : Rules := ⟨fun _ _ => False, False, True, True, False⟩

/-- Such steps leave the lists lined up. -/
theorem Steps.lined (steps : Steps Rules.still a b) (sound : Sound True a)
    (lined : a.EachAt (Lined streamId plan)) : b.EachAt (Lined streamId plan) := by
  apply steps.each sound (hereditary_lined streamId plan) _ lined
  constructor
  · intro _ _ _ _ _ forms
    exact absurd forms id
  · intro _ _ _ _ _ again
    exact absurd again id
  · intro _ _ _ _ role
    exact absurd role id

/-! ## Forming pairs -/

/-- The first pair of a plan is formed. -/
theorem lined_addNewCheckPair (sound : Sound True a) {state : XiceCheckState} {useCandidate : Bool}
    (lined : a.EachAt (Lined streamId (a.candidatePairPriority near far :: plan))) :
    (privAddNewCheckPair a streamId componentId near far state useCandidate).EachAt
      (Lined streamId plan) := by
  let pair := newPair a streamId componentId near far state useCandidate
  have inserted : (a.onList streamId (placed pair)).EachAt (Lined streamId plan) := by
    refine lined.onList sound ?_ ?_
    · rintro ⟨ordered, fits⟩
      have fitting : Fits (pair.priority :: plan) (a.checkList streamId) := fits rfl
      constructor
      · apply (ordered_placed_iff ordered).mpr
        intro other member
        exact .inl (fitting.2 other member _ mem_cons_self)
      · intro _
        exact fitting.form fun other member => mem_placed.mp member
    · rintro id list other ⟨ordered, _⟩
      exact ⟨ordered, fun here => absurd here other⟩
  unfold privAddNewCheckPair
  rw [insertNewPair_eq sound]
  exact XiceAgent.EachAt.limit (inserted.of_streams rfl) (hereditary_lined streamId plan)

/-- The pair is formed for candidates that match. -/
theorem lined_addForCandidatePair (sound : Sound True a)
    (lined : a.EachAt (Lined streamId (a.candidatePairPriority near far :: plan))) :
    (privConnCheckAddForCandidatePair a streamId componentId near far).EachAt
      (Lined streamId plan) := by
  refine addForCandidatePair_rule (P := fun after => after.EachAt (Lined streamId plan))
    (lined_skip [_] lined) (lined_addNewCheckPair sound lined) ?_
  intro after state
  exact (turn_signal ..).lined

/-! ## What pairing leaves alone -/

/-- Streams and components but for the states and the pairs. -/
def XiceAgent.frame (agent : XiceAgent) : List (Nat × List Component) :=
  agent.streams.map fun stream => (stream.id, stream.components.map fun component =>
    { component with state := .disconnected })

/-- The candidates, the role and the components are the same. -/
structure Alike (a b : XiceAgent) : Prop where
  candidates : b.candidates = a.candidates
  mode : b.controllingMode = a.controllingMode
  frame : b.frame = a.frame

/-- The local candidates of a component. -/
def XiceAgent.locals (agent : XiceAgent) (streamId componentId : Nat) : List CandidateRef :=
  ((agent.findComponent streamId componentId).map Component.localCandidates).getD []

/-- The components are read off the frame. -/
theorem findComponent_frame (agent : XiceAgent) (streamId componentId : Nat) :
    (agent.findComponent streamId componentId).map
        (fun component => { component with state := .disconnected }) =
      (agent.frame.find? fun entry => entry.1 = streamId).bind fun entry =>
        entry.2.find? fun component => component.id = componentId := by
  unfold XiceAgent.frame findComponent findStream
  rw [find?_map]
  change _ = ((agent.streams.find? fun stream => decide (stream.id = streamId)).map _).bind _
  cases agent.streams.find? fun stream => decide (stream.id = streamId) with
  | none => rfl
  | some stream =>
    simp only [Option.map_some, Option.bind_some]
    unfold Stream.findComponentById
    rw [find?_map]
    rfl

namespace Alike

/-- Nothing is changed. -/
theorem refl (a : XiceAgent) : Alike a a := ⟨rfl, rfl, rfl⟩

/-- One change after the other. -/
theorem trans {c : XiceAgent} (first : Alike a b) (second : Alike b c) : Alike a c :=
  ⟨second.candidates.trans first.candidates, second.mode.trans first.mode,
    second.frame.trans first.frame⟩

/-- Components have the local candidates that they had. -/
theorem locals (alike : Alike a b) (streamId componentId : Nat) :
    b.locals streamId componentId = a.locals streamId componentId := by
  have same := congrArg (Option.map Component.localCandidates)
    (findComponent_frame b streamId componentId)
  rw [alike.frame, ← findComponent_frame, Option.map_map, Option.map_map] at same
  exact congrArg (Option.getD · []) same

/-- So do pairs have the priorities. -/
theorem priority (alike : Alike a b) (near far : CandidateRef) :
    b.candidatePairPriority near far = a.candidatePairPriority near far := by
  unfold candidatePairPriority
  rw [alike.candidates, alike.mode]

/-- No check is stored. -/
theorem stored (alike : Alike a b) (none_stored : NoneStored a) : NoneStored b := by
  intro stream member component inside
  have frame := alike.frame
  unfold XiceAgent.frame at frame
  obtain ⟨before, was, same⟩ := exists_of_map_eq frame member
  obtain ⟨earlier, there, alike⟩ := exists_of_map_eq (Prod.mk.inj same).2.symm inside
  have checks := congrArg Component.incomingChecks alike
  dsimp only at checks
  rw [← checks]
  exact none_stored before was earlier there

/-- A check list is changed. -/
theorem onList (change : List CandidateCheckPair → List CandidateCheckPair) :
    Alike a (a.onList streamId change) := by
  refine ⟨rfl, rfl, ?_⟩
  dsimp only [XiceAgent.frame, XiceAgent.onList, onStream]
  rw [map_map]
  apply map_congr_left
  intro stream _
  dsimp only [Function.comp]
  split <;> rfl

/-- The state of a component is changed. -/
theorem onState (state : XiceComponentState) :
    Alike a (a.onComponent streamId componentId fun component => { component with state := state })
    := by
  refine ⟨rfl, rfl, ?_⟩
  dsimp only [XiceAgent.frame, onComponent, onStream]
  rw [map_map]
  apply map_congr_left
  intro stream _
  dsimp only [Function.comp]
  split
  · rw [map_map]
    congr 1
    apply map_congr_left
    intro component _
    dsimp only [Function.comp]
    split <;> rfl
  · rfl

/-- Candidates are paired. -/
theorem addForCandidatePair (near far : CandidateRef) :
    Alike a (privConnCheckAddForCandidatePair a streamId componentId near far) := by
  refine addForCandidatePair_rule (P := Alike a) (refl a) ?_ ?_
  · let inserted : XiceAgent := insertNewPair a streamId componentId near far .frozen false
    have first : Alike a inserted := by
      have placed : Alike a (a.onList streamId fun list =>
        insertSorted list (blankPair a.allocated)) := onList _
      refine ⟨rfl, rfl, ?_⟩
      rw [← placed.frame]
      unfold inserted insertNewPair onPair XiceAgent.frame
      dsimp only
      rw [map_map]
      rfl
    apply first.trans
    exact limit_rule (P := Alike inserted) (refl _) ⟨rfl, rfl, (onList _).frame⟩
  · intro after state before
    apply before.trans
    exact signal_rule (P := Alike after) state (refl _) fun _ _ => ⟨rfl, rfl, (onState state).frame⟩

end Alike

/-! ## Candidates that are paired -/

/-- A loop that pairs candidates in the order of a plan. -/
theorem lined_pairAll (list : List (CandidateRef × CandidateRef)) (sound : Sound True a)
    (present : HasComponent a streamId componentId)
    (owned : ∀ pair ∈ list, Owns a streamId componentId true pair.1 ∧
      Owns a streamId componentId false pair.2)
    (lined : a.EachAt (Lined streamId
      ((list.map fun pair => a.candidatePairPriority pair.1 pair.2) ++ plan))) :
    let paired := list.foldl (fun agent pair =>
      privConnCheckAddForCandidatePair agent streamId componentId pair.1 pair.2) a
    paired.EachAt (Lined streamId plan) ∧ Alike a paired := by
  induction list generalizing a with
  | nil => exact ⟨lined, Alike.refl a⟩
  | cons first rest ih =>
    have formed : Steps (Rules.free True) a
        (privConnCheckAddForCandidatePair a streamId componentId first.1 first.2) := by
      obtain ⟨near, far⟩ := owned first mem_cons_self
      exact steps_addForCandidatePair trivial present near far (.inl trivial)
    have alike : Alike a (privConnCheckAddForCandidatePair a streamId componentId first.1 first.2) :=
      Alike.addForCandidatePair _ _
    have later : (privConnCheckAddForCandidatePair a streamId componentId first.1 first.2).EachAt
        (Lined streamId ((rest.map fun pair => (privConnCheckAddForCandidatePair a streamId
          componentId first.1 first.2).candidatePairPriority pair.1 pair.2) ++ plan)) := by
      rw [map_congr_left fun pair _ => alike.priority pair.1 pair.2]
      exact lined_addForCandidatePair sound lined
    obtain ⟨kept, same⟩ := ih (formed.sound sound) (formed.hasComponent present)
      (fun pair member => by
        obtain ⟨near, far⟩ := owned pair (mem_cons_of_mem _ member)
        exact ⟨formed.owns near, formed.owns far⟩) later
    exact ⟨kept, alike.trans same⟩

/-- A remote candidate is paired with the local ones. -/
theorem lined_addForCandidate (sound : Sound True a) (owned : Owns a streamId componentId false far)
    (lined : a.EachAt (Lined streamId (((a.locals streamId componentId).map fun near =>
      a.candidatePairPriority near far) ++ plan))) :
    (connCheckAddForCandidate a streamId componentId far).EachAt (Lined streamId plan) ∧
      Alike a (connCheckAddForCandidate a streamId componentId far) := by
  unfold connCheckAddForCandidate
  cases found : a.findComponent streamId componentId with
  | none => exact ⟨lined_skip _ lined, Alike.refl a⟩
  | some component =>
    have present := hasComponent_of_find found
    have near_ones : a.locals streamId componentId = component.localCandidates := by
      rw [XiceAgent.locals, found]
      rfl
    obtain ⟨stream, member, rfl, inside, rfl⟩ := exists_of_findComponent found
    dsimp only
    rw [← foldl_map (f := fun near => (near, far)) (g := fun agent pair =>
      privConnCheckAddForCandidatePair agent stream.id component.id pair.1 pair.2)]
    apply lined_pairAll _ sound present
    · exact forall_mem_map.mpr fun near among =>
        ⟨(sound.locals stream member component inside).2 near among, owned⟩
    · rwa [map_map, ← near_ones]

/-- The priority of a pair for an agent of a role. -/
def rank (control : Bool) (near far : UInt32) : UInt64 :=
  if control then xiceCandidatePairPriority near far else xiceCandidatePairPriority far near

/-- The local candidates of a component belong to it. -/
theorem owns_of_local {stray : Prop} (sound : Sound stray a)
    (among : near ∈ a.locals streamId componentId) : Owns a streamId componentId true near := by
  unfold XiceAgent.locals at among
  cases found : a.findComponent streamId componentId with
  | none => simp [found] at among
  | some component =>
    rw [found] at among
    obtain ⟨stream, member, rfl, inside, rfl⟩ := exists_of_findComponent found
    exact (sound.locals stream member component inside).2 near among

/-! ## Candidates of the peer -/

/-- The role and the local candidates of a component are the same. -/
structure Beside (streamId componentId : Nat) (a b : XiceAgent) : Prop where
  mode : b.controllingMode = a.controllingMode
  locals : b.locals streamId componentId = a.locals streamId componentId
  near : ∀ near ∈ a.locals streamId componentId, b.candidates near = a.candidates near
  stored : NoneStored a → NoneStored b

/-- So they are when candidates and components are. -/
theorem Alike.beside (alike : Alike a b) : Beside streamId componentId a b where
  mode := alike.mode
  locals := alike.locals streamId componentId
  near near _ := by rw [alike.candidates]
  stored := alike.stored

/-- One change after the other. -/
theorem Beside.trans {c : XiceAgent} (first : Beside streamId componentId a b)
    (second : Beside streamId componentId b c) : Beside streamId componentId a c where
  mode := second.mode.trans first.mode
  locals := second.locals.trans first.locals
  near near among := by rw [second.near near (first.locals ▸ among), first.near near among]
  stored none_stored := second.stored (first.stored none_stored)

/-- The pairs of a remote candidate with the local ones of its component. -/
def XiceAgent.remotePlan (agent : XiceAgent) (streamId componentId : Nat) (priority : UInt32) :
    List UInt64 :=
  (agent.locals streamId componentId).map fun near =>
    rank agent.controllingMode (agent.candidates near).priority priority

/-- It depends on the local candidates. -/
theorem Beside.remotePlan (beside : Beside streamId componentId a b) (priority : UInt32) :
    b.remotePlan streamId componentId priority = a.remotePlan streamId componentId priority := by
  unfold XiceAgent.remotePlan
  rw [beside.locals, beside.mode]
  apply map_congr_left
  intro near among
  rw [beside.near near among]

/-- A remote candidate is paired as planned. -/
theorem lined_pairRemote (beside : Beside streamId componentId a b) (sound : Sound True b)
    (owned : Owns b streamId componentId false far)
    (lined : b.EachAt (Lined streamId
      (a.remotePlan streamId componentId (b.candidates far).priority ++ plan))) :
    (connCheckAddForCandidate b streamId componentId far).EachAt (Lined streamId plan) ∧
      Alike b (connCheckAddForCandidate b streamId componentId far) := by
  apply lined_addForCandidate sound owned
  rw [← beside.remotePlan] at lined
  exact lined

/-- A candidate of the peer is made and added to a component. -/
theorem beside_addRemote (sound : Sound True a) (candidate : XiceCandidate) :
    let made := a.newCandidate candidate
    Beside streamId componentId a (made.2.onComponent streamId componentId fun component =>
      { component with remoteCandidates := component.remoteCandidates ++ [made.1] }) := by
  intro made
  constructor
  · rfl
  · have changed : (made.2.onComponent streamId componentId fun component =>
        { component with remoteCandidates := component.remoteCandidates ++ [made.1] }).findComponent
          streamId componentId = _ := findComponent_onComponent fun _ => rfl
    unfold XiceAgent.locals
    rw [changed, Option.map_map]
    congr 2
    funext component
    dsimp only [Function.comp]
    split <;> rfl
  · intro near among
    have other : near ≠ a.allocated := Nat.ne_of_lt (owns_of_local sound among).allocated
    exact if_neg other
  · intro none_stored stream member component inside
    obtain ⟨before, was, rfl⟩ := mem_map.mp member
    split at inside
    · obtain ⟨earlier, there, rfl⟩ := mem_map.mp inside
      split <;> exact none_stored before was earlier there
    · exact none_stored before was component inside

/-- `priv_add_remote_candidate`. -/
theorem lined_addRemoteCandidate (sound : Sound True a) (data : CandidateData)
    (lined : a.EachAt (Lined streamId
      (a.remotePlan streamId componentId data.priority ++ plan))) :
    (privAddRemoteCandidate a streamId componentId data).EachAt (Lined streamId plan) ∧
      Beside streamId componentId a (privAddRemoteCandidate a streamId componentId data) := by
  unfold privAddRemoteCandidate
  split
  · exact ⟨lined_skip _ lined, (Alike.refl a).beside⟩
  · rename_i component found
    split
    · rename_i ref known
      obtain ⟨stream, member, rfl, inside, rfl⟩ := exists_of_findComponent found
      have owns := (sound.remotes stream member component inside).2 ref (mem_of_find?_eq_some known)
      have remote : (a.candidates ref).sockptr = none := by
        have side := owns.side
        simpa using side
      let updated : XiceAgent := a.onCandidate ref fun candidate =>
        { candidate with
          type := data.type
          baseAddr := data.baseAddr
          priority := data.priority
          foundation := data.foundation.take xiceCandidateMaxFoundation
          username := data.username.or candidate.username }
      have step : Step (Rules.free True) a updated :=
        Step.update remote ⟨rfl, rfl, remote⟩
      have beside : Beside stream.id component.id a updated := by
        refine ⟨rfl, rfl, ?_, fun none_stored => none_stored⟩
        intro near among
        have other : near ≠ ref := by
          rintro rfl
          have side := (owns_of_local sound among).side
          rw [owns.side] at side
          exact absurd side (by simp)
        exact if_neg other
      have new : (updated.candidates ref).priority = data.priority :=
        congrArg XiceCandidate.priority (if_pos rfl)
      rw [← new] at lined
      obtain ⟨paired, alike⟩ := lined_pairRemote beside (step.sound sound)
        (step.extends.owns owns) (lined.of_streams rfl)
      exact ⟨paired, beside.trans alike.beside⟩
    · let made := a.newCandidate (data.candidate streamId componentId)
      let added : XiceAgent := made.2.onComponent streamId componentId fun component =>
        { component with remoteCandidates := component.remoteCandidates ++ [made.1] }
      obtain ⟨steps, owns, _⟩ := steps_addRemote (Rules.free True) sound
        (data.candidate streamId componentId) rfl rfl rfl
      have beside : Beside streamId componentId a added := beside_addRemote sound _
      have new : (added.candidates made.1).priority = data.priority :=
        congrArg XiceCandidate.priority (if_pos rfl)
      rw [← new] at lined
      have kept : made.2.EachAt _ := lined.of_streams rfl
      obtain ⟨paired, alike⟩ := lined_pairRemote beside (steps.sound sound) owns
        (kept.onComponent _)
      exact ⟨paired, beside.trans alike.beside⟩

/-- The candidates of `xice_agent_set_remote_candidates` are added. -/
theorem lined_addRemoteCandidates (list : List CandidateData) (sound : Sound True a)
    (lined : a.EachAt (Lined streamId ((list.flatMap fun data =>
      a.remotePlan streamId componentId data.priority) ++ plan))) :
    let agent := list.foldl (fun agent data =>
      privAddRemoteCandidate agent streamId componentId data) a
    agent.EachAt (Lined streamId plan) ∧ Beside streamId componentId a agent := by
  induction list generalizing a with
  | nil => exact ⟨lined, (Alike.refl a).beside⟩
  | cons data rest ih =>
    rw [flatMap_cons, append_assoc] at lined
    obtain ⟨kept, beside⟩ := lined_addRemoteCandidate sound data lined
    have steps : Steps (Rules.free True) a
        (privAddRemoteCandidate a streamId componentId data) :=
      steps_addRemoteCandidate sound trivial data (.inl trivial)
    rw [← funext fun data : CandidateData => beside.remotePlan data.priority] at kept
    obtain ⟨later, same⟩ := ih (steps.sound sound) kept
    exact ⟨later, beside.trans same⟩

/-- `xice_agent_set_remote_candidates`, when no checks are stored. -/
theorem lined_setRemoteCandidates (sound : Sound True a) (none_stored : NoneStored a)
    (candidates : List CandidateData) (timers : Timers)
    (lined : a.EachAt (Lined streamId (((validCandidates candidates).flatMap fun data =>
      a.remotePlan streamId componentId data.priority) ++ plan))) :
    (setRemoteCandidates out a streamId componentId candidates timers).EachAt
      (Lined streamId plan) := by
  unfold setRemoteCandidates
  split
  · exact lined_skip _ lined
  · split
    · exact lined_skip _ lined
    · obtain ⟨added, beside⟩ := lined_addRemoteCandidates (validCandidates candidates) sound lined
      have steps : Steps (Rules.free True) a ((validCandidates candidates).foldl
          (fun agent data => privAddRemoteCandidate agent streamId componentId data) a) :=
        steps_addRemoteCandidates sound trivial _ (.inl trivial)
      unfold validCandidates at added beside steps
      dsimp only
      rw [remoteCandidatesSet_eq_self (beside.stored none_stored)]
      split
      · exact added
      · have after := steps.sound sound
        refine Steps.lined ?_ after added
        apply steps_scheduleNext
        · exact after
        · exact trivial

end Xice.Ice
