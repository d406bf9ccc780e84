import Xice.Ice.Steps

/-!
# Every step keeps an agent sound

It also keeps the components, the candidates with the component that they belong to, and the pairs
with their candidates.
-/

namespace Xice.Ice

open Xice.Stun XiceAgent List CandidateCheckPair

variable {a b : XiceAgent} {streamId componentId : Nat} {ref : PairRef} {rules : Rules}
  {stray : Prop}
variable {stream : Stream} {component : Component} {candidate : XiceCandidate}

/-! ## Components -/

variable {near : Bool} {pair : CandidateCheckPair}

/-- The stream and the component. -/
theorem HasComponent.exists (present : HasComponent a streamId componentId) :
    ∃ stream ∈ a.streams, stream.id = streamId ∧
      ∃ component ∈ stream.components, component.id = componentId := by
  obtain ⟨ids, among, member⟩ := present
  obtain ⟨stream, found, same⟩ := mem_map.mp among
  obtain ⟨rfl, rfl⟩ := Prod.mk.inj same
  obtain ⟨component, inside, id⟩ := mem_map.mp member
  exact ⟨stream, found, rfl, component, inside, id⟩

/-- A component of a stream is there. -/
theorem hasComponent_of_mem (member : stream ∈ a.streams)
    (inside : component ∈ stream.components) : HasComponent a stream.id component.id :=
  ⟨_, mem_map_of_mem member, mem_map_of_mem inside⟩

/-- So is one that is found. -/
theorem hasComponent_of_find
    (found : a.findComponent streamId componentId = some component) :
    HasComponent a streamId componentId := by
  obtain ⟨stream, member, rfl, inside, rfl⟩ := exists_of_findComponent found
  exact hasComponent_of_mem member inside

/-- The core decides the skeleton. -/
theorem skeleton_of_core (same : b.core = a.core) : b.skeleton = a.skeleton := by
  have own : ∀ agent : XiceAgent, agent.skeleton = agent.core.skeleton := by
    intro agent
    unfold skeleton XiceAgent.core
    rw [map_map]
    apply map_congr_left
    intro stream _
    dsimp only [Function.comp, Stream.core]
    rw [map_map]
    rfl
  rw [own b, own a, same]

/-- A change of a stream that keeps its id and its components. -/
theorem skeleton_onStream {change : Stream → Stream} (id : ∀ stream, (change stream).id = stream.id)
    (components : ∀ stream, (change stream).components.map Component.id =
      stream.components.map Component.id) : (a.onStream streamId change).skeleton = a.skeleton := by
  unfold skeleton onStream
  rw [map_map]
  apply map_congr_left
  intro stream _
  dsimp only [Function.comp]
  split
  · rw [id, components]
  · rfl

/-- Pairs are not part of the skeleton. -/
theorem skeleton_onList (change : List CandidateCheckPair → List CandidateCheckPair) :
    (a.onList streamId change).skeleton = a.skeleton :=
  skeleton_onStream (fun _ => rfl) fun _ => rfl

/-- Nor are the candidates of components. -/
theorem skeleton_onComponent {change : Component → Component}
    (kept : ∀ component, (change component).id = component.id) :
    (a.onComponent streamId componentId change).skeleton = a.skeleton := by
  apply skeleton_onStream
  · intro _
    rfl
  · intro stream
    rw [map_map]
    apply map_congr_left
    intro component _
    dsimp only [Function.comp]
    split
    · exact kept component
    · rfl

/-! ## Sound agents -/

/-- The ids of streams after a change of one of them. -/
theorem ids_onStream {change : Stream → Stream} (kept : ∀ stream, (change stream).id = stream.id) :
    (a.onStream streamId change).streams.map Stream.id = a.streams.map Stream.id := by
  rw [onStream, map_map]
  apply map_congr_left
  intro stream _
  dsimp only [Function.comp]
  split
  · exact kept stream
  · rfl

/-- Pairs leave the ids of streams. -/
theorem ids_onList (change : List CandidateCheckPair → List CandidateCheckPair) :
    (a.onList streamId change).streams.map Stream.id = a.streams.map Stream.id :=
  ids_onStream fun _ => rfl

/-- What is owned still is when there are more candidates. -/
theorem Owns.grow (owns : Owns a streamId componentId near ref)
    (allocated : a.allocated ≤ b.allocated)
    (same : ∀ ref, ref < a.allocated → b.candidates ref = a.candidates ref) :
    Owns b streamId componentId near ref :=
  owns.of_same allocated (same ref owns.allocated)

/-- A quiet change keeps an agent sound. -/
theorem Turn.sound (turn : Turn a b) (sound : Sound stray a) : Sound stray b := by
  obtain ⟨change, lists, eases⟩ := turn.pairs
  have moves : ∀ stream ∈ a.streams, ∀ pair ∈ stream.conncheckList,
      Eases pair (change stream.id pair) := fun stream member => eases _ (mem_map_of_mem member)
  apply sound.of_lists (sound.toOwned.of_core turn.core) change
  · intro after member
    have listed : (after.id, after.conncheckList) ∈ b.lists := mem_map_of_mem member
    rw [lists] at listed
    obtain ⟨entry, among, same⟩ := mem_map.mp listed
    obtain ⟨before, present, rfl⟩ := mem_map.mp among
    refine ⟨before, present, fun pair inside => ?_⟩
    rw [← (Prod.mk.inj same).2] at inside
    obtain ⟨earlier, was, rfl⟩ := mem_map.mp inside
    exact ⟨earlier, was, rfl⟩
  · intro stream member pair among
    exact (core_eq (moves stream member pair among).core).1
  · intro stream member pair among
    exact (moves stream member pair among).waits (sound.waiting stream member pair among)

section

variable (sound : Sound stray a)

include sound

/-- So does a change that the streams do not see. -/
theorem Sound.of_streams (streams : b.streams = a.streams) (core : b.core = a.core) :
    Sound stray b := by
  apply sound.of_subset (sound.toOwned.of_core core)
  intro after member
  rw [streams] at member
  exact ⟨after, member, List.Subset.refl _⟩

/-- So does a new pair, wherever in the list it is put. -/
theorem Sound.form (place : List CandidateCheckPair → List CandidateCheckPair)
    (members : ∀ list other, other ∈ place list → other = pair ∨ other ∈ list)
    (named : pair.ref = a.allocated) (silent : pair.message = none)
    (here : pair.streamId = streamId) (present : HasComponent a streamId pair.componentId)
    (near : Owns a streamId pair.componentId true pair.localCand)
    (far : OwnsFar stray a streamId pair.componentId pair.remoteCand) :
    Sound stray { a.onList streamId place with allocated := a.allocated + 1 } := by
  have grow : ∀ {home componentId near ref}, Owns a home componentId near ref →
      Owns { a.onList streamId place with allocated := a.allocated + 1 } home componentId
        near ref := fun owns => owns.grow (Nat.le_succ _) fun _ _ => rfl
  obtain ⟨home, among_streams, home_id, component, inside, component_id⟩ := present.exists
  -- a pair of a stream afterwards is the new one, in its own stream, or was there before
  have origin : ∀ after ∈ (a.onList streamId place).streams, ∃ before ∈ a.streams,
      after.id = before.id ∧ after.components = before.components ∧
      ∀ other ∈ after.conncheckList,
        other = pair ∧ before.id = streamId ∨ other ∈ before.conncheckList :=
    onStream_origin
      (fun _ _ same => ⟨rfl, rfl, fun _ among => (members _ _ among).imp (⟨·, same⟩) id⟩)
      fun _ _ => ⟨rfl, rfl, fun _ among => .inr among⟩
  have named_before : ∀ stream ∈ a.streams, ∀ other ∈ stream.conncheckList,
      other.ref ≠ pair.ref := by
    intro stream member other among
    rw [named]
    exact Nat.ne_of_lt (sound.pairs stream member other among).1
  constructor
  · refine sound.toOwned.within ?_ (Nat.le_refl _) sound.ranked (Nat.le_succ _) grow ?_
    · exact (congrArg List.Nodup (ids_onList _)).mpr sound.ids
    intro after member
    obtain ⟨before, was, id, components, pairs⟩ := origin after member
    refine ⟨before, was, Stream.Within.of_pairs id components ?_⟩
    intro other among
    rcases pairs other among with ⟨rfl, same⟩ | old
    · right
      have one := sound.stream_eq was among_streams (same.trans home_id.symm)
      rw [CandidateCheckPair.Belongs, named, here, id, components, same, one]
      exact ⟨Nat.lt_succ_self _, rfl, ⟨component, inside, component_id⟩, grow near, far.imp grow⟩
    · exact .inl ⟨other, old, rfl, rfl, rfl, rfl, rfl⟩
  · intro after member later present_later one among twin inside_later same
    obtain ⟨before, was, _, _, pairs⟩ := origin after member
    obtain ⟨before_later, was_later, _, _, pairs_later⟩ := origin later present_later
    rcases pairs one among with ⟨rfl, _⟩ | old
    · rcases pairs_later twin inside_later with ⟨rfl, _⟩ | old_later
      · rfl
      · exact absurd same.symm (named_before _ was_later _ old_later)
    · rcases pairs_later twin inside_later with ⟨rfl, _⟩ | old_later
      · exact absurd same (named_before _ was _ old)
      · exact sound.unique before was before_later was_later one old twin old_later same
  · intro after member other among waits
    obtain ⟨before, was, _, _, pairs⟩ := origin after member
    rcases pairs other among with ⟨rfl, _⟩ | old
    · rw [silent] at waits
      exact absurd waits (by simp)
    · exact sound.waiting before was other old waits

/-- Check lists that shrink keep an agent sound. -/
theorem Sound.onList (change : List CandidateCheckPair → List CandidateCheckPair)
    (subset : ∀ list, change list ⊆ list) : Sound stray (a.onList streamId change) := by
  refine sound.within rfl rfl rfl rfl ?_ (onStream_origin ?_ ?_)
  · rw [ids_onList]
  · intro stream _ _
    refine ⟨Stream.Within.of_pairs rfl rfl fun pair among => ?_, subset _⟩
    exact .inl ⟨pair, subset _ among, rfl, rfl, rfl, rfl, rfl⟩
  · exact fun _ _ => ⟨Stream.Within.of_core rfl, List.Subset.refl _⟩

end

/-- The limit drops pairs. -/
theorem limit_subset (limit : UInt32) (list : List CandidateCheckPair) :
    privLimitConnCheckListSize list limit ⊆ list := by
  unfold privLimitConnCheckListSize
  dsimp only
  split
  · split
    · exact nil_subset _
    · exact take_subset _ _
  · exact List.Subset.refl _

/-- So it keeps an agent sound. -/
theorem Sound.limit (sound : Sound stray a) : Sound stray (limitCheckList a streamId) := by
  apply limit_rule sound
  exact sound.onList _ (limit_subset _)

/-- The check lists after one of them was limited. -/
theorem limit_origin : ∀ after ∈ (limitCheckList a streamId).streams, ∃ before ∈ a.streams,
    after.conncheckList ⊆ before.conncheckList :=
  limit_rule (P := fun later => ∀ after ∈ later.streams, ∃ before ∈ a.streams,
      after.conncheckList ⊆ before.conncheckList)
    (fun after member => ⟨after, member, List.Subset.refl _⟩)
    (onStream_origin (fun _ _ _ => limit_subset _ _) fun _ _ => List.Subset.refl _)

/-- A new candidate takes nothing from a component. -/
theorem Owns.newCandidate
    (owns : Owns a streamId componentId near ref) :
    Owns (a.newCandidate candidate).2 streamId componentId near ref := by
  apply owns.grow (Nat.le_succ _)
  intro other below
  exact if_neg (Nat.ne_of_lt below)

/-- So it keeps an agent sound. -/
theorem Sound.newCandidate (sound : Sound stray a)
    (ranked : Ranked a.compatibility candidate) : Sound stray (a.newCandidate candidate).2 := by
  apply sound.of_subset
  · apply sound.toOwned.of_streams
    · rfl
    · rfl
    · intro ref
      dsimp only [XiceAgent.newCandidate]
      split
      · exact ranked
      · exact sound.ranked ref
    · exact Nat.le_succ _
    · intro _ _ _ _ owns
      exact owns.newCandidate
  · exact fun after member => ⟨after, member, List.Subset.refl _⟩

/-- A remote candidate is changed in place. -/
theorem Owns.onCandidate {other : CandidateRef} {change : XiceCandidate → XiceCandidate}
    (owns : Owns a streamId componentId near other) (remote : (a.candidates ref).sockptr = none)
    (kept : (change (a.candidates ref)).streamId = (a.candidates ref).streamId ∧
      (change (a.candidates ref)).componentId = (a.candidates ref).componentId ∧
      (change (a.candidates ref)).sockptr = none) :
    Owns (a.onCandidate ref change) streamId componentId near other := by
  by_cases same : other = ref
  · subst same
    have changed : (a.onCandidate other change).candidates other = change (a.candidates other) :=
      if_pos rfl
    constructor
    · exact owns.allocated
    · rw [changed, kept.1]
      exact owns.stream
    · rw [changed, kept.2.1]
      exact owns.component
    · rw [changed, kept.2.2, ← owns.side, remote]
  · exact owns.of_same (Nat.le_refl _) (if_neg same)

/-- So it keeps an agent sound. -/
theorem Sound.onCandidate (sound : Sound stray a) {ref : CandidateRef}
    {change : XiceCandidate → XiceCandidate} (remote : (a.candidates ref).sockptr = none)
    (kept : (change (a.candidates ref)).streamId = (a.candidates ref).streamId ∧
      (change (a.candidates ref)).componentId = (a.candidates ref).componentId ∧
      (change (a.candidates ref)).sockptr = none) : Sound stray (a.onCandidate ref change) := by
  apply sound.of_subset
  · apply sound.toOwned.of_streams
    · rfl
    · rfl
    · intro other
      dsimp only [XiceAgent.onCandidate]
      split
      · intro socket
        rw [kept.2.2] at socket
        exact absurd socket (by simp)
      · exact sound.ranked other
    · exact Nat.le_refl _
    · intro _ _ _ _ owns
      exact owns.onCandidate remote kept
  · exact fun after member => ⟨after, member, List.Subset.refl _⟩

/-- So does a change of candidates to such as belong to the component. -/
theorem Sound.changeCandidates (sound : Sound stray a) (streamId componentId : Nat)
    (change : Component → Component) (kept : ∀ component, (change component).id = component.id)
    (locals : ∀ stream ∈ a.streams, ∀ component ∈ stream.components, stream.id = streamId →
      component.id = componentId → (change component).localCandidates.Nodup ∧
        ∀ ref ∈ (change component).localCandidates, Owns a streamId componentId true ref)
    (remotes : ∀ stream ∈ a.streams, ∀ component ∈ stream.components, stream.id = streamId →
      component.id = componentId → (change component).remoteCandidates.Nodup ∧
        ∀ ref ∈ (change component).remoteCandidates, Owns a streamId componentId false ref) :
    Sound stray (a.onComponent streamId componentId change) := by
  have grow : ∀ {home own near ref}, Owns a home own near ref →
      Owns (a.onComponent streamId componentId change) home own near ref := fun owns =>
    owns.grow (Nat.le_refl _) fun _ _ => rfl
  have ids : (a.onComponent streamId componentId change).streams.map Stream.id =
      a.streams.map Stream.id := ids_onStream fun _ => rfl
  refine sound.within rfl rfl rfl rfl ?_ (onStream_origin ?_ ?_)
  · rw [ids]
  · intro stream member here
    refine ⟨⟨rfl, ?_, ?_, ?_⟩, List.Subset.refl _⟩
    · exact fun pair among => .inl ⟨pair, among, rfl, rfl, rfl, rfl, rfl⟩
    · intro component among
      refine ⟨_, mem_map_of_mem among, ?_⟩
      split
      · exact kept component
      · rfl
    -- a component afterwards is the changed one or was there before
    · intro component among
      obtain ⟨earlier, inside, rfl⟩ := mem_map.mp among
      by_cases own : earlier.id = componentId
      · obtain ⟨nodup, near⟩ := locals stream member earlier inside here own
        obtain ⟨nodup_far, far⟩ := remotes stream member earlier inside here own
        rw [if_pos own]
        right
        constructor
        · rw [kept, here, own]
          exact ⟨nodup, fun ref there => grow (near ref there)⟩
        · rw [kept, here, own]
          exact ⟨nodup_far, fun ref there => grow (far ref there)⟩
      · rw [if_neg own]
        exact .inl ⟨earlier, inside, rfl, List.Sublist.refl _, List.Sublist.refl _⟩
  · exact fun _ _ => ⟨Stream.Within.of_core rfl, List.Subset.refl _⟩

/-- One more candidate of a component. -/
theorem nodup_owned_append {list : List CandidateRef} {ref : CandidateRef}
    (owned : list.Nodup ∧ ∀ ref ∈ list, Owns a streamId componentId near ref)
    (owns : Owns a streamId componentId near ref) (fresh : ref ∉ list) :
    (list ++ [ref]).Nodup ∧ ∀ other ∈ list ++ [ref], Owns a streamId componentId near other := by
  constructor
  · apply owned.1.append (nodup_singleton ref)
    exact disjoint_singleton.mpr fresh
  · intro other member
    rcases mem_append.mp member with old | new
    · exact owned.2 other old
    · rwa [mem_singleton.mp new]

/-- A change of the role keeps an agent sound. -/
theorem Sound.role (sound : Sound stray a) (control : Bool) :
    Sound stray (privCheckForRoleConflict a control) := by
  unfold privCheckForRoleConflict
  split
  · let rank (pair : CandidateCheckPair) : CandidateCheckPair :=
      { pair with
        priority := { a with controllingMode := control }.candidatePairPriority pair.localCand
          pair.remoteCand }
    have lists : ∀ after ∈ (privRecalculatePairPriorities ({ a with controllingMode := control }.note
        (.roleChanged control))).streams, ∃ before ∈ a.streams, after =
          { before with conncheckList := before.conncheckList.map rank } := by
      intro after member
      obtain ⟨before, was, same⟩ := mem_map.mp member
      exact ⟨before, was, same.symm⟩
    apply sound.of_lists _ (fun _ => rank)
    · intro after member
      obtain ⟨before, was, rfl⟩ := lists after member
      apply Exists.intro before
      apply And.intro was
      intro pair among
      obtain ⟨earlier, inside, rfl⟩ := mem_map.mp among
      exact ⟨earlier, inside, rfl⟩
    · intro _ _ _ _
      rfl
    · exact sound.waiting
    · apply sound.toOwned.within
      · have ids : (privRecalculatePairPriorities ({ a with controllingMode := control }.note
            (.roleChanged control))).streams.map Stream.id = a.streams.map Stream.id := by
          unfold privRecalculatePairPriorities
          rw [map_map]
          rfl
        rw [ids]
        exact sound.ids
      · exact Nat.le_refl _
      · exact sound.ranked
      · exact Nat.le_refl _
      · intro _ _ _ _ owns
        exact owns.grow (Nat.le_refl _) fun _ _ => rfl
      · intro after member
        obtain ⟨before, was, rfl⟩ := lists after member
        refine ⟨before, was, Stream.Within.of_pairs rfl rfl ?_⟩
        intro pair among
        obtain ⟨earlier, inside, rfl⟩ := mem_map.mp among
        exact .inl ⟨earlier, inside, rfl, rfl, rfl, rfl, rfl⟩
  · exact sound

/-- So does every step. -/
theorem Step.sound (step : Step rules a b) (sound : Sound rules.stray a) : Sound rules.stray b := by
  cases step with
  | turn turn => exact turn.sound sound
  | pair useCandidate forms present nearOwned farOwned fresh =>
    rw [insertNewPair_eq sound]
    apply sound.form
    · intro list other member
      exact mem_placed.mp member
    · rfl
    · rfl
    · rfl
    · exact present
    · exact nearOwned
    · exact farOwned
  | discovered again present nearOwned farOwned =>
    rw [addPeerReflexivePair_eq]
    apply sound.form
    · intro list other member
      exact mem_appended member
    · rfl
    · rfl
    · rfl
    · exact present
    · exact nearOwned
    · exact farOwned
  | limit streamId => exact sound.limit
  | foundation | timers => exact sound.of_streams rfl rfl
  | candidate ranked => exact sound.newCandidate ranked
  | update remote kept => exact sound.onCandidate remote kept
  | addLocal owned fresh =>
    apply sound.changeCandidates
    · intro _
      rfl
    · intro stream member component among here own
      have before := sound.locals stream member component among
      rw [here, own] at before
      exact nodup_owned_append before owned (fresh stream member component among)
    · intro stream member component among here own
      rw [← here, ← own]
      exact sound.remotes stream member component among
  | addRemote owned fresh =>
    apply sound.changeCandidates
    · intro _
      rfl
    · intro stream member component among here own
      rw [← here, ← own]
      exact sound.locals stream member component among
    · intro stream member component among here own
      have before := sound.remotes stream member component among
      rw [here, own] at before
      exact nodup_owned_append before owned (fresh stream member component among)
  | role allowed => exact sound.role _

/-! ## What a step keeps -/

/-- The components stay, and so does what belongs to them. -/
structure Extends (a b : XiceAgent) : Prop where
  skeleton : b.skeleton = a.skeleton
  owns : ∀ {streamId componentId : Nat} {near : Bool} {ref : CandidateRef},
    Owns a streamId componentId near ref → Owns b streamId componentId near ref

/-- The core is the same. -/
theorem Extends.of_core (same : b.core = a.core) : Extends a b :=
  ⟨skeleton_of_core same, Owns.of_core same⟩

/-- There may be more candidates. -/
theorem Extends.of_grow (skeleton : b.skeleton = a.skeleton) (allocated : a.allocated ≤ b.allocated)
    (same : ∀ ref, ref < a.allocated → b.candidates ref = a.candidates ref) : Extends a b :=
  ⟨skeleton, fun owns => owns.grow allocated same⟩

/-- Nothing is made. -/
theorem Extends.of_still (skeleton : b.skeleton = a.skeleton) (allocated : b.allocated = a.allocated)
    (candidates : b.candidates = a.candidates) : Extends a b :=
  .of_grow skeleton (Nat.le_of_eq allocated.symm) fun ref _ => congrFun candidates ref

/-- One change after the other. -/
theorem Extends.trans {c : XiceAgent} (first : Extends a b) (second : Extends b c) : Extends a c :=
  ⟨second.skeleton.trans first.skeleton, fun owns => second.owns (first.owns owns)⟩

/-- A changed pair leaves the skeleton. -/
theorem skeleton_onPair (change : CandidateCheckPair → CandidateCheckPair) :
    (a.onPair ref change).skeleton = a.skeleton := by
  unfold XiceAgent.skeleton XiceAgent.onPair
  rw [map_map]
  rfl

/-- A step keeps the components and what belongs to them. -/
theorem Step.extends (step : Step rules a b) : Extends a b := by
  cases step with
  | turn turn => exact .of_core turn.core
  | pair useCandidate forms present nearOwned farOwned fresh =>
    exact .of_grow ((skeleton_onPair _).trans (skeleton_onList _)) (Nat.le_succ _) fun _ _ => rfl
  | discovered again present nearOwned farOwned =>
    exact .of_grow (skeleton_onList _) (Nat.le_succ _) fun _ _ => rfl
  | limit streamId =>
    exact limit_rule (.of_still rfl rfl rfl) (.of_still (skeleton_onList _) rfl rfl)
  | candidate ranked =>
    exact .of_grow rfl (Nat.le_succ _) fun _ below => if_neg (Nat.ne_of_lt below)
  | update remote kept => exact ⟨rfl, fun owns => owns.onCandidate remote kept⟩
  | addLocal | addRemote => exact .of_still (skeleton_onComponent fun _ => rfl) rfl rfl
  | foundation | timers => exact .of_still rfl rfl rfl
  | role allowed =>
    unfold privCheckForRoleConflict
    split
    · refine .of_still ?_ rfl rfl
      unfold privRecalculatePairPriorities XiceAgent.skeleton
      rw [map_map]
      rfl
    · exact .of_still rfl rfl rfl

/-- Pairs keep their place and their candidates. -/
structure Retains (a b : XiceAgent) : Prop where
  allocated : a.allocated ≤ b.allocated
  pairs : ∀ after ∈ b.streams, ∀ pair ∈ after.conncheckList, pair.ref < a.allocated →
    ∃ before ∈ a.streams, ∃ earlier ∈ before.conncheckList, pair.Alike earlier

/-- A change that keeps the core retains the pairs. -/
theorem Retains.of_core (same : b.core = a.core) : Retains a b := by
  obtain ⟨_, _, _, _, _, streams, _, _, allocated⟩ := XiceAgent.core_eq same
  constructor
  · exact Nat.le_of_eq allocated.symm
  · intro after member pair among _
    obtain ⟨before, present, cores⟩ := exists_of_map_eq streams member
    exact ⟨before, present, Stream.exists_alike cores among⟩

/-- Check lists shrink. -/
theorem Retains.of_subset (allocated : a.allocated ≤ b.allocated)
    (lists : ∀ after ∈ b.streams, ∃ before ∈ a.streams, after.conncheckList ⊆ before.conncheckList) :
    Retains a b := by
  apply Retains.mk allocated
  intro after member pair among _
  obtain ⟨before, present, subset⟩ := lists after member
  exact ⟨before, present, pair, subset among, rfl, rfl, rfl, rfl, rfl⟩

/-- A new pair has a new name. -/
theorem Retains.form {place : List CandidateCheckPair → List CandidateCheckPair}
    (members : ∀ list other, other ∈ place list → other = pair ∨ other ∈ list)
    (named : pair.ref = a.allocated) :
    Retains a { a.onList streamId place with allocated := a.allocated + 1 } := by
  have origin : ∀ after ∈ (a.onList streamId place).streams, ∃ before ∈ a.streams,
      ∀ other ∈ after.conncheckList, other.ref < a.allocated → other ∈ before.conncheckList := by
    apply onStream_origin
    · intro stream _ _ other among below
      rcases members _ _ among with rfl | old
      · rw [named] at below
        exact absurd below (Nat.lt_irrefl _)
      · exact old
    · exact fun _ _ other among _ => among
  refine ⟨Nat.le_succ _, fun after member other among below => ?_⟩
  obtain ⟨before, was, pairs⟩ := origin after member
  exact ⟨before, was, other, pairs other among below, rfl, rfl, rfl, rfl, rfl⟩

/-- Components do not matter. -/
theorem Retains.onComponent (change : Component → Component) :
    Retains a (a.onComponent streamId componentId change) :=
  .of_subset (Nat.le_refl _)
    (onStream_origin (fun _ _ _ => List.Subset.refl _) fun _ _ => List.Subset.refl _)

/-- Every step retains pairs. -/
theorem Step.retains (step : Step rules a b) (sound : Sound rules.stray a) : Retains a b := by
  have same : ∀ {b : XiceAgent}, b.streams = a.streams → a.allocated ≤ b.allocated → Retains a b := by
    intro b streams allocated
    apply Retains.of_subset allocated
    intro after member
    rw [streams] at member
    exact ⟨after, member, List.Subset.refl _⟩
  cases step with
  | turn turn => exact Retains.of_core turn.core
  | pair useCandidate forms present nearOwned farOwned fresh =>
    rw [insertNewPair_eq sound]
    apply Retains.form
    · intro list other member
      exact mem_placed.mp member
    · rfl
  | discovered again present nearOwned farOwned =>
    rw [addPeerReflexivePair_eq]
    apply Retains.form
    · intro list other member
      exact mem_appended member
    · rfl
  | limit streamId =>
    apply Retains.of_subset _ limit_origin
    exact limit_rule (P := fun after => a.allocated ≤ after.allocated) le_rfl le_rfl
  | update | foundation | timers => exact same rfl (Nat.le_refl _)
  | candidate ranked => exact same rfl (Nat.le_succ _)
  | addLocal | addRemote => exact Retains.onComponent _
  | role allowed =>
    unfold privCheckForRoleConflict
    split
    · constructor
      · exact Nat.le_refl _
      intro after member pair among _
      obtain ⟨before, present, rfl⟩ := mem_map.mp member
      obtain ⟨earlier, inside, rfl⟩ := mem_map.mp among
      exact ⟨before, present, earlier, inside, rfl, rfl, rfl, rfl, rfl⟩
    · exact same rfl (Nat.le_refl _)

variable (steps : Steps rules a b)

include steps

/-- Steps keep an agent sound. -/
theorem Steps.sound (sound : Sound rules.stray a) : Sound rules.stray b := by
  induction steps with
  | refl => exact sound
  | tail _ step ih => exact step.sound ih

/-- Steps extend an agent. -/
theorem Steps.extends : Extends a b := by
  induction steps with
  | refl => exact .of_still rfl rfl rfl
  | tail _ step ih => exact ih.trans step.extends

/-- Steps leave the skeleton. -/
theorem Steps.skeleton : b.skeleton = a.skeleton :=
  steps.extends.skeleton

/-- Components stay. -/
theorem Steps.hasComponent (present : HasComponent a streamId componentId) :
    HasComponent b streamId componentId := by
  unfold HasComponent
  rwa [steps.skeleton]

/-- Candidates stay with their component. -/
theorem Steps.owns {ref : CandidateRef}
    (owns : Owns a streamId componentId near ref) : Owns b streamId componentId near ref :=
  steps.extends.owns owns

/-- Steps retain pairs. -/
theorem Steps.retains (sound : Sound rules.stray a) : Retains a b := by
  induction steps with
  | refl => exact Retains.of_core rfl
  | tail before step ih =>
    have last := step.retains (Steps.sound before sound)
    apply Retains.mk (Nat.le_trans ih.allocated last.allocated)
    intro after member pair among below
    obtain ⟨middle, present, between, inside, alike⟩ := last.pairs after member pair among
      (Nat.lt_of_lt_of_le below ih.allocated)
    rw [alike.1] at below
    obtain ⟨first, was, earlier, there, like⟩ := ih.pairs middle present between inside below
    exact ⟨first, was, earlier, there, alike.1.trans like.1, alike.2.1.trans like.2.1,
      alike.2.2.1.trans like.2.2.1, alike.2.2.2.1.trans like.2.2.2.1,
      alike.2.2.2.2.trans like.2.2.2.2⟩

/-- A name names alike pairs later. -/
theorem Steps.alike (sound : Sound rules.stray a)
    {later : CandidateCheckPair} (member : stream ∈ a.streams)
    (inside : pair ∈ stream.conncheckList) (found : b.findPair pair.ref = some later) :
    later.Alike pair := by
  obtain ⟨named, there, present, among⟩ := exists_of_findPair found
  have below := (sound.pairs stream member pair inside).1
  rw [← named] at below
  obtain ⟨before, was, earlier, old, alike⟩ := (steps.retains sound).pairs there present later among
    below
  have one := sound.unique before was stream member earlier old pair inside
    (alike.1.symm.trans named)
  rwa [← one]

end Xice.Ice
