import Xice.Ice.Turns

/-!
# Sound agents

Candidates and pairs belong to one component of one stream, a name names one pair, and a check that
waits for an answer belongs to a pair that is in progress.
-/

namespace Xice.Ice

open XiceAgent List

/-! ## Agents that are sound -/

/-- A candidate belongs to a component, on the near or on the far side. Local candidates have a
socket. -/
structure Owns (agent : XiceAgent) (streamId componentId : Nat) (near : Bool) (ref : CandidateRef) :
    Prop where
  allocated : ref < agent.allocated
  stream : (agent.candidates ref).streamId = streamId
  component : (agent.candidates ref).componentId = componentId
  side : (agent.candidates ref).sockptr.isSome = near

/-- A local candidate has the priority that its type gives it. -/
def Ranked (compatibility : XiceCompatibility) (candidate : XiceCandidate) : Prop :=
  candidate.sockptr.isSome = true →
    ∃ type preference, preference ≤ 1 ∧ candidate.priority =
      newPriority compatibility type preference candidate.componentId

/-- A remote candidate belongs to a component, or to another one of its stream when an answer may
come to another component than its check was sent from. -/
def OwnsFar (stray : Prop) (agent : XiceAgent) (streamId componentId : Nat) (ref : CandidateRef) :
    Prop :=
  ∃ owner, (stray ∨ owner = componentId) ∧ Owns agent streamId owner false ref

/-- Candidates and pairs belong to the component that has them. -/
structure Owned (stray : Prop) (agent : XiceAgent) : Prop where
  ids : (agent.streams.map Stream.id).Nodup
  below : ∀ stream ∈ agent.streams, stream.id < agent.nextStreamId
  ranked : ∀ ref, Ranked agent.compatibility (agent.candidates ref)
  pairs : ∀ stream ∈ agent.streams, ∀ pair ∈ stream.conncheckList,
    pair.ref < agent.allocated ∧ pair.streamId = stream.id ∧
      (∃ component ∈ stream.components, component.id = pair.componentId) ∧
      Owns agent stream.id pair.componentId true pair.localCand ∧
      OwnsFar stray agent stream.id pair.componentId pair.remoteCand
  locals : ∀ stream ∈ agent.streams, ∀ component ∈ stream.components,
    component.localCandidates.Nodup ∧
      ∀ ref ∈ component.localCandidates, Owns agent stream.id component.id true ref
  remotes : ∀ stream ∈ agent.streams, ∀ component ∈ stream.components,
    component.remoteCandidates.Nodup ∧
      ∀ ref ∈ component.remoteCandidates, Owns agent stream.id component.id false ref

/-- What holds of an agent at every moment. -/
structure Sound (stray : Prop) (agent : XiceAgent) : Prop extends Owned stray agent where
  unique : ∀ stream ∈ agent.streams, ∀ other ∈ agent.streams, ∀ pair ∈ stream.conncheckList,
    ∀ twin ∈ other.conncheckList, pair.ref = twin.ref → pair = twin
  waiting : ∀ stream ∈ agent.streams, ∀ pair ∈ stream.conncheckList,
    pair.message.isSome = true → pair.state = .inProgress

variable {stray : Prop} {agent a b : XiceAgent} {streamId componentId : Nat} {ref : PairRef}

/-! ## Agents with the same core -/

variable {before after stream : Stream} {pair : CandidateCheckPair}

/-- Members of lists that agree under a function. -/
theorem exists_of_map_eq {α β : Type} {f : α → β} {after before : List α}
    (same : after.map f = before.map f) {x : α} (member : x ∈ after) : ∃ y ∈ before, f y = f x := by
  have mapped : f x ∈ before.map f := by
    rw [← same]
    exact mem_map_of_mem member
  exact mem_map.mp mapped

/-- A candidate that stays belongs to the same component. -/
theorem Owns.of_same {near : Bool} (owns : Owns a streamId componentId near ref)
    (allocated : a.allocated ≤ b.allocated) (same : b.candidates ref = a.candidates ref) :
    Owns b streamId componentId near ref := by
  constructor
  · exact Nat.lt_of_lt_of_le owns.allocated allocated
  · rw [same]
    exact owns.stream
  · rw [same]
    exact owns.component
  · rw [same]
    exact owns.side

/-- The core decides. -/
theorem Owns.of_core {near : Bool} (same : b.core = a.core)
    (owns : Owns a streamId componentId near ref) : Owns b streamId componentId near ref := by
  obtain ⟨_, _, _, _, _, _, _, candidates, allocated⟩ := XiceAgent.core_eq same
  exact owns.of_same (Nat.le_of_eq allocated.symm) (congrFun candidates ref)

/-- A candidate of the component is one. -/
theorem Owns.far (owns : Owns a streamId componentId false ref) :
    OwnsFar stray a streamId componentId ref := ⟨componentId, .inr rfl, owns⟩

/-- What stays with one component stays with all. -/
theorem OwnsFar.imp (owns : OwnsFar stray a streamId componentId ref)
    (kept : ∀ {owner}, Owns a streamId owner false ref → Owns b streamId owner false ref) :
    OwnsFar stray b streamId componentId ref := by
  obtain ⟨owner, whose, own⟩ := owns
  exact ⟨owner, whose, kept own⟩

/-! ## Streams with fewer pairs and candidates -/

/-- Two pairs have the same name, place and candidates. -/
def CandidateCheckPair.Alike (pair other : CandidateCheckPair) : Prop :=
  pair.ref = other.ref ∧ pair.streamId = other.streamId ∧ pair.componentId = other.componentId ∧
    pair.localCand = other.localCand ∧ pair.remoteCand = other.remoteCand

/-- A pair belongs to a component of a stream. -/
abbrev CandidateCheckPair.Belongs (pair : CandidateCheckPair) (stray : Prop) (agent : XiceAgent)
    (stream : Stream) : Prop :=
  pair.ref < agent.allocated ∧ pair.streamId = stream.id ∧
    (∃ component ∈ stream.components, component.id = pair.componentId) ∧
    Owns agent stream.id pair.componentId true pair.localCand ∧
    OwnsFar stray agent stream.id pair.componentId pair.remoteCand

/-- The candidates of a component are its own, each once. -/
structure Component.Filled (component : Component) (agent : XiceAgent) (streamId : Nat) : Prop where
  locals : component.localCandidates.Nodup ∧
    ∀ ref ∈ component.localCandidates, Owns agent streamId component.id true ref
  remotes : component.remoteCandidates.Nodup ∧
    ∀ ref ∈ component.remoteCandidates, Owns agent streamId component.id false ref

/-- A stream has no new pairs or candidates but such as belong to it. -/
structure Stream.Within (stray : Prop) (agent : XiceAgent) (before after : Stream) : Prop where
  id : after.id = before.id
  pairs : ∀ pair ∈ after.conncheckList,
    (∃ earlier ∈ before.conncheckList, pair.Alike earlier) ∨ pair.Belongs stray agent after
  components : ∀ component ∈ before.components, ∃ later ∈ after.components, later.id = component.id
  candidates : ∀ component ∈ after.components,
    (∃ earlier ∈ before.components,
      component.id = earlier.id ∧ component.localCandidates.Sublist earlier.localCandidates ∧
        component.remoteCandidates.Sublist earlier.remoteCandidates) ∨
      component.Filled agent after.id

/-- Pairs with the same core. -/
theorem Stream.exists_alike (same : before.core = after.core) (among : pair ∈ after.conncheckList) :
    ∃ earlier ∈ before.conncheckList, pair.Alike earlier := by
  obtain ⟨_, _, _, pairs⟩ := Stream.core_eq same
  obtain ⟨earlier, inside, cored⟩ := exists_of_map_eq pairs.symm among
  obtain ⟨ref, stream_id, component_id, local_cand, remote_cand, _⟩ :=
    CandidateCheckPair.core_eq cored
  exact ⟨earlier, inside, ref.symm, stream_id.symm, component_id.symm, local_cand.symm,
    remote_cand.symm⟩

/-- The core did not change. -/
theorem Stream.Within.of_core (same : before.core = after.core) :
    Stream.Within stray b before after := by
  obtain ⟨id, _, components, _⟩ := Stream.core_eq same
  constructor
  · exact id.symm
  · exact fun pair among => .inl (Stream.exists_alike same among)
  · intro component among
    obtain ⟨later, inside, cored⟩ := exists_of_map_eq components among
    exact ⟨later, inside, (Component.core_eq cored).1⟩
  · intro component among
    obtain ⟨earlier, inside, cored⟩ := exists_of_map_eq components.symm among
    obtain ⟨component_id, locals, remotes, _⟩ := Component.core_eq cored
    rw [← component_id, ← locals, ← remotes]
    exact .inl ⟨earlier, inside, rfl, List.Sublist.refl _, List.Sublist.refl _⟩

/-- The pairs belong to it. -/
theorem Stream.Within.of_pairs (id : after.id = before.id)
    (components : after.components = before.components) (pairs : ∀ pair ∈ after.conncheckList,
      (∃ earlier ∈ before.conncheckList, pair.Alike earlier) ∨ pair.Belongs stray b after) :
    Stream.Within stray b before after := by
  constructor
  · exact id
  · exact pairs
  · intro component among
    rw [components]
    exact ⟨component, among, rfl⟩
  · intro component among
    rw [components] at among
    exact .inl ⟨component, among, rfl, List.Sublist.refl _, List.Sublist.refl _⟩

/-- What is owned stays so. -/
theorem Owned.within (owned : Owned stray a) (ids : (b.streams.map Stream.id).Nodup)
    (next : a.nextStreamId ≤ b.nextStreamId)
    (ranked : ∀ ref, Ranked b.compatibility (b.candidates ref)) (allocated : a.allocated ≤ b.allocated)
    (owns : ∀ {streamId componentId near ref}, Owns a streamId componentId near ref →
      Owns b streamId componentId near ref)
    (streams : ∀ after ∈ b.streams, ∃ before ∈ a.streams, Stream.Within stray b before after) :
    Owned stray b := by
  have filled : ∀ stream ∈ b.streams, ∀ component ∈ stream.components,
      component.Filled b stream.id := by
    intro stream member component among
    obtain ⟨before, present, within⟩ := streams stream member
    rcases within.candidates component among with ⟨earlier, inside, id, locals, remotes⟩ | new
    · obtain ⟨nodup, near⟩ := owned.locals before present earlier inside
      obtain ⟨nodup_far, far⟩ := owned.remotes before present earlier inside
      rw [within.id]
      constructor
      · rw [id]
        exact ⟨nodup.sublist locals, fun ref there => owns (near ref (locals.subset there))⟩
      · rw [id]
        exact ⟨nodup_far.sublist remotes, fun ref there => owns (far ref (remotes.subset there))⟩
    · exact new
  constructor
  · exact ids
  · intro stream member
    obtain ⟨before, present, within⟩ := streams stream member
    rw [within.id]
    exact Nat.lt_of_lt_of_le (owned.below before present) next
  · exact ranked
  · intro stream member pair among
    obtain ⟨before, present, within⟩ := streams stream member
    rcases within.pairs pair among with
      ⟨earlier, inside, ref, stream_id, component_id, local_cand, remote_cand⟩ | new
    · obtain ⟨named, here, ⟨component, there, owner⟩, near, far⟩ := owned.pairs before present
        earlier inside
      obtain ⟨later, exists_later, kept⟩ := within.components component there
      rw [ref, stream_id, component_id, local_cand, remote_cand, within.id]
      exact ⟨Nat.lt_of_lt_of_le named allocated, here, ⟨later, exists_later, kept.trans owner⟩,
        owns near, far.imp owns⟩
    · exact new
  · exact fun stream member component among => (filled stream member component among).locals
  · exact fun stream member component among => (filled stream member component among).remotes

/-- The streams stay. -/
theorem Owned.of_streams (owned : Owned stray a) (streams : b.streams = a.streams)
    (next : b.nextStreamId = a.nextStreamId)
    (ranked : ∀ ref, Ranked b.compatibility (b.candidates ref)) (allocated : a.allocated ≤ b.allocated)
    (owns : ∀ {streamId componentId near ref}, Owns a streamId componentId near ref →
      Owns b streamId componentId near ref) : Owned stray b := by
  apply owned.within
  · rw [streams]
    exact owned.ids
  · exact Nat.le_of_eq next.symm
  · exact ranked
  · exact allocated
  · exact owns
  · intro after member
    rw [streams] at member
    exact ⟨after, member, Stream.Within.of_core rfl⟩

/-- A change that keeps the core keeps what is owned. -/
theorem Owned.of_core (owned : Owned stray a) (same : b.core = a.core) : Owned stray b := by
  obtain ⟨compatibility, _, _, _, _, streams, next, candidates, allocated⟩ := XiceAgent.core_eq same
  apply owned.within
  · have ids := congrArg (List.map Stream.id) streams
    rw [map_map, map_map] at ids
    exact (congrArg List.Nodup ids).mpr owned.ids
  · exact Nat.le_of_eq next.symm
  · intro ref
    rw [compatibility, candidates]
    exact owned.ranked ref
  · exact Nat.le_of_eq allocated.symm
  · exact Owns.of_core same
  · intro after member
    obtain ⟨before, present, cores⟩ := exists_of_map_eq streams member
    exact ⟨before, present, Stream.Within.of_core cores⟩

/-- Every pair is made of one that was there. -/
theorem Sound.of_lists (sound : Sound stray a) (owned : Owned stray b)
    (change : Nat → CandidateCheckPair → CandidateCheckPair)
    (lists : ∀ after ∈ b.streams, ∃ before ∈ a.streams, ∀ pair ∈ after.conncheckList,
      ∃ earlier ∈ before.conncheckList, pair = change before.id earlier)
    (ref : ∀ stream ∈ a.streams, ∀ pair ∈ stream.conncheckList,
      (change stream.id pair).ref = pair.ref)
    (waiting : ∀ stream ∈ a.streams, ∀ pair ∈ stream.conncheckList,
      (change stream.id pair).message.isSome = true →
        (change stream.id pair).state = .inProgress) : Sound stray b := by
  constructor
  · exact owned
  · intro stream member other present pair among twin inside same
    obtain ⟨before, old, made⟩ := lists stream member
    obtain ⟨before_other, old_other, made_other⟩ := lists other present
    obtain ⟨earlier, was, rfl⟩ := made pair among
    obtain ⟨earlier_twin, was_twin, rfl⟩ := made_other twin inside
    rw [ref before old earlier was, ref before_other old_other earlier_twin was_twin] at same
    have one := sound.unique before old before_other old_other earlier was earlier_twin was_twin same
    -- the pair tells the stream that it is in
    have here := (sound.pairs before old earlier was).2.1
    have there := (sound.pairs before_other old_other earlier_twin was_twin).2.1
    rw [← here, ← there, one]
  · intro stream member pair among waits
    obtain ⟨before, old, made⟩ := lists stream member
    obtain ⟨earlier, was, rfl⟩ := made pair among
    exact waiting before old earlier was waits

/-- The check lists shrink. -/
theorem Sound.of_subset (sound : Sound stray a) (owned : Owned stray b)
    (lists : ∀ after ∈ b.streams, ∃ before ∈ a.streams, after.conncheckList ⊆ before.conncheckList) :
    Sound stray b := by
  apply sound.of_lists owned fun _ pair => pair
  · intro after member
    obtain ⟨before, present, subset⟩ := lists after member
    exact ⟨before, present, fun pair among => ⟨pair, subset among, rfl⟩⟩
  · intro _ _ _ _
    rfl
  · exact sound.waiting

/-- The candidates stay, and there are no other pairs. -/
theorem Sound.within (sound : Sound stray a) (compatibility : b.compatibility = a.compatibility)
    (next : b.nextStreamId = a.nextStreamId) (candidates : b.candidates = a.candidates)
    (allocated : b.allocated = a.allocated)
    (ids : (b.streams.map Stream.id).Sublist (a.streams.map Stream.id))
    (streams : ∀ after ∈ b.streams, ∃ before ∈ a.streams, Stream.Within stray b before after ∧
      after.conncheckList ⊆ before.conncheckList) : Sound stray b := by
  apply sound.of_subset
  · apply sound.toOwned.within (sound.ids.sublist ids) (Nat.le_of_eq next.symm)
    · intro ref
      rw [compatibility, candidates]
      exact sound.ranked ref
    · exact Nat.le_of_eq allocated.symm
    · exact fun owns => owns.of_same (Nat.le_of_eq allocated.symm) (congrFun candidates _)
    · intro after member
      obtain ⟨before, present, within, _⟩ := streams after member
      exact ⟨before, present, within⟩
  · intro after member
    obtain ⟨before, present, _, subset⟩ := streams after member
    exact ⟨before, present, subset⟩

/-! ## Finding -/

/-- Streams have different ids. -/
theorem Owned.stream_eq (owned : Owned stray agent) {other : Stream}
    (member : stream ∈ agent.streams) (present : other ∈ agent.streams)
    (same : stream.id = other.id) : stream = other :=
  inj_on_of_nodup_map owned.ids member present same

/-- A stream is found by its id. -/
theorem Owned.findStream (owned : Owned stray agent) (member : stream ∈ agent.streams) :
    agent.findStream stream.id = some stream := by
  cases found : agent.findStream stream.id with
  | none =>
    have missed := find?_eq_none.mp found stream member
    simp at missed
  | some other =>
    rw [owned.stream_eq (mem_of_find?_eq_some found) member (id_of_findStream found)]

/-- So is its check list. -/
theorem Owned.checkList (owned : Owned stray agent) (member : stream ∈ agent.streams) :
    agent.checkList stream.id = stream.conncheckList :=
  checkList_of_findStream (owned.findStream member)

/-- A component is found in a stream. -/
theorem exists_of_findComponent {component : Component}
    (found : agent.findComponent streamId componentId = some component) :
    ∃ stream ∈ agent.streams, stream.id = streamId ∧ component ∈ stream.components ∧
      component.id = componentId := by
  obtain ⟨stream, here, inside⟩ := Option.bind_eq_some_iff.mp found
  exact ⟨stream, mem_of_find?_eq_some here, id_of_findStream here,
    mem_of_find?_eq_some inside, by simpa using find?_some inside⟩

/-- A pair is found in a stream. -/
theorem exists_of_findPair (found : agent.findPair ref = some pair) :
    pair.ref = ref ∧ ∃ stream ∈ agent.streams, pair ∈ stream.conncheckList := by
  obtain ⟨stream, member, inside⟩ := exists_of_findSome?_eq_some found
  exact ⟨by simpa using find?_some inside, stream, member, mem_of_find?_eq_some inside⟩

end Xice.Ice
