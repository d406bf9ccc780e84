import Xice.Ice.Agent

/-!
# What is read after a change

The streams, check lists, components and pairs of an agent after each of its elementary changes.
-/

namespace Xice.Ice

open List Option

namespace XiceAgent

variable {agent : XiceAgent} {streamId id componentId other : Nat} {ref : PairRef}

/-! ## Streams -/

/-- The stream is changed where it is found. -/
theorem findStream_onStream (change : Stream → Stream) (kept : ∀ stream, (change stream).id = stream.id) :
    (agent.onStream streamId change).findStream id =
      (agent.findStream id).map fun stream => if id = streamId then change stream else stream := by
  unfold findStream onStream
  dsimp only
  induction agent.streams with
  | nil => rfl
  | cons first rest ih =>
    rw [map_cons, List.find?_cons, List.find?_cons, ih]
    by_cases hit : first.id = id
    · subst hit
      by_cases same : first.id = streamId
      · simp [same, kept]
      · simp [same]
    · have missed : (if first.id = streamId then change first else first).id ≠ id := by
        split
        · rwa [kept]
        · exact hit
      simp [missed, hit]

/-- A stream that is found has the id that was looked for. -/
theorem id_of_findStream {stream : Stream} (found : agent.findStream id = some stream) :
    stream.id = id := by
  simpa using List.find?_some found

/-- The check list of a stream that is found. -/
theorem checkList_of_findStream {stream : Stream} (found : agent.findStream id = some stream) :
    agent.checkList id = stream.conncheckList := by
  rw [checkList, found]
  rfl

/-! ## Check lists -/

/-- The check lists after one of them was changed. -/
theorem checkList_onList (change : List CandidateCheckPair → List CandidateCheckPair) :
    (agent.onList streamId change).checkList id =
      if id = streamId ∧ (agent.findStream id).isSome then change (agent.checkList id)
      else agent.checkList id := by
  have streams : (agent.onList streamId change).findStream id = (agent.findStream id).map
      fun stream => if id = streamId then
        { stream with conncheckList := change stream.conncheckList } else stream :=
    findStream_onStream _ fun _ => rfl
  unfold checkList
  rw [streams]
  cases agent.findStream id with
  | none => simp
  | some stream =>
    by_cases same : id = streamId <;> simp [same]

/-- A change that leaves empty lists empty. -/
theorem checkList_onList_of_nil {change : List CandidateCheckPair → List CandidateCheckPair}
    (empty : change [] = []) :
    (agent.onList streamId change).checkList id =
      if id = streamId then change (agent.checkList id) else agent.checkList id := by
  rw [checkList_onList]
  cases found : agent.findStream id with
  | none => simp [checkList, found, empty]
  | some stream => simp

/-- A change of a stream that leaves its check list alone. -/
theorem checkList_onStream {change : Stream → Stream} (kept : ∀ stream, (change stream).id = stream.id)
    (same : ∀ stream, (change stream).conncheckList = stream.conncheckList) :
    (agent.onStream streamId change).checkList id = agent.checkList id := by
  unfold checkList
  rw [findStream_onStream change kept, Option.map_map]
  congr 2
  funext stream
  dsimp only [Function.comp]
  split
  · exact same stream
  · rfl

/-- A change of a component leaves the check lists alone. -/
@[simp] theorem checkList_onComponent (change : Component → Component) :
    (agent.onComponent streamId componentId change).checkList id = agent.checkList id :=
  checkList_onStream (fun _ => rfl) fun _ => rfl

/-- The streams after a change of every check list. -/
theorem find_map_lists (change : List CandidateCheckPair → List CandidateCheckPair)
    (streams : List Stream) :
    (streams.map fun stream => { stream with conncheckList := change stream.conncheckList }).find?
        (fun stream => stream.id = id) =
      (streams.find? fun stream => stream.id = id).map fun stream =>
        { stream with conncheckList := change stream.conncheckList } := by
  rw [List.find?_map]
  rfl

/-- The pair is changed where it is. -/
theorem checkList_onPair (change : CandidateCheckPair → CandidateCheckPair) :
    (agent.onPair ref change).checkList id =
      (agent.checkList id).map fun pair => if pair.ref = ref then change pair else pair := by
  unfold checkList findStream onPair
  dsimp only
  rw [find_map_lists (fun list => list.map fun pair => if pair.ref = ref then change pair else pair)]
  cases agent.streams.find? fun stream => stream.id = id with
  | none | some => rfl

/-! ## Components -/

/-- The components after one of them was changed. -/
theorem findComponent_onComponent {change : Component → Component}
    (kept : ∀ component, (change component).id = component.id) :
    (agent.onComponent streamId componentId change).findComponent id other =
      (agent.findComponent id other).map fun component =>
        if id = streamId ∧ other = componentId then change component else component := by
  have streams : (agent.onComponent streamId componentId change).findStream id =
      (agent.findStream id).map fun stream => if id = streamId then
        { stream with
          components := stream.components.map fun component =>
            if component.id = componentId then change component else component } else stream :=
    findStream_onStream _ fun _ => rfl
  unfold findComponent
  rw [streams]
  cases agent.findStream id with
  | none => rfl
  | some stream =>
    by_cases same : id = streamId
    · simp only [map_some, bind_some, same, if_true, true_and]
      unfold Stream.findComponentById
      dsimp only
      rw [List.find?_map]
      have named : (fun component : Component => decide (component.id = other)) ∘
          (fun component => if component.id = componentId then change component else component) =
            fun component => decide (component.id = other) := by
        funext component
        dsimp only [Function.comp]
        split
        · rw [kept]
        · rfl
      rw [named]
      cases found : stream.components.find? fun component => decide (component.id = other) with
      | none => rfl
      | some component =>
        have own : component.id = other := by simpa using List.find?_some found
        simp [own]
    · simp [same]

/-- The log does not matter. -/
@[simp] theorem checkList_note (entry : Note) : (agent.note entry).checkList id = agent.checkList id :=
  rfl

/-! ## Rules -/

/-- A signal does nothing, or changes the state of a component and tells of it. -/
theorem signal_rule {P : XiceAgent → Prop} (state : XiceComponentState) (same : P agent)
    (changed : ∀ component, agent.findComponent streamId componentId = some component →
      P ((agent.onComponent streamId componentId fun component =>
        { component with state := state }).note (.stateChanged streamId componentId state))) :
    P (signalComponentStateChange agent streamId componentId state) := by
  unfold signalComponentStateChange
  split
  · exact same
  · rename_i component found
    split
    · exact same
    · split
      · exact changed component found
      · exact same

/-- A check list that is limited stays, or has the first of its pairs. -/
theorem limit_rule {P : XiceAgent → Prop} (same : P agent)
    (limited : P (agent.onList streamId fun list =>
      privLimitConnCheckListSize list agent.maxConnChecks)) :
    P (limitCheckList agent streamId) := by
  unfold limitCheckList
  split
  · exact limited
  · exact same

/-- Two candidates are paired and the component is told, or nothing is done. -/
theorem addForCandidatePair_rule {P : XiceAgent → Prop} {near far : CandidateRef} (same : P agent)
    (formed : P (privAddNewCheckPair agent streamId componentId near far .frozen false))
    (signal : ∀ after state, P after →
      P (signalComponentStateChange after streamId componentId state)) :
    P (privConnCheckAddForCandidatePair agent streamId componentId near far) := by
  unfold privConnCheckAddForCandidatePair
  split
  · dsimp only
    split
    · exact formed
    · split
      · exact signal _ _ formed
      · exact signal _ _ formed
  · exact same

/-- A local candidate is added and paired, or is redundant. -/
theorem addLocalCandidatePruned_rule {P : XiceAgent → Prop} {ref : CandidateRef} (same : P agent)
    (added : P (agent.onComponent streamId componentId fun component =>
      { component with localCandidates := component.localCandidates ++ [ref] }))
    (paired : ∀ after far, P after →
      P (privConnCheckAddForCandidatePair after streamId componentId ref far)) :
    P (privAddLocalCandidatePruned agent streamId componentId ref).2 := by
  unfold privAddLocalCandidatePruned connCheckAddForLocalCandidate
  split
  · exact same
  · dsimp only
    split
    · exact same
    · split
      · exact added
      · exact List.foldlRecOn (motive := P) _ _ added fun after kept far _ => paired after far kept

end XiceAgent

end Xice.Ice
