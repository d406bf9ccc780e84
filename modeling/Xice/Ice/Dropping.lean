import Xice.Ice.Access

/-!
# Pairs that are dropped

`priv_limit_conn_check_list_size` keeps as many pairs as it should drop. `conn_check_prune_stream`
empties the list of one stream and then, because that list is empty, the lists of every stream.
-/

namespace Xice.Ice

open XiceAgent List Option

variable {agent : XiceAgent} {streamId componentId id : Nat}

/-! ## The limit -/

/-- As many pairs as the limit allows are kept exactly when the list is not longer than the limit or
is twice as long. -/
theorem limit_eq_take_iff (list : List CandidateCheckPair) {upperLimit : UInt32}
    (positive : 1 ≤ upperLimit.toNat) :
    privLimitConnCheckListSize list upperLimit =
        list.take (min list.length upperLimit.toNat) ↔
      list.length ≤ upperLimit.toNat ∨ list.length = 2 * upperLimit.toNat := by
  unfold privLimitConnCheckListSize
  dsimp only
  by_cases long : upperLimit.toNat < list.length
  · have some_kept : list.length - upperLimit.toNat ≠ list.length := by omega
    rw [if_pos long, if_neg some_kept, Nat.min_eq_right (Nat.le_of_lt long)]
    constructor
    · intro same
      have lengths := congrArg List.length same
      rw [length_take, length_take] at lengths
      omega
    · intro condition
      have twice : list.length - upperLimit.toNat = upperLimit.toNat := by omega
      rw [twice]
  · rw [if_neg long, Nat.min_eq_left (Nat.le_of_not_lt long), take_length]
    constructor
    · intro _
      exact .inl (Nat.le_of_not_lt long)
    · intro _
      rfl

/-- The list of a stream that is limited. -/
theorem checkList_limitCheckList (rfc : agent.compatibility = .rfc5245) :
    (limitCheckList agent streamId).checkList streamId =
      privLimitConnCheckListSize (agent.checkList streamId) agent.maxConnChecks := by
  unfold limitCheckList
  rw [if_pos rfc]
  rw [checkList_onList_of_nil rfl, if_pos rfl]

/-- After `priv_add_new_check_pair` a check list has the first pairs that it had before it was limited,
as many as the limit allows, exactly when it was not longer than the limit or twice as long.
`priv_add_peer_reflexive_pair` adds a pair without limiting the list. -/
theorem addNewCheckPair_limited_iff (near far : CandidateRef) (state : XiceCheckState)
    (useCandidate : Bool) (rfc : agent.compatibility = .rfc5245)
    (positive : 1 ≤ agent.maxConnChecks.toNat) :
    let before := (insertNewPair agent streamId componentId near far state useCandidate).checkList
      streamId
    let after := (privAddNewCheckPair agent streamId componentId near far state
      useCandidate).checkList streamId
    after.length = min before.length agent.maxConnChecks.toNat ∧
        after = before.take (min before.length agent.maxConnChecks.toNat) ↔
      before.length ≤ agent.maxConnChecks.toNat ∨
        before.length = 2 * agent.maxConnChecks.toNat := by
  intro before after
  have kept : (insertNewPair agent streamId componentId near far state useCandidate).compatibility =
      .rfc5245 := rfc
  have limited : after = privLimitConnCheckListSize before agent.maxConnChecks :=
    checkList_limitCheckList kept
  rw [limited, ← limit_eq_take_iff before positive]
  constructor
  · intro both
    exact both.2
  · intro same
    rw [same]
    constructor
    · rw [length_take]
      omega
    · rfl

/-- A stream with two pairs, in an agent with a limit. -/
def twoPairs (maxConnChecks : UInt32) : XiceAgent :=
  (XiceAgent.new .rfc5245 true 5 maxConnChecks false).play .counting
    (Event.setUp 1 7 ++ [.setRemoteCandidates 1 1 [.host 3 100, .host 4 90] .quiet])

/-- A third pair is kept when the limit is three. -/
theorem third_pair_kept :
    (twoPairs 3).compatibility = .rfc5245 ∧ 1 ≤ (twoPairs 3).maxConnChecks.toNat ∧
      ((privAddNewCheckPair (twoPairs 3) 1 1 0 1 .frozen false).checkList 1).length = 3 := by
  have rfc : (twoPairs 3).compatibility = .rfc5245 := by decide +kernel
  have positive : 1 ≤ (twoPairs 3).maxConnChecks.toNat := by decide +kernel
  have short : ((insertNewPair (twoPairs 3) 1 1 0 1 .frozen false).checkList 1).length ≤
      (twoPairs 3).maxConnChecks.toNat := by decide +kernel
  have kept := (addNewCheckPair_limited_iff 0 1 .frozen false rfc positive).mpr (.inl short)
  have three : min ((insertNewPair (twoPairs 3) 1 1 0 1 .frozen false).checkList 1).length
      (twoPairs 3).maxConnChecks.toNat = 3 := by decide +kernel
  exact ⟨rfc, positive, kept.1.trans three⟩

/-- When the limit is two, a third pair leaves one. -/
theorem third_pair_leaves_one :
    (twoPairs 2).maxConnChecks = 2 ∧ ((twoPairs 2).checkList 1).length = 2 ∧
      ((insertNewPair (twoPairs 2) 1 1 0 1 .frozen false).checkList 1).length = 3 ∧
      ((privAddNewCheckPair (twoPairs 2) 1 1 0 1 .frozen false).checkList 1).length = 1 := by
  decide +kernel

/-! ## Pruning -/

/-- The loop removes every pair that it walks over. -/
theorem pruneLoop_self (list : List CandidateCheckPair) : pruneLoop list list = [] := by
  unfold pruneLoop
  induction list with
  | nil => rfl
  | cons first rest ih =>
    rwa [foldl_cons, eraseP_cons_of_pos (by simp)]

/-- Every check list of an agent is empty. -/
def NoPairs (agent : XiceAgent) : Prop := ∀ stream ∈ agent.streams, stream.conncheckList = []

variable (empty : NoPairs agent)

include empty

/-- There are no pairs to find. -/
theorem NoPairs.checkList (id : Nat) : agent.checkList id = [] := by
  unfold XiceAgent.checkList
  cases found : agent.findStream id with
  | none => rfl
  | some stream => exact empty stream (mem_of_find?_eq_some found)

/-- A change of a stream that leaves its check list alone. -/
theorem NoPairs.onStream {change : Stream → Stream}
    (same : ∀ stream, (change stream).conncheckList = stream.conncheckList) :
    NoPairs (agent.onStream streamId change) := by
  intro stream member
  obtain ⟨old, present, rfl⟩ := mem_map.mp member
  split
  · rw [same]
    exact empty old present
  · exact empty old present

/-- Changes of components do not matter. -/
theorem NoPairs.onComponent (change : Component → Component) :
    NoPairs (agent.onComponent streamId componentId change) :=
  empty.onStream fun _ => rfl

/-- Nor do signals. -/
theorem NoPairs.signal (state : XiceComponentState) :
    NoPairs (signalComponentStateChange agent streamId componentId state) :=
  signal_rule state empty fun _ _ => empty.onComponent _

omit empty

/-- Freed checks leave no pairs. -/
theorem noPairs_connCheckFree : NoPairs (connCheckFree agent) := by
  intro stream member
  obtain ⟨old, _, rfl⟩ := mem_map.mp member
  rfl

/-- Pruning one stream prunes every other one. -/
theorem noPairs_connCheckPruneStream : NoPairs (connCheckPruneStream agent streamId) := by
  unfold connCheckPruneStream
  dsimp only
  rw [pruneLoop_self, if_pos rfl]
  exact noPairs_connCheckFree

/-- The stream whose checks an event prunes: it is removed, or a pair or a remote candidate is
selected in it. -/
def Event.prunes (agent : XiceAgent) : Event → Option Nat
  | .removeStream streamId => (agent.findStream streamId).map fun _ => streamId
  | .setSelectedPair streamId componentId lfoundation rfoundation =>
    (agent.findComponent streamId componentId).bind fun component =>
      (componentFindPair agent component lfoundation rfoundation).map fun _ => streamId
  | .setSelectedRemoteCandidate streamId componentId _ =>
    (agent.findComponent streamId componentId).map fun _ => streamId
  | _ => none

/-- Such an event leaves no pairs. -/
theorem noPairs_of_prunes (out : Outside) {event : Event} (prunes : event.prunes agent = some id) :
    NoPairs (event.run out agent) := by
  cases event with
  | removeStream streamId =>
    obtain ⟨stream, found, _⟩ := map_eq_some_iff.mp prunes
    simp only [Event.run, removeStream, found]
    intro other member
    exact noPairs_connCheckPruneStream other (mem_of_mem_eraseP member)
  | setSelectedPair streamId componentId lfoundation rfoundation =>
    obtain ⟨component, found, inner⟩ := bind_eq_some_iff.mp prunes
    obtain ⟨⟨near, far⟩, chosen, _⟩ := map_eq_some_iff.mp inner
    simp only [Event.run, setSelectedPair, found, chosen]
    split
    · exact noPairs_connCheckPruneStream
    · exact (noPairs_connCheckPruneStream.signal _).onComponent _
  | setSelectedRemoteCandidate streamId componentId data =>
    obtain ⟨component, found, _⟩ := map_eq_some_iff.mp prunes
    simp only [Event.run, setSelectedRemoteCandidate, found]
    have selected : ∀ agent, NoPairs agent →
        NoPairs (componentSetSelectedRemoteCandidate agent streamId component data).2 := by
      intro agent empty
      unfold componentSetSelectedRemoteCandidate
      split
      · exact empty
      · split
        · exact empty.onComponent _
        · have made : NoPairs (agent.newCandidate (data.candidate streamId component.id)).2 := empty
          exact (made.onComponent _).onComponent _
    split
    · exact noPairs_connCheckPruneStream
    · split
      · exact (selected _ noPairs_connCheckPruneStream).signal _
      · exact selected _ noPairs_connCheckPruneStream
  | _ => exact absurd prunes (by simp [Event.prunes])

/-- A check is still to be made or to be answered. -/
def CandidateCheckPair.active (pair : CandidateCheckPair) : Bool :=
  pair.state = .frozen || pair.state = .waiting || pair.state = .inProgress

/-- The check lists of the other streams stay, and their timer stays armed. -/
def Isolated (before after : XiceAgent) (streamId : Nat) : Prop :=
  (∀ id, id ≠ streamId → after.checkList id = before.checkList id) ∧
    (before.conncheckTimer = true →
      (∃ id, id ≠ streamId ∧ ∃ pair ∈ before.checkList id, pair.active = true) →
        after.conncheckTimer = true)

/-- Pruning leaves the other streams alone exactly when they have no checks. -/
theorem isolated_iff_of_prunes (out : Outside) {event : Event}
    (prunes : event.prunes agent = some streamId) :
    Isolated agent (event.run out agent) streamId ↔
      ∀ id, id ≠ streamId → agent.checkList id = [] := by
  have empty := noPairs_of_prunes out prunes
  constructor
  · intro isolated id other
    rw [← isolated.1 id other]
    exact empty.checkList id
  · intro none_elsewhere
    constructor
    · intro id other
      rw [none_elsewhere id other]
      exact empty.checkList id
    · rintro _ ⟨id, other, pair, member, _⟩
      rw [none_elsewhere id other] at member
      exact absurd member not_mem_nil

/-- A stream with a pair, and a second one with a pair if it has remote candidates. -/
def twoStreams (candidates : List CandidateData) : XiceAgent :=
  (XiceAgent.new .rfc5245 true 5 100 false).play .counting
    (Event.setUp 1 7 ++ [.setRemoteCandidates 1 1 [.host 3 100] .quiet] ++
      Event.setUp 2 8 ++ [.setRemoteCandidates 2 1 candidates .quiet])

/-- The first stream is removed while the second has no checks. -/
theorem isolated_from_empty :
    (Event.removeStream 1).prunes (twoStreams []) = some 1 ∧
      Isolated (twoStreams []) ((Event.removeStream 1).run .counting (twoStreams [])) 1 := by
  have prunes : (Event.removeStream 1).prunes (twoStreams []) = some 1 := by decide +kernel
  apply And.intro prunes
  apply (isolated_iff_of_prunes .counting prunes).mpr
  have streams : ∀ stream ∈ (twoStreams []).streams, stream.id ≠ 1 → stream.conncheckList = [] := by
    decide +kernel
  intro id other
  unfold XiceAgent.checkList
  cases found : (twoStreams []).findStream id with
  | none => rfl
  | some stream =>
    have named := id_of_findStream found
    exact streams stream (mem_of_find?_eq_some found) (by rw [named]; exact other)

/-- The first stream is removed while a check of the second waits: the second loses its check, and
the timer stops. -/
theorem removed_stream_prunes_other :
    (Event.removeStream 1).prunes (twoStreams [.host 4 90]) = some 1 ∧
      (twoStreams [.host 4 90]).conncheckTimer = true ∧
      ((twoStreams [.host 4 90]).checkList 2).map CandidateCheckPair.active = [true] ∧
      ((Event.removeStream 1).run .counting (twoStreams [.host 4 90])).checkList 2 = [] ∧
      ((Event.removeStream 1).run .counting (twoStreams [.host 4 90])).conncheckTimer = false := by
  decide +kernel

end Xice.Ice
