import Xice.Ice.Standstill

/-!
# The timer of the checks

A tick stops the timer only when no pair is left that is frozen, waiting or in progress, and setting
remote candidates arms it when there is one. The other functions that start checks, unfreeze pairs or
form them do not arm it.
-/

namespace Xice.Ice

open Xice.Stun XiceAgent List

variable {a b : XiceAgent} {streamId componentId : Nat} {out : Outside} {rules : Rules}

/-! ## Priorities -/

variable {list : List CandidateCheckPair}

/-- Priorities of local candidates are between zero and `2^31`, with fewer than `2^29` components.
-/
theorem newPriority_bounds (compatibility : XiceCompatibility) (type : XiceCandidateType)
    {preference : UInt32} (small : preference ≤ 1) (few : componentId < 2 ^ 29) :
    0 < (newPriority compatibility type preference componentId).toNat ∧
      (newPriority compatibility type preference componentId).toNat < 2 ^ 31 := by
  have full : 0 < (xiceCandidateIcePriorityFull type.preference preference componentId).toNat ∧
      (xiceCandidateIcePriorityFull type.preference preference componentId).toNat < 2 ^ 31 := by
    have low : 60 ≤ type.preference.toNat ∧ type.preference.toNat ≤ 120 := by
      cases type <;> decide
    have bounded : preference.toNat ≤ 1 := UInt32.le_iff_toNat_le.mp small
    have component : (UInt32.ofNat componentId).toNat = componentId := by
      rw [UInt32.toNat_ofNat']
      exact Nat.mod_eq_of_lt (by omega)
    unfold xiceCandidateIcePriorityFull
    simp only [UInt32.toNat_add, UInt32.toNat_mul, UInt32.toNat_sub, component, UInt32.reduceToNat]
    omega
  have jingle : 0 < (xiceCandidateJinglePriority type).toNat ∧
      (xiceCandidateJinglePriority type).toNat < 2 ^ 31 := by cases type <;> decide
  have msn : 0 < (xiceCandidateMsnPriority type).toNat ∧
      (xiceCandidateMsnPriority type).toNat < 2 ^ 31 := by cases type <;> decide
  cases compatibility with
  | google => exact jingle
  | msn | oc2007 => exact msn
  | rfc5245 | wlm2009 | oc2007r2 => exact full

/-- The pair priority as a number. -/
theorem toNat_pairPriority (o a : UInt32) :
    (xiceCandidatePairPriority o a).toNat = 2 ^ 32 * min o.toNat a.toNat +
      2 * max o.toNat a.toNat % 2 ^ 32 + if a.toNat < o.toNat then 1 else 0 := by
  have left := o.toNat_lt
  have right := a.toNat_lt
  have shifted : ((1 : UInt64) <<< 32).toNat = 2 ^ 32 := by decide
  unfold xiceCandidatePairPriority
  simp only [UInt64.toNat_add, UInt64.toNat_mul, shifted, UInt32.toNat_toUInt64, UInt32.toNat_mul,
    apply_ite UInt32.toNat, apply_ite UInt64.toNat, UInt32.lt_iff_toNat_lt, UInt64.reduceToNat,
    UInt32.reduceToNat]
  rcases Nat.lt_trichotomy o.toNat a.toNat with lower | same | higher
  · have other : ¬a.toNat < o.toNat := by omega
    simp only [lower, other, if_true, if_false, Nat.min_eq_left (Nat.le_of_lt lower),
      Nat.max_eq_right (Nat.le_of_lt lower)]
    omega
  · simp only [same, Nat.lt_irrefl, if_false, Nat.min_self, Nat.max_self]
    omega
  · have other : ¬o.toNat < a.toNat := by omega
    simp only [higher, other, if_true, if_false, Nat.min_eq_right (Nat.le_of_lt higher),
      Nat.max_eq_left (Nat.le_of_lt higher)]
    omega

/-- It is not zero for such a local priority. -/
theorem pairPriority_ne_zero (near far : UInt32) (positive : 0 < near.toNat)
    (below : near.toNat < 2 ^ 31) :
    xiceCandidatePairPriority near far ≠ 0 ∧ xiceCandidatePairPriority far near ≠ 0 := by
  have first := toNat_pairPriority near far
  have second := toNat_pairPriority far near
  constructor
  · intro zero
    rw [zero, UInt64.toNat_zero] at first
    omega
  · intro zero
    rw [zero, UInt64.toNat_zero] at second
    omega

/-! ## Pairs with a priority -/

/-- Every pair of a check list has a priority. -/
def Weighed (list : List CandidateCheckPair) : Prop := ∀ pair ∈ list, pair.priority ≠ 0
  deriving Decidable

/-- No stream has `2^29` components. -/
def Slender (shape : List (Nat × List Nat)) : Prop := ∀ entry ∈ shape, ∀ id ∈ entry.2, id < 2 ^ 29
  deriving Decidable

/-- A local candidate of a component of such a stream. -/
theorem priority_of_owns {stray : Prop} (sound : Sound stray a) (slender : Slender a.skeleton)
    (present : HasComponent a streamId componentId) {ref : CandidateRef}
    (owns : Owns a streamId componentId true ref) :
    0 < (a.candidates ref).priority.toNat ∧ (a.candidates ref).priority.toNat < 2 ^ 31 := by
  obtain ⟨ids, among, member⟩ := present
  have few : componentId < 2 ^ 29 := slender _ among componentId member
  obtain ⟨type, preference, small, priority⟩ := sound.ranked ref owns.side
  rw [priority, owns.component]
  exact newPriority_bounds _ _ small few

/-- A pair of such a candidate, whatever the role. -/
theorem candidatePairPriority_ne_zero {near : CandidateRef}
    (bounds : 0 < (a.candidates near).priority.toNat ∧ (a.candidates near).priority.toNat < 2 ^ 31)
    (far : CandidateRef) : a.candidatePairPriority near far ≠ 0 := by
  have both := pairPriority_ne_zero _ (a.candidates far).priority bounds.1 bounds.2
  unfold candidatePairPriority
  dsimp only
  split
  · exact both.1
  · exact both.2

/-- They have a priority if they were formed with one. -/
theorem hereditary_weighed : Hereditary fun _ => Weighed := by
  constructor
  · intro _ list other sublist weighed pair member
    exact weighed pair (sublist.subset member)
  · intro _ list other same weighed pair member
    obtain ⟨earlier, inside, cores⟩ := exists_of_map_eq same member
    obtain ⟨_, _, _, _, _, _, _, priority⟩ := CandidateCheckPair.core_eq cores
    rw [← priority]
    exact weighed earlier inside

/-- Pairs are formed with a priority. -/
theorem weighed_keptBy {shape : List (Nat × List Nat)} (slender : Slender shape) :
    KeptBy (fun _ => Weighed) rules shape := by
  have formed : ∀ {agent : XiceAgent} {streamId : Nat} {pair : CandidateCheckPair},
      agent.skeleton = shape → Forms rules agent streamId pair → pair.priority ≠ 0 := by
    intro agent streamId pair same forms
    rw [← same] at slender
    rw [forms.priority]
    exact candidatePairPriority_ne_zero
      (priority_of_owns forms.sound slender forms.present forms.near) _
  constructor
  · intro agent streamId pair same forms _ _ weighed other member
    rcases mem_placed.mp member with rfl | old
    · exact formed same forms
    · exact weighed other old
  · intro agent streamId pair same forms _ weighed other member
    rcases mem_appended member with rfl | old
    · exact formed same forms
    · exact weighed other old
  · intro agent control same sound _ each
    unfold privCheckForRoleConflict
    split
    · intro stream member pair among
      obtain ⟨before, was, rfl⟩ := mem_map.mp member
      obtain ⟨earlier, inside, rfl⟩ := mem_map.mp among
      obtain ⟨_, _, ⟨component, there, own⟩, near, _⟩ := sound.pairs before was earlier inside
      rw [← same] at slender
      have present : HasComponent agent before.id component.id := hasComponent_of_mem was there
      rw [own] at present
      apply candidatePairPriority_ne_zero
      exact priority_of_owns sound slender present near
    · exact each

/-! ## Steps and the timer -/

/-- A step leaves the timer alone, unless it may not. -/
theorem Step.timer (step : Step rules a b) (kept : ¬rules.timers) :
    b.conncheckTimer = a.conncheckTimer := by
  cases step with
  | turn turn => exact turn.timer
  | pair | discovered | candidate | update | addLocal | addRemote | foundation => rfl
  | limit streamId =>
    unfold limitCheckList
    split <;> rfl
  | role allowed =>
    unfold privCheckForRoleConflict
    split <;> rfl
  | timers allowed conncheck keepalive => exact absurd allowed kept

/-- Without timers in the rules it stays. -/
theorem Steps.timer (steps : Steps rules a b) (kept : ¬rules.timers) :
    b.conncheckTimer = a.conncheckTimer := by
  induction steps with
  | refl => rfl
  | tail _ step ih => exact (step.timer kept).trans ih

/-! ## Ticks -/

/-- No check of a list is still to be made or to be answered. -/
def Idle (list : List CandidateCheckPair) : Prop := ∀ pair ∈ list, pair.active = false

instance : DecidablePred Idle := fun list =>
  inferInstanceAs (Decidable (∀ pair ∈ list, pair.active = false))

/-- Every check of a list was started. -/
def Started (list : List CandidateCheckPair) : Prop :=
  ∀ pair ∈ list, pair.state ≠ .waiting ∧ pair.state ≠ .frozen

/-- Every frozen pair with a priority is found. -/
theorem bestFrozen_eq_none (weighed : Weighed list) (missed : bestFrozen list = none) :
    ∀ pair ∈ list, pair.state ≠ .frozen := by
  -- once a pair is found, the search goes on with a pair
  have found : ∀ (rest : List CandidateCheckPair) (best : UInt64 × Option CandidateCheckPair),
      best.2 ≠ none → (rest.foldl (fun best pair =>
        if pair.state = .frozen ∧ best.1 < pair.priority then (pair.priority, some pair)
        else best) best).2 ≠ none := by
    intro rest
    induction rest with
    | nil =>
      intro best some_best
      exact some_best
    | cons first rest ih =>
      intro best some_best
      rw [foldl_cons]
      apply ih
      split
      · simp
      · exact some_best
  have every : ∀ rest ⊆ list, (rest.foldl (fun best pair =>
      if pair.state = .frozen ∧ best.1 < pair.priority then (pair.priority, some pair)
      else best) ((0 : UInt64), none)).2 = none → ∀ pair ∈ rest, pair.state ≠ .frozen := by
    intro rest
    induction rest with
    | nil =>
      intro _ _ pair member
      exact absurd member not_mem_nil
    | cons first rest ih =>
      intro inside none_found
      rw [foldl_cons] at none_found
      have thawed : first.state ≠ .frozen := by
        intro frozen
        have positive : (0 : UInt64) < first.priority :=
          UInt64.pos_iff_ne_zero.mpr (weighed first (inside mem_cons_self))
        rw [if_pos ⟨frozen, positive⟩] at none_found
        exact found rest _ (by simp) none_found
      rw [if_neg fun better => thawed better.1] at none_found
      intro pair member
      rcases mem_cons.mp member with rfl | later
      · exact thawed
      · exact ih (fun _ there => inside (mem_cons_of_mem _ there)) none_found pair later
  exact every list (List.Subset.refl _) missed

/-- A tick with nothing to start finds every check started. -/
theorem startNext_eq_false (weighed : a.Each Weighed) (none_left : (startNext out a).1 = false) :
    (startNext out a).2 = a ∧ a.Each Started := by
  unfold startNext at none_left ⊢
  cases next : a.streams.findSome? fun stream =>
      privConnCheckFindNextWaiting stream.conncheckList with
  | some pair =>
    rw [next] at none_left
    exact absurd none_left (by simp)
  | none =>
    rw [next] at none_left
    dsimp only at none_left ⊢
    unfold privConnCheckUnfreezeNext at none_left ⊢
    cases best : a.streams.findSome? fun stream => bestFrozen stream.conncheckList with
    | some pair =>
      rw [best] at none_left
      exact absurd none_left (by simp)
    | none =>
      apply And.intro rfl
      intro stream member pair among
      constructor
      · have missed := findSome?_eq_none_iff.mp next stream member
        simpa using find?_eq_none.mp missed pair among
      · have missed := findSome?_eq_none_iff.mp best stream member
        exact bestFrozen_eq_none (weighed stream member) missed pair among

/-- The check has ended, or none was started. -/
theorem active_eq_false {pair : CandidateCheckPair} :
    pair.active = false ↔ pair.state ≠ .frozen ∧ pair.state ≠ .waiting ∧ pair.state ≠ .inProgress := by
  simp [CandidateCheckPair.active, and_assoc]

/-- A tick fails some checks in progress, and leaves other states. -/
theorem state_tickPair (timers : Timers) (pair : CandidateCheckPair) :
    (tickPair timers pair).1.state = pair.state ∨
      pair.state = .inProgress ∧ (tickPair timers pair).1.state = .failed := by
  unfold tickPair
  split
  · rename_i running
    split
    · exact .inr ⟨running, rfl⟩
    · exact .inl rfl
    · exact .inr ⟨running, rfl⟩
    · exact .inl rfl
    · exact .inl rfl
  · exact .inl rfl

/-- A tick starts nothing again. -/
theorem Started.tick (started : Started list) (timers : Timers) :
    Started (list.map fun pair => (tickPair timers pair).1) := by
  intro pair member
  obtain ⟨before, inside, rfl⟩ := mem_map.mp member
  rcases state_tickPair timers before with same | ⟨_, failed⟩
  · rw [same]
    exact started before inside
  · rw [failed]
    exact ⟨by simp, by simp⟩

/-- Nor does it activate a pair. -/
theorem Idle.tick (idle : Idle list) (timers : Timers) :
    Idle (list.map fun pair => (tickPair timers pair).1) := by
  intro pair member
  obtain ⟨before, inside, rfl⟩ := mem_map.mp member
  have rests := active_eq_false.mp (idle before inside)
  rcases state_tickPair timers before with same | ⟨running, _⟩
  · rwa [active_eq_false, same]
  · exact absurd running rests.2.2

/-- What a tick did to a check list. -/
structure Ticked (done : Prop) (before after : List CandidateCheckPair) : Prop where
  started : Started before → Started after
  idle : Idle before → Idle after
  finished : done → Started before → Idle after

/-- A tick of a stream that asks for no other one. -/
theorem tickStream_eq_false {stream : Stream} {timers : Timers}
    (none_left : (privConnCheckTickStream out a stream timers).1 = false) (id : Nat) :
    Ticked (id = stream.id) (a.checkList id)
      ((privConnCheckTickStream out a stream timers).2.checkList id) := by
  let moved : XiceAgent := ({ a with
    log := a.log ++ (a.checkList stream.id).filterMap (tickSends a timers) } : XiceAgent).onList
      stream.id fun list => list.map fun pair => (tickPair timers pair).1
  have lists : ∀ id, moved.checkList id = if id = stream.id then
      (a.checkList id).map (fun pair => (tickPair timers pair).1) else a.checkList id :=
    fun id => checkList_onList_of_nil rfl
  -- the tick neither nominates nor leaves a check in progress
  have whole : (privConnCheckTickStream out a stream timers).2 = moved ∧
      ∀ pair ∈ moved.checkList stream.id, pair.state ≠ .inProgress := by
    unfold privConnCheckTickStream at none_left ⊢
    dsimp only at none_left ⊢
    split at none_left
    · exact absurd none_left (by simp)
    · rename_i enough
      rw [if_neg enough]
      apply And.intro rfl
      rw [Bool.or_eq_false_iff, decide_eq_false_iff_not, Nat.not_lt, Nat.le_zero,
        countP_eq_zero] at none_left
      intro pair member
      simpa using none_left.2 pair member
  obtain ⟨same, at_rest⟩ := whole
  rw [same, lists]
  split
  · rename_i own
    constructor
    · exact fun started => started.tick timers
    · exact fun idle => idle.tick timers
    · intro _ started pair member
      obtain ⟨waiting, frozen⟩ := started.tick timers pair member
      apply active_eq_false.mpr
      refine ⟨frozen, waiting, ?_⟩
      apply at_rest
      rwa [lists, if_pos rfl, ← own]
  · rename_i other
    exact ⟨fun started => started, fun idle => idle, fun own => absurd own other⟩

/-- No stream asks for another tick. -/
theorem tickStreams_eq_false {timers : Timers} (streams : List Stream) (keep : Bool) (a : XiceAgent)
    (none_left : (tickStreams out timers streams keep a).1 = false) (id : Nat) :
    keep = false ∧ Ticked (id ∈ streams.map Stream.id) (a.checkList id)
      ((tickStreams out timers streams keep a).2.checkList id) := by
  induction streams generalizing keep a with
  | nil =>
    apply And.intro none_left
    exact ⟨fun started => started, fun idle => idle, fun never => absurd never not_mem_nil⟩
  | cons stream rest ih =>
    unfold tickStreams at none_left ⊢
    dsimp only at none_left ⊢
    obtain ⟨kept, later⟩ := ih _ _ none_left
    obtain ⟨before, first⟩ := Bool.or_eq_false_iff.mp kept
    have now := tickStream_eq_false first id
    apply And.intro before
    constructor
    · exact fun started => later.started (now.started started)
    · exact fun idle => later.idle (now.idle idle)
    · intro among started
      rcases mem_cons.mp among with own | others
      · exact later.idle (now.finished own started)
      · exact later.finished others (now.started started)

/-- A loop whose turns leave a check list idle. -/
theorem idle_foldl {α : Type} (id : Nat) {step : XiceAgent → α → XiceAgent} (list : List α)
    (kept : ∀ agent x, Idle (agent.checkList id) → Idle ((step agent x).checkList id))
    (idle : Idle (a.checkList id)) : Idle ((list.foldl step a).checkList id) := by
  induction list generalizing a with
  | nil => exact idle
  | cons first rest ih => exact ih (kept a first idle)

/-- Pairs are changed, and their states are not. -/
theorem Idle.map (idle : Idle list) {change : CandidateCheckPair → CandidateCheckPair}
    (kept : ∀ pair, (change pair).state = pair.state) : Idle (list.map change) := by
  intro pair member
  obtain ⟨before, inside, rfl⟩ := mem_map.mp member
  rw [active_eq_false, kept]
  exact active_eq_false.mp (idle before inside)

/-- `priv_update_check_list_state_for_ready` cancels checks only. -/
theorem idle_updateForReady (id : Nat) (idle : Idle (a.checkList id)) :
    Idle ((privUpdateCheckListStateForReady a streamId componentId).checkList id) := by
  have pruned : Idle ((privPrunePendingChecks a streamId componentId).2.checkList id) := by
    unfold privPrunePendingChecks
    dsimp only
    rw [checkList_onList_of_nil rfl]
    split
    · intro pair member
      obtain ⟨before, inside, rfl⟩ := mem_map.mp member
      have rests := idle before inside
      have states := active_eq_false.mp rests
      unfold prunePending
      split
      · rwa [if_neg fun early => early.elim states.1 states.2.1,
          if_neg fun late => states.2.2 late.1]
      · exact rests
    · exact idle
  unfold privUpdateCheckListStateForReady
  split
  · dsimp only
    split
    · rwa [checkList_signal]
    · exact pruned
  · exact idle

/-- The end of a tick leaves an idle list idle. -/
theorem idle_stopConnChecks (id : Nat) (idle : Idle (a.checkList id)) :
    Idle ((stopConnChecks a).checkList id) := by
  have failed : ∀ (agent : XiceAgent) (stream : Stream), Idle (agent.checkList id) →
      Idle ((privUpdateCheckListFailedComponents agent stream).checkList id) := by
    intro agent stream
    apply idle_foldl
    intro agent c idle
    split
    · exact idle
    · dsimp only
      split
      · rwa [checkList_signal]
      · exact idle
  have stopped : Idle ((a.streams.foldl (fun agent stream =>
      stream.components.foldl (fun agent component =>
        privUpdateCheckListStateForReady agent stream.id component.id)
        (privUpdateCheckListFailedComponents agent stream)) a).checkList id) := by
    apply idle_foldl _ _ _ idle
    intro agent stream idle
    apply idle_foldl
    · intro agent component idle
      exact idle_updateForReady id idle
    · exact failed agent stream idle
  exact stopped

/-- Every check list of a stream is one of the agent. -/
theorem XiceAgent.EachAt.checkList {P : List CandidateCheckPair → Prop} (each : a.Each P) (nil : P [])
    (id : Nat) : P (a.checkList id) := by
  unfold XiceAgent.checkList
  cases found : a.findStream id with
  | none => exact nil
  | some stream => exact each stream (mem_of_find?_eq_some found)

/-- A tick that stops the timer leaves nothing to do. -/
theorem idle_of_tick {stray : Prop} (sound : Sound stray a) (weighed : a.Each Weighed)
    (timers : Timers) (stops : (privConnCheckTickUnlocked out a timers).1 = false) :
    (privConnCheckTickUnlocked out a timers).2.Each Idle := by
  have after : Steps (Rules.free stray) a (privConnCheckTickUnlocked out a timers).2 :=
    steps_tick sound trivial timers
  let ticked := tickStreams out timers a.streams (startNext out a).1 (startNext out a).2
  have whole : ticked.1 = false ∧
      (privConnCheckTickUnlocked out a timers).2 = stopConnChecks ticked.2 := by
    unfold privConnCheckTickUnlocked at stops ⊢
    dsimp only at stops ⊢
    split at stops
    · rename_i going
      rw [going] at stops
      exact absurd stops (by simp)
    · rename_i stopped
      have none_left : ticked.1 = false := by simpa using stopped
      rw [if_neg stopped]
      exact ⟨none_left, rfl⟩
  intro stream member
  have named : stream.id ∈ a.streams.map Stream.id := by
    have ids : ∀ agent : XiceAgent, agent.streams.map Stream.id = agent.skeleton.map Prod.fst := by
      intro agent
      unfold XiceAgent.skeleton
      rw [map_map]
      rfl
    rw [ids, ← after.skeleton, ← ids]
    exact mem_map_of_mem member
  rw [← (after.sound sound).checkList member, whole.2]
  apply idle_stopConnChecks
  obtain ⟨none_first, finished⟩ := tickStreams_eq_false a.streams _ _ whole.1 stream.id
  obtain ⟨same, started⟩ := startNext_eq_false weighed none_first
  have nothing : Started [] := fun pair never => absurd never not_mem_nil
  apply finished.finished named
  rw [same]
  exact started.checkList nothing stream.id

/-! ## Checks of the peer -/

/-- A check of the peer makes an agent of a role check or form a pair. -/
def XiceAgent.heeds (agent : XiceAgent) (streamId componentId : Nat) (socket : SocketRef)
    (far : CandidateRef) (control : Bool) : Bool :=
  match triggeredPair agent streamId componentId socket far with
  | some pair =>
    match pair.state with
    | .cancelled => false
    | .succeeded | .discovered => agent.compatibility.full && control
    | .frozen | .waiting | .inProgress | .failed => true
  | none =>
    (agent.findComponent streamId componentId).any fun component =>
      component.localCandidates.any (agent.uses socket)

variable {socket : SocketRef} {source : XiceAddress} {far : CandidateRef} {rcand : Option CandidateRef}
  {reply : Option Packet} {component : Component}

/-- It depends on the check list, the candidates and the component. -/
theorem heeds_congr (lists : b.checkList streamId = a.checkList streamId)
    (candidates : b.candidates = a.candidates) (compatibility : b.compatibility = a.compatibility)
    (components : b.findComponent streamId componentId = a.findComponent streamId componentId)
    (control : Bool) : b.heeds streamId componentId socket far control =
      a.heeds streamId componentId socket far control := by
  have uses : b.uses socket = a.uses socket := by
    unfold XiceAgent.uses
    rw [candidates]
  unfold XiceAgent.heeds triggeredPair
  rw [lists, compatibility, components, uses]

/-- The components of an agent that takes a role. -/
theorem findComponent_role (control : Bool) :
    (privCheckForRoleConflict a control).findComponent streamId componentId =
      a.findComponent streamId componentId := by
  unfold privCheckForRoleConflict
  split
  · unfold privRecalculatePairPriorities findComponent findStream
    dsimp only
    rw [find?_map]
    change ((a.streams.find? fun stream => decide (stream.id = streamId)).map _).bind _ = _
    cases a.streams.find? fun stream => decide (stream.id = streamId) with
    | none | some => rfl
  · rfl

/-- A role that is taken changes the priorities of pairs only. -/
theorem checkList_role (control : Bool) : ∃ priority : CandidateCheckPair → UInt64, ∀ id,
    (privCheckForRoleConflict a control).checkList id =
      (a.checkList id).map fun pair => { pair with priority := priority pair } := by
  unfold privCheckForRoleConflict
  split
  · let switched : XiceAgent := { a with controllingMode := control }
    let ranked (pair : CandidateCheckPair) : CandidateCheckPair := { pair with
      priority := switched.candidatePairPriority pair.localCand pair.remoteCand }
    have lists : ∀ id, (switched.mapPairs fun _ => ranked).checkList id =
        (switched.checkList id).map ranked := checkList_mapPairs fun _ => ranked
    exact ⟨_, lists⟩
  · refine ⟨CandidateCheckPair.priority, fun id => ?_⟩
    rw [map_congr_left (g := fun pair => pair), map_id']
    intro pair _
    rfl

/-- The pair that a check is about does not depend on the role. -/
theorem triggeredPair_role (streamId componentId : Nat) (socket : SocketRef) (far : CandidateRef)
    (control : Bool) :
    let switched := privCheckForRoleConflict a control
    switched.candidates = a.candidates ∧ switched.compatibility = a.compatibility ∧
      ∃ priority : CandidateCheckPair → UInt64,
        triggeredPair switched streamId componentId socket far =
          (triggeredPair a streamId componentId socket far).map fun pair =>
            { pair with priority := priority pair } := by
  intro switched
  obtain ⟨priority, lists⟩ := checkList_role (a := a) control
  have same : switched.candidates = a.candidates ∧ switched.compatibility = a.compatibility := by
    unfold switched privCheckForRoleConflict
    split <;> exact ⟨rfl, rfl⟩
  refine ⟨same.1, same.2, priority, ?_⟩
  unfold triggeredPair XiceAgent.uses
  rw [lists, same.1, find?_map]
  rfl

/-- A role that is taken decides whether a check is heeded. -/
theorem heeds_role (control : Bool) :
    (privCheckForRoleConflict a control).heeds streamId componentId socket far control =
      a.heeds streamId componentId socket far control := by
  obtain ⟨candidates, compatibility, priority, found⟩ := triggeredPair_role (a := a)
    streamId componentId socket far control
  have uses : (privCheckForRoleConflict a control).uses socket = a.uses socket := by
    unfold XiceAgent.uses
    rw [candidates]
  unfold XiceAgent.heeds
  rw [found, compatibility, findComponent_role, uses]
  cases triggeredPair a streamId componentId socket far with
  | none | some => rfl

/-- The role is taken. -/
theorem mode_role (control : Bool) : (privCheckForRoleConflict a control).controllingMode = control := by
  unfold privCheckForRoleConflict
  split
  · rfl
  · rename_i same
    exact (not_not.mp same).symm

/-- A check of the peer that is not heeded. -/
theorem idle_scheduleTriggeredCheck (out : Outside) (id : Nat) (idle : Idle (a.checkList id))
    (quiet : a.heeds streamId componentId socket far a.controllingMode = false)
    (useCandidate : Bool) :
    Idle ((privScheduleTriggeredCheck out a streamId componentId socket far useCandidate).checkList
      id) := by
  unfold privScheduleTriggeredCheck
  unfold XiceAgent.heeds at quiet
  cases found : triggeredPair a streamId componentId socket far with
  | some pair =>
    rw [found] at quiet
    dsimp only at quiet ⊢
    let updated := privUpdateCheckListStateForReady a streamId componentId
    have settled : pair.state = .succeeded ∨ pair.state = .discovered →
        (a.compatibility.full && a.controllingMode) = false →
        Idle ((triggerPair out a streamId componentId pair).checkList id) := by
      intro state controlled
      have core : updated.core = a.core := turn_updateForReady.core
      obtain ⟨compatibility, controlling, _⟩ := XiceAgent.core_eq core
      have unchecked : ¬(updated.compatibility.full = true ∧ updated.controllingMode = true) := by
        rw [compatibility, controlling, ← Bool.and_eq_true]
        exact Bool.eq_false_iff.mp controlled
      have whole : triggerPair out a streamId componentId pair =
          if updated.compatibility.full ∧ updated.controllingMode then
            privConnCheckInitiate out updated pair.ref else updated := by
        unfold triggerPair
        rcases state with state | state <;> rw [state]
      rw [whole, if_neg unchecked]
      exact idle_updateForReady id idle
    cases state : pair.state with
    | cancelled =>
      rw [triggerPair, state]
      exact idle
    | succeeded =>
      rw [state] at quiet
      exact settled (.inl state) quiet
    | discovered =>
      rw [state] at quiet
      exact settled (.inr state) quiet
    | _ =>
      rw [state] at quiet
      exact absurd quiet (by simp)
  | none =>
    rw [found] at quiet
    dsimp only at quiet ⊢
    split
    · rename_i near among
      obtain ⟨component, known, inside⟩ := Option.bind_eq_some_iff.mp among
      rw [known, Option.any_some, any_eq_false] at quiet
      exact absurd (find?_some inside) (quiet near (mem_of_find?_eq_some inside))
    · exact idle

/-- A nomination changes no states, and cancels checks only. -/
theorem idle_markPairNominated (id : Nat) (idle : Idle (a.checkList id)) (far : CandidateRef) :
    Idle ((privMarkPairNominated a streamId componentId far).checkList id) := by
  apply idle_foldl _ _ _ idle
  intro agent ref idle
  have nominated : Idle ((agent.onPair ref fun pair => { pair with nominated := true }).checkList
      id) := by
    rw [checkList_onPair]
    apply idle.map
    intro pair
    split <;> rfl
  unfold markNominated
  dsimp only
  apply idle_updateForReady
  split
  · exact nominated
  · split
    · unfold privUpdateSelectedPair
      split
      · rwa [checkList_note, checkList_onComponent]
      · exact nominated
    · exact nominated

/-- A check that arrived leaves component and check list. -/
theorem bound_eq : let bound := a.onStream streamId fun stream =>
      { stream with initialBindingRequestReceived := true }
    bound.findComponent streamId componentId = a.findComponent streamId componentId ∧
      ∀ id, bound.checkList id = a.checkList id := by
  constructor
  · have found : (a.onStream streamId fun stream =>
        { stream with initialBindingRequestReceived := true }).findStream streamId = _ :=
      findStream_onStream _ fun _ => rfl
    unfold findComponent
    rw [found]
    cases a.findStream streamId with
    | none => rfl
    | some stream =>
      rw [Option.map_some, if_pos rfl]
      rfl
  · intro id
    exact checkList_onStream (fun _ => rfl) fun _ => rfl

/-- No candidate is learned from a known address, or while there are none. -/
theorem learnUnknown_eq (known : a.findComponent streamId componentId = some component)
    (alone : rcand = none → component.remoteCandidates = []) (request : StunRequest)
    (found : Option (CandidateRef × CandidateRef)) :
    learnUnknown out a streamId componentId source request rcand found = (rcand, a) := by
  unfold learnUnknown
  dsimp only
  rw [if_neg]
  rw [known]
  rintro ⟨some_known, unknown⟩
  exact absurd (alone unknown) (by simpa using some_known)

/-- A check is answered while its component has no remote candidates, or is not heeded. -/
theorem idle_acceptCheck (id : Nat) (idle : Idle (a.checkList id)) (request : StunRequest)
    (found : Option (CandidateRef × CandidateRef))
    (known : a.findComponent streamId componentId = some component)
    (quiet : match rcand with
      | none => component.remoteCandidates = []
      | some far => a.heeds streamId componentId socket far a.controllingMode = false) :
    Idle ((acceptCheck out a streamId componentId socket source request reply rcand found).checkList
      id) := by
  let bound : XiceAgent := a.onStream streamId fun stream =>
    { stream with initialBindingRequestReceived := true }
  obtain ⟨still, lists⟩ : bound.findComponent streamId componentId =
      a.findComponent streamId componentId ∧ ∀ id, bound.checkList id = a.checkList id := bound_eq
  have learned : learnUnknown out bound streamId componentId source request rcand found =
      (rcand, bound) := by
    apply learnUnknown_eq (still.trans known)
    rintro rfl
    exact quiet
  let answered := sendReply bound socket source reply
  have sent : answered.findComponent streamId componentId = bound.findComponent streamId componentId ∧
      (∀ id, answered.checkList id = bound.checkList id) ∧ answered.candidates = a.candidates ∧
      answered.compatibility = a.compatibility ∧ answered.controllingMode = a.controllingMode := by
    unfold answered sendReply
    cases reply with
    | none | some => exact ⟨rfl, fun _ => rfl, rfl, rfl, rfl⟩
  obtain ⟨components, sent_lists, candidates, compatibility, controlling⟩ := sent
  have rests : Idle (answered.checkList id) := by
    rwa [sent_lists, lists]
  have replied : ∀ useCandidate, Idle ((privReplyToConnCheck out bound streamId componentId rcand
      source socket reply useCandidate).checkList id) := by
    intro useCandidate
    unfold privReplyToConnCheck
    cases rcand with
    | none => exact rests
    | some far =>
      have unheeded : answered.heeds streamId componentId socket far answered.controllingMode =
          false := by
        rw [controlling, heeds_congr ((sent_lists _).trans (lists _)) candidates compatibility
          (components.trans still)]
        exact quiet
      have scheduled := idle_scheduleTriggeredCheck out id rests unheeded useCandidate
      dsimp only
      split
      · exact idle_markPairNominated id scheduled far
      · exact scheduled
  unfold acceptCheck
  dsimp only
  rw [learned]
  dsimp only
  split
  · unfold privStorePendingCheck
    rw [checkList_onComponent]
    exact replied _
  · exact replied _

/-- The answer to a check says which role is taken. -/
theorem control_of_success {message : StunRequest} {control built : Bool} {tie : UInt64}
    (success : (iceConncheckCreateReply message control tie built).result = .success) :
    (iceConncheckCreateReply message control tie built).control = control := by
  revert success
  unfold iceConncheckCreateReply
  dsimp only
  split
  · simp
  · split
    · split <;> simp
    · split
      · split <;> simp
      · simp

/-- A check that is not heeded does nothing about pairs. -/
theorem idle_handleRequest (out : Outside) (sound : Sound True a) (idle : a.Each Idle)
    {request : StunRequest} {built : Bool}
    (quiet : ∀ component, a.findComponent streamId componentId = some component →
      match remoteAt a component source with
      | none => component.remoteCandidates = []
      | some far => a.heeds streamId componentId socket far
          (iceConncheckCreateReply request a.controllingMode a.tieBreaker built).control = false) :
    (handleRequest out a streamId componentId socket source request built).Each Idle := by
  have after : Steps (Rules.free True) a
      (handleRequest out a streamId componentId socket source request built) :=
    steps_handleRequest sound trivial fun _ => trivial
  have lists : ∀ id, Idle (a.checkList id) := fun id =>
    idle.checkList (fun _ never => absurd never not_mem_nil) id
  intro stream member
  rw [← (after.sound sound).checkList member]
  unfold handleRequest
  split
  · exact lists _
  · rename_i component known
    have rests := quiet component known
    dsimp only
    split
    · exact lists _
    · split
      · exact lists _
      · split
        · have switched : Idle ((privCheckForRoleConflict a (iceConncheckCreateReply request
              a.controllingMode a.tieBreaker built).control).checkList stream.id) := by
            obtain ⟨priority, same⟩ := checkList_role (a := a) (iceConncheckCreateReply request
              a.controllingMode a.tieBreaker built).control
            rw [same]
            exact (lists _).map fun _ => rfl
          apply idle_acceptCheck _ switched _ _ ((findComponent_role _).trans known)
          cases at_source : remoteAt a component source with
          | none =>
            rw [at_source] at rests
            exact rests
          | some far =>
            rw [at_source] at rests
            dsimp only at rests ⊢
            rwa [mode_role, heeds_role]
        · rename_i success
          rw [control_of_success success] at rests
          exact idle_acceptCheck _ (lists _) _ _ known rests
        · exact lists _

/-- An answer to none of the agent's checks. -/
theorem handleReply_eq_self (sound : Sound True a) (idle : a.Each Idle) (message : StunReply) :
    handleReply out a streamId componentId socket source message = a := by
  have unmatched : (a.checkList streamId).find? (fun pair =>
      pair.message.any fun request => request.id = message.id) = none := by
    apply find?_eq_none.mpr
    intro pair member waits
    obtain ⟨stream, there, _, inside⟩ := exists_stream_of_mem member
    have running : pair.state = .inProgress := by
      apply sound.waiting stream there pair inside
      cases sent : pair.message with
      | none => simp [sent] at waits
      | some request => rfl
    exact (active_eq_false.mp (idle stream there pair inside)).2.2 running
  unfold handleReply
  split
  · rfl
  · dsimp only
    split
    · rfl
    · unfold privMapReplyToConnCheckRequest
      rw [unmatched]

/-! ## Runs -/

/-- If some pair is frozen, waiting or in progress, the timer is armed. -/
def Progress (agent : XiceAgent) : Prop :=
  ∀ stream ∈ agent.streams, ∀ pair ∈ stream.conncheckList, pair.active = true →
    agent.conncheckTimer = true

instance (agent : XiceAgent) : Decidable (Progress agent) :=
  inferInstanceAs (Decidable (∀ stream ∈ agent.streams, ∀ pair ∈ stream.conncheckList,
    pair.active = true → agent.conncheckTimer = true))

/-- The timer is armed, or there is nothing to do. -/
theorem progress_iff : Progress a ↔ a.conncheckTimer = true ∨ a.Each Idle := by
  constructor
  · intro progress
    cases armed : a.conncheckTimer with
    | true => exact .inl rfl
    | false =>
      right
      intro stream member pair among
      cases active : pair.active with
      | false => rfl
      | true =>
        have timer := progress stream member pair among active
        rw [armed] at timer
        exact absurd timer (by simp)
  · rintro (armed | idle) stream member pair among active
    · exact armed
    · rw [idle stream member pair among] at active
      exact absurd active (by simp)

/-- The pairs that a tick looks at have a priority. -/
def Event.weighs (agent : XiceAgent) : Event → Prop
  | .tick _ => agent.Each Weighed
  | .setRemoteCandidates _ _ _ _ => Slender agent.skeleton ∧ agent.Each Weighed
  | _ => True

instance (agent : XiceAgent) (event : Event) : Decidable (event.weighs agent) := by
  unfold Event.weighs
  split <;> infer_instance

/-- An event that may start a check or form a pair, and does not arm the timer: a candidate for a
component with remote ones; the end of gathering while candidates are not paired; setting no valid
remote candidate while checks are stored; and a check of the peer that comes from a new address or
is heeded. -/
def Event.needsTimer (agent : XiceAgent) : Event → Bool
  | .addHost streamId componentId _ _ _ | .addServer streamId componentId _ _ _ _ _ =>
    !NoRemotes agent streamId componentId
  | .gatheringDone => !decide (AllPaired agent)
  | .setRemoteCandidates _ _ candidates _ =>
    validCandidates candidates = [] && !decide (NoneStored agent)
  | .request streamId componentId socket source message built =>
    (agent.findComponent streamId componentId).any fun component =>
      match remoteAt agent component source with
      | none => component.remoteCandidates ≠ []
      | some far => agent.heeds streamId componentId socket far
          (iceConncheckCreateReply message agent.controllingMode agent.tieBreaker built).control
  | _ => false

/-- Such an event comes while the timer is armed. -/
abbrev Event.inTime (agent : XiceAgent) (event : Event) : Prop :=
  event.needsTimer agent = true → agent.conncheckTimer = true

/-- What an agent may do that leaves the timer alone. -/
def Rules.timeless : Rules := ⟨fun _ _ => True, True, False, True, True⟩

/-- A tick leaves the timer armed, or nothing to do. -/
theorem progress_tick (out : Outside) (sound : Sound True a) (weighed : a.Each Weighed) (timers : Timers) :
    (privConnCheckTickUnlocked out a timers).1 = true ∧
        (privConnCheckTickUnlocked out a timers).2.conncheckTimer = a.conncheckTimer ∨
      (privConnCheckTickUnlocked out a timers).1 = false ∧
        (privConnCheckTickUnlocked out a timers).2.Each Idle := by
  cases going : (privConnCheckTickUnlocked out a timers).1 with
  | false => exact .inr ⟨rfl, idle_of_tick sound weighed timers going⟩
  | true =>
    apply Or.inl
    apply And.intro rfl
    unfold privConnCheckTickUnlocked at going ⊢
    dsimp only at going ⊢
    split at going
    · rename_i kept
      rw [if_pos kept]
      exact (turn_ticked sound out timers).timer
    · exact absurd going (by simp)

/-- `conn_check_schedule_next` arms the timer, or leaves nothing to do. -/
theorem progress_scheduleNext (sound : Sound True a) (weighed : a.Each Weighed) (timers : Timers) :
    Progress (connCheckScheduleNext out a timers) := by
  have turn : Turn a (privConnCheckUnfreezeNext a).2 := turn_unfreezeNext sound.unique
  have unfrozen := turn.sound sound
  have still := weighed.of_core hereditary_weighed turn.core
  apply progress_iff.mpr
  unfold connCheckScheduleNext
  dsimp only
  rcases progress_tick out unfrozen still timers with ⟨going, _⟩ | ⟨_, idle⟩
  · left
    rw [going]
    rfl
  · exact .inr (idle.of_streams rfl)

/-- So does `xice_agent_set_remote_candidates` when it names a candidate, or finds no stored checks
or the timer armed. -/
theorem progress_setRemoteCandidates (sound : Sound True a) (slender : Slender a.skeleton)
    (weighed : a.Each Weighed) (progress : Progress a) {candidates : List CandidateData}
    (inTime : validCandidates candidates ≠ [] ∨ NoneStored a ∨ a.conncheckTimer = true)
    (timers : Timers) :
    Progress (setRemoteCandidates out a streamId componentId candidates timers) := by
  have outcome : setRemoteCandidates out a streamId componentId candidates timers = a ∨
      ∃ set, Steps Rules.timeless a set ∧
        setRemoteCandidates out a streamId componentId candidates timers =
          if validCandidates candidates = [] then set else connCheckScheduleNext out set timers :=
    setRemoteCandidates_eq sound trivial candidates timers (.inl trivial)
  rcases outcome with same | ⟨set, steps, whole⟩
  · rwa [same]
  · by_cases none_named : validCandidates candidates = []
    · rcases inTime with named | none_stored | armed
      · exact absurd none_named named
      · rwa [setRemoteCandidates_eq_self none_stored none_named]
      · rw [whole, if_pos none_named]
        exact progress_iff.mpr (.inl ((Steps.timer steps id).trans armed))
    · rw [whole, if_neg none_named]
      apply progress_scheduleNext (Steps.sound steps sound)
      exact Steps.each steps sound hereditary_weighed (weighed_keptBy slender) weighed

/-- An event in time leaves the timer armed, or nothing to do. -/
theorem Event.keeps_progress (sound : Sound True a) (progress : Progress a) (event : Event)
    (weighed : event.weighs a) (inTime : event.inTime a) : Progress (event.run out a) := by
  -- the timer is left alone: when it is not armed, nothing is to be done before the event
  have timed : Permits Rules.timeless a event →
      (event.needsTimer a = false → a.Each Idle → (event.run out a).Each Idle) →
      Progress (event.run out a) := by
    intro permits rests
    have steps : Steps Rules.timeless a (event.run out a) := event.steps sound permits
    rw [progress_iff, steps.timer id]
    rcases progress_iff.mp progress with armed | idle
    · exact .inl armed
    · cases needed : event.needsTimer a with
      | true => exact .inl (inTime needed)
      | false => exact .inr (rests needed idle)
  cases acts : event.acts with
  | false =>
    rcases Event.outcome out a acts with empty | same | ⟨nComponents, ufrag, rfl⟩ | ⟨mode, rfl⟩
    · intro stream member pair among
      rw [empty stream member] at among
      exact absurd among not_mem_nil
    · rwa [same]
    · intro stream member pair among
      rcases mem_append.mp member with old | new
      · exact progress stream old pair among
      · rw [mem_singleton.mp new] at among
        exact absurd among not_mem_nil
    · exact progress
  | true =>
    cases event with
    | addHost streamId componentId address socket username =>
      apply timed trivial
      intro alone idle
      exact each_addHost (by simpa [Event.needsTimer] using alone) idle _ _ _
    | addServer streamId componentId type address baseSocket socket username =>
      apply timed trivial
      intro alone idle
      exact each_addServer (by simpa [Event.needsTimer] using alone) idle _ _ _ _ _
    | gatheringDone =>
      apply timed ⟨trivial, trivial⟩
      intro paired idle
      dsimp only [Event.run]
      rwa [agentGatheringDone_of_allPaired (by simpa [Event.needsTimer] using paired)]
    | request streamId componentId socket source message built =>
      apply timed ⟨trivial, fun _ => trivial⟩
      intro quiet idle
      apply idle_handleRequest out sound idle
      intro component known
      dsimp only [Event.needsTimer] at quiet
      rw [known, Option.any_some] at quiet
      cases at_source : remoteAt a component source with
      | none =>
        rw [at_source] at quiet
        simpa using quiet
      | some far =>
        rw [at_source] at quiet
        exact quiet
    | reply streamId componentId socket source message =>
      apply timed ⟨.inl trivial, .inl ⟨trivial, trivial⟩, fun _ _ _ => trivial⟩
      intro _ idle
      dsimp only [Event.run]
      rwa [handleReply_eq_self sound idle]
    | setRemoteCredentials streamId ufrag =>
      apply timed trivial
      intro _ idle
      exact idle.of_lists (onStream_origin (fun _ _ _ => id) fun _ _ => id)
    | tick timers =>
      dsimp only [Event.run]
      split
      · rename_i armed
        apply progress_iff.mpr
        rcases progress_tick out sound weighed timers with ⟨_, kept⟩ | ⟨_, idle⟩
        · exact .inl (kept.trans armed)
        · exact .inr idle
      · exact progress
    | setRemoteCandidates streamId componentId candidates timers =>
      apply progress_setRemoteCandidates sound weighed.1 weighed.2 progress
      by_cases named : validCandidates candidates = []
      · right
        by_cases none_stored : NoneStored a
        · exact .inl none_stored
        · right
          apply inTime
          simp [Event.needsTimer, named, none_stored]
      · exact .inl named
    | _ => exact absurd acts (by simp [Event.acts])

/-- In a run of events in time, the timer is armed whenever some pair is frozen, waiting or in
progress. -/
theorem Reachable.progress
    (reach : Reachable out (fun agent event => event.weighs agent ∧ event.inTime agent) a) : Progress a := by
  induction reach with
  | new compatibility controlling tie maxConnChecks reliable =>
    intro stream member
    exact absurd member not_mem_nil
  | step event before condition ih =>
    exact event.keeps_progress (before.sound (.inl trivial)) ih condition.1 condition.2

/-- A check times out while the timer is armed, after a check of the peer. -/
theorem progress_of_timeout :
    MeetsAll .counting (fun agent event => event.weighs agent ∧ event.inTime agent)
      (.new .rfc5245 true 5 100 false) (Event.setUpWith [.host 3 100] ++
        [.request 1 1 7 (.ip4 2 3) .ofControlled true, .tick fun _ => some .timeout]) ∧
    Progress ((XiceAgent.new .rfc5245 true 5 100 false).play .counting
      (Event.setUpWith [.host 3 100] ++
        [.request 1 1 7 (.ip4 2 3) .ofControlled true, .tick fun _ => some .timeout])) := by
  have meets : MeetsAll .counting (fun agent event => event.weighs agent ∧ event.inTime agent)
      (.new .rfc5245 true 5 100 false) (Event.setUpWith [.host 3 100] ++
        [.request 1 1 7 (.ip4 2 3) .ofControlled true, .tick fun _ => some .timeout]) := by
    decide +kernel
  apply And.intro meets
  exact Reachable.progress ((Reachable.new _ _ _ _ _).play _ meets)

/-- A check times out and the timer stops; then a check of the peer starts it again, and the timer
is not armed. -/
theorem no_progress_after_timeout :
    Reachable .counting (fun _ _ => True) ((XiceAgent.new .rfc5245 true 5 100 false).play .counting
      (Event.setUpWith [.host 3 100] ++
        [.tick fun _ => some .timeout, .request 1 1 7 (.ip4 2 3) .ofControlled true])) ∧
    ((XiceAgent.new .rfc5245 true 5 100 false).play .counting (Event.setUpWith [.host 3 100] ++
      [.tick fun _ => some .timeout])).streams.map
        (fun stream => stream.conncheckList.map CandidateCheckPair.state) = [[.failed]] ∧
    ¬Progress ((XiceAgent.new .rfc5245 true 5 100 false).play .counting
      (Event.setUpWith [.host 3 100] ++
        [.tick fun _ => some .timeout, .request 1 1 7 (.ip4 2 3) .ofControlled true])) := by
  constructor
  · apply (Reachable.new _ _ _ _ _).play
    decide +kernel
  · decide +kernel

end Xice.Ice
