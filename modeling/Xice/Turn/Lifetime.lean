import Xice.Turn.Channels

/-!
# How long a binding lasts

`STUN_BINDING_TIMEOUT` and `STUN_EXPIRE_TIMEOUT` count seconds, and the timers count milliseconds.
With timers of seconds a binding would be renewed after 540 seconds at the earliest, and dropped
after 600.
-/

namespace Xice.Turn

open Xice.Ice (XiceAddress)
open Xice.Stun List Option

/-- Microseconds of a number of seconds. -/
def seconds (count : Nat) : Nat := count * 1000000

/-- A timer of a binding fires late enough, and an answer is taken for the binding that was asked
for. -/
def Timely (entry : Entry) : Prop :=
  match entry.2 with
  | .timer timer => timer.started + seconds timer.interval ≤ entry.1
  | .answer binding taken => taken = some binding
  | _ => True

instance : DecidablePred Timely := fun entry =>
  match entry with
  | (time, .timer timer) =>
    inferInstanceAs (Decidable (timer.started + seconds timer.interval ≤ time))
  | (_, .answer binding taken) => inferInstanceAs (Decidable (taken = some binding))
  | (_, .ask _) | (_, .wrap _ _ _) | (_, .bare _ _) | (_, .refuse _ _) | (_, .permit _ _)
  | (_, .send _ _) | (_, .upcall _ _ _) | (_, .choose _ _) | (_, .confirm _) | (_, .renewal _)
  | (_, .remove _) => isTrue trivial

/-- A binding was confirmed no later than a time before a moment. -/
def Since (log : List Entry) (binding : Ref) (span moment : Nat) : Prop :=
  ∀ time, (time, .confirm binding) ∈ log → time + span ≤ moment

/-- A binding is renewed and taken from the list only when its time is over. -/
def KeepsTimes (log : List Entry) (entry : Entry) : Prop :=
  match entry.2 with
  | .renewal binding => Since log binding (seconds 540) entry.1
  | .remove binding => Since log binding (seconds 600) entry.1
  | _ => True

/-- No binding is renewed or taken from the list too early. -/
def Lasting (log : List Entry) : Prop :=
  ∀ front entry back, log = front ++ entry :: back → KeepsTimes front entry

/-- The entry does not say that a binding was confirmed. -/
def Effect.unconfirming : Effect → Bool
  | .confirm _ => false
  | _ => true

variable {log : List Entry} {binding : Ref} {span moment : Nat}

/-- A shorter time. -/
theorem Since.mono {less later : Nat} (since : Since log binding span moment)
    (shorter : less ≤ span) (after : moment ≤ later) : Since log binding less later := fun time member => by
  have := since time member
  omega

/-- Nothing was confirmed since. -/
theorem Since.append {more : List Entry} (since : Since log binding span moment)
    (other : ∀ entry ∈ more, entry.2.unconfirming = true) :
    Since (log ++ more) binding span moment := by
  intro time member
  rcases mem_append.mp member with old | new
  · exact since time old
  · exact absurd (other _ new) (by simp [Effect.unconfirming])

/-- Another binding was confirmed. -/
theorem Since.confirm {other : Ref} (since : Since log binding span moment)
    (different : binding ≠ other) (time : Nat) :
    Since (log ++ [(time, .confirm other)]) binding span moment := by
  intro earlier member
  rcases mem_append.mp member with old | new
  · exact since earlier old
  · rw [mem_singleton, Prod.mk.injEq, Effect.confirm.injEq] at new
    exact absurd new.2 different

/-- The log goes on in time. -/
theorem Lasting.append {more : List Entry} (lasting : Lasting log)
    (other : ∀ entry ∈ more, entry.2.unconfirming = true)
    (keeps : ∀ entry ∈ more, KeepsTimes log entry) : Lasting (log ++ more) := by
  intro front entry back split
  rcases append_eq_append_iff.mp split with ⟨extra, rfl, rest⟩ | ⟨extra, whole, rest⟩
  · -- The entry is one of the new ones, and the new ones before it confirm nothing.
    have member : entry ∈ more := by simp [rest]
    have before : ∀ entry ∈ extra, entry.2.unconfirming = true := fun entry member =>
      other entry (by simp [rest, member])
    have kept := keeps entry member
    unfold KeepsTimes at kept ⊢
    split at kept
    · exact kept.append before
    · exact kept.append before
    · trivial
  · cases extra with
    | nil =>
      rw [nil_append] at rest
      have kept := keeps entry (rest ▸ mem_cons_self)
      rw [append_nil] at whole
      exact whole ▸ kept
    | cons first extra =>
      obtain ⟨rfl, -⟩ := List.cons.inj rest
      exact lasting front entry extra whole

/-- A binding is confirmed. -/
theorem Lasting.confirm (lasting : Lasting log) (time : Nat) (binding : Ref) :
    Lasting (log ++ [(time, .confirm binding)]) := by
  intro front entry back split
  rcases append_eq_append_iff.mp split with ⟨extra, rfl, rest⟩ | ⟨extra, whole, rest⟩
  · have last : entry = (time, .confirm binding) := by
      have member : entry ∈ [(time, Effect.confirm binding)] := by simp [rest]
      exact mem_singleton.mp member
    rw [last]
    trivial
  · cases extra with
    | nil =>
      have last := (List.cons.inj rest).1
      rw [last]
      trivial
    | cons first extra =>
      obtain ⟨rfl, -⟩ := List.cons.inj rest
      exact lasting front entry extra whole

/-- How long a timer has waited since the confirmation. -/
def Timer.Follows (timer : Timer) (log : List Entry) (binding : Ref) : Prop :=
  match timer.func with
  | .bindingTimeout => timer.interval = stunBindingTimeout ∧ Since log binding 0 timer.started
  | .bindingExpiredTimeout =>
    timer.interval = stunExpireTimeout ∧ Since log binding (seconds 540) timer.started
  | _ => True

/-- Other timers do not matter. -/
theorem Timer.Follows.of_other {timer : Timer} (other : timer.func.ofBinding = false)
    (log : List Entry) (binding : Ref) : timer.Follows log binding := by
  unfold Timer.Follows
  split
  · rename_i func
    rw [func] at other
    exact absurd other (by decide)
  · rename_i func
    rw [func] at other
    exact absurd other (by decide)
  · trivial

/-- The log may go on. -/
theorem Timer.Follows.mono {timer : Timer} {later : List Entry}
    (follows : timer.Follows log binding)
    (kept : ∀ span moment, Since log binding span moment → Since later binding span moment) :
    timer.Follows later binding := by
  unfold Timer.Follows at follows ⊢
  split at follows
  · exact ⟨follows.1, kept _ _ follows.2⟩
  · exact ⟨follows.1, kept _ _ follows.2⟩
  · trivial

/-- One element is replaced, and keys are distinct. -/
theorem key_ne_of_mem_set {α β : Type} {list : List α} {key : α → β} (distinct : (list.map key).Nodup)
    {index : Nat} {old new : α} (place : list[index]? = some old) {other : α}
    (member : other ∈ list.set index new) : other = new ∨ other ∈ list ∧ key other ≠ key old := by
  obtain ⟨below, rfl⟩ := List.getElem?_eq_some_iff.mp place
  obtain ⟨position, inside, rfl⟩ := getElem_of_mem member
  rw [length_set] at inside
  rw [getElem_set]
  by_cases same : index = position
  · exact .inl (if_pos same)
  · rw [if_neg same]
    refine .inr ⟨getElem_mem inside, fun equal => same ?_⟩
    have inside_map : position < (list.map key).length := by rwa [length_map]
    have below_map : index < (list.map key).length := by rwa [length_map]
    have mapped : (list.map key)[position] = (list.map key)[index] := by
      rw [getElem_map, getElem_map]
      exact equal
    exact (distinct.getElem_inj_iff.mp mapped).symm

namespace TurnSocket

variable {env : Env} {calls : Bool}

/-- Bindings have distinct names, which were given. -/
structure Named (turn : TurnSocket) : Prop where
  distinct : (turn.live.map ChannelBinding.ref).Nodup
  below : ∀ binding ∈ turn.live, binding.ref < turn.nextRef

/-- The timers of the bindings are right. -/
structure Timed (turn : TurnSocket) : Prop where
  sources : ∀ binding ∈ turn.priv.channels, ∀ source, binding.timeoutSource = some source →
    source < turn.nextRef
  timers : ∀ timer ∈ turn.timers, timer.func.ofBinding = true → timer.ref < turn.nextRef
  confirms : ∀ time binding, (time, .confirm binding) ∈ turn.log →
    time ≤ turn.now ∧ binding < turn.nextRef
  follows : ∀ binding ∈ turn.priv.channels, ∀ timer ∈ turn.timers,
    binding.timeoutSource = some timer.ref → timer.Follows turn.log binding.ref
  due : ∀ binding ∈ turn.priv.channels, binding.renew = true →
    Since turn.log binding.ref (seconds 540) turn.now
  request : ∀ msg, turn.priv.currentBindingMsg = some msg →
    msg.binding < turn.nextRef ∧ Since turn.log msg.binding (seconds 540) turn.now
  lasting : Lasting turn.log

variable {turn last : TurnSocket} {request : TURNMessage} {binding : ChannelBinding}
  {timer : Timer} {index : Nat}

/-- Names are such. -/
theorem steady_ref : Steady ChannelBinding.ref := fun _ _ _ => rfl

/-- Names are given in order. -/
theorem Move.refs (move : Move env calls turn last) : turn.nextRef ≤ last.nextRef := by
  cases move with
  | upcall | wait | answer | idle | expire | reclaim => exact Nat.le_refl _
  | quiet quiet => exact quiet.refs
  | works works => exact works.refs
  | retry asked taken again =>
    have refs : turn.nextRef ≤ _ := again.refs
    split <;> exact refs
  | confirm asked =>
    rcases (confirmed_spec env turn _).refs with next | ⟨same, -⟩
    · exact next ▸ Nat.le_succ _
    · exact same.ge
  | renew times => exact Nat.le_succ _

/-- Moves keep names distinct. -/
theorem Named.move (named : turn.Named) (move : Move env calls turn last) : last.Named := by
  have all : ∀ ref ∈ turn.live.map ChannelBinding.ref, ref < turn.nextRef :=
    forall_mem_map.mpr named.below
  rcases move.live steady_ref with fewer | ⟨binding, fresh, added⟩
  · refine ⟨?_, forall_mem_map.mp fun ref member =>
      (all ref (fewer.subset member)).trans_le move.refs⟩
    obtain ⟨some, perm, sublist⟩ := fewer
    exact perm.nodup (named.distinct.sublist sublist)
  · have listed : (turn.priv.channels.map ChannelBinding.ref).Sublist
        (turn.live.map ChannelBinding.ref) := (sublist_append_left _ _).map _
    constructor
    · rw [added, ← concat_eq_append]
      exact (named.distinct.sublist listed).concat fun member =>
        Nat.lt_irrefl _ ((all _ (listed.subset member)).trans_le fresh.above)
    · have given : ∀ ref ∈ last.live.map ChannelBinding.ref, ref < last.nextRef := by
        rw [added]
        intro ref member
        rcases mem_append.mp member with old | new
        · exact (all ref (listed.subset old)).trans_le move.refs
        · rw [mem_singleton.mp new]
          exact fresh.below
      exact forall_mem_map.mp given

/-- Nothing is confirmed, and no binding is added to the list. -/
theorem Timed.frame (more : List Entry) (timed : turn.Timed) (now : turn.now ≤ last.now)
    (refs : turn.nextRef ≤ last.nextRef)
    (timers : ∀ timer ∈ last.timers, timer ∈ turn.timers ∨ timer.func.ofBinding = false)
    (channels : ∀ binding ∈ last.priv.channels, binding ∈ turn.priv.channels)
    (request : ∀ msg, last.priv.currentBindingMsg = some msg →
      msg.binding < last.nextRef ∧ Since turn.log msg.binding (seconds 540) last.now)
    (log : last.log = turn.log ++ more) (other : ∀ entry ∈ more, entry.2.unconfirming = true)
    (keeps : ∀ entry ∈ more, KeepsTimes turn.log entry) : last.Timed where
  sources binding member source named :=
    (timed.sources binding (channels binding member) source named).trans_le refs
  timers timer member func := by
    rcases timers timer member with old | unbound
    · exact (timed.timers timer old func).trans_le refs
    · rw [unbound] at func
      exact absurd func (by decide)
  confirms time binding member := by
    rw [log] at member
    rcases mem_append.mp member with old | new
    · obtain ⟨before, given⟩ := timed.confirms time binding old
      exact ⟨before.trans now, given.trans_le refs⟩
    · exact absurd (other _ new) (by simp [Effect.unconfirming])
  follows binding member timer runs source := by
    rcases timers timer runs with old | unbound
    · rw [log]
      exact (timed.follows binding (channels binding member) timer old source).mono
        fun _ _ since => since.append other
    · exact .of_other unbound _ _
  due binding member renew := by
    rw [log]
    exact ((timed.due binding (channels binding member) renew).mono (Nat.le_refl _) now).append other
  request msg asked := by
    obtain ⟨given, since⟩ := request msg asked
    rw [log]
    exact ⟨given, since.append other⟩
  lasting := by
    rw [log]
    exact timed.lasting.append other keeps

/-- Other effects confirm and end nothing. -/
theorem keeps_of_other {entry : Entry} (other : entry.2.ofBinding = false) (log : List Entry) :
    entry.2.unconfirming = true ∧ KeepsTimes log entry := by
  rcases entry with ⟨time, effect⟩
  cases effect with
  | choose | answer | confirm | timer | renewal | remove => exact absurd other (by simp [Effect.ofBinding])
  | ask | wrap | bare | refuse | permit | send | upcall => exact ⟨rfl, trivial⟩

variable (timed : turn.Timed)

include timed

/-- Nor do those of requests. -/
theorem Timed.working {entry : Entry} (now : entry.1 = turn.now)
    (working : turn.Working entry.2) : entry.2.unconfirming = true ∧ KeepsTimes turn.log entry := by
  rcases entry with ⟨time, effect⟩
  cases working with
  | other relay => exact keeps_of_other (Effect.ofBinding_of_ofRelay relay) turn.log
  | choose range => exact ⟨rfl, trivial⟩
  | renewal member renew =>
    refine ⟨rfl, ?_⟩
    rw [show time = turn.now from now]
    exact timed.due _ member renew

/-- Requests keep the times. -/
theorem Timed.works (named : turn.Named) (works : turn.Works env last) : last.Timed := by
  obtain ⟨more, log, writes⟩ := works.log
  refine timed.frame more works.now.ge works.refs works.timers
    (fun binding member => works.channels ▸ member) ?_ log
    (fun entry member => (timed.working (writes entry member).1 (writes entry member).2).1)
    (fun entry member => (timed.working (writes entry member).1 (writes entry member).2).2)
  intro msg asked
  rw [works.now]
  rcases works.request msg asked with ⟨old, before, same⟩ | fresh | ⟨binding, member, renew, same⟩
  · obtain ⟨given, since⟩ := timed.request old before
    rw [same]
    exact ⟨given.trans_le works.refs, since⟩
  · refine ⟨fresh.2, fun time member => ?_⟩
    exact absurd ((timed.confirms time _ member).2.trans_le fresh.1) (Nat.lt_irrefl _)
  · rw [← same]
    exact ⟨(named.below binding (mem_append_left _ member)).trans_le works.refs,
      timed.due binding member renew⟩

/-- A request is answered and sent again, for the same binding. -/
theorem Timed.retry (asked : turn.priv.currentBindingMsg = some request)
    (same : binding.ref = request.binding)
    (again : Asked env binding.ref (turn.answered request) last) :
    last.Timed ∧ (last.emit (.renewal binding.ref)).Timed := by
  obtain ⟨msg, named, bindings⟩ := again.bindings
  obtain ⟨more, log, other⟩ := again.log
  obtain ⟨given, since⟩ := timed.request request asked
  have now : last.now = turn.now := congrArg Bindings.now bindings
  have channels : last.priv.channels = turn.priv.channels := congrArg Bindings.channels bindings
  have open_request : last.priv.currentBindingMsg = some msg :=
    congrArg Bindings.currentBindingMsg bindings
  obtain ⟨answer, answer_eq⟩ : ∃ answer : Entry, answer =
    (turn.now, .answer request.binding ((turn.bindingOf request).map ChannelBinding.ref)) := ⟨_, rfl⟩
  have unbound : ∀ entry ∈ more, entry.2.unconfirming = true ∧ KeepsTimes turn.log entry :=
    fun entry member => keeps_of_other (Effect.ofBinding_of_ofRelay (other entry member).2) turn.log
  have sent : last.Timed := by
    refine timed.frame (answer :: more) now.ge again.refs again.timers
      (fun binding member => channels ▸ member) ?_ ?_ ?_ ?_
    · intro other_msg open_other
      obtain rfl := some.inj (open_request.symm.trans open_other)
      rw [named, same, now]
      exact ⟨given.trans_le again.refs, since⟩
    · rw [log, answer_eq]
      exact append_assoc _ [_] _
    · rw [forall_mem_cons, answer_eq]
      exact ⟨rfl, fun entry member => (unbound entry member).1⟩
    · rw [forall_mem_cons, answer_eq]
      exact ⟨trivial, fun entry member => (unbound entry member).2⟩
  refine ⟨sent, sent.frame [(last.now, .renewal binding.ref)] (Nat.le_refl _)
    (Nat.le_refl _) (fun _ => .inl) (fun _ => id) sent.request rfl ?_ ?_⟩
  · rw [forall_mem_singleton]
    rfl
  · rw [forall_mem_singleton]
    have kept := (sent.request msg open_request).2
    rw [named] at kept
    exact kept

/-- A timer that fires late enough has waited for its time. -/
theorem Timed.fires {func : XiceTimerFunc} (times : turn.Times timer func index binding)
    (timely : timer.started + seconds timer.interval ≤ turn.now) :
    (func = .bindingTimeout → Since turn.log binding.ref (seconds 540) turn.now) ∧
      (func = .bindingExpiredTimeout → Since turn.log binding.ref (seconds 600) turn.now) := by
  have follows := timed.follows binding (mem_of_getElem? times.place) timer times.runs
    times.source
  constructor
  · intro kind
    rw [Timer.Follows, times.func, kind] at follows
    obtain ⟨interval, since⟩ := follows
    intro time member
    have before := since time member
    rw [interval] at timely
    simp only [seconds, stunBindingTimeout, stunExpireTimeout] at timely ⊢
    omega
  · intro kind
    rw [Timer.Follows, times.func, kind] at follows
    obtain ⟨interval, since⟩ := follows
    intro time member
    have before := since time member
    rw [interval] at timely
    simp only [seconds, stunExpireTimeout] at timely before ⊢
    omega

omit timed

/-- A binding has a new timer. The others stay, and were confirmed no later. -/
structure Rearmed (turn last : TurnSocket) (binding : ChannelBinding) (timer : Timer) : Prop where
  refs : last.nextRef = turn.nextRef + 1
  now : last.now = turn.now
  name : timer.ref = turn.nextRef
  source : binding.timeoutSource = some turn.nextRef
  members : ∀ other ∈ last.priv.channels, other = binding ∨ other ∈ turn.priv.channels ∧
    ∀ span moment, Since turn.log other.ref span moment → Since last.log other.ref span moment
  timers : ∀ other ∈ last.timers, other ∈ turn.timers ∨ other = timer

/-- A new timer keeps the times. -/
theorem Timed.rearm (timed : turn.Timed) (rearmed : turn.Rearmed last binding timer)
    (follows : timer.Follows last.log binding.ref)
    (due : binding.renew = true → Since last.log binding.ref (seconds 540) last.now)
    (confirms : ∀ time other, (time, .confirm other) ∈ last.log →
      time ≤ turn.now ∧ other < turn.nextRef)
    (request : ∀ msg, last.priv.currentBindingMsg = some msg →
      msg.binding < last.nextRef ∧ Since last.log msg.binding (seconds 540) last.now)
    (lasting : Lasting last.log) : last.Timed where
  sources other member source is_source := by
    rw [rearmed.refs]
    rcases rearmed.members other member with rfl | ⟨old, -⟩
    · rw [← some.inj (rearmed.source.symm.trans is_source)]
      exact Nat.lt_succ_self _
    · exact (timed.sources other old source is_source).trans_le (Nat.le_succ _)
  timers other runs func := by
    rw [rearmed.refs]
    rcases rearmed.timers other runs with old | rfl
    · exact (timed.timers other old func).trans_le (Nat.le_succ _)
    · exact rearmed.name ▸ Nat.lt_succ_self _
  confirms time other member := by
    rw [rearmed.now, rearmed.refs]
    exact ⟨(confirms time other member).1, (confirms time other member).2.trans_le (Nat.le_succ _)⟩
  follows other member next runs source := by
    by_cases func : next.func.ofBinding = true
    · rcases rearmed.members other member with rfl | ⟨old, kept⟩
      · rcases rearmed.timers next runs with before | rfl
        · -- The name of the new timer was not given before.
          have name := timed.timers next before func
          rw [← some.inj (rearmed.source.symm.trans source)] at name
          exact absurd name (Nat.lt_irrefl _)
        · exact follows
      · rcases rearmed.timers next runs with before | rfl
        · exact (timed.follows other old next before source).mono kept
        · rw [rearmed.name] at source
          exact absurd (timed.sources other old _ source) (Nat.lt_irrefl _)
    · exact .of_other (Bool.eq_false_iff.mpr func) _ _
  due other member renew := by
    rcases rearmed.members other member with rfl | ⟨old, kept⟩
    · exact due renew
    · rw [rearmed.now]
      exact kept _ _ (timed.due other old renew)
  request := request
  lasting := lasting

/-- The binding that was asked for is armed, and the others stay. -/
theorem ConfirmedAs.members {channels : List ChannelBinding} (named : turn.Named)
    (confirmed : turn.ConfirmedAs request (some binding) channels) :
    ∀ other ∈ channels, other = turn.armed binding ∨
      other ∈ turn.priv.channels ∧ other.ref ≠ binding.ref := by
  have distinct := named.distinct
  rw [TurnSocket.live, map_append] at distinct
  intro other member
  cases confirmed with
  | added current =>
    rw [current] at distinct
    rcases mem_append.mp member with old | new
    · exact .inr ⟨old, (nodup_append.mp distinct).2.2 _ (mem_map_of_mem old) _
        (mem_singleton_self _)⟩
    · exact .inl (mem_singleton.mp new)
  | renewed free place =>
    exact key_ne_of_mem_set (nodup_append.mp distinct).1 place member

include timed

/-- A confirmation keeps the times. -/
theorem Timed.confirm (named : turn.Named) (asked : turn.priv.currentBindingMsg = some request)
    (taken : turn.bindingOf request = some binding) (same : binding.ref = request.binding)
    (confirmed : Confirmed env turn request last) : last.Timed := by
  have refs : last.nextRef = turn.nextRef + 1 :=
    confirmed.refs.resolve_right fun lost => by simp [taken] at lost
  have channels := confirmed.channels
  rw [taken] at channels
  have members := channels.members named
  obtain ⟨given, -⟩ := timed.request request asked
  obtain ⟨answer, answer_eq⟩ : ∃ answer : Entry, answer =
    (turn.now, .answer request.binding ((turn.bindingOf request).map ChannelBinding.ref)) := ⟨_, rfl⟩
  have quiet : ∀ entry ∈ [answer], entry.2.unconfirming = true := by
    rw [forall_mem_singleton, answer_eq]
    rfl
  have log : last.log = turn.log ++ [answer] ++ [(turn.now, .confirm binding.ref)] := by
    rw [confirmed.log, answer_eq, same, append_assoc]
    rfl
  have confirms : ∀ time other, (time, .confirm other) ∈ last.log →
      time ≤ turn.now ∧ other < turn.nextRef := by
    intro time other member
    rw [log, append_assoc] at member
    rcases mem_append.mp member with old | new
    · exact timed.confirms time other old
    · rw [answer_eq] at new
      simp only [singleton_append, mem_cons, Prod.mk.injEq, reduceCtorEq, and_false,
        Effect.confirm.injEq, not_mem_nil, or_false, false_or] at new
      rw [new.1, new.2, same]
      exact ⟨Nat.le_refl _, given⟩
  have rearmed : turn.Rearmed last (turn.armed binding) turn.renewalTimer := by
    refine ⟨refs, confirmed.now, rfl, rfl, fun other member => ?_, confirmed.timers⟩
    refine (members other member).imp_right fun old => ⟨old.1, fun span moment since => ?_⟩
    rw [log]
    exact (since.append quiet).confirm old.2 _
  refine timed.rearm rearmed ⟨rfl, fun time member => (confirms time _ member).1⟩ (fun renew => ?_)
    confirms (fun msg open_request => ?_) ?_
  · exact absurd renew (by simp [armed])
  · rw [confirmed.closed] at open_request
    exact absurd open_request (by simp)
  · rw [log]
    refine (timed.lasting.append quiet ?_).confirm _ _
    rw [forall_mem_singleton, answer_eq]
    trivial

/-- So does a renewal. -/
theorem Timed.renew (times : turn.Times timer .bindingTimeout index binding)
    (timely : timer.started + seconds timer.interval ≤ turn.now) :
    (turn.renewed timer index binding).Timed := by
  have since := (timed.fires times timely).1 rfl
  have log : (turn.renewed timer index binding).log = turn.log ++ [(turn.now, .timer timer)] := rfl
  have quiet : ∀ entry ∈ [((turn.now, .timer timer) : Entry)], entry.2.unconfirming = true := by
    rw [forall_mem_singleton]
    rfl
  have kept : ∀ {ref : Ref} {span moment : Nat}, Since turn.log ref span moment →
      Since (turn.renewed timer index binding).log ref span moment := fun since => since.append quiet
  have rearmed : turn.Rearmed (turn.renewed timer index binding)
      { binding with renew := true, timeoutSource := some turn.nextRef }
      ⟨turn.nextRef, turn.now, stunExpireTimeout, .bindingExpiredTimeout⟩ := by
    refine ⟨rfl, rfl, rfl, rfl, fun other member => ?_, fun other member => ?_⟩
    · exact (mem_or_eq_of_mem_set member).symm.imp_right fun old => ⟨old, fun _ _ => kept⟩
    · rcases mem_append.mp member with old | new
      · exact .inl (mem_filter.mp (mem_filter.mp old).1).1
      · exact .inr (mem_singleton.mp new)
  refine timed.rearm rearmed ⟨rfl, kept since⟩ (fun _ => kept since) ?_ ?_
    (timed.lasting.append quiet ?_)
  · intro time other member
    rcases mem_append.mp member with old | new
    · exact timed.confirms time other old
    · exact absurd new (by simp)
  · intro msg asked
    obtain ⟨given, since⟩ := timed.request msg asked
    exact ⟨given.trans_le (Nat.le_succ _), kept since⟩
  · rw [forall_mem_singleton]
    trivial

/-- So does an end. -/
theorem Timed.expire (times : turn.Times timer .bindingExpiredTimeout index binding)
    (timely : timer.started + seconds timer.interval ≤ turn.now) :
    (turn.expired timer index binding).Timed := by
  have since := (timed.fires times timely).2 rfl
  refine timed.frame [(turn.now, .timer timer), (turn.now, .remove binding.ref)] (Nat.le_refl _)
    (Nat.le_refl _) (fun _ member => .inl (mem_filter.mp member).1)
    (fun _ member => mem_of_mem_eraseIdx member) timed.request (append_assoc _ _ _) ?_ ?_
  · simp [Effect.unconfirming]
  · rw [forall_mem_cons, forall_mem_singleton]
    exact ⟨trivial, since⟩

/-- So does every move. -/
theorem Timed.move (named : turn.Named) (move : Move env calls turn last)
    (timely : ∀ entry ∈ last.log, Timely entry) : last.Timed := by
  cases move with
  | upcall condition buf source allowed =>
    exact timed.frame [_] (Nat.le_refl _) (Nat.le_refl _) (fun _ => .inl) (fun _ => id)
      timed.request rfl (forall_mem_singleton.mpr rfl) (forall_mem_singleton.mpr trivial)
  | wait elapsed =>
    exact timed.frame [] (Nat.le_add_right _ _) (Nat.le_refl _) (fun _ => .inl) (fun _ => id)
      (fun msg asked => ⟨(timed.request msg asked).1,
        (timed.request msg asked).2.mono (Nat.le_refl _) (Nat.le_add_right _ _)⟩)
      (append_nil _).symm (forall_mem_nil _)
      (forall_mem_nil _)
  | quiet quiet =>
    obtain ⟨more, log, other⟩ := quiet.log
    have now : last.now = turn.now := congrArg Bindings.now quiet.bindings
    have channels : last.priv.channels = turn.priv.channels :=
      congrArg Bindings.channels quiet.bindings
    have request : last.priv.currentBindingMsg = turn.priv.currentBindingMsg :=
      congrArg Bindings.currentBindingMsg quiet.bindings
    refine timed.frame more now.ge quiet.refs quiet.timers (fun _ member => channels ▸ member) ?_ log
      (fun entry member => (keeps_of_other (other entry member).1 turn.log).1)
      (fun entry member => (keeps_of_other (other entry member).1 turn.log).2)
    intro msg asked
    rw [request] at asked
    rw [now]
    exact ⟨(timed.request msg asked).1.trans_le quiet.refs, (timed.request msg asked).2⟩
  | works works => exact timed.works named works
  | answer asked =>
    exact timed.frame [_] (Nat.le_refl _) (Nat.le_refl _) (fun _ => .inl) (fun _ => id)
      (fun msg open_request => absurd open_request (by simp [answered])) rfl
      (forall_mem_singleton.mpr rfl) (forall_mem_singleton.mpr trivial)
  | retry asked taken again =>
    rename_i request binding next
    have same : binding.ref = request.binding := by
      have written : (turn.now, .answer request.binding
          ((turn.bindingOf request).map ChannelBinding.ref)) ∈ next.log := by
        obtain ⟨more, log, -⟩ := again.log
        rw [log]
        exact mem_append_left _ (mem_append_right _ (mem_singleton_self _))
      have found : (turn.bindingOf request).map ChannelBinding.ref = some request.binding := by
        by_cases renews : turn.priv.currentBinding.isNone = true
        · rw [if_pos renews] at timely
          exact timely _ (mem_append_left _ written)
        · rw [if_neg renews] at timely
          exact timely _ written
      rw [taken] at found
      exact some.inj found
    obtain ⟨sent, renewed⟩ := timed.retry asked same again
    split
    · exact renewed
    · exact sent
  | confirm asked =>
    rename_i request
    have confirmed := confirmed_spec env turn request
    have found : (turn.bindingOf request).map ChannelBinding.ref = some request.binding := by
      refine timely (turn.now, .answer request.binding
        ((turn.bindingOf request).map ChannelBinding.ref)) ?_
      rw [confirmed.log]
      exact mem_append_right _ mem_cons_self
    obtain ⟨binding, taken, same⟩ := map_eq_some_iff.mp found
    exact timed.confirm named asked taken same confirmed
  | idle timer =>
    exact timed.frame [_] (Nat.le_refl _) (Nat.le_refl _)
      (fun _ member => .inl (mem_filter.mp member).1) (fun _ => id) timed.request rfl
      (forall_mem_singleton.mpr rfl) (forall_mem_singleton.mpr trivial)
  | renew times =>
    exact timed.renew times (timely _ (mem_append_right _ (mem_singleton_self _)))
  | expire times =>
    exact timed.expire times (timely _ (mem_append_left _
      (mem_append_right _ (mem_singleton_self _))))
  | reclaim times free =>
    have expired := timed.expire times (timely _ (mem_append_left _
      (mem_append_right _ (mem_singleton_self _))))
    exact ⟨expired.sources, expired.timers, expired.confirms, expired.follows, expired.due,
      expired.request, expired.lasting⟩

omit timed

/-- In a run in which timers of bindings fire late enough, and answers are taken for the right
bindings, a binding lasts for 600 seconds and is not renewed before 540 seconds. -/
theorem lifetime_of_run (env : Env) (serverAddr : XiceAddress) (username password : List UInt8)
    (events : List (Nat × Event))
    (timely : ∀ entry ∈ ((turnSocketNew serverAddr username password .rfc5766).run env events).log,
      Timely entry) :
    Lasting ((turnSocketNew serverAddr username password .rfc5766).run env events).log := by
  have moves := moves_run env (turnSocketNew serverAddr username password .rfc5766) rfl events
  have named : (turnSocketNew serverAddr username password .rfc5766).Named :=
    ⟨nodup_nil, forall_mem_nil _⟩
  have timed : (turnSocketNew serverAddr username password .rfc5766).Timed := by
    refine ⟨forall_mem_nil _,
      forall_mem_nil _, fun _ _ member => absurd member not_mem_nil,
      forall_mem_nil _, forall_mem_nil _,
      fun msg asked => absurd asked (by simp [turnSocketNew]), ?_⟩
    intro front entry back split
    exact absurd split (by simp [turnSocketNew])
  exact (Moves.preserve Timely (fun turn => turn.Named ∧ turn.Timed)
    (fun _ _ move timely inv => ⟨inv.1.move move, inv.2.move inv.1 move timely⟩) moves timely
    ⟨named, timed⟩).2.lasting

/-- Two peers are bound. The first binding is renewed after 540 seconds and dropped after 600, when
the answer comes. -/
def patient : List (Nat × Event) :=
  [(0, .setPeer (plainPeer 1)), (0, bindSuccess 0), (0, .setPeer (plainPeer 2)), (0, bindSuccess 1),
    (seconds 540, .fire 3), (seconds 60, .fire 8), (0, bindSuccess 2)]

/-- It is confirmed, renewed and dropped in time. -/
theorem lifetime_of_run_patient :
    ((0, .confirm 0) ∈ (plainSocket.run plainEnv patient).log ∧
      (seconds 540, .renewal 0) ∈ (plainSocket.run plainEnv patient).log ∧
      (seconds 600, .remove 0) ∈ (plainSocket.run plainEnv patient).log) ∧
    Lasting (plainSocket.run plainEnv patient).log :=
  ⟨by decide +kernel, lifetime_of_run plainEnv plainServer [117] [] patient (by decide +kernel)⟩

/-- The timers as they are: a binding is renewed after 540 milliseconds and dropped after 600. -/
theorem binding_ends_early :
    ∃ front back, (plainSocket.run plainEnv reordered).log = front ++ (600000, .remove 0) :: back ∧
      (0, .confirm 0) ∈ front ∧ (540000, .renewal 0) ∈ front := by
  refine ⟨(plainSocket.run plainEnv reordered).log.take 12,
    (plainSocket.run plainEnv reordered).log.drop 13, ?_⟩
  decide +kernel

end TurnSocket

end Xice.Turn
