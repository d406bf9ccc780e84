import Mathlib.Logic.Relation
import Xice.Lib.Lists
import Xice.Turn.Socket

/-!
# What the functions of the TURN socket leave alone

Building a message and keeping timers changes neither the bindings nor the relay; the retransmission
of a request that is not due changes no binding; and the functions that start and end requests for
bindings never touch the list of the bound channels.
-/

namespace Xice.Turn

open Xice.Ice (XiceAddress)
open Xice.Lib List Option
open Xice.Socket (Message XiceSocketCondition XiceTurnSocketCompatibility)
open Xice.Stun

/-- The functions that belong to a channel binding. -/
def XiceTimerFunc.ofBinding : XiceTimerFunc → Bool
  | .bindingTimeout | .bindingExpiredTimeout => true
  | _ => false

/-- The entries that belong to a channel binding. -/
def Effect.ofBinding : Effect → Bool
  | .choose _ _ | .answer _ _ | .confirm _ | .timer _ | .renewal _ | .remove _ => true
  | _ => false

/-- The entries that retransmissions write for the relay. -/
def Effect.ofRelay : Effect → Bool
  | .send _ _ | .permit _ _ => true
  | _ => false

/-- No effect is of both kinds. -/
theorem Effect.ofBinding_of_ofRelay {effect : Effect} (relay : effect.ofRelay = true) :
    effect.ofBinding = false := by
  cases effect with
  | send | permit => rfl
  | ask | wrap | bare | refuse | upcall | choose | answer | confirm | timer | renewal | remove =>
    exact absurd relay (by simp [ofRelay])

/-- The part of the socket that belongs to the bindings. -/
structure Bindings where
  channels : List ChannelBinding
  pendingBindings : List XiceAddress
  currentBinding : Option ChannelBinding
  currentBindingMsg : Option TURNMessage
  serverAddr : XiceAddress
  compatibility : XiceTurnSocketCompatibility
  now : Nat

/-- The part of the socket that belongs to the relay. -/
structure Relay where
  permissions : List XiceAddress
  /-- Peers for which a permission is asked for. -/
  sentPermissions : List XiceAddress
  pendingPermissions : List TURNMessage
  sendDataQueues : List (XiceAddress × List (List UInt8))
  serverAddr : XiceAddress
  compatibility : XiceTurnSocketCompatibility
  log : List Entry

namespace TurnSocket

/-- The part that belongs to the bindings. -/
def bindings (turn : TurnSocket) : Bindings where
  channels := turn.priv.channels
  pendingBindings := turn.priv.pendingBindings
  currentBinding := turn.priv.currentBinding
  currentBindingMsg := turn.priv.currentBindingMsg
  serverAddr := turn.priv.serverAddr
  compatibility := turn.priv.compatibility
  now := turn.now

/-- The part that belongs to the relay. -/
def relay (turn : TurnSocket) : Relay where
  permissions := turn.priv.permissions
  sentPermissions := turn.priv.sentPermissions
  pendingPermissions := turn.priv.pendingPermissions
  sendDataQueues := turn.priv.sendDataQueues
  serverAddr := turn.priv.serverAddr
  compatibility := turn.priv.compatibility
  log := turn.log

/-- Names are given once, and a new timer is not one of a binding. -/
structure Clocked (turn last : TurnSocket) : Prop where
  refs : turn.nextRef ≤ last.nextRef
  timers : ∀ timer ∈ last.timers, timer ∈ turn.timers ∨ timer.func.ofBinding = false

variable {turn next last : TurnSocket} {msg : TURNMessage} {binding : Ref}

/-- Nothing happened. -/
theorem Clocked.refl (turn : TurnSocket) : turn.Clocked turn := ⟨Nat.le_refl _, fun _ => .inl⟩

/-- One after the other. -/
theorem Clocked.trans (first : turn.Clocked next) (second : next.Clocked last) :
    turn.Clocked last := by
  refine ⟨first.refs.trans second.refs, ?_⟩
  intro timer member
  rcases second.timers timer member with before | other
  · exact first.timers timer before
  · exact .inr other

/-- Fields of neither bindings nor relay are changed. -/
structure Tidy (turn last : TurnSocket) : Prop extends turn.Clocked last where
  bindings : last.bindings = turn.bindings
  relay : last.relay = turn.relay

/-- Nothing happened. -/
theorem Tidy.refl (turn : TurnSocket) : turn.Tidy turn := ⟨Clocked.refl turn, rfl, rfl⟩

/-- One after the other. -/
theorem Tidy.trans (first : turn.Tidy next) (second : next.Tidy last) : turn.Tidy last :=
  ⟨first.toClocked.trans second.toClocked, second.bindings.trans first.bindings,
    second.relay.trans first.relay⟩

/-- A change of other fields, with the same timers. -/
theorem tidy_of_eq (same : (last.bindings, last.relay, last.timers) =
    (turn.bindings, turn.relay, turn.timers)) (refs : turn.nextRef ≤ last.nextRef) :
    turn.Tidy last := by
  obtain ⟨bindings, relay, timers⟩ := by simpa only [Prod.mk.injEq] using same
  exact ⟨⟨refs, fun _ member => .inl (timers ▸ member)⟩, bindings, relay⟩

/-- A timer of another kind is started. -/
theorem tidy_timeoutAdd (turn : TurnSocket) (interval : Nat) (func : XiceTimerFunc)
    (other : func.ofBinding = false) : turn.Tidy (turn.timeoutAdd interval func).1 := by
  refine ⟨⟨Nat.le_succ _, ?_⟩, rfl, rfl⟩
  intro timer member
  rcases mem_append.mp member with old | new
  · exact .inl old
  · rw [mem_singleton.mp new]
    exact .inr other

/-- A timer is destroyed. -/
theorem tidy_timerDestroy (turn : TurnSocket) (ref : Ref) : turn.Tidy (turn.timerDestroy ref) :=
  ⟨⟨Nat.le_refl _, fun _ member => .inl (mem_filter.mp member).1⟩, rfl, rfl⟩

/-- So is one that may be there. -/
theorem tidy_timerClear (turn : TurnSocket) (ref : Option Ref) : turn.Tidy (turn.timerClear ref) := by
  cases ref with
  | none => exact Tidy.refl turn
  | some ref => exact tidy_timerDestroy turn ref

/-- A message is finished. -/
theorem tidy_finishMessage (env : Env) (turn : TurnSocket) (msg : StunMessage) :
    turn.Tidy (turn.finishMessage env msg).1 := by
  unfold finishMessage
  split
  · exact Tidy.refl turn
  · exact tidy_of_eq rfl le_rfl

/-- The MS-TURN attributes. -/
theorem tidy_appendMs (turn : TurnSocket) (msg : StunMessage) : turn.Tidy (turn.appendMs msg).1 := by
  by_cases known : turn.priv.msConnectionIdValid = true
  · simp only [appendMs, if_pos known]
    exact tidy_of_eq rfl le_rfl
  · simp only [appendMs, if_neg known]
    exact Tidy.refl turn

/-- A transaction id is made. -/
theorem tidy_makeTransid (env : Env) (turn : TurnSocket) : turn.Tidy (turn.makeTransid env).1 :=
  tidy_of_eq rfl le_rfl

/-- A ChannelBind request is built. -/
theorem tidy_channelBindMessage (env : Env) (turn : TurnSocket) (resp : Option StunMessage)
    (channel : UInt16) (peer : XiceAddress) :
    turn.Tidy (turn.channelBindMessage env resp channel peer).1 := by
  simp only [channelBindMessage]
  split
  · exact tidy_makeTransid env turn
  · exact (tidy_makeTransid env turn).trans (tidy_finishMessage env _ _)

/-- A CreatePermission request is built. -/
theorem tidy_createPermissionMessage (env : Env) (turn : TurnSocket) (resp : Option StunMessage)
    (peer : XiceAddress) : turn.Tidy (turn.createPermissionMessage env resp peer).1 := by
  simp only [createPermissionMessage]
  split
  · exact tidy_makeTransid env turn
  · exact (tidy_makeTransid env turn).trans (tidy_finishMessage env _ _)

/-! ### Requests that are not due -/

/-- What the retransmissions do to the relay. -/
inductive Act (env : Env) (turn : TurnSocket) : TurnSocket → Prop where
  /-- Nothing. -/
  | same {last : TurnSocket} : last.relay = turn.relay → Act env turn last
  /-- An entry for a binding is written. -/
  | note (effect : Effect) : effect.ofBinding = true → Act env turn (turn.emit effect)
  /-- A message of the socket itself is sent. -/
  | control (buf : List UInt8) : Act env turn (turn.sendServer env buf none).1
  /-- A request for a permission is sent again. -/
  | retime {msg : TURNMessage} (timer : StunTimer) : msg ∈ turn.priv.pendingPermissions →
      Act env turn (turn.setPermission { msg with timer := timer })
  /-- A request for a permission is over. -/
  | grant {msg : TURNMessage} : msg ∈ turn.priv.pendingPermissions →
      Act env turn ((turn.deletePermission msg.ref).grant env (peerOf msg))

/-- Datagrams are sent, permissions are given, and the bindings stay. -/
structure Kept (env : Env) (turn last : TurnSocket) : Prop extends turn.Clocked last where
  bindings : last.bindings = turn.bindings
  acts : Relation.ReflTransGen (Act env) turn last
  log : ∃ more, last.log = turn.log ++ more ∧
    ∀ entry ∈ more, entry.1 = turn.now ∧ entry.2.ofRelay = true

variable {env : Env}

/-- Tidy changes do neither. -/
theorem Tidy.kept (tidy : turn.Tidy last) : turn.Kept env last :=
  ⟨tidy.toClocked, tidy.bindings, .single (.same tidy.relay),
    Lists.appended_nil (congrArg Relay.log tidy.relay)⟩

/-- A change of other fields, with the same timers. -/
theorem kept_of_eq (same : (last.bindings, last.relay, last.timers) =
    (turn.bindings, turn.relay, turn.timers)) (refs : turn.nextRef ≤ last.nextRef) :
    turn.Kept env last :=
  (tidy_of_eq same refs).kept

/-- Nothing happened. -/
theorem Kept.refl (turn : TurnSocket) : turn.Kept env turn := (Tidy.refl turn).kept

/-- The time stands still. -/
theorem Kept.now (kept : turn.Kept env last) : last.now = turn.now :=
  congrArg Bindings.now kept.bindings

/-- One after the other. -/
theorem Kept.trans (first : turn.Kept env next) (second : next.Kept env last) :
    turn.Kept env last :=
  ⟨first.toClocked.trans second.toClocked, second.bindings.trans first.bindings,
    first.acts.trans second.acts, Lists.appended_trans first.log (first.now ▸ second.log)⟩

/-- A datagram is sent. -/
theorem kept_sendServer (env : Env) (turn : TurnSocket) (buf : List UInt8) :
    turn.Kept env (turn.sendServer env buf none).1 := by
  refine ⟨⟨Nat.le_refl _, fun _ => .inl⟩, rfl, .single (.control buf), _, rfl, ?_⟩
  intro entry member
  rw [mem_singleton.mp member]
  exact ⟨rfl, rfl⟩

/-- The datagrams that `socket_dequeue_all_data` sends. -/
theorem dequeue_sends (env : Env) (turn : TurnSocket) (peer : XiceAddress)
    (queue : List (List UInt8)) :
    queue.foldl (fun turn data => (turn.baseSend env ⟨some peer, data⟩ (some peer)).1) turn =
      { turn with log := turn.log ++
          queue.map fun data => (turn.now, .send ⟨some peer, data⟩ (some peer)) } := by
  induction queue generalizing turn with
  | nil => simp only [foldl_nil, map_nil, append_nil]
  | cons data queue ih =>
    rw [foldl_cons, ih]
    simp only [baseSend, emit, append_assoc, singleton_append, map_cons]

/-- The peer is listed, and its queue is sent. -/
theorem grant_eq (env : Env) (turn : TurnSocket) (peer : XiceAddress) :
    turn.grant env peer = { turn with
      priv.sentPermissions := removePeerFromList turn.priv.sentPermissions peer
      priv.permissions := turn.priv.permissions ++ [peer]
      priv.sendDataQueues := turn.priv.sendDataQueues.filter fun entry => !entry.1.equal peer
      log := turn.log ++ (turn.now, .permit peer (queueOf turn.priv.sendDataQueues peer)) ::
        (queueOf turn.priv.sendDataQueues peer).map
          fun data => (turn.now, .send ⟨some peer, data⟩ (some peer)) } := by
  simp only [grant, dequeueAllData, dequeue_sends, emit, append_assoc, singleton_append]

/-- A permission is given. -/
theorem kept_grant (env : Env) (pending : msg ∈ turn.priv.pendingPermissions) :
    turn.Kept env ((turn.deletePermission msg.ref).grant env (peerOf msg)) := by
  have acts : Relation.ReflTransGen (Act env) turn
      ((turn.deletePermission msg.ref).grant env (peerOf msg)) := .single (.grant pending)
  rw [grant_eq] at acts ⊢
  refine ⟨⟨Nat.le_refl _, fun _ => Or.inl⟩, rfl, acts, _, rfl, ?_⟩
  rw [List.forall_mem_cons, List.forall_mem_map]
  exact ⟨⟨rfl, rfl⟩, fun _ _ => ⟨rfl, rfl⟩⟩

/-- A request is to be sent again. -/
theorem kept_retime (env : Env) (timer : StunTimer) (pending : msg ∈ turn.priv.pendingPermissions) :
    turn.Kept env (turn.setPermission { msg with timer := timer }) :=
  ⟨⟨Nat.le_refl _, fun _ => .inl⟩, rfl, .single (.retime timer pending), Lists.appended_nil rfl⟩

/-- The request for a binding is to be sent again. -/
def Due (turn : TurnSocket) : Prop :=
  ∃ msg, turn.priv.currentBindingMsg = some msg ∧ (msg.timer.remainder turn.now).toNat = 0

/-- What is not due stays so. -/
theorem Kept.due (kept : turn.Kept env last) (waits : ¬turn.Due) : ¬last.Due := by
  rintro ⟨msg, request, elapsed⟩
  apply waits
  have same : turn.priv.currentBindingMsg = last.priv.currentBindingMsg :=
    (congrArg Bindings.currentBindingMsg kept.bindings).symm
  exact ⟨msg, same.trans request, kept.now ▸ elapsed⟩

/-- One turn of a loop over `pending_permissions`. -/
theorem kept_foldl {visit : TurnSocket → Ref → TurnSocket}
    (visits : ∀ (turn : TurnSocket) (ref : Ref), ¬turn.Due → turn.Kept env (visit turn ref)) (refs : List Ref)
    (turn : TurnSocket) (waits : ¬turn.Due) : turn.Kept env (refs.foldl visit turn) := by
  induction refs generalizing turn with
  | nil => exact Kept.refl turn
  | cons ref refs ih =>
    have first := visits turn ref waits
    exact first.trans (ih _ (first.due waits))

/-- The timer of the request for a binding is taken away. -/
theorem kept_clearTick (env : Env) (turn : TurnSocket) :
    turn.Kept env { turn.timerClear turn.priv.tickSourceChannelBind with
      priv.tickSourceChannelBind := none } :=
  Kept.trans (tidy_timerClear turn turn.priv.tickSourceChannelBind).kept
    (kept_of_eq rfl le_rfl)

/-- A turn of the loop while no request for a binding is due. -/
theorem kept_tick (waits : ¬turn.Due) (due : TurnSocket → TurnSocket) :
    turn.Kept env (match turn.priv.currentBindingMsg with
      | none => turn
      | some msg =>
        if (msg.timer.remainder turn.now).toNat > 0 then
          { (turn.timeoutAdd (msg.timer.remainder turn.now).toNat .retransmissionsTick).1 with
            priv.tickSourceChannelBind := some turn.nextRef }
        else due turn) := by
  split
  · exact Kept.refl turn
  · rename_i msg request
    have left : (msg.timer.remainder turn.now).toNat > 0 :=
      Nat.pos_of_ne_zero fun elapsed => waits ⟨msg, request, elapsed⟩
    generalize (msg.timer.remainder turn.now).toNat = interval at left ⊢
    rw [if_pos left]
    exact Kept.trans (tidy_timeoutAdd turn _ .retransmissionsTick rfl).kept
      (kept_of_eq rfl le_rfl)

/-- Requests for permissions change no binding. -/
theorem kept_schedule (env : Env) (depth : Nat) :
    (∀ turn : TurnSocket, ¬turn.Due → turn.Kept env (scheduleTick env depth turn)) ∧
    ∀ (turn : TurnSocket) (msg : TURNMessage), msg ∈ turn.priv.pendingPermissions → ¬turn.Due →
      turn.Kept env (createPermissionTickUnlocked env depth turn msg).1 := by
  induction depth with
  | zero =>
    refine ⟨fun turn _ => ?_, fun turn msg _ _ => ?_⟩
    · rw [scheduleTick]
      exact Kept.refl turn
    · rw [createPermissionTickUnlocked]
      exact Kept.refl turn
  | succ depth ih =>
    obtain ⟨schedules, ticks⟩ := ih
    constructor
    · intro turn waits
      rw [scheduleTick]
      -- The old timer is taken away, the request for a binding waits, then the permissions.
      have cleared := kept_clearTick env turn
      have ticked := cleared.trans (kept_tick (cleared.due waits)
        fun turn => (retransmissionsTickUnlocked env depth turn).1)
      refine ticked.trans (kept_foldl ?_ _ _ (ticked.due waits))
      intro turn ref waits
      split
      · exact Kept.refl turn
      · rename_i msg found
        dsimp only
        split
        · exact Kept.trans (tidy_timeoutAdd turn _ .createPermissionTick rfl).kept
            (kept_of_eq rfl le_rfl)
        · exact ticks turn msg (mem_of_find?_eq_some found) waits
    · intro turn msg pending waits
      rw [createPermissionTickUnlocked]
      split
      · have forgot : turn.Kept env (turn.forgetTransaction msg.message.id.value) :=
          kept_of_eq rfl le_rfl
        exact forgot.trans (kept_grant env pending)
      · rename_i timer _
        have sent := (kept_retime env timer pending).trans
          (kept_sendServer env _ (bytesOf msg.message))
        exact sent.trans (schedules _ (sent.due waits))
      · exact schedules turn waits

/-! ### Requests for bindings -/

/-- The numbers of the channels that are bound. -/
def numbers (turn : TurnSocket) : List UInt16 := turn.priv.channels.map ChannelBinding.channel

/-- The number that is chosen while these are bound. -/
def chosen (bound : List UInt16) : UInt16 := walkChannels bound 65536 0x4000 bound

/-- A request for a binding is sent. -/
structure Asked (env : Env) (binding : Ref) (turn last : TurnSocket) : Prop
    extends turn.Clocked last where
  bindings : ∃ msg, msg.binding = binding ∧
    last.bindings = { turn.bindings with currentBindingMsg := some msg }
  acts : Relation.ReflTransGen (Act env) turn last
  log : ∃ more, last.log = turn.log ++ more ∧
    ∀ entry ∈ more, entry.1 = turn.now ∧ entry.2.ofRelay = true

/-- A request is sent. -/
theorem asked_startRequest (env : Env) (turn : TurnSocket) (msg : StunMessage) (binding : Ref) :
    Asked env binding turn (turn.startRequest env msg binding) := by
  have sent := kept_sendServer env turn (bytesOf msg)
  exact ⟨⟨Nat.le_succ _, fun _ => .inl⟩, ⟨_, rfl, rfl⟩, sent.acts.tail (.same rfl), sent.log⟩

/-- The timer of a message that is sent has time left. -/
theorem startTimer_left (env : Env) (turn : TurnSocket) (msg : StunMessage) (binding : Ref) :
    ((turn.startTimer env msg binding).2.timer.remainder turn.now).toNat ≠ 0 := by
  rw [startTimer]
  simp only
  split <;> exact StunTimer.remainder_start _ _ (by decide) (by decide)

/-- A new request is not due. -/
theorem startRequest_waits (env : Env) (turn : TurnSocket) (msg : StunMessage) (binding : Ref) :
    ¬(turn.startRequest env msg binding).Due := by
  rintro ⟨request, started, elapsed⟩
  obtain rfl := some.inj started
  exact startTimer_left env (turn.sendServer env (bytesOf msg) none).1 msg binding elapsed

/-- The bindings stay behind a request. -/
theorem Asked.trans_kept (asked : Asked env binding turn next) (kept : next.Kept env last) :
    Asked env binding turn last := by
  obtain ⟨msg, named, bindings⟩ := asked.bindings
  have now : next.now = turn.now := congrArg Bindings.now bindings
  exact ⟨asked.toClocked.trans kept.toClocked, ⟨msg, named, kept.bindings.trans bindings⟩,
    asked.acts.trans kept.acts, Lists.appended_trans asked.log (now ▸ kept.log)⟩

/-- They stay before it. -/
theorem Kept.trans_asked (kept : turn.Kept env next) (asked : Asked env binding next last) :
    Asked env binding turn last :=
  ⟨kept.toClocked.trans asked.toClocked, kept.bindings ▸ asked.bindings,
    kept.acts.trans asked.acts, Lists.appended_trans kept.log (kept.now ▸ asked.log)⟩

/-- `priv_send_turn_message` asks for a binding. -/
theorem asked_sendTurnMessage (env : Env) (depth : Nat) (turn : TurnSocket) (msg : StunMessage)
    (binding : Ref) : Asked env binding turn (sendTurnMessage env depth turn msg binding) := by
  have started := asked_startRequest env turn msg binding
  cases depth with
  | zero =>
    rw [sendTurnMessage]
    exact started
  | succ depth =>
    rw [sendTurnMessage]
    exact started.trans_kept ((kept_schedule env depth).1 _ (startRequest_waits env turn msg binding))

/-- `priv_send_channel_bind` sends a request, or changes nothing that matters. -/
theorem sendChannelBind_cases (env : Env) (depth : Nat) (turn : TurnSocket)
    (resp : Option StunMessage) (binding : Ref) (channel : UInt16) (peer : XiceAddress) :
    (∃ last, sendChannelBind env depth turn resp binding channel peer = (last, true) ∧
      Asked env binding turn last) ∨
    ∃ last, sendChannelBind env depth turn resp binding channel peer = (last, false) ∧
      turn.Tidy last := by
  cases depth with
  | zero =>
    rw [sendChannelBind]
    exact .inr ⟨turn, rfl, Tidy.refl turn⟩
  | succ depth =>
    have built := tidy_channelBindMessage env turn resp channel peer
    rw [sendChannelBind]
    generalize turn.channelBindMessage env resp channel peer = message at built ⊢
    rcases message with ⟨next, none | msg⟩
    · exact .inr ⟨next, rfl, built⟩
    · exact .inl ⟨_, rfl, built.kept.trans_asked (asked_sendTurnMessage env depth next msg binding)⟩

/-- What requests for bindings write. -/
inductive Working (turn : TurnSocket) : Effect → Prop where
  | other {effect : Effect} : effect.ofRelay = true → Working turn effect
  | choose : 0x4000 ≤ chosen turn.numbers → Working turn (.choose turn.numbers (chosen turn.numbers))
  | renewal {binding : ChannelBinding} : binding ∈ turn.priv.channels → binding.renew = true →
      Working turn (.renewal binding.ref)

/-- A new binding with a number chosen for it. -/
structure Fresh (turn last : TurnSocket) (binding : ChannelBinding) : Prop where
  above : turn.nextRef ≤ binding.ref
  below : binding.ref < last.nextRef
  untimed : binding.timeoutSource = none
  range : 0x4000 ≤ binding.channel
  number : binding.channel = chosen turn.numbers
  choice : (turn.now, .choose turn.numbers binding.channel) ∈ last.log

/-- What starting and ending requests does. -/
structure Works (env : Env) (turn last : TurnSocket) : Prop extends turn.Clocked last where
  now : last.now = turn.now
  mode : last.priv.compatibility = turn.priv.compatibility
  channels : last.priv.channels = turn.priv.channels
  current : ∀ binding, last.priv.currentBinding = some binding →
    turn.priv.currentBinding = some binding ∨ turn.Fresh last binding
  request : ∀ msg, last.priv.currentBindingMsg = some msg →
    (∃ old, turn.priv.currentBindingMsg = some old ∧ msg.binding = old.binding) ∨
    turn.nextRef ≤ msg.binding ∧ msg.binding < last.nextRef ∨
    ∃ binding ∈ turn.priv.channels, binding.renew = true ∧ binding.ref = msg.binding
  acts : Relation.ReflTransGen (Act env) turn last
  log : ∃ more, last.log = turn.log ++ more ∧
    ∀ entry ∈ more, entry.1 = turn.now ∧ turn.Working entry.2

/-- The list decides. -/
theorem Working.of_channels (same : last.priv.channels = turn.priv.channels) {effect : Effect}
    (working : last.Working effect) : turn.Working effect := by
  have numbers : last.numbers = turn.numbers := congrArg (List.map ChannelBinding.channel) same
  cases working with
  | other effect => exact .other effect
  | choose range =>
    rw [numbers] at range ⊢
    exact .choose range
  | renewal member renew => exact .renewal (same ▸ member) renew

/-- A new binding stays new. -/
theorem Fresh.mono {binding : ChannelBinding} (fresh : turn.Fresh next binding)
    (refs : next.nextRef ≤ last.nextRef) (grows : next.log ⊆ last.log) : turn.Fresh last binding :=
  { fresh with below := fresh.below.trans_le refs, choice := grows fresh.choice }

/-- The log grows. -/
theorem Works.grows (works : turn.Works env last) : turn.log ⊆ last.log := by
  obtain ⟨more, grown, -⟩ := works.log
  exact grown ▸ subset_append_left _ _

/-- One after the other. -/
theorem Works.trans (first : turn.Works env next) (second : next.Works env last) :
    turn.Works env last := by
  have numbers : next.numbers = turn.numbers :=
    congrArg (List.map ChannelBinding.channel) first.channels
  have later : ∀ entry : Entry, entry.1 = next.now ∧ next.Working entry.2 →
      entry.1 = turn.now ∧ turn.Working entry.2 := fun _ written =>
    ⟨written.1.trans first.now, written.2.of_channels first.channels⟩
  refine ⟨first.toClocked.trans second.toClocked, second.now.trans first.now,
    second.mode.trans first.mode, second.channels.trans first.channels, ?_, ?_,
    first.acts.trans second.acts,
    Lists.appended_trans first.log (Lists.appended_mono later second.log)⟩
  · intro binding asked
    rcases second.current binding asked with before | fresh
    · exact (first.current binding before).imp id fun fresh =>
        fresh.mono second.refs second.grows
    · have choice := fresh.choice
      have number := fresh.number
      rw [numbers] at number
      rw [numbers, first.now] at choice
      exact .inr ⟨first.refs.trans fresh.above, fresh.below, fresh.untimed, fresh.range, number,
        choice⟩
  · intro msg asked
    rcases second.request msg asked with ⟨old, before, same⟩ | fresh | ⟨binding, member, renew, named⟩
    · rw [same]
      rcases first.request old before with older | fresh | renewed
      · exact .inl older
      · exact .inr (.inl ⟨fresh.1, fresh.2.trans_le second.refs⟩)
      · exact .inr (.inr renewed)
    · exact .inr (.inl ⟨first.refs.trans fresh.1, fresh.2⟩)
    · exact .inr (.inr ⟨binding, first.channels ▸ member, renew, named⟩)

/-- Only listed effects, and the request stays or is gone. -/
theorem works_of_eq (bindings : last.bindings = { turn.bindings with
      pendingBindings := last.priv.pendingBindings
      currentBinding := last.priv.currentBinding
      currentBindingMsg := last.priv.currentBindingMsg })
    (current : last.priv.currentBinding = turn.priv.currentBinding ∨ last.priv.currentBinding = none)
    (request : last.priv.currentBindingMsg = turn.priv.currentBindingMsg ∨
      last.priv.currentBindingMsg = none) (same : (last.relay, last.timers) =
      (turn.relay, turn.timers)) (refs : turn.nextRef ≤ last.nextRef) : turn.Works env last := by
  obtain ⟨relay, timers⟩ := Prod.mk.inj same
  refine ⟨⟨refs, fun _ member => .inl (timers ▸ member)⟩, congrArg Bindings.now bindings,
    congrArg Bindings.compatibility bindings, congrArg Bindings.channels bindings, ?_, ?_,
    .single (.same relay), Lists.appended_nil (congrArg Relay.log relay)⟩
  · intro binding asked
    rcases current with same | gone
    · exact .inl (same ▸ asked)
    · rw [gone] at asked
      exact absurd asked (by simp)
  · intro msg asked
    rcases request with same | gone
    · exact .inl ⟨msg, same ▸ asked, rfl⟩
    · rw [gone] at asked
      exact absurd asked (by simp)

/-- It includes what keeps the bindings. -/
theorem Kept.works (kept : turn.Kept env last) : turn.Works env last := by
  have current : last.priv.currentBinding = turn.priv.currentBinding :=
    congrArg Bindings.currentBinding kept.bindings
  have request : last.priv.currentBindingMsg = turn.priv.currentBindingMsg :=
    congrArg Bindings.currentBindingMsg kept.bindings
  exact ⟨kept.toClocked, kept.now, congrArg Bindings.compatibility kept.bindings,
    congrArg Bindings.channels kept.bindings, fun binding asked => .inl (current ▸ asked),
    fun msg asked => .inl ⟨msg, request ▸ asked, rfl⟩, kept.acts,
    Lists.appended_mono (fun _ written => ⟨written.1, .other written.2⟩) kept.log⟩

/-- It includes requests. -/
theorem Asked.works (asked : Asked env binding turn last)
    (named : turn.nextRef ≤ binding ∧ binding < last.nextRef ∨
      ∃ bound ∈ turn.priv.channels, bound.renew = true ∧ bound.ref = binding) :
    turn.Works env last := by
  obtain ⟨msg, rfl, bindings⟩ := asked.bindings
  have current : last.priv.currentBinding = turn.priv.currentBinding :=
    congrArg Bindings.currentBinding bindings
  have request : last.priv.currentBindingMsg = some msg :=
    congrArg Bindings.currentBindingMsg bindings
  refine ⟨asked.toClocked, congrArg Bindings.now bindings,
    congrArg Bindings.compatibility bindings, congrArg Bindings.channels bindings,
    fun binding asked => .inl (current ▸ asked), ?_, asked.acts,
    Lists.appended_mono (fun _ written => ⟨written.1, .other written.2⟩) asked.log⟩
  intro other started
  rw [request] at started
  obtain rfl := some.inj started
  exact .inr named

/-- An entry for a binding is written behind the others. -/
theorem Works.note (works : turn.Works env last) {effect : Effect} (noted : effect.ofBinding = true)
    (working : turn.Working effect) : turn.Works env (last.emit effect) := by
  refine { works with
    current := fun binding current => (works.current binding current).imp id fun fresh =>
      fresh.mono (Nat.le_refl _) (subset_append_left _ _)
    acts := works.acts.tail (.note _ noted)
    log := Lists.appended_trans works.log ⟨_, rfl, ?_⟩ }
  rw [forall_mem_singleton]
  exact ⟨works.now, working⟩

/-- Nothing happened. -/
theorem Works.refl (turn : TurnSocket) : turn.Works env turn := (Kept.refl turn).works

/-- A new binding is asked for. -/
theorem Asked.chosen (peer : XiceAddress)
    (asked : Asked env turn.nextRef { turn with nextRef := turn.nextRef + 1 } last)
    (range : 0x4000 ≤ chosen turn.numbers) :
    turn.Works env { last.emit (.choose turn.numbers (chosen turn.numbers)) with
      priv.currentBinding := some ⟨turn.nextRef, peer, chosen turn.numbers, false, none⟩ } := by
  have named : turn.Kept env { turn with nextRef := turn.nextRef + 1 } :=
    kept_of_eq rfl (Nat.le_succ _)
  have works := (named.trans_asked asked).works (.inl ⟨Nat.le_refl _, asked.refs⟩)
  have noted : turn.Works env
      (last.emit (.choose turn.numbers (TurnSocket.chosen turn.numbers))) :=
    works.note rfl (.choose range)
  refine { noted with current := ?_, acts := noted.acts.tail (.same rfl) }
  intro binding current
  obtain rfl := some.inj current
  refine .inr ⟨Nat.le_refl _, asked.refs, rfl, range, rfl, ?_⟩
  rw [← works.now]
  exact mem_append_right _ (mem_singleton_self _)

/-- `priv_add_channel_binding` asks for the number that it chooses. -/
theorem works_addChannelBinding (env : Env) (depth : Nat) (turn : TurnSocket) (peer : XiceAddress)
    (mode : turn.priv.compatibility = .rfc5766) :
    turn.Works env (addChannelBinding env depth turn peer).1 := by
  cases depth with
  | zero =>
    rw [addChannelBinding]
    exact Works.refl turn
  | succ depth =>
    rw [addChannelBinding]
    by_cases busy : turn.priv.currentBinding.isSome = true
    · rw [if_pos busy]
      exact works_of_eq rfl (.inl rfl) (.inl rfl) rfl le_rfl
    · rw [if_neg busy]
      have named : turn.Works env { turn with nextRef := turn.nextRef + 1 } :=
        works_of_eq rfl (.inl rfl) (.inl rfl) rfl (Nat.le_succ _)
      simp only [mode]
      split
      · rename_i range
        rcases sendChannelBind_cases env depth { turn with nextRef := turn.nextRef + 1 } none
          turn.nextRef (chosen turn.numbers) peer with ⟨last, sent, asked⟩ | ⟨last, failed, tidy⟩
        · rw [chosen, numbers] at sent
          rw [sent]
          exact asked.chosen peer range.1
        · rw [chosen, numbers] at failed
          rw [failed]
          exact named.trans tidy.kept.works
      · exact named

/-- A binding is to be renewed. -/
theorem Asked.renewal {binding : ChannelBinding} (asked : Asked env binding.ref turn last)
    (member : binding ∈ turn.priv.channels) (renew : binding.renew = true) :
    turn.Works env (last.emit (.renewal binding.ref)) :=
  (asked.works (.inr ⟨binding, member, renew, rfl⟩)).note rfl (.renewal member renew)

/-- A request is sent again. -/
theorem works_again (env : Env) (request : turn.priv.currentBindingMsg = some msg)
    (timer : StunTimer) :
    turn.Works env { turn with priv.currentBindingMsg := some { msg with timer := timer } } := by
  refine ⟨⟨Nat.le_refl _, fun _ => .inl⟩, rfl, rfl, rfl, fun _ => .inl, ?_, .single (.same rfl),
    Lists.appended_nil rfl⟩
  intro other started
  obtain rfl := some.inj started
  exact .inl ⟨msg, request, rfl⟩

/-- The request for a binding may be due. -/
theorem works_tick (due : TurnSocket → TurnSocket) (turn : TurnSocket)
    (works : turn.Works env (due turn)) :
    turn.Works env (match turn.priv.currentBindingMsg with
      | none => turn
      | some msg =>
        if (msg.timer.remainder turn.now).toNat > 0 then
          { (turn.timeoutAdd (msg.timer.remainder turn.now).toNat .retransmissionsTick).1 with
            priv.tickSourceChannelBind := some turn.nextRef }
        else due turn) := by
  by_cases waits : turn.Due
  · obtain ⟨msg, request, elapsed⟩ := waits
    rw [request]
    simp only
    generalize (msg.timer.remainder turn.now).toNat = interval at elapsed ⊢
    rw [if_neg (by omega)]
    exact works
  · exact (kept_tick waits due).works

/-- A loop over requests. -/
theorem works_foldl {visit : TurnSocket → Ref → TurnSocket}
    (visits : ∀ (turn : TurnSocket) (ref : Ref), turn.priv.compatibility = .rfc5766 →
      turn.Works env (visit turn ref)) (refs : List Ref)
    (turn : TurnSocket) (mode : turn.priv.compatibility = .rfc5766) :
    turn.Works env (refs.foldl visit turn) := by
  induction refs generalizing turn with
  | nil => exact Works.refl turn
  | cons ref refs ih =>
    have first := visits turn ref mode
    exact first.trans (ih _ (first.mode.trans mode))

/-- The functions that call each other. Each turn of the induction is one nested call. -/
theorem works_calls (env : Env) (depth : Nat) :
    (∀ turn : TurnSocket, turn.priv.compatibility = .rfc5766 →
      turn.Works env (scheduleTick env depth turn)) ∧
    (∀ turn : TurnSocket, turn.priv.compatibility = .rfc5766 →
      turn.Works env (retransmissionsTickUnlocked env depth turn).1) ∧
    (∀ (turn : TurnSocket) (msg : TURNMessage), msg ∈ turn.priv.pendingPermissions →
      turn.priv.compatibility = .rfc5766 →
      turn.Works env (createPermissionTickUnlocked env depth turn msg).1) ∧
    (∀ turn : TurnSocket, turn.priv.compatibility = .rfc5766 →
      turn.Works env (processPendingBindings env depth turn)) ∧
    ∀ turn : TurnSocket, turn.priv.compatibility = .rfc5766 →
      turn.Works env (pendingBindingsLoop env depth turn) := by
  induction depth with
  | zero =>
    simp only [scheduleTick, retransmissionsTickUnlocked, createPermissionTickUnlocked,
      processPendingBindings, pendingBindingsLoop]
    exact ⟨fun turn _ => Works.refl turn, fun turn _ => Works.refl turn,
      fun turn _ _ _ => Works.refl turn, fun turn _ => Works.refl turn, fun turn _ => Works.refl turn⟩
  | succ depth ih =>
    obtain ⟨schedules, retransmits, permits, processes, loops⟩ := ih
    refine ⟨?_, ?_, ?_, ?_, ?_⟩
    · intro turn mode
      rw [scheduleTick]
      have cleared := (kept_clearTick env turn).works
      have ticked := cleared.trans (works_tick
        (fun turn => (retransmissionsTickUnlocked env depth turn).1) _
        (retransmits _ (cleared.mode.trans mode)))
      refine ticked.trans (works_foldl ?_ _ _ (ticked.mode.trans mode))
      intro turn ref mode
      split
      · exact Works.refl turn
      · rename_i msg found
        dsimp only
        split
        · exact Works.trans (tidy_timeoutAdd turn _ .createPermissionTick rfl).kept.works
            (Kept.works (kept_of_eq rfl le_rfl))
        · exact permits turn msg (mem_of_find?_eq_some found) mode
    · intro turn mode
      rw [retransmissionsTickUnlocked]
      split
      · exact Works.refl turn
      · rename_i msg request
        split
        · have gone : turn.Works env { turn.forgetTransaction msg.message.id.value with
              priv.currentBinding := none, priv.currentBindingMsg := none } :=
            works_of_eq rfl (.inr rfl) (.inr rfl) rfl le_rfl
          exact gone.trans (processes _ (gone.mode.trans mode))
        · rename_i timer _
          have again := works_again env request timer
          have sent := again.trans (kept_sendServer env _ (bytesOf msg.message)).works
          exact sent.trans (schedules _ (sent.mode.trans mode))
        · exact schedules turn mode
    · intro turn msg pending mode
      rw [createPermissionTickUnlocked]
      split
      · have forgot : turn.Kept env (turn.forgetTransaction msg.message.id.value) :=
          kept_of_eq rfl le_rfl
        exact (forgot.trans (kept_grant env pending)).works
      · rename_i timer _
        have sent := ((kept_retime env timer pending).trans
          (kept_sendServer env _ (bytesOf msg.message))).works
        exact sent.trans (schedules _ (sent.mode.trans mode))
      · exact schedules turn mode
    · intro turn mode
      rw [processPendingBindings]
      have looped := loops turn mode
      split
      · split
        · exact looped
        · rename_i binding found
          have member := mem_of_find?_eq_some found
          have renew : binding.renew = true := by simpa using List.find?_some found
          rcases sendChannelBind_cases env depth (pendingBindingsLoop env depth turn) none binding.ref
            binding.channel binding.peer with ⟨last, sent, asked⟩ | ⟨last, failed, tidy⟩
          · rw [sent]
            exact looped.trans (asked.renewal member renew)
          · rw [failed]
            exact looped.trans tidy.kept.works
      · exact looped
    · intro turn mode
      rw [pendingBindingsLoop]
      split
      · exact Works.refl turn
      · rename_i peer _ _
        have added := works_addChannelBinding env depth turn peer mode
        generalize addChannelBinding env depth turn peer = answer at added ⊢
        have served : turn.Works env { answer.1 with
            priv.pendingBindings := answer.1.priv.pendingBindings.tail } :=
          added.trans (works_of_eq rfl (.inl rfl) (.inl rfl) rfl (Nat.le_refl _))
        dsimp only
        split
        · exact served
        · exact served.trans (loops _ (served.mode.trans mode))

end TurnSocket

end Xice.Turn
