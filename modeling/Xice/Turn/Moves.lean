import Xice.Turn.Frame

/-!
# What an event does to the bindings

A run in RFC5766 mode is cut into moves: the clock goes on, datagrams are sent and queued, requests
for bindings are started and ended, answers and timers change the list of the bound channels. An
invariant of the bindings is one that each move keeps.
-/

namespace Xice.Turn

open Xice.Ice (XiceAddress)
open Xice.Lib List
open Xice.Socket (Message XiceSocketCondition XiceTurnSocketCompatibility)
open Xice.Stun

/-- The entry is a call of the upper layer. -/
def Effect.isUpcall : Effect → Bool
  | .upcall _ _ _ => true
  | _ => false

namespace TurnSocket

/-- The bindings stay, nothing is logged for them, and nothing goes up. -/
structure Quiet (turn last : TurnSocket) : Prop extends turn.Clocked last where
  bindings : last.bindings = turn.bindings
  log : ∃ more, last.log = turn.log ++ more ∧
    ∀ entry ∈ more, entry.2.ofBinding = false ∧ entry.2.isUpcall = false

/-- A renewal timer has fired: its end is near. -/
def renewed (turn : TurnSocket) (timer : Timer) (index : Nat) (binding : ChannelBinding) :
    TurnSocket :=
  let turn := ((turn.timerDestroy timer.ref).emit (.timer timer)).timerDestroy timer.ref
  let (turn, source) := turn.timeoutAdd stunExpireTimeout .bindingExpiredTimeout
  { turn with priv.channels :=
      turn.priv.channels.set index { binding with renew := true, timeoutSource := some source } }

/-- The last timer has fired: the binding is dropped. -/
def expired (turn : TurnSocket) (timer : Timer) (index : Nat) (binding : ChannelBinding) :
    TurnSocket :=
  let turn := (turn.timerDestroy timer.ref).emit (.timer timer)
  let turn := { turn with priv.channels := turn.priv.channels.eraseIdx index }
  turn.emit (.remove binding.ref)

/-- A timer of a binding in the list. -/
structure Times (turn : TurnSocket) (timer : Timer) (func : XiceTimerFunc) (index : Nat)
    (binding : ChannelBinding) : Prop where
  runs : timer ∈ turn.timers
  func : timer.func = func
  place : turn.priv.channels[index]? = some binding
  source : binding.timeoutSource = some timer.ref

/-- A move in RFC5766 mode. The upper layer is called where `calls` says so. -/
inductive Move (env : Env) (calls : Bool) (turn : TurnSocket) : TurnSocket → Prop where
  /-- The upper layer is called. -/
  | upcall (condition : XiceSocketCondition) (buf : List UInt8) (source : Option XiceAddress) :
      calls = true → Move env calls turn (turn.emit (.upcall condition buf source))
  /-- Time passes. -/
  | wait (elapsed : Nat) : Move env calls turn { turn with now := turn.now + elapsed }
  /-- Something happens that is not for a binding. -/
  | quiet {last : TurnSocket} : turn.Quiet last → Move env calls turn last
  /-- Requests for bindings are started and ended. -/
  | works {last : TurnSocket} : turn.Works env last → Move env calls turn last
  /-- The request for a binding is answered. -/
  | answer {request : TURNMessage} : turn.priv.currentBindingMsg = some request →
      Move env calls turn (turn.answered request)
  /-- The request is sent again with other credentials. -/
  | retry {request : TURNMessage} {binding : ChannelBinding} {last : TurnSocket} :
      turn.priv.currentBindingMsg = some request → turn.bindingOf request = some binding →
      Asked env binding.ref (turn.answered request) last →
      Move env calls turn
        (if turn.priv.currentBinding.isNone then last.emit (.renewal binding.ref) else last)
  /-- The request for a binding succeeds. -/
  | confirm {request : TURNMessage} : turn.priv.currentBindingMsg = some request →
      Move env calls turn (turn.confirmed request)
  /-- A timer that belonged to a binding fires. -/
  | idle (timer : Timer) : Move env calls turn ((turn.timerDestroy timer.ref).emit (.timer timer))
  /-- The renewal timer of a binding fires. -/
  | renew {timer : Timer} {index : Nat} {binding : ChannelBinding} :
      turn.Times timer .bindingTimeout index binding →
      Move env calls turn (turn.renewed timer index binding)
  /-- The last timer of a binding fires. -/
  | expire {timer : Timer} {index : Nat} {binding : ChannelBinding} :
      turn.Times timer .bindingExpiredTimeout index binding →
      Move env calls turn (turn.expired timer index binding)
  /-- The last timer of a binding fires while its peer is asked for. -/
  | reclaim {timer : Timer} {index : Nat} {binding : ChannelBinding} :
      turn.Times timer .bindingExpiredTimeout index binding → turn.priv.currentBinding = none →
      Move env calls turn { turn.expired timer index binding with priv.currentBinding := some binding }

/-- Any number of moves. -/
abbrev Moves (env : Env) (calls : Bool) : TurnSocket → TurnSocket → Prop :=
  Relation.ReflTransGen (Move env calls)

variable {env : Env} {calls : Bool}

/-- The socket is in RFC5766 mode. -/
def Rfc5766 (turn : TurnSocket) : Prop := turn.priv.compatibility = .rfc5766

/-- The timer that is started when a binding is confirmed. -/
def renewalTimer (turn : TurnSocket) : Timer :=
  ⟨turn.nextRef, turn.now, stunBindingTimeout, .bindingTimeout⟩

/-- The binding when it is confirmed. -/
def armed (turn : TurnSocket) (binding : ChannelBinding) : ChannelBinding :=
  { binding with renew := false, timeoutSource := some turn.nextRef }

/-- What becomes of the bindings when a request succeeds. -/
inductive ConfirmedAs (turn : TurnSocket) (request : TURNMessage) :
    Option ChannelBinding → List ChannelBinding → Prop where
  /-- A new binding is added. -/
  | added {binding : ChannelBinding} : turn.priv.currentBinding = some binding →
      ConfirmedAs turn request (some binding) (turn.priv.channels ++ [turn.armed binding])
  /-- A binding of the list is renewed. -/
  | renewed {binding : ChannelBinding} {index : Nat} : turn.priv.currentBinding = none →
      turn.priv.channels[index]? = some binding →
      ConfirmedAs turn request (some binding) (turn.priv.channels.set index (turn.armed binding))
  /-- There is no binding for the answer. -/
  | lost : turn.priv.currentBinding = none → ConfirmedAs turn request none turn.priv.channels

/-- A request for a binding succeeds. -/
structure Confirmed (env : Env) (turn : TurnSocket) (request : TURNMessage) (last : TurnSocket) :
    Prop where
  channels : turn.ConfirmedAs request (turn.bindingOf request) last.priv.channels
  current : last.priv.currentBinding = none
  closed : last.priv.currentBindingMsg = none
  now : last.now = turn.now
  mode : last.priv.compatibility = turn.priv.compatibility
  refs : last.nextRef = turn.nextRef + 1 ∨ last.nextRef = turn.nextRef ∧ turn.bindingOf request = none
  timers : ∀ timer ∈ last.timers, timer ∈ turn.timers ∨ timer = turn.renewalTimer
  acts : Relation.ReflTransGen (Act env) turn last
  log : last.log = turn.log ++
    [(turn.now, .answer request.binding ((turn.bindingOf request).map ChannelBinding.ref)),
      (turn.now, .confirm request.binding)]

variable {turn last : TurnSocket} {binding : ChannelBinding} {timer : Timer}

/-- A timer is dropped. -/
theorem timerClear_eq (turn : TurnSocket) (ref : Option Ref) :
    turn.timerClear ref = { turn with timers := (turn.timerClear ref).timers } := by
  cases ref with
  | none | some => rfl

/-- What `confirmAt` does to a binding of the list. -/
theorem confirmAt_eq {index : Nat} (place : turn.priv.channels[index]? = some binding) :
    turn.confirmAt index = { turn with
      timers := (turn.timerClear binding.timeoutSource).timers ++ [turn.renewalTimer]
      nextRef := turn.nextRef + 1
      priv.channels := turn.priv.channels.set index (turn.armed binding) } := by
  simp only [confirmAt, place]
  rw [timerClear_eq]
  rfl

/-- No timer is added. -/
theorem mem_timers_timerClear {ref : Option Ref} (member : timer ∈ (turn.timerClear ref).timers) :
    timer ∈ turn.timers := by
  cases ref with
  | none => exact member
  | some ref => exact (mem_filter.mp member).1

/-- A binding is confirmed in its place. -/
theorem confirmed_at (env : Env) {turn next : TurnSocket} {request : TURNMessage} {index : Nat}
    (noted : Confirmed env turn request { next with
      priv.channels := next.priv.channels.set index (turn.armed binding)
      nextRef := turn.nextRef + 1 })
    (refs : next.nextRef = turn.nextRef) (timers : next.timers = turn.timers)
    (place : next.priv.channels[index]? = some binding) :
    Confirmed env turn request (next.confirmAt index) := by
  have named : next.armed binding = turn.armed binding := by rw [armed, armed, refs]
  have timed : next.renewalTimer = turn.renewalTimer := by
    rw [renewalTimer, renewalTimer, refs, show next.now = turn.now from noted.now]
  rw [confirmAt_eq place, named, refs, timed]
  refine { noted with timers := fun timer member => ?_, acts := noted.acts.tail (.same rfl) }
  rcases mem_append.mp member with old | new
  · exact .inl (timers ▸ mem_timers_timerClear old)
  · exact .inr (mem_singleton.mp new)

/-- A request succeeds. -/
theorem confirmed_spec (env : Env) (turn : TurnSocket) (request : TURNMessage) :
    Confirmed env turn request (turn.confirmed request) := by
  have noted : Relation.ReflTransGen (Act env) turn
      ((turn.answered request).emit (.confirm request.binding)) :=
    ((Relation.ReflTransGen.single (.note _ rfl)).tail (.same rfl)).tail (.note _ rfl)
  have written : ((turn.answered request).emit (.confirm request.binding)).log = turn.log ++
      [(turn.now, .answer request.binding ((turn.bindingOf request).map ChannelBinding.ref)),
        (turn.now, .confirm request.binding)] := by
    simp only [emit, answered, append_assoc, singleton_append]
  cases free : turn.priv.currentBinding with
  | some binding =>
    have taken : turn.bindingOf request = some binding := by simp only [bindingOf, free]
    have same : ((turn.answered request).emit (.confirm request.binding)).priv.currentBinding =
      some binding := free
    have set : (turn.priv.channels ++ [binding]).set ((turn.priv.channels ++ [binding]).length - 1)
        (turn.armed binding) = turn.priv.channels ++ [turn.armed binding] := by simp
    have place : (turn.priv.channels ++ [binding])[(turn.priv.channels ++ [binding]).length - 1]? =
        some binding := by simp
    simp only [confirmed, same]
    refine confirmed_at env ⟨?_, rfl, rfl, rfl, rfl, .inl rfl, fun _ => .inl,
      noted.tail (.same rfl), written⟩ rfl rfl place
    rw [taken]
    exact set ▸ .added free
  | none =>
    have same : ((turn.answered request).emit (.confirm request.binding)).priv.currentBinding =
      none := free
    cases found : turn.bindingIndex (peerOf request) with
    | none =>
      have taken : turn.bindingOf request = none := by simp only [bindingOf, free, found]; rfl
      simp only [confirmed, same, found]
      refine ⟨?_, free, rfl, rfl, rfl, .inr ⟨rfl, taken⟩, fun _ => .inl, noted, written⟩
      rw [taken]
      exact .lost free
    | some index =>
      obtain ⟨binding, place⟩ : ∃ binding, turn.priv.channels[index]? = some binding := by
        obtain ⟨below, -⟩ := findIdx?_eq_some_iff_getElem.mp found
        exact ⟨_, List.getElem?_eq_getElem below⟩
      have taken : turn.bindingOf request = some binding := by
        simp only [bindingOf, free, found]
        exact place
      simp only [confirmed, same, found]
      refine confirmed_at env ⟨?_, free, rfl, rfl, rfl, .inl rfl, fun _ => .inl,
        noted.tail (.same rfl), written⟩ rfl rfl place
      rw [taken]
      exact .renewed free place

/-- Moves leave the mode. -/
theorem Move.mode (move : Move env calls turn last) :
    last.priv.compatibility = turn.priv.compatibility := by
  cases move with
  | upcall | wait | answer | idle | renew | expire | reclaim => rfl
  | quiet quiet => exact congrArg Bindings.compatibility quiet.bindings
  | works works => exact works.mode
  | retry asked taken again =>
    obtain ⟨msg, -, bindings⟩ := again.bindings
    have same := congrArg Bindings.compatibility bindings
    split <;> exact same
  | confirm asked => exact (confirmed_spec env turn _).mode

/-- So do runs. -/
theorem Moves.mode (moves : Moves env calls turn last) :
    last.priv.compatibility = turn.priv.compatibility := by
  induction moves with
  | refl => rfl
  | tail _ move ih => exact move.mode.trans ih

/-- What a move writes comes after what is there. -/
theorem Move.grows (move : Move env calls turn last) : turn.log <+: last.log := by
  cases move with
  | upcall | answer | idle | renew => exact ⟨_, rfl⟩
  | wait elapsed => exact prefix_rfl
  | quiet quiet =>
    obtain ⟨more, grown, -⟩ := quiet.log
    exact ⟨more, grown.symm⟩
  | works works =>
    obtain ⟨more, grown, -⟩ := works.log
    exact ⟨more, grown.symm⟩
  | retry asked taken again =>
    obtain ⟨more, grown, -⟩ := again.log
    have sent : turn.log <+: _ := (prefix_append turn.log _).trans ⟨more, grown.symm⟩
    split
    · exact sent.trans ⟨_, rfl⟩
    · exact sent
  | confirm asked => exact ⟨_, (confirmed_spec env turn _).log.symm⟩
  | expire | reclaim => exact (prefix_append turn.log _).trans (prefix_append _ _)

/-- An invariant as long as what is logged is good. -/
theorem Moves.preserve (Good : Entry → Prop) (Inv : TurnSocket → Prop)
    (step : ∀ turn last, Move env calls turn last → (∀ entry ∈ last.log, Good entry) → Inv turn → Inv last)
    (moves : Moves env calls turn last) (good : ∀ entry ∈ last.log, Good entry) (start : Inv turn) :
    Inv last := by
  induction moves with
  | refl => exact start
  | tail _ move ih =>
    exact step _ _ move good (ih fun entry member => good entry (move.grows.subset member))

/-! ### Events -/

/-- Bindings, log and timers stay. -/
theorem quiet_of_eq (same : (last.bindings, last.log, last.timers) =
    (turn.bindings, turn.log, turn.timers)) (refs : turn.nextRef ≤ last.nextRef) :
    turn.Quiet last := by
  obtain ⟨bindings, log, timers⟩ := by simpa only [Prod.mk.injEq] using same
  exact ⟨⟨refs, fun _ member => .inl (timers ▸ member)⟩, bindings, Lists.appended_nil log⟩

/-- Tidy changes are quiet. -/
theorem Tidy.quiet (tidy : turn.Tidy last) : turn.Quiet last :=
  ⟨tidy.toClocked, tidy.bindings, Lists.appended_nil (congrArg Relay.log tidy.relay)⟩

/-- So are effects of other kinds. -/
theorem quiet_emit (turn : TurnSocket) {effect : Effect} (other : effect.ofBinding = false)
    (silent : effect.isUpcall = false) : turn.Quiet (turn.emit effect) :=
  ⟨⟨Nat.le_refl _, fun _ => .inl⟩, rfl, [(turn.now, effect)], rfl, fun entry member => by
    rw [mem_singleton.mp member]
    exact ⟨other, silent⟩⟩

/-- So they are moves. -/
theorem moves_emit (turn : TurnSocket) {effect : Effect} (other : effect.ofBinding = false)
    (silent : effect.isUpcall = false) : Moves env calls turn (turn.emit effect) :=
  .single (.quiet (quiet_emit turn other silent))

/-- A payload is wrapped. -/
theorem tidy_wrapPayload (env : Env) (turn : TurnSocket) (peer : XiceAddress) (buf : List UInt8) :
    turn.Tidy (turn.wrapPayload env peer buf).1 := by
  simp only [wrapPayload]
  have made := tidy_makeTransid env turn
  split
  · exact made
  · rename_i msg _
    -- The attributes of MS-TURN, then the data, then the end of the message.
    obtain ⟨begun, begun_eq⟩ : ∃ begun, begun = (
        if (turn.makeTransid env).1.priv.compatibility = .oc2007 then
          (turn.makeTransid env).1.appendMs
            (orWithout msg ((msg.append32 attrMsVersion 1).map Appended.msg))
        else ((turn.makeTransid env).1, msg)) := ⟨_, rfl⟩
    have marked : turn.Tidy begun.1 := by
      rw [begun_eq]
      split
      · exact made.trans (tidy_appendMs _ _)
      · exact made
    rw [← begun_eq]
    split
    · exact marked
    · rename_i data _
      have finished := marked.trans (tidy_finishMessage env begun.1 data)
      generalize begun.1.finishMessage env data = done at finished ⊢
      rcases done with ⟨next, none | last⟩
      · exact finished
      · dsimp only
        split
        · exact (finished.trans (tidy_timeoutAdd next stunEndTimeout .forgetSendRequest rfl)).trans
            (tidy_of_eq rfl le_rfl)
        · exact finished

/-- `priv_schedule_tick` is a sequence of moves. -/
theorem moves_schedule (env : Env) (depth : Nat) (mode : turn.Rfc5766) :
    Moves env calls turn (turn.scheduleTick env depth) :=
  .single (.works ((works_calls env depth).1 turn mode))

/-- So are pending bindings. -/
theorem moves_process (env : Env) (depth : Nat) (mode : turn.Rfc5766) :
    Moves env calls turn (turn.processPendingBindings env depth) :=
  .single (.works ((works_calls env depth).2.2.2.1 turn mode))

/-- A datagram is sent. -/
theorem moves_sendServer (env : Env) (turn : TurnSocket) (buf : List UInt8)
    (carries : Option XiceAddress) : Moves env calls turn (turn.sendServer env buf carries).1 :=
  moves_emit turn rfl rfl

/-- A permission is asked for. -/
theorem moves_sendCreatePermission (env : Env) (mode : turn.Rfc5766) (resp : Option StunMessage)
    (peer : XiceAddress) : Moves env calls turn (turn.sendCreatePermission env resp peer) := by
  obtain ⟨listed, listed_eq⟩ : ∃ listed, listed = (
      if isPeerInList turn.priv.sentPermissions peer then turn
      else { turn with priv.sentPermissions := turn.priv.sentPermissions ++ [peer] }) := ⟨_, rfl⟩
  have first : turn.Quiet listed := by
    rw [listed_eq]
    split
    · exact (Tidy.refl turn).quiet
    · exact quiet_of_eq rfl le_rfl
  simp only [sendCreatePermission]
  rw [← listed_eq]
  have built := tidy_createPermissionMessage env listed resp peer
  generalize listed.createPermissionMessage env resp peer = message at built ⊢
  have begun : Moves env calls turn message.1 :=
    (Relation.ReflTransGen.single (.quiet first)).tail (.quiet built.quiet)
  rcases message with ⟨next, none | msg⟩
  · exact begun
  · have sent := begun.trans (moves_sendServer env next (bytesOf msg) none)
    have started : (next.sendServer env (bytesOf msg) none).1.Quiet (next.startPermission env msg).1 :=
      quiet_of_eq rfl (Nat.le_succ _)
    have timed := sent.tail (.quiet started)
    have ticked := timed.trans (moves_schedule env (next.startPermission env msg).1.depth
      ((Moves.mode timed).trans mode))
    exact ticked.tail (.quiet (quiet_of_eq rfl le_rfl))

/-- A payload is sent or queued. -/
theorem moves_sendDatagram (env : Env) (mode : turn.Rfc5766) (peer : XiceAddress)
    (buf datagram : List UInt8) :
    Moves env calls turn (turn.sendDatagram env peer buf datagram).1 := by
  simp only [sendDatagram]
  split
  · obtain ⟨asked, asked_eq⟩ : ∃ asked, asked = (
        if isPeerInList turn.priv.sentPermissions peer then turn
        else turn.sendCreatePermission env none peer) := ⟨_, rfl⟩
    have first : Moves env calls turn asked := by
      rw [asked_eq]
      split
      · exact .refl
      · exact moves_sendCreatePermission env mode none peer
    rw [← asked_eq]
    exact (first.trans (moves_emit asked rfl rfl)).tail
      (.quiet (quiet_of_eq rfl le_rfl))
  · exact (moves_emit turn rfl rfl).trans (moves_sendServer env _ datagram (some peer))

/-- So is a message of the upper layer. -/
theorem moves_socketSend (env : Env) (mode : turn.Rfc5766) (peer : XiceAddress) (buf : List UInt8) :
    Moves env calls turn (turn.socketSend env peer buf).1 := by
  have asked : Moves env calls turn (turn.emit (.ask ⟨some peer, buf⟩)) := moves_emit turn rfl rfl
  have rfc : (turn.emit (.ask ⟨some peer, buf⟩)).Rfc5766 := mode
  rw [socketSend]
  generalize turn.emit (.ask ⟨some peer, buf⟩) = next at asked rfc
  split
  · rw [if_pos (.inr (show next.priv.compatibility = .rfc5766 from rfc))]
    split
    · exact asked.trans (moves_sendDatagram env rfc peer buf _)
    · exact asked.trans (moves_emit next rfl rfl)
  · have wrapped := tidy_wrapPayload env next peer buf
    generalize next.wrapPayload env peer buf = datagram at wrapped ⊢
    have quiet := asked.tail (.quiet wrapped.quiet)
    rcases datagram with ⟨last, none | datagram⟩
    · exact (quiet.trans (moves_emit last rfl rfl)).trans (moves_emit _ rfl rfl)
    · exact quiet.trans (moves_sendDatagram env ((Moves.mode quiet).trans mode) peer buf datagram)

/-- What the upper layer sends from inside its callback. -/
theorem moves_sends (env : Env) (mode : turn.Rfc5766) (messages : List Message) :
    Moves env calls turn (messages.foldl (fun turn message =>
      (turn.socketSend env (message.toAddr.getD .unspec) message.buf).1) turn) := by
  induction messages generalizing turn with
  | nil => exact .refl
  | cons message messages ih =>
    have sent : Moves env calls turn
        (turn.socketSend env (message.toAddr.getD .unspec) message.buf).1 :=
      moves_socketSend env mode (message.toAddr.getD .unspec) message.buf
    exact sent.trans (ih ((Moves.mode sent).trans mode))

/-- The upper layer is called. -/
theorem moves_callback (env : Env) (mode : turn.Rfc5766) (condition : XiceSocketCondition)
    (buf : List UInt8) (source : Option XiceAddress) :
    Moves env true turn (turn.callback env condition buf source).1 := by
  have called : Moves env true turn (turn.emit (.upcall condition buf source)) :=
    .single (.upcall condition buf source rfl)
  exact called.trans (moves_sends env ((Moves.mode called).trans mode) _)

/-- The label `recv`. -/
theorem moves_recv (env : Env) (mode : turn.Rfc5766) (len : Nat) (recvFrom : XiceAddress)
    (recvBuf : Mem) (recvLen : Nat) :
    Moves env true turn (turn.recv env len recvFrom recvBuf recvLen) := by
  rw [recv, if_pos (.inr (show turn.priv.compatibility = .rfc5766 from mode))]
  split <;> exact moves_callback env mode _ _ _

/-- A Send request is answered. -/
theorem tidy_answerSendRequest (turn : TurnSocket) (id : StunTransactionId) :
    turn.Tidy (turn.answerSendRequest id) := by
  unfold answerSendRequest
  split
  · exact Tidy.refl turn
  · rename_i req _
    exact Tidy.trans (tidy_timerDestroy turn req.source) (tidy_of_eq rfl le_rfl)

/-- An answer to a Send request. -/
theorem moves_recvSend (env : Env) (mode : turn.Rfc5766) (msg : StunMessage) :
    Moves env calls turn (turn.recvSend env msg) := by
  have answered := tidy_answerSendRequest turn msg.id.value
  have same : (turn.answerSendRequest msg.id.value).priv.compatibility = .rfc5766 :=
    (congrArg Bindings.compatibility answered.bindings).trans mode
  simp only [recvSend, same]
  split
  · exact .single (.quiet answered.quiet)
  · exact .refl

/-- An answer to a SetActiveDst request. -/
theorem moves_recvSetActive (env : Env) (mode : turn.Rfc5766) (msg : StunMessage) :
    Moves env calls turn (turn.recvSetActive env msg) := by
  have other : ¬(turn.priv.compatibility = .oc2007 ∨ turn.priv.compatibility = .msn) := by
    rw [show turn.priv.compatibility = .rfc5766 from mode]
    decide
  simp only [recvSetActive]
  split
  · split
    · rw [if_neg fun both => other both.2]
      exact .single (.works (works_of_eq rfl (.inr rfl) (.inr rfl) rfl le_rfl))
    · exact .refl
  · exact .refl

/-- An answer to a ChannelBind request. -/
theorem moves_recvChannelBind (env : Env) (mode : turn.Rfc5766) (msg : StunMessage) :
    Moves env calls turn (turn.recvChannelBind env msg) := by
  simp only [recvChannelBind]
  split
  · exact .refl
  · rename_i request asked
    split
    · simp only [recvChannelBindAnswer]
      split
      · split
        · split
          · exact .single (.answer asked)
          · rename_i binding taken
            rcases sendChannelBind_cases env (turn.answered request).depth (turn.answered request)
              (some msg) binding.ref binding.channel binding.peer with
              ⟨last, sent, again⟩ | ⟨last, failed, tidy⟩
            · rw [sent]
              exact .single (.retry asked taken again)
            · rw [failed]
              exact (Relation.ReflTransGen.single (.answer asked)).tail (.quiet tidy.quiet)
        · have gone : turn.Works env
              { turn with priv.currentBinding := none, priv.currentBindingMsg := none } :=
            works_of_eq rfl (.inr rfl) (.inr rfl) rfl le_rfl
          exact (Relation.ReflTransGen.single (.works gone)).trans (moves_process env _ mode)
      · have done : Moves env calls turn (turn.confirmed request) := .single (.confirm asked)
        exact done.trans (moves_process env _ ((Moves.mode done).trans mode))
      · exact .refl
    · exact .refl

/-- The request goes before or after the permission. -/
theorem deletePermission_grant (env : Env) (turn : TurnSocket) (ref : Ref) (peer : XiceAddress) :
    (turn.grant env peer).deletePermission ref = (turn.deletePermission ref).grant env peer := by
  rw [grant_eq, grant_eq]
  rfl

/-- The timer of permissions starts. -/
theorem tidy_startPermissionTimer (turn : TurnSocket) : turn.Tidy turn.startPermissionTimer := by
  unfold startPermissionTimer
  split
  · exact Tidy.trans (tidy_timeoutAdd turn stunPermissionTimeout .permissionTimeout rfl)
      (tidy_of_eq rfl le_rfl)
  · exact Tidy.refl turn

/-- An answer to a CreatePermission request. -/
theorem moves_recvCreatePermission (env : Env) (mode : turn.Rfc5766) (msg : StunMessage) :
    Moves env calls turn (turn.recvCreatePermission env msg) := by
  simp only [recvCreatePermission]
  split
  · exact .refl
  · rename_i request found
    have pending := mem_of_find?_eq_some found
    split
    · have deleted : Moves env calls turn (turn.deletePermission request.ref) :=
        .single (.quiet (quiet_of_eq rfl le_rfl))
      have rfc : (turn.deletePermission request.ref).Rfc5766 := mode
      exact deleted.trans (moves_sendCreatePermission env rfc _ _)
    · obtain ⟨timed, timed_eq⟩ : ∃ timed, timed =
        (if msg.getClass.value = .response then turn.startPermissionTimer else turn) := ⟨_, rfl⟩
      have started : turn.Tidy timed := by
        rw [timed_eq]
        split
        · exact tidy_startPermissionTimer turn
        · exact Tidy.refl turn
      have waiting : request ∈ timed.priv.pendingPermissions := by
        rw [show timed.priv.pendingPermissions = turn.priv.pendingPermissions from
          congrArg Relay.pendingPermissions started.relay]
        exact pending
      rw [← timed_eq, deletePermission_grant]
      exact .single (.works (started.kept.trans (kept_grant env waiting)).works)

/-- A Data indication. -/
theorem moves_recvData (env : Env) (mode : turn.Rfc5766) {len : Nat} {msg : StunMessage}
    (delivered : turn.recvData env len msg = some last) : Moves env true turn last := by
  simp only [recvData] at delivered
  split at delivered
  · rw [← Option.some.inj delivered]
    exact moves_callback env mode _ _ _
  · exact absurd delivered (by simp)

/-- A packet is received. -/
theorem moves_parseRecv (env : Env) (mode : turn.Rfc5766) (len : Nat) (recvFrom : XiceAddress)
    (recvBuf : Mem) (recvLen : Nat) :
    Moves env true turn (turn.parseRecv env len recvFrom recvBuf recvLen).1 := by
  unfold parseRecv
  split
  · split
    · exact .refl
    · rename_i validation _
      have checked : Moves env true turn { turn with priv.agent := validation.agent } :=
        .single (.quiet (quiet_of_eq rfl le_rfl))
      refine checked.trans ?_
      have rfc : Rfc5766 { turn with priv.agent := validation.agent } := mode
      generalize ({ turn with priv.agent := validation.agent } : TurnSocket) = next at rfc ⊢
      dsimp only
      split_ifs
      · exact moves_recvSend env rfc _
      · exact moves_recvSetActive env rfc _
      · exact moves_recvChannelBind env rfc _
      · exact moves_recvCreatePermission env rfc _
      · split
        · rename_i last delivered
          exact moves_recvData env rfc delivered
        · exact moves_recv env rfc _ _ _ _
      · exact moves_recv env rfc _ _ _ _
      · exact moves_recv env rfc _ _ _ _
  · exact moves_recv env mode _ _ _ _

/-! ### Timers -/

/-- The timer of retransmissions. -/
theorem moves_retransmissionsTick (env : Env) (mode : turn.Rfc5766) :
    Moves env calls turn (turn.retransmissionsTick env) := by
  have works := (works_calls env turn.depth).2.1 turn mode
  unfold retransmissionsTick
  generalize turn.retransmissionsTickUnlocked env turn.depth = answer at works ⊢
  rcases answer with ⟨last, true | false⟩
  · exact (Relation.ReflTransGen.single (.works works)).tail (.works (kept_clearTick env last).works)
  · exact .single (.works works)

/-- The timer of permission requests. -/
theorem moves_createPermissionTick (env : Env) (mode : turn.Rfc5766) :
    Moves env calls turn (turn.createPermissionTick env) := by
  refine .single (.works (works_foldl ?_ _ turn mode))
  intro turn ref mode
  split
  · exact Works.refl turn
  · rename_i msg found
    have works := (works_calls env turn.depth).2.2.1 turn msg (mem_of_find?_eq_some found) mode
    generalize turn.createPermissionTickUnlocked env turn.depth msg = answer at works ⊢
    rcases answer with ⟨last, true | false⟩
    · have cleared := tidy_timerClear last last.priv.tickSourceCreatePermission
      exact works.trans (Works.trans cleared.kept.works
        (Kept.works (kept_of_eq rfl le_rfl)))
    · exact works

/-- A binding is asked for. -/
theorem moves_addChannelBinding (env : Env) (depth : Nat) (mode : turn.Rfc5766)
    (peer : XiceAddress) : Moves env calls turn (turn.addChannelBinding env depth peer).1 :=
  .single (.works (works_addChannelBinding env depth turn peer mode))

/-- The binding that a timer finds is one whose timer it is. -/
theorem source_of_findIdx {channels : List ChannelBinding} {ref : Ref} {index : Nat}
    (found : channels.findIdx? (fun binding => binding.timeoutSource = some ref) = some index)
    (place : channels[index]? = some binding) : binding.timeoutSource = some ref := by
  obtain ⟨below, holds, -⟩ := findIdx?_eq_some_iff_getElem.mp found
  rw [List.getElem?_eq_getElem below] at place
  rw [← Option.some.inj place]
  exact of_decide_eq_true holds

/-- A Send request is forgotten. -/
theorem tidy_forgetSendRequest (turn : TurnSocket) (ref : Ref) :
    turn.Tidy (turn.forgetSendRequest ref) := by
  unfold forgetSendRequest
  split
  · exact Tidy.refl turn
  · exact tidy_of_eq rfl le_rfl

/-- A renewal is asked for. -/
theorem moves_sendRenewal (env : Env) {bound : ChannelBinding} (listed : bound ∈ turn.priv.channels)
    (renew : bound.renew = true) (named : bound.ref = binding.ref) :
    Moves env calls turn (turn.sendRenewal env binding) := by
  unfold sendRenewal
  rw [← named]
  rcases sendChannelBind_cases env turn.depth turn none bound.ref binding.channel binding.peer with
    ⟨last, sent, asked⟩ | ⟨last, failed, tidy⟩
  · rw [sent]
    exact .single (.works (asked.renewal listed renew))
  · rw [failed]
    exact .single (.quiet tidy.quiet)

/-- The timer of a renewal. -/
theorem moves_bindingTimeout (env : Env) (mode : turn.Rfc5766) (runs : timer ∈ turn.timers)
    (func : timer.func = .bindingTimeout) :
    Moves env calls turn
      (((turn.timerDestroy timer.ref).emit (.timer timer)).bindingTimeout env timer.ref) := by
  have idle : Moves env calls turn ((turn.timerDestroy timer.ref).emit (.timer timer)) :=
    .single (.idle timer)
  unfold bindingTimeout
  split
  · exact idle
  · rename_i index found
    split
    · exact idle
    · rename_i binding place
      have renewed : Moves env calls turn (turn.renewed timer index binding) :=
        .single (.renew ⟨runs, func, place, source_of_findIdx found place⟩)
      have rfc : (turn.renewed timer index binding).Rfc5766 := (Moves.mode renewed).trans mode
      refine renewed.trans ?_
      change Moves env calls (turn.renewed timer index binding)
        (if (turn.renewed timer index binding).priv.currentBindingMsg.isNone = true then
          (turn.renewed timer index binding).sendRenewal env binding
        else turn.renewed timer index binding)
      split
      · have listed : { binding with renew := true, timeoutSource := some turn.nextRef } ∈
            (turn.renewed timer index binding).priv.channels :=
          mem_set (List.getElem?_eq_some_iff.mp place).1 _
        exact moves_sendRenewal env listed rfl rfl
      · exact .refl

/-- The timer of an end. -/
theorem moves_bindingExpiredTimeout (env : Env) (mode : turn.Rfc5766) (runs : timer ∈ turn.timers)
    (func : timer.func = .bindingExpiredTimeout) :
    Moves env calls turn
      (((turn.timerDestroy timer.ref).emit (.timer timer)).bindingExpiredTimeout env timer.ref) := by
  have idle : Moves env calls turn ((turn.timerDestroy timer.ref).emit (.timer timer)) :=
    .single (.idle timer)
  unfold bindingExpiredTimeout
  split
  · exact idle
  · rename_i index found
    split
    · exact idle
    · rename_i binding place
      have times : turn.Times timer .bindingExpiredTimeout index binding :=
        ⟨runs, func, place, source_of_findIdx found place⟩
      have expired : Moves env calls turn (turn.expired timer index binding) := .single (.expire times)
      have added := expired.trans (moves_addChannelBinding env
        (turn.expired timer index binding).depth ((Moves.mode expired).trans mode) binding.peer)
      change Moves env calls turn ((turn.expired timer index binding).bindAgain env binding)
      unfold bindAgain
      split
      · rename_i free asked
        split
        · exact .single (.reclaim times free)
        · exact added
      · exact added

/-- Any timer. -/
theorem moves_fire (env : Env) (mode : turn.Rfc5766) (runs : timer ∈ turn.timers) :
    Moves env calls turn (turn.fire env timer) := by
  have stopped : Moves env calls turn (turn.timerDestroy timer.ref) :=
    .single (.quiet (tidy_timerDestroy turn timer.ref).quiet)
  have rfc : (turn.timerDestroy timer.ref).Rfc5766 := mode
  unfold fire
  split
  · exact stopped.trans (moves_retransmissionsTick env rfc)
  · exact stopped.trans (moves_createPermissionTick env rfc)
  · rename_i func
    exact moves_bindingTimeout env mode runs func
  · rename_i func
    exact moves_bindingExpiredTimeout env mode runs func
  · exact stopped.trans (.single (.quiet (tidy_forgetSendRequest _ _).quiet))
  · rename_i func
    refine .single (.quiet ⟨⟨Nat.le_refl _, ?_⟩, rfl, Lists.appended_nil rfl⟩)
    intro other member
    rcases mem_append.mp member with old | new
    · exact .inl (mem_filter.mp old).1
    · rw [mem_singleton.mp new]
      exact .inr (by rw [func]; rfl)

/-- Every event is a sequence of moves. -/
theorem moves_step (env : Env) (mode : turn.Rfc5766) (elapsed : Nat) (event : Event) :
    Moves env true turn (turn.step env elapsed event) := by
  have waited : Moves env true turn { turn with now := turn.now + elapsed } := .single (.wait elapsed)
  have rfc : Rfc5766 { turn with now := turn.now + elapsed } := mode
  refine waited.trans ?_
  simp only [step]
  split
  · exact moves_addChannelBinding env _ rfc _
  · exact moves_socketSend env rfc _ _
  · exact moves_parseRecv env rfc _ _ _ _
  · split
    · exact .refl
    · rename_i timer found
      exact moves_fire env rfc (mem_of_find?_eq_some found)

/-- So is every run. -/
theorem moves_run (env : Env) (turn : TurnSocket) (mode : turn.Rfc5766)
    (events : List (Nat × Event)) : Moves env true turn (turn.run env events) := by
  induction events generalizing turn with
  | nil => exact .refl
  | cons event events ih =>
    have first := moves_step env mode event.1 event.2
    exact first.trans (ih _ ((Moves.mode first).trans mode))

end TurnSocket

end Xice.Turn
