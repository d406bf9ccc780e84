import Xice.PseudoTcp.Calls

/-!
# The life of a connection

A connection moves from `LISTEN` over `SYN_SENT` or `SYN_RECEIVED` to `ESTABLISHED`, and from
anywhere to `CLOSED`. Every entry point is a sequence of the moves of `Life`, whatever the
application does inside the callbacks. Before `ESTABLISHED` only the control byte is queued.
-/

namespace Xice.PseudoTcp

open Xice.Lib Exec Relation List Word

variable {α : Type} {buffer : Mem} {h' : History}

/-- The events that leave the connection state alone, with their state. -/
def Event.Within (state : PseudoTcpState) : Event → Prop
  | .writePacket _ _ => state ≠ .closed
  | .readable => state ≠ .closed
  | .writable => state ≠ .closed
  | .opened => False
  | .closed _ => False
  | _ => True

/-- The moves of a connection, which may be established if the parameter says so. -/
inductive Life (opens : Prop) : History → History → Prop
  /-- The connection state stays. -/
  | stay {h h' : History} (new : List Event) (state : h'.sock.state = h.sock.state)
      (trace : h'.trace = h.trace ++ new) (within : ∀ event ∈ new, event.Within h.sock.state) :
      Life opens h h'
  /-- The connection is requested by either side. -/
  | request {h h' : History} (listening : h.sock.state = .listen)
      (state : h'.sock.state = .synSent ∨ h'.sock.state = .synReceived)
      (trace : h'.trace = h.trace) : Life opens h h'
  /-- The connection is established. -/
  | establish {h h' : History} (allowed : opens)
      (opening : h.sock.state = .synSent ∨ h.sock.state = .synReceived)
      (state : h'.sock.state = .established) (trace : h'.trace = h.trace ++ [.opened]) :
      Life opens h h'
  /-- The connection is closed. -/
  | close {h h' : History} (err : Errno) (live : h.sock.state ≠ .closed)
      (state : h'.sock.state = .closed) (trace : h'.trace = h.trace ++ [.closed err]) :
      Life opens h h'

/-- Only the control byte is queued until the connection is established. -/
def PseudoTcpSocket.Early (s : PseudoTcpSocket) : Prop :=
  s.state ≠ .established → s.state ≠ .closed → s.mss ≠ 0 ∧
    (s.slist = [] ∧ s.sndNxt = s.sndUna ∧
        (s.state = .listen → s.sndUna = 0 ∧ s.slen = 0) ∨
      ∃ xmit : UInt8, s.slist = [⟨0, 1, xmit, true⟩] ∧ s.sndUna = 0 ∧
        s.sndNxt = (if xmit = 0 then 0 else 1) ∧ s.state ≠ .listen)

/-- Moves from a history to a world, which is early if it is not established. -/
structure Lives (opens : Prop) (h : History) (w : World) : Prop where
  moves : ReflTransGen (Life opens) h w.toHistory
  early : w.sock.Early

/-- Moves that end in a given connection state. -/
structure Stays (opens : Prop) (h : History) (state : PseudoTcpState) (w : World) : Prop where
  lives : Lives opens h w
  state : w.sock.state = state

/-- Moves of a function that tells whether the connection goes on, and then in which states. -/
structure Goes (opens : Prop) (h : History) (states : PseudoTcpState → Prop) (goes : Bool)
    (w : World) : Prop where
  lives : Lives opens h w
  state : goes = true → states w.sock.state

variable {user : UserCode} {opens : Prop} {h : History} {w w' : World}

variable {xmit : UInt8} {s : PseudoTcpSocket} {seg : Segment}

/-- Other fields change. -/
theorem Lives.sock (before : Lives opens h w) (same : (w'.sock.state, w'.trace) =
    (w.sock.state, w.trace)) (early : w'.sock.Early) : Lives opens h w' := by
  obtain ⟨state, trace⟩ := Prod.mk.inj same
  exact ⟨before.moves.tail (.stay [] state (by simp [trace]) (by simp)), early⟩

/-- The socket stays as early as it was. -/
theorem Lives.same (before : Lives opens h w) (same : (w'.sock.Early, w'.sock.state, w'.trace) =
    (w.sock.Early, w.sock.state, w.trace)) : Lives opens h w' :=
  before.sock (Prod.mk.inj same).2 ((Prod.mk.inj same).1.mpr before.early)

/-- An event that leaves the state. -/
theorem Lives.event {event : Event} (before : Lives opens h w)
    (state : w'.sock.state = w.sock.state) (trace : w'.trace = w.trace ++ [event])
    (within : event.Within w.sock.state) (early : w'.sock.Early) : Lives opens h w' :=
  ⟨before.moves.tail (.stay [event] state trace (by simpa using within)), early⟩

/-- Calm application code. -/
theorem Lives.calm (before : Lives opens h w) (calm : Calm w w') (early : w'.sock.Early) :
    Lives opens h w' := by
  obtain ⟨new, trace, caused⟩ := calm.trace
  refine ⟨before.moves.tail (.stay new calm.state trace ?_), early⟩
  intro event member
  have caused := caused event member
  cases event <;> simp_all [Event.OfCall, Event.Within]

/-! ## The control byte -/

/-- Idle code keeps a socket early. -/
theorem Idle.early (idle : Idle w w') (early : w.sock.Early) : w'.sock.Early := by
  intro opening live
  rw [idle.state] at opening live ⊢
  rw [idle.mss, idle.outgoing]
  exact early opening live

/-- On a socket that is not established calls are idle. -/
theorem runCalls_idle (calls : List Call) (opening : w.sock.state ≠ .established) :
    ends (runCalls user calls) (Idle w) w := by
  induction calls generalizing w with
  | nil =>
    rw [runCalls, ends, wp_pure]
    exact Idle.refl w
  | cons call calls ih =>
    simp only [runCalls, ↓wp_rules]
    refine wp_imp (runCall_idle call opening) ?_
    intro _ w₁ idle
    exact ends_mono (ih (by rw [idle.state]; exact opening)) fun _ => idle.trans

/-- So is application code, however deep it nests. -/
theorem userCode_idle (depth : Nat) : (userCode depth).Idle := by
  intro calls w opening
  cases depth with
  | zero =>
    rw [userCode, ends, wp_pure]
    exact Idle.refl w
  | succ depth =>
    rw [userCode]
    exact runCalls_idle calls opening

/-- Calm code that keeps a socket early. -/
theorem early_of_calm {m : Run α} (calmly : ends m (Calm w) w)
    (opening : w.sock.state ≠ .established → ends m (fun w' => w'.sock.Early) w) :
    ends m (fun w' => Calm w w' ∧ w'.sock.Early) w := by
  by_cases established : w.sock.state = .established
  · refine ends_mono calmly fun w' after => ⟨after, fun opening => ?_⟩
    exact absurd (after.state.trans established) opening
  · exact wp_and calmly (opening established)

/-- Calm code that is idle keeps a socket early. -/
theorem early_of_idle {m : Run α} (calmly : ends m (Calm w) w)
    (idle : w.sock.state ≠ .established → ends m (Idle w) w) (early : w.sock.Early) :
    ends m (fun w' => Calm w w' ∧ w'.sock.Early) w :=
  early_of_calm calmly fun opening => ends_mono (idle opening) fun _ after => after.early early

/-- The calls of one callback keep a socket early. -/
theorem runCalls_early (calm : user.Calm) (calls : List Call) (early : w.sock.Early) :
    ends (runCalls user calls) (fun w' => Calm w w' ∧ w'.sock.Early) w :=
  early_of_idle (runCalls_calm calm calls w) (runCalls_idle calls) early

/-- `packet` is idle on a socket that is not established. -/
theorem packet_idle (idle : user.Idle) (seq : UInt32) (flags : UInt8) (data : Option Mem)
    (len : UInt32) (opening : w.sock.state ≠ .established) :
    ends (packet user seq flags data len) (Idle w) w := by
  simp only [packet, writePacket, ↓wp_rules]
  split
  · refine wp_mono (idle _ _ opening) ?_ ?_
    · intro _ w₁ after
      split <;> exact ⟨after.state, after.outgoing, after.mss⟩
    · intro _ w₁ after
      exact ⟨after.state, after.outgoing, after.mss⟩
  · exact ⟨rfl, rfl, rfl⟩

/-- No level is small enough for one byte. -/
theorem lowerMss_one (levels : List UInt32) (s : PseudoTcpSocket) (positive : s.mss ≠ 0)
    (listed : ∀ maximum ∈ levels, maximum ∈ packetMaximums) :
    (s.lowerMss 1 levels).2 = false ∧ (s.lowerMss 1 levels).1.mss ≠ 0 ∧
      (s.lowerMss 1 levels).1.toOutgoing = s.toOutgoing := by
  induction levels generalizing s with
  | nil => exact ⟨rfl, positive, rfl⟩
  | cons maximum levels ih =>
    simp only [PseudoTcpSocket.lowerMss]
    split
    · exact ⟨rfl, positive, rfl⟩
    · rename_i nonzero
      have size := (packetMaximums_range maximum (listed _ mem_cons_self) nonzero).1
      have above : ¬maximum - packetOverhead < 1 := fun below => by
        have below : _ < 1 := UInt32.lt_iff_toNat_lt.mp below
        omega
      rw [if_neg above]
      exact ih _ (mt eq_zero32.mp (Nat.ne_of_gt size))
        (forall_mem_of_forall_mem_cons listed)

/-- The queue before the connection is established. -/
structure CtlQueued (xmit : UInt8) (s : PseudoTcpSocket) : Prop where
  state : s.state = .synSent ∨ s.state = .synReceived
  mss : s.mss ≠ 0
  slist : s.slist = [⟨0, 1, xmit, true⟩]
  una : s.sndUna = 0
  nxt : s.sndNxt = if xmit = 0 then 0 else 1

/-- A socket with the control byte is being opened. -/
theorem CtlQueued.opening (queued : CtlQueued xmit s) :
    s.state ≠ .listen ∧ s.state ≠ .established ∧ s.state ≠ .closed := by
  rcases queued.state with state | state <;> rw [state] <;> decide

/-- Such a socket is early. -/
theorem CtlQueued.early (queued : CtlQueued xmit s) : s.Early := fun _ _ =>
  ⟨queued.mss, .inr ⟨xmit, queued.slist, queued.una, queued.nxt, queued.opening.1⟩⟩

/-- Other fields change. -/
theorem CtlQueued.same {s' : PseudoTcpSocket} (queued : CtlQueued xmit s)
    (state : s'.state = s.state) (outgoing : s'.toOutgoing = s.toOutgoing) (mss : s'.mss ≠ 0) :
    CtlQueued xmit s' := by
  obtain ⟨requested, -, slist, una, nxt⟩ := queued
  rw [← outgoing] at slist una nxt
  rw [← state] at requested
  exact ⟨requested, mss, slist, una, nxt⟩

/-- Idle code keeps the queue with the control byte. -/
theorem CtlQueued.idle (queued : CtlQueued xmit w.sock) (idle : Idle w w') :
    CtlQueued xmit w'.sock :=
  queued.same idle.state idle.outgoing (by rw [idle.mss]; exact queued.mss)

/-- The loop of `transmit` sends the control byte. -/
theorem transmitLoop_ctl (idle : user.Idle) (index fuel : Nat) (queued : CtlQueued xmit w.sock) :
    wp (transmitLoop user index fuel 1)
      (fun sent w' => CtlQueued xmit w'.sock ∧ (sent = none ∨ sent = some 1))
      (fun _ w' => CtlQueued xmit w'.sock) w := by
  cases fuel with
  | zero =>
    rwa [transmitLoop, wp_throw]
  | succ fuel =>
    simp only [transmitLoop, sendSegment, ↓wp_rules]
    cases w.sock.slist[index]? with
    | none =>
      rwa [wp_throw]
    | some segment =>
      refine wp_mono (packet_idle idle _ _ _ _ queued.opening.2.1) ?_ ?_
      · intro result w₁ after
        have queued := queued.idle after
        cases result with
        | success =>
          rw [wp_pure]
          exact ⟨queued, .inr rfl⟩
        | fail =>
          rw [wp_pure]
          exact ⟨queued, .inl rfl⟩
        | tooLarge =>
          have lowered := lowerMss_one (packetMaximums.drop (w₁.sock.msslevel.toNat + 1)) w₁.sock
            queued.mss fun maximum member => mem_of_mem_drop member
          obtain ⟨missing, mss, outgoing⟩ := lowered
          simp only [↓wp_rules, missing, Bool.false_eq_true, if_false]
          have state := (w₁.sock.lowerMss_framed 1
            (packetMaximums.drop (w₁.sock.msslevel.toNat + 1))).state
          exact ⟨queued.same state outgoing mss, .inl trivial⟩
      · intro _ w₁ after
        exact queued.idle after

/-- So does `transmit`. -/
theorem transmit_ctl (idle : user.Idle) (index : Nat) (now : UInt32)
    (queued : CtlQueued xmit w.sock) :
    ends (transmit user index now) (fun w' => ∃ xmit, CtlQueued xmit w'.sock) w := by
  simp only [transmit, ↓wp_rules]
  cases found : w.sock.slist[index]? with
  | none =>
    rw [wp_throw]
    exact ⟨xmit, queued⟩
  | some segment =>
    rw [queued.slist] at found
    obtain ⟨rfl, rfl⟩ : index = 0 ∧ segment = ⟨0, 1, xmit, true⟩ := by
      cases index with
      | zero => exact ⟨rfl, by simpa using found.symm⟩
      | succ index => simp at found
    have one : min (1 : UInt32) w.sock.mss = 1 := by
      rw [← UInt32.toNat_inj, toNat_min32]
      have := mt eq_zero32.mpr queued.mss
      change min 1 w.sock.mss.toNat = 1
      omega
    simp only [↓wp_rules, one]
    split
    · exact ⟨xmit, queued⟩
    · rename_i limit
      refine wp_mono (transmitLoop_ctl idle 0 _ queued) ?_ (fun _ w' kept => ⟨xmit, kept⟩)
      rintro sent w₁ ⟨queued, outcome⟩
      rcases outcome with rfl | rfl
      · rw [wp_pure]
        exact ⟨xmit, queued⟩
      · rw [wp_bind, wp_modifySock, wp_pure]
        have found : w₁.sock.slist[0]? = some ⟨0, 1, xmit, true⟩ := by
          rw [queued.slist]
          rfl
        have marked : w₁.sock.transmitted 0 1 now =
            { w₁.sock with
              slist := [⟨0, 1, xmit + 1, true⟩]
              sndNxt := if xmit = 0 then w₁.sock.sndNxt + 1 else w₁.sock.sndNxt
              rtoBase := if w₁.sock.rtoBase = 0 then now else w₁.sock.rtoBase } := by
          have whole : ¬(1 : UInt32) < 1 := by decide
          simp only [PseudoTcpSocket.transmitted, found, if_neg whole, Outgoing.markSent]
          rw [queued.slist]
          rfl
        have counted : xmit + 1 ≠ 0 := by
          have limit := UInt8.lt_iff_toNat_lt.mp (UInt8.not_le.mp limit)
          have most : w.sock.xmitLimit.toNat ≤ 30 := by
            unfold PseudoTcpSocket.xmitLimit
            split <;> decide
          intro zero
          have zero := congrArg UInt8.toNat zero
          rw [UInt8.toNat_add] at zero
          change (xmit.toNat + 1) % 2 ^ 8 = 0 at zero
          omega
        rw [marked]
        refine ⟨xmit + 1, queued.state, queued.mss, rfl, queued.una, ?_⟩
        simp only [if_neg counted, queued.nxt]
        split <;> rfl

/-- An early socket that is neither established nor closed. -/
theorem PseudoTcpSocket.Early.cases (early : s.Early) (opening : s.state ≠ .established)
    (live : s.state ≠ .closed) : s.slist = [] ∨ ∃ xmit, CtlQueued xmit s := by
  obtain ⟨mss, ⟨empty, -⟩ | ⟨xmit, slist, una, nxt, requested⟩⟩ := early opening live
  · exact .inl empty
  · refine .inr ⟨xmit, ?_, mss, slist, una, nxt⟩
    cases state : s.state <;> simp_all

/-- `transmit` keeps a socket early. -/
theorem transmit_early (calm : user.Calm) (idle : user.Idle) (index : Nat) (now : UInt32)
    (live : w.sock.state ≠ .closed) (early : w.sock.Early) :
    ends (transmit user index now) (fun w' => Calm w w' ∧ w'.sock.Early) w := by
  refine early_of_calm (transmit_calm calm index now live) fun opening => ?_
  rcases early.cases opening live with empty | ⟨xmit, queued⟩
  · simp only [transmit, ↓wp_rules, empty, List.getElem?_nil]
    exact early
  · exact ends_mono (transmit_ctl idle index now queued) fun _ after => after.elim fun _ queued => queued.early

/-- So does the loop of `attempt_send`. -/
theorem attemptSendLoop_early (idle : user.Idle) (now : UInt32) (fuel : Nat) (sflags : SendFlags)
    (opening : w.sock.state ≠ .established) (live : w.sock.state ≠ .closed)
    (early : w.sock.Early) :
    ends (attemptSendLoop user now fuel sflags) (fun w' => w'.sock.Early) w := by
  induction fuel generalizing w sflags with
  | zero =>
    rwa [attemptSendLoop, ends, wp_throw]
  | succ fuel ih =>
    simp only [attemptSendLoop, acknowledge, ↓wp_rules]
    split
    · split
      · exact early
      · split
        · exact ends_mono (packet_idle idle _ _ _ _ opening) fun _ after => after.early early
        · exact early
    · rename_i available
      split
      · exact early
      · rcases early.cases opening live with empty | ⟨xmit, queued⟩
        · simp only [nextSegment, ↓wp_rules, empty, findIdx?_nil]
          exact early
        · have small : ¬(1 : UInt32) > w.sock.nAvailable := by
            intro above
            have above := UInt32.lt_iff_toNat_lt.mp above
            have positive := mt eq_zero32.mpr available
            change w.sock.nAvailable.toNat < 1 at above
            omega
          by_cases unsent : xmit = 0
          · have search : w.sock.slist.findIdx? (fun segment => segment.xmit = 0) = some 0 := by
              simp [queued.slist, unsent]
            have first : ((w.sock.slist[0]?).map SSegment.len).getD 0 = 1 := by
              simp [queued.slist]
            simp only [nextSegment, ↓wp_rules, search, first, if_neg small]
            refine wp_mono (transmit_ctl idle 0 now queued) ?_ fun _ _ after =>
              after.elim fun _ queued => queued.early
            rintro sent w₁ ⟨xmit, queued⟩
            split
            · exact ih _ queued.opening.2.1 queued.opening.2.2 queued.early
            · exact queued.early
          · have search : w.sock.slist.findIdx? (fun segment => segment.xmit = 0) = none := by
              simp [queued.slist, unsent]
            simp only [nextSegment, ↓wp_rules, search]
            exact early

/-- So does `attempt_send`. -/
theorem attemptSend_early (calm : user.Calm) (idle : user.Idle) (sflags : SendFlags)
    (live : w.sock.state ≠ .closed) (early : w.sock.Early) :
    ends (attemptSend user sflags) (fun w' => Calm w w' ∧ w'.sock.Early) w := by
  refine early_of_calm (attemptSend_calm calm sflags live) fun opening => ?_
  simp only [attemptSend, ↓wp_rules]
  exact attemptSendLoop_early idle _ _ _ opening live early

/-- The control byte is queued on a socket that was listening. -/
theorem Lives.queue_ctl {state : PseudoTcpState} (before : Lives opens h w)
    (requested : state = .synSent ∨ state = .synReceived) (listening : w.sock.state = .listen) :
    ends (queue (fun _ => ctlConnect) 1 true) (Stays opens h state)
      { w with sock := { w.sock with state := state } } := by
  have moved : Life opens w.toHistory ⟨{ w.sock with state := state }, w.trace⟩ :=
    .request listening requested rfl
  obtain ⟨mss, ⟨empty, nxt, fresh⟩ | ⟨_, _, _, _, other⟩⟩ :=
    before.early (by rw [listening]; decide) (by rw [listening]; decide)
  · obtain ⟨una, slen⟩ := fresh listening
    have other : state ≠ .listen := by rcases requested with rfl | rfl <;> decide
    simp only [queue, ↓wp_rules]
    have room : ¬(1 : UInt32).toUInt64 > kSndBufSize - w.sock.slen.toUInt64 := by
      rw [slen]
      decide
    simp only [if_neg room]
    refine ⟨⟨(before.moves.tail moved).tail (.stay [_] rfl rfl (by simp [Event.Within])), ?_⟩, rfl⟩
    intro _ _
    refine ⟨mss, .inr ⟨0, ?_, una, ?_, other⟩⟩
    · simp [Outgoing.enqueue, Outgoing.appendSegment, empty, una, slen]
    · simp [Outgoing.enqueue, nxt, una]
  · exact absurd listening other

/-! ## Moves of the entry points -/

/-- Calm code that keeps a socket early is a move. -/
theorem Lives.stays {m : Run α} (before : Lives opens h w)
    (kept : ends m (fun w' => Calm w w' ∧ w'.sock.Early) w) :
    ends m (Stays opens h w.sock.state) w :=
  ends_mono kept fun _ after => ⟨before.calm after.1 after.2, after.1.state⟩

/-- Callbacks are moves. -/
theorem callback_lives (calm : user.Calm) (event : Event)
    (before : Lives opens h { w with trace := w.trace ++ [event] }) :
    ends (callback user event) (Stays opens h w.sock.state) w := by
  simp only [callback, ↓wp_rules]
  refine ends_mono (runCalls_early calm _ before.early) fun w' after => ?_
  exact ⟨before.calm ⟨after.1.state, after.1.trace⟩ after.2, after.1.state⟩

/-- So is `closedown`. -/
theorem closedown_lives (calm : user.Calm) (err : Errno) (live : w.sock.state ≠ .closed)
    (before : Lives opens h w) : ends (closedown user err) (Lives opens h) w := by
  simp only [closedown, ↓wp_rules]
  exact ends_mono (callback_lives calm (.closed err)
    ⟨before.moves.tail (.close err live rfl rfl), fun _ closed => absurd rfl closed⟩) fun _ => Stays.lives

/-- After the connection was closed, it does not go on. -/
theorem closedown_goes (calm : user.Calm) (err : Errno) {states : PseudoTcpState → Prop}
    (live : w.sock.state ≠ .closed) (before : Lives opens h w) :
    wp (closedown user err) (fun _ => Goes opens h states false)
      (fun _ => Lives opens h) w :=
  wp_imp (closedown_lives calm err live before) fun _ _ closed => ⟨closed, nofun⟩

/-- The connection is established. -/
theorem Lives.opened (before : Lives opens h w) (calm : user.Calm) (allowed : opens)
    (opening : w.sock.state = .synSent ∨ w.sock.state = .synReceived) :
    ends (callback user .opened) (fun w' => Lives opens h w' ∧ w'.sock.state ≠ .closed)
      { w with sock := { w.sock with state := .established }.adjustMTU } := by
  refine ends_mono (callback_lives calm .opened ⟨before.moves.tail
    (.establish allowed opening rfl rfl), fun established => absurd rfl established⟩) ?_
  rintro w' ⟨after, state⟩
  refine ⟨after, ?_⟩
  rw [state]
  simp [PseudoTcpSocket.adjustMTU]

/-- `attempt_send` leaves the state. -/
theorem attemptSend_lives (calm : user.Calm) (idle : user.Idle) (sflags : SendFlags)
    (live : w.sock.state ≠ .closed) (before : Lives opens h w) :
    ends (attemptSend user sflags) (Stays opens h w.sock.state) w :=
  before.stays (attemptSend_early calm idle sflags live before.early)

/-- So does `transmit`. -/
theorem transmit_lives (calm : user.Calm) (idle : user.Idle) (now : UInt32)
    {goes : Bool → World → Prop} (live : w.sock.state ≠ .closed) (before : Lives opens h w)
    (next : ∀ sent w', Lives opens h w' → w'.sock.state = w.sock.state → w'.sock.state ≠ .closed →
      goes sent w') : wp (transmit user 0 now) goes (fun _ => Lives opens h) w := by
  refine wp_mono (before.stays (transmit_early calm idle 0 now live before.early)) ?_
    fun _ _ => Stays.lives
  rintro sent w' ⟨after, state⟩
  exact next sent w' after state (by rw [state]; exact live)

/-- So does `packet`. -/
theorem packet_lives (calm : user.Calm) (idle : user.Idle) (seq : UInt32)
    (live : w.sock.state ≠ .closed) (before : Lives opens h w) :
    ends (packet user seq 0 none 0) (Stays opens h w.sock.state) w :=
  before.stays (early_of_idle (packet_calm calm seq 0 none 0 live) (packet_idle idle seq 0 none 0)
    before.early)

/-- What lets a packet establish the connection: the control byte of the peer in `SYN_SENT`, or new
acknowledged data without control data in `SYN_RECEIVED`. -/
def PseudoTcpSocket.OpenedBy (s : PseudoTcpSocket) (buffer : Mem) (seg : Segment) : Prop :=
  seg.conv = s.conv ∧
    (s.state = .synSent ∧ seg.isCtl ∧ seg.len ≠ 0 ∧ buffer seg.data = ctlConnect ∨
      s.state = .synReceived ∧ ¬seg.isCtl ∧ s.sndUna < seg.ack ∧ seg.ack ≤ s.sndNxt)

/-- Control data may request or establish the connection. -/
theorem processControl_lives (calm : user.Calm)
    (may : w.sock.state = .synSent → seg.isCtl → seg.len ≠ 0 → buffer seg.data = ctlConnect → opens)
    (live : w.sock.state ≠ .closed) (before : Lives opens h w) :
    wp (processControl user buffer seg)
      (fun bConnect w' => Lives opens h w' ∧ w'.sock.state ≠ .closed ∧
        (bConnect = some false → ¬seg.isCtl ∧ w' = w))
      (fun _ => Lives opens h) w := by
  simp only [processControl, ↓wp_rules]
  split
  · rename_i plain
    exact ⟨before, live, fun _ => ⟨plain, trivial⟩⟩
  · rename_i ctl
    have ctl := not_not.mp ctl
    split
    · exact ⟨before, live, nofun⟩
    · rename_i nonempty
      have looked : Lives opens h { w with trace := w.trace ++ [.packetRead seg.data 1] } :=
        before.event rfl rfl trivial before.early
      split
      · exact ⟨looked, live, nofun⟩
      · rename_i connect
        have connect := not_not.mp connect
        split
        · rename_i listening
          refine wp_mono (looked.queue_ctl (.inr rfl) listening) ?_ fun _ _ => Stays.lives
          rintro _ w₁ ⟨after, state⟩
          refine ⟨after, ?_, nofun⟩
          rw [state]
          decide
        · split
          · rename_i opening
            exact wp_mono (looked.opened calm (may opening ctl nonempty connect) (.inl opening))
              (fun _ _ after => ⟨after.1, after.2, nofun⟩) fun _ _ after => after.1
          · exact ⟨looked, live, nofun⟩

/-- Before the connection is established, new acknowledged data is the control byte. -/
theorem PseudoTcpSocket.Early.acked {ack : UInt32} (early : s.Early)
    (opening : s.state ≠ .established) (live : s.state ≠ .closed) (new : s.sndUna < ack)
    (sent : ack ≤ s.sndNxt) : ∃ xmit, CtlQueued xmit s ∧ ack = 1 ∧ s.sndNxt = 1 := by
  have new := UInt32.lt_iff_toNat_lt.mp new
  have sent := UInt32.le_iff_toNat_le.mp sent
  obtain ⟨mss, ⟨_, nxt, -⟩ | ⟨xmit, slist, una, nxt, requested⟩⟩ := early opening live
  · rw [nxt] at sent
    omega
  · have one : s.sndNxt = 1 := by
      split at nxt
      · rw [nxt] at sent
        change ack.toNat ≤ 0 at sent
        omega
      · exact nxt
    refine ⟨xmit, ⟨?_, mss, slist, una, nxt⟩, ?_, one⟩
    · cases state : s.state <;> simp_all
    · rw [one] at sent
      rw [← UInt32.toNat_inj]
      change ack.toNat ≤ 1 at sent
      change ack.toNat = 1
      omega

/-- The release of acknowledged bytes is a move. -/
theorem releaseAcked_lives (now : UInt32) (new : w.sock.sndUna < seg.ack)
    (sent : seg.ack ≤ w.sock.sndNxt) (before : Lives opens h w) :
    ends (releaseAcked seg now) (Stays opens h w.sock.state) w := by
  have released : w.sock.state ≠ .established → w.sock.state ≠ .closed →
      w.sock.mss ≠ 0 ∧ w.sock.state ≠ .listen ∧ seg.ack = w.sock.sndNxt ∧ ∃ largest,
        freeSegments w.sock.slist (seg.ack - w.sock.sndUna) w.sock.largest =
          some ([], largest) := by
    intro opening live
    obtain ⟨xmit, queued, ack, nxt⟩ := before.early.acked opening live new sent
    refine ⟨queued.mss, queued.opening.1, by rw [ack, nxt], ?_⟩
    rw [queued.slist, queued.una, ack]
    refine ⟨if 1 > w.sock.largest then 1 else w.sock.largest, ?_⟩
    rw [freeSegments, if_neg (by decide)]
    simp only
    rw [if_neg (by decide), freeSegments, if_pos (by decide)]
  simp only [releaseAcked, ↓wp_rules]
  cases freed : freeSegments w.sock.slist (seg.ack - w.sock.sndUna) w.sock.largest with
  | none =>
    rw [wp_throw]
    refine ⟨before.sock rfl fun opening live => ?_, rfl⟩
    obtain ⟨_, _, _, largest, all⟩ := released opening live
    rw [freed] at all
    contradiction
  | some result =>
    obtain ⟨slist, largest⟩ := result
    rw [wp_modifySock]
    refine ⟨before.sock rfl fun opening live => ?_, rfl⟩
    obtain ⟨mss, requested, ack, most, all⟩ := released opening live
    rw [freed, Option.some.injEq, Prod.mk.injEq] at all
    exact ⟨mss, .inl ⟨all.1, ack.symm, fun listening => absurd listening requested⟩⟩

/-- The state stays unless the connection is closed. -/
theorem growWindow_lives (calm : user.Calm) (idle : user.Idle) (now nAcked : UInt32)
    (live : w.sock.state ≠ .closed) (before : Lives opens h w) :
    wp (growWindow user now nAcked)
      (fun goes w' => Goes opens h (· = w.sock.state) goes w')
      (fun _ => Lives opens h) w := by
  simp only [growWindow, ↓wp_rules]
  split
  · split
    · exact ⟨before.same rfl, fun _ => rfl⟩
    · refine transmit_lives calm idle now live before fun sent w₁ after state live₁ => ?_
      split
      · exact ⟨after.same rfl, fun _ => state⟩
      · exact closedown_goes calm _ live₁ after
  · split
    · exact ⟨before.same rfl, fun _ => rfl⟩
    · split
      · exact ⟨before.same rfl, fun _ => rfl⟩
      · exact before

/-- An acknowledgement of new data. -/
theorem processNewAck_lives (calm : user.Calm) (idle : user.Idle) (now : UInt32) (bConnect : Bool)
    (new : w.sock.sndUna < seg.ack) (sent : seg.ack ≤ w.sock.sndNxt)
    (may : w.sock.state = .synReceived → bConnect = false → opens) (live : w.sock.state ≠ .closed)
    (before : Lives opens h w) :
    wp (processNewAck user seg now bConnect)
      (fun goes w' => Goes opens h (· ≠ .closed) goes w')
      (fun _ => Lives opens h) w := by
  have measured : ends (measureRtt seg now) (fun w' => Stays opens h w.sock.state w' ∧
      w'.sock.toOutgoing = w.sock.toOutgoing) w := by
    unfold measureRtt
    split
    · rw [ends, wp_bind, wp_require, wp_modifySock]
      split
      · exact ⟨⟨before.same rfl, rfl⟩, rfl⟩
      · exact ⟨⟨before, rfl⟩, rfl⟩
    · rw [ends, wp_pure]
      exact ⟨⟨before, rfl⟩, rfl⟩
  simp only [processNewAck, ↓wp_rules]
  refine wp_mono measured ?_ (fun _ _ after => after.1.lives)
  rintro _ w₁ ⟨⟨before₁, state₁⟩, outgoing⟩
  refine wp_mono (releaseAcked_lives now (by rw [outgoing]; exact new)
    (by rw [outgoing]; exact sent) before₁) ?_ (fun _ _ after => after.lives)
  rintro _ w₂ ⟨before₂, state₂⟩
  rw [state₁] at state₂
  refine wp_imp (growWindow_lives calm idle now _ (by rw [state₂]; exact live) before₂) ?_
  rintro goes w₃ ⟨before₃, stays⟩
  split
  · rename_i going
    have state₃ := (stays going).trans state₂
    have opened : ends (announceOpened user bConnect)
        (fun w' => Lives opens h w' ∧ w'.sock.state ≠ .closed) w₃ := by
      simp only [announceOpened, ↓wp_rules]
      split
      · rename_i opening
        have allowed := may (state₃.symm.trans opening.1) opening.2
        exact before₃.opened calm allowed (.inr opening.1)
      · exact ⟨before₃, by rw [state₃]; exact live⟩
    refine wp_mono opened ?_ (fun _ _ after => after.1)
    rintro _ w₄ ⟨before₄, live₄⟩
    simp only [announceWritable, ↓wp_rules]
    split
    · refine wp_mono (callback_lives calm .writable (before₄.event rfl rfl live₄ before₄.early)) ?_
        (fun _ _ after => after.lives)
      rintro _ w₅ ⟨after, state⟩
      exact ⟨after, fun _ => by rw [state]; exact live₄⟩
    · exact ⟨before₄, fun _ => live₄⟩
  · exact ⟨before₃, by simp⟩

/-- A repeated acknowledgement. -/
theorem processDupAck_lives (calm : user.Calm) (idle : user.Idle) (now : UInt32)
    (live : w.sock.state ≠ .closed) (before : Lives opens h w) :
    wp (processDupAck user seg now)
      (fun goes w' => Goes opens h (· ≠ .closed) goes w')
      (fun _ => Lives opens h) w := by
  simp only [processDupAck, ↓wp_rules]
  split
  · exact ⟨before.same rfl, fun _ => live⟩
  · split
    · split
      · refine transmit_lives calm idle now live (before.same rfl)
          fun sent w₁ after _ live₁ => ?_
        split
        · exact ⟨after.same rfl, fun _ => live₁⟩
        · exact closedown_goes calm _ live₁ after
      · split
        · exact ⟨before.same rfl, fun _ => live⟩
        · exact ⟨before.same rfl, fun _ => live⟩
    · exact ⟨before.same rfl, fun _ => live⟩

/-- The acknowledgement number. -/
theorem processAck_lives (calm : user.Calm) (idle : user.Idle) (now : UInt32) (bConnect : Bool)
    (may : w.sock.state = .synReceived → bConnect = false → w.sock.sndUna < seg.ack →
      seg.ack ≤ w.sock.sndNxt → opens) (live : w.sock.state ≠ .closed) (before : Lives opens h w) :
    wp (processAck user seg now bConnect)
      (fun goes w' => Goes opens h (· ≠ .closed) goes w')
      (fun _ => Lives opens h) w := by
  simp only [processAck, ↓wp_rules]
  split
  · rename_i new
    exact processNewAck_lives calm idle now bConnect new.1 new.2
      (fun state plain => may state plain new.1 new.2) live before
  · split
    · exact processDupAck_lives calm idle now live before
    · exact ⟨before, fun _ => live⟩

/-- The payload leaves the state. -/
theorem storeData_lives (buffer : Mem) (seg : Segment) (sflags : SendFlags)
    (before : Lives opens h w) :
    ends (storeData buffer seg sflags)
      (Stays opens h w.sock.state) w := by
  simp only [storeData, ↓wp_rules]
  have stored : ∀ w' : World, w'.sock.state = w.sock.state → w'.sock.toOutgoing = w.sock.toOutgoing →
      w'.sock.mss = w.sock.mss → w'.trace = w.trace ++ [.packetRead seg.data seg.len.toNat] ++
        [.rbufWrite (w.sock.rlen.toNat + (seg.seq - w.sock.rcvNxt).toNat) seg.len.toNat] →
      Stays opens h w.sock.state w' := by
    intro w' state outgoing mss trace
    rw [append_assoc] at trace
    refine ⟨⟨before.moves.tail (.stay _ state trace ?_), ?_⟩, state⟩
    · simp [Event.Within]
    · exact Idle.early ⟨state, outgoing, mss⟩ before.early
  split
  · exact ⟨before, rfl⟩
  · split
    · split
      · exact ⟨before.same rfl, rfl⟩
      · exact ⟨before, rfl⟩
    · split
      · exact stored _ rfl rfl rfl rfl
      · exact stored _ rfl rfl rfl rfl

/-- The payload and the answer are moves. -/
theorem processData_lives (calm : user.Calm) (idle : user.Idle) (buffer : Mem) (seg : Segment)
    (live : w.sock.state ≠ .closed) (before : Lives opens h w) :
    ends (processData user buffer seg) (Lives opens h) w := by
  simp only [processData, ↓wp_rules]
  refine wp_mono (storeData_lives buffer _ _ before) ?_ (fun _ _ after => after.lives)
  rintro stored w₁ ⟨before₁, state₁⟩
  have live₁ : w₁.sock.state ≠ .closed := by rw [state₁]; exact live
  refine wp_mono (attemptSend_lives calm idle _ live₁ before₁) ?_ (fun _ _ after => after.lives)
  rintro _ w₂ ⟨before₂, state₂⟩
  have live₂ : w₂.sock.state ≠ .closed := by rw [state₂]; exact live₁
  simp only [announceReadable, ↓wp_rules]
  split
  · exact ends_mono (callback_lives calm .readable (before₂.event rfl rfl live₂ before₂.early))
      fun _ => Stays.lives
  · exact before₂

/-- `process` is a sequence of moves. -/
theorem process_lives (calm : user.Calm) (idle : user.Idle)
    (may : w.sock.OpenedBy buffer seg → opens) (before : Lives opens h w) :
    ends (process user buffer seg) (Lives opens h) w := by
  simp only [process, ↓wp_rules]
  split
  · exact before
  · rename_i conversation
    have conversation := not_not.mp conversation
    generalize (w.env w.pos).clock = now
    generalize looked : ({ w with
      sock := { w.sock with lastTraffic := now, lastrecv := now, bOutgoing := false }
      pos := w.pos + 1 } : World) = w₁
    have before₁ : Lives opens h w₁ := by
      rw [← looked]
      exact before.same rfl
    have may : w₁.sock.state = .synSent ∧ seg.isCtl ∧ seg.len ≠ 0 ∧ buffer seg.data = ctlConnect ∨
        w₁.sock.state = .synReceived ∧ ¬seg.isCtl ∧ w₁.sock.sndUna < seg.ack ∧
          seg.ack ≤ w₁.sock.sndNxt → opens := by
      rw [← looked]
      exact fun opening => may ⟨conversation, opening⟩
    split
    · exact before₁
    · rename_i live
      have live : w₁.sock.state ≠ .closed := by
        rwa [← looked]
      split
      · exact closedown_lives calm _ live before₁
      · refine wp_imp (processControl_lives calm
          (fun state ctl nonempty connect => may (.inl ⟨state, ctl, nonempty, connect⟩))
          live before₁) ?_
        rintro bConnect w₂ ⟨before₂, live₂, plain⟩
        cases bConnect with
        | none =>
          rwa [wp_pure]
        | some bConnect =>
          simp only [↓wp_rules]
          refine wp_imp (processAck_lives
            (w := { w₂ with sock := w₂.sock.updateTimestamp seg }) calm idle now bConnect ?_ live₂
            (before₂.same rfl)) ?_
          · intro state no new sent
            subst no
            obtain ⟨ctl, rfl⟩ := plain rfl
            exact may (.inr ⟨state, ctl, new, sent⟩)
          · rintro goes w₃ ⟨before₃, live₃⟩
            split
            · rename_i going
              exact processData_lives calm idle buffer seg (live₃ going) before₃
            · exact before₃

/-- Reading the header is a move that keeps the socket. -/
theorem readHeader_lives (events : List Event)
    (reads : ∀ event ∈ events, ∃ index len, event = .packetRead index len)
    (before : Lives opens h w) :
    ends (readHeader events) (fun w' => Lives opens h w' ∧ w'.sock = w.sock) w := by
  induction events generalizing w with
  | nil =>
    rw [readHeader, ends, wp_pure]
    exact ⟨before, rfl⟩
  | cons event events ih =>
    obtain ⟨index, len, rfl⟩ := reads event mem_cons_self
    simp only [readHeader, ↓wp_rules]
    exact ih (w := { w with trace := w.trace ++ [.packetRead index len] })
      (forall_mem_of_forall_mem_cons reads)
      (before.event rfl rfl trivial before.early)

/-- So is `notify_packet`. -/
theorem notifyPacket_lives (calm : user.Calm) (idle : user.Idle) (buffer : Mem) (len : UInt32)
    (may : w.sock.OpenedBy buffer (segmentOf buffer len) → opens) (before : Lives opens h w) :
    ends (notifyPacket user buffer len) (Lives opens h) w := by
  simp only [notifyPacket, parse, ↓wp_rules]
  split
  · exact before
  · split
    · exact before
    · refine wp_mono (readHeader_lives headerReads (by simp [headerReads]) before) ?_
        (fun _ _ after => after.1)
      rintro _ w₁ ⟨before₁, same⟩
      exact process_lives calm idle (by rw [same]; exact may) before₁

/-- So is `connect`. -/
theorem connect_lives (calm : user.Calm) (idle : user.Idle) (before : Lives opens h w) :
    ends (connect user) (Lives opens h) w := by
  simp only [connect, ↓wp_rules]
  split
  · exact before.same rfl
  · rename_i listening
    have listening := not_not.mp listening
    refine wp_mono (before.queue_ctl (.inl rfl) listening) ?_ fun _ _ => Stays.lives
    rintro _ w₁ ⟨after, state⟩
    refine ends_mono (attemptSend_lives calm idle .none ?_ after) fun _ => Stays.lives
    rw [state]
    decide

/-- So is `notify_clock`. -/
theorem notifyClock_lives (calm : user.Calm) (idle : user.Idle) (before : Lives opens h w) :
    ends (notifyClock user) (Lives opens h) w := by
  have retransmit : ∀ {w : World} (now : UInt32), w.sock.state ≠ .closed → Lives opens h w →
      wp (checkRetransmit user now)
        (fun goes w' => Goes opens h (· ≠ .closed) goes w')
        (fun _ => Lives opens h) w := by
    intro w now live before
    simp only [checkRetransmit, ↓wp_rules]
    split
    · split
      · refine transmit_lives calm idle now live before fun sent w₁ after _ live₁ => ?_
        split
        · exact ⟨after.same rfl, fun _ => live₁⟩
        · exact closedown_goes calm _ live₁ after
      · exact before
    · exact ⟨before, fun _ => live⟩
  have probe : ∀ {w : World} (now : UInt32), w.sock.state ≠ .closed → Lives opens h w →
      wp (checkProbe user now)
        (fun goes w' => Goes opens h (· ≠ .closed) goes w')
        (fun _ => Lives opens h) w := by
    intro w now live before
    simp only [checkProbe, ↓wp_rules]
    split
    · split
      · exact closedown_goes calm _ live before
      · refine wp_mono (packet_lives calm idle _ live before) ?_ (fun _ _ after => after.lives)
        rintro _ w₁ ⟨after, state⟩
        exact ⟨after.same rfl, fun _ => by rw [state]; exact live⟩
    · exact ⟨before, fun _ => live⟩
  simp only [notifyClock, ↓wp_rules]
  have ticked : Lives opens h { w with pos := w.pos + 1 } := before.same rfl
  split
  · rename_i live
    refine wp_imp (retransmit _ live ticked) ?_
    rintro goes w₁ ⟨before₁, live₁⟩
    split
    · rename_i going
      refine wp_imp (probe _ (live₁ going) before₁) ?_
      rintro goes w₂ ⟨before₂, live₂⟩
      split
      · rename_i going
        simp only [checkDelayedAck, ↓wp_rules]
        split
        · exact ends_mono (packet_lives calm idle _ (live₂ going) before₂) fun _ => Stays.lives
        · exact before₂
      · exact before₂
    · exact before₁
  · exact ticked

/-! ## Runs -/

/-- What lets an entry point establish the connection. -/
def Entry.Opens (s : PseudoTcpSocket) : Entry → Prop
  | .notifyPacket buffer len => s.OpenedBy buffer (segmentOf buffer len)
  | _ => False

/-- Every entry point is a sequence of moves. -/
theorem Entry.run_lives (depth : Nat) (entry : Entry) (env : Nat → Reply) (early : w.sock.Early) :
    ends (entry.run (userCode depth)) (Lives (entry.Opens w.sock) w.toHistory) (w.within env) := by
  have calm := userCode_calm depth
  have idle := userCode_idle depth
  have start : Lives (entry.Opens w.sock) w.toHistory (w.within env) := ⟨.refl, early⟩
  cases entry with
  | connect =>
    simp only [Entry.run, ↓wp_rules]
    exact connect_lives calm idle start
  | call call =>
    exact ends_mono (start.stays (early_of_idle (runCall_calm calm call _) (runCall_idle call)
      start.early)) fun _ => Stays.lives
  | notifyClock => exact notifyClock_lives calm idle start
  | notifyPacket buffer len =>
    simp only [Entry.run, ↓wp_rules]
    exact notifyPacket_lives calm idle buffer len id start

/-- The calls to the application. -/
def Event.IsCallback : Event → Prop
  | .writePacket _ _ => True
  | .opened => True
  | .readable => True
  | .writable => True
  | .closed _ => True
  | _ => False

/-- Whether the event is a call of `PseudoTcpClosed`. -/
def Event.isClosed : Event → Bool
  | .closed _ => true
  | _ => false

/-- What the trace tells about the state, and what cannot happen any more. -/
structure Lived (h : History) : Prop where
  openedOnce : h.trace.count .opened ≤ 1
  opened : .opened ∈ h.trace → h.sock.state = .established ∨ h.sock.state = .closed
  closedOnce : h.trace.countP Event.isClosed ≤ 1
  closed : ∀ before err after, h.trace = before ++ .closed err :: after →
    h.sock.state = .closed ∧ ∀ event ∈ after, ¬event.IsCallback

/-- A list that was appended to, taken apart at a member. -/
theorem append_eq_append_cons {l new before after : List α} {a : α}
    (same : l ++ new = before ++ a :: after) :
    (∃ middle, l = before ++ a :: middle ∧ after = middle ++ new) ∨
      ∃ front, new = front ++ a :: after := by
  rcases append_eq_append_iff.mp same with ⟨middle, rfl, rest⟩ | ⟨middle, rfl, rest⟩
  · exact .inr ⟨middle, rest⟩
  · cases middle with
    | nil => exact .inr ⟨[], rest.symm⟩
    | cons b middle =>
      left
      rw [cons_append, List.cons.injEq] at rest
      exact ⟨middle, by rw [rest.1], rest.2⟩

/-- A connection that is not closed was not announced as closed. -/
theorem Lived.not_closed (lived : Lived h) (live : h.sock.state ≠ .closed) :
    ∀ err, .closed err ∉ h.trace := by
  intro err member
  obtain ⟨before, after, trace⟩ := append_of_mem member
  exact live (lived.closed before err after trace).1

/-- Moves keep what the trace tells. -/
theorem Life.lived (move : Life opens h h') (lived : Lived h) : Lived h' := by
  cases move with
  | stay new state trace within =>
    have noOpened : .opened ∉ new := fun member => within _ member
    have noClosed : ∀ event ∈ new, ¬event.isClosed = true := by
      intro event member
      have inside := within event member
      cases event <;> simp_all [Event.isClosed, Event.Within]
    refine ⟨?_, fun member => ?_, ?_, fun before err after same => ?_⟩
    · rw [trace, count_append, count_eq_zero_of_not_mem noOpened]
      exact lived.openedOnce
    · rw [trace, mem_append] at member
      rw [state]
      exact lived.opened (member.resolve_right noOpened)
    · rw [trace, countP_append, countP_eq_zero.mpr noClosed]
      exact lived.closedOnce
    · rw [trace] at same
      rcases append_eq_append_cons same with ⟨middle, early, rfl⟩ | ⟨front, rfl⟩
      · obtain ⟨closed, silent⟩ := lived.closed before err middle early
        refine ⟨state.trans closed, fun event member => ?_⟩
        rcases mem_append.mp member with member | member
        · exact silent event member
        · have inside := within event member
          rw [closed] at inside
          cases event <;> simp_all [Event.IsCallback, Event.Within]
      · exact absurd rfl (noClosed (.closed err) (by simp))
  | request listening state trace =>
    have live : h.sock.state ≠ .closed := by
      rw [listening]
      decide
    refine ⟨?_, fun member => ?_, ?_, fun before err after same => ?_⟩
    · rw [trace]
      exact lived.openedOnce
    · rw [trace] at member
      have := lived.opened member
      simp [listening] at this
    · rw [trace]
      exact lived.closedOnce
    · rw [trace] at same
      refine absurd ?_ (lived.not_closed live err)
      rw [same]
      simp
  | establish allowed opening state trace =>
    have live : h.sock.state ≠ .closed := by
      rcases opening with opening | opening <;> rw [opening] <;> decide
    have first : .opened ∉ h.trace := by
      intro member
      have := lived.opened member
      rcases opening with opening | opening <;> simp [opening] at this
    refine ⟨?_, fun _ => .inl state, ?_, fun before err after same => ?_⟩
    · rw [trace, count_append, count_eq_zero_of_not_mem first]
      decide
    · rw [trace, countP_append]
      exact lived.closedOnce
    · rw [trace] at same
      rcases append_eq_append_cons same with ⟨middle, early, -⟩ | ⟨front, last⟩
      · refine absurd ?_ (lived.not_closed live err)
        rw [early]
        simp
      · simp [singleton_eq_append_iff] at last
  | close err live state trace =>
    have first : h.trace.countP Event.isClosed = 0 := by
      rw [countP_eq_zero]
      intro event member closed
      cases event <;> simp [Event.isClosed] at closed
      exact lived.not_closed live _ member
    refine ⟨?_, fun _ => .inr state, ?_, fun before err' after same => ?_⟩
    · rw [trace, count_append]
      simpa using lived.openedOnce
    · rw [trace, countP_append, first]
      simp [Event.isClosed]
    · rw [trace] at same
      rcases append_eq_append_cons same with ⟨middle, early, -⟩ | ⟨front, last⟩
      · refine absurd ?_ (lived.not_closed live err')
        rw [early]
        simp
      · obtain ⟨-, -, rfl⟩ : front = [] ∧ err' = err ∧ after = [] := by
          simpa [singleton_eq_append_iff] using last
        exact ⟨state, forall_mem_nil _⟩

/-- Only a move that establishes the connection calls `PseudoTcpOpened`. -/
theorem Life.count_opened (move : Life opens h h') (closed : ¬opens) :
    h'.trace.count .opened = h.trace.count .opened := by
  cases move with
  | stay new state trace within =>
    have noOpened : .opened ∉ new := fun member => within _ member
    rw [trace, count_append, count_eq_zero_of_not_mem noOpened, Nat.add_zero]
  | request listening state trace => rw [trace]
  | establish allowed opening state trace => exact absurd allowed closed
  | close err live state trace =>
    rw [trace, count_append]
    simp

/-- Runs keep it, and the socket is early until it is established. -/
theorem Reachable.lived {depth : Nat} {meets : World → Entry → (Nat → Reply) → Prop}
    {result : Except Fault Unit} (reached : Reachable depth meets result w) :
    Lived w.toHistory ∧ w.sock.Early := by
  induction reached with
  | new conversation now =>
    refine ⟨⟨by simp [World.new], by simp [World.new], by simp [World.new], by simp [World.new]⟩, ?_⟩
    intro _ _
    have mss : minPacket - packetOverhead ≠ 0 := by decide
    exact ⟨mss, .inl ⟨rfl, rfl, fun _ => ⟨rfl, rfl⟩⟩⟩
  | @step w w' result entry env reached condition ended ih =>
    obtain ⟨lived, early⟩ := ih
    have lives := ends_run (Entry.run_lives depth entry env early) ended
    exact ⟨invariant_of_steps (fun _ _ move => move.lived) lives.moves lived, lives.early⟩

/-- A packet with `CTL_CONNECT` while in `SYN_SENT`, or one that acknowledges the own control byte,
number zero, while in `SYN_RECEIVED`. -/
def PseudoTcpSocket.Handshake (s : PseudoTcpSocket) (buffer : Mem) (seg : Segment) : Prop :=
  seg.conv = s.conv ∧
    (s.state = .synSent ∧ seg.isCtl ∧ seg.len ≠ 0 ∧ buffer seg.data = ctlConnect ∨
      s.state = .synReceived ∧ ¬seg.isCtl ∧ s.sndUna = 0 ∧ s.sndNxt = 1 ∧ seg.ack = 1)

/-- In every run, with any application code in the callbacks: `PseudoTcpOpened` and
`PseudoTcpClosed` are called at most once, after `PseudoTcpClosed` the socket is closed and the
application is not called again, and an entry point calls `PseudoTcpOpened` only for a packet of
the handshake. -/
theorem lifecycle_of_run {depth : Nat} {result : Except Fault Unit}
    (reached : Reachable depth (fun _ _ _ => True) result w) :
    w.trace.count .opened ≤ 1 ∧ w.trace.countP Event.isClosed ≤ 1 ∧
      (∀ before err after, w.trace = before ++ .closed err :: after →
        w.sock.state = .closed ∧ ∀ event ∈ after, ¬event.IsCallback) ∧
      ∀ (entry : Entry) env result' (w' : World), result = .ok () →
        entry.run (userCode depth) (w.within env) = (result', w') →
        w.trace.count .opened < w'.trace.count .opened →
        ∃ buffer len, entry = .notifyPacket buffer len ∧
          w.sock.Handshake buffer (segmentOf buffer len) := by
  obtain ⟨lived, early⟩ := reached.lived
  refine ⟨lived.openedOnce, lived.closedOnce, lived.closed, ?_⟩
  intro entry env result' w' _ ended more
  have lives := ends_run (Entry.run_lives depth entry env early) ended
  by_cases opened : entry.Opens w.sock
  · cases entry with
    | notifyPacket buffer len =>
      obtain ⟨conversation, opening | ⟨state, plain, new, sent⟩⟩ := opened
      · exact ⟨buffer, len, rfl, conversation, .inl opening⟩
      · obtain ⟨xmit, queued, ack, nxt⟩ :=
          early.acked (by rw [state]; decide) (by rw [state]; decide) new sent
        exact ⟨buffer, len, rfl, conversation, .inr ⟨state, plain, queued.una, nxt, ack⟩⟩
    | connect | call | notifyClock => exact opened.elim
  · have same : w'.trace.count .opened = w.trace.count .opened :=
      invariant_of_steps (I := fun h' => h'.trace.count .opened = w.trace.count .opened)
        (fun _ _ move before => (move.count_opened opened).trans before) lives.moves rfl
    omega

/-- A reset packet closes a listening socket, whose application then sends from inside
`PseudoTcpClosed`. -/
theorem lifecycle_of_run_reset :
    let reset : Entry := .notifyPacket (Mem.ofList (Packet.bytes ⟨0, 0, 0, flagRst, 0, 0, 0, []⟩)) 24
    let w := reset.after (userCode 1) (fun _ => ⟨1000, .success, [.send (fun _ => 7) 3]⟩)
      (World.new 0 1000)
    .closed .econnreset ∈ w.trace ∧ w.sock.state = .closed ∧ w.trace.count .opened ≤ 1 := by
  intro reset w
  have reached : Reachable 1 (fun _ _ _ => True) (.ok ()) w :=
    .next reset _ (.new 0 1000) trivial (by rfl)
  have closed : .closed .econnreset ∈ w.trace := by decide +kernel
  obtain ⟨opened, -, silent, -⟩ := lifecycle_of_run reached
  obtain ⟨before, after, trace⟩ := append_of_mem closed
  exact ⟨closed, (silent before _ after trace).1, opened⟩

end Xice.PseudoTcp
