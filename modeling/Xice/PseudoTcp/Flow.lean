import Xice.PseudoTcp.SendQueue

/-!
# Flow control

A round of the loop of `attempt_send` that transmits keeps the bytes in flight inside both windows,
with the allowance of limited transmit. It also uses up room in the window, or a segment without
bytes, so that the loop ends. The socket is any one, and `WritePacket` returns what it likes.
-/

namespace Xice.PseudoTcp

open Xice.Lib Exec Relation List Word

variable {w w' : World} {index : Nat} {segment : SSegment}

/-! ## One transmission -/

variable (now : UInt32) (fuel : Nat) (sflags : SendFlags)

/-- The loop of `transmit` changes control fields, and goes round at most once for each level. -/
theorem transmitLoop_moves (count : UInt32) (found : w.sock.slist[index]? = some segment)
    (positive : 0 < fuel) (enough : 11 ≤ fuel + w.sock.msslevel.toNat) :
    wp (transmitLoop (userCode 0) index fuel count)
      (fun sent w' => Tuned w.sock w'.sock ∧
        ∀ n, sent = some n → n.toNat ≤ count.toNat ∧ (0 < n.toNat ∨ n = count))
      (fun fault _ => fault ≠ .endless) w := by
  induction fuel generalizing w count with
  | zero => omega
  | succ fuel ih =>
    simp only [transmitLoop, ↓wp_rules]
    refine wp_mono (sendSegment_wrote found count) ?_ (fun fault _ large => by
      rw [large.assert]
      decide)
    intro result w₁ wrote
    cases result with
    | success =>
      rw [wp_pure]
      refine ⟨wrote.tuned, fun n some => ?_⟩
      obtain rfl : count = n := by simpa using some
      exact ⟨le_refl _, .inr rfl⟩
    | fail =>
      rw [wp_pure]
      exact ⟨wrote.tuned, fun n some => by simp at some⟩
    | tooLarge =>
      have listed : ∀ maximum ∈ packetMaximums.drop (w₁.sock.msslevel.toNat + 1),
          maximum ∈ packetMaximums := fun maximum member => mem_of_mem_drop member
      have tuned := wrote.tuned.trans (lowerMss_tuned count _ w₁.sock listed)
      simp only [↓wp_rules]
      split
      · rename_i next
        obtain ⟨mss, below, further, last⟩ :=
          lowerMss_found count _ w₁.sock listed (length_levels _) next
        rw [← wrote.level] at enough
        have fewer := UInt32.lt_iff_toNat_lt.mp below
        refine wp_imp (ih _ (by rw [tuned.same]; exact found) (by omega) (by simp only; omega)) ?_
        rintro sent w₂ ⟨again, went⟩
        refine ⟨tuned.trans again, fun n some => ?_⟩
        obtain ⟨less, nonempty⟩ := went n some
        refine ⟨by omega, .inl ?_⟩
        rcases nonempty with positive | rfl <;> assumption
      · exact ⟨tuned, fun n some => by simp at some⟩

/-- A transmitted segment was cut to a count, and only control fields changed. -/
theorem transmit_moves (found : w.sock.slist[index]? = some segment) :
    wp (transmit (userCode 0) index now)
      (fun sent w' => sent = true → ∃ (s : PseudoTcpSocket) (count : UInt32), Tuned w.sock s ∧
        count.toNat ≤ segment.len.toNat ∧
        (0 < count.toNat ∨ count = min segment.len w.sock.mss) ∧
        w'.sock = s.transmitted index count now)
      (fun fault _ => fault ≠ .endless) w := by
  simp only [transmit, ↓wp_rules, found]
  split
  · exact fun absurd => by simp at absurd
  · have levels : packetMaximums.length = 11 := rfl
    refine wp_imp (transmitLoop_moves _ _ found (by omega) (by omega)) ?_
    rintro sent w₁ ⟨tuned, went⟩
    cases sent with
    | none =>
      rw [wp_pure]
      exact fun absurd => by simp at absurd
    | some n =>
      rw [wp_bind, wp_modifySock, wp_pure]
      obtain ⟨less, nonempty⟩ := went n rfl
      rw [toNat_min32] at less
      exact fun _ => ⟨w₁.sock, n, tuned, by omega, nonempty, rfl⟩

/-! ## One round -/

/-- Segments without bytes, and room in the window of the peer. -/
def Outgoing.roundsLeft (o : Outgoing) : Nat :=
  (o.slist.countP fun segment => segment.xmit = 0 ∧ segment.len = 0) +
    (o.sndWnd.toNat - o.inFlight.toNat)

/-- What limited transmit adds to the congestion window. -/
def PseudoTcpSocket.allowance (s : PseudoTcpSocket) : Nat :=
  if s.dupAcks = 1 ∨ s.dupAcks = 2 then s.dupAcks.toNat * s.mss.toNat else 0

/-- The window of a round is inside both windows. -/
theorem nWindow_le (s : PseudoTcpSocket) :
    s.nWindow.toNat ≤ s.sndWnd.toNat ∧ s.nWindow.toNat ≤ s.cwnd.toNat + s.allowance := by
  simp only [PseudoTcpSocket.nWindow, PseudoTcpSocket.allowance, toNat_min32]
  refine ⟨Nat.min_le_left _ _, (Nat.min_le_right _ _).trans ?_⟩
  split
  · rw [UInt32.toNat_add, UInt32.toNat_mul]
    have wrapped := Nat.mod_le (s.dupAcks.toUInt32.toNat * s.mss.toNat) (2 ^ 32)
    refine (Nat.mod_le _ _).trans (Nat.add_le_add_left wrapped _)
  · exact Nat.le_refl _

/-- Cutting a segment with bytes leaves no piece without. -/
theorem countP_empty_cut (front back : List SSegment) {count : UInt32} (xmit : UInt8)
    (positive : 0 < count.toNat) (cut : count < segment.len) :
    (front ++ { segment with len := count, xmit := xmit } ::
      { segment with seq := segment.seq + count, len := segment.len - count } :: back).countP
        (fun segment => segment.xmit = 0 ∧ segment.len = 0) =
    (front ++ segment :: back).countP (fun segment => segment.xmit = 0 ∧ segment.len = 0) := by
  have cut := UInt32.lt_iff_toNat_lt.mp cut
  have whole : ¬segment.len = 0 := by
    rw [eq_zero32]
    omega
  have head : ¬count = 0 := by
    rw [eq_zero32]
    omega
  have tail : ¬segment.len - count = 0 := by
    rw [eq_zero32, toNat_sub32 (by omega)]
    omega
  simp [countP_append, whole, head, tail]

/-- A first transmission inside the window leaves fewer rounds. -/
theorem transmitted_rounds {s : PseudoTcpSocket} (found : s.slist[index]? = some segment)
    (unsent : segment.xmit = 0) (count now : UInt32) (within : count.toNat ≤ segment.len.toNat)
    (nonempty : segment.len ≠ 0 → 0 < count.toNat)
    (window : s.inFlight.toNat + segment.len.toNat ≤ s.sndWnd.toNat) :
    (s.transmitted index count now).roundsLeft < s.roundsLeft := by
  have bound := s.sndWnd.toNat_lt
  have listed := Lists.eq_append_cons found
  have length := Lists.length_take found
  obtain ⟨flight, wnd⟩ := transmitted_inFlight found unsent count now within (by omega)
  have again : ¬(0 : UInt8) + 1 = 0 := by decide
  simp only [Outgoing.roundsLeft, flight, wnd]
  rw [← length]
  by_cases cut : count < segment.len
  · have less := UInt32.lt_iff_toNat_lt.mp cut
    have positive := nonempty fun zero => by
      rw [eq_zero32] at zero
      omega
    rw [transmitted_cut listed count now cut]
    simp only
    rw [countP_empty_cut _ _ _ positive cut, ← listed]
    omega
  · rw [transmitted_whole listed count now cut]
    simp only
    nth_rewrite 3 [listed]
    simp only [countP_append, countP_cons, unsent, again, false_and, true_and,
      decide_false, Bool.false_eq_true, if_false]
    by_cases empty : segment.len = 0
    · simp only [empty, decide_true, if_true]
      omega
    · have positive := nonempty empty
      have whole : segment.len.toNat = count.toNat := by
        rw [UInt32.lt_iff_toNat_lt] at cut
        omega
      simp only [empty, decide_false, Bool.false_eq_true, if_false]
      omega

/-- A round of the loop of `attempt_send` that finds room. -/
def attemptRound (user : UserCode) (now nAvailable : UInt32) : Run Bool := do
  let index ← nextSegment nAvailable
  transmit user index now

/-- The loop of `attempt_send` is a sequence of rounds. -/
theorem attemptSendLoop_succ (user : UserCode) (now : UInt32) (fuel : Nat) (sflags : SendFlags) :
    attemptSendLoop user now (fuel + 1) sflags = (do
      let s ← getSock
      if s.nAvailable = 0 then acknowledge user sflags
      else if s.nagle then return
      else if ← attemptRound user now s.nAvailable then attemptSendLoop user now fuel .none) := by
  simp only [attemptSendLoop, attemptRound, bind_assoc]

/-- Cutting the next segment leaves as many rounds. -/
theorem splitSegment_rounds {o : Outgoing} (found : o.slist[index]? = some segment)
    (unsent : segment.xmit = 0) {count : UInt32} (positive : 0 < count.toNat)
    (cut : count < segment.len) : (o.splitSegment index count 0).roundsLeft = o.roundsLeft := by
  have listed := Lists.eq_append_cons found
  have pieces := splitSegment_slist listed count 0
  rw [Lists.length_take found] at pieces
  have rest : (⟨segment.seq + count, segment.len - count, 0, segment.bCtrl⟩ : SSegment) =
      { segment with seq := segment.seq + count, len := segment.len - count } := by rw [unsent]
  have same := countP_empty_cut (o.slist.take index) (o.slist.drop (index + 1)) segment.xmit positive cut
  rw [rest] at pieces
  rw [Outgoing.roundsLeft, splitSegment_same]
  simp only
  rw [pieces, same, ← listed]
  rfl

/-- A round stays inside its window, and leaves fewer rounds. -/
theorem attemptRound_moves (available : w.sock.nAvailable ≠ 0) :
    wp (attemptRound (userCode 0) now w.sock.nAvailable)
      (fun sent w' => sent = true → w'.sock.sndWnd = w.sock.sndWnd ∧
        w'.sock.inFlight.toNat ≤ w.sock.nWindow.toNat ∧
        w'.sock.roundsLeft < w.sock.roundsLeft)
      (fun fault _ => fault ≠ .endless) w := by
  obtain ⟨room, mss⟩ := nAvailable_nWindow w.sock available
  have window := (nWindow_le w.sock).1
  have bound := w.sock.sndWnd.toNat_lt
  have positive := mt eq_zero32.mpr available
  -- what the transmission of the chosen segment does, wherever the choice left the world
  have transmits : ∀ (w₁ : World) (index : Nat) (segment : SSegment),
      w₁.sock = { w.sock with slist := w₁.sock.slist } →
      w₁.sock.roundsLeft = w.sock.roundsLeft → w₁.sock.slist[index]? = some segment →
      segment.xmit = 0 → segment.len.toNat ≤ w.sock.nAvailable.toNat →
      wp (transmit (userCode 0) index now)
        (fun sent w' => sent = true → w'.sock.sndWnd = w.sock.sndWnd ∧
          w'.sock.inFlight.toNat ≤ w.sock.nWindow.toNat ∧
          w'.sock.roundsLeft < w.sock.roundsLeft)
        (fun fault _ => fault ≠ .endless) w₁ := by
    intro w₁ index segment same rounds found unsent small
    refine wp_imp (transmit_moves now found) ?_
    intro sent w' went sent
    obtain ⟨s, count, tuned, within, nonempty, marked⟩ := went sent
    have out : s.toOutgoing = w₁.sock.toOutgoing := tuned.outgoing
    have flight : s.inFlight = w.sock.inFlight := by
      rw [out, same]
      rfl
    have wnd : s.sndWnd = w.sock.sndWnd := by rw [out, same]
    have found : s.slist[index]? = some segment := by
      rwa [out]
    have moved := transmitted_inFlight found unsent count now within (by rw [flight]; omega)
    have fewer := transmitted_rounds found unsent count now within (fun bytes => by
      rcases nonempty with positive | rfl
      · exact positive
      · have room : w₁.sock.mss ≠ 0 := by
          rwa [same]
        rw [ne_eq, eq_zero32] at bytes room
        rw [toNat_min32]
        omega) (by rw [flight, wnd]; omega)
    rw [marked]
    refine ⟨moved.2.trans wnd, ?_, ?_⟩
    · rw [moved.1, flight]
      omega
    · rwa [← rounds, ← out]
  simp only [attemptRound, ↓wp_rules]
  refine wp_mono (nextSegment_cut _ w) ?_ ?_
  · rintro index w₁ ⟨segment, found, unsent, first, ⟨large, rfl⟩ | ⟨small, rfl⟩⟩
    · have chosen : Chosen w w.sock.nAvailable index _ := .of_cut found unsent first
      obtain ⟨piece, listed, unsent', -, small⟩ := chosen.found
      exact transmits _ index piece chosen.same (splitSegment_rounds found unsent (by omega) large)
        listed unsent' small
    · exact transmits _ index segment rfl rfl found unsent (UInt32.le_iff_toNat_le.mp small)
  · rintro fault w' ⟨rfl, ⟨rfl, -⟩ | ⟨rfl, -⟩⟩
    · decide
    · decide

/-! ## The loop -/

/-- The acknowledgement decision does not go round. -/
theorem acknowledge_stops (w : World) :
    wp (acknowledge (userCode 0) sflags) (fun _ _ => True) (fun fault _ => fault ≠ .endless) w := by
  simp only [acknowledge, packet, writePacket, userCode, ↓wp_rules, ite_self]
  split
  · trivial
  · split
    · split
      · trivial
      · decide
    · trivial

/-- The loop ends when there are enough rounds. -/
theorem attemptSendLoop_stops (enough : w.sock.roundsLeft < fuel) :
    wp (attemptSendLoop (userCode 0) now fuel sflags) (fun _ _ => True)
      (fun fault _ => fault ≠ .endless) w := by
  induction fuel generalizing w sflags with
  | zero => omega
  | succ fuel ih =>
    rw [attemptSendLoop_succ]
    simp only [↓wp_rules]
    split
    · exact acknowledge_stops sflags w
    · rename_i available
      split
      · trivial
      · refine wp_imp (attemptRound_moves now available) ?_
        intro sent w₁ moves
        split
        · rename_i went
          obtain ⟨-, -, fewer⟩ := moves went
          exact ih _ (by omega)
        · trivial

/-- In a run the loop goes round no more often than the window of the peer has bytes. -/
theorem Reachable.not_endless {meets : World → Entry → (Nat → Reply) → Prop}
    {result : Except Fault Unit} (reached : Reachable 0 meets result w) :
    result ≠ .error .endless := by
  cases reached with
  | new conversation now => exact nofun
  | @step w w' result entry env before condition ended =>
    rintro rfl
    have made : entry.Allowed (fun _ => True) := by
      cases entry <;> trivial
    have fails := wp_error (entry.run_steps w before.lived.2 made (fun _ _ _ => trivial)) ended
    have quiet : ¬∃ h₁, ReflTransGen (Quiet fun _ => True) w.toHistory h₁ ∧
        Cause h₁.sock .endless := by
      rintro ⟨h₁, steps, cause⟩
      exact (ordered_of_quiet before.ordered steps).not_endless cause
    cases entry with
    | connect => exact quiet fails.2
    | call => exact quiet fails.2
    | notifyClock => exact quiet fails.2
    | notifyPacket buffer len =>
      rcases fails.cause with ⟨h₁, processed, cause⟩ | ⟨h₁, opening, cause⟩
      · exact (Processed.ordered before.ordered processed).not_endless cause
      · exact nomatch (ordered_of_quiet before.ordered opening.steps).rtt_of_ackCause cause

/-- Whenever a round of `attempt_send` transmits a segment for the first time, the bytes in flight
are inside the window of the peer, and inside the congestion window with the allowance of that
round. For every send queue the loop ends; and no run goes round more often than the window of the
peer has bytes. -/
theorem attemptSend_flow :
    (∀ (w w' : World) (now : UInt32), w.sock.nAvailable ≠ 0 →
      attemptRound (userCode 0) now w.sock.nAvailable w = (.ok true, w') →
      w'.sock.inFlight.toNat ≤ w'.sock.sndWnd.toNat ∧
      w'.sock.inFlight.toNat ≤ w.sock.cwnd.toNat + w.sock.allowance) ∧
    (∀ (w w' : World) (now : UInt32) (sflags : SendFlags) (fuel : Nat), w.sock.roundsLeft < fuel →
      attemptSendLoop (userCode 0) now fuel sflags w ≠ (.error .endless, w')) ∧
    ∀ (meets : World → Entry → (Nat → Reply) → Prop) (result : Except Fault Unit) (w : World),
      Reachable 0 meets result w → result ≠ .error .endless := by
  refine ⟨fun w w' now available ended => ?_, fun w w' now sflags fuel enough ended => ?_,
    fun _ _ _ reached => reached.not_endless⟩
  · obtain ⟨wnd, inside, -⟩ := wp_ok (attemptRound_moves now available) ended rfl
    obtain ⟨peer, congestion⟩ := nWindow_le w.sock
    rw [wnd]
    exact ⟨inside.trans peer, inside.trans congestion⟩
  · exact wp_error (attemptSendLoop_stops now fuel sflags enough) ended rfl

/-- The connection is opened, and five bytes were queued. -/
def fiveQueued : World :=
  let w := Entry.connect.after (userCode 0) steady (World.new 0 1000)
  let w := (Entry.delivery ⟨0, 0, 1, flagCtl, 61440, 1000, 1000, [0]⟩).after (userCode 0) steady w
  (queue (Mem.ofList []) 5 false (w.within steady)).2

/-- The world after the round that transmits the five bytes. -/
def fiveTransmitted : World :=
  (attemptRound (userCode 0) 1000 fiveQueued.sock.nAvailable fiveQueued).2

/-- Five bytes are transmitted inside both windows, and the loop ends after them. -/
theorem attemptSend_flow_five :
    fiveTransmitted.sock.inFlight = 5 ∧
      (fiveTransmitted.sock.inFlight.toNat ≤ fiveTransmitted.sock.sndWnd.toNat ∧
        fiveTransmitted.sock.inFlight.toNat ≤
          fiveQueued.sock.cwnd.toNat + fiveQueued.sock.allowance) ∧
      (∀ w', attemptSendLoop (userCode 0) 1000 61441 .none fiveQueued ≠ (.error .endless, w')) ∧
      (Entry.connect.run (userCode 0) ((World.new 0 1000).within steady)).1 ≠ .error .endless := by
  have went : attemptRound (userCode 0) 1000 fiveQueued.sock.nAvailable fiveQueued =
      (.ok true, fiveTransmitted) := Prod.ext (by decide +kernel) rfl
  refine ⟨by decide +kernel, attemptSend_flow.1 _ _ 1000 (by decide +kernel) went,
    fun w' => attemptSend_flow.2.1 _ w' _ _ _ (by decide +kernel), ?_⟩
  exact attemptSend_flow.2.2 (fun _ _ _ => True) _ _
    (.step .connect steady (.new 0 1000) trivial rfl)

end Xice.PseudoTcp
