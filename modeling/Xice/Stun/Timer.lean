import Xice.Lib.Word

/-!
# Retransmission timers

`StunTimer` of `timer.c`. The deadline is a `struct timeval`, whose microseconds may come to a whole
million; delays are `unsigned` milliseconds, which `div` takes as an `int`. The timer doubles its
delay with every retransmission, and gives the peer the time that its documentation promises, less a
millisecond.
-/

namespace Xice.Stun

open Xice.Lib Word List

/-- `StunUsageTimerReturn`. -/
inductive StunUsageTimerReturn where
  | success
  | timeout
  | retransmit
  deriving DecidableEq, Repr

/-- `StunTimer`. -/
structure StunTimer where
  sec : Int
  usec : Int
  /-- Time between two retransmissions, in milliseconds. -/
  delay : UInt32
  retransmissions : UInt32
  /-- Number of retransmissions before the request times out. -/
  maxRetransmissions : UInt32
  deriving DecidableEq, Repr

namespace StunTimer

/-- The loop of `add_delay` makes microseconds into seconds. -/
def carry : Nat → Int → Int → Int × Int
  | 0, sec, usec => (sec, usec)
  | fuel + 1, sec, usec =>
    if usec > 1000000 then carry fuel (sec + 1) (usec - 1000000) else (sec, usec)

variable (timer : StunTimer) {now : Nat}

/-- `add_delay`. The loop goes round at most once for every second. -/
def addDelay (delay : UInt32) : StunTimer :=
  let sec := timer.sec + delay.toInt32.toInt.tdiv 1000
  let usec := timer.usec + delay.toInt32.toInt.tmod 1000 * 1000
  let (sec, usec) := carry (usec.toNat / 1000000) sec usec
  { timer with sec, usec }

/-- `stun_timer_start`. -/
def start (now : Nat) (initialTimeout maxRetransmissions : UInt32) : StunTimer :=
  addDelay ⟨(now / 1000000 : Nat), (now % 1000000 : Nat), initialTimeout, 0, maxRetransmissions⟩
    initialTimeout

/-- `stun_timer_start_reliable`. -/
def startReliable (now : Nat) (initialTimeout : UInt32) : StunTimer := start now initialTimeout 0

/-- `stun_timer_remainder`, in milliseconds. The difference of the microseconds is an `int`, added
to the `unsigned` delay. -/
def remainder (now : Nat) : UInt32 :=
  if (now / 1000000 : Nat) > timer.sec then 0
  else
    let delay := UInt32.ofInt (timer.sec - (now / 1000000 : Nat))
    if delay = 0 ∧ (now % 1000000 : Nat) ≥ timer.usec then 0
    else delay * 1000 +
      UInt32.ofInt ((Int32.ofInt (timer.usec - (now % 1000000 : Nat))).toInt.tdiv 1000)

/-- `stun_timer_refresh`. -/
def refresh (now : Nat) : StunTimer × StunUsageTimerReturn :=
  if timer.remainder now = 0 then
    if timer.retransmissions ≥ timer.maxRetransmissions then (timer, .timeout)
    else
      let timer := { timer with delay := timer.delay * 2 }
      let timer := timer.addDelay timer.delay
      ({ timer with retransmissions := timer.retransmissions + 1 }, .retransmit)
  else (timer, .success)

/-! ## Deadlines -/

/-- The deadline in microseconds. -/
def deadline : Int := timer.sec * 1000000 + timer.usec

/-- The microseconds are at most a million. -/
def Normal : Prop := 0 ≤ timer.usec ∧ timer.usec ≤ 1000000

/-- The time stays, and microseconds are few. -/
theorem carry_spec (fuel : Nat) (sec usec : Int) (least : 0 ≤ usec)
    (enough : usec ≤ 1000000 * (fuel + 1)) :
    (carry fuel sec usec).1 * 1000000 + (carry fuel sec usec).2 = sec * 1000000 + usec ∧
      0 ≤ (carry fuel sec usec).2 ∧ (carry fuel sec usec).2 ≤ 1000000 := by
  induction fuel generalizing sec usec with
  | zero =>
    rw [carry]
    exact ⟨rfl, least, by simpa using enough⟩
  | succ fuel ih =>
    rw [carry]
    split
    · have rest := ih (sec + 1) (usec - 1000000) (by omega) (by push_cast at enough ⊢; omega)
      exact ⟨by omega, rest.2⟩
    · exact ⟨rfl, least, by omega⟩

/-- The deadline moves by the delay. -/
theorem deadline_addDelay {timer : StunTimer} (normal : timer.Normal) {delay : UInt32}
    (fits : delay.toNat < 2 ^ 31) :
    (timer.addDelay delay).deadline = timer.deadline + 1000 * delay.toNat ∧
      (timer.addDelay delay).Normal := by
  have value : delay.toInt32.toInt = delay.toNat := by
    rw [toInt_toInt32, Int.bmod_eq_of_le (by omega) (by omega)]
  have parts : (delay.toNat : Int).tdiv 1000 * 1000 + (delay.toNat : Int).tmod 1000 = delay.toNat :=
    by rw [mul_comm]; exact Int.mul_tdiv_add_tmod _ _
  have low : 0 ≤ (delay.toNat : Int).tmod 1000 := Int.tmod_nonneg _ (Int.natCast_nonneg _)
  have high : (delay.toNat : Int).tmod 1000 < 1000 := Int.tmod_lt_of_pos _ (by decide)
  obtain ⟨least, most⟩ := normal
  have moved := carry_spec ((timer.usec + (delay.toNat : Int).tmod 1000 * 1000).toNat / 1000000)
    (timer.sec + (delay.toNat : Int).tdiv 1000)
    (timer.usec + (delay.toNat : Int).tmod 1000 * 1000) (by omega) (by omega)
  simp only [addDelay, deadline, Normal, value]
  exact ⟨by omega, moved.2⟩

/-- Division rounds towards zero. -/
theorem tdiv_thousand (a : Int) : 1000 * a.tdiv 1000 < a + 1000 ∧ a < 1000 * a.tdiv 1000 + 1000 := by
  rcases le_total 0 a with positive | negative
  · rw [Int.tdiv_eq_ediv_of_nonneg positive]
    omega
  · obtain ⟨b, rfl⟩ : ∃ b, a = -b := ⟨-a, by omega⟩
    rw [Int.neg_tdiv, Int.tdiv_eq_ediv_of_nonneg (by omega)]
    omega

/-- The time left in milliseconds, rounded in one direction or the other. -/
theorem remainder_bounds {timer : StunTimer} (normal : timer.Normal)
    (near : timer.deadline < now + 1000 * 2 ^ 31 + 1000) :
    1000 * ((timer.remainder now).toNat : Int) < max 0 (timer.deadline - now) + 1000 ∧
      (timer.remainder now = 0 → timer.deadline < now + 1000) := by
  obtain ⟨least, most⟩ := normal
  simp only [deadline] at near ⊢
  have clock : ((now / 1000000 : Nat) : Int) * 1000000 + (now % 1000000 : Nat) = now := by omega
  have below : ((now % 1000000 : Nat) : Int) < 1000000 := by omega
  have first : (0 : Int) ≤ (now % 1000000 : Nat) := Int.natCast_nonneg _
  rw [remainder]
  generalize ((now / 1000000 : Nat) : Int) = sec at clock ⊢
  generalize ((now % 1000000 : Nat) : Int) = usec at clock below first ⊢
  split
  · refine ⟨?_, fun _ => by omega⟩
    rw [UInt32.toNat_zero]
    omega
  · rename_i notPassed
    have whole : (UInt32.ofInt (timer.sec - sec)).toNat = (timer.sec - sec).toNat :=
      toNat_ofInt32 (by omega) (by omega)
    simp only
    split
    · rename_i passed
      have same : timer.sec - sec = 0 := by
        have zero := congrArg UInt32.toNat passed.1
        rw [whole, UInt32.toNat_zero] at zero
        omega
      refine ⟨?_, fun _ => by omega⟩
      rw [UInt32.toNat_zero]
      omega
    · rename_i ahead
      have signed : (Int32.ofInt (timer.usec - usec)).toInt = timer.usec - usec :=
        Int32.toInt_ofInt_of_le (by omega) (by omega)
      obtain ⟨low, high⟩ := tdiv_thousand (timer.usec - usec)
      rw [signed]
      -- a whole second makes up for the microseconds that are missing
      have left : 0 < (timer.sec - sec) * 1000000 + (timer.usec - usec) := by
        by_contra gone
        have same : timer.sec - sec = 0 := by omega
        exact ahead ⟨by rw [same]; rfl, by omega⟩
      have total : (UInt32.ofInt (timer.sec - sec) * 1000 +
          UInt32.ofInt ((timer.usec - usec).tdiv 1000)) =
          UInt32.ofInt ((timer.sec - sec) * 1000 + (timer.usec - usec).tdiv 1000) := by
        rw [UInt32.ofInt_add, UInt32.ofInt_mul]
        rfl
      have value : (UInt32.ofInt ((timer.sec - sec) * 1000 +
          (timer.usec - usec).tdiv 1000)).toNat =
          ((timer.sec - sec) * 1000 + (timer.usec - usec).tdiv 1000).toNat :=
        toNat_ofInt32 (by omega) (by omega)
      rw [total]
      refine ⟨by omega, fun zero => ?_⟩
      have zero := congrArg UInt32.toNat zero
      rw [value, UInt32.toNat_zero] at zero
      omega

/-! ## Runs -/

/-- The calls after `stun_timer_start`: the timer, the time of the last call, and what
`stun_timer_refresh` returned, with the times, oldest first. The clock does not go back. -/
inductive Ticks (begin : Nat) (timeout max : UInt32) :
    StunTimer → Nat → List (Nat × StunUsageTimerReturn) → Prop
  /-- `stun_timer_start`. -/
  | start : Ticks begin timeout max (StunTimer.start begin timeout max) begin []
  /-- `stun_timer_remainder`. -/
  | remainder {timer : StunTimer} {last : Nat} {answers : List (Nat × StunUsageTimerReturn)}
      (before : Ticks begin timeout max timer last answers) (now : Nat) (later : last ≤ now) :
      Ticks begin timeout max timer now answers
  /-- `stun_timer_refresh`. -/
  | refresh {timer : StunTimer} {last : Nat} {answers : List (Nat × StunUsageTimerReturn)}
      (before : Ticks begin timeout max timer last answers) (now : Nat) (later : last ≤ now) :
      Ticks begin timeout max (timer.refresh now).1 now (answers ++ [(now, (timer.refresh now).2)])

/-- How often `stun_timer_refresh` asked for a retransmission. -/
def retransmits (answers : List (Nat × StunUsageTimerReturn)) : Nat :=
  answers.countP fun answer => answer.2 = .retransmit

variable {begin last count : Nat} {timeout max : UInt32} {timer : StunTimer}
  {answers : List (Nat × StunUsageTimerReturn)}

/-- The timer after `count` retransmissions. -/
structure Doubled (begin : Nat) (timeout max : UInt32) (count : Nat) (timer : StunTimer) : Prop where
  counted : timer.retransmissions.toNat = count
  limit : timer.maxRetransmissions = max
  within : count ≤ max.toNat
  delay : timer.delay.toNat = timeout.toNat * 2 ^ count
  normal : timer.Normal
  deadline : timer.deadline + (1000 * timeout.toNat : Nat) =
    (begin + 1000 * (timeout.toNat * 2 ^ (count + 1)) : Nat)

/-- No retransmission yet. -/
theorem Doubled.start (begin : Nat) (max : UInt32) (fits : timeout.toNat < 2 ^ 31) :
    Doubled begin timeout max 0 (StunTimer.start begin timeout max) := by
  have normal : Normal ⟨(begin / 1000000 : Nat), (begin % 1000000 : Nat), timeout, 0, max⟩ :=
    ⟨Int.natCast_nonneg _, by change ((begin % 1000000 : Nat) : Int) ≤ _; omega⟩
  obtain ⟨moved, after⟩ := deadline_addDelay normal fits
  have clock : StunTimer.deadline ⟨(begin / 1000000 : Nat), (begin % 1000000 : Nat), timeout, 0, max⟩ =
      begin := by
    change ((begin / 1000000 : Nat) : Int) * 1000000 + (begin % 1000000 : Nat) = _
    omega
  rw [clock] at moved
  exact ⟨rfl, rfl, Nat.zero_le _, by rw [pow_zero, mul_one]; rfl, after, by
    rw [StunTimer.start, moved]
    omega⟩

/-- There is time left at the start. -/
theorem remainder_start (begin : Nat) (max : UInt32) (positive : 0 < timeout.toNat)
    (fits : timeout.toNat < 2 ^ 31) : ((start begin timeout max).remainder begin).toNat ≠ 0 := by
  intro elapsed
  have doubled : Doubled begin timeout max 0 _ := .start begin max fits
  have deadline := doubled.deadline
  have due := (remainder_bounds doubled.normal (by omega)).2 (eq_zero32.mpr elapsed)
  omega

/-- A delay of the timer is at most the last one. -/
theorem delay_le (within : count ≤ max.toNat) :
    timeout.toNat * 2 ^ count ≤ timeout.toNat * 2 ^ max.toNat :=
  Nat.mul_le_mul_left _ (Nat.pow_le_pow_right (by decide) within)

/-- One more retransmission. -/
theorem Doubled.retransmit (doubled : Doubled begin timeout max count timer)
    (more : count < max.toNat) (fits : timeout.toNat * 2 ^ max.toNat < 2 ^ 31) :
    Doubled begin timeout max (count + 1)
      { StunTimer.addDelay { timer with delay := timer.delay * 2 } (timer.delay * 2) with
        retransmissions := timer.retransmissions + 1 } := by
  have most := max.toNat_lt
  have double : timeout.toNat * 2 ^ (count + 1) = timeout.toNat * 2 ^ count * 2 := by ring
  have small : timeout.toNat * 2 ^ (count + 1) < 2 ^ 31 := (delay_le more).trans_lt fits
  have delay : (timer.delay * 2).toNat = timeout.toNat * 2 ^ (count + 1) := by
    rw [UInt32.toNat_mul, doubled.delay, double]
    exact Nat.mod_eq_of_lt (by change _ * 2 < _; omega)
  have counted : (timer.retransmissions + 1).toNat = count + 1 := by
    have one : (1 : UInt32).toNat = 1 := rfl
    have before := doubled.counted
    rw [toNat_add32 (by omega), before, one]
  have normal : Normal { timer with delay := timer.delay * 2 } := doubled.normal
  obtain ⟨moved, after⟩ := deadline_addDelay normal (by rw [delay]; exact small)
  have before := doubled.deadline
  refine ⟨counted, doubled.limit, more, delay, after, ?_⟩
  change (StunTimer.addDelay _ _).deadline + _ = _
  rw [moved, delay]
  change timer.deadline + _ + _ = _
  have next : timeout.toNat * 2 ^ (count + 1 + 1) = timeout.toNat * 2 ^ (count + 1) * 2 := by ring
  rw [next]
  omega

/-- What is known of a timer and its answers. -/
structure Timely (begin : Nat) (timeout max : UInt32) (timer : StunTimer) (last : Nat)
    (answers : List (Nat × StunUsageTimerReturn)) : Prop where
  doubled : Doubled begin timeout max (retransmits answers) timer
  soon : timer.deadline < (last + 1000 * (timeout.toNat * 2 ^ retransmits answers) + 1000 : Nat)
  timeouts : ∀ time, (time, .timeout) ∈ answers →
    begin + 1000 * (timeout.toNat * (2 ^ (max.toNat + 1) - 1)) ≤ time + 1000
  retransmissions : ∀ earlier time rest, answers = earlier ++ (time, .retransmit) :: rest →
    begin + 1000 * (timeout.toNat * (2 ^ (retransmits earlier + 1) - 1)) ≤ time + 1000

/-- At most the rounding is missing when there is no time left. -/
theorem Timely.elapsed (timely : Timely begin timeout max timer last answers)
    (fits : timeout.toNat * 2 ^ max.toNat < 2 ^ 31) (later : last ≤ now) :
    timer.deadline < now + 1000 * 2 ^ 31 + 1000 := by
  have small : timeout.toNat * 2 ^ retransmits answers ≤ _ := delay_le timely.doubled.within
  have soon := timely.soon
  omega

/-- Answers that are no retransmissions do not count. -/
theorem retransmits_append (answer : Nat × StunUsageTimerReturn) :
    retransmits (answers ++ [answer]) =
      retransmits answers + if answer.2 = .retransmit then 1 else 0 := by
  simp [retransmits, countP_append, countP_cons]

/-- An answer in time. -/
theorem Timely.answered {next : StunTimer} {answer : StunUsageTimerReturn}
    (timely : Timely begin timeout max timer last answers)
    (doubled : Doubled begin timeout max (retransmits (answers ++ [(now, answer)])) next)
    (soon : next.deadline <
      (now + 1000 * (timeout.toNat * 2 ^ retransmits (answers ++ [(now, answer)])) + 1000 : Nat))
    (timedOut : answer = .timeout →
      begin + 1000 * (timeout.toNat * (2 ^ (max.toNat + 1) - 1)) ≤ now + 1000)
    (again : answer = .retransmit →
      begin + 1000 * (timeout.toNat * (2 ^ (retransmits answers + 1) - 1)) ≤ now + 1000) :
    Timely begin timeout max next now (answers ++ [(now, answer)]) := by
  refine ⟨doubled, soon, fun time member => ?_, fun earlier time rest listed => ?_⟩
  · rcases mem_append.mp member with old | new
    · exact timely.timeouts time old
    · obtain ⟨rfl, same⟩ : time = now ∧ .timeout = answer := by simpa using new
      exact timedOut same.symm
  · rcases eq_nil_or_concat rest with rfl | ⟨rest, final, rfl⟩
    · obtain ⟨rfl, same⟩ := append_inj' listed rfl
      obtain ⟨rfl, asked⟩ : now = time ∧ answer = .retransmit := by simpa using same
      exact again asked
    · have split : answers ++ [(now, answer)] =
          (earlier ++ (time, .retransmit) :: rest) ++ [final] := by simpa using listed
      exact timely.retransmissions earlier time rest (append_inj' split rfl).1

/-- Nothing is retransmitted. -/
theorem Timely.waits {answer : StunUsageTimerReturn}
    (timely : Timely begin timeout max timer last answers) (later : last ≤ now)
    (other : answer ≠ .retransmit) (timedOut : answer = .timeout →
      begin + 1000 * (timeout.toNat * (2 ^ (max.toNat + 1) - 1)) ≤ now + 1000) :
    Timely begin timeout max timer now (answers ++ [(now, answer)]) := by
  have same : retransmits (answers ++ [(now, answer)]) = retransmits answers := by
    rw [retransmits_append, if_neg other, Nat.add_zero]
  have soon := timely.soon
  exact timely.answered (by rw [same]; exact timely.doubled) (by rw [same]; omega) timedOut
    (fun again => absurd again other)

/-- `stun_timer_refresh` is in time. -/
theorem Timely.refresh (timely : Timely begin timeout max timer last answers)
    (fits : timeout.toNat * 2 ^ max.toNat < 2 ^ 31) (later : last ≤ now) :
    Timely begin timeout max (timer.refresh now).1 now
      (answers ++ [(now, (timer.refresh now).2)]) := by
  have deadline := timely.doubled.deadline
  have product : timeout.toNat * (2 ^ (retransmits answers + 1) - 1) =
      timeout.toNat * 2 ^ (retransmits answers + 1) - timeout.toNat := Nat.mul_sub_one _ _
  have least : timeout.toNat ≤ timeout.toNat * 2 ^ (retransmits answers + 1) :=
    Nat.le_mul_of_pos_right _ (Nat.two_pow_pos _)
  rw [StunTimer.refresh]
  split
  · rename_i zero
    have due := (remainder_bounds timely.doubled.normal (timely.elapsed fits later)).2 zero
    split
    · rename_i limit
      have reached : retransmits answers = max.toNat := by
        have within := timely.doubled.within
        have counted := timely.doubled.counted
        rw [timely.doubled.limit, ge_iff_le, UInt32.le_iff_toNat_le] at limit
        omega
      refine timely.waits later (fun same => nomatch same) fun _ => ?_
      rw [← reached]
      omega
    · rename_i below
      have more : retransmits answers < max.toNat := by
        have counted := timely.doubled.counted
        rw [timely.doubled.limit, ge_iff_le, UInt32.le_iff_toNat_le] at below
        omega
      have doubled := timely.doubled.retransmit more fits
      have next : retransmits (answers ++ [(now, .retransmit)]) = retransmits answers + 1 := by
        rw [retransmits_append, if_pos rfl]
      have double : timeout.toNat * 2 ^ (retransmits answers + 1 + 1) =
          timeout.toNat * 2 ^ (retransmits answers + 1) * 2 := by ring
      have after := doubled.deadline
      rw [double] at after
      rw [← next] at doubled
      have asked := timely.answered doubled (by rw [next]; omega) (fun same => nomatch same)
        fun _ => by omega
      exact asked
  · exact timely.waits later (fun same => nomatch same) (fun same => nomatch same)

/-- So are all calls. -/
theorem Ticks.timely (ticks : Ticks begin timeout max timer last answers)
    (fits : timeout.toNat * 2 ^ max.toNat < 2 ^ 31) :
    Timely begin timeout max timer last answers := by
  induction ticks with
  | start =>
    have small : timeout.toNat * 2 ^ 0 ≤ timeout.toNat * 2 ^ max.toNat := delay_le (Nat.zero_le _)
    have doubled : Doubled begin timeout max 0 (StunTimer.start begin timeout max) :=
      .start begin max (by omega)
    have deadline := doubled.deadline
    refine ⟨doubled, ?_, fun _ member => absurd member not_mem_nil, fun earlier _ _ listed => ?_⟩
    · change _ < ((begin + 1000 * (timeout.toNat * 2 ^ 0) + 1000 : Nat) : Int)
      omega
    · simp at listed
  | remainder before now later ih =>
    have soon := ih.soon
    exact ⟨ih.doubled, by omega, ih.timeouts, ih.retransmissions⟩
  | refresh before now later ih => exact ih.refresh fits later

/-- After any schedule of calls on a clock that does not go back, for a timeout whose last doubling
is an `int`: there are at most as many retransmissions as allowed, the request does not time out
before all the delays are over, no retransmission is asked for before the delays before it are over,
in both cases but for a millisecond, and the remainder is at most the present delay and a
millisecond. -/
theorem schedule_of_ticks (ticks : Ticks begin timeout max timer last answers)
    (fits : timeout.toNat * 2 ^ max.toNat < 2 ^ 31) :
    retransmits answers ≤ max.toNat ∧
    (∀ time, (time, .timeout) ∈ answers →
      begin + 1000 * (timeout.toNat * (2 ^ (max.toNat + 1) - 1)) ≤ time + 1000) ∧
    (∀ earlier time rest, answers = earlier ++ (time, .retransmit) :: rest →
      begin + 1000 * (timeout.toNat * (2 ^ (retransmits earlier + 1) - 1)) ≤ time + 1000) ∧
    ∀ now, last ≤ now →
      (timer.remainder now).toNat ≤ timeout.toNat * 2 ^ retransmits answers + 1 := by
  have timely := ticks.timely fits
  refine ⟨timely.doubled.within, timely.timeouts, timely.retransmissions, fun now later => ?_⟩
  have bound := (remainder_bounds timely.doubled.normal (timely.elapsed fits later)).1
  have soon := timely.soon
  omega

/-- A request of 500 ms and two retransmissions, looked at too early and then very late. -/
theorem schedule_of_ticks_late :
    ∃ timer, Ticks 0 500 2 timer 9000000
      [(499001, .retransmit), (1000000, .success), (5000000, .retransmit), (9000000, .timeout)] ∧
      0 + 1000 * ((500 : UInt32).toNat * (2 ^ ((2 : UInt32).toNat + 1) - 1)) ≤ 9000000 + 1000 := by
  have ticks : Ticks 0 500 2 _ 9000000
      [(499001, .retransmit), (1000000, .success), (5000000, .retransmit), (9000000, .timeout)] :=
    .refresh (.refresh (.refresh (.refresh .start 499001 (by decide)) 1000000 (by decide)) 5000000
      (by decide)) 9000000 (by decide)
  exact ⟨_, ticks, (schedule_of_ticks ticks (by decide)).2.1 9000000 (by decide)⟩

-- functions that keep timers are unfolded without computing deadlines
attribute [irreducible] start remainder refresh

end StunTimer

end Xice.Stun
