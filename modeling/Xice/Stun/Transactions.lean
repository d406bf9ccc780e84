import Xice.Stun.Finish
import Xice.Stun.Authentication

/-!
# Saved transactions

An agent saves each finished request in one of 200 slots until it is answered or forgotten. Answers
are accepted no more often than requests were finished, if the lengths have sixteen bits; 65536 is
returned as zero though the request is saved.
-/

namespace Xice.Stun

open Xice.Lib Option Vector

variable {platform : Platform} {agent last : StunAgent} {meets : StunMessage → Prop}
variable {slot : Option (Fin 200)} {buffer : Mem} {bufferLen : UInt64}
  {validater : Option Validater} {result : Validation}

/-! ## Calls -/

/-- What a call on an agent was and what it returned. -/
inductive AgentEvent where
  /-- `stun_agent_finish_message` returned a length for a message. -/
  | finished (msg : StunMessage) (length : UInt16)
  /-- `stun_agent_validate` returned a status for a message. -/
  | validated (msg : StunMessage) (status : StunValidationStatus)
  /-- `stun_agent_forget_transaction` returned. -/
  | forgotten (id : StunTransactionId)

/-- A call that returns. Finished messages lie in at most 65535 bytes and meet a condition. -/
inductive AgentCall (platform : Platform) (meets : StunMessage → Prop) :
    StunAgent → AgentEvent → StunAgent → Prop
  /-- `stun_agent_finish_message`. -/
  | finish {agent : StunAgent} {msg : StunMessage} (key : Option (List UInt8)) {done : Finished}
      (size : msg.bufferLen.toNat ≤ 65535) (condition : meets msg)
      (returned : agent.finishMessage platform msg key = some done) :
      AgentCall platform meets agent (.finished msg done.length) done.agent
  /-- `stun_agent_validate`. -/
  | validate {agent : StunAgent} {result : Validation} (msg : StunMessage) (buffer : Mem)
      (bufferLen : UInt64) (validater : Option Validater)
      (returned : (agent.validate platform msg buffer bufferLen validater).value = some result) :
      AgentCall platform meets agent
        (.validated (agent.adopt msg buffer bufferLen) result.status) result.agent
  /-- `stun_agent_forget_transaction`. -/
  | forget (agent : StunAgent) (id : StunTransactionId) :
      AgentCall platform meets agent (.forgotten id) (agent.forgetTransaction id).2

/-- A sequence of calls. -/
inductive AgentRun (platform : Platform) (meets : StunMessage → Prop) (start : StunAgent) :
    StunAgent → List AgentEvent → Prop
  /-- No call. -/
  | start : AgentRun platform meets start start []
  /-- One more call. -/
  | next {agent last : StunAgent} {events : List AgentEvent} {event : AgentEvent}
      (before : AgentRun platform meets start agent events)
      (call : AgentCall platform meets agent event last) :
      AgentRun platform meets start last (events ++ [event])

/-- A request with the transaction id and method was finished. -/
def AgentEvent.grants (id : StunTransactionId) (m : StunMethod) : AgentEvent → Bool
  | .finished msg length => msg.getClass.value = .request && msg.id.value = id &&
      msg.getMethod.value = m && length ≠ 0
  | _ => false

/-- An answer with the transaction id and method was accepted. -/
def AgentEvent.takes (id : StunTransactionId) (m : StunMethod) : AgentEvent → Bool
  | .validated msg status => msg.getClass.value.IsAnswer && msg.id.value = id &&
      msg.getMethod.value = m && (status = .success || status = .unknownAttribute)
  | _ => false

/-- The number of slots with the transaction id and method. -/
def StunAgent.pending (agent : StunAgent) (id : StunTransactionId) (m : StunMethod) : Nat :=
  agent.sentIds.countP fun slot => slot.valid && slot.id = id && slot.method = m

/-! ## Validation -/

/-- A message that is no answer leaves the agent alone. -/
theorem over_of_enters {msg : StunMessage} (enters : agent.Enters msg slot)
    (other : ¬msg.getClass.value.IsAnswer) : agent.over slot = agent := by
  have none := enters.sent.symm.trans (matchSent_eq_none.mpr other)
  rw [some.inj none]
  rfl

/-- An answer has its slot. -/
theorem answers_of_enters {msg : StunMessage}
    (enters : agent.Enters msg slot) (answer : msg.getClass.value.IsAnswer) :
    ∃ taken, slot = some taken ∧ agent.Answers msg taken := by
  cases slot with
  | none => exact absurd answer (matchSent_eq_none.mp enters.sent)
  | some taken => exact ⟨taken, rfl, matchSent_eq_some.mp enters.sent⟩

/-- A message that is not accepted leaves the agent alone. -/
theorem validate_leaves {msg : StunMessage}
    (returned : (agent.validate platform msg buffer bufferLen validater).value = some result)
    (other : ¬(agent.adopt msg buffer bufferLen).getClass.value.IsAnswer ∨
      ¬(result.status = .success ∨ result.status = .unknownAttribute)) : result.agent = agent := by
  rcases validate_cases platform agent msg buffer bufferLen validater with
    ends | ⟨status, last, -, ends⟩ | ⟨slot, key, last, -, enters, passes, ends⟩
  · rw [ends] at returned
    exact absurd returned (by simp)
  · rw [ends, some.injEq] at returned
    rw [← returned]
  · rw [ends, some.injEq, value_conclude] at returned
    subst returned
    apply over_of_enters enters
    rcases other with other | other
    · exact other
    · have kind : last.getClass.value = (agent.adopt msg buffer bufferLen).getClass.value :=
        getClass_congr (by rw [(checkIntegrity_kept passes.checked).1])
      intro answer
      apply other
      have known : last.getClass.value ≠ .request := by
        rw [kind]
        rcases answer with same | same <;> (rw [same]; decide)
      simp only [acceptedStatus, known, if_false]
      split
      · exact .inr rfl
      · exact .inl rfl

/-- A slot is emptied. -/
theorem release_pending (agent : StunAgent) (slot : Fin 200) (id : StunTransactionId)
    (m : StunMethod) : (agent.release slot).pending id m ≤ agent.pending id m :=
  Slots.countP_set_le rfl

/-- An accepted answer takes its transaction out. -/
theorem validate_pending {msg : StunMessage}
    (returned : (agent.validate platform msg buffer bufferLen validater).value = some result)
    (id : StunTransactionId) (m : StunMethod) :
    result.agent.pending id m +
        ((AgentEvent.validated (agent.adopt msg buffer bufferLen) result.status).takes id m).toNat ≤
      agent.pending id m := by
  by_cases taken : (AgentEvent.validated (agent.adopt msg buffer bufferLen)
    result.status).takes id m = true
  · have facts := taken
    simp only [AgentEvent.takes, Bool.and_eq_true, decide_eq_true_eq, Bool.or_eq_true] at facts
    obtain ⟨⟨⟨answer, rfl⟩, rfl⟩, status⟩ := facts
    have accepted : ¬result.status.IsRefusal := by
      rcases status with same | same <;> (rw [same]; decide)
    obtain ⟨slot, key, last, -, enters, -, rfl⟩ := accepted_of_validate returned accepted
    obtain ⟨taken, rfl, answers⟩ := answers_of_enters enters answer
    obtain ⟨valid, method, id⟩ := answers.answered
    rw [taken]
    apply Nat.le_of_eq
    apply Slots.countP_set_of_true
    · simp only [valid, method, id, decide_true, Bool.and_self]
    · rfl
  · rw [Bool.not_eq_true] at taken
    rw [taken]
    rcases validate_cases platform agent msg buffer bufferLen validater with
      ends | ⟨status, last, -, ends⟩ | ⟨slot, key, last, -, -, -, ends⟩
    · rw [ends] at returned
      exact absurd returned (by simp)
    · rw [ends, some.injEq] at returned
      rw [← returned]
      exact Nat.le_refl _
    · rw [ends, some.injEq, value_conclude] at returned
      rw [← returned]
      cases slot with
      | none => exact Nat.le_refl _
      | some slot => exact release_pending agent slot id m

/-! ## Finishing -/

variable {msg : StunMessage} {key : Option (List UInt8)} {done : Finished}

/-- The returned length is not zero. -/
theorem save_length (small : msg.recorded < 2 ^ 16) (key : Option (List UInt8)) (slot : Fin 200) :
    (agent.save msg key slot).length ≠ 0 := by
  have length : msg.length.value.toNat = msg.recorded := by
    rw [toNat_length, Nat.mod_eq_of_lt small]
  have header : 20 ≤ msg.recorded := Nat.le_add_left _ _
  intro zero
  have none : msg.length.value = 0 := zero
  rw [none] at length
  change 0 = msg.recorded at length
  omega

/-- A message that cannot be finished leaves the agent alone. -/
theorem finish_leaves (size : msg.bufferLen.toNat ≤ 65535) (small : msg.recorded ≤ 65535)
    (returned : agent.finishMessage platform msg key = some done) (failed : done.length = 0) :
    done.agent = agent := by
  rcases finishMessage_cases platform agent (by omega) size key with
    ⟨last, ends, -⟩ | ⟨slot, last, -, -, short, ends⟩
  · rw [ends, some.injEq] at returned
    rw [← returned]
  · rw [ends, some.injEq] at returned
    subst returned
    exact absurd failed (save_length short _ _)

/-- A request is saved when a length is returned. -/
theorem finish_pending (size : msg.bufferLen.toNat ≤ 65535) (small : msg.recorded ≤ 65535)
    (returned : agent.finishMessage platform msg key = some done) (id : StunTransactionId)
    (m : StunMethod) :
    done.agent.pending id m ≤
      agent.pending id m + ((AgentEvent.finished msg done.length).grants id m).toNat := by
  by_cases failed : done.length = 0
  · rw [finish_leaves size small returned failed]
    exact Nat.le_add_right _ _
  · rcases finishMessage_cases platform agent (by omega) size key with
      ⟨last, ends, -⟩ | ⟨slot, last, free, same, short, ends⟩
    · rw [ends, some.injEq] at returned
      rw [← returned] at failed
      exact absurd rfl failed
    · rw [ends, some.injEq] at returned
      by_cases request : msg.getClass.value = .request
      · have saves : done.agent.sentIds = agent.sentIds.set slot
            ⟨last.id.value, last.getMethod.value, msg.usedKey key, last.longTermKey,
              last.longTermValid, true⟩ := by
          rw [← returned, StunAgent.save, same.getClass, request]
          rfl
        rw [StunAgent.freeSlot, if_pos request] at free
        have unused := (Slots.findFinIdx?_eq_some.mp free).1
        rw [Bool.not_eq_true'] at unused
        rw [StunAgent.pending, saves, Slots.countP_set_of_false]
        · have granted : (AgentEvent.finished msg done.length).grants id m =
              (decide (msg.id.value = id) && decide (msg.getMethod.value = m)) := by
            simp [AgentEvent.grants, request, failed]
          rw [granted, same.id, same.getMethod]
          apply Nat.add_le_add_left
          cases decide (msg.id.value = id) with
          | false => exact Nat.le_refl _
          | true =>
            cases decide (msg.getMethod.value = m) with
            | false => exact Nat.le_refl _
            | true => exact Nat.le_refl _
        · rw [unused]
          rfl
      · have leaves : done.agent = agent := by
          rw [← returned, StunAgent.save, same.getClass, if_neg request]
        rw [leaves]
        exact Nat.le_add_right _ _

/-- With a slot, a request is finished unless there is no room. -/
theorem finish_of_room (size : msg.bufferLen.toNat ≤ 65535) (small : msg.recorded ≤ 65535)
    (key : Option (List UInt8)) (free : ∃ slot : Fin 200, (agent.sent slot).valid = false) :
    ∃ done, agent.finishMessage platform msg key = some done ∧
      (done.length = 0 →
        msg.bufferLen.toNat < msg.recorded + agent.finishRoom platform msg key) := by
  rcases finishMessage_cases platform agent (by omega) size key with
    ⟨last, ends, full | room⟩ | ⟨slot, last, -, -, short, ends⟩
  · obtain ⟨slot, unused⟩ := free
    unfold StunAgent.freeSlot at full
    split at full
    · rw [Vector.findFinIdx?_eq_none_iff] at full
      have used := full (agent.sent slot) (getElem_mem slot.isLt)
      rw [unused] at used
      exact absurd rfl used
    · exact absurd full (by simp)
  · exact ⟨_, ends, fun _ => room⟩
  · exact ⟨_, ends, fun zero => absurd zero (save_length short _ _)⟩

/-! ## Runs -/

/-- The condition under which the table is kept right. -/
def Short (msg : StunMessage) : Prop := msg.recorded ≤ 65535

/-- Forgetting adds nothing. -/
theorem forget_pending (agent : StunAgent) (forgotten id : StunTransactionId) (m : StunMethod) :
    (agent.forgetTransaction forgotten).2.pending id m ≤ agent.pending id m := by
  unfold StunAgent.forgetTransaction
  split
  · exact release_pending agent _ id m
  · exact Nat.le_refl _

/-- A transaction is taken out for an answer, and put in for a request. -/
theorem AgentCall.pending {event : AgentEvent} (call : AgentCall platform Short agent event last)
    (id : StunTransactionId) (m : StunMethod) :
    last.pending id m + (event.takes id m).toNat ≤
      agent.pending id m + (event.grants id m).toNat := by
  cases call with
  | finish key size condition returned => exact finish_pending size condition returned id m
  | validate msg buffer bufferLen validater returned =>
    exact validate_pending returned id m
  | forget => exact forget_pending agent _ id m

/-- Those taken and those left are no more than those put in. -/
theorem AgentRun.pending {start : StunAgent} {events : List AgentEvent}
    (run : AgentRun platform Short start agent events) (id : StunTransactionId) (m : StunMethod) :
    events.countP (AgentEvent.takes id m) + agent.pending id m ≤
      events.countP (AgentEvent.grants id m) + start.pending id m := by
  induction run with
  | start => exact Nat.le_refl _
  | @next agent last events event _ call ih =>
    have step := call.pending id m
    have one (p : AgentEvent → Bool) : (events ++ [event]).countP p =
        events.countP p + (p event).toNat := by
      rw [List.countP_append, List.countP_singleton]
      cases p event <;> rfl
    rw [one, one]
    omega

/-- A new agent has none. -/
theorem init_pending (slots : Vector StunAgentSavedIds 200) (known : List UInt16)
    (compatibility : StunCompatibility) (flags : StunAgentUsageFlags) (id : StunTransactionId)
    (m : StunMethod) : (StunAgent.init slots known compatibility flags).pending id m = 0 := by
  unfold StunAgent.pending StunAgent.init
  rw [countP_eq_zero]
  intro slot member
  obtain ⟨old, -, rfl⟩ := mem_map.mp member
  simp

/-- The table changes only when a request is finished, an answer accepted or a transaction
forgotten. -/
def AgentEvent.Leaves (event : AgentEvent) (agent last : StunAgent) : Prop :=
  match event with
  | .finished _ length => length = 0 → last = agent
  | .validated msg status => ¬msg.getClass.value.IsAnswer ∨
      ¬(status = .success ∨ status = .unknownAttribute) → last = agent
  | .forgotten _ => True

/-- In every run in which each finished message has at most 65535 bytes: answers are accepted at
most as often as requests with their transaction id and method were finished, calls with other
outcomes change nothing, and finishing a request fails for lack of room or of a slot only. -/
theorem transactions_of_run {slots : Vector StunAgentSavedIds 200} {known : List UInt16}
    {compatibility : StunCompatibility} {flags : StunAgentUsageFlags} {events : List AgentEvent}
    (run : AgentRun platform Short (StunAgent.init slots known compatibility flags) agent
      events) :
    (∀ id m, events.countP (AgentEvent.takes id m) ≤ events.countP (AgentEvent.grants id m)) ∧
    (∀ event last, AgentCall platform Short agent event last → event.Leaves agent last) ∧
    ∀ msg key, msg.bufferLen.toNat ≤ 65535 → Short msg → msg.getClass.value = .request →
      (∃ slot : Fin 200, (agent.sent slot).valid = false) →
      ∃ done, agent.finishMessage platform msg key = some done ∧
        (done.length = 0 →
          msg.bufferLen.toNat < msg.recorded + agent.finishRoom platform msg key) := by
  refine ⟨?_, ?_, ?_⟩
  · intro id m
    have counted := run.pending id m
    rw [init_pending] at counted
    omega
  · intro event last call
    cases call with
    | finish key size condition returned => exact finish_leaves size condition returned
    | validate msg buffer bufferLen validater returned => exact validate_leaves returned
    | forget id => trivial
  · intro msg key size small _ free
    exact finish_of_room size small key free

/-- A Binding response with nothing but a header. -/
def bareResponse : List UInt8 := [1, 1, 0, 0] ++ List.replicate 16 0

/-- The agent after it has finished a message without a key. -/
def StunAgent.finishing (agent : StunAgent) (msg : StunMessage) : StunAgent :=
  ((agent.finishMessage zeroPlatform msg none).map Finished.agent).getD agent

/-- An agent finishes a message and then accepts the response. -/
theorem run_of_response {msg : StunMessage} {length : UInt16} {meets : StunMessage → Prop}
    (size : msg.bufferLen.toNat ≤ 65535) (condition : meets msg)
    (finished : (plainAgent.finishMessage zeroPlatform msg none).map Finished.length = some length)
    (accepted : ((plainAgent.finishing msg).validate zeroPlatform (blankMessage 0)
      (Mem.ofList bareResponse) 20 none).value.map Validation.status = some .success) :
    ∃ last, AgentRun zeroPlatform meets plainAgent last
      [.finished msg length, .validated ((plainAgent.finishing msg).adopt (blankMessage 0)
        (Mem.ofList bareResponse) 20) .success] := by
  obtain ⟨done, returned, rfl⟩ := map_eq_some_iff.mp finished
  have same : plainAgent.finishing msg = done.agent := by
    rw [StunAgent.finishing, returned]
    rfl
  rw [same] at accepted ⊢
  obtain ⟨result, answered, success⟩ := map_eq_some_iff.mp accepted
  rw [← success]
  exact ⟨_, .next (.next .start (.finish none size condition returned))
    (.validate _ _ _ _ answered)⟩

/-- A request is finished, and one response to it is accepted. -/
theorem transactions_of_run_response :
    ∃ events : List AgentEvent,
      events.countP (AgentEvent.takes (Vector.replicate 16 0) 1) = 1 ∧
      events.countP (AgentEvent.takes (Vector.replicate 16 0) 1) ≤
        events.countP (AgentEvent.grants (Vector.replicate 16 0) 1) := by
  obtain ⟨last, run⟩ := run_of_response (show (bareRequest 64).bufferLen.toNat ≤ 65535 by decide)
    (show Short (bareRequest 64) by unfold Short; decide +kernel)
    (show _ = some 20 by decide +kernel) (by decide +kernel)
  exact ⟨_, by decide +kernel, (transactions_of_run run).1 _ _⟩

/-- An attribute of 65511 bytes in a buffer of 65535: with its padding the request has 65536. -/
def overlongRequest : StunMessage := (bareRequest 65535).afterAppend attrUsername 65511

/-- It is saved although zero is returned, and a response to it is accepted. -/
theorem finish_saves_and_fails :
    overlongRequest.bufferLen.toNat ≤ 65535 ∧
    (plainAgent.finishMessage zeroPlatform overlongRequest none).map
      (fun done => (done.length, (done.agent.sent firstSlot).valid)) = some (0, true) ∧
    (plainAgent.sent firstSlot).valid = false ∧
    ∃ last events, AgentRun zeroPlatform (fun _ => True) plainAgent last events ∧
      events.countP (AgentEvent.grants (Vector.replicate 16 0) 1) = 0 ∧
      events.countP (AgentEvent.takes (Vector.replicate 16 0) 1) = 1 := by
  have size : overlongRequest.bufferLen.toNat ≤ 65535 := by decide +kernel
  obtain ⟨last, run⟩ := @run_of_response overlongRequest 0 (fun _ => True) size trivial
    (by decide +kernel) (by decide +kernel)
  exact ⟨size, by decide +kernel, by decide +kernel, last, _, run, by decide +kernel,
    by decide +kernel⟩

end Xice.Stun
