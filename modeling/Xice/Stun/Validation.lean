import Xice.Stun.Lookup
import Xice.Stun.BufferLength
import Xice.Lib.Slots

/-!
# How validation ends

`stun_agent_validate` refuses a message at one of many places, or it goes all the way: then the
message has passed every stage, and the transaction that it answers, if any, is over.
-/

namespace Xice.Stun

open Xice.Lib Reading Option

variable {platform : Platform} {agent : StunAgent} {msg : StunMessage}
  {validater : Option Validater}
variable {slot : Option (Fin 200)}

/-! ## Answers -/

/-- A slot with the transaction of a message. -/
def StunAgentSavedIds.Answered (saved : StunAgentSavedIds) (msg : StunMessage) : Prop :=
  saved.valid = true ∧ saved.method = msg.getMethod.value ∧ saved.id = msg.id.value

instance (saved : StunAgentSavedIds) (msg : StunMessage) : Decidable (saved.Answered msg) :=
  inferInstanceAs (Decidable (_ ∧ _ ∧ _))

/-- A response or an error. -/
def StunClass.IsAnswer (c : StunClass) : Prop := c = .response ∨ c = .error

instance (c : StunClass) : Decidable c.IsAnswer := inferInstanceAs (Decidable (_ ∨ _))

/-- A message answers the request in the first slot with its transaction. -/
structure StunAgent.Answers (agent : StunAgent) (msg : StunMessage) (slot : Fin 200) : Prop where
  kind : msg.getClass.value.IsAnswer
  answered : (agent.sent slot).Answered msg
  first : ∀ earlier < slot, ¬(agent.sent earlier).Answered msg

/-- The first such slot is looked for. -/
theorem value_matchSent (agent : StunAgent) (msg : StunMessage) :
    (agent.matchSent msg).value =
      if msg.getClass.value.IsAnswer then
        (agent.sentIds.findFinIdx? fun saved => decide (saved.Answered msg)).map some
      else some none := by
  have test : (fun saved : StunAgentSavedIds => saved.valid &&
      saved.method == msg.getMethod.value && saved.id == msg.id.value) =
        fun saved => decide (saved.Answered msg) := by
    funext saved
    rw [Bool.eq_iff_iff, decide_eq_true_iff]
    simp [StunAgentSavedIds.Answered, and_assoc]
  unfold StunAgent.matchSent
  simp only [value_bind]
  by_cases kind : msg.getClass.value.IsAnswer
  · rw [if_pos kind, if_pos (show msg.getClass.value = .response ∨ msg.getClass.value = .error from
      kind)]
    simp only [value_bind, ← test]
    split
    · rename_i none
      rw [none]
      rfl
    · rename_i found
      rw [found]
      rfl
  · rw [if_neg kind, if_neg (show ¬(msg.getClass.value = .response ∨ msg.getClass.value = .error)
      from kind)]
    rfl

/-- It is found. -/
theorem matchSent_eq_some {slot : Fin 200} :
    (agent.matchSent msg).value = some (some slot) ↔ agent.Answers msg slot := by
  rw [value_matchSent]
  constructor
  · intro found
    split at found
    · rename_i kind
      obtain ⟨i, search, same⟩ := map_eq_some_iff.mp found
      obtain rfl := some.inj same
      obtain ⟨answered, first⟩ := Slots.findFinIdx?_eq_some.mp search
      exact ⟨kind, of_decide_eq_true answered,
        fun earlier before answered => first earlier before (decide_eq_true answered)⟩
    · exact absurd found (by simp)
  · intro answers
    rw [if_pos answers.kind, Slots.findFinIdx?_eq_some.mpr]
    · rfl
    · exact ⟨decide_eq_true answers.answered,
        fun earlier before answered => answers.first earlier before (of_decide_eq_true answered)⟩

/-- No slot is looked for when the message is no answer. -/
theorem matchSent_eq_none : (agent.matchSent msg).value = some none ↔
    ¬msg.getClass.value.IsAnswer := by
  rw [value_matchSent]
  split
  · rename_i kind
    simp [kind]
  · rename_i kind
    simp [kind]

/-! ## The stages after the transaction is known -/

/-- The key of the transaction, if there is one. -/
def StunAgent.savedKey (agent : StunAgent) (slot : Option (Fin 200)) : Option (List UInt8) :=
  slot.bind fun slot => (agent.sent slot).key

/-- The long-term key of the transaction, if there is one. -/
def StunAgent.savedMd5 (agent : StunAgent) (slot : Option (Fin 200)) : Option (Vector UInt8 16) :=
  slot.bind fun slot =>
    if (agent.sent slot).longTermValid then some (agent.sent slot).longTermKey else none

/-- The credentials pass with a key, and leave `last`. -/
structure StunAgent.Passes (platform : Platform) (agent : StunAgent) (msg : StunMessage)
    (validater : Option Validater) (slot : Option (Fin 200)) (key : Option (List UInt8))
    (last : StunMessage) : Prop where
  complete : agent.savedKey slot = none → (agent.ignoresCredentials msg).value = false →
    (agent.lacksCredentials msg).value = false
  called : (agent.callValidater msg validater (agent.ignoresCredentials msg).value
    (agent.savedKey slot)).value = some key
  checked : (agent.checkIntegrity platform msg (agent.ignoresCredentials msg).value key
    (agent.savedMd5 slot)).value = .passed last

/-- A status with which a message is not accepted. -/
def StunValidationStatus.IsRefusal (status : StunValidationStatus) : Prop :=
  status ≠ .success ∧ status ≠ .unknownRequestAttribute ∧ status ≠ .unknownAttribute

instance (status : StunValidationStatus) : Decidable status.IsRefusal :=
  inferInstanceAs (Decidable (_ ∧ _ ∧ _))

/-- The check of the credentials, by the values of its stages. -/
theorem value_authenticate (platform : Platform) (agent : StunAgent) (msg : StunMessage)
    (validater : Option Validater) (slot : Option (Fin 200)) :
    (agent.authenticate platform msg validater slot).value =
      if ((agent.savedKey slot).isNone && !(agent.ignoresCredentials msg).value &&
          (agent.lacksCredentials msg).value) = true then
        some ⟨.unauthorizedBadRequest, msg, agent⟩
      else
        match (agent.callValidater msg validater (agent.ignoresCredentials msg).value
          (agent.savedKey slot)).value with
        | none => some ⟨.unauthorized, msg, agent⟩
        | some key =>
          match (agent.checkIntegrity platform msg (agent.ignoresCredentials msg).value key
            (agent.savedMd5 slot)).value with
          | .aborted => none
          | .refused last => some ⟨.unauthorized, last, agent⟩
          | .passed last => some (agent.conclude last slot).value := by
  unfold StunAgent.authenticate
  simp only [value_bind, value_ite, value_and, value_pure]
  congr 1
  change value (match (agent.callValidater msg validater
    (agent.ignoresCredentials msg).value (agent.savedKey slot)).value with
    | none => _
    | some key => _) = _
  cases (agent.callValidater msg validater (agent.ignoresCredentials msg).value
    (agent.savedKey slot)).value with
  | none => rfl
  | some key =>
    dsimp only
    change value (match (agent.checkIntegrity platform msg
      (agent.ignoresCredentials msg).value key (agent.savedMd5 slot)).value with
      | .aborted => _
      | .refused last => _
      | .passed last => _) = _
    cases (agent.checkIntegrity platform msg (agent.ignoresCredentials msg).value key
      (agent.savedMd5 slot)).value with
    | aborted => rfl
    | refused last => rfl
    | passed last => rfl

/-- A message is refused, or goes on to the end. -/
theorem authenticate_cases (platform : Platform) (agent : StunAgent) (msg : StunMessage)
    (validater : Option Validater) (slot : Option (Fin 200)) :
    (agent.authenticate platform msg validater slot).value = none ∨
    (∃ status last, status.IsRefusal ∧
      (agent.authenticate platform msg validater slot).value = some ⟨status, last, agent⟩) ∨
    ∃ key last, agent.Passes platform msg validater slot key last ∧
      (agent.authenticate platform msg validater slot).value =
        some (agent.conclude last slot).value := by
  rw [value_authenticate]
  split
  · exact .inr (.inl ⟨_, _, by decide, rfl⟩)
  · rename_i complete
    split
    · exact .inr (.inl ⟨_, _, by decide, rfl⟩)
    · rename_i key called
      split
      · exact .inl rfl
      · exact .inr (.inl ⟨_, _, by decide, rfl⟩)
      · rename_i last checked
        refine .inr (.inr ⟨key, last, ⟨?_, called, checked⟩, rfl⟩)
        intro new checks
        simpa [new, checks] using complete

/-! ## The end -/

/-- The transaction of an accepted message is over. -/
def StunAgent.over (agent : StunAgent) (slot : Option (Fin 200)) : StunAgent :=
  match slot with
  | some slot => agent.release slot
  | none => agent

/-- The status by the unknown attributes. -/
def acceptedStatus (c : StunClass) (unknown : List UInt16) : StunValidationStatus :=
  if unknown.length > 0 then
    if c = .request then .unknownRequestAttribute else .unknownAttribute
  else .success

/-- The end of an accepted message. -/
theorem value_conclude (agent : StunAgent) (msg : StunMessage) (slot : Option (Fin 200)) :
    (agent.conclude msg slot).value =
      ⟨acceptedStatus msg.getClass.value ((agent.over slot).findUnknowns msg 1).value, msg,
        agent.over slot⟩ := by
  have stages : agent.conclude msg slot =
      (agent.over slot).findUnknowns msg 1 >>= fun unknown =>
        if unknown.length > 0 then msg.getClass >>= fun c =>
          if c = .request then pure ⟨.unknownRequestAttribute, msg, agent.over slot⟩
          else pure ⟨.unknownAttribute, msg, agent.over slot⟩
        else pure ⟨.success, msg, agent.over slot⟩ := rfl
  rw [stages, value_bind, acceptedStatus]
  split
  · rw [value_bind]
    split <;> rfl
  · rfl

/-! ## The whole -/

/-- A message comes as far as the check of its credentials. -/
structure StunAgent.Enters (agent : StunAgent) (msg : StunMessage) (slot : Option (Fin 200)) :
    Prop where
  /-- It has the cookie where there is one. -/
  cookie : agent.modern = true → msg.hasCookie.value = true
  /-- Its FINGERPRINT is right where one is used. -/
  fingerprint : agent.modern = true → agent.usageFlags.useFingerprint = true →
    (agent.checkFingerprint msg).value = true
  /-- It is no answer, or the slot it answers was found. -/
  sent : (agent.matchSent msg).value = some slot

/-- How the validation of a message of the right size ends. -/
theorem validateMessage_cases (platform : Platform) (agent : StunAgent) (msg : StunMessage)
    (validater : Option Validater) :
    (∃ status, status.IsRefusal ∧
      (agent.validateMessage platform msg validater).value = some ⟨status, msg, agent⟩) ∨
    ∃ slot, agent.Enters msg slot ∧ (agent.validateMessage platform msg validater).value =
      (agent.authenticate platform msg validater slot).value := by
  simp only [StunAgent.validateMessage, value_bind, value_ite, value_and,
    value_not, value_pure]
  split
  · exact .inl ⟨_, by decide, rfl⟩
  · rename_i cookie
    split
    · exact .inl ⟨_, by decide, rfl⟩
    · rename_i fingerprint
      split
      · exact .inl ⟨_, by decide, rfl⟩
      · rename_i slot sent
        refine .inr ⟨slot, ⟨?_, ?_, sent⟩, rfl⟩
        · intro modern
          simpa [modern] using cookie
        · intro modern used
          simpa [modern, used] using fingerprint

variable {buffer : Mem} {bufferLen : UInt64}

/-- A buffer holds one message. -/
def StunAgent.Sized (agent : StunAgent) (buffer : Mem) (bufferLen : UInt64) : Prop :=
  (validateBufferLength buffer bufferLen !agent.usageFlags.noAlignedAttributes).value =
    some bufferLen.toUInt32.toInt32.toInt ∧
  bufferLen.toUInt32.toInt32.toInt ≠ bufferInvalid ∧
  bufferLen.toUInt32.toInt32.toInt ≠ bufferIncomplete

/-- The size as an `int`. -/
theorem toInt_size (size : UInt64) :
    size.toUInt32.toInt32.toInt =
      if 2 * (size.toNat % 2 ^ 32) < 2 ^ 32 then ((size.toNat % 2 ^ 32 : Nat) : Int)
      else ((size.toNat % 2 ^ 32 : Nat) : Int) - 2 ^ 32 := by
  rw [← UInt64.toNat_toUInt32, ← UInt32.toNat_toBitVec, ← UInt32.toBitVec_toInt32]
  exact BitVec.toInt_eq_toNat_cond _

/-- The result when there is a message. -/
theorem validateBufferLength_positive {msg : Mem} {length : UInt64} {hasPadding : Bool}
    {verdict : Int} (found : (validateBufferLength msg length hasPadding).value = some verdict)
    (valid : verdict ≠ bufferInvalid) (complete : verdict ≠ bufferIncomplete) :
    ∃ n : Nat, 0 < n ∧ verdict = n := by
  have mlen := toNat_mlen (ntohs msg 2)
  have no {value : Int} (absurd : some value = some verdict) (one : verdict ≠ value) : False :=
    one (some.inj absurd).symm
  rw [validateBufferLength_eq] at found
  simp only [value_bind, value_ite, value_pure] at found
  split at found
  · exact (no found valid).elim
  · split at found
    · exact (no found valid).elim
    · split at found
      · exact (no found complete).elim
      · split at found
        · exact (no found valid).elim
        · split at found
          · exact (no found complete).elim
          · split at found
            · exact absurd found (by simp)
            · exact (no found valid).elim
            · exact ⟨_, by omega, (some.inj found).symm⟩

/-- A header and attributes are there. -/
theorem StunAgent.Sized.accepted (sized : agent.Sized buffer bufferLen) :
    Accepted buffer bufferLen.toNat agent.usageFlags.noAlignedAttributes
      ((ntohs buffer 2).toNat + 20) := by
  obtain ⟨found, valid, complete⟩ := sized
  obtain ⟨n, positive, same⟩ := validateBufferLength_positive found valid complete
  rw [same, validateBufferLength_accepts _ _ _ positive, Bool.not_not] at found
  rw [← found.size]
  exact found

/-- The attributes of a buffer that holds one message. -/
theorem StunAgent.Sized.laid (sized : agent.Sized buffer bufferLen) :
    ∃ offsets, Laid buffer agent.usageFlags.noAlignedAttributes ((ntohs buffer 2).toNat + 20)
      offsets :=
  (attributes_iff buffer _ (Nat.le_add_left _ _)).mp sized.accepted.attributes

/-- The size is looked at first. -/
theorem validate_eq (platform : Platform) (agent : StunAgent) (msg : StunMessage)
    (buffer : Mem) (bufferLen : UInt64) (validater : Option Validater) :
    agent.validate platform msg buffer bufferLen validater =
      (validateBufferLength buffer bufferLen (!agent.usageFlags.noAlignedAttributes) >>= fun len =>
        match len with
        | none => pure none
        | some len =>
          if len = bufferInvalid then pure (some ⟨.notStun, msg, agent⟩)
          else if len = bufferIncomplete then pure (some ⟨.incompleteStun, msg, agent⟩)
          else if len ≠ bufferLen.toUInt32.toInt32.toInt then pure (some ⟨.notStun, msg, agent⟩)
          else agent.validateMessage platform (agent.adopt msg buffer bufferLen) validater) := rfl

/-- Validation does not return, or refuses the message and leaves the agent alone, or the message
passes every stage. -/
theorem validate_cases (platform : Platform) (agent : StunAgent) (msg : StunMessage)
    (buffer : Mem) (bufferLen : UInt64) (validater : Option Validater) :
    (agent.validate platform msg buffer bufferLen validater).value = none ∨
    (∃ status last, status.IsRefusal ∧
      (agent.validate platform msg buffer bufferLen validater).value =
        some ⟨status, last, agent⟩) ∨
    ∃ slot key last, agent.Sized buffer bufferLen ∧
      agent.Enters (agent.adopt msg buffer bufferLen) slot ∧
      agent.Passes platform (agent.adopt msg buffer bufferLen) validater slot key last ∧
      (agent.validate platform msg buffer bufferLen validater).value =
        some (agent.conclude last slot).value := by
  simp only [StunAgent.validate, value_bind]
  split
  · exact .inl rfl
  · rename_i len sized
    simp only [value_ite]
    split
    · exact .inr (.inl ⟨_, _, by decide, rfl⟩)
    · split
      · exact .inr (.inl ⟨_, _, by decide, rfl⟩)
      · split
        · exact .inr (.inl ⟨_, _, by decide, rfl⟩)
        · rename_i good complete whole
          have same : len = bufferLen.toUInt32.toInt32.toInt := not_not.mp whole
          subst same
          rcases validateMessage_cases platform agent (agent.adopt msg buffer bufferLen)
            validater with ⟨status, refuses, ends⟩ | ⟨slot, enters, goes⟩
          · exact .inr (.inl ⟨status, _, refuses, ends⟩)
          · rw [goes]
            rcases authenticate_cases platform agent (agent.adopt msg buffer bufferLen) validater
              slot with ends | ⟨status, last, refuses, ends⟩ | ⟨key, last, passes, ends⟩
            · exact .inl ends
            · exact .inr (.inl ⟨status, last, refuses, ends⟩)
            · exact .inr (.inr ⟨slot, key, last, ⟨sized, good, complete⟩, enters, passes,
                ends⟩)

/-- A message that is not refused has passed every stage. -/
theorem accepted_of_validate {result : Validation}
    (done : (agent.validate platform msg buffer bufferLen validater).value = some result)
    (accepted : ¬result.status.IsRefusal) :
    ∃ slot key last, agent.Sized buffer bufferLen ∧
      agent.Enters (agent.adopt msg buffer bufferLen) slot ∧
      agent.Passes platform (agent.adopt msg buffer bufferLen) validater slot key last ∧
      result = ⟨acceptedStatus last.getClass.value ((agent.over slot).findUnknowns last 1).value,
        last, agent.over slot⟩ := by
  rcases validate_cases platform agent msg buffer bufferLen validater with
    ends | ⟨status, last, refuses, ends⟩ | ⟨slot, key, last, sized, enters, passes, ends⟩
  · rw [ends] at done
    exact absurd done (by simp)
  · rw [ends, some.injEq] at done
    subst done
    exact absurd refuses accepted
  · rw [ends, some.injEq, value_conclude] at done
    exact ⟨slot, key, last, sized, enters, passes, done.symm⟩

/-- A message that enters has its credentials checked. -/
theorem validateMessage_of_enters (enters : agent.Enters msg slot)
    (platform : Platform) (validater : Option Validater) :
    (agent.validateMessage platform msg validater).value =
      (agent.authenticate platform msg validater slot).value := by
  have cookie : (agent.modern && !msg.hasCookie.value) = false := by
    cases modern : agent.modern with
    | false => rfl
    | true => rw [enters.cookie modern]; rfl
  have fingerprint : (agent.modern && agent.usageFlags.useFingerprint &&
      !(agent.checkFingerprint msg).value) = false := by
    cases modern : agent.modern with
    | false => rfl
    | true =>
      cases used : agent.usageFlags.useFingerprint with
      | false => rfl
      | true => rw [enters.fingerprint modern used]; rfl
  simp only [StunAgent.validateMessage, value_bind, value_and,
    value_not, value_pure, cookie, fingerprint, enters.sent, Bool.false_eq_true,
    if_false]

/-- The validation of a buffer that holds one message. -/
theorem validate_of_sized (sized : agent.Sized buffer bufferLen) (platform : Platform)
    (msg : StunMessage) (validater : Option Validater) :
    (agent.validate platform msg buffer bufferLen validater).value =
      (agent.validateMessage platform (agent.adopt msg buffer bufferLen) validater).value := by
  obtain ⟨found, valid, complete⟩ := sized
  rw [validate_eq, value_bind, found]
  dsimp only
  rw [if_neg valid, if_neg complete, if_neg (not_not.mpr rfl)]

/-- The check of a message with the attributes it needs. -/
theorem authenticate_of_complete
    (complete : agent.savedKey slot = none → (agent.ignoresCredentials msg).value = false →
      (agent.lacksCredentials msg).value = false) (platform : Platform)
    (validater : Option Validater) :
    (agent.authenticate platform msg validater slot).value =
      match (agent.callValidater msg validater (agent.ignoresCredentials msg).value
        (agent.savedKey slot)).value with
      | none => some ⟨.unauthorized, msg, agent⟩
      | some key =>
        match (agent.checkIntegrity platform msg (agent.ignoresCredentials msg).value key
          (agent.savedMd5 slot)).value with
        | .aborted => none
        | .refused last => some ⟨.unauthorized, last, agent⟩
        | .passed last => some (agent.conclude last slot).value := by
  have lacks : ((agent.savedKey slot).isNone && !(agent.ignoresCredentials msg).value &&
      (agent.lacksCredentials msg).value) = false := by
    cases saved : agent.savedKey slot with
    | some => rfl
    | none =>
      cases ignores : (agent.ignoresCredentials msg).value with
      | true => rfl
      | false => rw [complete saved ignores]; rfl
  rw [value_authenticate, lacks, if_neg Bool.false_ne_true]

/-- A message that passes every stage is accepted. -/
theorem validate_of_passes {key : Option (List UInt8)}
    {last : StunMessage} (sized : agent.Sized buffer bufferLen)
    (enters : agent.Enters (agent.adopt msg buffer bufferLen) slot)
    (passes : agent.Passes platform (agent.adopt msg buffer bufferLen) validater slot key last) :
    (agent.validate platform msg buffer bufferLen validater).value =
      some ⟨acceptedStatus last.getClass.value ((agent.over slot).findUnknowns last 1).value,
        last, agent.over slot⟩ := by
  rw [validate_of_sized sized, validateMessage_of_enters enters,
    authenticate_of_complete passes.complete, passes.called]
  dsimp only
  rw [passes.checked]
  dsimp only
  rw [value_conclude]

/-! ## An agent to try -/

/-- A platform with a digest of zeros. -/
def zeroPlatform : Platform where
  hmacSha1 _ _ := Vector.replicate 20 0
  hashCreds _ _ _ := Vector.replicate 16 0
  uninitialised := Vector.replicate 16 0

/-- Slots of zeros. -/
def freeSlots : Vector StunAgentSavedIds 200 :=
  Vector.replicate 200 ⟨Vector.replicate 16 0, 0, none, Vector.replicate 16 0, false, false⟩

/-- An agent without credentials that knows no attribute. -/
def plainAgent : StunAgent := StunAgent.init freeSlots [] .rfc3489 {}

end Xice.Stun
