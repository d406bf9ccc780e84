import Xice.Stun.Finish
import Xice.Stun.Authentication

/-!
# Keys made of long-term credentials

An agent with long-term credentials hashes USERNAME, REALM and a password into a key.
`stun_agent_finish_message` keeps a key even when there is nothing to hash, and
`stun_agent_validate` takes the key of the transaction for the answer: the only ways to a key that
is not the hash.
-/

namespace Xice.Stun

open Xice.Lib Option Reading

variable {platform : Platform} {agent : StunAgent} {msg : StunMessage}
  {validater : Option Validater}

/-- The hash of USERNAME, REALM and a password. -/
def StunMessage.credentialKey (platform : Platform) (msg : StunMessage) (password : List UInt8) :
    Option (Vector UInt8 16) :=
  match (msg.find attrRealm).value, (msg.find attrUsername).value with
  | some realm, some username =>
    some (platform.hashCreds (msg.bytesOf realm) (msg.bytesOf username) password)
  | _, _ => none

variable {key : Option (List UInt8)} {password : List UInt8} {slot : Option (Fin 200)}
  {result : Validation}

/-- There is something to hash when both attributes are found. -/
theorem isSome_credentialKey (platform : Platform) (msg : StunMessage) (password : List UInt8) :
    (msg.credentialKey platform password).isSome = true ↔
      (msg.find attrUsername).value.isSome = true ∧ (msg.find attrRealm).value.isSome = true := by
  unfold StunMessage.credentialKey
  cases (msg.find attrRealm).value with
  | none => simp
  | some realm =>
    cases (msg.find attrUsername).value with
    | none => simp
    | some username => simp

/-- A message with a key made of long-term credentials. -/
def StunMessage.marked (msg : StunMessage) (md5 : Vector UInt8 16) : StunMessage :=
  { msg with longTermKey := md5, longTermValid := true }

/-! ## Finishing -/

/-- For a message without a key. An array that was never written is kept when there is nothing to
hash. -/
theorem finishKey_long (platform : Platform) (long : agent.usageFlags.longTermCredentials = true)
    (fresh : msg.longTermValid = false) (password : List UInt8) :
    agent.finishKey platform msg password =
      ((msg.credentialKey platform password).map Vector.toList,
        msg.marked ((msg.credentialKey platform password).getD platform.uninitialised)) := by
  unfold StunAgent.finishKey StunMessage.credentialKey
  rw [fresh, long]
  cases (msg.find attrRealm).value with
  | none => rfl
  | some realm =>
    cases (msg.find attrUsername).value with
    | none => rfl
    | some username => rfl

/-- Appending leaves the key. -/
theorem append_longTerm {type : StunAttribute} {length : UInt64} {done : Appended}
    (appended : msg.append type length = some done) :
    done.msg.longTermKey = msg.longTermKey ∧ done.msg.longTermValid = msg.longTermValid := by
  simp only [StunMessage.append] at appended
  split at appended
  · exact absurd appended (by simp)
  · split at appended
    · rw [← some.inj appended]
      exact ⟨rfl, rfl⟩
    · rw [← some.inj appended]
      exact ⟨rfl, rfl⟩

/-- The message that a stage leaves has a long-term key. -/
def Stage.KeepsKey (md5 : Vector UInt8 16) (valid : Bool) : Stage → Prop
  | .aborted => True
  | .noRoom last => last.longTermKey = md5 ∧ last.longTermValid = valid
  | .done last => last.longTermKey = md5 ∧ last.longTermValid = valid

/-- The digest leaves it too. -/
theorem putIntegrity_keeps (platform : Platform) (agent : StunAgent) (msg : StunMessage)
    (shaKey : List UInt8) :
    (agent.putIntegrity platform msg shaKey).KeepsKey msg.longTermKey msg.longTermValid := by
  unfold StunAgent.putIntegrity
  split
  · exact ⟨rfl, rfl⟩
  · rename_i appended
    split
    · trivial
    · have keeps := append_longTerm appended
      exact ⟨keeps.1, keeps.2⟩

/-- So does the checksum. -/
theorem addFingerprint_keeps (agent : StunAgent) (msg : StunMessage) :
    (agent.addFingerprint msg).KeepsKey msg.longTermKey msg.longTermValid := by
  unfold StunAgent.addFingerprint
  split
  · split
    · exact ⟨rfl, rfl⟩
    · rename_i appended
      have keeps := append_longTerm appended
      exact ⟨keeps.1, keeps.2⟩
  · exact ⟨rfl, rfl⟩

/-- The key that the stage of MESSAGE-INTEGRITY leaves. -/
theorem addIntegrity_keeps (platform : Platform)
    (long : agent.usageFlags.longTermCredentials = true) (fresh : msg.longTermValid = false)
    (password : List UInt8) :
    (agent.addIntegrity platform msg (some password)).KeepsKey
      ((msg.credentialKey platform password).getD platform.uninitialised) true := by
  rw [addIntegrity_some, finishKey_long platform long fresh]
  cases msg.credentialKey platform password with
  | none => exact ⟨rfl, rfl⟩
  | some md5 => exact putIntegrity_keeps platform agent (msg.marked md5) md5.toList

/-- One slot may hold the key of the message. -/
theorem save_sentIds (agent : StunAgent) (last : StunMessage) (key : Option (List UInt8))
    (slot index : Fin 200) :
    (agent.save last key slot).agent.sent index = agent.sent index ∨
      (((agent.save last key slot).agent.sent index).longTermKey = last.longTermKey ∧
        ((agent.save last key slot).agent.sent index).longTermValid = last.longTermValid) := by
  unfold StunAgent.save
  dsimp only
  split
  · by_cases same : slot = index
    · subst same
      refine .inr ?_
      simp
    · refine .inl ?_
      exact Vector.getElem_set_ne slot.isLt index.isLt (fun equal => same (Fin.ext equal))
  · exact .inl rfl

/-- A key in the message or in a slot is the hash of the credentials in the message and of the
password. -/
structure Finished.Honest (platform : Platform) (agent : StunAgent) (msg : StunMessage)
    (password : Option (List UInt8)) (done : Finished) : Prop where
  message : done.msg.longTermValid = true →
    password.bind (msg.credentialKey platform) = some done.msg.longTermKey
  saved : ∀ slot : Fin 200, done.agent.sent slot ≠ agent.sent slot →
    (done.agent.sent slot).longTermValid = true →
    password.bind (msg.credentialKey platform) = some (done.agent.sent slot).longTermKey

/-- What finishing leaves when one key is used all the way. -/
theorem finishMessage_keeps {done : Finished} {slot : Fin 200}
    (free : agent.freeSlot msg = some slot) {md5 : Vector UInt8 16} {valid : Bool}
    (first : (agent.addIntegrity platform msg (msg.usedKey key)).KeepsKey md5 valid)
    (returned : agent.finishMessage platform msg key = some done) :
    done.msg.longTermKey = md5 ∧ done.msg.longTermValid = valid ∧
      ∀ index : Fin 200, done.agent.sent index = agent.sent index ∨
        ((done.agent.sent index).longTermKey = md5 ∧
          (done.agent.sent index).longTermValid = valid) := by
  rw [finishMessage_eq, free] at returned
  dsimp only at returned
  revert first returned
  cases agent.addIntegrity platform msg (msg.usedKey key) with
  | aborted =>
    intro _ returned
    exact absurd returned (by simp)
  | noRoom last =>
    rintro ⟨keeps, marked⟩ returned
    rw [← some.inj returned]
    exact ⟨keeps, marked, fun _ => .inl rfl⟩
  | done signed =>
    rintro ⟨keeps, marked⟩ returned
    have second := addFingerprint_keeps agent signed
    rw [keeps, marked] at second
    revert second
    dsimp only at returned
    revert returned
    cases agent.addFingerprint signed with
    | aborted =>
      intro returned
      exact absurd returned (by simp)
    | noRoom last =>
      rintro returned ⟨keeps, marked⟩
      rw [← some.inj returned]
      exact ⟨keeps, marked, fun _ => .inl rfl⟩
    | done last =>
      rintro returned ⟨keeps, marked⟩
      rw [← some.inj returned]
      refine ⟨keeps, marked, ?_⟩
      intro index
      rw [← keeps, ← marked]
      exact save_sentIds agent last (msg.usedKey key) slot index

/-- The hash is recorded exactly when the credentials are there, unless there is no password or no
slot. -/
theorem finishMessage_honest {done : Finished} (long : agent.usageFlags.longTermCredentials = true)
    (fresh : msg.longTermValid = false)
    (returned : agent.finishMessage platform msg key = some done) :
    done.Honest platform agent msg (msg.usedKey key) ↔
      agent.freeSlot msg = none ∨ msg.usedKey key = none ∨
        ((msg.find attrUsername).value.isSome = true ∧
          (msg.find attrRealm).value.isSome = true) := by
  cases free : agent.freeSlot msg with
  | none =>
    rw [finishMessage_eq, free] at returned
    rw [← some.inj returned]
    refine ⟨fun _ => .inl rfl, fun _ => ⟨?_, fun _ changed => absurd rfl changed⟩⟩
    intro valid
    rw [fresh] at valid
    exact absurd valid (by decide)
  | some slot =>
    cases used : msg.usedKey key with
    | none =>
      have first : (agent.addIntegrity platform msg (msg.usedKey key)).KeepsKey
          msg.longTermKey false := by
        rw [used]
        exact ⟨rfl, fresh⟩
      obtain ⟨-, unmarked, slots⟩ := finishMessage_keeps free first returned
      refine ⟨fun _ => .inr (.inl rfl), fun _ => ⟨?_, ?_⟩⟩
      · intro valid
        rw [unmarked] at valid
        exact absurd valid (by decide)
      · intro index changed valid
        rcases slots index with same | ⟨-, unsaved⟩
        · exact absurd same changed
        · rw [unsaved] at valid
          exact absurd valid (by decide)
    | some password =>
      have first : (agent.addIntegrity platform msg (msg.usedKey key)).KeepsKey
          ((msg.credentialKey platform password).getD platform.uninitialised) true := by
        rw [used]
        exact addIntegrity_keeps platform long fresh password
      obtain ⟨keeps, marked, slots⟩ := finishMessage_keeps free first returned
      rw [← isSome_credentialKey platform msg password]
      constructor
      · intro honest
        have hash := honest.message marked
        rw [bind_some] at hash
        rw [hash]
        exact .inr (.inr rfl)
      · intro possible
        have there : (msg.credentialKey platform password).isSome = true := by
          rcases possible with absent | absent | there
          · exact absurd absent (by simp)
          · exact absurd absent (by simp)
          · exact there
        obtain ⟨md5, hash⟩ := isSome_iff_exists.mp there
        rw [hash, getD_some] at keeps slots
        refine ⟨fun _ => ?_, fun index changed _ => ?_⟩
        · rw [bind_some, hash, keeps]
        · rcases slots index with same | ⟨saves, -⟩
          · exact absurd same changed
          · rw [bind_some, hash, saves]

/-! ## Validating -/

/-- The key of the transaction, or else the hash. -/
theorem value_digestKey (platform : Platform) (msg : StunMessage)
    (long : agent.usageFlags.longTermCredentials = true) (password : List UInt8)
    (saved : Option (Vector UInt8 16)) :
    (agent.digestKey platform msg password saved).value =
      (saved.or (msg.credentialKey platform password)).map fun md5 =>
        (md5.toList, msg.marked md5) := by
  unfold StunAgent.digestKey StunMessage.credentialKey
  rw [if_pos long]
  cases saved with
  | some md5 => rfl
  | none =>
    dsimp only
    rw [value_bind, value_bind]
    cases (msg.find attrRealm).value with
    | none => rfl
    | some realm =>
      cases (msg.find attrUsername).value with
      | none => rfl
      | some username => rfl

/-- The message that the check of MESSAGE-INTEGRITY leaves. -/
def Integrity.Leaves (holds : StunMessage → Prop) : Integrity → Prop
  | .aborted => True
  | .refused last => holds last
  | .passed last => holds last

/-- The hash is kept by the check. -/
theorem checkIntegrity_marks (platform : Platform)
    (long : agent.usageFlags.longTermCredentials = true) (positive : 0 < password.length)
    (found : (msg.find attrMessageIntegrity).value.isSome = true) (saved : Option (Vector UInt8 16))
    :
    (agent.checkIntegrity platform msg false (some password) saved).value.Leaves fun last =>
      match saved.or (msg.credentialKey platform password) with
      | none => last = msg
      | some md5 => last.longTermKey = md5 ∧ last.longTermValid = true := by
  obtain ⟨hash, there⟩ := isSome_iff_exists.mp found
  unfold StunAgent.checkIntegrity
  dsimp only
  rw [if_pos (by simpa using positive), value_bind, there]
  dsimp only
  rw [value_bind, value_digestKey platform msg long]
  cases saved.or (msg.credentialKey platform password) with
  | none => rfl
  | some md5 =>
    rw [map_some]
    dsimp only
    rw [value_bind]
    split
    · trivial
    · rw [value_bind, value_ite]
      split <;> exact ⟨rfl, rfl⟩

/-- Without the check of a digest, the message stays as it is. -/
theorem checkIntegrity_skips {ignore : Bool}
    (skips : ∀ password, key = some password → ignore = false → 0 < password.length →
      (msg.find attrMessageIntegrity).value = none) (saved : Option (Vector UInt8 16)) :
    (agent.checkIntegrity platform msg ignore key saved).value.Leaves fun last => last = msg := by
  unfold StunAgent.checkIntegrity
  cases key with
  | none => rfl
  | some password =>
    dsimp only
    rw [value_ite]
    split
    · rename_i checks
      rw [Bool.and_eq_true, decide_eq_true_iff, Bool.not_eq_true'] at checks
      rw [value_bind, skips password rfl checks.1 checks.2]
      dsimp only
      rw [value_bind, value_ite]
      split <;> rfl
    · rfl

/-- The digest of a message is checked, with a password. -/
structure StunAgent.Compares (agent : StunAgent) (msg : StunMessage)
    (validater : Option Validater) (slot : Option (Fin 200)) (password : List UInt8) : Prop where
  enters : agent.Enters msg slot
  complete : agent.savedKey slot = none → (agent.lacksCredentials msg).value = false
  heeds : (agent.ignoresCredentials msg).value = false
  called : (agent.callValidater msg validater false (agent.savedKey slot)).value =
    some (some password)
  positive : 0 < password.length
  found : (msg.find attrMessageIntegrity).value.isSome = true

/-- The slot and the password of a message are fixed. -/
theorem StunAgent.Compares.unique {other : Option (Fin 200)} {second : List UInt8}
    (compares : agent.Compares msg validater slot password)
    (again : agent.Compares msg validater other second) : slot = other ∧ password = second := by
  have same : slot = other :=
    some.inj (compares.enters.sent.symm.trans again.enters.sent)
  subst same
  exact ⟨rfl, some.inj (some.inj (compares.called.symm.trans again.called))⟩

/-- The slots keep their keys. -/
def StunAgent.SameKeys (agent other : StunAgent) : Prop :=
  ∀ slot : Fin 200, (other.sent slot).longTermKey = (agent.sent slot).longTermKey ∧
    (other.sent slot).longTermValid = (agent.sent slot).longTermValid

/-- Nothing changed. -/
theorem StunAgent.SameKeys.refl (agent : StunAgent) : agent.SameKeys agent :=
  fun _ => ⟨rfl, rfl⟩

/-- The end of a transaction leaves the keys in the slots. -/
theorem over_sameKeys (agent : StunAgent) (slot : Option (Fin 200)) :
    agent.SameKeys (agent.over slot) := by
  cases slot with
  | none => exact .refl agent
  | some ended =>
    intro slot
    change ((agent.sentIds.set ended _)[slot]).longTermKey = _ ∧
      ((agent.sentIds.set ended _)[slot]).longTermValid = _
    by_cases same : ended = slot
    · subst same
      simp
    · have other : (agent.sentIds.set ended { agent.sent ended with valid := false })[slot] =
          agent.sent slot :=
        Vector.getElem_set_ne ended.isLt slot.isLt (fun equal => same (Fin.ext equal))
      rw [other]
      exact ⟨rfl, rfl⟩

/-- The caller gets what the check leaves. -/
theorem integrity_result {holds : StunMessage → Prop} {integrity : Integrity}
    (done : (match integrity with
      | .aborted => none
      | .refused last => some ⟨.unauthorized, last, agent⟩
      | .passed last => some (agent.conclude last slot).value) = some result)
    (leaves : integrity.Leaves holds) : holds result.msg ∧ agent.SameKeys result.agent := by
  cases integrity with
  | aborted => exact absurd done (by simp)
  | refused last =>
    rw [← some.inj done]
    exact ⟨leaves, .refl agent⟩
  | passed last =>
    dsimp only at done
    rw [value_conclude, some.injEq] at done
    rw [← done]
    exact ⟨leaves, over_sameKeys agent slot⟩

/-- The key of a message whose digest is checked. -/
theorem StunAgent.Compares.marks (compares : agent.Compares msg validater slot password)
    (long : agent.usageFlags.longTermCredentials = true)
    (done : (agent.validateMessage platform msg validater).value = some result) :
    (match (agent.savedMd5 slot).or (msg.credentialKey platform password) with
      | none => result.msg = msg
      | some md5 => result.msg.longTermKey = md5 ∧ result.msg.longTermValid = true) ∧
    agent.SameKeys result.agent := by
  rw [validateMessage_of_enters compares.enters,
    authenticate_of_complete (fun new _ => compares.complete new), compares.heeds,
    compares.called] at done
  exact integrity_result done
    (checkIntegrity_marks platform long compares.positive compares.found _)

/-- A message whose digest is not checked stays as it is. -/
theorem validateMessage_skips (skips : ∀ slot password, ¬agent.Compares msg validater slot password)
    (done : (agent.validateMessage platform msg validater).value = some result) :
    result.msg = msg ∧ agent.SameKeys result.agent := by
  rcases validateMessage_cases platform agent msg validater with
    ⟨status, -, ends⟩ | ⟨slot, enters, goes⟩
  · rw [ends, some.injEq] at done
    rw [← done]
    exact ⟨rfl, .refl agent⟩
  · rw [goes, value_authenticate] at done
    split at done
    · rw [← some.inj done]
      exact ⟨rfl, .refl agent⟩
    · rename_i complete
      split at done
      · rw [← some.inj done]
        exact ⟨rfl, .refl agent⟩
      · rename_i key called
        refine integrity_result done (checkIntegrity_skips ?_ _)
        intro password same heeds positive
        rw [same, heeds] at called
        by_contra found
        refine skips slot password ⟨enters, ?_, heeds, called, positive, ?_⟩
        · intro new
          simpa [new, heeds] using complete
        · exact isSome_iff_ne_none.mpr found

/-- A key in the message is the hash of its credentials and of the password used, and no key in a
slot changes. -/
structure Validation.Honest (platform : Platform) (agent : StunAgent) (msg : StunMessage)
    (validater : Option Validater) (result : Validation) : Prop where
  message : result.msg.longTermValid = true → ∃ slot password,
    agent.Compares msg validater slot password ∧
      msg.credentialKey platform password = some result.msg.longTermKey
  saved : agent.SameKeys result.agent

/-- The hash is recorded exactly when the transaction has no other key. -/
theorem validateMessage_honest (long : agent.usageFlags.longTermCredentials = true)
    (fresh : msg.longTermValid = false)
    (done : (agent.validateMessage platform msg validater).value = some result) :
    result.Honest platform agent msg validater ↔
      ∀ slot password md5, agent.Compares msg validater slot password →
        agent.savedMd5 slot = some md5 → msg.credentialKey platform password = some md5 := by
  by_cases checked : ∃ slot password, agent.Compares msg validater slot password
  · obtain ⟨slot, password, compares⟩ := checked
    obtain ⟨marks, same⟩ := compares.marks long done
    constructor
    · intro honest other second md5 again saved
      obtain ⟨rfl, rfl⟩ := compares.unique again
      rw [saved, some_or] at marks
      obtain ⟨third, fourth, last, hash⟩ := honest.message marks.2
      obtain ⟨-, rfl⟩ := compares.unique last
      rw [hash, marks.1]
    · intro agrees
      refine ⟨fun valid => ⟨slot, password, compares, ?_⟩, same⟩
      cases saved : agent.savedMd5 slot with
      | some md5 =>
        rw [saved, some_or] at marks
        rw [agrees slot password md5 compares saved, marks.1]
      | none =>
        rw [saved, none_or] at marks
        cases hash : msg.credentialKey platform password with
        | none =>
          rw [hash] at marks
          change result.msg = msg at marks
          rw [marks, fresh] at valid
          exact absurd valid (by decide)
        | some md5 =>
          rw [hash] at marks
          rw [marks.1]
  · have skips : ∀ slot password, ¬agent.Compares msg validater slot password :=
      fun slot password compares => checked ⟨slot, password, compares⟩
    obtain ⟨unchanged, same⟩ := validateMessage_skips skips done
    refine ⟨fun _ slot password _ compares => absurd compares (skips slot password),
      fun _ => ⟨?_, same⟩⟩
    intro valid
    rw [unchanged, fresh] at valid
    exact absurd valid (by decide)

/-! ## Both -/

variable {buffer : Mem} {bufferLen : UInt64}

/-- Another buffer leaves message and agent alone. -/
theorem unchanged_of_not_sized (unsized : ¬agent.Sized buffer bufferLen)
    (done : (agent.validate platform msg buffer bufferLen validater).value = some result) :
    result.msg = msg ∧ result.agent = agent := by
  rw [validate_eq, value_bind] at done
  split at done
  · exact absurd done (by simp)
  · rename_i len found
    simp only [value_ite] at done
    split at done
    · rw [← some.inj done]
      exact ⟨rfl, rfl⟩
    · split at done
      · rw [← some.inj done]
        exact ⟨rfl, rfl⟩
      · split at done
        · rw [← some.inj done]
          exact ⟨rfl, rfl⟩
        · rename_i valid complete whole
          obtain rfl := not_not.mp whole
          exact absurd ⟨found, valid, complete⟩ unsized

/-- Finishing a message without a key records the hash of the long-term credentials exactly when
they are in the message, except that nothing is recorded without a password or a slot. Validating
records it exactly when the message is not checked with the key of the transaction it answers. -/
theorem longTermKey_iff (platform : Platform)
    (long : agent.usageFlags.longTermCredentials = true) (fresh : msg.longTermValid = false) :
    (∀ key done, agent.finishMessage platform msg key = some done →
      (done.Honest platform agent msg (msg.usedKey key) ↔
        agent.freeSlot msg = none ∨ msg.usedKey key = none ∨
          ((msg.find attrUsername).value.isSome = true ∧
            (msg.find attrRealm).value.isSome = true))) ∧
    ∀ buffer bufferLen validater result,
      (agent.validate platform msg buffer bufferLen validater).value = some result →
      (result.Honest platform agent (agent.adopt msg buffer bufferLen) validater ↔
        (agent.Sized buffer bufferLen → ∀ slot password md5,
          agent.Compares (agent.adopt msg buffer bufferLen) validater slot password →
          agent.savedMd5 slot = some md5 →
          (agent.adopt msg buffer bufferLen).credentialKey platform password = some md5)) := by
  refine ⟨fun key done => finishMessage_honest long fresh, ?_⟩
  intro buffer bufferLen validater result done
  by_cases sized : agent.Sized buffer bufferLen
  · rw [validate_of_sized sized] at done
    rw [validateMessage_honest long rfl done]
    exact ⟨fun agrees _ => agrees, fun agrees => agrees sized⟩
  · obtain ⟨unchanged, same⟩ := unchanged_of_not_sized sized done
    refine ⟨fun _ whole => absurd whole sized, fun _ => ⟨?_, ?_⟩⟩
    · intro valid
      rw [unchanged, fresh] at valid
      exact absurd valid (by decide)
    · rw [same]
      exact .refl agent

/-- An agent with long-term credentials. -/
def longTermAgent : StunAgent :=
  StunAgent.init freeSlots [attrUsername, attrRealm, attrMessageIntegrity] .rfc3489
    { longTermCredentials := true }

/-- A request with a USERNAME and a REALM of one byte each. -/
def creditedRequest : StunMessage :=
  { bareRequest 100 with
    buffer := Mem.ofList ([0, 1, 0, 16] ++ List.replicate 16 0 ++ [0, 6, 0, 1, 97, 0, 0, 0] ++
      [0, 20, 0, 1, 98, 0, 0, 0]) }

/-- The key of that request is the hash of its credentials. -/
theorem longTermKey_iff_credited :
    ∃ done, longTermAgent.finishMessage zeroPlatform creditedRequest (some [1]) = some done ∧
      done.msg.longTermValid = true ∧ (done.agent.sent firstSlot).longTermValid = true ∧
      done.Honest zeroPlatform longTermAgent creditedRequest
        (creditedRequest.usedKey (some [1])) := by
  have marked : (longTermAgent.finishMessage zeroPlatform creditedRequest (some [1])).map
      (fun done => (done.msg.longTermValid, (done.agent.sent firstSlot).longTermValid)) =
        some (true, true) := by
    decide +kernel
  obtain ⟨done, returned, both⟩ := map_eq_some_iff.mp marked
  obtain ⟨message, saved⟩ := Prod.mk.inj both
  have credited := (longTermKey_iff zeroPlatform
    (show longTermAgent.usageFlags.longTermCredentials = true from rfl)
    (show creditedRequest.longTermValid = false from rfl)).1 (some [1]) done returned
  exact ⟨done, returned, message, saved, credited.mpr (.inr (.inr (by decide +kernel)))⟩

/-- A request of a header only leaves a key that was never written in the message and in the first
slot. -/
theorem finishMessage_unwritten :
    ∃ done, longTermAgent.finishMessage zeroPlatform (bareRequest 100) (some [1]) = some done ∧
      (bareRequest 100).longTermValid = false ∧
      ((bareRequest 100).find attrUsername).value = none ∧
      done.msg.longTermValid = true ∧ (done.agent.sent firstSlot).longTermValid = true ∧
      ¬done.Honest zeroPlatform longTermAgent (bareRequest 100)
        ((bareRequest 100).usedKey (some [1])) := by
  have marked : (longTermAgent.finishMessage zeroPlatform (bareRequest 100) (some [1])).map
      (fun done => (done.msg.longTermValid, (done.agent.sent firstSlot).longTermValid)) =
        some (true, true) := by
    decide +kernel
  have absent : ((bareRequest 100).find attrUsername).value = none := by
    decide +kernel
  obtain ⟨done, returned, both⟩ := map_eq_some_iff.mp marked
  obtain ⟨message, saved⟩ := Prod.mk.inj both
  refine ⟨done, returned, rfl, absent, message, saved, ?_⟩
  rw [finishMessage_honest rfl rfl returned]
  rw [absent]
  decide +kernel

end Xice.Stun
