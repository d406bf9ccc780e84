import Xice.Stun.Written

/-!
# How finishing ends

`stun_agent_finish_message` appends MESSAGE-INTEGRITY and FINGERPRINT where they are wanted and
saves a request. With a length of sixteen bits and at most 65535 bytes, it fails for lack of room
only.
-/

namespace Xice.Stun

open Xice.Lib

variable {platform : Platform} {agent : StunAgent} {msg last : StunMessage}
variable {length : UInt64} {bytes : Nat}

/-! ## The header -/

/-- One type and transaction id, in buffers of one size. -/
structure StunMessage.SameHead (msg last : StunMessage) : Prop where
  type : ntohs last.buffer 0 = ntohs msg.buffer 0
  id : last.id.value = msg.id.value
  bufferLen : last.bufferLen = msg.bufferLen

/-- The class is the same. -/
theorem StunMessage.SameHead.getClass (same : msg.SameHead last) :
    last.getClass.value = msg.getClass.value := getClass_congr same.type

/-- So is the method. -/
theorem StunMessage.SameHead.getMethod (same : msg.SameHead last) :
    last.getMethod.value = msg.getMethod.value := getMethod_congr same.type

/-- One after the other. -/
theorem StunMessage.SameHead.trans {final : StunMessage} (first : msg.SameHead last)
    (second : last.SameHead final) : msg.SameHead final where
  type := second.type.trans first.type
  id := second.id.trans first.id
  bufferLen := second.bufferLen.trans first.bufferLen

/-- A longer message has the same head. -/
theorem StunMessage.Extends.sameHead (after : msg.Extends last) : msg.SameHead last where
  type := ntohs_congr (after.head 0 (by decide)) (after.head 1 (by decide))
  id := after.id
  bufferLen := after.bufferLen

/-! ## Room -/

/-- When there is no room for an attribute. -/
theorem refuses_iff (small : msg.recorded < 2 ^ 16)
    (short : length.toNat < 2 ^ 16) :
    msg.Refuses length ↔ msg.bufferLen.toNat < msg.recorded + 4 + length.toNat := by
  have size : (ntohs msg.buffer 2 + 20).toNat = msg.recorded := place_eq small
  rw [StunMessage.Refuses, UInt64.lt_iff_toNat_lt, UInt64.toNat_add, UInt64.toNat_add,
    UInt16.toNat_toUInt64, size]
  change _ < ((msg.recorded + 4) % 2 ^ 64 + length.toNat) % 2 ^ 64 ↔ _
  omega

/-- Whole words need no padding. -/
theorem grown_words (msg : StunMessage) (words : length.toNat % 4 = 0) :
    msg.grown length = msg.recorded + 4 + length.toNat := by
  have none : paddingOf msg.unaligned length.toNat = 0 := by
    unfold paddingOf
    split
    · rfl
    · omega
  rw [StunMessage.grown, none, Nat.add_zero]

/-- An append of whole words to a message that stays short. -/
theorem append_words (type : StunAttribute) (small : msg.recorded < 2 ^ 16)
    (size : msg.bufferLen.toNat ≤ 65535 ∨ msg.recorded + 4 + length.toNat < 2 ^ 16)
    (short : length.toNat < 2 ^ 16)
    (words : length.toNat % 4 = 0) :
    (msg.append type length = none ∧ msg.bufferLen.toNat < msg.recorded + 4 + length.toNat) ∨
    (msg.grown length = msg.recorded + 4 + length.toNat ∧
      msg.grown length ≤ msg.bufferLen.toNat ∧
      ∃ done, msg.append type length = some done ∧ done.msg = msg.appended type length ∧
        ∀ value, (done.fill 0 value).msg = msg.filled type length value) := by
  have grown := grown_words msg words
  by_cases refuses : msg.Refuses length
  · exact .inl ⟨append_eq_none refuses, (refuses_iff small short).mp refuses⟩
  · have room := mt (refuses_iff small short).mpr refuses
    obtain ⟨done, appended, -, made, fill⟩ :=
      append_filled type (show msg.grown length ≤ msg.bufferLen.toNat by omega) (by omega)
    exact .inr ⟨grown, by omega, done, appended, made, fill⟩

/-! ## The stages -/

/-- The key made of the long-term credentials is kept; nothing else changes. -/
theorem finishKey_kept (platform : Platform) (agent : StunAgent) (msg : StunMessage)
    (key : List UInt8) :
    ∃ md5 valid, (agent.finishKey platform msg key).2 =
      { msg with longTermKey := md5, longTermValid := valid } := by
  unfold StunAgent.finishKey
  split
  · exact ⟨msg.longTermKey, msg.longTermValid, rfl⟩
  · split
    · split
      · exact ⟨_, _, rfl⟩
      · exact ⟨_, _, rfl⟩
    · exact ⟨msg.longTermKey, msg.longTermValid, rfl⟩

/-- With room, the digest is computed. -/
theorem finishDigest_some (platform : Platform) (agent : StunAgent) (key : List UInt8)
    (long : 44 ≤ msg.recorded) (small : msg.recorded < 2 ^ 16) :
    ∃ sha, agent.finishDigest platform msg key = some sha := by
  have length : msg.length.value.toNat = msg.recorded := by
    rw [toNat_length, Nat.mod_eq_of_lt small]
  have computed : ∀ msgLen padding, ∃ sha,
      (stunSha1 platform msg.buffer msg.recorded msgLen key padding).value = some sha := by
    intro msgLen padding
    unfold stunSha1
    rw [if_neg (by omega)]
    exact ⟨_, rfl⟩
  unfold StunAgent.finishDigest
  rw [length]
  split <;> exact computed _ _

/-- The number of bytes that MESSAGE-INTEGRITY takes. -/
def StunAgent.integrityRoom (platform : Platform) (agent : StunAgent) (msg : StunMessage)
    (key : Option (List UInt8)) : Nat :=
  match key with
  | none => 0
  | some key => if (agent.finishKey platform msg key).1.isSome then 24 else 0

/-- The number of bytes that FINGERPRINT takes. -/
def StunAgent.fingerprintRoom (agent : StunAgent) : Nat :=
  if agent.modern && agent.usageFlags.useFingerprint then 8 else 0

/-- There is no room for some bytes, or the message grows by them and keeps its header. -/
def Stage.Takes (stage : Stage) (msg : StunMessage) (bytes : Nat) : Prop :=
  match stage with
  | .aborted => False
  | .noRoom _ => msg.bufferLen.toNat < msg.recorded + bytes
  | .done last => msg.SameHead last ∧ last.recorded = msg.recorded + bytes ∧
    last.recorded < 2 ^ 16

/-- A stage is the same for a message with one more key. -/
theorem Stage.Takes.rebase {stage : Stage} {keyed : StunMessage}
    (takes : stage.Takes keyed bytes) (same : msg.SameHead keyed)
    (recorded : keyed.recorded = msg.recorded) : stage.Takes msg bytes := by
  cases stage with
  | aborted => exact takes
  | noRoom =>
    change msg.bufferLen.toNat < msg.recorded + bytes
    rw [← same.bufferLen, ← recorded]
    exact takes
  | done last =>
    obtain ⟨head, length, small⟩ := takes
    exact ⟨same.trans head, by rw [length, recorded], small⟩

/-- The stage of MESSAGE-INTEGRITY after its key is known. -/
def StunAgent.putIntegrity (platform : Platform) (agent : StunAgent) (msg : StunMessage)
    (shaKey : List UInt8) : Stage :=
  match msg.append attrMessageIntegrity 20 with
  | none => .noRoom msg
  | some done =>
    match agent.finishDigest platform done.msg shaKey with
    | none => .aborted
    | some sha => .done (done.fill 0 sha.toList).msg

/-- The key is looked for first. -/
theorem addIntegrity_some (platform : Platform) (agent : StunAgent) (msg : StunMessage)
    (key : List UInt8) :
    agent.addIntegrity platform msg (some key) =
      match (agent.finishKey platform msg key).1 with
      | none => .done (agent.finishKey platform msg key).2
      | some shaKey =>
        agent.putIntegrity platform (agent.finishKey platform msg key).2 shaKey := by
  unfold StunAgent.addIntegrity
  dsimp only
  cases agent.finishKey platform msg key with
  | mk shaKey kept =>
    cases shaKey with
    | none => rfl
    | some shaKey => rfl

/-- A value is filled in. -/
theorem filled_takes (type : StunAttribute)
    (short : msg.grown length < 2 ^ 16) (grown : msg.grown length = msg.recorded + bytes)
    (value : List UInt8) : (Stage.done (msg.filled type length value)).Takes msg bytes := by
  have recorded := recorded_filled short type value
  refine ⟨(filled_extends (by omega) type length value).sameHead, ?_, ?_⟩
  · rw [recorded, grown]
  · rw [recorded]
    exact short

/-- A digest takes 24 bytes. -/
theorem putIntegrity_takes (platform : Platform) (agent : StunAgent)
    (small : msg.recorded < 2 ^ 16) (size : msg.bufferLen.toNat ≤ 65535) (shaKey : List UInt8) :
    (agent.putIntegrity platform msg shaKey).Takes msg 24 := by
  have header : 20 ≤ msg.recorded := Nat.le_add_left _ _
  unfold StunAgent.putIntegrity
  rcases append_words attrMessageIntegrity small (.inl size) (show (20 : UInt64).toNat < 2 ^ 16 by decide)
    (by decide) with ⟨none, room⟩ | ⟨grown, room, done, appended, made, fill⟩
  · rw [none]
    exact room
  · have words : msg.grown 20 = msg.recorded + 24 := grown
    have length := recorded_appended (show msg.grown 20 < 2 ^ 16 by omega) attrMessageIntegrity
    obtain ⟨sha, digest⟩ := finishDigest_some platform agent shaKey
      (show 44 ≤ done.msg.recorded by rw [made, length]; omega) (by rw [made, length]; omega)
    simp only [appended, digest, fill]
    exact filled_takes attrMessageIntegrity (by omega) words sha.toList

/-- The stage takes its room. -/
theorem addIntegrity_takes (platform : Platform) (agent : StunAgent)
    (small : msg.recorded < 2 ^ 16) (size : msg.bufferLen.toNat ≤ 65535)
    (key : Option (List UInt8)) :
    (agent.addIntegrity platform msg key).Takes msg (agent.integrityRoom platform msg key) := by
  cases key with
  | none => exact ⟨⟨rfl, rfl, rfl⟩, rfl, small⟩
  | some key =>
    obtain ⟨md5, valid, kept⟩ := finishKey_kept platform agent msg key
    have same : msg.SameHead (agent.finishKey platform msg key).2 := by
      rw [kept]
      exact ⟨rfl, rfl, rfl⟩
    have recorded : (agent.finishKey platform msg key).2.recorded = msg.recorded := by
      rw [kept]
      rfl
    rw [addIntegrity_some, StunAgent.integrityRoom]
    cases (agent.finishKey platform msg key).1 with
    | none => exact ⟨same, recorded, by omega⟩
    | some shaKey =>
      apply Stage.Takes.rebase _ same recorded
      exact putIntegrity_takes platform agent (by omega) (by rw [same.bufferLen]; exact size) shaKey

/-- The checksum takes its room. -/
theorem addFingerprint_takes (agent : StunAgent) (small : msg.recorded < 2 ^ 16)
    (size : msg.bufferLen.toNat ≤ 65535) :
    (agent.addFingerprint msg).Takes msg agent.fingerprintRoom := by
  unfold StunAgent.addFingerprint StunAgent.fingerprintRoom
  split
  · rcases append_words attrFingerprint small (.inl size) (show (4 : UInt64).toNat < 2 ^ 16 by decide)
      (by decide) with ⟨none, room⟩ | ⟨grown, room, done, appended, made, fill⟩
    · rw [none]
      exact room
    · have words : msg.grown 4 = msg.recorded + 8 := grown
      simp only [appended, fill]
      exact filled_takes attrFingerprint (by omega) words _
  · exact ⟨⟨rfl, rfl, rfl⟩, rfl, small⟩

/-! ## The whole -/

/-- The key of the message, or else the one given. -/
def StunMessage.usedKey (msg : StunMessage) (key : Option (List UInt8)) : Option (List UInt8) :=
  if msg.key.isSome then msg.key else key

/-- The number of bytes that finishing a message takes. -/
def StunAgent.finishRoom (platform : Platform) (agent : StunAgent) (msg : StunMessage)
    (key : Option (List UInt8)) : Nat :=
  agent.integrityRoom platform msg (msg.usedKey key) + agent.fingerprintRoom

/-- A request is saved in a slot; other messages need none. -/
def StunAgent.freeSlot (agent : StunAgent) (msg : StunMessage) : Option (Fin 200) :=
  if msg.getClass.value = .request then agent.sentIds.findFinIdx? fun slot => !slot.valid
  else some firstSlot

/-- The stages in order. -/
theorem finishMessage_eq (platform : Platform) (agent : StunAgent) (msg : StunMessage)
    (key : Option (List UInt8)) :
    agent.finishMessage platform msg key =
      match agent.freeSlot msg with
      | none => some ⟨0, msg, agent⟩
      | some slot =>
        match agent.addIntegrity platform msg (msg.usedKey key) with
        | .aborted => none
        | .noRoom msg => some ⟨0, msg, agent⟩
        | .done signed =>
          match agent.addFingerprint signed with
          | .aborted => none
          | .noRoom msg => some ⟨0, msg, agent⟩
          | .done last => some (agent.save last (msg.usedKey key) slot) := rfl

/-- There is no slot, there is no room, or the message is finished. -/
theorem finishMessage_cases (platform : Platform) (agent : StunAgent)
    (small : msg.recorded < 2 ^ 16) (size : msg.bufferLen.toNat ≤ 65535)
    (key : Option (List UInt8)) :
    (∃ last, agent.finishMessage platform msg key = some ⟨0, last, agent⟩ ∧
      (agent.freeSlot msg = none ∨
        msg.bufferLen.toNat < msg.recorded + agent.finishRoom platform msg key)) ∨
    ∃ slot last, agent.freeSlot msg = some slot ∧ msg.SameHead last ∧ last.recorded < 2 ^ 16 ∧
      agent.finishMessage platform msg key = some (agent.save last (msg.usedKey key) slot) := by
  have first := addIntegrity_takes platform agent small size (msg.usedKey key)
  rw [finishMessage_eq]
  cases agent.freeSlot msg with
  | none => exact .inl ⟨msg, rfl, .inl rfl⟩
  | some slot =>
    revert first
    cases agent.addIntegrity platform msg (msg.usedKey key) with
    | aborted => exact fun first => False.elim first
    | noRoom last =>
      intro first
      refine .inl ⟨last, rfl, .inr ?_⟩
      rw [StunAgent.finishRoom, ← Nat.add_assoc]
      exact Nat.lt_add_right _ first
    | done signed =>
      rintro ⟨head, length, short⟩
      have second := addFingerprint_takes agent short (by rw [head.bufferLen]; exact size)
      revert second
      dsimp only
      cases agent.addFingerprint signed with
      | aborted => exact fun second => False.elim second
      | noRoom last =>
        intro second
        refine .inl ⟨last, rfl, .inr ?_⟩
        change signed.bufferLen.toNat < signed.recorded + agent.fingerprintRoom at second
        rw [head.bufferLen, length] at second
        rw [StunAgent.finishRoom]
        omega
      | done last =>
        rintro ⟨tail, _, small⟩
        exact .inr ⟨slot, last, rfl, head.trans tail, small, rfl⟩

end Xice.Stun
