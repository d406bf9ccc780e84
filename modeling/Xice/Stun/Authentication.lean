import Xice.Stun.Validation
import Xice.Stun.Append

/-!
# Authentic messages

When `stun_agent_validate` accepts a message with a key, the digest in MESSAGE-INTEGRITY is right
under that key. What `stun_message_find` returns from such a message lies under the digest.
-/

namespace Xice.Stun

open Xice.Lib Reading Option

variable {platform : Platform} {agent : StunAgent} {msg last : StunMessage}
  {validater : Option Validater}

/-! ## The digest -/

variable {type : StunAttribute} {found : Found} {hash : Nat} {key : List UInt8}
  {saved : Option (Vector UInt8 16)} {ignore : Bool}

/-- A value is found behind the head of its attribute. -/
theorem findLoop_offset {buffer : Mem} {unaligned : Bool} {stop : Nat} (start : Nat)
    (search : (findLoop buffer unaligned type stop start).value = some found) :
    start + 4 ≤ found.offset := by
  by_cases inside : start < stop
  · rw [findLoop_step type inside, value_bind, value_bind, value_ite,
      value_ite] at search
    split at search
    · rw [← some.inj search]
    · split at search
      · exact absurd search (by simp)
      · have grows := attrNext_grows buffer unaligned start
        have later := findLoop_offset (attrNext buffer unaligned start) search
        omega
  · rw [findLoop_stop type (by omega)] at search
    exact absurd search (by simp)
termination_by stop - start

/-- A value lies behind the header and the head of its attribute. -/
theorem find_offset (search : (msg.find type).value = some found) : 24 ≤ found.offset :=
  findLoop_offset 20 search

/-- The bytes under a digest that begins at `hash`: the message up to that attribute, with the
length that it has with the attribute, or in the mode of WLM 2009 with its own length, and zeros up
to a multiple of 64 in the modes of before RFC 5389. -/
def StunAgent.covered (agent : StunAgent) (msg : StunMessage) (hash : Nat) : List UInt8 :=
  let length := if agent.compatibility = .wlm2009 then msg.length.value.toNat - 20 else hash
  let zeros := if agent.compatibility = .rfc5389 then 0 else (64 - (hash - 4) % 64) % 64
  slice msg.buffer 0 2 ++ htons (UInt16.ofNat length) ++ slice msg.buffer 4 (hash - 4) ++
    List.replicate zeros 0

/-- What `stun_sha1` computes for a value that begins at `hash`. -/
theorem value_stunSha1 (platform : Platform) (buffer : Mem) (behind : 24 ≤ hash) (msgLen : Nat)
    (key : List UInt8) (padding : Bool) :
    (stunSha1 platform buffer (hash + 20) msgLen key padding).value =
      some (platform.hmacSha1 key (slice buffer 0 2 ++ htons (UInt16.ofNat msgLen) ++
        slice buffer 4 (hash - 4) ++
        List.replicate (if padding then (64 - (hash - 4) % 64) % 64 else 0) 0)) := by
  have rest : hash + 20 - 28 = hash - 4 - 4 := by omega
  have full : hash + 20 - 24 = hash - 4 := by omega
  have fill : (if padding = true ∧ (hash - 4) % 64 > 0 then
      List.replicate (64 - (hash - 4) % 64) (0 : UInt8) else []) =
        List.replicate (if padding then (64 - (hash - 4) % 64) % 64 else 0) 0 := by
    cases padding with
    | false => rfl
    | true =>
      by_cases more : (hash - 4) % 64 > 0
      · have less : (64 - (hash - 4) % 64) % 64 = 64 - (hash - 4) % 64 := by omega
        rw [if_pos ⟨rfl, more⟩, if_pos rfl, less]
      · rw [if_neg (fun both => more both.2), if_pos rfl, show (hash - 4) % 64 = 0 by omega]
        rfl
  unfold stunSha1
  rw [if_neg (by omega), rest, full, fill]
  rfl

/-- The digest is that of these bytes. -/
theorem value_digest (platform : Platform) (agent : StunAgent) (msg : StunMessage)
    (behind : 24 ≤ hash) (key : List UInt8) :
    (agent.digest platform msg hash key).value =
      some (platform.hmacSha1 key (agent.covered msg hash)) := by
  unfold StunAgent.digest StunAgent.covered
  cases mode : agent.compatibility with
  | rfc3489 | oc2007 | wlm2009 => exact value_stunSha1 platform msg.buffer behind _ key true
  | rfc5389 => exact value_stunSha1 platform msg.buffer behind _ key false

/-! ## The check of the digest -/

/-- The key made of the long-term credentials is kept; nothing else changes. -/
theorem digestKey_kept {shaKey : List UInt8} {kept : StunMessage}
    (made : (agent.digestKey platform msg key saved).value = some (shaKey, kept)) :
    ∃ md5 valid, kept = { msg with longTermKey := md5, longTermValid := valid } := by
  unfold StunAgent.digestKey at made
  split at made
  · split at made
    · rw [value_pure, some.injEq, Prod.mk.injEq] at made
      exact ⟨_, _, made.2.symm⟩
    · simp only [value_bind] at made
      split at made
      · rw [value_bind, value_pure, some.injEq, Prod.mk.injEq] at made
        exact ⟨_, _, made.2.symm⟩
      · exact absurd made (by simp)
  · rw [value_pure, some.injEq, Prod.mk.injEq] at made
    exact ⟨msg.longTermKey, msg.longTermValid, made.2.symm⟩

/-- The key of the digest in a message, which is left with it. -/
structure StunAgent.Verified (platform : Platform) (agent : StunAgent) (msg : StunMessage)
    (saved : Option (Vector UInt8 16)) (key : List UInt8) (hash : Found) (last : StunMessage) :
    Prop where
  positive : 0 < key.length
  found : (msg.find attrMessageIntegrity).value = some hash
  digest : ∃ shaKey kept, (agent.digestKey platform msg key saved).value = some (shaKey, kept) ∧
    (msg.buffer.offset hash.offset).read 20 =
      (platform.hmacSha1 shaKey (agent.covered msg hash.offset)).toList ∧
    last = { kept with key := some key }

/-- How a message passes: its digest is right, or it needs none. -/
theorem checkIntegrity_passed {key : Option (List UInt8)}
    (passed : (agent.checkIntegrity platform msg ignore key saved).value = .passed last) :
    (last = msg ∧ (ignore = true ∨ key.getD [] = [] ∨
      (msg.find attrMessageIntegrity).value = none ∧ msg.isAuthError.value = true)) ∨
    ∃ k hash, key = some k ∧ ignore = false ∧ agent.Verified platform msg saved k hash last := by
  unfold StunAgent.checkIntegrity at passed
  cases key with
  | none => exact .inl ⟨(Integrity.passed.inj passed).symm, .inr (.inl rfl)⟩
  | some key =>
    simp only [value_ite] at passed
    split at passed
    · rename_i checks
      rw [Bool.and_eq_true, decide_eq_true_iff, Bool.not_eq_true'] at checks
      rw [value_bind] at passed
      split at passed
      · rename_i hash found
        rw [value_bind] at passed
        split at passed
        · exact absurd passed (by simp)
        · rename_i shaKey kept made
          obtain ⟨md5, valid, rfl⟩ := digestKey_kept made
          have sha := value_digest platform agent
            { msg with longTermKey := md5, longTermValid := valid } (find_offset found) shaKey
          rw [value_bind, sha] at passed
          change (if (platform.hmacSha1 shaKey (agent.covered msg hash.offset)).toList ≠
            (msg.buffer.offset hash.offset).read 20 then _ else _ : Reading Integrity).value =
              _ at passed
          rw [value_ite] at passed
          split at passed
          · exact absurd passed (by simp)
          · rename_i same
            refine .inr ⟨key, hash, rfl, checks.1, ⟨checks.2, found, shaKey, _, made, ?_, ?_⟩⟩
            · exact (not_not.mp same).symm
            · exact (Integrity.passed.inj passed).symm
      · rename_i none
        rw [value_bind, value_ite] at passed
        split at passed
        · rename_i error
          exact .inl ⟨(Integrity.passed.inj passed).symm, .inr (.inr ⟨none, error⟩)⟩
        · exact absurd passed (by simp)
    · rename_i checks
      refine .inl ⟨(Integrity.passed.inj passed).symm, ?_⟩
      rw [Bool.and_eq_true, decide_eq_true_iff, Bool.not_eq_true', not_and_or] at checks
      rcases checks with ignored | empty
      · exact .inl (by simpa using ignored)
      · exact .inr (.inl (List.length_eq_zero_iff.mp (Nat.eq_zero_of_not_pos empty)))

/-- A message that passes is left where it was. -/
theorem checkIntegrity_kept {key : Option (List UInt8)}
    (passed : (agent.checkIntegrity platform msg ignore key saved).value = .passed last) :
    last.buffer = msg.buffer ∧ last.agent = msg.agent := by
  rcases checkIntegrity_passed passed with ⟨rfl, -⟩ | ⟨k, hash, -, -, verified⟩
  · exact ⟨rfl, rfl⟩
  · obtain ⟨shaKey, before, made, -, rfl⟩ := verified.digest
    obtain ⟨md5, valid, rfl⟩ := digestKey_kept made
    exact ⟨rfl, rfl⟩

/-! ## Credentials -/

/-- The flag, an error that says so, or a request without a key. -/
theorem value_ignoresCredentials (agent : StunAgent) (msg : StunMessage) :
    (agent.ignoresCredentials msg).value =
      (agent.usageFlags.ignoreCredentials || (msg.isAuthError.value ||
        (msg.getClass.value = .indication && agent.usageFlags.noIndicationAuth))) := by
  simp only [StunAgent.ignoresCredentials, value_or, value_pure,
    value_bind]

/-- Only an error response can be one with the code 400 or 401. -/
theorem isAuthError_of_class (kind : msg.getClass.value ≠ .error) :
    msg.isAuthError.value = false := by
  simp only [StunMessage.isAuthError, value_bind, if_neg kind, value_pure]

/-- A request or indication that lacks nothing. -/
theorem found_of_complete (short : agent.usageFlags.shortTermCredentials = true)
    (kind : msg.getClass.value = .request ∨ msg.getClass.value = .indication)
    (complete : (agent.lacksCredentials msg).value = false) :
    (∃ username, (msg.find attrUsername).value = some username) ∧
      ∃ hash, (msg.find attrMessageIntegrity).value = some hash := by
  unfold StunAgent.lacksCredentials at complete
  rw [value_bind, if_pos kind] at complete
  simp only [value_or, value_and, value_pure, short, Bool.true_and,
    Bool.or_eq_false_iff, value_not, Bool.not_eq_false'] at complete
  obtain ⟨⟨username, hash⟩, -⟩ := complete
  exact ⟨isSome_iff_exists.mp username, isSome_iff_exists.mp hash⟩

/-- The validater is called with the USERNAME when a key is needed. -/
theorem called_of_hash {hash : Found} {key : Option (List UInt8)}
    (found : (msg.find attrMessageIntegrity).value = some hash)
    (called : (agent.callValidater msg validater false none).value = some key) :
    ∃ v, validater = some v ∧
      v agent msg ((msg.find attrUsername).value.map msg.bytesOf) none = some key := by
  have there : (msg.hasAttribute attrMessageIntegrity).value = true := by
    change (msg.find attrMessageIntegrity).value.isSome = true
    rw [found]
    rfl
  unfold StunAgent.callValidater at called
  rw [value_bind, value_and, there] at called
  change (validater.bind fun v =>
    v agent msg ((msg.find attrUsername).value.map msg.bytesOf) none) = some key at called
  exact bind_eq_some_iff.mp called

/-- The validater is not called when a key is saved. -/
theorem called_of_key {result : Option (List UInt8)}
    (free : agent.usageFlags.forceValidater = false)
    (called : (agent.callValidater msg validater ignore (some key)).value = some result) :
    result = some key := by
  unfold StunAgent.callValidater at called
  rw [value_bind, value_and, free] at called
  simp only [isNone_some, Bool.false_and, Bool.or_false, value_pure,
    Bool.and_false, Bool.false_eq_true, if_false] at called
  exact (some.inj called).symm

/-- Without long-term credentials the digest is under the key. -/
theorem StunAgent.Verified.digest_eq {hash : Found}
    (verified : agent.Verified platform msg saved key hash last)
    (short : agent.usageFlags.longTermCredentials = false) :
    (msg.buffer.offset hash.offset).read 20 =
      (platform.hmacSha1 key (agent.covered msg hash.offset)).toList := by
  obtain ⟨shaKey, kept, made, same, -⟩ := verified.digest
  unfold StunAgent.digestKey at made
  rw [short] at made
  rw [same, (Prod.mk.inj (some.inj made)).1]

variable {result : Validation} {buffer : Mem} {bufferLen : UInt64}

/-- A request that is accepted with short-term credentials. -/
theorem request_digest (short : agent.usageFlags.shortTermCredentials = true)
    (notLong : agent.usageFlags.longTermCredentials = false)
    (checks : agent.usageFlags.ignoreCredentials = false)
    (keyed : ∀ v, validater = some v → ∀ agent msg username old key,
      v agent msg username old = some key → ∃ k, key = some k ∧ k ≠ [])
    (done : (agent.validate platform msg buffer bufferLen validater).value = some result)
    (accepted : ¬result.status.IsRefusal)
    (kind : (agent.adopt msg buffer bufferLen).getClass.value = .request) :
    ∃ v username hash key, validater = some v ∧
      ((agent.adopt msg buffer bufferLen).find attrUsername).value = some username ∧
      ((agent.adopt msg buffer bufferLen).find attrMessageIntegrity).value = some hash ∧
      v agent (agent.adopt msg buffer bufferLen)
        (some ((agent.adopt msg buffer bufferLen).bytesOf username)) none = some (some key) ∧
      (buffer.offset hash.offset).read 20 = (platform.hmacSha1 key
        (agent.covered (agent.adopt msg buffer bufferLen) hash.offset)).toList := by
  obtain ⟨slot, key, last, -, enters, passes, -⟩ := accepted_of_validate done accepted
  have none : slot = none := by
    have unmatched : (agent.matchSent (agent.adopt msg buffer bufferLen)).value = some none := by
      rw [matchSent_eq_none, kind]
      decide
    exact some.inj (enters.sent.symm.trans unmatched)
  subst none
  have ignore : (agent.ignoresCredentials (agent.adopt msg buffer bufferLen)).value = false := by
    rw [value_ignoresCredentials, checks, isAuthError_of_class (by rw [kind]; decide), kind]
    rfl
  obtain ⟨⟨username, name⟩, hash, found⟩ :=
    found_of_complete short (.inl kind) (passes.complete rfl ignore)
  have call := passes.called
  rw [ignore] at call
  obtain ⟨v, given, returned⟩ := called_of_hash found call
  rw [name] at returned
  obtain ⟨k, rfl, filled⟩ := keyed v given _ _ _ _ _ returned
  have passed := passes.checked
  rw [ignore] at passed
  rcases checkIntegrity_passed passed with ⟨-, never | empty | ⟨missing, -⟩⟩ |
    ⟨_, _, same, -, verified⟩
  · exact absurd never (by simp)
  · exact absurd empty filled
  · rw [found] at missing
    exact absurd missing (by simp)
  · obtain rfl := some.inj same
    have there := verified.found
    rw [found, some.injEq] at there
    subst there
    exact ⟨v, username, hash, k, given, name, found, returned, verified.digest_eq notLong⟩

/-- An answer that is accepted with short-term credentials. -/
theorem answer_digest (notLong : agent.usageFlags.longTermCredentials = false)
    (checks : agent.usageFlags.ignoreCredentials = false)
    (free : agent.usageFlags.forceValidater = false)
    (done : (agent.validate platform msg buffer bufferLen validater).value = some result)
    (accepted : ¬result.status.IsRefusal) {slot : Fin 200}
    (answers : agent.Answers (agent.adopt msg buffer bufferLen) slot)
    (saved : (agent.sent slot).key = some key) (filled : key ≠ [])
    (other : (agent.adopt msg buffer bufferLen).isAuthError.value = false) :
    ∃ hash, ((agent.adopt msg buffer bufferLen).find attrMessageIntegrity).value = some hash ∧
      (buffer.offset hash.offset).read 20 = (platform.hmacSha1 key
        (agent.covered (agent.adopt msg buffer bufferLen) hash.offset)).toList := by
  obtain ⟨found, final, last, -, enters, passes, -⟩ := accepted_of_validate done accepted
  have same : found = some slot :=
    some.inj (enters.sent.symm.trans (matchSent_eq_some.mpr answers))
  subst same
  have ignore : (agent.ignoresCredentials (agent.adopt msg buffer bufferLen)).value = false := by
    rw [value_ignoresCredentials, checks, other]
    rcases answers.kind with response | error
    · rw [response]; rfl
    · rw [error]; rfl
  have kept : agent.savedKey (some slot) = some key := saved
  have call := passes.called
  rw [kept] at call
  obtain rfl := called_of_key free call
  have passed := passes.checked
  rw [ignore] at passed
  rcases checkIntegrity_passed passed with ⟨-, never | empty | ⟨-, error⟩⟩ |
    ⟨k, hash, same, -, verified⟩
  · exact absurd never (by simp)
  · exact absurd empty filled
  · rw [other] at error
    exact absurd error (by simp)
  · obtain rfl := some.inj same
    exact ⟨hash, verified.found, verified.digest_eq notLong⟩

/-- With short-term credentials, a request is accepted only when its digest is right under the key
that the validater returned for its USERNAME, and an answer only when its digest is right under the
key of the request, unless it is an error with the code 400 or 401. -/
theorem digest_of_validate
    (short : agent.usageFlags.shortTermCredentials = true)
    (notLong : agent.usageFlags.longTermCredentials = false)
    (checks : agent.usageFlags.ignoreCredentials = false)
    (free : agent.usageFlags.forceValidater = false)
    (keyed : ∀ v, validater = some v → ∀ agent msg username old key,
      v agent msg username old = some key → ∃ k, key = some k ∧ k ≠ [])
    (done : (agent.validate platform msg buffer bufferLen validater).value = some result) :
    let received := agent.adopt msg buffer bufferLen
    (received.getClass.value = .request →
      result.status = .success ∨ result.status = .unknownRequestAttribute →
      ∃ v username hash key, validater = some v ∧
        (received.find attrUsername).value = some username ∧
        (received.find attrMessageIntegrity).value = some hash ∧
        v agent received (some (received.bytesOf username)) none = some (some key) ∧
        (buffer.offset hash.offset).read 20 =
          (platform.hmacSha1 key (agent.covered received hash.offset)).toList) ∧
    ∀ slot key, agent.Answers received slot → (agent.sent slot).key = some key → key ≠ [] →
      result.status = .success ∨ result.status = .unknownAttribute →
      received.isAuthError.value = false →
      ∃ hash, (received.find attrMessageIntegrity).value = some hash ∧
        (buffer.offset hash.offset).read 20 =
          (platform.hmacSha1 key (agent.covered received hash.offset)).toList := by
  intro received
  constructor
  · intro kind status
    apply request_digest short notLong checks keyed done _ kind
    rcases status with same | same <;> (rw [same]; decide)
  · intro slot key answers saved filled status other
    apply answer_digest notLong checks free done _ answers saved filled other
    rcases status with same | same <;> (rw [same]; decide)

/-- Short-term credentials; USERNAME and MESSAGE-INTEGRITY are known. -/
def shortTermAgent : StunAgent :=
  StunAgent.init freeSlots [attrUsername, attrMessageIntegrity] .rfc3489
    { shortTermCredentials := true }

/-- A Binding request with a USERNAME of one byte and a digest of zeros. -/
def signedRequest : List UInt8 :=
  [0, 1, 0, 32] ++ List.replicate 16 0 ++ [0, 6, 0, 1, 97, 0, 0, 0] ++ [0, 8, 0, 20] ++
    List.replicate 20 0

/-- Its validation, with a validater that returns one key. -/
def signedValidation : Reading (Option Validation) :=
  shortTermAgent.validate zeroPlatform (blankMessage 0) (Mem.ofList signedRequest) 52
    (some fun _ _ _ _ => some (some [1]))

/-- It is accepted, with the digest that belongs to the key. -/
theorem digest_of_validate_signed :
    (∃ result, signedValidation.value = some result ∧ result.status = .success) ∧
      ∃ hash : Found, ((Mem.ofList signedRequest).offset hash.offset).read 20 =
        (zeroPlatform.hmacSha1 [1] (shortTermAgent.covered
          (shortTermAgent.adopt (blankMessage 0) (Mem.ofList signedRequest) 52)
          hash.offset)).toList := by
  have status : signedValidation.value.map Validation.status = some .success := by
    decide +kernel
  obtain ⟨result, done, success⟩ := map_eq_some_iff.mp status
  refine ⟨⟨result, done, success⟩, ?_⟩
  have both := digest_of_validate
    (show shortTermAgent.usageFlags.shortTermCredentials = true from rfl) rfl rfl rfl
    (fun v same agent msg username old key returned => by
      obtain rfl := some.inj same
      exact ⟨[1], (some.inj returned).symm, by simp⟩) done
  obtain ⟨v, username, hash, key, same, -, -, returned, digest⟩ :=
    both.1 (by decide +kernel) (.inl success)
  obtain rfl := some.inj same
  obtain rfl := some.inj (some.inj returned)
  exact ⟨hash, digest⟩

/-! ## What the digest covers -/

/-- A buffer of at most 65535 bytes is accepted, and the checked MESSAGE-INTEGRITY begins at `hash`.
-/
structure StunAgent.Secures (platform : Platform) (agent : StunAgent) (buffer : Mem) (hash : Nat)
    (result : Validation) : Prop where
  done : ∃ msg validater, ∃ bufferLen : UInt64, bufferLen.toNat ≤ 65535 ∧
    (agent.validate platform msg buffer bufferLen validater).value = some result
  success : result.status = .success
  keyed : result.msg.key ≠ none
  found : ∃ len, (result.msg.find attrMessageIntegrity).value = some ⟨hash, len⟩

/-- What is left of such a buffer. -/
theorem StunAgent.Secures.left (secures : agent.Secures platform buffer hash result) :
    result.msg.buffer = buffer ∧ result.msg.agent = some agent.toStunDialect ∧
      result.msg.recorded < 2 ^ 16 ∧
      ∃ offsets, Laid buffer agent.usageFlags.noAlignedAttributes result.msg.recorded offsets := by
  obtain ⟨msg, validater, bufferLen, small, done⟩ := secures.done
  have accepted : ¬result.status.IsRefusal := by
    rw [secures.success]
    decide
  obtain ⟨slot, key, last, sized, -, passes, rfl⟩ := accepted_of_validate done accepted
  have size := sized.accepted.complete
  have kept : last.buffer = buffer ∧ last.agent = some agent.toStunDialect :=
    checkIntegrity_kept passes.checked
  have recorded : last.recorded = (ntohs buffer 2).toNat + 20 := by
    rw [StunMessage.recorded, kept.1]
  refine ⟨kept.1, kept.2, ?_, ?_⟩
  · change last.recorded < 2 ^ 16
    omega
  · change ∃ offsets, Laid buffer _ last.recorded offsets
    rw [recorded]
    exact sized.laid

/-- Types other than MESSAGE-INTEGRITY and FINGERPRINT. -/
def Ordinary (type : StunAttribute) : Prop :=
  type ≠ attrMessageIntegrity ∧ type ≠ attrFingerprint

instance (type : StunAttribute) : Decidable (Ordinary type) :=
  inferInstanceAs (Decidable (_ ∧ _))

/-- MS-TURN does not swap MESSAGE-INTEGRITY and FINGERPRINT. -/
theorem Ordinary.wireType (ordinary : Ordinary type) (msg : StunMessage) :
    Ordinary (msg.wireType type) := by
  unfold StunMessage.wireType
  split
  · split
    · decide
    · split
      · decide
      · exact ordinary
  · exact ordinary

/-- What is found lies in a chain of attributes up to MESSAGE-INTEGRITY. -/
theorem lookups_front {offsets : List Nat}
    (laid : Laid msg.buffer msg.unaligned msg.recorded offsets) (small : msg.recorded < 2 ^ 16)
    {hash : Found} (found : (msg.find attrMessageIntegrity).value = some hash) :
    ∃ front, Chain (attrNext msg.buffer msg.unaligned) 20 (hash.offset - 4) front ∧
      ntohs msg.buffer (hash.offset - 4) = attrMessageIntegrity ∧
      ∀ type, Ordinary type → (msg.find type).value =
        (visible (ntohs msg.buffer) (msg.wireType type) front).map
          fun offset => ⟨offset + 4, ntohs msg.buffer (offset + 2)⟩ := by
  have kept : msg.wireType attrMessageIntegrity = attrMessageIntegrity := by
    unfold StunMessage.wireType
    split <;> rfl
  rw [value_find _ laid small, kept] at found
  obtain ⟨offset, seen, rfl⟩ := map_eq_some_iff.mp found
  obtain ⟨member, type⟩ := visible_eq_some _ _ seen
  obtain ⟨front, back, rfl⟩ := List.append_of_mem member
  refine ⟨front, laid.cut.1, type, ?_⟩
  intro sought ordinary
  have wire := ordinary.wireType msg
  rw [value_find _ laid small, visible_hidden]
  · rw [type]
    exact wire.1.symm
  · rw [type, hides]
    simp [wire.2]

/-- So it does in a message that is secured. -/
theorem StunAgent.Secures.chain (secures : agent.Secures platform buffer hash result) :
    ∃ offsets, Chain (attrNext buffer agent.usageFlags.noAlignedAttributes) 20 (hash - 4) offsets ∧
      ∀ type, Ordinary type → (result.msg.find type).value =
        (visible (ntohs buffer) (result.msg.wireType type) offsets).map
          fun offset => ⟨offset + 4, ntohs buffer (offset + 2)⟩ := by
  obtain ⟨rfl, dialect, small, offsets, laid⟩ := secures.left
  obtain ⟨len, found⟩ := secures.found
  have mode : result.msg.unaligned = agent.usageFlags.noAlignedAttributes := by
    rw [StunMessage.unaligned, dialect]
    rfl
  rw [← mode] at laid ⊢
  obtain ⟨front, chain, -, finds⟩ := lookups_front laid small found
  exact ⟨front, chain, finds⟩

/-- Two messages agree under the digest, up to the length. -/
def Agree (buffer other : Mem) (hash : Nat) : Prop :=
  ∀ index, index < 2 ∨ 4 ≤ index ∧ index < hash - 4 → buffer index = other index

/-- The attributes under the digest lie at the same offsets. -/
theorem Agree.chain {other : Mem} {unaligned : Bool} {offsets more : List Nat}
    (agree : Agree buffer other hash)
    (chain : Chain (attrNext buffer unaligned) 20 (hash - 4) offsets)
    (same : Chain (attrNext other unaligned) 20 (hash - 4) more) :
    offsets = more ∧ ∀ offset ∈ offsets, ntohs buffer offset = ntohs other offset ∧
      ntohs buffer (offset + 2) = ntohs other (offset + 2) := by
  have words : ∀ offset ∈ offsets, ntohs buffer offset = ntohs other offset ∧
      ntohs buffer (offset + 2) = ntohs other (offset + 2) := by
    intro offset member
    obtain ⟨low, high⟩ := chain.inside (attrNext_grows buffer unaligned) offset member
    have head : offset + 4 ≤ attrNext buffer unaligned offset := Nat.le_add_right _ _
    constructor <;> exact ntohs_congr (agree _ (by omega)) (agree _ (by omega))
  refine ⟨?_, words⟩
  have moved : Chain (attrNext other unaligned) 20 (hash - 4) offsets := by
    apply chain.congr
    intro offset member
    rw [attrNext, attrNext, (words offset member).2]
  exact moved.unique same (attrNext_grows other unaligned)

/-- What is found lies under the digest. -/
theorem StunAgent.Secures.inside (secures : agent.Secures platform buffer hash result)
    (ordinary : Ordinary type) (search : (result.msg.find type).value = some found) :
    24 ≤ found.offset ∧ found.offset + found.len.toNat ≤ hash - 4 := by
  obtain ⟨offsets, chain, finds⟩ := secures.chain
  rw [finds type ordinary] at search
  obtain ⟨offset, seen, rfl⟩ := map_eq_some_iff.mp search
  obtain ⟨low, high⟩ :=
    chain.inside (attrNext_grows buffer _) offset (visible_eq_some _ _ seen).1
  rw [attrNext, stride_eq] at high
  change 24 ≤ offset + 4 ∧ offset + 4 + (ntohs buffer (offset + 2)).toNat ≤ hash - 4
  omega

/-- Whatever is found in a message whose digest was checked lies under the digest, and two such
messages that agree there have one class, method and transaction id and give the same for every
look-up. -/
theorem lookups_of_digest {hash : Nat} (secures : agent.Secures platform buffer hash result) :
    (∀ type, Ordinary type → ∀ found, (result.msg.find type).value = some found →
      24 ≤ found.offset ∧ found.offset + found.len.toNat ≤ hash - 4) ∧
    ∀ other otherResult, agent.Secures platform other hash otherResult →
      Agree buffer other hash →
      result.msg.getClass.value = otherResult.msg.getClass.value ∧
      result.msg.getMethod.value = otherResult.msg.getMethod.value ∧
      result.msg.id.value = otherResult.msg.id.value ∧
      ∀ type, Ordinary type →
        (result.msg.find type).value = (otherResult.msg.find type).value ∧
        (result.msg.find type).value.map result.msg.bytesOf =
          (otherResult.msg.find type).value.map otherResult.msg.bytesOf := by
  refine ⟨fun type ordinary found search => secures.inside ordinary search, ?_⟩
  intro other otherResult others agree
  obtain ⟨here, dialect, -, -⟩ := secures.left
  obtain ⟨there, otherDialect, -, -⟩ := others.left
  obtain ⟨offsets, chain, finds⟩ := secures.chain
  obtain ⟨otherOffsets, otherChain, otherFinds⟩ := others.chain
  have header : 20 ≤ hash - 4 := chain.le (attrNext_grows buffer _)
  obtain ⟨rfl, words⟩ := agree.chain chain otherChain
  have type : ntohs result.msg.buffer 0 = ntohs otherResult.msg.buffer 0 := by
    rw [here, there]
    exact ntohs_congr (agree 0 (by omega)) (agree 1 (by omega))
  have found : ∀ type, Ordinary type →
      (result.msg.find type).value = (otherResult.msg.find type).value := by
    intro type ordinary
    have wire : result.msg.wireType type = otherResult.msg.wireType type := by
      rw [StunMessage.wireType, StunMessage.wireType, dialect, otherDialect]
    have seen : visible (ntohs buffer) (otherResult.msg.wireType type) offsets =
        visible (ntohs other) (otherResult.msg.wireType type) offsets := by
      apply visible_congr
      · intro offset member
        rw [(words offset member).1]
      · intro offset member
        rw [(words offset member).1]
    rw [finds type ordinary, otherFinds type ordinary, wire, seen]
    apply Option.map_congr
    intro offset member
    rw [(words offset (visible_eq_some _ _ member).1).2]
  refine ⟨?_, ?_, ?_, ?_⟩
  · exact getClass_congr type
  · exact getMethod_congr type
  · change Vector.ofFn _ = Vector.ofFn _
    congr 1
    funext index
    rw [here, there]
    exact agree _ (by omega)
  · intro type ordinary
    refine ⟨found type ordinary, ?_⟩
    rw [← found type ordinary]
    apply Option.map_congr
    intro value search
    obtain ⟨low, high⟩ := secures.inside ordinary search
    apply Mem.read_congr
    intro index inside
    rw [Mem.offset_apply, Mem.offset_apply, here, there]
    exact agree _ (by omega)

/-- The USERNAME of the signed request lies under its digest. -/
theorem lookups_of_digest_signed :
    ∃ result, shortTermAgent.Secures zeroPlatform (Mem.ofList signedRequest) 32 result ∧
      (result.msg.find attrUsername).value = some ⟨24, 1⟩ ∧
      24 + (1 : UInt16).toNat ≤ 32 - 4 := by
  have facts : signedValidation.value.map (fun result => (result.status, result.msg.key,
      (result.msg.find attrMessageIntegrity).value, (result.msg.find attrUsername).value)) =
        some (.success, some [1], some ⟨32, 20⟩, some ⟨24, 1⟩) := by
    decide +kernel
  obtain ⟨result, done, same⟩ := map_eq_some_iff.mp facts
  simp only [Prod.mk.injEq] at same
  obtain ⟨success, keyed, found, username⟩ := same
  have secures : shortTermAgent.Secures zeroPlatform (Mem.ofList signedRequest) 32 result := by
    constructor
    · exact ⟨_, _, 52, by decide, done⟩
    · exact success
    · rw [keyed]
      simp
    · exact ⟨20, found⟩
  exact ⟨result, secures, username,
    ((lookups_of_digest secures).1 attrUsername (by decide) _ username).2⟩

end Xice.Stun
