import Xice.Stun.Trim
import Xice.Stun.Unknowns

/-!
# What validation reads

All reads of `stun_agent_validate` stay inside the buffer, except for the walk over unpadded
attributes when one to three bytes are left, the digest of a MESSAGE-INTEGRITY that is too short,
and a USERNAME or REALM of which nothing is left when it is trimmed.
-/

namespace Xice.Stun

open Xice.Lib Reading Option

variable {platform : Platform} {agent : StunAgent} {msg : StunMessage} {size : Nat}
  {validater : Option Validater} {slot : Option (Fin 200)}

/-! ## Look-ups -/

/-- A header and attributes below an index. -/
structure StunMessage.Lies (msg : StunMessage) (size : Nat) : Prop where
  laid : ∃ offsets, Laid msg.buffer msg.unaligned msg.recorded offsets
  inside : msg.recorded ≤ size

variable {type : StunAttribute} {hash : Found}

namespace StunMessage.Lies

variable (lies : msg.Lies size)

include lies

/-- The header is there. -/
theorem header : 20 ≤ size :=
  Nat.le_trans (Nat.le_add_left _ _) lies.inside

/-- Its words lie in it. -/
theorem below_stunGetw {i : Nat} (early : i + 2 ≤ 20) : (stunGetw msg.buffer i).Below size :=
  below_look.mpr (.inr (Nat.le_trans early lies.header))

/-- The class is read there. -/
theorem below_getClass : msg.getClass.Below size := by
  simp [StunMessage.getClass, lies.below_stunGetw]

/-- The method is read there. -/
theorem below_getMethod : msg.getMethod.Below size := by
  simp [StunMessage.getMethod, lies.below_stunGetw]

/-- The length is read there. -/
theorem below_length : msg.length.Below size := by
  simp [StunMessage.length, lies.below_stunGetw]

/-- The id is read there. -/
theorem below_id : msg.id.Below size :=
  below_look.mpr (.inr lies.header)

/-- So is the cookie. -/
theorem below_hasCookie : msg.hasCookie.Below size := by
  simp [StunMessage.hasCookie, lies.below_id]

/-- A look-up reads the length and heads of attributes. -/
theorem below_find (type : StunAttribute) : (msg.find type).Below size := by
  have header := lies.header
  by_cases small : msg.recorded < 2 ^ 16
  · obtain ⟨offsets, laid⟩ := lies.laid
    have length : msg.length.value.toNat = msg.recorded := by
      rw [toNat_length, Nat.mod_eq_of_lt small]
    rw [StunMessage.find, below_bind, length]
    exact ⟨lies.below_length, (below_findLoop _ laid).mono lies.inside⟩
  · rw [find_large type (by omega), below_bind, below_look]
    exact ⟨.inr (by omega), below_pure _ _⟩

/-- So does a test for an attribute. -/
theorem below_hasAttribute (type : StunAttribute) : (msg.hasAttribute type).Below size := by
  simp [StunMessage.hasAttribute, lies.below_find]

/-- Values lie in the message. -/
theorem found {found : Found} (search : (msg.find type).value = some found) :
    msg.recorded < 2 ^ 16 ∧ 24 ≤ found.offset ∧
      found.offset + found.len.toNat ≤ msg.recorded := by
  by_cases small : msg.recorded < 2 ^ 16
  · obtain ⟨offsets, laid⟩ := lies.laid
    rw [value_find type laid small] at search
    obtain ⟨offset, seen, rfl⟩ := map_eq_some_iff.mp search
    obtain ⟨low, high⟩ :=
      laid.inside (attrNext_grows msg.buffer _) offset (visible_eq_some _ _ seen).1
    rw [attrNext, stride_eq] at high
    refine ⟨small, ?_, ?_⟩
    · change 24 ≤ offset + 4
      omega
    · change offset + 4 + (ntohs msg.buffer (offset + 2)).toNat ≤ msg.recorded
      omega
  · rw [find_large type (by omega)] at search
    exact absurd search (by simp)

/-- A number lies there. -/
theorem below_find32 (type : StunAttribute) : (msg.find32 type).Below size := by
  have inside := lies.inside
  rw [StunMessage.find32, below_bind]
  refine ⟨lies.below_find type, ?_⟩
  cases search : (msg.find type).value with
  | none => exact below_pure _ _
  | some found =>
    have place := lies.found search
    suffices four : found.len = 4 → found.offset + 4 ≤ size by simpa
    intro four
    rw [four] at place
    change _ ∧ _ ∧ found.offset + 4 ≤ msg.recorded at place
    omega

/-- An error code lies there. -/
theorem below_findError : msg.findError.Below size := by
  have inside := lies.inside
  rw [StunMessage.findError, below_bind]
  refine ⟨lies.below_find _, ?_⟩
  cases search : (msg.find attrErrorCode).value with
  | none => exact below_pure _ _
  | some found =>
    have place := lies.found search
    suffices large : 4 ≤ found.len → found.offset + 4 ≤ size by simpa
    intro large
    have four : 4 ≤ found.len.toNat := UInt16.le_iff_toNat_le.mp large
    omega

end StunMessage.Lies

/-! ## The stages -/

/-- A 32-bit attribute that is found has four bytes. -/
theorem find32_ok {word : UInt32} (known : (msg.find32 type).value = .ok word) :
    ∃ found, (msg.find type).value = some found ∧ found.len = 4 := by
  rw [StunMessage.find32, value_bind] at known
  split at known
  · exact absurd known (by simp)
  · rename_i found search
    rw [value_ite] at known
    split at known
    · rename_i four
      exact ⟨found, search, four⟩
    · exact absurd known (by simp)

namespace StunMessage.Lies

variable (lies : msg.Lies size)

include lies

/-- The checksum is read there. -/
theorem below_checkFingerprint (agent : StunAgent) : (agent.checkFingerprint msg).Below size := by
  have inside := lies.inside
  rw [StunAgent.checkFingerprint, below_bind]
  refine ⟨lies.below_find32 _, ?_⟩
  cases known : (msg.find32 attrFingerprint).value with
  | error => exact below_pure _ _
  | ok fpr =>
    obtain ⟨found, search, four⟩ := find32_ok known
    obtain ⟨small, low, high⟩ := lies.found search
    have whole : (msg.length.value.toUInt64 - 12).toNat = msg.recorded - 12 := by
      have length : msg.length.value.toUInt64.toNat = msg.recorded := by
        rw [UInt16.toNat_toUInt64, toNat_length, Nat.mod_eq_of_lt small]
      rw [UInt64.toNat_sub_of_le, length]
      · rfl
      · rw [UInt64.le_iff_toNat_le, length]
        change 12 ≤ msg.recorded
        omega
    simp only [below_bind, stunFingerprint, below_look, whole]
    refine ⟨lies.below_length, ⟨.inr (by omega), .inr (by omega), below_pure _ _⟩,
      below_pure _ _⟩

/-- A transaction is looked for there. -/
theorem below_matchSent (agent : StunAgent) : (agent.matchSent msg).Below size := by
  simp only [StunAgent.matchSent, below_bind, below_ite, lies.below_getClass,
    lies.below_id, lies.below_getMethod, true_and, below_pure, implies_true, and_true]
  intro _
  split <;> simp

/-- An error is looked at there. -/
theorem below_isAuthError : msg.isAuthError.Below size := by
  simp only [StunMessage.isAuthError, below_bind, below_ite, lies.below_getClass,
    lies.below_findError, true_and, below_pure, implies_true, and_true]
  intro _
  split <;> simp

/-- So is what makes credentials needless. -/
theorem below_ignoresCredentials (agent : StunAgent) :
    (agent.ignoresCredentials msg).Below size := by
  simp [StunAgent.ignoresCredentials, lies.below_isAuthError, lies.below_getClass]

/-- So is what lacks. -/
theorem below_lacksCredentials (agent : StunAgent) : (agent.lacksCredentials msg).Below size := by
  simp [StunAgent.lacksCredentials, lies.below_getClass, lies.below_hasAttribute]

/-- The validater is given a name there. -/
theorem below_callValidater (agent : StunAgent)
    (validater : Option Validater) (ignore : Bool) (key : Option (List UInt8)) :
    (agent.callValidater msg validater ignore key).Below size := by
  simp [StunAgent.callValidater, lies.below_hasAttribute, lies.below_find]

/-- Unknown types are read there. -/
theorem below_findUnknowns
    (mode : msg.unaligned = agent.usageFlags.noAlignedAttributes) (room : Nat) :
    (agent.findUnknowns msg room).Below size := by
  rw [StunAgent.findUnknowns, below_bind]
  refine ⟨lies.below_length, ?_⟩
  by_cases small : msg.recorded < 2 ^ 16
  · obtain ⟨offsets, laid⟩ := lies.laid
    rw [mode] at laid
    rw [toNat_length, Nat.mod_eq_of_lt small]
    exact (below_findUnknownsLoop laid room).mono lies.inside
  · have bound := (ntohs msg.buffer 2).toNat_lt
    have short : msg.length.value.toNat ≤ 20 := by
      rw [toNat_length]
      have recorded : msg.recorded = (ntohs msg.buffer 2).toNat + 20 := rfl
      omega
    rw [findUnknownsLoop_stop (by omega)]
    exact below_pure _ _

/-- The end stays there. -/
theorem below_conclude
    (mode : msg.unaligned = agent.usageFlags.noAlignedAttributes) (slot : Option (Fin 200)) :
    (agent.conclude msg slot).Below size := by
  have stages : agent.conclude msg slot =
      (agent.over slot).findUnknowns msg 1 >>= fun unknown =>
        if unknown.length > 0 then msg.getClass >>= fun c =>
          if c = .request then pure ⟨.unknownRequestAttribute, msg, agent.over slot⟩
          else pure ⟨.unknownAttribute, msg, agent.over slot⟩
        else pure ⟨.success, msg, agent.over slot⟩ := rfl
  have same : msg.unaligned = (agent.over slot).usageFlags.noAlignedAttributes := by
    cases slot with
    | none | some => exact mode
  rw [stages]
  simp [lies.below_findUnknowns same, lies.below_getClass]

/-! ## The digest -/

/-- The digest is computed there. -/
theorem below_digest
    (found : (msg.find attrMessageIntegrity).value = some hash) (platform : Platform)
    (agent : StunAgent) (key : List UInt8) :
    (agent.digest platform msg hash.offset key).Below size := by
  have inside := lies.inside
  obtain ⟨-, low, high⟩ := lies.found found
  have covered (msgLen : Nat) (padding : Bool) :
      (stunSha1 platform msg.buffer (hash.offset + 20) msgLen key padding).Below size := by
    rw [stunSha1, if_neg (by omega), below_bind, below_bind, below_look,
      below_look]
    exact ⟨.inr (by omega), .inr (by omega), below_pure _ _⟩
  unfold StunAgent.digest
  split
  · exact covered _ _
  · exact covered _ _
  · exact below_bind.mpr ⟨lies.below_length, covered _ _⟩
  · exact covered _ _

end StunMessage.Lies

/-- A value before MESSAGE-INTEGRITY has a zero behind it, which begins the type of
MESSAGE-INTEGRITY. -/
theorem StunMessage.Lies.framed (lies : msg.Lies size) {found : Found}
    (digest : (msg.find attrMessageIntegrity).value = some hash) (ordinary : Ordinary type)
    (search : (msg.find type).value = some found) (clean : ¬Junk (msg.wireType type).toUInt8) :
    Framed msg.buffer found (hash.offset - 4) := by
  obtain ⟨small, behind, high⟩ := lies.found digest
  obtain ⟨offsets, laid⟩ := lies.laid
  obtain ⟨front, chain, type, finds⟩ := lookups_front laid small digest
  rw [finds _ ordinary] at search
  obtain ⟨offset, seen, rfl⟩ := map_eq_some_iff.mp search
  obtain ⟨member, same⟩ := visible_eq_some _ _ seen
  obtain ⟨low, next⟩ := chain.inside (attrNext_grows msg.buffer _) offset member
  rw [attrNext, stride_eq] at next
  have zero := toNat_ntohs msg.buffer (hash.offset - 4)
  rw [type] at zero
  change 8 = _ at zero
  constructor
  · exact Nat.le_add_left _ _
  · change ¬Junk (msg.buffer (offset + 1))
    rw [ntohs_low msg.buffer offset, same]
    exact clean
  · have length : msg.buffer (offset + 3) = (ntohs msg.buffer (offset + 2)).toUInt8 :=
      ntohs_low msg.buffer (offset + 2)
    change (msg.buffer (offset + 3)).toNat = (ntohs msg.buffer (offset + 2)).toNat % 256
    rw [length, UInt16.toNat_toUInt8]
  · change offset + 4 + (ntohs msg.buffer (offset + 2)).toNat ≤ _
    omega
  · rw [← UInt8.toNat_inj]
    change _ = 0
    omega
  · omega

/-- The type of a REALM does not end in a quote or a zero. -/
theorem clean_realm (msg : StunMessage) : ¬Junk (msg.wireType attrRealm).toUInt8 := by
  unfold StunMessage.wireType
  split <;> decide

/-- The type of USERNAME is no junk. -/
theorem clean_username (msg : StunMessage) : ¬Junk (msg.wireType attrUsername).toUInt8 := by
  unfold StunMessage.wireType
  split <;> decide

/-- Something is left of the credentials that are hashed. -/
def StunAgent.TrimsCredentials (agent : StunAgent) (msg : StunMessage)
    (saved : Option (Vector UInt8 16)) : Prop :=
  agent.usageFlags.longTermCredentials = true → saved = none →
    ∀ realm username, (msg.find attrRealm).value = some realm →
      (msg.find attrUsername).value = some username →
      Trims msg.buffer realm ∧ Trims msg.buffer username

/-- The hash is computed inside the message exactly then. -/
theorem below_hashCreds {realm username : Found} {behind : Nat}
    (framedRealm : Framed msg.buffer realm behind)
    (framedUsername : Framed msg.buffer username behind) (inside : behind < size)
    (bound : size + 2 ^ 18 < 2 ^ 64) (key : List UInt8) :
    (msg.hashCreds platform realm username key).Below size ↔
      Trims msg.buffer realm ∧ Trims msg.buffer username := by
  have first := below_privTrimVar framedUsername inside bound
  have second := below_privTrimVar framedRealm inside bound
  have stages : msg.hashCreds platform realm username key =
      (privTrimVar msg.buffer username.offset username.len.toUInt64 >>= fun name =>
        privTrimVar msg.buffer realm.offset realm.len.toUInt64 >>= fun place =>
          look name.1 name.2.toNat () >>= fun _ =>
            look place.1 place.2.toNat () >>= fun _ =>
              pure (platform.hashCreds (msg.bytesOf realm) (msg.bytesOf username) key)) := rfl
  rw [stages, below_bind, below_bind, below_bind, below_bind,
    first.2, second.2]
  constructor
  · rintro ⟨_, _, name, place, _⟩
    exact ⟨place, name⟩
  · rintro ⟨place, name⟩
    exact ⟨first.1, second.1, name, place, below_pure _ _⟩

/-- So is the key of the digest. -/
theorem StunMessage.Lies.below_digestKey (lies : msg.Lies size)
    (found : (msg.find attrMessageIntegrity).value = some hash) (bound : size + 2 ^ 18 < 2 ^ 64)
    (platform : Platform) (agent : StunAgent) (key : List UInt8)
    (saved : Option (Vector UInt8 16)) :
    (agent.digestKey platform msg key saved).Below size ↔ agent.TrimsCredentials msg saved := by
  have inside := lies.inside
  obtain ⟨-, low, high⟩ := lies.found found
  unfold StunAgent.digestKey StunAgent.TrimsCredentials
  split
  · rename_i long
    cases saved with
    | some md5 =>
      constructor
      · intro _ _ none
        exact absurd none (by simp)
      · intro _
        exact below_pure _ _
    | none =>
      rw [below_bind, below_bind]
      constructor
      · rintro ⟨_, _, rest⟩ _ _ realm username place name
        rw [place, name] at rest
        have framedRealm := lies.framed found (by decide) place (clean_realm msg)
        have framedUsername := lies.framed found (by decide) name (clean_username msg)
        exact (below_hashCreds framedRealm framedUsername (by omega) bound key).mp
          (below_bind.mp rest).1
      · intro trims
        refine ⟨lies.below_find _, lies.below_find _, ?_⟩
        cases place : (msg.find attrRealm).value with
        | none => exact below_pure _ _
        | some realm =>
          cases name : (msg.find attrUsername).value with
          | none => exact below_pure _ _
          | some username =>
            have framedRealm := lies.framed found (by decide) place (clean_realm msg)
            have framedUsername := lies.framed found (by decide) name (clean_username msg)
            exact below_bind.mpr
              ⟨(below_hashCreds framedRealm framedUsername (by omega) bound key).mpr
                (trims long rfl realm username place name), below_pure _ _⟩
  · rename_i short
    constructor
    · intro _ long
      exact absurd long short
    · intro _
      exact below_pure _ _

/-- The part of the check after the key of the digest is known. -/
theorem StunMessage.Lies.below_compare (lies : msg.Lies size)
    (found : (msg.find attrMessageIntegrity).value = some hash) (platform : Platform)
    (agent : StunAgent) (key shaKey : List UInt8) :
    (agent.digest platform msg hash.offset shaKey >>= fun sha => match sha with
      | none => pure Integrity.aborted
      | some sha => look hash.offset 20 () >>= fun _ =>
        if sha.toList ≠ (msg.buffer.offset hash.offset).read 20 then pure (.refused msg)
        else pure (.passed { msg with key := some key })).Below size ↔ hash.offset + 20 ≤ size := by
  rw [below_bind, value_digest platform agent msg (find_offset found)]
  dsimp only
  rw [below_bind, below_look]
  constructor
  · rintro ⟨_, read, _⟩
    omega
  · intro inside
    exact ⟨lies.below_digest found platform agent shaKey, .inr inside, by simp⟩

/-- The check after the message says where the digest is. -/
theorem StunMessage.Lies.below_compares (lies : msg.Lies size)
    (found : (msg.find attrMessageIntegrity).value = some hash) (platform : Platform)
    (agent : StunAgent) (key : List UInt8) (saved : Option (Vector UInt8 16)) :
    (match (agent.digestKey platform msg key saved).value with
      | none => pure (Integrity.refused msg)
      | some (shaKey, kept) => agent.digest platform kept hash.offset shaKey >>= fun sha =>
        match sha with
        | none => pure Integrity.aborted
        | some sha => look hash.offset 20 () >>= fun _ =>
          if sha.toList ≠ (kept.buffer.offset hash.offset).read 20 then pure (.refused kept)
          else pure (.passed { kept with key := some key })).Below size ↔
      ((agent.digestKey platform msg key saved).value ≠ none → hash.offset + 20 ≤ size) := by
  cases made : (agent.digestKey platform msg key saved).value with
  | none => simp [below_pure]
  | some pair =>
    obtain ⟨shaKey, kept⟩ := pair
    obtain ⟨md5, valid, rfl⟩ := digestKey_kept made
    have moved : ({ msg with longTermKey := md5, longTermValid := valid } :
        StunMessage).Lies size := ⟨lies.laid, lies.inside⟩
    rw [moved.below_compare found platform agent key shaKey]
    simp

/-- The check stays inside exactly when the credentials are trimmed there and twenty bytes are left
for the digest. -/
theorem StunMessage.Lies.below_checkIntegrity (lies : msg.Lies size)
    (bound : size + 2 ^ 18 < 2 ^ 64) (platform : Platform) (agent : StunAgent) (ignore : Bool)
    (key : Option (List UInt8)) (saved : Option (Vector UInt8 16)) :
    (agent.checkIntegrity platform msg ignore key saved).Below size ↔
      ∀ k hash, key = some k → ignore = false → 0 < k.length →
        (msg.find attrMessageIntegrity).value = some hash →
        agent.TrimsCredentials msg saved ∧
          ((agent.digestKey platform msg k saved).value ≠ none → hash.offset + 20 ≤ size) := by
  unfold StunAgent.checkIntegrity
  cases key with
  | none =>
    constructor
    · intro _ k hash same
      exact absurd same (by simp)
    · intro _
      exact below_pure _ _
  | some key =>
    dsimp only
    split
    · rename_i checks
      rw [Bool.and_eq_true, decide_eq_true_iff, Bool.not_eq_true'] at checks
      rw [below_bind]
      cases found : (msg.find attrMessageIntegrity).value with
      | none =>
        constructor
        · intro _ k hash _ _ _ same
          exact absurd same (by simp)
        · intro _
          exact ⟨lies.below_find _, by simp [lies.below_isAuthError]⟩
      | some hash =>
        dsimp only
        rw [below_bind, lies.below_digestKey found bound]
        have rest := lies.below_compares found platform agent key saved
        constructor
        · rintro ⟨_, trims, compare⟩ k other same _ _ alike
          obtain rfl := some.inj same
          obtain rfl := some.inj alike
          exact ⟨trims, rest.mp compare⟩
        · intro inside
          obtain ⟨trims, compare⟩ := inside key hash rfl checks.1 checks.2 rfl
          exact ⟨lies.below_find _, trims, rest.mpr compare⟩
    · rename_i checks
      constructor
      · intro _ k hash same alike positive
        obtain rfl := some.inj same
        exact absurd (by simp [alike, positive]) checks
      · intro _
        exact below_pure _ _

/-! ## The whole -/

/-- A digest is to be checked, with a key, for a MESSAGE-INTEGRITY. -/
structure StunAgent.Digests (agent : StunAgent) (msg : StunMessage) (validater : Option Validater)
    (slot : Option (Fin 200)) (key : List UInt8) (hash : Found) : Prop where
  complete : agent.savedKey slot = none → (agent.ignoresCredentials msg).value = false →
    (agent.lacksCredentials msg).value = false
  called : (agent.callValidater msg validater (agent.ignoresCredentials msg).value
    (agent.savedKey slot)).value = some (some key)
  checks : (agent.ignoresCredentials msg).value = false
  positive : 0 < key.length
  found : (msg.find attrMessageIntegrity).value = some hash

/-- What is to hold for a digest to be checked inside the message. -/
def StunAgent.ReadsDigest (platform : Platform) (agent : StunAgent) (msg : StunMessage)
    (validater : Option Validater) (slot : Option (Fin 200)) (size : Nat) : Prop :=
  ∀ key hash, agent.Digests msg validater slot key hash →
    agent.TrimsCredentials msg (agent.savedMd5 slot) ∧
      ((agent.digestKey platform msg key (agent.savedMd5 slot)).value ≠ none →
        hash.offset + 20 ≤ size)

/-- The stages in order. -/
theorem authenticate_stages (agent : StunAgent) (platform : Platform) (msg : StunMessage)
    (validater : Option Validater) (slot : Option (Fin 200)) :
    agent.authenticate platform msg validater slot =
      (agent.ignoresCredentials msg >>= fun ignore =>
        and (pure ((agent.savedKey slot).isNone && !ignore))
          (agent.lacksCredentials msg) >>= fun lacks =>
        if lacks = true then pure (some ⟨.unauthorizedBadRequest, msg, agent⟩)
        else agent.callValidater msg validater ignore (agent.savedKey slot) >>= fun called =>
          match called with
          | none => pure (some ⟨.unauthorized, msg, agent⟩)
          | some key =>
            agent.checkIntegrity platform msg ignore key (agent.savedMd5 slot) >>= fun checked =>
              match checked with
              | .aborted => pure none
              | .refused msg => pure (some ⟨.unauthorized, msg, agent⟩)
              | .passed msg => agent.conclude msg slot >>= fun result => pure (some result)) := rfl

/-- The check of the credentials stays inside exactly when the digest does. -/
theorem StunMessage.Lies.below_authenticate (lies : msg.Lies size)
    (mode : msg.unaligned = agent.usageFlags.noAlignedAttributes)
    (bound : size + 2 ^ 18 < 2 ^ 64) (platform : Platform) (validater : Option Validater)
    (slot : Option (Fin 200)) :
    (agent.authenticate platform msg validater slot).Below size ↔
      agent.ReadsDigest platform msg validater slot size := by
  rw [authenticate_stages, below_bind, below_bind, value_and, value_pure]
  have credentials : (and (pure ((agent.savedKey slot).isNone &&
      !(agent.ignoresCredentials msg).value)) (agent.lacksCredentials msg)).Below size :=
    by simp [lies.below_lacksCredentials agent]
  split
  · rename_i lacks
    simp only [Bool.and_eq_true, isNone_iff_eq_none, Bool.not_eq_true'] at lacks
    constructor
    · intro _ key hash digests
      have complete := digests.complete lacks.1.1 lacks.1.2
      rw [lacks.2] at complete
      exact absurd complete (by simp)
    · intro _
      exact ⟨lies.below_ignoresCredentials agent, credentials, below_pure _ _⟩
  · rename_i complete
    rw [below_bind]
    cases called : (agent.callValidater msg validater (agent.ignoresCredentials msg).value
      (agent.savedKey slot)).value with
    | none =>
      constructor
      · intro _ key hash digests
        have same := digests.called
        rw [called] at same
        exact absurd same (by simp)
      · intro _
        exact ⟨lies.below_ignoresCredentials agent, credentials,
          lies.below_callValidater agent _ _ _, below_pure _ _⟩
    | some key =>
      dsimp only
      rw [below_bind, lies.below_checkIntegrity bound]
      constructor
      · rintro ⟨_, _, _, inside, _⟩ k hash digests
        have same := digests.called
        rw [called] at same
        exact inside k hash (some.inj same) digests.checks digests.positive digests.found
      · intro inside
        refine ⟨lies.below_ignoresCredentials agent, credentials,
          lies.below_callValidater agent _ _ _, ?_, ?_⟩
        · intro k hash same checks positive found
          subst same
          apply inside k hash
          constructor
          · intro new ignore
            simpa [new, ignore] using complete
          · exact called
          · exact checks
          · exact positive
          · exact found
        · split
          · exact below_pure _ _
          · exact below_pure _ _
          · rename_i last passed
            obtain ⟨buffer, dialect⟩ := checkIntegrity_kept passed
            have same : last.unaligned = msg.unaligned := by
              rw [StunMessage.unaligned, dialect]
              rfl
            have recorded : last.recorded = msg.recorded := by
              rw [StunMessage.recorded, buffer]
              rfl
            have moved : last.Lies size := by
              constructor
              · rw [buffer, same, recorded]
                exact lies.laid
              · rw [recorded]
                exact lies.inside
            exact below_bind.mpr
              ⟨moved.below_conclude (same.trans mode) slot, below_pure _ _⟩

/-- The check of a digest always comes to an end. -/
theorem checkIntegrity_returns (platform : Platform) (agent : StunAgent) (msg : StunMessage)
    (ignore : Bool) (key : Option (List UInt8)) (saved : Option (Vector UInt8 16)) :
    (agent.checkIntegrity platform msg ignore key saved).value ≠ .aborted := by
  unfold StunAgent.checkIntegrity
  cases key with
  | none => simp
  | some key =>
    dsimp only
    split
    · rw [value_bind]
      split
      · rename_i hash found
        rw [value_bind]
        split
        · simp
        · rename_i shaKey kept made
          obtain ⟨md5, valid, rfl⟩ := digestKey_kept made
          rw [value_bind, value_digest platform agent
            { msg with longTermKey := md5, longTermValid := valid } (find_offset found) shaKey]
          dsimp only
          rw [value_bind]
          split <;> simp
      · rw [value_bind]
        split <;> simp
    · simp

/-- The check of the credentials always comes to an end. -/
theorem authenticate_returns (platform : Platform) (agent : StunAgent) (msg : StunMessage)
    (validater : Option Validater) (slot : Option (Fin 200)) :
    (agent.authenticate platform msg validater slot).value ≠ none := by
  rw [value_authenticate]
  split
  · simp
  · split
    · simp
    · split
      · rename_i aborted
        exact absurd aborted (checkIntegrity_returns _ _ _ _ _ _)
      · simp
      · simp

/-- Validation of a message stays inside exactly when the digest does. -/
theorem StunMessage.Lies.below_validateMessage (lies : msg.Lies size)
    (mode : msg.unaligned = agent.usageFlags.noAlignedAttributes)
    (bound : size + 2 ^ 18 < 2 ^ 64) (platform : Platform) (validater : Option Validater) :
    (agent.validateMessage platform msg validater).Below size ↔
      ∀ slot, agent.Enters msg slot → agent.ReadsDigest platform msg validater slot size := by
  have first : (and (pure agent.modern) msg.hasCookie.not).Below size := by
    simp [lies.below_hasCookie]
  have second : (and (pure (agent.modern && agent.usageFlags.useFingerprint))
      (agent.checkFingerprint msg).not).Below size := by
    simp [lies.below_checkFingerprint agent]
  rw [StunAgent.validateMessage, below_bind, value_and, value_pure,
    value_not]
  split
  · rename_i cookie
    constructor
    · intro _ slot enters
      simp only [Bool.and_eq_true, Bool.not_eq_true'] at cookie
      exact absurd (enters.cookie cookie.1) (by simp [cookie.2])
    · intro _
      exact ⟨first, below_pure _ _⟩
  · rename_i cookie
    rw [below_bind, value_and, value_pure, value_not]
    split
    · rename_i fingerprint
      constructor
      · intro _ slot enters
        simp only [Bool.and_eq_true, Bool.not_eq_true'] at fingerprint
        exact absurd (enters.fingerprint fingerprint.1.1 fingerprint.1.2)
          (by simp [fingerprint.2])
      · intro _
        exact ⟨first, second, below_pure _ _⟩
    · rename_i fingerprint
      rw [below_bind]
      cases sent : (agent.matchSent msg).value with
      | none =>
        constructor
        · intro _ slot enters
          have same := enters.sent
          rw [sent] at same
          exact absurd same (by simp)
        · intro _
          exact ⟨first, second, lies.below_matchSent agent, below_pure _ _⟩
      | some slot =>
        dsimp only
        rw [lies.below_authenticate mode bound]
        constructor
        · rintro ⟨_, _, _, inside⟩ other enters
          have same := enters.sent
          rw [sent, some.injEq] at same
          rw [← same]
          exact inside
        · intro inside
          refine ⟨first, second, lies.below_matchSent agent, inside slot ⟨?_, ?_, sent⟩⟩
          · intro modern
            simpa [modern] using cookie
          · intro modern used
            simpa [modern, used] using fingerprint

variable {buffer : Mem} {bufferLen : UInt64}

/-- A buffer that holds one message has its size, up to multiples of 2^32. -/
theorem StunAgent.Sized.modulo (sized : agent.Sized buffer bufferLen) :
    bufferLen.toNat % 2 ^ 32 = (ntohs buffer 2).toNat + 20 := by
  have bound := (ntohs buffer 2).toNat_lt
  have accepted := (validateBufferLength_accepts buffer bufferLen
    (!agent.usageFlags.noAlignedAttributes) (Nat.succ_pos _)).mpr
      (by rw [Bool.not_not]; exact sized.accepted)
  rw [sized.1, some.injEq] at accepted
  have int := toInt_size bufferLen
  split at int
  · omega
  · have below := Nat.mod_lt bufferLen.toNat (show 0 < 2 ^ 32 by decide)
    omega

/-- The message lies in its buffer. -/
theorem StunAgent.Sized.lies (sized : agent.Sized buffer bufferLen) (msg : StunMessage) :
    (agent.adopt msg buffer bufferLen).Lies bufferLen.toNat :=
  ⟨sized.laid, sized.accepted.complete⟩

/-- Validation returns, reads only the buffer, and compares a digest only with twenty bytes in it.
-/
structure StunAgent.ReadsInside (platform : Platform) (agent : StunAgent) (msg : StunMessage)
    (buffer : Mem) (bufferLen : UInt64) (validater : Option Validater) : Prop where
  returns : (agent.validate platform msg buffer bufferLen validater).value ≠ none
  below : (agent.validate platform msg buffer bufferLen validater).Below bufferLen.toNat
  digest : agent.Sized buffer bufferLen → ∀ slot key hash,
    agent.Enters (agent.adopt msg buffer bufferLen) slot →
    agent.Digests (agent.adopt msg buffer bufferLen) validater slot key hash →
    (agent.digestKey platform (agent.adopt msg buffer bufferLen) key
      (agent.savedMd5 slot)).value ≠ none →
    hash.len = 20 ∧ hash.offset + 20 ≤ bufferLen.toNat

/-- When a digest is checked, something is left of the credentials hashed for it, and
MESSAGE-INTEGRITY has twenty bytes. -/
def StunAgent.WellSigned (platform : Platform) (agent : StunAgent) (msg : StunMessage)
    (validater : Option Validater) : Prop :=
  ∀ slot key hash, agent.Enters msg slot → agent.Digests msg validater slot key hash →
    agent.TrimsCredentials msg (agent.savedMd5 slot) ∧
      ((agent.digestKey platform msg key (agent.savedMd5 slot)).value ≠ none → hash.len = 20)

/-- A walk that leaves bytes does not come to an end. -/
theorem validate_of_overruns
    (leaves : Overruns buffer bufferLen.toNat agent.usageFlags.noAlignedAttributes) :
    (agent.validate platform msg buffer bufferLen validater).value = none := by
  have lost := validateBufferLength_overruns (!agent.usageFlags.noAlignedAttributes)
    (by rw [Bool.not_not]; exact leaves)
  rw [validate_eq, value_bind, lost.1]
  rfl

/-- A buffer that does not hold one message is refused. -/
theorem returns_of_not_sized (platform : Platform) (msg : StunMessage)
    (validater : Option Validater)
    (stays : ¬Overruns buffer bufferLen.toNat agent.usageFlags.noAlignedAttributes)
    (other : ¬agent.Sized buffer bufferLen) :
    (agent.validate platform msg buffer bufferLen validater).value ≠ none ∧
      (agent.validate platform msg buffer bufferLen validater).Below bufferLen.toNat := by
  have inside := validateBufferLength_inside (!agent.usageFlags.noAlignedAttributes)
    (by rw [Bool.not_not]; exact stays)
  rw [validate_eq, value_bind, below_bind]
  cases found : (validateBufferLength buffer bufferLen
    (!agent.usageFlags.noAlignedAttributes)).value with
  | none => exact absurd found inside.1
  | some len =>
    have read := inside.2.mono (Nat.min_le_left _ _)
    dsimp only
    split
    · exact ⟨by simp, read, below_pure _ _⟩
    · split
      · exact ⟨by simp, read, below_pure _ _⟩
      · split
        · exact ⟨by simp, read, below_pure _ _⟩
        · rename_i valid complete whole
          have same : len = bufferLen.toUInt32.toInt32.toInt := not_not.mp whole
          subst same
          exact absurd ⟨found, valid, complete⟩ other

/-- A buffer that holds one message is read as a message. -/
theorem below_of_sized (platform : Platform) (msg : StunMessage)
    (validater : Option Validater) (sized : agent.Sized buffer bufferLen) :
    (agent.validate platform msg buffer bufferLen validater).Below bufferLen.toNat ↔
      (agent.validateMessage platform (agent.adopt msg buffer bufferLen) validater).Below
        bufferLen.toNat := by
  obtain ⟨found, valid, complete⟩ := sized
  have stays : ¬Overruns buffer bufferLen.toNat agent.usageFlags.noAlignedAttributes := by
    intro leaves
    have lost := validateBufferLength_overruns (!agent.usageFlags.noAlignedAttributes)
      (by rw [Bool.not_not]; exact leaves)
    rw [lost.1] at found
    exact absurd found (by simp)
  have inside := validateBufferLength_inside (!agent.usageFlags.noAlignedAttributes)
    (by rw [Bool.not_not]; exact stays)
  have read := inside.2.mono (Nat.min_le_left _ _)
  rw [validate_eq, below_bind, found]
  dsimp only
  rw [if_neg valid, if_neg complete, if_neg (not_not.mpr rfl)]
  exact ⟨fun below => below.2, fun below => ⟨read, below⟩⟩

/-- The validation of a message always comes to an end. -/
theorem validateMessage_returns (platform : Platform) (agent : StunAgent) (msg : StunMessage)
    (validater : Option Validater) :
    (agent.validateMessage platform msg validater).value ≠ none := by
  rcases validateMessage_cases platform agent msg validater with ⟨status, -, ends⟩ |
    ⟨slot, -, goes⟩
  · rw [ends]
    simp
  · rw [goes]
    exact authenticate_returns platform agent msg validater slot

/-- Validation returns and stays inside the buffer exactly when the walk over the attributes does
not leave one to three bytes, and when a digest is checked, MESSAGE-INTEGRITY has twenty bytes and
something is left of the credentials hashed for it. -/
theorem readsInside_iff (platform : Platform) (agent : StunAgent) (msg : StunMessage)
    (buffer : Mem) (bufferLen : UInt64) (validater : Option Validater) :
    agent.ReadsInside platform msg buffer bufferLen validater ↔
      ¬Overruns buffer bufferLen.toNat agent.usageFlags.noAlignedAttributes ∧
      (agent.Sized buffer bufferLen →
        agent.WellSigned platform (agent.adopt msg buffer bufferLen) validater) := by
  by_cases leaves : Overruns buffer bufferLen.toNat agent.usageFlags.noAlignedAttributes
  · constructor
    · intro inside
      exact absurd (validate_of_overruns leaves) inside.returns
    · rintro ⟨stays, _⟩
      exact absurd leaves stays
  · by_cases sized : agent.Sized buffer bufferLen
    · have lies := sized.lies msg
      have bound : bufferLen.toNat + 2 ^ 18 < 2 ^ 64 := by
        have field := (ntohs buffer 2).toNat_lt
        have modulo := sized.modulo
        have top := bufferLen.toNat_lt
        omega
      have below := lies.below_validateMessage rfl bound platform validater
      have whole := below_of_sized platform msg validater sized
      constructor
      · intro inside
        refine ⟨leaves, fun _ slot key hash enters digests => ?_⟩
        have read := below.mp (whole.mp inside.below) slot enters key hash digests
        exact ⟨read.1, fun checked => (inside.digest sized slot key hash enters digests checked).1⟩
      · rintro ⟨_, signed⟩
        have twenty : ∀ {hash : Found}, hash.len = 20 →
            ((agent.adopt msg buffer bufferLen).find attrMessageIntegrity).value = some hash →
            hash.offset + 20 ≤ bufferLen.toNat := by
          intro hash len found
          have place := (lies.found found).2.2
          have inside := lies.inside
          rw [len] at place
          change hash.offset + 20 ≤ _ at place
          omega
        constructor
        · rw [validate_of_sized sized]
          exact validateMessage_returns _ _ _ _
        · rw [whole, below]
          intro slot enters key hash digests
          obtain ⟨trims, len⟩ := signed sized slot key hash enters digests
          exact ⟨trims, fun checked => twenty (len checked) digests.found⟩
        · intro _ slot key hash enters digests checked
          have len := (signed sized slot key hash enters digests).2 checked
          exact ⟨len, twenty len digests.found⟩
    · obtain ⟨returns, below⟩ := returns_of_not_sized platform msg validater leaves sized
      constructor
      · intro _
        exact ⟨leaves, fun other => absurd other sized⟩
      · intro _
        exact ⟨returns, below, fun other => absurd other sized⟩

/-- A USERNAME of one byte and, at the end, a MESSAGE-INTEGRITY of none. -/
def emptyDigestRequest : List UInt8 :=
  [0, 1, 0, 12] ++ List.replicate 16 0 ++ [0, 6, 0, 1, 97, 0, 0, 0] ++ [0, 8, 0, 0]

/-- Its digest is compared with the twenty bytes behind the buffer. -/
theorem empty_digest_reads_behind :
    emptyDigestRequest.length = 32 ∧
      ¬(shortTermAgent.validate zeroPlatform (blankMessage 0) (Mem.ofList emptyDigestRequest) 32
        (some fun _ _ _ _ => some (some [1]))).Below 32 := by
  have reads : ⟨32, 20⟩ ∈ (shortTermAgent.validate zeroPlatform (blankMessage 0)
      (Mem.ofList emptyDigestRequest) 32 (some fun _ _ _ _ => some (some [1]))).reads := by
    decide +kernel
  constructor
  · decide
  · intro below
    exact absurd (below _ reads) (by decide)

end Xice.Stun
