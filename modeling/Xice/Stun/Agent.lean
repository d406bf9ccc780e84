import Xice.Stun.Message

/-!
# Agents

`stunhmac.c` and `stunagent.c`. `stun_agent_validate` is cut into its stages, in the order of the
source; each stage that looks at the message is a reading. A validater is any function of the agent,
the message, the USERNAME it is called with and the key so far.
-/

namespace Xice.Stun

open Xice.Lib Reading

variable (agent : StunAgent) (msg : StunMessage) (platform : Platform) (buffer : Mem)
  (bufferLen : UInt64) (validater : Option Validater) (request : StunMessage)
  (id : StunTransactionId)

/-! ## Digests -/

/-- `stun_sha1`: `none` when its assertion fails. -/
def stunSha1 (msg : Mem) (len msgLen : Nat) (key : List UInt8) (padding : Bool) :
    Reading (Option (Vector UInt8 20)) :=
  if len < 44 then return none
  else do
    let type ← .look 0 2 (msg.read 2)
    let rest ← .look 4 (len - 28) ((msg.offset 4).read (len - 28))
    let pad := if padding ∧ (len - 24) % 64 > 0 then List.replicate (64 - (len - 24) % 64) 0 else []
    return some (platform.hmacSha1 key (type ++ htons (UInt16.ofNat msgLen) ++ rest ++ pad))

/-- The first loop of `priv_trim_var`, over the quotes at the front. -/
def trimLeading (buffer : Mem) : (fuel : Nat) → (ptr : Nat) → (varLen : UInt64) →
    Reading (Nat × UInt64)
  | 0, ptr, varLen => return (ptr, varLen)
  | fuel + 1, ptr, varLen => do
    if (← .look ptr 1 (buffer ptr)) = 0x22 then trimLeading buffer fuel (ptr + 1) (varLen - 1)
    else return (ptr, varLen)

/-- The second loop of `priv_trim_var`, over the quotes and zeros at the back. -/
def trimTrailing (buffer : Mem) (ptr : Nat) : (fuel : Nat) → (varLen : UInt64) → Reading UInt64
  | 0, varLen => return varLen
  | fuel + 1, varLen => do
    let index := (UInt64.ofNat ptr + varLen - 1).toNat
    let last ← .look index 1 (buffer index)
    if last = 0x22 ∨ last = 0 then trimTrailing buffer ptr fuel (varLen - 1) else return varLen

/-- `priv_trim_var`, for a string anywhere in the memory, with so many steps of its loops: they end
at a byte of another kind and not at the end of the string. -/
def trimVar (buffer : Mem) (fuel var : Nat) (varLen : UInt64) : Reading (Nat × UInt64) := do
  let (ptr, varLen) ← trimLeading buffer fuel var varLen
  let varLen ← trimTrailing buffer ptr fuel varLen
  return (ptr, varLen)

/-- `priv_trim_var`, for a string in a message. A loop of more steps than a message has bytes has
left it. -/
def privTrimVar (var : Nat) (varLen : UInt64) : Reading (Nat × UInt64) :=
  trimVar buffer 65556 var varLen

/-- The bytes of an attribute value. -/
def StunMessage.bytesOf (found : Found) : List UInt8 :=
  (msg.buffer.offset found.offset).read found.len.toNat

/-- `stun_hash_creds` of a USERNAME and a REALM of a message. -/
def StunMessage.hashCreds (platform : Platform) (msg : StunMessage) (realm username : Found)
    (password : List UInt8) : Reading (Vector UInt8 16) := do
  let (usernameTrimmed, usernameLen) ←
    privTrimVar msg.buffer username.offset username.len.toUInt64
  let (realmTrimmed, realmLen) ← privTrimVar msg.buffer realm.offset realm.len.toUInt64
  let _ ← .look usernameTrimmed usernameLen.toNat ()
  let _ ← .look realmTrimmed realmLen.toNat ()
  return platform.hashCreds (msg.bytesOf realm) (msg.bytesOf username) password

/-! ## Unknown attributes -/

/-- `stun_optional`. -/
def stunOptional (t : UInt16) : Bool := (t >>> 15) = 1

/-- `stun_agent_is_unknown`. -/
def StunAgent.isUnknown (type : UInt16) : Bool :=
  type ∉ agent.knownAttributes.takeWhile (· ≠ 0)

/-- The loop of `stun_agent_find_unknowns`, with the types it lists. -/
def StunAgent.findUnknownsLoop (agent : StunAgent) (buffer : Mem) (len room offset : Nat) :
    Reading (List UInt16) :=
  if offset < len ∧ 0 < room then do
    let alen ← stunGetw buffer (offset + 2)
    let atype ← stunGetw buffer offset
    let next := offset + 4 + (stride agent.usageFlags.noAlignedAttributes alen).toNat
    if !stunOptional atype && agent.isUnknown atype then
      return atype :: (← agent.findUnknownsLoop buffer len (room - 1) next)
    else agent.findUnknownsLoop buffer len room next
  else return []
termination_by len - offset

/-- `stun_agent_find_unknowns`: at most `max` types. -/
def StunAgent.findUnknowns (max : Nat) : Reading (List UInt16) := do
  let len ← msg.length
  agent.findUnknownsLoop msg.buffer len.toNat max 20

/-! ## Saved transactions -/

/-- `stun_agent_init` leaves the other fields of the slots. -/
def StunAgent.init (slots : Vector StunAgentSavedIds 200) (knownAttributes : List UInt16)
    (compatibility : StunCompatibility) (usageFlags : StunAgentUsageFlags) : StunAgent where
  compatibility := compatibility
  usageFlags := usageFlags
  sentIds := slots.map fun slot => { slot with valid := false }
  knownAttributes := knownAttributes
  softwareAttribute := none

/-- The transaction of a slot. -/
abbrev StunAgent.sent (slot : Fin 200) : StunAgentSavedIds := agent.sentIds[slot]

/-- The slot a message that is no request is given. -/
abbrev firstSlot : Fin 200 := 0

/-- Another transaction in a slot. -/
abbrev StunAgent.put (slot : Fin 200) (saved : StunAgentSavedIds) : StunAgent :=
  { agent with sentIds := agent.sentIds.set slot saved }

/-- Mark a slot as free. -/
def StunAgent.release (slot : Fin 200) : StunAgent :=
  agent.put slot { agent.sent slot with valid := false }

/-- `stun_agent_forget_transaction`. -/
def StunAgent.forgetTransaction : Bool × StunAgent :=
  match agent.sentIds.findFinIdx? fun slot => slot.valid && slot.id == id with
  | some slot => (true, agent.release slot)
  | none => (false, agent)

/-! ## Validation -/

/-- `StunMessageIntegrityValidate`: the key in `*password` when it returns true, from the USERNAME,
if any, and the key so far. -/
abbrev Validater :=
  StunAgent → StunMessage → (username : Option (List UInt8)) → (key : Option (List UInt8)) →
    Option (Option (List UInt8))

/-- `stun_agent_default_validater`, with its table. -/
def defaultValidater (entries : List (List UInt8 × List UInt8)) : Validater :=
  fun _ _ username _ =>
    match entries.find? fun entry => entry.1 = username.getD [] with
    | some entry => some (some entry.2)
    | none => none

/-- What `stun_agent_validate` returns and leaves behind. -/
structure Validation where
  status : StunValidationStatus
  msg : StunMessage
  agent : StunAgent

/-- Whether FINGERPRINT is there and right. -/
def StunAgent.checkFingerprint : Reading Bool := do
  match ← msg.find32 attrFingerprint with
  | .error _ => return false
  | .ok fpr =>
    let crc32 ← stunFingerprint msg.buffer (← msg.length).toUInt64
      (agent.compatibility = .wlm2009)
    return htonl fpr = crc32

/-- The slot that a response or an error answers; `some none` for a message that is no answer. -/
def StunAgent.matchSent :
    Reading (Option (Option (Fin 200))) := do
  let c ← msg.getClass
  if c = .response ∨ c = .error then
    let id ← msg.id
    let method ← msg.getMethod
    match agent.sentIds.findFinIdx?
      fun slot => slot.valid && slot.method == method && slot.id == id with
    | none => return none
    | some slot => return some (some slot)
  else return some none

/-- An error response with the code 400 or 401. -/
def StunMessage.isAuthError : Reading Bool := do
  if (← msg.getClass) = .error then
    match ← msg.findError with
    | .ok code => return code = 400 ∨ code = 401
    | .error _ => return false
  else return false

/-- `ignore_credentials`. -/
def StunAgent.ignoresCredentials : Reading Bool :=
  .or (pure agent.usageFlags.ignoreCredentials)
    (.or msg.isAuthError (do
      return (← msg.getClass) = .indication && agent.usageFlags.noIndicationAuth))

/-- A request or an indication lacks attributes for its credentials. -/
def StunAgent.lacksCredentials : Reading Bool := do
  let c ← msg.getClass
  if c = .request ∨ c = .indication then
    let lacks (type : StunAttribute) : Reading Bool := (msg.hasAttribute type).not
    .or
      (.and (pure agent.usageFlags.shortTermCredentials)
        (.or (lacks attrUsername) (lacks attrMessageIntegrity)))
      (.or
        (.and (pure (agent.usageFlags.longTermCredentials && c = .request))
          (.or (lacks attrUsername)
            (.or (lacks attrMessageIntegrity) (.or (lacks attrNonce) (lacks attrRealm)))))
        (.and (pure !agent.usageFlags.ignoreCredentials)
          (.and (msg.hasAttribute attrUsername) (lacks attrMessageIntegrity))))
  else return false

/-- The key of the validater, or `none` when it refuses the message. -/
def StunAgent.callValidater (ignore : Bool) (key : Option (List UInt8)) :
    Reading (Option (Option (List UInt8))) := do
  if ← (msg.hasAttribute attrMessageIntegrity).and
      (pure (key.isNone && !ignore || agent.usageFlags.forceValidater)) then
    let username ← msg.find attrUsername
    return validater.bind fun validater => validater agent msg (username.map msg.bytesOf) key
  else return some key

/-- The digest for a MESSAGE-INTEGRITY whose value begins at `hash`. -/
def StunAgent.digest (agent : StunAgent) (msg : StunMessage) (hash : Nat) (key : List UInt8) :
    Reading (Option (Vector UInt8 20)) :=
  match agent.compatibility with
  | .rfc3489 | .oc2007 => stunSha1 platform msg.buffer (hash + 20) hash key true
  | .wlm2009 => do
    stunSha1 platform msg.buffer (hash + 20) ((← msg.length).toNat - 20) key true
  | .rfc5389 => stunSha1 platform msg.buffer (hash + 20) hash key false

/-- The key itself, or that of the long-term credentials, kept in the message. `none` when the
message lacks REALM or USERNAME. -/
def StunAgent.digestKey (agent : StunAgent) (msg : StunMessage) (key : List UInt8)
    (saved : Option (Vector UInt8 16)) : Reading (Option (List UInt8 × StunMessage)) := do
  if agent.usageFlags.longTermCredentials then
    match saved with
    | some md5 =>
      return some (md5.toList, { msg with longTermKey := md5, longTermValid := true })
    | none =>
      let realm ← msg.find attrRealm
      let username ← msg.find attrUsername
      match realm, username with
      | some realm, some username =>
        let md5 ← msg.hashCreds platform realm username key
        return some (md5.toList, { msg with longTermKey := md5, longTermValid := true })
      | _, _ => return none
  else return some (key, msg)

/-- How the check of MESSAGE-INTEGRITY ends. -/
inductive Integrity where
  | aborted
  | refused (msg : StunMessage)
  | passed (msg : StunMessage)

/-- The check of MESSAGE-INTEGRITY. -/
def StunAgent.checkIntegrity (agent : StunAgent) (msg : StunMessage) (ignore : Bool)
    (key : Option (List UInt8)) (saved : Option (Vector UInt8 16)) : Reading Integrity := do
  match key with
  | none => return .passed msg
  | some key =>
    if !ignore && 0 < key.length then
      match ← msg.find attrMessageIntegrity with
      | some hash =>
        match ← agent.digestKey platform msg key saved with
        | none => return .refused msg
        | some (shaKey, msg) =>
          match ← agent.digest platform msg hash.offset shaKey with
          | none => return .aborted
          | some sha =>
            let received ← .look hash.offset 20 ((msg.buffer.offset hash.offset).read 20)
            if sha.toList ≠ received then return .refused msg
            else return .passed { msg with key := some key }
      | none =>
        if ← msg.isAuthError then return .passed msg else return .refused msg
    else return .passed msg

/-- The transaction is over, and unknown attributes are looked for. -/
def StunAgent.conclude (slot : Option (Fin 200)) : Reading Validation := do
  let agent := match slot with
    | some slot => agent.release slot
    | none => agent
  let unknown ← agent.findUnknowns msg 1
  if unknown.length > 0 then
    if (← msg.getClass) = .request then return ⟨.unknownRequestAttribute, msg, agent⟩
    else return ⟨.unknownAttribute, msg, agent⟩
  else return ⟨.success, msg, agent⟩

/-- `stun_agent_validate` after the transaction is known: `none` when an assertion fails. -/
def StunAgent.authenticate (agent : StunAgent) (msg : StunMessage) (validater : Option Validater)
    (slot : Option (Fin 200)) : Reading (Option Validation) := do
  let key := slot.bind fun slot => (agent.sent slot).key
  let saved := slot.bind fun slot =>
    if (agent.sent slot).longTermValid then some (agent.sent slot).longTermKey else none
  let ignore ← agent.ignoresCredentials msg
  if ← and (pure (key.isNone && !ignore)) (agent.lacksCredentials msg) then
    return some ⟨.unauthorizedBadRequest, msg, agent⟩
  else
    match ← agent.callValidater msg validater ignore key with
    | none => return some ⟨.unauthorized, msg, agent⟩
    | some key =>
      match ← agent.checkIntegrity platform msg ignore key saved with
      | .aborted => return none
      | .refused msg => return some ⟨.unauthorized, msg, agent⟩
      | .passed msg => return some (← agent.conclude msg slot)

/-- `stun_agent_validate` after the size of the message is known. -/
def StunAgent.validateMessage (agent : StunAgent) (msg : StunMessage) (validater : Option Validater)
    : Reading (Option Validation) := do
  if ← and (pure agent.modern) msg.hasCookie.not then
    return some ⟨.badRequest, msg, agent⟩
  else if ← and (pure (agent.modern && agent.usageFlags.useFingerprint))
      (agent.checkFingerprint msg).not then
    return some ⟨.badRequest, msg, agent⟩
  else
    match ← agent.matchSent msg with
    | none => return some ⟨.unmatchedResponse, msg, agent⟩
    | some slot => agent.authenticate platform msg validater slot

/-- The message over a buffer, as it is set up. -/
def StunAgent.adopt : StunMessage where
  agent := some agent.toStunDialect
  buffer := buffer
  bufferLen := bufferLen
  key := none
  longTermKey := msg.longTermKey
  longTermValid := false

/-- `stun_agent_validate`: `none` when it does not return. The size is compared as an `int`. -/
def StunAgent.validate (agent : StunAgent) (msg : StunMessage) (buffer : Mem) (bufferLen : UInt64)
    (validater : Option Validater) : Reading (Option Validation) := do
  match ← validateBufferLength buffer bufferLen !agent.usageFlags.noAlignedAttributes with
  | none => return none
  | some len =>
    if len = bufferInvalid then return some ⟨.notStun, msg, agent⟩
    else if len = bufferIncomplete then return some ⟨.incompleteStun, msg, agent⟩
    else if len ≠ bufferLen.toUInt32.toInt32.toInt then return some ⟨.notStun, msg, agent⟩
    else agent.validateMessage platform (agent.adopt msg buffer bufferLen) validater

/-! ## Building messages -/

/-- Append SOFTWARE where the agent does so; whether it fits is not looked at. -/
def StunAgent.addSoftware (agent : StunAgent) (msg : StunMessage) : StunMessage :=
  if agent.modern && (agent.softwareAttribute.isSome || agent.usageFlags.addSoftware) then
    match msg.appendSoftware agent.softwareAttribute with
    | some done => done.msg
    | none => msg
  else msg

/-- The magic cookie in the transaction id, in the modes that have one. -/
def StunAgent.addCookie : StunMessage :=
  if agent.modern then { msg with buffer := msg.buffer.store 4 (htonl magicCookie) } else msg

/-- `stun_agent_init_request`, with an id of `stun_make_transid`; `none` when the buffer is too
small. -/
def StunAgent.initRequest (m : StunMethod) (id : StunTransactionId) : Option StunMessage :=
  match (agent.adopt msg buffer bufferLen).init .request m id with
  | none => none
  | some msg => some (agent.addSoftware (agent.addCookie msg))

/-- `stun_agent_init_indication`. -/
def StunAgent.initIndication (m : StunMethod) (id : StunTransactionId) : Option StunMessage :=
  match (agent.adopt msg buffer bufferLen).init .indication m id with
  | none => none
  | some msg => some (agent.addCookie msg)

/-- The answer to a request, with the key of the request. -/
def StunAgent.answer (c : StunClass) (buffer : Mem) (bufferLen : UInt64) (request : StunMessage) :
    Option StunMessage :=
  if request.getClass.value ≠ .request then none
  else
    let msg : StunMessage :=
      { agent := some agent.toStunDialect
        buffer := buffer
        bufferLen := bufferLen
        key := request.key
        longTermKey := request.longTermKey
        longTermValid := request.longTermValid }
    match msg.init c request.getMethod.value request.id.value with
    | none => none
    | some msg => some (agent.addSoftware msg)

/-- `stun_agent_init_response`. -/
def StunAgent.initResponse : Option StunMessage :=
  agent.answer .response buffer bufferLen request

/-- `stun_agent_init_error`. -/
def StunAgent.initError (err : StunError) : Option StunMessage :=
  match agent.answer .error buffer bufferLen request with
  | none => none
  | some msg => (msg.appendError err).map Appended.msg

/-- What `stun_agent_finish_message` returns and leaves behind. -/
structure Finished where
  /-- The length of the message, and zero on failure. -/
  length : UInt16
  msg : StunMessage
  agent : StunAgent

/-- The key of the digest: `none` when no MESSAGE-INTEGRITY is to be sent. -/
def StunAgent.finishKey (agent : StunAgent) (msg : StunMessage) (key : List UInt8) :
    Option (List UInt8) × StunMessage :=
  if msg.longTermValid then
    (some (if agent.usageFlags.longTermCredentials then msg.longTermKey.toList else key), msg)
  else if agent.usageFlags.longTermCredentials then
    match (msg.find attrRealm).value, (msg.find attrUsername).value with
    | some realm, some username =>
      let md5 := platform.hashCreds (msg.bytesOf realm) (msg.bytesOf username) key
      (some md5.toList, { msg with longTermKey := md5, longTermValid := true })
    | _, _ =>
      (none, { msg with longTermKey := platform.uninitialised, longTermValid := true })
  else (some key, msg)

/-- The digest that `stun_agent_finish_message` writes. -/
def StunAgent.finishDigest (agent : StunAgent) (msg : StunMessage) (key : List UInt8) :
    Option (Vector UInt8 20) :=
  let len := msg.length.value.toNat
  match agent.compatibility with
  | .rfc3489 | .oc2007 => (stunSha1 platform msg.buffer len (len - 20) key true).value
  | .wlm2009 =>
    let minus := if agent.usageFlags.useFingerprint then 20 - 8 else 20
    (stunSha1 platform msg.buffer len (len - minus) key true).value
  | .rfc5389 => (stunSha1 platform msg.buffer len (len - 20) key false).value

/-- How a stage of `stun_agent_finish_message` ends. -/
inductive Stage where
  | aborted
  | noRoom (msg : StunMessage)
  | done (msg : StunMessage)

/-- MESSAGE-INTEGRITY in `stun_agent_finish_message`. -/
def StunAgent.addIntegrity (agent : StunAgent) (msg : StunMessage) (key : Option (List UInt8)) :
    Stage :=
  match key with
  | none => .done msg
  | some key =>
    match agent.finishKey platform msg key with
    | (none, msg) => .done msg
    | (some shaKey, msg) =>
      match msg.append attrMessageIntegrity 20 with
      | none => .noRoom msg
      | some done =>
        match agent.finishDigest platform done.msg shaKey with
        | none => .aborted
        | some sha => .done (done.fill 0 sha.toList).msg

/-- FINGERPRINT in `stun_agent_finish_message`. -/
def StunAgent.addFingerprint : Stage :=
  if agent.modern && agent.usageFlags.useFingerprint then
    match msg.append attrFingerprint 4 with
    | none => .noRoom msg
    | some done =>
      let fpr := stunFingerprint done.msg.buffer done.msg.length.value.toUInt64
        (agent.compatibility = .wlm2009)
      .done (done.fill 0 fpr.value).msg
  else .done msg

/-- A request is saved in the free slot. -/
def StunAgent.save (key : Option (List UInt8)) (slot : Fin 200) : Finished :=
  let saved : StunAgentSavedIds :=
    { id := msg.id.value
      method := msg.getMethod.value
      key := key
      longTermKey := msg.longTermKey
      longTermValid := msg.longTermValid
      valid := true }
  let agent :=
    if msg.getClass.value = .request then agent.put slot saved else agent
  ⟨msg.length.value, { msg with key := key }, agent⟩

/-- `stun_agent_finish_message`: `none` when an assertion fails. -/
def StunAgent.finishMessage (agent : StunAgent) (msg : StunMessage) (key : Option (List UInt8)) :
    Option Finished :=
  let slot : Option (Fin 200) :=
    if msg.getClass.value = .request then agent.sentIds.findFinIdx? fun slot => !slot.valid
    else some 0
  match slot with
  | none => some ⟨0, msg, agent⟩
  | some slot =>
    let key := if msg.key.isSome then msg.key else key
    match agent.addIntegrity platform msg key with
    | .aborted => none
    | .noRoom msg => some ⟨0, msg, agent⟩
    | .done msg =>
      match agent.addFingerprint msg with
      | .aborted => none
      | .noRoom msg => some ⟨0, msg, agent⟩
      | .done msg => some (agent.save msg key slot)

/-- `stun_agent_build_unknown_attributes_error`, with the entries of `ids` that it wrote; `none`
when an assertion fails. `STUN_AGENT_MAX_UNKNOWN_ATTRIBUTES` is 256. -/
def StunAgent.buildUnknownAttributesError (agent : StunAgent) (buffer : Mem) (bufferLen : UInt64)
    (request : StunMessage) : List UInt16 × Option (Option Finished) :=
  let ids := (agent.findUnknowns request 256).value
  match agent.initError buffer bufferLen request .unknownAttribute with
  | none => (ids, some none)
  | some msg =>
    -- An odd number of types is filled up with the first, for the old RFC 3489.
    let ids := if !request.hasCookie.value && ids.length % 2 = 1 then ids ++ ids.take 1 else ids
    match msg.appendBytes attrUnknownAttributes (Mem.ofList (ids.flatMap htons))
      (UInt64.ofNat (ids.length * 2)) with
    | none => (ids, some none)
    | some done => (ids, (agent.finishMessage platform done.msg request.key).map some)

end Xice.Stun
