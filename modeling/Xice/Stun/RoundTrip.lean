import Xice.Stun.Sealed
import Xice.Stun.Unknowns

/-!
# From one agent to another

A request is accepted by another agent in the same mode that is given the same key, and its response
is accepted by the first. The two halves meet at `StunAgent.Sealed`: finishing leaves such messages,
and validation accepts them.
-/

namespace Xice.Stun

open Xice.Lib Reading Option

variable {platform : Platform} {agent other : StunAgent} {msg start last : StunMessage}
  {unaligned : Bool} {attrs : List (Attribute unaligned)} {shaKey : List UInt8}
variable {blank : StunMessage} {buffer : Mem} {id : StunTransactionId} {v : Validater}
  {responder : StunAgent} {validater : Option Validater}

/-! ## Receiving -/

variable {c : StunClass} {m : StunMethod} {bufferLen : UInt64} {key : List UInt8}
  {given : Option (List UInt8)} {done request : Finished} {items : List Item}

/-- A member of a type is seen when nothing hides it. -/
theorem visible_isSome {α : Type} (typeOf : α → StunAttribute) (type : StunAttribute) {list : List α}
    (shows : ∀ a ∈ list, hides type (typeOf a) = false) (there : ∃ a ∈ list, typeOf a = type) :
    (visible typeOf type list).isSome := by
  induction list with
  | nil =>
    obtain ⟨a, member, -⟩ := there
    exact absurd member (by simp)
  | cons first rest ih =>
    rw [visible_cons]
    by_cases same : typeOf first = type
    · rw [if_pos same]
      rfl
    · rw [if_neg same, if_neg (by rw [shows first List.mem_cons_self]; decide)]
      apply ih
      · intro a member
        exact shows a (List.mem_cons_of_mem _ member)
      · obtain ⟨a, member, equal⟩ := there
        rcases List.mem_cons.mp member with rfl | later
        · exact absurd equal same
        · exact ⟨a, later, equal⟩

/-- Two agents with one mode. -/
structure StunAgent.SameMode (agent other : StunAgent) : Prop where
  compatibility : other.compatibility = agent.compatibility
  fingerprint : other.usageFlags.useFingerprint = agent.usageFlags.useFingerprint
  unaligned : other.usageFlags.noAlignedAttributes = agent.usageFlags.noAlignedAttributes

/-- They both have the cookie, or none. -/
theorem StunAgent.SameMode.modern (same : agent.SameMode other) : other.modern = agent.modern := by
  rw [StunDialect.modern, StunDialect.modern, same.compatibility]

/-- A message of another agent over the same bytes. -/
structure StunMessage.SeenAs (msg copy : StunMessage) : Prop where
  buffer : copy.buffer = msg.buffer
  mode : copy.unaligned = msg.unaligned
  wireType : ∀ type, copy.wireType type = msg.wireType type

variable {copy : StunMessage}

/-- A copy gives the same for every look-up. -/
theorem StunMessage.SeenAs.find (view : msg.SeenAs copy) (type : StunAttribute) :
    copy.find type = msg.find type := by
  unfold StunMessage.find StunMessage.length
  rw [view.buffer, view.mode, view.wireType]

/-- It has the same size. -/
theorem StunMessage.SeenAs.recorded (view : msg.SeenAs copy) : copy.recorded = msg.recorded := by
  rw [StunMessage.recorded, view.buffer]
  rfl

/-- It has the same attributes. -/
theorem StunMessage.Written.seen (written : msg.Written attrs) (view : msg.SeenAs copy)
    (inside : msg.recorded ≤ copy.bufferLen.toNat) : copy.Written attrs := by
  constructor
  · rw [view.mode, written.mode]
  · rw [view.recorded]
    exact written.small
  · rw [view.recorded]
    exact inside
  · rw [view.buffer, view.recorded]
    exact written.bytes

/-- A sealed message is one for every agent with the same mode. -/
theorem StunAgent.Sealed.seen (whole : agent.Sealed platform shaKey attrs msg)
    (same : agent.SameMode other) (view : msg.SeenAs copy)
    (inside : msg.recorded ≤ copy.bufferLen.toNat) : other.Sealed platform shaKey attrs copy := by
  have length : copy.length.value = msg.length.value := by
    rw [StunMessage.length, view.buffer]
    rfl
  constructor
  · obtain ⟨integrity, back, written, type, rest⟩ := whole.tail
    exact ⟨integrity, back, written.seen view inside, type, rest⟩
  · obtain ⟨hash, found, digest⟩ := whole.digest
    refine ⟨hash, ?_, ?_⟩
    · rw [view.find, found]
    · have covered : other.covered copy hash = agent.covered msg hash := by
        unfold StunAgent.covered
        rw [same.compatibility, length, view.buffer]
      rw [view.buffer, covered, digest]
  · intro modern used
    rw [same.modern] at modern
    rw [same.fingerprint] at used
    rw [← whole.fingerprint modern used]
    unfold StunAgent.checkFingerprint StunMessage.find32 StunMessage.length
    rw [view.find, view.buffer, same.compatibility]

/-! ## Accepting -/

/-- Padded attributes are whole words. -/
theorem bytes_words (attrs : List (Attribute false)) :
    (attrs.flatMap Attribute.bytes).length % 4 = 0 := by
  induction attrs with
  | nil => rfl
  | cons attr rest ih =>
    have size := attr.length_bytes
    have padding : paddingOf false attr.value.length = (4 - attr.value.length % 4) % 4 := rfl
    rw [List.flatMap_cons, List.length_append, size, padding]
    omega

/-- A message with known attributes has the right size. -/
theorem StunMessage.Written.sized (written : msg.Written attrs)
    (mode : agent.usageFlags.noAlignedAttributes = unaligned)
    (type : (ntohs msg.buffer 0).toNat = typeNumber c m) (size : bufferLen.toNat = msg.recorded) :
    agent.Sized msg.buffer bufferLen := by
  subst mode
  have small := written.small
  have header : 20 ≤ msg.recorded := Nat.le_add_left _ _
  have first : (msg.buffer 0).toNat < 64 := by
    have high := bits_lt c
    rw [toNat_ntohs, typeNumber] at type
    omega
  have accepted : Accepted msg.buffer bufferLen.toNat agent.usageFlags.noAlignedAttributes
      msg.recorded := by
    refine ⟨first, ?_, rfl, Nat.le_of_eq size.symm, ⟨attrs, written.bytes⟩⟩
    intro aligned
    have length := congrArg List.length written.bytes
    rw [length_slice] at length
    have words : (attrs.flatMap Attribute.bytes).length % 4 = 0 := by
      clear written length
      revert attrs
      rw [aligned]
      intro attrs
      exact bytes_words attrs
    have recorded : msg.recorded = (ntohs msg.buffer 2).toNat + 20 := rfl
    omega
  have int : bufferLen.toUInt32.toInt32.toInt = (msg.recorded : Int) := by
    rw [toInt_size, size, Nat.mod_eq_of_lt (by omega), if_pos (by omega)]
  refine ⟨?_, ?_, ?_⟩
  · rw [int, validateBufferLength_accepts _ _ _ (by omega), Bool.not_not]
    exact accepted
  · rw [int]
    unfold bufferInvalid
    omega
  · rw [int]
    unfold bufferIncomplete
    omega

/-- Known attributes are not found unknown. -/
theorem StunMessage.Written.findUnknowns (written : msg.Written attrs)
    (mode : agent.usageFlags.noAlignedAttributes = unaligned)
    (known : ∀ attr ∈ attrs, agent.Unknown attr.type = false) (room : Nat) :
    (agent.findUnknowns msg room).value = [] := by
  subst mode
  have none : agent.unknownTypes attrs = [] := by
    rw [StunAgent.unknownTypes, List.filter_eq_nil_iff]
    intro type member
    obtain ⟨attr, listed, rfl⟩ := List.mem_map.mp member
    rw [known attr listed]
    decide
  rw [value_findUnknowns written.bytes, none, List.take_nil]
  split <;> rfl

/-- The digest of a sealed message is right under its key. -/
theorem StunAgent.Sealed.passed (whole : agent.Sealed platform shaKey attrs msg) (filled : key ≠ [])
    {saved : Option (Vector UInt8 16)} {kept : StunMessage}
    (made : (agent.digestKey platform msg key saved).value = some (shaKey, kept)) :
    (agent.checkIntegrity platform msg false (some key) saved).value =
      .passed { kept with key := some key } := by
  obtain ⟨hash, found, digest⟩ := whole.digest
  obtain ⟨md5, valid, rfl⟩ := digestKey_kept made
  have positive : 0 < key.length := List.length_pos_iff.mpr filled
  have sha := value_digest platform agent { msg with longTermKey := md5, longTermValid := valid }
    (find_offset found) shaKey
  unfold StunAgent.checkIntegrity
  dsimp only
  rw [if_pos (by simpa using positive), value_bind, found]
  dsimp only
  rw [value_bind, made]
  dsimp only
  rw [value_bind, sha]
  change (if (platform.hmacSha1 shaKey (agent.covered msg hash)).toList ≠
    (msg.buffer.offset hash).read 20 then _ else _ : Reading Integrity).value = _
  rw [if_neg (not_not.mpr digest.symm)]
  rfl

/-! ## Building -/

/-- A type, the cookie where there is one, and at most SOFTWARE. -/
structure StunAgent.Started (agent : StunAgent) (c : StunClass) (m : StunMethod)
    (start : StunMessage) : Prop where
  dialect : start.agent = some agent.toStunDialect
  type : (ntohs start.buffer 0).toNat = typeNumber c m
  cookie : agent.modern = true → start.hasCookie.value = true
  known : ∃ attrs : List (Attribute agent.usageFlags.noAlignedAttributes),
    start.Written attrs ∧ ∀ attr ∈ attrs, attr.type = attrSoftware

/-- The buffer keeps its size when SOFTWARE is added. -/
theorem addSoftware_bufferLen (agent : StunAgent) (msg : StunMessage) :
    (agent.addSoftware msg).bufferLen = msg.bufferLen := by
  unfold StunAgent.addSoftware StunMessage.appendSoftware StunMessage.appendBytes
  split
  · dsimp only
    by_cases refuses : msg.Refuses (UInt64.ofNat
      (softwareEnd (agent.softwareAttribute.getD packageString) 128 0))
    · rw [append_eq_none refuses]
    · obtain ⟨done, appended, -, made, -⟩ := append_eq_some attrSoftware refuses
      rw [appended]
      change done.msg.bufferLen = msg.bufferLen
      rw [made]
      rfl
  · rfl

/-- A header that was just written, and SOFTWARE behind it. -/
theorem started_of_header
    (written : msg.Written ([] : List (Attribute agent.usageFlags.noAlignedAttributes)))
    (twenty : msg.recorded = 20) (dialect : msg.agent = some agent.toStunDialect)
    (type : (ntohs msg.buffer 0).toNat = typeNumber c m)
    (cookie : agent.modern = true → msg.hasCookie.value = true)
    (room : (agent.addSoftware msg).recorded ≤ (agent.addSoftware msg).bufferLen.toNat) :
    agent.Started c m (agent.addSoftware msg) ∧ msg.Extends (agent.addSoftware msg) := by
  rw [addSoftware_bufferLen] at room
  obtain ⟨added, known, software, after⟩ := addSoftware_written agent written twenty room
  refine ⟨⟨?_, ?_, ?_, added, known, software⟩, after⟩
  · rw [after.agent, dialect]
  · rw [after.sameHead.type, type]
  · intro modern
    rw [after.hasCookie, cookie modern]

/-- The cookie is the start of the transaction id. -/
theorem value_hasCookie (msg : StunMessage) :
    msg.hasCookie.value = decide (slice msg.buffer 4 8 = htonl magicCookie) := by
  have first : msg.id.value.toList.take 4 = slice msg.buffer 4 8 := by
    apply List.ext_getElem
    · simp
    · intro index inside _
      simp [StunMessage.id, slice, Mem.read]
  simp only [StunMessage.hasCookie, value_bind, value_pure, first]

/-- A request is begun. -/
theorem initRequest_started
    (made : agent.initRequest blank buffer bufferLen m id = some start)
    (room : start.recorded ≤ start.bufferLen.toNat) :
    agent.Started .request m start ∧ start.key = none ∧ start.longTermValid = false := by
  unfold StunAgent.initRequest at made
  split at made
  · exact absurd made (by simp)
  · rename_i header new
    obtain rfl := some.inj made
    obtain ⟨recorded, size, enough⟩ := recorded_init new
    obtain ⟨written, adopted⟩ := written_init new
    have type := type_init new
    have fields : header.key = none ∧ header.longTermValid = false := by
      unfold StunMessage.init at new
      split at new
      · exact absurd new (by simp)
      · rw [← some.inj new]
        exact ⟨rfl, rfl⟩
    -- The cookie is written into the header.
    have kept : ∀ index, index < 4 → (agent.addCookie header).buffer index = header.buffer index := by
      intro index low
      unfold StunAgent.addCookie
      split
      · exact Mem.store_outside _ (by omega)
      · rfl
    have same : agent.addCookie header =
        { header with buffer := (agent.addCookie header).buffer } := by
      unfold StunAgent.addCookie
      split <;> rfl
    have twenty : (agent.addCookie header).recorded = 20 := by
      rw [StunMessage.recorded, ntohs_congr (kept 2 (by decide)) (kept 3 (by decide))]
      exact recorded
    have dialect : (agent.addCookie header).agent = some agent.toStunDialect := by
      rw [same]
      exact adopted
    have empty : (agent.addCookie header).Written
        ([] : List (Attribute agent.usageFlags.noAlignedAttributes)) := by
      constructor
      · rw [StunMessage.unaligned, dialect]
        rfl
      · rw [twenty]
        decide
      · rw [twenty, same]
        change 20 ≤ header.bufferLen.toNat
        omega
      · rw [twenty]
        rfl
    have cookie : agent.modern = true → (agent.addCookie header).hasCookie.value = true := by
      intro modern
      rw [value_hasCookie, decide_eq_true_iff, StunAgent.addCookie, if_pos modern]
      exact slice_store header.buffer 4 (htonl magicCookie)
    have begun := started_of_header empty twenty dialect
      (by rw [ntohs_congr (kept 0 (by decide)) (kept 1 (by decide)), type]) cookie room
    refine ⟨begun.1, ?_, ?_⟩
    · rw [begun.2.same, same]
      exact fields.1
    · rw [begun.2.same, same]
      exact fields.2

/-- The id is read back. -/
theorem id_init
    (made : blank.init c m id = some msg) : msg.id.value = id := by
  unfold StunMessage.init at made
  split at made
  · exact absurd made (by simp)
  · rw [← some.inj made]
    apply Vector.ext
    intro index inside
    simp only [StunMessage.id, value_look, Vector.getElem_ofFn]
    rw [Mem.store_inside _ index (by simpa using inside)]
    simp

/-- A response is begun. -/
theorem initResponse_started {request : StunMessage}
    (made : agent.initResponse buffer bufferLen request = some start)
    (cookie : agent.modern = true → request.hasCookie.value = true)
    (room : start.recorded ≤ start.bufferLen.toNat) :
    agent.Started .response request.getMethod.value start ∧ start.id.value = request.id.value ∧
      start.key = request.key ∧ start.longTermKey = request.longTermKey ∧
      start.longTermValid = request.longTermValid := by
  unfold StunAgent.initResponse StunAgent.answer at made
  split at made
  · exact absurd made (by simp)
  · dsimp only at made
    split at made
    · exact absurd made (by simp)
    · rename_i header new
      obtain rfl := some.inj made
      obtain ⟨recorded, size, enough⟩ := recorded_init new
      obtain ⟨written, dialect⟩ := written_init new
      have id := id_init new
      have fields : header.key = request.key ∧ header.longTermKey = request.longTermKey ∧
          header.longTermValid = request.longTermValid := by
        unfold StunMessage.init at new
        split at new
        · exact absurd new (by simp)
        · rw [← some.inj new]
          exact ⟨rfl, rfl, rfl⟩
      have mode : header.unaligned = agent.usageFlags.noAlignedAttributes := by
        rw [StunMessage.unaligned, dialect]
        rfl
      rw [mode] at written
      have known : agent.modern = true → header.hasCookie.value = true := by
        intro modern
        rw [← cookie modern]
        simp only [StunMessage.hasCookie, value_bind, value_pure, id]
      obtain ⟨begun, after⟩ := started_of_header written recorded dialect (type_init new) known room
      refine ⟨begun, ?_, ?_, ?_, ?_⟩
      · rw [after.id, id]
      · rw [after.same]
        exact fields.1
      · rw [after.same]
        exact fields.2.1
      · rw [after.same]
        exact fields.2.2

/-! ## Finishing -/

/-- A message with a key that is finished is sealed. -/
theorem finish_sealed (written : last.Written attrs) (ordinary : ∀ attr ∈ attrs, Ordinary attr.type)
    (small : last.recorded + 24 + agent.fingerprintRoom < 2 ^ 16)
    (used : last.usedKey given = some key)
    (sha : (agent.finishKey platform last key).1 = some shaKey)
    (finished : agent.finishMessage platform last given = some done) (positive : 0 < done.length) :
    ∃ final slot, agent.Sealed platform shaKey attrs final ∧
      (agent.finishKey platform last key).2.Extends final ∧
      final.recorded = last.recorded + 24 + agent.fingerprintRoom ∧
      agent.freeSlot last = some slot ∧ done = agent.save final (some key) slot := by
  have failed {rest : Finished} (zero : rest.length = 0) (same : some rest = some done) : False := by
    rw [← some.inj same, zero] at positive
    exact absurd positive (by decide)
  obtain ⟨md5, valid, kept⟩ := finishKey_kept platform agent last key
  have known : (agent.finishKey platform last key).2.Written attrs := by
    rw [kept]
    exact ⟨written.mode, written.small, written.inside, written.bytes⟩
  have recorded : (agent.finishKey platform last key).2.recorded = last.recorded := by
    rw [kept]
    rfl
  rw [finishMessage_eq, used, addIntegrity_some, sha] at finished
  split at finished
  · exact (failed rfl finished).elim
  · rename_i slot free
    split at finished
    · exact absurd finished (by simp)
    · exact (failed rfl finished).elim
    · rename_i signed first
      split at finished
      · exact absurd finished (by simp)
      · exact (failed rfl finished).elim
      · rename_i final second
        obtain ⟨whole, after, size⟩ := sealed_of_stages known ordinary (by omega) first second
        exact ⟨final, slot, whole, after, by omega, free, (some.inj finished).symm⟩

/-! ## Sending -/

/-- A message is filled and finished. There is room for the padding, and it has at most 65535 bytes.
-/
structure StunAgent.Sends (platform : Platform) (agent : StunAgent) (start : StunMessage)
    (items : List Item) (key : Option (List UInt8)) (done : Finished) : Prop where
  room : start.recorded + (items.map (Item.size agent.usageFlags.noAlignedAttributes)).sum ≤
    start.bufferLen.toNat
  small : start.recorded + (items.map (Item.size agent.usageFlags.noAlignedAttributes)).sum + 24 +
    agent.fingerprintRoom ≤ 65535
  built : ∃ last, start.appendAll items = some last ∧
    agent.finishMessage platform last key = some done
  positive : 0 < done.length

/-- The type of an attribute in the messages of an agent. -/
def StunAgent.wireType (agent : StunAgent) (type : StunAttribute) : StunAttribute :=
  if agent.compatibility = .oc2007 then
    if type = attrRealm then attrNonce else if type = attrNonce then attrRealm else type
  else type

/-- The agent decides the type. -/
theorem wireType_dialect (dialect : msg.agent = some agent.toStunDialect) (type : StunAttribute) :
    msg.wireType type = agent.wireType type := by
  unfold StunMessage.wireType StunAgent.wireType
  rw [dialect]
  simp

/-- Attributes that an agent understands and leaves to the application. -/
def StunAgent.Understands (agent : StunAgent) (items : List Item) : Prop :=
  ∀ item ∈ items, Ordinary item.type ∧ agent.Unknown (agent.wireType item.type) = false

/-- A message on its way, before it was finished. -/
structure StunAgent.Carried (agent : StunAgent) (c : StunClass) (m : StunMethod)
    (start : StunMessage) (items : List Item) (last : StunMessage) {unaligned : Bool}
    (attrs : List (Attribute unaligned)) : Prop where
  after : start.Extends last
  written : last.Written attrs
  ordinary : ∀ attr ∈ attrs, Ordinary attr.type
  types : ∀ attr ∈ attrs, attr.type = attrSoftware ∨
    ∃ item ∈ items, attr.type = agent.wireType item.type
  found : ∀ item ∈ items, ∃ found, (last.find item.type).value = some found
  small : last.recorded + 24 + agent.fingerprintRoom < 2 ^ 16

/-- The attributes that were appended. -/
theorem StunAgent.Sends.carried {key : Option (List UInt8)}
    (sends : agent.Sends platform start items key done) (begun : agent.Started c m start)
    (ordinary : ∀ item ∈ items, Ordinary item.type) :
    ∃ last, ∃ attrs : List (Attribute agent.usageFlags.noAlignedAttributes),
      agent.Carried c m start items last attrs ∧
        agent.finishMessage platform last key = some done := by
  obtain ⟨software, written, only⟩ := begun.known
  obtain ⟨last, appended, finished⟩ := sends.built
  have small := sends.small
  obtain ⟨same, added, all, after, recorded, known, contents⟩ :=
    written.appendAll sends.room (by omega)
  rw [appended, some.injEq] at all
  subst all
  have wire := wireType_dialect begun.dialect
  have member : ∀ attr ∈ added, ∃ item ∈ items, attr.type = agent.wireType item.type := by
    intro attr listed
    have content : attr.content ∈ items.map fun item => (start.wireType item.type,
        item.seen start.hasCookie.value agent.usageFlags.noAlignedAttributes) := by
      rw [← contents]
      exact List.mem_map_of_mem listed
    obtain ⟨item, inside, equal⟩ := List.mem_map.mp content
    refine ⟨item, inside, ?_⟩
    rw [← wire]
    exact (Prod.mk.inj equal).1.symm
  have types : ∀ attr ∈ software ++ added, attr.type = attrSoftware ∨
      ∃ item ∈ items, attr.type = agent.wireType item.type := by
    intro attr listed
    rcases List.mem_append.mp listed with old | new
    · exact .inl (only attr old)
    · exact .inr (member attr new)
  have plain : ∀ attr ∈ software ++ added, Ordinary attr.type := by
    intro attr listed
    rcases types attr listed with soft | ⟨item, inside, same⟩
    · rw [soft]
      decide
    · rw [same, ← wire]
      exact (ordinary item inside).wireType start
  refine ⟨last, software ++ added, ⟨after, known, plain, types, ?_, by omega⟩, finished⟩
  -- Nothing hides an item, so that the first one of its type is found.
  intro item inside
  have listed : (start.wireType item.type,
      item.seen start.hasCookie.value agent.usageFlags.noAlignedAttributes) ∈
        (software ++ added).map Attribute.content := by
    rw [List.map_append, contents]
    apply List.mem_append_right
    exact List.mem_map.mpr ⟨item, inside, rfl⟩
  have seen := visible_isSome Prod.fst (start.wireType item.type) (fun content member => by
    obtain ⟨attr, one, rfl⟩ := List.mem_map.mp member
    exact (plain attr one).shows) ⟨_, listed, rfl⟩
  have bytes := known.find item.type
  rw [after.wireType] at bytes
  obtain ⟨content, shown⟩ := isSome_iff_exists.mp seen
  rw [shown] at bytes
  obtain ⟨found, same, -⟩ := map_eq_some_iff.mp bytes
  exact ⟨found, same⟩

/-! ## Arriving -/

/-- What a message is for the agent that it is sent to. -/
structure StunAgent.Arrives (platform : Platform) (other : StunAgent) (shaKey : List UInt8)
    (c : StunClass) (m : StunMethod) (last : StunMessage) {unaligned : Bool}
    (attrs : List (Attribute unaligned)) (received : StunMessage) : Prop where
  whole : other.Sealed platform shaKey attrs received
  type : (ntohs received.buffer 0).toNat = typeNumber c m
  id : received.id.value = last.id.value
  finds : ∀ type, Ordinary type → (received.find type).value.map received.bytesOf =
    (last.find type).value.map last.bytesOf

/-- The transaction of a finished request. -/
def Finished.entry (done : Finished) : StunAgentSavedIds where
  id := done.msg.id.value
  method := done.msg.getMethod.value
  key := done.msg.key
  longTermKey := done.msg.longTermKey
  longTermValid := done.msg.longTermValid
  valid := true

/-- The message has the mode of the agent. -/
theorem adopt_dialect (agent : StunAgent) (blank : StunMessage) (buffer : Mem) (bufferLen : UInt64) :
    (agent.adopt blank buffer bufferLen).agent = some agent.toStunDialect := rfl

/-- A view of a message through an agent with the same mode. -/
theorem seenAs_adopt (same : agent.SameMode other) (dialect : msg.agent = some agent.toStunDialect)
    (blank : StunMessage) (bufferLen : UInt64) :
    msg.SeenAs (other.adopt blank msg.buffer bufferLen) := by
  constructor
  · rfl
  · rw [StunMessage.unaligned, StunMessage.unaligned, dialect]
    exact same.unaligned
  · intro type
    rw [wireType_dialect dialect, wireType_dialect (adopt_dialect other blank msg.buffer bufferLen), StunAgent.wireType,
      StunAgent.wireType, same.compatibility]

/-- MESSAGE-INTEGRITY hides everything behind it but FINGERPRINT. -/
theorem StunAgent.Sealed.finds (whole : agent.Sealed platform shaKey attrs msg)
    (written : last.Written attrs) (wire : ∀ type, msg.wireType type = last.wireType type)
    {type : StunAttribute} (ordinary : Ordinary type) :
    (msg.find type).value.map msg.bytesOf = (last.find type).value.map last.bytesOf := by
  obtain ⟨integrity, back, known, kind, -⟩ := whole.tail
  have plain := ordinary.wireType last
  rw [known.find type, written.find type, wire, List.map_append, List.map_cons, visible_hidden]
  · rw [Attribute.content, kind]
    exact fun equal => plain.1 equal.symm
  · rw [Attribute.content, kind]
    simp [hides, plain.2]

/-- The message arrives sealed. -/
theorem StunAgent.Carried.arrives (carried : agent.Carried c m start items last attrs)
    (begun : agent.Started c m start) (used : last.usedKey given = some key)
    (sha : (agent.finishKey platform last key).1 = some shaKey)
    (finished : agent.finishMessage platform last given = some done) (positive : 0 < done.length)
    (same : agent.SameMode other) (blank : StunMessage) :
    other.Arrives platform shaKey c m last attrs
        (other.adopt blank done.msg.buffer done.length.toUInt64) ∧
      other.Sized done.msg.buffer done.length.toUInt64 ∧
      done.msg = { (agent.finishKey platform last key).2 with
        buffer := done.msg.buffer, key := some key } ∧
      done.msg.id.value = last.id.value ∧
      done.msg.getMethod.value = last.getMethod.value ∧
      ∃ slot, agent.freeSlot last = some slot ∧ done.agent =
        if last.getClass.value = .request then
          agent.put slot done.entry
        else agent := by
  obtain ⟨final, slot, whole, after, size, free, rfl⟩ := finish_sealed carried.written
    carried.ordinary carried.small used sha finished positive
  obtain ⟨md5, valid, kept⟩ := finishKey_kept platform agent last key
  have small := carried.small
  have head : last.SameHead final := by
    have first : last.SameHead (agent.finishKey platform last key).2 := by
      rw [kept]
      exact ⟨rfl, rfl, rfl⟩
    exact first.trans after.sameHead
  have dialect : final.agent = some agent.toStunDialect := by
    rw [after.agent, kept, ← begun.dialect]
    exact carried.after.agent
  have length : final.length.value.toUInt64.toNat = final.recorded := by
    rw [UInt16.toNat_toUInt64, toNat_length, Nat.mod_eq_of_lt (by omega)]
  have view := seenAs_adopt same dialect blank final.length.value.toUInt64
  have received := whole.seen same view (Nat.le_of_eq length.symm)
  have type : (ntohs final.buffer 0).toNat = typeNumber c m := by
    rw [head.type, carried.after.sameHead.type, begun.type]
  have mode : other.usageFlags.noAlignedAttributes = unaligned := by
    rw [same.unaligned, ← carried.written.mode, carried.after.mode, StunMessage.unaligned,
      begun.dialect]
    rfl
  refine ⟨⟨received, type, head.id, ?_⟩, ?_, ?_, head.id, head.getMethod, slot, free, ?_⟩
  · intro sought ordinary
    apply received.finds carried.written _ ordinary
    intro one
    rw [view.wireType, after.wireType, kept]
    rfl
  · obtain ⟨integrity, back, known, -, -⟩ := whole.tail
    exact known.sized mode type length
  · change { final with key := some key } = _
    rw [after.same]
    rfl
  · unfold StunAgent.save
    rw [head.getClass]
    split <;> rfl

/-! ## The request -/

/-- Two agents that share a mode and the kind of credentials. -/
structure StunAgent.Peers (agent other : StunAgent) : Prop extends agent.SameMode other where
  shortTerm : other.usageFlags.shortTermCredentials = agent.usageFlags.shortTermCredentials
  longTerm : other.usageFlags.longTermCredentials = agent.usageFlags.longTermCredentials

/-- A request has the attributes that its credentials need. -/
structure StunAgent.Credited (agent : StunAgent) (items : List Item) : Prop where
  username : ∃ item ∈ items, item.type = attrUsername
  realm : agent.usageFlags.longTermCredentials = true → ∃ item ∈ items, item.type = attrRealm
  nonce : agent.usageFlags.longTermCredentials = true → ∃ item ∈ items, item.type = attrNonce

/-- A request that has every attribute lacks none. -/
theorem complete_of_found (kind : msg.getClass.value = .request)
    (username : (msg.find attrUsername).value.isSome = true)
    (hash : (msg.find attrMessageIntegrity).value.isSome = true)
    (long : agent.usageFlags.longTermCredentials = true →
      (msg.find attrRealm).value.isSome = true ∧ (msg.find attrNonce).value.isSome = true) :
    (agent.lacksCredentials msg).value = false := by
  have has (type : StunAttribute) :
      (msg.hasAttribute type).value = (msg.find type).value.isSome := rfl
  unfold StunAgent.lacksCredentials
  rw [value_bind, if_pos (.inl kind)]
  simp only [value_or, value_and, value_pure, value_not, has,
    username, hash, Bool.not_true, Bool.or_self, Bool.and_false, Bool.false_or, kind, decide_true,
    Bool.and_true, Bool.or_false]
  cases kept : agent.usageFlags.longTermCredentials with
  | false => rfl
  | true => rw [(long kept).1, (long kept).2]; rfl

/-- The validater gives its key. -/
theorem called_of_found (hash : (msg.find attrMessageIntegrity).value.isSome = true)
    (returns : ∀ name old, v agent msg name old = some (some key)) :
    (agent.callValidater msg (some v) false none).value = some (some key) := by
  have there : (msg.hasAttribute attrMessageIntegrity).value = true := hash
  unfold StunAgent.callValidater
  rw [value_bind, value_and, there]
  exact returns _ _

/-- Long-term credentials in the message make the key. -/
theorem digestKey_long (platform : Platform) (long : agent.usageFlags.longTermCredentials = true) {realm username : Found}
    (first : (msg.find attrRealm).value = some realm)
    (second : (msg.find attrUsername).value = some username) (key : List UInt8) :
    (agent.digestKey platform msg key none).value =
      some ((platform.hashCreds (msg.bytesOf realm) (msg.bytesOf username) key).toList,
        { msg with
          longTermKey := platform.hashCreds (msg.bytesOf realm) (msg.bytesOf username) key
          longTermValid := true }) := by
  unfold StunAgent.digestKey
  rw [if_pos long]
  dsimp only
  rw [value_bind, value_bind, first, second]
  rfl

/-- The key made of long-term credentials, which is kept, or the key itself. -/
structure StunAgent.SharedKey (agent : StunAgent) (key shaKey : List UInt8) (msg : StunMessage) :
    Prop where
  short : agent.usageFlags.longTermCredentials = false →
    msg.longTermValid = false ∧ shaKey = key
  long : agent.usageFlags.longTermCredentials = true →
    msg.longTermValid = true ∧ shaKey = msg.longTermKey.toList

/-- The key of a request that is finished. -/
theorem finishKey_request (platform : Platform) (key : List UInt8) (new : last.longTermValid = false)
    (realm : agent.usageFlags.longTermCredentials = true →
      (last.find attrRealm).value.isSome = true)
    (username : (last.find attrUsername).value.isSome = true) :
    ∃ shaKey, (agent.finishKey platform last key).1 = some shaKey ∧
      agent.SharedKey key shaKey (agent.finishKey platform last key).2 ∧
      ∀ first second, agent.usageFlags.longTermCredentials = true →
        (last.find attrRealm).value = some first → (last.find attrUsername).value = some second →
        shaKey = (platform.hashCreds (last.bytesOf first) (last.bytesOf second) key).toList := by
  cases long : agent.usageFlags.longTermCredentials with
  | false =>
    have plain : agent.finishKey platform last key = (some key, last) := by
      rw [StunAgent.finishKey, new, long]
      rfl
    rw [plain]
    refine ⟨key, rfl, ⟨fun _ => ⟨new, rfl⟩, ?_⟩, ?_⟩
    · intro other
      rw [long] at other
      exact absurd other (by decide)
    · intro _ _ other
      exact absurd other (by decide)
  | true =>
    obtain ⟨first, found⟩ := isSome_iff_exists.mp (realm long)
    obtain ⟨second, named⟩ := isSome_iff_exists.mp username
    let md5 := platform.hashCreds (last.bytesOf first) (last.bytesOf second) key
    have made : agent.finishKey platform last key =
        (some md5.toList, { last with longTermKey := md5, longTermValid := true }) := by
      rw [StunAgent.finishKey, new, long, found, named]
      rfl
    rw [made]
    refine ⟨md5.toList, rfl, ⟨?_, fun _ => ⟨rfl, rfl⟩⟩, ?_⟩
    · intro other
      rw [long] at other
      exact absurd other (by decide)
    · intro one two _ realms names
      rw [found, some.injEq] at realms
      rw [named, some.injEq] at names
      rw [← realms, ← names]

/-- The receiver of a request makes the same key. -/
theorem digestKey_request {received : StunMessage} (peers : agent.Peers other)
    (arrives : other.Arrives platform shaKey c m last attrs received)
    (new : received.longTermValid = false)
    (short : agent.usageFlags.longTermCredentials = false → shaKey = key)
    (long : agent.usageFlags.longTermCredentials = true → ∃ first second,
      (last.find attrRealm).value = some first ∧ (last.find attrUsername).value = some second ∧
      shaKey = (platform.hashCreds (last.bytesOf first) (last.bytesOf second) key).toList) :
    ∃ kept, (other.digestKey platform received key none).value = some (shaKey, kept) ∧
      other.SharedKey key shaKey kept := by
  cases mode : agent.usageFlags.longTermCredentials with
  | false =>
    refine ⟨received, ?_, ⟨fun _ => ⟨new, short mode⟩, ?_⟩⟩
    · rw [StunAgent.digestKey, peers.longTerm, mode, short mode]
      rfl
    · intro other
      rw [peers.longTerm, mode] at other
      exact absurd other (by decide)
  | true =>
    obtain ⟨first, second, found, named, rfl⟩ := long mode
    have realms := arrives.finds attrRealm (by decide)
    have names := arrives.finds attrUsername (by decide)
    rw [found, map_some] at realms
    rw [named, map_some] at names
    obtain ⟨one, there, bytes⟩ := map_eq_some_iff.mp realms
    obtain ⟨two, here, name⟩ := map_eq_some_iff.mp names
    have value := digestKey_long platform (show other.usageFlags.longTermCredentials = true by
      rw [peers.longTerm, mode]) there here key
    rw [bytes, name] at value
    refine ⟨_, value, ⟨?_, fun _ => ⟨rfl, rfl⟩⟩⟩
    intro none
    rw [peers.longTerm, mode] at none
    exact absurd none (by decide)

/-- What is left of an accepted request. -/
structure StunAgent.Accepts (platform : Platform) (agent : StunAgent) (buffer : Mem)
    (bufferLen : UInt64) (blank : StunMessage) (validater : Option Validater)
    (key shaKey : List UInt8) (result : Validation) : Prop where
  done : (agent.validate platform blank buffer bufferLen validater).value = some result
  success : result.status = .success
  kept : result.agent = agent
  buffer : result.msg.buffer = buffer
  keyed : result.msg.key = some key
  shared : agent.SharedKey key shaKey result.msg

/-- A sealed message has no unknown types, if MESSAGE-INTEGRITY is known. -/
theorem StunAgent.Sealed.known (whole : other.Sealed platform shaKey attrs msg)
    (same : agent.SameMode other) (signs : other.Unknown attrMessageIntegrity = false)
    (understood : other.Understands items) (types : ∀ attr ∈ attrs, attr.type = attrSoftware ∨
      ∃ item ∈ items, attr.type = agent.wireType item.type)
    (mode : other.usageFlags.noAlignedAttributes = unaligned) (room : Nat) :
    (other.findUnknowns msg room).value = [] := by
  obtain ⟨integrity, back, written, kind, rest⟩ := whole.tail
  apply written.findUnknowns mode
  intro attr member
  rcases List.mem_append.mp member with front | tail
  · rcases types attr front with soft | ⟨item, inside, type⟩
    · rw [soft]
      rfl
    · have equal : agent.wireType item.type = other.wireType item.type := by
        rw [StunAgent.wireType, StunAgent.wireType, same.compatibility]
      rw [type, equal]
      exact (understood item inside).2
  · rcases List.mem_cons.mp tail with rfl | later
    · rw [kind]
      exact signs
    · rw [rest attr later]
      rfl

/-- A request is accepted by the agent that it is sent to. -/
theorem request_accepted {requester : StunAgent}
    (peers : requester.Peers responder) (checks : responder.usageFlags.ignoreCredentials = false)
    (signs : responder.Unknown attrMessageIntegrity = false) (filled : key ≠ [])
    (begun : requester.Started .request m start) (new : start.key = none)
    (fresh : start.longTermValid = false)
    (sends : requester.Sends platform start items (some key) request)
    (understood : responder.Understands items) (credited : requester.Credited items)
    (returns : ∀ msg name old, v responder msg name old = some (some key)) (blank : StunMessage) :
    ∃ result shaKey, responder.Accepts platform request.msg.buffer request.length.toUInt64 blank
        (some v) key shaKey result ∧
      requester.SharedKey key shaKey request.msg ∧ request.msg.key = some key ∧
      request.msg.getClass.value = .request ∧
      (requester.modern = true → request.msg.hasCookie.value = true) ∧
      ∃ slot : Fin 200, request.agent.sent slot = request.entry := by
  obtain ⟨last, attrs, carried, finished⟩ := sends.carried begun
    fun item inside => (understood item inside).1
  have found {type : StunAttribute} (there : ∃ item ∈ items, item.type = type) :
      (last.find type).value.isSome = true := by
    obtain ⟨item, inside, rfl⟩ := there
    exact isSome_iff_exists.mpr (carried.found item inside)
  have used : last.usedKey (some key) = some key := by
    rw [StunMessage.usedKey, carried.after.same]
    change (if start.key.isSome then start.key else some key) = some key
    rw [new]
    rfl
  have unset : last.longTermValid = false := by
    rw [carried.after.same]
    exact fresh
  obtain ⟨shaKey, sha, shared, hashed⟩ := finishKey_request platform key unset
    (fun long => found (credited.realm long)) (found credited.username)
  obtain ⟨arrives, sized, left, id, method, slot, -, saves⟩ := carried.arrives begun used sha finished
    sends.positive peers.toSameMode blank
  let received := responder.adopt blank request.msg.buffer request.length.toUInt64
  have kind : received.getClass.value = .request := getClass_of_type arrives.type (by decide)
  have here {type : StunAttribute} (ordinary : Ordinary type)
      (there : ∃ item ∈ items, item.type = type) : (received.find type).value.isSome = true := by
    have same := congrArg Option.isSome (arrives.finds type ordinary)
    rw [isSome_map, isSome_map, found there] at same
    exact same
  obtain ⟨hash, integrity, -⟩ := arrives.whole.digest
  have hashed_there : (received.find attrMessageIntegrity).value.isSome = true := by
    rw [integrity]
    rfl
  obtain ⟨kept, made, right⟩ := digestKey_request peers arrives rfl (fun short => (shared.short short).2)
    (fun long => by
      obtain ⟨first, one⟩ := isSome_iff_exists.mp (found (credited.realm long))
      obtain ⟨second, two⟩ := isSome_iff_exists.mp (found credited.username)
      exact ⟨first, second, one, two, hashed first second long one two⟩)
  have ignore : (responder.ignoresCredentials received).value = false := by
    rw [value_ignoresCredentials, checks, isAuthError_of_class (by rw [kind]; decide), kind]
    rfl
  have cookie : requester.modern = true → received.hasCookie.value = true := by
    intro modern
    rw [← begun.cookie modern, ← carried.after.hasCookie]
    simp only [StunMessage.hasCookie, value_bind, value_pure]
    rw [arrives.id]
  have enters : responder.Enters received none := by
    constructor
    · intro modern
      exact cookie (by rw [← peers.modern, modern])
    · exact arrives.whole.fingerprint
    · rw [matchSent_eq_none, kind]
      decide
  have passes : responder.Passes platform received (some v) none (some key)
      { kept with key := some key } := by
    constructor
    · intro _ _
      exact complete_of_found kind (here (by decide) credited.username) hashed_there fun long =>
        ⟨here (by decide) (credited.realm (by rw [← peers.longTerm, long])),
          here (by decide) (credited.nonce (by rw [← peers.longTerm, long]))⟩
    · rw [ignore]
      exact called_of_found hashed_there fun name old => returns received name old
    · rw [ignore]
      exact arrives.whole.passed filled made
  obtain ⟨md5, valid, view⟩ := digestKey_kept made
  have mode : responder.usageFlags.noAlignedAttributes =
      requester.usageFlags.noAlignedAttributes := peers.unaligned
  have none : (responder.findUnknowns { kept with key := some key } 1).value = [] := by
    rw [view]
    exact arrives.whole.known peers.toSameMode signs understood carried.types mode 1
  have whole := validate_of_passes sized enters passes
  refine ⟨_, shaKey, ⟨whole, ?_, rfl, ?_, rfl, ⟨right.short, right.long⟩⟩, ?_, ?_, ?_, ?_, slot,
    ?_⟩
  · change acceptedStatus _ (responder.findUnknowns { kept with key := some key } 1).value = _
    rw [none]
    rfl
  · rw [view]
    rfl
  · rw [left]
    exact ⟨shared.short, shared.long⟩
  · rw [left]
  · exact kind
  · exact cookie
  · have sent : last.getClass.value = .request :=
      getClass_of_type (show (ntohs last.buffer 0).toNat = typeNumber .request m by
        rw [carried.after.sameHead.type, begun.type]) (by decide)
    rw [saves, if_pos sent]
    simp

/-! ## The response -/

/-- A transaction waits in a slot, and is in no other. -/
structure StunAgent.Awaits (agent : StunAgent) (entry : StunAgentSavedIds) (slot : Fin 200) :
    Prop where
  saved : agent.sent slot = entry
  only : ∀ other : Fin 200, (agent.sent other).valid = true →
    (agent.sent other).method = entry.method → (agent.sent other).id = entry.id → other = slot

/-- A shared key is used. -/
theorem finishKey_shared (shared : agent.SharedKey key shaKey msg) :
    agent.finishKey platform msg key = (some shaKey, msg) := by
  unfold StunAgent.finishKey
  cases mode : agent.usageFlags.longTermCredentials with
  | false =>
    obtain ⟨new, rfl⟩ := shared.short mode
    rw [new]
    rfl
  | true =>
    obtain ⟨valid, rfl⟩ := shared.long mode
    rw [valid]
    rfl

/-- The receiver takes the key from the transaction. -/
theorem digestKey_shared (platform : Platform) (received : StunMessage)
    (shared : agent.SharedKey key shaKey msg) :
    ∃ kept, (agent.digestKey platform received key
      (if msg.longTermValid then some msg.longTermKey else none)).value = some (shaKey, kept) := by
  unfold StunAgent.digestKey
  cases mode : agent.usageFlags.longTermCredentials with
  | false =>
    obtain ⟨new, rfl⟩ := shared.short mode
    exact ⟨received, rfl⟩
  | true =>
    obtain ⟨valid, rfl⟩ := shared.long mode
    rw [valid]
    exact ⟨_, rfl⟩

/-- The key of the transaction is used, also by the validater. -/
theorem called_with_key (ignore : Bool)
    (forced : agent.usageFlags.forceValidater = true →
      ∃ v, validater = some v ∧ ∀ msg name old, v agent msg name old = some (some key)) :
    (agent.callValidater msg validater ignore (some key)).value = some (some key) := by
  unfold StunAgent.callValidater
  rw [value_bind, value_and]
  cases force : agent.usageFlags.forceValidater with
  | false => simp
  | true =>
    obtain ⟨v, rfl, returns⟩ := forced force
    cases (msg.hasAttribute attrMessageIntegrity).value with
    | false => rfl
    | true => exact returns _ _ _

/-- A response is accepted while its transaction is saved. -/
theorem response_accepted {later : StunAgent} {asked : StunMessage} {response : Finished} {slot : Fin 200} (peers : responder.Peers later)
    (signs : later.Unknown attrMessageIntegrity = false) (filled : key ≠ [])
    (begun : responder.Started .response asked.getMethod.value start)
    (id : start.id.value = asked.id.value) (keyed : start.key = some key)
    (shared : responder.SharedKey key shaKey start)
    (sends : responder.Sends platform start items given response)
    (understood : later.Understands items) (same : asked.buffer = request.msg.buffer)
    (known : request.msg.key = some key) (recalled : later.SharedKey key shaKey request.msg)
    (awaits : later.Awaits request.entry slot) (forced : later.usageFlags.forceValidater = true →
      ∃ v, validater = some v ∧ ∀ msg name old, v later msg name old = some (some key))
    (blank : StunMessage) :
    ∃ result, (later.validate platform blank response.msg.buffer response.length.toUInt64
      validater).value = some result ∧ result.status = .success := by
  obtain ⟨last, attrs, carried, finished⟩ := sends.carried begun
    fun item inside => (understood item inside).1
  have used : last.usedKey given = some key := by
    rw [StunMessage.usedKey, carried.after.same]
    change (if start.key.isSome then start.key else given) = some key
    rw [keyed]
    rfl
  have kept : responder.SharedKey key shaKey last := by
    rw [carried.after.same]
    exact ⟨shared.short, shared.long⟩
  obtain ⟨arrives, sized, -⟩ := carried.arrives begun used (by rw [finishKey_shared kept]) finished
    sends.positive peers.toSameMode blank
  let received := later.adopt blank response.msg.buffer response.length.toUInt64
  have kind : received.getClass.value = .response := getClass_of_type arrives.type (by decide)
  -- The response has the method and the id of the request.
  have method : received.getMethod.value = request.msg.getMethod.value := by
    have number := getMethod_of_type arrives.type (by decide)
    rw [Nat.mod_eq_of_lt (getMethod_lt asked)] at number
    rw [UInt16.toNat_inj.mp number]
    exact getMethod_congr (by rw [same])
  have transaction : received.id.value = request.msg.id.value := by
    rw [arrives.id, carried.after.id, id, StunMessage.id, StunMessage.id, same]
  have answers : later.Answers received slot := by
    refine ⟨.inl kind, ?_, ?_⟩
    · rw [StunAgentSavedIds.Answered, awaits.saved, method, transaction]
      exact ⟨rfl, rfl, rfl⟩
    · rintro earlier before ⟨valid, one, two⟩
      rw [method] at one
      rw [transaction] at two
      exact absurd (awaits.only earlier valid one two) (Fin.ne_of_lt before)
  have cookie : later.modern = true → received.hasCookie.value = true := by
    intro modern
    rw [← begun.cookie (by rw [← peers.modern, modern]), ← carried.after.hasCookie]
    simp only [StunMessage.hasCookie, value_bind, value_pure]
    rw [arrives.id]
  have enters : later.Enters received (some slot) :=
    ⟨cookie, arrives.whole.fingerprint, matchSent_eq_some.mpr answers⟩
  have saved : later.savedKey (some slot) = some key := by
    change (later.sent slot).key = some key
    rw [awaits.saved]
    exact known
  have md5 : later.savedMd5 (some slot) =
      if request.msg.longTermValid then some request.msg.longTermKey else none := by
    change (if (later.sent slot).longTermValid then some (later.sent slot).longTermKey
      else none) = _
    rw [awaits.saved]
    rfl
  obtain ⟨view, made⟩ := digestKey_shared platform received recalled
  have mode : later.usageFlags.noAlignedAttributes = responder.usageFlags.noAlignedAttributes :=
    peers.unaligned
  have checked : ∃ final, (later.checkIntegrity platform received
      (later.ignoresCredentials received).value (some key) (later.savedMd5 (some slot))).value =
        .passed final ∧ final.buffer = received.buffer := by
    rw [md5]
    cases (later.ignoresCredentials received).value with
    | true => exact ⟨received, rfl, rfl⟩
    | false =>
      have passed := arrives.whole.passed filled made
      exact ⟨_, passed, (checkIntegrity_kept passed).1⟩
  obtain ⟨final, passed, bytes⟩ := checked
  have passes : later.Passes platform received validater (some slot) (some key) final := by
    refine ⟨?_, ?_, passed⟩
    · intro new
      rw [saved] at new
      exact absurd new (by simp)
    · rw [saved]
      exact called_with_key _ forced
  have whole := validate_of_passes sized enters passes
  refine ⟨_, whole, ?_⟩
  -- Without the transaction, the agent knows the same types.
  have sealed : (later.over (some slot)).Sealed platform shaKey attrs received :=
    ⟨arrives.whole.tail, arrives.whole.digest, arrives.whole.fingerprint⟩
  have alike : responder.SameMode (later.over (some slot)) :=
    ⟨peers.compatibility, peers.fingerprint, peers.unaligned⟩
  have none : ((later.over (some slot)).findUnknowns received 1).value = [] :=
    sealed.known alike signs understood carried.types mode 1
  have unchanged : (later.over (some slot)).findUnknowns final 1 =
      (later.over (some slot)).findUnknowns received 1 := by
    unfold StunAgent.findUnknowns StunMessage.length
    rw [bytes]
  change acceptedStatus _ ((later.over (some slot)).findUnknowns final 1).value = _
  rw [unchanged, none]
  rfl

/-! ## Both ways -/

/-- `stun_agent_init_request`, attributes and `stun_agent_finish_message`. -/
structure StunAgent.Requests (platform : Platform) (agent : StunAgent) (m : StunMethod)
    (items : List Item) (key : List UInt8) (done : Finished) : Prop where
  begun : ∃ blank buffer bufferLen id start,
    agent.initRequest blank buffer bufferLen m id = some start ∧
      agent.Sends platform start items (some key) done
  credited : agent.Credited items

/-- The answer that an agent makes to a request. -/
def StunAgent.Replies (platform : Platform) (agent : StunAgent) (request : StunMessage)
    (items : List Item) (key : Option (List UInt8)) (done : Finished) : Prop :=
  ∃ buffer bufferLen start, agent.initResponse buffer bufferLen request = some start ∧
    agent.Sends platform start items key done

/-- A validater that gives the same key to everyone. -/
def StunAgent.Grants (agent : StunAgent) (validater : Option Validater) (key : List UInt8) : Prop :=
  ∃ v, validater = some v ∧ ∀ msg name old, v agent msg name old = some (some key)

/-- An agent whose transactions have changed. -/
def StunAgent.withIds (agent : StunAgent) (ids : Vector StunAgentSavedIds 200) : StunAgent :=
  { agent with sentIds := ids }

/-- A request is accepted, and so is its response while the transaction is saved. -/
theorem success_of_round_trip {requester responder : StunAgent} {m : StunMethod} {items : List Item}
    {key : List UInt8} {request : Finished} {validater : Option Validater}
    (peers : requester.Peers responder) (checks : responder.usageFlags.ignoreCredentials = false)
    (signs : responder.Unknown attrMessageIntegrity = false) (filled : key ≠ [])
    (requests : requester.Requests platform m items key request)
    (understood : responder.Understands items) (grants : responder.Grants validater key)
    (blank : StunMessage) :
    (∃ slot : Fin 200, request.agent.sent slot = request.entry) ∧
    ∃ result, (responder.validate platform blank request.msg.buffer request.length.toUInt64
        validater).value = some result ∧ result.status = .success ∧
      ∀ (ids others : Vector StunAgentSavedIds 200) (slot : Fin 200) (more : List Item)
        (given : Option (List UInt8)) (response : Finished) (later : Option Validater)
        (empty : StunMessage),
        requester.Unknown attrMessageIntegrity = false → requester.Understands more →
        (responder.withIds others).Replies platform result.msg more given response →
        (requester.withIds ids).Awaits request.entry slot →
        (requester.usageFlags.forceValidater = true → (requester.withIds ids).Grants later key) →
        ∃ final, ((requester.withIds ids).validate platform empty response.msg.buffer
          response.length.toUInt64 later).value = some final ∧ final.status = .success := by
  obtain ⟨new, buffer, bufferLen, id, start, made, sends⟩ := requests.begun
  obtain ⟨v, rfl, returns⟩ := grants
  obtain ⟨begun, unkeyed, fresh⟩ := initRequest_started made
    (Nat.le_trans (Nat.le_add_right _ _) sends.room)
  obtain ⟨result, shaKey, accepts, shared, keyed, kind, cookie, saved⟩ := request_accepted peers
    checks signs filled begun unkeyed fresh sends understood requests.credited returns blank
  refine ⟨saved, result, accepts.done, accepts.success, ?_⟩
  intro ids others slot more given response later empty known attributes replies awaits forced
  obtain ⟨reply, size, answer, answered, continues⟩ := replies
  have back : (responder.withIds others).Peers (requester.withIds ids) :=
    ⟨⟨peers.compatibility.symm, peers.fingerprint.symm, peers.unaligned.symm⟩,
      peers.shortTerm.symm, peers.longTerm.symm⟩
  have hasCookie : (responder.withIds others).modern = true → result.msg.hasCookie.value = true := by
    intro modern
    have asked := cookie (by rw [← peers.modern]; exact modern)
    simp only [StunMessage.hasCookie, StunMessage.id, value_bind, value_pure,
      value_look] at asked ⊢
    rw [accepts.buffer]
    exact asked
  obtain ⟨started, same, key_kept, md5_kept, valid_kept⟩ := initResponse_started answered hasCookie
    (Nat.le_trans (Nat.le_add_right _ _) continues.room)
  have inherited : (responder.withIds others).SharedKey key shaKey answer := by
    constructor
    · intro short
      rw [valid_kept]
      exact accepts.shared.short short
    · intro long
      rw [valid_kept, md5_kept]
      exact accepts.shared.long long
  exact response_accepted back known filled started same (by rw [key_kept, accepts.keyed]) inherited
    continues attributes accepts.buffer keyed ⟨shared.short, shared.long⟩ awaits forced empty

/-- A USERNAME of one byte. -/
def usernameItem : Item := ⟨attrUsername, fun _ => 97, 1⟩

/-- A Binding request, signed with a key of one byte. -/
def namedRequest : Option Finished := do
  let start ← shortTermAgent.initRequest (blankMessage 0) (fun _ => 0) 200 1 (Vector.replicate 16 7)
  let last ← start.appendAll [usernameItem]
  shortTermAgent.finishMessage zeroPlatform last (some [1])

/-- What the agent that gets it makes of it. -/
def namedValidation (agent : StunAgent) : Option Validation := do
  let request ← namedRequest
  (agent.validate zeroPlatform (blankMessage 0) request.msg.buffer request.length.toUInt64
    (some fun _ _ _ _ => some (some [1]))).value

/-- Its answer. -/
def namedReply : Option Finished := do
  let result ← namedValidation shortTermAgent
  let start ← shortTermAgent.initResponse (fun _ => 0) 200 result.msg
  shortTermAgent.finishMessage zeroPlatform start none

/-- The request is made so. -/
theorem namedRequest_requests (made : namedRequest = some request) :
    shortTermAgent.Requests zeroPlatform 1 [usernameItem] [1] request := by
  have sized : namedRequest.map Finished.length = some 52 := by decide +kernel
  have begins : (shortTermAgent.initRequest (blankMessage 0) (fun _ => 0) 200 1
      (Vector.replicate 16 7)).map (fun start => (start.recorded, start.bufferLen)) =
        some (20, 200) := by
    decide +kernel
  rw [made] at sized
  unfold namedRequest at made
  obtain ⟨start, begun, rest⟩ := bind_eq_some_iff.mp made
  obtain ⟨last, appended, finished⟩ := bind_eq_some_iff.mp rest
  rw [begun] at begins
  obtain ⟨recorded, size⟩ := Prod.mk.inj (some.inj begins)
  constructor
  · refine ⟨_, _, _, _, start, begun, ?_, ?_, ⟨last, appended, finished⟩, ?_⟩
    · rw [recorded, size]
      decide +kernel
    · rw [recorded]
      decide +kernel
    · rw [some.inj sized]
      decide
  · exact ⟨⟨usernameItem, List.mem_cons_self, rfl⟩, fun long => absurd long (by decide),
      fun long => absurd long (by decide)⟩

/-- USERNAME is understood. -/
theorem username_understood (agent : StunAgent)
    (known : agent.Unknown (agent.wireType attrUsername) = false) :
    agent.Understands [usernameItem] := by
  intro item member
  obtain rfl := List.mem_singleton.mp member
  exact ⟨by decide, known⟩

/-- That request is accepted, and so is the answer. -/
theorem success_of_named_request :
    ∃ request result reply final, namedRequest = some request ∧
      namedValidation shortTermAgent = some result ∧ result.status = .success ∧
      namedReply = some reply ∧
      ((shortTermAgent.withIds request.agent.sentIds).validate zeroPlatform (blankMessage 0)
        reply.msg.buffer reply.length.toUInt64 none).value = some final ∧
      final.status = .success := by
  have fits : namedReply.map Finished.length = some 44 := by decide +kernel
  have slots : namedRequest.map (fun request =>
      decide (∀ other : Fin 200, (request.agent.sent other).valid = true → other = 0)) =
        some true := by
    decide +kernel
  obtain ⟨request, made, first⟩ := map_eq_some_iff.mp slots
  obtain ⟨reply, replied, length⟩ := map_eq_some_iff.mp fits
  have understood : shortTermAgent.Understands [usernameItem] :=
    username_understood _ (by decide +kernel)
  obtain ⟨⟨slot, saved⟩, result, validated, success, back⟩ := success_of_round_trip
    (show shortTermAgent.Peers shortTermAgent from ⟨⟨rfl, rfl, rfl⟩, rfl, rfl⟩) rfl
    (by decide +kernel) (show ([1] : List UInt8) ≠ [] by simp) (namedRequest_requests made)
    understood (show shortTermAgent.Grants (some fun _ _ _ _ => some (some [1])) [1] from
      ⟨_, rfl, fun _ _ _ => rfl⟩) (blankMessage 0)
  have accepted : namedValidation shortTermAgent = some result := by
    rw [namedValidation, made]
    exact validated
  -- The answer is made from the request as it was accepted.
  have begins : (namedValidation shortTermAgent >>= fun result =>
      shortTermAgent.initResponse (fun _ => 0) 200 result.msg).map
        (fun start => (start.recorded, start.bufferLen)) = some (20, 200) := by
    decide +kernel
  have built := replied
  rw [namedReply, accepted] at built
  rw [accepted] at begins
  obtain ⟨start, begun, finished⟩ :
      ∃ start, shortTermAgent.initResponse (fun _ => 0) 200 result.msg = some start ∧
        shortTermAgent.finishMessage zeroPlatform start none = some reply :=
    bind_eq_some_iff.mp built
  have same : (shortTermAgent.initResponse (fun _ => 0) 200 result.msg).map
      (fun start => (start.recorded, start.bufferLen)) = some (20, 200) := begins
  rw [begun] at same
  obtain ⟨recorded, size⟩ := Prod.mk.inj (some.inj same)
  have replies : shortTermAgent.Replies zeroPlatform result.msg [] none reply := by
    refine ⟨_, _, start, begun, ?_, ?_, ⟨start, rfl, finished⟩, ?_⟩
    · rw [recorded, size]
      decide
    · rw [recorded]
      decide
    · rw [length]
      decide
  have alone := of_decide_eq_true first
  have zero : slot = 0 := alone slot (by rw [saved]; rfl)
  obtain ⟨final, validates, ends⟩ := back request.agent.sentIds shortTermAgent.sentIds slot [] none
    reply none (blankMessage 0) (by decide +kernel) (fun _ inside => absurd inside (by simp)) replies
    ⟨saved, fun other valid _ _ => by rw [alone other valid, zero]⟩ (fun force => absurd force (by decide))
  exact ⟨request, result, reply, final, made, accepted, success, replied, validates, ends⟩

/-- An agent that knows USERNAME but not MESSAGE-INTEGRITY. -/
def usernameAgent : StunAgent :=
  StunAgent.init freeSlots [attrUsername] .rfc3489 { shortTermCredentials := true }

/-- It rejects that request, although every appended attribute is known. -/
theorem named_request_refused :
    shortTermAgent.Peers usernameAgent ∧ usernameAgent.Understands [usernameItem] ∧
    usernameAgent.usageFlags.ignoreCredentials = false ∧
    usernameAgent.Grants (some fun _ _ _ _ => some (some [1])) [1] ∧
    ∃ request result, shortTermAgent.Requests zeroPlatform 1 [usernameItem] [1] request ∧
      (usernameAgent.validate zeroPlatform (blankMessage 0) request.msg.buffer
        request.length.toUInt64 (some fun _ _ _ _ => some (some [1]))).value = some result ∧
      result.status = .unknownRequestAttribute := by
  have status : (namedValidation usernameAgent).map Validation.status =
      some .unknownRequestAttribute := by
    decide +kernel
  obtain ⟨result, done, refused⟩ := map_eq_some_iff.mp status
  obtain ⟨request, made, validated⟩ := bind_eq_some_iff.mp done
  exact ⟨⟨⟨rfl, rfl, rfl⟩, rfl, rfl⟩, username_understood _ (by decide +kernel), rfl,
    ⟨_, rfl, fun _ _ _ => rfl⟩, request, result, namedRequest_requests made, validated, refused⟩

end Xice.Stun
