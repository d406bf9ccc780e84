import Xice.Stun.Finish
import Xice.Stun.Authentication

/-!
# What finishing writes

A message whose attributes are known stays so while it is built: SOFTWARE may come first, and
`stun_agent_finish_message` puts MESSAGE-INTEGRITY and FINGERPRINT last. The lengths that the sender
puts under digest and checksum are those that a receiver finds.
-/

namespace Xice.Stun

open Xice.Lib Word Mem List Reading Vector

variable {platform : Platform} {agent : StunAgent} {msg last : StunMessage} {unaligned : Bool}
  {attrs : List (Attribute unaligned)}

/-! ## Message types -/

/-- The number of `stun_set_type`: a method, with the two bits of a class behind its first five bits
and the next three. -/
def typeNumber (c : StunClass) (m : StunMethod) : Nat :=
  m.toNat / 128 % 32 * 512 + c.bits.toNat / 2 * 256 + m.toNat / 16 % 8 * 32 +
    c.bits.toNat % 2 * 16 + m.toNat % 16

variable {c : StunClass} {m : StunMethod} {type : StunAttribute} {shaKey : List UInt8}

/-- A class has two bits. -/
theorem bits_lt (c : StunClass) : c.bits.toNat < 4 := by
  cases c <;> decide

/-- The first byte of the type. -/
theorem toNat_typeHigh (c : StunClass) (m : StunMethod) :
    ((c.bits >>> 1) ||| ((m >>> 6) &&& (0x3e : UInt16))).toNat =
      m.toNat / 128 % 32 * 2 + c.bits.toNat / 2 := by
  have few := bits_lt c
  have mask : m.toNat / 2 ^ 6 &&& 0x3e = _ := and_mask (m.toNat / 2 ^ 6) 5 1
  rw [UInt16.toNat_or, UInt16.toNat_and, UInt16.toNat_shiftRight, UInt16.toNat_shiftRight]
  change (c.bits.toNat >>> 1) ||| (m.toNat >>> 6 &&& 0x3e) = _
  rw [Nat.shiftRight_eq_div_pow, Nat.shiftRight_eq_div_pow, mask, Nat.or_comm,
    or_low 1 (by omega)]
  omega

/-- The second byte. -/
theorem toNat_typeLow (c : StunClass) (m : StunMethod) :
    (((c.bits <<< 4) &&& (0x10 : UInt16)) ||| ((m <<< 1) &&& (0xe0 : UInt16)) |||
        (m &&& (0x0f : UInt16))).toNat =
      m.toNat / 16 % 8 * 32 + c.bits.toNat % 2 * 16 + m.toNat % 16 := by
  have few := bits_lt c
  have first : c.bits.toNat * 2 ^ 4 % 2 ^ 16 &&& 0x10 = _ :=
    and_mask (c.bits.toNat * 2 ^ 4 % 2 ^ 16) 1 4
  have second : m.toNat * 2 ^ 1 % 2 ^ 16 &&& 0xe0 = _ :=
    and_mask (m.toNat * 2 ^ 1 % 2 ^ 16) 3 5
  have third : m.toNat &&& 0x0f = _ := Nat.and_two_pow_sub_one_eq_mod m.toNat 4
  rw [UInt16.toNat_or, UInt16.toNat_or, UInt16.toNat_and, UInt16.toNat_and, UInt16.toNat_and,
    UInt16.toNat_shiftLeft, UInt16.toNat_shiftLeft]
  change (c.bits.toNat <<< 4 % 2 ^ 16 &&& 0x10) ||| (m.toNat <<< 1 % 2 ^ 16 &&& 0xe0) |||
    (m.toNat &&& 0x0f) = _
  rw [Nat.shiftLeft_eq, Nat.shiftLeft_eq, first, second, third, Nat.or_comm (_ * 2 ^ 4),
    or_low 5 (by omega)]
  have joined : m.toNat * 2 ^ 1 % 2 ^ 16 / 2 ^ 5 % 2 ^ 3 * 2 ^ 5 +
      c.bits.toNat * 2 ^ 4 % 2 ^ 16 / 2 ^ 4 % 2 ^ 1 * 2 ^ 4 =
        (m.toNat / 16 % 8 * 2 + c.bits.toNat % 2) * 2 ^ 4 := by
    omega
  rw [joined, or_low 4 (by omega)]
  omega

/-- The type of a new message. -/
theorem type_init {blank : StunMessage} {id : StunTransactionId}
    (made : blank.init c m id = some msg) : (ntohs msg.buffer 0).toNat = typeNumber c m := by
  have few := bits_lt c
  have high := toNat_typeHigh c m
  have low := toNat_typeLow c m
  unfold StunMessage.init at made
  split at made
  · exact absurd made (by simp)
  · rw [← Option.some.inj made, toNat_ntohs]
    dsimp only
    rw [store_outside _ (by omega), store_outside _ (by omega), stunSetType,
      store_inside _ 0 (by simp), store_inside _ 1 (by simp)]
    simp only [getElem_cons_zero, getElem_cons_succ, UInt16.toNat_toUInt8, high, low,
      typeNumber]
    omega

/-- One bit is tested. -/
theorem bit_ne_zero (t : UInt16) (bit : Nat) (mask : UInt16) (single : mask.toNat = 2 ^ bit) :
    t &&& mask ≠ 0 ↔ t.toNat / 2 ^ bit % 2 = 1 := by
  have cut : t.toNat &&& 2 ^ bit = t.toNat / 2 ^ bit % 2 * 2 ^ bit := by
    have masked := and_mask t.toNat 1 bit
    rw [Nat.shiftLeft_eq] at masked
    simpa using masked
  rw [ne_eq, ← UInt16.toNat_inj, UInt16.toNat_and, single, cut]
  change ¬_ = 0 ↔ _
  rw [Nat.mul_eq_zero]
  have power : 2 ^ bit ≠ 0 := (Nat.two_pow_pos bit).ne'
  omega

/-- Class and method in the number. -/
theorem typeNumber_parts (c : StunClass) (m : StunMethod) :
    typeNumber c m / 2 ^ 8 % 2 = c.bits.toNat / 2 ∧ typeNumber c m / 2 ^ 4 % 2 = c.bits.toNat % 2 ∧
      typeNumber c m / 512 % 32 * 128 + typeNumber c m / 32 % 8 * 16 + typeNumber c m % 16 =
        m.toNat % 4096 := by
  have few := bits_lt c
  have whole : m.toNat / 128 % 32 * 128 + m.toNat / 16 % 8 * 16 + m.toNat % 16 =
      m.toNat % 4096 := by
    omega
  have first : m.toNat / 128 % 32 < 32 := Nat.mod_lt _ (by decide)
  have second : m.toNat / 16 % 8 < 8 := Nat.mod_lt _ (by decide)
  have third : m.toNat % 16 < 16 := Nat.mod_lt _ (by decide)
  rw [← whole]
  unfold typeNumber
  clear whole
  generalize m.toNat / 128 % 32 = a at *
  generalize m.toNat / 16 % 8 = b at *
  generalize m.toNat % 16 = d at *
  have high : c.bits.toNat / 2 < 2 := by omega
  have low : c.bits.toNat % 2 < 2 := by omega
  generalize c.bits.toNat / 2 = p at *
  generalize c.bits.toNat % 2 = q at *
  have top : (a * 512 + p * 256 + b * 32 + q * 16 + d) / 512 = a := by omega
  have middle : (a * 512 + p * 256 + b * 32 + q * 16 + d) / 32 = a * 16 + p * 8 + b := by omega
  have bottom : (a * 512 + p * 256 + b * 32 + q * 16 + d) % 16 = d := by omega
  refine ⟨by omega, by omega, ?_⟩
  rw [top, middle, bottom]
  omega

/-- A type field that is not taken for another one. -/
theorem fixedType_eq {t : UInt16} (number : t.toNat = typeNumber c m) (plain : c ≠ .error) :
    fixedType t = t := by
  obtain ⟨first, second, -⟩ := typeNumber_parts c m
  rw [fixedType, if_neg]
  intro same
  rw [← number, same] at first second
  cases c with
  | error => exact plain rfl
  | request | indication => exact absurd first (by decide)
  | response => exact absurd second (by decide)

/-- The class by its two bits. -/
theorem getClass_value (msg : StunMessage) : msg.getClass.value =
    match decide (fixedType (ntohs msg.buffer 0) &&& 0x0100 ≠ 0),
      decide (fixedType (ntohs msg.buffer 0) &&& 0x0010 ≠ 0) with
    | false, false => .request
    | false, true => .indication
    | true, false => .response
    | true, true => .error := rfl

/-- The class is read back. -/
theorem getClass_of_type (number : (ntohs msg.buffer 0).toNat = typeNumber c m)
    (plain : c ≠ .error) : msg.getClass.value = c := by
  obtain ⟨first, second, -⟩ := typeNumber_parts c m
  rw [getClass_value, fixedType_eq number plain]
  simp only [bit_ne_zero (ntohs msg.buffer 0) 8 0x0100 rfl,
    bit_ne_zero (ntohs msg.buffer 0) 4 0x0010 rfl, number, first, second]
  cases c with
  | error => exact absurd rfl plain
  | request | indication | response => rfl

/-- The method by its bits. -/
theorem toNat_methodOf (t : UInt16) :
    (((t &&& (0x3e00 : UInt16)) >>> 2) ||| ((t &&& (0x00e0 : UInt16)) >>> 1) |||
      (t &&& (0x000f : UInt16))).toNat =
        t.toNat / 512 % 32 * 128 + t.toNat / 32 % 8 * 16 + t.toNat % 16 := by
  have first : t.toNat &&& 0x3e00 = _ := and_mask t.toNat 5 9
  have second : t.toNat &&& 0x00e0 = _ := and_mask t.toNat 3 5
  have third : t.toNat &&& 0x000f = _ := Nat.and_two_pow_sub_one_eq_mod t.toNat 4
  rw [UInt16.toNat_or, UInt16.toNat_or, UInt16.toNat_shiftRight, UInt16.toNat_shiftRight,
    UInt16.toNat_and, UInt16.toNat_and, UInt16.toNat_and]
  change ((t.toNat &&& 0x3e00) >>> 2) ||| ((t.toNat &&& 0x00e0) >>> 1) ||| (t.toNat &&& 0x000f) = _
  rw [Nat.shiftRight_eq_div_pow, Nat.shiftRight_eq_div_pow, first, second, third,
    show t.toNat / 2 ^ 9 % 2 ^ 5 * 2 ^ 9 / 2 ^ 2 = t.toNat / 512 % 32 * 2 ^ 7 by omega,
    show t.toNat / 2 ^ 5 % 2 ^ 3 * 2 ^ 5 / 2 ^ 1 = t.toNat / 32 % 8 * 2 ^ 4 by omega,
    or_low 7 (by omega),
    show t.toNat / 512 % 32 * 2 ^ 7 + t.toNat / 32 % 8 * 2 ^ 4 =
      (t.toNat / 512 % 32 * 8 + t.toNat / 32 % 8) * 2 ^ 4 by omega,
    or_low 4 (by omega)]
  omega

/-- A method has twelve bits. -/
theorem getMethod_lt (msg : StunMessage) : msg.getMethod.value.toNat < 4096 := by
  have number : msg.getMethod.value.toNat = _ := toNat_methodOf (fixedType (ntohs msg.buffer 0))
  omega

/-- The method is read back. -/
theorem getMethod_of_type (number : (ntohs msg.buffer 0).toNat = typeNumber c m)
    (plain : c ≠ .error) : msg.getMethod.value.toNat = m.toNat % 4096 := by
  have method : msg.getMethod.value.toNat = _ := toNat_methodOf (fixedType (ntohs msg.buffer 0))
  rw [method, fixedType_eq number plain, number]
  exact (typeNumber_parts c m).2.2

/-! ## Finding an attribute where it was put -/

/-- The search passes members that hide nothing. -/
theorem visible_past {α : Type} (typeOf : α → StunAttribute) (type : StunAttribute)
    {front : List α} (back : List α)
    (past : ∀ a ∈ front, typeOf a ≠ type ∧ hides type (typeOf a) = false) :
    visible typeOf type (front ++ back) = visible typeOf type back := by
  induction front with
  | nil => rfl
  | cons a rest ih =>
    obtain ⟨other, shows⟩ := past a mem_cons_self
    rw [cons_append, visible_cons, if_neg other, if_neg (by rw [shows]; decide)]
    exact ih (forall_mem_of_forall_mem_cons past)

/-- An attribute that is not hidden is found where it lies. -/
theorem StunMessage.Written.find_at {front back : List (Attribute unaligned)}
    {attr : Attribute unaligned} (written : msg.Written (front ++ attr :: back))
    (same : attr.type = msg.wireType type)
    (past : ∀ a ∈ front, a.type ≠ msg.wireType type ∧ hides (msg.wireType type) a.type = false)
    {place : Nat} (before : slice msg.buffer 20 place = front.flatMap Attribute.bytes)
    (header : 20 ≤ place) :
    (msg.find type).value = some ⟨place + 4, UInt16.ofNat attr.value.length⟩ := by
  obtain ⟨rfl, small, -, bytes⟩ := written
  obtain ⟨offsets, laid, known⟩ := chain_of_slice (Nat.le_add_left _ _) bytes
  obtain ⟨first, rest, rfl, fronts, tail⟩ := map_eq_append_iff.mp known
  obtain ⟨offset, others, rfl, here, -⟩ := map_eq_cons_iff.mp tail
  -- The offset of the attribute is the place.
  have there : offset = place := by
    have sizes := congrArg List.length (slice_chain laid.cut.1)
    rw [fronts, ← before, length_slice, length_slice] at sizes
    have grows := attrNext_grows msg.buffer msg.unaligned
    have start := laid.cut.1.le grows
    omega
  subst there
  have type_at : ntohs msg.buffer offset = msg.wireType type := by
    rw [← same, ← here]
    rfl
  have length_at : ntohs msg.buffer (offset + 2) = UInt16.ofNat attr.value.length := by
    rw [← here]
    change _ = UInt16.ofNat (slice _ _ _).length
    rw [length_slice, Nat.add_sub_cancel_left]
    exact UInt16.ofNat_toNat.symm
  rw [value_find type laid small, visible_past]
  · rw [visible_cons, if_pos type_at, Option.map_some, length_at]
  · intro a member
    have listed : attributeAt msg.buffer msg.unaligned a ∈ front := by
      rw [← fronts]
      exact mem_map_of_mem member
    exact past _ listed

/-! ## SOFTWARE -/

/-- A character has at most six bytes. -/
theorem utf8Skip_le (byte : UInt8) : utf8Skip byte ≤ 6 := by
  unfold utf8Skip
  repeat' split
  all_goals omega

/-- The string ends in time. -/
theorem softwareEnd_le (software : Mem) (left ptr : Nat) :
    softwareEnd software left ptr ≤ ptr + 6 * left := by
  induction left generalizing ptr with
  | zero => exact Nat.le_refl _
  | succ left ih =>
    have step := utf8Skip_le (software ptr)
    have rest := ih (ptr + utf8Skip (software ptr))
    rw [softwareEnd_succ]
    split <;> omega

/-- SOFTWARE is the only attribute that a new message may have. -/
theorem addSoftware_written (agent : StunAgent) (written : msg.Written attrs)
    (start : msg.recorded = 20)
    (room : (agent.addSoftware msg).recorded ≤ msg.bufferLen.toNat) :
    ∃ added, (agent.addSoftware msg).Written (attrs ++ added) ∧
      (∀ attr ∈ added, attr.type = attrSoftware) ∧ msg.Extends (agent.addSoftware msg) := by
  have same : ∃ added, msg.Written (attrs ++ added) ∧
      (∀ attr ∈ added, attr.type = attrSoftware) ∧ msg.Extends msg :=
    ⟨[], by rw [List.append_nil]; exact written, by simp,
      StunMessage.Extends.refl msg⟩
  by_cases wanted : (agent.modern && (agent.softwareAttribute.isSome ||
    agent.usageFlags.addSoftware)) = true
  · let software := agent.softwareAttribute.getD packageString
    let length : UInt64 := UInt64.ofNat (softwareEnd software 128 0)
    have short : length.toNat ≤ 768 := by
      have bound := softwareEnd_le software 128 0
      rw [UInt64.toNat_ofNat', Nat.mod_eq_of_lt (by omega)]
      omega
    have padding : paddingOf msg.unaligned length.toNat ≤ 3 := by
      unfold paddingOf
      split <;> omega
    have grown : msg.grown length =
        msg.recorded + 4 + length.toNat + paddingOf msg.unaligned length.toNat := rfl
    by_cases refuses : msg.Refuses length
    · have append : msg.appendSoftware agent.softwareAttribute = none := by
        rw [StunMessage.appendSoftware, StunMessage.appendBytes, append_eq_none refuses]
      rw [StunAgent.addSoftware, if_pos wanted, append]
      exact same
    · obtain ⟨done, appended, filled⟩ :=
        appendBytes_filled attrSoftware software (by omega) refuses
      have append : msg.appendSoftware agent.softwareAttribute = some done := appended
      have stage : agent.addSoftware msg =
          msg.filled attrSoftware length (software.read length.toNat) := by
        rw [StunAgent.addSoftware, if_pos wanted, append]
        exact filled
      rw [stage] at room ⊢
      rw [recorded_filled (by omega)] at room
      refine ⟨[encode unaligned msg.hasCookie.value (msg.wireType attrSoftware)
        (software.read length.toNat) (by rw [length_read]; omega)], ?_, ?_, ?_⟩
      · exact written.filled attrSoftware room (by omega) (length_read _ _) _
      · intro attr member
        rw [mem_singleton.mp member, type_encode]
        unfold StunMessage.wireType
        split <;> rfl
      · exact filled_extends (by omega) _ _ _
  · rw [StunAgent.addSoftware, if_neg wanted]
    exact same

/-! ## MESSAGE-INTEGRITY -/

/-- The bytes under a digest about to be added. The length counts it, and for WLM 2009 also a
FINGERPRINT to come. -/
def StunAgent.signedBytes (agent : StunAgent) (msg : StunMessage) : List UInt8 :=
  let length := if agent.compatibility = .wlm2009 then
      msg.recorded + 4 + agent.fingerprintRoom else msg.recorded + 4
  let zeros := if agent.compatibility = .rfc5389 then 0 else (64 - msg.recorded % 64) % 64
  slice msg.buffer 0 2 ++ htons (UInt16.ofNat length) ++ slice msg.buffer 4 msg.recorded ++
    List.replicate zeros 0

/-- The front of a message stays. -/
theorem StunMessage.Extends.front (after : msg.Extends last) :
    slice last.buffer 0 2 = slice msg.buffer 0 2 ∧
      ∀ {stop : Nat}, stop ≤ msg.recorded → slice last.buffer 4 stop = slice msg.buffer 4 stop :=
  ⟨slice_congr fun index _ high => after.head index high,
    fun inside => slice_congr fun index low high => after.body index low (by omega)⟩

/-- The digest is over these bytes. -/
theorem finishDigest_appended (platform : Platform) (agent : StunAgent)
    (small : msg.recorded + 24 < 2 ^ 16) (key : List UInt8) :
    agent.finishDigest platform (msg.appended attrMessageIntegrity 20) key =
      some (platform.hmacSha1 key (agent.signedBytes msg)) := by
  have grown : msg.grown 20 = msg.recorded + 24 := grown_words msg (by decide)
  have header : 20 ≤ msg.recorded := Nat.le_add_left _ _
  have recorded := recorded_appended (show msg.grown 20 < 2 ^ 16 by omega) attrMessageIntegrity
  have length : (msg.appended attrMessageIntegrity 20).length.value.toNat =
      msg.recorded + 4 + 20 := by
    rw [toNat_length, recorded, grown, Nat.mod_eq_of_lt small]
  obtain ⟨type, front⟩ := (appended_extends (by omega) attrMessageIntegrity 20 :
    msg.Extends (msg.appended attrMessageIntegrity 20)).front
  have sha (msgLen : Nat) (padding : Bool) := value_stunSha1 platform
    (msg.appended attrMessageIntegrity 20).buffer (show 24 ≤ msg.recorded + 4 by omega) msgLen key
    padding
  simp only [type, Nat.add_sub_cancel, front (Nat.le_refl _)] at sha
  unfold StunAgent.finishDigest StunAgent.signedBytes
  simp only [length]
  cases mode : agent.compatibility with
  | rfc3489 | oc2007 => exact sha _ true
  | rfc5389 => exact sha _ false
  | wlm2009 =>
    have modern : agent.modern = true := by
      simp [StunDialect.modern, mode]
    dsimp only
    rw [sha _ true, StunAgent.fingerprintRoom, modern, Bool.true_and]
    cases agent.usageFlags.useFingerprint with
    | true => rfl
    | false => rfl

/-- The stage fills it in. -/
theorem putIntegrity_done (small : msg.recorded + 24 < 2 ^ 16)
    (done : agent.putIntegrity platform msg shaKey = .done last) :
    last = msg.filled attrMessageIntegrity 20
        (platform.hmacSha1 shaKey (agent.signedBytes msg)).toList ∧
      msg.recorded + 24 ≤ msg.bufferLen.toNat := by
  have grown : msg.grown 20 = msg.recorded + 24 := grown_words msg (by decide)
  unfold StunAgent.putIntegrity at done
  rcases append_words attrMessageIntegrity (show msg.recorded < 2 ^ 16 by omega)
    (.inr (show msg.recorded + 4 + (20 : UInt64).toNat < 2 ^ 16 from small)) (by decide)
    (by decide) with ⟨none, -⟩ | ⟨-, room, appended, some, made, fill⟩
  · rw [none] at done
    exact absurd done (by simp)
  · rw [some] at done
    dsimp only at done
    rw [made, finishDigest_appended platform agent small shaKey] at done
    dsimp only at done
    rw [fill] at done
    exact ⟨(Stage.done.inj done).symm, by omega⟩

/-! ## FINGERPRINT -/

/-- The checksum does not depend on what follows, nor on the length field. -/
theorem stunFingerprint_congr {buffer other : Mem} {len : UInt64} (typo : Bool)
    (type : ∀ index < 2, other index = buffer index)
    (rest : ∀ index, 4 ≤ index → index < 4 + (len - 12).toNat → other index = buffer index) :
    (stunFingerprint other len typo).value = (stunFingerprint buffer len typo).value := by
  have first : other.read 2 = buffer.read 2 := read_congr type
  have second : (other.offset 4).read (len - 12).toNat = (buffer.offset 4).read (len - 12).toNat :=
    read_congr fun index inside => rest (4 + index) (by omega) (by omega)
  simp only [stunFingerprint, value_bind, value_look, value_pure, first,
    second]

/-- What the stage of FINGERPRINT leaves, where one is used. -/
theorem addFingerprint_done (small : msg.recorded + 8 < 2 ^ 16)
    (used : (agent.modern && agent.usageFlags.useFingerprint) = true)
    (done : agent.addFingerprint msg = .done last) :
    last = msg.filled attrFingerprint 4
        (stunFingerprint (msg.appended attrFingerprint 4).buffer
          (msg.appended attrFingerprint 4).length.value.toUInt64
          (agent.compatibility = .wlm2009)).value ∧
      msg.recorded + 8 ≤ msg.bufferLen.toNat := by
  have grown : msg.grown 4 = msg.recorded + 8 := grown_words msg (by decide)
  unfold StunAgent.addFingerprint at done
  rw [if_pos used] at done
  rcases append_words attrFingerprint (show msg.recorded < 2 ^ 16 by omega)
    (.inr (show msg.recorded + 4 + (4 : UInt64).toNat < 2 ^ 16 from small)) (by decide)
    (by decide) with ⟨none, -⟩ | ⟨-, room, appended, some, made, fill⟩
  · rw [none] at done
    exact absurd done (by simp)
  · rw [some] at done
    dsimp only at done
    rw [made, fill] at done
    exact ⟨(Stage.done.inj done).symm, by omega⟩

/-- The checksum is compared. -/
theorem value_checkFingerprint {offset : Nat}
    (found : (msg.find attrFingerprint).value = some ⟨offset, 4⟩) :
    (agent.checkFingerprint msg).value =
      decide ((msg.buffer.offset offset).read 4 =
        (stunFingerprint msg.buffer msg.length.value.toUInt64
          (agent.compatibility = .wlm2009)).value) := by
  have word : (msg.find32 attrFingerprint).value = .ok (ntohl msg.buffer offset) := by
    rw [StunMessage.find32, value_bind, found]
    rfl
  rw [StunAgent.checkFingerprint, value_bind, word, ← htonl_ntohl]
  rfl

/-! ## The whole -/

/-- MESSAGE-INTEGRITY and FINGERPRINT were added: a receiver in the same mode finds them right. -/
structure StunAgent.Sealed (platform : Platform) (agent : StunAgent) (shaKey : List UInt8)
    {unaligned : Bool} (attrs : List (Attribute unaligned)) (last : StunMessage) : Prop where
  tail : ∃ integrity back, last.Written (attrs ++ integrity :: back) ∧
    integrity.type = attrMessageIntegrity ∧ ∀ attr ∈ back, attr.type = attrFingerprint
  digest : ∃ hash, (last.find attrMessageIntegrity).value = some ⟨hash, 20⟩ ∧
    (last.buffer.offset hash).read 20 =
      (platform.hmacSha1 shaKey (agent.covered last hash)).toList
  fingerprint : agent.modern = true → agent.usageFlags.useFingerprint = true →
    (agent.checkFingerprint last).value = true

/-- The receiver puts the same bytes under the digest. -/
theorem covered_eq (after : msg.Extends last)
    (size : last.recorded = msg.recorded + 24 + agent.fingerprintRoom)
    (small : last.recorded < 2 ^ 16) :
    agent.covered last (msg.recorded + 4) = agent.signedBytes msg := by
  obtain ⟨type, front⟩ := after.front
  have length : last.length.value.toNat - 20 = msg.recorded + 4 + agent.fingerprintRoom := by
    rw [toNat_length, Nat.mod_eq_of_lt small, size]
    omega
  unfold StunAgent.covered StunAgent.signedBytes
  rw [length, Nat.add_sub_cancel, type, front (Nat.le_refl _)]

/-- A digest is read back from any continuation. -/
theorem read_filled {length : UInt64} {value : List UInt8} (small : msg.grown length < 2 ^ 16)
    (size : value.length = length.toNat) (after : (msg.filled type length value).Extends last) :
    (last.buffer.offset (msg.recorded + 4)).read value.length = value := by
  have header : 20 ≤ msg.recorded := Nat.le_add_left _ _
  have grown : msg.recorded + 4 + length.toNat ≤ msg.grown length := Nat.le_add_right _ _
  have recorded := recorded_filled small type value
  have stored := slice_store (msg.appended type length).buffer (msg.recorded + 4) value
  have kept : slice last.buffer (msg.recorded + 4) (msg.recorded + 4 + value.length) =
      slice (msg.filled type length value).buffer (msg.recorded + 4)
        (msg.recorded + 4 + value.length) :=
    slice_congr fun index low high => after.body index (by omega) (by omega)
  rw [slice, Nat.add_sub_cancel_left] at kept
  rw [kept]
  exact stored

/-- The attribute of a value of whole words holds the value. -/
theorem length_encode_words (unaligned cookie : Bool) (type : StunAttribute) {value : List UInt8}
    (fits : value.length < 65533) (words : value.length % 4 = 0) :
    (encode unaligned cookie type value fits).value.length = value.length := by
  have none : paddingOf unaligned value.length = 0 := by
    unfold paddingOf
    split
    · rfl
    · omega
  cases cookie with
  | true => rfl
  | false => simp [encode, none]

/-- MS-TURN does not swap MESSAGE-INTEGRITY and FINGERPRINT. -/
theorem wireType_kept (msg : StunMessage) (type : StunAttribute) (other : type ≠ attrRealm)
    (differs : type ≠ attrNonce) : msg.wireType type = type := by
  simp [StunMessage.wireType, other, differs]

/-- Ordinary attributes hide nothing. -/
theorem Ordinary.shows {atype : StunAttribute} (ordinary : Ordinary atype) :
    hides type atype = false := by
  simp [hides, ordinary.1, ordinary.2]

/-- The digest is right, whatever follows. -/
theorem digest_of_filled (written : msg.Written attrs)
    (ordinary : ∀ attr ∈ attrs, Ordinary attr.type) {integrity : Attribute unaligned}
    {back : List (Attribute unaligned)} (known : last.Written (attrs ++ integrity :: back))
    (type : integrity.type = attrMessageIntegrity) (twenty : integrity.value.length = 20)
    (after : (msg.filled attrMessageIntegrity 20
      (platform.hmacSha1 shaKey (agent.signedBytes msg)).toList).Extends last)
    (size : last.recorded = msg.recorded + 24 + agent.fingerprintRoom) :
    ∃ hash, (last.find attrMessageIntegrity).value = some ⟨hash, 20⟩ ∧
      (last.buffer.offset hash).read 20 =
        (platform.hmacSha1 shaKey (agent.covered last hash)).toList := by
  have small := known.small
  have header : 20 ≤ msg.recorded := Nat.le_add_left _ _
  have grown : msg.grown 20 = msg.recorded + 24 := grown_words msg (by decide)
  have kept := wireType_kept last attrMessageIntegrity (by decide) (by decide)
  have recorded := recorded_filled (show msg.grown 20 < 2 ^ 16 by omega) attrMessageIntegrity
    (platform.hmacSha1 shaKey (agent.signedBytes msg)).toList
  have whole : msg.Extends last :=
    (filled_extends (by omega) _ _ _).trans after (by rw [recorded]; omega)
  have before : slice last.buffer 20 msg.recorded = attrs.flatMap Attribute.bytes := by
    rw [← written.bytes]
    exact slice_congr fun index low high => whole.body index (by omega) high
  have found := known.find_at (by rw [kept, type]) (fun attr member => by
    rw [kept]
    exact ⟨(ordinary attr member).1, (ordinary attr member).shows⟩) before header
  rw [twenty] at found
  refine ⟨msg.recorded + 4, found, ?_⟩
  rw [covered_eq whole size small]
  have stored := read_filled (by omega) length_toList after
  rw [length_toList] at stored
  exact stored

/-- The checksum of a message is found and right. -/
theorem fingerprint_of_filled (written : msg.Written attrs)
    (shown : ∀ attr ∈ attrs, attr.type ≠ attrFingerprint)
    (small : msg.recorded + 8 < 2 ^ 16) (room : msg.recorded + 8 ≤ msg.bufferLen.toNat)
    (filled : last = msg.filled attrFingerprint 4
        (stunFingerprint (msg.appended attrFingerprint 4).buffer
          (msg.appended attrFingerprint 4).length.value.toUInt64
          (agent.compatibility = .wlm2009)).value) :
    (agent.checkFingerprint last).value = true ∧
      ∃ checksum : Attribute unaligned, last.Written (attrs ++ [checksum]) ∧
        checksum.type = attrFingerprint := by
  have grown : msg.grown 4 = msg.recorded + 8 := grown_words msg (by decide)
  have header : 20 ≤ msg.recorded := Nat.le_add_left _ _
  obtain ⟨fpr, sum⟩ : ∃ fpr, (stunFingerprint (msg.appended attrFingerprint 4).buffer
    (msg.appended attrFingerprint 4).length.value.toUInt64
    (agent.compatibility = .wlm2009)).value = fpr := ⟨_, rfl⟩
  have four : fpr.length = (4 : UInt64).toNat := by
    rw [← sum]
    rfl
  rw [sum] at filled
  subst filled
  have recorded := recorded_filled (show msg.grown 4 < 2 ^ 16 by omega) attrFingerprint fpr
  have after : msg.Extends (msg.filled attrFingerprint 4 fpr) := filled_extends (by omega) _ _ _
  have fits : fpr.length < 65533 := by
    rw [four]
    decide
  have known := written.filled attrFingerprint (by omega) (by omega) four fits
  have kept := wireType_kept msg attrFingerprint (by decide) (by decide)
  constructor
  · -- It is found where it was put.
    have before : slice (msg.filled attrFingerprint 4 fpr).buffer 20 msg.recorded =
        attrs.flatMap Attribute.bytes := by
      rw [← written.bytes]
      exact slice_congr fun index low high => after.body index (by omega) high
    have found := known.find_at (by rw [type_encode, after.wireType]) (fun attr member => by
      rw [after.wireType, kept]
      refine ⟨shown attr member, ?_⟩
      simp [hides, shown attr member]) before header
    rw [length_encode_words _ _ _ fits (by rw [four]; decide), four] at found
    -- The checksum is over what comes before it.
    have length : (msg.filled attrFingerprint 4 fpr).length.value =
        (msg.appended attrFingerprint 4).length.value := by
      rw [← UInt16.toNat_inj, toNat_length, toNat_length, recorded,
        recorded_appended (by omega) attrFingerprint]
    have size : ((msg.appended attrFingerprint 4).length.value.toUInt64 - 12).toNat =
        msg.recorded - 4 := by
      have number : (msg.appended attrFingerprint 4).length.value.toUInt64.toNat =
          msg.recorded + 8 := by
        rw [UInt16.toNat_toUInt64, toNat_length, recorded_appended (by omega) attrFingerprint, grown,
          Nat.mod_eq_of_lt small]
      rw [toNat_sub64 (by rw [number]; change 12 ≤ _; omega), number]
      change _ - 12 = _
      omega
    have same : (stunFingerprint (msg.filled attrFingerprint 4 fpr).buffer
        (msg.appended attrFingerprint 4).length.value.toUInt64
        (agent.compatibility = .wlm2009)).value = fpr := by
      rw [← sum]
      apply stunFingerprint_congr
      · intro index low
        exact store_outside _ (by omega)
      · intro index low high
        exact store_outside _ (by omega)
    have stored : ((msg.filled attrFingerprint 4 fpr).buffer.offset (msg.recorded + 4)).read
        fpr.length = fpr :=
      read_filled (by omega) four (StunMessage.Extends.refl _)
    rw [value_checkFingerprint found, length, same, decide_eq_true_iff]
    rw [four] at stored
    exact stored
  · refine ⟨_, known, ?_⟩
    rw [type_encode, kept]

/-- The stages seal a message. -/
theorem sealed_of_stages (written : msg.Written attrs)
    (ordinary : ∀ attr ∈ attrs, Ordinary attr.type)
    (small : msg.recorded + 24 + agent.fingerprintRoom < 2 ^ 16) {signed : StunMessage}
    (first : agent.putIntegrity platform msg shaKey = .done signed)
    (second : agent.addFingerprint signed = .done last) :
    agent.Sealed platform shaKey attrs last ∧ msg.Extends last ∧
      last.recorded = msg.recorded + 24 + agent.fingerprintRoom := by
  have grown : msg.grown 20 = msg.recorded + 24 := grown_words msg (by decide)
  have header : 20 ≤ msg.recorded := Nat.le_add_left _ _
  obtain ⟨made, room⟩ := putIntegrity_done (by omega) first
  have size : (platform.hmacSha1 shaKey (agent.signedBytes msg)).toList.length =
      (20 : UInt64).toNat := length_toList
  have fits : (platform.hmacSha1 shaKey (agent.signedBytes msg)).toList.length < 65533 := by
    rw [size]
    decide
  have twenty := length_encode_words unaligned msg.hasCookie.value
    (msg.wireType attrMessageIntegrity) fits (by rw [size]; decide)
  have type := wireType_kept msg attrMessageIntegrity (by decide) (by decide)
  have known := written.filled attrMessageIntegrity (by omega) (by omega) size fits
  have recorded : signed.recorded = msg.recorded + 24 := by
    rw [made, recorded_filled (by omega), grown]
  rw [← made] at known
  have grows : msg.Extends signed := by
    rw [made]
    exact filled_extends (by omega) _ _ _
  by_cases used : (agent.modern && agent.usageFlags.useFingerprint) = true
  · have eight : agent.fingerprintRoom = 8 := by
      rw [StunAgent.fingerprintRoom, if_pos used]
    obtain ⟨filled, more⟩ := addFingerprint_done (by omega) used second
    obtain ⟨right, checksum, whole, kind⟩ := fingerprint_of_filled known (fun attr member => by
      rcases mem_append.mp member with old | new
      · exact (ordinary attr old).2
      · rw [mem_singleton.mp new, type_encode, type]
        decide) (by omega) more filled
    have later : signed.Extends last := by
      rw [filled]
      exact filled_extends (by omega) _ _ _
    have final : last.recorded = msg.recorded + 24 + agent.fingerprintRoom := by
      have more : signed.grown 4 = signed.recorded + 8 := grown_words signed (by decide)
      rw [filled, recorded_filled (by omega), more, recorded, eight]
    rw [List.append_assoc] at whole
    refine ⟨⟨⟨_, [checksum], whole, ?_, ?_⟩, ?_, fun _ _ => right⟩,
      grows.trans later (by omega), final⟩
    · rw [type_encode, type]
    · intro attr member
      rw [mem_singleton.mp member, kind]
    · rw [made] at later
      exact digest_of_filled written ordinary whole (by rw [type_encode, type])
        (by rw [twenty, size]; rfl) later final
  · have none : agent.fingerprintRoom = 0 := by
      rw [StunAgent.fingerprintRoom, if_neg used]
    have same : last = signed := by
      unfold StunAgent.addFingerprint at second
      rw [if_neg used] at second
      exact (Stage.done.inj second).symm
    subst same
    refine ⟨⟨⟨_, [], known, ?_, by simp⟩, ?_, ?_⟩, grows, by omega⟩
    · rw [type_encode, type]
    · exact digest_of_filled written ordinary known (by rw [type_encode, type])
        (by rw [twenty, size]; rfl) (by rw [← made]; exact StunMessage.Extends.refl _)
        (by omega)
    · intro modern uses
      rw [modern, uses] at used
      exact absurd rfl used

end Xice.Stun
