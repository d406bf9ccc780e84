import Xice.Stun.Layout

/-!
# The size of a message

What `stun_message_validate_buffer_length` accepts, and where it looks: without padding one to three
bytes may be left, and the walk then reads a header that is not there and its count wraps around.
-/

namespace Xice.Stun

open Xice.Lib Reading Word Option

variable {buffer : Mem} {hasPadding : Bool}

/-! ## The walk -/

/-- A walk over records leaves one to three bytes before the end. -/
def Leftover (next : Nat → Nat) (start stop : Nat) : Prop :=
  ∃ last offsets, Chain next start last offsets ∧ last < stop ∧ stop < last + 4

variable (fuel offset : Nat) {start stop n : Nat} {len length : UInt64} {msg : Mem}

/-- The first record is passed. -/
theorem leftover_next (next : Nat → Nat) (room : start + 4 ≤ stop) :
    Leftover next start stop ↔ Leftover next (next start) stop := by
  constructor
  · rintro ⟨last, offsets, chain, before, after⟩
    cases chain with
    | nil => omega
    | cons rest => exact ⟨last, _, rest, before, after⟩
  · rintro ⟨last, offsets, chain, before, after⟩
    exact ⟨last, _, .cons chain, before, after⟩

/-- A walk that has passed the end does not come back to it. -/
theorem not_leftover_of_lt {next : Nat → Nat} (grows : ∀ offset, offset < next offset)
    (passed : stop ≤ start) : ¬Leftover next start stop := by
  rintro ⟨last, offsets, chain, before, _⟩
  have := chain.le grows
  omega

/-- A record is not much longer than its value. -/
theorem stride_le (unaligned : Bool) (alen : UInt16) : (stride unaligned alen).toNat ≤ 65538 := by
  have bound := alen.toNat_lt
  have padding : paddingOf unaligned alen.toNat ≤ 3 := by
    unfold paddingOf
    split <;> omega
  rw [stride_eq]
  omega

/-- The walk ends at the end. -/
theorem validateLoop_zero :
    validateLoop buffer hasPadding (fuel + 1) offset 0 = pure (some true) := by
  rw [validateLoop]
  rfl

/-- The walk passes an attribute. -/
theorem validateLoop_succ (buffer : Mem) (hasPadding : Bool) (fuel offset : Nat)
    (positive : 0 < len.toNat) :
    validateLoop buffer hasPadding (fuel + 1) offset len =
      look (offset + 2) 2 () >>= fun _ =>
        if len - 4 < stride (!hasPadding) (ntohs buffer (offset + 2)) then pure (some false)
        else validateLoop buffer hasPadding fuel (attrNext buffer (!hasPadding) offset)
          (len - 4 - stride (!hasPadding) (ntohs buffer (offset + 2))) := by
  have more : len > 0 := UInt64.lt_iff_toNat_lt.mpr positive
  rw [validateLoop, if_pos more]
  rfl

/-- What the walk finds from an offset on. -/
structure Walks (buffer : Mem) (hasPadding : Bool) (fuel offset : Nat) (len : UInt64)
    (stop : Nat) : Prop where
  whole : (validateLoop buffer hasPadding fuel offset len).value = some true ↔
    ∃ offsets, Chain (attrNext buffer (!hasPadding)) offset stop offsets
  lost : Leftover (attrNext buffer (!hasPadding)) offset stop →
    (validateLoop buffer hasPadding fuel offset len).value = none ∧
      ¬(validateLoop buffer hasPadding fuel offset len).Below stop
  inside : ¬Leftover (attrNext buffer (!hasPadding)) offset stop →
    (validateLoop buffer hasPadding fuel offset len).value ≠ none ∧
      (validateLoop buffer hasPadding fuel offset len).Below stop

/-- With a count this large the walk does not return. -/
theorem validateLoop_far (far : 131072 * fuel ≤ len.toNat) :
    (validateLoop buffer hasPadding fuel offset len).value = none := by
  induction fuel generalizing offset len with
  | zero => rfl
  | succ fuel ih =>
    have bound := stride_le (!hasPadding) (ntohs buffer (offset + 2))
    have four : (len - 4).toNat = len.toNat - 4 :=
      toNat_sub64 (by change 4 ≤ len.toNat; omega)
    rw [validateLoop_succ buffer hasPadding fuel offset (by omega), value_bind,
      if_neg (by rw [UInt64.lt_iff_toNat_lt, four]; omega)]
    refine ih _ ?_
    rw [toNat_sub64 (by rw [four]; omega), four]
    omega

/-- The walk follows the chain. -/
theorem validateLoop_walks (size : offset + len.toNat = stop) (enough : len.toNat < 4 * fuel)
    (limit : fuel ≤ 2 ^ 40) : Walks buffer hasPadding fuel offset len stop := by
  induction fuel generalizing offset len with
  | zero => omega
  | succ fuel ih =>
    have grows := attrNext_grows buffer (!hasPadding)
    by_cases empty : len.toNat = 0
    · -- The end is met.
      have zero : len = 0 := UInt64.toNat_inj.mp empty
      have here : offset = stop := by omega
      subst zero here
      have left : ¬Leftover (attrNext buffer (!hasPadding)) offset offset :=
        not_leftover_of_lt grows (Nat.le_refl _)
      constructor
      · rw [validateLoop_zero]
        exact ⟨fun _ => ⟨[], .nil _⟩, fun _ => rfl⟩
      · intro leftover
        exact absurd leftover left
      · intro _
        rw [validateLoop_zero]
        exact ⟨by simp, below_pure _ _⟩
    · have turn := validateLoop_succ buffer hasPadding fuel offset (show 0 < len.toNat by omega)
      have next : attrNext buffer (!hasPadding) offset =
          offset + 4 + (stride (!hasPadding) (ntohs buffer (offset + 2))).toNat := rfl
      have bound := stride_le (!hasPadding) (ntohs buffer (offset + 2))
      generalize stride (!hasPadding) (ntohs buffer (offset + 2)) = alen at turn next bound
      by_cases room : 4 ≤ len.toNat
      · have four : (len - 4).toNat = len.toNat - 4 := toNat_sub64 room
        by_cases fits : attrNext buffer (!hasPadding) offset ≤ stop
        · -- A whole attribute: the walk goes on behind it.
          have small : ¬len - 4 < alen := by
            rw [UInt64.lt_iff_toNat_lt, four]
            omega
          have left : (len - 4 - alen).toNat = len.toNat - 4 - alen.toNat := by
            rw [toNat_sub64 (by omega), four]
          have rest : Walks buffer hasPadding fuel (attrNext buffer (!hasPadding) offset)
              (len - 4 - alen) stop := ih _ (by omega) (by omega) (by omega)
          have same := leftover_next (attrNext buffer (!hasPadding))
            (show offset + 4 ≤ stop by omega)
          rw [if_neg small] at turn
          constructor
          · rw [turn, value_bind, rest.whole]
            constructor
            · rintro ⟨offsets, chain⟩
              exact ⟨_, .cons chain⟩
            · rintro ⟨offsets, chain⟩
              cases chain with
              | nil => omega
              | cons tail => exact ⟨_, tail⟩
          · intro leftover
            have away := rest.lost (same.mp leftover)
            rw [turn, below_bind]
            exact ⟨away.1, fun below => away.2 below.2⟩
          · intro leftover
            have found := rest.inside (mt same.mpr leftover)
            rw [turn, below_bind, below_look]
            exact ⟨found.1, .inr (by omega), found.2⟩
        · -- The attribute is longer than the rest of the message.
          have large : len - 4 < alen := by
            rw [UInt64.lt_iff_toNat_lt, four]
            omega
          rw [if_pos large] at turn
          constructor
          · rw [turn]
            constructor
            · intro impossible
              simp at impossible
            · rintro ⟨offsets, chain⟩
              cases chain with
              | nil => omega
              | cons tail => exact absurd (tail.le grows) fits
          · intro leftover
            rw [leftover_next _ (by omega)] at leftover
            exact absurd leftover (not_leftover_of_lt grows (by omega))
          · intro _
            rw [turn, below_bind, below_look]
            exact ⟨by simp, .inr (by omega), below_pure _ _⟩
      · -- One to three bytes are left: the count wraps around.
        have wrapped : 2 ^ 64 - 4 ≤ (len - 4).toNat := by
          rw [UInt64.toNat_sub]
          change 2 ^ 64 - 4 ≤ (2 ^ 64 - 4 + len.toNat) % 2 ^ 64
          omega
        have small : ¬len - 4 < alen := by
          rw [UInt64.lt_iff_toNat_lt]
          omega
        have far : (validateLoop buffer hasPadding fuel (attrNext buffer (!hasPadding) offset)
            (len - 4 - alen)).value = none := by
          apply validateLoop_far
          rw [toNat_sub64 (by omega)]
          omega
        have left : Leftover (attrNext buffer (!hasPadding)) offset stop :=
          ⟨offset, [], .nil _, by omega, by omega⟩
        rw [if_neg small] at turn
        constructor
        · rw [turn, value_bind, far]
          constructor
          · intro impossible
            simp at impossible
          · rintro ⟨offsets, chain⟩
            cases chain with
            | nil => omega
            | cons tail =>
              have := tail.le grows
              omega
        · intro _
          rw [turn, below_bind, below_look]
          exact ⟨far, fun below => by omega⟩
        · intro none_left
          exact absurd left none_left

/-! ## Messages -/

/-- A header, and a length that covers the whole message. -/
structure Headed (msg : Mem) (length : Nat) (unaligned : Bool) : Prop where
  stun : (msg 0).toNat < 64
  aligned : unaligned = false → (ntohs msg 2).toNat % 4 = 0
  complete : (ntohs msg 2).toNat + 20 ≤ length

/-- The first two bits are zero. -/
theorem shiftRight_six (byte : UInt8) : byte >>> 6 = 0 ↔ byte.toNat < 64 := by
  have bound := byte.toNat_lt
  rw [← UInt8.toNat_inj, UInt8.toNat_shiftRight]
  change byte.toNat >>> 6 = 0 ↔ _
  rw [Nat.shiftRight_eq_div_pow]
  omega

/-- The length does not wrap. -/
theorem toNat_mlen (field : UInt16) : (field.toUInt64 + 20).toNat = field.toNat + 20 := by
  have bound := field.toNat_lt
  rw [UInt64.toNat_add, UInt16.toNat_toUInt64]
  change (field.toNat + 20) % 2 ^ 64 = _
  omega

/-- The function, with what it reads set apart from the values. -/
theorem validateBufferLength_eq (msg : Mem) (length : UInt64) (hasPadding : Bool) :
    validateBufferLength msg length hasPadding =
      if length < 1 then pure (some bufferInvalid)
      else look 0 1 () >>= fun _ =>
        if msg 0 >>> 6 ≠ 0 then pure (some bufferInvalid)
        else if length < 4 then pure (some bufferIncomplete)
        else look 2 2 () >>= fun _ =>
          if hasPadding ∧ stunPadding ((ntohs msg 2).toUInt64 + 20) ≠ 0 then
            pure (some bufferInvalid)
          else if length < (ntohs msg 2).toUInt64 + 20 then pure (some bufferIncomplete)
          else validateLoop msg hasPadding 16385 20 ((ntohs msg 2).toUInt64 + 20 - 20) >>=
            fun whole => match whole with
              | none => pure none
              | some false => pure (some bufferInvalid)
              | some true => pure (some ((ntohs msg 2).toUInt64 + 20).toNat) := rfl

/-- A verdict at once. -/
theorem verdict_pure {verdict : Int} {size : Nat} (negative : verdict ≤ 0) :
    ∃ result ≤ 0, (pure (some verdict) : Reading (Option Int)).value = some result ∧
      (pure (some verdict) : Reading (Option Int)).Below size :=
  ⟨verdict, negative, rfl, below_pure _ _⟩

/-- A verdict after a look. -/
theorem verdict_look {count size : Nat} {rest : Reading (Option Int)}
    (inside : start + count ≤ size)
    (known : ∃ verdict ≤ 0, rest.value = some verdict ∧ rest.Below size) :
    ∃ verdict ≤ 0, (look start count () >>= fun _ => rest).value = some verdict ∧
      (look start count () >>= fun _ => rest).Below size := by
  obtain ⟨verdict, negative, value, below⟩ := known
  exact ⟨verdict, negative, value,
    below_bind.mpr ⟨below_look.mpr (.inr inside), below⟩⟩

/-- A string without a good header is refused or incomplete. -/
theorem validateBufferLength_refused (bad : ¬Headed msg length.toNat (!hasPadding)) :
    ∃ verdict ≤ 0, (validateBufferLength msg length hasPadding).value = some verdict ∧
      (validateBufferLength msg length hasPadding).Below
        (min length.toNat ((ntohs msg 2).toNat + 20)) := by
  have mlen := toNat_mlen (ntohs msg 2)
  rw [validateBufferLength_eq]
  by_cases empty : length < 1
  · rw [if_pos empty]
    exact verdict_pure (by decide)
  rw [if_neg empty]
  have one : ¬length.toNat < (1 : UInt64).toNat := mt UInt64.lt_iff_toNat_lt.mpr empty
  change ¬length.toNat < 1 at one
  apply verdict_look (by omega)
  by_cases stun : msg 0 >>> 6 ≠ 0
  · rw [if_pos stun]
    exact verdict_pure (by decide)
  rw [if_neg stun]
  by_cases short : length < 4
  · rw [if_pos short]
    exact verdict_pure (by decide)
  rw [if_neg short]
  have four : ¬length.toNat < (4 : UInt64).toNat := mt UInt64.lt_iff_toNat_lt.mpr short
  change ¬length.toNat < 4 at four
  apply verdict_look (by omega)
  by_cases unpadded : hasPadding ∧ stunPadding ((ntohs msg 2).toUInt64 + 20) ≠ 0
  · rw [if_pos unpadded]
    exact verdict_pure (by decide)
  rw [if_neg unpadded]
  have incomplete : length < (ntohs msg 2).toUInt64 + 20 := by
    rw [UInt64.lt_iff_toNat_lt, mlen]
    by_contra complete
    apply bad
    constructor
    · exact (shiftRight_six _).mp (not_not.mp stun)
    · intro padded
      have padding := toNat_stunPadding ((ntohs msg 2).toUInt64 + 20)
      have none : stunPadding ((ntohs msg 2).toUInt64 + 20) = 0 := by
        by_contra some
        exact unpadded ⟨by simpa using padded, some⟩
      rw [none, mlen] at padding
      change 0 = _ at padding
      omega
    · omega
  rw [if_pos incomplete]
  exact verdict_pure (by decide)

/-- A good header leads to the walk. -/
theorem validateBufferLength_headed (good : Headed msg length.toNat (!hasPadding)) :
    validateBufferLength msg length hasPadding =
      look 0 1 () >>= fun _ => look 2 2 () >>= fun _ =>
        validateLoop msg hasPadding 16385 20 (ntohs msg 2).toUInt64 >>= fun whole =>
          match whole with
          | none => pure none
          | some false => pure (some bufferInvalid)
          | some true => pure (some ((ntohs msg 2).toNat + 20 : Nat)) := by
  have mlen := toNat_mlen (ntohs msg 2)
  have size := good.complete
  have back : (ntohs msg 2).toUInt64 + 20 - 20 = (ntohs msg 2).toUInt64 := by
    rw [UInt64.add_sub_cancel]
  have padded : ¬(hasPadding ∧ stunPadding ((ntohs msg 2).toUInt64 + 20) ≠ 0) := by
    rintro ⟨padded, padding⟩
    apply padding
    rw [← UInt64.toNat_inj, toNat_stunPadding, mlen]
    have := good.aligned (by simp [padded])
    change _ = 0
    omega
  rw [validateBufferLength_eq, back, mlen,
    if_neg (by rw [UInt64.lt_iff_toNat_lt]; change ¬length.toNat < 1; omega),
    if_neg (not_not.mpr ((shiftRight_six _).mpr good.stun)),
    if_neg (by rw [UInt64.lt_iff_toNat_lt]; change ¬length.toNat < 4; omega),
    if_neg padded, if_neg (by rw [UInt64.lt_iff_toNat_lt, mlen]; omega)]

/-- A header and a concatenation of attributes, of `n` bytes. -/
structure Accepted (msg : Mem) (length : Nat) (unaligned : Bool) (n : Nat) : Prop where
  stun : (msg 0).toNat < 64
  aligned : unaligned = false → (ntohs msg 2).toNat % 4 = 0
  size : n = (ntohs msg 2).toNat + 20
  complete : n ≤ length
  attributes : ∃ attrs : List (Attribute unaligned),
    slice msg 20 n = attrs.flatMap Attribute.bytes

/-- Attributes are a chain of offsets. -/
theorem attributes_iff (msg : Mem) (unaligned : Bool) (header : 20 ≤ n) :
    (∃ attrs : List (Attribute unaligned), slice msg 20 n = attrs.flatMap Attribute.bytes) ↔
      ∃ offsets, Laid msg unaligned n offsets := by
  constructor
  · rintro ⟨attrs, bytes⟩
    obtain ⟨offsets, chain, -⟩ := chain_of_slice header bytes
    exact ⟨offsets, chain⟩
  · rintro ⟨offsets, chain⟩
    exact ⟨_, slice_chain chain⟩

/-- The walk over a message has enough turns. -/
theorem validateLoop_message (msg : Mem) (hasPadding : Bool) :
    Walks msg hasPadding 16385 20 (ntohs msg 2).toUInt64 ((ntohs msg 2).toNat + 20) := by
  have bound := (ntohs msg 2).toNat_lt
  apply validateLoop_walks
  · rw [UInt16.toNat_toUInt64]
    omega
  · rw [UInt16.toNat_toUInt64]
    omega
  · norm_num

/-- The walk leaves one to three bytes behind a good header. -/
def Overruns (msg : Mem) (length : Nat) (unaligned : Bool) : Prop :=
  Headed msg length unaligned ∧
    Leftover (attrNext msg unaligned) 20 ((ntohs msg 2).toNat + 20)

/-- What `stun_message_validate_buffer_length` accepts. -/
theorem validateBufferLength_accepts (msg : Mem) (length : UInt64) (hasPadding : Bool)
    (positive : 0 < n) :
    (validateBufferLength msg length hasPadding).value = some (n : Int) ↔
      Accepted msg length.toNat (!hasPadding) n := by
  have walks := validateLoop_message msg hasPadding
  by_cases good : Headed msg length.toNat (!hasPadding)
  · rw [validateBufferLength_headed good, value_bind, value_bind,
      value_bind]
    constructor
    · intro accepted
      match found : (validateLoop msg hasPadding 16385 20 (ntohs msg 2).toUInt64).value with
      | none => simp [found] at accepted
      | some false =>
        simp only [found, value_pure, bufferInvalid, some.injEq] at accepted
        omega
      | some true =>
        simp only [found, value_pure, some.injEq, Nat.cast_inj] at accepted
        subst accepted
        exact ⟨good.stun, good.aligned, rfl, good.complete,
          (attributes_iff msg _ (by omega)).mpr (walks.whole.mp found)⟩
    · intro accepted
      have size := accepted.size
      have found := walks.whole.mpr
        ((attributes_iff msg _ (by omega)).mp (size ▸ accepted.attributes))
      rw [found, size]
      rfl
  · obtain ⟨verdict, negative, value, -⟩ := validateBufferLength_refused good
    constructor
    · intro accepted
      rw [value, some.injEq] at accepted
      omega
    · intro accepted
      have size := accepted.size
      exact absurd ⟨accepted.stun, accepted.aligned, size ▸ accepted.complete⟩ good

/-- Where it reads when the walk stays in the message. -/
theorem validateBufferLength_inside (hasPadding : Bool)
    (stays : ¬Overruns msg length.toNat (!hasPadding)) :
    (validateBufferLength msg length hasPadding).value ≠ none ∧
      (validateBufferLength msg length hasPadding).Below
        (min length.toNat ((ntohs msg 2).toNat + 20)) := by
  have walks := validateLoop_message msg hasPadding
  by_cases good : Headed msg length.toNat (!hasPadding)
  · have found := walks.inside fun leftover => stays ⟨good, leftover⟩
    have complete := good.complete
    have least : min length.toNat ((ntohs msg 2).toNat + 20) = (ntohs msg 2).toNat + 20 := by omega
    rw [validateBufferLength_headed good, least]
    constructor
    · rw [value_bind, value_bind, value_bind]
      match whole : (validateLoop msg hasPadding 16385 20 (ntohs msg 2).toUInt64).value with
      | none => exact absurd whole found.1
      | some false => simp
      | some true => simp
    · rw [below_bind, below_bind, below_bind, below_look,
        below_look]
      refine ⟨.inr (by omega), .inr (by omega), found.2, ?_⟩
      match (validateLoop msg hasPadding 16385 20 (ntohs msg 2).toUInt64).value with
      | none => exact below_pure _ _
      | some false => exact below_pure _ _
      | some true => exact below_pure _ _
  · obtain ⟨verdict, -, value, below⟩ := validateBufferLength_refused good
    exact ⟨by simp [value], below⟩

/-- A walk that leaves the message does not return. -/
theorem validateBufferLength_overruns (hasPadding : Bool)
    (leaves : Overruns msg length.toNat (!hasPadding)) :
    (validateBufferLength msg length hasPadding).value = none ∧
      ¬(validateBufferLength msg length hasPadding).Below ((ntohs msg 2).toNat + 20) := by
  have away := (validateLoop_message msg hasPadding).lost leaves.2
  rw [validateBufferLength_headed leaves.1]
  constructor
  · rw [value_bind, value_bind, value_bind, away.1]
    rfl
  · intro below
    rw [below_bind, below_bind, below_bind] at below
    exact away.2 below.2.2.1

/-! ## With padding -/

/-- Padded attributes end at whole words. -/
theorem chain_aligned {offsets : List Nat}
    (chain : Chain (attrNext buffer false) start stop offsets) : stop % 4 = start % 4 := by
  induction chain with
  | nil => rfl
  | @cons start _ _ _ ih =>
    rw [ih, attrNext, stride_eq, paddingOf, if_neg Bool.false_ne_true]
    omega

/-- So no walk with padding leaves the message. -/
theorem not_overruns_padded (msg : Mem) (length : Nat) : ¬Overruns msg length false := by
  rintro ⟨good, last, offsets, chain, before, after⟩
  have aligned := good.aligned rfl
  have step := chain_aligned chain
  omega

/-- A part of a message is incomplete. -/
theorem validateBufferLength_part (positive : 0 < length.toNat) (stun : (msg 0).toNat < 64)
    (field : 4 ≤ length.toNat → (ntohs msg 2).toNat % 4 = 0 ∧ length.toNat < (ntohs msg 2).toNat + 20)
    : (validateBufferLength msg length true).value = some bufferIncomplete := by
  have mlen := toNat_mlen (ntohs msg 2)
  rw [validateBufferLength_eq,
    if_neg (by rw [UInt64.lt_iff_toNat_lt]; change ¬length.toNat < 1; omega), value_bind,
    if_neg (not_not.mpr ((shiftRight_six _).mpr stun))]
  by_cases short : length < 4
  · rw [if_pos short]
    rfl
  · have four : ¬length.toNat < (4 : UInt64).toNat := mt UInt64.lt_iff_toNat_lt.mpr short
    change ¬length.toNat < 4 at four
    obtain ⟨aligned, more⟩ := field (by omega)
    have padded : ¬(true ∧ stunPadding ((ntohs msg 2).toUInt64 + 20) ≠ 0) := by
      rintro ⟨_, padding⟩
      apply padding
      rw [← UInt64.toNat_inj, toNat_stunPadding, mlen]
      change _ = 0
      omega
    rw [if_neg short, value_bind, if_neg padded,
      if_pos (by rw [UInt64.lt_iff_toNat_lt, mlen]; omega)]
    rfl

/-- What is accepted depends on the bytes of the message alone. -/
theorem Accepted.congr {other : Mem} {length longer : Nat} {unaligned : Bool}
    (accepted : Accepted msg length unaligned n) (same : ∀ index < n, other index = msg index)
    (complete : n ≤ longer) : Accepted other longer unaligned n := by
  have size := accepted.size
  have field : ntohs other 2 = ntohs msg 2 := by
    rw [ntohs, ntohs, same 2 (by omega), same 3 (by omega)]
  obtain ⟨attrs, bytes⟩ := accepted.attributes
  constructor
  · rw [same 0 (by omega)]
    exact accepted.stun
  · rw [field]
    exact accepted.aligned
  · rw [field]
    exact size
  · exact complete
  · refine ⟨attrs, ?_⟩
    rw [← bytes]
    apply Mem.read_congr
    intro index inside
    exact same (20 + index) (by omega)

/-- With padding it returns, reads nothing behind the string, accepts exactly the messages, finds
parts of them incomplete, and does not look behind the message. -/
theorem validateBufferLength_padded (msg : Mem) (length : UInt64) :
    let result := validateBufferLength msg length true
    result.value ≠ none ∧ result.Below length.toNat ∧
      (∀ n : Nat, 0 < n →
        (result.value = some (n : Int) ↔ Accepted msg length.toNat false n)) ∧
      ∀ n : Nat, 0 < n → result.value = some (n : Int) →
        (∀ (part : Mem) (count : UInt64), 0 < count.toNat → count.toNat < n →
          (∀ index < count.toNat, part index = msg index) →
          (validateBufferLength part count true).value = some bufferIncomplete) ∧
        ∀ (whole : Mem) (longer : UInt64), n ≤ longer.toNat →
          (∀ index < n, whole index = msg index) →
          (validateBufferLength whole longer true).value = some (n : Int) := by
  intro result
  have stays : ¬Overruns msg length.toNat (!true) := not_overruns_padded msg length.toNat
  have inside := validateBufferLength_inside true stays
  refine ⟨inside.1, inside.2.mono (Nat.min_le_left _ _),
    fun n positive => validateBufferLength_accepts msg length true positive, ?_⟩
  intro n positive found
  have accepted := (validateBufferLength_accepts msg length true positive).mp found
  have size := accepted.size
  constructor
  · intro part count some less same
    apply validateBufferLength_part some
    · rw [same 0 some]
      exact accepted.stun
    · intro four
      have field : ntohs part 2 = ntohs msg 2 := by
        rw [ntohs, ntohs, same 2 (by omega), same 3 (by omega)]
      rw [field]
      exact ⟨accepted.aligned rfl, by omega⟩
  · intro whole longer complete same
    rw [validateBufferLength_accepts whole longer true positive]
    exact accepted.congr same complete

/-! ## Without padding -/

/-- Without padding it returns, reads only the message and accepts exactly the messages, unless its
walk leaves one to three bytes. -/
theorem validateBufferLength_unpadded_iff (msg : Mem) (length : UInt64) :
    let result := validateBufferLength msg length false
    (result.value ≠ none ∧ result.Below ((ntohs msg 2).toNat + 20) ∧
      ∀ n : Nat, 0 < n →
        (result.value = some (n : Int) ↔ Accepted msg length.toNat true n)) ↔
      ¬Overruns msg length.toNat true := by
  intro result
  constructor
  · rintro ⟨_, below, _⟩ leaves
    exact (validateBufferLength_overruns false leaves).2 below
  · intro stays
    have inside := validateBufferLength_inside false stays
    exact ⟨inside.1, inside.2.mono (Nat.min_le_right _ _),
      fun n positive => validateBufferLength_accepts msg length false positive⟩

/-- A header with the length one, and one byte: the walk reads two bytes behind the message and does
not return. -/
theorem walk_leaves_one_byte :
    let msg : Mem := fun index => if index = 3 then 1 else 0
    (validateBufferLength msg 21 false).value = none ∧
      ¬(validateBufferLength msg 21 false).Below 21 := by
  intro msg
  have field : (ntohs msg 2).toNat = 1 := by decide
  have leaves : Overruns msg (21 : UInt64).toNat (!false) := by
    constructor
    · exact ⟨by decide, by simp, by rw [field]; decide⟩
    · exact ⟨20, [], .nil _, by omega, by omega⟩
  have away := validateBufferLength_overruns false leaves
  rw [field] at away
  exact away

end Xice.Stun
