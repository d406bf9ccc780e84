import Xice.Stun.Layout

/-!
# Appending attributes

When `stun_message_append` stays inside the buffer and keeps the length of the message right, and
what a message then holds. Its test for room counts the attribute without its padding, and the
length of a message has sixteen bits.
-/

namespace Xice.Stun

open Xice.Lib List Mem Option

variable {msg : StunMessage} {type : StunAttribute} {length : UInt64}

/-! ## Room -/

/-- The size of a message after an attribute. -/
def StunMessage.grown (msg : StunMessage) (length : UInt64) : Nat :=
  msg.recorded + 4 + length.toNat + paddingOf msg.unaligned length.toNat

/-- `stun_message_append` finds no room. -/
def StunMessage.Refuses (msg : StunMessage) (length : UInt64) : Prop :=
  msg.bufferLen < (ntohs msg.buffer 2 + 20).toUInt64 + 4 + length

instance (msg : StunMessage) (length : UInt64) : Decidable (msg.Refuses length) :=
  inferInstanceAs (Decidable (_ < _))

/-- There is no room, or the attribute with its padding fits, in the buffer and in a length field of
sixteen bits. -/
def StunMessage.Fits (msg : StunMessage) (length : UInt64) : Prop :=
  msg.Refuses length ∨ msg.grown length ≤ msg.bufferLen.toNat ∧ msg.grown length ≤ 65555

/-- An append fails and changes nothing, or writes inside the buffer, and the size grows by the
attribute and its padding. -/
def StunMessage.Appends (msg : StunMessage) (type : StunAttribute) (length : UInt64) : Prop :=
  match msg.append type length with
  | none => True
  | some done => (∀ span ∈ done.writes, span.Below msg.bufferLen.toNat) ∧
    done.msg.recorded = msg.grown length ∧ done.msg.recorded ≤ msg.bufferLen.toNat

/-- The length field after an append. -/
def StunMessage.nextField (msg : StunMessage) (length : UInt64) : UInt16 :=
  if msg.unaligned then ntohs msg.buffer 2 + 20 + (4 + length).toUInt16 - 20
  else ntohs msg.buffer 2 + 20 + (stunPadding length).toUInt16 + (4 + length).toUInt16 - 20

/-- The number of padding bytes that an append writes. -/
theorem toNat_padding (msg : StunMessage) (length : UInt64) :
    (if msg.unaligned then 0 else stunPadding length).toNat =
      paddingOf msg.unaligned length.toNat := by
  cases found : msg.unaligned with
  | true => rfl
  | false => simp [paddingOf, toNat_stunPadding]

/-- The length field wraps. -/
theorem toNat_nextField (msg : StunMessage) (length : UInt64) :
    (msg.nextField length).toNat =
      ((ntohs msg.buffer 2).toNat + 4 + length.toNat + paddingOf msg.unaligned length.toNat) %
        2 ^ 16 := by
  have four : (4 + length).toUInt16.toNat = (4 + length.toNat) % 2 ^ 16 := by
    rw [UInt64.toNat_toUInt16, UInt64.toNat_add]
    change (4 + length.toNat) % 2 ^ 64 % 2 ^ 16 = _
    omega
  have padding : (stunPadding length).toUInt16.toNat = (4 - length.toNat % 4) % 4 := by
    rw [UInt64.toNat_toUInt16, toNat_stunPadding]
    omega
  cases found : msg.unaligned with
  | true =>
    have same : msg.nextField length = ntohs msg.buffer 2 + (4 + length).toUInt16 := by
      simp only [StunMessage.nextField, found, if_true]
      grind
    rw [same, UInt16.toNat_add, four]
    simp only [paddingOf, if_true]
    omega
  | false =>
    have same : msg.nextField length =
        ntohs msg.buffer 2 + (stunPadding length).toUInt16 + (4 + length).toUInt16 := by
      simp only [StunMessage.nextField, found, Bool.false_eq_true, if_false]
      grind
    rw [same, UInt16.toNat_add, UInt16.toNat_add, four, padding]
    simp only [paddingOf, Bool.false_eq_true, if_false]
    omega

/-! ## What is written -/

/-- The length that an attribute is given. -/
def StunMessage.givenLength (msg : StunMessage) (length : UInt64) : UInt16 :=
  if msg.unaligned || msg.hasCookie.value then length.toUInt16 else (stunAlign length).toUInt16

/-- Where an attribute goes. -/
def StunMessage.place (msg : StunMessage) : Nat := (ntohs msg.buffer 2 + 20).toNat

/-- The buffer after an append, in the order of the writes. -/
def StunMessage.appendedBuffer (msg : StunMessage) (type : StunAttribute) (length : UInt64)
    (given : UInt16) : Mem :=
  stunSetw
    ((stunSetw (stunSetw msg.buffer msg.place (msg.wireType type)) (msg.place + 2) given).store
      (msg.place + 4 + length.toNat)
      (List.replicate (if msg.unaligned then 0 else stunPadding length).toNat 32))
    2 (msg.nextField length)

/-- The type of the attribute was written. The cookie is looked up then. -/
def StunMessage.typed (msg : StunMessage) (type : StunAttribute) : StunMessage :=
  { msg with buffer := stunSetw msg.buffer msg.place (msg.wireType type) }

/-- The message after an append. -/
def StunMessage.appended (msg : StunMessage) (type : StunAttribute) (length : UInt64) :
    StunMessage :=
  { msg with buffer := msg.appendedBuffer type length ((msg.typed type).givenLength length) }

/-- There is no room. -/
theorem append_eq_none (refuses : msg.Refuses length) : msg.append type length = none := by
  unfold StunMessage.append
  exact if_pos refuses

/-- Otherwise the attribute is appended. -/
theorem append_eq_some (type : StunAttribute) (room : ¬msg.Refuses length) :
    ∃ done, msg.append type length = some done ∧ done.ptr = msg.place + 4 ∧
      done.msg = msg.appended type length ∧
      ∀ span ∈ done.writes, span = ⟨2, 2⟩ ∨ msg.place ≤ span.start ∧ span.start + span.count ≤
        msg.place + 4 + length.toNat + paddingOf msg.unaligned length.toNat := by
  have test : ¬msg.length.value.toUInt64 + 4 + length > msg.bufferLen := room
  have padding := toNat_padding msg length
  unfold StunMessage.append
  simp only [if_neg test]
  cases found : msg.unaligned with
  | true =>
    refine ⟨_, rfl, rfl, ?_, ?_⟩
    · have same : (msg.typed type).unaligned = true := found
      simp only [StunMessage.appended, StunMessage.appendedBuffer, StunMessage.givenLength,
        StunMessage.nextField, found, same, if_true, Bool.true_or, UInt64.toNat_zero,
        replicate_zero, store_nil]
      rfl
    · have place : msg.length.value.toNat = msg.place := rfl
      simp only [place, mem_cons, not_mem_nil, or_false, forall_eq_or_imp, forall_eq]
      exact ⟨.inr (by omega), .inr (by omega), .inl trivial⟩
  | false =>
    refine ⟨_, rfl, rfl, ?_, ?_⟩
    · have given : (msg.typed type).givenLength length =
          (if (msg.typed type).hasCookie.value then length else stunAlign length).toUInt16 := by
        have same : (msg.typed type).unaligned = false := found
        rw [StunMessage.givenLength, same, Bool.false_or, apply_ite UInt64.toUInt16]
      simp only [StunMessage.appended, StunMessage.appendedBuffer, given, StunMessage.nextField,
        found, Bool.false_eq_true, if_false]
      rfl
    · have place : msg.length.value.toNat = msg.place := rfl
      rw [found, if_neg Bool.false_ne_true] at padding
      simp only [place, mem_cons, not_mem_nil, or_false, forall_eq_or_imp, forall_eq,
        padding]
      exact ⟨.inr (by omega), .inr (by omega), .inr (by omega), .inl trivial⟩

/-- A number is read back. -/
theorem ntohs_stunSetw (buffer : Mem) (index : Nat) (word : UInt16) :
    ntohs (stunSetw buffer index word) index = word := by
  apply ntohs_htons
  · exact store_inside buffer 0 (by simp [htons])
  · exact store_inside buffer 1 (by simp [htons])

/-- The size that the header gives after an append. -/
theorem recorded_append {done : Appended} (appended : msg.append type length = some done) :
    done.msg.recorded = (msg.nextField length).toNat + 20 := by
  by_cases refuses : msg.Refuses length
  · rw [append_eq_none refuses] at appended
    exact absurd appended (by simp)
  · obtain ⟨made, same, -, written, -⟩ := append_eq_some type refuses
    rw [same, some.injEq] at appended
    subst appended
    rw [written, StunMessage.recorded]
    simp only [StunMessage.appended, StunMessage.appendedBuffer, ntohs_stunSetw]

/-- An append does what it should exactly when it fits. -/
theorem appends_iff_fits (msg : StunMessage) (type : StunAttribute) (length : UInt64) :
    msg.Appends type length ↔ msg.Fits length := by
  have field := toNat_nextField msg length
  have grown : msg.grown length = (ntohs msg.buffer 2).toNat + 4 + length.toNat +
      paddingOf msg.unaligned length.toNat + 20 := by
    rw [StunMessage.grown, StunMessage.recorded]
    omega
  have place : msg.place ≤ msg.recorded := by
    rw [StunMessage.place, StunMessage.recorded, UInt16.toNat_add]
    exact Nat.mod_le _ _
  by_cases refuses : msg.Refuses length
  · simp only [StunMessage.Appends, append_eq_none refuses, StunMessage.Fits, refuses, true_or]
  · obtain ⟨done, same, -, -, writes⟩ := append_eq_some type refuses
    have size := recorded_append same
    simp only [StunMessage.Appends, same, StunMessage.Fits, refuses, false_or]
    constructor
    · rintro ⟨_, exactly, inside⟩
      have bound := (msg.nextField length).toNat_lt
      omega
    · rintro ⟨inside, small⟩
      refine ⟨?_, by omega, by omega⟩
      intro span member
      have room := StunMessage.grown.eq_1 msg length
      rcases writes span member with rfl | ⟨_, stop⟩
      · exact .inr (show 2 + 2 ≤ _ by omega)
      · exact .inr (by omega)

/-! ## Runs -/

/-- The message after a call of `stun_message_append`. -/
def StunMessage.afterAppend (msg : StunMessage) (type : StunAttribute) (length : UInt64) :
    StunMessage :=
  match msg.append type length with
  | none => msg
  | some done => done.msg

/-- Messages of `stun_message_init` and appends that meet a condition. -/
inductive Appending (meets : StunMessage → StunAttribute → UInt64 → Prop) : StunMessage → Prop
  /-- A new message. -/
  | init {blank msg : StunMessage} (c : StunClass) (m : StunMethod) (id : StunTransactionId)
      (made : blank.init c m id = some msg) : Appending meets msg
  /-- One more attribute. -/
  | append {msg : StunMessage} (type : StunAttribute) (length : UInt64)
      (before : Appending meets msg) (condition : meets msg type length) :
      Appending meets (msg.afterAppend type length)

/-- A new message is a header. -/
theorem recorded_init {blank : StunMessage} {c : StunClass} {m : StunMethod}
    {id : StunTransactionId} (made : blank.init c m id = some msg) :
    msg.recorded = 20 ∧ msg.bufferLen = blank.bufferLen ∧ 20 ≤ msg.bufferLen.toNat := by
  unfold StunMessage.init at made
  split at made
  · simp at made
  · rename_i large
    have room : ¬blank.bufferLen.toNat < (20 : UInt64).toNat := mt UInt64.lt_iff_toNat_lt.mpr large
    change ¬blank.bufferLen.toNat < 20 at room
    rw [some.injEq] at made
    subst made
    refine ⟨?_, rfl, by simpa using room⟩
    have zero : ∀ index, 2 ≤ index → index < 4 →
        ((stunSetType (blank.buffer.store 0 [0, 0, 0, 0]) c m).store 4 id.toList) index = 0 := by
      intro index from_ to_
      rw [store_outside _ (by omega), stunSetType, store_outside _ (by simp; omega),
        ← Nat.zero_add index, store_inside _ index (by simp; omega)]
      interval_cases index <;> rfl
    simp only [StunMessage.recorded, toNat_ntohs]
    rw [zero 2 (by omega) (by omega), zero 3 (by omega) (by omega)]
    rfl

/-- In every sequence of calls that fit, the size of the message stays inside the buffer, and a call
appends as it should exactly when it fits. -/
theorem append_of_run (built : Appending (fun msg _ length => msg.Fits length) msg) :
    msg.recorded ≤ msg.bufferLen.toNat ∧
      ∀ type length, msg.Appends type length ↔ msg.Fits length := by
  constructor
  · induction built with
    | init c m id made =>
      obtain ⟨size, -, room⟩ := recorded_init made
      omega
    | @append msg type length before condition ih =>
      have appends := (appends_iff_fits msg type length).mpr condition
      unfold StunMessage.Appends at appends
      unfold StunMessage.afterAppend
      cases found : msg.append type length with
      | none => exact ih
      | some done =>
        rw [found] at appends
        have same : done.msg.bufferLen = msg.bufferLen := by
          by_cases refuses : msg.Refuses length
          · rw [append_eq_none refuses] at found
            simp at found
          · obtain ⟨made, appended, -, written, -⟩ := append_eq_some type refuses
            rw [appended, some.injEq] at found
            rw [← found, written]
            rfl
        simp only [same]
        exact appends.2.2
  · exact appends_iff_fits msg

/-- A message without an agent in a buffer of zeros. -/
def blankMessage (size : UInt64) : StunMessage where
  agent := none
  buffer := fun _ => 0
  bufferLen := size
  key := none
  longTermKey := Vector.replicate 16 0
  longTermValid := false

/-- A Binding request with nothing but a header. -/
def bareRequest (size : UInt64) : StunMessage :=
  ((blankMessage size).init .request 1 (Vector.replicate 16 0)).getD (blankMessage size)

/-- A value of five bytes takes twelve, which fit in 64. -/
theorem append_of_run_five :
    ((bareRequest 64).afterAppend attrUsername 5).recorded = 32 ∧
      ((bareRequest 64).afterAppend attrUsername 5).recorded ≤
        ((bareRequest 64).afterAppend attrUsername 5).bufferLen.toNat := by
  have made : (blankMessage 64).init .request 1 (Vector.replicate 16 0) =
      some (bareRequest 64) := rfl
  have header : Appending (fun msg _ length => msg.Fits length) (bareRequest 64) := .init _ _ _ made
  have fits : (bareRequest 64).Fits 5 := .inr ⟨by decide +kernel, by decide +kernel⟩
  exact ⟨by decide +kernel, (append_of_run (.append attrUsername 5 header fits)).1⟩

/-- In 25 bytes there is room for a value of one byte, and its padding is written behind them. -/
theorem append_writes_behind :
    Appending (fun _ _ _ => True) (bareRequest 25) ∧
      ∃ done, (bareRequest 25).append attrUsername 1 = some done ∧
        (∃ span ∈ done.writes, span.start = 25 ∧ span.count = 3) ∧
        done.msg.recorded = 28 ∧ done.msg.bufferLen = 25 := by
  have made : (blankMessage 25).init .request 1 (Vector.replicate 16 0) =
      some (bareRequest 25) := rfl
  have header : Appending (fun _ _ _ => True) (bareRequest 25) := .init _ _ _ made
  refine ⟨header, _, rfl, ⟨⟨25, 3⟩, ?_, rfl, rfl⟩, ?_, rfl⟩
  · decide +kernel
  · decide +kernel

end Xice.Stun
