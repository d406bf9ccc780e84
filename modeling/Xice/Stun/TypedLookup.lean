import Xice.Stun.Address
import Xice.Stun.ValidateReads

/-!
# Look-ups in received messages

`stun_message_find` walks over the same attributes as the validation did. The look-ups of a certain
kind of value want a value of their size, and look at nothing else.
-/

namespace Xice.Stun

open Xice.Lib Reading

variable {α : Type} {msg : StunMessage} {type : StunAttribute}

/-! ## Kinds of values -/

/-- A look-up of a kind of value succeeds only on a value of the right size, and looks at it only.
-/
structure StunMessage.Typed (msg : StunMessage) (type : StunAttribute) (lookup : Reading α)
    (succeeds : α → Prop) (size : Nat → Prop) : Prop where
  sized : succeeds lookup.value →
    ∃ found, (msg.find type).value = some found ∧ size found.len.toNat
  reads : ∃ behind, lookup.reads = (msg.find type).reads ++ behind ∧
    ∀ span ∈ behind, ∃ found, (msg.find type).value = some found ∧
      (span.count = 0 ∨ found.offset ≤ span.start ∧
        span.start + span.count ≤ found.offset + found.len.toNat)

/-- A look-up of this shape. -/
theorem typed_of_found {absent : α} {rest : Found → Reading α} {succeeds : α → Prop}
    {size : Nat → Prop} {lookup : Reading α}
    (shape : lookup = msg.find type >>= fun search =>
      match search with
      | none => pure absent
      | some found => rest found)
    (failed : ¬succeeds absent)
    (sized : ∀ found, succeeds (rest found).value → size found.len.toNat)
    (inside : ∀ found,
      (rest found).Inside found.offset (found.offset + found.len.toNat)) :
    msg.Typed type lookup succeeds size := by
  subst shape
  cases search : (msg.find type).value with
  | none =>
    refine ⟨?_, [], ?_, List.forall_mem_nil _⟩
    · intro success
      rw [value_bind, search] at success
      exact absurd success failed
    · rw [reads_bind, search]
      rfl
  | some found =>
    refine ⟨?_, (rest found).reads, ?_, ?_⟩
    · intro success
      rw [value_bind, search] at success
      exact ⟨found, search, sized found success⟩
    · rw [reads_bind, search]
    · intro span member
      exact ⟨found, search, inside found span member⟩

/-- A result that is not an error. -/
def Succeeds {ε : Type} (result : Except ε α) : Prop := ∃ value, result = .ok value

/-- An error is no success. -/
theorem not_succeeds {ε : Type} (e : ε) : ¬Succeeds (.error e : Except ε α) :=
  fun found => found.elim fun _ same => absurd same (by simp)

/-- A value of one size. -/
theorem typed_exact {size : UInt16} {value : Found → α}
    {lookup : Reading (Except StunMessageReturn α)}
    (shape : lookup = msg.find type >>= fun search =>
      match search with
      | none => pure (.error .notFound)
      | some found =>
        if found.len = size then .look found.offset size.toNat (.ok (value found))
        else pure (.error .invalid)) : msg.Typed type lookup Succeeds (· = size.toNat) := by
  refine typed_of_found shape (not_succeeds _) ?_ ?_
  · intro found success
    rw [value_ite] at success
    split at success
    · rename_i same
      rw [same]
    · exact absurd success (not_succeeds _)
  · intro found
    apply inside_ite
    · intro same
      rw [inside_look, same]
      exact .inr ⟨Nat.le_refl _, Nat.le_refl _⟩
    · intro _
      exact inside_pure _ _ _

/-- Of four bytes. -/
theorem typed_find32 (msg : StunMessage) (type : StunAttribute) :
    msg.Typed type (msg.find32 type) Succeeds (· = 4) :=
  @typed_exact _ msg type 4 _ _ rfl

/-- Of eight bytes. -/
theorem typed_find64 (msg : StunMessage) (type : StunAttribute) :
    msg.Typed type (msg.find64 type) Succeeds (· = 8) :=
  @typed_exact _ msg type 8 _ _ rfl

/-- A string that fits. -/
theorem typed_findString (msg : StunMessage) (type : StunAttribute) (buflen : UInt64) :
    msg.Typed type (msg.findString type buflen) Succeeds (· < buflen.toNat) := by
  refine typed_of_found rfl (not_succeeds _) ?_ ?_
  · intro found success
    rw [value_ite] at success
    split at success
    · exact absurd success (not_succeeds _)
    · rename_i fits
      rw [ge_iff_le, UInt64.le_iff_toNat_le, UInt16.toNat_toUInt64] at fits
      omega
  · intro found
    apply inside_ite
    · intro _
      exact inside_pure _ _ _
    · intro _
      rw [inside_look]
      exact .inr ⟨Nat.le_refl _, Nat.le_refl _⟩

/-- Room for the head. -/
theorem four_le {len : UInt16} (large : ¬len < 4) : 4 ≤ len.toNat := by
  rw [UInt16.lt_iff_toNat_lt] at large
  exact Nat.le_of_not_lt large

/-- An address that fits. -/
theorem typed_findAddrInto (msg : StunMessage) (type : StunAttribute) (addrlen : Nat) :
    msg.Typed type (msg.findAddrInto type addrlen) (fun result => Succeeds result.1)
      (fun size => size = 8 ∧ 16 ≤ addrlen ∨ size = 20 ∧ 28 ≤ addrlen) := by
  refine typed_of_found rfl (not_succeeds _) ?_ ?_
  · intro found success
    rw [value_ite] at success
    split at success
    · exact absurd success (not_succeeds _)
    · rw [value_bind, value_ite] at success
      split at success
      · rw [value_ite] at success
        split at success
        · exact absurd success (not_succeeds _)
        · rename_i fits
          rw [not_or, not_not] at fits
          rw [fits.2]
          exact .inl ⟨rfl, by omega⟩
      · rw [value_ite] at success
        split at success
        · rw [value_ite] at success
          split at success
          · exact absurd success (not_succeeds _)
          · rename_i fits
            rw [not_or, not_not] at fits
            rw [fits.2]
            exact .inr ⟨rfl, by omega⟩
        · exact absurd success (not_succeeds _)
  · intro found
    apply inside_ite
    · intro _
      exact inside_pure _ _ _
    · intro large
      have four := four_le large
      rw [inside_bind, inside_look]
      refine ⟨.inr ⟨by omega, by omega⟩, ?_⟩
      apply inside_ite
      · intro _
        apply inside_ite
        · intro _
          exact inside_pure _ _ _
        · intro fits
          rw [not_or, not_not] at fits
          rw [inside_look, fits.2]
          exact .inr ⟨by omega, Nat.le_refl _⟩
      · intro _
        apply inside_ite
        · intro _
          apply inside_ite
          · intro _
            exact inside_pure _ _ _
          · intro fits
            rw [not_or, not_not] at fits
            rw [inside_look, fits.2]
            exact .inr ⟨by omega, Nat.le_refl _⟩
        · intro _
          exact inside_pure _ _ _

/-- An error code. -/
theorem typed_findError (msg : StunMessage) :
    msg.Typed attrErrorCode msg.findError Succeeds (4 ≤ ·) := by
  refine typed_of_found rfl (not_succeeds _) ?_ ?_
  · intro found success
    rw [value_ite] at success
    split at success
    · exact absurd success (not_succeeds _)
    · rename_i large
      exact four_le large
  · intro found
    apply inside_ite
    · intro _
      exact inside_pure _ _ _
    · intro large
      have four := four_le large
      rw [inside_bind, inside_look]
      refine ⟨.inr ⟨by omega, by omega⟩, ?_⟩
      apply inside_ite
      · intro _
        exact inside_pure _ _ _
      · intro _
        exact inside_pure _ _ _

/-! ## Accepted buffers -/

/-- The first attribute of its type, with no FINGERPRINT before it, and no MESSAGE-INTEGRITY unless
FINGERPRINT is looked for. -/
def Sought (buffer : Mem) (type : StunAttribute) (offsets : List Nat) (offset : Nat) : Prop :=
  ∃ front back, offsets = front ++ offset :: back ∧ ntohs buffer offset = type ∧
    ∀ earlier ∈ front, ntohs buffer earlier ≠ type ∧
      ntohs buffer earlier ≠ attrFingerprint ∧
      (ntohs buffer earlier = attrMessageIntegrity → type = attrFingerprint)

/-- The search finds that one. -/
theorem visible_iff_sought {buffer : Mem} {offsets : List Nat} {offset : Nat} :
    visible (ntohs buffer) type offsets = some offset ↔ Sought buffer type offsets offset := by
  have shown (atype : StunAttribute) : hides type atype = false ↔
      atype ≠ attrFingerprint ∧ (atype = attrMessageIntegrity → type = attrFingerprint) := by
    simp [hides]
  simp only [visible_eq_some_iff, shown, Sought]

/-- In a buffer of at most 65535 bytes that `stun_message_validate_buffer_length` accepts with
padding, look-ups of an agent that pads find the first attribute of a type in the sequence of
attributes, unless it is hidden, and read the buffer only. -/
theorem lookups_of_accepted {length : UInt64} {n : Nat} (padded : msg.unaligned = false)
    (short : length.toNat ≤ 65535) (positive : 0 < n)
    (accepted : (validateBufferLength msg.buffer length true).value = some (n : Int)) :
    ∃ offsets, Laid msg.buffer false n offsets ∧ ∀ type,
      (∀ found, (msg.find type).value = some found ↔
        ∃ offset, Sought msg.buffer (msg.wireType type) offsets offset ∧
          found = ⟨offset + 4, ntohs msg.buffer (offset + 2)⟩) ∧
      (∀ found, (msg.find type).value = some found →
        24 ≤ found.offset ∧ found.offset + found.len.toNat ≤ length.toNat) ∧
      (msg.find type).Below length.toNat ∧
      msg.Typed type (msg.find32 type) Succeeds (· = 4) ∧
      msg.Typed type (msg.find64 type) Succeeds (· = 8) ∧
      (∀ buflen, msg.Typed type (msg.findString type buflen) Succeeds (· < buflen.toNat)) ∧
      (∀ addrlen, msg.Typed type (msg.findAddrInto type addrlen)
        (fun result => Succeeds result.1)
        (fun size => size = 8 ∧ 16 ≤ addrlen ∨ size = 20 ∧ 28 ≤ addrlen)) ∧
      msg.Typed attrErrorCode msg.findError Succeeds (4 ≤ ·) := by
  rw [validateBufferLength_accepts _ _ _ positive] at accepted
  obtain ⟨offsets, laid⟩ := (attributes_iff msg.buffer _
    (by have size := accepted.size; omega)).mp accepted.attributes
  have size : n = msg.recorded := accepted.size
  have complete := accepted.complete
  subst size
  have small : msg.recorded < 2 ^ 16 := by omega
  have here : Laid msg.buffer msg.unaligned msg.recorded offsets := by
    rw [padded]
    exact laid
  have lies : msg.Lies length.toNat := ⟨⟨offsets, here⟩, complete⟩
  refine ⟨offsets, laid, fun type => ⟨?_, ?_, lies.below_find type, typed_find32 msg type,
    typed_find64 msg type, typed_findString msg type, typed_findAddrInto msg type,
    typed_findError msg⟩⟩
  · intro found
    rw [value_find type here small, Option.map_eq_some_iff]
    constructor
    · rintro ⟨offset, seen, same⟩
      exact ⟨offset, visible_iff_sought.mp seen, same.symm⟩
    · rintro ⟨offset, sought, same⟩
      exact ⟨offset, visible_iff_sought.mpr sought, same.symm⟩
  · intro found search
    obtain ⟨-, low, high⟩ := lies.found search
    exact ⟨low, Nat.le_trans high complete⟩

/-- A message with a word behind a digest, and a FINGERPRINT. -/
def fingerprinted : StunMessage :=
  { blankMessage 100 with
    buffer := Mem.ofList ([0, 1, 0, 24] ++ List.replicate 16 0 ++ [0, 8, 0, 0] ++
      [0, 36, 0, 4, 1, 2, 3, 4] ++ [128, 40, 0, 4, 5, 6, 7, 8] ++ [0, 0, 0, 0]) }

/-- FINGERPRINT is found in that message, and the word is not. -/
theorem lookups_of_accepted_hidden :
    (validateBufferLength fingerprinted.buffer 44 true).value = some 44 ∧
      (∃ found, (fingerprinted.find attrFingerprint).value = some found ∧
        found.offset + found.len.toNat ≤ 44) ∧
      (fingerprinted.find 36).value = none := by
  have accepted : (validateBufferLength fingerprinted.buffer 44 true).value =
      some ((44 : Nat) : Int) := by
    decide +kernel
  obtain ⟨offsets, -, lookups⟩ := lookups_of_accepted (show fingerprinted.unaligned = false from rfl)
    (show (44 : UInt64).toNat ≤ 65535 by decide) (by decide) accepted
  have found : (fingerprinted.find attrFingerprint).value = some ⟨36, 4⟩ := by decide +kernel
  exact ⟨accepted, ⟨_, found, ((lookups attrFingerprint).2.1 _ found).2⟩, by decide +kernel⟩

end Xice.Stun
