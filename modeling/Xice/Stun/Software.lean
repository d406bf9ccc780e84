import Xice.Stun.Written

/-!
# The SOFTWARE attribute

`stun_message_append_software` steps over a string in UTF-8 with a table of lengths, up to the 128th
character or the NUL; a message without the cookie counts the padding as part of the value.
-/

namespace Xice.Stun

open Xice.Lib List Mem

variable {software : Mem} {chars : List Char} {ptr : Nat}

/-- A string in UTF-8. -/
def utf8 (chars : List Char) : List UInt8 := chars.flatMap String.utf8EncodeChar

/-- The bytes of a character come first. -/
theorem utf8_cons (char : Char) (chars : List Char) :
    utf8 (char :: chars) = String.utf8EncodeChar char ++ utf8 chars := flatMap_cons

/-- The bytes of two parts. -/
theorem utf8_append (front back : List Char) : utf8 (front ++ back) = utf8 front ++ utf8 back :=
  flatMap_append

/-- A string without a NUL, and a NUL behind it. -/
structure Terminated (software : Mem) (ptr : Nat) (chars : List Char) : Prop where
  proper : '\x00' ∉ chars
  held : (software.offset ptr).read ((utf8 chars).length + 1) = utf8 chars ++ [0]

/-- The table agrees with the encoding. -/
theorem utf8Skip_encode (char : Char) : ∃ byte rest, String.utf8EncodeChar char = byte :: rest ∧
    (char ≠ '\x00' → byte ≠ 0) ∧ utf8Skip byte = rest.length + 1 := by
  have nonzero (proper : char ≠ '\x00') : char.val.toNat ≠ 0 := by
    intro zero
    exact proper (Char.ext (UInt32.toNat_inj.mp zero))
  simp only [String.utf8EncodeChar]
  split_ifs
  all_goals
    refine ⟨_, _, rfl, fun proper => ?_, ?_⟩
    · rw [ne_eq, ← UInt8.toNat_inj, UInt8.toNat_ofNat']
      have := nonzero proper
      change ¬_ = 0
      omega
    · simp only [utf8Skip, UInt8.lt_iff_toNat_lt, UInt8.toNat_ofNat', UInt8.reduceToNat,
        length_cons, length_nil]
      split_ifs <;> omega

/-- The first byte of a string that lies at a place. -/
theorem eq_of_read {count : Nat} {byte : UInt8} {rest : List UInt8}
    (held : (software.offset ptr).read (count + 1) = byte :: rest) : software ptr = byte := by
  have first := Mem.getElem?_read (software.offset ptr) (Nat.succ_pos count)
  rw [held] at first
  exact (Option.some.inj first).symm

/-- One character, and the string behind it. -/
theorem Terminated.cons {char : Char} (string : Terminated software ptr (char :: chars)) :
    software ptr ≠ 0 ∧ utf8Skip (software ptr) = (String.utf8EncodeChar char).length ∧
      Terminated software (ptr + (String.utf8EncodeChar char).length) chars := by
  obtain ⟨proper, held⟩ := string
  rw [mem_cons, not_or] at proper
  rw [utf8_cons, length_append, Nat.add_assoc, read_add, offset_offset,
    append_assoc] at held
  obtain ⟨first, rest⟩ := append_inj held (length_read _ _)
  obtain ⟨byte, tail, encoded, nonzero, skip⟩ := utf8Skip_encode char
  rw [encoded] at first
  rw [eq_of_read first]
  exact ⟨nonzero (Ne.symm proper.1), by rw [skip, encoded, length_cons], proper.2, rest⟩

/-- The loop stops behind the last character it counts. -/
theorem softwareEnd_utf8 (string : Terminated software ptr chars) (left : Nat) :
    softwareEnd software left ptr = ptr + (utf8 (chars.take left)).length ∧
      ∀ index ∈ softwareReads software left ptr, index ≤ ptr + (utf8 chars).length := by
  induction chars generalizing left ptr with
  | nil =>
    have zero : software ptr = 0 := eq_of_read string.held
    cases left <;> simp [softwareEnd, softwareReads, zero, utf8]
  | cons char chars ih =>
    cases left with
    | zero => simp [softwareEnd, softwareReads, utf8]
    | succ left =>
      obtain ⟨nonzero, skip, rest⟩ := string.cons
      obtain ⟨stops, looks⟩ := ih rest left
      rw [softwareEnd_succ, softwareReads, if_pos nonzero, if_pos nonzero, skip, stops,
        take_succ_cons, utf8_cons, utf8_cons, length_append, length_append]
      refine ⟨Nat.add_assoc _ _ _, fun index member => ?_⟩
      rcases mem_cons.mp member with rfl | member
      · omega
      · have := looks index member
        omega

/-- What the loop steps over. -/
theorem Terminated.read_take (string : Terminated software 0 chars) (left : Nat) :
    software.read (utf8 (chars.take left)).length = utf8 (chars.take left) := by
  have held := string.held
  have start : software.offset 0 = software := by
    funext index
    simp
  rw [start, ← take_append_drop left chars, utf8_append, length_append, Nat.add_assoc,
    read_add, append_assoc] at held
  exact (append_inj held (length_read _ _)).1

/-- With room in the buffer and in sixteen bits of length, a message gets a SOFTWARE attribute of
the first 128 characters; without the cookie, spaces that align it are part of the value too. No
byte behind the NUL is looked at. -/
theorem appendSoftware_utf8 (msg : StunMessage) (string : Terminated software 0 chars)
    (room : msg.recorded + 4 + (utf8 (chars.take 128)).length +
      paddingOf msg.unaligned (utf8 (chars.take 128)).length ≤ min msg.bufferLen.toNat 65535) :
    (∃ done, ∃ attr : Attribute msg.unaligned, msg.appendSoftware (some software) = some done ∧
      msg.Extends done.msg ∧
      slice done.msg.buffer msg.recorded done.msg.recorded = attr.bytes ∧ attr.type = attrSoftware ∧
      attr.value = utf8 (chars.take 128) ++ if msg.hasCookie.value then [] else
        List.replicate (paddingOf msg.unaligned (utf8 (chars.take 128)).length) 32) ∧
    (∀ index ∈ softwareReads software 128 0, index ≤ (utf8 chars).length) ∧
      softwareEnd software 128 0 ≤ (utf8 chars).length := by
  obtain ⟨stops, looks⟩ := softwareEnd_utf8 string 128
  rw [Nat.zero_add] at stops looks
  set value := utf8 (chars.take 128) with named
  have length : (UInt64.ofNat value.length).toNat = value.length := by
    rw [UInt64.toNat_ofNat', Nat.mod_eq_of_lt (by omega)]
  have grown : msg.grown (UInt64.ofNat value.length) =
      msg.recorded + 4 + value.length + paddingOf msg.unaligned value.length := by
    rw [StunMessage.grown, length]
  have size : value.length = (UInt64.ofNat value.length).toNat := length.symm
  refine ⟨?_, looks, ?_⟩
  · obtain ⟨done, appended, filled⟩ := appendBytes_filled attrSoftware software (by omega)
      (not_refuses (show msg.grown (UInt64.ofNat value.length) ≤ _ by omega) (by omega))
    rw [length, named, string.read_take, ← named] at filled
    have fits : value.length < 65533 := by omega
    refine ⟨done, encode msg.unaligned msg.hasCookie.value (msg.wireType attrSoftware) value fits,
      ?_, ?_, ?_, ?_, ?_⟩
    · rw [← appended, StunMessage.appendSoftware, Option.getD_some, stops]
    · rw [filled]
      exact filled_extends (by omega) _ _ _
    · rw [filled, recorded_filled (by omega)]
      exact slice_filled (by omega) size fits
    · rw [type_encode, StunMessage.wireType]
      split <;> rfl
    · cases cookie : msg.hasCookie.value <;> simp [encode]
  · have whole := congrArg List.length (utf8_append (chars.take 128) (chars.drop 128))
    rw [take_append_drop, length_append, ← named] at whole
    omega

/-- `abc` without the cookie has a space behind it. -/
theorem appendSoftware_utf8_abc :
    ∃ done, ∃ attr : Attribute (bareRequest 64).unaligned,
      (bareRequest 64).appendSoftware (some (Mem.ofList [97, 98, 99, 0])) = some done ∧
      slice done.msg.buffer 20 done.msg.recorded = attr.bytes ∧ attr.value = [97, 98, 99, 32] := by
  have string : Terminated (Mem.ofList [97, 98, 99, 0]) 0 ['a', 'b', 'c'] := ⟨by decide, by decide⟩
  obtain ⟨⟨done, attr, appended, -, bytes, -, value⟩, -⟩ :=
    appendSoftware_utf8 (bareRequest 64) string (by decide +kernel)
  exact ⟨done, attr, appended, bytes, value⟩

/-- The attribute in the message is longer than the string. -/
theorem software_longer :
    ((bareRequest 64).appendSoftware (some (Mem.ofList [97, 98, 99, 0]))).map
      (fun done => slice done.msg.buffer 20 done.msg.recorded) =
    some [0x80, 0x22, 0, 4, 97, 98, 99, 32] := by decide +kernel

end Xice.Stun
