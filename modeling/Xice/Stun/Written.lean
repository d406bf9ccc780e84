import Xice.Stun.Append
import Xice.Stun.Lookup

/-!
# Appending and finding

What a message holds after a number of appends, and that `stun_message_find` gives the values back.
Without the cookie, the padding of a value counts as part of it.
-/

namespace Xice.Stun

open Xice.Lib List Mem Option

/-! ## One attribute -/

/-- A value with its padding fits. -/
theorem encode_fits (unaligned cookie : Bool) {value : List UInt8} (fits : value.length < 65533) :
    (if cookie then value else value ++ List.replicate (paddingOf unaligned value.length) 32).length <
      2 ^ 16 := by
  have bound : paddingOf unaligned value.length < 4 := by
    unfold paddingOf
    split <;> omega
  cases cookie with
  | true => exact Nat.lt_trans fits (by decide)
  | false =>
    simp only [Bool.false_eq_true, if_false, length_append, length_replicate]
    omega

/-- The padding does not depend on the cookie. -/
theorem encode_padded (unaligned cookie : Bool) (value : List UInt8) :
    (if cookie then List.replicate (paddingOf unaligned value.length) (32 : UInt8) else []).length =
      paddingOf unaligned (if cookie then value else
        value ++ List.replicate (paddingOf unaligned value.length) 32).length := by
  cases cookie with
  | true => simp
  | false =>
    simp only [Bool.false_eq_true, if_false, length_append, length_replicate,
      length_nil, paddingOf]
    cases unaligned with
    | true => rfl
    | false =>
      simp only [Bool.false_eq_true, if_false]
      omega

/-- The attribute that stands for an appended value. -/
def encode (unaligned cookie : Bool) (type : StunAttribute) (value : List UInt8)
    (fits : value.length < 65533) : Attribute unaligned where
  type := type
  value := if cookie then value else value ++ List.replicate (paddingOf unaligned value.length) 32
  padding := if cookie then List.replicate (paddingOf unaligned value.length) 32 else []
  fits := encode_fits unaligned cookie fits
  padded := encode_padded unaligned cookie value

/-- The type is kept. -/
theorem type_encode (unaligned cookie : Bool) (type : StunAttribute) (value : List UInt8)
    (fits : value.length < 65533) : (encode unaligned cookie type value fits).type = type := rfl

/-- The padding comes behind the value in any case. -/
theorem bytes_encode (unaligned cookie : Bool) (type : StunAttribute) (value : List UInt8)
    (fits : value.length < 65533) :
    (encode unaligned cookie type value fits).bytes =
      htons type ++ htons (UInt16.ofNat (encode unaligned cookie type value fits).value.length) ++
        value ++ List.replicate (paddingOf unaligned value.length) 32 := by
  cases cookie with
  | true => rfl
  | false => simp [Attribute.bytes, encode]

/-- A message of which the attributes are known. -/
structure StunMessage.Written (msg : StunMessage) {unaligned : Bool}
    (attrs : List (Attribute unaligned)) : Prop where
  mode : msg.unaligned = unaligned
  small : msg.recorded < 2 ^ 16
  inside : msg.recorded ≤ msg.bufferLen.toNat
  bytes : slice msg.buffer 20 msg.recorded = attrs.flatMap Attribute.bytes

/-- Only the length and bytes behind the message differ. -/
structure StunMessage.Extends (msg more : StunMessage) : Prop where
  same : more = { msg with buffer := more.buffer }
  head : ∀ index < 2, more.buffer index = msg.buffer index
  body : ∀ index, 4 ≤ index → index < msg.recorded → more.buffer index = msg.buffer index

variable {msg more : StunMessage} {type : StunAttribute} {length : UInt64} {unaligned : Bool}
  {attrs : List (Attribute unaligned)} {value : List UInt8}

/-- Nothing changed. -/
theorem StunMessage.Extends.refl (msg : StunMessage) : msg.Extends msg :=
  ⟨rfl, fun _ _ => rfl, fun _ _ _ => rfl⟩

variable (after : msg.Extends more)

include after

/-- The agent is the same. -/
theorem StunMessage.Extends.agent : more.agent = msg.agent := by
  rw [after.same]

/-- So is the buffer. -/
theorem StunMessage.Extends.bufferLen : more.bufferLen = msg.bufferLen := by
  rw [after.same]

/-- So is the mode. -/
theorem StunMessage.Extends.mode : more.unaligned = msg.unaligned := by
  rw [StunMessage.unaligned, after.agent]
  rfl

/-- So is the swap of types. -/
theorem StunMessage.Extends.wireType (type : StunAttribute) :
    more.wireType type = msg.wireType type := by
  rw [StunMessage.wireType, after.agent]
  rfl

/-- So is the id. -/
theorem StunMessage.Extends.id : more.id.value = msg.id.value := by
  have header : 20 ≤ msg.recorded := Nat.le_add_left _ _
  change Vector.ofFn _ = Vector.ofFn _
  congr 1
  funext index
  exact after.body _ (Nat.le_add_right _ _) (by omega)

/-- So is the cookie. -/
theorem StunMessage.Extends.hasCookie : more.hasCookie.value = msg.hasCookie.value := by
  simp only [StunMessage.hasCookie, Reading.value_bind, Reading.value_pure, after.id]

omit after

/-- One after the other. -/
theorem StunMessage.Extends.trans {last : StunMessage} (first : msg.Extends more)
    (second : more.Extends last) (longer : msg.recorded ≤ more.recorded) : msg.Extends last where
  same := by rw [second.same, first.same]
  head index low := (second.head index low).trans (first.head index low)
  body index low high := (second.body index low (by omega)).trans (first.body index low high)

/-! ## One append -/

/-- Room for an attribute with its padding is room. -/
theorem not_refuses (inside : msg.grown length ≤ msg.bufferLen.toNat)
    (small : msg.grown length < 2 ^ 16) : ¬msg.Refuses length := by
  have grown : msg.recorded + 4 + length.toNat ≤ msg.grown length := Nat.le_add_right _ _
  have size : (ntohs msg.buffer 2 + 20).toNat = msg.recorded := by
    rw [UInt16.toNat_add]
    exact Nat.mod_eq_of_lt (show msg.recorded < 2 ^ 16 by omega)
  rw [StunMessage.Refuses, UInt64.lt_iff_toNat_lt, UInt64.toNat_add, UInt64.toNat_add,
    UInt16.toNat_toUInt64, size]
  change ¬_ < ((msg.recorded + 4) % 2 ^ 64 + length.toNat) % 2 ^ 64
  omega

/-- An attribute goes to the end. -/
theorem place_eq (small : msg.recorded < 2 ^ 16) : msg.place = msg.recorded := by
  rw [StunMessage.place, UInt16.toNat_add]
  exact Nat.mod_eq_of_lt small

/-- An append writes behind the message, except for the length. -/
theorem appended_extends (small : msg.recorded < 2 ^ 16) (type : StunAttribute)
    (length : UInt64) : msg.Extends (msg.appended type length) := by
  have place := place_eq small
  have kept : ∀ index, index ≠ 2 → index ≠ 3 → index < msg.recorded →
      (msg.appended type length).buffer index = msg.buffer index := by
    intro index two three before
    simp only [StunMessage.appended, StunMessage.appendedBuffer, stunSetw]
    rw [store_outside _ (by simp [htons]; omega), store_outside _ (by omega),
      store_outside _ (by omega), store_outside _ (by omega)]
  have header : 20 ≤ msg.recorded := Nat.le_add_left _ _
  constructor
  · rfl
  · intro index low
    exact kept index (by omega) (by omega) (by omega)
  · intro index low high
    exact kept index (by omega) (by omega) high

/-- An attribute is given its encoded length. -/
theorem givenLength_eq (mode : msg.unaligned = unaligned) (size : value.length = length.toNat)
    (fits : value.length < 65533) :
    msg.givenLength length = UInt16.ofNat
      (encode unaligned msg.hasCookie.value type value fits).value.length := by
  have aligned := toNat_stunAlign (l := length) (by omega)
  rw [← UInt16.toNat_inj, UInt16.toNat_ofNat', StunMessage.givenLength, mode]
  cases unaligned with
  | true => cases msg.hasCookie.value <;> simp [encode, paddingOf, size]
  | false =>
    cases msg.hasCookie.value with
    | true => simp [encode, size]
    | false =>
      simp only [Bool.or_false, Bool.false_eq_true, if_false, encode, paddingOf,
        length_append, length_replicate, size, UInt64.toNat_toUInt16, aligned]
      omega

/-- A value was appended and filled in. -/
def StunMessage.filled (msg : StunMessage) (type : StunAttribute) (length : UInt64)
    (value : List UInt8) : StunMessage :=
  { msg with buffer := (msg.appended type length).buffer.store (msg.recorded + 4) value }

/-- There is room, and it is appended. -/
theorem append_filled (type : StunAttribute) (inside : msg.grown length ≤ msg.bufferLen.toNat)
    (small : msg.grown length < 2 ^ 16) :
    ∃ done, msg.append type length = some done ∧ done.ptr = msg.recorded + 4 ∧
      done.msg = msg.appended type length ∧
      ∀ value, (done.fill 0 value).msg = msg.filled type length value := by
  have grown : msg.recorded + 4 + length.toNat ≤ msg.grown length := Nat.le_add_right _ _
  obtain ⟨done, same, ptr, made, -⟩ := append_eq_some type (not_refuses inside small)
  rw [place_eq (by omega)] at ptr
  refine ⟨done, same, ptr, made, ?_⟩
  intro value
  simp only [Appended.fill, ptr, made, Nat.add_zero]
  rfl

/-- `stun_message_append_bytes`, with room. -/
theorem appendBytes_filled (type : StunAttribute) (data : Mem) (small : msg.recorded < 2 ^ 16)
    (room : ¬msg.Refuses length) : ∃ done, msg.appendBytes type data length = some done ∧
      done.msg = msg.filled type length (data.read length.toNat) := by
  obtain ⟨done, appended, ptr, made, -⟩ := append_eq_some type room
  rw [place_eq small] at ptr
  refine ⟨done.fill 0 (data.read length.toNat), ?_, ?_⟩
  · rw [StunMessage.appendBytes, appended]
  · simp only [Appended.fill, ptr, made, Nat.add_zero]
    rfl

/-- The size grows. -/
theorem recorded_appended (small : msg.grown length < 2 ^ 16) (type : StunAttribute) :
    (msg.appended type length).recorded = msg.grown length := by
  have field := toNat_nextField msg length
  have grown : msg.grown length = (ntohs msg.buffer 2).toNat + 20 + 4 + length.toNat +
      paddingOf msg.unaligned length.toNat := rfl
  have kept : ntohs (msg.appended type length).buffer 2 = msg.nextField length :=
    ntohs_stunSetw _ 2 _
  rw [StunMessage.recorded, kept, field]
  omega

/-- It grows as much with the value. -/
theorem recorded_filled (small : msg.grown length < 2 ^ 16) (type : StunAttribute)
    (value : List UInt8) : (msg.filled type length value).recorded = msg.grown length := by
  have header : 20 ≤ msg.recorded := Nat.le_add_left _ _
  have kept : ∀ index < msg.recorded, (msg.filled type length value).buffer index =
      (msg.appended type length).buffer index :=
    fun index before => store_outside _ (by omega)
  rw [← recorded_appended small type, StunMessage.recorded, StunMessage.recorded,
    ntohs_congr (kept 2 (by omega)) (kept 3 (by omega))]

/-- The message is continued. -/
theorem filled_extends (small : msg.recorded < 2 ^ 16) (type : StunAttribute) (length : UInt64)
    (value : List UInt8) : msg.Extends (msg.filled type length value) := by
  have before := appended_extends small type length
  have header : 20 ≤ msg.recorded := Nat.le_add_left _ _
  constructor
  · rfl
  · intro index low
    rw [← before.head index low]
    exact store_outside _ (by omega)
  · intro index low high
    rw [← before.body index low high]
    exact store_outside _ (by omega)

/-- The bytes that an append leaves behind the message. -/
theorem slice_filled (small : msg.grown length < 2 ^ 16) (size : value.length = length.toNat)
    (fits : value.length < 65533) :
    slice (msg.filled type length value).buffer msg.recorded (msg.grown length) =
      (encode msg.unaligned msg.hasCookie.value (msg.wireType type) value fits).bytes := by
  have grown : msg.grown length =
      msg.recorded + 4 + length.toNat + paddingOf msg.unaligned length.toNat := rfl
  have header : 20 ≤ msg.recorded := Nat.le_add_left _ _
  have place : msg.place = msg.recorded := place_eq (by omega)
  have given : (msg.typed type).givenLength length = UInt16.ofNat
      (encode msg.unaligned msg.hasCookie.value (msg.wireType type) value fits).value.length := by
    have after : msg.Extends (msg.typed type) := by
      have kept : ∀ index < msg.recorded, (msg.typed type).buffer index = msg.buffer index :=
        fun index before => store_outside _ (by omega)
      exact ⟨rfl, fun index low => kept index (by omega), fun index _ high => kept index high⟩
    rw [← after.hasCookie]
    exact givenLength_eq rfl size fits
  rw [bytes_encode, ← given, slice_append _ (show msg.recorded ≤ msg.recorded + 4 + value.length by
    omega) (by omega), slice_append _ (show msg.recorded ≤ msg.recorded + 4 by omega) (by omega),
    slice_append _ (show msg.recorded ≤ msg.recorded + 2 by omega) (by omega)]
  simp only [StunMessage.filled, StunMessage.appended, StunMessage.appendedBuffer, stunSetw, place]
  congr 1
  · congr 1
    · congr 1
      -- the type
      · rw [slice_store_outside _ (by omega), slice_store_outside _ (by simp [htons]; omega),
          slice_store_outside _ (by omega), slice_store_outside _ (by omega)]
        exact slice_store _ _ _
      -- the length
      · rw [slice_store_outside _ (by omega), slice_store_outside _ (by simp [htons]; omega),
          slice_store_outside _ (by omega)]
        exact slice_store _ _ _
    -- the value
    · exact slice_store _ _ _
  -- the padding
  · rw [slice_store_outside _ (by omega), slice_store_outside _ (by simp [htons]; omega),
      toNat_padding, size, grown]
    have stored := slice_store (stunSetw (stunSetw msg.buffer msg.recorded (msg.wireType type))
      (msg.recorded + 2) ((msg.typed type).givenLength length)) (msg.recorded + 4 + length.toNat)
      (List.replicate (paddingOf msg.unaligned length.toNat) 32)
    rw [length_replicate] at stored
    exact stored

/-- One more attribute is known. -/
theorem StunMessage.Written.filled (written : msg.Written attrs) (type : StunAttribute)
    (inside : msg.grown length ≤ msg.bufferLen.toNat) (small : msg.grown length < 2 ^ 16)
    (size : value.length = length.toNat) (fits : value.length < 65533) :
    (msg.filled type length value).Written
      (attrs ++ [encode unaligned msg.hasCookie.value (msg.wireType type) value fits]) := by
  obtain ⟨rfl, short, -, bytes⟩ := written
  have recorded := recorded_filled small type value
  have after := filled_extends short type length value
  have header : 20 ≤ msg.recorded := Nat.le_add_left _ _
  have grown : msg.recorded + 4 + length.toNat ≤ msg.grown length := Nat.le_add_right _ _
  constructor
  · exact after.mode
  · rw [recorded]
    exact small
  · rw [recorded]
    exact inside
  · have front : slice (msg.filled type length value).buffer 20 msg.recorded =
        slice msg.buffer 20 msg.recorded :=
      slice_congr fun index low high => after.body index (by omega) high
    rw [recorded, slice_append _ header (by omega), front, bytes, slice_filled small size fits]
    simp

/-! ## Finding what is known -/

/-- The type and the value of an attribute. -/
def Attribute.content (attr : Attribute unaligned) : StunAttribute × List UInt8 :=
  (attr.type, attr.value)

/-- The first one that can be seen is found. -/
theorem StunMessage.Written.find (written : msg.Written attrs) (type : StunAttribute) :
    (msg.find type).value.map msg.bytesOf =
      (visible Prod.fst (msg.wireType type) (attrs.map Attribute.content)).map Prod.snd := by
  obtain ⟨rfl, small, -, bytes⟩ := written
  obtain ⟨offsets, laid, rfl⟩ := chain_of_slice (Nat.le_add_left _ _) bytes
  rw [value_find type laid small, List.map_map, visible_map, Option.map_map, Option.map_map]
  congr 1
  funext offset
  simp [StunMessage.bytesOf, Attribute.content, attributeAt, slice]

/-- MS-TURN does not swap MESSAGE-INTEGRITY and FINGERPRINT, and nothing is lost. -/
theorem visible_wireType {α : Type} (msg : StunMessage) (typeOf : α → StunAttribute)
    (type : StunAttribute) (list : List α) :
    visible (fun a => msg.wireType (typeOf a)) (msg.wireType type) list =
      visible typeOf type list := by
  apply visible_congr
  · intro a _
    unfold StunMessage.wireType
    grind [attrRealm, attrNonce]
  · intro a _
    unfold StunMessage.wireType hides
    grind [attrRealm, attrNonce, attrFingerprint, attrMessageIntegrity]

/-! ## A sequence of appends -/

/-- The arguments of `stun_message_append_bytes`. -/
structure Item where
  type : StunAttribute
  data : Mem
  len : UInt64

/-- The value of an item. -/
def Item.bytes (item : Item) : List UInt8 := item.data.read item.len.toNat

/-- The number of bytes that an item takes in a message. -/
def Item.size (unaligned : Bool) (item : Item) : Nat :=
  4 + item.len.toNat + paddingOf unaligned item.len.toNat

/-- The value of an item, as it is found. -/
def Item.seen (cookie unaligned : Bool) (item : Item) : List UInt8 :=
  if cookie || unaligned then item.bytes
  else item.bytes ++ List.replicate ((4 - item.len.toNat % 4) % 4) 32

/-- Calls of `stun_message_append_bytes` that all succeed. -/
def StunMessage.appendAll (msg : StunMessage) : List Item → Option StunMessage
  | [] => some msg
  | item :: rest =>
    match msg.appendBytes item.type item.data item.len with
    | none => none
    | some done => done.msg.appendAll rest

/-- The value as it is seen. -/
theorem value_encode (unaligned cookie : Bool) (type : StunAttribute) (item : Item)
    (fits : item.bytes.length < 65533) :
    (encode unaligned cookie type item.bytes fits).value = item.seen cookie unaligned := by
  have size : item.bytes.length = item.len.toNat := length_read _ _
  cases cookie with
  | true => rfl
  | false =>
    cases unaligned with
    | true => simp [encode, Item.seen, paddingOf]
    | false => simp [encode, Item.seen, paddingOf, size]

/-- All of them are known. -/
theorem StunMessage.Written.appendAll {items : List Item} (written : msg.Written attrs)
    (inside : msg.recorded + (items.map (Item.size unaligned)).sum ≤ msg.bufferLen.toNat)
    (small : msg.recorded + (items.map (Item.size unaligned)).sum < 2 ^ 16) :
    ∃ last added, msg.appendAll items = some last ∧ msg.Extends last ∧
      last.recorded = msg.recorded + (items.map (Item.size unaligned)).sum ∧
      last.Written (attrs ++ added) ∧
      added.map Attribute.content =
        items.map fun item => (msg.wireType item.type, item.seen msg.hasCookie.value unaligned) := by
  induction items generalizing msg attrs with
  | nil =>
    refine ⟨msg, [], rfl, .refl msg, rfl, ?_, rfl⟩
    rw [append_nil]
    exact written
  | cons item rest ih =>
    rw [map_cons, sum_cons] at inside small
    have grown : msg.grown item.len = msg.recorded + item.size unaligned := by
      rw [StunMessage.grown, written.mode, Item.size]
      omega
    have size : item.bytes.length = item.len.toNat := length_read _ _
    have fits : item.bytes.length < 65533 := by
      have whole : 4 + item.len.toNat ≤ item.size unaligned := Nat.le_add_right _ _
      have header : 20 ≤ msg.recorded := Nat.le_add_left _ _
      omega
    have room : msg.grown item.len ≤ msg.bufferLen.toNat := by omega
    have short : msg.grown item.len < 2 ^ 16 := by omega
    obtain ⟨done, appended, filled⟩ :=
      appendBytes_filled item.type item.data (by omega) (not_refuses room short)
    have first := filled_extends written.small item.type item.len item.bytes
    have recorded := recorded_filled short item.type item.bytes
    have next := written.filled item.type room short size fits
    obtain ⟨last, added, all, later, total, known, contents⟩ := ih next
      (by rw [recorded, first.bufferLen]; omega) (by rw [recorded]; omega)
    refine ⟨last, encode unaligned msg.hasCookie.value (msg.wireType item.type) item.bytes fits ::
      added, ?_, first.trans later (by omega), ?_, ?_, ?_⟩
    · simp only [StunMessage.appendAll, appended, filled]
      exact all
    · rw [total, recorded, grown, map_cons, sum_cons, Nat.add_assoc]
    · simpa using known
    · rw [map_cons, map_cons, contents, Attribute.content, type_encode, value_encode,
        first.hasCookie]
      simp only [first.wireType]

/-- A new message has no attributes. -/
theorem written_init {blank : StunMessage} {c : StunClass} {m : StunMethod}
    {id : StunTransactionId} (made : blank.init c m id = some msg) :
    msg.Written ([] : List (Attribute msg.unaligned)) ∧ msg.agent = blank.agent := by
  obtain ⟨recorded, -, room⟩ := recorded_init made
  refine ⟨⟨rfl, by omega, by omega, ?_⟩, ?_⟩
  · rw [recorded]
    rfl
  · unfold StunMessage.init at made
    split at made
    · exact absurd made (by simp)
    · rw [← some.inj made]

/-- What was appended is found, unless something before hides it. -/
theorem find_of_appendAll {blank last : StunMessage} {c : StunClass} {m : StunMethod}
    {id : StunTransactionId} {items : List Item} (made : blank.init c m id = some msg)
    (small : blank.bufferLen.toNat ≤ 65535) (appended : msg.appendAll items = some last)
    (fits : 20 + (items.map (Item.size blank.unaligned)).sum ≤ blank.bufferLen.toNat)
    (type : StunAttribute) :
    (last.find type).value.map last.bytesOf =
      (visible Item.type type items).map (Item.seen last.hasCookie.value last.unaligned) := by
  obtain ⟨recorded, size, -⟩ := recorded_init made
  obtain ⟨written, agent⟩ := written_init made
  have mode : msg.unaligned = blank.unaligned := by
    rw [StunMessage.unaligned, agent]
    rfl
  rw [← mode] at fits
  obtain ⟨done, added, all, after, -, known, contents⟩ := written.appendAll
    (by rw [recorded, size]; exact fits) (by omega)
  rw [appended, Option.some.injEq] at all
  subst all
  rw [List.nil_append] at known
  rw [known.find type, contents, visible_map, Option.map_map, after.wireType,
    visible_wireType msg Item.type, after.hasCookie, after.mode]
  simp only [Function.comp_def]

/-- A USERNAME of three bytes is found with a space behind it, without the cookie. -/
theorem find_of_appendAll_padded :
    let item : Item := ⟨attrUsername, Mem.ofList [97, 98, 99], 3⟩
    ∃ last, (bareRequest 64).appendAll [item] = some last ∧
      (last.find attrUsername).value.map last.bytesOf = some [97, 98, 99, 32] := by
  intro item
  have made : (blankMessage 64).init .request 1 (Vector.replicate 16 0) =
      some (bareRequest 64) := rfl
  have appended : (bareRequest 64).appendAll [item] = some _ := rfl
  refine ⟨_, appended, ?_⟩
  rw [find_of_appendAll made (by decide) appended (by decide) attrUsername]
  decide +kernel

end Xice.Stun
