import Xice.Stun.Layout
import Xice.Stun.Agent

/-!
# Looking for attributes

`stun_message_find` takes the first attribute of a type, unless MESSAGE-INTEGRITY or FINGERPRINT
comes before it. Over a chain of attributes its loop is a search in the list of their offsets.
-/

namespace Xice.Stun

open Xice.Lib List Reading

/-! ## What can be seen -/

/-- What is ignored behind `atype`: only FINGERPRINT may come after MESSAGE-INTEGRITY, and nothing
after FINGERPRINT. -/
def hides (type atype : StunAttribute) : Bool :=
  atype = attrFingerprint || atype = attrMessageIntegrity && type ≠ attrFingerprint

variable {α β : Type} (typeOf : α → StunAttribute) (type : StunAttribute)

/-- The first member of a type, unless one before hides it. -/
def visible (list : List α) : Option α :=
  if (list.takeWhile fun a => typeOf a ≠ type).any fun a => hides type (typeOf a) then none
  else list.find? fun a => typeOf a = type

/-- Nothing is seen in an empty list. -/
@[simp] theorem visible_nil : visible typeOf type [] = none := rfl

/-- The search passes a member of another type that hides nothing. -/
theorem visible_cons (a : α) (rest : List α) :
    visible typeOf type (a :: rest) =
      if typeOf a = type then some a
      else if hides type (typeOf a) then none
      else visible typeOf type rest := by
  by_cases same : typeOf a = type
  · simp [visible, same]
  · by_cases hidden : hides type (typeOf a) = true
    · simp [visible, same, hidden]
    · simp [visible, same, hidden]

/-- What is seen is a member of the type. -/
theorem visible_eq_some {list : List α} {a : α} (found : visible typeOf type list = some a) :
    a ∈ list ∧ typeOf a = type := by
  unfold visible at found
  split at found
  · exact absurd found (by simp)
  · exact ⟨mem_of_find?_eq_some found, by simpa using find?_some found⟩

/-- It is the first one, and nothing before hides it. -/
theorem visible_eq_some_iff {list : List α} {a : α} :
    visible typeOf type list = some a ↔
      ∃ front back, list = front ++ a :: back ∧ typeOf a = type ∧
        ∀ b ∈ front, typeOf b ≠ type ∧ hides type (typeOf b) = false := by
  induction list with
  | nil => simp
  | cons first rest ih =>
    rw [visible_cons]
    constructor
    · intro seen
      split at seen
      · rename_i same
        obtain rfl := Option.some.inj seen
        exact ⟨[], rest, rfl, same, forall_mem_nil _⟩
      · rename_i other
        split at seen
        · exact absurd seen (by simp)
        · rename_i shown
          obtain ⟨front, back, rfl, same, before⟩ := ih.mp seen
          refine ⟨first :: front, back, rfl, same, ?_⟩
          intro b member
          rcases mem_cons.mp member with rfl | member
          · exact ⟨other, Bool.eq_false_of_not_eq_true shown⟩
          · exact before b member
    · rintro ⟨front, back, parts, same, before⟩
      cases front with
      | nil =>
        obtain ⟨rfl, -⟩ := List.cons.inj parts
        rw [if_pos same]
      | cons head front =>
        obtain ⟨rfl, rest⟩ := List.cons.inj parts
        obtain ⟨other, shown⟩ := before first mem_cons_self
        rw [if_neg other, if_neg (by rw [shown]; decide)]
        exact ih.mpr ⟨front, back, rest, same,
          forall_mem_of_forall_mem_cons before⟩

/-- Nothing behind a member that hides it is seen. -/
theorem visible_hidden {a : α} (front back : List α) (other : typeOf a ≠ type)
    (hidden : hides type (typeOf a) = true) :
    visible typeOf type (front ++ a :: back) = visible typeOf type front := by
  induction front with
  | nil => rw [nil_append, visible_cons, if_neg other, if_pos hidden, visible_nil]
  | cons first rest ih => rw [cons_append, visible_cons, visible_cons, ih]

/-- A search in a list that was made from another one. -/
theorem visible_map (f : β → α) (list : List β) :
    visible typeOf type (list.map f) = (visible (fun b => typeOf (f b)) type list).map f := by
  induction list with
  | nil => rfl
  | cons b rest ih =>
    rw [map_cons, visible_cons, visible_cons, ih]
    split
    · rfl
    · split
      · rfl
      · rfl

/-- A search sees the same when types are renamed. -/
theorem visible_congr {other : α → StunAttribute} {sought : StunAttribute} {list : List α}
    (same : ∀ a ∈ list, typeOf a = type ↔ other a = sought)
    (hidden : ∀ a ∈ list, hides type (typeOf a) = hides sought (other a)) :
    visible typeOf type list = visible other sought list := by
  induction list with
  | nil => rfl
  | cons a rest ih =>
    have tail := ih (forall_mem_of_forall_mem_cons same)
      (forall_mem_of_forall_mem_cons hidden)
    rw [visible_cons, visible_cons, tail, hidden a mem_cons_self]
    exact if_congr (same a mem_cons_self) rfl rfl

/-! ## The loop -/

variable {buffer : Mem} {unaligned : Bool} {start stop : Nat} {offsets : List Nat}

/-- One step of the loop, with the values of its reads. -/
theorem findLoop_step (inside : start < stop) :
    findLoop buffer unaligned type stop start =
      (look start 2 () >>= fun _ => look (start + 2) 2 () >>= fun _ =>
        if ntohs buffer start = type then pure (some ⟨start + 4, ntohs buffer (start + 2)⟩)
        else if hides type (ntohs buffer start) then pure none
        else findLoop buffer unaligned type stop (attrNext buffer unaligned start)) := by
  have same : (ntohs buffer start = attrMessageIntegrity ∧ type ≠ attrFingerprint ∨
      ntohs buffer start = attrFingerprint) = (hides type (ntohs buffer start) = true) := by
    simp [hides, or_comm]
  rw [findLoop, if_pos inside]
  simp only [← same]
  rfl

/-- Nothing is found behind the end. -/
theorem findLoop_stop (outside : stop ≤ start) :
    findLoop buffer unaligned type stop start = pure none := by
  rw [findLoop, if_neg (by omega)]

/-- Over a chain, the loop is a search in the list of offsets. -/
theorem value_findLoop (chain : Chain (attrNext buffer unaligned) start stop offsets) :
    (findLoop buffer unaligned type stop start).value =
      (visible (ntohs buffer) type offsets).map fun offset =>
        ⟨offset + 4, ntohs buffer (offset + 2)⟩ := by
  induction chain with
  | nil stop => rw [findLoop_stop type (Nat.le_refl stop)]; rfl
  | @cons start stop offsets rest ih =>
    have grows := attrNext_grows buffer unaligned
    have inside : start < stop := Nat.lt_of_lt_of_le (grows start) (rest.le grows)
    rw [findLoop_step type inside, visible_cons]
    simp only [value_bind, value_ite, value_pure, ih]
    split
    · rfl
    · split
      · rfl
      · rfl

/-- Over a chain, it looks at heads of attributes only. -/
theorem below_findLoop (chain : Chain (attrNext buffer unaligned) start stop offsets) :
    (findLoop buffer unaligned type stop start).Below stop := by
  induction chain with
  | nil stop =>
    rw [findLoop_stop type (Nat.le_refl stop)]
    exact below_pure _ _
  | @cons start stop offsets rest ih =>
    have grows := attrNext_grows buffer unaligned
    have behind : attrNext buffer unaligned start ≤ stop := rest.le grows
    have head : start + 4 ≤ attrNext buffer unaligned start := Nat.le_add_right _ _
    rw [findLoop_step type (Nat.lt_of_lt_of_le (grows start) behind), below_bind,
      below_bind, below_look, below_look]
    refine ⟨.inr (by omega), .inr (by omega), ?_⟩
    refine below_ite.mpr ⟨?_, ?_⟩
    · intro _
      exact below_pure _ _
    · intro _
      refine below_ite.mpr ⟨?_, ?_⟩
      · intro _
        exact below_pure _ _
      · intro _
        exact ih

/-! ## Messages -/

variable {msg : StunMessage}

/-- The length has sixteen bits. -/
theorem toNat_length (msg : StunMessage) : msg.length.value.toNat = msg.recorded % 2 ^ 16 := by
  change (ntohs msg.buffer 2 + 20).toNat = _
  rw [UInt16.toNat_add]
  rfl

/-- The first two bytes decide the class. -/
theorem getClass_congr {other : StunMessage}
    (same : ntohs msg.buffer 0 = ntohs other.buffer 0) :
    msg.getClass.value = other.getClass.value := by
  unfold StunMessage.getClass stunGetw
  rw [same]

/-- They decide the method. -/
theorem getMethod_congr {other : StunMessage}
    (same : ntohs msg.buffer 0 = ntohs other.buffer 0) :
    msg.getMethod.value = other.getMethod.value := by
  unfold StunMessage.getMethod stunGetw
  rw [same]

/-- Up to 65535 bytes, the first attribute that can be seen is found. -/
theorem value_find (laid : Laid msg.buffer msg.unaligned msg.recorded offsets)
    (small : msg.recorded < 2 ^ 16) :
    (msg.find type).value = (visible (ntohs msg.buffer) (msg.wireType type) offsets).map
      fun offset => ⟨offset + 4, ntohs msg.buffer (offset + 2)⟩ := by
  have length : msg.length.value.toNat = msg.recorded := by
    rw [toNat_length, Nat.mod_eq_of_lt small]
  rw [StunMessage.find, value_bind, length]
  exact value_findLoop _ laid

/-- In a message of more bytes, nothing is found. -/
theorem find_large (large : 2 ^ 16 ≤ msg.recorded) :
    msg.find type = (look 2 2 () >>= fun _ => pure none) := by
  have bound := (ntohs msg.buffer 2).toNat_lt
  have length : msg.length.value.toNat ≤ 20 := by
    rw [toNat_length]
    rw [StunMessage.recorded] at large ⊢
    omega
  have stops : findLoop msg.buffer msg.unaligned (msg.wireType type) msg.length.value.toNat 20 =
      pure none := findLoop_stop _ length
  change (look 2 2 () >>= fun _ => findLoop msg.buffer msg.unaligned (msg.wireType type)
    msg.length.value.toNat 20) = _
  rw [stops]

end Xice.Stun
