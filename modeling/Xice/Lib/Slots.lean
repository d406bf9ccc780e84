import Mathlib.Tactic

/-!
# Tables of slots

A table of fixed size is searched from its front for a slot with a property, and changed one slot at
a time.
-/

namespace Xice.Lib.Slots

open Vector

variable {α : Type} {n : Nat} {slots : Vector α n} {p : α → Bool}

/-- The slot that a search finds is the first with the property. -/
theorem findFinIdx?_eq_some {i : Fin n} :
    slots.findFinIdx? p = some i ↔ p slots[i] = true ∧ ∀ j < i, ¬p slots[j] = true := by
  obtain ⟨array, rfl⟩ := slots
  have cast : Option.map (Fin.cast (rfl : array.size = array.size)) (array.findFinIdx? p) =
      array.findFinIdx? p := Option.map_id'
  rw [Vector.findFinIdx?_mk, cast, Array.findFinIdx?_eq_some_iff]
  rfl

/-- The count when a slot without the property is written. -/
theorem countP_set_of_false {i : Fin n} (a : α) (free : p slots[i] = false) :
    (slots.set i a).countP p = slots.countP p + if p a then 1 else 0 := by
  have old : p slots[i.val] = false := free
  rw [countP_set, old]
  simp

/-- The count when a slot loses the property. -/
theorem countP_set_of_true {i : Fin n} {a : α} (held : p slots[i] = true) (lost : p a = false) :
    (slots.set i a).countP p + 1 = slots.countP p := by
  have old : p slots[i.val] = true := held
  have some : 0 < slots.countP p := countP_pos_iff.mpr ⟨_, getElem_mem i.isLt, old⟩
  rw [countP_set, old, lost]
  simp only [if_true, Bool.false_eq_true, if_false]
  omega

/-- No slot gains a property that is not written. -/
theorem countP_set_le {i : Fin n} {a : α} (lost : p a = false) :
    (slots.set i a).countP p ≤ slots.countP p := by
  cases held : p slots[i] with
  | true =>
    have := countP_set_of_true held lost
    omega
  | false =>
    rw [countP_set_of_false a held, lost]
    simp

end Xice.Lib.Slots
