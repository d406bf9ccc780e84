import Mathlib.Tactic

/-!
# Lists taken apart at a position

A pointer into a linked list is an index here; these lemmas say what an access, a change and an
insertion at the index are for a list written as front, member and back.
-/

namespace Xice.Lib.Lists

open List

variable {α : Type}

/-- A list with a member at an index, taken apart there. -/
theorem eq_append_cons {l : List α} {index : Nat} {a : α} (found : l[index]? = some a) :
    l = l.take index ++ a :: l.drop (index + 1) := by
  obtain ⟨inside, rfl⟩ := List.getElem?_eq_some_iff.mp found
  simp

/-- The part before a member has the length of its index. -/
theorem length_take {l : List α} {index : Nat} {a : α} (found : l[index]? = some a) :
    (l.take index).length = index := by
  obtain ⟨inside, -⟩ := List.getElem?_eq_some_iff.mp found
  simp only [List.length_take]
  omega

/-- The element behind the front is changed. -/
theorem modify_append (front back : List α) (a : α) (f : α → α) :
    (front ++ a :: back).modify front.length f = front ++ f a :: back := by
  induction front with
  | nil => rfl
  | cons b front ih => simp only [cons_append, length_cons, modify_succ_cons, ih]

/-- An element is put behind it. -/
theorem insertIdx_append (front back : List α) (a b : α) :
    (front ++ a :: back).insertIdx (front.length + 1) b = front ++ a :: b :: back := by
  induction front with
  | nil => rfl
  | cons c front ih => simp only [cons_append, length_cons, insertIdx_succ_cons, ih]

/-- Members with a property and a rest that does not begin with one: there is one such split. -/
theorem eq_of_parts {p : α → Prop} {front front' back back' : List α}
    (same : front ++ back = front' ++ back') (have_p : ∀ a ∈ front, p a)
    (have_p' : ∀ a ∈ front', p a) (stops : ∀ a ∈ back.head?, ¬p a)
    (stops' : ∀ a ∈ back'.head?, ¬p a) : front = front' ∧ back = back' := by
  induction front generalizing front' with
  | nil =>
    cases front' with
    | nil => exact ⟨rfl, same⟩
    | cons b front' =>
      rw [nil_append] at same
      refine absurd (have_p' b mem_cons_self) (stops b ?_)
      simp [same]
  | cons a front ih =>
    cases front' with
    | nil =>
      rw [nil_append] at same
      refine absurd (have_p a mem_cons_self) (stops' a ?_)
      simp [← same]
    | cons b front' =>
      rw [cons_append, cons_append, List.cons.injEq] at same
      obtain ⟨rfl, same⟩ := same
      obtain ⟨rfl, rfl⟩ := ih same (forall_mem_of_forall_mem_cons have_p)
        (fun c member => have_p' c (mem_cons_of_mem _ member))
      exact ⟨rfl, rfl⟩

/-- What is written behind what was written. -/
theorem appended_trans {p : α → Prop} {first next last : List α}
    (before : ∃ more, next = first ++ more ∧ ∀ a ∈ more, p a)
    (after : ∃ more, last = next ++ more ∧ ∀ a ∈ more, p a) :
    ∃ more, last = first ++ more ∧ ∀ a ∈ more, p a := by
  obtain ⟨more, rfl, some_p⟩ := before
  obtain ⟨rest, rfl, rest_p⟩ := after
  exact ⟨more ++ rest, append_assoc first more rest,
    forall_mem_append.mpr ⟨some_p, rest_p⟩⟩

/-- Nothing was appended. -/
theorem appended_nil {p : α → Prop} {first last : List α} (same : last = first) :
    ∃ more, last = first ++ more ∧ ∀ a ∈ more, p a :=
  ⟨[], by rw [same, append_nil], forall_mem_nil _⟩

/-- What was appended has a weaker property. -/
theorem appended_mono {p q : α → Prop} {first last : List α} (imp : ∀ a, p a → q a)
    (written : ∃ more, last = first ++ more ∧ ∀ a ∈ more, p a) :
    ∃ more, last = first ++ more ∧ ∀ a ∈ more, q a :=
  written.imp fun _ holds => ⟨holds.1, fun a member => imp a (holds.2 a member)⟩

/-- Defaults and `drop`. -/
theorem getD_drop (l : List α) (count index : Nat) (a : α) :
    (l.drop count).getD index a = l.getD (count + index) a := by
  simp only [getD_eq_getElem?_getD, List.getElem?_drop]

/-- A front begins as the list does. -/
theorem head?_of_isPrefix {part l : List α} (begins : part <+: l) : ∀ a ∈ part.head?, a ∈ l.head? := by
  obtain ⟨rest, rfl⟩ := begins
  cases part with
  | nil => simp
  | cons b part => exact fun a member => member

/-- The front of two lists in a row ends inside the first, or behind it. -/
theorem prefix_append_cases {part first second : List α} (begins : part <+: first ++ second) :
    (part <+: first ∧ part.length < first.length) ∨
      ∃ rest, part = first ++ rest ∧ rest <+: second := by
  by_cases short : part.length < first.length
  · left
    exact ⟨prefix_of_prefix_length_le begins (prefix_append _ _) (Nat.le_of_lt short), short⟩
  · right
    obtain ⟨rest, rfl⟩ : first <+: part :=
      prefix_of_prefix_length_le (prefix_append _ _) begins (Nat.not_lt.mp short)
    exact ⟨rest, rfl, (prefix_append_right_inj first).mp begins⟩

end Xice.Lib.Lists
