import Xice.Lib.Memory

/-!
# Computations that read a memory

A `Reading` is a value together with the runs of bytes that were read to compute it. Facts about
values need not mention the reads; where the reads lie is a statement of its own, with one rule for
each way to combine readings.
-/

namespace Xice.Lib

open List

/-- A run of bytes of a memory. -/
structure Span where
  start : Nat
  count : Nat
  deriving DecidableEq, Repr

/-- Every byte of a run has an index below the size. -/
def Span.Below (size : Nat) (span : Span) : Prop :=
  span.count = 0 ∨ span.start + span.count ≤ size

instance (size : Nat) (span : Span) : Decidable (span.Below size) :=
  inferInstanceAs (Decidable (_ ∨ _))

/-- A value, with the runs of bytes read to compute it. -/
structure Reading (α : Type) where
  value : α
  reads : List Span

namespace Reading

variable {α β : Type}

instance : Monad Reading where
  pure a := ⟨a, []⟩
  bind x f := ⟨(f x.value).value, x.reads ++ (f x.value).reads⟩

/-- Read a run of bytes and compute a value from them. -/
def look (start count : Nat) (value : α) : Reading α := ⟨value, [⟨start, count⟩]⟩

/-- `||`, which looks at its second operand only after a false one. -/
def or (x y : Reading Bool) : Reading Bool := do
  if ← x then return true else y

/-- `&&`, which looks at its second operand only after a true one. -/
def and (x y : Reading Bool) : Reading Bool := do
  if ← x then y else return false

/-- `!`. -/
def not (x : Reading Bool) : Reading Bool := do
  return !(← x)

variable (a : α) {size first : Nat} {x : Reading α}

/-- Nothing is read for a constant. -/
@[simp] theorem value_pure : (pure a : Reading α).value = a := rfl

/-- The second reading is given the value of the first. -/
@[simp] theorem value_bind (x : Reading α) (f : α → Reading β) :
    (x >>= f).value = (f x.value).value := rfl

/-- The reads come in order. -/
theorem reads_bind (x : Reading α) (f : α → Reading β) :
    (x >>= f).reads = x.reads ++ (f x.value).reads := rfl

/-- The value that was looked at. -/
@[simp] theorem value_look (start count : Nat) (a : α) : (look start count a).value = a := rfl

/-- The condition selects the value. -/
@[simp] theorem value_ite (c : Prop) [Decidable c] (x y : Reading α) :
    (if c then x else y).value = if c then x.value else y.value := apply_ite _ c x y

/-- The value of `or`. -/
@[simp] theorem value_or (x y : Reading Bool) : (x.or y).value = (x.value || y.value) := by
  cases found : x.value <;> simp [or, found]

/-- The value of `and`. -/
@[simp] theorem value_and (x y : Reading Bool) : (x.and y).value = (x.value && y.value) := by
  cases found : x.value <;> simp [and, found]

/-- The value of `not`. -/
@[simp] theorem value_not (x : Reading Bool) : x.not.value = !x.value := rfl

/-- Every read lies below an index. -/
def Below (size : Nat) (x : Reading α) : Prop := ∀ span ∈ x.reads, span.Below size

/-- Every read lies between two indices. -/
def Inside (first size : Nat) (x : Reading α) : Prop :=
  ∀ span ∈ x.reads, span.count = 0 ∨ first ≤ span.start ∧ span.start + span.count ≤ size

/-- A constant reads nowhere. -/
@[simp] theorem below_pure (size : Nat) (a : α) : (pure a : Reading α).Below size := by
  intro span member
  exact absurd member not_mem_nil

/-- A look is below the size, or at no byte. -/
@[simp] theorem below_look {start count : Nat} {a : α} :
    (look start count a).Below size ↔ count = 0 ∨ start + count ≤ size := by
  simp [Below, look, Span.Below]

/-- A sequence reads below an index exactly when both parts do. -/
@[simp] theorem below_bind {f : α → Reading β} :
    (x >>= f).Below size ↔ x.Below size ∧ (f x.value).Below size := by
  change (∀ span ∈ x.reads ++ (f x.value).reads, _) ↔ _
  rw [forall_mem_append]
  rfl

/-- Only the selected branch reads. -/
@[simp] theorem below_ite {c : Prop} [Decidable c] {y : Reading α} :
    (if c then x else y).Below size ↔ (c → x.Below size) ∧ (¬c → y.Below size) := by
  split <;> simp [*]

/-- The second operand is read after a false one. -/
@[simp] theorem below_or {x y : Reading Bool} :
    (x.or y).Below size ↔ x.Below size ∧ (x.value = false → y.Below size) := by
  simp [Reading.or]

/-- The second operand is read after a true one. -/
@[simp] theorem below_and {x y : Reading Bool} :
    (x.and y).Below size ↔ x.Below size ∧ (x.value = true → y.Below size) := by
  simp [Reading.and]

/-- Negation reads what its operand reads. -/
@[simp] theorem below_not {x : Reading Bool} : x.not.Below size ↔ x.Below size := by
  simp [Reading.not]

/-- What lies below a smaller index lies below a larger one. -/
theorem Below.mono {larger : Nat} (inside : x.Below size) (more : size ≤ larger) :
    x.Below larger := by
  intro span member
  rcases inside span member with empty | below
  · exact .inl empty
  · exact .inr (by omega)

/-- A constant reads nowhere. -/
theorem inside_pure (first size : Nat) (a : α) : (pure a : Reading α).Inside first size := by
  intro span member
  exact absurd member not_mem_nil

/-- A look lies between the two indices, or is at no byte. -/
theorem inside_look {start count : Nat} {a : α} :
    (look start count a).Inside first size ↔
      count = 0 ∨ first ≤ start ∧ start + count ≤ size := by
  simp [Inside, look]

/-- A sequence stays between two indices when both parts do. -/
theorem inside_bind {f : α → Reading β} :
    (x >>= f).Inside first size ↔ x.Inside first size ∧ (f x.value).Inside first size := by
  rw [Inside, reads_bind, forall_mem_append]
  rfl

/-- So does a choice when its branches do. -/
theorem inside_ite {c : Prop} [Decidable c] {y : Reading α} (yes : c → x.Inside first size)
    (no : ¬c → y.Inside first size) : (if c then x else y).Inside first size := by
  split
  · exact yes ‹_›
  · exact no ‹_›

end Reading

end Xice.Lib
