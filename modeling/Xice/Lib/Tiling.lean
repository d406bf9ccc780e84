import Mathlib.Tactic

/-!
# Runs laid end to end

A list of runs, each with a first position and a size, tiles a range when every run begins where
the one before it ends: there is neither a gap nor an overlap.
-/

namespace Xice.Lib.Tiling

variable {α : Type} (start size : α → Nat)

/-- The number of positions that the runs take together. -/
def total (runs : List α) : Nat := (runs.map size).sum

/-- The runs cover the range from `first` up to `last`, end to end. -/
def Tiles : List α → Nat → Nat → Prop
  | [], first, last => first = last
  | run :: runs, first, last => start run = first ∧ Tiles runs (first + size run) last

instance Tiles.decide : (runs : List α) → (first last : Nat) →
    Decidable (Tiles start size runs first last)
  | [], first, last => inferInstanceAs (Decidable (first = last))
  | run :: runs, first, last =>
    @instDecidableAnd _ _ (inferInstanceAs (Decidable (start run = first)))
      (Tiles.decide runs (first + size run) last)

variable {start size} {runs front back : List α} {run : α} {first last : Nat}

/-- No run covers no position. -/
@[simp] theorem total_nil : total size [] = 0 := rfl

/-- The sizes add up from the front. -/
@[simp] theorem total_cons : total size (run :: runs) = size run + total size runs := by
  simp [total]

/-- The sizes of two parts add up. -/
@[simp] theorem total_append : total size (front ++ back) = total size front + total size back := by
  simp [total]

/-- No run tiles an empty range. -/
@[simp] theorem tiles_nil : Tiles start size [] first last ↔ first = last := Iff.rfl

/-- The first run begins the range. -/
@[simp] theorem tiles_cons : Tiles start size (run :: runs) first last ↔
    start run = first ∧ Tiles start size runs (first + size run) last := Iff.rfl

/-- The sizes add up to the range. -/
theorem Tiles.last_eq (tiles : Tiles start size runs first last) :
    last = first + total size runs := by
  induction runs generalizing first with
  | nil => exact tiles.symm
  | cons run runs ih =>
    rw [total_cons, ih tiles.2, Nat.add_assoc]

/-- A tiling is cut between any two runs. -/
theorem tiles_append : Tiles start size (front ++ back) first last ↔
    Tiles start size front first (first + total size front) ∧
      Tiles start size back (first + total size front) last := by
  induction front generalizing first with
  | nil => simp
  | cons run front ih =>
    rw [List.cons_append, tiles_cons, tiles_cons, ih, total_cons, Nat.add_assoc, and_assoc]

/-- Every run lies in the range. -/
theorem Tiles.inside (tiles : Tiles start size runs first last) (member : run ∈ runs) :
    first ≤ start run ∧ start run + size run ≤ last := by
  obtain ⟨front, back, rfl⟩ := List.append_of_mem member
  have whole := tiles.last_eq
  obtain ⟨-, begins, -⟩ := tiles_append.mp tiles
  rw [total_append, total_cons] at whole
  omega

end Xice.Lib.Tiling
