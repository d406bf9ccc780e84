import Mathlib.Tactic

/-!
# Chains of records

Records lie in a row, and each says where the next one begins. A chain lists the records met from
one offset on until another offset is met exactly. The function that gives the next offset goes
forward at every step.
-/

namespace Xice.Lib

/-- The offsets met on the way from `start` to `stop`. -/
inductive Chain (next : Nat → Nat) : (start stop : Nat) → List Nat → Prop
  /-- The end is met. -/
  | nil (stop : Nat) : Chain next stop stop []
  /-- A record, and the rest of the way. -/
  | cons {start stop : Nat} {offsets : List Nat} (rest : Chain next (next start) stop offsets) :
      Chain next start stop (start :: offsets)

namespace Chain

variable {next other : Nat → Nat} {start middle stop : Nat} {offsets more : List Nat}

/-- A growing chain ends behind its start. -/
theorem le (chain : Chain next start stop offsets) (grows : ∀ offset, offset < next offset) :
    start ≤ stop := by
  induction chain with
  | nil => exact Nat.le_refl _
  | @cons start _ _ _ ih =>
    have := grows start
    omega

/-- Every record lies between the start and the end. -/
theorem inside (chain : Chain next start stop offsets) (grows : ∀ offset, offset < next offset) :
    ∀ offset ∈ offsets, start ≤ offset ∧ next offset ≤ stop := by
  induction chain with
  | nil => simp
  | @cons start _ _ rest ih =>
    intro offset member
    have step := grows start
    rcases List.mem_cons.mp member with rfl | member
    · exact ⟨Nat.le_refl _, rest.le grows⟩
    · have := ih offset member
      exact ⟨by omega, this.2⟩

/-- Start and end decide a growing chain. -/
theorem unique (chain : Chain next start stop offsets) (same : Chain next start stop more)
    (grows : ∀ offset, offset < next offset) : offsets = more := by
  induction chain generalizing more with
  | nil =>
    cases same with
    | nil => rfl
    | cons rest => exact absurd (rest.le grows) (Nat.not_le.mpr (grows _))
  | cons rest ih =>
    cases same with
    | nil => exact absurd (rest.le grows) (Nat.not_le.mpr (grows _))
    | cons tail => rw [ih tail]

/-- A chain is cut at each of its offsets. -/
theorem cut {offset : Nat} (chain : Chain next start stop (offsets ++ offset :: more)) :
    Chain next start offset offsets ∧ Chain next (next offset) stop more := by
  induction offsets generalizing start with
  | nil =>
    cases chain with
    | cons rest => exact ⟨nil _, rest⟩
  | cons first rest ih =>
    cases chain with
    | cons tail =>
      have parts := ih tail
      exact ⟨cons parts.1, parts.2⟩

/-- A chain depends on where its records say the next one begins. -/
theorem congr (chain : Chain next start stop offsets)
    (same : ∀ offset ∈ offsets, next offset = other offset) : Chain other start stop offsets := by
  induction chain with
  | nil => exact nil _
  | @cons start _ _ _ ih =>
    apply cons
    rw [← same start List.mem_cons_self]
    exact ih (List.forall_mem_of_forall_mem_cons same)

end Chain

end Xice.Lib
