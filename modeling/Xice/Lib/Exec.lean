import Mathlib.Order.Basic
import Mathlib.Logic.Relation

/-!
# Stateful programs that may stop

A program reads and writes one state and either returns a value or stops with a fault; the state at
the stop is kept. `wp` is the weakest precondition for a postcondition of the normal end and one of
the stop. The rules push `wp` through the program constructors, and `wp_mono` uses what is known of
a called program in place of its body. None of them is a definitional equality, so that a proof that
runs a program is checked rule by rule.
-/

namespace Xice.Lib

/-- Programs over a state that return a value or stop with a fault. -/
abbrev Exec (ε σ α : Type) := ExceptT ε (StateM σ) α

namespace Exec

variable {ε σ α β : Type}

/-- Normal ends satisfy `Q` and stops satisfy `E`. -/
def wp (m : Exec ε σ α) (Q : α → σ → Prop) (E : ε → σ → Prop) (s : σ) : Prop :=
  match m s with
  | (.ok a, t) => Q a t
  | (.error e, t) => E e t

/-- However the program ends, the state satisfies `R`. -/
abbrev ends (m : Exec ε σ α) (R : σ → Prop) (s : σ) : Prop := wp m (fun _ t => R t) (fun _ t => R t) s

variable {m : Exec ε σ α} {Q : α → σ → Prop} {E : ε → σ → Prop} {s t : σ}

/-- A value is returned at once. -/
@[simp] theorem wp_pure (a : α) (Q : α → σ → Prop) (E : ε → σ → Prop) (s : σ) :
    wp (pure a : Exec ε σ α) Q E s = Q a s := by
  unfold wp
  rfl

/-- Programs run one after the other. -/
@[simp] theorem wp_bind (m : Exec ε σ α) (f : α → Exec ε σ β) (Q : β → σ → Prop) (E : ε → σ → Prop)
    (s : σ) : wp (m >>= f) Q E s = wp m (fun a t => wp (f a) Q E t) E s := by
  simp only [wp, bind, ExceptT.bind, ExceptT.mk, StateT.bind, ExceptT.bindCont]
  rcases m s with ⟨result, t⟩
  cases result <;> rfl

/-- The state is read. -/
@[simp] theorem wp_get (Q : σ → σ → Prop) (E : ε → σ → Prop) (s : σ) :
    wp (get : Exec ε σ σ) Q E s = Q s s := by
  unfold wp
  rfl

/-- The state is replaced. -/
@[simp] theorem wp_set (t : σ) (Q : PUnit → σ → Prop) (E : ε → σ → Prop) (s : σ) :
    wp (set t : Exec ε σ PUnit) Q E s = Q ⟨⟩ t := by
  unfold wp
  rfl

/-- The state is changed. -/
@[simp] theorem wp_modify (f : σ → σ) (Q : PUnit → σ → Prop) (E : ε → σ → Prop) (s : σ) :
    wp (modify f : Exec ε σ PUnit) Q E s = Q ⟨⟩ (f s) := by
  unfold wp
  rfl

/-- The program stops. -/
@[simp] theorem wp_throw (e : ε) (Q : α → σ → Prop) (E : ε → σ → Prop) (s : σ) :
    wp (throw e : Exec ε σ α) Q E s = E e s := by
  unfold wp
  rfl

/-- The condition selects the program. -/
@[simp] theorem wp_ite (c : Prop) [Decidable c] (m n : Exec ε σ α) (Q : α → σ → Prop)
    (E : ε → σ → Prop) (s : σ) :
    wp (if c then m else n) Q E s = if c then wp m Q E s else wp n Q E s := by
  split <;> rfl

/-- The rule of consequence. -/
theorem wp_mono {R : α → σ → Prop} {F : ε → σ → Prop} (known : wp m Q E s)
    (normal : ∀ a t, Q a t → R a t) (stopped : ∀ e t, E e t → F e t) : wp m R F s := by
  simp only [wp] at known ⊢
  rcases run : m s with ⟨result, t⟩
  rw [run] at known
  cases result with
  | ok a => exact normal a t known
  | error e => exact stopped e t known

/-- It leaves the stops alone. -/
theorem wp_imp {R : α → σ → Prop} (known : wp m Q E s) (normal : ∀ a t, Q a t → R a t) :
    wp m R E s := wp_mono known normal fun _ _ stopped => stopped

/-- Two facts about one run. -/
theorem wp_and {R : α → σ → Prop} {F : ε → σ → Prop} (left : wp m Q E s) (right : wp m R F s) :
    wp m (fun a t => Q a t ∧ R a t) (fun e t => E e t ∧ F e t) s := by
  simp only [wp] at left right ⊢
  rcases run : m s with ⟨result, t⟩
  rw [run] at left right
  cases result <;> exact ⟨left, right⟩

/-- What holds of the run holds of every run: there is one. -/
theorem wp_intro (normal : ∀ a t, m s = (.ok a, t) → Q a t)
    (stopped : ∀ e t, m s = (.error e, t) → E e t) : wp m Q E s := by
  simp only [wp]
  rcases run : m s with ⟨result, t⟩
  cases result with
  | ok a => exact normal a t run
  | error e => exact stopped e t run

/-- What holds of every run holds of a run that ended normally. -/
theorem wp_ok {a : α} (known : wp m Q E s) (run : m s = (.ok a, t)) : Q a t := by
  simpa only [wp, run] using known

/-- What holds of every run holds of a run that stopped. -/
theorem wp_error {e : ε} (known : wp m Q E s) (run : m s = (.error e, t)) : E e t := by
  simpa only [wp, run] using known

/-- What holds however a program ends holds of a run. -/
theorem ends_run {R : σ → Prop} {result : Except ε α} (known : ends m R s) (run : m s = (result, t))
    : R t := by
  cases result with
  | ok a => exact wp_ok known run
  | error e => exact wp_error known run

/-- The rule of consequence at every end. -/
theorem ends_mono {P R : σ → Prop} (known : ends m P s) (weaker : ∀ t, P t → R t) : ends m R s :=
  wp_mono known (fun _ => weaker) fun _ => weaker

/-- However the program ends, it keeps `I`. -/
def Keeps (I : σ → Prop) (m : Exec ε σ α) : Prop := ∀ s, I s → ends m I s

section Keeps

variable {I : σ → Prop}

/-- Returning a value keeps an invariant. -/
theorem Keeps.pure (a : α) : Keeps I (Pure.pure a : Exec ε σ α) := by
  intro s kept
  rwa [ends, wp_pure]

/-- So does a stop. -/
theorem Keeps.throw (e : ε) : Keeps I (MonadExceptOf.throw e : Exec ε σ α) := by
  intro s kept
  exact (wp_throw e _ _ s).mpr kept

/-- A sequence keeps what its parts keep. -/
theorem Keeps.bind {m : Exec ε σ α} {f : α → Exec ε σ β} (first : Keeps I m)
    (next : ∀ a, Keeps I (f a)) : Keeps I (m >>= f) := by
  intro s kept
  rw [ends, wp_bind]
  exact wp_mono (first s kept) (fun a t kept => next a t kept) (fun _ _ kept => kept)

/-- So does a choice. -/
theorem Keeps.ite {c : Prop} [Decidable c] {m n : Exec ε σ α} (left : Keeps I m)
    (right : Keeps I n) : Keeps I (if c then m else n) := by
  split
  · exact left
  · exact right

/-- A change keeps what it keeps in every state. -/
theorem Keeps.modify {f : σ → σ} (kept : ∀ s, I s → I (f s)) :
    Keeps I (modify f : Exec ε σ PUnit) := by
  intro s start
  rw [ends, wp_modify]
  exact kept s start

end Keeps

attribute [irreducible] wp

end Exec

/-- What every step keeps, a sequence of steps keeps. -/
theorem invariant_of_steps {α : Type} {step : α → α → Prop} {I : α → Prop}
    (keeps : ∀ a b, step a b → I a → I b) {a b : α}
    (steps : Relation.ReflTransGen step a b) (start : I a) : I b := by
  induction steps with
  | refl => exact start
  | tail _ last ih => exact keeps _ _ last ih

end Xice.Lib
