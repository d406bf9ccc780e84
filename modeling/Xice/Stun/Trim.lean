import Mathlib.Data.List.DropRight
import Xice.Stun.Lookup

/-!
# Trimming credentials

`priv_trim_var` takes quotes from the front of a string and quotes and zeros from its back. Its
loops do not look at the length, which may wrap around; the MD5 is then taken over all of the
memory.
-/

namespace Xice.Stun

open Xice.Lib Reading List Mem

variable {α : Type} {buffer : Mem}

/-! ## The loops -/

/-- A byte that is taken from the back of a string. -/
def Junk (byte : UInt8) : Prop := byte = 0x22 ∨ byte = 0

instance (byte : UInt8) : Decidable (Junk byte) := inferInstanceAs (Decidable (_ ∨ _))

variable {count fuel ptr stop size front back var len : Nat} {varLen : UInt64}

/-- A quote at the front is taken. -/
theorem trimLeading_succ (fuel ptr : Nat) (varLen : UInt64) :
    trimLeading buffer (fuel + 1) ptr varLen = look ptr 1 () >>= fun _ =>
      if buffer ptr = 0x22 then trimLeading buffer fuel (ptr + 1) (varLen - 1)
      else pure (ptr, varLen) := rfl

/-- The first loop takes the quotes, and looks at one byte more. -/
theorem trimLeading_eq (varLen : UInt64) (quotes : ∀ index < count, buffer (ptr + index) = 0x22)
    (stops : buffer (ptr + count) ≠ 0x22) (enough : count < fuel) :
    (trimLeading buffer fuel ptr varLen).value = (ptr + count, varLen - UInt64.ofNat count) ∧
      (trimLeading buffer fuel ptr varLen).reads =
        (List.range (count + 1)).map fun index => ⟨ptr + index, 1⟩ := by
  induction count generalizing fuel ptr varLen with
  | zero =>
    obtain ⟨fuel, rfl⟩ := Nat.exists_eq_succ_of_ne_zero (Nat.ne_of_gt enough)
    rw [Nat.add_zero] at stops
    rw [Nat.succ_eq_add_one, trimLeading_succ, if_neg stops]
    exact ⟨by simp, rfl⟩
  | succ count ih =>
    obtain ⟨fuel, rfl⟩ := Nat.exists_eq_succ_of_ne_zero (Nat.ne_of_gt (Nat.zero_lt_of_lt enough))
    have quote : buffer ptr = 0x22 := quotes 0 (Nat.succ_pos count)
    obtain ⟨value, reads⟩ := ih (varLen - 1)
      (fun index inside => by
        rw [show ptr + 1 + index = ptr + (index + 1) by omega]
        exact quotes (index + 1) (by omega))
      (by rw [show ptr + 1 + count = ptr + (count + 1) by omega]; exact stops)
      (show count < fuel by omega)
    rw [Nat.succ_eq_add_one, trimLeading_succ, if_pos quote]
    constructor
    · rw [value_bind, value]
      congr 1
      · omega
      · rw [UInt64.ofNat_add]
        grind
    · rw [reads_bind, reads, @range_succ_eq_map (count + 1), map_cons, map_map]
      refine congrArg (List.cons _) (map_congr_left fun index _ => ?_)
      simp only [Function.comp_apply, Span.mk.injEq, and_true]
      omega

/-- Quotes lead the first loop on to the byte behind them. -/
theorem trimLeading_looks (varLen : UInt64) (quotes : ∀ index < count, buffer (ptr + index) = 0x22)
    (enough : count < fuel) : ⟨ptr + count, 1⟩ ∈ (trimLeading buffer fuel ptr varLen).reads := by
  induction count generalizing fuel ptr varLen with
  | zero =>
    obtain ⟨fuel, rfl⟩ := Nat.exists_eq_succ_of_ne_zero (Nat.ne_of_gt enough)
    exact mem_cons_self
  | succ count ih =>
    obtain ⟨fuel, rfl⟩ := Nat.exists_eq_succ_of_ne_zero (Nat.ne_of_gt (Nat.zero_lt_of_lt enough))
    have quote : buffer ptr = 0x22 := quotes 0 (Nat.succ_pos count)
    rw [Nat.succ_eq_add_one, trimLeading_succ, if_pos quote, reads_bind]
    refine mem_append_right _ ?_
    rw [show ptr + (count + 1) = ptr + 1 + count by omega]
    refine ih _ (fun index inside => ?_) (by omega)
    rw [show ptr + 1 + index = ptr + (index + 1) by omega]
    exact quotes (index + 1) (by omega)

/-- A byte at the back is taken. -/
theorem trimTrailing_succ (ptr fuel : Nat) (varLen : UInt64) :
    trimTrailing buffer ptr (fuel + 1) varLen =
      look (UInt64.ofNat ptr + varLen - 1).toNat 1 () >>= fun _ =>
        if Junk (buffer (UInt64.ofNat ptr + varLen - 1).toNat) then
          trimTrailing buffer ptr fuel (varLen - 1)
        else pure varLen := rfl

/-- One step of the second loop, at the end of a string. -/
theorem trimTrailing_step (fuel : Nat) (ends : UInt64.ofNat ptr + varLen = UInt64.ofNat stop)
    (small : stop < 2 ^ 64) (room : 0 < stop) :
    trimTrailing buffer ptr (fuel + 1) varLen = look (stop - 1) 1 () >>= fun _ =>
      if Junk (buffer (stop - 1)) then trimTrailing buffer ptr fuel (varLen - 1)
      else pure varLen := by
  have last : (UInt64.ofNat ptr + varLen - 1).toNat = stop - 1 := by
    rw [ends, UInt64.toNat_sub_of_le]
    · rw [UInt64.toNat_ofNat', Nat.mod_eq_of_lt small]
      rfl
    · rw [UInt64.le_iff_toNat_le, UInt64.toNat_ofNat', Nat.mod_eq_of_lt small]
      exact room
  rw [trimTrailing_succ, last]

/-- The end moves back. -/
theorem ends_before (ends : UInt64.ofNat ptr + varLen = UInt64.ofNat stop) (room : 0 < stop) :
    UInt64.ofNat ptr + (varLen - 1) = UInt64.ofNat (stop - 1) := by
  have whole : UInt64.ofNat stop = UInt64.ofNat (stop - 1) + 1 := by
    rw [← UInt64.ofNat_one, ← UInt64.ofNat_add, Nat.sub_add_cancel (by omega)]
  rw [whole] at ends
  grind

/-- The second loop goes back to a byte that stays. -/
theorem trimTrailing_eq (ends : UInt64.ofNat ptr + varLen = UInt64.ofNat stop)
    (small : stop < 2 ^ 64) (room : count < stop)
    (junk : ∀ index < count, Junk (buffer (stop - 1 - index)))
    (stops : ¬Junk (buffer (stop - 1 - count))) (enough : count < fuel) :
    (trimTrailing buffer ptr fuel varLen).value = varLen - UInt64.ofNat count ∧
      (trimTrailing buffer ptr fuel varLen).reads =
        (List.range (count + 1)).map fun index => ⟨stop - 1 - index, 1⟩ := by
  obtain ⟨fuel, rfl⟩ := Nat.exists_eq_succ_of_ne_zero (Nat.ne_of_gt (Nat.zero_lt_of_lt enough))
  rw [Nat.succ_eq_add_one, trimTrailing_step fuel ends small (Nat.zero_lt_of_lt room)]
  induction count generalizing fuel stop varLen with
  | zero =>
    rw [if_neg (show ¬Junk (buffer (stop - 1)) from stops)]
    exact ⟨by simp, rfl⟩
  | succ count ih =>
    have before := ends_before ends (by omega)
    obtain ⟨fuel, rfl⟩ := Nat.exists_eq_succ_of_ne_zero (show fuel ≠ 0 by omega)
    obtain ⟨value, reads⟩ := ih before (by omega) (by omega)
      (fun index inside => by
        rw [show stop - 1 - 1 - index = stop - 1 - (index + 1) by omega]
        exact junk (index + 1) (by omega))
      (by rw [show stop - 1 - 1 - count = stop - 1 - (count + 1) by omega]; exact stops)
      fuel (by omega)
    rw [if_pos (show Junk (buffer (stop - 1)) from junk 0 (Nat.succ_pos count)),
      Nat.succ_eq_add_one, trimTrailing_step fuel before (by omega) (by omega)]
    constructor
    · rw [value_bind, value, UInt64.ofNat_add]
      grind
    · rw [reads_bind, reads, @range_succ_eq_map (count + 1), map_cons, map_map]
      refine congrArg (List.cons _) (map_congr_left fun index _ => ?_)
      simp only [Function.comp_apply, Span.mk.injEq, and_true]
      omega

/-- Quotes and zeros lead it on to the byte before them. -/
theorem trimTrailing_looks (junk : ∀ index < count,
      Junk (buffer (UInt64.ofNat ptr + varLen - 1 - UInt64.ofNat index).toNat))
    (enough : count < fuel) :
    ⟨(UInt64.ofNat ptr + varLen - 1 - UInt64.ofNat count).toNat, 1⟩ ∈
      (trimTrailing buffer ptr fuel varLen).reads := by
  induction count generalizing fuel varLen with
  | zero =>
    obtain ⟨fuel, rfl⟩ := Nat.exists_eq_succ_of_ne_zero (Nat.ne_of_gt enough)
    rw [Nat.succ_eq_add_one, trimTrailing_succ, reads_bind]
    refine mem_append_left _ ?_
    simp [look]
  | succ count ih =>
    obtain ⟨fuel, rfl⟩ := Nat.exists_eq_succ_of_ne_zero (Nat.ne_of_gt (Nat.zero_lt_of_lt enough))
    have first : Junk (buffer (UInt64.ofNat ptr + varLen - 1).toNat) := by
      simpa using junk 0 (Nat.succ_pos count)
    have shift (index : Nat) : UInt64.ofNat ptr + varLen - 1 - UInt64.ofNat (index + 1) =
        UInt64.ofNat ptr + (varLen - 1) - 1 - UInt64.ofNat index := by
      rw [UInt64.ofNat_add]
      grind
    rw [Nat.succ_eq_add_one, trimTrailing_succ, if_pos first, reads_bind]
    refine mem_append_right _ ?_
    rw [shift]
    refine ih (fun index inside => ?_) (by omega)
    rw [← shift]
    exact junk (index + 1) (by omega)

/-- Looks forward stay below an index when the last does. -/
theorem below_forward {x : Reading α}
    (reads : x.reads = (List.range (count + 1)).map fun index => ⟨ptr + index, 1⟩) :
    x.Below size ↔ ptr + count < size := by
  simp only [Reading.Below, reads, forall_mem_map, mem_range, Span.Below]
  constructor
  · intro all
    have last := all count (by omega)
    omega
  · intro inside index before
    omega

/-- Looks back do when the first does. -/
theorem below_backward {x : Reading α}
    (reads : x.reads = (List.range (count + 1)).map fun index => ⟨stop - 1 - index, 1⟩)
    (room : count < stop) : x.Below size ↔ stop ≤ size := by
  simp only [Reading.Below, reads, forall_mem_map, mem_range, Span.Below]
  constructor
  · intro all
    have first := all 0 (by omega)
    omega
  · intro inside index before
    omega

/-! ## A value in a message -/

/-- Something is left of a value: it has a byte that is no quote and no zero, or it begins with a
zero and the byte before it, the low byte of its length, is neither. Then the empty string is left.
-/
def Trims (buffer : Mem) (found : Found) : Prop :=
  (∃ index < found.len.toNat, ¬Junk (buffer (found.offset + index))) ∨
    0 < found.len.toNat ∧ buffer found.offset = 0 ∧ ¬Junk (buffer (found.offset - 1))

/-- A zero comes behind the value, its type is not junk, and the low byte of its length stands
before it. -/
structure Framed (buffer : Mem) (found : Found) (behind : Nat) : Prop where
  head : 4 ≤ found.offset
  type : ¬Junk (buffer (found.offset - 3))
  length : (buffer (found.offset - 1)).toNat = found.len.toNat % 256
  after : found.offset + found.len.toNat ≤ behind
  zero : buffer behind = 0
  short : behind < 65556

/-- The first index with a property. -/
theorem exists_least {p : Nat → Prop} [DecidablePred p] {bound : Nat} (found : p bound) :
    ∃ count ≤ bound, p count ∧ ∀ index < count, ¬p index :=
  ⟨Nat.find ⟨bound, found⟩, Nat.find_min' _ found, Nat.find_spec _,
    fun _ before => Nat.find_min _ before⟩

variable {found : Found} {behind : Nat}

/-- The length that is left is not negative exactly when something is left. -/
theorem trims_iff (framed : Framed buffer found behind)
    (quotes : ∀ index < front, buffer (found.offset + index) = 0x22)
    (stops : buffer (found.offset + front) ≠ 0x22)
    (junk : ∀ index < back, Junk (buffer (found.offset + found.len.toNat - 1 - index)))
    (keeps : ¬Junk (buffer (found.offset + found.len.toNat - 1 - back))) :
    front + back ≤ found.len.toNat ↔ Trims buffer found := by
  have head := framed.head
  constructor
  · intro fits
    by_cases good : ∃ index < found.len.toNat, ¬Junk (buffer (found.offset + index))
    · exact .inl good
    · have all : ∀ index < found.len.toNat, Junk (buffer (found.offset + index)) := by
        intro index inside
        by_contra bad
        exact good ⟨index, inside, bad⟩
      -- Every byte of the value is taken from its back, so none is left for its front.
      have whole : found.len.toNat ≤ back := by
        by_contra less
        apply keeps
        rw [show found.offset + found.len.toNat - 1 - back =
          found.offset + (found.len.toNat - 1 - back) by omega]
        exact all _ (by omega)
      have none : front = 0 := by omega
      have exactly : back = found.len.toNat := by omega
      subst none
      subst exactly
      rw [show found.offset + found.len.toNat - 1 - found.len.toNat = found.offset - 1 by omega]
        at keeps
      have some : 0 < found.len.toNat := by
        by_contra empty
        apply keeps
        right
        have low := framed.length
        rw [← UInt8.toNat_inj, low]
        change _ = 0
        omega
      refine .inr ⟨some, ?_, keeps⟩
      rcases all 0 some with quote | zero
      · exact absurd quote stops
      · exact zero
  · intro trims
    rcases trims with ⟨index, inside, good⟩ | ⟨some, zero, low⟩
    · have left : front ≤ index := by
        by_contra more
        exact good (.inl (quotes index (by omega)))
      have right : back ≤ found.len.toNat - 1 - index := by
        by_contra more
        apply good
        have taken := junk (found.len.toNat - 1 - index) (by omega)
        rw [show found.offset + found.len.toNat - 1 - (found.len.toNat - 1 - index) =
          found.offset + index by omega] at taken
        exact taken
      omega
    · have left : front = 0 := by
        by_contra more
        have quote := quotes 0 (by omega)
        rw [Nat.add_zero, zero] at quote
        exact absurd quote (by decide)
      have right : back ≤ found.len.toNat := by
        by_contra more
        apply low
        have taken := junk found.len.toNat (by omega)
        rw [show found.offset + found.len.toNat - 1 - found.len.toNat = found.offset - 1 by omega]
          at taken
        exact taken
      omega

/-- Trimming and reading what is left stays inside exactly when something is left. -/
theorem below_privTrimVar (framed : Framed buffer found behind) (inside : behind < size)
    (bound : size + 2 ^ 18 < 2 ^ 64) :
    (privTrimVar buffer found.offset found.len.toUInt64).Below size ∧
      ((look (privTrimVar buffer found.offset found.len.toUInt64).value.1
        (privTrimVar buffer found.offset found.len.toUInt64).value.2.toNat ()).Below size ↔
          Trims buffer found) := by
  have head := framed.head
  have after := framed.after
  have short := framed.short
  have len := found.len.toNat_lt
  obtain ⟨front, near, stops, quotes⟩ : ∃ front ≤ behind - found.offset,
      buffer (found.offset + front) ≠ 0x22 ∧
        ∀ index < front, ¬buffer (found.offset + index) ≠ 0x22 := by
    apply exists_least
    rw [show found.offset + (behind - found.offset) = behind by omega, framed.zero]
    decide
  obtain ⟨back, far, keeps, junk⟩ : ∃ back ≤ found.len.toNat + 2,
      ¬Junk (buffer (found.offset + found.len.toNat - 1 - back)) ∧
        ∀ index < back, ¬¬Junk (buffer (found.offset + found.len.toNat - 1 - index)) := by
    apply exists_least
    rw [show found.offset + found.len.toNat - 1 - (found.len.toNat + 2) = found.offset - 3 by omega]
    exact framed.type
  have leading := trimLeading_eq found.len.toUInt64
    (fun index before => not_not.mp (quotes index before)) stops (show front < 65556 by omega)
  have ends : UInt64.ofNat (found.offset + front) +
      (found.len.toUInt64 - UInt64.ofNat front) =
        UInt64.ofNat (found.offset + found.len.toNat) := by
    have same : found.len.toUInt64 = UInt64.ofNat found.len.toNat := by
      rw [← UInt64.toNat_inj, UInt16.toNat_toUInt64, UInt64.toNat_ofNat', Nat.mod_eq_of_lt]
      omega
    rw [same, UInt64.ofNat_add, UInt64.ofNat_add]
    grind
  have trailing := trimTrailing_eq ends (by omega) (by omega)
    (fun index before => not_not.mp (junk index before)) keeps (show back < 65556 by omega)
  have value : (privTrimVar buffer found.offset found.len.toUInt64).value =
      (found.offset + front, found.len.toUInt64 - UInt64.ofNat front - UInt64.ofNat back) := by
    rw [privTrimVar, trimVar, value_bind, leading.1]
    dsimp only
    rw [value_bind, trailing.1]
    rfl
  constructor
  · rw [privTrimVar, trimVar, below_bind, leading.1, below_forward leading.2]
    dsimp only
    rw [below_bind, below_backward trailing.2 (by omega)]
    exact ⟨by omega, by omega, below_pure _ _⟩
  · rw [value, below_look, ← trims_iff framed
      (fun index before => not_not.mp (quotes index before)) stops
      (fun index before => not_not.mp (junk index before)) keeps]
    have left : (found.len.toUInt64 - UInt64.ofNat front - UInt64.ofNat back).toNat =
        (2 ^ 64 + found.len.toNat - front - back) % 2 ^ 64 := by
      rw [UInt64.toNat_sub, UInt64.toNat_sub, UInt16.toNat_toUInt64, UInt64.toNat_ofNat',
        UInt64.toNat_ofNat', Nat.mod_eq_of_lt (show front < 2 ^ 64 by omega),
        Nat.mod_eq_of_lt (show back < 2 ^ 64 by omega)]
      omega
    dsimp only
    rw [left]
    omega

/-! ## Any string -/

/-- Without leading quotes, and trailing quotes and zeros. -/
def trimmed (string : List UInt8) : List UInt8 :=
  (string.dropWhile (· = 0x22)).rdropWhile fun byte => Junk byte

/-- When a byte stays, the loops take what they should, and look at the bytes where they stop. -/
theorem trimVar_eq (length : varLen.toNat = len) (fits : var + len < 2 ^ 64)
    (quotes : ∀ index < front, buffer (var + index) = 0x22) (stops : buffer (var + front) ≠ 0x22)
    (junk : ∀ index < back, Junk (buffer (var + len - 1 - index)))
    (keeps : ¬Junk (buffer (var + len - 1 - back))) (room : front + back < len)
    (enough : len < fuel) :
    trimVar buffer fuel var varLen =
      ⟨(var + front, varLen - UInt64.ofNat front - UInt64.ofNat back),
        ((List.range (front + 1)).map fun index => ⟨var + index, 1⟩) ++
          (List.range (back + 1)).map fun index => ⟨var + len - 1 - index, 1⟩⟩ := by
  obtain ⟨first, forward⟩ := trimLeading_eq varLen quotes stops (show front < fuel by omega)
  have ends : UInt64.ofNat (var + front) + (varLen - UInt64.ofNat front) =
      UInt64.ofNat (var + len) := by
    have same : varLen = UInt64.ofNat len := by
      rw [← length, UInt64.ofNat_toNat]
    rw [same, UInt64.ofNat_add, UInt64.ofNat_add]
    grind
  obtain ⟨last, backward⟩ := trimTrailing_eq ends fits (by omega) junk keeps
    (show back < fuel by omega)
  have stages : trimVar buffer fuel var varLen = trimLeading buffer fuel var varLen >>= fun found =>
      trimTrailing buffer found.1 fuel found.2 >>= fun varLen => pure (found.1, varLen) := rfl
  have value : (trimVar buffer fuel var varLen).value =
      (var + front, varLen - UInt64.ofNat front - UInt64.ofNat back) := by
    rw [stages, value_bind, first, value_bind, last]
    rfl
  have reads : (trimVar buffer fuel var varLen).reads =
      ((List.range (front + 1)).map fun index => ⟨var + index, 1⟩) ++
        (List.range (back + 1)).map fun index => ⟨var + len - 1 - index, 1⟩ := by
    rw [stages, reads_bind, forward, first, reads_bind, backward]
    exact congrArg _ (append_nil _)
  rw [← value, ← reads]

/-- What is between is the trimmed string. -/
theorem trimmed_read (quotes : ∀ index < front, buffer (var + index) = 0x22)
    (stops : buffer (var + front) ≠ 0x22)
    (junk : ∀ index < back, Junk (buffer (var + len - 1 - index)))
    (keeps : ¬Junk (buffer (var + len - 1 - back))) (room : front + back < len) :
    trimmed ((buffer.offset var).read len) =
      (buffer.offset (var + front)).read (len - front - back) := by
  obtain ⟨middle, rfl⟩ : ∃ middle, len = front + (middle + 1 + back) := ⟨len - front - back - 1, by omega⟩
  rw [show front + (middle + 1 + back) - front - back = middle + 1 by omega]
  have parts : (buffer.offset var).read (front + (middle + 1 + back)) =
      (buffer.offset var).read front ++ ((buffer.offset (var + front)).read (middle + 1) ++
        (buffer.offset (var + front + (middle + 1))).read back) := by
    rw [read_add, offset_offset, read_add, offset_offset]
  have leading : ∀ byte ∈ (buffer.offset var).read front, decide (byte = 0x22) = true := by
    intro byte member
    obtain ⟨index, before, rfl⟩ := mem_read.mp member
    exact decide_eq_true (quotes index before)
  have trailing : ∀ byte ∈ ((buffer.offset (var + front + (middle + 1))).read back).reverse,
      decide (Junk byte) = true := by
    intro byte member
    obtain ⟨index, before, rfl⟩ := mem_read.mp (mem_reverse.mp member)
    have taken := junk (back - 1 - index) (by omega)
    rw [show var + (front + (middle + 1 + back)) - 1 - (back - 1 - index) =
      var + front + (middle + 1) + index by omega] at taken
    exact decide_eq_true taken
  have first : ((buffer.offset (var + front)).read (middle + 1) ++
      (buffer.offset (var + front + (middle + 1))).read back).dropWhile (· = 0x22) =
        (buffer.offset (var + front)).read (middle + 1) ++
          (buffer.offset (var + front + (middle + 1))).read back := by
    rw [← offset_offset buffer (var + front), ← read_add, dropWhile_eq_self_iff]
    intro nonempty
    simpa [getElem_read, Mem.offset] using stops
  have last : ((buffer.offset (var + front)).read (middle + 1)).rdropWhile (fun byte => Junk byte) =
      (buffer.offset (var + front)).read (middle + 1) := by
    rw [rdropWhile_eq_self_iff]
    intro nonempty
    rw [show var + (front + (middle + 1 + back)) - 1 - back = var + front + middle by omega] at keeps
    simpa [getLast_eq_getElem, getElem_read, Mem.offset] using keeps
  rw [trimmed, parts, dropWhile_append_of_pos leading, first, List.rdropWhile, reverse_append,
    dropWhile_append_of_pos trailing]
  exact last

/-- In a string of quotes and zeros the loops leave the string. -/
theorem trimVar_outside (length : varLen.toNat = len) (fits : var + len < 2 ^ 64)
    (junk : ∀ index < len, Junk (buffer (var + index))) (enough : len < fuel) :
    ¬(trimVar buffer fuel var varLen).Inside var (var + len) := by
  intro inside
  have stages : (trimVar buffer fuel var varLen).reads =
      (trimLeading buffer fuel var varLen).reads ++
        (trimTrailing buffer (trimLeading buffer fuel var varLen).value.1 fuel
          (trimLeading buffer fuel var varLen).value.2).reads :=
    congrArg _ (append_nil _)
  rw [Reading.Inside, stages, forall_mem_append] at inside
  by_cases quotes : ∀ index < len, buffer (var + index) = 0x22
  · -- the first loop looks at the byte behind the string
    have looks := inside.1 _ (trimLeading_looks varLen quotes enough)
    dsimp only at looks
    omega
  · -- the first loop stops at a zero, and the second looks at the byte before the string
    obtain ⟨index, before, other⟩ : ∃ index < len, buffer (var + index) ≠ 0x22 := by
      simpa using quotes
    obtain ⟨front, near, stops, quotes⟩ : ∃ front ≤ index, buffer (var + front) ≠ 0x22 ∧
        ∀ earlier < front, ¬buffer (var + earlier) ≠ 0x22 := exists_least other
    have first := (trimLeading_eq varLen (fun earlier small => not_not.mp (quotes earlier small)) stops
      (show front < fuel by omega)).1
    have start : UInt64.ofNat (var + front) + (varLen - UInt64.ofNat front) - 1 =
        UInt64.ofNat (var + len) - 1 := by
      have same : varLen = UInt64.ofNat len := by
        rw [← length, UInt64.ofNat_toNat]
      rw [same, UInt64.ofNat_add, UInt64.ofNat_add]
      grind
    have back (step : Nat) (small : step ≤ len) : (UInt64.ofNat (var + len) - 1 - UInt64.ofNat step).toNat =
        (2 ^ 64 + var + len - 1 - step) % 2 ^ 64 := by
      have one : (1 : UInt64).toNat = 1 := rfl
      rw [UInt64.toNat_sub, UInt64.toNat_sub, UInt64.toNat_ofNat', UInt64.toNat_ofNat', one,
        Nat.mod_eq_of_lt fits, Nat.mod_eq_of_lt (show step < 2 ^ 64 by omega)]
      omega
    have looks := inside.2 _ (by
      rw [first]
      refine trimTrailing_looks (fun step small => ?_) enough
      rw [start, back step (by omega), show (2 ^ 64 + var + len - 1 - step) % 2 ^ 64 =
        var + (len - 1 - step) by omega]
      exact junk _ (by omega))
    rw [start, back len (Nat.le_refl _)] at looks
    dsimp only at looks
    omega

/-- The loops of `priv_trim_var` end inside the string, whatever is around it, and leave what they
should, exactly when the string has a byte that is neither a quote nor a zero. -/
theorem trimVar_iff (buffer : Mem) (var : Nat) (varLen : UInt64)
    (fits : var + varLen.toNat < 2 ^ 64) {fuel : Nat} (enough : varLen.toNat < fuel) :
    ((trimVar buffer fuel var varLen).Inside var (var + varLen.toNat) ∧
      (∀ more, varLen.toNat < more →
        trimVar buffer more var varLen = trimVar buffer fuel var varLen) ∧
      (buffer.offset (trimVar buffer fuel var varLen).value.1).read
        (trimVar buffer fuel var varLen).value.2.toNat =
          trimmed ((buffer.offset var).read varLen.toNat)) ↔
    ∃ byte ∈ (buffer.offset var).read varLen.toNat, ¬Junk byte := by
  generalize length : varLen.toNat = len at fits enough ⊢
  have good : (∃ byte ∈ (buffer.offset var).read len, ¬Junk byte) ↔
      ∃ index < len, ¬Junk (buffer (var + index)) := by
    constructor
    · rintro ⟨byte, member, stays⟩
      obtain ⟨index, inside, rfl⟩ := mem_read.mp member
      exact ⟨index, inside, stays⟩
    · rintro ⟨index, inside, stays⟩
      exact ⟨_, mem_read.mpr ⟨index, inside, rfl⟩, stays⟩
  rw [good]
  constructor
  · rintro ⟨inside, -, -⟩
    by_contra none
    have all : ∀ index < len, Junk (buffer (var + index)) := by
      intro index before
      by_contra stays
      exact none ⟨index, before, stays⟩
    exact trimVar_outside length fits all enough inside
  · rintro ⟨index, before, stays⟩
    obtain ⟨front, near, stops, quotes⟩ : ∃ front ≤ index, buffer (var + front) ≠ 0x22 ∧
        ∀ earlier < front, ¬buffer (var + earlier) ≠ 0x22 :=
      exists_least fun quote => stays (.inl quote)
    obtain ⟨back, far, keeps, junk⟩ : ∃ back ≤ len - 1 - index,
        ¬Junk (buffer (var + len - 1 - back)) ∧
          ∀ later < back, ¬¬Junk (buffer (var + len - 1 - later)) := by
      apply exists_least
      rw [show var + len - 1 - (len - 1 - index) = var + index by omega]
      exact stays
    have quotes : ∀ earlier < front, buffer (var + earlier) = 0x22 :=
      fun earlier inside => not_not.mp (quotes earlier inside)
    have junk : ∀ later < back, Junk (buffer (var + len - 1 - later)) :=
      fun later inside => not_not.mp (junk later inside)
    have trims (fuel : Nat) (enough : len < fuel) :=
      trimVar_eq length fits quotes stops junk keeps (by omega) enough
    refine ⟨?_, fun more large => by rw [trims more large, trims fuel enough], ?_⟩
    · rw [trims fuel enough]
      intro span member
      right
      rcases mem_append.mp member with member | member
      · obtain ⟨step, inside, rfl⟩ := mem_map.mp member
        rw [mem_range] at inside
        dsimp only
        omega
      · obtain ⟨step, inside, rfl⟩ := mem_map.mp member
        rw [mem_range] at inside
        dsimp only
        omega
    · rw [trims fuel enough, trimmed_read quotes stops junk keeps (by omega)]
      dsimp only
      congr 1
      rw [UInt64.toNat_sub, UInt64.toNat_sub, length, UInt64.toNat_ofNat', UInt64.toNat_ofNat',
        Nat.mod_eq_of_lt (show front < 2 ^ 64 by omega),
        Nat.mod_eq_of_lt (show back < 2 ^ 64 by omega)]
      omega

/-- Quotes around two letters, and a zero, between two other bytes. -/
def quotedPair : Mem := Mem.ofList [0x41, 0x22, 0x61, 0x62, 0x22, 0, 0x42]

/-- Quotes and zero are taken, and nothing else is looked at. -/
theorem trimVar_iff_pair :
    trimmed ((quotedPair.offset 1).read 5) = [0x61, 0x62] ∧
      (trimVar quotedPair 6 1 5).Inside 1 6 ∧
      (quotedPair.offset (trimVar quotedPair 6 1 5).value.1).read
        (trimVar quotedPair 6 1 5).value.2.toNat = trimmed ((quotedPair.offset 1).read 5) := by
  have kept : ∃ byte ∈ (quotedPair.offset 1).read (5 : UInt64).toNat, ¬Junk byte :=
    ⟨0x61, by decide, by decide⟩
  have holds := (trimVar_iff quotedPair 1 5 (by decide) (show (5 : UInt64).toNat < 6 by decide)).mpr kept
  exact ⟨by decide, holds.1, holds.2.2⟩

/-- Two quotes between two letters. -/
def quotesOnly : Mem := Mem.ofList [0x41, 0x22, 0x22, 0x42]

/-- Of two quotes nothing is left, but the loops go on to the letters around them, and leave the
length 18446744073709551614. -/
theorem trimVar_quotes :
    trimmed ((quotesOnly.offset 1).read 2) = [] ∧
      (trimVar quotesOnly 4 1 2).value = (3, 18446744073709551614) ∧
      ⟨3, 1⟩ ∈ (trimVar quotesOnly 4 1 2).reads ∧ ⟨0, 1⟩ ∈ (trimVar quotesOnly 4 1 2).reads ∧
      ¬(trimVar quotesOnly 4 1 2).Inside 1 3 := by
  refine ⟨by decide, by decide +kernel, by decide +kernel, by decide +kernel, fun inside => ?_⟩
  have looks := inside ⟨3, 1⟩ (by decide +kernel)
  dsimp only at looks
  omega

end Xice.Stun
