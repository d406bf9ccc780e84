import Mathlib.Tactic

/-!
# Byte memory

A buffer is a total map from indices to bytes, so that a pointer into it is the same map moved by
an offset. `read` takes a run of bytes out; `write` copies a run in, up to the size of the array.
-/

namespace Xice.Lib

open List

/-- Bytes by index, from a pointer on. -/
abbrev Mem := Nat → UInt8

namespace Mem

/-- The pointer `count` bytes further on. -/
def offset (mem : Mem) (count : Nat) : Mem := fun index => mem (count + index)

/-- The bytes from the start of the memory on. -/
def read (mem : Mem) (count : Nat) : List UInt8 := (List.range count).map mem

/-- Copy `count` bytes to `start`, into an array of `size` bytes. -/
def write (mem : Mem) (size start : Nat) (source : Mem) (count : Nat) : Mem := fun index =>
  if start ≤ index ∧ index < start + count ∧ index < size then source (index - start)
  else mem index

/-- Put a byte string at `start`. -/
def store (mem : Mem) (start : Nat) (bytes : List UInt8) : Mem := fun index =>
  if start ≤ index ∧ index < start + bytes.length then bytes.getD (index - start) 0 else mem index

/-- The memory that holds a byte string at its front. -/
def ofList (bytes : List UInt8) : Mem := fun index => bytes.getD index 0

variable {start count : Nat} {bytes : List UInt8} {mem : Mem}

/-- A pointer moves the indices. -/
@[simp] theorem offset_apply (mem : Mem) (count index : Nat) :
    mem.offset count index = mem (count + index) := rfl

/-- As many bytes are read as asked for. -/
@[simp] theorem length_read (mem : Mem) (count : Nat) : (mem.read count).length = count := by
  simp [read]

/-- A cell outside the bytes stored keeps its value. -/
theorem store_outside (mem : Mem) {index : Nat}
    (outside : index < start ∨ start + bytes.length ≤ index) :
    mem.store start bytes index = mem index := by
  rw [store, if_neg (by omega)]

/-- Stored bytes are found where they were stored. -/
theorem store_inside (mem : Mem) (index : Nat) (inside : index < bytes.length) :
    mem.store start bytes (start + index) = bytes[index] := by
  rw [store, if_pos (by omega), Nat.add_sub_cancel_left]
  simp [inside]

/-- Storing nothing changes nothing. -/
theorem store_nil (mem : Mem) (start : Nat) : mem.store start [] = mem := by
  funext index
  exact store_outside mem (by simp; omega)

/-- Bytes are read in order. -/
theorem getElem_read (mem : Mem) (count index : Nat) (inside : index < (mem.read count).length) :
    (mem.read count)[index] = mem index := by
  simp [read]

/-- The same, with the bound of the run. -/
theorem getElem?_read (mem : Mem) {index : Nat} (inside : index < count) :
    (mem.read count)[index]? = some (mem index) := by
  simp [read, inside]

/-- Bytes stored behind a run extend it. -/
theorem read_store_append (mem : Mem) (start : Nat) (bytes : List UInt8) :
    (mem.store start bytes).read (start + bytes.length) = mem.read start ++ bytes := by
  apply ext_getElem
  · simp
  · intro index inside _
    rw [getElem_read]
    by_cases front : index < start
    · rw [store_outside mem (.inl front), getElem_append_left (by simpa using front),
        getElem_read]
    · obtain ⟨rest, rfl⟩ : ∃ rest, index = start + rest := ⟨index - start, by omega⟩
      have short : rest < bytes.length := by
        rw [length_read] at inside
        omega
      rw [store_inside mem rest short, getElem_append_right (by simp)]
      simp

/-- A run depends on its bytes only. -/
theorem read_congr {other : Mem} (same : ∀ index < count, mem index = other index) :
    mem.read count = other.read count := by
  apply map_congr_left
  intro index member
  exact same index (mem_range.mp member)

/-- The front of the memory that holds a byte string. -/
theorem read_ofList (within : count ≤ bytes.length) :
    (ofList bytes).read count = bytes.take count := by
  apply ext_getElem
  · simp [within]
  · intro index inside _
    have short : index < bytes.length := by
      rw [length_read] at inside
      omega
    rw [getElem_read, getElem_take, ofList]
    simp [short]

/-- The members of a run. -/
theorem mem_read {byte : UInt8} : byte ∈ mem.read count ↔ ∃ index < count, mem index = byte := by
  simp [read]

/-- Pointers move one after the other. -/
theorem offset_offset (mem : Mem) (first second : Nat) :
    (mem.offset first).offset second = mem.offset (first + second) := by
  funext index
  simp [offset, Nat.add_assoc]

/-- A run is read in two parts. -/
theorem read_add (mem : Mem) (first second : Nat) :
    mem.read (first + second) = mem.read first ++ (mem.offset first).read second := by
  simp [read, range_add, Function.comp_def]

/-- Reading behind an offset is dropping the bytes before it. -/
theorem read_offset (mem : Mem) (count total : Nat) :
    (mem.offset count).read (total - count) = (mem.read total).drop count := by
  by_cases within : count ≤ total
  · obtain ⟨rest, rfl⟩ := Nat.exists_eq_add_of_le within
    rw [read_add, drop_left' (length_read mem count), Nat.add_sub_cancel_left]
  · rw [drop_of_length_le (by rw [length_read]; omega), Nat.sub_eq_zero_of_le (by omega)]
    rfl

/-- A shorter run is a front of a longer one. -/
theorem read_initial (mem : Mem) {total : Nat} (within : count ≤ total) :
    mem.read count <+: mem.read total := by
  obtain ⟨rest, rfl⟩ := Nat.exists_eq_add_of_le within
  rw [read_add]
  exact prefix_append _ _

/-- A copy that fits is read back. -/
theorem read_write (mem source : Mem) {size : Nat} (fits : start + count ≤ size) :
    ((mem.write size start source count).offset start).read count = source.read count := by
  apply read_congr
  intro index inside
  simp only [offset_apply, write]
  rw [if_pos (by omega), Nat.add_sub_cancel_left]

/-- The bytes in front of a copy stay. -/
theorem read_write_before (mem source : Mem) (size start count : Nat) :
    (mem.write size start source count).read start = mem.read start := by
  apply read_congr
  intro index inside
  simp only [write]
  rw [if_neg (by omega)]

/-- A copy extends the run before it. -/
theorem read_write_append {source : Mem} {size : Nat} (fits : start + count ≤ size) :
    (mem.write size start source count).read (start + count) =
      mem.read start ++ source.read count := by
  rw [read_add, read_write_before, read_write mem source fits]

end Mem

end Xice.Lib
