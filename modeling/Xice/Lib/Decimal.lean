import Mathlib.Tactic

/-!
# Decimal numbers in C strings

`atoi`: white space, an optional sign, and digits up to the first character that is none. Numbers out
of range are handled as the GNU C library does.
-/

namespace Xice.Lib.Decimal

open List

/-- `isspace` in the C locale. -/
def isSpace (c : Char) : Bool :=
  c = ' ' || c = '\t' || c = '\n' || c = '\x0b' || c = '\x0c' || c = '\r'

/-- The number of the digits at the front. -/
def magnitude (text : List Char) : Nat := Nat.ofDigitChars 10 (text.takeWhile Char.isDigit) 0

/-- Whether there is a minus sign, and the number behind the sign. -/
def scan (text : List Char) : Bool × Nat :=
  match text.dropWhile isSpace with
  | '-' :: rest => (true, magnitude rest)
  | '+' :: rest => (false, magnitude rest)
  | rest => (false, magnitude rest)

/-- `atoi`: the value of `strtol`, which stays in the range of a 64-bit `long`, as an `int`. -/
def atoi (text : List Char) : Int :=
  let (negative, number) := scan text
  let long : Int := if negative then max (-number) (-2 ^ 63) else min number (2 ^ 63 - 1)
  long.bmod (2 ^ 32)

variable {digits rest : List Char} {c : Char}

/-- A run of digits is taken as a whole. -/
theorem takeWhile_digits (all : ∀ c ∈ digits, c.isDigit = true)
    (stops : ∀ c ∈ rest.head?, c.isDigit = false) :
    (digits ++ rest).takeWhile Char.isDigit = digits := by
  rw [takeWhile_append_of_pos all]
  cases rest with
  | nil => simp
  | cons c rest => simp [stops c rfl]

/-- The magnitude is the number they write. -/
theorem magnitude_digits (all : ∀ c ∈ digits, c.isDigit = true)
    (stops : ∀ c ∈ rest.head?, c.isDigit = false) :
    magnitude (digits ++ rest) = Nat.ofDigitChars 10 digits 0 := by
  rw [magnitude, takeWhile_digits all stops]

/-- A digit differs from other characters. -/
theorem ne_of_isDigit {d : Char} (digit : c.isDigit = true) (other : d.isDigit = false) :
    c ≠ d := by
  rintro rfl
  rw [digit] at other
  cases other

/-- A digit is no space. -/
theorem isSpace_of_isDigit (digit : c.isDigit = true) : isSpace c = false := by
  have other : ∀ d : Char, d.isDigit = false → ¬c = d := fun d => ne_of_isDigit digit
  simp [isSpace, other ' ' rfl, other '\t' rfl, other '\n' rfl, other '\x0b' rfl, other '\x0c' rfl,
    other '\r' rfl]

/-- A number that begins with a digit has no sign. -/
theorem scan_of_isDigit (digit : c.isDigit = true) :
    scan (c :: rest) = (false, magnitude (c :: rest)) := by
  have keeps : (c :: rest).dropWhile isSpace = c :: rest := by
    rw [dropWhile_cons, isSpace_of_isDigit digit]
    rfl
  rw [scan, keeps]
  split
  · rename_i same
    cases same
    exact absurd digit (by decide)
  · rename_i same
    cases same
    exact absurd digit (by decide)
  · rfl

/-- Spaces in front are skipped. -/
theorem scan_spaces {blanks : List Char} (spaces : ∀ c ∈ blanks, isSpace c = true) :
    scan (blanks ++ rest) = scan rest := by
  rw [scan, scan, dropWhile_append_of_pos spaces]

/-- Digits, followed by something else, are read as their number. -/
theorem scan_digits (some_digits : digits ≠ []) (all : ∀ c ∈ digits, c.isDigit = true)
    (stops : ∀ c ∈ rest.head?, c.isDigit = false) :
    scan (digits ++ rest) = (false, Nat.ofDigitChars 10 digits 0) := by
  rw [← magnitude_digits all stops]
  cases digits with
  | nil => exact absurd rfl some_digits
  | cons c digits => exact scan_of_isDigit (all c mem_cons_self)

/-- A small number is returned as it is. -/
theorem atoi_of_scan {text : List Char} {number : Nat} (read : scan text = (false, number))
    (small : number < 2 ^ 31) : atoi text = number := by
  have long : min (number : Int) (2 ^ 63 - 1) = number := by omega
  simp only [atoi, read, Bool.false_eq_true, if_false, long]
  rw [Int.bmod_eq_of_le]
  · omega
  · omega

end Xice.Lib.Decimal
