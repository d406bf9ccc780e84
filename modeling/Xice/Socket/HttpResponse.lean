import Xice.Socket.Http

/-!
# Responses of an HTTP proxy

A well-formed response with a success code, as bytes, and what the parser of the proxy socket makes of
every front of it.
-/

namespace Xice.Socket.Http

open Xice.Lib List Option

variable {header : Header} {number : Nat} {buf : List UInt8}

/-- Bytes that may stand in a line. -/
def Inline (bytes : List UInt8) : Prop := ∀ byte ∈ bytes, byte ≠ cr ∧ byte ≠ lf

instance (bytes : List UInt8) : Decidable (Inline bytes) := List.decidableBAll _ bytes

/-- The end of a line. -/
def crlf : List UInt8 := [cr, lf]

/-- Blanks around the value of a header. -/
def Blank (bytes : List UInt8) : Prop := ∀ byte ∈ bytes, byte = space ∨ byte = 0x09

/-- The name of the header, a decimal number, and blanks around it. -/
def States (line : List UInt8) (number : Nat) : Prop :=
  ∃ name before digits after, line = name ++ before ++ digits ++ after ∧ name.length = 15 ∧
    namesContentLength name = true ∧ Blank before ∧ Blank after ∧ digits ≠ [] ∧
    (∀ byte ∈ digits, isDigit byte = true) ∧ Nat.ofDigitChars 10 (chars digits) 0 = number

/-- A header line of a response. -/
structure Header where
  line : List UInt8
  /-- It is not the blank line at the end of the headers. -/
  filled : line ≠ []
  clean : Inline line
  /-- The length that it states, if it is a `Content-Length` header. -/
  length : Option Nat
  states : match length with
    | none => ¬(15 ≤ line.length ∧ namesContentLength line = true)
    | some number => States line number

/-- Other headers do not name a length. -/
theorem Header.other (absent : header.length = none) :
    ¬(15 ≤ header.line.length ∧ namesContentLength header.line = true) := by
  have states := header.states
  rwa [absent] at states

/-- A header with a length states it. -/
theorem Header.stated (given : header.length = some number) :
    States header.line number := by
  have states := header.states
  rwa [given] at states

/-- A response with a code between 200 and 299. -/
structure Response where
  /-- Number of spaces before the status line. -/
  leading : Nat
  version : UInt8
  known : version = 0x30 ∨ version = 0x31
  /-- Number of spaces behind the first one after the version. -/
  gap : Nat
  /-- A position behind the spaces fits in a `gint`. -/
  narrow : leading + gap < 2 ^ 31 - 16
  tens : UInt8
  ones : UInt8
  code : isDigit tens = true ∧ isDigit ones = true
  reason : List UInt8
  clean : Inline reason
  headers : List Header
  body : List UInt8
  /-- Its length is the last one stated, and zero where none is stated. -/
  body_length : body.length = (headers.filterMap Header.length).getLast?.getD 0
  body_small : body.length < 2 ^ 31

namespace Response

variable (response : Response)

/-- The code and the rest of the status line. -/
def phrase : List UInt8 :=
  [0x32, response.tens, response.ones] ++ response.reason

/-- The status line. -/
def status : List UInt8 :=
  List.replicate response.leading space ++ (ascii "HTTP/1." ++ ([response.version] ++
    ([space] ++ List.replicate response.gap space ++ (response.phrase ++ crlf))))

/-- The lines of headers. -/
def lines (headers : List Header) : List UInt8 := headers.flatMap fun header => header.line ++ crlf

/-- The response up to its body. -/
def head : List UInt8 := response.status ++ (lines response.headers ++ crlf)

/-- The whole response. -/
def bytes : List UInt8 := response.head ++ response.body

end Response

/-! ### Ends of lines -/

variable {line part rest : List UInt8}

/-- The end of a whole line is found. -/
theorem lineEnd_line (clean : Inline line) (rest : List UInt8) :
    lineEnd (line ++ (crlf ++ rest)) = line.length := by
  induction line with
  | nil => simp [lineEnd, crlf]
  | cons first line ih =>
    have here := clean first mem_cons_self
    have later : Inline line := forall_mem_of_forall_mem_cons clean
    cases line with
    | nil => simp [lineEnd, crlf, here.1, show cr ≠ lf by decide]
    | cons second line =>
      have next := later second mem_cons_self
      have tail := ih later
      rw [cons_append] at tail
      rw [cons_append, cons_append, lineEnd, if_pos ⟨here.1, next.2⟩, tail]
      rfl

/-- A part of a line is skipped to its last byte. -/
theorem lineEnd_part (clean : Inline line) (inside : part <+: line ++ crlf)
    (proper : part.length < line.length + 2) : part.length ≤ lineEnd part + 1 := by
  induction line generalizing part with
  | nil =>
    change part.length < 2 at proper
    omega
  | cons first line ih =>
    cases part with
    | nil => exact Nat.zero_le _
    | cons byte part =>
      rw [cons_append] at inside
      obtain ⟨rfl, behind⟩ := cons_prefix_cons.mp inside
      have here := clean byte mem_cons_self
      have later : Inline line := forall_mem_of_forall_mem_cons clean
      have tail := ih later behind (by simpa using proper)
      cases part with
      | nil => simp
      | cons second part =>
        have next : second ≠ lf := by
          cases line with
          | nil =>
            obtain ⟨rfl, -⟩ := cons_prefix_cons.mp behind
            decide
          | cons third line =>
            rw [cons_append] at behind
            obtain ⟨rfl, -⟩ := cons_prefix_cons.mp behind
            exact (later second mem_cons_self).2
        rw [lineEnd, if_pos ⟨here.1, next⟩, length_cons]
        omega

/-! ### The status line -/

/-- Spaces are counted. -/
theorem spaces_replicate (count : Nat) (stops : ∀ byte ∈ rest.head?, byte ≠ space) :
    spaces (List.replicate count space ++ rest) = count := by
  have all : ∀ byte ∈ List.replicate count space, decide (byte = space) = true := by
    intro byte member
    exact decide_eq_true (eq_of_mem_replicate member)
  rw [spaces, takeWhile_append_of_pos all]
  cases rest with
  | nil => simp
  | cons byte rest => simp [stops byte rfl]

variable (response : Response)

/-- The version has seven characters. -/
theorem length_ascii_version : (ascii "HTTP/1.").length = 7 := by decide

/-- The status line up to its code. -/
def Response.front : List UInt8 :=
  List.replicate response.leading space ++ (ascii "HTTP/1." ++ ([response.version] ++
    ([space] ++ List.replicate response.gap space)))

/-- The length up to the phrase. -/
theorem Response.length_front : response.front.length = response.leading + 9 + response.gap := by
  simp only [front, length_append, length_replicate, length_ascii_version,
    length_singleton]
  omega

/-- The status line, with its phrase. -/
theorem Response.status_eq : response.status = response.front ++ (response.phrase ++ crlf) := by
  simp only [status, front, append_assoc]

/-- The scan of bytes that go as far as the code. -/
theorem statusLine_code (stops : ∀ byte ∈ rest.head?, byte ≠ space) :
    statusLine (response.front ++ rest) =
      if rest.length < 3 then .notEnoughData
      else if rest.getD 0 0 ≠ 0x32 ∨ ¬isDigit (rest.getD 1 0) ∨ ¬isDigit (rest.getD 2 0) then .error
      else if rest.length ≤ lineEnd rest + 1 then .notEnoughData
      else .consume (response.front.length + lineEnd rest + 2) := by
  have narrow := response.narrow
  have length := response.length_front
  have total : (response.front ++ rest).length = response.leading + 9 + response.gap + rest.length := by
    rw [length_append, length]
  have behind_name : (response.front ++ rest).drop (response.leading + 7) =
      response.version :: (List.replicate (response.gap + 1) space ++ rest) := by
    rw [← drop_drop, Response.front, append_assoc,
      drop_left' (length_replicate ..), append_assoc,
      drop_left' length_ascii_version, replicate_succ]
    rfl
  have first : spaces (response.front ++ rest) = response.leading := by
    rw [Response.front, append_assoc]
    apply spaces_replicate
    intro byte member
    rw [show byte = 0x48 from (some.inj member).symm]
    decide
  have name : ((response.front ++ rest).drop response.leading).take 7 = ascii "HTTP/1." := by
    rw [Response.front, append_assoc, drop_left' (length_replicate ..),
      append_assoc, take_left' length_ascii_version]
  have version : (response.front ++ rest).getD (response.leading + 7) 0 = response.version := by
    have cell := Lists.getD_drop (response.front ++ rest) (response.leading + 7) 0 0
    rw [behind_name] at cell
    exact cell.symm
  have gap : (response.front ++ rest).getD (response.leading + 7 + 1) 0 = space := by
    have cell := Lists.getD_drop (response.front ++ rest) (response.leading + 7) 1 0
    rw [behind_name] at cell
    exact cell.symm
  have second : response.leading + 7 + 1 + spaces ((response.front ++ rest).drop
      (response.leading + 7 + 1)) = response.front.length := by
    rw [← drop_drop, behind_name, drop_succ_cons, drop_zero,
      spaces_replicate (response.gap + 1) stops, length]
    omega
  have behind : (response.front ++ rest).drop response.front.length = rest := drop_left
  have cell : ∀ index, (response.front ++ rest).getD (response.front.length + index) 0 =
      rest.getD index 0 := by
    intro index
    rw [← Lists.getD_drop, behind]
  have known : ¬(response.version ≠ 0x30 ∧ response.version ≠ 0x31) := by
    rintro ⟨not_zero, not_one⟩
    exact response.known.elim not_zero not_one
  simp only [statusLine, first, name, version, gap, second, behind, cell, known]
  have zeroth := cell 0
  rw [Nat.add_zero] at zeroth
  rw [zeroth, total, if_neg (by omega), if_neg (by omega), if_neg (by omega), if_neg (by simp),
    if_neg (by omega), if_neg (by simp), if_neg (by omega), if_neg (by simp), length]
  by_cases none_left : rest.length = 0
  · rw [if_pos (by omega), if_pos (by omega)]
  · rw [if_neg (by omega), if_neg (by omega)]
    by_cases few : rest.length < 3
    · rw [if_pos (by omega), if_pos few]
    · rw [if_neg (by omega), if_neg few]
      congr 1
      by_cases ends : rest.length ≤ lineEnd rest + 1
      · rw [if_pos (by omega), if_pos ends]
      · rw [if_neg (by omega), if_neg ends]

/-- The phrase has no end of a line. -/
theorem inline_phrase : Inline response.phrase := by
  have digit : ∀ byte : UInt8, isDigit byte = true → byte ≠ cr ∧ byte ≠ lf := by
    intro byte found
    constructor
    · rintro rfl
      exact absurd found (by decide)
    · rintro rfl
      exact absurd found (by decide)
  intro byte member
  rw [Response.phrase, mem_append] at member
  rcases member with member | member
  · simp only [mem_cons, not_mem_nil, or_false] at member
    rcases member with rfl | rfl | rfl
    · decide
    · exact digit _ response.code.1
    · exact digit _ response.code.2
  · exact response.clean byte member

/-- A whole status line is consumed. -/
theorem statusLine_whole (rest : List UInt8) :
    statusLine (response.status ++ rest) = .consume response.status.length := by
  have three : ¬(response.phrase ++ (crlf ++ rest)).length < 3 := by
    rw [length_append, Response.phrase, length_append]
    simp
    omega
  have ends := lineEnd_line (inline_phrase response) rest
  rw [response.status_eq, append_assoc, append_assoc, statusLine_code]
  · rw [if_neg three, if_neg (by simp [Response.phrase, response.code]), ends, if_neg]
    · simp only [length_append, crlf, length_cons, length_nil]
      rfl
    · simp only [length_append, crlf, length_cons, length_nil]
      omega
  · rintro byte member
    rw [show byte = 0x32 from (some.inj member).symm]
    decide

/-- All bytes are spaces. -/
theorem spaces_all {bytes : List UInt8} {count : Nat} (inside : bytes <+: List.replicate count space) :
    spaces bytes = bytes.length := by
  obtain ⟨-, all⟩ := prefix_replicate_iff.mp inside
  have counted : spaces (List.replicate bytes.length space ++ []) = bytes.length :=
    spaces_replicate bytes.length (by simp)
  rwa [append_nil, ← all] at counted

/-- A part before the phrase is not enough. -/
theorem statusLine_front (inside : part <+: response.front) : statusLine part = .notEnoughData := by
  rcases Lists.prefix_append_cases inside with ⟨only, -⟩ | ⟨rest, rfl, behind⟩
  · simp only [statusLine, spaces_all only, Nat.le_refl, if_true]
  have narrow := response.narrow
  have first : spaces (List.replicate response.leading space ++ rest) = response.leading := by
    apply spaces_replicate
    intro byte member
    have same := Lists.head?_of_isPrefix behind byte member
    rw [show byte = 0x48 from (some.inj same).symm]
    decide
  have total : (List.replicate response.leading space ++ rest).length =
      response.leading + rest.length := by rw [length_append, length_replicate]
  rcases Lists.prefix_append_cases behind with ⟨-, short⟩ | ⟨more, rfl, behind_name⟩
  · rw [length_ascii_version] at short
    simp only [statusLine, first, total]
    by_cases nothing : rest.length = 0
    · rw [if_pos (by omega)]
    · rw [if_neg (by omega), if_neg (by omega), if_pos (by omega)]
  have named : (ascii "HTTP/1." ++ more).length = 7 + more.length := by
    rw [length_append, length_ascii_version]
  rw [named] at total
  have dropped : (List.replicate response.leading space ++ (ascii "HTTP/1." ++ more)).drop
      response.leading = ascii "HTTP/1." ++ more := drop_left' (length_replicate ..)
  have name : (ascii "HTTP/1." ++ more).take 7 = ascii "HTTP/1." :=
    take_left' length_ascii_version
  have later : (List.replicate response.leading space ++ (ascii "HTTP/1." ++ more)).drop
      (response.leading + 7) = more := by
    rw [← drop_drop, dropped, drop_left' length_ascii_version]
  have cell : ∀ index, (List.replicate response.leading space ++ (ascii "HTTP/1." ++ more)).getD
      (response.leading + 7 + index) 0 = more.getD index 0 := by
    intro index
    rw [← Lists.getD_drop, later]
  have zeroth := cell 0
  rw [Nat.add_zero] at zeroth
  simp only [statusLine, first, total, dropped, name, zeroth, cell]
  rw [if_neg (by omega), if_neg (by omega), if_neg (by omega), if_neg (by simp)]
  rcases Lists.prefix_append_cases behind_name with ⟨-, short⟩ | ⟨gap, rfl, behind_gap⟩
  · rw [length_singleton] at short
    rw [if_pos (by omega)]
  have known : ¬(response.version ≠ 0x30 ∧ response.version ≠ 0x31) := by
    rintro ⟨not_zero, not_one⟩
    exact response.known.elim not_zero not_one
  have whole : ([response.version] ++ gap).length = gap.length + 1 := by
    rw [length_append, length_singleton, Nat.add_comm]
  rw [whole, if_neg (by omega), ← drop_drop, later, singleton_append,
    getD_cons_zero, if_neg known]
  by_cases nothing : gap.length = 0
  · rw [if_pos (by omega)]
  have blank : gap <+: List.replicate (response.gap + 1) space := behind_gap
  obtain ⟨-, all⟩ := prefix_replicate_iff.mp blank
  have first_blank : gap.getD 0 0 = space := by
    rw [all, getD_eq_getElem?_getD, List.getElem?_replicate, if_pos (by omega)]
    rfl
  have rest_blank := spaces_all blank
  rw [if_neg (by omega), getD_cons_succ, first_blank, if_neg (by simp),
    drop_succ_cons, drop_zero, rest_blank, if_pos (by omega)]

/-- Nor is any other part. -/
theorem statusLine_part (inside : part <+: response.status)
    (proper : part.length < response.status.length) : statusLine part = .notEnoughData := by
  rw [response.status_eq] at inside proper
  rcases Lists.prefix_append_cases inside with ⟨front, -⟩ | ⟨rest, rfl, behind⟩
  · exact statusLine_front response front
  · rw [length_append, length_append] at proper
    rw [statusLine_code]
    · have ends := lineEnd_part (inline_phrase response) behind (by
        rw [length_append] at proper
        simp [crlf] at proper
        omega)
      by_cases few : rest.length < 3
      · rw [if_pos few]
      · have code : ([0x32, response.tens, response.ones] : List UInt8) <+: rest := by
          rw [Response.phrase, append_assoc] at behind
          apply prefix_of_prefix_length_le (prefix_append _ _) behind
          simpa using few
        obtain ⟨more, rfl⟩ := code
        rw [if_neg few, if_neg (by simp [response.code]), if_pos ends]
    · intro byte member
      have same := Lists.head?_of_isPrefix behind byte member
      rw [show byte = 0x32 from (some.inj same).symm]
      decide

/-! ### Headers -/

/-- Characters of two parts. -/
@[simp] theorem chars_append (bytes more : List UInt8) :
    chars (bytes ++ more) = chars bytes ++ chars more := map_append

/-- A line that does not begin with the name is not taken for one that does. -/
theorem not_names (other : ¬(15 ≤ line.length ∧ namesContentLength line = true))
    (inside : buf <+: line ++ (crlf ++ rest)) :
    ¬(15 < buf.length ∧ namesContentLength buf = true) := by
  rintro ⟨long, names⟩
  obtain ⟨more, whole⟩ := inside
  have front : buf.take 15 = (line ++ (crlf ++ rest)).take 15 := by
    rw [← whole, take_append_of_le_length (by omega)]
  by_cases enough : 15 ≤ line.length
  · apply other ⟨enough, ?_⟩
    rwa [namesContentLength, front, take_append_of_le_length enough] at names
  · have found : cr ∈ buf.take 15 := by
      obtain ⟨room, left⟩ : ∃ room, 15 - line.length = room + 1 := ⟨14 - line.length, by omega⟩
      rw [front, take_append, left]
      simp [crlf]
    have carriage : Char.toLower (Char.ofNat cr.toNat) ∈ "content-length:".toList := by
      rw [← of_decide_eq_true names, chars, List.map_map]
      exact List.mem_map_of_mem found
    exact absurd carriage (by decide)

/-- Nor is the blank line. -/
theorem not_names_blank (rest : List UInt8) :
    ¬(15 < (crlf ++ rest).length ∧ namesContentLength (crlf ++ rest) = true) := by
  have other : ¬(15 ≤ ([] : List UInt8).length ∧ namesContentLength [] = true) := by decide
  exact not_names other (prefix_refl ([] ++ (crlf ++ rest)))

/-- Digits of bytes and characters. -/
theorem isDigit_char (byte : UInt8) : (Char.ofNat byte.toNat).isDigit = isDigit byte := by
  obtain ⟨bits⟩ := byte
  revert bits
  decide +kernel

/-- A line with a length is read as its length, if that fits in an `int`. -/
theorem atoi_states (states : States line number) (rest : List UInt8) :
    (15 < (line ++ (crlf ++ rest)).length ∧
      namesContentLength (line ++ (crlf ++ rest)) = true) ∧
    (number < 2 ^ 31 →
      ∀ heap, Decimal.atoi (chars ((line ++ (crlf ++ rest)).drop 15 ++ heap)) = number) := by
  obtain ⟨name, before, digits, after, rfl, length, names, front, back, some_digits, all, value⟩ :=
    states
  have shape : name ++ before ++ digits ++ after ++ (crlf ++ rest) =
      name ++ (before ++ (digits ++ (after ++ (crlf ++ rest)))) := by
    simp only [append_assoc]
  rw [shape]
  refine ⟨⟨?_, ?_⟩, fun small heap => ?_⟩
  · have : 0 < digits.length := length_pos_iff.mpr some_digits
    simp only [length_append, length]
    omega
  · rw [namesContentLength, take_of_length_le (by omega)] at names
    rw [namesContentLength, take_left' length]
    exact names
  · rw [drop_left' length]
    simp only [append_assoc, chars_append]
    apply Decimal.atoi_of_scan _ small
    rw [Decimal.scan_spaces, Decimal.scan_digits, value]
    · simpa [chars] using some_digits
    · intro c member
      obtain ⟨byte, found, rfl⟩ := mem_map.mp member
      rw [isDigit_char, all byte found]
    · intro c member
      cases after with
      | nil =>
        rw [show c = Char.ofNat cr.toNat from (some.inj member).symm]
        decide
      | cons byte after =>
        rw [show c = Char.ofNat byte.toNat from (some.inj member).symm]
        rcases back byte mem_cons_self with rfl | rfl <;> decide
    · intro c member
      obtain ⟨byte, found, rfl⟩ := mem_map.mp member
      rcases front byte found with rfl | rfl <;> decide

/-- The length that is known when some headers are read. -/
def stated (headers : List Header) : Nat := (headers.filterMap Header.length).getLast?.getD 0

/-- The last length counts. -/
theorem stated_concat (headers : List Header) (header : Header) :
    stated (headers ++ [header]) = header.length.getD (stated headers) := by
  cases length : header.length with
  | none | some => simp [stated, length]

/-- The length does not change with headers that state none. -/
theorem stated_append {headers more : List Header} (none_left : ∀ header ∈ more, header.length = none) :
    stated (headers ++ more) = stated headers := by
  have nothing : more.filterMap Header.length = [] := filterMap_eq_nil_iff.mpr none_left
  rw [stated, filterMap_append, nothing, append_nil, stated]

section Parser

variable (fuel : Nat) (queue : List ToBeSent) (contentLength : Int) (heap : Nat → List UInt8)
  (scans : Nat)

/-- The counter of a buffer of less than `2 ^ 31` bytes. -/
theorem HttpPriv.recvLen_of_small {priv : HttpPriv} (small : priv.recvBuf.length < 2 ^ 31) :
    priv.recvLen = priv.recvBuf.length := by
  unfold recvLen
  apply Int.bmod_eq_of_le
  · omega
  · omega

/-- Below `2 ^ 31` bytes the counter is not negative. -/
theorem HttpPriv.recvLen_nonneg (priv : HttpPriv) (small : priv.recvBuf.length < 2 ^ 31) :
    ¬priv.recvLen < 0 := by
  rw [recvLen_of_small small]
  omega

/-- From there on it is. -/
theorem HttpPriv.recvLen_negative (priv : HttpPriv) (long : 2 ^ 31 ≤ priv.recvBuf.length)
    (fits : priv.recvBuf.length < 2 ^ 32) : priv.recvLen < 0 := by
  unfold recvLen
  rw [Int.bmod_def]
  split <;> omega

/-- A part of a header line is kept, and may be read as a length. -/
theorem parse_line_part (clean : Inline line) (inside : buf <+: line ++ crlf)
    (proper : buf.length < line.length + 2) (small : buf.length < 2 ^ 31) :
    ∃ scanned, parse (fuel + 1) ⟨.headers, true, queue, buf, contentLength, heap, scans⟩ =
        some (.notEnoughData, ⟨.headers, true, queue, buf, scanned, heap, scans + 1⟩) ∧
      (¬(15 < buf.length ∧ namesContentLength buf = true) → scanned = contentLength) := by
  have short := lineEnd_part clean inside proper
  have counted := HttpPriv.recvLen_nonneg
    ⟨.headers, true, queue, buf, contentLength, heap, scans⟩ small
  by_cases names : 15 < buf.length ∧ namesContentLength buf = true
  · refine ⟨Decimal.atoi (chars (buf.drop 15 ++ heap scans)), ?_, fun other => absurd names other⟩
    simp only [parse, if_neg counted, if_pos names, if_pos short]
  · refine ⟨contentLength, ?_, fun _ => rfl⟩
    simp only [parse, if_neg counted, if_neg names, if_pos short]

/-- A whole header line is used up. -/
theorem parse_line (clean : Inline line) (rest : List UInt8)
    (small : (line ++ (crlf ++ rest)).length < 2 ^ 31) :
    parse (fuel + 1)
        ⟨.headers, true, queue, line ++ (crlf ++ rest), contentLength, heap, scans⟩ =
      parse fuel ⟨if line = [] then .body else .headers, true, queue, rest,
        if 15 < (line ++ (crlf ++ rest)).length ∧
            namesContentLength (line ++ (crlf ++ rest)) = true then
          Decimal.atoi (chars ((line ++ (crlf ++ rest)).drop 15 ++ heap scans))
        else contentLength, heap, scans + 1⟩ := by
  have ends := lineEnd_line clean rest
  have counted := HttpPriv.recvLen_nonneg
    ⟨.headers, true, queue, line ++ (crlf ++ rest), contentLength, heap, scans⟩ small
  have total : (line ++ (crlf ++ rest)).length = line.length + 2 + rest.length := by
    simp only [length_append, crlf, length_cons, length_nil]
    omega
  have dropped : (line ++ (crlf ++ rest)).drop (line.length + 2) = rest := by
    rw [← append_assoc]
    apply drop_left'
    rw [length_append]
    rfl
  have empty : line.length + 2 = 2 ↔ line = [] := by
    rw [← length_eq_zero_iff]
    omega
  have long : ¬line.length + 2 + rest.length ≤ line.length + 1 := by omega
  simp only [parse, if_neg counted, ends]
  rw [total, if_neg long, dropped]
  simp only [empty]
  by_cases names : 15 < line.length + 2 + rest.length ∧
      namesContentLength (line ++ (crlf ++ rest)) = true
  · simp only [if_pos names]
    split <;> rfl
  · simp only [if_neg names]
    split <;> rfl

end Parser

end Xice.Socket.Http
