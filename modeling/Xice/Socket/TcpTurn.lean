import Xice.Lib.Lists
import Xice.Socket.Wrapper

/-!
# The TURN-over-TCP socket

`tcp-turn.c`: the socket cuts a byte stream into frames, and keeps a part of a frame at the end of a
chunk in `recv_buf`. The local variable `padlen` of `read_callback` is used also where it was not
assigned; what it holds then is an argument here. The loop need not end, so it has fuel.
-/

namespace Xice.Socket.TcpTurn

open Xice.Ice (XiceAddress)
open Xice.Lib Word List

/-- `TurnTcpPriv`. The base socket is never null. -/
structure TurnTcpPriv where
  compatibility : XiceTurnSocketCompatibility
  recvBuf : Mem
  recvBufLen : UInt32
  /-- Zero where no header was read; otherwise the length of the frame, and after a return what is missing. -/
  expectingLen : UInt32

variable (compatibility : XiceTurnSocketCompatibility) (host : Host) (sock : Wrapper TurnTcpPriv)
  (buf : Mem)

/-- Size of `recv_buf`. -/
def recvBufSize : Nat := 65536

/-- How a call of `read_callback` ends without returning. -/
inductive Stop where
  /-- Bytes are copied behind the end of `recv_buf`. -/
  | overrun
  /-- The loop takes more turns than there is fuel. -/
  | fuel
  deriving DecidableEq, Repr

/-- `xice_tcp_turn_socket_new`. -/
def tcpTurnSocketNew : Wrapper TurnTcpPriv where
  priv := {
    compatibility := compatibility
    recvBuf := fun _ => 0
    recvBufLen := 0
    expectingLen := 0 }
  log := []

/-- The modes of the standard. -/
def padded : Bool :=
  compatibility = .draft9 || compatibility = .rfc5766

/-- `socket_send`. -/
def socketSend (message : Message) : Wrapper TurnTcpPriv × Bool :=
  let sock := sock.emit (.ask message)
  let len := message.buf.length
  let padlen := if padded sock.priv.compatibility ∧ len % 4 ≠ 0 then 4 - len % 4 else 0
  let header := if sock.priv.compatibility = .google then htons (UInt16.ofNat len) else []
  sock.baseSend host ⟨message.toAddr, header ++ message.buf ++ replicate padlen 0⟩

/-- `expecting_len` and `padlen` of the header at a place. -/
def header : UInt32 × UInt32 :=
  if padded compatibility then
    let magic := ntohs buf 0
    let packetlen := ntohs buf 2
    let expecting := (if magic < 0x4000 then 20 else 4) + packetlen.toUInt32
    (expecting, if expecting % 4 ≠ 0 then 4 - expecting % 4 else 0)
  else ((ntohs buf 0).toUInt32, 0)

/-- `memcpy` to the end of the bytes in `recv_buf`. -/
def append (priv : TurnTcpPriv) (bytes : List UInt8) : Except Stop TurnTcpPriv :=
  if priv.recvBufLen.toNat + bytes.length ≤ recvBufSize then
    .ok { priv with
      recvBuf := priv.recvBuf.store priv.recvBufLen.toNat bytes
      recvBufLen := priv.recvBufLen + UInt32.ofNat bytes.length }
  else .error .overrun

/-- The end of the loop: bytes of a frame are put into `recv_buf`, and the frame is handed up when
it is whole. `again` is `goto next`. -/
def collect (source : Option XiceAddress)
    (again : Wrapper TurnTcpPriv → UInt32 → List UInt8 → Except Stop (Wrapper TurnTcpPriv))
    (sock : Wrapper TurnTcpPriv) (expecting padlen : UInt32) (buf : List UInt8) :
    Except Stop (Wrapper TurnTcpPriv) := do
  let copy := min buf.length (padlen + expecting - sock.priv.recvBufLen).toNat
  let priv ← append { sock.priv with expectingLen := expecting } (buf.take copy)
  if padlen + expecting ≤ priv.recvBufLen then
    let count := expecting + padlen
    let sock := (Wrapper.callback host (socketSend host) ⟨priv, sock.log⟩ .readable
      (priv.recvBuf.read count.toNat) source).1
    let left := sock.priv.recvBufLen - count
    again { sock with
      priv.recvBuf :=
        sock.priv.recvBuf.write recvBufSize 0 (sock.priv.recvBuf.offset count.toNat) left.toNat
      priv.recvBufLen := left
      priv.expectingLen := 0 } padlen (buf.drop copy)
  else
    .ok ⟨{ priv with expectingLen := expecting - (priv.recvBufLen - padlen) }, sock.log⟩

/-- The loop at the label `next` of `read_callback`, which always returns `TRUE`. -/
def next (host : Host) (source : Option XiceAddress) (headerlen : Nat) :
    (fuel : Nat) → (sock : Wrapper TurnTcpPriv) → (padlen : UInt32) → (buf : List UInt8) →
    Except Stop (Wrapper TurnTcpPriv)
  | 0, _, _, _ => .error .fuel
  | fuel + 1, sock, padlen, buf =>
    if buf.length = 0 then .ok sock
    else if sock.priv.expectingLen = 0 ∧ sock.priv.recvBufLen = 0 then
      if buf.length < headerlen then do
        let priv ← append sock.priv buf
        .ok { sock with priv := priv }
      else
        let (expecting, padlen) := header sock.priv.compatibility (Mem.ofList buf)
        let count := (expecting + padlen).toNat
        if count ≤ buf.length then
          let sock := { sock with priv.expectingLen := expecting }
          let sock :=
            (sock.callback host (socketSend host) .readable (buf.take count) source).1
          let sock := { sock with priv.recvBufLen := 0, priv.expectingLen := 0 }
          next host source headerlen fuel sock padlen (buf.drop count)
        else do
          let priv ← append sock.priv buf
          .ok { sock with
            priv := { priv with expectingLen := expecting + padlen - UInt32.ofNat buf.length } }
    else if sock.priv.expectingLen = 0 then
      if buf.length + sock.priv.recvBufLen.toNat < headerlen then do
        let priv ← append sock.priv buf
        .ok { sock with priv := priv }
      else do
        let missing := headerlen - sock.priv.recvBufLen.toNat
        let priv ← append sock.priv (buf.take missing)
        let (expecting, padlen) := header priv.compatibility priv.recvBuf
        collect host source (next host source headerlen fuel) { sock with priv := priv } expecting
          padlen (buf.drop missing)
    else
      collect host source (next host source headerlen fuel) sock sock.priv.expectingLen padlen buf

/-- `read_callback`. -/
def readCallback (fuel : Nat) (padlen : UInt32) (sock : Wrapper TurnTcpPriv)
    (condition : XiceSocketCondition) (buf : List UInt8) (source : Option XiceAddress) :
    Except Stop (Wrapper TurnTcpPriv × Bool) :=
  if padded sock.priv.compatibility ∨ sock.priv.compatibility = .google then
    if condition ≠ .readable then
      .ok (sock.callback host (socketSend host) condition buf source)
    else do
      let headerlen := if padded sock.priv.compatibility then 4 else 2
      let sock ← next host source headerlen fuel sock padlen buf
      .ok (sock, true)
  else .ok (sock, false)

/-! ### The parts of the loop -/

/-- What a socket that holds `part` of a frame looks like. -/
structure Holds (part : List UInt8) (expecting : UInt32) (priv : TurnTcpPriv) : Prop where
  mode : padded priv.compatibility = true
  bytes : priv.recvBuf.read part.length = part
  length : priv.recvBufLen = UInt32.ofNat part.length
  fits : part.length ≤ recvBufSize
  expecting : priv.expectingLen = expecting

/-- Length of the frame at a place, with its padding. -/
def frameLength : Nat :=
  ((header .rfc5766 buf).1 + (header .rfc5766 buf).2).toNat

/-- ChannelData or a STUN message, padded to a multiple of four bytes, that fits into the receive
buffer. -/
structure Framed (frame : List UInt8) : Prop where
  length : frame.length = frameLength (Mem.ofList frame)
  fits : frame.length ≤ recvBufSize

/-- Four bytes decide the header. -/
theorem header_congr {buf other : Mem} (same : ∀ index < 4, buf index = other index) :
    header .rfc5766 buf = header .rfc5766 other := by
  have magic : ntohs buf 0 = ntohs other 0 := ntohs_congr (same 0 (by omega)) (same 1 (by omega))
  have packetlen : ntohs buf 2 = ntohs other 2 :=
    ntohs_congr (same 2 (by omega)) (same 3 (by omega))
  simp only [header, magic, packetlen]

/-- A frame has a header. -/
theorem four_le_frameLength : 4 ≤ frameLength buf := by
  have small := (ntohs buf 2).toNat_lt
  have number : (ntohs buf 2).toUInt32.toNat = (ntohs buf 2).toNat := UInt16.toNat_toUInt32 _
  let front : UInt32 := if ntohs buf 0 < 0x4000 then 20 else 4
  let expecting := front + (ntohs buf 2).toUInt32
  let padlen : UInt32 := if expecting % 4 ≠ 0 then 4 - expecting % 4 else 0
  have front_le : 4 ≤ front.toNat ∧ front.toNat ≤ 20 := by
    simp only [front]
    split <;> decide
  have sum : expecting.toNat = front.toNat + (ntohs buf 2).toNat := by
    rw [← number]
    exact toNat_add32 (by omega)
  have rest : (expecting % 4).toNat < 4 := by
    rw [UInt32.toNat_mod]
    exact Nat.mod_lt _ (by decide)
  have padlen_le : padlen.toNat ≤ 4 := by
    simp only [padlen]
    split
    · rw [toNat_sub32 (Nat.le_of_lt rest)]
      exact Nat.sub_le _ _
    · exact Nat.zero_le _
  change 4 ≤ (expecting + padlen).toNat
  rw [toNat_add32 (by omega)]
  omega

/-- So has one of the stream. -/
theorem Framed.four_le {frame : List UInt8} (framed : Framed frame) : 4 ≤ frame.length := by
  rw [framed.length]
  exact four_le_frameLength _

/-- Padded modes have one header. -/
theorem header_of_padded {compatibility : XiceTurnSocketCompatibility}
    (mode : padded compatibility = true) (buf : Mem) :
    header compatibility buf = header .rfc5766 buf := by
  simp [header, mode, show padded .rfc5766 = true by rfl]

/-- Sizes of the buffer do not wrap. -/
theorem toNat_size {size : Nat} (fits : size ≤ recvBufSize) : (UInt32.ofNat size).toNat = size :=
  UInt32.toNat_ofNat_of_lt' (Nat.lt_of_le_of_lt fits (by decide))

section Holds

variable {part : List UInt8} {expecting : UInt32} {priv : TurnTcpPriv}
  (holds : Holds part expecting priv)
include holds

/-- The counter is right. -/
theorem Holds.number : priv.recvBufLen.toNat = part.length := by
  rw [holds.length, toNat_size holds.fits]

/-- A part is kept. -/
theorem Holds.not_idle (filled : part ≠ []) : ¬(priv.expectingLen = 0 ∧ priv.recvBufLen = 0) := by
  rintro ⟨-, zero⟩
  have number := holds.number
  rw [zero] at number
  exact filled (length_eq_zero_iff.mp number.symm)

/-- The expected length is set. -/
theorem Holds.expect (expecting : UInt32) :
    Holds part expecting { priv with expectingLen := expecting } :=
  ⟨holds.mode, holds.bytes, holds.length, holds.fits, rfl⟩

/-- Bytes are put behind the part. -/
theorem Holds.append (bytes : List UInt8) (fits : (part ++ bytes).length ≤ recvBufSize) :
    ∃ more, TcpTurn.append priv bytes = .ok more ∧ more.compatibility = priv.compatibility ∧
      Holds (part ++ bytes) expecting more := by
  have number := holds.number
  refine ⟨_, if_pos (by rw [number, ← length_append]; exact fits), rfl, ?_⟩
  constructor
  · exact holds.mode
  · change (priv.recvBuf.store priv.recvBufLen.toNat bytes).read (part ++ bytes).length = _
    rw [number, length_append, Mem.read_store_append, holds.bytes]
  · change priv.recvBufLen + UInt32.ofNat bytes.length = _
    rw [holds.length, length_append, UInt32.ofNat_add]
  · exact fits
  · exact holds.expecting

end Holds

/-- The upper layer does not change the record. -/
theorem callback_keeps (host : Host) (sock : Wrapper TurnTcpPriv) (buf : List UInt8)
    (source : Option XiceAddress) :
    (sock.callback host (socketSend host) .readable buf source).1.priv = sock.priv ∧
      packets (sock.callback host (socketSend host) .readable buf source).1.log =
        packets sock.log ++ [buf] := by
  apply Wrapper.callback_rule host fun later =>
    later.priv = sock.priv ∧ packets later.log = packets sock.log ++ [buf]
  · rintro later message ⟨same, told⟩
    refine ⟨same, Eq.trans ?_ told⟩
    simp [socketSend, Wrapper.baseSend, Wrapper.emit, packets]
  · simp [Wrapper.emit, packets]

variable (host : Host) (source : Option XiceAddress) {sock : Wrapper TurnTcpPriv}
  {frame held buf : List UInt8}

/-- A frame is handed up, and the loop goes on behind it. -/
def HandsUp (headerlen fuel : Nat) (sock : Wrapper TurnTcpPriv) (frame rest : List UInt8)
    (run : Except Stop (Wrapper TurnTcpPriv)) : Prop :=
  ∃ later padlen, run = next host source headerlen fuel later padlen rest ∧
    later.priv.compatibility = sock.priv.compatibility ∧
    (later.priv.expectingLen = 0 ∧ later.priv.recvBufLen = 0) ∧
    packets later.log = packets sock.log ++ [frame]

/-- Whole frames are handed up, and a part of the next is kept. -/
def KeepsPart (sock : Wrapper TurnTcpPriv) (frames : List (List UInt8)) (part : List UInt8)
    (expecting : UInt32) (run : Except Stop (Wrapper TurnTcpPriv)) : Prop :=
  ∃ later, run = .ok later ∧ Holds part expecting later.priv ∧
    packets later.log = packets sock.log ++ frames

/-- An idle socket keeps nothing. -/
theorem holds_nil {priv : TurnTcpPriv} (mode : padded priv.compatibility = true)
    (idle : priv.expectingLen = 0 ∧ priv.recvBufLen = 0) : Holds [] 0 priv :=
  ⟨mode, rfl, idle.2, Nat.zero_le _, idle.1⟩

/-- The header of a frame is read. -/
theorem header_front {buf : Mem} (compatibility : XiceTurnSocketCompatibility)
    (mode : padded compatibility = true) (framed : Framed frame)
    (front : buf.read 4 = frame.take 4) :
    ((header compatibility buf).1 + (header compatibility buf).2).toNat = frame.length := by
  have same : ∀ index < 4, buf index = Mem.ofList frame index := by
    intro index inside
    have cell := congrArg (fun list => list[index]?) front
    simp only [Mem.getElem?_read buf inside, List.getElem?_take_of_lt inside] at cell
    rw [Mem.ofList, getD_eq_getElem?_getD, ← cell]
    rfl
  rw [header_of_padded mode, framed.length, frameLength, header_congr same]

section Idle

variable {headerlen count : Nat} (idle : sock.priv.expectingLen = 0 ∧ sock.priv.recvBufLen = 0)
  (filled : buf.length ≠ 0) (enough : headerlen ≤ buf.length)
  (size : ((header sock.priv.compatibility (Mem.ofList buf)).1 + (header sock.priv.compatibility (Mem.ofList buf)).2).toNat = count)
include idle filled enough size

/-- A whole frame is given to the upper layer. -/
theorem next_whole (inside : count ≤ buf.length) (fuel : Nat) (padlen : UInt32) :
    HandsUp host source headerlen fuel sock (buf.take count) (buf.drop count)
      (next host source headerlen (fuel + 1) sock padlen buf) := by
  rw [next, if_neg filled, if_pos idle, if_neg (Nat.not_lt.mpr enough)]
  simp only [size, if_pos inside]
  have call := callback_keeps host { sock with priv.expectingLen :=
    (header sock.priv.compatibility (Mem.ofList buf)).1 } (buf.take count) source
  refine ⟨_, _, rfl, ?_, ⟨rfl, rfl⟩, call.2⟩
  dsimp only
  rw [call.1]

/-- A part of a frame at the front of the bytes read is kept. -/
theorem next_rest (more : buf.length < count) {priv : TurnTcpPriv}
    (copied : append sock.priv buf = .ok priv) (fuel : Nat) (padlen : UInt32) :
    next host source headerlen (fuel + 1) sock padlen buf =
      .ok ⟨{ priv with expectingLen := UInt32.ofNat (count - buf.length) }, sock.log⟩ := by
  have left : (header sock.priv.compatibility (Mem.ofList buf)).1 +
      (header sock.priv.compatibility (Mem.ofList buf)).2 - UInt32.ofNat buf.length =
        UInt32.ofNat (count - buf.length) := by
    have small : count < 2 ^ 32 := size ▸ UInt32.toNat_lt _
    have number : (UInt32.ofNat buf.length).toNat = buf.length :=
      UInt32.toNat_ofNat_of_lt' (more.trans small)
    rw [← UInt32.toNat_inj, toNat_sub32 (by rw [size, number]; omega), size, number,
      UInt32.toNat_ofNat_of_lt' (Nat.lt_of_le_of_lt (Nat.sub_le _ _) small)]
  rw [next, if_neg filled, if_pos idle, if_neg (Nat.not_lt.mpr enough)]
  simp only [size, if_neg (Nat.not_le.mpr more), copied, left, bind, Except.bind]

end Idle

/-- What `expecting_len` is after a part of a frame was read. -/
def awaited (frame part : List UInt8) : UInt32 :=
  if part.length < 4 then 0 else UInt32.ofNat (frame.length - part.length)

section Collect

variable {part : List UInt8} {expecting padlen : UInt32} (fuel : Nat)

/-- The bytes that are missing. -/
theorem toNat_missing (holds : Holds part 0 sock.priv)
    (count : (expecting + padlen).toNat = frame.length) (inside : part.length ≤ frame.length) :
    (expecting + padlen - sock.priv.recvBufLen).toNat = frame.length - part.length := by
  rw [toNat_sub32 (by rw [count, holds.number]; exact inside), count,
    holds.number]

/-- The rest of a frame is collected. -/
theorem collect_whole {more : List UInt8} (rest : List UInt8) (holds : Holds part 0 sock.priv)
    (count : (expecting + padlen).toNat = (part ++ more).length)
    (fits : (part ++ more).length ≤ recvBufSize) :
    HandsUp host source 4 fuel sock (part ++ more) rest
      (collect host source (next host source 4 fuel) sock expecting padlen (more ++ rest)) := by
  have missing := toNat_missing holds count (by simp)
  rw [length_append, Nat.add_sub_cancel_left] at missing
  obtain ⟨full, copied, mode, holds_all⟩ := (holds.expect expecting).append more fits
  have same : full.recvBufLen = expecting + padlen := by
    rw [← UInt32.toNat_inj, count, holds_all.number]
  have call := callback_keeps host ⟨full, sock.log⟩ (part ++ more) source
  have call_priv : (Wrapper.callback host (socketSend host) ⟨full, sock.log⟩ .readable
    (part ++ more) source).1.priv = full := call.1
  have copy : min (more ++ rest).length more.length = more.length :=
    Nat.min_eq_right (by rw [length_append]; omega)
  simp only [collect, UInt32.add_comm padlen expecting, missing, copy, take_left,
    drop_left, copied, bind, Except.bind, same, UInt32.le_refl, if_true, count,
    holds_all.bytes, call_priv]
  exact ⟨_, _, rfl, mode, ⟨rfl, UInt32.sub_self _⟩, call.2⟩

/-- A part of it is collected. -/
theorem collect_part (buf : List UInt8) (holds : Holds part 0 sock.priv)
    (count : (expecting + padlen).toNat = frame.length) (fits : frame.length ≤ recvBufSize)
    (proper : (part ++ buf).length < frame.length) :
    KeepsPart sock [] (part ++ buf) (UInt32.ofNat (frame.length - (part ++ buf).length))
      (collect host source (next host source 4 fuel) sock expecting padlen buf) := by
  obtain ⟨full, copied, -, holds_all⟩ := (holds.expect expecting).append buf
    ((Nat.le_of_lt proper).trans fits)
  have number := holds_all.number
  rw [length_append] at proper number
  have missing := toNat_missing holds count (by omega)
  have more : ¬expecting + padlen ≤ full.recvBufLen := by
    rw [UInt32.le_iff_toNat_le, count, number]
    omega
  have all : min buf.length (frame.length - part.length) = buf.length := Nat.min_eq_left (by omega)
  simp only [collect, UInt32.add_comm padlen expecting, missing, all, take_length, copied, bind,
    Except.bind, if_neg more]
  have moved : expecting - (full.recvBufLen - padlen) = expecting + padlen - full.recvBufLen := by
    grind
  have left : expecting - (full.recvBufLen - padlen) =
      UInt32.ofNat (frame.length - (part ++ buf).length) := by
    rw [moved, ← UInt32.toNat_inj, toNat_sub32 (by rw [count, number]; omega), count, number,
      length_append, toNat_size ((Nat.sub_le _ _).trans fits)]
  refine ⟨_, rfl, ?_, (append_nil _).symm⟩
  rw [left]
  exact holds_all.expect _

end Collect

variable {frames : List (List UInt8)}

variable {fuel : Nat}

/-- A header that was begun is read, and the bytes behind it are collected. -/
theorem next_header (holds : Holds held 0 sock.priv) (some_held : held ≠ [])
    (short : held.length < 4) (enough : 4 ≤ (held ++ buf).length) (framed : Framed frame)
    (front : (held ++ buf).take 4 = frame.take 4) (fuel : Nat) (padlen : UInt32) :
    ∃ later expecting padlen',
      next host source 4 (fuel + 1) sock padlen buf =
        collect host source (next host source 4 fuel) later expecting padlen'
          (buf.drop (4 - held.length)) ∧
      later.priv.compatibility = sock.priv.compatibility ∧ later.log = sock.log ∧
      Holds ((held ++ buf).take 4) 0 later.priv ∧
      (expecting + padlen').toNat = frame.length := by
  have number := holds.number
  rw [length_append] at enough
  have four : (held ++ buf).take 4 = held ++ buf.take (4 - held.length) := by
    rw [take_append, take_of_length_le (Nat.le_of_lt short)]
  have four_held : (held ++ buf.take (4 - held.length)).length = 4 := by
    rw [length_append, length_take]
    omega
  obtain ⟨priv, copied, mode, holds_header⟩ := holds.append (buf.take (4 - held.length))
    (by rw [four_held]; decide)
  have read : priv.recvBuf.read 4 = frame.take 4 := by
    rw [← front, four, ← holds_header.bytes, four_held]
  have count := header_front priv.compatibility holds_header.mode framed read
  refine ⟨{ sock with priv := priv }, _, _, ?_, mode, rfl, ?_, count⟩
  · rw [next, if_neg (by omega), if_neg (holds.not_idle some_held), if_pos holds.expecting,
      if_neg (by rw [number]; omega), number]
    simp only [copied, bind, Except.bind]
  · rw [four]
    exact holds_header

/-- The next frame is handed up, also when it was begun before. -/
theorem next_frame {rest : List UInt8} (holds : Holds held 0 sock.priv) (short : held.length < 4)
    (framed : Framed frame) (bytes : held ++ buf = frame ++ rest) (fuel : Nat) (padlen : UInt32) :
    HandsUp host source 4 fuel sock frame rest
      (next host source 4 (fuel + 1) sock padlen buf) := by
  have four := framed.four_le
  by_cases none_held : held = []
  · subst none_held
    obtain rfl : buf = frame ++ rest := bytes
    have all : 4 ≤ (frame ++ rest).length ∧ frame.length ≤ (frame ++ rest).length := by
      rw [length_append]
      omega
    have front : (Mem.ofList (frame ++ rest)).read 4 = frame.take 4 := by
      rw [Mem.read_ofList all.1, take_append_of_le_length four]
    have whole := next_whole host source ⟨holds.expecting, holds.length⟩ (by omega) all.1
      (header_front sock.priv.compatibility holds.mode framed front) all.2 fuel padlen
    rwa [take_left, drop_left] at whole
  · have front : (held ++ buf).take 4 = frame.take 4 := by
      rw [bytes, take_append_of_le_length four]
    have enough : 4 ≤ (held ++ buf).length := by
      rw [bytes, length_append]
      omega
    have behind : buf.drop (4 - held.length) = frame.drop 4 ++ rest := by
      rw [← drop_append_of_le_length four, ← bytes, drop_append,
        drop_of_length_le (Nat.le_of_lt short), nil_append]
    obtain ⟨later, expecting, padlen', step, mode, log_eq, holds_header, count⟩ :=
      next_header host source holds none_held short enough framed front fuel padlen
    rw [front] at holds_header
    have whole : frame.take 4 ++ frame.drop 4 = frame := take_append_drop 4 frame
    have given := collect_whole host source fuel rest holds_header (by rw [whole]; exact count)
      (by rw [whole]; exact framed.fits)
    rw [whole, HandsUp, log_eq, mode] at given
    rw [step, behind]
    exact given

/-- More of a part is kept too. -/
theorem next_part (holds : Holds held 0 sock.priv) (short : held.length < 4) (framed : Framed frame)
    (inside : held ++ buf <+: frame) (proper : (held ++ buf).length < frame.length) (fuel : Nat)
    (padlen : UInt32) :
    KeepsPart sock [] (held ++ buf) (awaited frame (held ++ buf))
      (next host source 4 (fuel + 1) sock padlen buf) := by
  have told := (append_nil (packets sock.log)).symm
  by_cases nothing : buf = []
  · subst nothing
    refine ⟨sock, by rw [next, if_pos length_nil], ?_, told⟩
    rw [append_nil, awaited, if_pos short]
    exact holds
  have some_buf : buf.length ≠ 0 := mt length_eq_zero_iff.mp nothing
  obtain ⟨priv, copied, -, holds_all⟩ := holds.append buf ((Nat.le_of_lt proper).trans framed.fits)
  by_cases few : (held ++ buf).length < 4
  · rw [awaited, if_pos few]
    refine ⟨{ sock with priv := priv }, ?_, holds_all, told⟩
    rw [next, if_neg some_buf]
    by_cases none_held : held = []
    · subst none_held
      rw [nil_append] at few
      rw [if_pos ⟨holds.expecting, holds.length⟩, if_pos few, copied]
      rfl
    · rw [length_append, Nat.add_comm] at few
      rw [if_neg (holds.not_idle none_held), if_pos holds.expecting,
        if_pos (by rw [holds.number]; exact few), copied]
      rfl
  rw [awaited, if_neg few]
  have four : 4 ≤ (held ++ buf).length := Nat.not_lt.mp few
  have front : (held ++ buf).take 4 = frame.take 4 := by
    obtain ⟨rest, rfl⟩ := inside
    exact (take_append_of_le_length four).symm
  by_cases none_held : held = []
  · subst none_held
    rw [nil_append] at *
    have count := header_front sock.priv.compatibility holds.mode framed
      ((Mem.read_ofList four).trans front)
    exact ⟨_, next_rest host source ⟨holds.expecting, holds.length⟩ some_buf four count proper
      copied fuel padlen, holds_all.expect _, told⟩
  · obtain ⟨later, expecting, padlen', step, -, log_eq, holds_header, count⟩ :=
      next_header host source holds none_held short four framed front fuel padlen
    have behind : buf.drop (4 - held.length) = (held ++ buf).drop 4 := by
      rw [drop_append, drop_of_length_le (Nat.le_of_lt short), nil_append]
    have rest : (held ++ buf).take 4 ++ (held ++ buf).drop 4 = held ++ buf :=
      take_append_drop _ _
    have kept := collect_part host source fuel ((held ++ buf).drop 4) holds_header count
      framed.fits (by rw [rest]; exact proper)
    rw [rest, KeepsPart, log_eq] at kept
    rw [step, behind]
    exact kept

/-- A chunk that ends with whole frames and a part of another. -/
theorem next_frames (padlen : UInt32) {part : List UInt8} (holds : Holds held 0 sock.priv)
    (short : held.length < 4) (all_framed : ∀ frame ∈ frames, Framed frame) (framed : Framed frame)
    (inside : part <+: frame) (proper : part.length < frame.length)
    (bytes : held ++ buf = frames.flatten ++ part) (enough : frames.length < fuel) :
    KeepsPart sock frames part (awaited frame part) (next host source 4 fuel sock padlen buf) := by
  induction frames generalizing sock held buf padlen fuel with
  | nil =>
    obtain ⟨fuel, rfl⟩ := Nat.exists_eq_add_of_le' enough
    obtain rfl : held ++ buf = part := bytes
    exact next_part host source holds short framed inside proper fuel padlen
  | cons first frames ih =>
    rw [forall_mem_cons] at all_framed
    rw [flatten_cons, append_assoc] at bytes
    obtain ⟨fuel, rfl⟩ := Nat.exists_eq_add_of_le' (Nat.lt_of_le_of_lt (Nat.zero_le _) enough)
    obtain ⟨later, padlen', step, mode, idle, told⟩ :=
      next_frame host source holds short all_framed.1 bytes fuel padlen
    obtain ⟨last, run, holds_part, told_later⟩ :=
      ih padlen' (holds_nil (by rw [mode]; exact holds.mode) idle) (by decide) all_framed.2 rfl
        (Nat.lt_of_succ_lt_succ enough)
    refine ⟨last, step.trans run, holds_part, ?_⟩
    rw [told_later, told, append_assoc]
    rfl

/-! ### Runs -/

/-- A call of `read_callback` with bytes. -/
structure Call where
  buf : List UInt8
  /-- What lies in the place of `padlen`. -/
  padlen : UInt32

/-- A run of calls. -/
def receive (fuel : Nat) (sock : Wrapper TurnTcpPriv) (calls : List Call) :
    Except Stop (Wrapper TurnTcpPriv) :=
  calls.foldlM (fun sock call =>
    (readCallback host fuel call.padlen sock .readable call.buf source).map Prod.fst) sock

/-- At this place fewer than four bytes of a frame are read. -/
def CleanCut (frames : List (List UInt8)) (count : Nat) : Prop :=
  ∃ whole, whole <+: frames ∧ whole.flatten.length ≤ count ∧ count < whole.flatten.length + 4

/-- The length of a header in a mode that has one. -/
def HeaderLen (compatibility : XiceTurnSocketCompatibility) (headerlen : Nat) : Prop :=
  padded compatibility = true ∧ headerlen = 4 ∨ compatibility = .google ∧ headerlen = 2

/-- One more chunk is read. -/
theorem receive_cons {headerlen : Nat} (fuel : Nat)
    (mode : HeaderLen sock.priv.compatibility headerlen) (call : Call) (calls : List Call) :
    receive host source fuel sock (call :: calls) =
      (next host source headerlen fuel sock call.padlen call.buf).bind
        fun sock => receive host source fuel sock calls := by
  rw [receive, foldlM_cons]
  have read : readCallback host fuel call.padlen sock .readable call.buf source =
      (next host source headerlen fuel sock call.padlen call.buf).bind fun sock => .ok (sock, true) := by
    rcases mode with ⟨mode, rfl⟩ | ⟨mode, rfl⟩
    · simp [readCallback, mode, bind]
    · simp [readCallback, mode, bind, show padded .google = false by rfl]
  rw [read]
  cases next host source headerlen fuel sock call.padlen call.buf <;> rfl

/-- An empty frame. -/
theorem framed_empty : Framed [0x40, 0x00, 0x00, 0x00] := ⟨by decide, by decide⟩

/-- A stream is cut inside a frame, or between two. -/
theorem exists_frame {bytes : List UInt8} (all_framed : ∀ frame ∈ frames, Framed frame)
    (inside : bytes <+: frames.flatten) :
    ∃ whole rest part frame, frames = whole ++ rest ∧ bytes = whole.flatten ++ part ∧
      Framed frame ∧ part <+: frame ∧ part.length < frame.length ∧
      (part = [] ∨ ∃ frames, rest = frame :: frames) := by
  induction frames generalizing bytes with
  | nil =>
    obtain rfl := prefix_nil.mp inside
    exact ⟨[], [], [], _, rfl, rfl, framed_empty, nil_prefix, by decide, .inl rfl⟩
  | cons first frames ih =>
    rw [forall_mem_cons] at all_framed
    rcases Lists.prefix_append_cases inside with ⟨part, short⟩ | ⟨more, rfl, behind⟩
    · exact ⟨[], first :: frames, bytes, first, rfl, rfl, all_framed.1, part, short,
        .inr ⟨frames, rfl⟩⟩
    · obtain ⟨whole, rest, part, frame, rfl, rfl, framed⟩ := ih all_framed.2 behind
      refine ⟨first :: whole, rest, part, frame, rfl, ?_, framed⟩
      rw [flatten_cons, append_assoc]

/-- Whole frames do not matter. -/
theorem cleanCut_append (whole rest : List (List UInt8)) (count : Nat) :
    CleanCut (whole ++ rest) (whole.flatten.length + count) ↔ CleanCut rest count := by
  constructor
  · rintro ⟨front, inside, low, high⟩
    rcases prefix_or_prefix_of_prefix inside (prefix_append whole rest) with
      ⟨more, rfl⟩ | ⟨more, rfl⟩
    · rw [flatten_append, length_append] at high
      exact ⟨[], nil_prefix, Nat.zero_le _, by simp; omega⟩
    · rw [flatten_append, length_append] at low high
      exact ⟨more, (prefix_append_right_inj whole).mp inside, by omega, by omega⟩
  · rintro ⟨front, inside, low, high⟩
    refine ⟨whole ++ front, (prefix_append_right_inj whole).mpr inside, ?_, ?_⟩
    · rw [flatten_append, length_append]
      omega
    · rw [flatten_append, length_append]
      omega

/-- Inside a frame only its first four bytes are a clean place. -/
theorem cleanCut_cons (frames : List (List UInt8)) {count : Nat} (inside : count < frame.length) :
    CleanCut (frame :: frames) count ↔ count < 4 := by
  constructor
  · rintro ⟨front, begins, low, high⟩
    cases front with
    | nil => simpa using high
    | cons first front =>
      obtain ⟨rfl, -⟩ := cons_prefix_cons.mp begins
      rw [flatten_cons, length_append] at low
      omega
  · intro few
    exact ⟨[], nil_prefix, Nat.zero_le _, by simpa using few⟩

/-- Whole frames of a chunk are handed up, and a part of the next is kept. -/
theorem next_cut {cut behind : List UInt8} (padlen : UInt32) (holds : Holds held 0 sock.priv)
    (short : held.length < 4) (all_framed : ∀ frame ∈ frames, Framed frame)
    (stream : held ++ (cut ++ behind) = frames.flatten) (enough : frames.length < fuel) :
    ∃ whole rest part frame, frames = whole ++ rest ∧ part ++ behind = rest.flatten ∧
      held.length + cut.length = whole.flatten.length + part.length ∧ Framed frame ∧
      part.length < frame.length ∧ (part = [] ∨ ∃ frames, rest = frame :: frames) ∧
      KeepsPart sock whole part (awaited frame part) (next host source 4 fuel sock padlen cut) := by
  rw [← append_assoc] at stream
  obtain ⟨whole, rest, part, frame, rfl, bytes, framed, inside, proper, next_frame⟩ :=
    exists_frame all_framed (stream ▸ prefix_append _ _)
  refine ⟨whole, rest, part, frame, rfl, ?_, ?_, framed, proper, next_frame, ?_⟩
  · rw [bytes, append_assoc, flatten_append] at stream
    exact append_cancel_left stream
  · rw [← length_append, bytes, length_append]
  · rw [length_append] at enough
    exact next_frames host source padlen holds short
      (fun frame member => all_framed frame (mem_append_left _ member)) framed inside proper
      bytes (by omega)

/-- A run in which every chunk ends at a clean place. -/
theorem receive_clean (calls : List Call) (holds : Holds held 0 sock.priv) (short : held.length < 4)
    (all_framed : ∀ frame ∈ frames, Framed frame)
    (stream : held ++ (calls.map Call.buf).flatten = frames.flatten)
    (clean : ∀ before, before <+: calls.map Call.buf →
      CleanCut frames (held.length + before.flatten.length)) (enough : frames.length < fuel) :
    ∃ later, receive host source fuel sock calls = .ok later ∧
      packets later.log = packets sock.log ++ frames := by
  induction calls generalizing sock held frames with
  | nil =>
    refine ⟨sock, rfl, ?_⟩
    cases frames with
    | nil => rw [append_nil]
    | cons first frames =>
      have four := (all_framed first mem_cons_self).four_le
      have length := congrArg List.length stream
      simp only [map_nil, flatten_nil, append_nil, flatten_cons,
        length_append] at length
      omega
  | cons call calls ih =>
    obtain ⟨whole, rest, part, frame, rfl, left, length, -, proper, next_frame, later, step,
      holds_part, told⟩ := next_cut host source call.padlen holds short all_framed stream enough
    have few : part.length < 4 := by
      rcases next_frame with rfl | ⟨frames, rfl⟩
      · exact Nat.zero_lt_succ _
      · have here := clean [call.buf] (by simp)
        rw [flatten_singleton, length, cleanCut_append] at here
        exact (cleanCut_cons frames proper).mp here
    rw [awaited, if_pos few] at holds_part
    have clean_left : ∀ before, before <+: calls.map Call.buf →
        CleanCut rest (part.length + before.flatten.length) := by
      intro before begins
      have here := clean (call.buf :: before) (cons_prefix_cons.mpr ⟨rfl, begins⟩)
      rw [flatten_cons, length_append, ← Nat.add_assoc, length, Nat.add_assoc,
        cleanCut_append] at here
      exact here
    rw [length_append] at enough
    obtain ⟨last, run, told_later⟩ := ih holds_part few
      (fun frame member => all_framed frame (mem_append_right _ member)) left clean_left
      (by omega)
    refine ⟨last, ?_, ?_⟩
    · rw [receive_cons host source fuel (.inl ⟨holds.mode, rfl⟩), step]
      exact run
    · rw [told_later, told, append_assoc]

/-! ### What is given to the upper layer is not taken back -/

/-- What every call keeps. -/
structure Extends (sock later : Wrapper TurnTcpPriv) : Prop where
  mode : later.priv.compatibility = sock.priv.compatibility
  told : packets sock.log <+: packets later.log

/-- One after the other. -/
theorem Extends.trans {first second third : Wrapper TurnTcpPriv} (one : Extends first second)
    (two : Extends second third) : Extends first third :=
  ⟨two.mode.trans one.mode, one.told.trans two.told⟩

/-- Nothing happened. -/
theorem Extends.refl (sock : Wrapper TurnTcpPriv) : Extends sock sock := ⟨rfl, prefix_rfl⟩

/-- Bytes that are put into the buffer fit. -/
theorem of_append_bind {α : Type} {priv : TurnTcpPriv} {bytes : List UInt8}
    {rest : TurnTcpPriv → Except Stop α} {result : α}
    (run : (TcpTurn.append priv bytes >>= rest) = .ok result) :
    ∃ more : TurnTcpPriv, more.compatibility = priv.compatibility ∧ rest more = .ok result := by
  rw [TcpTurn.append] at run
  split at run
  · exact ⟨_, by rfl, run⟩
  · cases run

/-- The callback adds to the log. -/
theorem extends_callback (sock : Wrapper TurnTcpPriv) (buf : List UInt8) :
    Extends sock (sock.callback host (socketSend host) .readable buf source).1 := by
  obtain ⟨priv, told⟩ := callback_keeps host sock buf source
  refine ⟨congrArg TurnTcpPriv.compatibility priv, ?_⟩
  rw [told]
  exact prefix_append _ _

section Extends

variable {later : Wrapper TurnTcpPriv} {headerlen fuel : Nat}

/-- So does collecting. -/
theorem extends_collect {again : Wrapper TurnTcpPriv → UInt32 → List UInt8 →
      Except Stop (Wrapper TurnTcpPriv)}
    (keeps : ∀ sock padlen buf later, again sock padlen buf = .ok later → Extends sock later)
    {expecting padlen : UInt32}
    (run : collect host source again sock expecting padlen buf = .ok later) :
    Extends sock later := by
  obtain ⟨priv, mode, run⟩ := of_append_bind run
  split at run
  · have called := extends_callback host source ⟨priv, sock.log⟩
      (priv.recvBuf.read (expecting + padlen).toNat)
    have rest := keeps _ _ _ _ run
    exact ⟨rest.mode.trans (called.mode.trans mode), called.told.trans rest.told⟩
  · cases run
    exact ⟨mode, prefix_rfl⟩

/-- So does the loop. -/
theorem extends_next {padlen : UInt32}
    (run : next host source headerlen fuel sock padlen buf = .ok later) : Extends sock later := by
  induction fuel generalizing sock padlen buf later with
  | zero => cases run
  | succ fuel ih =>
    rw [next] at run
    split at run
    · cases run
      exact Extends.refl sock
    split at run
    · split at run
      · obtain ⟨priv, mode, run⟩ := of_append_bind run
        cases run
        exact ⟨mode, prefix_rfl⟩
      · simp only at run
        split at run
        · have called := extends_callback host source { sock with priv.expectingLen :=
            (header sock.priv.compatibility (Mem.ofList buf)).1 } (buf.take
              ((header sock.priv.compatibility (Mem.ofList buf)).1 +
                (header sock.priv.compatibility (Mem.ofList buf)).2).toNat)
          have rest := ih run
          exact ⟨rest.mode.trans called.mode, called.told.trans rest.told⟩
        · obtain ⟨priv, mode, run⟩ := of_append_bind run
          cases run
          exact ⟨mode, prefix_rfl⟩
    · split at run
      · split at run
        · obtain ⟨priv, mode, run⟩ := of_append_bind run
          cases run
          exact ⟨mode, prefix_rfl⟩
        · obtain ⟨priv, mode, run⟩ := of_append_bind run
          have rest := extends_collect host source (fun _ _ _ _ => ih) run
          exact ⟨rest.mode.trans mode, rest.told⟩
      · exact extends_collect host source (fun _ _ _ _ => ih) run

/-- So does every chunk. -/
theorem extends_receive {calls : List Call} (mode : HeaderLen sock.priv.compatibility headerlen)
    (run : receive host source fuel sock calls = .ok later) : Extends sock later := by
  induction calls generalizing sock with
  | nil =>
    obtain rfl : sock = later := Except.ok.inj run
    exact Extends.refl sock
  | cons call calls ih =>
    rw [receive_cons host source fuel mode] at run
    cases step : next host source headerlen fuel sock call.padlen call.buf with
    | error stop =>
      rw [step] at run
      cases run
    | ok middle =>
      rw [step] at run
      have first := extends_next host source step
      exact first.trans (ih (by rw [first.mode]; exact mode) run)

/-- After a cut behind a header inside a frame: with some content of the stack, an empty packet goes
up, if the run ends at all. -/
theorem receive_after_unclean (mode : HeaderLen sock.priv.compatibility headerlen)
    (waiting : sock.priv.expectingLen ≠ 0) (filled : buf ≠ []) {calls : List Call}
    (run : receive host source fuel sock (⟨buf, 0 - sock.priv.expectingLen⟩ :: calls) =
      .ok later) : [] ∈ packets later.log := by
  rw [receive_cons host source fuel mode] at run
  cases fuel with
  | zero => cases run
  | succ fuel =>
    rw [next, if_neg (mt length_eq_zero_iff.mp filled), if_neg (fun both => waiting both.1),
      if_neg waiting] at run
    cases step : collect host source (next host source headerlen fuel) sock sock.priv.expectingLen
        (0 - sock.priv.expectingLen) buf with
    | error stop =>
      rw [step] at run
      cases run
    | ok middle =>
      rw [step] at run
      obtain ⟨priv, same, step⟩ := of_append_bind step
      have zero : 0 - sock.priv.expectingLen + sock.priv.expectingLen = 0 := by grind
      have zero' : sock.priv.expectingLen + (0 - sock.priv.expectingLen) = 0 := by grind
      rw [if_pos (by rw [zero]; exact UInt32.zero_le)] at step
      simp only [zero'] at step
      have called := callback_keeps host ⟨priv, sock.log⟩ (priv.recvBuf.read (0 : UInt32).toNat)
        source
      have rest := extends_next host source step
      have kept : HeaderLen middle.priv.compatibility headerlen := by
        rw [rest.mode]
        simp only [called.1, same]
        exact mode
      apply (rest.told.trans (extends_receive host source kept run).told).subset
      simp only [called.2]
      exact mem_append_right _ mem_cons_self

end Extends

/-- A run in which some chunk ends at an unclean place. -/
theorem receive_unclean {fuel : Nat} (cuts : List (List UInt8)) (holds : Holds held 0 sock.priv)
    (short : held.length < 4) (all_framed : ∀ frame ∈ frames, Framed frame)
    (filled : ∀ cut ∈ cuts, cut ≠ []) (stream : held ++ cuts.flatten = frames.flatten)
    {before : List (List UInt8)} (begins : before <+: cuts)
    (unclean : ¬CleanCut frames (held.length + before.flatten.length))
    (enough : frames.length < fuel) :
    ∃ calls : List Call, calls.map Call.buf = cuts ∧
      ∀ later, receive host source fuel sock calls = .ok later → [] ∈ packets later.log := by
  have first_clean : CleanCut frames held.length :=
    ⟨[], nil_prefix, Nat.zero_le _, by simpa using short⟩
  induction cuts generalizing sock held frames before with
  | nil =>
    obtain rfl := prefix_nil.mp begins
    exact absurd first_clean unclean
  | cons cut cuts ih =>
    rw [forall_mem_cons] at filled
    obtain ⟨whole, rest, part, frame, rfl, left, length, framed, proper, next_frame, later, step,
      holds_part, told⟩ := next_cut host source 0 holds short all_framed stream enough
    by_cases few : part.length < 4
    · -- This chunk ends at a clean place, so the unclean one comes later.
      rw [awaited, if_pos few] at holds_part
      cases before with
      | nil => exact absurd first_clean unclean
      | cons first before =>
        obtain ⟨rfl, later_begins⟩ := cons_prefix_cons.mp begins
        rw [flatten_cons, length_append, ← Nat.add_assoc, length, Nat.add_assoc,
          cleanCut_append] at unclean
        rw [length_append] at enough
        obtain ⟨calls, bufs, run⟩ := ih holds_part few
          (fun frame member => all_framed frame (mem_append_right _ member)) filled.2 left
          later_begins unclean (by omega)
          ⟨[], nil_prefix, Nat.zero_le _, by simpa using few⟩
        refine ⟨⟨first, 0⟩ :: calls, by rw [map_cons, bufs], ?_⟩
        intro last received
        rw [receive_cons host source fuel (.inl ⟨holds.mode, rfl⟩), step] at received
        exact run last received
    · have behind : part.length < rest.flatten.length := by
        rcases next_frame with rfl | ⟨frames, rfl⟩
        · exact absurd (Nat.zero_lt_succ _) few
        · rw [flatten_cons, length_append]
          omega
      cases cuts with
      | nil =>
        rw [← left] at behind
        simp at behind
      | cons second cuts =>
        rw [awaited, if_neg few] at holds_part
        have waiting : later.priv.expectingLen ≠ 0 := by
          rw [holds_part.expecting, Ne, eq_zero32,
            toNat_size ((Nat.sub_le _ _).trans framed.fits)]
          omega
        refine ⟨⟨cut, 0⟩ :: ⟨second, 0 - later.priv.expectingLen⟩ ::
          cuts.map fun cut => ⟨cut, 0⟩, by simp [Function.comp_def], ?_⟩
        intro last received
        rw [receive_cons host source fuel (.inl ⟨holds.mode, rfl⟩), step] at received
        exact receive_after_unclean host source (.inl ⟨holds_part.mode, rfl⟩) waiting
          (forall_mem_cons.mp filled.2).1 received

/-- The stream of any frames is cut into exactly these frames, whatever the stack holds and inside
`recv_buf`, exactly when no chunk ends inside a frame behind its header. -/
theorem deframes_iff (frames cuts : List (List UInt8)) (all_framed : ∀ frame ∈ frames, Framed frame)
    (filled : ∀ cut ∈ cuts, cut ≠ []) (stream : cuts.flatten = frames.flatten) (fuel : Nat)
    (enough : frames.length < fuel) :
    (∀ calls : List Call, calls.map Call.buf = cuts →
        ∃ sock, receive host source fuel (tcpTurnSocketNew .rfc5766) calls = .ok sock ∧
          packets sock.log = frames) ↔
      ∀ before, before <+: cuts → CleanCut frames before.flatten.length := by
  have holds : Holds [] 0 (tcpTurnSocketNew .rfc5766).priv := ⟨rfl, rfl, rfl, Nat.zero_le _, rfl⟩
  have short : ([] : List UInt8).length < 4 := by decide
  constructor
  · intro exactly before begins
    by_contra unclean
    rw [← Nat.zero_add before.flatten.length] at unclean
    obtain ⟨calls, bufs, broken⟩ := receive_unclean host source cuts holds short all_framed filled
      stream begins unclean enough
    obtain ⟨sock, run, told⟩ := exactly calls bufs
    have member := broken sock run
    rw [told] at member
    exact absurd (all_framed [] member).four_le (by decide)
  · rintro clean calls rfl
    obtain ⟨later, run, told⟩ := receive_clean host source calls holds short all_framed stream
      (fun before begins => by rw [length_nil, Nat.zero_add]; exact clean before begins) enough
    exact ⟨later, run, told⟩

/-- A ChannelData frame of one byte of data and its padding. -/
def oneByte : List UInt8 := [0x40, 0x00, 0x00, 0x01, 0x07, 0x00, 0x00, 0x00]

/-- One frame in two chunks, cut inside its header. -/
theorem deframes_cut_header :
    ∃ sock, receive .content none 2 (tcpTurnSocketNew .rfc5766)
        [⟨[0x40], 5⟩, ⟨[0x00, 0x00, 0x01, 0x07, 0x00, 0x00, 0x00], 9⟩] = .ok sock ∧
      packets sock.log = [oneByte] := by
  have framed : ∀ frame ∈ [oneByte], Framed frame := by
    intro frame member
    rw [mem_singleton.mp member]
    exact ⟨by decide, by decide⟩
  apply (deframes_iff .content none [oneByte]
    [[0x40], [0x00, 0x00, 0x01, 0x07, 0x00, 0x00, 0x00]] framed (by decide) (by decide) 2
    (by decide)).mpr
  · intro before begins
    rcases prefix_cons_iff.mp begins with rfl | ⟨middle, rfl, inside⟩
    · exact ⟨[], nil_prefix, by decide, by decide⟩
    rcases prefix_cons_iff.mp inside with rfl | ⟨last, rfl, behind⟩
    · exact ⟨[], nil_prefix, by decide, by decide⟩
    · obtain rfl := prefix_nil.mp behind
      exact ⟨[oneByte], prefix_rfl, by decide, by decide⟩
  · rfl

/-- A frame is cut behind its header: the upper layer gets three bytes of the header. -/
theorem mangled_cut_data :
    (receive .content none 9 (tcpTurnSocketNew .rfc5766)
        [⟨[0x40, 0x00, 0x00, 0x01, 0x07], 0⟩, ⟨[0x00, 0x00, 0x00], 0⟩]).map
      (fun sock => packets sock.log) = .ok [[0x40, 0x00, 0x00]] := by
  decide +kernel

end Xice.Socket.TcpTurn
