import Xice.Socket.HttpResponse

/-!
# The HTTP proxy socket behind a response

The proxy sends a well-formed response and then the bytes of the application, in any chunks, while
the upper layer sends. What the parser has done depends only on the bytes read so far, as long as
the line it waits for and the chunk that comes fit in `recv_len`. Otherwise the socket is stuck.
-/

namespace Xice.Socket.Http

open Xice.Ice (XiceAddress)
open Xice.Lib List
open Entry (Passed Suits)

namespace Response

/-- The lines of the response up to its body. -/
def headLines (response : Response) : List (List UInt8) :=
  response.status :: (response.headers.map fun header => header.line ++ crlf) ++ [crlf]

/-- The bytes of the incomplete line after `count` bytes of some lines. -/
def unfinished : List (List UInt8) → (count : Nat) → Nat
  | [], _ => 0
  | line :: lines, count =>
    if count < line.length then count else unfinished lines (count - line.length)

/-- The incomplete line and the chunk are less than `2 ^ 31` bytes. -/
def Fit (response : Response) (fed buf : List UInt8) : Prop :=
  unfinished response.headLines fed.length + buf.length < 2 ^ 31

instance (response : Response) (fed buf : List UInt8) : Decidable (response.Fit fed buf) :=
  inferInstanceAs (Decidable (_ < _))

/-- Where the parser is: its state, the bytes it keeps, and `content_length`. -/
inductive Phase (response : Response) : List UInt8 → HttpState → List UInt8 → Int → Prop where
  | init {fed : List UInt8} (contentLength : Int) (short : fed.length < response.status.length) :
      Phase response fed .init fed contentLength
  /-- From an incomplete line anything may have been read. -/
  | headers {done todo : List Header} {rest : List UInt8} {contentLength : Int}
      (split : response.headers = done ++ todo)
      (counted : contentLength = stated done ∨ ∃ header ∈ todo, header.length.isSome = true)
      (short : rest.length < (todo.head?.elim [] Header.line).length + 2) :
      Phase response (response.status ++ lines done ++ rest) .headers rest contentLength
  | body {fed : List UInt8} {gone : Nat} (inside : gone < response.body.length)
      (all : fed.length = response.head.length + gone) :
      Phase response fed .body [] (response.body.length - gone : Nat)

/-- The parser waits for more of the response, or has come to its end. -/
inductive Leads (response : Response) (queue : List ToBeSent) :
    List UInt8 → Option (Parsed × HttpPriv) → Prop where
  | wait {fed recvBuf : List UInt8} {state : HttpState} {contentLength : Int}
      {heap : Nat → List UInt8} {scans : Nat} (short : fed.length < response.bytes.length)
      (phase : response.Phase fed state recvBuf contentLength) (small : recvBuf.length < 2 ^ 31) :
      Leads response queue fed
        (some (.notEnoughData, ⟨state, true, queue, recvBuf, contentLength, heap, scans⟩))
  | done {early : List UInt8} {heap : Nat → List UInt8} {scans : Nat} :
      Leads response queue (response.bytes ++ early)
        (some (.connected, ⟨.connected, true, queue, early, 0, heap, scans⟩))

section Phases

variable {response : Response} (queue : List ToBeSent) (heap : Nat → List UInt8) (scans fuel : Nat)
variable {app fed : List UInt8}

variable {done todo : List Header} {contentLength : Int}

/-- The first line of some headers. -/
theorem lines_cons (header : Header) (todo : List Header) :
    lines (header :: todo) = header.line ++ crlf ++ lines todo := flatMap_cons

/-- The last line of some headers. -/
theorem lines_concat (done : List Header) (header : Header) :
    lines (done ++ [header]) = lines done ++ (header.line ++ crlf) := by
  rw [lines, flatMap_append, lines, flatMap_singleton]

/-- The response in front of and behind the headers that are read. -/
theorem bytes_split (split : response.headers = done ++ todo) :
    response.bytes = response.status ++ lines done ++ (lines todo ++ (crlf ++ response.body)) := by
  rw [bytes, head, split, lines, flatMap_append]
  simp only [append_assoc, lines]

/-- The lines are the response up to its body. -/
theorem flatten_headLines (response : Response) : response.headLines.flatten = response.head := by
  simp [headLines, head, lines, flatMap]

/-- Behind its lines nothing is unfinished. -/
theorem unfinished_behind {lines : List (List UInt8)} {count : Nat}
    (behind : lines.flatten.length ≤ count) : unfinished lines count = 0 := by
  induction lines generalizing count with
  | nil => rfl
  | cons line lines ih =>
    rw [flatten_cons, length_append] at behind
    rw [unfinished, if_neg (by omega), ih (by omega)]

/-- Behind whole lines the bytes of the next one are unfinished. -/
theorem unfinished_next {before lines : List (List UInt8)} {line : List UInt8} {count : Nat}
    (short : count < line.length) :
    unfinished (before ++ line :: lines) (before.flatten.length + count) = count := by
  induction before with
  | nil =>
    change unfinished (line :: lines) (0 + count) = count
    rw [Nat.zero_add, unfinished, if_pos short]
  | cons first before ih =>
    rw [cons_append, unfinished, flatten_cons, length_append, if_neg (by omega),
      show first.length + before.flatten.length + count - first.length =
        before.flatten.length + count by omega, ih]

/-- What is kept is the part of a line. -/
theorem Phase.kept {state : HttpState} {recvBuf : List UInt8}
    (phase : response.Phase fed state recvBuf contentLength) :
    recvBuf.length = unfinished response.headLines fed.length := by
  cases phase with
  | init _ short =>
    change _ = unfinished (response.status :: _) _
    rw [unfinished, if_pos short]
  | body inside all =>
    rw [unfinished_behind, length_nil]
    rw [flatten_headLines]
    omega
  | @headers done todo _ _ split counted short =>
    have front : (response.status ++ lines done).length =
        (response.status :: done.map fun header => header.line ++ crlf).flatten.length := by
      rw [flatten_cons, length_append, length_append, lines, flatMap]
    rw [length_append, front, headLines, split]
    cases todo with
    | nil =>
      rw [append_nil]
      exact (unfinished_next short).symm
    | cons header todo =>
      have line : recvBuf.length < (header.line ++ crlf).length := by
        rw [length_append]
        exact short
      rw [map_append, map_cons, ← cons_append, append_assoc]
      exact (@unfinished_next (response.status :: done.map fun header => header.line ++ crlf) _ _ _
        line).symm

/-- The body is used up. -/
theorem leads_spent (early : List UInt8) :
    response.Leads queue (response.bytes ++ early)
      (parse (fuel + 2) ⟨.body, true, queue, early, 0, heap, scans⟩) :=
  Leads.done

/-- The bytes are used up, and not the body. -/
theorem leads_drained {gone : Nat} (inside : gone < response.body.length)
    (all : fed.length = response.head.length + gone) :
    response.Leads queue fed
      (parse (fuel + 1)
        ⟨.body, true, queue, [], (response.body.length - gone : Nat), heap, scans⟩) := by
  have left : ¬((response.body.length - gone : Nat) : Int) = 0 := by omega
  have waits : parse (fuel + 1)
        ⟨.body, true, queue, [], (response.body.length - gone : Nat), heap, scans⟩ =
      some (.notEnoughData,
        ⟨.body, true, queue, [], (response.body.length - gone : Nat), heap, scans⟩) := by
    simp only [parse, if_neg left]
    exact if_pos Int.zero_bmod
  rw [waits]
  apply Leads.wait
  · rw [all, bytes, length_append]
    omega
  · exact Phase.body inside all
  · exact Nat.two_pow_pos 31

/-- One turn of the loop uses up what is there of the body. -/
theorem parse_body {buf : List UInt8} {left : Nat} (positive : 0 < left) (filled : buf ≠ [])
    (small : buf.length < 2 ^ 31) :
    parse (fuel + 1) ⟨.body, true, queue, buf, left, heap, scans⟩ =
      parse fuel ⟨.body, true, queue, buf.drop left, (left - buf.length : Nat), heap, scans⟩ := by
  have counted := HttpPriv.recvLen_of_small
    (show (⟨.body, true, queue, buf, left, heap, scans⟩ : HttpPriv).recvBuf.length < 2 ^ 31 from small)
  have some_bytes : 0 < buf.length := length_pos_iff.mpr filled
  have dropped : buf.drop (min (left : Int) buf.length).toNat = buf.drop left := by
    by_cases less : left ≤ buf.length
    · rw [min_eq_left (by omega), Int.toNat_natCast]
    · rw [min_eq_right (by omega), Int.toNat_natCast, drop_length, drop_of_length_le (by omega)]
  have rest : (left : Int) - min (left : Int) buf.length = (left - buf.length : Nat) := by omega
  simp only [parse, counted]
  rw [if_neg (by omega), if_neg (by omega), if_pos (by omega), dropped, rest]

/-- The parser in the body. -/
theorem leads_body (part : fed <+: response.bytes ++ app) {gone : Nat}
    (inside : gone ≤ response.body.length) (enough : response.head.length + gone ≤ fed.length)
    (small : (fed.drop (response.head.length + gone)).length < 2 ^ 31) :
    response.Leads queue fed
      (parse (fuel + 3) ⟨.body, true, queue, fed.drop (response.head.length + gone),
        (response.body.length - gone : Nat), heap, scans⟩) := by
  have total : response.bytes.length = response.head.length + response.body.length := by
    rw [bytes, length_append]
  have arrived : response.bytes.length ≤ fed.length →
      ∃ early, fed = response.bytes ++ early := by
    intro whole
    obtain ⟨early, same⟩ := prefix_of_prefix_length_le (prefix_append _ _) part whole
    exact ⟨early, same.symm⟩
  by_cases spent : gone = response.body.length
  · obtain ⟨early, rfl⟩ := arrived (by omega)
    rw [drop_left' (by omega), spent, Nat.sub_self]
    exact leads_spent queue heap scans (fuel + 1) early
  by_cases nothing : fed.drop (response.head.length + gone) = []
  · have all := drop_eq_nil_iff.mp nothing
    rw [nothing]
    exact leads_drained queue heap scans (fuel + 2) (by omega) (by omega)
  rw [parse_body queue heap scans (fuel + 2) (by omega) nothing small, drop_drop, length_drop]
  by_cases whole : response.bytes.length ≤ fed.length
  · obtain ⟨early, rfl⟩ := arrived whole
    rw [drop_left' (by omega), show response.body.length - gone - ((response.bytes ++ early).length -
      (response.head.length + gone)) = 0 by omega]
    exact leads_spent queue heap scans fuel early
  · rw [drop_of_length_le (by omega), show response.body.length - gone - (fed.length -
      (response.head.length + gone)) = response.body.length - (fed.length - response.head.length) by
        omega]
    exact leads_drained queue heap scans (fuel + 1) (by omega) (by omega)

/-- The length that is known behind one more header. -/
theorem counted_next {header : Header} (split : response.headers = done ++ header :: todo)
    (counted : contentLength = stated done ∨
      ∃ other ∈ header :: todo, other.length.isSome = true) (more : List UInt8) :
    (if 15 < (header.line ++ (crlf ++ more)).length ∧
          namesContentLength (header.line ++ (crlf ++ more)) = true then
        Decimal.atoi (chars ((header.line ++ (crlf ++ more)).drop 15 ++ heap scans))
      else contentLength) = stated (done ++ [header]) ∨
    ∃ other ∈ todo, other.length.isSome = true := by
  -- A length that does not fit in an `int` is not the last one.
  by_cases later : ∃ other ∈ todo, other.length.isSome = true
  · exact .inr later
  left
  rw [stated_concat]
  cases length : header.length with
  | none =>
    rw [if_neg (not_names (Header.other length) prefix_rfl)]
    rcases counted with known | ⟨other, member, present⟩
    · exact known
    · rcases mem_cons.mp member with rfl | behind
      · rw [length] at present
        cases present
      · exact absurd ⟨other, behind, present⟩ later
  | some number =>
    obtain ⟨names, read⟩ := atoi_states (Header.stated length) more
    have last : response.body.length = number := by
      have none_left : ∀ other ∈ todo, other.length = none := by
        intro other member
        by_contra present
        exact later ⟨other, member, Option.isSome_iff_ne_none.mpr present⟩
      rw [response.body_length, split, append_cons]
      refine (stated_append none_left).trans ?_
      rw [stated_concat, length]
      rfl
    rw [if_pos names, read (last ▸ response.body_small)]
    rfl

/-- The parser in the headers. -/
theorem leads_headers {rest : List UInt8} (split : response.headers = done ++ todo)
    (counted : contentLength = stated done ∨ ∃ header ∈ todo, header.length.isSome = true)
    (behind : rest <+: lines todo ++ (crlf ++ (response.body ++ app)))
    (fuelled : rest.length + 4 ≤ fuel) (small : rest.length < 2 ^ 31) :
    response.Leads queue (response.status ++ lines done ++ rest)
      (parse fuel ⟨.headers, true, queue, rest, contentLength, heap, scans⟩) := by
  induction todo generalizing fuel done contentLength scans rest with
  | nil =>
    obtain ⟨fuel, rfl⟩ : ∃ less, fuel = less + 1 := ⟨fuel - 1, by omega⟩
    have blank : Inline [] := forall_mem_nil _
    change rest <+: crlf ++ (response.body ++ app) at behind
    rcases Lists.prefix_append_cases behind with ⟨inside, short⟩ | ⟨more, rfl, later⟩
    · change rest.length < 2 at short
      obtain ⟨scanned, waits, same⟩ := parse_line_part fuel queue contentLength heap scans blank
        inside short small
      have other : ¬(15 < rest.length ∧ namesContentLength rest = true) := by
        rintro ⟨long, -⟩
        omega
      rw [waits, same other]
      apply Leads.wait
      · rw [bytes_split split]
        simp only [length_append, crlf, length_cons, length_nil]
        omega
      · exact Phase.headers split counted short
      · exact small
    · have goes := parse_line fuel queue contentLength heap scans blank more small
      have known : contentLength = stated done := by
        rcases counted with known | ⟨header, member, -⟩
        · exact known
        · cases member
      rw [nil_append, if_pos rfl, if_neg (not_names_blank more), known] at goes
      rw [append_nil] at split
      have stated_all : (stated done : Int) = (response.body.length - 0 : Nat) := by
        rw [Nat.sub_zero, response.body_length, split]
        rfl
      have head_eq : response.status ++ lines done ++ (crlf ++ more) = response.head ++ more := by
        rw [head, split]
        simp only [append_assoc]
      have part : response.head ++ more <+: response.bytes ++ app := by
        rw [bytes, append_assoc]
        exact (prefix_append_right_inj _).mpr later
      have kept : (response.head ++ more).drop (response.head.length + 0) = more := drop_left
      rw [length_append] at fuelled small
      obtain ⟨less, rfl⟩ : ∃ less, fuel = less + 3 := ⟨fuel - 3, by omega⟩
      have body := leads_body queue heap (scans + 1) less part (Nat.zero_le _) (by simp)
        (by rw [kept]; omega)
      rw [kept] at body
      rw [known, goes, stated_all, head_eq]
      exact body
  | cons header todo ih =>
    obtain ⟨fuel, rfl⟩ : ∃ less, fuel = less + 1 := ⟨fuel - 1, by omega⟩
    have next : lines (header :: todo) ++ (crlf ++ (response.body ++ app)) =
        (header.line ++ crlf) ++ (lines todo ++ (crlf ++ (response.body ++ app))) := by
      rw [lines_cons, append_assoc]
    rw [next] at behind
    rcases Lists.prefix_append_cases behind with ⟨inside, short⟩ | ⟨more, rfl, later⟩
    · rw [length_append] at short
      obtain ⟨scanned, waits, same⟩ := parse_line_part fuel queue contentLength heap scans
        header.clean inside short small
      rw [waits]
      apply Leads.wait
      · rw [bytes_split split, lines_cons]
        simp only [length_append]
        omega
      · refine Phase.headers split ?_ short
        cases length : header.length with
        | none =>
          rw [append_assoc] at behind
          rw [same (not_names (Header.other length) behind)]
          exact counted
        | some number => exact .inr ⟨header, mem_cons_self, by rw [length]; rfl⟩
      · exact small
    · have moved : response.status ++ lines done ++ (header.line ++ crlf ++ more) =
          response.status ++ lines (done ++ [header]) ++ more := by
        rw [lines_concat]
        simp only [append_assoc]
      rw [moved]
      rw [append_assoc header.line] at small ⊢
      rw [parse_line fuel queue contentLength heap scans header.clean more small,
        if_neg header.filled]
      simp only [length_append, crlf, length_cons, length_nil] at fuelled small
      apply ih (scans + 1) fuel _ (counted_next heap scans split counted more) later
      · omega
      · omega
      · rw [split, append_assoc]
        rfl

/-- There are no lines without headers. -/
theorem lines_nil : lines [] = [] := rfl

/-- The parser in the status line. -/
theorem leads_init (part : fed <+: response.bytes ++ app) (fuelled : fed.length + 4 ≤ fuel)
    (small : fed.length < 2 ^ 31) :
    response.Leads queue fed
      (parse fuel ⟨.init, true, queue, fed, contentLength, heap, scans⟩) := by
  obtain ⟨fuel, rfl⟩ : ∃ less, fuel = less + 1 := ⟨fuel - 1, by omega⟩
  have split : response.headers = [] ++ response.headers := rfl
  have whole := bytes_split split
  have counted := HttpPriv.recvLen_nonneg
    ⟨.init, true, queue, fed, contentLength, heap, scans⟩ small
  rw [lines_nil, append_nil] at whole
  rw [whole, append_assoc] at part
  rcases Lists.prefix_append_cases part with ⟨inside, short⟩ | ⟨rest, rfl, later⟩
  · simp only [parse, if_neg counted, statusLine_part response inside short]
    apply Leads.wait
    · rw [whole, length_append]
      omega
    · exact Phase.init contentLength short
    · exact small
  · simp only [parse, if_neg counted, statusLine_whole response rest, drop_left]
    have first : 1 ≤ response.status.length := by
      rw [response.status_eq, length_append, response.length_front]
      omega
    rw [append_assoc, append_assoc] at later
    rw [length_append] at fuelled small
    have headers := leads_headers queue heap scans fuel split
      (.inl (show (0 : Int) = stated [] from rfl)) later (by omega) (by omega)
    rwa [lines_nil, append_nil] at headers

/-- A phase leads on with more bytes. -/
theorem Phase.leads {state : HttpState} {recvBuf buf : List UInt8}
    (phase : response.Phase fed state recvBuf contentLength)
    (part : fed ++ buf <+: response.bytes ++ app) (small : (recvBuf ++ buf).length < 2 ^ 31) :
    response.Leads queue (fed ++ buf) (HttpPriv.parsed
      ⟨state, true, queue, recvBuf ++ buf, contentLength, heap, scans⟩) := by
  cases phase with
  | init _ short => exact leads_init queue heap scans _ part (Nat.le_succ _) small
  | @headers done todo rest _ split counted short =>
    rw [bytes_split split, append_assoc _ recvBuf, append_assoc (_ ++ _) _ app,
      prefix_append_right_inj] at part
    rw [append_assoc (lines todo), append_assoc crlf] at part
    rw [append_assoc]
    exact leads_headers queue heap scans _ split counted part (Nat.le_succ _) small
  | @body _ gone inside all =>
    have kept : (fed ++ buf).drop (response.head.length + gone) = buf := drop_left' all
    have body := leads_body queue heap scans (buf.length + 2) part inside.le
      (by rw [length_append]; omega) (by rwa [kept])
    rwa [kept] at body

end Phases

/-- With a connection the socket passes on what it gets. -/
theorem relays_connected (host : Host) (source : Option XiceAddress) {priv : HttpPriv}
    (connected : priv.state = .connected) (based : priv.baseSocket = true) :
    (entry host source).Relays host source priv := by
  constructor
  · intro log message
    simp [entry, socketSend, Wrapper.emit, connected, based]
  · intro log buf filled
    simp [entry, readCallback, filled, connected, based]

/-- The socket has read a part of the response. -/
inductive Waiting (response : Response) (fed : List UInt8) (out messages : List Message) :
    Wrapper HttpPriv → Prop where
  | intro {state : HttpState} {recvBuf : List UInt8} {contentLength : Int}
      {heap : Nat → List UInt8} {scans : Nat} {log : List Effect}
      (phase : response.Phase fed state recvBuf contentLength) (small : recvBuf.length < 2 ^ 31)
      (silent : Silent out messages log) :
      Waiting response fed out messages
        ⟨⟨state, true, toBeSent messages, recvBuf, contentLength, heap, scans⟩, log⟩

/-- The socket keeps more bytes than `recv_len` can count. -/
structure Stuck (sock : Wrapper HttpPriv) : Prop where
  reading : sock.priv.state = .init ∨ sock.priv.state = .headers
  negative : sock.priv.recvLen < 0
  silent : delivered sock.log = []

section Runs

variable {response : Response} (host : Host) (source : Option XiceAddress)
variable {out messages : List Message} {app fed buf : List UInt8} {sock : Wrapper HttpPriv}
  {events : List Event}

/-- The upper layer gets the kept bytes, and then the queue is emptied. -/
theorem connected_passed (queue : List ToBeSent) (early : List UInt8) (heap : Nat → List UInt8)
    (scans : Nat) (log : List Effect) :
    ∃ more ret, connected host ⟨⟨.connected, true, queue, early, 0, heap, scans⟩, log⟩ source =
        (⟨⟨.connected, true, [], [], 0, heap, scans⟩,
          log ++ more ++ queue.map fun tbs => .send tbs.message⟩, ret) ∧ Passed early more := by
  by_cases nothing : early = []
  · refine ⟨[], false, ?_, by rw [nothing]; exact ⟨rfl, rfl, rfl⟩⟩
    rw [nothing, append_nil]
    rfl
  · have relays : (entry host source).Relays host source
        ⟨.connected, true, queue, early, 0, heap, scans⟩ := relays_connected host source rfl rfl
    obtain ⟨more, call, passed⟩ := relays.callback_passed log early source
    obtain ⟨⟨after, ret⟩, result⟩ : ∃ result, Wrapper.callback host (socketSend host)
        ⟨⟨.connected, true, queue, early, 0, heap, scans⟩, log⟩ .readable early source =
      result := ⟨_, rfl⟩
    obtain rfl : after = _ := (congrArg Prod.fst result).symm.trans call
    refine ⟨more, ret, ?_, passed⟩
    have some_bytes : 0 < early.length := length_pos_iff.mpr nothing
    simp only [connected, if_pos some_bytes, result, drop_length]

/-- A chunk that is copied behind the bytes that are kept. -/
theorem read_of_receive (sock : Wrapper HttpPriv) {priv last : HttpPriv} {parsed : Parsed}
    (other : sock.priv.state ≠ .connected) (filled : buf ≠ [])
    (received : sock.priv.receive buf = some priv) (ends : priv.parsed = some (parsed, last)) :
    (entry host source).read sock buf =
      finish host { sock with priv := last } .readable source parsed := by
  simp [entry, readCallback, filled, other, received, ends]

/-- A phase is not behind the response. -/
theorem Phase.not_connected {state : HttpState} {recvBuf : List UInt8} {contentLength : Int}
    (phase : response.Phase fed state recvBuf contentLength) : state ≠ .connected := by
  cases phase <;> exact HttpState.noConfusion

/-- After a chunk that fits the socket waits for more, or opens. -/
theorem Waiting.read (waiting : response.Waiting fed out messages sock) (filled : buf ≠ [])
    (fit : response.Fit fed buf) (part : fed ++ buf <+: response.bytes ++ app) :
    ((fed ++ buf).length < response.bytes.length ∧
      response.Waiting (fed ++ buf) out messages ((entry host source).read sock buf).1) ∨
    ∃ early heap scans log, fed ++ buf = response.bytes ++ early ∧ Silent out messages log ∧
      (entry host source).read sock buf = connected host
        ⟨⟨.connected, true, toBeSent messages, early, 0, heap, scans⟩, log⟩ source := by
  cases waiting with
  | @intro state recvBuf contentLength heap scans log phase small silent =>
    have sum : (recvBuf ++ buf).length < 2 ^ 31 := by
      rw [length_append, phase.kept]
      exact fit
    have received : HttpPriv.receive buf
        ⟨state, true, toBeSent messages, recvBuf, contentLength, heap, scans⟩ =
        some ⟨state, true, toBeSent messages, recvBuf ++ buf, contentLength, heap, scans⟩ := by
      rw [HttpPriv.receive, if_neg]
      rintro (negative | wide)
      · exact HttpPriv.recvLen_nonneg _ small negative
      · dsimp only at wide
        omega
    have goes : ∀ parsed last, HttpPriv.parsed
        ⟨state, true, toBeSent messages, recvBuf ++ buf, contentLength, heap, scans⟩ =
          some (parsed, last) → _ := fun parsed last =>
      read_of_receive host source
        ⟨⟨state, true, toBeSent messages, recvBuf, contentLength, heap, scans⟩, log⟩
        phase.not_connected filled received
    have leads := phase.leads (toBeSent messages) heap scans part sum
    generalize whole : fed ++ buf = all at leads ⊢
    generalize ends : HttpPriv.parsed _ = value at leads
    cases leads with
    | wait short next less =>
      rw [goes _ _ ends]
      exact .inl ⟨short, Waiting.intro next less silent⟩
    | done => exact .inr ⟨_, _, _, log, rfl, silent, goes _ _ ends⟩

/-- A chunk that does not fit. -/
theorem Waiting.stuck (waiting : response.Waiting fed out messages sock) (filled : buf ≠ [])
    (narrow : buf.length < 2 ^ 31) (wide : ¬response.Fit fed buf) :
    Stuck ((entry host source).read sock buf).1 := by
  cases waiting with
  | @intro state recvBuf contentLength heap scans log phase small silent =>
    have sum : ¬recvBuf.length + buf.length < 2 ^ 31 := by
      rw [phase.kept]
      exact wide
    obtain ⟨last, last_eq⟩ : ∃ last : HttpPriv, last =
      ⟨state, true, toBeSent messages, recvBuf ++ buf, contentLength, heap, scans⟩ := ⟨_, rfl⟩
    have received : HttpPriv.receive buf
        ⟨state, true, toBeSent messages, recvBuf, contentLength, heap, scans⟩ = some last := by
      rw [HttpPriv.receive, if_neg, last_eq]
      rintro (negative | beyond)
      · exact HttpPriv.recvLen_nonneg _ small negative
      · rw [length_append] at beyond
        dsimp only at beyond
        omega
    have negative : last.recvLen < 0 := by
      rw [last_eq]
      apply HttpPriv.recvLen_negative
      · rw [length_append]
        omega
      · rw [length_append]
        omega
    have reading : last.state = .init ∨ last.state = .headers := by
      rw [last_eq]
      cases phase with
      | init => exact .inl rfl
      | headers => exact .inr rfl
      | body => exact absurd ((Nat.zero_add _).trans_lt narrow) sum
    have waits : last.parsed = some (.notEnoughData, last) := by
      rw [HttpPriv.parsed, parse]
      rcases reading with init | headers
      · simp only [init, if_pos negative]
      · simp only [headers, if_pos negative]
    rw [read_of_receive host source
      ⟨⟨state, true, toBeSent messages, recvBuf, contentLength, heap, scans⟩, log⟩
      phase.not_connected filled received waits]
    exact ⟨reading, negative, silent.delivered⟩

/-- A socket that is stuck does not open. -/
theorem Stuck.play (stuck : Stuck sock) (filled : ∀ chunk ∈ chunks events, chunk ≠ []) :
    Stuck ((entry host source).play sock events) := by
  induction events generalizing sock with
  | nil => exact stuck
  | cons event events ih =>
    have other : sock.priv.state ≠ .connected := by
      intro connected
      rcases stuck.reading with reading | reading <;> rw [connected] at reading <;> cases reading
    cases event with
    | readable buf =>
      change ∀ chunk ∈ buf :: chunks events, chunk ≠ [] at filled
      rw [forall_mem_cons] at filled
      have outside : sock.priv.receive buf = none := if_pos (.inl stuck.negative)
      have goes : ((entry host source).read sock buf).1 = sock.emit .overrun := by
        simp [entry, readCallback, filled.1, other, outside]
      refine ih ?_ filled.2
      rw [Entry.step, goes]
      exact ⟨stuck.reading, stuck.negative, (delivered_append _ _).trans (by rw [stuck.silent]; rfl)⟩
    | send message =>
      have goes : ((entry host source).send sock message).1 =
          ⟨{ sock.priv with sendQueue := addToBeSent sock.priv.sendQueue message },
            sock.log ++ [.ask message]⟩ := by
        rcases stuck.reading with reading | reading <;>
          simp [entry, socketSend, Wrapper.emit, reading]
      refine ih ?_ filled
      rw [Entry.step, goes]
      exact ⟨stuck.reading, stuck.negative, (delivered_append _ _).trans (by rw [stuck.silent]; rfl)⟩

/-- A message that is sent before the end of the response. -/
theorem Waiting.send (waiting : response.Waiting fed out messages sock) (message : Message) :
    response.Waiting fed out (messages ++ [message]) ((entry host source).send sock message).1 := by
  cases waiting with
  | @intro state recvBuf contentLength heap scans log phase small silent =>
    have goes : ((entry host source).send
          ⟨⟨state, true, toBeSent messages, recvBuf, contentLength, heap, scans⟩, log⟩ message).1 =
        ⟨⟨state, true, toBeSent (messages ++ [message]), recvBuf, contentLength, heap, scans⟩,
          log ++ [.ask message]⟩ := by
      cases phase <;> simp [entry, socketSend, Wrapper.emit, toBeSent_concat]
    rw [goes]
    exact Waiting.intro phase small (silent.ask message)

/-- The socket waits for the response. -/
theorem awaits_response (response : Response) (out : List Message) :
    (entry host source).Awaits (fun fed buf => buf ≠ [] ∧ response.Fit fed buf) response.bytes
      fun fed => response.Waiting fed out := by
  constructor
  · intro fed messages sock waiting message
    exact waiting.send host source message
  · rintro fed messages sock buf waiting ⟨filled, fit⟩ ⟨app, part⟩ short
    rcases waiting.read host source filled fit part with ⟨-, next⟩ | ⟨early, _, _, _, whole, -⟩
    · exact next
    · rw [whole, length_append] at short
      omega

/-- A new socket waits for the response. -/
theorem waiting_new (response : Response) (request : List UInt8) (heap : Nat → List UInt8) :
    response.Waiting [] [⟨none, request⟩] [] (httpSocketNew request heap) := by
  have silent : Silent [⟨none, request⟩] [] (httpSocketNew request heap).log :=
    ⟨rfl, rfl, rfl, rfl⟩
  have first : 0 < response.status.length := by
    rw [response.status_eq, length_append, response.length_front]
    omega
  exact Waiting.intro (Phase.init 0 first) (Nat.two_pow_pos 31) silent

/-- Behind the response every chunk fits. -/
theorem suits_behind (behind : response.bytes.length ≤ fed.length)
    (narrow : ∀ chunk ∈ chunks events, chunk.length < 2 ^ 31) :
    Suits response.Fit fed events := by
  induction events generalizing fed with
  | nil => trivial
  | cons event events ih =>
    cases event with
    | readable buf =>
      change ∀ chunk ∈ buf :: chunks events, chunk.length < 2 ^ 31 at narrow
      rw [forall_mem_cons] at narrow
      refine ⟨?_, ih (by rw [length_append]; omega) narrow.2⟩
      rw [bytes, length_append] at behind
      rw [Fit, unfinished_behind (by rw [flatten_headLines]; omega), Nat.zero_add]
      exact narrow.1
    | send message => exact ih behind narrow

/-- A run with a chunk that does not fit leaves the socket stuck. -/
theorem Waiting.play_stuck (waiting : response.Waiting fed out messages sock)
    (filled : ∀ chunk ∈ chunks events, chunk ≠ [])
    (narrow : ∀ chunk ∈ chunks events, chunk.length < 2 ^ 31)
    (part : fed ++ (chunks events).flatten <+: response.bytes ++ app)
    (wide : ¬Suits response.Fit fed events) : Stuck ((entry host source).play sock events) := by
  induction events generalizing fed messages sock with
  | nil => exact absurd trivial wide
  | cons event events ih =>
    cases event with
    | readable buf =>
      change ∀ chunk ∈ buf :: chunks events, _ at filled narrow
      change fed ++ (buf ++ (chunks events).flatten) <+: _ at part
      rw [forall_mem_cons] at filled narrow
      rw [← append_assoc] at part
      by_cases fit : response.Fit fed buf
      · have later : ¬Suits response.Fit (fed ++ buf) events := fun suits => wide ⟨fit, suits⟩
        rcases waiting.read host source filled.1 fit ((prefix_append _ _).trans part) with
          ⟨-, next⟩ | ⟨early, _, _, _, whole, -⟩
        · exact ih next filled.2 narrow.2 part later
        · refine absurd (suits_behind ?_ narrow.2) later
          rw [whole, length_append]
          omega
      · exact (waiting.stuck host source filled.1 narrow.1 fit).play host source filled.2
    | send message => exact ih (waiting.send host source message) filled narrow part wide

/-- The events before the chunk that completes the response, that chunk, and the events behind it.
-/
theorem play_completed (request : List UInt8) {early last : List UInt8} (heap : Nat → List UInt8)
    (before after : List Event)
    (filled : ∀ chunk ∈ chunks (before ++ .readable last :: after), chunk ≠ [])
    (suits : Suits response.Fit [] (before ++ .readable last :: after))
    (short : (chunks before).flatten.length < response.bytes.length)
    (completes : (chunks before).flatten ++ last = response.bytes ++ early) :
    ∃ priv log first later, (entry host source).play (httpSocketNew request heap)
          (before ++ .readable last :: after) =
        ⟨priv, log ++ first ++ (toBeSent (sends before)).map (fun tbs => .send tbs.message) ++
          later⟩ ∧
      priv.state = .connected ∧ Silent [⟨none, request⟩] (sends before) log ∧
      Passed early first ∧ Passed (chunks after).flatten later := by
  rw [chunks_append, forall_mem_append] at filled
  have behind : ∀ chunk ∈ last :: chunks after, chunk ≠ [] := filled.2
  rw [forall_mem_cons] at behind
  obtain ⟨suits, fit, -⟩ := Entry.suits_append.mp suits
  obtain ⟨middle, waiting, splits⟩ := (response.awaits_response host source _).split
    (response.waiting_new request heap) after (Entry.suits_and filled.1 suits) short completes
  rcases waiting.read host source behind.1 fit (by rw [completes]) with
    ⟨less, -⟩ | ⟨rest, heap, scans, log, whole, silent, call⟩
  · rw [completes, length_append] at less
    omega
  obtain rfl := append_cancel_left (completes.symm.trans whole)
  obtain ⟨first, ret, ends, passed⟩ :=
    connected_passed host source (toBeSent (sends before)) early heap scans log
  have relays : (entry host source).Relays host source
      ⟨.connected, true, [], [], 0, heap, scans⟩ := relays_connected host source rfl rfl
  obtain ⟨later, run, passed_later⟩ := relays.play_eq
    (log ++ first ++ (toBeSent (sends before)).map fun tbs => .send tbs.message) after behind.2
  refine ⟨⟨.connected, true, [], [], 0, heap, scans⟩, log, first, later, ?_, rfl, silent, passed,
    passed_later⟩
  rw [splits, call, ends, run]

end Runs

/-- A response is not empty. -/
theorem bytes_positive (response : Response) : 0 < response.bytes.length := by
  rw [bytes, head, response.status_eq]
  simp only [length_append, response.length_front]
  omega

/-- The connection stands and the upper layer gets the bytes behind the response, however the stream
is cut and whatever is sent meanwhile, exactly when each chunk and the line that it comes behind fit
in `recv_len`. -/
theorem tunnel_transparent_iff (response : Response) (request app : List UInt8)
    (heap : Nat → List UInt8) (host : Host) (source : Option XiceAddress) (events : List Event)
    (filled : ∀ chunk ∈ chunks events, chunk ≠ [])
    (narrow : ∀ chunk ∈ chunks events, chunk.length < 2 ^ 31)
    (stream : (chunks events).flatten = response.bytes ++ app) :
    delivered ((entry host source).play (httpSocketNew request heap) events).log = app ∧
        ((entry host source).play (httpSocketNew request heap) events).priv.state = .connected ∧
        failed ((entry host source).play (httpSocketNew request heap) events).log = false ↔
      Suits response.Fit [] events := by
  constructor
  · rintro ⟨-, connected, -⟩
    by_contra wide
    have stuck := (response.waiting_new request heap).play_stuck host source filled narrow
      (show [] ++ (chunks events).flatten <+: response.bytes ++ app by rw [nil_append, stream]) wide
    rcases stuck.reading with reading | reading <;> rw [connected] at reading <;> cases reading
  · intro suits
    have enough : response.bytes.length ≤ (chunks events).flatten.length := by
      rw [stream, length_append]
      omega
    obtain ⟨before, last, after, rfl, early, late⟩ :=
      exists_reaching response.bytes_positive enough
    have cut : (chunks before).flatten ++ last ++ (chunks after).flatten = response.bytes ++ app :=
      (flatten_chunks before last after).symm.trans stream
    obtain ⟨rest, completes⟩ : response.bytes <+: (chunks before).flatten ++ last :=
      prefix_of_prefix_length_le (prefix_append _ _) (cut ▸ prefix_append _ _) late
    have app_eq : rest ++ (chunks after).flatten = app := by
      rw [← completes, append_assoc] at cut
      exact append_cancel_left cut
    obtain ⟨priv, log, first, later, run, connected, silent, passed, passed_later⟩ :=
      play_completed host source request heap before after filled suits early completes.symm
    rw [run]
    refine ⟨?_, connected, ?_⟩
    · simp only [delivered_append, silent.delivered, passed.up, passed_later.up, delivered_sends,
        nil_append, append_nil, app_eq]
    · simp only [failed_append, silent.quiet, passed.quiet, passed_later.quiet, failed_sends,
        Bool.or_self]

/-- A header line with a length. -/
def lengthHeader : Header where
  line := ascii "content-length: 03"
  filled := by decide
  clean := by decide
  length := some 3
  states := ⟨ascii "content-length:", [space], [0x30, 0x33], [], by decide, by decide, by decide,
    fun byte member => .inl (mem_singleton.mp member),
    forall_mem_nil _, by decide,
    all_eq_true.mp (by decide), by decide⟩

/-- A response with a body. -/
def established : Response where
  leading := 0
  version := 0x31
  known := .inr rfl
  gap := 0
  narrow := by decide
  tens := 0x30
  ones := 0x30
  code := ⟨rfl, rfl⟩
  reason := ascii " OK"
  clean := by decide
  headers := [lengthHeader]
  body := ascii "abc"
  body_length := rfl
  body_small := by decide

/-- A response in three chunks, with bytes behind it. -/
theorem tunnel_established :
    delivered ((entry Host.content none).play (httpSocketNew [] fun _ => ascii "7")
      [.readable (ascii "HTTP/1.1 200 OK\r\ncontent-length: 0"), .send ⟨none, [1]⟩,
        .readable (ascii "3\r\n\r\nab"), .readable (ascii "cxyz")]).log = ascii "xyz" :=
  ((tunnel_transparent_iff established [] (ascii "xyz") (fun _ => ascii "7") Host.content none
    [.readable (ascii "HTTP/1.1 200 OK\r\ncontent-length: 0"), .send ⟨none, [1]⟩,
      .readable (ascii "3\r\n\r\nab"), .readable (ascii "cxyz")] (by decide) (by decide)
    (by decide)).mpr ⟨by decide, by decide, by decide, trivial⟩).1

/-- The status line goes on for `size` bytes behind the code. -/
def endless (size : Nat) : Response where
  leading := 0
  version := 0x30
  known := .inl rfl
  gap := 0
  narrow := by decide
  tens := 0x30
  ones := 0x30
  code := ⟨rfl, rfl⟩
  reason := List.replicate size 0x61
  clean := by
    intro byte member
    rw [eq_of_mem_replicate member]
    decide
  headers := []
  body := []
  body_length := rfl
  body_small := Nat.two_pow_pos 31

/-- The front of the status line, and chunks of one size behind it. -/
def endlessFront (count size : Nat) : List Event :=
  .readable (ascii "HTTP/1.0 200") ::
    List.replicate count (.readable (List.replicate size 0x61))

/-- An endless response in chunks of one size, and a byte behind it. -/
def endlessEvents (count size : Nat) : List Event :=
  endlessFront count size ++ [.readable (crlf ++ (crlf ++ [0x78]))]

/-- The chunks of the front. -/
theorem chunks_endlessFront (count size : Nat) :
    chunks (endlessFront count size) =
      ascii "HTTP/1.0 200" :: List.replicate count (List.replicate size 0x61) := by
  simp [endlessFront, chunks]

/-- The bytes of the front. -/
theorem flatten_endlessFront (count size : Nat) :
    (chunks (endlessFront count size)).flatten =
      ascii "HTTP/1.0 200" ++ List.replicate (count * size) 0x61 := by
  rw [chunks_endlessFront, flatten_cons, flatten_replicate_replicate]

/-- The chunks are the response and the byte. -/
theorem flatten_endlessEvents (count size : Nat) :
    (chunks (endlessEvents count size)).flatten = (endless (count * size)).bytes ++ [0x78] := by
  rw [endlessEvents, chunks_append, flatten_append, flatten_endlessFront]
  simp [bytes, head, status, phrase, lines, endless, chunks, ascii, space]

/-- No chunk is empty, or longer than the given size. -/
theorem size_endlessEvents {count size : Nat} (enough : 12 ≤ size) :
    ∀ chunk ∈ chunks (endlessEvents count size), chunk ≠ [] ∧ chunk.length ≤ size := by
  intro chunk member
  have bounds : 0 < chunk.length ∧ chunk.length ≤ size := by
    rw [endlessEvents, chunks_append, chunks_endlessFront, cons_append, mem_cons, mem_append] at member
    rcases member with rfl | same | last
    · exact ⟨by decide, enough⟩
    · rw [eq_of_mem_replicate same, length_replicate]
      omega
    · rw [mem_singleton.mp last]
      exact ⟨by decide, le_trans (by decide) enough⟩
  exact ⟨length_pos_iff.mp bounds.1, bounds.2⟩

/-- A line of `2 ^ 31` bytes and more does not fit. -/
theorem not_suits_endless {count size : Nat} (long : 2 ^ 31 ≤ (count + 1) * size) :
    ¬Suits (endless ((count + 1) * size)).Fit [] (endlessEvents (count + 1) size) := by
  intro suits
  have parts : endlessEvents (count + 1) size = endlessFront count size ++
      .readable (List.replicate size 0x61) :: [.readable (crlf ++ (crlf ++ [0x78]))] := by
    simp [endlessEvents, endlessFront, replicate_succ']
  rw [parts] at suits
  have fit := (Entry.suits_append.mp suits).2.1
  have line : (endless ((count + 1) * size)).status.length = 12 + (count + 1) * size + 2 := by
    simp [status, phrase, endless, ascii, crlf]
    omega
  have count_eq : (count + 1) * size = count * size + size := Nat.succ_mul count size
  have front : (chunks (endlessFront count size)).flatten.length = 12 + count * size := by
    rw [flatten_endlessFront, length_append, length_replicate]
    rfl
  rw [Fit, nil_append, front, length_replicate, headLines, cons_append, unfinished, if_pos] at fit
  · omega
  · omega

/-- A line of more than `2 ^ 31` bytes comes in chunks of the size that the agent reads. The
connection does not open, and the byte behind is lost. -/
theorem tunnel_lost :
    let last := (entry Host.content none).play (httpSocketNew [] fun _ => [])
      (endlessEvents 32768 65536)
    (∀ chunk ∈ chunks (endlessEvents 32768 65536), chunk ≠ [] ∧ chunk.length ≤ 65536) ∧
      (chunks (endlessEvents 32768 65536)).flatten = (endless (32768 * 65536)).bytes ++ [0x78] ∧
      delivered last.log = [] ∧ last.priv.state ≠ .connected := by
  intro last
  have sizes := @size_endlessEvents 32768 65536 (by decide)
  have stream := flatten_endlessEvents 32768 65536
  have stuck : Stuck last := by
    apply (waiting_new (endless (32768 * 65536)) [] fun _ => []).play_stuck Host.content none
    · exact fun chunk member => (sizes chunk member).1
    · exact fun chunk member => (sizes chunk member).2.trans_lt (by decide)
    · rw [nil_append, stream]
    · exact @not_suits_endless 32767 65536 (by decide)
  refine ⟨sizes, stream, stuck.silent, ?_⟩
  intro connected
  rcases stuck.reading with reading | reading <;> rw [connected] at reading <;> cases reading

end Response

end Xice.Socket.Http
