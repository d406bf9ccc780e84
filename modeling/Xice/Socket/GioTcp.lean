import Mathlib.Data.List.Basic
import Mathlib.Tactic

/-!
# The send queue of the GIO TCP socket

`giotcp.c`: a message that the kernel does not take at once waits in `send_queue`. A full queue
loses its first entry that may be dropped. Lengths are `guint`, of 32 bits; the result of
`g_socket_send` and one length are read as `int`.
-/

namespace Xice.Socket.GioTcp

open List

variable {count : Nat} {rest : List ToBeSent} {buf : List UInt8} {tcp : Tcp}

/-- `struct to_be_sent`, whose `length` is the length of `buf`. -/
structure ToBeSent where
  buf : List UInt8
  canDrop : Bool
  deriving DecidableEq, Repr

/-- `MAX_QUEUE_LENGTH`. -/
def maxQueueLength : Nat := 20

/-- `TcpPriv`. The server address and the main context are not used here. -/
structure TcpPriv where
  /-- Entries that wait for the socket to be writable. -/
  sendQueue : List ToBeSent
  /-- `io_source`: `socket_send_more` is called when writable. -/
  ioSource : Bool
  /-- The peer has shut the connection down. -/
  error : Bool
  deriving DecidableEq, Repr

/-- The socket, and what the kernel has taken. -/
structure Tcp where
  priv : TcpPriv
  accepted : List UInt8
  deriving DecidableEq, Repr

/-- `gio_tcp_socket_create`. -/
def socketCreate : Tcp where
  priv := { sendQueue := [], ioSource := false, error := false }
  accepted := []

/-- The kernel takes at most that many bytes, or would block. -/
abbrev Answer := Option Nat

/-- `g_socket_send`: the number of bytes taken. -/
def gSocketSend (answer : Answer) (buf : List UInt8) : Option Nat := answer.map (min buf.length)

/-- A number as `int`. -/
def toInt (number : Nat) : Int := (number : Int).bmod (2 ^ 32)

/-- `add_to_be_sent`. -/
def addToBeSent (priv : TcpPriv) (buf : List UInt8) (head : Bool) : TcpPriv :=
  if buf = [] then priv
  else { priv with
    sendQueue :=
      if head then ⟨buf, !head⟩ :: priv.sendQueue else priv.sendQueue ++ [⟨buf, !head⟩]
    ioSource := true }

/-- `socket_send`. -/
def socketSend (tcp : Tcp) (buf : List UInt8) (answer : Answer) : Tcp × Int :=
  if tcp.priv.error then (tcp, -1)
  else if tcp.priv.sendQueue = [] then
    match gSocketSend answer buf with
    | none => ({ tcp with priv := addToBeSent tcp.priv buf false }, 1)
    | some count =>
      let tcp := { tcp with accepted := tcp.accepted ++ buf.take count }
      let ret := toInt count
      if ret < 0 then (tcp, 0)
      else if ret.toNat < buf.length then
        ({ tcp with priv := addToBeSent tcp.priv (buf.drop ret.toNat) true }, 1)
      else (tcp, 1)
  else
    let queue := if maxQueueLength ≤ tcp.priv.sendQueue.length
      then tcp.priv.sendQueue.eraseP ToBeSent.canDrop else tcp.priv.sendQueue
    ({ tcp with priv := addToBeSent { tcp.priv with sendQueue := queue } buf false }, 1)

/-- The loop of `socket_send_more`, with an answer of the kernel for each turn. -/
def sendLoop (kernel : Nat → Answer) (turn : Nat) : List ToBeSent → Tcp → Tcp
  | [], tcp => { tcp with priv.sendQueue := [] }
  | tbs :: rest, tcp =>
    let tcp := { tcp with priv.sendQueue := rest }
    match gSocketSend (kernel turn) tbs.buf with
    | none => { tcp with priv := addToBeSent tcp.priv tbs.buf true }
    | some count =>
      let tcp := { tcp with accepted := tcp.accepted ++ tbs.buf.take count }
      let ret := toInt count
      if ret < 0 then sendLoop kernel (turn + 1) rest tcp
      else if ret < toInt tbs.buf.length then
        { tcp with priv := addToBeSent tcp.priv (tbs.buf.drop ret.toNat) true }
      else sendLoop kernel (turn + 1) rest tcp

/-- `socket_send_more` for a writable socket. -/
def socketSendMore (tcp : Tcp) (kernel : Nat → Answer) : Tcp × Bool :=
  let tcp := sendLoop kernel 0 tcp.priv.sendQueue tcp
  if tcp.priv.sendQueue = [] then ({ tcp with priv.ioSource := false }, false) else (tcp, true)

/-- What happens to a socket. -/
inductive Event where
  | send (buf : List UInt8) (answer : Answer)
  | writable (kernel : Nat → Answer)
  /-- `socket_recv` finds that the peer has shut the connection down. -/
  | shutdown

/-- One event. -/
def step (tcp : Tcp) : Event → Tcp
  | .send buf answer => (socketSend tcp buf answer).1
  | .writable kernel => if tcp.priv.ioSource then (socketSendMore tcp kernel).1 else tcp
  | .shutdown => { tcp with priv.error := true }

/-- A run. -/
def run (events : List Event) : Tcp := events.foldl step socketCreate

/-- The messages passed to `socket_send`. -/
def messages (events : List Event) : List (List UInt8) :=
  events.filterMap fun
    | .send buf _ => some buf
    | _ => none

/-- The messages that wait, when `front` of the first one is taken. -/
def waiting (front : List UInt8) : List ToBeSent → List (List UInt8)
  | [] => []
  | tbs :: rest => (front ++ tbs.buf) :: rest.map ToBeSent.buf

/-- `gone` were taken whole, and `front` of the first message in the queue. Only that one may not be
dropped. -/
structure Holds (sent gone : List (List UInt8)) (front accepted : List UInt8)
    (queue : List ToBeSent) : Prop where
  taken : accepted = gone.flatten ++ front
  order : (gone ++ waiting front queue).Sublist sent
  begun : front ≠ [] → ∃ tbs rest, queue = tbs :: rest ∧ tbs.canDrop = false
  droppable : ∀ tbs ∈ queue.tail, tbs.canDrop = true

variable (priv : TcpPriv) (events : List Event) {sent gone : List (List UInt8)}
  {front accepted : List UInt8} {queue : List ToBeSent} {tbs : ToBeSent}

/-- Small lengths are read as they are. -/
theorem toInt_of_small {number : Nat} (small : number < 2 ^ 31) : toInt number = number := by
  unfold toInt
  apply Int.bmod_eq_of_le
  · omega
  · omega

/-- Nothing of the first one is taken. -/
theorem waiting_nil (queue : List ToBeSent) : waiting [] queue = queue.map ToBeSent.buf := by
  cases queue <;> rfl

/-- What was taken and what waits are the bytes of messages. -/
theorem flatten_waiting (holds : Holds sent gone front accepted queue) :
    (gone ++ waiting front queue).flatten = accepted ++ (queue.map ToBeSent.buf).flatten := by
  rw [flatten_append, holds.taken, append_assoc]
  congr 1
  cases queue with
  | nil =>
    by_cases nothing : front = []
    · simp [nothing, waiting]
    · obtain ⟨tbs, rest, same, -⟩ := holds.begun nothing
      cases same
  | cons tbs rest => simp [waiting]

/-- A full queue becomes shorter and loses a whole message. -/
theorem Holds.drop (holds : Holds sent gone front accepted queue) :
    Holds sent gone front accepted (queue.eraseP ToBeSent.canDrop) := by
  cases queue with
  | nil => exact holds
  | cons tbs rest =>
    by_cases first : tbs.canDrop = true
    · have untouched : front = [] := by
        by_contra some_bytes
        obtain ⟨_, _, same, kept⟩ := holds.begun some_bytes
        cases same
        rw [first] at kept
        cases kept
      rw [eraseP_cons_of_pos first]
      refine ⟨holds.taken, ?_, fun some_bytes => absurd untouched some_bytes, ?_⟩
      · refine List.Sublist.trans ?_ holds.order
        rw [untouched, waiting_nil, waiting_nil]
        exact (sublist_cons_self _ _).append_left _
      · intro entry member
        exact holds.droppable entry (mem_of_mem_tail member)
    · rw [eraseP_cons_of_neg first]
      refine ⟨holds.taken, ?_, fun some_bytes => ⟨tbs, _, rfl, by simpa using first⟩, ?_⟩
      · refine List.Sublist.trans ?_ holds.order
        exact (List.Sublist.cons_cons _ ((eraseP_sublist).map _)).append_left _
      · intro entry member
        exact holds.droppable entry (mem_of_mem_eraseP member)

/-- One entry is dropped. -/
theorem length_eraseP (droppable : ∀ tbs ∈ queue.tail, tbs.canDrop = true)
    (two : 2 ≤ queue.length) : (queue.eraseP ToBeSent.canDrop).length + 1 = queue.length := by
  obtain ⟨first, second, rest, rfl⟩ : ∃ first second rest, queue = first :: second :: rest := by
    match queue, two with
    | first :: second :: rest, _ => exact ⟨first, second, rest, rfl⟩
  rw [length_eraseP_of_mem (a := second) (by simp) (droppable second (by simp))]
  rfl

/-- A message waits in an empty queue. -/
theorem Holds.first (holds : Holds sent gone front accepted []) (buf : List UInt8)
    (canDrop : Bool) : Holds (sent ++ [buf]) gone front accepted [⟨buf, canDrop⟩] := by
  have untouched : front = [] := by
    by_contra some_bytes
    obtain ⟨_, _, same, -⟩ := holds.begun some_bytes
    cases same
  refine ⟨holds.taken, ?_, fun some_bytes => absurd untouched some_bytes, by simp⟩
  have order := holds.order
  rw [untouched] at order ⊢
  rw [waiting, append_nil] at order
  exact order.append (List.Sublist.refl _)

/-- A message waits behind others. -/
theorem Holds.push (holds : Holds sent gone front accepted priv.sendQueue) (buf : List UInt8) :
    Holds (sent ++ [buf]) gone front accepted (addToBeSent priv buf false).sendQueue := by
  by_cases empty : buf = []
  · rw [addToBeSent, if_pos empty]
    exact ⟨holds.taken, holds.order.trans (sublist_append_left _ _), holds.begun,
      holds.droppable⟩
  have pushed : (addToBeSent priv buf false).sendQueue = priv.sendQueue ++ [⟨buf, true⟩] := by
    simp [addToBeSent, empty]
  rw [pushed]
  cases queue : priv.sendQueue with
  | nil =>
    rw [queue] at holds
    exact holds.first buf true
  | cons tbs rest =>
    rw [queue] at holds
    refine ⟨holds.taken, ?_, fun some_bytes => ?_, ?_⟩
    · have split : gone ++ waiting front (tbs :: rest ++ [⟨buf, true⟩]) =
          gone ++ waiting front (tbs :: rest) ++ [buf] := by simp [waiting]
      rw [split]
      exact holds.order.append (List.Sublist.refl _)
    · obtain ⟨_, _, same, kept⟩ := holds.begun some_bytes
      cases same
      exact ⟨tbs, _, rfl, kept⟩
    · intro entry member
      rw [cons_append, tail_cons, mem_append, mem_singleton] at member
      rcases member with old | rfl
      · exact holds.droppable entry old
      · rfl

/-- `count` bytes of the first message are taken, which is then not dropped. -/
theorem Holds.take (holds : Holds sent gone front accepted (tbs :: priv.sendQueue))
    (part : count < tbs.buf.length) :
    Holds sent gone (front ++ tbs.buf.take count) (accepted ++ tbs.buf.take count)
      (addToBeSent priv (tbs.buf.drop count) true).sendQueue := by
  have left : tbs.buf.drop count ≠ [] := by
    rw [Ne, drop_eq_nil_iff]
    omega
  have pushed : (addToBeSent priv (tbs.buf.drop count) true).sendQueue =
      ⟨tbs.buf.drop count, false⟩ :: priv.sendQueue := by
    simp only [addToBeSent, if_neg left, if_true, Bool.not_true]
  rw [pushed]
  refine ⟨?_, ?_, fun _ => ⟨_, _, rfl, rfl⟩, holds.droppable⟩
  · rw [holds.taken, append_assoc]
  · have same : waiting (front ++ tbs.buf.take count)
        (⟨tbs.buf.drop count, false⟩ :: priv.sendQueue) = waiting front (tbs :: priv.sendQueue) := by
      rw [waiting, waiting, append_assoc, take_append_drop]
    rw [same]
    exact holds.order

/-- The kernel takes the rest of the first message. -/
theorem Holds.finish (holds : Holds sent gone front accepted (tbs :: rest)) :
    Holds sent (gone ++ [front ++ tbs.buf]) [] (accepted ++ tbs.buf) rest := by
  refine ⟨?_, ?_, fun some_bytes => absurd rfl some_bytes, ?_⟩
  · rw [holds.taken]
    simp
  · rw [waiting_nil, append_assoc]
    exact holds.order
  · intro entry member
    exact holds.droppable entry (mem_of_mem_tail member)

/-- The messages are shorter than `2 ^ 31` bytes. -/
def Small (sent : List (List UInt8)) : Prop := ∀ buf ∈ sent, buf.length < 2 ^ 31

/-- Messages that wait are small. -/
theorem Holds.small (holds : Holds sent gone front accepted (tbs :: rest))
    (small : Small sent) : tbs.buf.length < 2 ^ 31 := by
  have member : front ++ tbs.buf ∈ sent := holds.order.subset (by simp [waiting])
  have bound := small _ member
  rw [length_append] at bound
  omega

/-- No more is taken than is given. -/
theorem le_of_gSocketSend {answer : Answer}
    (takes : gSocketSend answer buf = some count) : count ≤ buf.length := by
  obtain ⟨number, -, rfl⟩ := Option.map_eq_some_iff.mp takes
  exact Nat.min_le_left _ _

/-- At most one entry is added. -/
theorem length_addToBeSent (buf : List UInt8) (head : Bool) :
    (addToBeSent priv buf head).sendQueue.length ≤ priv.sendQueue.length + 1 := by
  by_cases empty : buf = []
  · simp [addToBeSent, empty]
  · cases head <;> simp [addToBeSent, empty]

/-- Some messages were taken and the others wait. -/
def Kept (sent : List (List UInt8)) (tcp : Tcp) : Prop :=
  ∃ gone front, Holds sent gone front tcp.accepted tcp.priv.sendQueue

/-- The loop keeps the invariant. -/
theorem kept_sendLoop (small : Small sent) (kernel : Nat → Answer) (turn : Nat) (tcp : Tcp)
    (holds : Holds sent gone front tcp.accepted queue) :
    Kept sent (sendLoop kernel turn queue tcp) ∧
      (sendLoop kernel turn queue tcp).priv.sendQueue.length ≤ queue.length := by
  induction queue generalizing gone front turn tcp with
  | nil => exact ⟨⟨gone, front, holds⟩, Nat.le_refl _⟩
  | cons tbs rest ih =>
    have fits := holds.small small
    cases answer : gSocketSend (kernel turn) tbs.buf with
    | none =>
      simp only [sendLoop, answer]
      refine ⟨?_, length_addToBeSent _ _ _⟩
      by_cases empty : tbs.buf = []
      · refine ⟨gone ++ [front ++ tbs.buf], [], ?_⟩
        have finished := holds.finish
        rw [empty, append_nil] at finished ⊢
        simpa [addToBeSent] using finished
      · have none_taken := Holds.take { tcp.priv with sendQueue := rest } holds
          (length_pos_iff.mpr empty)
        rw [take_zero, append_nil, append_nil] at none_taken
        exact ⟨gone, front, none_taken⟩
    | some count =>
      have most := le_of_gSocketSend answer
      have ret : toInt count = count := toInt_of_small (by omega)
      have length : toInt tbs.buf.length = tbs.buf.length := toInt_of_small fits
      simp only [sendLoop, answer, ret, length, Int.toNat_natCast]
      rw [if_neg (by omega)]
      by_cases part : count < tbs.buf.length
      · rw [if_pos (by omega)]
        exact ⟨⟨gone, front ++ tbs.buf.take count, Holds.take _ holds part⟩, length_addToBeSent _ _ _⟩
      · have whole : tbs.buf.take count = tbs.buf := take_of_length_le (by omega)
        rw [if_neg (by omega), whole]
        have rest_kept := ih (turn + 1) { tcp with
          priv.sendQueue := rest
          accepted := tcp.accepted ++ tbs.buf } holds.finish
        exact ⟨rest_kept.1, rest_kept.2.trans (Nat.le_succ _)⟩

/-- So does `socket_send`. -/
theorem kept_socketSend (kept : Kept sent tcp)
    (bounded : tcp.priv.sendQueue.length ≤ maxQueueLength)
    (fits : buf.length < 2 ^ 31) (answer : Answer) :
    Kept (sent ++ [buf]) (socketSend tcp buf answer).1 ∧
      (socketSend tcp buf answer).1.priv.sendQueue.length ≤ maxQueueLength := by
  obtain ⟨gone, front, holds⟩ := kept
  have skipped : Holds (sent ++ [buf]) gone front tcp.accepted tcp.priv.sendQueue :=
    ⟨holds.taken, holds.order.trans (sublist_append_left _ _), holds.begun, holds.droppable⟩
  by_cases broken : tcp.priv.error = true
  · rw [socketSend, if_pos broken]
    exact ⟨⟨gone, front, skipped⟩, bounded⟩
  by_cases empty : tcp.priv.sendQueue = []
  · have one : ∀ (priv : TcpPriv) (rest : List UInt8) (head : Bool), priv.sendQueue = [] →
        (addToBeSent priv rest head).sendQueue.length ≤ maxQueueLength := by
      intro priv rest head nothing
      have grows := length_addToBeSent priv rest head
      rw [nothing] at grows
      exact grows.trans (by decide)
    cases takes : gSocketSend answer buf with
    | none =>
      simp only [socketSend, if_neg broken, if_pos empty, takes]
      exact ⟨⟨gone, front, Holds.push _ holds buf⟩, one _ _ _ empty⟩
    | some count =>
      have most := le_of_gSocketSend takes
      have ret : toInt count = count := toInt_of_small (by omega)
      simp only [socketSend, if_neg broken, if_pos empty, takes, ret, Int.toNat_natCast]
      rw [if_neg (by omega)]
      -- The message is treated as if it had waited.
      have pushed : Holds (sent ++ [buf]) gone front tcp.accepted
          (⟨buf, false⟩ :: tcp.priv.sendQueue) := by
        rw [empty] at holds ⊢
        exact holds.first buf false
      by_cases part : count < buf.length
      · rw [if_pos part]
        exact ⟨⟨gone, _, Holds.take _ pushed part⟩, one _ _ _ empty⟩
      · have whole : buf.take count = buf := take_of_length_le (by omega)
        rw [if_neg part, whole]
        exact ⟨⟨_, _, pushed.finish⟩, bounded⟩
  · simp only [socketSend, if_neg broken, if_neg empty]
    by_cases full : maxQueueLength ≤ tcp.priv.sendQueue.length
    · rw [if_pos full]
      have shorter := length_eraseP holds.droppable (le_trans (by decide) full)
      refine ⟨⟨gone, front, ?_⟩, (length_addToBeSent _ _ _).trans ?_⟩
      · exact Holds.push { tcp.priv with
          sendQueue := tcp.priv.sendQueue.eraseP ToBeSent.canDrop } holds.drop buf
      · exact shorter.le.trans bounded
    · rw [if_neg full]
      refine ⟨⟨gone, front, Holds.push _ holds buf⟩, (length_addToBeSent _ _ _).trans ?_⟩
      exact Nat.not_le.mp full

/-- So does every event. -/
theorem kept_step (kept : Kept sent tcp)
    (bounded : tcp.priv.sendQueue.length ≤ maxQueueLength) (event : Event)
    (small : Small (sent ++ messages [event])) :
    Kept (sent ++ messages [event]) (step tcp event) ∧
      (step tcp event).priv.sendQueue.length ≤ maxQueueLength := by
  cases event with
  | send buf answer =>
    apply kept_socketSend kept bounded
    exact small buf (mem_append_right _ mem_cons_self)
  | writable kernel =>
    change Small (sent ++ []) at small
    change Kept (sent ++ []) _ ∧ _
    rw [append_nil] at small ⊢
    by_cases watched : tcp.priv.ioSource = true
    · obtain ⟨gone, front, holds⟩ := kept
      obtain ⟨looped, shorter⟩ := kept_sendLoop small kernel 0 tcp holds
      simp only [step, if_pos watched, socketSendMore]
      by_cases empty : (sendLoop kernel 0 tcp.priv.sendQueue tcp).priv.sendQueue = []
      · rw [if_pos empty]
        exact ⟨looped, shorter.trans bounded⟩
      · rw [if_neg empty]
        exact ⟨looped, shorter.trans bounded⟩
    · rw [step, if_neg watched]
      exact ⟨kept, bounded⟩
  | shutdown =>
    change Kept (sent ++ []) _ ∧ _
    rw [append_nil]
    exact ⟨kept, bounded⟩

/-- The messages of one more event. -/
theorem messages_concat (event : Event) :
    messages (events ++ [event]) = messages events ++ messages [event] := filterMap_append

/-- A run goes on. -/
theorem run_concat (event : Event) : run (events ++ [event]) = step (run events) event :=
  foldl_append

/-- Every run keeps the invariant. -/
theorem kept_run (small : Small (messages events)) :
    Kept (messages events) (run events) ∧ (run events).priv.sendQueue.length ≤ maxQueueLength := by
  induction events using List.reverseRecOn with
  | nil =>
    refine ⟨⟨[], [], ?_⟩, by decide⟩
    exact ⟨rfl, List.Sublist.refl _, fun some_bytes => absurd rfl some_bytes, by simp [run, socketCreate]⟩
  | append_singleton events event ih =>
    rw [messages_concat] at small ⊢
    obtain ⟨kept, bounded⟩ := ih fun buf member => small buf (mem_append_left _ member)
    rw [run_concat]
    exact kept_step kept bounded event small

/-- What the kernel has taken and what still waits are a row of messages, in the order of the calls:
messages are dropped whole, and none that was begun. The queue is bounded. -/
theorem whole_messages (events : List Event) (small : Small (messages events)) :
    (∃ kept : List (List UInt8), kept.Sublist (messages events) ∧
      kept.flatten = (run events).accepted ++ ((run events).priv.sendQueue.map ToBeSent.buf).flatten) ∧
    (run events).priv.sendQueue.length ≤ 20 := by
  obtain ⟨⟨gone, front, holds⟩, bounded⟩ := kept_run events small
  exact ⟨⟨_, holds.order, flatten_waiting holds⟩, bounded⟩

/-- A kernel that takes some bytes of a message and blocks. -/
theorem whole_messages_blocked :
    Small (messages [.send [1, 2] none, .send [3] none, .writable fun turn =>
      if turn = 0 then some 1 else none]) ∧
    (run [.send [1, 2] none, .send [3] none, .writable fun turn =>
      if turn = 0 then some 1 else none]).priv.sendQueue.length ≤ 20 :=
  ⟨by unfold Small; decide, (whole_messages _ (by unfold Small; decide)).2⟩

/-- A message of `2 ^ 31` bytes, and one byte behind it, taken byte by byte. -/
theorem accepted_of_long {more : List UInt8} (long : (1 :: 1 :: more).length = 2 ^ 31) :
    (run [.send (1 :: 1 :: more) none, .send [2] none, .writable fun _ => some 1]).accepted =
      [1, 2] := by
  have negative : toInt (2 ^ 31) = -2 ^ 31 := by decide
  have queued : (run [.send (1 :: 1 :: more) none, .send [2] none]) =
      ⟨⟨[⟨1 :: 1 :: more, true⟩, ⟨[2], true⟩], true, false⟩, []⟩ := rfl
  have loop : sendLoop (fun _ => some 1) 0 [⟨1 :: 1 :: more, true⟩, ⟨[2], true⟩]
      ⟨⟨[⟨1 :: 1 :: more, true⟩, ⟨[2], true⟩], true, false⟩, []⟩ = ⟨⟨[], true, false⟩, [1, 2]⟩ := by
    have one : min (2 ^ 31) 1 = 1 := by decide
    rw [sendLoop]
    simp only [gSocketSend, Option.map_some, one, long, negative]
    rfl
  have last := run_concat [.send (1 :: 1 :: more) none, .send [2] none] (.writable fun _ => some 1)
  rw [queued, cons_append, cons_append, nil_append] at last
  rw [last]
  simp only [step, if_true, socketSendMore, loop]

/-- Of a message of `2 ^ 31` bytes all but the first is lost: its length is negative as an `int`, so
one byte counts as all of it. -/
theorem cut_after_first_byte :
    ∃ long : List UInt8, long.length = 2 ^ 31 ∧
      ¬∃ kept : List (List UInt8), kept.Sublist (messages
          [.send long none, .send [2] none, .writable fun _ => some 1]) ∧
        (run [.send long none, .send [2] none, .writable fun _ => some 1]).accepted <+:
          kept.flatten := by
  have length : (1 :: 1 :: replicate (2 ^ 31 - 2) (1 : UInt8)).length = 2 ^ 31 := by
    rw [length_cons, length_cons, length_replicate]
    decide
  refine ⟨_, length, ?_⟩
  rintro ⟨kept, order, begins⟩
  rw [accepted_of_long length] at begins
  generalize replicate (2 ^ 31 - 2) (1 : UInt8) = more at order
  change kept.Sublist [1 :: 1 :: more, [2]] at order
  -- Each way to leave messages out begins otherwise.
  rcases sublist_cons_iff.mp order with without | ⟨later, rfl, without⟩
  · rcases sublist_singleton.mp without with rfl | rfl
    · exact absurd begins (by decide)
    · exact absurd begins (by decide)
  · rw [flatten_cons, cons_append, cons_append] at begins
    obtain ⟨-, second⟩ := cons_prefix_cons.mp begins
    obtain ⟨same, -⟩ := cons_prefix_cons.mp second
    exact absurd same (by decide)

end Xice.Socket.GioTcp
