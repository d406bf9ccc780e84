import Mathlib.Data.List.Flatten
import Xice.Ice.Types

/-!
# Sockets on top of a base socket

The sockets of `src/socket` sit between a base socket, which calls their `read_callback` with bytes,
and an upper layer, whose callback they call and whose messages go down through `socket_send`. What
such a socket does outside its own record is written to a log, on which all that the upper layer
sends and returns may depend. The callback is always set. Lengths are natural numbers where a socket
handles one read; counters over many reads have the width of the source.
-/

namespace Xice.Socket

open List

open Xice.Ice (XiceAddress)

/-- `XiceSocketCondition`. -/
inductive XiceSocketCondition where
  | error
  | close
  | readable
  deriving DecidableEq, Repr

/-- `XiceTurnSocketCompatibility`. -/
inductive XiceTurnSocketCompatibility where
  | draft9
  | google
  | msn
  | oc2007
  | rfc5766
  deriving DecidableEq, Repr

/-- The arguments of a `send` function of a socket. -/
structure Message where
  toAddr : Option XiceAddress
  buf : List UInt8
  deriving DecidableEq, Repr

/-- `struct to_be_sent`. -/
structure ToBeSent where
  buf : List UInt8
  /-- Destination, the zero address where none was given. -/
  toAddr : XiceAddress
  deriving DecidableEq, Repr

/-- What a socket does outside its record, and is asked to send. -/
inductive Effect where
  /-- The callback of the upper layer is called. -/
  | upcall (condition : XiceSocketCondition) (buf : List UInt8) (source : Option XiceAddress)
  | ask (message : Message)
  /-- A message is given to the base socket. -/
  | send (message : Message)
  | free
  /-- Memory outside the buffers of the socket is written. -/
  | overrun
  deriving DecidableEq, Repr

/-- The layers around a socket, which see the log. -/
structure Host where
  /-- What the upper layer sends from its callback, and its result. -/
  callback : List Effect → List Message × Bool
  /-- What the base socket returns for a message. -/
  baseSend : List Effect → Bool

variable (log : List Effect)

/-- The upper layer sends nothing and never objects, and the base socket takes everything. -/
def Host.content : Host where
  callback _ := ([], true)
  baseSend _ := true

/-- The bytes given to the upper layer. -/
def delivered : List UInt8 :=
  log.flatMap fun
    | .upcall .readable buf _ => buf
    | _ => []

/-- The packets given to the upper layer, one for each call. -/
def packets : List (List UInt8) :=
  log.filterMap fun
    | .upcall .readable buf _ => some buf
    | _ => none

/-- The messages given to the base socket. -/
def sent : List Message :=
  log.filterMap fun
    | .send message => some message
    | _ => none

/-- The messages that `socket_send` was called with. -/
def asked : List Message :=
  log.filterMap fun
    | .ask message => some message
    | _ => none

/-- The upper layer was told of an error or of the end. -/
def failed : Bool :=
  log.any fun
    | .upcall .readable _ _ => false
    | .upcall _ _ _ => true
    | _ => false

variable (log more : List Effect)

/-- Bytes delivered in two parts. -/
@[simp] theorem delivered_append :
    delivered (log ++ more) = delivered log ++ delivered more := flatMap_append

/-- Messages sent in two parts. -/
@[simp] theorem sent_append :
    sent (log ++ more) = sent log ++ sent more := filterMap_append

/-- Messages asked for in two parts. -/
@[simp] theorem asked_append :
    asked (log ++ more) = asked log ++ asked more := filterMap_append

/-- Errors told in two parts. -/
@[simp] theorem failed_append :
    failed (log ++ more) = (failed log || failed more) := any_append

/-- An error stays told. -/
theorem failed_of_prefix {log later : List Effect} (grows : log <+: later)
    (told : failed log = true) : failed later = true := by
  obtain ⟨more, rfl⟩ := grows
  rw [failed_append, told]
  rfl

/-- A socket: its `priv` record and the log. -/
structure Wrapper (Priv : Type) where
  priv : Priv
  log : List Effect
  deriving DecidableEq

namespace Wrapper

variable {Priv : Type}

/-- Something is done outside. -/
def emit (sock : Wrapper Priv) (effect : Effect) : Wrapper Priv :=
  { sock with log := sock.log ++ [effect] }

/-- The upper layer sends through the socket before its callback returns. -/
def callback (host : Host) (send : Wrapper Priv → Message → Wrapper Priv × Bool)
    (sock : Wrapper Priv) (condition : XiceSocketCondition) (buf : List UInt8)
    (source : Option XiceAddress) : Wrapper Priv × Bool :=
  let sock := sock.emit (.upcall condition buf source)
  let (messages, ret) := host.callback sock.log
  (messages.foldl (fun sock message => (send sock message).1) sock, ret)

/-- `xice_socket_send` of the base socket. -/
def baseSend (host : Host) (sock : Wrapper Priv) (message : Message) : Wrapper Priv × Bool :=
  let sock := sock.emit (.send message)
  (sock, host.baseSend sock.log)

/-- The log grows. -/
theorem log_emit (sock : Wrapper Priv) (effect : Effect) : sock.log <+: (sock.emit effect).log :=
  prefix_append _ _

section Callback

variable (host : Host) {send : Wrapper Priv → Message → Wrapper Priv × Bool}

/-- What sending keeps holds when the callback returns. -/
theorem callback_rule (holds : Wrapper Priv → Prop)
    (keeps : ∀ sock message, holds sock → holds (send sock message).1) {sock : Wrapper Priv}
    {condition : XiceSocketCondition} {buf : List UInt8} {source : Option XiceAddress}
    (start : holds (sock.emit (.upcall condition buf source))) :
    holds (sock.callback host send condition buf source).1 :=
  List.foldlRecOn _ _ start fun sock holds message _ => keeps sock message holds

/-- The callback adds to the log. -/
theorem log_callback (grows : ∀ sock message, sock.log <+: (send sock message).1.log)
    (sock : Wrapper Priv) (condition : XiceSocketCondition) (buf : List UInt8)
    (source : Option XiceAddress) :
    sock.log ++ [.upcall condition buf source] <+:
      (sock.callback host send condition buf source).1.log :=
  callback_rule host (fun later => sock.log ++ [.upcall condition buf source] <+: later.log)
    (fun later message before => before.trans (grows later message)) prefix_rfl

/-- What sending keeps of the record, the callback keeps. -/
theorem callback_keeps {holds : Priv → Prop}
    (keeps : ∀ sock message, holds sock.priv → holds (send sock message).1.priv)
    {sock : Wrapper Priv} (start : holds sock.priv) (condition : XiceSocketCondition)
    (buf : List UInt8) (source : Option XiceAddress) :
    holds (sock.callback host send condition buf source).1.priv :=
  callback_rule host (fun sock => holds sock.priv) keeps start

end Callback

end Wrapper

variable (events : List Event) (messages : List Message)

/-- An entry of a send queue, as it is given to the base socket. -/
def ToBeSent.message (tbs : ToBeSent) : Message := ⟨some tbs.toAddr, tbs.buf⟩

/-- `add_to_be_sent` of the three sockets with a handshake. -/
def addToBeSent (queue : List ToBeSent) (message : Message) : List ToBeSent :=
  if message.buf = [] then queue
  else queue ++ [⟨message.buf, message.toAddr.getD .unspec⟩]

/-- The entries that messages leave in an empty queue. -/
def toBeSent : List ToBeSent :=
  (messages.filter fun message => message.buf ≠ []).map
    fun message => ⟨message.buf, message.toAddr.getD .unspec⟩

variable (queue : List ToBeSent)

/-- Messages are queued in order. -/
theorem foldl_addToBeSent : messages.foldl addToBeSent queue = queue ++ toBeSent messages := by
  induction messages generalizing queue with
  | nil => simp [toBeSent]
  | cons message messages ih =>
    rw [foldl_cons, ih]
    by_cases empty : message.buf = [] <;> simp [addToBeSent, toBeSent, empty]

/-- One more message. -/
theorem toBeSent_concat (message : Message) :
    toBeSent (messages ++ [message]) = addToBeSent (toBeSent messages) message := by
  by_cases empty : message.buf = [] <;> simp [toBeSent, addToBeSent, empty]

/-! The log of a queue that is emptied. -/

/-- Queued messages are not delivered. -/
@[simp] theorem delivered_sends : delivered (queue.map fun tbs => .send tbs.message) = [] := by
  simp [delivered]

/-- They tell no error. -/
@[simp] theorem failed_sends : failed (queue.map fun tbs => .send tbs.message) = false := by
  simp [failed]

/-- They are sent. -/
@[simp] theorem sent_sends :
    sent (queue.map fun tbs => .send tbs.message) = queue.map ToBeSent.message := by
  simp [sent, filterMap_map]

/-- They were asked for before. -/
@[simp] theorem asked_sends : asked (queue.map fun tbs => .send tbs.message) = [] := by
  simp [asked]

/-- Nothing but `out` went down, nothing went up, and `messages` were asked for. -/
structure Silent (out messages : List Message) (log : List Effect) : Prop where
  sent : sent log = out
  asked : asked log = messages
  delivered : delivered log = []
  quiet : failed log = false

/-- One more is asked for. -/
theorem Silent.ask {out messages : List Message} {log : List Effect}
    (silent : Silent out messages log) (message : Message) :
    Silent out (messages ++ [message]) (log ++ [.ask message]) := by
  constructor
  · rw [sent_append, silent.sent]
    exact append_nil _
  · rw [asked_append, silent.asked]
    rfl
  · rw [delivered_append, silent.delivered]
    rfl
  · rw [failed_append, silent.quiet]
    rfl

/-- The two functions through which a socket is used. -/
structure Entry (Priv : Type) where
  /-- `read_callback` with the condition `XICE_SOCKET_READABLE`. -/
  read : Wrapper Priv → List UInt8 → Wrapper Priv × Bool
  send : Wrapper Priv → Message → Wrapper Priv × Bool

/-- What happens to a socket from outside. -/
inductive Event where
  | readable (buf : List UInt8)
  | send (message : Message)
  deriving DecidableEq, Repr

/-- The chunks that are read in a run. -/
def chunks : List (List UInt8) :=
  events.filterMap fun
    | .readable buf => some buf
    | .send _ => none

/-- The messages sent in a run from outside the callback. -/
def sends : List Message :=
  events.filterMap fun
    | .readable _ => none
    | .send message => some message

/-- Chunks of two parts. -/
theorem chunks_append (more : List Event) :
    chunks (events ++ more) = chunks events ++ chunks more := filterMap_append

/-- Chunks of one event more. -/
theorem chunks_cons (event : Event) (events : List Event) :
    chunks (event :: events) = chunks [event] ++ chunks events :=
  chunks_append [event] events

/-- The bytes around a chunk. -/
theorem flatten_chunks (before : List Event) (last : List UInt8) (after : List Event) :
    (chunks (before ++ .readable last :: after)).flatten =
      (chunks before).flatten ++ last ++ (chunks after).flatten := by
  rw [chunks_append, flatten_append, append_assoc]
  rfl

/-- The chunk in which the byte at a position is read. -/
theorem exists_reaching {events : List Event} {count : Nat} (positive : 0 < count)
    (enough : count ≤ (chunks events).flatten.length) :
    ∃ before last after, events = before ++ .readable last :: after ∧
      (chunks before).flatten.length < count ∧
      count ≤ ((chunks before).flatten ++ last).length := by
  induction events generalizing count with
  | nil =>
    change count ≤ 0 at enough
    omega
  | cons event events ih =>
    cases event with
    | send message =>
      obtain ⟨before, last, after, rfl, early, late⟩ := ih positive enough
      exact ⟨.send message :: before, last, after, rfl, early, late⟩
    | readable buf =>
      by_cases here : count ≤ buf.length
      · exact ⟨[], buf, events, rfl, positive, here⟩
      · change count ≤ (buf ++ (chunks events).flatten).length at enough
        rw [length_append] at enough
        have shifted : 0 < count - buf.length ∧
            count - buf.length ≤ (chunks events).flatten.length := by omega
        obtain ⟨before, last, after, rfl, early, late⟩ := ih shifted.1 shifted.2
        refine ⟨.readable buf :: before, last, after, rfl, ?_, ?_⟩
        · change (buf ++ (chunks before).flatten).length < count
          rw [length_append]
          omega
        · change count ≤ (buf ++ (chunks before).flatten ++ last).length
          rw [append_assoc, length_append]
          omega

namespace Entry

variable {Priv : Type}

variable (entry : Entry Priv) (sock : Wrapper Priv) (events : List Event)

/-- One event. -/
def step : Event → Wrapper Priv
  | .readable buf => (entry.read sock buf).1
  | .send message => (entry.send sock message).1

/-- A run. -/
def play : Wrapper Priv :=
  events.foldl entry.step sock

/-- One event more. -/
theorem play_cons (event : Event) (events : List Event) :
    entry.play sock (event :: events) = entry.play (entry.step sock event) events := rfl

/-- Runs of two parts. -/
theorem play_append (more : List Event) :
    entry.play sock (events ++ more) = entry.play (entry.play sock events) more :=
  foldl_append

/-- The log only grows. -/
structure Grows (entry : Entry Priv) : Prop where
  send : ∀ sock message, sock.log <+: (entry.send sock message).1.log
  read : ∀ sock buf, sock.log <+: (entry.read sock buf).1.log

/-- A run adds to the log. -/
theorem Grows.play {entry : Entry Priv} (grows : entry.Grows) (sock : Wrapper Priv)
    (events : List Event) : sock.log <+: (entry.play sock events).log := by
  induction events generalizing sock with
  | nil => exact prefix_rfl
  | cons event events ih =>
    have first : sock.log <+: (entry.step sock event).log := by
      cases event with
      | readable buf => exact grows.read sock buf
      | send message => exact grows.send sock message
    exact first.trans (ih _)

/-- `read_callback` returns `FALSE` only when the socket is dead. The base socket is not read again
after `FALSE`. -/
def Alive (dead : Priv → Prop) (sock : Wrapper Priv) (events : List Event) : Prop :=
  ∀ before buf after, events = before ++ .readable buf :: after →
    (entry.read (entry.play sock before) buf).2 = false →
    dead (entry.read (entry.play sock before) buf).1.priv

/-- A run keeps the base socket alive when each chunk does. -/
theorem alive_of_read {entry : Entry Priv} {dead : Priv → Prop}
    (reads : ∀ sock buf, buf ≠ [] → (entry.read sock buf).2 = false →
      dead (entry.read sock buf).1.priv)
    (sock : Wrapper Priv) {events : List Event} (filled : ∀ chunk ∈ chunks events, chunk ≠ []) :
    entry.Alive dead sock events := by
  intro before buf after parts returned
  refine reads _ buf (filled buf ?_) returned
  rw [parts, chunks_append, chunks_cons]
  exact mem_append_right _ (mem_append_left _ mem_cons_self)

/-- Every chunk fits behind the bytes that were read before. -/
def Suits (Fit : List UInt8 → List UInt8 → Prop) : List UInt8 → List Event → Prop
  | _, [] => True
  | fed, .readable buf :: events => Fit fed buf ∧ Suits Fit (fed ++ buf) events
  | fed, .send _ :: events => Suits Fit fed events

/-- The chunks of two runs one after the other. -/
theorem suits_append {Fit : List UInt8 → List UInt8 → Prop} {fed : List UInt8}
    {events more : List Event} :
    Suits Fit fed (events ++ more) ↔
      Suits Fit fed events ∧ Suits Fit (fed ++ (chunks events).flatten) more := by
  induction events generalizing fed with
  | nil => simp [Suits, chunks]
  | cons event events ih =>
    cases event with
    | readable buf =>
      change (Fit fed buf ∧ Suits Fit (fed ++ buf) (events ++ more)) ↔
        (Fit fed buf ∧ Suits Fit (fed ++ buf) events) ∧
          Suits Fit (fed ++ (buf ++ (chunks events).flatten)) more
      rw [ih, and_assoc, append_assoc]
    | send message => exact ih

/-- A condition on single chunks. -/
theorem suits_of_forall {Fit : List UInt8 → List UInt8 → Prop} {events : List Event}
    (each : ∀ chunk ∈ chunks events, ∀ fed, Fit fed chunk) (fed : List UInt8) :
    Suits Fit fed events := by
  induction events generalizing fed with
  | nil => trivial
  | cons event events ih =>
    cases event with
    | readable buf =>
      change ∀ chunk ∈ buf :: chunks events, ∀ fed, Fit fed chunk at each
      rw [forall_mem_cons] at each
      exact ⟨each.1 fed, ih each.2 _⟩
    | send message => exact ih each fed

/-- A condition on single chunks and one more. -/
theorem suits_and {Fit : List UInt8 → List UInt8 → Prop} {Single : List UInt8 → Prop}
    {events : List Event} {fed : List UInt8} (each : ∀ chunk ∈ chunks events, Single chunk)
    (suits : Suits Fit fed events) : Suits (fun fed buf => Single buf ∧ Fit fed buf) fed events := by
  induction events generalizing fed with
  | nil => trivial
  | cons event events ih =>
    cases event with
    | readable buf =>
      change ∀ chunk ∈ buf :: chunks events, Single chunk at each
      rw [forall_mem_cons] at each
      exact ⟨⟨each.1, suits.1⟩, ih each.2 suits.2⟩
    | send message => exact ih each suits

/-- `Waiting fed messages` are the sockets that have read `fed` of a handshake, and were asked to
send `messages` meanwhile. -/
structure Awaits (entry : Entry Priv) (Fit : List UInt8 → List UInt8 → Prop) (bytes : List UInt8)
    (Waiting : List UInt8 → List Message → Wrapper Priv → Prop) : Prop where
  send : ∀ {fed messages sock}, Waiting fed messages sock → ∀ message,
    Waiting fed (messages ++ [message]) (entry.send sock message).1
  read : ∀ {fed messages sock buf}, Waiting fed messages sock → Fit fed buf →
    (∃ app, fed ++ buf <+: bytes ++ app) → (fed ++ buf).length < bytes.length →
    Waiting (fed ++ buf) messages (entry.read sock buf).1

section Awaits

variable {entry : Entry Priv} {bytes : List UInt8} {Fit : List UInt8 → List UInt8 → Prop}
  {Waiting : List UInt8 → List Message → Wrapper Priv → Prop}

/-- A part of the handshake leaves the socket waiting. -/
theorem Awaits.play (awaits : entry.Awaits Fit bytes Waiting) {fed : List UInt8}
    {messages : List Message} {sock : Wrapper Priv} (waiting : Waiting fed messages sock)
    (events : List Event) (suits : Suits Fit fed events) {app : List UInt8}
    (part : fed ++ (chunks events).flatten <+: bytes ++ app)
    (short : (fed ++ (chunks events).flatten).length < bytes.length) :
    Waiting (fed ++ (chunks events).flatten) (messages ++ sends events)
      (entry.play sock events) := by
  induction events generalizing fed messages sock with
  | nil => simpa [chunks, sends, Entry.play] using waiting
  | cons event events ih =>
    cases event with
    | readable buf =>
      obtain ⟨fit, later⟩ := suits
      change fed ++ (buf ++ (chunks events).flatten) <+: _ at part
      change (fed ++ (buf ++ (chunks events).flatten)).length < _ at short
      change Waiting (fed ++ (buf ++ (chunks events).flatten)) (messages ++ sends events) _
      rw [← append_assoc] at part short ⊢
      have next := awaits.read waiting fit ⟨app, (prefix_append _ _).trans part⟩ (by
        rw [length_append] at short
        omega)
      exact ih next later part short
    | send message =>
      have rest := ih (awaits.send waiting message) suits part short
      rw [append_assoc] at rest
      exact rest

/-- A run is split at the chunk that completes the handshake. -/
theorem Awaits.split (awaits : entry.Awaits Fit bytes Waiting) {sock : Wrapper Priv}
    (start : Waiting [] [] sock) {before : List Event} {last early : List UInt8}
    (after : List Event) (suits : Suits Fit [] before)
    (short : (chunks before).flatten.length < bytes.length)
    (completes : (chunks before).flatten ++ last = bytes ++ early) :
    ∃ middle, Waiting (chunks before).flatten (sends before) middle ∧
      entry.play sock (before ++ .readable last :: after) =
        entry.play (entry.read middle last).1 after := by
  have part : [] ++ (chunks before).flatten <+: bytes ++ early := by
    rw [← completes]
    exact prefix_append _ _
  refine ⟨_, awaits.play start before suits part short, ?_⟩
  rw [Entry.play_append, Entry.play_cons, Entry.step]

end Awaits

/-- With this record the socket only passes on what it gets. -/
structure Relays (entry : Entry Priv) (host : Host) (source : Option XiceAddress) (priv : Priv) :
    Prop where
  /-- A message goes straight to the base socket. -/
  send : ∀ log message,
    entry.send ⟨priv, log⟩ message =
      Wrapper.baseSend host ⟨priv, log ++ [.ask message]⟩ message
  /-- Bytes go straight to the upper layer. -/
  read : ∀ log buf, buf ≠ [] →
    entry.read ⟨priv, log⟩ buf =
      Wrapper.callback host entry.send ⟨priv, log⟩ .readable buf source

/-- What is asked for is queued. `build` is the record for every queue. -/
def Queues (entry : Entry Priv) (build : List ToBeSent → Priv) : Prop :=
  ∀ queue log message, entry.send ⟨build queue, log⟩ message =
    (⟨build (addToBeSent queue message), log ++ [.ask message]⟩, true)

/-- Messages are queued. -/
theorem Queues.foldl_send {entry : Entry Priv} {build : List ToBeSent → Priv}
    (queues : entry.Queues build) (queue : List ToBeSent) (log : List Effect)
    (messages : List Message) :
    messages.foldl (fun sock message => (entry.send sock message).1) ⟨build queue, log⟩ =
      ⟨build (queue ++ toBeSent messages), log ++ messages.map .ask⟩ := by
  rw [← foldl_addToBeSent]
  induction messages generalizing queue log with
  | nil => simp
  | cons message messages ih =>
    rw [foldl_cons, queues, ih]
    simp

/-- So they are in a run. -/
theorem Queues.play_send {entry : Entry Priv} {build : List ToBeSent → Priv}
    (queues : entry.Queues build) (queue : List ToBeSent) (log : List Effect)
    (messages : List Message) :
    entry.play ⟨build queue, log⟩ (messages.map .send) =
      ⟨build (queue ++ toBeSent messages), log ++ messages.map .ask⟩ := by
  rw [play, foldl_map]
  exact queues.foldl_send queue log messages

/-- What a relaying socket does for calls of `socket_send`. -/
def relayed (messages : List Message) : List Effect :=
  messages.flatMap fun message => [.ask message, .send message]

/-- Bytes are passed up and every message asked for is passed down, in order, without an error. -/
structure Passed (bytes : List UInt8) (log : List Effect) : Prop where
  up : delivered log = bytes
  down : sent log = asked log
  quiet : failed log = false

/-- Two pieces. -/
theorem Passed.append {bytes more : List UInt8} {log later : List Effect}
    (passed : Passed bytes log) (rest : Passed more later) :
    Passed (bytes ++ more) (log ++ later) := by
  constructor
  · rw [delivered_append, passed.up, rest.up]
  · rw [sent_append, asked_append, passed.down, rest.down]
  · rw [failed_append, passed.quiet, rest.quiet]
    rfl

/-- Bytes are passed up. -/
theorem Passed.upcall (bytes : List UInt8) (source : Option XiceAddress) :
    Passed bytes [.upcall .readable bytes source] :=
  ⟨by simp [delivered], rfl, rfl⟩

/-- Messages are passed down. -/
theorem Passed.relayed (messages : List Message) : Passed [] (relayed messages) := by
  induction messages with
  | nil => exact ⟨rfl, rfl, rfl⟩
  | cons message messages ih =>
    have first : Passed [] [.ask message, .send message] := ⟨rfl, rfl, rfl⟩
    exact first.append ih

namespace Relays

variable {entry : Entry Priv} {host : Host} {source : Option XiceAddress} {priv : Priv}

variable (relays : entry.Relays host source priv)

include relays

/-- The messages are passed down. -/
theorem foldl_send (log : List Effect) (messages : List Message) :
    messages.foldl (fun sock message => (entry.send sock message).1) ⟨priv, log⟩ =
      ⟨priv, log ++ relayed messages⟩ := by
  induction messages generalizing log with
  | nil => simp [relayed]
  | cons message messages ih =>
    have first : (entry.send ⟨priv, log⟩ message).1 =
        ⟨priv, log ++ [.ask message, .send message]⟩ := by
      simp [relays.send, Wrapper.baseSend, Wrapper.emit]
    rw [foldl_cons, first, ih]
    simp [relayed]

/-- The callback leaves a relaying socket relaying. -/
theorem callback_eq (log : List Effect)
    (condition : XiceSocketCondition) (buf : List UInt8) (addr : Option XiceAddress) :
    Wrapper.callback host entry.send ⟨priv, log⟩ condition buf addr =
      (⟨priv, log ++ [.upcall condition buf addr] ++
          relayed (host.callback (log ++ [.upcall condition buf addr])).1⟩,
        (host.callback (log ++ [.upcall condition buf addr])).2) := by
  have sends := relays.foldl_send (log ++ [.upcall condition buf addr])
    (host.callback (log ++ [.upcall condition buf addr])).1
  rw [← sends]
  rfl

/-- Bytes given to the upper layer of a relaying socket. -/
theorem callback_passed (log : List Effect) (buf : List UInt8) (addr : Option XiceAddress) :
    ∃ more, (Wrapper.callback host entry.send ⟨priv, log⟩ .readable buf addr).1 =
        ⟨priv, log ++ more⟩ ∧ Passed buf more := by
  let call := Effect.upcall .readable buf addr
  refine ⟨[call] ++ relayed (host.callback (log ++ [call])).1, ?_, ?_⟩
  · rw [relays.callback_eq, append_assoc]
  · simpa using (Passed.upcall buf addr).append (Passed.relayed (host.callback (log ++ [call])).1)

/-- Every event leaves it relaying. -/
theorem step_eq (log : List Effect) (event : Event)
    (filled : ∀ chunk ∈ chunks [event], chunk ≠ []) :
    ∃ more, entry.step ⟨priv, log⟩ event = ⟨priv, log ++ more⟩ ∧
      Passed (chunks [event]).flatten more := by
  cases event with
  | readable buf =>
    have full : buf ≠ [] := filled buf mem_cons_self
    obtain ⟨more, call, passed⟩ := relays.callback_passed log buf source
    refine ⟨more, ?_, by simpa [chunks] using passed⟩
    change (entry.read ⟨priv, log⟩ buf).1 = _
    rw [relays.read log buf full, call]
  | send message =>
    refine ⟨[.ask message, .send message], ?_, Passed.relayed [message]⟩
    change (entry.send ⟨priv, log⟩ message).1 = _
    simp [relays.send, Wrapper.baseSend, Wrapper.emit]

/-- So does a run. -/
theorem play_eq (log : List Effect) (events : List Event)
    (filled : ∀ chunk ∈ chunks events, chunk ≠ []) :
    ∃ more, entry.play ⟨priv, log⟩ events = ⟨priv, log ++ more⟩ ∧
      Passed (chunks events).flatten more := by
  induction events generalizing log with
  | nil => exact ⟨[], by simp [play], rfl, rfl, rfl⟩
  | cons event events ih =>
    rw [chunks_cons] at filled
    obtain ⟨more, first, passed⟩ := relays.step_eq log event
      (fun chunk member => filled chunk (mem_append_left _ member))
    obtain ⟨later, rest, passed_later⟩ := ih (log ++ more)
      (fun chunk member => filled chunk (mem_append_right _ member))
    refine ⟨more ++ later, ?_, ?_⟩
    · rw [play, foldl_cons, first, ← append_assoc]
      exact rest
    · rw [chunks_cons, flatten_append]
      exact passed.append passed_later

end Relays

end Entry

end Xice.Socket
