import Xice.Socket.Wrapper

/-!
# The pseudo-SSL socket

`pseudossl.c`: the socket sends a fixed client message, waits for a fixed server message, and then
passes bytes on. The server message is looked for in a single chunk.
-/

namespace Xice.Socket.PseudoSsl

open List

open Xice.Ice (XiceAddress)
open Entry (Passed)

/-- `PseudoSSLPriv`. -/
structure PseudoSSLPriv where
  /-- Whether the server message was seen. -/
  handshaken : Bool
  baseSocket : Bool
  /-- Messages that wait for the handshake. -/
  sendQueue : List ToBeSent
  deriving DecidableEq

/-- `SSL_SERVER_HANDSHAKE`. -/
def sslServerHandshake : List UInt8 :=
  [0x16, 0x03, 0x01, 0x00, 0x4a, 0x02, 0x00, 0x00,
    0x46, 0x03, 0x01, 0x42, 0x85, 0x45, 0xa7, 0x27,
    0xa9, 0x5d, 0xa0, 0xb3, 0xc5, 0xe7, 0x53, 0xda,
    0x48, 0x2b, 0x3f, 0xc6, 0x5a, 0xca, 0x89, 0xc1,
    0x58, 0x52, 0xa1, 0x78, 0x3c, 0x5b, 0x17, 0x46,
    0x00, 0x85, 0x3f, 0x20, 0x0e, 0xd3, 0x06, 0x72,
    0x5b, 0x5b, 0x1b, 0x5f, 0x15, 0xac, 0x13, 0xf9,
    0x88, 0x53, 0x9d, 0x9b, 0xe8, 0x3d, 0x7b, 0x0c,
    0x30, 0x32, 0x6e, 0x38, 0x4d, 0xa2, 0x75, 0x57,
    0x41, 0x6c, 0x34, 0x5c, 0x00, 0x04, 0x00]

/-- `SSL_CLIENT_HANDSHAKE`. -/
def sslClientHandshake : List UInt8 :=
  [0x80, 0x46, 0x01, 0x03, 0x01, 0x00, 0x2d, 0x00,
    0x00, 0x00, 0x10, 0x01, 0x00, 0x80, 0x03, 0x00,
    0x80, 0x07, 0x00, 0xc0, 0x06, 0x00, 0x40, 0x02,
    0x00, 0x80, 0x04, 0x00, 0x80, 0x00, 0x00, 0x04,
    0x00, 0xfe, 0xff, 0x00, 0x00, 0x0a, 0x00, 0xfe,
    0xfe, 0x00, 0x00, 0x09, 0x00, 0x00, 0x64, 0x00,
    0x00, 0x62, 0x00, 0x00, 0x03, 0x00, 0x00, 0x06,
    0x1f, 0x17, 0x0c, 0xa6, 0x2f, 0x00, 0x78, 0xfc,
    0x46, 0x55, 0x2e, 0xb1, 0x83, 0x39, 0xf1, 0xea]

/-- `xice_pseudossl_socket_new`. -/
def pseudosslSocketNew : Wrapper PseudoSSLPriv where
  priv := { handshaken := false, baseSocket := true, sendQueue := [] }
  log := [.send ⟨none, sslClientHandshake⟩]

/-- `socket_send`. -/
def socketSend (host : Host) (sock : Wrapper PseudoSSLPriv) (message : Message) :
    Wrapper PseudoSSLPriv × Bool :=
  let sock := sock.emit (.ask message)
  if sock.priv.handshaken then
    if sock.priv.baseSocket then sock.baseSend host message else (sock, false)
  else
    ({ sock with priv.sendQueue := addToBeSent sock.priv.sendQueue message }, true)

/-- The label `error` of `read_callback`. -/
def fail (host : Host) (sock : Wrapper PseudoSSLPriv) (condition : XiceSocketCondition) :
    Wrapper PseudoSSLPriv × Bool :=
  let sock := if sock.priv.baseSocket then sock.emit .free else sock
  let sock := { sock with priv.baseSocket := false }
  let condition := if condition = .readable then .error else condition
  ((sock.callback host (socketSend host) condition [] none).1, false)

/-- `read_callback` compares the server message by its own size and skips the size of the client
message. -/
def readCallback (host : Host) (sock : Wrapper PseudoSSLPriv) (condition : XiceSocketCondition)
    (buf : List UInt8) (source : Option XiceAddress) : Wrapper PseudoSSLPriv × Bool :=
  if buf = [] ∨ condition ≠ .readable then fail host sock condition
  else if sock.priv.handshaken then
    if sock.priv.baseSocket then
      sock.callback host (socketSend host) .readable buf source
    else (sock, false)
  else if sslServerHandshake.length ≤ buf.length ∧
      buf.take sslServerHandshake.length = sslServerHandshake then
    let queue := sock.priv.sendQueue
    let sock : Wrapper PseudoSSLPriv :=
      { priv := { sock.priv with handshaken := true, sendQueue := [] }
        log := sock.log ++ queue.map fun tbs => .send tbs.message }
    if sslServerHandshake.length < buf.length then
      sock.callback host (socketSend host) .readable
        (buf.drop sslClientHandshake.length) source
    else (sock, true)
  else fail host sock condition

/-- The functions of the socket for bytes from one source. -/
def entry (host : Host) (source : Option XiceAddress) : Entry PseudoSSLPriv where
  read sock buf := readCallback host sock .readable buf source
  send := socketSend host

variable (host : Host) (messages : List Message) (source : Option XiceAddress)

/-- Sending adds to the log. -/
theorem log_socketSend (sock : Wrapper PseudoSSLPriv) (message : Message) :
    sock.log <+: (socketSend host sock message).1.log := by
  by_cases handshaken : sock.priv.handshaken
  · by_cases baseSocket : sock.priv.baseSocket
    · simp [socketSend, Wrapper.emit, Wrapper.baseSend, handshaken, baseSocket]
    · simp [socketSend, Wrapper.emit, handshaken, baseSocket]
  · simp [socketSend, Wrapper.emit, handshaken]

/-- So does a failure, which is told. -/
theorem failed_fail (sock : Wrapper PseudoSSLPriv) (condition : XiceSocketCondition) :
    sock.log <+: (fail host sock condition).1.log ∧
      failed (fail host sock condition).1.log = true := by
  let freed := if sock.priv.baseSocket then sock.emit .free else sock
  let told : XiceSocketCondition := if condition = .readable then .error else condition
  have grows : sock.log <+: freed.log := by
    simp only [freed]
    split_ifs
    · exact Wrapper.log_emit _ _
    · exact prefix_rfl
  have call := Wrapper.log_callback host (log_socketSend host)
    { freed with priv.baseSocket := false } told [] none
  constructor
  · exact grows.trans ((prefix_append _ _).trans call)
  · apply failed_of_prefix call
    cases condition <;> simp [failed, told]

/-- So does every event. -/
theorem grows_entry : (entry host source).Grows := by
  constructor
  · exact log_socketSend host
  · intro sock buf
    have call : ∀ (sock : Wrapper PseudoSSLPriv) buf,
        sock.log <+: (sock.callback host (socketSend host) .readable buf source).1.log :=
      fun sock buf => (prefix_append sock.log _).trans
        (Wrapper.log_callback host (log_socketSend host) sock .readable buf source)
    simp only [entry, readCallback]
    split_ifs
    · exact (failed_fail host sock _).1
    · exact call sock buf
    · exact prefix_rfl
    · apply List.IsPrefix.trans _ (call _ _)
      exact prefix_append _ _
    · exact prefix_append _ _
    · exact (failed_fail host sock _).1

/-- The socket relays after the handshake. -/
theorem relays_of_handshaken {priv : PseudoSSLPriv} (handshaken : priv.handshaken = true)
    (baseSocket : priv.baseSocket = true) : (entry host source).Relays host source priv := by
  constructor
  · intro log message
    simp [entry, socketSend, Wrapper.emit, handshaken, baseSocket]
  · intro log buf filled
    simp [entry, readCallback, filled, handshaken, baseSocket]

/-- It queues before. -/
theorem queues_before :
    (entry host source).Queues fun queue =>
      { handshaken := false, baseSocket := true, sendQueue := queue } := by
  intro queue log message
  simp [entry, socketSend, Wrapper.emit]

/-- Messages were sent before any byte was read. -/
def waitingLog (messages : List Message) : List Effect :=
  .send ⟨none, sslClientHandshake⟩ :: messages.map .ask

/-- A chunk that begins with the server message was read. -/
def opened (messages : List Message) : Wrapper PseudoSSLPriv where
  priv := { handshaken := true, baseSocket := true, sendQueue := [] }
  log := waitingLog messages ++ (toBeSent messages).map fun tbs => .send tbs.message

/-- Nothing was delivered. -/
@[simp] theorem delivered_opened : delivered (opened messages).log = [] := by
  simp [delivered, opened, waitingLog]

/-- No error was told. -/
@[simp] theorem failed_opened : failed (opened messages).log = false := by
  simp [failed, opened, waitingLog]

/-- The queue was sent. -/
@[simp] theorem sent_opened :
    sent (opened messages).log =
      ⟨none, sslClientHandshake⟩ :: (toBeSent messages).map ToBeSent.message := by
  simp [sent, opened, waitingLog, filterMap_map]

/-- The messages were asked for. -/
@[simp] theorem asked_opened : asked (opened messages).log = messages := by
  simp [asked, opened, waitingLog, filterMap_map]

/-- The socket relays then. -/
theorem relays_opened (messages : List Message) :
    (entry host source).Relays host source (opened messages).priv :=
  relays_of_handshaken host source rfl rfl

section Handshake

variable (host : Host) (source : Option XiceAddress) (before : List Message)

/-- Messages wait before the first chunk. -/
theorem play_before :
    (entry host source).play pseudosslSocketNew (before.map .send) =
      ⟨{ handshaken := false, baseSocket := true, sendQueue := toBeSent before },
        waitingLog before⟩ :=
  (queues_before host source).play_send [] _ before

/-- A chunk that is the server message opens the socket. -/
theorem read_handshake :
    (entry host source).read
        ((entry host source).play pseudosslSocketNew (before.map .send)) sslServerHandshake =
      (opened before, true) := by
  rw [play_before]
  simp [entry, readCallback, opened, show sslServerHandshake ≠ [] by decide]

/-- A longer chunk opens the socket too, but the end of the server message is delivered. -/
theorem read_longer (more : List UInt8) (some_more : more ≠ []) :
    (entry host source).read
        ((entry host source).play pseudosslSocketNew (before.map .send))
        (sslServerHandshake ++ more) =
      (opened before).callback host (socketSend host) .readable
        (sslServerHandshake.drop sslClientHandshake.length ++ more) source := by
  have longer : 0 < more.length := length_pos_of_ne_nil some_more
  have skipped : (sslServerHandshake ++ more).drop sslClientHandshake.length =
      sslServerHandshake.drop sslClientHandshake.length ++ more :=
    drop_append_of_le_length (by decide)
  rw [play_before]
  simp [entry, readCallback, opened, show sslServerHandshake ≠ [] by decide, longer, skipped]

/-- A shorter chunk fails. -/
theorem read_shorter (chunk : List UInt8) (short : chunk.length < sslServerHandshake.length) :
    (entry host source).read
        ((entry host source).play pseudosslSocketNew (before.map .send)) chunk =
      fail host ((entry host source).play pseudosslSocketNew (before.map .send)) .readable := by
  rw [play_before]
  have missing : ¬(sslServerHandshake.length ≤ chunk.length ∧
      chunk.take sslServerHandshake.length = sslServerHandshake) := by omega
  by_cases empty : chunk = []
  · simp [entry, readCallback, empty]
  · simp only [entry, readCallback, empty, ne_eq, not_true_eq_false, or_self, if_false,
      if_neg missing]
    rfl

/-- The first chunk is the server message. -/
theorem log_of_handshake (events : List Event) (filled : ∀ chunk ∈ chunks events, chunk ≠ []) :
    ∃ more, ((entry host source).play pseudosslSocketNew
        (before.map .send ++ .readable sslServerHandshake :: events)).log =
        (opened before).log ++ more ∧ Passed (chunks events).flatten more := by
  obtain ⟨more, run, passed⟩ :=
    (relays_opened host source before).play_eq (opened before).log events filled
  refine ⟨more, ?_, passed⟩
  rw [Entry.play_append, Entry.play_cons, Entry.step, read_handshake]
  exact congrArg Wrapper.log run

/-- The first chunk is longer. -/
theorem delivered_of_longer (more : List UInt8) (some_more : more ≠ []) (events : List Event)
    (filled : ∀ chunk ∈ chunks events, chunk ≠ []) :
    delivered ((entry host source).play pseudosslSocketNew
        (before.map .send ++ .readable (sslServerHandshake ++ more) :: events)).log =
      sslServerHandshake.drop sslClientHandshake.length ++ (more ++ (chunks events).flatten) := by
  have relays := relays_opened host source before
  obtain ⟨early, call, passed⟩ := relays.callback_passed (opened before).log
    (sslServerHandshake.drop sslClientHandshake.length ++ more) source
  obtain ⟨later, run, passed_later⟩ := relays.play_eq ((opened before).log ++ early) events filled
  rw [Entry.play_append, Entry.play_cons, Entry.step,
    read_longer host source before more some_more]
  change delivered ((entry host source).play
    (Wrapper.callback host (entry host source).send _ _ _ _).1 events).log = _
  rw [call, run]
  simp [passed.up, passed_later.up]

/-- The first chunk is shorter. -/
theorem failed_of_shorter (first : List UInt8)
    (short : first.length < sslServerHandshake.length) (events : List Event) :
    failed ((entry host source).play pseudosslSocketNew
      (before.map .send ++ .readable first :: events)).log = true := by
  have told := (failed_fail host
    ((entry host source).play pseudosslSocketNew (before.map .send)) .readable).2
  rw [← read_shorter host source before first short] at told
  rw [Entry.play_append, Entry.play_cons]
  exact failed_of_prefix ((grows_entry host source).play _ events) told

/-- The socket is transparent exactly when the first chunk is the server message and nothing else.
-/
theorem handshake_transparent_iff (first app : List UInt8) (events : List Event)
    (filled : ∀ chunk ∈ chunks events, chunk ≠ [])
    (stream : first ++ (chunks events).flatten = sslServerHandshake ++ app) :
    let log := ((entry host source).play pseudosslSocketNew
      (before.map .send ++ .readable first :: events)).log
    (failed log = false ∧ delivered log = app ∧
        sent log = ⟨none, sslClientHandshake⟩ :: (toBeSent before).map ToBeSent.message ++
          (asked log).drop before.length) ↔
      first = sslServerHandshake := by
  intro log
  constructor
  · rintro ⟨quiet, bytes, -⟩
    rcases append_eq_append_iff.mp stream with ⟨missing, whole, -⟩ | ⟨more, rfl, rest⟩
    · by_cases none_missing : missing = []
      · simpa [none_missing] using whole.symm
      · have short : first.length < sslServerHandshake.length := by
          have := length_pos_of_ne_nil none_missing
          rw [whole, length_append]
          omega
        have told := failed_of_shorter host source before first short events
        exact absurd (told.symm.trans quiet) (by decide)
    · by_cases some_more : more = []
      · rw [some_more, append_nil]
      · have wrong := delivered_of_longer host source before more some_more events filled
        have lengths := congrArg List.length (wrong.symm.trans bytes)
        rw [rest] at lengths
        have seven : (sslServerHandshake.drop sslClientHandshake.length).length = 7 := by decide
        simp only [length_append, seven] at lengths
        omega
  · rintro rfl
    have app_eq : (chunks events).flatten = app := append_cancel_left stream
    obtain ⟨more, run, passed⟩ := log_of_handshake host source before events filled
    have log_eq : log = (opened before).log ++ more := run
    rw [log_eq, failed_append, delivered_append, sent_append, asked_append, passed.up, passed.down,
      passed.quiet, app_eq]
    simp [failed_opened, delivered_opened, sent_opened, asked_opened]

end Handshake

/-- A message waits; the server message and two bytes come in three chunks. -/
theorem transparent_after_whole_handshake :
    let log := ((entry .content none).play pseudosslSocketNew
      [.send ⟨none, [7]⟩, .readable sslServerHandshake, .readable [1], .readable [2]]).log
    failed log = false ∧ delivered log = [1, 2] ∧
      sent log = [⟨none, sslClientHandshake⟩, ⟨some .unspec, [7]⟩] := by
  have run := (handshake_transparent_iff .content none [⟨none, [7]⟩] sslServerHandshake [1, 2]
    [.readable [1], .readable [2]] (by decide) (by decide)).mpr rfl
  exact run

/-- A byte in the chunk of the server message comes up behind the last seven bytes of that message,
and a chunk that ends inside it is an error. -/
theorem garbled_by_other_chunks :
    delivered ((entry .content none).play pseudosslSocketNew
      [.readable (sslServerHandshake ++ [1])]).log =
        [0x41, 0x6c, 0x34, 0x5c, 0x00, 0x04, 0x00, 1] ∧
    failed ((entry .content none).play pseudosslSocketNew
      [.readable (sslServerHandshake.take 40), .readable (sslServerHandshake.drop 40)]).log =
        true := by
  decide +kernel

end Xice.Socket.PseudoSsl
