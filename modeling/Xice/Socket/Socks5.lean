import Xice.Socket.Wrapper

/-!
# The SOCKS5 socket

`socks5.c`: the socket negotiates a method, authenticates where the server asks for it, asks for a
connection, and then passes bytes on. The labels of `read_callback` are functions here, each of
which goes on to a later state, so their chain ends.
-/

namespace Xice.Socket.Socks5

open Xice.Ice (XiceAddress)
open Xice.Lib List
open Entry (Passed)

variable {said : Nat} {result : Wrapper Socks5Priv × Bool} {last : List UInt8}

/-- `SocksState`. -/
inductive SocksState where
  | init
  | auth
  | connect
  | connected
  | error
  deriving DecidableEq, Repr

/-- `Socks5Priv`. `recv_len` is the length of `recvBuf`. -/
structure Socks5Priv where
  state : SocksState
  baseSocket : Bool
  addr : XiceAddress
  username : Option (List UInt8)
  password : Option (List UInt8)
  /-- Messages that wait for the connection. -/
  sendQueue : List ToBeSent
  recvBuf : List UInt8
  deriving DecidableEq

variable (host : Host) (sock : Wrapper Socks5Priv) (source : Option XiceAddress)
  (condition : XiceSocketCondition)

/-- The methods that the socket offers. -/
def greeting (username password : Option (List UInt8)) : List UInt8 :=
  if username.isSome || password.isSome then [0x05, 0x02, 0x00, 0x02] else [0x05, 0x01, 0x00]

/-- `xice_socks5_socket_new` with an address. -/
def socks5SocketNew (addr : XiceAddress) (username password : Option (List UInt8)) :
    Wrapper Socks5Priv where
  priv := {
    state := .init
    baseSocket := true
    addr := addr
    username := username
    password := password
    sendQueue := []
    recvBuf := [] }
  log := [.send ⟨none, greeting username password⟩]

/-- `socket_send`. -/
def socketSend (message : Message) : Wrapper Socks5Priv × Bool :=
  let sock := sock.emit (.ask message)
  match sock.priv.state with
  | .connected => if sock.priv.baseSocket then sock.baseSend host message else (sock, false)
  | .error => (sock, false)
  | _ => ({ sock with priv.sendQueue := addToBeSent sock.priv.sendQueue message }, true)

/-- The label `error` of `read_callback`. -/
def fail : Wrapper Socks5Priv × Bool :=
  let sock := if sock.priv.baseSocket then sock.emit .free else sock
  let sock := { sock with priv.baseSocket := false, priv.state := .error }
  let condition := if condition = .readable then .error else condition
  ((sock.callback host (socketSend host) condition [] none).1, false)

/-- The case `SOCKS_STATE_CONNECTED` of `read_callback`. -/
def connected : Wrapper Socks5Priv × Bool :=
  let read := sock.priv.recvBuf.length
  let (sock, ret) :=
    if 0 < read then
      sock.callback host (socketSend host) .readable sock.priv.recvBuf source
    else (sock, false)
  ({ sock with priv.recvBuf := sock.priv.recvBuf.drop read }, ret)

/-- The case `SOCKS_STATE_CONNECT`. The reply counts six or eighteen bytes, and the bytes kept begin
behind the second one. -/
def connect (source : Option XiceAddress) : Wrapper Socks5Priv × Bool :=
  let data := sock.priv.recvBuf
  if data.length < 4 then (sock, true)
  else if data.getD 0 0 ≠ 0x05 then fail host sock condition
  else if data.getD 1 0 ≠ 0x00 then fail host sock condition
  else if data.getD 2 0 ≠ 0x00 then fail host sock condition
  else if data.getD 3 0 ≠ 0x01 ∧ data.getD 3 0 ≠ 0x04 then fail host sock condition
  else if data.getD 3 0 = 0x01 ∧ data.length < 6 + 4 then (sock, true)
  else if data.getD 3 0 = 0x04 ∧ data.length < 18 + 4 then (sock, true)
  else
    let skip := if data.getD 3 0 = 0x01 then 6 else 18
    let queue := sock.priv.sendQueue
    let sock : Wrapper Socks5Priv := {
      priv := { sock.priv with
        recvBuf := (data.drop 2).take (data.length - skip)
        sendQueue := []
        state := .connected }
      log := sock.log ++ queue.map fun tbs => .send tbs.message }
    connected host sock source

/-- The CONNECT request. -/
def connectRequest (addr : XiceAddress) : List UInt8 :=
  [0x05, 0x01, 0x00] ++
    match addr with
    | .ip4 ip port => [0x01] ++ htonl ip ++ htons port
    | .ip6 ip port _ =>
      [0x04] ++ (List.range 16).map (fun index : Nat => UInt8.ofNat (ip >>> (8 * (15 - index))).toNat) ++
        htons port
    | .unspec => []

/-- The label `send_connect` of `read_callback`. -/
def sendConnect (source : Option XiceAddress) : Wrapper Socks5Priv × Bool :=
  let sock := sock.emit (.send ⟨none, connectRequest sock.priv.addr⟩)
  connect host { sock with priv.state := .connect } condition source

/-- The case `SOCKS_STATE_AUTH` of `read_callback`. -/
def auth (source : Option XiceAddress) : Wrapper Socks5Priv × Bool :=
  let data := sock.priv.recvBuf
  if data.length < 2 then (sock, true)
  else if data.getD 0 0 ≠ 0x01 ∨ data.getD 1 0 ≠ 0x00 then fail host sock condition
  else sendConnect host { sock with priv.recvBuf := data.drop 2 } condition source

/-- The user name and password request. -/
def authRequest (username password : List UInt8) : List UInt8 :=
  [0x01, username.length.toUInt8] ++ username ++ [password.length.toUInt8] ++ password

/-- The case `SOCKS_STATE_INIT` of `read_callback`. -/
def init (source : Option XiceAddress) : Wrapper Socks5Priv × Bool :=
  let data := sock.priv.recvBuf
  if data.length < 2 then (sock, true)
  else
    let sock := { sock with priv.recvBuf := data.drop 2 }
    if data.getD 0 0 ≠ 0x05 then fail host sock condition
    else if data.getD 1 0 ≠ 0x02 ∧ data.getD 1 0 ≠ 0x00 then fail host sock condition
    else if data.getD 1 0 = 0x02 then
      let username := sock.priv.username.getD []
      let password := sock.priv.password.getD []
      if sock.priv.username.isNone ∧ sock.priv.password.isNone then fail host sock condition
      else if 255 < username.length then fail host sock condition
      else if 255 < password.length then fail host sock condition
      else
        let sock := sock.emit (.send ⟨none, authRequest username password⟩)
        auth host { sock with priv.state := .auth } condition source
    else sendConnect host sock condition source

/-- `read_callback`. -/
def readCallback (buf : List UInt8) (source : Option XiceAddress) : Wrapper Socks5Priv × Bool :=
  if buf = [] then (sock, false)
  else if sock.priv.state = .connected then
    if sock.priv.baseSocket then
      sock.callback host (socketSend host) .readable buf (some sock.priv.addr)
    else (sock, false)
  else
    let sock := { sock with priv.recvBuf := sock.priv.recvBuf ++ buf }
    match sock.priv.state with
    | .connected => connected host sock source
    | .init => init host sock condition source
    | .auth => auth host sock condition source
    | .connect => connect host sock condition source
    | .error => fail host sock condition

/-- The upper layer is called when there is something to give. -/
theorem connected_fst {sock called : Wrapper Socks5Priv} {source : Option XiceAddress}
    (filled : 0 < sock.priv.recvBuf.length)
    (call : (sock.callback host (socketSend host) .readable sock.priv.recvBuf source).1 = called) :
    (connected host sock source).1 =
      { called with priv.recvBuf := called.priv.recvBuf.drop sock.priv.recvBuf.length } := by
  simp only [connected, if_pos filled, call]

/-- The functions of the socket for bytes from one source. -/
def entry : Entry Socks5Priv where
  read sock buf := readCallback host sock .readable buf source
  send := socketSend host

/-- The socket relays from then on. -/
theorem relays_of_connected {priv : Socks5Priv} (state : priv.state = .connected)
    (baseSocket : priv.baseSocket = true) :
    (entry host source).Relays host (some priv.addr) priv := by
  constructor
  · intro log message
    simp [entry, socketSend, Wrapper.emit, state, baseSocket]
  · intro log buf filled
    simp [entry, readCallback, filled, state, baseSocket]

/-- A client and the answers of a server that accepts it. -/
structure Session where
  addr : XiceAddress
  username : Option (List UInt8)
  password : Option (List UInt8)
  /-- The server chooses user name and password. -/
  authenticated : Bool
  /-- It was offered, and the client can say its credentials. -/
  agreed : authenticated = true → (username.isSome || password.isSome) = true ∧
    (username.getD []).length ≤ 255 ∧ (password.getD []).length ≤ 255
  /-- Whether the bound address is an IPv6 address. -/
  ip6 : Bool
  bound : List UInt8
  /-- Sizes of the two kinds of addresses. -/
  bound_length : bound.length = if ip6 then 18 else 6

namespace Session

variable (session : Session)

/-- The reply to the CONNECT request. -/
def reply : List UInt8 := [0x05, 0x00, 0x00, if session.ip6 then 0x04 else 0x01] ++ session.bound

/-- The server up to the reply to the CONNECT request. -/
def answers : List UInt8 :=
  [0x05, if session.authenticated then 0x02 else 0x00] ++
    (if session.authenticated then [0x01, 0x00] else [])

/-- What the server says before the connection stands. -/
def handshake : List UInt8 := session.answers ++ session.reply

/-- The socket of the session. -/
def fresh : Wrapper Socks5Priv := socks5SocketNew session.addr session.username session.password

/-- What the socket says to the server. -/
def requests : List Message :=
  [⟨none, greeting session.username session.password⟩] ++
    (if session.authenticated then
      [⟨none, authRequest (session.username.getD []) (session.password.getD [])⟩] else []) ++
    [⟨none, connectRequest session.addr⟩]

/-- The record while the socket waits. -/
def priv (state : SocksState) (messages : List Message) (recvBuf : List UInt8) : Socks5Priv where
  state := state
  baseSocket := true
  addr := session.addr
  username := session.username
  password := session.password
  sendQueue := toBeSent messages
  recvBuf := recvBuf

/-- How much was said and used in a state. -/
inductive Stage : SocksState → (used : Nat) → (said : Nat) → Prop
  | init : Stage .init 0 1
  | auth (authenticated : session.authenticated = true) : Stage .auth 2 2
  | connect : Stage .connect session.answers.length session.requests.length

/-- The socket that has read a part of the handshake. -/
inductive Waiting (fed : List UInt8) (messages : List Message) : Wrapper Socks5Priv → Prop
  | intro {state : SocksState} {used said : Nat} {log : List Effect}
      (stage : session.Stage state used said) (enough : used ≤ fed.length)
      (silent : Silent (session.requests.take said) messages log) :
      Waiting fed messages ⟨session.priv state messages (fed.drop used), log⟩

/-- The socket has read the handshake and `early` bytes behind it. -/
inductive Open (early : List UInt8) (messages : List Message) : Wrapper Socks5Priv → Prop
  | intro {log : List Effect}
      (silent : Silent session.requests messages log) :
      Open early messages
        ⟨session.priv .connected [] (((session.reply ++ early).drop 2).take (early.length + 4)),
          log ++ (toBeSent messages).map fun tbs => .send tbs.message⟩

/-- What a part of the stream of the server leads to. -/
inductive Leads (host : Host) (source : Option XiceAddress) (messages : List Message) :
    (fed : List UInt8) → Wrapper Socks5Priv × Bool → Prop
  /-- The handshake is not over. -/
  | wait {fed : List UInt8} {sock : Wrapper Socks5Priv}
      (short : fed.length < session.handshake.length)
      (waiting : session.Waiting fed messages sock) : Leads host source messages fed (sock, true)
  /-- The handshake is over. -/
  | done {early : List UInt8} {sock : Wrapper Socks5Priv}
      (opened : session.Open early messages sock) :
      Leads host source messages (session.handshake ++ early) (connected host sock source)

section Handshake

variable {session : Session} (host : Host) (source : Option XiceAddress) {messages : List Message}
  {log : List Effect}

variable (condition : XiceSocketCondition) {app fed early : List UInt8}
  {sock : Wrapper Socks5Priv}

/-- A reply has room for an address. -/
theorem length_reply : session.reply.length = if session.ip6 then 22 else 10 := by
  rw [reply, length_append, session.bound_length]
  split <;> rfl

/-- The first bytes of the reply, behind which anything may stand. -/
theorem front_reply (more : List UInt8) :
    (session.reply ++ more).getD 0 0 = 0x05 ∧ (session.reply ++ more).getD 1 0 = 0x00 ∧
      (session.reply ++ more).getD 2 0 = 0x00 ∧
      (session.reply ++ more).getD 3 0 = if session.ip6 then 0x04 else 0x01 := by
  simp [reply]

/-- A part of the reply to the CONNECT request is not enough. -/
theorem connect_of_part {count : Nat} (short : count < session.reply.length) :
    connect host ⟨session.priv .connect messages (session.reply.take count), log⟩ condition source =
      (⟨session.priv .connect messages (session.reply.take count), log⟩, true) := by
  rw [length_reply] at short
  have length : (session.reply.take count).length = count := by
    rw [length_take, length_reply]
    omega
  by_cases tiny : count < 4
  · simp [connect, priv, length, tiny]
  · obtain ⟨rest, rfl⟩ : ∃ rest, count = rest + 4 := ⟨count - 4, by omega⟩
    cases ip6 : session.ip6 with
    | false =>
      have : rest < 6 := by simp [ip6] at short; omega
      simp [connect, priv, reply, ip6, session.bound_length]
      omega
    | true =>
      have : rest < 18 := by simp [ip6] at short; omega
      simp [connect, priv, reply, ip6, session.bound_length]
      omega

/-- The whole reply opens the connection. -/
theorem connect_of_whole (early : List UInt8) :
    connect host ⟨session.priv .connect messages (session.reply ++ early), log⟩ condition source =
      connected host
        ⟨session.priv .connected [] (((session.reply ++ early).drop 2).take (early.length + 4)),
          log ++ (toBeSent messages).map fun tbs => .send tbs.message⟩ source := by
  have size : (session.reply ++ early).length =
      early.length + 4 + (if session.ip6 then 18 else 6) := by
    rw [length_append, length_reply]
    split <;> omega
  cases ip6 : session.ip6 with
  | false =>
    simp only [ip6, Bool.false_eq_true, if_false] at size
    simp only [connect, priv, front_reply, ip6, size]
    rw [if_neg (by omega)]
    simp only [ne_eq, not_true_eq_false, Bool.false_eq_true, if_false, false_and, if_true,
      Nat.add_sub_cancel]
    rw [if_neg (by omega), if_neg (by simp)]
    rfl
  | true =>
    simp only [ip6, if_true] at size
    simp only [connect, priv, front_reply, ip6, size]
    rw [if_neg (by omega)]
    simp only [ne_eq, not_true_eq_false, if_false, if_true, and_false]
    rw [if_neg (by simp), if_neg (by omega), if_neg (by decide)]
    simp only [Nat.add_sub_cancel]
    rfl

/-- The reply is read. -/
theorem leads_connect (part : fed <+: session.handshake ++ app)
    (enough : session.answers.length ≤ fed.length) (silent : Silent session.requests messages log) :
    session.Leads host source messages fed
      (connect host ⟨session.priv .connect messages (fed.drop session.answers.length), log⟩
        condition source) := by
  by_cases short : fed.length < session.handshake.length
  · have inside : (session.handshake ++ app).take fed.length =
        session.handshake.take fed.length := take_append_of_le_length (by omega)
    have fed_eq : fed = session.handshake.take fed.length := by
      rw [← inside]
      exact prefix_iff_eq_take.mp part
    have rest : fed.drop session.answers.length =
        session.reply.take (fed.length - session.answers.length) := by
      conv_lhs => rw [fed_eq, handshake, drop_take, drop_left]
    have waiting := Waiting.intro Stage.connect enough
      (by rw [take_length]; exact silent)
    rw [rest] at waiting ⊢
    rw [connect_of_part]
    · exact Leads.wait short waiting
    · rw [handshake, length_append] at short
      omega
  · obtain ⟨early, rfl⟩ : session.handshake <+: fed :=
      prefix_of_prefix_length_le (prefix_append _ _) part (by omega)
    have rest : (session.handshake ++ early).drop session.answers.length =
        session.reply ++ early := by
      rw [handshake, append_assoc, drop_left]
    rw [rest, connect_of_whole]
    exact Leads.done (Open.intro silent)

/-- The next request is sent. -/
theorem silent_emit (silent : Silent (session.requests.take said) messages log) {message : Message}
    (next : session.requests[said]? = some message) :
    Silent (session.requests.take (said + 1)) messages (log ++ [.send message]) := by
  constructor
  · rw [sent_append, silent.sent, take_add_one, next]
    rfl
  · rw [asked_append, silent.asked]
    exact append_nil _
  · rw [delivered_append, silent.delivered]
    rfl
  · rw [failed_append, silent.quiet]
    rfl

/-- The request for the connection, and the stage behind it. -/
theorem leads_sendConnect (state : SocksState)
    (part : fed <+: session.handshake ++ app) (enough : session.answers.length ≤ fed.length)
    (last : session.requests.length = said + 1)
    (silent : Silent (session.requests.take said) messages log) :
    session.Leads host source messages fed
      (sendConnect host ⟨session.priv state messages (fed.drop session.answers.length), log⟩
        condition source) := by
  have next : session.requests[said]? = some ⟨none, connectRequest session.addr⟩ := by
    have := getLast?_eq_getElem? (l := session.requests)
    rw [last, Nat.add_sub_cancel] at this
    rw [← this, requests, getLast?_append]
    rfl
  have more := silent_emit silent next
  rw [← last, take_length] at more
  exact leads_connect host source condition part enough more

/-- The authentication is read. -/
theorem leads_auth (authenticated : session.authenticated = true)
    (part : fed <+: session.handshake ++ app) (enough : 2 ≤ fed.length)
    (silent : Silent (session.requests.take 2) messages log) :
    session.Leads host source messages fed
      (auth host ⟨session.priv .auth messages (fed.drop 2), log⟩ condition source) := by
  have answers : session.answers = [0x05, 0x02, 0x01, 0x00] := by simp [answers, authenticated]
  have last : session.requests.length = 3 := by simp [requests, authenticated]
  by_cases short : fed.length < 4
  · have waits : auth host ⟨session.priv .auth messages (fed.drop 2), log⟩ condition source =
        (⟨session.priv .auth messages (fed.drop 2), log⟩, true) := by
      have : fed.length - 2 < 2 := by omega
      simp [auth, priv, this]
    rw [waits]
    apply Leads.wait
    · rw [handshake, length_append, answers]
      simp
      omega
    · exact Waiting.intro (Stage.auth authenticated) enough silent
  · obtain ⟨rest, rfl⟩ : session.answers <+: fed := by
      rw [handshake, append_assoc] at part
      apply prefix_of_prefix_length_le (prefix_append _ _) part
      rw [answers]
      exact Nat.not_lt.mp short
    have goes : auth host ⟨session.priv .auth messages ((session.answers ++ rest).drop 2), log⟩
          condition source =
        sendConnect host ⟨session.priv .auth messages
          ((session.answers ++ rest).drop session.answers.length), log⟩ condition source := by
      simp [auth, priv, answers]
    rw [goes]
    exact leads_sendConnect host source condition .auth part (by simp) last silent

/-- The greeting is read. -/
theorem leads_init (part : fed <+: session.handshake ++ app)
    (silent : Silent (session.requests.take 1) messages log) :
    session.Leads host source messages fed
      (init host ⟨session.priv .init messages fed, log⟩ condition source) := by
  by_cases short : fed.length < 2
  · have waits : init host ⟨session.priv .init messages fed, log⟩ condition source =
        (⟨session.priv .init messages fed, log⟩, true) := by
      simp [init, priv, short]
    rw [waits]
    apply Leads.wait
    · rw [handshake, answers, length_append, length_append]
      simp
      omega
    · exact Waiting.intro Stage.init (Nat.zero_le _) silent
  · have choice : [0x05, if session.authenticated then 0x02 else 0x00] <+: fed := by
      rw [handshake, answers, append_assoc, append_assoc] at part
      apply prefix_of_prefix_length_le (prefix_append _ _) part
      exact Nat.not_lt.mp short
    cases authenticated : session.authenticated with
    | false =>
      have answers : session.answers = [0x05, 0x00] := by simp [answers, authenticated]
      have last : session.requests.length = 2 := by simp [requests, authenticated]
      obtain ⟨rest, rfl⟩ := choice
      have goes : init host ⟨session.priv .init messages ([0x05, if session.authenticated then 0x02
            else 0x00] ++ rest), log⟩ condition source =
          sendConnect host ⟨session.priv .init messages (([0x05, if session.authenticated then 0x02
            else 0x00] ++ rest).drop session.answers.length), log⟩ condition source := by
        simp [init, priv, answers, authenticated]
      rw [goes]
      exact leads_sendConnect host source condition .init part (by simp [answers]) last silent
    | true =>
      obtain ⟨offered, short_name, short_password⟩ := session.agreed authenticated
      obtain ⟨rest, rfl⟩ := choice
      have goes : init host ⟨session.priv .init messages ([0x05, if session.authenticated then 0x02
            else 0x00] ++ rest), log⟩ condition source =
          auth host ⟨session.priv .auth messages (([0x05, if session.authenticated then 0x02
            else 0x00] ++ rest).drop 2),
            log ++ [.send ⟨none, authRequest (session.username.getD []) (session.password.getD [])⟩]⟩
            condition source := by
        have given : ¬(session.username.isNone = true ∧ session.password.isNone = true) := by
          rintro ⟨no_name, no_password⟩
          rw [Option.isNone_iff_eq_none] at no_name no_password
          simp [no_name, no_password] at offered
        simp only [init, priv, authenticated, if_true, cons_append, nil_append,
          length_cons, getD_cons_zero, getD_cons_succ, drop_succ_cons,
          drop_zero, ne_eq, not_true_eq_false, false_and, if_false, if_neg given,
          if_neg (Nat.not_lt.mpr short_name), if_neg (Nat.not_lt.mpr short_password)]
        rw [if_neg (by omega)]
        rfl
      rw [goes]
      apply leads_auth host source condition authenticated part
      · simp
      · apply silent_emit silent
        simp [requests, authenticated]

/-- The upper layer heard nothing. -/
theorem Waiting.silent (waiting : session.Waiting fed messages sock) :
    ∃ out, Silent out messages sock.log := by
  cases waiting with
  | intro stage enough silent => exact ⟨_, silent⟩

/-- The bytes that complete the handshake open the connection. -/
theorem Leads.opened
    (leads : session.Leads host source messages fed result)
    (completes : fed = session.handshake ++ early) :
    ∃ sock, session.Open early messages sock ∧ result = connected host sock source := by
  cases leads with
  | wait short waiting =>
    rw [completes, length_append] at short
    omega
  | done opened =>
    obtain rfl := append_cancel_left completes
    exact ⟨_, opened, rfl⟩

/-- A part leaves the socket waiting. -/
theorem Leads.waiting
    (leads : session.Leads host source messages fed result)
    (short : fed.length < session.handshake.length) : session.Waiting fed messages result.1 := by
  cases leads with
  | wait _ waiting => exact waiting
  | done opened =>
    rw [length_append] at short
    omega

/-- A chunk is read. -/
theorem Waiting.read (app : List UInt8) {buf : List UInt8}
    (waiting : session.Waiting fed messages sock) (filled : buf ≠ [])
    (part : fed ++ buf <+: session.handshake ++ app) :
    session.Leads host source messages (fed ++ buf) ((entry host source).read sock buf) := by
  cases waiting with
  | @intro state used said log stage enough silent =>
    have kept : fed.drop used ++ buf = (fed ++ buf).drop used :=
      (drop_append_of_le_length enough).symm
    have more : fed.length ≤ (fed ++ buf).length := by simp
    cases stage with
    | init =>
      have goes : (entry host source).read ⟨session.priv .init messages (fed.drop 0), log⟩ buf =
          init host ⟨session.priv .init messages (fed ++ buf), log⟩ .readable source := by
        simp [entry, readCallback, filled, priv]
      rw [goes]
      exact leads_init host source .readable part silent
    | auth authenticated =>
      have goes : (entry host source).read ⟨session.priv .auth messages (fed.drop 2), log⟩ buf =
          auth host ⟨session.priv .auth messages ((fed ++ buf).drop 2), log⟩ .readable source := by
        rw [← kept]
        simp [entry, readCallback, filled, priv]
      rw [goes]
      exact leads_auth host source .readable authenticated part (enough.trans more) silent
    | connect =>
      have goes : (entry host source).read
            ⟨session.priv .connect messages (fed.drop session.answers.length), log⟩ buf =
          connect host ⟨session.priv .connect messages
            ((fed ++ buf).drop session.answers.length), log⟩ .readable source := by
        rw [← kept]
        simp [entry, readCallback, filled, priv]
      rw [goes]
      rw [take_length] at silent
      exact leads_connect host source .readable part (enough.trans more) silent

/-- A message is queued. -/
theorem Waiting.send (waiting : session.Waiting fed messages sock) (message : Message) :
    session.Waiting fed (messages ++ [message]) ((entry host source).send sock message).1 := by
  cases waiting with
  | @intro state used said log stage enough silent =>
    have goes : ((entry host source).send ⟨session.priv state messages (fed.drop used), log⟩
          message).1 =
        ⟨session.priv state (messages ++ [message]) (fed.drop used), log ++ [.ask message]⟩ := by
      cases stage <;> simp [entry, socketSend, Wrapper.emit, priv, toBeSent_concat]
    rw [goes]
    exact Waiting.intro stage enough (silent.ask message)

/-- The socket awaits its handshake. -/
theorem awaits_handshake (session : Session) :
    (entry host source).Awaits (fun _ buf => buf ≠ []) session.handshake session.Waiting := by
  constructor
  · intro fed messages sock waiting message
    exact waiting.send host source message
  · rintro fed messages sock buf waiting filled ⟨app, part⟩ short
    exact (waiting.read host source app filled part).waiting host source short

/-- A new socket waits. -/
theorem waiting_fresh (session : Session) : session.Waiting [] [] session.fresh := by
  have silent : Silent (session.requests.take 1) [] session.fresh.log := by
    constructor <;> simp [fresh, socks5SocketNew, requests, sent, asked, delivered, failed]
  exact Waiting.intro Stage.init (Nat.zero_le _) silent

/-- The bytes that come with `early` bytes behind the handshake. -/
def leftover (session : Session) (early : List UInt8) : List UInt8 :=
  ((session.reply ++ early).drop 2).take (early.length + 4)

/-- Four bytes are left over. -/
theorem length_leftover (early : List UInt8) :
    (session.leftover early).length = early.length + 4 := by
  have long : 6 ≤ session.reply.length := by
    rw [length_reply]
    split <;> omega
  rw [leftover, length_take, length_drop, length_append]
  omega

/-- The socket relays. -/
theorem relays_connected (session : Session) (host : Host) (source : Option XiceAddress)
    (recvBuf : List UInt8) :
    (entry host source).Relays host (some session.addr) (session.priv .connected [] recvBuf) := by
  have relays : (entry host source).Relays host (some (session.priv .connected [] recvBuf).addr)
      (session.priv .connected [] recvBuf) := relays_of_connected host source rfl rfl
  exact relays

/-- The upper layer gets the kept bytes, and the socket relays. -/
theorem Open.connected (opened : session.Open early messages sock) :
    ∃ log more, (Socks5.connected host sock source).1 =
        ⟨session.priv .connected [] [],
          log ++ (toBeSent messages).map (fun tbs => .send tbs.message) ++ more⟩ ∧
      Silent session.requests messages log ∧
      Passed (session.leftover early) more := by
  cases opened with
  | @intro log silent =>
    have relays := session.relays_connected host source (session.leftover early)
    obtain ⟨more, call, passed⟩ := relays.callback_passed
      (log ++ (toBeSent messages).map fun tbs => .send tbs.message) (session.leftover early) source
    refine ⟨log, more, ?_, silent, passed⟩
    have some_bytes :
        0 < (session.priv .connected [] (session.leftover early)).recvBuf.length := by
      change 0 < (session.leftover early).length
      rw [length_leftover]
      omega
    have goes := connected_fst host some_bytes call
    rw [drop_length] at goes
    exact goes

/-- The events before the chunk that completes the handshake, that chunk, and the events behind it.
-/
theorem play_completed (before after : List Event)
    (filled : ∀ chunk ∈ chunks (before ++ .readable last :: after), chunk ≠ [])
    (short : (chunks before).flatten.length < session.handshake.length)
    (completes : (chunks before).flatten ++ last = session.handshake ++ early) :
    ∃ log more, ((entry host source).play session.fresh
          (before ++ .readable last :: after)).log =
        log ++ (toBeSent (sends before)).map (fun tbs => .send tbs.message) ++ more ∧
      Silent session.requests (sends before) log ∧
      Passed (session.leftover early ++ (chunks after).flatten) more := by
  rw [chunks_append, forall_mem_append] at filled
  have later : ∀ chunk ∈ last :: chunks after, chunk ≠ [] := filled.2
  rw [forall_mem_cons] at later
  obtain ⟨middle, waiting, splits⟩ := (session.awaits_handshake host source).split
    session.waiting_fresh after (Entry.suits_of_forall (fun chunk member _ => filled.1 chunk member) [])
    short completes
  have leads := waiting.read host source early later.1 (by rw [completes])
  obtain ⟨sock, opened, result⟩ := leads.opened host source completes
  obtain ⟨log, more, call, silent, passed⟩ := opened.connected host source
  obtain ⟨later, run, passed_later⟩ := (session.relays_connected host source []).play_eq
    (log ++ (toBeSent (sends before)).map (fun tbs => .send tbs.message) ++ more) after later.2
  refine ⟨log, more ++ later, ?_, silent, passed.append passed_later⟩
  rw [splits, result, call, run, append_assoc]

/-- What was done in a run that reads a part of the handshake. -/
theorem log_of_part (app : List UInt8) (events : List Event)
    (filled : ∀ chunk ∈ chunks events, chunk ≠ [])
    (part : (chunks events).flatten <+: session.handshake ++ app)
    (short : (chunks events).flatten.length < session.handshake.length) :
    delivered ((entry host source).play session.fresh events).log = [] ∧
      failed ((entry host source).play session.fresh events).log = false := by
  have waiting := (session.awaits_handshake host source).play session.waiting_fresh events
    (Entry.suits_of_forall (fun chunk member _ => filled chunk member) []) part short
  obtain ⟨out, silent⟩ := waiting.silent
  exact ⟨silent.delivered, silent.quiet⟩

/-- What was done in a run that reads the handshake and more. -/
theorem log_of_whole (before after : List Event)
    (filled : ∀ chunk ∈ chunks (before ++ .readable last :: after), chunk ≠ [])
    (part : (chunks (before ++ .readable last :: after)).flatten <+: session.handshake ++ app)
    (short : (chunks before).flatten.length < session.handshake.length)
    (enough : session.handshake.length ≤ ((chunks before).flatten ++ last).length) : let log := ((entry host source).play session.fresh (before ++ .readable last :: after)).log
    (delivered log).length + session.handshake.length =
        (chunks (before ++ .readable last :: after)).flatten.length + 4 ∧
      failed log = false ∧
      sent log = session.requests ++ (toBeSent (sends before)).map ToBeSent.message ++
        (asked log).drop (sends before).length := by
  intro log
  rw [flatten_chunks] at part ⊢
  obtain ⟨early, completes⟩ : session.handshake <+: (chunks before).flatten ++ last :=
    prefix_of_prefix_length_le (prefix_append _ _)
      ((prefix_append _ _).trans part) enough
  obtain ⟨first, more, run, silent, passed⟩ :=
    play_completed host source before after filled short completes.symm
  have log_eq : log = _ := run
  rw [log_eq]
  refine ⟨?_, ?_, ?_⟩
  · rw [delivered_append, delivered_append, silent.delivered, delivered_sends, passed.up,
      ← completes]
    simp only [nil_append, length_append, length_leftover]
    omega
  · rw [failed_append, failed_append, silent.quiet, failed_sends, passed.quiet]
    rfl
  · rw [sent_append, sent_append, asked_append, asked_append, silent.sent, silent.asked,
      sent_sends, asked_sends, passed.down, append_nil, drop_left]

/-- The upper layer gets exactly what the server sends behind its handshake as long as the handshake
is not complete, and never after that. Waiting messages are sent when it completes, once and in
order, before any other message. -/
theorem transparent_iff (session : Session) (host : Host) (source : Option XiceAddress)
    (app : List UInt8) (events : List Event)
    (filled : ∀ chunk ∈ chunks events, chunk ≠ [])
    (part : (chunks events).flatten <+: session.handshake ++ app) :
    let log := ((entry host source).play session.fresh events).log
    (delivered log = (chunks events).flatten.drop session.handshake.length ↔
        (chunks events).flatten.length < session.handshake.length) ∧
      failed log = false ∧
      ∀ before last after, events = before ++ .readable last :: after →
        (chunks before).flatten.length < session.handshake.length →
        session.handshake.length ≤ ((chunks before).flatten ++ last).length →
        sent log = session.requests ++ (toBeSent (sends before)).map ToBeSent.message ++
          (asked log).drop (sends before).length := by
  intro log
  by_cases short : (chunks events).flatten.length < session.handshake.length
  · obtain ⟨nothing, quiet⟩ := log_of_part host source app events filled part short
    refine ⟨?_, quiet, ?_⟩
    · rw [drop_of_length_le (Nat.le_of_lt short)]
      exact ⟨fun _ => short, fun _ => nothing⟩
    · rintro before last after rfl - enough
      rw [flatten_chunks, length_append] at short
      omega
  · have positive : 0 < session.handshake.length := by simp [handshake, answers]
    refine ⟨?_, ?_, ?_⟩
    · obtain ⟨before, last, after, rfl, early, enough⟩ :=
        exists_reaching positive (Nat.not_lt.mp short)
      obtain ⟨surplus, -, -⟩ := log_of_whole host source before after filled part early enough
      constructor
      · intro same
        rw [same, length_drop] at surplus
        omega
      · exact fun stops => absurd stops short
    · obtain ⟨before, last, after, rfl, early, enough⟩ :=
        exists_reaching positive (Nat.not_lt.mp short)
      exact (log_of_whole host source before after filled part early enough).2.1
    · rintro before last after rfl early enough
      exact (log_of_whole host source before after filled part early enough).2.2

end Handshake

/-- No authentication, and an IPv4 address. -/
def plain : Session where
  addr := .ip4 0x0A000001 80
  username := none
  password := none
  authenticated := false
  agreed := by decide
  ip6 := false
  bound := [10, 0, 0, 1, 0, 80]
  bound_length := rfl

/-- A message waits while a part of the reply is read, and is sent once with the rest. -/
theorem transparent_of_part :
    let events := [Event.send ⟨none, [7]⟩, .readable [5], .readable [0, 5, 0]]
    let log := ((entry .content none).play plain.fresh events).log
    let whole := ((entry .content none).play plain.fresh
      (events ++ [.readable (plain.handshake.drop 4)])).log
    delivered log = [] ∧ failed log = false ∧
      sent whole = plain.requests ++ (toBeSent [⟨none, [7]⟩]).map ToBeSent.message := by
  have run := plain.transparent_iff .content none []
    [.send ⟨none, [7]⟩, .readable [5], .readable [0, 5, 0]] (by decide) (by decide)
  have whole := plain.transparent_iff .content none []
    [.send ⟨none, [7]⟩, .readable [5], .readable [0, 5, 0], .readable (plain.handshake.drop 4)]
    (by decide) (by decide)
  refine ⟨run.1.mpr (by decide), run.2.1, ?_⟩
  have queued := whole.2.2 [.send ⟨none, [7]⟩, .readable [5], .readable [0, 5, 0]]
    (plain.handshake.drop 4) [] rfl (by decide) (by decide)
  have none_later : (asked ((entry .content none).play plain.fresh [.send ⟨none, [7]⟩, .readable [5],
      .readable [0, 5, 0], .readable (plain.handshake.drop 4)]).log).drop 1 = [] := by decide +kernel
  exact queued.trans ((congrArg _ none_later).trans (append_nil _))

/-- The handshake and one byte in one chunk: the upper layer gets five bytes of the reply in place
of the byte. -/
theorem leftover_in_place_of_data :
    delivered ((entry .content none).play plain.fresh [.readable (plain.handshake ++ [42])]).log =
      [0, 1, 10, 0, 0] := by
  decide +kernel

end Session

end Xice.Socket.Socks5
