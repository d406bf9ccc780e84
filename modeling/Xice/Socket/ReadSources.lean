import Xice.Socket.PseudoSsl
import Xice.Socket.Socks5
import Xice.Socket.TcpTurn
import Xice.Socket.Http
import Xice.Turn.Channels

/-!
# Sockets that are read on

A base socket is not read any more once its callback returns `FALSE`. Over an upper layer that
always returns `TRUE`, sockets return `FALSE` only when they have failed, with two exceptions: the
HTTP socket for a response that ends where a chunk ends, and the TURN socket for everything it
reads.
-/

namespace Xice.Socket

open Xice.Ice (XiceAddress)
open Xice.Lib List

/-- The callback of the upper layer always returns `TRUE`. -/
def Host.Agrees (host : Host) : Prop := ∀ log, (host.callback log).2 = true

variable {host : Host}

/-- The upper layer returns `TRUE`. -/
theorem Host.Agrees.callback {Priv : Type} (agrees : host.Agrees)
    (send : Wrapper Priv → Message → Wrapper Priv × Bool) (sock : Wrapper Priv)
    (condition : XiceSocketCondition) (buf : List UInt8) (source : Option XiceAddress) :
    (sock.callback host send condition buf source).2 = true := agrees _

/-! ## Pseudo-SSL -/

namespace PseudoSsl

/-- The base socket is closed. -/
def Dead (priv : PseudoSSLPriv) : Prop := priv.baseSocket = false

/-- Sending leaves a dead socket dead. -/
theorem socketSend_dead (host : Host) (sock : Wrapper PseudoSSLPriv) (message : Message)
    (dead : Dead sock.priv) : Dead (socketSend host sock message).1.priv := by
  simp only [socketSend]
  split
  · split
    · exact dead
    · exact dead
  · exact dead

/-- A failure leaves one. -/
theorem fail_dead (host : Host) (sock : Wrapper PseudoSSLPriv) (condition : XiceSocketCondition) :
    Dead (fail host sock condition).1.priv :=
  @Wrapper.callback_keeps _ host _ Dead (socketSend_dead host)
    { (if sock.priv.baseSocket then sock.emit .free else sock) with priv.baseSocket := false } rfl
    _ _ _

/-- So `FALSE` is returned by a dead socket. -/
theorem alive (agrees : host.Agrees) (source : Option XiceAddress) (sock : Wrapper PseudoSSLPriv)
    (buf : List UInt8) (filled : buf ≠ [])
    (returned : ((entry host source).read sock buf).2 = false) :
    Dead ((entry host source).read sock buf).1.priv := by
  revert returned
  simp only [entry, readCallback]
  rw [if_neg (by simp [filled])]
  split
  · split
    · intro returned
      rw [agrees.callback] at returned
      exact absurd returned (by decide)
    · rename_i closed
      exact fun _ => Bool.eq_false_of_not_eq_true closed
  · split
    · split
      · intro returned
        rw [agrees.callback] at returned
        exact absurd returned (by decide)
      · exact fun returned => Bool.noConfusion returned
    · exact fun _ => fail_dead host sock .readable

end PseudoSsl

/-! ## SOCKS5 -/

namespace Socks5

/-- The error state, or a closed base socket. -/
def Dead (priv : Socks5Priv) : Prop := priv.state = .error ∨ priv.baseSocket = false

/-- The error state stays. -/
theorem socketSend_error (host : Host) (sock : Wrapper Socks5Priv) (message : Message)
    (error : sock.priv.state = .error) : (socketSend host sock message).1.priv.state = .error := by
  simp [socketSend, Wrapper.emit, error]

/-- A failure leaves a dead socket. -/
theorem fail_dead (host : Host) (sock : Wrapper Socks5Priv) (condition : XiceSocketCondition) :
    Dead (fail host sock condition).1.priv :=
  .inl (@Wrapper.callback_keeps _ host _ (fun priv : Socks5Priv => priv.state = .error)
    (socketSend_error host)
    { (if sock.priv.baseSocket then sock.emit .free else sock) with
      priv.baseSocket := false, priv.state := .error } rfl _ _ _)

/-- A step returns `TRUE`, or the socket has failed. -/
def Goes (result : Wrapper Socks5Priv × Bool) : Prop := result.2 = false → Dead result.1.priv

/-- `TRUE` is returned. -/
theorem goes_true (sock : Wrapper Socks5Priv) : Goes (sock, true) :=
  fun returned => Bool.noConfusion returned

/-- The socket has failed. -/
theorem goes_fail (host : Host) (sock : Wrapper Socks5Priv) (condition : XiceSocketCondition) :
    Goes (fail host sock condition) := fun _ => fail_dead host sock condition

variable (agrees : host.Agrees)

include agrees

/-- A reply leaves some bytes for the upper layer. -/
theorem goes_connect (sock : Wrapper Socks5Priv)
    (condition : XiceSocketCondition) (source : Option XiceAddress) :
    Goes (connect host sock condition source) := by
  simp only [connect]
  split
  · exact goes_true sock
  · split
    · exact goes_fail host sock condition
    · split
      · exact goes_fail host sock condition
      · split
        · exact goes_fail host sock condition
        · split
          · exact goes_fail host sock condition
          · split
            · exact goes_true sock
            · split
              · exact goes_true sock
              · rename_i kind short long
                have kept : 0 < ((sock.priv.recvBuf.drop 2).take (sock.priv.recvBuf.length -
                    if sock.priv.recvBuf.getD 3 0 = 0x01 then 6 else 18)).length := by
                  rw [length_take, length_drop]
                  by_cases four : sock.priv.recvBuf.getD 3 0 = 0x01
                  · have whole : ¬sock.priv.recvBuf.length < 6 + 4 := fun less => short ⟨four, less⟩
                    rw [if_pos four]
                    omega
                  · have six : sock.priv.recvBuf.getD 3 0 = 0x04 := by
                      by_contra other
                      exact kind ⟨four, other⟩
                    have whole : ¬sock.priv.recvBuf.length < 18 + 4 := fun less => long ⟨six, less⟩
                    rw [if_neg four]
                    omega
                intro returned
                simp only [connected, if_pos kept] at returned
                rw [agrees.callback] at returned
                exact absurd returned (by decide)

/-- The authentication. -/
theorem goes_auth (sock : Wrapper Socks5Priv)
    (condition : XiceSocketCondition) (source : Option XiceAddress) :
    Goes (auth host sock condition source) := by
  simp only [auth]
  split
  · exact goes_true sock
  · split
    · exact goes_fail host sock condition
    · exact goes_connect agrees _ condition source

/-- The greeting. -/
theorem goes_init (sock : Wrapper Socks5Priv)
    (condition : XiceSocketCondition) (source : Option XiceAddress) :
    Goes (init host sock condition source) := by
  simp only [init]
  split
  · exact goes_true sock
  · split
    · exact goes_fail host _ condition
    · split
      · exact goes_fail host _ condition
      · split
        · split
          · exact goes_fail host _ condition
          · split
            · exact goes_fail host _ condition
            · split
              · exact goes_fail host _ condition
              · exact goes_auth agrees _ condition source
        · exact goes_connect agrees _ condition source

/-- `FALSE` is returned by a dead socket. -/
theorem alive (source : Option XiceAddress) (sock : Wrapper Socks5Priv)
    (buf : List UInt8) (filled : buf ≠ [])
    (returned : ((entry host source).read sock buf).2 = false) :
    Dead ((entry host source).read sock buf).1.priv := by
  suffices goes : Goes ((entry host source).read sock buf) from goes returned
  simp only [entry, readCallback]
  rw [if_neg filled]
  split
  · split
    · intro returned
      rw [agrees.callback] at returned
      exact absurd returned (by decide)
    · rename_i closed
      exact fun _ => .inr (Bool.eq_false_of_not_eq_true closed)
  · split
    · rename_i waiting _ state
      exact absurd state waiting
    · exact goes_init agrees _ _ source
    · exact goes_auth agrees _ _ source
    · exact goes_connect agrees _ _ source
    · exact goes_fail host _ _

end Socks5

/-! ## TURN over TCP -/

namespace TcpTurn

/-- In the two modes with frames, `TRUE` is returned. -/
theorem alive {fuel : Nat} {padlen : UInt32} {sock last : Wrapper TurnTcpPriv} {buf : List UInt8}
    {source : Option XiceAddress} {ret : Bool}
    (mode : sock.priv.compatibility = .rfc5766 ∨ sock.priv.compatibility = .google)
    (returned : readCallback host fuel padlen sock .readable buf source = .ok (last, ret)) :
    ret = true := by
  have framed : padded sock.priv.compatibility = true ∨ sock.priv.compatibility = .google := by
    rcases mode with mode | mode
    · rw [mode]
      exact .inl rfl
    · exact .inr mode
  rw [readCallback, if_pos framed, if_neg (by decide)] at returned
  dsimp only at returned
  cases goes : next host source (if padded sock.priv.compatibility = true then 4 else 2) fuel sock
    padlen buf with
  | error stop =>
    rw [goes] at returned
    exact absurd returned (by simp [bind, Except.bind])
  | ok after =>
    rw [goes] at returned
    exact (Prod.mk.inj (Except.ok.inj returned)).2.symm

end TcpTurn

/-! ## HTTP -/

namespace Http

/-- The base socket is closed. -/
def Dead (priv : HttpPriv) : Prop := priv.baseSocket = false

/-- A chunk ends the response: with it the bytes that were read are the response and nothing more.
-/
def Ends (sock : Wrapper HttpPriv) (buf : List UInt8) : Prop :=
  sock.priv.state ≠ .connected ∧ sock.priv.baseSocket = true ∧
    ((sock.priv.receive buf).bind HttpPriv.parsed).any
      (fun stop => stop.1 = .connected && stop.2.recvBuf = []) = true

instance (sock : Wrapper HttpPriv) (buf : List UInt8) : Decidable (Ends sock buf) :=
  inferInstanceAs (Decidable (_ ∧ _ ∧ _))

/-- The parser does not close the base socket. -/
theorem baseSocket_of_parse {fuel : Nat} {priv last : HttpPriv} {parsed : Parsed}
    (ends : parse fuel priv = some (parsed, last)) : last.baseSocket = priv.baseSocket := by
  induction fuel generalizing priv with
  | zero => cases ends
  | succ fuel ih =>
    unfold parse at ends
    dsimp only at ends
    -- The parser stops with the record it has, or goes on with one that differs in other fields.
    repeat' split at ends
    all_goals first
      | (have kept := ih ends; exact kept)
      | (cases ends; rfl)

/-- `FALSE` is returned with an open base socket exactly when nothing is left behind the response.
-/
theorem finish_alive (agrees : host.Agrees) (condition : XiceSocketCondition)
    (source : Option XiceAddress) (sock : Wrapper HttpPriv) (parsed : Parsed) :
    ((finish host sock condition source parsed).2 = false →
        Dead (finish host sock condition source parsed).1.priv) ↔
      ¬(sock.priv.baseSocket = true ∧ parsed = .connected ∧ sock.priv.recvBuf = []) := by
  cases parsed with
  | notEnoughData => simp [finish]
  | overrun => simp [finish]
  | error => simp [finish, fail, Dead]
  | connected =>
    by_cases filled : 0 < sock.priv.recvBuf.length
    · have left : sock.priv.recvBuf ≠ [] := ne_nil_of_length_pos filled
      simp [finish, connected, if_pos filled, agrees.callback, left]
    · have left : sock.priv.recvBuf = [] := by simpa using filled
      simp [finish, connected, Dead, left]

/-- A chunk keeps the base socket alive unless it ends the response. -/
theorem alive_iff (agrees : host.Agrees) (source : Option XiceAddress) (sock : Wrapper HttpPriv)
    {buf : List UInt8} (filled : buf ≠ []) :
    (((entry host source).read sock buf).2 = false →
      Dead ((entry host source).read sock buf).1.priv) ↔ ¬Ends sock buf := by
  simp only [entry, readCallback, Ends]
  rw [if_neg (by simp [filled])]
  by_cases connected : sock.priv.state = .connected
  · rw [if_pos connected]
    split
    · simp [agrees.callback, connected]
    · rename_i closed
      simp [Dead, connected, closed]
  · rw [if_neg connected]
    cases received : sock.priv.receive buf with
    | none => simp
    | some priv =>
      have based : priv.baseSocket = sock.priv.baseSocket := by
        rw [HttpPriv.receive] at received
        split at received
        · cases received
        · rw [← Option.some.inj received]
      rw [Option.bind_some]
      cases stop : priv.parsed with
      | none => simp [stop]
      | some result =>
        have same := baseSocket_of_parse stop
        have alive := finish_alive agrees .readable source { sock with priv := result.2 } result.1
        simp only [stop]
        rw [alive, same, based]
        simp [connected]

/-- So does a run. -/
theorem alive_run_iff (agrees : host.Agrees) (source : Option XiceAddress)
    (sock : Wrapper HttpPriv) {events : List Event}
    (filled : ∀ chunk ∈ chunks events, chunk ≠ []) :
    (entry host source).Alive Dead sock events ↔
      ∀ before buf after, events = before ++ .readable buf :: after →
        ¬Ends ((entry host source).play sock before) buf := by
  refine forall_congr' fun before => forall_congr' fun buf => forall_congr' fun after =>
    forall_congr' fun parts => ?_
  refine alive_iff agrees source _ (filled buf ?_)
  rw [parts, chunks_append, chunks_cons]
  exact mem_append_right _ (mem_append_left _ mem_cons_self)

end Http

/-! ## All of them -/

/-- A TURN socket never returns a negative number. -/
theorem parseRecv_zero (env : Turn.Env) (turn : Turn.TurnSocket) (len : Nat)
    (recvFrom : XiceAddress) (recvBuf : Mem) (recvLen : Nat) :
    (turn.parseRecv env len recvFrom recvBuf recvLen).2 = 0 := by
  unfold Turn.TurnSocket.parseRecv
  dsimp only
  split
  · split
    · rfl
    · -- Every way through the methods ends with the same number.
      repeat' split
      all_goals rfl
  · rfl

/-- With an upper layer that always returns `TRUE`, the pseudo-SSL and SOCKS5 sockets return `FALSE`
only when they have failed, and TURN over TCP never does. The HTTP socket does so exactly when a
chunk ends the response, and the TURN socket for every packet. -/
theorem reads_on (agrees : host.Agrees) :
    (∀ source sock events, (∀ chunk ∈ chunks events, chunk ≠ []) →
      (PseudoSsl.entry host source).Alive PseudoSsl.Dead sock events) ∧
    (∀ source sock events, (∀ chunk ∈ chunks events, chunk ≠ []) →
      (Socks5.entry host source).Alive Socks5.Dead sock events) ∧
    (∀ fuel padlen sock last buf source ret,
      sock.priv.compatibility = .rfc5766 ∨ sock.priv.compatibility = .google →
      TcpTurn.readCallback host fuel padlen sock .readable buf source = .ok (last, ret) →
      ret = true) ∧
    (∀ source sock events, (∀ chunk ∈ chunks events, chunk ≠ []) →
      ((Http.entry host source).Alive Http.Dead sock events ↔
        ∀ before buf after, events = before ++ .readable buf :: after →
          ¬Http.Ends ((Http.entry host source).play sock before) buf)) ∧
    ∀ (env : Turn.Env) (turn : Turn.TurnSocket) buf len source recvFrom, 0 < len →
      (turn.readCallback env .readable buf len source recvFrom).2 = false := by
  refine ⟨fun source sock events => Entry.alive_of_read (PseudoSsl.alive agrees source) sock,
    fun source sock events => Entry.alive_of_read (Socks5.alive agrees source) sock,
    fun fuel padlen sock last buf source ret => TcpTurn.alive,
    fun source sock events => Http.alive_run_iff agrees source sock, ?_⟩
  intro env turn buf len source recvFrom positive
  rw [Turn.TurnSocket.readCallback, if_neg (by decide), if_neg (by omega)]
  dsimp only
  rw [parseRecv_zero]
  rfl

/-- A response in two chunks, with bytes behind its end. -/
theorem reads_on_split :
    Host.content.Agrees ∧ (Http.entry Host.content none).Alive Http.Dead
      (Http.httpSocketNew [] fun _ => [])
      [.readable (Http.ascii "HTTP/1.0 200 OK\r\n"), .readable (Http.ascii "\r\nx")] := by
  have agrees : Host.content.Agrees := fun _ => rfl
  refine ⟨agrees, ((reads_on agrees).2.2.2.1 none _ _ (by decide)).mpr ?_⟩
  intro before buf after parts
  match before with
  | [] =>
    obtain ⟨first, -⟩ := List.cons.inj parts
    rw [← Event.readable.inj first]
    decide +kernel
  | [event] =>
    obtain ⟨first, rest⟩ := List.cons.inj parts
    obtain ⟨second, -⟩ := List.cons.inj rest
    rw [← first, ← Event.readable.inj second]
    decide +kernel
  | _ :: _ :: _ => exact absurd (congrArg List.length parts) (by simp)

/-- The socket is not read after a response in one chunk, or after a packet of a stranger, though
nothing failed. -/
theorem read_stops :
    ((Http.entry Host.content none).read (Http.httpSocketNew [] fun _ => [])
        (Http.ascii "HTTP/1.0 200 OK\r\n\r\n")).2 = false ∧
      ((Http.entry Host.content none).read (Http.httpSocketNew [] fun _ => [])
        (Http.ascii "HTTP/1.0 200 OK\r\n\r\n")).1.priv.state = .connected ∧
      ((Http.entry Host.content none).read (Http.httpSocketNew [] fun _ => [])
        (Http.ascii "HTTP/1.0 200 OK\r\n\r\n")).1.priv.baseSocket = true ∧
      (Turn.TurnSocket.plainSocket.readCallback Turn.TurnSocket.plainEnv .readable
        (Mem.ofList [7, 8]) 2 (Turn.TurnSocket.plainPeer 9) (Turn.TurnSocket.plainPeer 9)).2 =
          false := by
  decide +kernel

end Xice.Socket
