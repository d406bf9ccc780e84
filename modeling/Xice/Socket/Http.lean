import Xice.Lib.Decimal
import Xice.Lib.Lists
import Xice.Socket.Wrapper

/-!
# The HTTP proxy socket

`http.c`: the socket asks a proxy for a connection with CONNECT, reads the response, and then passes
bytes on. `atoi` is called on `recv_buf`, which ends without a zero, so what lies behind it at each
call is in the record too.
-/

namespace Xice.Socket.Http

open Xice.Ice (XiceAddress)
open Xice.Lib
open Entry (Passed)

/-- `HttpState`. -/
inductive HttpState where
  | init
  | headers
  | body
  | connected
  | error
  deriving DecidableEq, Repr

/-- `HttpPriv`. The credentials are used only for the request. -/
structure HttpPriv where
  state : HttpState
  baseSocket : Bool
  /-- Messages that wait for the connection. -/
  sendQueue : List ToBeSent
  recvBuf : List UInt8
  contentLength : Int
  /-- What lies behind `recv_buf` at each scan of a header. -/
  heap : Nat → List UInt8
  scans : Nat

/-- `recv_len`: the number of bytes in `recv_buf`, as a `gint`. -/
def HttpPriv.recvLen (priv : HttpPriv) : Int := (priv.recvBuf.length : Int).bmod (2 ^ 32)

variable (buf : List UInt8) (host : Host) (sock : Wrapper HttpPriv)

/-- The characters of a C string. -/
def ascii (text : String) : List UInt8 := text.toList.map fun c => UInt8.ofNat c.toNat

/-- The CONNECT request: `host` from `xice_address_to_string`, and a line with the credentials, if
any. -/
def connectRequest (host : List UInt8) (port : UInt16) (credential : List UInt8) : List UInt8 :=
  ascii "CONNECT " ++ host ++ ascii ":" ++ ascii (toString port.toNat) ++ ascii " HTTP/1.0\r\n" ++
    ascii "Host: " ++ host ++ ascii "\r\n" ++
    ascii "User-Agent: libxice\r\n" ++
    ascii "Content-Length: 0\r\n" ++
    ascii "Proxy-Connection: Keep-Alive\r\n" ++
    ascii "Connection: Keep-Alive\r\n" ++
    ascii "Cache-Control: no-cache\r\n" ++
    ascii "Pragma: no-cache\r\n" ++
    credential ++ ascii "\r\n"

/-- `xice_http_socket_new` for a request. -/
def httpSocketNew (request : List UInt8) (heap : Nat → List UInt8) : Wrapper HttpPriv where
  priv := {
    state := .init
    baseSocket := true
    sendQueue := []
    recvBuf := []
    contentLength := 0
    heap := heap
    scans := 0 }
  log := [.send ⟨none, request⟩]

/-- `socket_send`. -/
def socketSend (message : Message) : Wrapper HttpPriv × Bool :=
  let sock := sock.emit (.ask message)
  match sock.priv.state with
  | .connected => if sock.priv.baseSocket then sock.baseSend host message else (sock, false)
  | .error => (sock, false)
  | _ => ({ sock with priv.sendQueue := addToBeSent sock.priv.sendQueue message }, true)

/-- The label `error` of `read_callback`. -/
def fail (condition : XiceSocketCondition) : Wrapper HttpPriv × Bool :=
  let condition := if condition = .readable then .error else condition
  let sock := (sock.callback host (socketSend host) condition [] none).1
  let sock := if sock.priv.baseSocket then sock.emit .free else sock
  ({ sock with priv.baseSocket := false, priv.state := .error }, false)

/-- A space. -/
def space : UInt8 := 0x20

/-- A carriage return. -/
def cr : UInt8 := 0x0d

/-- A line feed. -/
def lf : UInt8 := 0x0a

/-- A digit. -/
def isDigit (byte : UInt8) : Bool := 0x30 ≤ byte && byte ≤ 0x39

/-- The number of spaces at the front. -/
def spaces : Nat := (buf.takeWhile (· = space)).length

/-- The bytes that are skipped to the end of a line: up to a CR or the byte before an LF, and at
most to the last byte. -/
def lineEnd : List UInt8 → Nat
  | first :: second :: rest =>
    if first ≠ cr ∧ second ≠ lf then lineEnd (second :: rest) + 1 else 0
  | _ => 0

/-- What a scan of the buffer finds. -/
inductive Scan where
  | notEnoughData
  | error
  /-- A sum of positions does not fit in a `gint`. -/
  | overflow
  | consume (count : Nat)
  deriving DecidableEq, Repr

/-- The case `HTTP_STATE_INIT` of `read_callback`. -/
def statusLine : Scan :=
  let pos := spaces buf
  if buf.length ≤ pos then .notEnoughData
  else if 2 ^ 31 ≤ pos + 7 then .overflow
  else if buf.length < pos + 7 then .notEnoughData
  else if (buf.drop pos).take 7 ≠ ascii "HTTP/1." then .error
  else
    let pos := pos + 7
    if buf.length ≤ pos then .notEnoughData
    else if buf.getD pos 0 ≠ 0x30 ∧ buf.getD pos 0 ≠ 0x31 then .error
    else
      let pos := pos + 1
      if buf.length ≤ pos then .notEnoughData
      else if buf.getD pos 0 ≠ space then .error
      else
        let pos := pos + spaces (buf.drop pos)
        if buf.length ≤ pos then .notEnoughData
        else if 2 ^ 31 ≤ pos + 3 then .overflow
        else if buf.length < pos + 3 then .notEnoughData
        else if buf.getD pos 0 ≠ 0x32 ∨ ¬isDigit (buf.getD (pos + 1) 0) ∨
            ¬isDigit (buf.getD (pos + 2) 0) then .error
        else
          let pos := pos + lineEnd (buf.drop pos)
          if buf.length ≤ pos + 1 then .notEnoughData else .consume (pos + 2)

/-- The characters of bytes. -/
def chars : List Char := buf.map fun byte => Char.ofNat byte.toNat

/-- The line begins with `Content-Length:` in any case. -/
def namesContentLength : Bool :=
  (chars (buf.take 15)).map Char.toLower = "content-length:".toList

/-- Where the parser stops. -/
inductive Parsed where
  | notEnoughData
  | error
  /-- Memory outside the buffer is used. -/
  | overrun
  | connected
  deriving DecidableEq, Repr

/-- The label `retry` of `read_callback` up to the state `HTTP_STATE_CONNECTED`. No position is
below a negative `recv_len`, so no byte is looked at then. -/
def parse : (fuel : Nat) → HttpPriv → Option (Parsed × HttpPriv)
  | 0, _ => none
  | fuel + 1, priv =>
    let buf := priv.recvBuf
    match priv.state with
    | .init =>
      if priv.recvLen < 0 then some (.notEnoughData, priv)
      else match statusLine buf with
      | .notEnoughData => some (.notEnoughData, priv)
      | .error => some (.error, priv)
      | .overflow => some (.overrun, priv)
      | .consume pos =>
        parse fuel { priv with recvBuf := buf.drop pos, contentLength := 0, state := .headers }
    | .headers =>
      if priv.recvLen < 0 then some (.notEnoughData, priv)
      else
        let priv := if 15 < buf.length ∧ namesContentLength buf then
            { priv with contentLength :=
                Decimal.atoi (chars (buf.drop 15 ++ priv.heap priv.scans)) }
          else priv
        let priv := { priv with scans := priv.scans + 1 }
        let pos := lineEnd buf
        if buf.length ≤ pos + 1 then some (.notEnoughData, priv)
        else
          let pos := pos + 2
          let priv := { priv with recvBuf := buf.drop pos }
          parse fuel (if pos = 2 then { priv with state := .body } else priv)
    | .body =>
      if priv.contentLength = 0 then parse fuel { priv with state := .connected }
      else if priv.recvLen = 0 then some (.notEnoughData, priv)
      else
        let consumed := min priv.contentLength priv.recvLen
        if 0 ≤ consumed then
          parse fuel { priv with
            recvBuf := buf.drop consumed.toNat
            contentLength := priv.contentLength - consumed }
        else if consumed = priv.recvLen then
          parse fuel { priv with
            recvBuf := []
            contentLength := (priv.contentLength - consumed).bmod (2 ^ 32) }
        else
          -- The bytes are moved from before the start of the buffer, and more than it holds.
          some (.overrun, priv)
    | .connected => some (.connected, priv)
    | .error => some (.error, priv)

/-- The state `HTTP_STATE_CONNECTED` behind the label `retry`. -/
def connected (source : Option XiceAddress) : Wrapper HttpPriv × Bool :=
  let read := sock.priv.recvBuf.length
  let (sock, ret) :=
    if 0 < read then sock.callback host (socketSend host) .readable sock.priv.recvBuf source
    else (sock, false)
  let queue := sock.priv.sendQueue
  (⟨{ sock.priv with recvBuf := sock.priv.recvBuf.drop read, sendQueue := [] },
    sock.log ++ queue.map fun tbs => .send tbs.message⟩, ret)

/-- What `read_callback` does where the parser stops. -/
def finish (condition : XiceSocketCondition) (source : Option XiceAddress) :
    Parsed → Wrapper HttpPriv × Bool
  | .notEnoughData => (sock, true)
  | .error => fail host sock condition
  | .overrun => (sock.emit .overrun, true)
  | .connected => connected host sock source

/-- The chunk is copied to the end of the buffer. There is no record when that is outside:
`recv_len` is negative, or the size does not fit in 32 bits. -/
def HttpPriv.receive (priv : HttpPriv) : Option HttpPriv :=
  if priv.recvLen < 0 ∨ 2 ^ 32 ≤ (priv.recvBuf ++ buf).length then none
  else some { priv with recvBuf := priv.recvBuf ++ buf }

/-- Enough turns: each one in `HTTP_STATE_HEADERS` uses up two bytes or more, and the other states
have at most two. -/
def HttpPriv.parsed (priv : HttpPriv) : Option (Parsed × HttpPriv) :=
  parse (priv.recvBuf.length + 5) priv

/-- `read_callback`. -/
def readCallback (condition : XiceSocketCondition) (buf : List UInt8) (source : Option XiceAddress)
    : Wrapper HttpPriv × Bool :=
  if condition ≠ .readable ∨ buf = [] then fail host sock condition
  else if sock.priv.state = .connected then
    if sock.priv.baseSocket then sock.callback host (socketSend host) .readable buf source
    else (sock, false)
  else
    match sock.priv.receive buf with
    | none => (sock.emit .overrun, true)
    | some priv =>
      match priv.parsed with
      | none => ({ sock with priv := priv }, true)
      | some (parsed, priv) => finish host { sock with priv := priv } condition source parsed

/-- The functions of the socket for bytes from one source. -/
def entry (source : Option XiceAddress) : Entry HttpPriv where
  read sock buf := readCallback host sock .readable buf source
  send := socketSend host

end Xice.Socket.Http
