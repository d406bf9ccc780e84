import Xice.Turn.Types

/-!
# The functions of the TURN socket

`turn.c`. The functions around `priv_schedule_tick` call each other, so they take the depth to which
calls may be nested. `priv_remove_peer_from_list` reads the next node from the one it has just
freed; here the walk goes on behind it. In the loops over `pending_permissions` a node that a nested
call has freed is passed over.
-/

namespace Xice.Turn

open Xice.Ice (XiceAddress)
open Xice.Lib
open Xice.Socket (Message XiceSocketCondition XiceTurnSocketCompatibility)
open Xice.Stun

variable (msg : StunMessage)

/-- A message in a buffer of `STUN_MAX_MESSAGE_SIZE` bytes. -/
@[irreducible] def emptyMessage : StunMessage := blankMessage (UInt64.ofNat stunMaxMessageSize)

/-- `stun_message_append_bytes` of a byte string. -/
def appendBytes (msg : StunMessage) (type : StunAttribute) (bytes : List UInt8) :
    Option StunMessage :=
  (msg.appendBytes type (Mem.ofList bytes) (UInt64.ofNat bytes.length)).map Appended.msg

/-- An attribute that is left out where there is no room for it. -/
def orWithout (done : Option StunMessage) : StunMessage := done.getD msg

/-- Append an attribute that may be absent. -/
def appendSome (type : StunAttribute) (bytes : Option (List UInt8)) : Option StunMessage :=
  match bytes with
  | some bytes => appendBytes msg type bytes
  | none => some msg

/-- The value of an attribute of a message, if there is one. -/
def valueOf (type : StunAttribute) : Option (List UInt8) :=
  (msg.find type).value.map msg.bytesOf

/-- The request is to be sent again with realm and nonce. -/
def unauthorized (sent resp : StunMessage) : Bool :=
  match resp.findError.value with
  | .error _ => false
  | .ok code =>
    code = 438 || code = 401 &&
      !((valueOf resp attrRealm).any (· ≠ []) && valueOf resp attrRealm = valueOf sent attrRealm)

/-- `priv_is_peer_in_list`. -/
def isPeerInList (list : List XiceAddress) (peer : XiceAddress) : Bool :=
  list.any fun address => address.equal peer

/-- `priv_remove_peer_from_list`. -/
def removePeerFromList (list : List XiceAddress) (peer : XiceAddress) : List XiceAddress :=
  list.filter fun address => !address.equal peer

/-- `socket_enqueue_data`. -/
def enqueueData (queues : List (XiceAddress × List (List UInt8))) (peer : XiceAddress)
    (data : List UInt8) : List (XiceAddress × List (List UInt8)) :=
  match queues with
  | [] => [(peer, [data])]
  | (key, queue) :: rest =>
    if key.equal peer then (key, queue ++ [data]) :: rest
    else (key, queue) :: enqueueData rest peer data

/-- The queue of a peer. -/
def queueOf (queues : List (XiceAddress × List (List UInt8))) (peer : XiceAddress) :
    List (List UInt8) :=
  ((queues.find? fun entry => entry.1.equal peer).map Prod.snd).getD []

/-- The walk of `priv_add_channel_binding`: at a binding with the number so far it counts up and
goes on with the second one, at most as often as there are numbers. -/
def walkChannels (bound : List UInt16) : (restarts : Nat) → UInt16 → List UInt16 → UInt16
  | 0, channel, _ => channel
  | restarts + 1, channel, list =>
    if channel ∈ list then walkChannels bound restarts (channel + 1) bound.tail else channel

namespace TurnSocket

/-! ## Messages -/

/-- `stun_agent_finish_message`; `none` when it returns zero. -/
def finishMessage (env : Env) (turn : TurnSocket) (msg : StunMessage) :
    TurnSocket × Option StunMessage :=
  match turn.priv.agent.finishMessage env.platform msg turn.priv.password with
  | none => (turn, none)
  | some done =>
    ({ turn with priv.agent := done.agent }, if done.length = 0 then none else some done.msg)

variable (turn : TurnSocket) (env : Env) (msg : StunMessage)

/-- The bytes of a finished message. -/
def bytesOf : List UInt8 := msg.buffer.read msg.length.value.toNat

/-- `stun_message_append_ms_connection_id` where the connection is known, and
`stun_message_ensure_ms_realm`. -/
def appendMs : TurnSocket × StunMessage :=
  let (turn, msg) :=
    if turn.priv.msConnectionIdValid then
      let number := turn.priv.msSequenceNum + 1
      ({ turn with priv.msSequenceNum := number },
        orWithout msg (appendBytes msg attrMsSequenceNumber
          (turn.priv.msConnectionId.toList ++ htonl number)))
    else (turn, msg)
  (turn, if msg.getMethod.value = methodSend ∨ msg.getMethod.value = methodIndSend then
    orWithout msg (appendBytes msg attrRealm turn.priv.msRealm) else msg)

/-- The user name, where there is one. -/
def usernameBytes : Option (List UInt8) :=
  if turn.priv.username = [] then none else some turn.priv.username

/-- `socket_send` wraps a payload: the datagram, or `none` when it jumps to `send`. -/
def wrapPayload (turn : TurnSocket) (peer : XiceAddress) (buf : List UInt8) :
    TurnSocket × Option (List UInt8) :=
  let (turn, id) := turn.makeTransid env
  let rfc := turn.priv.compatibility = .draft9 ∨ turn.priv.compatibility = .rfc5766
  let begun : Option StunMessage :=
    if rfc then do
      let msg ← turn.priv.agent.initIndication emptyMessage emptyMessage.buffer
        emptyMessage.bufferLen methodIndSend id
      (msg.appendXorAddr attrPeerAddress peer).map Appended.msg
    else do
      let msg ← turn.priv.agent.initRequest emptyMessage emptyMessage.buffer
        emptyMessage.bufferLen methodSend id
      let msg ← (msg.append32 attrMagicCookie turnMagicCookie).map Appended.msg
      let msg ← appendSome msg attrUsername turn.usernameBytes
      let msg ← (msg.appendAddr attrDestinationAddress peer).map Appended.msg
      if turn.priv.compatibility = .google ∧
          turn.priv.currentBinding.any (fun binding => binding.peer.equal peer) then
        return orWithout msg ((msg.append32 attrOptions 1).map Appended.msg)
      else return msg
  match begun with
  | none => (turn, none)
  | some msg =>
    let (turn, msg) :=
      if turn.priv.compatibility = .oc2007 then
        turn.appendMs (orWithout msg ((msg.append32 attrMsVersion 1).map Appended.msg))
      else (turn, msg)
    match appendBytes msg attrData buf with
    | none => (turn, none)
    | some msg =>
      match turn.finishMessage env msg with
      | (turn, none) => (turn, none)
      | (turn, some msg) =>
        let turn :=
          if msg.getClass.value = .request then
            let (turn, source) := turn.timeoutAdd stunEndTimeout .forgetSendRequest
            { turn with priv.sendRequests := turn.priv.sendRequests ++ [⟨msg.id.value, source⟩] }
          else turn
        (turn, some (bytesOf msg))

/-- The message of `priv_send_channel_bind`. -/
def channelBindMessage (turn : TurnSocket) (resp : Option StunMessage) (channel : UInt16)
    (peer : XiceAddress) : TurnSocket × Option StunMessage :=
  let (turn, id) := turn.makeTransid env
  let begun : Option StunMessage := do
    let msg ← turn.priv.agent.initRequest emptyMessage emptyMessage.buffer emptyMessage.bufferLen
      methodChannelBind id
    let msg ← (msg.append32 attrChannelNumber (channel.toUInt32 <<< 16)).map Appended.msg
    let msg ← (msg.appendXorAddr attrPeerAddress peer).map Appended.msg
    let msg ← appendSome msg attrUsername turn.usernameBytes
    let msg ← appendSome msg attrRealm (resp.bind fun resp => valueOf resp attrRealm)
    appendSome msg attrNonce (resp.bind fun resp => valueOf resp attrNonce)
  match begun with
  | none => (turn, none)
  | some msg => turn.finishMessage env msg

/-- `stun_usage_turn_create_permission`. -/
def createPermissionMessage (turn : TurnSocket) (resp : Option StunMessage) (peer : XiceAddress) :
    TurnSocket × Option StunMessage :=
  let (turn, id) := turn.makeTransid env
  let begun : Option StunMessage := do
    let msg ← turn.priv.agent.initRequest emptyMessage emptyMessage.buffer emptyMessage.bufferLen
      methodCreatePermission id
    let msg ← (msg.appendXorAddrShort attrPeerAddress peer).map Appended.msg
    let msg ← appendSome msg attrNonce (resp.bind fun resp => valueOf resp attrNonce)
    let msg ← appendSome msg attrRealm (resp.bind fun resp => valueOf resp attrRealm)
    appendBytes msg attrUsername turn.priv.username
  match begun with
  | none => (turn, none)
  | some msg => turn.finishMessage env msg

/-- The message of `priv_add_channel_binding` in the modes MSN and OC2007. -/
def setActiveMessage (turn : TurnSocket) (peer : XiceAddress) : TurnSocket × Option StunMessage :=
  let (turn, id) := turn.makeTransid env
  let begun : Option StunMessage := do
    let msg ← turn.priv.agent.initRequest emptyMessage emptyMessage.buffer emptyMessage.bufferLen
      methodIndSend id
    let msg ← (msg.append32 attrMagicCookie turnMagicCookie).map Appended.msg
    appendSome msg attrUsername turn.usernameBytes
  match begun with
  | none => (turn, none)
  | some msg =>
    let (turn, msg) := if turn.priv.compatibility = .oc2007 then turn.appendMs msg else (turn, msg)
    match (msg.appendAddr attrDestinationAddress peer).map Appended.msg with
    | none => (turn, none)
    | some msg => turn.finishMessage env msg

/-- A message with a timer that is started. -/
def startTimer (turn : TurnSocket) (msg : StunMessage) (binding : Ref) : TurnSocket × TURNMessage :=
  ({ turn with nextRef := turn.nextRef + 1 },
    { ref := turn.nextRef
      message := msg
      timer :=
        if env.reliable then .startReliable turn.now timerDefaultReliableTimeout
        else .start turn.now timerDefaultTimeout timerDefaultMaxRetransmissions
      binding := binding })

/-- `priv_send_turn_message` up to the call of `priv_schedule_tick`. -/
def startRequest (turn : TurnSocket) (msg : StunMessage) (binding : Ref) : TurnSocket :=
  let turn := (turn.sendServer env (bytesOf msg) none).1
  let (turn, msg) := turn.startTimer env msg binding
  { turn with priv.currentBindingMsg := some msg }

/-- The peer of a request, as `stun_message_find_xor_addr` finds it. -/
def peerOf (msg : TURNMessage) : XiceAddress :=
  ((msg.message.findXorAddr attrPeerAddress).value).getD .unspec

/-- `stun_agent_forget_transaction`. -/
def forgetTransaction (turn : TurnSocket) (id : StunTransactionId) : TurnSocket :=
  { turn with priv.agent := (turn.priv.agent.forgetTransaction id).2 }

/-! ## Permissions -/

/-- `socket_dequeue_all_data`. -/
def dequeueAllData (turn : TurnSocket) (peer : XiceAddress) : TurnSocket :=
  let turn' := (queueOf turn.priv.sendDataQueues peer).foldl
    (fun turn data => (turn.baseSend env ⟨some peer, data⟩ (some peer)).1) turn
  { turn' with priv.sendDataQueues :=
      turn'.priv.sendDataQueues.filter fun entry => !entry.1.equal peer }

/-- The peer counts as permitted, and what waited for it is sent. -/
def grant (turn : TurnSocket) (peer : XiceAddress) : TurnSocket :=
  let turn := { turn with
    priv.sentPermissions := removePeerFromList turn.priv.sentPermissions peer
    priv.permissions := turn.priv.permissions ++ [peer] }
  let turn := turn.emit (.permit peer (queueOf turn.priv.sendDataQueues peer))
  turn.dequeueAllData env peer

/-! ## Retransmissions and bindings -/

/-- Replace a message of `pending_permissions`. -/
def setPermission (msg : TURNMessage) : TurnSocket :=
  { turn with priv.pendingPermissions :=
      turn.priv.pendingPermissions.map fun old => if old.ref = msg.ref then msg else old }

/-- Delete a message of `pending_permissions`. -/
def deletePermission (ref : Ref) : TurnSocket :=
  { turn with priv.pendingPermissions :=
      turn.priv.pendingPermissions.filter fun msg => msg.ref ≠ ref }

mutual

/-- `priv_schedule_tick`. -/
def scheduleTick (env : Env) : (depth : Nat) → TurnSocket → TurnSocket
  | 0, turn => turn
  | depth + 1, turn =>
    let turn := turn.timerClear turn.priv.tickSourceChannelBind
    let turn := { turn with priv.tickSourceChannelBind := none }
    let turn := match turn.priv.currentBindingMsg with
      | none => turn
      | some msg =>
        let timeout := (msg.timer.remainder turn.now).toNat
        if timeout > 0 then
          let (turn, source) := turn.timeoutAdd timeout .retransmissionsTick
          { turn with priv.tickSourceChannelBind := some source }
        else (retransmissionsTickUnlocked env depth turn).1
    (turn.priv.pendingPermissions.map TURNMessage.ref).foldl (fun turn ref =>
      match turn.priv.pendingPermissions.find? fun msg => msg.ref = ref with
      | none => turn
      | some msg =>
        let timeout := (msg.timer.remainder turn.now).toNat
        if timeout > 0 then
          let (turn, source) := turn.timeoutAdd timeout .createPermissionTick
          { turn with priv.tickSourceCreatePermission := some source }
        else (createPermissionTickUnlocked env depth turn msg).1) turn

/-- `priv_retransmissions_tick_unlocked`. -/
def retransmissionsTickUnlocked (env : Env) : (depth : Nat) → TurnSocket → TurnSocket × Bool
  | 0, turn => (turn, false)
  | depth + 1, turn =>
    match turn.priv.currentBindingMsg with
    | none => (turn, false)
    | some msg =>
      match msg.timer.refresh turn.now with
      | (_, .timeout) =>
        let turn := turn.forgetTransaction msg.message.id.value
        let turn := { turn with priv.currentBinding := none, priv.currentBindingMsg := none }
        (processPendingBindings env depth turn, false)
      | (timer, .retransmit) =>
        let turn := { turn with priv.currentBindingMsg := some { msg with timer := timer } }
        let turn := (turn.sendServer env (bytesOf msg.message) none).1
        (scheduleTick env depth turn, true)
      | (_, .success) => (scheduleTick env depth turn, true)

/-- `priv_retransmissions_create_permission_tick_unlocked`. -/
def createPermissionTickUnlocked (env : Env) :
    (depth : Nat) → TurnSocket → TURNMessage → TurnSocket × Bool
  | 0, turn, _ => (turn, false)
  | depth + 1, turn, msg =>
    match msg.timer.refresh turn.now with
    | (_, .timeout) =>
      let turn := turn.forgetTransaction msg.message.id.value
      let turn := turn.deletePermission msg.ref
      (turn.grant env (peerOf msg), false)
    | (timer, .retransmit) =>
      let turn := turn.setPermission { msg with timer := timer }
      let turn := (turn.sendServer env (bytesOf msg.message) none).1
      (scheduleTick env depth turn, true)
    | (_, .success) => (scheduleTick env depth turn, true)

/-- `priv_process_pending_bindings`. -/
def processPendingBindings (env : Env) : (depth : Nat) → TurnSocket → TurnSocket
  | 0, turn => turn
  | depth + 1, turn =>
    let turn := pendingBindingsLoop env depth turn
    if turn.priv.pendingBindings = [] ∧ turn.priv.currentBindingMsg.isNone then
      match turn.priv.channels.find? ChannelBinding.renew with
      | none => turn
      | some binding =>
        match sendChannelBind env depth turn none binding.ref binding.channel binding.peer with
        | (turn, true) => turn.emit (.renewal binding.ref)
        | (turn, false) => turn
    else turn

/-- The loop of `priv_process_pending_bindings`. -/
def pendingBindingsLoop (env : Env) : (depth : Nat) → TurnSocket → TurnSocket
  | 0, turn => turn
  | depth + 1, turn =>
    match turn.priv.pendingBindings with
    | [] => turn
    | peer :: _ =>
      let (turn, ret) := addChannelBinding env depth turn peer
      let turn := { turn with priv.pendingBindings := turn.priv.pendingBindings.tail }
      if ret then turn else pendingBindingsLoop env depth turn

/-- `priv_send_turn_message`. -/
def sendTurnMessage (env : Env) : (depth : Nat) → TurnSocket → StunMessage → Ref → TurnSocket
  | 0, turn, msg, binding => turn.startRequest env msg binding
  | depth + 1, turn, msg, binding => scheduleTick env depth (turn.startRequest env msg binding)

/-- `priv_send_channel_bind`, for a binding. -/
def sendChannelBind (env : Env) :
    (depth : Nat) → TurnSocket → Option StunMessage → Ref → UInt16 → XiceAddress → TurnSocket × Bool
  | 0, turn, _, _, _, _ => (turn, false)
  | depth + 1, turn, resp, binding, channel, peer =>
    match turn.channelBindMessage env resp channel peer with
    | (turn, none) => (turn, false)
    | (turn, some msg) => (sendTurnMessage env depth turn msg binding, true)

/-- `priv_add_channel_binding`. -/
def addChannelBinding (env : Env) : (depth : Nat) → TurnSocket → XiceAddress → TurnSocket × Bool
  | 0, turn, _ => (turn, false)
  | depth + 1, turn, peer =>
    if turn.priv.currentBinding.isSome then
      ({ turn with priv.pendingBindings := turn.priv.pendingBindings ++ [peer] }, false)
    else
      let ref := turn.nextRef
      let turn := { turn with nextRef := ref + 1 }
      match turn.priv.compatibility with
      | .draft9 | .rfc5766 =>
        let bound := turn.priv.channels.map ChannelBinding.channel
        let channel := walkChannels bound 65536 0x4000 bound
        if 0x4000 ≤ channel ∧ channel < 0xffff then
          match sendChannelBind env depth turn none ref channel peer with
          | (turn, true) =>
            let turn := turn.emit (.choose bound channel)
            ({ turn with priv.currentBinding := some ⟨ref, peer, channel, false, none⟩ }, true)
          | (turn, false) => (turn, false)
        else (turn, false)
      | .msn | .oc2007 =>
        match turn.setActiveMessage env peer with
        | (turn, none) => (turn, false)
        | (turn, some msg) =>
          let turn := { turn with priv.currentBinding := some ⟨ref, peer, 0, false, none⟩ }
          (sendTurnMessage env depth turn msg ref, true)
      | .google =>
        ({ turn with priv.currentBinding := some ⟨ref, peer, 0, false, none⟩ }, true)

end

variable (turn : TurnSocket) (env : Env) (msg : StunMessage) (peer : XiceAddress)
  (request : TURNMessage) (timer : Ref)

/-- More than one event nests: each pending request has at most four turns, and each pending binding
one. -/
def depth : Nat :=
  20 + 20 * turn.priv.pendingPermissions.length + 2 * turn.priv.pendingBindings.length

/-- A request for a permission is sent, with its timer. -/
def startPermission (turn : TurnSocket) (msg : StunMessage) : TurnSocket × TURNMessage :=
  (turn.sendServer env (bytesOf msg) none).1.startTimer env msg 0

/-- `priv_send_create_permission`. -/
def sendCreatePermission (turn : TurnSocket) (resp : Option StunMessage) (peer : XiceAddress) :
    TurnSocket :=
  let turn :=
    if isPeerInList turn.priv.sentPermissions peer then turn
    else { turn with priv.sentPermissions := turn.priv.sentPermissions ++ [peer] }
  match turn.createPermissionMessage env resp peer with
  | (turn, none) => turn
  | (turn, some msg) =>
    let (turn, msg) := turn.startPermission env msg
    let turn := scheduleTick env turn.depth turn
    { turn with priv.pendingPermissions := turn.priv.pendingPermissions ++ [msg] }

/-! ## Sending -/

/-- The end of `socket_send`, with a datagram that carries the payload. -/
def sendDatagram (turn : TurnSocket) (peer : XiceAddress) (buf datagram : List UInt8) :
    TurnSocket × Bool :=
  if turn.priv.compatibility = .rfc5766 ∧ !isPeerInList turn.priv.permissions peer then
    let turn :=
      if isPeerInList turn.priv.sentPermissions peer then turn
      else turn.sendCreatePermission env none peer
    let turn := turn.emit (.wrap peer buf datagram)
    ({ turn with priv.sendDataQueues := enqueueData turn.priv.sendDataQueues peer datagram }, true)
  else (turn.emit (.wrap peer buf datagram)).sendServer env datagram (some peer)

/-- The datagram of a payload on a channel. -/
def channelData (channel : UInt16) (buf : List UInt8) : List UInt8 :=
  htons channel ++ htons (UInt16.ofNat buf.length) ++ buf

/-- `socket_send`. -/
def socketSend (turn : TurnSocket) (peer : XiceAddress) (buf : List UInt8) : TurnSocket × Bool :=
  let turn := turn.emit (.ask ⟨some peer, buf⟩)
  match turn.priv.channels.find? fun binding => binding.peer.equal peer with
  | some binding =>
    if turn.priv.compatibility = .draft9 ∨ turn.priv.compatibility = .rfc5766 then
      if buf.length + 4 ≤ stunMaxMessageSize then
        turn.sendDatagram env peer buf (channelData binding.channel buf)
      else (turn.emit (.refuse peer buf), false)
    else turn.sendServer env buf (some peer)
  | none =>
    match turn.wrapPayload env peer buf with
    | (turn, some datagram) => turn.sendDatagram env peer buf datagram
    | (turn, none) =>
      let turn := turn.emit (.bare peer buf)
      turn.baseSend env ⟨some peer, buf⟩ none

/-! ## Receiving -/

/-- The upper layer sends through the socket before its callback returns. -/
def callback (env : Env) (turn : TurnSocket) (condition : XiceSocketCondition) (buf : List UInt8)
    (source : Option XiceAddress) : TurnSocket × Bool :=
  let turn := turn.emit (.upcall condition buf source)
  let (messages, ret) := env.callback turn.log
  (messages.foldl (fun turn message =>
    (turn.socketSend env (message.toAddr.getD .unspec) message.buf).1) turn, ret)

/-- The label `recv` of `xice_turn_socket_parse_recv`. -/
def recv (turn : TurnSocket) (len : Nat) (recvFrom : XiceAddress) (recvBuf : Mem) (recvLen : Nat) :
    TurnSocket :=
  if turn.priv.compatibility = .draft9 ∨ turn.priv.compatibility = .rfc5766 then
    match turn.priv.channels.find? fun binding => binding.channel = ntohs recvBuf 0 with
    | some binding =>
      (turn.callback env .readable ((recvBuf.offset 4).read (min len (ntohs recvBuf 2).toNat))
        (some binding.peer)).1
    | none => (turn.callback env .readable (recvBuf.read (min len recvLen)) (some recvFrom)).1
  else
    (turn.callback env .readable (recvBuf.read (min len recvLen))
      (some ((turn.priv.channels.head?.map ChannelBinding.peer).getD recvFrom))).1

/-- The label `msn_google_lock` of `xice_turn_socket_parse_recv`. -/
def msnGoogleLock (turn : TurnSocket) : TurnSocket :=
  match turn.priv.currentBinding with
  | none => turn
  | some binding =>
    let turn := { turn with priv.channels := [binding], priv.currentBinding := none }
    turn.processPendingBindings env turn.depth

/-- The Send request that is answered is forgotten. -/
def answerSendRequest (id : StunTransactionId) : TurnSocket :=
  match turn.priv.sendRequests.find? fun req => req.id = id with
  | none => turn
  | some req =>
    let turn := turn.timerDestroy req.source
    { turn with priv.sendRequests :=
        turn.priv.sendRequests.eraseP fun other => other.source = req.source }

/-- A message of the method `STUN_SEND` is received. -/
def recvSend (turn : TurnSocket) (msg : StunMessage) : TurnSocket :=
  if msg.getClass.value = .response then
    let turn := turn.answerSendRequest msg.id.value
    match turn.priv.compatibility, (msg.find32 attrOptions).value with
    | .google, .ok opts => if opts &&& 1 ≠ 0 then turn.msnGoogleLock env else turn
    | _, _ => turn
  else turn

/-- A message of the method `STUN_OLD_SET_ACTIVE_DST` is received. -/
def recvSetActive (turn : TurnSocket) (msg : StunMessage) : TurnSocket :=
  match turn.priv.currentBinding, turn.priv.currentBindingMsg with
  | some _, some request =>
    if request.message.id.value = msg.id.value then
      let turn := { turn with priv.currentBindingMsg := none }
      if msg.getClass.value = .response ∧
          (turn.priv.compatibility = .oc2007 ∨ turn.priv.compatibility = .msn) then
        turn.msnGoogleLock env
      else { turn with priv.currentBinding := none }
    else turn
  | _, _ => turn

/-- The binding at an index is confirmed: its renewal is put off. -/
def confirmAt (index : Nat) : TurnSocket :=
  match turn.priv.channels[index]? with
  | none => turn
  | some binding =>
    let turn := turn.timerClear binding.timeoutSource
    let (turn, source) := turn.timeoutAdd stunBindingTimeout .bindingTimeout
    { turn with priv.channels :=
        turn.priv.channels.set index { binding with renew := false, timeoutSource := some source } }

/-- The index of the binding of a peer. -/
def bindingIndex : Option Nat :=
  turn.priv.channels.findIdx? fun binding => binding.peer.equal peer

/-- The binding an answer is taken for: the new one, or that of the peer that is renewed. -/
def bindingOf : Option ChannelBinding :=
  match turn.priv.currentBinding with
  | some binding => some binding
  | none => (turn.bindingIndex (peerOf request)).bind fun index => turn.priv.channels[index]?

/-- The request for a binding is answered. -/
def answered : TurnSocket :=
  let turn := turn.emit (.answer request.binding ((turn.bindingOf request).map ChannelBinding.ref))
  { turn with priv.currentBindingMsg := none }

/-- The request succeeds: a new binding is added to the list. -/
def confirmed : TurnSocket :=
  let index := turn.bindingIndex (peerOf request)
  let turn := (turn.answered request).emit (.confirm request.binding)
  match turn.priv.currentBinding with
  | some binding =>
    let turn := { turn with
      priv.channels := turn.priv.channels ++ [binding]
      priv.currentBinding := none }
    turn.confirmAt (turn.priv.channels.length - 1)
  | none =>
    match index with
    | none => turn
    | some index => turn.confirmAt index

/-- A ChannelBind response to the current request is received. -/
def recvChannelBindAnswer (turn : TurnSocket) (request : TURNMessage) (msg : StunMessage) :
    TurnSocket :=
  match msg.getClass.value with
  | .error =>
    if unauthorized request.message msg then
      match turn.bindingOf request with
      | none => turn.answered request
      | some binding =>
        let renews := turn.priv.currentBinding.isNone
        let turn := turn.answered request
        match turn.sendChannelBind env turn.depth (some msg) binding.ref binding.channel
          binding.peer with
        | (turn, true) => if renews then turn.emit (.renewal binding.ref) else turn
        | (turn, false) => turn
    else
      let turn := { turn with priv.currentBinding := none, priv.currentBindingMsg := none }
      turn.processPendingBindings env turn.depth
  | .response =>
    let turn := turn.confirmed request
    turn.processPendingBindings env turn.depth
  | _ => turn

/-- A message of the method `STUN_CHANNELBIND` is received. -/
def recvChannelBind (turn : TurnSocket) (msg : StunMessage) : TurnSocket :=
  match turn.priv.currentBindingMsg with
  | none => turn
  | some request =>
    if request.message.id.value = msg.id.value then turn.recvChannelBindAnswer env request msg
    else turn

/-- The timer of the permissions is started with the first of them. -/
def startPermissionTimer : TurnSocket :=
  if turn.priv.permissionTimeoutSource.isNone then
    let (turn, source) := turn.timeoutAdd stunPermissionTimeout .permissionTimeout
    { turn with priv.permissionTimeoutSource := some source }
  else turn

/-- A message of the method `STUN_CREATEPERMISSION` is received. -/
def recvCreatePermission (turn : TurnSocket) (msg : StunMessage) : TurnSocket :=
  match turn.priv.pendingPermissions.find? fun request =>
    request.message.id.value = msg.id.value with
  | none => turn
  | some request =>
    if msg.getClass.value = .error ∧ unauthorized request.message msg then
      let turn := turn.deletePermission request.ref
      turn.sendCreatePermission env (some msg) (peerOf request)
    else
      let turn := if msg.getClass.value = .response then turn.startPermissionTimer else turn
      let turn := turn.grant env (peerOf request)
      turn.deletePermission request.ref

/-- A data indication is received: whether it was delivered. -/
def recvData (turn : TurnSocket) (len : Nat) (msg : StunMessage) : Option TurnSocket :=
  let source :=
    if turn.priv.compatibility = .draft9 ∨ turn.priv.compatibility = .rfc5766 then
      (msg.findXorAddr attrPeerAddress).value
    else (msg.findAddr attrPeerAddress).value
  match source, (msg.find attrData).value with
  | some source, some data =>
    some (turn.callback env .readable
      ((msg.buffer.offset data.offset).read (min len data.len.toNat)) (some source)).1
  | _, _ => none

/-- Whether a validated message has the cookie of its mode. -/
def hasTurnCookie : Bool :=
  if turn.priv.compatibility = .draft9 ∨ turn.priv.compatibility = .rfc5766 then true
  else match (msg.find32 attrMagicCookie).value with
    | .ok cookie => cookie = turnMagicCookie
    | .error _ => false

/-- `xice_turn_socket_parse_recv`, with a buffer of `len` bytes. When `stun_agent_validate` does not
return, neither does it, and nothing happens. -/
def parseRecv (turn : TurnSocket) (len : Nat) (recvFrom : XiceAddress) (recvBuf : Mem)
    (recvLen : Nat) : TurnSocket × Int :=
  if turn.priv.serverAddr.equal recvFrom then
    match (turn.priv.agent.validate env.platform emptyMessage recvBuf (UInt64.ofNat recvLen)
      none).value with
    | none => (turn, 0)
    | some validation =>
      let turn := { turn with priv.agent := validation.agent }
      let msg := validation.msg
      if validation.status = .success ∧ turn.hasTurnCookie msg then
        if msg.getMethod.value = methodSend then (turn.recvSend env msg, 0)
        else if msg.getMethod.value = methodIndSend then (turn.recvSetActive env msg, 0)
        else if msg.getMethod.value = methodChannelBind then (turn.recvChannelBind env msg, 0)
        else if msg.getMethod.value = methodCreatePermission then
          (turn.recvCreatePermission env msg, 0)
        else if msg.getClass.value = .indication ∧ msg.getMethod.value = methodIndData then
          match turn.recvData env len msg with
          | some turn => (turn, 0)
          | none => (turn.recv env len recvFrom recvBuf recvLen, 0)
        else (turn.recv env len recvFrom recvBuf recvLen, 0)
      else (turn.recv env len recvFrom recvBuf recvLen, 0)
  else (turn.recv env len recvFrom recvBuf recvLen, 0)

/-- `read_callback`. `recvFrom` is what the unset local variable `recv_from` holds. -/
def readCallback (turn : TurnSocket) (condition : XiceSocketCondition) (buf : Mem) (len : Nat)
    (source recvFrom : XiceAddress) : TurnSocket × Bool :=
  if condition ≠ .readable then turn.callback env condition (buf.read len) (some source)
  else if len = 0 then (turn, true)
  else
    let (turn, ret) := turn.parseRecv env len recvFrom buf len
    (turn, ret < 0)

/-! ## Timers -/

/-- `priv_retransmissions_tick`. -/
def retransmissionsTick (turn : TurnSocket) : TurnSocket :=
  match turn.retransmissionsTickUnlocked env turn.depth with
  | (turn, true) => turn
  | (turn, false) =>
    let turn := turn.timerClear turn.priv.tickSourceChannelBind
    { turn with priv.tickSourceChannelBind := none }

/-- `priv_retransmissions_create_permission_tick`. -/
def createPermissionTick (turn : TurnSocket) : TurnSocket :=
  (turn.priv.pendingPermissions.map TURNMessage.ref).foldl (fun turn ref =>
    match turn.priv.pendingPermissions.find? fun msg => msg.ref = ref with
    | none => turn
    | some msg =>
      match turn.createPermissionTickUnlocked env turn.depth msg with
      | (turn, true) => turn
      | (turn, false) =>
        let turn := turn.timerClear turn.priv.tickSourceCreatePermission
        { turn with priv.tickSourceCreatePermission := none }) turn

/-- A request to renew a binding is sent. -/
def sendRenewal (turn : TurnSocket) (binding : ChannelBinding) : TurnSocket :=
  match turn.sendChannelBind env turn.depth none binding.ref binding.channel binding.peer with
  | (turn, true) => turn.emit (.renewal binding.ref)
  | (turn, false) => turn

/-- `priv_binding_timeout`. -/
def bindingTimeout (turn : TurnSocket) (timer : Ref) : TurnSocket :=
  match turn.priv.channels.findIdx? fun binding => binding.timeoutSource = some timer with
  | none => turn
  | some index =>
    match turn.priv.channels[index]? with
    | none => turn
    | some binding =>
      let turn := turn.timerDestroy timer
      let (turn, source) := turn.timeoutAdd stunExpireTimeout .bindingExpiredTimeout
      let turn := { turn with priv.channels :=
        turn.priv.channels.set index { binding with renew := true, timeoutSource := some source } }
      if turn.priv.currentBindingMsg.isNone then turn.sendRenewal env binding else turn

/-- A dropped binding is asked for again, unless its renewal is under way. -/
def bindAgain (turn : TurnSocket) (binding : ChannelBinding) : TurnSocket :=
  match turn.priv.currentBinding, turn.priv.currentBindingMsg with
  | none, some request =>
    if binding.peer.equal (peerOf request) then
      { turn with priv.currentBinding := some binding }
    else (turn.addChannelBinding env turn.depth binding.peer).1
  | _, _ => (turn.addChannelBinding env turn.depth binding.peer).1

/-- `priv_binding_expired_timeout`. -/
def bindingExpiredTimeout (turn : TurnSocket) (timer : Ref) : TurnSocket :=
  match turn.priv.channels.findIdx? fun binding => binding.timeoutSource = some timer with
  | none => turn
  | some index =>
    match turn.priv.channels[index]? with
    | none => turn
    | some binding =>
      let turn := { turn with priv.channels := turn.priv.channels.eraseIdx index }
      let turn := turn.emit (.remove binding.ref)
      turn.bindAgain env binding

/-- `priv_forget_send_request`. -/
def forgetSendRequest : TurnSocket :=
  match turn.priv.sendRequests.find? fun req => req.source = timer with
  | none => turn
  | some req =>
    let turn := turn.forgetTransaction req.id
    { turn with priv.sendRequests :=
        turn.priv.sendRequests.eraseP fun other => other.source = timer }

/-- A timer goes on running where its function returns true. -/
def fire (turn : TurnSocket) (timer : Timer) : TurnSocket :=
  let stopped := turn.timerDestroy timer.ref
  match timer.func with
  | .retransmissionsTick => stopped.retransmissionsTick env
  | .createPermissionTick => stopped.createPermissionTick env
  | .bindingTimeout => (stopped.emit (.timer timer)).bindingTimeout env timer.ref
  | .bindingExpiredTimeout => (stopped.emit (.timer timer)).bindingExpiredTimeout env timer.ref
  | .forgetSendRequest => stopped.forgetSendRequest timer.ref
  | .permissionTimeout =>
    { stopped with
      priv.permissions := []
      timers := stopped.timers ++ [{ timer with started := turn.now }] }

/-- `xice_turn_socket_set_peer`. -/
def setPeer (turn : TurnSocket) (peer : XiceAddress) : TurnSocket :=
  (turn.addChannelBinding env turn.depth peer).1

end TurnSocket

/-! ## Runs -/

/-- What happens to an open TURN socket. -/
inductive Event where
  /-- `xice_turn_socket_set_peer` is called. -/
  | setPeer (peer : XiceAddress)
  | send (peer : XiceAddress) (buf : List UInt8)
  /-- `xice_turn_socket_parse_recv` is called with a packet from `recvFrom`. -/
  | receive (recvFrom : XiceAddress) (recvBuf : Mem) (recvLen : Nat)
  | fire (ref : Ref)

/-- A timer fires when its interval is over. -/
def TurnSocket.step (env : Env) (turn : TurnSocket) (elapsed : Nat) (event : Event) : TurnSocket :=
  let turn := { turn with now := turn.now + elapsed }
  match event with
  | .setPeer peer => turn.setPeer env peer
  | .send peer buf => (turn.socketSend env peer buf).1
  | .receive recvFrom recvBuf recvLen => (turn.parseRecv env recvLen recvFrom recvBuf recvLen).1
  | .fire ref =>
    match turn.timers.find? fun timer =>
      timer.ref = ref ∧ timer.started + timer.interval * 1000 ≤ turn.now with
    | none => turn
    | some timer => turn.fire env timer

/-- A run: events, each with the time since the one before. -/
def TurnSocket.run (env : Env) (turn : TurnSocket) (events : List (Nat × Event)) : TurnSocket :=
  events.foldl (fun turn event => turn.step env event.1 event.2) turn

end Xice.Turn
