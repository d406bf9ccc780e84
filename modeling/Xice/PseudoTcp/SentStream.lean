import Xice.PseudoTcp.SendQueue

/-!
# The sent stream

The bytes queued on a socket, control byte first, are one stream, and sequence numbers are positions
in it. As long as acknowledgement numbers fall on segment ends, the segments tile the part of the
stream from `snd_una` on, and every packet carries the bytes of the stream at its sequence number.
-/

namespace Xice.PseudoTcp

open Xice.Lib Exec Relation Tiling Word List Mem

/-- The bytes that entered the send queue at an event. -/
def Event.queuedBytes : Event → List UInt8
  | .queued _ bytes => bytes
  | _ => []

/-- The bytes that `send` accepted at an event. -/
def Event.acceptedBytes : Event → List UInt8
  | .queued false bytes => bytes
  | _ => []

/-- All bytes queued so far, control byte included. -/
def History.stream (h : History) : List UInt8 := h.trace.flatMap Event.queuedBytes

/-- All bytes that `send` accepted so far. -/
def History.accepted (h : History) : List UInt8 := h.trace.flatMap Event.acceptedBytes

/-- The send queue holds the end of a stream. -/
structure Outgoing.Streams (o : Outgoing) (stream : List UInt8) : Prop where
  tiles : Tiles SSegment.start SSegment.size o.slist o.sndUna.toNat
    (o.sndUna.toNat + o.slen.toNat)
  ends : o.sndUna.toNat + o.slen.toNat = stream.length
  bytes : o.sbuf.read o.slen.toNat = stream.drop o.sndUna.toNat

/-- A segment ends here that no queued byte can join. -/
def Outgoing.Fixed (o : Outgoing) (position : Nat) : Prop :=
  ∃ segment ∈ o.slist, (segment.xmit ≠ 0 ∨ segment.bCtrl = true) ∧
    segment.start + segment.size = position

variable {allowed : Call → Prop} {o : Outgoing} {s : PseudoTcpSocket} {h h' : History}
  {front back : List SSegment} {segment : SSegment} {stream : List UInt8} {first last : Nat}

/-! ## Cutting and marking -/

variable (now : UInt32) {count len : UInt32} {index position : Nat} {bCtrl : Bool}

/-- A cut keeps the tiling. -/
theorem tiles_cut (tiles : Tiles SSegment.start SSegment.size (front ++ segment :: back) first last)
    (below : last < 2 ^ 32) (within : count.toNat ≤ segment.len.toNat) (xmit : UInt8) :
    Tiles SSegment.start SSegment.size
      (front ++ { segment with len := count, xmit := xmit } ::
        { segment with seq := segment.seq + count, len := segment.len - count } :: back)
      first last := by
  have inside := tiles.inside (show segment ∈ front ++ segment :: back by simp)
  rw [tiles_append] at tiles ⊢
  obtain ⟨before, begins, after⟩ := tiles
  simp only [SSegment.start, SSegment.size] at inside begins
  have rest : (segment.len - count).toNat = segment.len.toNat - count.toNat :=
    toNat_sub32 within
  have next : (segment.seq + count).toNat = segment.seq.toNat + count.toNat :=
    toNat_add32 (by omega)
  refine ⟨before, begins, ?_, ?_⟩
  · simp only [SSegment.start, SSegment.size]
    omega
  · have same : first + total SSegment.size front + count.toNat + (segment.len - count).toNat =
        first + total SSegment.size front + segment.len.toNat := by omega
    simp only [SSegment.size] at after ⊢
    rwa [same]

/-- So does a mark. -/
theorem tiles_mark
    (tiles : Tiles SSegment.start SSegment.size (front ++ segment :: back) first last)
    (xmit : UInt8) :
    Tiles SSegment.start SSegment.size (front ++ { segment with xmit := xmit } :: back)
      first last := by
  rw [tiles_append] at tiles ⊢
  exact tiles

/-- So does a transmission. -/
theorem tiles_transmitted (tiles : Tiles SSegment.start SSegment.size s.slist first last)
    (below : last < 2 ^ 32) (found : s.slist[index]? = some segment)
    (within : count.toNat ≤ segment.len.toNat) :
    Tiles SSegment.start SSegment.size (s.transmitted index count now).slist first last := by
  have listed := Lists.eq_append_cons found
  rw [listed] at tiles
  rw [← Lists.length_take found]
  by_cases cut : count < segment.len
  · rw [transmitted_cut listed count now cut]
    exact tiles_cut tiles below within _
  · rw [transmitted_whole listed count now cut]
    exact tiles_mark tiles _

/-! ## Queueing -/

/-- So do queued bytes. -/
theorem Outgoing.Streams.tiles_append (streams : o.Streams stream)
    (fits : stream.length + len.toNat < 2 ^ 32) :
    Tiles SSegment.start SSegment.size (o.appendSegment len bCtrl) o.sndUna.toNat
      (o.sndUna.toNat + o.slen.toNat + len.toNat) := by
  have tiles := streams.tiles
  have ends := streams.ends
  rcases appendSegment_cases o len bCtrl with
    ⟨front, last, listed, -, -, appended⟩ | ⟨-, appended⟩
  · rw [listed] at tiles
    have inside := tiles.inside (show last ∈ front ++ [last] by simp)
    rw [appended]
    rw [Tiling.tiles_append, tiles_cons, tiles_nil] at tiles ⊢
    obtain ⟨before, begins, stops⟩ := tiles
    simp only [SSegment.start, SSegment.size] at inside begins stops
    have joined : (last.len + len).toNat = last.len.toNat + len.toNat :=
      toNat_add32 (by omega)
    refine ⟨before, begins, ?_⟩
    simp only [SSegment.size]
    omega
  · have next : (o.sndUna + o.slen).toNat = o.sndUna.toNat + o.slen.toNat :=
      toNat_add32 (by omega)
    rw [appended, Tiling.tiles_append, ← tiles.last_eq]
    exact ⟨tiles, next, rfl⟩

/-- Queued bytes extend the stream. -/
theorem Outgoing.Streams.enqueue (streams : o.Streams stream) (data : Mem)
    (room : o.slen.toNat + len.toNat ≤ kSndBufSize.toNat)
    (fits : stream.length + len.toNat < 2 ^ 32) :
    (o.enqueue data len bCtrl).Streams (stream ++ data.read len.toNat) := by
  have ends := streams.ends
  have small : kSndBufSize.toNat = 92160 := rfl
  have slen : (o.slen + len).toNat = o.slen.toNat + len.toNat := toNat_add32 (by omega)
  refine ⟨?_, ?_, ?_⟩
  · simp only [Outgoing.enqueue, slen]
    rw [← Nat.add_assoc]
    exact streams.tiles_append fits
  · simp only [Outgoing.enqueue, slen, length_append, length_read]
    omega
  · simp only [Outgoing.enqueue, slen]
    rw [read_write_append room, streams.bytes, drop_append_of_le_length (by omega)]

/-! ## Acknowledging -/

/-- A release up to the end of a segment keeps the tiling. -/
theorem freeSegments_tiles {slist rest : List SSegment} {nFree largest largest' : UInt32}
    (tiles : Tiles SSegment.start SSegment.size slist first last)
    (boundary : nFree = 0 ∨
      ∃ segment ∈ slist, segment.start + segment.size = first + nFree.toNat)
    (freed : freeSegments slist nFree largest = some (rest, largest')) :
    Tiles SSegment.start SSegment.size rest (first + nFree.toNat) last ∧ rest <:+ slist := by
  induction slist generalizing nFree largest first with
  | nil =>
    rcases boundary with rfl | ⟨segment, member, -⟩
    · rw [freeSegments_zero] at freed
      obtain ⟨rfl, -⟩ := Prod.mk.inj (Option.some.inj freed)
      exact ⟨tiles, suffix_refl _⟩
    · simp at member
  | cons data slist ih =>
    by_cases none : nFree = 0
    · subst none
      rw [freeSegments_zero] at freed
      obtain ⟨rfl, -⟩ := Prod.mk.inj (Option.some.inj freed)
      exact ⟨tiles, suffix_refl _⟩
    · obtain ⟨begins, tiles⟩ := tiles
      obtain ⟨segment, member, stops⟩ := boundary.resolve_left none
      have positive := mt eq_zero32.mpr none
      -- The boundary is not inside the first segment.
      have reaches : data.size ≤ nFree.toNat ∧
          (nFree.toNat ≠ data.size → segment ∈ slist) := by
        rcases mem_cons.mp member with rfl | member
        · exact ⟨by omega, fun other => absurd (by omega) other⟩
        · have := (tiles.inside member).1
          exact ⟨by omega, fun _ => member⟩
      have above : ¬nFree < data.len := by
        rw [UInt32.lt_iff_toNat_lt]
        exact Nat.not_lt.mpr reaches.1
      rw [freeSegments_cons _ _ _ none, if_neg above] at freed
      have left : (nFree - data.len).toNat = nFree.toNat - data.len.toNat :=
        toNat_sub32 reaches.1
      have target : first + data.size + (nFree - data.len).toNat = first + nFree.toNat := by
        simp only [SSegment.size] at reaches ⊢
        omega
      have rest := ih tiles ?_ freed
      · rw [target] at rest
        exact ⟨rest.1, rest.2.trans (suffix_cons _ _)⟩
      · by_cases whole : nFree.toNat = data.size
        · left
          rw [eq_zero32]
          simp only [SSegment.size] at whole
          omega
        · right
          exact ⟨segment, reaches.2 whole, by omega⟩

/-- An acknowledgement at the end of a segment leaves the rest queued. -/
theorem Outgoing.Streams.acknowledged {ack largest largest' : UInt32} {wnd : UInt16}
    {slist : List SSegment} (streams : o.Streams stream) (counted : o.Counted)
    (new : o.sndUna < ack) (sent : ack ≤ o.sndNxt)
    (boundary : ∃ segment ∈ o.slist, segment.start + segment.size = ack.toNat)
    (freed : freeSegments o.slist (ack - o.sndUna) largest = some (slist, largest')) :
    { o.acknowledged ack wnd with slist := slist }.Streams stream ∧ slist <:+ o.slist := by
  obtain ⟨acked, flight, above, below⟩ := acked_le new sent
  obtain ⟨segment, member, stops⟩ := boundary
  have inside := streams.tiles.inside member
  have ends := streams.ends
  obtain ⟨_, _, parts⟩ := counted
  have room := parts.room
  have tail : o.sndUna.toNat + (ack - o.sndUna).toNat = ack.toNat := by omega
  obtain ⟨tiles, suffix⟩ := freeSegments_tiles streams.tiles
    (.inr ⟨segment, member, by omega⟩) freed
  have slen : (o.slen - (ack - o.sndUna)).toNat = o.slen.toNat - (ack - o.sndUna).toNat :=
    toNat_sub32 (by omega)
  rw [tail] at tiles
  refine ⟨⟨?_, ?_, ?_⟩, suffix⟩
  · simp only [Outgoing.acknowledged, slen]
    have same : ack.toNat + (o.slen.toNat - (ack - o.sndUna).toNat) =
        o.sndUna.toNat + o.slen.toNat := by omega
    rwa [same]
  · simp only [Outgoing.acknowledged, slen]
    omega
  · simp only [Outgoing.acknowledged, slen]
    have front := read_write o.sbuf (o.sbuf.offset (ack - o.sndUna).toNat)
      (show 0 + (o.slen.toNat - (ack - o.sndUna).toNat) ≤ kSndBufSize.toNat by omega)
    have unmoved : ∀ mem : Mem, mem.offset 0 = mem := by
      intro mem
      funext index
      rw [offset_apply, Nat.zero_add]
    rw [unmoved] at front
    rw [front, read_offset, streams.bytes, drop_drop, tail]

/-! ## Packets -/

/-- A segment holds the stream at its sequence number. -/
theorem Outgoing.Streams.payload (streams : o.Streams stream) (member : segment ∈ o.slist)
    (within : count.toNat ≤ segment.len.toNat) :
    o.payload segment count = (stream.drop segment.seq.toNat).take count.toNat := by
  have inside := streams.tiles.inside member
  simp only [SSegment.start, SSegment.size] at inside
  have offset : (segment.seq - o.sndUna).toNat = segment.seq.toNat - o.sndUna.toNat :=
    toNat_sub32 inside.1
  have whole := read_offset o.sbuf (segment.seq.toNat - o.sndUna.toNat) o.slen.toNat
  rw [streams.bytes, drop_drop, Nat.add_sub_cancel' inside.1] at whole
  have initial := read_initial (o.sbuf.offset (segment.seq.toNat - o.sndUna.toNat))
    (show count.toNat ≤ o.slen.toNat - (segment.seq.toNat - o.sndUna.toNat) by omega)
  rw [Outgoing.payload, offset]
  rw [whole] at initial
  have length := length_read (o.sbuf.offset (segment.seq.toNat - o.sndUna.toNat)) count.toNat
  rwa [prefix_iff_eq_take, length] at initial

/-- So does a packet with its first bytes. -/
theorem Outgoing.Streams.dataPacket {now : UInt32} (streams : s.Streams stream)
    (found : s.slist[index]? = some segment) (within : count.toNat ≤ segment.len.toNat) :
    (s.dataPacket segment count now).data <+:
      stream.drop (s.dataPacket segment count now).seq.toNat := by
  have member : segment ∈ s.slist := mem_of_getElem? found
  change s.toOutgoing.payload segment count <+: stream.drop segment.seq.toNat
  rw [streams.payload member within]
  exact take_prefix _ _

/-! ## Steps -/

/-- The control byte comes first, the queue holds the end of the stream until the socket is closed,
and packets carry it. -/
structure History.Sending (h : History) : Prop where
  listening : h.sock.state = .listen → h.stream = []
  control : h.stream.length ≤ h.accepted.length + 1
  streams : h.accepted.length < 2 ^ 31 → h.sock.state ≠ .closed → h.sock.Streams h.stream
  packets : h.accepted.length < 2 ^ 31 → ∀ packet result, .writePacket packet result ∈ h.trace →
    packet.data <+: h.stream.drop packet.seq.toNat

/-- An event that queues nothing accepts nothing. -/
theorem acceptedBytes_nil {event : Event} (nothing : event.queuedBytes = []) :
    event.acceptedBytes = [] := by
  cases event with
  | queued bCtrl bytes =>
    cases bCtrl with
    | false => exact nothing
    | true => rfl
  | _ => rfl

/-- The queue still holds the stream. -/
theorem History.Sending.sock {s' : PseudoTcpSocket} (sending : h.Sending)
    (listening : s'.state = .listen → h.sock.state = .listen)
    (streams : h.accepted.length < 2 ^ 31 → s'.state ≠ .closed → s'.Streams h.stream) :
    History.Sending ⟨s', h.trace⟩ :=
  ⟨fun state => sending.listening (listening state), sending.control, streams, sending.packets⟩

/-- Nothing is queued, and a packet carries the stream. -/
theorem History.Sending.event {event : Event} (sending : h.Sending)
    (nothing : event.queuedBytes = [])
    (carries : h.accepted.length < 2 ^ 31 → ∀ packet result, event = .writePacket packet result →
      packet.data <+: h.stream.drop packet.seq.toNat) :
    History.Sending ⟨h.sock, h.trace ++ [event]⟩ := by
  have stream : History.stream ⟨h.sock, h.trace ++ [event]⟩ = h.stream := by
    simp [History.stream, nothing]
  have accepted : History.accepted ⟨h.sock, h.trace ++ [event]⟩ = h.accepted := by
    simp [History.accepted, acceptedBytes_nil nothing]
  refine ⟨?_, ?_, ?_, ?_⟩
  · rw [stream]
    exact sending.listening
  · rw [stream, accepted]
    exact sending.control
  · rw [stream, accepted]
    exact sending.streams
  · rw [stream, accepted]
    intro few packet result member
    rcases mem_append.mp member with member | member
    · exact sending.packets few packet result member
    · exact carries few packet result (mem_singleton.mp member).symm

/-- An event that is neither a packet nor queues anything. -/
theorem History.Sending.other (sending : h.Sending) (event : Event)
    (nothing : event.queuedBytes = []) (plain : ∀ packet result, event ≠ .writePacket packet result) :
    History.Sending ⟨h.sock, h.trace ++ [event]⟩ :=
  sending.event nothing fun _ packet result same => absurd same (plain packet result)

/-- Bytes are queued. -/
theorem History.Sending.queue {data : Mem} {s' : PseudoTcpSocket} (sending : h.Sending)
    (live : h.sock.state ≠ .closed) (listening : s'.state ≠ .listen)
    (outgoing : s'.toOutgoing = h.sock.toOutgoing.enqueue data len bCtrl)
    (room : h.sock.slen.toNat + len.toNat ≤ kSndBufSize.toNat)
    (control : bCtrl = true → h.stream = [] ∧ len = 1) :
    History.Sending ⟨s', h.trace ++ [.queued bCtrl (data.read len.toNat)]⟩ := by
  have stream : History.stream ⟨s', h.trace ++ [.queued bCtrl (data.read len.toNat)]⟩ =
      h.stream ++ data.read len.toNat := by
    simp [History.stream, Event.queuedBytes]
  have small : kSndBufSize.toNat = 92160 := rfl
  have bound := sending.control
  have accepted : History.accepted ⟨s', h.trace ++ [.queued bCtrl (data.read len.toNat)]⟩ =
      h.accepted ++ if bCtrl then [] else data.read len.toNat := by
    cases bCtrl <;> simp [History.accepted, Event.acceptedBytes]
  have fewer : (h.accepted ++ if bCtrl then [] else data.read len.toNat).length < 2 ^ 31 →
      h.accepted.length < 2 ^ 31 := by
    rw [length_append]
    omega
  refine ⟨fun state => absurd state listening, ?_, ?_, ?_⟩
  · rw [stream, accepted]
    cases bCtrl with
    | false =>
      simp only [length_append, length_read, Bool.false_eq_true, if_false]
      omega
    | true =>
      obtain ⟨empty, rfl⟩ := control rfl
      simp [empty]
  · rw [stream, accepted]
    intro few _
    change s'.toOutgoing.Streams _
    rw [outgoing]
    exact (sending.streams (fewer few) live).enqueue data room (by have := fewer few; omega)
  · rw [stream, accepted]
    intro few packet result member
    rcases mem_append.mp member with member | member
    · have old := sending.packets (fewer few) packet result member
      refine old.trans ?_
      rw [drop_append]
      exact prefix_append _ _
    · simp at member

/-- A transmission leaves the stream. -/
theorem Outgoing.Streams.transmitted (streams : s.Streams stream) (below : stream.length < 2 ^ 32)
    (found : s.slist[index]? = some segment) (within : count.toNat ≤ segment.len.toNat) :
    (s.transmitted index count now).Streams stream := by
  have tiles := tiles_transmitted now streams.tiles (by rw [streams.ends]; exact below) found within
  rw [transmitted_same]
  exact ⟨tiles, streams.ends, streams.bytes⟩

/-- Quiet steps keep it. -/
theorem Quiet.sending (step : Quiet allowed h h') (ordered : h.sock.Ordered)
    (sending : h.Sending) : h'.Sending := by
  have below : h.accepted.length < 2 ^ 31 → h.stream.length < 2 ^ 32 := by
    have := sending.control
    omega
  cases step with
  | tune tuned =>
    refine sending.sock ?_ ?_
    · rw [tuned.same]
      exact id
    · rw [tuned.same]
      exact sending.streams
  | advise mtu made same sane =>
    refine sending.sock ?_ ?_
    · rw [same]
      exact id
    · rw [same]
      exact sending.streams
  | look => exact sending.other _ rfl (by simp)
  | writeEmpty seq now result =>
    refine sending.event rfl fun _ packet other same => ?_
    rw [← (Event.writePacket.inj same).1]
    exact nil_prefix
  | writeRefused count now result live found within refused =>
    refine sending.event rfl fun few packet other same => ?_
    rw [← (Event.writePacket.inj same).1]
    exact (sending.streams few live).dataPacket found within
  | @transmitNew index segment count now stamp live found unsent first within nonempty pending
      window =>
    have sent : History.Sending ⟨h.sock, h.trace ++
        [.writePacket (h.sock.dataPacket segment count stamp) .success]⟩ := by
      refine sending.event rfl fun few packet other same => ?_
      rw [← (Event.writePacket.inj same).1]
      exact (sending.streams few live).dataPacket found within
    refine sent.sock ?_ fun few _ => (sent.streams few live).transmitted now ?_ found within
    · rw [transmitted_same]
      exact id
    · have := sent.control
      omega
  | @retransmit segment count now stamp live found limit within reason =>
    have sent : History.Sending ⟨h.sock, h.trace ++
        [.writePacket (h.sock.dataPacket segment count stamp) .success]⟩ := by
      refine sending.event rfl fun few packet other same => ?_
      rw [← (Event.writePacket.inj same).1]
      exact (sending.streams few live).dataPacket found within
    refine sent.sock ?_ fun few _ => (sent.streams few live).transmitted now ?_ found within
    · rw [transmitted_same]
      exact id
    · have := sent.control
      omega
  | split count found unsent first nonempty within =>
    refine sending.sock id fun few live => ?_
    have streams := sending.streams few live
    have tiles := streams.tiles
    rw [Lists.eq_append_cons found] at tiles
    rw [splitSegment_fresh count found unsent]
    exact ⟨tiles_cut tiles (by rw [streams.ends]; exact below few) (by omega) _, streams.ends,
      streams.bytes⟩
  | openCtl state listening opened room =>
    have live : h.sock.state ≠ .closed := by
      rw [listening]
      decide
    obtain ⟨_, _, parts⟩ := ordered.counted live
    have read : Mem.read (fun _ => ctlConnect) (1 : UInt32).toNat = [ctlConnect] := rfl
    rw [← read]
    refine sending.queue live ?_ rfl (room_add parts.room room)
      (fun _ => ⟨sending.listening listening, rfl⟩)
    rcases opened with rfl | rfl <;> simp
  | enqueue buffer len count made established room =>
    have live : h.sock.state ≠ .closed := by
      rw [established]
      decide
    obtain ⟨_, _, parts⟩ := ordered.counted live
    refine sending.queue live ?_ rfl (room_add parts.room room) (by simp)
    simp [established]
  | countDup => exact sending.sock id sending.streams
  | enterRecovery => exact sending.sock id sending.streams
  | rearm => exact sending.sock id sending.streams
  | establish opening tuned =>
    have live : h.sock.state ≠ .closed := by
      rcases opening with opening | opening <;> rw [opening] <;> decide
    have told := sending.other .opened rfl (by simp)
    refine told.sock ?_ ?_
    · rw [tuned.same]
      simp
    · rw [tuned.same]
      exact fun few _ => told.streams few live
  | readable => exact sending.other _ rfl (by simp)
  | writable => exact sending.other _ rfl (by simp)
  | closedown err =>
    have told := sending.other (.closed err) rfl (by simp)
    exact told.sock (by simp) (by simp)
  | consume len read made established ready =>
    have told := sending.other (.received (h.sock.rbuf.read read.toNat)) rfl (by simp)
    exact told.sock id told.streams
  | widen => exact sending.sock id sending.streams
  | shut => exact sending.sock id sending.streams

/-- So does an acknowledgement number that is old, not yet transmitted or the end of a segment. -/
theorem AckStep.sending {seg : Segment} (step : AckStep seg h h') (ordered : h.sock.Ordered)
    (sending : h.Sending)
    (boundary : h.accepted.length < 2 ^ 31 → h.sock.state ≠ .closed →
      seg.ack ≤ h.sock.sndUna ∨ h.sock.sndNxt < seg.ack ∨
        ∃ segment ∈ h.sock.slist, segment.start + segment.size = seg.ack.toNat) : h'.Sending := by
  cases step with
  | newAck now new sent freed =>
    refine sending.sock id fun few live => ?_
    have streams := sending.streams few live
    obtain ⟨-, -, above, below⟩ := acked_le new sent
    have stops : ∃ segment ∈ h.sock.slist, segment.start + segment.size = seg.ack.toNat := by
      rcases boundary few live with old | early | stops
      · have := UInt32.le_iff_toNat_le.mp old
        omega
      · have := UInt32.lt_iff_toNat_lt.mp early
        omega
      · exact stops
    exact (streams.acknowledged (ordered.counted live) new sent stops freed).1
  | sameAck same =>
    refine sending.sock id fun few live => ?_
    have streams := sending.streams few live
    exact ⟨streams.tiles, streams.ends, streams.bytes⟩

/-- The use of the payload keeps the sent stream. -/
theorem DataStep.sending {buffer : Mem} {seg : Segment} (step : DataStep buffer seg h h')
    (sending : h.Sending) : h'.Sending := by
  have copied : ∀ (s' : PseudoTcpSocket) (index start len : Nat),
      s'.state = h.sock.state → s'.toOutgoing = h.sock.toOutgoing →
      History.Sending ⟨s', h.trace ++ [.packetRead index len, .rbufWrite start len]⟩ := by
    intro s' index start len state outgoing
    have read := sending.other (.packetRead index len) rfl (by simp)
    have told := read.other (.rbufWrite start len) rfl (by simp)
    rw [append_assoc] at told
    refine told.sock ?_ ?_
    · rw [state]
      exact id
    · rw [state, outgoing]
      exact told.streams
  cases step with
  | skip => exact sending.sock id sending.streams
  | inOrder | outOfOrder => exact copied _ _ _ _ rfl rfl

/-! ## Segment ends that stay -/

/-- Cuts leave such a position. -/
theorem Outgoing.Fixed.cut {xmit : UInt8} {o' : Outgoing} (fixed : o.Fixed position)
    (listed : o.slist = front ++ segment :: back) (below : segment.start + segment.size < 2 ^ 32)
    (within : count.toNat ≤ segment.len.toNat)
    (cut : o'.slist = front ++ { segment with len := count, xmit := xmit } ::
      { segment with seq := segment.seq + count, len := segment.len - count } :: back) :
    o'.Fixed position := by
  obtain ⟨other, member, stays, stops⟩ := fixed
  simp only [SSegment.start, SSegment.size] at below stops
  rw [listed] at member
  rcases mem_append.mp member with member | member
  · exact ⟨other, by rw [cut]; exact mem_append_left _ member, stays, stops⟩
  · rcases mem_cons.mp member with rfl | member
    · refine ⟨{ other with seq := other.seq + count, len := other.len - count }, ?_, stays, ?_⟩
      · rw [cut]
        simp
      · simp only [SSegment.start, SSegment.size]
        rw [toNat_add32 (by omega), toNat_sub32 within]
        omega
    · refine ⟨other, ?_, stays, stops⟩
      rw [cut]
      exact mem_append_right _ (mem_cons_of_mem _ (mem_cons_of_mem _ member))

/-- Counting a transmission keeps the ends that stay. -/
theorem Outgoing.Fixed.mark {o' : Outgoing} (fixed : o.Fixed position)
    (listed : o.slist = front ++ segment :: back) (limit : segment.xmit.toNat < 30)
    (marked : o'.slist = front ++ { segment with xmit := segment.xmit + 1 } :: back) :
    o'.Fixed position := by
  obtain ⟨other, member, stays, stops⟩ := fixed
  rw [listed] at member
  rcases mem_append.mp member with member | member
  · exact ⟨other, by rw [marked]; exact mem_append_left _ member, stays, stops⟩
  · rcases mem_cons.mp member with rfl | member
    · refine ⟨{ other with xmit := other.xmit + 1 }, ?_, .inl (xmit_succ limit), stops⟩
      rw [marked]
      simp
    · refine ⟨other, ?_, stays, stops⟩
      rw [marked]
      exact mem_append_right _ (mem_cons_of_mem _ member)

/-- So do transmissions. -/
theorem Outgoing.Fixed.transmitted (fixed : s.Fixed position)
    (found : s.slist[index]? = some segment) (below : segment.start + segment.size < 2 ^ 32)
    (limit : segment.xmit.toNat < 30) (within : count.toNat ≤ segment.len.toNat) :
    (s.transmitted index count now).Fixed position := by
  have listed := Lists.eq_append_cons found
  rw [← Lists.length_take found]
  by_cases cut : count < segment.len
  · exact fixed.cut listed below within (by rw [transmitted_cut listed count now cut])
  · exact fixed.mark listed limit (by rw [transmitted_whole listed count now cut])

/-- Queued bytes of the application keep the ends that stay. -/
theorem Outgoing.Fixed.enqueue (fixed : o.Fixed position) (data : Mem) (len : UInt32) :
    (o.enqueue data len false).Fixed position := by
  obtain ⟨other, member, stays, stops⟩ := fixed
  refine ⟨other, ?_, stays, stops⟩
  simp only [Outgoing.enqueue]
  rcases appendSegment_cases o len false with
    ⟨front, last, listed, plain, fresh, appended⟩ | ⟨-, appended⟩
  · rw [appended]
    rw [listed] at member
    rcases mem_append.mp member with member | member
    · exact mem_append_left _ member
    · -- The last segment is open, so its end is not one that stays.
      obtain rfl := mem_singleton.mp member
      rcases stays with old | ctrl
      · exact absurd fresh old
      · exact absurd (ctrl.symm.trans plain) (by decide)
  · rw [appended]
    exact mem_append_left _ member

/-- So do quiet steps. -/
theorem Quiet.fixed (step : Quiet allowed h h') (ordered : h.sock.Ordered)
    (below : ∀ segment ∈ h.sock.slist, segment.start + segment.size < 2 ^ 32)
    (fixed : h.sock.Fixed position) : h'.sock.Fixed position := by
  cases step with
  | tune tuned =>
    rwa [tuned.same]
  | advise mtu made same sane =>
    rwa [same]
  | look | writeEmpty | writeRefused | countDup | enterRecovery | rearm | readable | writable
  | closedown | consume | widen | shut => exact fixed
  | transmitNew count now stamp live found unsent first within nonempty pending window =>
    refine Outgoing.Fixed.transmitted now fixed found (below _ (mem_of_getElem? found)) ?_ within
    rw [unsent]
    decide
  | retransmit count now stamp live found limit within reason =>
    exact Outgoing.Fixed.transmitted now fixed found (below _ (mem_of_getElem? found)) limit within
  | split count found unsent first nonempty within =>
    rw [splitSegment_fresh count found unsent]
    exact fixed.cut (Lists.eq_append_cons found) (below _ (mem_of_getElem? found))
      (Nat.le_of_lt within) rfl
  | openCtl state listening opened room =>
    obtain ⟨other, member, -⟩ := fixed
    rw [(ordered.unused listening).slist] at member
    simp at member
  | enqueue buffer len count made established room => exact fixed.enqueue buffer count
  | establish opening tuned =>
    rwa [tuned.same]

/-! ## Runs -/

/-- A quiet step extends the trace, and a closed socket stays closed. -/
theorem Quiet.forward (step : Quiet allowed h h') :
    h.trace <+: h'.trace ∧ (h'.sock.state ≠ .closed → h.sock.state ≠ .closed) := by
  cases step with
  | tune tuned => exact ⟨prefix_rfl, by rw [tuned.same]; exact id⟩
  | advise mtu made same sane => exact ⟨prefix_rfl, by rw [same]; exact id⟩
  | look | writeEmpty | writeRefused | enqueue | readable | writable | consume =>
    exact ⟨prefix_append _ _, id⟩
  | transmitNew count now stamp live => exact ⟨prefix_append _ _, fun _ => live⟩
  | retransmit count now stamp live => exact ⟨prefix_append _ _, fun _ => live⟩
  | split | countDup | enterRecovery | rearm | widen | shut => exact ⟨prefix_rfl, id⟩
  | openCtl state listening => exact ⟨prefix_append _ _, fun _ => by rw [listening]; decide⟩
  | establish opening =>
    refine ⟨prefix_append _ _, fun _ => ?_⟩
    rcases opening with opening | opening <;> rw [opening] <;> decide
  | closedown => exact ⟨prefix_append _ _, fun live => absurd rfl live⟩

/-- Accepted bytes only grow. -/
theorem accepted_le (extends_ : h.trace <+: h'.trace) : h.accepted.length ≤ h'.accepted.length := by
  obtain ⟨new, trace⟩ := extends_
  rw [History.accepted, History.accepted, ← trace, flatMap_append, length_append]
  omega

/-- Quiet steps in a row. -/
theorem sending_of_quiet (steps : ReflTransGen (Quiet allowed) h h') (ordered : h.sock.Ordered)
    (sending : h.Sending) : h'.Sending :=
  (invariant_of_steps (I := fun h => h.sock.Ordered ∧ h.Sending)
    (fun _ _ step both => ⟨step.ordered both.1, step.sending both.1 both.2⟩) steps
    ⟨ordered, sending⟩).2

/-- No segment wraps. -/
theorem History.Sending.below (sending : h.Sending) (few : h.accepted.length < 2 ^ 31)
    (live : h.sock.state ≠ .closed) :
    ∀ segment ∈ h.sock.slist, segment.start + segment.size < 2 ^ 32 := by
  intro segment member
  have streams := sending.streams few live
  have inside := streams.tiles.inside member
  have bound := sending.control
  rw [streams.ends] at inside
  omega

/-- Quiet steps in a row leave a position. -/
theorem fixed_of_quiet (steps : ReflTransGen (Quiet allowed) h h') (ordered : h.sock.Ordered)
    (sending : h.Sending) (fixed : h.sock.Fixed position) (few : h'.accepted.length < 2 ^ 31)
    (live : h'.sock.state ≠ .closed) : h'.sock.Fixed position := by
  have kept : h'.sock.Ordered ∧ h'.Sending ∧ (h'.accepted.length < 2 ^ 31 →
      h'.sock.state ≠ .closed → h'.sock.Fixed position) := by
    refine invariant_of_steps (I := fun h => h.sock.Ordered ∧ h.Sending ∧
      (h.accepted.length < 2 ^ 31 → h.sock.state ≠ .closed → h.sock.Fixed position))
      ?_ steps ⟨ordered, sending, fun _ _ => fixed⟩
    rintro h₁ h₂ step ⟨ordered, sending, fixed⟩
    refine ⟨step.ordered ordered, step.sending ordered sending, fun few live => ?_⟩
    obtain ⟨extended, stays⟩ := step.forward
    have few : h₁.accepted.length < 2 ^ 31 := Nat.lt_of_le_of_lt (accepted_le extended) few
    have live := stays live
    exact step.fixed ordered (sending.below few live) (fixed few live)
  exact kept.2.2 few live

/-- An acknowledgement number is not above `snd_una`, or is the end of a segment, or is above
everything transmitted. In `SYN_SENT` the application may transmit before, so the last does not
help. -/
def Entry.AckAtEnd (s : PseudoTcpSocket) : Entry → Prop
  | .notifyPacket buffer len =>
    let ack := (segmentOf buffer len).ack
    ack ≤ s.sndUna ∨ (s.state ≠ .synSent ∧ s.sndNxt < ack) ∨
      ∃ segment ∈ s.slist, ack = segment.seq + segment.len
  | _ => True

/-- The number is still the end of a segment when it is used. -/
theorem Opening.boundary {ack : UInt32} (opening : Opening allowed h h') (early : h.sock.Early)
    (ordered : h.sock.Ordered) (sending : h.Sending)
    (condition : ack ≤ h.sock.sndUna ∨ (h.sock.state ≠ .synSent ∧ h.sock.sndNxt < ack) ∨
      ∃ segment ∈ h.sock.slist, ack = segment.seq + segment.len)
    (few : h'.accepted.length < 2 ^ 31) (live : h'.sock.state ≠ .closed) :
    ack ≤ h'.sock.sndUna ∨ h'.sock.sndNxt < ack ∨
      ∃ segment ∈ h'.sock.slist, segment.start + segment.size = ack.toNat := by
  have una : h'.sock.sndUna = h.sock.sndUna :=
    invariant_of_steps (I := fun h' => h'.sock.sndUna = h.sock.sndUna)
      (fun _ _ step same => step.sndUna.trans same) opening.steps rfl
  rcases condition with old | ⟨other, unsent⟩ | ⟨segment, member, same⟩
  · left
    rwa [una]
  · right; left
    rwa [(opening.pointers other).2]
  · right; right
    by_cases requested : h.sock.state = .synSent
    · -- The only segment is the control byte, whose end stays.
      obtain ⟨-, ⟨empty, -⟩ | ⟨xmit, single, -⟩⟩ :=
        early (by rw [requested]; decide) (by rw [requested]; decide)
      · rw [empty] at member
        simp at member
      · rw [single, mem_singleton] at member
        subst member
        have fixed : h.sock.Fixed 1 :=
          ⟨⟨0, 1, xmit, true⟩, by rw [single]; exact mem_singleton_self _, .inr rfl, rfl⟩
        obtain ⟨other, member, -, stops⟩ := fixed_of_quiet opening.steps ordered sending fixed few live
        exact ⟨other, member, stops.trans (by rw [same]; rfl)⟩
    · by_cases listening : h.sock.state = .listen
      · rw [(ordered.unused listening).slist] at member
        simp at member
      · have listed := opening.segments requested listening
        refine ⟨segment, by rw [listed]; exact member, ?_⟩
        have below := (sending_of_quiet opening.steps ordered sending).below few live segment
          (by rw [listed]; exact member)
        rw [same, toNat_add32 below]

/-- Entry points keep the stream. -/
theorem Entry.Does.sending {entry : Entry} (does : entry.Does allowed h h') (early : h.sock.Early)
    (ordered : h.sock.Ordered) (sending : h.Sending) (condition : entry.AckAtEnd h.sock) :
    h'.Sending := by
  cases entry with
  | connect | call | notifyClock => exact sending_of_quiet does ordered sending
  | notifyPacket buffer len =>
    obtain ⟨h₁, h₂, ⟨h₃, h₄, opening, used, after⟩, stored, last⟩ := does
    have ordered₃ := ordered_of_quiet ordered opening.steps
    have sending₃ := sending_of_quiet opening.steps ordered sending
    have acked : h₄.sock.Ordered ∧ h₄.Sending := by
      cases used with
      | refl => exact ⟨ordered₃, sending₃⟩
      | single step =>
        exact ⟨step.ordered ordered₃, step.sending ordered₃ sending₃
          (opening.boundary early ordered sending condition)⟩
    have ordered₁ := ordered_of_quiet acked.1 after
    have sending₁ := sending_of_quiet after acked.1 acked.2
    have kept : h₂.sock.Ordered ∧ h₂.Sending := by
      cases stored with
      | refl => exact ⟨ordered₁, sending₁⟩
      | single step => exact ⟨step.ordered ordered₁, step.sending sending₁⟩
    exact sending_of_quiet last kept.1 kept.2

/-- A new socket has sent nothing. -/
theorem sending_new (conversation now : UInt32) :
    (World.new conversation now).toHistory.Sending := by
  refine ⟨fun _ => rfl, Nat.zero_le _, fun _ _ => ⟨rfl, rfl, rfl⟩, fun _ packet result member => ?_⟩
  simp [World.new] at member

/-- In every run whose incoming acknowledgement numbers fall on segment ends, with fewer than `2 ^
31` bytes sent: the segments of a socket that is not closed tile the sequence range from `snd_una`
to `snd_una + slen`, and every packet carries the bytes of the sent stream at its sequence number.
-/
theorem send_queue_of_run {result : Except Fault Unit} {w : World}
    (reached : Reachable 0 (fun w entry _ => entry.AckAtEnd w.sock) result w)
    (few : w.accepted.length < 2 ^ 31) :
    (w.sock.state ≠ .closed → Tiles SSegment.start SSegment.size w.sock.slist w.sock.sndUna.toNat
        (w.sock.sndUna.toNat + w.sock.slen.toNat)) ∧
      ∀ packet result, .writePacket packet result ∈ w.trace →
        packet.data <+: w.stream.drop packet.seq.toNat := by
  have sending : w.toHistory.Sending :=
    reached.keeps sending_new (fun _ _ _ _ before condition does sending =>
      does.sending before.lived.2 before.ordered sending condition)
  exact ⟨fun live => (sending.streams few live).tiles, sending.packets few⟩

/-- Ten bytes, which go out, and five, which wait, are sent. -/
def fifteenSent : World :=
  let w := Entry.connect.after (userCode 0) steady (World.new 0 1000)
  let w := (Entry.delivery ⟨0, 0, 1, flagCtl, 61440, 1000, 1000, [0]⟩).after (userCode 0) steady w
  let w := (Entry.call (.send (fun _ => 7) 10)).after (userCode 0) steady w
  (Entry.call (.send (fun _ => 8) 5)).after (userCode 0) steady w

/-- A run leads there. -/
theorem fifteenSent_reachable {meets : World → Entry → (Nat → Reply) → Prop}
    (condition : ∀ w entry env, entry.AckAtEnd w.sock → entry.Headed → meets w entry env) :
    Reachable 0 meets (.ok ()) fifteenSent := by
  refine .next _ steady (.next _ steady (.next _ steady (.next _ steady (.new 0 1000) ?_ (by rfl))
    ?_ (by rfl)) ?_ (by rfl)) ?_ (by rfl)
  · exact condition _ _ _ trivial trivial
  · have whole : 24 ≤ (25 : UInt32).toNat := by decide
    refine condition _ _ _ (.inr (.inr ⟨⟨0, 1, 1, true⟩, ?_, ?_⟩)) whole
    · decide +kernel
    · decide +kernel
  · exact condition _ _ _ trivial trivial
  · exact condition _ _ _ trivial trivial

/-- The acknowledgement of the ten bytes sends the other five. -/
theorem send_queue_of_run_acked :
    let w := (Entry.delivery ⟨0, 1, 11, 0, 61440, 1000, 1000, []⟩).after (userCode 0) steady
      fifteenSent
    w.sock.slist = [⟨11, 5, 1, false⟩] ∧
      Tiles SSegment.start SSegment.size w.sock.slist w.sock.sndUna.toNat
        (w.sock.sndUna.toNat + w.sock.slen.toNat) := by
  intro w
  have reached : Reachable 0 (fun w entry _ => entry.AckAtEnd w.sock) (.ok ()) w := by
    refine .next _ steady (fifteenSent_reachable fun _ _ _ atEnd _ => atEnd) ?_ (by rfl)
    exact .inr (.inr ⟨⟨1, 10, 1, false⟩, by decide +kernel, by decide +kernel⟩)
  exact ⟨by decide +kernel, (send_queue_of_run reached (by decide +kernel)).1 (by decide +kernel)⟩

/-- A number inside a segment leaves a segment that begins below `snd_una`. -/
theorem segments_overlap_of_inner_ack :
    ∃ w, Reachable 0 (fun _ entry _ => entry.Headed) (.ok ()) w ∧ w.sock.state ≠ .closed ∧
      w.accepted.length < 2 ^ 31 ∧
      ¬Tiles SSegment.start SSegment.size w.sock.slist w.sock.sndUna.toNat
        (w.sock.sndUna.toNat + w.sock.slen.toNat) := by
  have whole : 24 ≤ (24 : UInt32).toNat := by decide
  refine ⟨(Entry.delivery ⟨0, 1, 5, 0, 61440, 1000, 1000, []⟩).after (userCode 0) steady fifteenSent,
    .next _ steady (fifteenSent_reachable fun _ _ _ _ headed => headed) whole (by rfl), ?_, ?_, ?_⟩
  · decide +kernel
  · decide +kernel
  · decide +kernel

end Xice.PseudoTcp
