import Xice.PseudoTcp.Window
import Mathlib.Data.List.Perm.Subperm

/-!
# The number of saved runs

Every segment that arrives out of order adds an entry to `rlist`, also one that is there already.
Runs that begin at different sequence numbers are at most as many as the receive buffer has bytes;
for this control data must not move `rcv_nxt` past a run either.
-/

namespace Xice.PseudoTcp

open Xice.Lib Exec Relation List Word

variable {allowed : Call → Prop} {h h' : History} {seg : Segment} {buffer : Mem} {r : Incoming}
  {runs : List RSegment} {count : Nat} {w : World}

/-- The saved runs begin at increasing sequence numbers near `rcv_nxt`. -/
structure Incoming.Spread (r : Incoming) (runs : List RSegment) : Prop where
  sorted : runs.Pairwise fun run later => run.seq.toNat < later.seq.toNat
  near : ∀ run ∈ runs, run.seq.toNat < r.rcvNxt.toNat + 61440

/-- The saved runs lie ahead. -/
def Incoming.Ahead (r : Incoming) (runs : List RSegment) : Prop :=
  ∀ run ∈ runs, r.rcvNxt.toNat ≤ run.seq.toNat

/-- The first run is dropped. -/
theorem Incoming.Spread.tail {data : RSegment} (spread : r.Spread (data :: runs)) :
    r.Spread runs :=
  ⟨(pairwise_cons.mp spread.sorted).2, forall_mem_of_forall_mem_cons spread.near⟩

variable (spread : r.Spread runs)

include spread

/-- There are at most as many distinct runs as the buffer has bytes. -/
theorem Incoming.Spread.length_le (ahead : r.Ahead runs) : runs.length ≤ 61440 := by
  have distinct : (runs.map fun run => run.seq.toNat).Nodup := by
    refine List.Nodup.of_map id (List.Pairwise.imp (fun less => Nat.ne_of_lt less) ?_)
    rw [map_id]
    exact pairwise_map.mpr spread.sorted
  have places : (runs.map fun run => run.seq.toNat) ⊆ List.range' r.rcvNxt.toNat 61440 := by
    intro place member
    obtain ⟨run, saved, rfl⟩ := mem_map.mp member
    have := spread.near run saved
    have := ahead run saved
    rw [mem_range'_1]
    omega
  have fewer := (distinct.subperm places).length_le
  simpa using fewer

/-- Inserting a run at a new place keeps the order. -/
theorem Incoming.Spread.insert {run : RSegment}
    (fresh : ∀ other ∈ runs, other.seq ≠ run.seq) (near : run.seq.toNat < r.rcvNxt.toNat + 61440) :
    r.Spread (insertSegment run runs) := by
  refine ⟨?_, fun other member => ?_⟩
  · have sorted := spread.sorted
    clear spread near
    induction runs with
    | nil => simp [insertSegment]
    | cons data runs ih =>
      grind [insertSegment, mem_insertSegment, UInt32.lt_iff_toNat_lt, pairwise_cons,
        UInt32.toNat_inj]
  · rcases mem_insertSegment.mp member with rfl | member
    · exact near
    · exact spread.near other member

/-- More bytes in order take no run out of the buffer. -/
theorem Incoming.Spread.advance {count : UInt32}
    (stays : runs ≠ [] → r.rcvNxt.toNat + count.toNat < 2 ^ 32) : (r.advance count).Spread runs := by
  refine ⟨spread.sorted, fun run member => ?_⟩
  have := spread.near run member
  simp only [Incoming.advance]
  rw [toNat_add32 (stays (ne_nil_of_mem member))]
  omega

/-- The loop over the saved runs leaves those beyond `rcv_nxt`. -/
theorem Incoming.Spread.recover (bounded : r.Bounded runs) :
    (Incoming.recover runs r).1.Spread (Incoming.recover runs r).1.rlist ∧
      (Incoming.recover runs r).1.Ahead (Incoming.recover runs r).1.rlist := by
  fun_induction Incoming.recover runs r with
  | case1 r => exact ⟨⟨.nil, by simp⟩, by simp [Incoming.Ahead]⟩
  | case2 data runs r reached more ih =>
    have first := bounded.runs data mem_cons_self
    have fits := bounded.fits
    obtain ⟨count, further, below⟩ := RSegment.toNat_reach (61440 - r.rlen.toNat)
      reached more (by omega) (by omega)
    exact ih (spread.tail.advance fun _ => by omega)
      (bounded.tail.advance (by omega) fun _ => by omega)
  | case3 data runs r reached passed ih => exact ih spread.tail bounded.tail
  | case4 data runs r reached =>
    have beyond := mt UInt32.le_iff_toNat_le.mpr reached
    have first := (pairwise_cons.mp spread.sorted).1
    exact ⟨⟨spread.sorted, spread.near⟩, by grind [Incoming.Ahead]⟩

omit spread

/-! ## Steps -/

/-- There are few runs, and they are distinct until the application closes the socket. -/
structure History.Few (h : History) : Prop where
  bounded : h.Bounded
  few : h.sock.rlist.length ≤ 61440
  spread : h.sock.shutdown = .none →
    h.sock.toIncoming.Spread h.sock.rlist ∧ h.sock.toIncoming.Ahead h.sock.rlist

/-- A step that moves neither `rcv_nxt` nor a run. -/
theorem History.Few.same (few : h.Few) (bounded : h'.Bounded)
    (pointers : h'.sock.rcvNxt = h.sock.rcvNxt ∧ h'.sock.rlist = h.sock.rlist)
    (shutdown : h'.sock.shutdown = .none → h.sock.shutdown = .none) : h'.Few := by
  refine ⟨bounded, by rw [pointers.2]; exact few.few, fun running => ?_⟩
  obtain ⟨⟨sorted, near⟩, ahead⟩ := few.spread (shutdown running)
  rw [Incoming.Ahead, pointers.1, pointers.2]
  exact ⟨⟨sorted, pointers.1 ▸ near⟩, ahead⟩

/-- Quiet steps keep it. -/
theorem Quiet.few (step : Quiet allowed h h') (few : h.Few) : h'.Few :=
  few.same (step.bounded few.bounded) step.bufferStep.pointers step.shutdown

/-- The use of an acknowledgement number keeps the runs. -/
theorem AckStep.few (step : AckStep seg h h') (few : h.Few) : h'.Few := by
  refine few.same (step.bounded few.bounded) step.bufferStep.pointers fun running => ?_
  cases step <;> exact running

/-- A segment kept out of order begins where no saved run does. -/
def Segment.Fresh (seg : Segment) (s : PseudoTcpSocket) : Prop :=
  ¬seg.isCtl → s.shutdown = .none → seg.len ≠ 0 → s.rcvNxt.toNat < seg.seq.toNat →
    ∀ run ∈ s.rlist, run.seq ≠ seg.seq

/-- Control data does not move `rcv_nxt` into a saved run. -/
def Segment.Stays (seg : Segment) (s : PseudoTcpSocket) : Prop :=
  seg.isCtl → s.shutdown = .none → seg.seq.toNat ≤ s.rcvNxt.toNat →
    ∀ run ∈ s.rlist, seg.seq.toNat + seg.len.toNat ≤ run.seq.toNat

/-- Such a segment keeps it. -/
theorem DataStep.few (step : DataStep buffer seg h h') (few : h.Few)
    (apart : seg.Apart h.sock.toIncoming) (fresh : seg.Fresh h.sock) (stays : seg.Stays h.sock) :
    h'.Few := by
  have bounded := step.bounded few.bounded apart
  have fits := few.bounded.buffer.fits
  cases step with
  | skip cut trimmed nonempty ignored next =>
    obtain ⟨behind, -, ends⟩ := trim_next fits trimmed nonempty next
    refine ⟨bounded, few.few, fun running => ?_⟩
    have reach := stays (ignored.resolve_right fun closed => closed running) running behind
    obtain ⟨spread, ahead⟩ := few.spread running
    have moved : ∀ run ∈ h.sock.rlist, (h.sock.rcvNxt + cut.len).toNat =
        h.sock.rcvNxt.toNat + cut.len.toNat := by
      intro run member
      have := reach run member
      have := run.seq.toNat_lt
      exact toNat_add32 (by omega)
    refine ⟨⟨spread.sorted, fun run member => ?_⟩, fun run member => ?_⟩
    · have := spread.near run member
      simp only [moved run member]
      omega
    · have := reach run member
      simp only [moved run member]
      omega
  | inOrder cut trimmed nonempty kept next =>
    obtain ⟨behind, inside, stop⟩ := trim_next fits trimmed nonempty next
    have turns : h.sock.rlist ≠ [] → h.sock.rcvNxt.toNat + cut.len.toNat < 2 ^ 32 := by
      intro saved
      by_contra beyond
      exact saved (apart.2 behind (by omega))
    have copied : (h.sock.toIncoming.copyIn buffer cut).Spread h.sock.rlist :=
      ⟨(few.spread kept.2).1.sorted, (few.spread kept.2).1.near⟩
    have held : (h.sock.toIncoming.copyIn buffer cut).Bounded h.sock.rlist :=
      ⟨fits, few.bounded.buffer.runs⟩
    obtain ⟨spread, ahead⟩ := (copied.advance turns).recover (held.advance inside turns)
    exact ⟨bounded, spread.length_le ahead, fun _ => ⟨spread, ahead⟩⟩
  | outOfOrder cut trimmed nonempty kept later =>
    have beyond := trim_later fits trimmed nonempty later
    obtain ⟨seq, -, len⟩ := trim_ahead fits beyond (apart.1 (Nat.le_of_lt beyond))
    rw [← trimmed] at seq len
    have positive := mt eq_zero32.mpr nonempty
    have filled : seg.len ≠ 0 := fun empty => by
      rw [eq_zero32] at empty
      omega
    obtain ⟨spread, ahead⟩ := few.spread kept.2
    have inserted : h.sock.toIncoming.Spread
        (insertSegment { seq := cut.seq, len := cut.len } h.sock.rlist) := by
      refine spread.insert (fun other member => ?_) ?_
      · rw [seq]
        exact fresh kept.1 kept.2 filled beyond other member
      · simp only [seq]
        omega
    have still : h.sock.toIncoming.Ahead
        (insertSegment { seq := cut.seq, len := cut.len } h.sock.rlist) := by
      grind [Incoming.Ahead, mem_insertSegment]
    exact ⟨bounded, inserted.length_le still, fun _ => ⟨⟨inserted.sorted, inserted.near⟩, still⟩⟩

/-! ## Runs -/

/-- A packet does not come round, its payload is saved where no run begins, and its control data
stays before the saved runs. -/
def Entry.Distinct (s : PseudoTcpSocket) : Entry → Prop
  | .notifyPacket buffer len =>
    let seg := segmentOf buffer len
    seg.Apart s.toIncoming ∧ seg.Fresh s ∧ seg.Stays s
  | _ => True

/-- Entry points keep it then. -/
theorem Entry.Does.few {entry : Entry} (does : entry.Does allowed h h') (few : h.Few)
    (distinct : entry.Distinct h.sock) : h'.Few := by
  have quiet : ∀ h₁ h₂, Quiet allowed h₁ h₂ → h₁.Few → h₂.Few := fun _ _ step => step.few
  cases entry with
  | connect | call | notifyClock => exact invariant_of_steps quiet does few
  | notifyPacket buffer len =>
    obtain ⟨h₁, h₂, acked, stored, last⟩ := does
    obtain ⟨rcvNxt, rlist⟩ := acked.pointers
    obtain ⟨apart, fresh, stays⟩ := distinct
    have before : h₁.Few := acked.keeps quiet (fun _ _ step => step.few) few
    have running : h₁.sock.shutdown = .none → h.sock.shutdown = .none :=
      acked.keeps (I := fun h₁ => h₁.sock.shutdown = .none → h.sock.shutdown = .none)
        (fun _ _ step earlier none => earlier (step.shutdown none))
        (fun _ _ step earlier none => earlier (by cases step <;> exact none)) id
    refine invariant_of_steps quiet last ?_
    cases stored with
    | refl => exact before
    | single step =>
      refine step.few before ?_ (fun plain none => ?_) (fun control none => ?_)
      · rwa [Segment.Apart, rcvNxt, rlist]
      · rw [rcvNxt, rlist]
        exact fresh plain (running none)
      · rw [rcvNxt, rlist]
        exact stays control (running none)

/-- In every run in which no payload is saved where a saved run begins, no packet comes round the
sequence space and no control data reaches into a saved run, there are at most 61440 saved runs. -/
theorem saved_le_of_run {result : Except Fault Unit}
    (reached : Reachable 0 (fun w entry _ => entry.Distinct w.sock) result w) :
    w.sock.rlist.length ≤ 61440 := by
  have fresh : ∀ conversation now, (World.new conversation now).toHistory.Few := by
    intro conversation now
    refine ⟨⟨⟨Nat.zero_le _, by simp [World.new, PseudoTcpSocket.new]⟩, by simp [World.new]⟩,
      Nat.zero_le _, fun _ => ⟨⟨.nil, ?_⟩, ?_⟩⟩
    · simp [World.new, PseudoTcpSocket.new]
    · simp [World.new, PseudoTcpSocket.new, Incoming.Ahead]
  have few : w.toHistory.Few :=
    reached.keeps fresh (fun _ _ _ _ _ distinct does before => does.few before distinct)
  exact few.few

/-- A packet of one byte that is out of order for a new socket. -/
def earlyPacket (seq : UInt32) : Entry := .delivery ⟨0, seq, 0, 0, 61440, 1000, 1000, [7]⟩

/-- Two bytes with gaps before them are saved as two runs. -/
theorem saved_le_of_run_two :
    ∃ w, Reachable 0 (fun w entry _ => entry.Distinct w.sock) (.ok ()) w ∧
      w.sock.rlist.length = 2 ∧ w.sock.rlist.length ≤ 61440 := by
  have reached : Reachable 0 (fun w entry _ => entry.Distinct w.sock) (.ok ())
      ((earlyPacket 5).after (userCode 0) steady
        ((earlyPacket 3).after (userCode 0) steady (World.new 0 1000))) := by
    refine .next _ steady (.next _ steady (.new 0 1000) ?_ ?_) ?_ ?_
    · change Segment.Apart _ _ ∧ (_ → _ → _ → _ → ∀ _ ∈ _, _) ∧ (_ → _ → _ → ∀ _ ∈ _, _)
      decide +kernel
    · decide +kernel
    · change Segment.Apart _ _ ∧ (_ → _ → _ → _ → ∀ _ ∈ _, _) ∧ (_ → _ → _ → ∀ _ ∈ _, _)
      decide +kernel
    · decide +kernel
  exact ⟨_, reached, by decide +kernel, saved_le_of_run reached⟩

/-- A listening socket that saved one byte again and again. -/
structure Listening (count : Nat) (s : PseudoTcpSocket) : Prop where
  conv : s.conv = 0
  state : s.state = .listen
  shutdown : s.shutdown = .none
  rcvNxt : s.rcvNxt = 0
  rlen : s.rlen = 0
  sent : s.sndNxt = 0 ∧ s.sndUna = 0 ∧ s.slen = 0
  rlist : s.rlist = replicate count ⟨5, 1⟩

/-- The segment of that packet. -/
def earlySegment : Segment := ⟨0, 5, 0, 0, 61440, 24, 1, 1000, 1000⟩

/-- A new socket answers. -/
theorem Listening.answer (listening : Listening count w.sock) :
    wp (attemptSend (userCode 0) .immediateAck) (fun _ w' => Listening count w'.sock)
      (fun _ _ => False) w := by
  have loop : ∀ (w : World) (now : UInt32) (fuel : Nat), Listening count w.sock →
      wp (attemptSendLoop (userCode 0) now (fuel + 1) .immediateAck)
        (fun _ w' => Listening count w'.sock) (fun _ _ => False) w := by
    rintro w now fuel ⟨conv, state, shutdown, rcvNxt, rlen, ⟨nxt, una, slen⟩, rlist⟩
    have idle : w.sock.nAvailable = 0 := by
      by_contra available
      refine slen_ne_inFlight available ?_
      rw [Outgoing.inFlight, nxt, una, slen]
      rfl
    simp only [attemptSendLoop, ↓wp_rules]
    rw [if_pos idle]
    simp only [acknowledge, packet, writePacket, userCode, ↓wp_rules, Option.isSome_none,
      Bool.false_eq_true, and_false, ite_false]
    rw [if_neg (by decide), if_pos (.inl trivial), if_pos (by decide)]
    exact ⟨conv, state, shutdown, rcvNxt, rlen, ⟨nxt, una, slen⟩, rlist⟩
  obtain ⟨conv, state, shutdown, rcvNxt, rlen, sent, rlist⟩ := listening
  simp only [attemptSend, ↓wp_rules]
  exact loop _ _ _ ⟨conv, state, shutdown, rcvNxt, rlen, sent, rlist⟩

/-- It saves the payload once more. -/
theorem Listening.store (listening : Listening count w.sock) (buffer : Mem) :
    wp (processData (userCode 0) buffer earlySegment) (fun _ w' => Listening (count + 1) w'.sock)
      (fun _ _ => False) w := by
  have listed := listening
  obtain ⟨conv, state, shutdown, rcvNxt, rlen, sent, rlist⟩ := listening
  have trim : w.sock.toIncoming.trim earlySegment = earlySegment := by
    simp only [Incoming.trim, Incoming.trimFront, Incoming.trimBack, rcvNxt, rlen]
    decide
  have need : w.sock.toIncoming.ackNeeded earlySegment = .immediateAck := by
    simp only [Incoming.ackNeeded, rcvNxt]
    decide
  have more : insertSegment ⟨5, 1⟩ (replicate count ⟨5, 1⟩) =
      replicate (count + 1) ⟨5, 1⟩ := by
    cases count with
    | zero | succ => rfl
  simp only [processData, storeData, ↓wp_rules, trim, need]
  rw [if_neg (by decide), if_neg (by rw [shutdown]; decide), if_neg (by rw [rcvNxt]; decide)]
  refine wp_imp (show Listening (count + 1) _ from ?_).answer ?_
  · refine ⟨conv, state, shutdown, rcvNxt, rlen, sent, ?_⟩
    simp only [Incoming.copyIn, rlist]
    exact more
  · intro _ w' after
    simp only [announceReadable, ↓wp_rules, Bool.false_eq_true, false_and, ite_false]
    exact after

/-- Each packet adds a run. -/
theorem Listening.again (listening : Listening count w.sock) :
    wp ((earlyPacket 5).run (userCode 0)) (fun _ w' => Listening (count + 1) w'.sock)
      (fun _ _ => False) (w.within steady) := by
  obtain ⟨conv, state, shutdown, rcvNxt, rlen, sent, rlist⟩ := listening
  have seg : segmentOf (Mem.ofList (Packet.bytes ⟨0, 5, 0, 0, 61440, 1000, 1000, [7]⟩)) 25 =
      earlySegment := by decide +kernel
  have len : UInt32.ofNat (Packet.bytes ⟨0, 5, 0, 0, 61440, 1000, 1000, [7]⟩).length = 25 := by
    decide +kernel
  simp only [earlyPacket, Entry.delivery, Entry.run, ↓wp_rules, notifyPacket, parse, wp_readHeader,
    len, seg]
  rw [if_neg (by decide), if_neg (by decide)]
  simp only [process, processControl, processAck, processDupAck, ↓wp_rules]
  rw [if_neg (by rw [World.within, conv]; decide), if_neg (by simp [World.within, state]),
    if_neg (by decide), if_pos (by decide),
    if_neg (by simp [PseudoTcpSocket.updateTimestamp, World.within, sent.2.1, earlySegment]),
    if_pos (by simp only [PseudoTcpSocket.updateTimestamp, World.within, sent.2.1]; decide),
    if_pos (by decide), if_pos trivial]
  refine Listening.store ?_ _
  exact ⟨conv, state, shutdown, rcvNxt, rlen, sent, rlist⟩

/-- Any number of runs is reached. -/
theorem listening_reached (count : Nat) :
    ∃ w, Reachable 0 (fun _ entry _ => entry.Headed) (.ok ()) w ∧ Listening count w.sock := by
  induction count with
  | zero => exact ⟨World.new 0 1000, .new 0 1000, ⟨rfl, rfl, rfl, rfl, rfl, ⟨rfl, rfl, rfl⟩, rfl⟩⟩
  | succ count ih =>
    obtain ⟨w, reached, listening⟩ := ih
    have known := listening.again
    rcases run : (earlyPacket 5).run (userCode 0) (w.within steady) with ⟨result, w'⟩
    cases result with
    | error fault => exact (wp_error known run).elim
    | ok _ =>
      have headed : (earlyPacket 5).Headed := by
        change 24 ≤ UInt32.toNat _
        decide +kernel
      have next : Listening (count + 1) w'.sock := by
        have after := wp_ok known run
        exact after
      exact ⟨w', .step _ steady reached headed run, next⟩

/-- A packet that is sent again and again leaves more saved runs than the buffer has bytes. -/
theorem saved_without_bound :
    ∃ w, Reachable 0 (fun _ entry _ => entry.Headed) (.ok ()) w ∧
      ¬w.sock.rlist.length ≤ 61440 := by
  obtain ⟨w, reached, listening⟩ := listening_reached 61441
  refine ⟨w, reached, ?_⟩
  rw [listening.rlist, length_replicate]
  decide

end Xice.PseudoTcp
