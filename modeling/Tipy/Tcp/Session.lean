import Tipy.Tcp.Karn
import Tipy.Tcp.RecvCall
import Tipy.Tcp.StreamSent

/-!
# A connection over a network that loses and repeats

One connection of the stack and a TCP on the other side, with a network between them that may lose,
repeat and reorder what is sent. The other side, `Peer`, is not this stack: it is any TCP that puts
the bytes it receives together in order, acknowledges what it has, cuts its own stream into segments
as it likes and takes as much as it likes.

Both halves of the connection are known to be right on their own: what a segment of ours says is the
stream (`StreamSend`), and what is stored of segments cut from a stream is the stream (`StreamRun`).
`Session.Inv` puts them together: the acknowledgement in each packet under way was true when it was
sent, and stays true. `session_safe`: what either application reads is a prefix of what the other
has written, and neither side believes more acknowledged than the other has.
-/

namespace Tipy.Tcp

open Tipy.Buffer Tipy.Lib

/-! ## The peer -/

/-- The other side: its initial sequence number and ours, what its application wrote and whether it
is done, what it has received in order, and all packets it has sent. -/
structure Peer where
  iss : Int
  irs : Int
  stream : List UInt8
  closed : Bool
  got : List UInt8
  gotFin : Bool
  sent : List TCPParser

namespace Peer

/-- The sequence numbers it has received after our SYN. -/
def taken (q : Peer) : Nat := q.got.length + q.gotFin.toNat

/-- A segment of ours arrives, and it takes at most `n` of the numbers that are next. -/
def hear (q : Peer) (seg : TxTcp) (n : Nat) : Peer :=
  let back := (seqDiff (seqOf q.irs q.taken) seg.seq).toNat
  if q.gotFin = false ∧ back ≤ seg.data.length then
    { q with
      got := q.got ++ (seg.data.drop back).take n
      gotFin := seg.fin && decide ((seg.data.drop back).length < n) }
  else q

/-- The packet carries nothing, or a piece of the stream, with the FIN once the stream is complete.
-/
def Carries (q : Peer) (p : Segment) : Prop :=
  p.dlen = 0 ∧ p.fin = false ∨
    ∃ k ≤ q.stream.length, CutAt q.stream q.iss p k ∧ (p.fin = true → q.closed = true)

/-- What it may send: it acknowledges what it has, and carries a piece of its stream. -/
structure MaySay (q : Peer) (packet : TCPParser) : Prop where
  ackSeq : packet.segment.ackSeq = seqOf q.irs q.taken
  syn : packet.segment.syn = false
  rst : packet.segment.rst = false
  carries : q.Carries packet.segment

instance (q : Peer) (p : Segment) : Decidable (q.Carries p) := inferInstanceAs (Decidable (_ ∨ _))

instance (q : Peer) (packet : TCPParser) : Decidable (q.MaySay packet) :=
  decidable_of_iff (packet.segment.ackSeq = seqOf q.irs q.taken ∧ packet.segment.syn = false ∧
      packet.segment.rst = false ∧ q.Carries packet.segment)
    ⟨fun ⟨h₁, h₂, h₃, h₄⟩ => ⟨h₁, h₂, h₃, h₄⟩, fun h => ⟨h.ackSeq, h.syn, h.rst, h.carries⟩⟩

end Peer

/-! ## The session -/

/-- Our connection, whether it consumed the FIN of the peer, what it stored and what the application
read of that, what the application wrote and how much of it was acknowledged; and the peer. The
segments we have sent are in the log of the connection. -/
structure Session where
  o : Outcome
  consumed : Bool
  stored : List UInt8
  read : List UInt8
  enqueued : List UInt8
  acked : Nat
  peer : Peer

/-- The steps: an event of our side other than a packet; packet `k` of the peer arrives here;
segment `k` of ours arrives at the peer, which takes at most `n` numbers of it; the application of
the peer writes, or is done; the peer sends a packet. What never arrives is lost. -/
inductive SessionEvent where
  | host (e : ConnEvent)
  | deliver (k : Nat)
  | hear (k n : Nat)
  | write (data : List UInt8)
  | close
  | say (packet : TCPParser)

namespace Session

variable (s : Session)

def toStreamSend : StreamSend := ⟨s.o, s.enqueued, s.acked⟩

def toStreamRun : StreamRun := ⟨⟨s.o, s.consumed⟩, s.stored⟩

/-- What `tcp_recv` returns. -/
def returned (c : Conn) : ConnEvent → List UInt8
  | .usr (.tcpRecv bufsize) =>
    if c.tcb.state ∈ Conn.NON_RECEIVABLE_STATES then []
    else viewBytes c.tcb.rcv.rcvBuf.ring (c.tcb.rcv.rcvBuf.dequeue bufsize).1
  | _ => []

/-- An event of our side. -/
def onHost (e : ConnEvent) : Session where
  o := s.o.step e
  consumed := (s.toStreamRun.step e).consumed
  stored := (s.toStreamRun.step e).stored
  read := s.read ++ returned s.o.st e
  enqueued := (s.toStreamSend.step e).enqueued
  acked := (s.toStreamSend.step e).acked
  peer := s.peer

def step (s : Session) : SessionEvent → Session
  | .host e => s.onHost e
  | .deliver k =>
    match s.peer.sent[k]? with
    | none => s
    | some packet => s.onHost (.rx packet)
  | .hear k n =>
    match s.o.st.core.out[k]? with
    | none => s
    | some e => { s with peer := s.peer.hear e.2 n }
  | .write data => { s with peer := { s.peer with stream := s.peer.stream ++ data } }
  | .close => { s with peer := { s.peer with closed := true } }
  | .say packet => { s with peer := { s.peer with sent := s.peer.sent ++ [packet] } }

/-- The events of our side: packets come from the peer only, the application shuts down and does not
close, what it writes fits beside what is not acknowledged, and it does not write a gigabyte. -/
def AdmitsHost (e : ConnEvent) : Prop :=
  (match e with
    | .rx _ => False
    | .usr .tcpClose => False
    | _ => True) ∧
    s.toStreamSend.Admits e ∧ (s.toStreamSend.step e).enqueued.length < 1073741824

/-- The condition on an event. A packet that is accepted finds room and is copied exactly; the peer
writes nothing after it is done, and less than half of the sequence space. -/
def Admits (s : Session) : SessionEvent → Prop
  | .host e => s.AdmitsHost e
  | .deliver k => ∀ packet ∈ s.peer.sent[k]?,
      HasRoom s.o.st.tcb.rcv packet.segment ∧ s.toStreamRun.Copies (.rx packet)
  | .hear _ _ => True
  | .write data => s.peer.closed = false ∧ (s.peer.stream ++ data).length < 2147483648
  | .close => True
  | .say packet => s.peer.MaySay packet

instance : (e : ConnEvent) → Decidable (s.AdmitsHost e)
  | .rx _ | .usr .tcpClose => .isFalse fun h => h.1
  | .tx | .rtx | .usr (.tcpSend _) | .usr (.tcpRecv _) | .usr .tcpShutdown | .usr (.tick _) =>
    inferInstanceAs (Decidable (True ∧ _ ∧ _))

instance (s : Session) : (e : SessionEvent) → Decidable (s.Admits e)
  | .host e => inferInstanceAs (Decidable (s.AdmitsHost e))
  | .deliver k =>
    inferInstanceAs (Decidable (∀ packet ∈ s.peer.sent[k]?, _ ∧ s.toStreamRun.Copies (.rx packet)))
  | .write _ => inferInstanceAs (Decidable (_ ∧ _))
  | .say packet => inferInstanceAs (Decidable (s.peer.MaySay packet))
  | .hear _ _ | .close => .isTrue trivial

end Session

/-! ## A segment at the peer -/

theorem seqOf_inj {iss : Int} {a b : Nat} (h : seqOf iss a = seqOf iss b) (ha : a < 4294967296)
    (hb : b < 4294967296) : a = b := by
  unfold seqOf at h
  omega

/-- A segment of ours that is not empty was cut from the stream at position `k`; its FIN comes after
the last byte. -/
structure SentAt (iss : Int) (stream : List UInt8) (seg : TxTcp) (k : Nat) : Prop where
  seq : seg.seq = seqOf iss k
  le : k + seg.data.length ≤ stream.length
  data : seg.data = slice stream k (k + seg.data.length)
  fin : seg.fin = true → k + seg.data.length = stream.length

section Peer

variable {q : Peer} {stream : List UInt8} {seg : TxTcp}

/-- What a segment tells, and where it stands. -/
theorem sentAt_of_tells {iss : Int} (hsmall : stream.length < 4294967296)
    (htells : Tells iss stream seg) (hplaced : Placed iss stream.length seg) :
    seg.data = [] ∧ seg.fin = false ∨ ∃ k, SentAt iss stream seg k := by
  rcases hplaced with hempty | ⟨k, hseq, hle, hfin⟩
  · exact Or.inl hempty
  · refine Or.inr ⟨k, hseq, hle, ?_, hfin⟩
    rcases htells with hnil | ⟨k', hseq', hle', hdata⟩
    · simp [hnil, slice]
    · obtain rfl : k' = k := seqOf_inj (hseq'.symm.trans hseq) (by omega) (by omega)
      exact hdata

/-- The next bytes of the stream behind a prefix of it. -/
theorem append_take_slice {got : List UInt8} (h : got <+: stream) (n b : Nat) :
    got ++ (slice stream got.length b).take n <+: stream := by
  have htake :
      (slice stream got.length b).take n = slice stream got.length (min (got.length + n) b) := by
    unfold slice
    rw [List.take_drop, List.take_take]
  rw [htake]
  exact append_slice_prefix h _

/-- A segment that reaches back to what the peer has goes on from there. -/
theorem SentAt.drop_back {k : Nat} (h : SentAt q.irs stream seg k)
    (hsmall : stream.length < 1073741824) (hgot : q.got <+: stream) (hfin : q.gotFin = false)
    (hback : (seqDiff (seqOf q.irs q.taken) seg.seq).toNat ≤ seg.data.length) :
    seg.data.drop (seqDiff (seqOf q.irs q.taken) seg.seq).toNat =
        slice stream q.got.length (k + seg.data.length) ∧
      q.got.length ≤ k + seg.data.length := by
  have hle := h.le
  have hlen := hgot.length_le
  have htaken : q.taken = q.got.length := by simp [Peer.taken, hfin]
  -- the segment does not begin behind what the peer has
  have hpos : k ≤ q.got.length := by
    by_contra hlt
    rw [htaken, h.seq] at hback
    unfold seqDiff seqOf at hback
    omega
  have hdiff : (seqDiff (seqOf q.irs q.taken) seg.seq).toNat = q.got.length - k := by
    rw [htaken, h.seq, seqDiff_seqOf hpos (by omega), Int.toNat_natCast]
  rw [hdiff] at hback ⊢
  refine ⟨?_, by omega⟩
  conv_lhs => rw [h.data]
  unfold slice
  rw [List.drop_drop]
  congr 1
  omega

/-- **The peer hears a segment.** What it has stays a prefix of the stream, it never takes anything
back, and it takes the FIN only when it has the whole stream. -/
theorem Peer.hear_spec (hsmall : stream.length < 1073741824) (hgot : q.got <+: stream)
    (htells : Tells q.irs stream seg) (hplaced : Placed q.irs stream.length seg) (n : Nat) :
    (q.hear seg n).got <+: stream ∧ q.taken ≤ (q.hear seg n).taken ∧
      ((q.hear seg n).gotFin = true → (q.hear seg n).got = q.got ∧ q.gotFin = true ∨
        seg.fin = true ∧ (q.hear seg n).got = stream) := by
  unfold Peer.hear
  simp only
  split
  · next hnext =>
    obtain ⟨hfin, hback⟩ := hnext
    refine ⟨?_, ?_, ?_⟩
    · rcases sentAt_of_tells (by omega) htells hplaced with ⟨hdata, -⟩ | ⟨k, hat⟩
      · simpa [hdata] using hgot
      · rw [(hat.drop_back hsmall hgot hfin hback).1]
        exact append_take_slice hgot _ _
    · simp only [Peer.taken, hfin, List.length_append]
      simp only [Bool.toNat_false]
      omega
    · intro hlast
      obtain ⟨hseg, hlt⟩ := Bool.and_eq_true_iff.1 hlast
      rcases sentAt_of_tells (by omega) htells hplaced with ⟨-, hno⟩ | ⟨k, hat⟩
      · rw [hseg] at hno
        cases hno
      · -- nothing of the segment was left over, and it ends where the stream does
        obtain ⟨hdrop, hle⟩ := hat.drop_back hsmall hgot hfin hback
        refine Or.inr ⟨hseg, ?_⟩
        rw [hdrop] at hlt ⊢
        have hend := hat.fin hseg
        rw [hend] at hlt ⊢
        rw [List.take_of_length_le (of_decide_eq_true hlt).le]
        apply List.IsPrefix.eq_of_length
        · exact append_slice_prefix hgot _
        rw [List.length_append, length_slice le_rfl]
        omega
  · exact ⟨hgot, le_rfl, fun h => Or.inl ⟨rfl, h⟩⟩

end Peer

/-! ## A packet at our side -/

section Packet

variable {c : Conn} {stream : List UInt8} {irs : Int}

/-- `snd_una` moves to the acknowledgement of the packet, or stays. -/
theorem rx_sndUna_cases (packet : TCPParser) (hopen : c.tcb.state.Opened)
    (hrst : packet.rst = false) (hsyn : packet.syn = false) :
    (c.rx packet).st.tcb.snd.sndUna = c.tcb.snd.sndUna ∨
      (c.rx packet).st.tcb.snd.sndUna = packet.segment.ackSeq := by
  by_cases hclosed : c.tcb.state = .closed
  · left
    simp [Conn.rx, hclosed]
  · have hsync : c.tcb.state.Synchronized := by
      revert hopen hclosed
      cases c.tcb.state <;> decide
    obtain ⟨hproc, hnot⟩ := rx_processed hsync hrst hsyn
    by_cases h : c.Processes packet.segment
    · rw [(hproc h).una, hRxAck_una]
      split
      · exact Or.inr rfl
      · exact Or.inl rfl
    · rw [hnot h]
      exact Or.inl rfl

/-- After the FIN of the peer the receive side stays as it is. -/
theorem rx_rcv_of_ended (packet : TCPParser) (hopen : c.tcb.state.Opened)
    (hs : ¬ c.tcb.state.TakesFin) :
    (c.rx packet).st.tcb.rcv = c.tcb.rcv := by
  cases hst : c.tcb.state with
  | listen | synSent | synRecv => exact absurd hopen (by rw [hst]; decide)
  | estab | finWait1 | finWait2 => exact absurd (by rw [hst]; decide) hs
  | closeWait => simp [Conn.rx, hst, Conn.rxCloseWait_rcv]
  | closing => simp [Conn.rx, hst, Conn.rxClosing_rcv]
  | lastAck => simp [Conn.rx, hst, Conn.rxLastAck_rcv]
  | timeWait => simp [Conn.rx, hst, Conn.rxTimeWait_rcv]
  | closed => simp [Conn.rx, hst]

/-- A packet that carries nothing leaves the bytes and `rcv_nxt` as they are. -/
theorem rx_bare (packet : TCPParser) (hopen : c.tcb.state.Opened)
    (hclose : c.tcb.req.closeRequested = false) (hdlen : packet.segment.dlen = 0)
    (hfin : packet.segment.fin = false) (hsyn : packet.segment.syn = false)
    (hrst : packet.segment.rst = false) :
    (c.rx packet).st.tcb.rcv.rcvNxt = c.tcb.rcv.rcvNxt ∧ (c.rx packet).st.unread = c.unread := by
  by_cases hs : c.tcb.state.TakesFin
  · refine Conn.rx_quiet packet hs hclose hrst hsyn hdlen.ge fun hin => hin.1.nonzero ?_
    rw [hdlen, hfin]
    rfl
  · have hrcv := rx_rcv_of_ended packet hopen hs
    exact ⟨by rw [hrcv], by rw [Conn.unread, hrcv, Conn.unread]⟩

/-- Such a packet keeps the invariant of the receive side. -/
theorem StreamRun.Inv.step_bare {t : StreamRun} (h : t.Inv stream irs) {packet : TCPParser}
    (hopen : t.o.fault = none → t.o.st.tcb.state.Opened) (hdlen : packet.segment.dlen = 0)
    (hfin : packet.segment.fin = false) (hsyn : packet.segment.syn = false)
    (hrst : packet.segment.rst = false) : (t.step (.rx packet)).Inv stream irs := by
  have hquiet : (t.o.step (.rx packet)).st.tcb.rcv.rcvNxt = t.o.st.tcb.rcv.rcvNxt ∧
      (t.o.step (.rx packet)).st.unread = t.o.st.unread ∧
      (t.o.step (.rx packet)).st.tcb.req = t.o.st.tcb.req := by
    cases hf : t.o.fault with
    | some f => simp only [Outcome.step, hf, and_self]
    | none =>
      obtain ⟨hnxt, hunread⟩ := rx_bare packet (hopen hf) h.close_eq hdlen hfin hsyn hrst
      simp only [Outcome.step, hf, ConnEvent.handler]
      exact ⟨hnxt, hunread, t.o.st.rx_req packet⟩
  obtain ⟨hnxt, hunread, hreq⟩ := hquiet
  have hstored : (t.step (.rx packet)).stored = t.stored := by
    change t.stored ++ (t.o.step (.rx packet)).st.unread.drop t.o.st.unread.length = t.stored
    rw [hunread, List.drop_length, List.append_nil]
  have hconsumed : (t.step (.rx packet)).consumed = t.consumed := by
    simp [StreamRun.step, FinRun.step, ConsumesFin, hfin]
  have hnext := t.o.step_next (.rx packet)
  have h₁ := h.notSynSent
  have h₂ := h.notSynRecv
  refine ⟨⟨?_, ?_⟩, ?_, ?_, ?_, ?_⟩
  · rw [hstored]
    exact h.faithful.1
  · rw [hstored, hconsumed]
    exact hnxt.trans h.faithful.2
  · exact (congrArg Requests.closeRequested hreq).trans h.close_eq
  · change (t.o.step (.rx packet)).st.tcb.state ≠ _
    revert h₁ h₂ hnext
    cases t.o.st.tcb.state <;> cases (t.o.step (.rx packet)).st.tcb.state <;> decide
  · change (t.o.step (.rx packet)).st.tcb.state ≠ _
    revert h₁ h₂ hnext
    cases t.o.st.tcb.state <;> cases (t.o.step (.rx packet)).st.tcb.state <;> decide
  · rw [hstored, hconsumed]
    exact h.whole

end Packet

/-! ## The counts -/

/-- **One event** that returns moves the positions of the send side, and `snd_una` by what it
counts. -/
theorem InStep.step_acked {iss : Int} {R T : Nat} {t : SendRun}
    (h : InStep iss t.total t.acked R T t.o.st) (hT : T < 4294967296) {e : ConnEvent}
    (hret : (t.step e).o.fault = none) :
    ∃ R' T', InStep iss (t.step e).total (t.step e).acked R' T' (t.step e).o.st := by
  have hbefore : t.o.fault = none := Outcome.fault_of_step hret
  have hsame : ∀ {R' T'}, (t.step e).o.st.tcb.snd.sndUna = t.o.st.tcb.snd.sndUna →
      InStep iss (t.step e).total t.acked R' T' (t.step e).o.st →
      ∃ R' T', InStep iss (t.step e).total (t.step e).acked R' T' (t.step e).o.st := by
    intro R' T' huna h'
    have hacked : (t.step e).acked = t.acked := ackedTo_of_una_eq huna
    rw [hacked]
    exact ⟨R', T', h'⟩
  cases e with
  | usr q =>
    have h' := h.usr q
    exact hsame (h'.seq.una_eq.trans h.seq.una_eq.symm) h'
  | tx =>
    simp only [SendRun.step, Outcome.step, hbefore, ConnEvent.handler] at hret hsame ⊢
    obtain ⟨R', T', h'⟩ := h.tx hret
    exact hsame t.o.st.tx_sndUna h'
  | rtx =>
    simp only [SendRun.step, Outcome.step, hbefore, ConnEvent.handler] at hret hsame ⊢
    obtain ⟨R', T', h'⟩ := h.prepareRtx.tx hret
    exact hsame t.o.st.prepareRtx.tx_sndUna h'
  | rx packet =>
    obtain ⟨k, hmove, -⟩ := rx_rxMove packet h.seq h.opened
    obtain ⟨F', h'⟩ := h.rx packet
    have hle := hmove.seq.una_le
    have hle' := h'.seq.una_le
    have hR := hmove.seq.nxt_le
    obtain rfl : F' = t.acked + k :=
      seqOf_inj (h'.seq.una_eq.symm.trans hmove.seq.una_eq) (by omega) (by omega)
    have hacked : (t.step (.rx packet)).acked = t.acked + k := by
      simp only [SendRun.step, Outcome.step, hbefore, ConnEvent.handler, ackedTo]
      rw [hmove.seq.una_eq, h.seq.una_eq, seqDiff_seqOf (by omega) (by omega), Int.toNat_natCast]
      omega
    rw [hacked]
    refine ⟨R, T, ?_⟩
    simpa only [SendRun.step, Outcome.step, hbefore, ConnEvent.handler,
      SendRun.enqueued, Nat.add_zero]
      using h'

namespace StreamRun

variable {t : StreamRun} {e : ConnEvent}

/-- The number of sequence numbers consumed never goes back. -/
theorem consumed_le (t : StreamRun) (e : ConnEvent) :
    t.stored.length + t.consumed.toNat ≤ (t.step e).stored.length + (t.step e).consumed.toNat := by
  have hstored : t.stored.length ≤ (t.step e).stored.length := by
    cases e with
    | rx packet =>
      simp only [StreamRun.step, List.length_append]
      exact Nat.le_add_right _ _
    | tx | rtx | usr q => exact le_rfl
  have hconsumed : t.consumed.toNat ≤ (t.step e).consumed.toNat := by
    cases hc : t.consumed with
    | false => exact Nat.zero_le _
    | true => simp [StreamRun.step, FinRun.step, hc]
  omega

/-- `rcv_nxt` is behind what was stored and consumed. -/
theorem Inv.rcvNxt {stream : List UInt8} {irs : Int} (h : t.Inv stream irs) :
    t.o.st.tcb.rcv.rcvNxt = seqOf irs (t.stored.length + t.consumed.toNat) := by
  rw [h.faithful.2]
  unfold seqOf
  cases t.consumed <;> simp [add_assoc]

/-- The peer writes more, if its FIN was not consumed. -/
theorem Inv.write {stream : List UInt8} {irs : Int} (h : t.Inv stream irs)
    (hopen : t.consumed = false) (data : List UInt8) : t.Inv
    (stream ++ data) irs := by
  refine ⟨⟨h.faithful.1.trans (List.prefix_append _ _), h.faithful.2⟩, h.close_eq, h.notSynSent,
    h.notSynRecv, fun hc => ?_⟩
  rw [hopen] at hc
  cases hc

/-- What is not a packet keeps the invariant. -/
theorem Inv.step_host {stream : List UInt8} {irs : Int} (h : t.Inv stream irs)
    (hrx : ∀ packet, e ≠ .rx packet) (hclose : e ≠ .usr .tcpClose) : (t.step e).Inv stream irs := by
  cases e with
  | rx packet => exact absurd rfl (hrx packet)
  | tx => exact h.step trivial trivial
  | rtx => exact h.step trivial trivial
  | usr q =>
    cases q with
    | tcpClose => exact absurd rfl hclose
    | tcpSend data => exact h.step trivial trivial
    | tcpRecv n => exact h.step trivial trivial
    | tcpShutdown => exact h.step trivial trivial
    | tick ns => exact h.step trivial trivial

end StreamRun

/-! ## The invariant -/

namespace Session

/-- A packet of the peer: its acknowledgement is of something the peer has, and it carries a piece
of the stream. -/
structure Sound (q : Peer) (packet : TCPParser) : Prop where
  ackSeq : ∃ a ≤ q.taken, packet.segment.ackSeq = seqOf q.irs a
  syn : packet.segment.syn = false
  rst : packet.segment.rst = false
  carries : q.Carries packet.segment

/-- The invariant, for the segments sent after the first `base`: both halves are right, and what
either side knows of the other is true. -/
structure Inv (base : Nat) (s : Session) : Prop where
  send : s.toStreamSend.Inv s.peer.irs
  seq : s.o.fault = none → ∃ R T, InStep s.peer.irs s.enqueued.length s.acked R T s.o.st
  recv : s.toStreamRun.Inv s.peer.stream s.peer.iss
  small : s.enqueued.length < 1073741824
  smallPeer : s.peer.stream.length < 2147483648
  since : base ≤ s.o.st.core.out.length
  answers : ∀ e ∈ s.o.st.core.out.drop base, ∃ m ≤ s.stored.length + s.consumed.toNat,
    Answers (seqOf s.peer.iss m) e.2
  packets : ∀ packet ∈ s.peer.sent, Sound s.peer packet
  acked_le : s.acked ≤ s.peer.taken
  got : s.peer.got <+: s.enqueued
  gotFin : s.peer.gotFin = true → s.peer.got = s.enqueued ∧ s.o.st.tcb.req.finWanted = true
  closed : s.consumed = true → s.peer.closed = true
  read_eq : s.read ++ s.o.st.unread = s.stored

variable {base : Nat} {s : Session}

theorem Inv.taken_le (h : s.Inv base) : s.peer.taken ≤ s.enqueued.length + 1 := by
  have hlen := h.got.length_le
  have hbit : s.peer.gotFin.toNat ≤ 1 := by cases s.peer.gotFin <;> decide
  unfold Peer.taken
  omega

/-- The positions of the send side stay far from one turn of the sequence space. -/
theorem Inv.max_lt (h : s.Inv base) {R T : Nat}
    (hseq : InStep s.peer.irs s.enqueued.length s.acked R T s.o.st) : T < 4294967296 := by
  have hmax := hseq.max_le
  have hacked := h.acked_le
  have htaken := h.taken_le
  have hsmall := h.small
  omega

/-! ### The peer -/

theorem Sound.mono {q q' : Peer} {packet : TCPParser} (h : Sound q packet) (hirs : q'.irs = q.irs)
    (htaken : q.taken ≤ q'.taken) (hcarries : q.Carries packet.segment →
    q'.Carries packet.segment) :
    Sound q' packet := by
  obtain ⟨a, ha, hack⟩ := h.ackSeq
  exact ⟨⟨a, ha.trans htaken, hirs ▸ hack⟩, h.syn, h.rst, hcarries h.carries⟩

/-- A segment of ours reaches the peer. -/
theorem Inv.hear (h : s.Inv base) {e : SockId × TxTcp} (he : e ∈ s.o.st.core.out) (n : Nat) :
    Inv base { s with peer := s.peer.hear e.2 n } := by
  obtain ⟨hgot, htaken, hfin⟩ :=
    Peer.hear_spec h.small h.got (h.send.told e he) (h.send.good.log.placed e he) n
  have hkeeps : (s.peer.hear e.2 n).iss = s.peer.iss ∧ (s.peer.hear e.2 n).irs = s.peer.irs ∧
      (s.peer.hear e.2 n).stream = s.peer.stream ∧ (s.peer.hear e.2 n).closed = s.peer.closed ∧
      (s.peer.hear e.2 n).sent = s.peer.sent := by
    unfold Peer.hear
    simp only
    split <;> exact ⟨rfl, rfl, rfl, rfl, rfl⟩
  obtain ⟨hiss, hirs, hstream, hclosed, hsent⟩ := hkeeps
  refine ⟨?_, ?_, ?_, h.small, ?_, h.since, ?_, ?_, h.acked_le.trans htaken, hgot, ?_,
    ?_, h.read_eq⟩
  · exact hirs ▸ h.send
  · exact hirs ▸ h.seq
  · exact hstream ▸ hiss ▸ h.recv
  · exact hstream ▸ h.smallPeer
  · exact hiss ▸ h.answers
  · intro packet hp
    refine (h.packets packet (hsent ▸ hp)).mono hirs htaken fun hc => ?_
    unfold Peer.Carries at hc ⊢
    rwa [hstream, hiss, hclosed]
  · intro hlast
    rcases hfin hlast with ⟨hsame, hbefore⟩ | ⟨hseg, hwhole⟩
    · exact hsame ▸ h.gotFin hbefore
    · refine ⟨hwhole, ?_⟩
      -- a FIN was sent, so the end of the stream was asked for
      by_contra hwant
      have hno := h.send.good.noFin (Bool.eq_false_iff.2 hwant) e he
      rw [hseg] at hno
      cases hno
  · exact fun hc => hclosed ▸ h.closed hc

/-- The application of the peer writes. -/
theorem Inv.write (h : s.Inv base) {data : List UInt8} (hopen : s.peer.closed = false)
    (hsmall : (s.peer.stream ++ data).length < 2147483648) :
    Inv base { s with peer := { s.peer with stream := s.peer.stream ++ data } } := by
  have hconsumed : s.consumed = false := by
    by_contra hc
    rw [h.closed (Bool.eq_true_of_not_eq_false hc)] at hopen
    cases hopen
  refine ⟨h.send, h.seq, h.recv.write hconsumed data, h.small, hsmall, h.since, h.answers,
    ?_, h.acked_le, h.got, h.gotFin, h.closed, h.read_eq⟩
  intro packet hp
  refine (h.packets packet hp).mono rfl le_rfl fun hc => ?_
  rcases hc with hempty | ⟨k, hk, hcut, hfin⟩
  · exact Or.inl hempty
  · have hno : packet.segment.fin = true → False := by
      intro hf
      have := hfin hf
      rw [hopen] at this
      cases this
    refine Or.inr ⟨k, ?_, ⟨hcut.seq_eq, hcut.dlen_nonneg, ?_, ?_, fun hf =>
      (hno hf).elim, hcut.syn_eq, hcut.rst_eq⟩, fun hf => (hno hf).elim⟩
    · simp only [List.length_append]
      omega
    · simp only
      rw [slice_append_of_le hcut.le]
      exact hcut.data_eq
    · have := hcut.le
      simp only [List.length_append]
      omega

/-- The application of the peer is done. -/
theorem Inv.close (h : s.Inv base) :
    Inv base { s with peer := { s.peer with closed := true } } := by
  refine ⟨h.send, h.seq, h.recv, h.small, h.smallPeer, h.since, h.answers, fun packet hp =>
    ?_, h.acked_le, h.got, h.gotFin, fun _ => rfl, h.read_eq⟩
  refine (h.packets packet hp).mono rfl le_rfl fun hc => ?_
  rcases hc with hempty | ⟨k, hk, hcut, -⟩
  · exact Or.inl hempty
  · exact Or.inr ⟨k, hk, hcut, fun _ => rfl⟩

/-- The peer sends a packet. -/
theorem Inv.say (h : s.Inv base) {packet : TCPParser} (hsay : s.peer.MaySay packet) :
    Inv base { s with peer := { s.peer with sent := s.peer.sent ++ [packet] } } := by
  refine ⟨h.send, h.seq, h.recv, h.small, h.smallPeer, h.since, h.answers, fun p hp =>
    ?_, h.acked_le, h.got, h.gotFin, h.closed, h.read_eq⟩
  rcases List.mem_append.1 hp with hp | hp
  · exact (h.packets p hp).mono rfl le_rfl id
  · obtain rfl := List.mem_singleton.1 hp
    exact ⟨⟨_, le_rfl, hsay.ackSeq⟩, hsay.syn, hsay.rst, hsay.carries⟩

/-! ### Our side -/

/-- What the events of our side have in common: all that is left is what a packet can change. -/
theorem Inv.onHost (h : s.Inv base) {e : ConnEvent} (hadm : s.toStreamSend.Admits e)
    (hsmall : (s.toStreamSend.step e).enqueued.length < 1073741824)
    (hrecv : (s.toStreamRun.step e).Inv s.peer.stream s.peer.iss)
    (hsent : Emits (fun seg => ∃ m ≤ (s.onHost e).stored.length + (s.onHost e).consumed.toNat,
      Answers (seqOf s.peer.iss m) seg) s.o.st.core.out (s.o.step e).st.core.out)
    (hacked : (s.toStreamSend.step e).acked ≤ s.peer.taken)
    (hclosed : (s.toStreamRun.step e).consumed = true → s.peer.closed = true)
    (hreq : s.o.st.tcb.req.finWanted = true → (s.o.step e).st.tcb.req.finWanted = true)
    (hread : (s.onHost e).read ++ (s.o.step e).st.unread = (s.onHost e).stored) :
    (s.onHost e).Inv base := by
  have hmore : s.enqueued <+: (s.onHost e).enqueued := List.prefix_append _ _
  have hseq : (s.o.step e).fault = none → ∃ R T, InStep s.peer.irs (s.onHost e).enqueued.length
      (s.onHost e).acked R T (s.o.step e).st := by
    intro hret
    obtain ⟨R, T, hin⟩ := h.seq (Outcome.fault_of_step hret)
    have hnext := hin.step_acked (t := s.toStreamSend.toSendRun) (h.max_lt hin) hret
    rw [← StreamSend.toSendRun_step] at hnext
    exact hnext
  obtain ⟨new, hout, hnew⟩ := hsent
  refine ⟨h.send.step hadm, hseq, hrecv, hsmall, h.smallPeer, ?_, ?_, h.packets, hacked,
    h.got.trans hmore, fun hfin => ?_, hclosed, hread⟩
  · simp only [Session.onHost]
    rw [hout, List.length_append]
    exact h.since.trans (Nat.le_add_right _ _)
  · intro x hx
    simp only [Session.onHost] at hx
    rw [hout, List.drop_append_of_le_length h.since] at hx
    rcases List.mem_append.1 hx with hx | hx
    · obtain ⟨m, hm, hans⟩ := h.answers x hx
      exact ⟨m, hm.trans (s.toStreamRun.consumed_le e), hans⟩
    · exact hnew x hx
  · -- nothing more is enqueued once the end of the stream was asked for
    obtain ⟨hwhole, hwant⟩ := h.gotFin hfin
    have hnone : StreamSend.taken s.o.st e = [] := by
      have hbefore := hadm.before
      cases e with
      | usr q =>
        cases q with
        | tcpSend data =>
          have : s.o.st.tcb.req.finWanted = false := hbefore
          rw [hwant] at this
          cases this
        | _ => rfl
      | _ => rfl
    refine ⟨?_, hreq hwant⟩
    change s.peer.got = s.enqueued ++ StreamSend.taken s.o.st e
    rw [hnone, List.append_nil]
    exact hwhole

/-- What a handler of sending or retransmission sends acknowledges what was stored. -/
theorem Inv.tx_answers (h : s.Inv base) (hf : s.o.fault = none) {c : Conn}
    (hphase : Phase s.peer.irs s.enqueued.length s.acked c) (hout : c.core.out = s.o.st.core.out)
    (hrcv : c.tcb.rcv = s.o.st.tcb.rcv) (hreq : c.tcb.req = s.o.st.tcb.req)
    (hstate : c.tcb.state = s.o.st.tcb.state) (hcells : c.tcb.snd.cells = s.o.st.tcb.snd.cells) :
    Emits (fun seg => ∃ m ≤ s.stored.length + s.consumed.toNat, Answers (seqOf s.peer.iss m) seg)
      s.o.st.core.out c.tx.st.core.out := by
  have hspeaks := hphase.tx_speaks (hreq ▸ h.send.good.linger) fun hs => by
    have hheld := h.send.held hf (hstate ▸ hs)
    rw [show c.tcb.snd.sndBuf.ring = c.tcb.snd.cells from rfl, hcells]
    exact hheld
  rw [hout, hrcv] at hspeaks
  have hnxt : s.o.st.tcb.rcv.rcvNxt = seqOf s.peer.iss (s.stored.length + s.consumed.toNat) :=
    h.recv.rcvNxt
  exact hspeaks.mono fun seg hseg => ⟨_, le_rfl, hnxt ▸ hseg.answers⟩

/-- What an event that is not a packet leaves: `snd_una`, and what was asked for. -/
theorem host_frame {e : ConnEvent} (o : Outcome) (hrx : ∀ packet, e ≠ .rx packet) :
    (o.step e).st.tcb.snd.sndUna = o.st.tcb.snd.sndUna ∧
      (o.st.tcb.req.finWanted = true → (o.step e).st.tcb.req.finWanted = true) := by
  refine o.step_rule (R := fun c c' => c'.tcb.snd.sndUna = c.tcb.snd.sndUna ∧
    (c.tcb.req.finWanted = true → c'.tcb.req.finWanted = true)) e ⟨rfl, id⟩ fun _ => ?_
  cases e with
  | rx packet => exact absurd rfl (hrx packet)
  | tx => exact ⟨o.st.tx_sndUna, fun h => by rw [ConnEvent.handler, o.st.tx_req, h]⟩
  | rtx => exact ⟨o.st.prepareRtx.tx_sndUna, fun h => o.st.prepareRtx.tx_req ▸ h⟩
  | usr q =>
    cases q with
    | tcpSend data =>
      simp only [ConnEvent.handler, UserRequest.apply, Conn.tcpSend]
      split <;> exact ⟨rfl, id⟩
    | tcpRecv n =>
      simp only [ConnEvent.handler, UserRequest.apply, Conn.tcpRecv]
      split <;> exact ⟨rfl, id⟩
    | tcpClose => exact ⟨rfl, fun _ => Bool.or_true _⟩
    | tcpShutdown => exact ⟨rfl, fun _ => Bool.true_or _⟩
    | tick ns => exact ⟨rfl, id⟩

/-- A read takes the bytes it returns from the front of those not read; nothing else that is not a
packet does anything to them. -/
theorem host_read {e : ConnEvent} (o : Outcome) (hrx : ∀ packet, e ≠ .rx packet) :
    returned o.st e ++ (o.step e).st.unread = o.st.unread := by
  cases e with
  | rx packet => exact absurd rfl (hrx packet)
  | tx =>
    refine o.step_rule (R := fun c c' => c'.unread = c.unread) .tx rfl fun _ => ?_
    exact Conn.unread_of_rcvBuf Conn.tx_rcvBuf
  | rtx =>
    refine o.step_rule (R := fun c c' => c'.unread = c.unread) .rtx rfl fun _ => ?_
    exact Conn.unread_of_rcvBuf (Conn.tx_rcvBuf (c := o.st.prepareRtx))
  | usr q =>
    cases q with
    | tcpSend data =>
      simp only [returned, Outcome.step, UserRequest.apply, Conn.tcpSend]
      split <;> rfl
    | tcpRecv n =>
      obtain ⟨-, hbytes, hrest⟩ := o.st.tcb.rcv.rcvBuf.dequeue_spec n
      simp only [returned, Outcome.step, UserRequest.apply, Conn.tcpRecv]
      split
      · rfl
      · rw [hbytes, Conn.unread, Conn.setRcv_tcb, TCPCB.setRcv_rcv, hrest, List.take_append_drop]
        rfl
    | tcpClose => rfl
    | tcpShutdown => rfl
    | tick ns => rfl

/-- What an event that is not a packet sends. -/
theorem Inv.host_answers (h : s.Inv base) {e : ConnEvent} (hrx : ∀ packet, e ≠ .rx packet) :
    Emits (fun seg => ∃ m ≤ s.stored.length + s.consumed.toNat, Answers (seqOf s.peer.iss m) seg)
      s.o.st.core.out (s.o.step e).st.core.out := by
  cases e with
  | rx packet => exact absurd rfl (hrx packet)
  | usr q =>
    refine .of_eq _ ?_
    cases q with
    | tcpSend data =>
      simp only [Outcome.step, UserRequest.apply, Conn.tcpSend]
      split <;> rfl
    | tcpRecv n =>
      simp only [Outcome.step, UserRequest.apply, Conn.tcpRecv]
      split <;> rfl
    | _ => rfl
  | tx =>
    cases hf : s.o.fault with
    | some f => exact .of_eq _ (by simp only [Outcome.step, hf])
    | none =>
      have hstep : s.o.step .tx = s.o.st.tx := by simp only [Outcome.step, hf, ConnEvent.handler]
      rw [hstep]
      exact h.tx_answers hf (h.send.good.phase hf) rfl rfl rfl rfl rfl
  | rtx =>
    cases hf : s.o.fault with
    | some f => exact .of_eq _ (by simp only [Outcome.step, hf])
    | none =>
      have hstep : s.o.step .rtx = s.o.st.prepareRtx.tx := by
        simp only [Outcome.step, hf, ConnEvent.handler]
        rfl
      have hgood : Good s.peer.irs s.enqueued.length s.acked s.o := h.send.good
      rw [Outcome.eq_ok hf] at hgood
      rw [hstep]
      exact h.tx_answers hf ((hgood.prepareRtx fun _ => h.send.room).phase rfl) rfl rfl rfl rfl rfl

/-- **An event of our side** that is not a packet. -/
theorem Inv.host (h : s.Inv base) {e : ConnEvent} (hadm : s.AdmitsHost e) :
    (s.onHost e).Inv base := by
  obtain ⟨hkind, hsend, hsmall⟩ := hadm
  have hrx : ∀ packet, e ≠ .rx packet := by
    rintro packet rfl
    exact hkind
  have hclose : e ≠ .usr .tcpClose := by
    rintro rfl
    exact hkind
  have hstored : (s.onHost e).stored = s.stored := by
    cases e with
    | rx packet => exact absurd rfl (hrx packet)
    | tx | rtx | usr q => rfl
  have hconsumed : (s.onHost e).consumed = s.consumed := by
    cases e with
    | rx packet => exact absurd rfl (hrx packet)
    | tx | rtx | usr q => exact Bool.or_false _
  obtain ⟨huna, hreq⟩ := host_frame s.o hrx
  refine h.onHost hsend hsmall (h.recv.step_host hrx hclose) ?_ ?_ (fun hc =>
    h.closed (hconsumed ▸ hc)) hreq ?_
  · rw [hstored, hconsumed]
    exact h.host_answers hrx
  · have hacked : (s.toStreamSend.step e).acked = s.acked := ackedTo_of_una_eq huna
    rw [hacked]
    exact h.acked_le
  · rw [hstored, ← h.read_eq, ← host_read s.o hrx, ← List.append_assoc]
    rfl

/-- **What a packet acknowledges**, the peer has. -/
theorem Inv.deliver_acked (h : s.Inv base) {packet : TCPParser} (hsound : Sound s.peer packet) :
    (s.toStreamSend.step (.rx packet)).acked ≤ s.peer.taken := by
  have hkeep : (s.o.step (.rx packet)).st.tcb.snd.sndUna = s.o.st.tcb.snd.sndUna →
      (s.toStreamSend.step (.rx packet)).acked ≤ s.peer.taken := by
    intro huna
    have hacked : (s.toStreamSend.step (.rx packet)).acked = s.acked := ackedTo_of_una_eq huna
    rw [hacked]
    exact h.acked_le
  cases hf : s.o.fault with
  | some f => exact hkeep (by simp only [Outcome.step, hf])
  | none =>
    have hstep : s.o.step (.rx packet) = s.o.st.rx packet := by
      simp only [Outcome.step, hf, ConnEvent.handler]
    rw [hstep] at hkeep
    obtain ⟨R, T, hin⟩ := h.seq hf
    rcases rx_sndUna_cases packet hin.opened hsound.rst hsound.syn with huna | huna
    · exact hkeep huna
    · obtain ⟨a, ha, hack⟩ := hsound.ackSeq
      obtain ⟨k, hmove, -⟩ := rx_rxMove packet hin.seq hin.opened
      have hT := h.max_lt hin
      have hR := hmove.seq.una_le
      have hR' := hmove.seq.nxt_le
      have htaken := h.taken_le
      have hsmall := h.small
      obtain rfl : s.acked + k = a :=
        seqOf_inj (hmove.seq.una_eq.symm.trans (huna.trans hack)) (by omega) (by omega)
      have hacked : (s.toStreamSend.step (.rx packet)).acked = s.acked + k := by
        change ackedTo s.acked s.o.st.tcb.snd (s.o.step (.rx packet)).st.tcb.snd = _
        unfold ackedTo
        rw [hstep, hmove.seq.una_eq, hin.seq.una_eq, seqDiff_seqOf (by omega) (by omega),
          Int.toNat_natCast]
        omega
      rw [hacked]
      exact ha

/-- **A packet of the peer.** -/
theorem Inv.deliver (h : s.Inv base) {packet : TCPParser} (hp : packet ∈ s.peer.sent)
    (hroom : HasRoom s.o.st.tcb.rcv packet.segment) (hcopies : s.toStreamRun.Copies (.rx packet)) :
    (s.onHost (.rx packet)).Inv base := by
  have hsound := h.packets packet hp
  have hopen : s.o.fault = none → s.o.st.tcb.state.Opened := fun hf => (h.send.good.phase hf).opened
  have hrecv : (s.toStreamRun.step (.rx packet)).Inv s.peer.stream s.peer.iss := by
    rcases hsound.carries with ⟨hdlen, hfin⟩ | ⟨k, hk, hcut, -⟩
    · exact h.recv.step_bare hopen hdlen hfin hsound.syn hsound.rst
    · have hstored := h.recv.faithful.1.length_le
      have hsmall := h.smallPeer
      exact h.recv.step ⟨⟨k, hcut, by omega, by omega⟩, hroom⟩ hcopies
  have hsame : s.enqueued ++ StreamSend.taken s.o.st (.rx packet) = s.enqueued := List.append_nil _
  refine h.onHost ⟨trivial, ?_, trivial⟩ ?_ hrecv ?_ (h.deliver_acked hsound) ?_ ?_ ?_
  · change (s.enqueued ++ StreamSend.taken s.o.st (.rx packet)).length < s.acked + DEFAULT_SEND_BUFF
    rw [hsame]
    exact h.send.room
  · change (s.enqueued ++ StreamSend.taken s.o.st (.rx packet)).length < _
    rw [hsame]
    exact h.small
  · cases hf : s.o.fault with
    | some f => exact .of_eq _ (by simp only [Outcome.step, hf])
    | none =>
      have hnxt := hrecv.rcvNxt
      have hstep : s.o.step (.rx packet) = s.o.st.rx packet := by
        simp only [Outcome.step, hf, ConnEvent.handler]
      change (s.o.step (.rx packet)).st.tcb.rcv.rcvNxt = _ at hnxt
      rw [hstep] at hnxt ⊢
      refine (rx_answers packet (hopen hf) h.recv.close_eq hsound.rst).mono fun seg hseg =>
        ⟨_, le_rfl, ?_⟩
      exact hnxt ▸ hseg.answers
  · -- the FIN was consumed before, or is in the packet
    intro hc
    rcases Bool.or_eq_true_iff.1 hc with hc | hc
    · exact h.closed hc
    · have hfin : packet.segment.fin = true := (of_decide_eq_true hc).2.1
      rcases hsound.carries with ⟨-, hno⟩ | ⟨k, -, -, hclosed⟩
      · rw [hfin] at hno
        cases hno
      · exact hclosed hfin
  · refine fun hwant => ?_
    refine s.o.step_rule (R := fun c c' => c.tcb.req.finWanted = true → c'.tcb.req.finWanted = true)
      (.rx packet) id (fun _ hw => ?_) hwant
    exact s.o.st.rx_req packet ▸ hw
  · have hunread : s.o.st.unread <+: (s.o.step (.rx packet)).st.unread := by
      refine s.o.step_rule (R := fun c c' => c.unread <+: c'.unread) (.rx packet)
        (List.prefix_refl _)
        fun _ => ?_
      exact Conn.rx_unread packet
    change s.read ++ [] ++ (s.o.step (.rx packet)).st.unread =
      s.stored ++ (s.o.step (.rx packet)).st.unread.drop s.o.st.unread.length
    rw [← h.read_eq, List.append_nil, List.append_assoc, List.prefix_iff_eq_append.1 hunread]

/-- **One event** keeps the invariant. -/
theorem Inv.step (h : s.Inv base) {e : SessionEvent} (hadm : s.Admits e) : (s.step e).Inv base := by
  cases e with
  | host e => exact h.host hadm
  | deliver k =>
    simp only [Session.step]
    cases hk : s.peer.sent[k]? with
    | none => exact h
    | some packet =>
      obtain ⟨hroom, hcopies⟩ := hadm packet hk
      exact h.deliver (List.mem_of_getElem? hk) hroom hcopies
  | hear k n =>
    simp only [Session.step]
    cases hk : s.o.st.core.out[k]? with
    | none => exact h
    | some e => exact h.hear (List.mem_of_getElem? hk) n
  | write data => exact h.write hadm.1 hadm.2
  | close => exact h.close
  | say packet => exact h.say hadm

/-! ## Runs -/

/-- The connection and a peer with nothing sent either way. -/
def start (c : Conn) : Session where
  o := .ok c
  consumed := false
  stored := []
  read := []
  enqueued := []
  acked := 0
  peer := ⟨c.tcb.rcv.irs, c.tcb.snd.iss, [], false, [], false, []⟩

/-- What the two applications can rely on: each reads a prefix of what the other wrote, and the
whole of it once the end was seen; `snd_una` counts what the peer has, and every segment after the
first `base` acknowledges what was stored. -/
structure Safe (base : Nat) (s : Session) : Prop where
  got : s.peer.got <+: s.enqueued
  gotFin : s.peer.gotFin = true → s.peer.got = s.enqueued
  read : s.read <+: s.peer.stream
  consumed : s.consumed = true → s.read ++ s.o.st.unread = s.peer.stream
  acked : s.acked ≤ s.peer.taken
  una_eq : s.o.fault = none → s.o.st.tcb.snd.sndUna = seqOf s.peer.irs s.acked
  answers : ∀ e ∈ s.o.st.core.out.drop base,
    ∃ m ≤ (s.read ++ s.o.st.unread).length + s.consumed.toNat, Answers (seqOf s.peer.iss m) e.2

theorem Inv.safe (h : s.Inv base) : s.Safe base := by
  refine ⟨h.got, fun hfin => (h.gotFin hfin).1, ?_, fun hc => ?_, h.acked_le, fun hf => ?_, ?_⟩
  · exact (List.prefix_append s.read s.o.st.unread).trans (h.read_eq ▸ h.recv.faithful.1)
  · rw [h.read_eq]
    exact h.recv.faithful.1.eq_of_length (h.recv.whole hc)
  · obtain ⟨R, T, hin⟩ := h.seq hf
    exact hin.seq.una_eq
  · rw [h.read_eq]
    exact h.answers

end Session

/-- A connection with the handshake behind it and nothing sent, received or asked for since. -/
structure StartsSession (c : Conn) : Prop where
  fresh : FreshEstab c
  linger : c.tcb.req.soLinger ≠ some SO_LINGER_ON
  close_eq : c.tcb.req.closeRequested = false
  nxt_eq : c.tcb.rcv.rcvNxt = (c.tcb.rcv.irs + 1) % 4294967296
  unread_eq : c.unread = []

instance (c : Conn) : Decidable (StartsSession c) :=
  decidable_of_iff (FreshEstab c ∧ c.tcb.req.soLinger ≠ some SO_LINGER_ON ∧
      c.tcb.req.closeRequested = false ∧ c.tcb.rcv.rcvNxt = (c.tcb.rcv.irs + 1) % 4294967296 ∧
      c.unread = [])
    ⟨fun ⟨h₁, h₂, h₃, h₄, h₅⟩ => ⟨h₁, h₂, h₃, h₄, h₅⟩,
      fun h => ⟨h.fresh, h.linger, h.close_eq, h.nxt_eq, h.unread_eq⟩⟩

theorem FreshEstab.inStep {c : Conn} (h : FreshEstab c) : InStep c.tcb.snd.iss 0 0 0 0 c := by
  have hzero : c.tcb.snd.sndUna = seqOf c.tcb.snd.iss 0 := by simp [seqOf, h.una_eq]
  have hready : c.tcb.snd.sndBuf.ready = 0 := by simp [RRingBuffer.ready, h.vr_eq, h.vw_eq, gap]
  refine ⟨⟨hzero, h.nxt_eq.trans hzero, h.max_eq.trans hzero, le_rfl, le_rfl⟩, ?_,
    h.size_eq, by omega,
    by omega, fun _ => h.sentFin, fun _ => ?_⟩
  · rw [h.state]
    decide
  · rw [h.vr_eq, h.r_eq]
    exact (Nat.zero_mod _).symm

theorem StartsSession.inv {c : Conn} (h : StartsSession c) :
    (Session.start c).Inv c.core.out.length := by
  have hstate := h.fresh.state
  refine ⟨.fresh h.fresh h.linger, fun _ => ⟨0, 0, h.fresh.inStep⟩, ?_, Nat.zero_lt_succ _,
    Nat.zero_lt_succ _, le_rfl, ?_, ?_, le_rfl, List.prefix_refl _, ?_, ?_, ?_⟩
  · refine ⟨⟨List.prefix_refl _, ?_⟩, h.close_eq, ?_, ?_, ?_⟩
    · change c.tcb.rcv.rcvNxt = _
      rw [h.nxt_eq]
      simp [Session.toStreamRun, Session.start]
    · change c.tcb.state ≠ _
      rw [hstate]
      decide
    · change c.tcb.state ≠ _
      rw [hstate]
      decide
    · intro hc
      cases hc
  · intro e he
    simp [Session.start] at he
  · intro packet hp
    cases hp
  · intro hc
    cases hc
  · intro hc
    cases hc
  · exact h.unread_eq

/-- **A session over a lossy network.** Let a connection that has just been established talk to any
peer that puts what it hears together in order and acknowledges what it has, over a network that
loses, repeats and reorders segments. In every run in which the application does not close and sends
nothing after a shutdown, nothing is written over what is not acknowledged, the FIN goes out behind
the last byte, the streams are not too long, and what is accepted finds room and is copied exactly:
at all times each side has a prefix of what the other wrote, the whole of it once the FIN was taken,
and what is acknowledged has arrived. -/
theorem session_safe (c : Conn) (hstart : StartsSession c) (es : List SessionEvent)
    (hadm : Guarded Session.step Session.Admits (.start c) es) (pre : List SessionEvent)
    (hpre : pre <+: es) : (run Session.step (.start c) pre).Safe c.core.out.length :=
  (run_inv (I := Session.Inv c.core.out.length) (fun _ _ h hok => h.step hok) hstart.inv
    (hadm.of_prefix hpre)).safe

/-- Three bytes each way: a segment of ours is heard in part and sent again, a packet of the peer
comes twice, and both sides close. -/
def sampleSession : List SessionEvent :=
  [.write [10, 20, 30], .host (.usr (.tcpSend [1, 2, 3])), .host .tx, .hear 2 2,
    .say (.sample 101 1003 0x10 4096 [10, 20]), .deliver 0, .deliver 0, .host .rtx, .hear 4 9,
    .host (.usr (.tcpRecv 1)), .say (.sample 103 1004 0x10 4096 [30]), .deliver 1,
    .host (.usr .tcpShutdown), .host .tx, .hear 4 9, .hear 5 9, .host (.usr (.tcpRecv 9)), .close,
    .say (.sample 104 1005 0x11 4096 []), .deliver 2, .deliver 1]

theorem session_safe_sample :
    StartsSession sampleEstab.st ∧
      (run Session.step (.start sampleEstab.st) sampleSession).Safe
          sampleEstab.st.core.out.length :=
  ⟨by decide +kernel,
    session_safe sampleEstab.st
    (by decide +kernel) sampleSession (by decide +kernel) _ (List.prefix_refl _)⟩

end Tipy.Tcp
