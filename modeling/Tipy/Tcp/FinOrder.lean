import Tipy.Tcp.PeerFin
import Tipy.Tcp.SndPhase

/-!
# The FIN comes after the stream

A run keeps count of the bytes enqueued and of those acknowledged. Segments that arrive move
`snd_una` and free what they acknowledge; they never add data or a FIN to the log. With `Good.tx`
for the send handlers this gives the invariant of every run whose `SEND` and `RTX` events drain all
that is ready.
-/

namespace Tipy.Tcp

open Tipy.Buffer Tipy.Lib

/-! ## Receiving -/

section Receive

variable (c : Conn) (p : Segment)

theorem rxEstab_emits : Emits TxTcp.Empty c.core.out (c.rxEstab p).core.out := by
  unfold Conn.rxEstab
  simp only
  split
  · split
    · simpa using Emits.refl TxTcp.Empty c.core.out
    · split
      · exact .challenge (.refl _ _)
      · simp only [Conn.estabAccept]
        split <;> split <;> simpa using Emits.refl TxTcp.Empty c.core.out
  · exact .refl _ _
  · exact .challenge (.refl _ _)

theorem finWait1Accept_emits : Emits TxTcp.Empty c.core.out (c.finWait1Accept p).core.out := by
  unfold Conn.finWait1Accept
  simp only
  split <;> split
  · exact .ack (by simpa using Emits.refl TxTcp.Empty c.core.out)
  · simpa using Emits.refl TxTcp.Empty c.core.out
  · exact .ack (by simpa using Emits.refl TxTcp.Empty c.core.out)
  · simpa using Emits.refl TxTcp.Empty c.core.out

theorem rxFinWait1_emits : Emits TxTcp.Empty c.core.out (c.rxFinWait1 p).core.out := by
  unfold Conn.rxFinWait1
  simp only
  split
  · split
    · simpa using Emits.refl TxTcp.Empty c.core.out
    · split
      · refine .activeCloseRx ?_ _
        exact .refl _ _
      · split
        · exact .challenge (.refl _ _)
        · exact finWait1Accept_emits (c.setRcv (hRxSeq c.tcb.rcv p).rcv) _
  · exact .ack (.refl _ _)
  · exact .challenge (.refl _ _)

theorem finWait2Accept_emits : Emits TxTcp.Empty c.core.out (c.finWait2Accept p).core.out := by
  unfold Conn.finWait2Accept
  simp only
  refine .ack ?_
  split <;> split <;> simpa using Emits.refl TxTcp.Empty c.core.out

theorem rxFinWait2_emits : Emits TxTcp.Empty c.core.out (c.rxFinWait2 p).core.out := by
  unfold Conn.rxFinWait2
  simp only
  split
  · split
    · simpa using Emits.refl TxTcp.Empty c.core.out
    · split
      · refine .activeCloseRx ?_ _
        exact .refl _ _
      · split
        · exact .challenge (.refl _ _)
        · exact finWait2Accept_emits (c.setRcv (hRxSeq c.tcb.rcv p).rcv) _
  · exact .ack (.refl _ _)
  · exact .challenge (.refl _ _)

theorem rxCloseWait_emits : Emits TxTcp.Empty c.core.out (c.rxCloseWait p).core.out := by
  unfold Conn.rxCloseWait
  split_ifs
  · simpa using Emits.refl TxTcp.Empty c.core.out
  · exact .activeCloseRx (.refl _ _) _
  · exact .challenge (.refl _ _)
  · simpa using Emits.refl TxTcp.Empty c.core.out
  · exact .refl _ _

theorem rxClosing_emits : Emits TxTcp.Empty c.core.out (c.rxClosing p).core.out := by
  unfold Conn.rxClosing
  split_ifs
  · simpa using Emits.refl TxTcp.Empty c.core.out
  · exact .activeCloseRx (.refl _ _) _
  · exact .challenge (.refl _ _)
  · simpa using Emits.refl TxTcp.Empty c.core.out
  · exact .ack (.refl _ _)

theorem rxLastAck_emits : Emits TxTcp.Empty c.core.out (c.rxLastAck p).core.out := by
  unfold Conn.rxLastAck
  split_ifs
  · simpa using Emits.refl TxTcp.Empty c.core.out
  · exact .challenge (.refl _ _)
  · simpa using Emits.refl TxTcp.Empty c.core.out
  · exact .refl _ _

theorem rxTimeWait_emits : Emits TxTcp.Empty c.core.out (c.rxTimeWait p).core.out := by
  unfold Conn.rxTimeWait
  split
  · simpa using Emits.ack (Emits.refl TxTcp.Empty c.core.out)
  · exact .refl _ _

/-- After the handshake a segment that arrives is answered with segments without sequence numbers.
-/
theorem rx_emits (packet : TCPParser) (hsent : c.tcb.state ≠ .synSent)
    (hrecv : c.tcb.state ≠ .synRecv) :
    Emits TxTcp.Empty c.core.out (c.rx packet).st.core.out := by
  unfold Conn.rx
  cases hs : c.tcb.state with
  | listen => exact .refl _ _
  | synSent => exact absurd hs hsent
  | synRecv => exact absurd hs hrecv
  | estab => exact rxEstab_emits c _
  | finWait1 => exact rxFinWait1_emits c _
  | finWait2 => exact rxFinWait2_emits c _
  | closeWait => exact rxCloseWait_emits c _
  | closing => exact rxClosing_emits c _
  | lastAck => exact rxLastAck_emits c _
  | timeWait => exact rxTimeWait_emits c _
  | closed => exact .refl _ _

end Receive

/-! ### What a segment acknowledges -/

/-- The position of `snd_una` after a change of the send side. -/
def ackedTo (F : Nat) (s s' : SndVars) : Nat := F + (seqDiff s'.sndUna s.sndUna).toNat

/-- `snd_una` and the read offset of the ring moved on together; nothing else did. -/
structure Acked (iss : Int) (N F R T V : Nat) (s s' : SndVars) : Prop where
  seq : SeqAt iss (ackedTo F s s') R T s'
  ring : RingAt N (ackedTo F s s') V s'.sndBuf
  sentFin : s'.sentFin = s.sentFin

/-- The same, and what was in flight is not all acknowledged, unless nothing was acknowledged. -/
structure AckedPart (iss : Int) (N F R T V : Nat) (s s' : SndVars) : Prop
    extends Acked iss N F R T V s s' where
  short : s'.sndUna ≠ s'.sndNxt ∨ s'.sndUna = s.sndUna

section Acked

variable {iss : Int} {N F R T V : Nat} {s s' : SndVars} {p : Segment}

theorem ackedTo_of_una_eq (h : s'.sndUna = s.sndUna) : ackedTo F s s' = F := by
  simp [ackedTo, h, seqDiff]

theorem Acked.refl (hseq : SeqAt iss F R T s) (hring : RingAt N F V s.sndBuf) :
    Acked iss N F R T V s s := by
  refine ⟨?_, ?_, rfl⟩
  · rw [ackedTo_of_una_eq rfl]
    exact hseq
  · rw [ackedTo_of_una_eq rfl]
    exact hring

theorem Acked.wnd (h : Acked iss N F R T V s s') : Acked iss N F R T V s (hRxWnd s' p) := by
  have hto : ackedTo F s (hRxWnd s' p) = ackedTo F s s' := by simp [ackedTo]
  refine ⟨hto ▸ hRxWnd_seqAt h.seq, ?_, by simpa using h.sentFin⟩
  rw [hto, hRxWnd_sndBuf]
  exact h.ring

/-- The bytes acknowledged are freed. -/
theorem Acked.free (hseq : SeqAt iss F R T s) (hring : RingAt N F V s.sndBuf)
    (hp : 0 ≤ p.ackSeq ∧ p.ackSeq < 4294967296) :
    Acked iss N F R T V s (freeSndBuf (hRxAck s p).1 (hRxAck s p).2) := by
  obtain ⟨k, hk, hseq', heq, hdiff⟩ := hRxAck_seqAt hseq hp
  have hto : ackedTo F s (freeSndBuf (hRxAck s p).1 (hRxAck s p).2) = F + k := by
    simp [ackedTo, freeSndBuf, hdiff]
  have hbuf : (hRxAck s p).1.sndBuf = s.sndBuf := by rw [heq]
  refine ⟨?_, ?_, by rw [freeSndBuf, heq]⟩
  · rw [hto]
    exact ⟨hseq'.una_eq, hseq'.nxt_eq, hseq'.max_eq, hseq'.una_le, hseq'.nxt_le⟩
  · rw [hto, hk]
    simp only [freeSndBuf, hbuf]
    exact hring.free k

/-- The acknowledgement of the states that end the stream, when it does not end there. -/
theorem Acked.partly (hseq : SeqAt iss F R T s) (hring : RingAt N F V s.sndBuf)
    (hp : 0 ≤ p.ackSeq ∧ p.ackSeq < 4294967296)
    (hs' : s' = if 0 < (hRxAck s p).2 then freeSndBuf (hRxAck s p).1 (hRxAck s p).2
      else (hRxAck s p).1) : Acked iss N F R T V s s' := by
  rw [hs']
  split
  · exact .free hseq hring hp
  · next hnot =>
    rw [hRxAck_of_not_pos hseq.una_range hp hnot]
    exact .refl hseq hring

end Acked

section AckedStates

variable {iss : Int} {N F R T V : Nat} {c : Conn} {p : Segment}

theorem rxEstab_acked (hseq : SeqAt iss F R T c.tcb.snd) (hring : RingAt N F V c.tcb.snd.sndBuf)
    (hp : p.Parsed) : Acked iss N F R T V c.tcb.snd (c.rxEstab p).tcb.snd := by
  have hrefl := Acked.refl hseq hring
  unfold Conn.rxEstab
  simp only
  split
  · split
    · simpa using hrefl
    · split
      · simpa using hrefl
      · rw [Conn.estabAccept_snd]
        refine .wnd (.partly hseq hring ?_ (Conn.estabAck_snd _ _))
        rw [hRxSeq_ackSeq]
        exact hp.ackSeq_range
  · simpa using hrefl
  · simpa using hrefl

theorem rxCloseWait_acked (hseq : SeqAt iss F R T c.tcb.snd) (hring : RingAt N F V c.tcb.snd.sndBuf)
    (hp : p.Parsed) : Acked iss N F R T V c.tcb.snd (c.rxCloseWait p).tcb.snd := by
  have hrefl := Acked.refl hseq hring
  have hcomm : ∀ (s : SndVars) (n : Int), freeSndBuf (hRxWnd s p) n =
      hRxWnd (freeSndBuf s n) p := by
    intro s n
    unfold hRxWnd freeSndBuf
    split <;> rfl
  unfold Conn.rxCloseWait
  split_ifs
  · simpa using hrefl
  · simpa using hrefl
  · simpa using hrefl
  · have hfree := (Acked.free hseq hring hp.ackSeq_range).wnd (p := p)
    simpa [Conn.closeWaitAck_snd, hcomm] using hfree
  · exact hrefl

/-- The acknowledgement of the states that end the stream, while it is not at its end. -/
theorem AckedPart.ack {s s' : SndVars} (hseq : SeqAt iss F R T s)
    (hring : RingAt N F V s.sndBuf) (hp : 0 ≤ p.ackSeq ∧ p.ackSeq < 4294967296)
    (hs' : s' = ackBehindFin s p)
    (hpart : 0 < (hRxAck s p).2 → (hRxAck s p).1.sndUna ≠ (hRxAck s p).1.sndNxt) :
    AckedPart iss N F R T V s s' := by
  refine ⟨.partly hseq hring hp ?_, ?_⟩
  · rw [hs', ackBehindFin]
    split_ifs with hpos hend
    · exact absurd hend (hpart hpos)
    · rfl
    · rfl
  · rw [hs', ackBehindFin]
    split_ifs with hpos hend
    · exact absurd hend (hpart hpos)
    · exact Or.inl (hpart hpos)
    · rw [hRxAck_of_not_pos hseq.una_range hp hpos]
      exact Or.inr rfl

theorem AckedPart.refl {s : SndVars} (hseq : SeqAt iss F R T s) (hring : RingAt N F V s.sndBuf) :
    AckedPart iss N F R T V s s :=
  ⟨.refl hseq hring, Or.inr rfl⟩

theorem AckedPart.wnd {s s' : SndVars} (h : AckedPart iss N F R T V s s') :
    AckedPart iss N F R T V s (hRxWnd s' p) := by
  refine ⟨h.toAcked.wnd, ?_⟩
  have hnxt : (hRxWnd s' p).sndNxt = s'.sndNxt := by
    unfold hRxWnd
    split <;> rfl
  rw [hRxWnd_sndUna, hnxt]
  exact h.short

theorem rxFinWait1_acked (hseq : SeqAt iss F R T c.tcb.snd) (hring : RingAt N F V c.tcb.snd.sndBuf)
    (hp : p.Parsed) (hs' : (c.rxFinWait1 p).tcb.state.Ending) :
    AckedPart iss N F R T V c.tcb.snd (c.rxFinWait1 p).tcb.snd := by
  have hrefl := AckedPart.refl hseq hring
  revert hs'
  unfold Conn.rxFinWait1
  simp only
  split
  · split
    · exact fun _ => by simpa using hrefl
    · split
      · exact fun _ => by simpa using hrefl
      · split
        · exact fun _ => by simpa using hrefl
        · rw [Conn.finWait1Accept_state, Conn.finWait1Ack_state, Conn.finWait1Accept_snd]
          intro hs'
          refine .wnd (.ack hseq hring ?_ (Conn.finWait1Ack_snd _ _) ?_)
          · rw [hRxSeq_ackSeq]
            exact hp.ackSeq_range
          · intro hpos heq
            simp only [Conn.setRcv_tcb, TCPCB.setRcv_snd] at hs'
            rw [if_pos hpos, if_pos heq.symm] at hs'
            revert hs'
            split <;> decide
  · exact fun _ => by simpa using hrefl
  · exact fun _ => by simpa using hrefl

theorem rxClosing_acked (hseq : SeqAt iss F R T c.tcb.snd) (hring : RingAt N F V c.tcb.snd.sndBuf)
    (hp : p.Parsed) (hs' : (c.rxClosing p).tcb.state.Ending) :
    AckedPart iss N F R T V c.tcb.snd (c.rxClosing p).tcb.snd := by
  have hrefl := AckedPart.refl hseq hring
  revert hs'
  unfold Conn.rxClosing
  split_ifs
  · exact fun _ => by simpa using hrefl
  · exact fun _ => by simpa using hrefl
  · exact fun _ => by simpa using hrefl
  · intro hs'
    refine .wnd (.ack hseq hring hp.ackSeq_range (c.closingAck_snd p) ?_)
    intro hpos heq
    simp only [Conn.updateWnd_tcb, TCPCB.setSnd_state, Conn.closingAck, Conn.setSnd_tcb,
      TCPCB.setSnd_snd, if_pos hpos, if_pos heq] at hs'
    revert hs'
    simp [STATES.Ending]
  · exact fun _ => by simpa using hrefl

theorem rxLastAck_acked (hseq : SeqAt iss F R T c.tcb.snd) (hring : RingAt N F V c.tcb.snd.sndBuf)
    (hp : p.Parsed) (hs' : (c.rxLastAck p).tcb.state.Ending) :
    AckedPart iss N F R T V c.tcb.snd (c.rxLastAck p).tcb.snd := by
  have hrefl := AckedPart.refl hseq hring
  revert hs'
  unfold Conn.rxLastAck
  split_ifs
  · exact fun _ => by simpa using hrefl
  · exact fun _ => by simpa using hrefl
  · intro hs'
    refine .wnd (.ack hseq hring hp.ackSeq_range (c.lastAckAck_snd p) ?_)
    intro hpos heq
    simp only [Conn.updateWnd_tcb, TCPCB.setSnd_state, Conn.lastAckAck, Conn.setSnd_tcb,
      TCPCB.setSnd_snd, Conn.rttSample_tcb, TCPCB.setRto_snd, if_pos hpos, if_pos heq] at hs'
    revert hs'
    simp [STATES.Ending]
  · exact fun _ => by simpa using hrefl

end AckedStates

/-! ### A segment keeps the invariant -/

section Rx

variable {iss : Int} {N F R : Nat} {c : Conn} {packet : TCPParser}

/-- In a streaming state. -/
theorem rx_streaming (packet : TCPParser) {T : Nat} (hs : c.tcb.state.Streaming)
    (hseq : SeqAt iss F R T c.tcb.snd) (hring : RingAt N F R c.tcb.snd.sndBuf) :
    ((c.rx packet).st.tcb.state.Streaming ∨ (c.rx packet).st.tcb.state.Ended) ∧
      Acked iss N F R T R c.tcb.snd (c.rx packet).st.tcb.snd := by
  simp only [STATES.Streaming, List.mem_cons, List.not_mem_nil, or_false] at hs
  rcases hs with hs | hs
  · have hrx : c.rx packet = .ok (c.rxEstab packet.segment) := by simp [Conn.rx, hs]
    rw [hrx, Outcome.ok_st]
    refine ⟨?_, rxEstab_acked hseq hring packet.parsed⟩
    have hstate := c.rxEstab_state packet.segment
    rw [hs] at hstate
    revert hstate
    cases (c.rxEstab packet.segment).tcb.state <;> decide
  · have hrx : c.rx packet = .ok (c.rxCloseWait packet.segment) := by simp [Conn.rx, hs]
    rw [hrx, Outcome.ok_st]
    refine ⟨?_, rxCloseWait_acked hseq hring packet.parsed⟩
    have hstate := c.rxCloseWait_state packet.segment
    rw [hs] at hstate
    revert hstate
    cases (c.rxCloseWait packet.segment).tcb.state <;> decide

/-- Once the FIN was sent. -/
theorem rx_ending (packet : TCPParser) {T V : Nat} (hs : c.tcb.state.Ending)
    (hseq : SeqAt iss F R T c.tcb.snd) (hring : RingAt N F V c.tcb.snd.sndBuf) :
    (c.rx packet).st.tcb.state.Ended ∨ (c.rx packet).st.tcb.state.Ending ∧
      AckedPart iss N F R T V c.tcb.snd (c.rx packet).st.tcb.snd := by
  have hclass : ∀ s : STATES, c.tcb.state.Ending → s ∈ c.tcb.state.successors →
      s.Ended ∨ s.Ending := by
    intro s
    cases c.tcb.state <;> cases s <;> decide
  rcases hclass _ hs (c.rx_next packet) with hended | hend
  · exact Or.inl hended
  · refine Or.inr ⟨hend, ?_⟩
    simp only [STATES.Ending, List.mem_cons, List.not_mem_nil, or_false] at hs
    rcases hs with hs | hs | hs
    · have hrx : c.rx packet = .ok (c.rxFinWait1 packet.segment) := by simp [Conn.rx, hs]
      rw [hrx, Outcome.ok_st] at hend ⊢
      exact rxFinWait1_acked hseq hring packet.parsed hend
    · have hrx : c.rx packet = .ok (c.rxClosing packet.segment) := by simp [Conn.rx, hs]
      rw [hrx, Outcome.ok_st] at hend ⊢
      exact rxClosing_acked hseq hring packet.parsed hend
    · have hrx : c.rx packet = .ok (c.rxLastAck packet.segment) := by simp [Conn.rx, hs]
      rw [hrx, Outcome.ok_st] at hend ⊢
      exact rxLastAck_acked hseq hring packet.parsed hend

theorem Phase.rx (h : Phase iss N F c) (packet : TCPParser)
    (hq : Quiet c.core.out (c.rx packet).st.core.out) :
    Phase iss N (ackedTo F c.tcb.snd (c.rx packet).st.tcb.snd) (c.rx packet).st := by
  cases h with
  | streaming R T state flow ring le sentFin noFin =>
    obtain ⟨hstate | hstate, hack⟩ := rx_streaming packet state flow.seq ring
    · exact .streaming R T hstate (flow.quiet hack.seq hq) hack.ring le (hack.sentFin.trans sentFin)
        (hq.noFin noFin)
    · exact .ended hstate
  | ending R state flow ring le sentFin wanted pos =>
    rcases rx_ending packet state flow.seq ring with hstate | ⟨hstate, hack⟩
    · exact .ended hstate
    · have hF := hack.seq.una_le
      have hmono : F ≤ ackedTo F c.tcb.snd (c.rx packet).st.tcb.snd := Nat.le_add_right _ _
      -- the FIN is not acknowledged, or the state would be another
      have hle : ackedTo F c.tcb.snd (c.rx packet).st.tcb.snd ≤ N := by
        rcases hack.short with hne | heq
        · rw [hack.seq.una_eq, hack.seq.nxt_eq] at hne
          have hlt : ackedTo F c.tcb.snd (c.rx packet).st.tcb.snd ≠ R := fun h => hne (by rw [h])
          omega
        · rw [ackedTo_of_una_eq heq]
          exact le
      refine .ending R hstate (flow.quiet hack.seq hq) hack.ring hle
        (hack.sentFin.trans sentFin) ?_ ?_
      · rw [c.rx_req packet]
        exact wanted
      · omega
  | ended state =>
    have hclass : ∀ s : STATES, c.tcb.state.Ended → s ∈ c.tcb.state.successors → s.Ended := by
      intro s
      cases c.tcb.state <;> cases s <;> decide
    exact .ended (hclass _ state (c.rx_next packet))

theorem Good.rx (h : Good iss N F (.ok c)) (packet : TCPParser) :
    Good iss N (ackedTo F c.tcb.snd (c.rx packet).st.tcb.snd) (c.rx packet) := by
  obtain ⟨-, hsent, hrecv⟩ := (h.phase rfl).state_cases
  have hq := ((rx_emits c packet hsent hrecv).mono fun _ h => h.1).quiet
  refine ⟨h.log.quiet hq, fun hno => hq.noFin (h.noFin ?_), ?_, fun _ => (h.phase rfl).rx packet hq⟩
  · rwa [c.rx_req packet] at hno
  · rw [c.rx_req packet]
    exact h.linger

end Rx

/-! ## Runs -/

/-- A connection, the number of bytes that `tcp_send` put in the send buffer, and the number of
sequence numbers acknowledged after the SYN. -/
structure SendRun where
  o : Outcome
  total : Nat
  acked : Nat

namespace SendRun

/-- The bytes an event puts in the send buffer. -/
def enqueued (c : Conn) : ConnEvent → Nat
  | .usr (.tcpSend data) => if data = [] then 0 else (c.tcb.snd.sndBuf.enqueue data).2
  | _ => 0

def step (t : SendRun) (e : ConnEvent) : SendRun where
  o := t.o.step e
  total := t.total + enqueued t.o.st e
  acked := ackedTo t.acked t.o.st.tcb.snd (t.o.step e).st.tcb.snd

/-- Nothing is sent after the stream was closed. -/
def SendsBeforeClose (t : SendRun) : ConnEvent → Prop
  | .usr (.tcpSend _) => t.o.st.tcb.req.finWanted = false
  | _ => True

/-- The condition on an event: a `SEND` or `RTX` that can send a FIN drains all that is ready, and
at an `RTX` the buffer has not been written over. -/
def Admits (t : SendRun) : ConnEvent → Prop
  | .tx => t.o.fault = none → DrainsAll t.o.st.tcb
  | .rtx => t.o.fault = none → DrainsAll t.o.st.prepareRtx.tcb ∧
      (t.o.st.tcb.state.Streaming ∨ t.o.st.tcb.state.Ending →
        t.total < t.acked + DEFAULT_SEND_BUFF)
  | _ => True

instance (t : SendRun) : (e : ConnEvent) → Decidable (t.SendsBeforeClose e)
  | .usr (.tcpSend _) => inferInstanceAs (Decidable (_ = _))
  | .usr (.tcpRecv _) | .usr .tcpClose | .usr .tcpShutdown | .usr (.tick _) => .isTrue trivial
  | .rx _ | .tx | .rtx => .isTrue trivial

instance (t : SendRun) : (e : ConnEvent) → Decidable (t.Admits e)
  | .tx => inferInstanceAs (Decidable (_ → _))
  | .rtx => inferInstanceAs (Decidable (_ → _ ∧ _))
  | .rx _ | .usr _ => .isTrue trivial

variable {iss : Int} {t : SendRun}

/-- More bytes in the send buffer, before the FIN is wanted. -/
theorem good_enqueue {N F : Nat} {o : Outcome} (h : Good iss N F o) (data : List UInt8)
    (hwant : o.st.tcb.req.finWanted = false) {c' : Conn}
    (hsnd : c'.tcb.snd = { o.st.tcb.snd with sndBuf := (o.st.tcb.snd.sndBuf.enqueue data).1 })
    (hstate : c'.tcb.state = o.st.tcb.state) (hreq : c'.tcb.req = o.st.tcb.req)
    (hout : c'.core.out = o.st.core.out) :
    Good iss (N + (o.st.tcb.snd.sndBuf.enqueue data).2) F ⟨c', o.fault⟩ := by
  have hno := h.noFin hwant
  have hplaced : ∀ e ∈ o.st.core.out,
      Placed iss (N + (o.st.tcb.snd.sndBuf.enqueue data).2) e.2 := fun e he =>
    (h.log.placed e he).mono (hno e he) (Nat.le_add_right _ _)
  refine ⟨⟨?_, fun hbad => absurd (hout ▸ hno) hbad⟩, fun _ => hout ▸ hno, ?_, fun hf => ?_⟩
  · simpa only [hout] using hplaced
  · simpa only [hreq] using h.linger
  · cases h.phase hf with
    | streaming R T state flow ring le sentFin noFin =>
      refine .streaming R T (hstate ▸ state) ⟨?_, ?_, ?_⟩ ?_ (by omega) ?_ (hout ▸ noFin)
      · rw [hsnd]
        exact ⟨flow.seq.una_eq, flow.seq.nxt_eq, flow.seq.max_eq, flow.seq.una_le, flow.seq.nxt_le⟩
      · simpa only [hout] using hplaced
      · intro j hj
        simp only [hout]
        exact flow.covered j (by omega)
      · rw [hsnd]
        exact ring.enqueue data
      · rw [hsnd]
        exact sentFin
    | ending R state flow ring le sentFin wanted pos =>
      rw [hwant] at wanted
      cases wanted
    | ended state => exact .ended (hstate ▸ state)

/-- A request that does not touch the send side. -/
theorem good_request {N F : Nat} {o : Outcome} (h : Good iss N F o) {c' : Conn}
    (hsnd : c'.tcb.snd = o.st.tcb.snd) (hstate : c'.tcb.state = o.st.tcb.state)
    (hwant : o.st.tcb.req.finWanted = true → c'.tcb.req.finWanted = true)
    (hlinger : c'.tcb.req.soLinger = o.st.tcb.req.soLinger)
    (hout : c'.core.out = o.st.core.out) : Good iss N F ⟨c', o.fault⟩ := by
  refine ⟨hout ▸ h.log, fun hno => hout ▸ h.noFin ?_, by simpa only [hlinger] using h.linger,
    fun hf => ?_⟩
  · cases hw : o.st.tcb.req.finWanted with
    | false => rfl
    | true =>
      rw [hwant hw] at hno
      cases hno
  · cases h.phase hf with
    | streaming R T state flow ring le sentFin noFin =>
      exact .streaming R T (hstate ▸ state) (flow.congr hsnd hout) (hsnd ▸ ring) le (hsnd ▸ sentFin)
        (hout ▸ noFin)
    | ending R state flow ring le sentFin wanted pos =>
      exact .ending R (hstate ▸ state) (flow.congr hsnd hout) (hsnd ▸ ring) le (hsnd ▸ sentFin)
        (hwant wanted) pos
    | ended state => exact .ended (hstate ▸ state)

/-- A request of the application keeps the invariant. -/
theorem good_usr (h : Good iss t.total t.acked t.o) (q : UserRequest)
    (hsend : t.SendsBeforeClose (.usr q)) :
    Good iss (t.step (.usr q)).total (t.step (.usr q)).acked (t.step (.usr q)).o := by
  have hacked : (t.step (.usr q)).acked = t.acked := by
    refine ackedTo_of_una_eq ?_
    cases q with
    | tcpSend data =>
      simp only [Outcome.step, UserRequest.apply, Conn.tcpSend]
      split <;> rfl
    | tcpRecv n =>
      simp only [Outcome.step, UserRequest.apply, Conn.tcpRecv]
      split <;> rfl
    | _ => rfl
  rw [hacked]
  cases q with
  | tcpSend data =>
    simp only [SendRun.step, enqueued, Outcome.step, UserRequest.apply, Conn.tcpSend]
    split
    · exact h
    · exact good_enqueue h data hsend rfl rfl rfl rfl
  | tcpRecv n =>
    simp only [SendRun.step, enqueued, Outcome.step, UserRequest.apply, Conn.tcpRecv]
    split
    · exact h
    · exact good_request h rfl rfl id rfl rfl
  | tcpClose => exact good_request h rfl rfl (fun _ => Bool.or_true _) rfl rfl
  | tcpShutdown => exact good_request h rfl rfl (fun _ => Bool.true_or _) rfl rfl
  | tick ns => exact good_request h rfl rfl id rfl rfl

/-- **One event** keeps the invariant. -/
theorem good_step (h : Good iss t.total t.acked t.o) {e : ConnEvent}
    (hok : t.SendsBeforeClose e ∧ t.Admits e) :
    Good iss (t.step e).total (t.step e).acked (t.step e).o := by
  have hdead : ∀ {f e}, t.o.fault = some f → (∀ q, e ≠ ConnEvent.usr q) →
      Good iss (t.step e).total (t.step e).acked (t.step e).o := by
    intro f e hf hne
    have hstep : t.o.step e = t.o := by
      cases e with
      | usr q => exact absurd rfl (hne q)
      | _ => simp only [Outcome.step, hf]
    have hzero : enqueued t.o.st e = 0 := by
      cases e with
      | usr q => exact absurd rfl (hne q)
      | _ => rfl
    simp only [SendRun.step, hstep, hzero, Nat.add_zero, ackedTo_of_una_eq]
    exact h
  cases hf : t.o.fault with
  | some f =>
    cases e with
    | usr q => exact good_usr h q hok.1
    | _ => exact hdead hf (by simp)
  | none =>
    cases e with
    | usr q => exact good_usr h q hok.1
    | rx packet =>
      have hstep : t.o.step (.rx packet) = t.o.st.rx packet := by
        simp only [Outcome.step, hf, ConnEvent.handler]
      simp only [SendRun.step, hstep]
      rw [Outcome.eq_ok hf] at h
      exact h.rx packet
    | tx =>
      have hstep : t.o.step .tx = t.o.st.tx := by simp only [Outcome.step, hf, ConnEvent.handler]
      simp only [SendRun.step, hstep]
      rw [ackedTo_of_una_eq t.o.st.tx_sndUna]
      rw [Outcome.eq_ok hf] at h
      exact h.tx (hok.2 hf)
    | rtx =>
      have hstep : t.o.step .rtx = t.o.st.rtx := by simp only [Outcome.step, hf, ConnEvent.handler]
      simp only [SendRun.step, hstep]
      have huna : t.o.st.rtx.st.tcb.snd.sndUna = t.o.st.tcb.snd.sndUna :=
        t.o.st.prepareRtx.tx_sndUna
      rw [ackedTo_of_una_eq huna]
      rw [Outcome.eq_ok hf] at h
      exact (h.prepareRtx (hok.2 hf).2).tx (hok.2 hf).1

end SendRun

/-- A connection that has just been established: the SYN is acknowledged, nothing was sent after it,
and nothing is in the send buffer. -/
structure FreshEstab (c : Conn) : Prop where
  state : c.tcb.state = .estab
  una_eq : c.tcb.snd.sndUna = (c.tcb.snd.iss + 1) % 4294967296
  nxt_eq : c.tcb.snd.sndNxt = c.tcb.snd.sndUna
  max_eq : c.tcb.snd.sndMax = c.tcb.snd.sndUna
  sentFin : c.tcb.snd.sentFin = false
  size_eq : c.tcb.snd.sndBuf.size = DEFAULT_SEND_BUFF
  r_eq : c.tcb.snd.sndBuf.r = 0
  vr_eq : c.tcb.snd.sndBuf.vr = 0
  vw_eq : c.tcb.snd.sndBuf.vw = 0
  out_eq : ∀ e ∈ c.core.out, e.2.data = [] ∧ e.2.fin = false

theorem FreshEstab.good {c : Conn} (h : FreshEstab c)
    (hlinger : c.tcb.req.soLinger ≠ some SO_LINGER_ON) : Good c.tcb.snd.iss 0 0 (.ok c) := by
  have hplaced : ∀ e ∈ c.core.out, Placed c.tcb.snd.iss 0 e.2 := fun e he => Or.inl (h.out_eq e he)
  have hno : NoFin c.core.out := fun e he => (h.out_eq e he).2
  have hzero : c.tcb.snd.sndUna = seqOf c.tcb.snd.iss 0 := by simp [seqOf, h.una_eq]
  refine ⟨⟨hplaced, fun hbad => absurd hno hbad⟩, fun _ => hno, hlinger, fun _ => ?_⟩
  refine .streaming 0 0 (by rw [Outcome.ok_st, h.state]; decide)
    ⟨⟨hzero, h.nxt_eq.trans hzero, h.max_eq.trans hzero, le_rfl, le_rfl⟩, hplaced, by simp⟩
    ⟨h.size_eq, ?_, ?_, ?_, le_rfl, by decide⟩ le_rfl h.sentFin hno
  · simpa using h.r_eq
  · simpa using h.vr_eq
  · simpa using h.vw_eq

/-- **The FIN comes after the whole stream.** In every run from a connection that has just been
established, with no `SO_LINGER` and no `tcp_send` once the end of the stream is wanted, in which
every `SEND` and `RTX` event meets `Admits`: in every state reached, each segment sent with data or
a FIN stands at its own place in the stream of the bytes enqueued, the FIN after the last of them,
and with a FIN sent every byte was sent. -/
theorem fin_after_stream (c : Conn) (hfresh : FreshEstab c)
    (hlinger : c.tcb.req.soLinger ≠ some SO_LINGER_ON) (es : List ConnEvent)
    (hsend : Guarded SendRun.step SendRun.SendsBeforeClose ⟨.ok c, 0, 0⟩ es)
    (hadm : Guarded SendRun.step SendRun.Admits ⟨.ok c, 0, 0⟩ es) (pre : List ConnEvent)
    (hpre : pre <+: es) :
    let t := run SendRun.step ⟨.ok c, 0, 0⟩ pre
    FinLast c.tcb.snd.iss t.total t.o.st.core.out := by
  intro t
  have hboth : Guarded SendRun.step (fun t e => t.SendsBeforeClose e ∧ t.Admits e) ⟨.ok c, 0, 0⟩
      pre := (hsend.of_prefix hpre).and (hadm.of_prefix hpre)
  exact (run_inv (I := fun t : SendRun => Good c.tcb.snd.iss t.total t.acked t.o)
    (fun t e h hok => SendRun.good_step h hok) (hfresh.good hlinger) hboth).log

instance (c : Conn) : Decidable (FreshEstab c) :=
  decidable_of_iff (c.tcb.state = .estab ∧ c.tcb.snd.sndUna = (c.tcb.snd.iss + 1) % 4294967296 ∧
      c.tcb.snd.sndNxt = c.tcb.snd.sndUna ∧ c.tcb.snd.sndMax = c.tcb.snd.sndUna ∧
      c.tcb.snd.sentFin = false ∧ c.tcb.snd.sndBuf.size = DEFAULT_SEND_BUFF ∧
      c.tcb.snd.sndBuf.r = 0 ∧ c.tcb.snd.sndBuf.vr = 0 ∧ c.tcb.snd.sndBuf.vw = 0 ∧
      ∀ e ∈ c.core.out, e.2.data = [] ∧ e.2.fin = false)
    ⟨fun ⟨h₁, h₂, h₃, h₄, h₅, h₆, h₇, h₈, h₉, h₁₀⟩ => ⟨h₁, h₂, h₃, h₄, h₅, h₆, h₇, h₈, h₉, h₁₀⟩,
      fun h => ⟨h.state, h.una_eq, h.nxt_eq, h.max_eq, h.sentFin, h.size_eq, h.r_eq,
        h.vr_eq, h.vw_eq, h.out_eq⟩⟩

/-- Three bytes, a close, and a retransmission of both. -/
theorem fin_after_stream_three :
    let t := run SendRun.step ⟨.ok sampleEstab.st, 0, 0⟩
      [.usr (.tcpSend [1, 2, 3]), .tx, .usr .tcpClose, .tx, .rtx]
    FinLast sampleEstab.st.tcb.snd.iss t.total t.o.st.core.out :=
  fin_after_stream sampleEstab.st (by decide +kernel) (by decide +kernel)
    [.usr (.tcpSend [1, 2, 3]), .tx, .usr .tcpClose, .tx, .rtx] (by decide +kernel)
    (by decide +kernel) _ (List.prefix_refl _)

/-- Two bytes and a close, with a window of one byte: the FIN takes the place of the second byte. -/
theorem fin_overtakes_stream :
    let c := (run Outcome.step (.connected 0 0 ⟨1, 1234, 2, 80⟩ none 1000 .idle)
      [.rx (.sample 100 1001 0x12 1 [])]).st
    let es := [.usr (.tcpSend [1, 2]), .usr .tcpClose, .tx]
    let t := run SendRun.step ⟨.ok c, 0, 0⟩ es
    FreshEstab c ∧ c.tcb.req.soLinger ≠ some SO_LINGER_ON ∧
      Guarded SendRun.step SendRun.SendsBeforeClose ⟨.ok c, 0, 0⟩ es ∧ t.total = 2 ∧
      ∃ e ∈ t.o.st.core.out, e.2.fin = true ∧
        (e.2.seq + e.2.data.length) % 4294967296 ≠ (c.tcb.snd.iss + 1 + t.total) % 4294967296 := by
  decide +kernel

end Tipy.Tcp
