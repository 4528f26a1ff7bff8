import Tipy.Tcp.PeerFin

/-!
# Translation of the sequence space

The initial sequence numbers are random, so nothing may depend on where in the sequence space a
connection runs. `shift j k` moves a connection: by `j` what counts the bytes of the peer, and by
`k` what counts our own. From `ESTAB` on every handler commutes with it. The comparisons of
`tcp_seq.py` see only differences, except that some test two numbers for equality first; there both
have to lie in the sequence space, which every control block keeps (`TCPCB.InSpace`).
-/

namespace Tipy.Tcp

open Tipy.Buffer Tipy.Components

/-! ## Numbers -/

/-- A sequence number moved by `k`. -/
def shiftSeq (k x : Int) : Int := (x + k) % 4294967296

/-- A number of the sequence space. -/
def InSpace (x : Int) : Prop := 0 ≤ x ∧ x < 4294967296

instance (x : Int) : Decidable (InSpace x) := inferInstanceAs (Decidable (_ ∧ _))

theorem inSpace_emod (x : Int) : InSpace (x % 4294967296) :=
  ⟨Int.emod_nonneg _ (by decide), Int.emod_lt_of_pos _ (by decide)⟩

section Compare

variable (k : Int) {a b : Int}

/-- An offset may be added before the move or after it. -/
theorem shiftSeq_add (x n : Int) :
    (shiftSeq k x + n) % 4294967296 = shiftSeq k ((x + n) % 4294967296) := by
  unfold shiftSeq
  omega

/-- The circular comparisons see only the difference of their arguments. -/
@[simp] theorem seqLt_shiftSeq : seqLt (shiftSeq k a) (shiftSeq k b) ↔ seqLt a b := by
  unfold seqLt shiftSeq
  omega

@[simp] theorem seqDiff_shiftSeq : seqDiff (shiftSeq k a) (shiftSeq k b) = seqDiff a b := by
  unfold seqDiff shiftSeq
  omega

/-- Two masked numbers that meet after the move were one before it. -/
theorem shiftSeq_inj (ha : InSpace a) (hb : InSpace b) : shiftSeq k a = shiftSeq k b ↔ a = b := by
  unfold InSpace at ha hb
  unfold shiftSeq
  omega

/-- Where a comparison also asks for equality, both numbers have to be masked. -/
theorem seqLeq_shiftSeq (ha : InSpace a) (hb : InSpace b) :
    seqLeq (shiftSeq k a) (shiftSeq k b) ↔ seqLeq a b := by
  rw [seqLeq, shiftSeq_inj k ha hb, seqLt_shiftSeq, seqLeq]

theorem seqGt_shiftSeq (ha : InSpace a) (hb : InSpace b) :
    seqGt (shiftSeq k a) (shiftSeq k b) ↔ seqGt a b := by
  unfold InSpace at ha hb
  unfold seqGt shiftSeq
  omega

theorem seqGeq_shiftSeq (ha : InSpace a) (hb : InSpace b) :
    seqGeq (shiftSeq k a) (shiftSeq k b) ↔ seqGeq a b := by
  rw [seqGeq, shiftSeq_inj k ha hb, seqGt_shiftSeq k ha hb, seqGeq]

/-- `seqGeq` sees only the difference, so it also takes a number that is not masked. -/
theorem seqGeq_iff (a b : Int) : seqGeq a b ↔ (a - b) % 4294967296 < 0x80000000 := by
  unfold seqGeq seqGt
  omega

end Compare

/-! ## Segments and control blocks -/

/-- A segment of the peer, moved. -/
def Segment.shift (j k : Int) (p : Segment) : Segment :=
  { p with seq := shiftSeq j p.seq, ackSeq := shiftSeq k p.ackSeq }

/-- A segment of ours, moved. Without the ACK flag the acknowledgement number means nothing. -/
def TxTcp.shift (j k : Int) (s : TxTcp) : TxTcp :=
  { s with seq := shiftSeq k s.seq, ackSeq := if s.ack then shiftSeq j s.ackSeq else s.ackSeq }

def RcvVars.shift (j : Int) (r : RcvVars) : RcvVars :=
  { r with irs := shiftSeq j r.irs, rcvNxt := shiftSeq j r.rcvNxt, rcvAdv := shiftSeq j r.rcvAdv }

def SndVars.shift (j k : Int) (s : SndVars) : SndVars :=
  { s with
    iss := shiftSeq k s.iss
    sndUna := shiftSeq k s.sndUna
    sndNxt := shiftSeq k s.sndNxt
    sndMax := shiftSeq k s.sndMax
    sndWl1 := shiftSeq j s.sndWl1
    sndWl2 := shiftSeq k s.sndWl2 }

def TCPCB.shift (j k : Int) (t : TCPCB) : TCPCB :=
  { t with rcv := t.rcv.shift j, snd := t.snd.shift j k }

/-- A connection moved: its control block, and the segments that were sent for it. -/
def Conn.shift (j k : Int) (c : Conn) : Conn :=
  ⟨c.tcb.shift j k, { c.core with
    out := c.core.out.map fun e => if e.1 = c.tcb.socketId then (e.1, e.2.shift j k) else e }⟩

def Outcome.shift (j k : Int) (o : Outcome) : Outcome := ⟨o.st.shift j k, o.fault⟩

/-! ### Numbers in the sequence space -/

structure Segment.InSpace (p : Segment) : Prop where
  seq : Tcp.InSpace p.seq
  ackSeq : Tcp.InSpace p.ackSeq

structure RcvVars.InSpace (r : RcvVars) : Prop where
  rcvNxt : Tcp.InSpace r.rcvNxt
  rcvAdv : Tcp.InSpace r.rcvAdv

structure SndVars.InSpace (s : SndVars) : Prop where
  sndUna : Tcp.InSpace s.sndUna
  sndNxt : Tcp.InSpace s.sndNxt
  sndMax : Tcp.InSpace s.sndMax
  sndWl1 : Tcp.InSpace s.sndWl1
  sndWl2 : Tcp.InSpace s.sndWl2

/-- The sequence variables that the handlers compare are masked. -/
structure TCPCB.InSpace (t : TCPCB) : Prop where
  rcv : t.rcv.InSpace
  snd : t.snd.InSpace

/-- It speaks of the two sides only. -/
theorem TCPCB.InSpace.congr {t t' : TCPCB} (h : t.InSpace) (hrcv : t'.rcv = t.rcv)
    (hsnd : t'.snd = t.snd) : t'.InSpace :=
  ⟨hrcv ▸ h.rcv, hsnd ▸ h.snd⟩

/-- What is parsed out of a header is masked. -/
theorem TCPParser.segment_inSpace (p : TCPParser) : p.segment.InSpace :=
  ⟨p.parsed.seq_range, p.parsed.ackSeq_range⟩

/-! ## The receive side -/

section Rcv

variable (j k : Int) {r : RcvVars} {p : Segment}

/-- The last sequence number of a moved segment; it is not masked, so it may be off by `2 ^ 32`. -/
theorem lastSeq_shift (p : Segment) :
    ∃ n : Int, lastSeq (p.shift j k) = lastSeq p + j + 4294967296 * n := by
  refine ⟨-((p.seq + j) / 4294967296), ?_⟩
  have hseq : lastSeq (p.shift j k) = lastSeq p - p.seq + (p.seq + j) % 4294967296 := by
    change p.syn.toInt + p.fin.toInt + (p.seq + j) % 4294967296 + p.dlen -
      (if p.syn = true ∨ p.fin = true ∨ p.dlen ≠ 0 then 1 else 0) = _
    unfold lastSeq
    omega
  omega

/-- How much of a segment fits the window does not depend on where it stands. -/
theorem acceptedLen_shift : acceptedLen (r.shift j) (p.shift j k) = acceptedLen r p := by
  obtain ⟨n, hn⟩ := lastSeq_shift j k p
  simp only [acceptedLen, RcvVars.shift, seqDiff_shiftSeq, hn]
  congr 1
  simp only [seqDiff, shiftSeq]
  omega

/-- Against the last number of a segment the comparison sees only the difference, off or not. -/
theorem seqGeq_lastSeq_shift (x : Int) :
    seqGeq (lastSeq (p.shift j k)) (shiftSeq j x) ↔ seqGeq (lastSeq p) x := by
  obtain ⟨n, hn⟩ := lastSeq_shift j k p
  rw [seqGeq_iff, seqGeq_iff, hn]
  simp only [shiftSeq]
  omega

/-- The result of the sequence check, moved. -/
def SeqResult.shift (x : SeqResult) : SeqResult := ⟨x.verdict, x.rcv.shift j, x.seg.shift j k⟩

/-- The sequence check at an open window, trimmed on both sides of it. -/
theorem hRxSeqNormal_shift (hr : r.InSpace) (hp : p.InSpace) :
    hRxSeqNormal (r.shift j) (p.shift j k) = (hRxSeqNormal r p).shift j k := by
  have hin : seqLeq (p.shift j k).seq (r.shift j).rcvNxt ∧
      seqGeq (lastSeq (p.shift j k)) (r.shift j).rcvNxt ↔
      seqLeq p.seq r.rcvNxt ∧ seqGeq (lastSeq p) r.rcvNxt :=
    and_congr (seqLeq_shiftSeq j hp.seq hr.rcvNxt) (seqGeq_lastSeq_shift j k _)
  have hooo : seqGt (p.shift j k).seq (r.shift j).rcvNxt ∧
      seqLt (p.shift j k).seq (r.shift j).rcvAdv ↔
      seqGt p.seq r.rcvNxt ∧ seqLt p.seq r.rcvAdv :=
    and_congr (seqGt_shiftSeq j hp.seq hr.rcvNxt) (seqLt_shiftSeq j)
  unfold hRxSeqNormal
  simp only [hin, hooo, acceptedLen_shift]
  split
  · have hdrop : seqDiff (r.shift j).rcvNxt (p.shift j k).seq = seqDiff r.rcvNxt p.seq :=
      seqDiff_shiftSeq j
    have hfin : seqGeq (lastSeq (p.shift j k)) (r.shift j).rcvAdv ↔ seqGeq (lastSeq p) r.rcvAdv :=
      seqGeq_lastSeq_shift j k _
    simp only [hdrop, hfin]
    simp only [SeqResult.shift, RcvVars.shift, Segment.shift, shiftSeq_add]
  · split <;> rfl

/-- **The sequence check**, with its verdict, the trimmed segment and the new receive side. -/
theorem hRxSeq_shift (hr : r.InSpace) (hp : p.InSpace) :
    hRxSeq (r.shift j) (p.shift j k) = (hRxSeq r p).shift j k := by
  have hzwnd : hRxSeqZlenZwnd (r.shift j) (p.shift j k) = (hRxSeqZlenZwnd r p).shift j k := by
    simp only [hRxSeqZlenZwnd, SeqResult.shift, RcvVars.shift, Segment.shift,
      shiftSeq_inj j hp.seq hr.rcvNxt]
  have hzlen : hRxSeqZlen (r.shift j) (p.shift j k) = (hRxSeqZlen r p).shift j k := by
    simp only [hRxSeqZlen, SeqResult.shift, RcvVars.shift, Segment.shift,
      seqLeq_shiftSeq j hr.rcvNxt hp.seq, seqLt_shiftSeq]
  unfold hRxSeq
  rw [hzwnd, hzlen, hRxSeqNormal_shift j k hr hp]
  simp only [apply_ite (SeqResult.shift j k)]
  rfl

theorem hRxSeqCheck_shift (hr : r.InSpace) (hp : p.InSpace) :
    hRxSeqCheck (r.shift j) (p.shift j k) ↔ hRxSeqCheck r p :=
  and_congr (seqGeq_shiftSeq j hp.seq hr.rcvNxt) (seqLt_shiftSeq j)

/-- The window is recomputed from `rcv_adv` and the room in the buffer. -/
theorem computeRcvWnd_shift (hr : r.InSpace) :
    computeRcvWnd (r.shift j) = (computeRcvWnd r).shift j := by
  have hnew : ((r.shift j).rcvBuf.freeSpace + (r.shift j).rcvNxt) % 4294967296 =
      shiftSeq j ((r.rcvBuf.freeSpace + r.rcvNxt) % 4294967296) := by
    simp only [RcvVars.shift, shiftSeq]
    omega
  simp only [computeRcvWnd, hnew]
  simp only [RcvVars.shift, seqGt_shiftSeq j (inSpace_emod _) hr.rcvAdv, apply_ite (shiftSeq j)]

/-- The bytes that are stored and the window they leave. -/
theorem appendRcvData_shift (hr : r.InSpace) :
    appendRcvData (r.shift j) (p.shift j k) = (appendRcvData r p).shift j := by
  simp only [appendRcvData, computeRcvWnd_shift j hr, apply_ite (RcvVars.shift j)]
  rfl

/-! Masked numbers stay masked. -/

theorem RcvVars.InSpace.hRxSeq (hr : r.InSpace) (hp : p.InSpace) :
    (hRxSeq r p).rcv.InSpace ∧ (hRxSeq r p).seg.InSpace := by
  unfold Tcp.hRxSeq hRxSeqNormal
  split_ifs
  · exact ⟨hr, hp⟩
  · exact ⟨hr, hp⟩
  · exact ⟨hr, hp⟩
  · exact ⟨⟨inSpace_emod _, hr.rcvAdv⟩, ⟨inSpace_emod _, hp.ackSeq⟩⟩
  · exact ⟨hr, hp⟩
  · exact ⟨hr, hp⟩

theorem RcvVars.InSpace.computeRcvWnd (hr : r.InSpace) : (computeRcvWnd r).InSpace := by
  refine ⟨hr.rcvNxt, ?_⟩
  simp only [Tcp.computeRcvWnd]
  split
  · exact inSpace_emod _
  · exact hr.rcvAdv

end Rcv

/-! ## The send side -/

section Snd

variable (j k : Int) {s : SndVars} {p : Segment}

/-- **The acknowledgement**: how much it covers, and `snd_una` after it. -/
theorem hRxAck_shift (hs : s.InSpace) (hp : p.InSpace) :
    hRxAck (s.shift j k) (p.shift j k) = ((hRxAck s p).1.shift j k, (hRxAck s p).2) := by
  unfold hRxAck
  simp only [SndVars.shift, Segment.shift, seqLeq_shiftSeq k hp.ackSeq hs.sndUna,
    seqGt_shiftSeq k hp.ackSeq hs.sndNxt, seqDiff_shiftSeq]
  split <;> rfl

/-- The window of the peer is taken over for a newer segment. -/
theorem hRxWnd_shift (hs : s.InSpace) (hp : p.InSpace) :
    hRxWnd (s.shift j k) (p.shift j k) = (hRxWnd s p).shift j k := by
  unfold hRxWnd
  simp only [SndVars.shift, Segment.shift, seqLt_shiftSeq, shiftSeq_inj j hp.seq hs.sndWl1]
  split <;> rfl

theorem SndVars.InSpace.hRxAck (hs : s.InSpace) (hp : p.InSpace) : (hRxAck s p).1.InSpace := by
  unfold Tcp.hRxAck
  split
  · exact hs
  · exact ⟨hp.ackSeq, hs.sndNxt, hs.sndMax, hs.sndWl1, hs.sndWl2⟩

theorem SndVars.InSpace.hRxWnd (hs : s.InSpace) (hp : p.InSpace) : (hRxWnd s p).InSpace := by
  unfold Tcp.hRxWnd
  split
  · exact ⟨hs.sndUna, hs.sndNxt, hs.sndMax, hp.seq, hp.ackSeq⟩
  · exact hs

theorem SndVars.InSpace.freeSndBuf (hs : s.InSpace) (n : Int) : (freeSndBuf s n).InSpace :=
  ⟨hs.sndUna, hs.sndNxt, hs.sndMax, hs.sndWl1, hs.sndWl2⟩

theorem SndVars.InSpace.ackBehindFin (hs : s.InSpace) (hp : p.InSpace) :
    (ackBehindFin s p).InSpace := by
  unfold Tcp.ackBehindFin
  split_ifs
  · exact (hs.hRxAck hp).freeSndBuf _
  · exact (hs.hRxAck hp).freeSndBuf _
  · exact hs.hRxAck hp

end Snd

/-! ## The helpers of the state machine -/

namespace Conn

variable (j k : Int) (c : Conn) {p : Segment}

/-- An update of one side is moved with the numbers that it sets. -/
theorem shift_setRcv (r : RcvVars) : (c.shift j k).setRcv (r.shift j) = (c.setRcv r).shift j k :=
  rfl

theorem shift_setSnd (s : SndVars) : (c.shift j k).setSnd (s.shift j k) = (c.setSnd s).shift j k :=
  rfl

@[simp] theorem shift_setRto (x : RtoVars) : (c.shift j k).setRto x = (c.setRto x).shift j k := rfl

@[simp] theorem shift_setAckNow (b : Bool) :
    (c.shift j k).setAckNow b = (c.setAckNow b).shift j k := rfl

@[simp] theorem shift_changeState (new : STATES) :
    (c.shift j k).changeState new = (c.changeState new).shift j k := rfl

theorem shift_nextState (next : Option STATES) :
    next.elim (c.shift j k) (c.shift j k).changeState = (next.elim c c.changeState).shift j k := by
  cases next <;> rfl

@[simp] theorem shift_notify (n : Notice) : (c.shift j k).notify n = (c.notify n).shift j k := rfl

@[simp] theorem shift_scheduleEvent (type : TCPEventType) :
    (c.shift j k).scheduleEvent type = (c.scheduleEvent type).shift j k := rfl

@[simp] theorem shift_signalRst : (c.shift j k).signalRst = c.signalRst.shift j k := rfl

/-- The timers know the connection and its timeout, not its numbers. -/
@[simp] theorem shift_startRtxTimer : (c.shift j k).startRtxTimer = c.startRtxTimer.shift j k := by
  unfold startRtxTimer
  rw [apply_ite (shift j k)]
  rfl

@[simp] theorem shift_removeTimer (id : Option Nat) :
    (c.shift j k).removeTimer id = (c.removeTimer id).shift j k := by
  cases id <;> rfl

@[simp] theorem shift_restartRtxTimer :
    (c.shift j k).restartRtxTimer = c.restartRtxTimer.shift j k := by
  unfold restartRtxTimer
  rw [show (c.shift j k).tcb.rtxTimer = c.tcb.rtxTimer from rfl, shift_removeTimer]
  rfl

@[simp] theorem shift_stopRtxTimer : (c.shift j k).stopRtxTimer = c.stopRtxTimer.shift j k := by
  unfold stopRtxTimer
  rw [show (c.shift j k).tcb.rtxTimer = c.tcb.rtxTimer from rfl, shift_removeTimer]
  rfl

@[simp] theorem shift_startTimeWaitTimer :
    (c.shift j k).startTimeWaitTimer = c.startTimeWaitTimer.shift j k := rfl

/-- Both timers are stopped alike. -/
@[simp] theorem shift_stopAllTimers : (c.shift j k).stopAllTimers = c.stopAllTimers.shift j k := by
  unfold stopAllTimers stopTimeWaitTimer
  rw [shift_stopRtxTimer, show (c.stopRtxTimer.shift j k).tcb.timeWaitTimer =
    c.stopRtxTimer.tcb.timeWaitTimer from rfl, shift_removeTimer]
  rfl

/-- A probe holds a time. -/
@[simp] theorem shift_rttProbe : (c.shift j k).rttProbe = c.rttProbe.shift j k := by
  unfold rttProbe
  rw [apply_ite (shift j k)]
  rfl

@[simp] theorem shift_rttSample : (c.shift j k).rttSample = c.rttSample.shift j k := by
  unfold rttSample
  rw [show (c.shift j k).tcb.rto = c.tcb.rto from rfl]
  cases c.tcb.rto.rtt <;> rfl

/-- A segment is moved when it is logged. -/
theorem shift_txTcp (seg : TxTcp) :
    (c.shift j k).txTcp (seg.shift j k) = (c.txTcp seg).shift j k := by
  simp only [txTcp, shift, Core.txTcp, TCPCB.shift, List.map_append, List.map_cons, List.map_nil,
    if_true]
  rfl

@[simp] theorem shift_sendAck : (c.shift j k).sendAck = c.sendAck.shift j k :=
  c.shift_txTcp j k { c.header with ack := true }

@[simp] theorem shift_sendRst : (c.shift j k).sendRst = c.sendRst.shift j k :=
  c.shift_txTcp j k { c.header with ack := true, rst := true, window := 0 }

/-- The tokens of the challenge ACKs know the clock only. -/
@[simp] theorem shift_sendChallengeAck :
    (c.shift j k).sendChallengeAck = c.sendChallengeAck.shift j k := by
  unfold sendChallengeAck
  simp only [apply_ite (shift j k), ← shift_txTcp]
  rfl

/-- The reset takes its number from the acknowledgement in the segment, or from `snd_nxt`. -/
@[simp] theorem shift_dropWithReset :
    (c.shift j k).dropWithReset (p.shift j k) = (c.dropWithReset p).shift j k := by
  unfold dropWithReset
  simp only [apply_ite (shift j k), ← shift_txTcp]
  rfl

@[simp] theorem shift_bumpNxt : (c.shift j k).bumpNxt = c.bumpNxt.shift j k := by
  have hnxt := shiftSeq_add k c.tcb.snd.sndNxt 1
  simp only [bumpNxt, shift, TCPCB.shift, SndVars.shift, hnxt]
  rfl

/-- A reset of the peer ends the connection wherever it stands. -/
@[simp] theorem shift_hRxRst (errno : Errno) :
    (c.shift j k).hRxRst errno = (c.hRxRst errno).shift j k := by
  unfold hRxRst
  rw [show (c.shift j k).onCore (·.setSoError (c.shift j k).tcb.so errno) =
    (c.onCore (·.setSoError c.tcb.so errno)).shift j k from rfl, shift_stopAllTimers]
  rfl

@[simp] theorem shift_hActiveCloseTx :
    (c.shift j k).hActiveCloseTx = c.hActiveCloseTx.shift j k := by
  unfold hActiveCloseTx
  rw [shift_stopAllTimers, shift_sendRst]
  rfl

@[simp] theorem shift_hActiveCloseRx :
    (c.shift j k).hActiveCloseRx (p.shift j k) = (c.hActiveCloseRx p).shift j k := by
  unfold hActiveCloseRx
  rw [shift_stopAllTimers, shift_dropWithReset]
  rfl

@[simp] theorem shift_activeCloseTx (closeRequested : Bool) :
    (c.shift j k).ActiveCloseTx closeRequested ↔ c.ActiveCloseTx closeRequested := Iff.rfl

@[simp] theorem shift_activeCloseRx :
    (c.shift j k).ActiveCloseRx (p.shift j k) ↔ c.ActiveCloseRx p := Iff.rfl

/-! The three parts of `_send_fin`. -/

theorem shift_sendFinSegment :
    (c.shift j k).txTcp { (c.shift j k).header with ack := true, fin := true } =
      (c.txTcp { c.header with ack := true, fin := true }).shift j k :=
  c.shift_txTcp j k { c.header with ack := true, fin := true }

theorem shift_markFin :
    (c.shift j k).setSnd { (c.shift j k).tcb.snd with sentFin := true } =
      (c.setSnd { c.tcb.snd with sentFin := true }).shift j k := rfl

theorem shift_setMax :
    (c.shift j k).setSnd { (c.shift j k).tcb.snd with sndMax := (c.shift j k).tcb.snd.sndNxt } =
      (c.setSnd { c.tcb.snd with sndMax := c.tcb.snd.sndNxt }).shift j k := rfl

@[simp] theorem shift_freeSnd (n : Int) : (c.shift j k).freeSnd n = (c.freeSnd n).shift j k := rfl

section InSpace

variable {c} (h : c.tcb.InSpace) (hp : p.InSpace)

include h

theorem shift_computeWnd : (c.shift j k).computeWnd = c.computeWnd.shift j k := by
  unfold computeWnd
  rw [← shift_setRcv, ← computeRcvWnd_shift j h.rcv]
  rfl

theorem shift_appendData :
    (c.shift j k).appendData (p.shift j k) = (c.appendData p).shift j k := by
  have hr : (c.shift j k).tcb.rcv = c.tcb.rcv.shift j := rfl
  unfold appendData
  rw [hr, appendRcvData_shift j k h.rcv, computeRcvWnd_shift j h.rcv, apply_ite (shift j k)]
  rfl

theorem shift_ackTimer : (c.shift j k).ackTimer = c.ackTimer.shift j k := by
  have heq : (c.shift j k).tcb.snd.sndNxt = (c.shift j k).tcb.snd.sndUna ↔
      c.tcb.snd.sndNxt = c.tcb.snd.sndUna := shiftSeq_inj k h.snd.sndNxt h.snd.sndUna
  unfold ackTimer
  simp only [heq, apply_ite (shift j k), shift_stopRtxTimer, shift_restartRtxTimer]

/-- **`_send_fin`**, the first time and as a retransmission. -/
theorem shift_sendFin (next : Option STATES) :
    (c.shift j k).sendFin next = (c.sendFin next).shift j k := by
  have hgt : seqGt (c.shift j k).tcb.snd.sndMax (c.shift j k).tcb.snd.sndNxt ↔
      seqGt c.tcb.snd.sndMax c.tcb.snd.sndNxt := seqGt_shiftSeq k h.snd.sndMax h.snd.sndNxt
  unfold sendFin
  simp only [hgt, shift_markFin, shift_rttProbe, shift_sendFinSegment, shift_bumpNxt, shift_setMax,
    shift_startRtxTimer, shift_nextState, apply_ite (shift j k)]
  rfl

include hp

theorem shift_updateWnd : (c.shift j k).updateWnd (p.shift j k) = (c.updateWnd p).shift j k := by
  unfold updateWnd
  rw [← shift_setSnd, ← hRxWnd_shift j k h.snd hp]
  rfl

end InSpace

/-! Masked numbers stay masked. -/

theorem inSpace_setSnd {c : Conn} {s : SndVars} (h : c.tcb.InSpace) (hs : s.InSpace) :
    (c.setSnd s).tcb.InSpace := ⟨h.rcv, hs⟩

theorem inSpace_computeWnd {c : Conn} (h : c.tcb.InSpace) : c.computeWnd.tcb.InSpace :=
  ⟨h.rcv.computeRcvWnd, h.snd⟩

/-- A data segment masks the `snd_nxt` it moves on. -/
theorem inSpace_afterSegment {c : Conn} (h : c.tcb.InSpace) (data : List UInt8) (fin : Bool) :
    (c.afterSegment data fin).tcb.InSpace := by
  unfold afterSegment
  simp only
  split
  · refine ⟨by simpa using h.rcv, ?_⟩
    simp only [rttProbe_tcb, TCPCB.setRto_snd, setSnd_tcb, TCPCB.setSnd_snd, txTcp_tcb]
    exact ⟨h.snd.sndUna, inSpace_emod _, inSpace_emod _, h.snd.sndWl1, h.snd.sndWl2⟩
  · exact ⟨h.rcv, ⟨h.snd.sndUna, inSpace_emod _, h.snd.sndMax, h.snd.sndWl1, h.snd.sndWl2⟩⟩

end Conn

/-! ## The transmission loop -/

section Loop

variable (j k : Int) {c : Conn}

/-- **One data segment**, and the `snd_max` and the probe that may move with it. -/
theorem Conn.shift_afterSegment (h : c.tcb.InSpace) (data : List UInt8) (fin : Bool) :
    (c.shift j k).afterSegment data fin = (c.afterSegment data fin).shift j k := by
  have hsent : (c.shift j k).txTcp ((c.shift j k).dataSegment data fin) =
      (c.txTcp (c.dataSegment data fin)).shift j k :=
    c.shift_txTcp j k (c.dataSegment data fin)
  have hnxt : ((c.shift j k).tcb.snd.sndNxt + data.length + fin.toInt) % 4294967296 =
      shiftSeq k ((c.tcb.snd.sndNxt + data.length + fin.toInt) % 4294967296) := by
    simp only [shift, TCPCB.shift, SndVars.shift, shiftSeq]
    omega
  have hgt : seqGt (shiftSeq k ((c.tcb.snd.sndNxt + data.length + fin.toInt) % 4294967296))
      (shiftSeq k c.tcb.snd.sndMax) ↔
      seqGt ((c.tcb.snd.sndNxt + data.length + fin.toInt) % 4294967296) c.tcb.snd.sndMax :=
    seqGt_shiftSeq k (inSpace_emod _) h.snd.sndMax
  unfold afterSegment
  simp only [hsent, txTcp_tcb]
  rw [show ((c.txTcp (c.dataSegment data fin)).shift j k).tcb.snd = (c.shift j k).tcb.snd from rfl,
    hnxt]
  have hmax : ((c.txTcp (c.dataSegment data fin)).shift j k).setSnd
        { (c.shift j k).tcb.snd with
          sndNxt := shiftSeq k ((c.tcb.snd.sndNxt + data.length + fin.toInt) % 4294967296) } =
      ((c.txTcp (c.dataSegment data fin)).setSnd
        { c.tcb.snd with
          sndNxt := (c.tcb.snd.sndNxt + data.length + fin.toInt) % 4294967296 }).shift j k := rfl
  rw [hmax, apply_ite (shift j k), ← shift_rttProbe]
  exact if_congr hgt rfl rfl

/-- The size of the next payload comes from the windows, which are not moved. -/
theorem generateSegmentPayload_min_shift (data : List (List UInt8)) (sndWnd dlen : Nat) :
    generateSegmentPayload (min (min (c.shift j k).tcb.snd.remoteMss sndWnd) dlen) data =
      generateSegmentPayload (min (min c.tcb.snd.remoteMss sndWnd) dlen) data := rfl

/-- **The loop**, turn by turn: the induction is on the turns that are left. -/
theorem txTurns_shift (next : Option STATES) (wantFin : Bool) (turns : Nat) (h : c.tcb.InSpace)
    (data : List (List UInt8)) (dlen sndWnd counter : Nat) :
    txTurns next wantFin turns (c.shift j k) data dlen sndWnd counter =
      (txTurns next wantFin turns c data dlen sndWnd counter).shift j k := by
  induction turns generalizing c data dlen sndWnd counter with
  | zero =>
    simp only [txTurns, Conn.shift_startRtxTimer, apply_ite (Outcome.shift j k)]
    rfl
  | succ turns ih =>
    rw [txTurns, txTurns, generateSegmentPayload_min_shift]
    generalize generateSegmentPayload (min (min c.tcb.snd.remoteMss sndWnd) dlen) data = seg
    have hnext := Conn.inSpace_afterSegment h seg.1 (wantFin && seg.2.isEmpty)
    simp only [Conn.shift_afterSegment j k h, ih hnext, Conn.shift_markFin, Conn.shift_nextState,
      Conn.shift_startRtxTimer, apply_ite (Outcome.shift j k)]
    rfl

theorem txLoop_shift (h : c.tcb.InSpace) (data : List (List UInt8)) (next : Option STATES)
    (shutReq closeReq : Bool) :
    txLoop (c.shift j k) data next shutReq closeReq =
      (txLoop c data next shutReq closeReq).shift j k := by
  unfold txLoop
  simp only [Conn.shift_activeCloseTx, Conn.shift_hActiveCloseTx, apply_ite (Outcome.shift j k)]
  rw [show (c.shift j k).tcb.snd.sndWnd = c.tcb.snd.sndWnd from rfl, txTurns_shift j k _ _ _ h]
  rfl

end Loop

/-! ## Segments -/

namespace Conn

variable (j k : Int) {c : Conn} {p : Segment} (h : c.tcb.InSpace) (hp : p.InSpace)

section Ack

include h hp

/-- The acknowledgement is taken in. -/
theorem shift_setSnd_hRxAck :
    (c.shift j k).setSnd (hRxAck (c.shift j k).tcb.snd (p.shift j k)).1 =
      (c.setSnd (hRxAck c.tcb.snd p).1).shift j k := by
  rw [show (c.shift j k).tcb.snd = c.tcb.snd.shift j k from rfl, hRxAck_shift j k h.snd hp]
  rfl

/-- The send side of the moved connection after the acknowledgement. -/
theorem hRxAck_shift_snd :
    (hRxAck (c.shift j k).tcb.snd (p.shift j k)).2 = (hRxAck c.tcb.snd p).2 := by
  rw [show (c.shift j k).tcb.snd = c.tcb.snd.shift j k from rfl, hRxAck_shift j k h.snd hp]

theorem inSpace_hRxAck : (c.setSnd (hRxAck c.tcb.snd p).1).tcb.InSpace :=
  inSpace_setSnd h (h.snd.hRxAck hp)

/-- An acknowledgement in `ESTAB` samples the time, sets the timer and frees the buffer. -/
theorem shift_estabAck : (c.shift j k).estabAck (p.shift j k) = (c.estabAck p).shift j k := by
  have hack := inSpace_hRxAck h hp
  have htimer := shift_ackTimer j k (c := (c.setSnd (hRxAck c.tcb.snd p).1).rttSample)
    (hack.congr (by simp) (by simp))
  unfold estabAck
  simp only [shift_setSnd_hRxAck j k h hp, hRxAck_shift_snd j k h hp, shift_rttSample, htimer,
    shift_freeSnd, shift_notify, apply_ite (shift j k)]

theorem shift_closeWaitAck :
    (c.shift j k).closeWaitAck (p.shift j k) = (c.closeWaitAck p).shift j k := by
  have hack := inSpace_hRxAck h hp
  have htimer := shift_ackTimer j k (c := (c.setSnd (hRxAck c.tcb.snd p).1).rttSample)
    (hack.congr (by simp) (by simp))
  unfold closeWaitAck
  simp only [shift_setSnd_hRxAck j k h hp, hRxAck_shift_snd j k h hp, shift_rttSample, htimer,
    ← apply_ite (shift j k)]
  rw [shift_updateWnd j k _ hp, shift_freeSnd]
  split
  · exact hack.congr (by simp) (by simp)
  · exact hack

/-- The test whether all was acknowledged. -/
theorem shift_allAcked :
    ((c.setSnd (hRxAck c.tcb.snd p).1).shift j k).tcb.snd.sndUna =
        ((c.setSnd (hRxAck c.tcb.snd p).1).shift j k).tcb.snd.sndNxt ↔
      (hRxAck c.tcb.snd p).1.sndUna = (hRxAck c.tcb.snd p).1.sndNxt := by
  have hack := h.snd.hRxAck hp
  exact shiftSeq_inj k hack.sndUna hack.sndNxt

/-- Behind the FIN the test is whether the acknowledgement covers the FIN too. -/
theorem shift_closingAck : (c.shift j k).closingAck (p.shift j k) = (c.closingAck p).shift j k := by
  have hall := shift_allAcked j k h hp
  unfold closingAck
  simp only [shift_setSnd_hRxAck j k h hp, hRxAck_shift_snd j k h hp, hall, shift_stopRtxTimer,
    shift_changeState, shift_startTimeWaitTimer, shift_freeSnd, shift_restartRtxTimer,
    apply_ite (shift j k)]
  rfl

theorem shift_lastAckAck : (c.shift j k).lastAckAck (p.shift j k) = (c.lastAckAck p).shift j k := by
  have hall : ((c.setSnd (hRxAck c.tcb.snd p).1).rttSample.shift j k).tcb.snd.sndUna =
        ((c.setSnd (hRxAck c.tcb.snd p).1).rttSample.shift j k).tcb.snd.sndNxt ↔
      (c.setSnd (hRxAck c.tcb.snd p).1).rttSample.tcb.snd.sndUna =
        (c.setSnd (hRxAck c.tcb.snd p).1).rttSample.tcb.snd.sndNxt := by
    have hack : (c.setSnd (hRxAck c.tcb.snd p).1).rttSample.tcb.InSpace :=
      (inSpace_hRxAck h hp).congr (by simp) (by simp)
    exact shiftSeq_inj k hack.snd.sndUna hack.snd.sndNxt
  unfold lastAckAck
  simp only [shift_setSnd_hRxAck j k h hp, hRxAck_shift_snd j k h hp, shift_rttSample, hall,
    shift_stopRtxTimer, shift_changeState, shift_freeSnd, shift_restartRtxTimer,
    apply_ite (shift j k)]

/-- In `FIN_WAIT_1` the acknowledgement of the FIN decides the next state. -/
theorem shift_finWait1Ack :
    (c.shift j k).finWait1Ack (p.shift j k) = (c.finWait1Ack p).shift j k := by
  have hack := inSpace_hRxAck h hp
  have hall : ((c.setSnd (hRxAck c.tcb.snd p).1).shift j k).tcb.snd.sndNxt =
        ((c.setSnd (hRxAck c.tcb.snd p).1).shift j k).tcb.snd.sndUna ↔
      (c.setSnd (hRxAck c.tcb.snd p).1).tcb.snd.sndNxt =
        (c.setSnd (hRxAck c.tcb.snd p).1).tcb.snd.sndUna :=
    shiftSeq_inj k hack.snd.sndNxt hack.snd.sndUna
  unfold finWait1Ack
  simp only [shift_setSnd_hRxAck j k h hp, hRxAck_shift_snd j k h hp, hall, shift_stopRtxTimer,
    shift_changeState, shift_startTimeWaitTimer, shift_freeSnd, shift_restartRtxTimer]
  rw [show (p.shift j k).fin = p.fin from rfl]
  simp only [← apply_ite (shift j k)]
  rw [shift_computeWnd, ← apply_ite (shift j k)]
  refine ⟨?_, ?_⟩
  · split_ifs <;> simpa using h.rcv
  · split_ifs <;> simpa using (h.snd.hRxAck hp).freeSndBuf _

/-! Masked numbers stay masked. -/

theorem inSpace_estabAck : (c.estabAck p).tcb.InSpace := by
  refine ⟨by simpa using h.rcv, ?_⟩
  rw [estabAck_snd]
  split
  · exact (h.snd.hRxAck hp).freeSndBuf _
  · exact h.snd.hRxAck hp

theorem inSpace_finWait1Ack : (c.finWait1Ack p).tcb.InSpace := by
  refine ⟨?_, ?_⟩
  · rw [finWait1Ack_rcv]
    split
    · exact h.rcv.computeRcvWnd
    · exact h.rcv
  · rw [finWait1Ack_snd]
    exact h.snd.ackBehindFin hp

theorem inSpace_closingAck : (c.closingAck p).tcb.InSpace := by
  refine ⟨by simpa using h.rcv, ?_⟩
  rw [closingAck_snd]
  exact h.snd.ackBehindFin hp

theorem inSpace_lastAckAck : (c.lastAckAck p).tcb.InSpace := by
  refine ⟨by simpa using h.rcv, ?_⟩
  rw [lastAckAck_snd]
  exact h.snd.ackBehindFin hp

theorem inSpace_updateWnd : (c.updateWnd p).tcb.InSpace := ⟨h.rcv, h.snd.hRxWnd hp⟩

end Ack

/-! ### The handlers -/

section Rx

include h hp

theorem shift_hRxSeq : hRxSeq (c.shift j k).tcb.rcv (p.shift j k) =
    (hRxSeq c.tcb.rcv p).shift j k :=
  hRxSeq_shift j k h.rcv hp

theorem inSpace_hRxSeq : (c.setRcv (hRxSeq c.tcb.rcv p).rcv).tcb.InSpace :=
  ⟨(h.rcv.hRxSeq hp).1, h.snd⟩

/-- A segment in order in `ESTAB`: data, acknowledgement, window and FIN. -/
theorem shift_estabAccept :
    (c.shift j k).estabAccept (p.shift j k) = (c.estabAccept p).shift j k := by
  unfold estabAccept
  rw [show (p.shift j k).dlen = p.dlen from rfl, show (p.shift j k).fin = p.fin from rfl]
  simp only [shift_setAckNow, ← apply_ite (shift j k)]
  have h0 : (if 0 < p.dlen ∨ p.fin = true then c.setAckNow true else c).tcb.InSpace := by
    split
    · exact h.congr rfl rfl
    · exact h
  rw [shift_estabAck j k h0 hp, shift_updateWnd j k (inSpace_estabAck h0 hp) hp,
    shift_appendData j k (inSpace_updateWnd (inSpace_estabAck h0 hp) hp)]
  simp only [shift_changeState, shift_notify, ← apply_ite (shift j k), shift_scheduleEvent]

theorem shift_finWait1Accept :
    (c.shift j k).finWait1Accept (p.shift j k) = (c.finWait1Accept p).shift j k := by
  unfold finWait1Accept
  rw [show (p.shift j k).dlen = p.dlen from rfl, show (p.shift j k).fin = p.fin from rfl]
  simp only [shift_setAckNow, ← apply_ite (shift j k)]
  have h0 : (if p.dlen ≠ 0 ∨ p.fin = true then c.setAckNow true else c).tcb.InSpace := by
    split
    · exact h.congr rfl rfl
    · exact h
  rw [shift_finWait1Ack j k h0 hp, shift_updateWnd j k (inSpace_finWait1Ack h0 hp) hp,
    shift_appendData j k (inSpace_updateWnd (inSpace_finWait1Ack h0 hp) hp), shift_sendAck,
    ← apply_ite (shift j k)]
  rfl

theorem shift_finWait2Accept :
    (c.shift j k).finWait2Accept (p.shift j k) = (c.finWait2Accept p).shift j k := by
  unfold finWait2Accept
  rw [show (p.shift j k).dlen = p.dlen from rfl, show (p.shift j k).fin = p.fin from rfl]
  simp only [shift_setAckNow, ← apply_ite (shift j k)]
  have h0 : (if 0 < p.dlen ∨ p.fin = true then c.setAckNow true else c).tcb.InSpace := by
    split
    · exact h.congr rfl rfl
    · exact h
  have h1 := inSpace_computeWnd h0
  have h2 := inSpace_updateWnd (inSpace_hRxAck h1 hp) hp
  rw [shift_computeWnd j k h0, shift_setSnd_hRxAck j k h1 hp,
    shift_updateWnd j k (inSpace_hRxAck h1 hp) hp, shift_changeState, shift_startTimeWaitTimer,
    ← apply_ite (shift j k), shift_appendData, shift_sendAck]
  split
  · exact h2.congr rfl rfl
  · exact h2

/-- The three verdicts of the sequence check, one by one. -/
theorem shift_rxEstab : (c.shift j k).rxEstab (p.shift j k) = (c.rxEstab p).shift j k := by
  have hc := inSpace_hRxSeq h hp
  have hseg := (h.rcv.hRxSeq hp).2
  unfold rxEstab
  simp only [shift_hRxSeq j k h hp]
  generalize hRxSeq c.tcb.rcv p = res at hc hseg ⊢
  have hset : (c.shift j k).setRcv (res.shift j k).rcv = (c.setRcv res.rcv).shift j k := rfl
  rw [hset, show (res.shift j k).seg = res.seg.shift j k from rfl,
    show (res.shift j k).verdict = res.verdict from rfl]
  cases res.verdict with
  | acceptAndHandle =>
    simp only [shift_hRxRst, shift_signalRst, shift_sendChallengeAck, shift_estabAccept j k hc hseg,
      apply_ite (shift j k)]
    rfl
  | acceptButBuffer => rfl
  | drop => simp only [shift_sendChallengeAck]

theorem shift_rxFinWait1 : (c.shift j k).rxFinWait1 (p.shift j k) = (c.rxFinWait1 p).shift j k := by
  have hc := inSpace_hRxSeq h hp
  have hseg := (h.rcv.hRxSeq hp).2
  unfold rxFinWait1
  simp only [shift_hRxSeq j k h hp]
  generalize hRxSeq c.tcb.rcv p = res at hc hseg ⊢
  have hset : (c.shift j k).setRcv (res.shift j k).rcv = (c.setRcv res.rcv).shift j k := rfl
  rw [hset, show (res.shift j k).seg = res.seg.shift j k from rfl,
    show (res.shift j k).verdict = res.verdict from rfl]
  cases res.verdict with
  | acceptAndHandle =>
    simp only [shift_hRxRst, shift_signalRst, shift_activeCloseRx, shift_hActiveCloseRx,
      shift_sendChallengeAck, shift_finWait1Accept j k hc hseg, apply_ite (shift j k)]
    rfl
  | acceptButBuffer => simp only [shift_sendAck]
  | drop => simp only [shift_sendChallengeAck]

theorem shift_rxFinWait2 : (c.shift j k).rxFinWait2 (p.shift j k) = (c.rxFinWait2 p).shift j k := by
  have hc := inSpace_hRxSeq h hp
  have hseg := (h.rcv.hRxSeq hp).2
  unfold rxFinWait2
  simp only [shift_hRxSeq j k h hp]
  generalize hRxSeq c.tcb.rcv p = res at hc hseg ⊢
  have hset : (c.shift j k).setRcv (res.shift j k).rcv = (c.setRcv res.rcv).shift j k := rfl
  rw [hset, show (res.shift j k).seg = res.seg.shift j k from rfl,
    show (res.shift j k).verdict = res.verdict from rfl]
  cases res.verdict with
  | acceptAndHandle =>
    simp only [shift_hRxRst, shift_signalRst, shift_activeCloseRx, shift_hActiveCloseRx,
      shift_sendChallengeAck, shift_finWait2Accept j k hc hseg, apply_ite (shift j k)]
    rfl
  | acceptButBuffer => simp only [shift_sendAck]
  | drop => simp only [shift_sendChallengeAck]

/-- The states behind the FIN of the peer only check the number. -/
theorem shift_hRxSeqCheck :
    hRxSeqCheck (c.shift j k).tcb.rcv (p.shift j k) ↔ hRxSeqCheck c.tcb.rcv p :=
  hRxSeqCheck_shift j k h.rcv hp

theorem shift_rxClosing : (c.shift j k).rxClosing (p.shift j k) = (c.rxClosing p).shift j k := by
  unfold rxClosing
  simp only [shift_hRxSeqCheck j k h hp, shift_hRxRst, shift_signalRst, shift_activeCloseRx,
    shift_hActiveCloseRx, shift_sendChallengeAck, shift_sendAck, shift_closingAck j k h hp,
    shift_updateWnd j k (inSpace_closingAck h hp) hp, apply_ite (shift j k)]
  rfl

theorem shift_rxCloseWait :
    (c.shift j k).rxCloseWait (p.shift j k) = (c.rxCloseWait p).shift j k := by
  unfold rxCloseWait
  simp only [shift_hRxSeqCheck j k h hp, shift_hRxRst, shift_signalRst, shift_activeCloseRx,
    shift_hActiveCloseRx, shift_sendChallengeAck, shift_closeWaitAck j k h hp, shift_scheduleEvent,
    apply_ite (shift j k)]
  rfl

theorem shift_rxLastAck : (c.shift j k).rxLastAck (p.shift j k) = (c.rxLastAck p).shift j k := by
  unfold rxLastAck
  simp only [shift_hRxSeqCheck j k h hp, shift_hRxRst, shift_signalRst, shift_sendChallengeAck,
    shift_lastAckAck j k h hp, shift_updateWnd j k (inSpace_lastAckAck h hp) hp,
    apply_ite (shift j k)]
  rfl

end Rx

section Tx

include h

/-- `_drain_snd_buf` and `_compute_rcv_wnd`, in the two orders of the handlers. -/
theorem inSpace_drain : (c.setSnd (drainSndBuf c.tcb.snd).2).tcb.InSpace :=
  ⟨h.rcv, ⟨h.snd.sndUna, h.snd.sndNxt, h.snd.sndMax, h.snd.sndWl1, h.snd.sndWl2⟩⟩

omit h in
/-- What `_drain_snd_buf` returns has no numbers. -/
theorem shift_drain :
    (c.shift j k).setSnd (drainSndBuf (c.shift j k).tcb.snd).2 =
      (c.setSnd (drainSndBuf c.tcb.snd).2).shift j k := rfl

/-- A send handler drains the buffer, looks at the requests, and sends data, a FIN or an ACK. -/
theorem shift_txEstab : (c.shift j k).txEstab = c.txEstab.shift j k := by
  have h0 := inSpace_drain h
  have h1 := inSpace_computeWnd h0
  unfold txEstab
  simp only [show (drainSndBuf (c.shift j k).tcb.snd).1 = (drainSndBuf c.tcb.snd).1 from rfl,
    shift_drain j k, shift_computeWnd j k h0, shift_activeCloseTx, shift_hActiveCloseTx,
    shift_sendFin j k h1, shift_setAckNow, shift_sendAck, txLoop_shift j k h1,
    apply_ite (Outcome.shift j k)]
  rfl

theorem shift_txFinWait1 : (c.shift j k).txFinWait1 = c.txFinWait1.shift j k := by
  have h0 := inSpace_drain h
  have h1 := inSpace_computeWnd h0
  unfold txFinWait1
  simp only [show (drainSndBuf (c.shift j k).tcb.snd).1 = (drainSndBuf c.tcb.snd).1 from rfl,
    shift_drain j k, shift_computeWnd j k h0, shift_activeCloseTx, shift_hActiveCloseTx,
    shift_sendFin j k h1, txLoop_shift j k h1, apply_ite (Outcome.shift j k)]
  rfl

omit h in
theorem shift_txFinWait2 : (c.shift j k).txFinWait2 = c.txFinWait2.shift j k := by
  unfold txFinWait2
  simp only [shift_activeCloseTx, shift_hActiveCloseTx, apply_ite (shift j k)]
  rfl

theorem shift_txCloseWait : (c.shift j k).txCloseWait = c.txCloseWait.shift j k := by
  have h0 := inSpace_computeWnd h
  have h1 := inSpace_drain h0
  unfold txCloseWait
  simp only [shift_computeWnd j k h, shift_drain j k, shift_activeCloseTx, shift_hActiveCloseTx,
    show (drainSndBuf (c.computeWnd.shift j k).tcb.snd).1 =
      (drainSndBuf c.computeWnd.tcb.snd).1 from rfl,
    shift_sendFin j k h1, shift_setAckNow, shift_sendAck, txLoop_shift j k h1,
    apply_ite (Outcome.shift j k)]
  rfl

theorem shift_txClosing : (c.shift j k).txClosing = c.txClosing.shift j k := by
  have h0 := inSpace_drain h
  unfold txClosing
  simp only [show (drainSndBuf (c.shift j k).tcb.snd).1 = (drainSndBuf c.tcb.snd).1 from rfl,
    shift_drain j k, shift_activeCloseTx, shift_hActiveCloseTx, shift_sendFin j k h0,
    txLoop_shift j k h0, apply_ite (Outcome.shift j k)]
  rfl

theorem shift_txLastAck : (c.shift j k).txLastAck = c.txLastAck.shift j k := by
  have h0 := inSpace_drain h
  unfold txLastAck
  simp only [show (drainSndBuf (c.shift j k).tcb.snd).1 = (drainSndBuf c.tcb.snd).1 from rfl,
    shift_drain j k, shift_sendFin j k h0, txLoop_shift j k h0, apply_ite (Outcome.shift j k)]
  rfl

end Tx

end Conn

/-! ## The dispatch -/

/-- The states from `ESTAB` on in which both sides have a place in the sequence space. -/
def STATES.Synced (s : STATES) : Prop :=
  s ∈ [.estab, .finWait1, .finWait2, .closeWait, .closing, .lastAck]

instance (s : STATES) : Decidable s.Synced := inferInstanceAs (Decidable (s ∈ _))

namespace Conn

/-- `rx`, on the fields of a segment. -/
def rxFields (c : Conn) (p : Segment) : Outcome :=
  match c.tcb.state with
  | .listen => .raise c .typeError
  | .synSent => c.rxSynSent p
  | .synRecv => .ok (c.rxSynRecv p)
  | .estab => .ok (c.rxEstab p)
  | .finWait1 => .ok (c.rxFinWait1 p)
  | .finWait2 => .ok (c.rxFinWait2 p)
  | .closeWait => .ok (c.rxCloseWait p)
  | .closing => .ok (c.rxClosing p)
  | .lastAck => .ok (c.rxLastAck p)
  | .timeWait => .ok (c.rxTimeWait p)
  | .closed => .ok c

theorem rx_eq_rxFields (c : Conn) (packet : TCPParser) : c.rx packet = c.rxFields packet.segment :=
  rfl

variable (j k : Int) {c : Conn}

/-- **A segment** in a state in which both sides have a place. -/
theorem shift_rxFields {p : Segment} (hs : c.tcb.state.Synced) (h : c.tcb.InSpace)
    (hp : p.InSpace) : (c.shift j k).rxFields (p.shift j k) = (c.rxFields p).shift j k := by
  have hstate : (c.shift j k).tcb.state = c.tcb.state := rfl
  unfold rxFields
  rw [hstate]
  cases hcase : c.tcb.state with
  | estab => exact congrArg Outcome.ok (shift_rxEstab j k h hp)
  | finWait1 => exact congrArg Outcome.ok (shift_rxFinWait1 j k h hp)
  | finWait2 => exact congrArg Outcome.ok (shift_rxFinWait2 j k h hp)
  | closeWait => exact congrArg Outcome.ok (shift_rxCloseWait j k h hp)
  | closing => exact congrArg Outcome.ok (shift_rxClosing j k h hp)
  | lastAck => exact congrArg Outcome.ok (shift_rxLastAck j k h hp)
  | _ =>
    rw [hcase] at hs
    exact absurd hs (by decide)

/-- **A SEND** in such a state. -/
theorem shift_tx (hs : c.tcb.state.Synced) (h : c.tcb.InSpace) :
    (c.shift j k).tx = c.tx.shift j k := by
  have hstate : (c.shift j k).tcb.state = c.tcb.state := rfl
  unfold tx
  rw [hstate]
  cases hcase : c.tcb.state with
  | estab => exact shift_txEstab j k h
  | finWait1 => exact shift_txFinWait1 j k h
  | finWait2 => exact congrArg Outcome.ok (shift_txFinWait2 j k)
  | closeWait => exact shift_txCloseWait j k h
  | closing => exact shift_txClosing j k h
  | lastAck => exact shift_txLastAck j k h
  | _ =>
    rw [hcase] at hs
    exact absurd hs (by decide)

/-- A retransmission rolls back to `snd_una` and backs off. -/
theorem shift_prepareRtx : (c.shift j k).prepareRtx = c.prepareRtx.shift j k := rfl

theorem inSpace_prepareRtx (h : c.tcb.InSpace) : c.prepareRtx.tcb.InSpace :=
  ⟨h.rcv, ⟨h.snd.sndUna, h.snd.sndUna, h.snd.sndMax, h.snd.sndWl1, h.snd.sndWl2⟩⟩

end Conn

/-- **Translation.** In every state from `ESTAB` on until the connection is over, each of the three
handlers commutes with a move of the sequence space: the same state, buffers, timers, flags, queued
events and fault, and the moved segments. -/
theorem handlers_commute_shift (c : Conn) (hs : c.tcb.state.Synced)
    (h : c.tcb.InSpace) (j k : Int) :
    (∀ packet : TCPParser, (c.shift j k).rxFields (packet.segment.shift j k) =
        (c.rx packet).shift j k) ∧
      (c.shift j k).tx = c.tx.shift j k ∧ (c.shift j k).rtx = c.rtx.shift j k := by
  refine ⟨fun packet => ?_, Conn.shift_tx j k hs h, ?_⟩
  · rw [Conn.rx_eq_rxFields]
    exact Conn.shift_rxFields j k hs h packet.segment_inSpace
  · rw [Conn.rtx, Conn.rtx, Conn.shift_prepareRtx]
    exact Conn.shift_tx j k (c := c.prepareRtx) hs (Conn.inSpace_prepareRtx h)

/-- The sample connection, moved so that our side stands right below the wrap. -/
theorem handlers_commute_shift_wrap :
    sampleEstab.st.tcb.state.Synced ∧
      (sampleEstab.st.shift 5 4294966294).tcb.snd.sndNxt = 4294967295 ∧
      (sampleEstab.st.shift 5 4294966294).rtx = sampleEstab.st.rtx.shift 5 4294966294 := by
  refine ⟨by decide +kernel, by decide +kernel, (handlers_commute_shift _ ?_ ?_ _ _).2.2⟩
  · decide +kernel
  · exact ⟨⟨by decide +kernel, by decide +kernel⟩, ⟨by decide +kernel, by decide +kernel,
      by decide +kernel, by decide +kernel, by decide +kernel⟩⟩

end Tipy.Tcp
