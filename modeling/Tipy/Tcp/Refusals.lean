import Tipy.Tcp.Acceptance
import Tipy.Tcp.PeerFin

/-!
# Segments that are answered and not taken in

A SYN on an open connection is answered with a challenge ACK, and data after a close with a reset.
Both answers come after `_h_rx_seq`, which has moved `rcv_nxt` and rewritten the payload length by
then. So a SYN in order is challenged with its numbers already consumed
(`challenged_syn_intact_iff`), and a FIN without new data counts as data, because its own number was
added to the payload length (`close_resets_iff`).
-/

namespace Tipy.Tcp

open Tipy.Lib

/-! ## The challenge ACK -/

/-- What a challenged SYN has to leave alone. -/
structure TCPCB.Intact (t t' : TCPCB) : Prop where
  state : t'.state = t.state
  rcvNxt : t'.rcv.rcvNxt = t.rcv.rcvNxt
  rcvAdv : t'.rcv.rcvAdv = t.rcv.rcvAdv
  rcvBuf : t'.rcv.rcvBuf = t.rcv.rcvBuf
  sndUna : t'.snd.sndUna = t.snd.sndUna
  sndNxt : t'.snd.sndNxt = t.snd.sndNxt
  sndMax : t'.snd.sndMax = t.snd.sndMax
  sndWnd : t'.snd.sndWnd = t.snd.sndWnd
  sndBuf : t'.snd.sndBuf = t.snd.sndBuf

/-- A challenge ACK went out: an ACK, for which one of the tokens was spent. -/
def Conn.Challenged (c c' : Conn) : Prop :=
  let x := Conn.refillChallenge c.tcb.challenge c.core.nowNs
  c'.tcb.challenge = { x with challengeAckLimit := x.challengeAckLimit - 1 } ∧
    ∃ seg, c'.core.out = c.core.out ++ [(c.tcb.socketId, seg)] ∧ seg.ack = true

/-- There is a token for a challenge ACK. -/
def Conn.HasToken (c : Conn) : Prop :=
  0 < (Conn.refillChallenge c.tcb.challenge c.core.nowNs).challengeAckLimit

instance (c : Conn) : Decidable c.HasToken := inferInstanceAs (Decidable (_ < _))

/-- The numbers of a segment are consumed: the window is open, the segment is in order, and the
window has more than one number. -/
def Consumed (r : RcvVars) (p : Segment) : Prop :=
  r.rcvWnd ≠ 0 ∧ p.segLen ≠ 0 ∧ CoversNext r p ∧ (r.rcvNxt + 1) % 4294967296 ≠ r.rcvAdv % 4294967296

instance (r : RcvVars) (p : Segment) : Decidable (Consumed r p) :=
  inferInstanceAs (Decidable (_ ∧ _ ∧ _ ∧ _))

section Challenge

variable {c c' : Conn} {p : Segment}

/-- Spending a token shows in the tokens or in the time of the last refill. -/
theorem not_challenged_of_eq (h : c'.tcb.challenge = c.tcb.challenge) : ¬ c.Challenged c' := by
  rintro ⟨hspent, -⟩
  rw [h] at hspent
  have hlimit := congrArg Challenge.challengeAckLimit hspent
  have htime := congrArg Challenge.lastChallengeAckTimestamp hspent
  unfold Conn.refillChallenge at hlimit htime
  simp only at hlimit htime
  split at hlimit <;> split at htime
  · next hpos _ =>
    rw [htime] at hpos
    simp at hpos
  · next hpos hneg => exact hneg hpos
  · next hneg hpos => exact hneg hpos
  · omega

theorem challenged_sendChallengeAck (r : RcvVars) :
    c.Challenged (c.setRcv r).sendChallengeAck ↔ c.HasToken := by
  unfold Conn.Challenged Conn.HasToken Conn.sendChallengeAck
  simp only [Conn.setRcv_tcb, TCPCB.setRcv_challenge, Conn.setRcv_core]
  by_cases htoken : (Conn.refillChallenge c.tcb.challenge c.core.nowNs).challengeAckLimit ≤ 0
  · rw [if_pos htoken]
    constructor
    · rintro ⟨-, seg, hout, -⟩
      simp at hout
    · intro hpos
      omega
  · rw [if_neg htoken]
    constructor
    · intro _
      omega
    · intro _
      exact ⟨rfl, _, rfl, rfl⟩

theorem intact_sendChallengeAck {r : RcvVars} (hadv : r.rcvAdv = c.tcb.rcv.rcvAdv)
    (hbuf : r.rcvBuf = c.tcb.rcv.rcvBuf) :
    c.tcb.Intact (c.setRcv r).sendChallengeAck.tcb ↔ r.rcvNxt = c.tcb.rcv.rcvNxt := by
  constructor
  · intro h
    simpa using h.rcvNxt
  · intro h
    exact ⟨by simp, by simpa using h, by simpa using hadv, by simpa using hbuf, by simp, by simp,
      by simp, by simp, by simp⟩

/-- `rcv_nxt` moves exactly when the numbers of the segment are consumed. -/
theorem hRxSeq_rcvNxt_eq_iff {r : RcvVars} (hn : 0 ≤ r.rcvNxt ∧ r.rcvNxt < 4294967296) :
    (hRxSeq r p).rcv.rcvNxt = r.rcvNxt ↔ ¬ Consumed r p := by
  by_cases h : r.rcvWnd ≠ 0 ∧ p.segLen ≠ 0 ∧ CoversNext r p
  · obtain ⟨hwnd, hlen, hin⟩ := h
    have hconsumed : Consumed r p ↔ (r.rcvNxt + 1) % 4294967296 ≠ r.rcvAdv % 4294967296 :=
      ⟨fun h => h.2.2.2, fun h => ⟨hwnd, hlen, hin, h⟩⟩
    rw [hconsumed, hRxSeq_normal hlen hwnd, hRxSeqNormal_rcvNxt hin]
    obtain ⟨hlower, hupper⟩ := hin
    unfold seqGeq seqGt at hupper
    unfold acceptedLen seqDiff
    omega
  · rw [(hRxSeq_rcv_eq h).1]
    exact iff_of_true rfl fun hc => h ⟨hc.1, hc.2.1, hc.2.2.1⟩

/-- A buffered segment is not in order. -/
theorem not_consumed_of_buffered {r : RcvVars} (h : (hRxSeq r p).verdict = .acceptButBuffer) :
    ¬ Consumed r p := by
  rintro ⟨hwnd, hlen, hin, -⟩
  rw [hRxSeq_normal hlen hwnd, hRxSeqNormal_verdict, if_pos hin] at h
  cases h

end Challenge

/-! ## The states that answer a SYN with a challenge ACK -/

/-- The states in which the sequence check moves `rcv_nxt`. -/
def STATES.Receiving (s : STATES) : Prop := s = .estab ∨ s = .finWait1 ∨ s = .finWait2

/-- The states after the FIN of the peer, in which the check has no effects. -/
def STATES.PeerClosed (s : STATES) : Prop := s = .closeWait ∨ s = .closing ∨ s = .lastAck

instance (s : STATES) : Decidable s.Receiving := inferInstanceAs (Decidable (_ ∨ _))

instance (s : STATES) : Decidable s.PeerClosed := inferInstanceAs (Decidable (_ ∨ _))

/-- The handlers of `FIN_WAIT_1` and `FIN_WAIT_2`, which differ in what they do with a segment in
order. -/
def Conn.finWaitRx (c : Conn) (accept : Conn → Segment → Conn) (p : Segment) : Conn :=
  let res := hRxSeq c.tcb.rcv p
  let c := c.setRcv res.rcv
  match res.verdict with
  | .acceptAndHandle =>
    if res.seg.rst then (c.hRxRst .econnreset).signalRst
    else if c.ActiveCloseRx res.seg then (c.hActiveCloseRx res.seg).signalRst
    else if res.seg.syn then c.sendChallengeAck
    else accept c res.seg
  | .acceptButBuffer => c.sendAck
  | .drop => c.sendChallengeAck

theorem Conn.rxFinWait1_eq (c : Conn) (p : Segment) :
    c.rxFinWait1 p = c.finWaitRx finWait1Accept p := rfl

theorem Conn.rxFinWait2_eq (c : Conn) (p : Segment) :
    c.rxFinWait2 p = c.finWaitRx finWait2Accept p := rfl

section Syn

variable {c : Conn} {packet : TCPParser}

theorem finWaitRx_syn {p : Segment} (accept : Conn → Segment → Conn)
    (hclose : c.tcb.req.closeRequested = false) (hsyn : p.syn = true) (hrst : p.rst = false) :
    let res := hRxSeq c.tcb.rcv p
    (res.verdict = .acceptButBuffer ∧ (c.finWaitRx accept p).tcb.challenge = c.tcb.challenge) ∨
      c.finWaitRx accept p = (c.setRcv res.rcv).sendChallengeAck := by
  have hkeeps := hRxSeq_keeps c.tcb.rcv p
  have hopen : ¬ (c.setRcv (hRxSeq c.tcb.rcv p).rcv).ActiveCloseRx (hRxSeq c.tcb.rcv p).seg := by
    rintro ⟨hreq, -⟩
    simp [hclose] at hreq
  simp only [Conn.finWaitRx]
  cases hv : (hRxSeq c.tcb.rcv p).verdict with
  | acceptAndHandle => simp [hkeeps.rst.trans hrst, hkeeps.syn.trans hsyn, hopen]
  | acceptButBuffer => simp
  | drop => simp

/-- A SYN in a state that receives: it is buffered, or challenged after the sequence check. -/
theorem rx_syn_receiving (hs : c.tcb.state.Receiving) (hclose : c.tcb.req.closeRequested = false)
    (hsyn : packet.syn = true) (hrst : packet.rst = false) :
    let res := hRxSeq c.tcb.rcv packet.segment
    (res.verdict = .acceptButBuffer ∧ (c.rx packet).st.tcb.challenge = c.tcb.challenge) ∨
      (c.rx packet).st = (c.setRcv res.rcv).sendChallengeAck := by
  have hkeeps := hRxSeq_keeps c.tcb.rcv packet.segment
  rcases hs with hs | hs | hs
  · simp only [Conn.rx, hs, Conn.rxEstab, Outcome.ok_st]
    cases hv : (hRxSeq c.tcb.rcv packet.segment).verdict with
    | acceptAndHandle => simp [hkeeps.rst.trans hrst, hkeeps.syn.trans hsyn]
    | acceptButBuffer => simp
    | drop => simp
  · simp only [Conn.rx, hs, Conn.rxFinWait1_eq, Outcome.ok_st]
    exact finWaitRx_syn _ hclose hsyn hrst
  · simp only [Conn.rx, hs, Conn.rxFinWait2_eq, Outcome.ok_st]
    exact finWaitRx_syn _ hclose hsyn hrst

/-- A SYN after the FIN of the peer: it is challenged with nothing changed, or not at all. -/
theorem rx_syn_peerClosed (hs : c.tcb.state.PeerClosed) (hclose : c.tcb.req.closeRequested = false)
    (hsyn : packet.syn = true) (hrst : packet.rst = false) :
    (c.rx packet).st.tcb.challenge = c.tcb.challenge ∨ (c.rx packet).st = c.sendChallengeAck := by
  have hrst' : ¬ packet.segment.rst = true := by
    rw [show packet.segment.rst = packet.rst from rfl, hrst]
    decide
  have hsyn' : packet.segment.syn = true := hsyn
  have hopen : ¬ c.ActiveCloseRx packet.segment := by
    rintro ⟨hreq, -⟩
    simp [hclose] at hreq
  rcases hs with hs | hs | hs
  · simp only [Conn.rx, hs, Conn.rxCloseWait, Outcome.ok_st]
    rw [if_neg hrst', if_neg hopen, if_pos hsyn']
    split
    · exact Or.inr rfl
    · exact Or.inl rfl
  · simp only [Conn.rx, hs, Conn.rxClosing, Outcome.ok_st]
    rw [if_neg hrst', if_neg hopen, if_pos hsyn']
    split
    · exact Or.inr rfl
    · exact Or.inl rfl
  · simp only [Conn.rx, hs, Conn.rxLastAck, Outcome.ok_st]
    rw [if_neg hrst', if_pos hsyn']
    split
    · exact Or.inr rfl
    · exact Or.inl rfl

end Syn

/-- **A challenged SYN leaves the connection intact** exactly when it is not in order in a state
that receives, in a window of more than one number, with a token left to challenge it. -/
theorem challenged_syn_intact_iff (c : Conn) (packet : TCPParser)
    (hs : c.tcb.state ∈ [.estab, .finWait1, .finWait2, .closeWait, .closing, .lastAck])
    (hn : 0 ≤ c.tcb.rcv.rcvNxt ∧ c.tcb.rcv.rcvNxt < 4294967296)
    (hclose : c.tcb.req.closeRequested = false) (hsyn : packet.syn = true)
    (hrst : packet.rst = false) :
    (c.Challenged (c.rx packet).st → c.tcb.Intact (c.rx packet).st.tcb) ↔
      ¬ (c.tcb.state.Receiving ∧ Consumed c.tcb.rcv packet.segment ∧ c.HasToken) := by
  have hstates : c.tcb.state.Receiving ∨ c.tcb.state.PeerClosed ∧ ¬ c.tcb.state.Receiving := by
    revert hs
    cases c.tcb.state <;> decide
  rcases hstates with hs | ⟨hs, hno⟩
  · rcases rx_syn_receiving hs hclose hsyn hrst with ⟨hbuf, hsame⟩ | hst
    · exact iff_of_true (fun h => absurd h (not_challenged_of_eq hsame))
        fun h => not_consumed_of_buffered hbuf h.2.1
    · have hkeeps := hRxSeq_keeps c.tcb.rcv packet.segment
      rw [hst, challenged_sendChallengeAck, intact_sendChallengeAck hkeeps.rcvAdv hkeeps.rcvBuf,
        hRxSeq_rcvNxt_eq_iff hn]
      tauto
  · refine iff_of_true (fun h => ?_) fun h => hno h.1
    rcases rx_syn_peerClosed hs hclose hsyn hrst with hsame | hst
    · exact absurd h (not_challenged_of_eq hsame)
    · rw [hst]
      exact ⟨by simp, by simp, by simp, by simp, by simp, by simp, by simp, by simp, by simp⟩

/-- An old SYN is dropped and challenged. -/
theorem challenged_syn_intact_iff_old :
    let c := sampleEstab.st
    let packet := TCPParser.sample 50 1001 0x02 4096 []
    c.Challenged (c.rx packet).st → c.tcb.Intact (c.rx packet).st.tcb :=
  (challenged_syn_intact_iff _ _ (by decide +kernel) (by decide +kernel) (by decide +kernel)
    (by decide +kernel) (by decide +kernel)).2 (by decide +kernel)

/-- A SYN at `rcv_nxt` is challenged after its number was consumed. -/
theorem challenged_syn_consumed :
    let c := sampleEstab.st
    let packet := TCPParser.sample 101 1001 0x02 4096 []
    c.tcb.state = .estab ∧ c.tcb.req.closeRequested = false ∧ packet.syn = true ∧
      packet.rst = false ∧
      c.Challenged (c.rx packet).st ∧ ¬ c.tcb.Intact (c.rx packet).st.tcb := by
  intro c packet
  have hs : c.tcb.state = .estab := by decide +kernel
  have hclose : c.tcb.req.closeRequested = false := by decide +kernel
  have hflags : packet.syn = true ∧ packet.rst = false := by decide +kernel
  have hv : (hRxSeq c.tcb.rcv packet.segment).verdict ≠ .acceptButBuffer := by decide +kernel
  refine ⟨hs, hclose, hflags.1, hflags.2, ?_, fun h => ?_⟩
  · rcases rx_syn_receiving (Or.inl hs) hclose hflags.1 hflags.2 with ⟨hbuf, -⟩ | hst
    · exact absurd hbuf hv
    · rw [hst, challenged_sendChallengeAck]
      decide +kernel
  · have hmoved : (c.rx packet).st.tcb.rcv.rcvNxt ≠ c.tcb.rcv.rcvNxt := by decide +kernel
    exact hmoved h.rcvNxt

/-! ## Data after a close -/

/-- The connection was aborted: it is closed, and a reset went out. -/
def Conn.Aborted (c c' : Conn) : Prop :=
  c'.tcb.state = .closed ∧
    ∃ seg, c'.core.out = c.core.out ++ [(c.tcb.socketId, seg)] ∧ seg.rst = true

/-- The segment has a payload byte at or after `rcv_nxt`. -/
def CarriesNew (r : RcvVars) (p : Segment) : Prop :=
  ∃ i < p.data.length, seqGeq ((p.seq + i) % 4294967296) r.rcvNxt

section Close

variable {c : Conn} {p : Segment} {r : RcvVars}

theorem hActiveCloseRx_aborted (c : Conn) (p : Segment) :
    ∃ seg, (c.hActiveCloseRx p).signalRst.core.out = c.core.out ++ [(c.tcb.socketId, seg)] ∧
      seg.rst = true := by
  unfold Conn.hActiveCloseRx Conn.dropWithReset
  split
  · exact ⟨{ TxTcp.bare p.ackSeq 0 0 with rst := true }, by simp [Conn.stopAllTimers], rfl⟩
  · exact ⟨{ c.stopAllTimers.header with ack := true, rst := true, window := 0 },
      by simp [Conn.stopAllTimers], rfl⟩

/-- A segment in order aborts the connection when the payload length that the sequence check left is
not 0, and what is done with it otherwise does not close the connection. -/
theorem finWaitRx_aborted_iff {accept : Conn → Segment → Conn}
    (haccept :
    (accept (c.setRcv (hRxSeq c.tcb.rcv p).rcv) (hRxSeq c.tcb.rcv p).seg).tcb.state ≠ .closed)
    (hclose : c.tcb.req.closeRequested = true) (hrst : p.rst = false) (hsyn : p.syn = false)
    (hacc : (hRxSeq c.tcb.rcv p).verdict = .acceptAndHandle) :
    c.Aborted (c.finWaitRx accept p) ↔ (hRxSeq c.tcb.rcv p).seg.dlen ≠ 0 := by
  have hkeeps := hRxSeq_keeps c.tcb.rcv p
  have habort : (c.setRcv (hRxSeq c.tcb.rcv p).rcv).ActiveCloseRx (hRxSeq c.tcb.rcv p).seg ↔
      (hRxSeq c.tcb.rcv p).seg.dlen ≠ 0 := and_iff_right hclose
  simp only [Conn.finWaitRx, hacc, hkeeps.rst.trans hrst, hkeeps.syn.trans hsyn, Bool.false_eq_true,
    if_false]
  rw [← habort]
  split
  · next h => exact iff_of_true ⟨by simp, hActiveCloseRx_aborted _ _⟩ h
  · next h => exact iff_of_false (fun hab => haccept hab.1) h

theorem aborted_iff {packet : TCPParser} (hs : c.tcb.state = .finWait1 ∨ c.tcb.state = .finWait2)
    (hclose : c.tcb.req.closeRequested = true) (hrst : packet.rst = false)
    (hsyn : packet.syn = false)
    (hacc : (hRxSeq c.tcb.rcv packet.segment).verdict = .acceptAndHandle) :
    c.Aborted (c.rx packet).st ↔ (hRxSeq c.tcb.rcv packet.segment).seg.dlen ≠ 0 := by
  rcases hs with hs | hs
  · simp only [Conn.rx, hs, Conn.rxFinWait1_eq, Outcome.ok_st]
    refine finWaitRx_aborted_iff ?_ hclose hrst hsyn hacc
    rw [Conn.finWait1Accept_state, Conn.finWait1Ack_state, Conn.setRcv_tcb, TCPCB.setRcv_state, hs]
    split_ifs <;> decide
  · simp only [Conn.rx, hs, Conn.rxFinWait2_eq, Outcome.ok_st]
    refine finWaitRx_aborted_iff ?_ hclose hrst hsyn hacc
    rw [Conn.finWait2Accept_state, Conn.setRcv_tcb, TCPCB.setRcv_state, hs]
    split <;> decide

/-- The payload length that the sequence check leaves of a segment in order. -/
theorem hRxSeqNormal_dlen (h : CoversNext r p) : (hRxSeqNormal r p).seg.dlen =
    p.dlen - (seqDiff r.rcvNxt p.seq - p.fin.toInt - p.syn.toInt) := by
  unfold CoversNext at h
  rw [hRxSeqNormal, if_pos h]

/-- A segment whose header claims more bytes than the frame has carries nothing. -/
theorem not_carriesNew (hp : p.Parsed) (h : p.dlen ≤ 0) : ¬ CarriesNew r p := by
  rintro ⟨i, hi, -⟩
  have := hp.length_data
  omega

/-- A segment in order has a new byte when more bytes are in it than lie before `rcv_nxt`. -/
theorem carriesNew_iff (hp : p.Parsed) (hdlen : 0 ≤ p.dlen)
    (hin : seqDiff r.rcvNxt p.seq ≤ 65536) :
    CarriesNew r p ↔ seqDiff r.rcvNxt p.seq < p.dlen := by
  have hlen := hp.length_data
  have hseq := hp.seq_range
  have hrange := hp.dlen_range
  rw [max_eq_right hdlen] at hlen
  unfold seqDiff at *
  constructor
  · rintro ⟨i, hi, hge⟩
    unfold seqGeq seqGt at hge
    omega
  · intro hlt
    refine ⟨((r.rcvNxt - p.seq) % 4294967296).toNat, by omega, ?_⟩
    unfold seqGeq seqGt
    omega

end Close

/-- The FIN does not stand at `rcv_nxt`, and the header does not claim more bytes than the frame
has. -/
def FinPastNext (r : RcvVars) (p : Segment) : Prop :=
  0 ≤ p.dlen ∧ ¬ (p.fin = true ∧ (p.seq + p.dlen) % 4294967296 = r.rcvNxt)

instance (r : RcvVars) (p : Segment) : Decidable (FinPastNext r p) :=
  inferInstanceAs (Decidable (_ ∧ ¬ _))

/-- **After a close only data aborts the connection** exactly when the segment is not a FIN without
new data: for a segment in order in `FIN_WAIT_1` or `FIN_WAIT_2`. -/
theorem close_resets_iff (c : Conn) (packet : TCPParser)
    (hs : c.tcb.state = .finWait1 ∨ c.tcb.state = .finWait2)
    (hn : 0 ≤ c.tcb.rcv.rcvNxt ∧ c.tcb.rcv.rcvNxt < 4294967296)
    (hclose : c.tcb.req.closeRequested = true) (hrst : packet.rst = false)
    (hsyn : packet.syn = false)
    (hacc : (hRxSeq c.tcb.rcv packet.segment).verdict = .acceptAndHandle) :
    (c.Aborted (c.rx packet).st ↔ CarriesNew c.tcb.rcv packet.segment) ↔
      FinPastNext c.tcb.rcv packet.segment := by
  have hp := packet.parsed
  have hlen : packet.segment.segLen = packet.segment.dlen + packet.segment.fin.toInt :=
    segLen_of_syn hsyn
  have hsyn' : packet.segment.syn.toInt = 0 := by
    rw [show packet.segment.syn = false from hsyn]
    rfl
  rw [aborted_iff hs hclose hrst hsyn hacc]
  generalize packet.segment = p at *
  generalize c.tcb.rcv = r at *
  have hbit : p.fin = true ↔ p.fin.toInt = 1 := by cases p.fin <;> decide
  have hfin : 0 ≤ p.fin.toInt ∧ p.fin.toInt ≤ 1 := by cases p.fin <;> decide
  have hdlen := hp.dlen_range
  have hseq := hp.seq_range
  unfold FinPastNext
  rw [hbit]
  by_cases hzero : p.segLen = 0
  · have hseg : (hRxSeq r p).seg = p := (hRxSeq_rcv_eq fun h => h.2.1 hzero).2
    have hno := not_carriesNew (r := r) hp (by omega)
    rw [hseg, iff_false_right hno]
    omega
  · obtain ⟨hwnd, hin⟩ := coversNext_of_handled hzero hacc
    rw [hRxSeq_normal hzero hwnd, hRxSeqNormal_dlen hin, hsyn']
    have hpos : 0 ≤ seqDiff r.rcvNxt p.seq := Int.emod_nonneg _ (by decide)
    by_cases hneg : p.dlen < 0
    · have hno := not_carriesNew (r := r) hp hneg.le
      rw [iff_false_right hno]
      omega
    · have hlt : seqDiff r.rcvNxt p.seq < p.segLen :=
        (coversNext_iff hn hseq (by omega) (by omega)).1 hin
      rw [carriesNew_iff hp (by omega) (by omega)]
      unfold seqDiff at *
      omega

/-- The connection after the application has closed it and its FIN was sent. -/
def sampleClosed : Outcome := run Outcome.step sampleEstab [.usr .tcpClose, .tx]

/-- A byte after the close aborts the connection. -/
theorem close_resets_iff_byte :
    let packet := TCPParser.sample 101 1002 0x10 4096 [7]
    sampleClosed.st.tcb.state = .finWait1 ∧
      (sampleClosed.st.Aborted (sampleClosed.st.rx packet).st ↔
        CarriesNew sampleClosed.st.tcb.rcv packet.segment) :=
  ⟨by decide +kernel,
    (close_resets_iff _ _ (by decide +kernel) (by decide +kernel) (by decide +kernel)
    (by decide +kernel) (by decide +kernel) (by decide +kernel)).2 (by decide +kernel)⟩

/-- The FIN of the peer after the close aborts the connection, although it has no data. -/
theorem close_resets_on_fin :
    let packet := TCPParser.sample 101 1002 0x11 4096 []
    sampleClosed.st.tcb.state = .finWait1 ∧ sampleClosed.st.tcb.req.closeRequested = true ∧
      packet.rst = false ∧ packet.syn = false ∧
      (hRxSeq sampleClosed.st.tcb.rcv packet.segment).verdict = .acceptAndHandle ∧
      sampleClosed.st.Aborted (sampleClosed.st.rx packet).st ∧
      ¬ CarriesNew sampleClosed.st.tcb.rcv packet.segment := by
  refine ⟨by decide +kernel, by decide +kernel, by decide +kernel, by decide +kernel,
    by decide +kernel, ?_, ?_⟩
  · rw [aborted_iff (by decide +kernel) (by decide +kernel) (by decide +kernel) (by decide +kernel)
      (by decide +kernel)]
    decide +kernel
  · exact not_carriesNew (TCPParser.parsed _) (by decide +kernel)

end Tipy.Tcp
