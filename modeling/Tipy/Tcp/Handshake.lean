import Tipy.Tcp.Acceptance
import Tipy.Tcp.SndPhase

/-!
# Opening a connection

The states `SYN_SENT` and `SYN_RECV`. In a simultaneous open the handler of `SYN_RECV` looks only at
segments with SYN, and takes the SYN off by comparing `rcv_nxt - seq` with zero, without the
modulus. So a connection opens by the SYN-ACK of the peer, unless that had the last of all sequence
numbers, and by nothing else (`simultaneous_open_iff`). The handlers of `SEND` in these states
transmit the SYN at `snd_nxt` and move it on. That is right after the rollback of `rtx`, and not for
an event that a call of the application put in the queue (`syn_kept_iff`).
-/

namespace Tipy.Tcp

open Tipy.Lib

/-! ## The end of a simultaneous open -/

/-- `SYN_RECV` in a simultaneous open, with the two initial sequence numbers. -/
structure SimultaneousOpen (iss irs : Int) (t : TCPCB) : Prop where
  state : t.state = .synRecv
  iss_range : 0 ≤ iss ∧ iss < 4294967296
  irs_range : 0 ≤ irs ∧ irs < 4294967296
  sndUna : t.snd.sndUna = iss
  sndNxt : t.snd.sndNxt = (iss + 1) % 4294967296
  rcvNxt : t.rcv.rcvNxt = (irs + 1) % 4294967296
  irs_eq : t.rcv.irs = irs

/-- A segment that opens the connection: it acknowledges the SYN, and is the SYN-ACK of the peer or
the next segment behind its SYN. -/
structure Opens (iss irs : Int) (packet : TCPParser) : Prop where
  rst : packet.rst = false
  fin : packet.fin = false
  ack : packet.ack = true
  ackSeq : (packet.ackSeq : Int) = (iss + 1) % 4294967296
  kind : packet.syn = true ∧ (packet.seq : Int) = irs ∨
    packet.syn = false ∧ (packet.seq : Int) = (irs + 1) % 4294967296

/-- The connection is open, and the thread that waits in `connect` was notified. -/
structure Completes (iss : Int) (c c' : Conn) : Prop where
  state : c'.tcb.state = .estab
  sndUna : c'.tcb.snd.sndUna = (iss + 1) % 4294967296
  woken : c'.core.notices = c.core.notices ++ [(c.tcb.so, .connectEvents)]

section Open

variable {iss irs : Int} {c : Conn} {packet : TCPParser}

theorem hRxAck_syn {s : SndVars} {p : Segment} (hiss : 0 ≤ iss ∧ iss < 4294967296)
    (huna : s.sndUna = iss) (hnxt : s.sndNxt = (iss + 1) % 4294967296)
    (hack : p.ackSeq = (iss + 1) % 4294967296) :
    hRxAck s p = ({ s with sndUna := (iss + 1) % 4294967296 }, 1) := by
  obtain ⟨hlo, hhi⟩ := hiss
  have hin : ¬ (seqLeq p.ackSeq s.sndUna ∨ seqGt p.ackSeq s.sndNxt) := by
    rw [huna, hnxt, hack]
    unfold seqLeq seqLt seqGt
    omega
  have hone : seqDiff p.ackSeq s.sndUna = 1 := by
    rw [huna, hack]
    unfold seqDiff
    omega
  unfold hRxAck
  rw [if_neg hin, hone, hack]

/-- What is left of the SYN-ACK when its SYN was taken off. -/
theorem synRecvSegment_taken (h : SimultaneousOpen iss irs c.tcb) (hseq : (packet.seq : Int) = irs)
    (hirs : irs ≠ 4294967295) : c.synRecvSegment packet.segment =
      { packet.segment with seq := c.tcb.rcv.rcvNxt, syn := false, dlen := 0 } := by
  obtain ⟨hlo, hhi⟩ := h.irs_range
  have hseq' : packet.segment.seq = irs := hseq
  have hpos : 0 < c.tcb.rcv.rcvNxt - packet.segment.seq := by
    rw [h.rcvNxt, hseq']
    omega
  unfold Conn.synRecvSegment
  rw [if_pos hpos, hseq', ← h.rcvNxt]

/-- The sequence check of a segment without length that stands at `rcv_nxt`. -/
theorem hRxSeq_empty_verdict {r : RcvVars} {p : Segment}
    (hlen : p.dlen + p.fin.toInt + p.syn.toInt = 0) (hseq : p.seq = r.rcvNxt) :
    (hRxSeq r p).rcv = r ∧
      ((hRxSeq r p).verdict = .drop ↔ ¬ (r.rcvWnd = 0 ∨ seqLt r.rcvNxt r.rcvAdv)) := by
  unfold hRxSeq
  rw [if_pos hlen]
  by_cases hwnd : r.rcvWnd = 0
  · rw [if_pos hwnd]
    simp [hRxSeqZlenZwnd, hseq, hwnd]
  · have hleq : seqLeq r.rcvNxt p.seq := Or.inl hseq.symm
    rw [if_neg hwnd]
    simp [hRxSeqZlen, hseq, hwnd, seqLeq]

/-- A SYN that was not taken off is dropped. -/
theorem hRxSeq_wrapped_drop {r : RcvVars} {p : Segment} (hfin : p.fin = false) (hsyn : p.syn = true)
    (hdlen : p.dlen = 0) (hseq : p.seq = 4294967295) (hnxt : r.rcvNxt = 0) :
    (hRxSeq r p).verdict = .drop := by
  have hlen : ¬ p.dlen + p.fin.toInt + p.syn.toInt = 0 := by
    rw [hfin, hsyn, hdlen]
    decide
  have hlast : lastSeq p = 4294967295 := by
    simp [lastSeq, hfin, hsyn, hdlen, hseq]
  have hbefore : ¬ seqGeq (4294967295 : Int) 0 := by decide
  have hafter : ¬ seqGt (4294967295 : Int) 0 := by decide
  unfold hRxSeq
  rw [if_neg hlen]
  split
  · rfl
  · unfold hRxSeqNormal
    rw [hlast, hseq, hnxt, if_neg (fun h => hbefore h.2), if_neg (fun h => hafter h.1)]

/-- **A simultaneous open completes** by a SYN-ACK that is in the window and not at the last
sequence number. -/
theorem simultaneous_open_iff (h : SimultaneousOpen iss irs c.tcb) (hp : Opens iss irs packet) :
    Completes iss c (c.rx packet).st ↔ packet.syn = true ∧ irs ≠ 4294967295 ∧
      (c.tcb.rcv.rcvWnd = 0 ∨ seqLt c.tcb.rcv.rcvNxt c.tcb.rcv.rcvAdv) := by
  have hrx : (c.rx packet).st = c.rxSynRecv packet.segment := by
    unfold Conn.rx
    rw [h.state]
    rfl
  have hstays {c' : Conn} (hstate : c'.tcb.state = c.tcb.state) : ¬ Completes iss c c' := by
    intro hc
    have := hc.state
    rw [hstate, h.state] at this
    cases this
  have hack : packet.segment.ack = true := hp.ack
  rw [hrx]
  unfold Conn.rxSynRecv
  rcases hp.kind with ⟨hsyn, hseq⟩ | ⟨hsyn, -⟩
  · have hsyn' : packet.segment.syn = true := hsyn
    have hirs : ¬ seqLt packet.segment.seq c.tcb.rcv.irs := by
      rw [h.irs_eq, show packet.segment.seq = irs from hseq]
      unfold seqLt
      simp
    rw [if_pos ⟨hack, hsyn'⟩, if_neg hirs]
    simp only
    by_cases hwrap : irs = 4294967295
    · have hnxt : c.tcb.rcv.rcvNxt = 0 := by
        rw [h.rcvNxt, hwrap]
        rfl
      have hseq' : packet.segment.seq = 4294967295 := hseq.trans hwrap
      have hkept : c.synRecvSegment packet.segment = { packet.segment with dlen := 0 } := by
        have hneg : ¬ 0 < c.tcb.rcv.rcvNxt - packet.segment.seq := by
          rw [hseq', hnxt]
          decide
        exact if_neg hneg
      have hdrop : (hRxSeq c.tcb.rcv (c.synRecvSegment packet.segment)).verdict = .drop := by
        rw [hkept]
        exact hRxSeq_wrapped_drop hp.fin hsyn' rfl hseq' hnxt
      rw [if_pos hdrop]
      exact iff_of_false (hstays rfl) fun h => h.2.1 hwrap
    · have htaken := synRecvSegment_taken h hseq hwrap
      rw [htaken]
      generalize hq : ({ packet.segment with seq := c.tcb.rcv.rcvNxt, syn := false, dlen := 0 } :
        Segment) = q
      have hlen : q.dlen + q.fin.toInt + q.syn.toInt = 0 := by
        rw [← hq, show packet.segment.fin = false from hp.fin]
        rfl
      obtain ⟨hrcv, hverdict⟩ :=
        hRxSeq_empty_verdict hlen (show q.seq = c.tcb.rcv.rcvNxt by rw [← hq])
      have hqack : (hRxSeq c.tcb.rcv q).seg.ackSeq = (iss + 1) % 4294967296 := by
        rw [hRxSeq_ackSeq, ← hq]
        exact hp.ackSeq
      by_cases hwnd : c.tcb.rcv.rcvWnd = 0 ∨ seqLt c.tcb.rcv.rcvNxt c.tcb.rcv.rcvAdv
      · have hsnd : (c.setRcv (hRxSeq c.tcb.rcv q).rcv).tcb.snd = c.tcb.snd := rfl
        rw [if_neg (hverdict.not_left.2 hwnd), hsnd,
          hRxAck_syn h.iss_range h.sndUna h.sndNxt hqack, if_pos Int.zero_lt_one]
        refine iff_of_true ⟨by simp, by simp, by simp⟩ ⟨hsyn, hwrap, hwnd⟩
      · rw [if_pos (hverdict.2 hwnd)]
        exact iff_of_false (hstays rfl) fun h => hwnd h.2.2
  · have hnosyn : ¬ packet.segment.syn = true := by
      rw [show packet.segment.syn = packet.syn from rfl, hsyn]
      decide
    rw [if_neg fun h => hnosyn h.2]
    exact iff_of_false (hstays rfl) fun h => hnosyn h.1

end Open

/-- A connection in `SYN_RECV`, after a SYN at 500 crossed its own at 1000. -/
def Conn.sampleSynRecv : Conn :=
  ((Conn.sampleNew.activOpen).rx (.sample 500 0 0x02 65535 [])).st

/-- The SYN-ACK of the peer completes the open. -/
theorem simultaneous_open_iff_synAck :
    Completes 1000 Conn.sampleSynRecv
        (Conn.sampleSynRecv.rx (.sample 500 1001 0x12 65535 [])).st := by
  have hopen : SimultaneousOpen 1000 500 Conn.sampleSynRecv.tcb :=
    ⟨by decide, by decide, by decide, by decide, by decide, by decide, by decide⟩
  have hopens : Opens 1000 500 (.sample 500 1001 0x12 65535 []) :=
    ⟨by decide, by decide, by decide, by decide, by decide⟩
  exact (simultaneous_open_iff hopen hopens).2 ⟨by decide, by decide, by decide⟩

/-- The ACK of the peer to the SYN-ACK of this side is ignored. -/
theorem simultaneous_open_stuck :
    SimultaneousOpen 1000 500 Conn.sampleSynRecv.tcb ∧
      Opens 1000 500 (.sample 501 1001 0x10 65535 []) ∧
      ¬ Completes 1000 Conn.sampleSynRecv
          (Conn.sampleSynRecv.rx (.sample 501 1001 0x10 65535 [])).st := by
  refine ⟨⟨by decide, by decide, by decide, by decide, by decide, by decide, by decide⟩,
    ⟨by decide, by decide, by decide, by decide, by decide⟩, fun h => ?_⟩
  have hstate := h.state
  revert hstate
  decide

/-! ## The sequence number of the SYN -/

/-- The states in which the SYN is not acknowledged. -/
def STATES.Opening (s : STATES) : Prop := s = .synSent ∨ s = .synRecv

instance (s : STATES) : Decidable s.Opening := inferInstanceAs (Decidable (_ ∨ _))

/-- The SYN stands at `iss`, in the control block and in all segments sent since `out`. -/
structure SynAt (iss : Int) (out : List (SockId × TxTcp)) (c : Conn) : Prop where
  sndUna : c.tcb.snd.sndUna = iss
  sndNxt : c.tcb.snd.sndNxt = (iss + 1) % 4294967296
  sndMax : c.tcb.snd.sndMax = (iss + 1) % 4294967296
  sent : Emits (fun seg => seg.syn = true → seg.seq = iss) out c.core.out

/-- The condition on an event: no `SEND` is handled before the connection is open, and no reset
refuses it. -/
def AdmitsSyn (iss : Int) (o : Outcome) : ConnEvent → Prop
  | .tx => o.fault = none → ¬ o.st.tcb.state.Opening
  | .rx packet => o.fault = none → o.st.tcb.state = .synSent →
      ¬ (packet.rst = true ∧ (packet.ackSeq : Int) = (iss + 1) % 4294967296)
  | .rtx => True
  | .usr _ => True

section Syn

variable {iss : Int} {out : List (SockId × TxTcp)} {c c' : Conn}

theorem SynAt.congr (h : SynAt iss out c) (hsnd : c'.tcb.snd.sndUna = c.tcb.snd.sndUna ∧
    c'.tcb.snd.sndNxt = c.tcb.snd.sndNxt ∧ c'.tcb.snd.sndMax = c.tcb.snd.sndMax)
    (hout : Emits (fun seg => seg.syn = true → seg.seq = iss) c.core.out c'.core.out) :
    SynAt iss out c' where
  sndUna := hsnd.1.trans h.sndUna
  sndNxt := hsnd.2.1.trans h.sndNxt
  sndMax := hsnd.2.2.trans h.sndMax
  sent := h.sent.trans hout

/-- A reset and an acknowledgement have no SYN. -/
theorem emits_dropWithReset (c : Conn) (p : Segment) :
    Emits (fun seg => seg.syn = true → seg.seq = iss) c.core.out (c.dropWithReset p).core.out := by
  refine (Emits.dropWithReset c p).mono fun seg hempty hsyn => ?_
  rw [hempty.2] at hsyn
  cases hsyn

/-- The SYN is transmitted again after `snd_nxt` was set back to it. -/
theorem SynAt.resent (h : SynAt iss out c) (seg : TxTcp) (hseq : seg.seq = iss)
    (hsnd : c'.tcb.snd.sndUna = iss ∧ c'.tcb.snd.sndNxt = (iss + 1) % 4294967296 ∧
      c'.tcb.snd.sndMax = c.tcb.snd.sndMax)
    (hout : c'.core.out = c.core.out ++ [(c.tcb.socketId, seg)]) : SynAt iss out c' := by
  refine ⟨hsnd.1, hsnd.2.1, hsnd.2.2.trans h.sndMax, h.sent.trans ?_⟩
  rw [hout]
  exact .append _ _ fun _ => hseq

theorem activOpen_synAt (c : Conn) : SynAt c.tcb.snd.iss c.core.out c.activOpen := by
  refine ⟨by simp [Conn.activOpen, initSndSeq], by simp [Conn.activOpen, initSndSeq],
    by simp [Conn.activOpen, initSndSeq], ?_⟩
  have hout : c.activOpen.core.out = c.core.out ++ [(c.tcb.socketId,
      { TxTcp.bare c.tcb.snd.iss 0 DEFAULT_RCV_WND with syn := true, mssOption := true })] := by
    simp [Conn.activOpen]
  rw [hout]
  exact .append _ _ fun _ => rfl

/-! ### The retransmission, and the crossing of two SYNs -/

theorem SynAt.rtx (h : SynAt iss out c) (hs : c.tcb.state.Opening) : SynAt iss out c.rtx.st := by
  have hstate : c.prepareRtx.tcb.state = c.tcb.state := rfl
  have huna : (rollbackToUna c.tcb.snd).sndNxt = iss := h.sndUna
  rcases hs with hs | hs
  · have hrtx : c.rtx.st = c.prepareRtx.txSynSent := by
      unfold Conn.rtx Conn.tx
      rw [hstate, hs]
      rfl
    rw [hrtx]
    refine h.resent { c.prepareRtx.header with syn := true } huna ⟨?_, ?_, ?_⟩ ?_
    · simpa [Conn.txSynSent, Conn.prepareRtx, rollbackToUna] using h.sndUna
    · simp [Conn.txSynSent, Conn.prepareRtx, huna]
    · simp [Conn.txSynSent, Conn.prepareRtx, rollbackToUna]
    · simp [Conn.txSynSent, Conn.prepareRtx]
  · have hrtx : c.rtx.st = c.prepareRtx.txSynRecv := by
      unfold Conn.rtx Conn.tx
      rw [hstate, hs]
      rfl
    rw [hrtx]
    refine h.resent { c.prepareRtx.header with syn := true, ack := true } huna ⟨?_, ?_, ?_⟩ ?_
    · simpa [Conn.txSynRecv, Conn.prepareRtx, rollbackToUna] using h.sndUna
    · simp [Conn.txSynRecv, Conn.prepareRtx, huna]
    · simp [Conn.txSynRecv, Conn.prepareRtx, rollbackToUna]
    · simp [Conn.txSynRecv, Conn.prepareRtx]

theorem SynAt.simultaneous (h : SynAt iss out c) (p : Segment) :
    SynAt iss out (c.synSentSimultaneous p) := by
  have huna : c.tcb.snd.sndUna = iss := h.sndUna
  refine h.resent { TxTcp.bare iss ((p.seq + 1) % 4294967296) c.tcb.rcv.rcvWnd with
    syn := true, ack := true } rfl ⟨?_, ?_, ?_⟩ ?_
  · simpa [Conn.synSentSimultaneous, initSndWnd, rollbackToUna] using h.sndUna
  · simp [Conn.synSentSimultaneous, initSndWnd, rollbackToUna, huna]
  · simp [Conn.synSentSimultaneous, initSndWnd, rollbackToUna]
  · simp [Conn.synSentSimultaneous, initSndWnd, rollbackToUna, initRcvSeq, Conn.header, huna]

/-! ### Segments -/

/-- Only the number behind the SYN is an acknowledgement. -/
theorem SynAt.hRxAck_pos_iff (h : SynAt iss out c) {p : Segment} (hiss : 0 ≤ iss ∧ iss < 4294967296)
    (hp : 0 ≤ p.ackSeq ∧ p.ackSeq < 4294967296) :
    0 < (hRxAck c.tcb.snd p).2 ↔ p.ackSeq = (iss + 1) % 4294967296 := by
  obtain ⟨hlo, hhi⟩ := hiss
  obtain ⟨hplo, hphi⟩ := hp
  constructor
  · intro hpos
    unfold hRxAck at hpos
    split at hpos
    · exact absurd hpos (lt_irrefl _)
    · next hin =>
      rw [h.sndUna, h.sndNxt] at hin
      unfold seqLeq seqLt seqGt at hin
      omega
  · intro hack
    rw [hRxAck_syn ⟨hlo, hhi⟩ h.sndUna h.sndNxt hack]
    exact Int.zero_lt_one

/-- A segment in `SYN_SENT` that is not a reset of the connection. -/
theorem SynAt.rxSynSent (h : SynAt iss out c) {p : Segment}
    (hrst : ¬ (p.rst = true ∧ 0 < (hRxAck c.tcb.snd p).2)) :
    SynAt iss out (c.rxSynSent p).st ∨ (c.rxSynSent p).st.tcb.state = .estab ∨
      (c.rxSynSent p).fault ≠ none := by
  unfold Conn.rxSynSent
  rw [if_neg hrst]
  split
  · exact Or.inl h
  · split
    · split
      · cases hopt : p.options with
        | error e => exact Or.inr (Or.inr (by simp))
        | ok mss =>
          refine Or.inr (Or.inl ?_)
          simp only [Outcome.ok_st, Conn.synSentEstab]
          split <;> simp
      · exact Or.inl (h.congr (by simp) (emits_dropWithReset c p))
    · split
      · exact Or.inl (h.simultaneous p)
      · exact Or.inl h

/-- A reset that acknowledges the SYN moves `snd_una`, and the state stays. -/
theorem rxSynSent_refused {p : Segment} (hrst : p.rst = true) (hpos : 0 < (hRxAck c.tcb.snd p).2) :
    (c.rxSynSent p).fault = none ∧ (c.rxSynSent p).st.tcb.state = c.tcb.state ∧
      (c.rxSynSent p).st.tcb.snd = (hRxAck c.tcb.snd p).1 := by
  unfold Conn.rxSynSent
  rw [if_pos ⟨hrst, hpos⟩]
  simp

theorem SynAt.rxSynRecv (h : SynAt iss out c) (p : Segment) :
    SynAt iss out (c.rxSynRecv p) ∨ (c.rxSynRecv p).tcb.state = .estab := by
  unfold Conn.rxSynRecv
  simp only
  split_ifs
  · exact Or.inl (h.congr (by simp) (emits_dropWithReset c p))
  · exact Or.inl (h.congr (by simp) (.append _ _ nofun))
  · exact Or.inr (by simp)
  · exact Or.inl (h.congr (by simp) (emits_dropWithReset (c.setRcv _) _))
  · exact Or.inl h

/-! ### Runs -/

/-- While the connection opens, and the event loop is alive, the SYN stands at `iss`. -/
def SynHeld (iss : Int) (out : List (SockId × TxTcp)) (o : Outcome) : Prop :=
  o.fault = none → o.st.tcb.state.Opening → SynAt iss out o.st

/-- A connection that is open does not open again. -/
theorem not_opening_step {o : Outcome} (h : ¬ o.st.tcb.state.Opening) (e : ConnEvent) :
    ¬ (o.step e).st.tcb.state.Opening := by
  have hnext := o.step_next e
  revert h hnext
  cases o.st.tcb.state <;> cases (o.step e).st.tcb.state <;> decide

theorem not_opening_estab : ¬ STATES.estab.Opening := by decide

/-- **One event** that is admitted keeps the SYN where it is. -/
theorem SynHeld.step {o : Outcome} (h : SynHeld iss out o) (hiss : 0 ≤ iss ∧ iss < 4294967296)
    {e : ConnEvent} (hadm : AdmitsSyn iss o e) : SynHeld iss out (o.step e) := by
  intro hfault hopening
  have hf : o.fault = none := Outcome.fault_of_step hfault
  have hs : o.st.tcb.state.Opening := by
    by_contra hnot
    exact not_opening_step hnot e hopening
  have hsyn := h hf hs
  cases e with
  | usr q =>
    refine hsyn.congr ?_ ?_
    · cases q with
      | tcpSend data =>
        simp only [Outcome.step, UserRequest.apply, Conn.tcpSend]
        split <;> simp
      | tcpRecv bufsize =>
        simp only [Outcome.step, UserRequest.apply, Conn.tcpRecv]
        split <;> simp
      | _ => exact ⟨rfl, rfl, rfl⟩
    · have hout : (q.apply o.st).core.out = o.st.core.out := by
        cases q with
        | tcpSend data =>
          simp only [UserRequest.apply, Conn.tcpSend]
          split <;> rfl
        | tcpRecv bufsize =>
          simp only [UserRequest.apply, Conn.tcpRecv]
          split <;> rfl
        | _ => rfl
      simp only [Outcome.step, hout]
      exact .refl _ _
  | tx => exact absurd hs (hadm hf)
  | rtx =>
    simp only [Outcome.step, hf, ConnEvent.handler]
    exact hsyn.rtx hs
  | rx packet =>
    have hstep : o.step (.rx packet) = o.st.rx packet := by
      simp only [Outcome.step, hf, ConnEvent.handler]
    rw [hstep] at hfault hopening ⊢
    rcases hs with hs | hs
    · have hrx : o.st.rx packet = o.st.rxSynSent packet.segment := by
        unfold Conn.rx
        rw [hs]
      have hrst : ¬ (packet.segment.rst = true ∧ 0 < (hRxAck o.st.tcb.snd packet.segment).2) := by
        rw [hsyn.hRxAck_pos_iff hiss packet.parsed.ackSeq_range]
        exact hadm hf hs
      rw [hrx] at hfault hopening ⊢
      rcases hsyn.rxSynSent hrst with hnext | hestab | hdead
      · exact hnext
      · rw [hestab] at hopening
        exact absurd hopening not_opening_estab
      · exact absurd hfault hdead
    · have hrx : (o.st.rx packet).st = o.st.rxSynRecv packet.segment := by
        unfold Conn.rx
        rw [hs]
        rfl
      rw [hrx] at hopening ⊢
      rcases hsyn.rxSynRecv packet.segment with hnext | hestab
      · exact hnext
      · rw [hestab] at hopening
        exact absurd hopening not_opening_estab

/-- An event that is not admitted moves the SYN. -/
theorem SynHeld.admits {o : Outcome} (h : SynHeld iss out o) (hiss : 0 ≤ iss ∧ iss < 4294967296)
    {e : ConnEvent} (hnext : SynHeld iss out (o.step e)) : AdmitsSyn iss o e := by
  obtain ⟨hlo, hhi⟩ := hiss
  cases e with
  | usr q => trivial
  | rtx => trivial
  | tx =>
    intro hf hs
    have hsyn := h hf hs
    have htx : ∃ c', o.step .tx = .ok c' ∧ c'.tcb.state = o.st.tcb.state ∧
        c'.tcb.snd.sndNxt = (o.st.tcb.snd.sndNxt + 1) % 4294967296 := by
      simp only [Outcome.step, hf, ConnEvent.handler]
      unfold Conn.tx
      rcases hs with hs | hs
      · rw [hs]
        exact ⟨_, rfl, by simp [Conn.txSynSent, hs], by simp [Conn.txSynSent]⟩
      · rw [hs]
        exact ⟨_, rfl, by simp [Conn.txSynRecv, hs], by simp [Conn.txSynRecv]⟩
    obtain ⟨c', hstep, hstate, hnxt⟩ := htx
    rw [hstep] at hnext
    have hkept := (hnext rfl (by rw [Outcome.ok_st, hstate]; exact hs)).sndNxt
    rw [Outcome.ok_st, hnxt, hsyn.sndNxt] at hkept
    omega
  | rx packet =>
    rintro hf hs ⟨hrst, hack⟩
    have hsyn := h hf (Or.inl hs)
    have hack' : hRxAck o.st.tcb.snd packet.segment =
        ({ o.st.tcb.snd with sndUna := (iss + 1) % 4294967296 }, 1) :=
      hRxAck_syn ⟨hlo, hhi⟩ hsyn.sndUna hsyn.sndNxt hack
    have hpos : 0 < (hRxAck o.st.tcb.snd packet.segment).2 := by
      rw [hack']
      exact Int.zero_lt_one
    have hrx : o.step (.rx packet) = o.st.rxSynSent packet.segment := by
      simp only [Outcome.step, hf, ConnEvent.handler]
      unfold Conn.rx
      rw [hs]
    obtain ⟨hfault, hstate, hsnd⟩ := rxSynSent_refused (c := o.st) (p := packet.segment) hrst hpos
    rw [hrx] at hnext
    have hkept := (hnext hfault (by rw [hstate]; exact Or.inl hs)).sndUna
    rw [hsnd, hack'] at hkept
    simp only at hkept
    omega

end Syn

/-- **The SYN keeps its sequence number** in exactly the runs in which no `SEND` is handled and no
reset accepted before the connection is open. -/
theorem syn_kept_iff (c : Conn) (hiss : 0 ≤ c.tcb.snd.iss ∧ c.tcb.snd.iss < 4294967296)
    (es : List ConnEvent) :
    (∀ pre, pre <+: es →
    SynHeld c.tcb.snd.iss c.core.out (run Outcome.step (.ok c.activOpen) pre)) ↔
      Guarded Outcome.step (AdmitsSyn c.tcb.snd.iss) (.ok c.activOpen) es :=
  forall_reached_iff_guarded (D := fun _ _ => True) (fun _ h => h)
    (fun _ _ h _ hadm => h.step hiss hadm) (fun _ _ h _ hnext => h.admits hiss hnext)
    (fun _ _ => activOpen_synAt c)
      (guarded_of_forall_mem (P := fun _ => True) (fun _ _ => trivial) _)

/-- Two retransmissions, and a reset that acknowledges something else: the connection still opens
and the SYN stands at 1000. -/
theorem syn_kept_iff_rtx :
    SynAt 1000 [] (run Outcome.step (.ok Conn.sampleNew.activOpen)
      [.rtx, .rx (.sample 0 77 0x14 0 []), .rtx]).st :=
  (syn_kept_iff Conn.sampleNew ⟨by decide, by decide⟩ [.rtx, .rx (.sample 0 77 0x14 0 []), .rtx]).2
    ⟨trivial, fun _ _ h => absurd h.2 (by decide), trivial, trivial⟩ _ (List.prefix_refl _)
    (by decide) (by decide)

/-- A `SEND` while `connect` waits. -/
theorem syn_moved_by_send :
    ¬ SynHeld 1000 [] (run Outcome.step (.ok Conn.sampleNew.activOpen) [.usr .tcpClose, .tx]) := by
  intro h
  have hnxt := (h (by decide) (by decide)).sndNxt
  revert hnxt
  decide

end Tipy.Tcp
