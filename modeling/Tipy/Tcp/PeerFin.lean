import Tipy.Tcp.RcvWindow

/-!
# The FIN of the peer

The sequence check moves `rcv_nxt` over a FIN; the handler changes the state later, if it gets
there. `FinArrives` says, of the receive side and the segment, that the FIN will be consumed, and
`FinActedOn` that the handler also changes the state. A run keeps a flag that is raised when a FIN
is consumed in `ESTAB`, `FIN_WAIT_1` or `FIN_WAIT_2`; the state shows it all along the run exactly
when every FIN that arrives is acted on.
-/

namespace Tipy.Tcp

open Tipy.Lib

/-! ## Consuming a FIN -/

/-- The sequence number of the FIN of a segment. -/
def finSeq (p : Segment) : Int := p.seq + p.dlen + p.syn.toInt

/-- Between two receive sides `rcv_nxt` went over the FIN of the segment. -/
def ConsumesFin (r r' : RcvVars) (p : Segment) : Prop :=
  p.fin = true ∧ seqDiff (finSeq p) r.rcvNxt < seqDiff r'.rcvNxt r.rcvNxt

instance (r r' : RcvVars) (p : Segment) : Decidable (ConsumesFin r r' p) :=
  inferInstanceAs (Decidable (_ ∧ _))

/-- The segment is in order and its FIN lies inside the window. -/
structure FinArrives (r : RcvVars) (p : Segment) : Prop where
  fin : p.fin = true
  length : p.dlen + p.fin.toInt + p.syn.toInt ≠ 0
  wnd : r.rcvWnd ≠ 0
  lower : seqLeq p.seq r.rcvNxt
  upper : seqGeq (lastSeq p) r.rcvNxt
  inside : seqDiff (finSeq p) r.rcvNxt < seqDiff r.rcvAdv r.rcvNxt - 1

instance (r : RcvVars) (p : Segment) : Decidable (FinArrives r p) :=
  decidable_of_iff (p.fin = true ∧ p.dlen + p.fin.toInt + p.syn.toInt ≠ 0 ∧ r.rcvWnd ≠ 0 ∧
      seqLeq p.seq r.rcvNxt ∧ seqGeq (lastSeq p) r.rcvNxt ∧
      seqDiff (finSeq p) r.rcvNxt < seqDiff r.rcvAdv r.rcvNxt - 1)
    ⟨fun ⟨h₁, h₂, h₃, h₄, h₅, h₆⟩ => ⟨h₁, h₂, h₃, h₄, h₅, h₆⟩,
      fun h => ⟨h.fin, h.length, h.wnd, h.lower, h.upper, h.inside⟩⟩

theorem lastSeq_of_fin {p : Segment} (h : p.fin = true) : lastSeq p = finSeq p := by
  simp only [lastSeq, finSeq, h, or_true, true_or, if_true, Bool.toInt_true]
  omega

section Arrives

variable {r : RcvVars} {p : Segment}

theorem FinArrives.hRxSeq (h : FinArrives r p) : Tcp.hRxSeq r p = hRxSeqNormal r p := by
  unfold Tcp.hRxSeq
  rw [if_neg h.length, if_neg h.wnd]

theorem FinArrives.verdict (h : FinArrives r p) :
    (Tcp.hRxSeq r p).verdict = .acceptAndHandle := by
  rw [h.hRxSeq, hRxSeqNormal, if_pos ⟨h.lower, h.upper⟩]

/-- The sequence check consumes exactly the FINs that arrive. -/
theorem consumesFin_hRxSeq (hw : r.Window) :
    ConsumesFin r (Tcp.hRxSeq r p).rcv p ↔ FinArrives r p := by
  have hself : ∀ n, ¬ seqDiff n r.rcvNxt < seqDiff r.rcvNxt r.rcvNxt := by
    intro n
    unfold seqDiff
    omega
  constructor
  · rintro ⟨hfin, hlt⟩
    unfold Tcp.hRxSeq at hlt
    split_ifs at hlt with hlen hwnd hwnd
    · exact absurd hlt (hself _)
    · exact absurd hlt (hself _)
    · exact absurd hlt (hself _)
    · unfold hRxSeqNormal at hlt
      split_ifs at hlt with hin
      · refine ⟨hfin, hlen, hwnd, hin.1, hin.2, ?_⟩
        have hpos := hw.pos
        have hle := hw.le
        simp only [acceptedLen, lastSeq_of_fin hfin] at hlt
        unfold seqDiff at *
        omega
      · exact absurd hlt (hself _)
      · exact absurd hlt (hself _)
  · intro h
    refine ⟨h.fin, ?_⟩
    have hpos := hw.pos
    have hle := hw.le
    have hin := h.inside
    rw [h.hRxSeq, hRxSeqNormal, if_pos ⟨h.lower, h.upper⟩]
    simp only [acceptedLen, lastSeq_of_fin h.fin]
    unfold seqDiff at *
    omega

/-- The FIN is still set after the check, and the length that is left counts it. -/
theorem FinArrives.seg (h : FinArrives r p) (hw : r.Window) :
    (Tcp.hRxSeq r p).seg.fin = true ∧ (Tcp.hRxSeq r p).seg.dlen ≠ 0 ∧
      (Tcp.hRxSeq r p).seg.rst = p.rst ∧ (Tcp.hRxSeq r p).seg.syn = p.syn ∧
      (Tcp.hRxSeq r p).seg.ackSeq = p.ackSeq := by
  have hpos := hw.pos
  have hle := hw.le
  have hin := h.inside
  have hup := h.upper
  rw [h.hRxSeq, hRxSeqNormal, if_pos ⟨h.lower, h.upper⟩]
  refine ⟨?_, ?_, rfl, rfl, rfl⟩
  · simp only [h.fin, Bool.true_and, Bool.not_eq_true', decide_eq_false_iff_not]
    rw [lastSeq_of_fin h.fin]
    unfold seqGeq seqGt
    unfold seqDiff at *
    omega
  · rw [lastSeq_of_fin h.fin] at hup
    simp only [h.fin, Bool.toInt_true]
    unfold seqGeq seqGt at hup
    unfold finSeq seqDiff at *
    omega

end Arrives

/-! ## Acting on it -/

/-- The states that show that a FIN was consumed. -/
def STATES.ShowsFin (s : STATES) : Prop := s ∈ [.closeWait, .closing, .lastAck, .timeWait, .closed]

instance (s : STATES) : Decidable s.ShowsFin := inferInstanceAs (Decidable (s ∈ _))

/-- The states in which a FIN can be consumed. -/
def STATES.TakesFin (s : STATES) : Prop := s ∈ [.estab, .finWait1, .finWait2]

instance (s : STATES) : Decidable s.TakesFin := inferInstanceAs (Decidable (s ∈ _))

/-- The handler gets to the change of state: the segment has a RST; or it has no SYN and, in
`FIN_WAIT_1`, acknowledges something new; or the application has closed the socket, in which case
the connection is aborted in `FIN_WAIT_1` and `FIN_WAIT_2`. -/
def Conn.FinActedOn (c : Conn) (p : Segment) : Prop :=
  p.rst = true ∨ c.tcb.state ≠ .estab ∧ c.tcb.req.closeRequested = true ∨
    p.syn = false ∧ (c.tcb.state = .finWait1 → 0 < (hRxAck c.tcb.snd p).2)

instance (c : Conn) (p : Segment) : Decidable (c.FinActedOn p) :=
  inferInstanceAs (Decidable (_ ∨ _ ∧ _ ∨ _ ∧ _))

namespace Conn

variable {c : Conn} {p : Segment}

theorem rxEstab_showsFin (h : FinArrives c.tcb.rcv p) (hw : c.tcb.rcv.Window)
    (hs : c.tcb.state = .estab) :
    (c.rxEstab p).tcb.state.ShowsFin ↔ c.FinActedOn p := by
  obtain ⟨hfin, -, hrst, hsyn, -⟩ := h.seg hw
  simp only [rxEstab, h.verdict, hrst, hsyn, FinActedOn, hs]
  cases p.rst with
  | true => simp [STATES.ShowsFin]
  | false =>
    cases p.syn with
    | true => simp [STATES.ShowsFin, hs]
    | false => simp [estabAccept, hfin, STATES.ShowsFin]

theorem rxFinWait1_showsFin (h : FinArrives c.tcb.rcv p) (hw : c.tcb.rcv.Window)
    (hs : c.tcb.state = .finWait1) :
    (c.rxFinWait1 p).tcb.state.ShowsFin ↔ c.FinActedOn p := by
  obtain ⟨hfin, hlen, hrst, hsyn, hack⟩ := h.seg hw
  have hacked : hRxAck c.tcb.snd (hRxSeq c.tcb.rcv p).seg = hRxAck c.tcb.snd p := by
    simp only [hRxAck, hack]
  simp only [rxFinWait1, h.verdict, hrst, hsyn, FinActedOn, hs, ActiveCloseRx]
  cases p.rst with
  | true => simp [STATES.ShowsFin]
  | false =>
    cases hclose : c.tcb.req.closeRequested with
    | true => simp [STATES.ShowsFin, hclose, hlen]
    | false =>
      cases p.syn with
      | true => simp [STATES.ShowsFin, hs, hclose]
      | false =>
        have hstate :=
          finWait1Ack_state (c.setRcv (hRxSeq c.tcb.rcv p).rcv) (hRxSeq c.tcb.rcv p).seg
        simp only [setRcv_tcb, TCPCB.setRcv_snd, TCPCB.setRcv_state, hacked, hfin, hs] at hstate
        simp only [setRcv_tcb, TCPCB.setRcv_req, hclose, finWait1Accept_state, hstate,
          Bool.false_eq_true, false_and, if_false, false_or, and_false, ne_eq, if_true,
            true_and, forall_const]
        split_ifs with hpos hall <;> simp [STATES.ShowsFin, hpos]

theorem rxFinWait2_showsFin (h : FinArrives c.tcb.rcv p) (hw : c.tcb.rcv.Window)
    (hs : c.tcb.state = .finWait2) :
    (c.rxFinWait2 p).tcb.state.ShowsFin ↔ c.FinActedOn p := by
  obtain ⟨hfin, hlen, hrst, hsyn, -⟩ := h.seg hw
  simp only [rxFinWait2, h.verdict, hrst, hsyn, FinActedOn, hs, ActiveCloseRx]
  cases p.rst with
  | true => simp [STATES.ShowsFin]
  | false =>
    cases hclose : c.tcb.req.closeRequested with
    | true => simp [STATES.ShowsFin, hclose, hlen]
    | false =>
      cases p.syn with
      | true => simp [STATES.ShowsFin, hs, hclose]
      | false => simp [hclose, finWait2Accept_state, hfin, STATES.ShowsFin]

/-- The handlers after the sequence check leave `rcv_nxt` where it put it. -/
theorem rx_rcvNxt (packet : TCPParser) (hs : c.tcb.state.TakesFin) :
    (c.rx packet).st.tcb.rcv.rcvNxt = (hRxSeq c.tcb.rcv packet.segment).rcv.rcvNxt := by
  have happend : ∀ (r : RcvVars) (p : Segment), (appendRcvData r p).rcvNxt = r.rcvNxt := by
    intro r p
    unfold appendRcvData
    simp only
    split_ifs <;> rfl
  have hcompute : ∀ r : RcvVars, (computeRcvWnd r).rcvNxt = r.rcvNxt := fun _ => rfl
  simp only [STATES.TakesFin, List.mem_cons, List.not_mem_nil, or_false] at hs
  rcases hs with hs | hs | hs
  · simp only [rx, hs, Outcome.ok_st, rxEstab, estabAccept]
    split
    · split_ifs <;> simp [happend]
    · simp
    · simp
  · simp only [rx, hs, Outcome.ok_st, rxFinWait1, finWait1Accept]
    split
    · split_ifs <;> simp [happend, finWait1Ack_rcv, apply_ite RcvVars.rcvNxt, hcompute]
    · simp
    · simp
  · simp only [rx, hs, Outcome.ok_st, rxFinWait2, finWait2Accept]
    split
    · split_ifs <;> simp [happend, hcompute]
    · simp
    · simp

/-- **One segment.** In a state that takes a FIN, the FIN is consumed when it arrives, and the state
shows it exactly when it is acted on. -/
theorem rx_showsFin (packet : TCPParser) (hw : c.tcb.rcv.Window) (hs : c.tcb.state.TakesFin) :
    (ConsumesFin c.tcb.rcv (c.rx packet).st.tcb.rcv packet.segment ↔
        FinArrives c.tcb.rcv packet.segment) ∧
      (FinArrives c.tcb.rcv packet.segment →
        ((c.rx packet).st.tcb.state.ShowsFin ↔ c.FinActedOn packet.segment)) := by
  refine ⟨?_, fun h => ?_⟩
  · rw [← consumesFin_hRxSeq hw]
    unfold ConsumesFin
    rw [c.rx_rcvNxt packet hs]
  · simp only [STATES.TakesFin, List.mem_cons, List.not_mem_nil, or_false] at hs
    rcases hs with hs | hs | hs
    · simpa [rx, hs] using rxEstab_showsFin h hw hs
    · simpa [rx, hs] using rxFinWait1_showsFin h hw hs
    · simpa [rx, hs] using rxFinWait2_showsFin h hw hs

end Conn

/-! ## Runs -/

/-- A connection and whether a FIN of the peer was consumed in it. -/
structure FinRun where
  o : Outcome
  consumed : Bool

namespace FinRun

/-- The step of the connection; the flag is raised by an event that consumes a FIN. -/
def step (t : FinRun) (e : ConnEvent) : FinRun where
  o := t.o.step e
  consumed := t.consumed || match e with
    | .rx packet => decide (t.o.st.tcb.state.TakesFin ∧
        ConsumesFin t.o.st.tcb.rcv (t.o.step e).st.tcb.rcv packet.segment)
    | _ => false

/-- Once a FIN was consumed the state shows it. -/
def Shows (t : FinRun) : Prop := t.consumed = true → t.o.st.tcb.state.ShowsFin

/-- The condition on an event: a FIN that arrives is acted on. -/
def Admits (t : FinRun) : ConnEvent → Prop
  | .rx packet => t.o.fault = none → t.o.st.tcb.state.TakesFin →
      FinArrives t.o.st.tcb.rcv packet.segment → t.o.st.FinActedOn packet.segment
  | _ => True

instance (t : FinRun) : Decidable t.Shows := inferInstanceAs (Decidable (_ → _))

instance (t : FinRun) : (e : ConnEvent) → Decidable (t.Admits e)
  | .rx _ => inferInstanceAs (Decidable (_ → _ → _ → _))
  | .tx | .rtx | .usr _ => .isTrue trivial

/-- The invariant: an open window, and the flag is shown. -/
structure Inv (t : FinRun) : Prop where
  notSynSent : t.o.st.tcb.state ≠ .synSent
  notListen : t.o.st.tcb.state ≠ .listen
  window : t.o.st.tcb.rcv.Window
  shows : t.Shows

variable {t : FinRun}

/-- No event leads out of the states that show a FIN. -/
theorem showsFin_step (e : ConnEvent) (h : t.o.st.tcb.state.ShowsFin) :
    (t.o.step e).st.tcb.state.ShowsFin := by
  have hnext := t.o.step_next e
  revert h hnext
  cases t.o.st.tcb.state <;> cases (t.o.step e).st.tcb.state <;> decide

theorem Inv.step_frame (h : t.Inv) (e : ConnEvent) : (t.step e).o.st.tcb.state ≠ .synSent ∧
    (t.step e).o.st.tcb.state ≠ .listen ∧ (t.step e).o.st.tcb.rcv.Window := by
  obtain ⟨hs, hl⟩ := run_leaves_synSent h.notSynSent h.notListen [e]
  exact ⟨hs, hl, (Outcome.step_moves e h.notSynSent h.notListen h.window).1⟩

/-- The flag goes up in a step exactly when a FIN arrives at a living event loop. -/
theorem consumed_step (h : t.Inv) (e : ConnEvent) (hc : t.consumed = false) :
    (t.step e).consumed = true ↔ ∃ packet, e = .rx packet ∧ t.o.fault = none ∧
      t.o.st.tcb.state.TakesFin ∧ FinArrives t.o.st.tcb.rcv packet.segment := by
  cases e with
  | rx packet =>
    cases hf : t.o.fault with
    | none =>
      simp only [FinRun.step, hc, Bool.false_or, decide_eq_true_eq, Outcome.step, hf,
        ConnEvent.handler, ConnEvent.rx.injEq, exists_eq_left', true_and]
      exact and_congr_right fun hs => (Conn.rx_showsFin packet h.window hs).1
    | some f =>
      have hself : ¬ ConsumesFin t.o.st.tcb.rcv t.o.st.tcb.rcv packet.segment := by
        rintro ⟨-, hlt⟩
        unfold seqDiff at hlt
        omega
      simp [FinRun.step, hc, Outcome.step, hf, hself]
  | tx => simp [FinRun.step, hc]
  | rtx => simp [FinRun.step, hc]
  | usr q => simp [FinRun.step, hc]

theorem Inv.step (h : t.Inv) {e : ConnEvent} (hadm : t.Admits e) : (t.step e).Inv := by
  obtain ⟨hs, hl, hw⟩ := h.step_frame e
  refine ⟨hs, hl, hw, fun hc' => ?_⟩
  cases hc : t.consumed with
  | true => exact showsFin_step e (h.shows hc)
  | false =>
    obtain ⟨packet, rfl, hf, htakes, harr⟩ := (consumed_step h e hc).1 hc'
    have := ((Conn.rx_showsFin packet h.window htakes).2 harr).2 (hadm hf htakes harr)
    simpa only [FinRun.step, Outcome.step, hf, ConnEvent.handler] using this

theorem Inv.admits_of_shows (h : t.Inv) {e : ConnEvent} (hs : (t.step e).Shows) : t.Admits e := by
  cases e with
  | rx packet =>
    intro hf htakes harr
    refine ((Conn.rx_showsFin packet h.window htakes).2 harr).1 ?_
    have hc' : (t.step (.rx packet)).consumed = true := by
      cases hc : t.consumed with
      | true => simp [FinRun.step, hc]
      | false => exact (consumed_step h _ hc).2 ⟨packet, rfl, hf, htakes, harr⟩
    simpa only [FinRun.step, Outcome.step, hf, ConnEvent.handler] using hs hc'
  | tx => trivial
  | rtx => trivial
  | usr q => trivial

end FinRun

/-- **A consumed FIN shows in the state exactly when every FIN is acted on.** From any connection
that has completed its handshake, in a run of events and requests: after every event, a FIN consumed
so far is reflected in the state, if and only if every segment whose FIN arrives in `ESTAB`,
`FIN_WAIT_1` or `FIN_WAIT_2` meets `FinActedOn`. -/
theorem peer_fin_shown_iff (ref so : Nat) (socketId : SockId) (soLinger : Option (List UInt8))
    (iss : Int) (k : Core) (es es' : List ConnEvent)
    (hestab : (run Outcome.step (.connected ref so socketId soLinger iss k) es).st.tcb.state =
      .estab) :
    (∀ pre, pre <+: es' → (run FinRun.step
        ⟨run Outcome.step (.connected ref so socketId soLinger iss k) es, false⟩ pre).Shows) ↔
      Guarded FinRun.step FinRun.Admits
        ⟨run Outcome.step (.connected ref so socketId soLinger iss k) es, false⟩ es' := by
  have hinv := run_rcvInv ref so socketId soLinger iss k es
  have hw :
      (run Outcome.step (.connected ref so socketId soLinger iss k) es).st.tcb.rcv.Window := by
    rcases hinv with ⟨hbad, -⟩ | ⟨-, -, hw⟩
    · rw [hestab] at hbad
      cases hbad
    · exact hw
  refine forall_reached_iff_guarded (D := fun _ _ => True) (I := FinRun.Inv)
    (fun _ h => h.shows) (fun _ _ h _ hadm => h.step hadm) (fun _ _ h _ hs => h.admits_of_shows hs)
    ⟨by simp [hestab], by simp [hestab], hw, by simp [FinRun.Shows]⟩ ?_
  exact guarded_of_forall_mem (P := fun _ => True) (fun _ _ => trivial) _

/-- The connection that the three sample runs start from: the SYN-ACK of the peer came. -/
def sampleEstab : Outcome :=
  run Outcome.step (.connected 0 0 ⟨1, 1234, 2, 80⟩ none 1000 .idle)
    [.rx (.sample 100 1001 0x12 4096 [])]

/-- We close, and the FIN of the peer comes with an acknowledgement of ours. -/
theorem peer_fin_shown_iff_ack :
    sampleEstab.st.tcb.state = .estab ∧
      ∀ pre, pre <+: [.usr .tcpShutdown, .tx, .rx (.sample 101 1002 0x11 4096 []), .rtx] →
        (run FinRun.step ⟨sampleEstab, false⟩ pre).Shows :=
  ⟨by decide +kernel,
    (peer_fin_shown_iff 0 0 ⟨1, 1234, 2, 80⟩ none 1000 .idle [.rx (.sample 100 1001 0x12 4096 [])]
      [.usr .tcpShutdown, .tx, .rx (.sample 101 1002 0x11 4096 []), .rtx] (by decide +kernel)).2
      (by decide +kernel)⟩

/-- The two FINs cross: that of the peer acknowledges nothing new, it is consumed, and the
connection stays in `FIN_WAIT_1`. -/
theorem crossing_fin_not_shown :
    sampleEstab.st.tcb.state = .estab ∧
      ¬ (run FinRun.step ⟨sampleEstab, false⟩
        [.usr .tcpShutdown, .tx, .rx (.sample 101 1001 0x11 4096 [])]).Shows := by
  decide +kernel

end Tipy.Tcp
