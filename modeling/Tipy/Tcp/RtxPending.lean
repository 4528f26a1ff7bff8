import Tipy.Tcp.EventLoop
import Tipy.Tcp.PeerFin
import Tipy.Tcp.SndPhase

/-!
# A retransmission is always pending

While something is unacknowledged, `rtx_timer` is a task that will run, or a `SEND` or `RTX` event
is queued that runs the send handler. An acknowledgement restarts the timer or queues a `SEND`, and
the send handlers start it whenever they send; the exception is a send handler that has nothing to
do (`Idle`), as with a FIN in flight and a closed window: after an `RTX`, which has taken the handle
away, nothing is left to wake the connection.
-/

namespace Tipy.Tcp

open Tipy.Components Tipy.Lib

/-- The states in which something can be unacknowledged. -/
def STATES.Active (s : STATES) : Prop := s ∈ [.estab, .finWait1, .closing, .closeWait, .lastAck]

instance (s : STATES) : Decidable s.Active := inferInstanceAs (Decidable (s ∈ _))

theorem STATES.Active.streaming_or_ending {s : STATES} (h : s.Active) : s.Streaming ∨ s.Ending := by
  revert h
  cases s <;> decide

namespace Conn

variable (c : Conn)

/-- The handle `rtx_timer`, if there is one, is a task that will queue an `RTX`. -/
def TimerArmed : Prop :=
  ∀ id, c.tcb.rtxTimer = some id →
    ∃ task ∈ c.core.timer.tasks, task.id = id ∧ task.deleted = false ∧
      task.call = .rtx c.tcb.ref

variable {c}

theorem TimerArmed.of_none (h : c.tcb.rtxTimer = none) : c.TimerArmed := by
  intro id hid
  rw [h] at hid
  cases hid

theorem TimerArmed.congr {c' : Conn} (h : c.TimerArmed) (htimer : c'.tcb.rtxTimer = c.tcb.rtxTimer)
    (href : c'.tcb.ref = c.tcb.ref) (hcore : c'.core.timer = c.core.timer) : c'.TimerArmed := by
  intro id hid
  rw [htimer] at hid
  rw [hcore, href]
  exact h id hid

theorem TimerArmed.start (h : c.TimerArmed) : c.startRtxTimer.TimerArmed := by
  unfold startRtxTimer
  split
  · intro id hid
    refine ⟨⟨c.core.timer.counter, c.core.nowNs / 1000000, c.tcb.rto.rto, .rtx c.tcb.ref, false⟩,
      ?_, ?_, rfl, rfl⟩
    · simp [Core.scheduleTimer, Timer.scheduleTimer]
    · simpa [Core.scheduleTimer, Timer.scheduleTimer] using hid
  · exact h

theorem TimerArmed.restart : c.restartRtxTimer.TimerArmed := by
  intro id hid
  refine ⟨⟨(c.removeTimer c.tcb.rtxTimer).core.timer.counter, c.core.nowNs / 1000000, c.tcb.rto.rto,
    .rtx c.tcb.ref, false⟩, ?_, ?_, rfl, ?_⟩
  · simp [Core.scheduleTimer, Timer.scheduleTimer]
  · simpa using hid
  · simp

theorem startRtxTimer_ne_none : c.startRtxTimer.tcb.rtxTimer ≠ none := by
  rw [startRtxTimer_tcb]
  simp only [TCPCB.setRtxTimer_rtxTimer]
  split
  · simp
  · assumption

theorem TimerArmed.ackTimer : c.ackTimer.TimerArmed := by
  unfold Conn.ackTimer
  split
  · exact .of_none (by simp)
  · exact .restart

end Conn

/-! ## Segments -/

/-- What a segment does to a connection that stays active: the timer stays armed, and afterwards it
runs, or a `SEND` is queued, or nothing has changed. -/
structure Wakes (c c' : Conn) : Prop where
  armed : c.TimerArmed → c'.TimerArmed
  range : 0 ≤ c.tcb.snd.sndUna ∧ c.tcb.snd.sndUna < 4294967296 →
    0 ≤ c'.tcb.snd.sndUna ∧ c'.tcb.snd.sndUna < 4294967296
  runs : c'.tcb.rtxTimer ≠ none ∨ c'.core.events = c.core.events ++ [⟨.send, some c.tcb.ref⟩] ∨
    c'.tcb.rtxTimer = c.tcb.rtxTimer ∧ c'.tcb.snd.sndUna = c.tcb.snd.sndUna ∧
      c'.tcb.snd.sndMax = c.tcb.snd.sndMax

section Segments

variable {c c' : Conn} {p : Segment}

/-- A handler that gives up on the segment. -/
theorem Wakes.of_same (hsnd : c'.tcb.snd = c.tcb.snd) (htimer : c'.tcb.rtxTimer = c.tcb.rtxTimer)
    (href : c'.tcb.ref = c.tcb.ref) (hcore : c'.core.timer = c.core.timer) : Wakes c c' where
  armed h := h.congr htimer href hcore
  range h := by rwa [hsnd]
  runs := Or.inr (Or.inr ⟨htimer, by rw [hsnd], by rw [hsnd]⟩)

theorem hRxAck_range (s : SndVars) (hp : 0 ≤ p.ackSeq ∧ p.ackSeq < 4294967296)
    (hs : 0 ≤ s.sndUna ∧ s.sndUna < 4294967296) :
    0 ≤ (hRxAck s p).1.sndUna ∧ (hRxAck s p).1.sndUna < 4294967296 := by
  unfold hRxAck
  split
  · exact hs
  · exact hp

/-! ### `ESTAB` and `CLOSE_WAIT` -/

theorem estabAck_armed (h : c.TimerArmed) : (c.estabAck p).TimerArmed := by
  unfold Conn.estabAck
  simp only
  split
  · exact Conn.TimerArmed.ackTimer.congr rfl rfl rfl
  · exact h.congr rfl rfl rfl

theorem estabAccept_armed (h : c.TimerArmed) : (c.estabAccept p).TimerArmed := by
  have h' : (c.setAckNow true).TimerArmed := h.congr rfl rfl rfl
  unfold Conn.estabAccept
  simp only
  split <;> split
  · exact (estabAck_armed (p := p) h').congr (by simp) (by simp) (by simp)
  · exact (estabAck_armed (p := p) h).congr (by simp) (by simp) (by simp)
  · exact (estabAck_armed (p := p) h').congr (by simp) (by simp) (by simp)
  · exact (estabAck_armed (p := p) h).congr (by simp) (by simp) (by simp)

theorem estabAccept_wakes (hp : 0 ≤ p.ackSeq ∧ p.ackSeq < 4294967296) :
    Wakes c (c.estabAccept p) where
  armed := estabAccept_armed
  range h := by
    have huna : (c.estabAccept p).tcb.snd.sndUna = (hRxAck c.tcb.snd p).1.sndUna := by
      rw [Conn.estabAccept_snd, hRxWnd_sndUna, Conn.estabAck_snd]
      split <;> rfl
    rw [huna]
    exact hRxAck_range _ hp h
  runs := by
    refine Or.inr (Or.inl ?_)
    have href : (c.estabAck p).tcb.ref = c.tcb.ref := congrArg Prod.fst (c.estabAck_fixed p)
    have href' : ((c.setAckNow true).estabAck p).tcb.ref = c.tcb.ref :=
      congrArg Prod.fst ((c.setAckNow true).estabAck_fixed p)
    unfold Conn.estabAccept
    simp only
    split <;> split <;> simp [href, href']

theorem rxEstab_wakes (hp : p.Parsed) (hs' : (c.rxEstab p).tcb.state.Active) :
    Wakes c (c.rxEstab p) := by
  revert hs'
  unfold Conn.rxEstab
  simp only
  split
  · split
    · intro hs'
      simp [STATES.Active] at hs'
    · split
      · exact fun _ => .of_same (by simp) (by simp) (by simp) (by simp)
      · intro _
        have key := estabAccept_wakes (c := c.setRcv (hRxSeq c.tcb.rcv p).rcv)
          (p := (hRxSeq c.tcb.rcv p).seg) (by rw [hRxSeq_ackSeq]; exact hp.ackSeq_range)
        exact ⟨fun h => key.armed (h.congr rfl rfl rfl), key.range, key.runs⟩
  · exact fun _ => .of_same rfl rfl rfl rfl
  · exact fun _ => .of_same (by simp) (by simp) (by simp) (by simp)

theorem rxCloseWait_wakes (hp : p.Parsed) (hs' : (c.rxCloseWait p).tcb.state.Active) :
    Wakes c (c.rxCloseWait p) := by
  have hack : c.TimerArmed → (c.closeWaitAck p).TimerArmed := by
    intro h
    unfold Conn.closeWaitAck
    simp only
    split
    · exact Conn.TimerArmed.ackTimer.congr rfl rfl rfl
    · exact h.congr rfl rfl rfl
  have href : (c.closeWaitAck p).tcb.ref = c.tcb.ref := congrArg Prod.fst (c.closeWaitAck_fixed p)
  revert hs'
  unfold Conn.rxCloseWait
  split_ifs
  · intro hs'
    simp [STATES.Active] at hs'
  · intro hs'
    simp [STATES.Active] at hs'
  · exact fun _ => .of_same (by simp) (by simp) (by simp) (by simp)
  · intro _
    refine ⟨fun h => (hack h).congr rfl rfl rfl, fun h => ?_, Or.inr (Or.inl (by simp [href]))⟩
    have huna : ((c.closeWaitAck p).scheduleEvent .send).tcb.snd.sndUna =
        (hRxAck c.tcb.snd p).1.sndUna := by
      simp [Conn.closeWaitAck_snd, freeSndBuf]
    rw [huna]
    exact hRxAck_range _ hp.ackSeq_range h
  · exact fun _ => .of_same rfl rfl rfl rfl

/-! ### `FIN_WAIT_1`, `CLOSING` and `LAST_ACK` -/

/-- The acknowledgement in one of these states, when it is not the FIN that is acknowledged: it
acknowledges nothing, or restarts the timer. -/
theorem Wakes.of_ack (huna : 0 ≤ c.tcb.snd.sndUna ∧ c.tcb.snd.sndUna < 4294967296)
    (hp : 0 ≤ p.ackSeq ∧ p.ackSeq < 4294967296)
    (hsnd : c'.tcb.snd = ackBehindFin c.tcb.snd p)
    (htimer : c'.TimerArmed ∧ c'.tcb.rtxTimer ≠ none ∨
      ¬ 0 < (hRxAck c.tcb.snd p).2 ∧ c'.tcb.rtxTimer = c.tcb.rtxTimer ∧
        c'.tcb.ref = c.tcb.ref ∧ c'.core.timer = c.core.timer) : Wakes c c' := by
  have huna' : c'.tcb.snd.sndUna = (hRxAck c.tcb.snd p).1.sndUna := by
    rw [hsnd, ackBehindFin]
    split_ifs <;> rfl
  refine ⟨fun h => ?_, fun h => ?_, ?_⟩
  · rcases htimer with ⟨harmed, -⟩ | ⟨-, htimer, href, hcore⟩
    · exact harmed
    · exact h.congr htimer href hcore
  · rw [huna']
    exact hRxAck_range _ hp h
  · rcases htimer with ⟨-, htimer⟩ | ⟨hpos, htimer, -⟩
    · exact Or.inl htimer
    · rw [ackBehindFin, if_neg hpos, hRxAck_of_not_pos huna hp hpos] at hsnd
      exact Or.inr (Or.inr ⟨htimer, by rw [hsnd], by rw [hsnd]⟩)

/-- What comes after the acknowledgement touches neither the timer nor `snd_una`. -/
theorem Wakes.trans_same {c'' : Conn} (h : Wakes c c')
    (huna : c''.tcb.snd.sndUna = c'.tcb.snd.sndUna) (hmax : c''.tcb.snd.sndMax = c'.tcb.snd.sndMax)
    (htimer : c''.tcb.rtxTimer = c'.tcb.rtxTimer)
    (href : c''.tcb.ref = c'.tcb.ref) (hcore : c''.core.timer = c'.core.timer)
    (hevents : c''.core.events = c'.core.events) : Wakes c c'' where
  armed ha := (h.armed ha).congr htimer href hcore
  range hr := by
    rw [huna]
    exact h.range hr
  runs := by
    rw [huna, hmax, htimer, hevents]
    exact h.runs

/-- Nor does what comes before it. -/
theorem Wakes.same_trans {c₀ : Conn} (h : Wakes c c') (hsnd : c.tcb.snd = c₀.tcb.snd)
    (htimer : c.tcb.rtxTimer = c₀.tcb.rtxTimer) (href : c.tcb.ref = c₀.tcb.ref)
    (hcore : c.core = c₀.core) : Wakes c₀ c' where
  armed ha := h.armed (ha.congr htimer href (by rw [hcore]))
  range hr := h.range (by rwa [hsnd])
  runs := by
    have := h.runs
    rwa [hsnd, htimer, href, hcore] at this

theorem finWait1Ack_wakes (huna : 0 ≤ c.tcb.snd.sndUna ∧ c.tcb.snd.sndUna < 4294967296)
    (hp : 0 ≤ p.ackSeq ∧ p.ackSeq < 4294967296) (hs' : (c.finWait1Ack p).tcb.state.Active) :
    Wakes c (c.finWait1Ack p) := by
  refine .of_ack huna hp (Conn.finWait1Ack_snd c p) ?_
  revert hs'
  unfold Conn.finWait1Ack
  simp only
  split
  · split
    -- all is acknowledged, the FIN included, and the connection leaves the active states
    · split <;> simp [STATES.Active]
    · intro _
      left
      split <;> exact ⟨Conn.TimerArmed.restart.congr rfl rfl rfl, by simp⟩
  · next hpos => exact fun _ => Or.inr ⟨hpos, rfl, rfl, rfl⟩

theorem closingAck_wakes (huna : 0 ≤ c.tcb.snd.sndUna ∧ c.tcb.snd.sndUna < 4294967296)
    (hp : 0 ≤ p.ackSeq ∧ p.ackSeq < 4294967296) (hs' : (c.closingAck p).tcb.state.Active) :
    Wakes c (c.closingAck p) := by
  refine .of_ack huna hp (Conn.closingAck_snd c p) ?_
  revert hs'
  unfold Conn.closingAck
  simp only
  split
  · split
    · simp [STATES.Active]
    · exact fun _ => Or.inl ⟨Conn.TimerArmed.restart.congr rfl rfl rfl, by simp⟩
  · next hpos => exact fun _ => Or.inr ⟨hpos, rfl, rfl, rfl⟩

theorem lastAckAck_wakes (huna : 0 ≤ c.tcb.snd.sndUna ∧ c.tcb.snd.sndUna < 4294967296)
    (hp : 0 ≤ p.ackSeq ∧ p.ackSeq < 4294967296) (hs' : (c.lastAckAck p).tcb.state.Active) :
    Wakes c (c.lastAckAck p) := by
  refine .of_ack huna hp (Conn.lastAckAck_snd c p) ?_
  revert hs'
  unfold Conn.lastAckAck
  simp only
  split
  · split
    · simp [STATES.Active]
    · exact fun _ => Or.inl ⟨Conn.TimerArmed.restart.congr rfl rfl rfl, by simp⟩
  · next hpos => exact fun _ => Or.inr ⟨hpos, rfl, rfl, rfl⟩

theorem hRxWnd_sndMax (s : SndVars) : (hRxWnd s p).sndMax = s.sndMax := by
  unfold hRxWnd
  split <;> rfl

theorem finWait1Accept_wakes (huna : 0 ≤ c.tcb.snd.sndUna ∧ c.tcb.snd.sndUna < 4294967296)
    (hp : 0 ≤ p.ackSeq ∧ p.ackSeq < 4294967296) (hs' : (c.finWait1Accept p).tcb.state.Active) :
    Wakes c (c.finWait1Accept p) := by
  have htail : ∀ d : Conn, Wakes c (d.finWait1Ack p) →
      Wakes c (((d.finWait1Ack p).updateWnd p).appendData p) := by
    intro d h
    refine h.trans_same ?_ ?_ ?_ ?_ ?_ ?_ <;> simp [hRxWnd_sndMax]
  have hsend : ∀ d : Conn, Wakes c d → Wakes c d.sendAck :=
    fun d h => h.trans_same rfl rfl rfl rfl rfl rfl
  have hnow : ((c.setAckNow true).finWait1Ack p).tcb.state.Active →
      Wakes c ((c.setAckNow true).finWait1Ack p) :=
    fun h => (finWait1Ack_wakes (c := c.setAckNow true) huna hp h).same_trans rfl rfl rfl rfl
  revert hs'
  unfold Conn.finWait1Accept
  simp only
  split <;> split
  all_goals
    intro hs'
    simp only [Conn.sendAck_tcb, Conn.appendData_tcb, Conn.updateWnd_tcb, TCPCB.setRcv_state,
      TCPCB.setSnd_state] at hs'
  · exact hsend _ (htail _ (hnow hs'))
  · exact htail _ (hnow hs')
  · exact hsend _ (htail _ (finWait1Ack_wakes huna hp hs'))
  · exact htail _ (finWait1Ack_wakes huna hp hs')

theorem rxFinWait1_wakes (huna : 0 ≤ c.tcb.snd.sndUna ∧ c.tcb.snd.sndUna < 4294967296)
    (hp : p.Parsed) (hs' : (c.rxFinWait1 p).tcb.state.Active) : Wakes c (c.rxFinWait1 p) := by
  revert hs'
  unfold Conn.rxFinWait1
  simp only
  split
  · split_ifs
    · simp [STATES.Active]
    · simp [STATES.Active]
    · exact fun _ => .of_same (by simp) (by simp) (by simp) (by simp)
    · intro hs'
      have hack : 0 ≤ (hRxSeq c.tcb.rcv p).seg.ackSeq ∧
          (hRxSeq c.tcb.rcv p).seg.ackSeq < 4294967296 := by
        rw [hRxSeq_ackSeq]
        exact hp.ackSeq_range
      exact .same_trans (finWait1Accept_wakes huna hack hs') rfl rfl rfl rfl
  · exact fun _ => .of_same rfl rfl rfl rfl
  · exact fun _ => .of_same (by simp) (by simp) (by simp) (by simp)

theorem rxClosing_wakes (huna : 0 ≤ c.tcb.snd.sndUna ∧ c.tcb.snd.sndUna < 4294967296)
    (hp : p.Parsed) (hs' : (c.rxClosing p).tcb.state.Active) : Wakes c (c.rxClosing p) := by
  revert hs'
  unfold Conn.rxClosing
  split_ifs
  · simp [STATES.Active]
  · simp [STATES.Active]
  · exact fun _ => .of_same (by simp) (by simp) (by simp) (by simp)
  · intro hs'
    refine .trans_same (closingAck_wakes huna hp.ackSeq_range hs') ?_ ?_ ?_ ?_ ?_ ?_ <;>
      simp [hRxWnd_sndMax]
  · exact fun _ => .of_same rfl rfl rfl rfl

theorem rxLastAck_wakes (huna : 0 ≤ c.tcb.snd.sndUna ∧ c.tcb.snd.sndUna < 4294967296)
    (hp : p.Parsed) (hs' : (c.rxLastAck p).tcb.state.Active) : Wakes c (c.rxLastAck p) := by
  revert hs'
  unfold Conn.rxLastAck
  split_ifs
  · simp [STATES.Active]
  · exact fun _ => .of_same (by simp) (by simp) (by simp) (by simp)
  · intro hs'
    refine .trans_same (lastAckAck_wakes huna hp.ackSeq_range hs') ?_ ?_ ?_ ?_ ?_ ?_ <;>
      simp [hRxWnd_sndMax]
  · exact fun _ => .of_same rfl rfl rfl rfl

/-- **Segments.** A segment that leaves the connection active leaves a timer or a `SEND` behind, or
changes nothing. -/
theorem rx_wakes (hs : c.tcb.state.Active)
    (huna : 0 ≤ c.tcb.snd.sndUna ∧ c.tcb.snd.sndUna < 4294967296) (packet : TCPParser)
    (hs' : (c.rx packet).st.tcb.state.Active) :
    (c.rx packet).fault = none ∧ Wakes c (c.rx packet).st := by
  have hp := packet.parsed
  unfold Conn.rx at *
  cases hstate : c.tcb.state with
  | estab =>
    simp only [hstate] at hs' ⊢
    exact ⟨rfl, rxEstab_wakes hp hs'⟩
  | finWait1 =>
    simp only [hstate] at hs' ⊢
    exact ⟨rfl, rxFinWait1_wakes huna hp hs'⟩
  | closing =>
    simp only [hstate] at hs' ⊢
    exact ⟨rfl, rxClosing_wakes huna hp hs'⟩
  | closeWait =>
    simp only [hstate] at hs' ⊢
    exact ⟨rfl, rxCloseWait_wakes hp hs'⟩
  | lastAck =>
    simp only [hstate] at hs' ⊢
    exact ⟨rfl, rxLastAck_wakes huna hp hs'⟩
  | _ => simp [hstate, STATES.Active] at hs

end Segments

/-! ## Sending -/

/-- `_send_fin` is called and has a FIN to send, when there is no data. -/
def TCPCB.FinDue (t : TCPCB) : Prop :=
  0 < t.snd.sndWnd ∧ (t.state.Streaming → t.req.finWanted = true) ∧
    (t.snd.sentFin = true → seqGt t.snd.sndMax t.snd.sndNxt)

/-- `_h_active_close_tx` aborts the connection, when there is no data. -/
def TCPCB.Aborts (t : TCPCB) : Prop :=
  t.state ≠ .lastAck ∧ t.req.closeRequested = true ∧ t.req.soLinger = some SO_LINGER_ON

/-- The send handler of an active state has nothing to do. -/
def TCPCB.Idle (t : TCPCB) : Prop := t.snd.sndBuf.ready = 0 ∧ ¬ t.FinDue ∧ ¬ t.Aborts

instance (t : TCPCB) : Decidable t.FinDue := inferInstanceAs (Decidable (_ ∧ _))

instance (t : TCPCB) : Decidable t.Aborts := inferInstanceAs (Decidable (_ ∧ _))

instance (t : TCPCB) : Decidable t.Idle := inferInstanceAs (Decidable (_ ∧ _))

/-- What a send handler does for the timer: an idle one returns and leaves the connection as it was,
and one that is not idle leaves the active states or starts the timer. -/
structure Acts (c : Conn) (o : Outcome) : Prop where
  armed : c.TimerArmed → o.st.TimerArmed
  idle : c.tcb.Idle → o.fault = none ∧ o.st.tcb.state = c.tcb.state ∧
    o.st.tcb.snd.sndMax = c.tcb.snd.sndMax ∧ o.st.tcb.rtxTimer = c.tcb.rtxTimer
  busy : ¬ c.tcb.Idle → o.fault = none → o.st.tcb.state.Active → o.st.tcb.rtxTimer ≠ none

section Sending

/-- The loop returns with the timer started, or ends with a fault. -/
theorem txTurns_ends {next : Option STATES} {wantFin : Bool} (turns : Nat) (c : Conn)
    (data : List (List UInt8)) (dlen sndWnd counter : Nat) :
    (∃ c' : Conn, txTurns next wantFin turns c data dlen sndWnd counter = .ok c'.startRtxTimer) ∨
      (txTurns next wantFin turns c data dlen sndWnd counter).fault ≠ none := by
  induction turns generalizing c data dlen sndWnd counter with
  | zero =>
    unfold txTurns
    split
    · exact Or.inl ⟨c, rfl⟩
    · exact Or.inr (by simp)
  | succ turns ih =>
    unfold txTurns
    split
    · exact Or.inl ⟨c, rfl⟩
    · simp only
      split
      · exact Or.inr (by simp)
      · split
        · exact Or.inl ⟨_, rfl⟩
        · split
          · exact Or.inl ⟨_, rfl⟩
          · split
            · exact Or.inl ⟨_, rfl⟩
            · exact ih _ _ _ _ _

variable {c : Conn}

theorem txLoop_running {data : List (List UInt8)} {next : Option STATES} {shutReq closeReq : Bool}
    (hfault : (txLoop c data next shutReq closeReq).fault = none)
    (hs' : (txLoop c data next shutReq closeReq).st.tcb.state.Active) :
    (txLoop c data next shutReq closeReq).st.tcb.rtxTimer ≠ none := by
  revert hfault hs'
  unfold txLoop
  simp only
  split
  · simp [STATES.Active]
  · intro hfault _
    rcases txTurns_ends _ c data _ c.tcb.snd.sndWnd 0 with ⟨c', h⟩ | h
    · rw [h]
      exact Conn.startRtxTimer_ne_none
    · exact absurd hfault h

theorem sendFin_running {next : Option STATES}
    (h : c.tcb.snd.sentFin = true → seqGt c.tcb.snd.sndMax c.tcb.snd.sndNxt) :
    (c.sendFin next).tcb.rtxTimer ≠ none := by
  unfold Conn.sendFin
  split
  · next hsent =>
    rw [if_pos (h hsent)]
    exact Conn.startRtxTimer_ne_none
  · cases next <;> exact Conn.startRtxTimer_ne_none

theorem Conn.TimerArmed.sendFin (h : c.TimerArmed) (next : Option STATES) :
    (c.sendFin next).TimerArmed := by
  unfold Conn.sendFin
  split
  · split
    · exact Conn.TimerArmed.start (h.congr rfl rfl rfl)
    · exact h
  · cases next <;>
      exact (Conn.TimerArmed.start (h.congr (by simp) (by simp) (by simp))).congr rfl rfl rfl

theorem Conn.TimerArmed.txLoop (h : c.TimerArmed) (data : List (List UInt8)) (next : Option STATES)
    (shutReq closeReq : Bool) : (txLoop c data next shutReq closeReq).st.TimerArmed := by
  refine txLoop_inv h (fun _ _ => .of_none (by simp)) ?_ (fun _ h => h.congr rfl rfl rfl)
    (fun _ _ _ h => h.congr rfl rfl rfl) fun _ h => h.start
  intro c' data fin h'
  unfold Conn.afterSegment
  simp only
  split
  · exact h'.congr (by simp) (by simp) (by simp)
  · exact h'.congr rfl rfl rfl

/-! ### The ends of a send handler -/

/-- The connection with the drained buffer has the timer of the old one. -/
structure SameTimer (c d : Conn) : Prop where
  rtxTimer : d.tcb.rtxTimer = c.tcb.rtxTimer
  ref : d.tcb.ref = c.tcb.ref
  timer : d.core.timer = c.core.timer

variable {d : Conn}

theorem Conn.DrainsTo.sameTimer (h : c.DrainsTo d) : SameTimer c d := by
  rcases h with rfl | rfl
  · exact ⟨rfl, rfl, rfl⟩
  · exact ⟨rfl, rfl, rfl⟩

/-- The handler has nothing to send. -/
theorem Acts.quiet (hnil : (drainSndBuf c.tcb.snd).1 = []) (hfin : ¬ c.tcb.FinDue)
    (hab : ¬ c.tcb.Aborts) {c' : Conn} (hstate : c'.tcb.state = c.tcb.state)
    (hmax : c'.tcb.snd.sndMax = c.tcb.snd.sndMax) (htimer : c'.tcb.rtxTimer = c.tcb.rtxTimer)
    (href : c'.tcb.ref = c.tcb.ref) (hcore : c'.core.timer = c.core.timer) : Acts c (.ok c') where
  armed h := h.congr htimer href hcore
  idle _ := ⟨rfl, hstate, hmax, htimer⟩
  busy h := absurd ⟨(drainSndBuf_views _).1.1 hnil, hfin, hab⟩ h

/-- The handler aborts the connection. -/
theorem Acts.abort (h : c.tcb.Aborts) : Acts c (.ok d.hActiveCloseTx) where
  armed _ := .of_none (by simp)
  idle hidle := absurd h hidle.2.2
  busy := by simp [STATES.Active]

/-- The handler calls `_send_fin`. -/
theorem Acts.fin (hd : Drained c d) (ht : SameTimer c d)
    (hnil : (drainSndBuf c.tcb.snd).1 = []) (hab : ¬ c.tcb.Aborts)
    (hwnd : 0 < c.tcb.snd.sndWnd) (hwant : c.tcb.state.Streaming → c.tcb.req.finWanted = true)
    (next : Option STATES) : Acts c (.ok (d.sendFin next)) := by
  by_cases hdue : c.tcb.snd.sentFin = true → seqGt c.tcb.snd.sndMax c.tcb.snd.sndNxt
  · refine ⟨fun h => ?_, fun h => absurd ⟨hwnd, hwant, hdue⟩ h.2.1, fun _ _ _ => ?_⟩
    · exact Conn.TimerArmed.sendFin (h.congr ht.rtxTimer ht.ref ht.timer) next
    · exact sendFin_running (by rwa [hd.snd])
  · have hsame : d.sendFin next = d := by
      rw [Classical.not_imp] at hdue
      have hsent : d.tcb.snd.sentFin = true := by
        rw [hd.snd]
        exact hdue.1
      have hmax : ¬ seqGt d.tcb.snd.sndMax d.tcb.snd.sndNxt := by
        rw [hd.snd]
        exact hdue.2
      unfold Conn.sendFin
      rw [if_pos hsent, if_neg hmax]
    rw [hsame]
    exact .quiet hnil (fun h => hdue h.2.2) hab hd.state (by rw [hd.snd]; rfl) ht.rtxTimer
      ht.ref ht.timer

/-- The handler enters the loop. -/
theorem Acts.loop (ht : SameTimer c d) (hnil : (drainSndBuf c.tcb.snd).1 ≠ [])
    (data : List (List UInt8)) (next : Option STATES) (shutReq closeReq : Bool) :
    Acts c (txLoop d data next shutReq closeReq) where
  armed h := (h.congr ht.rtxTimer ht.ref ht.timer).txLoop data next shutReq closeReq
  idle h := absurd ((drainSndBuf_views _).1.2 h.1) hnil
  busy _ := txLoop_running

/-- A send handler on each of its paths. -/
theorem TxPath.acts {next : Option STATES} {shutReq closeReq : Bool} {o : Outcome}
    (hpath : TxPath c d next shutReq closeReq o) (hd : Drained c d) (ht : SameTimer c d)
    (hdue : (shutReq || closeReq) = true ↔ (c.tcb.state.Streaming → c.tcb.req.finWanted = true)) :
    Acts c o := by
  cases hpath with
  | abort _ early close => exact .abort ⟨early, close⟩
  | fin c' nil live due wnd sent =>
    have hab : ¬ c.tcb.Aborts := fun h => live h.1 h.2
    have hfin := Acts.fin hd ht nil hab wnd (hdue.1 due) next
    rcases sent with rfl | rfl
    · exact hfin
    · exact ⟨fun ha => (hfin.armed ha).congr rfl rfl rfl, hfin.idle, hfin.busy⟩
  | quiet c' nil live idle sent =>
    have hab : ¬ c.tcb.Aborts := fun h => live h.1 h.2
    have hno : ¬ c.tcb.FinDue := fun h => idle (hdue.2 h.2.1) h.1
    have hmax : d.tcb.snd.sndMax = c.tcb.snd.sndMax := by
      rw [hd.snd]
      rfl
    rcases sent with rfl | rfl
    · exact .quiet nil hno hab hd.state hmax ht.rtxTimer ht.ref ht.timer
    · exact .quiet nil hno hab hd.state hmax ht.rtxTimer ht.ref ht.timer
  | loop ready => exact .loop ht ready _ _ _ _

/-- **Sending.** The send handler of an active state starts the timer unless it is idle. -/
theorem tx_acts (hs : c.tcb.state.Active) : Acts c c.tx := by
  rcases hs.streaming_or_ending with hs | hs
  · obtain ⟨c₁, hdrain, hpath⟩ := Conn.tx_streaming hs
    exact hpath.acts hdrain.drained hdrain.sameTimer ⟨fun h _ => h, fun h => h hs⟩
  · obtain ⟨c₁, hdrain, hpath⟩ := Conn.tx_ending hs
    have hno : ¬ c.tcb.state.Streaming :=
      fun h => c.tcb.state.streaming_ending_ended_disjoint.1 ⟨h, hs⟩
    exact hpath.acts hdrain.drained hdrain.sameTimer ⟨fun _ h => absurd h hno, fun _ => rfl⟩

end Sending

/-! ## Runs of the event loop -/

/-- With something unacknowledged, the timer is pending or a `SEND` or `RTX` is queued. -/
def Conn.RtxPending (c : Conn) : Prop :=
  c.tcb.snd.sndUna ≠ c.tcb.snd.sndMax →
    (∃ id ∈ c.tcb.rtxTimer, c.core.timer.Pending id) ∨ c.SendQueued

/-- What is shown of a state the event loop reaches while it is alive. -/
def Outcome.RtxPending (o : Outcome) : Prop :=
  o.fault = none → o.st.tcb.state.Active → o.st.RtxPending

/-- The condition on a step. When the event loop handles a `SEND` or an `RTX` in an active state
with something unacknowledged, and the send handler is idle, then a timer is running (after an `RTX`
there is none) or another `SEND` or `RTX` is queued. -/
def Outcome.Resumes (o : Outcome) : LoopEvent → Prop
  | .handle i => ∀ ev ∈ o.st.core.events[i]?, ev.tcpcb = some o.st.tcb.ref →
      o.fault = none → o.st.tcb.state.Active → o.st.tcb.snd.sndUna ≠ o.st.tcb.snd.sndMax →
        match ev.type with
        | .send => o.st.tcb.Idle → o.st.tcb.rtxTimer = none → (o.st.dropEvent i).SendQueued
        | .rtx => o.st.prepareRtx.tcb.Idle → (o.st.dropEvent i).SendQueued
        | _ => True
  | _ => True

instance (c : Conn) : Decidable c.RtxPending := inferInstanceAs (Decidable (_ → _))

instance (o : Outcome) : Decidable o.RtxPending := inferInstanceAs (Decidable (_ → _))

instance (o : Outcome) : (e : LoopEvent) → Decidable (o.Resumes e)
  | .handle _ => @Option.decidableForallMem _ _ (fun
    | ⟨.send, _⟩ => inferInstanceAs (Decidable (_ → _ → _ → _ → _ → _ → _))
    | ⟨.rtx, _⟩ => inferInstanceAs (Decidable (_ → _ → _ → _ → _ → _))
    | ⟨.connect, _⟩ | ⟨.rxSegment _, _⟩ => .isTrue fun _ _ _ _ => trivial) _
  | .usr _ | .arrive _ | .fire _ => .isTrue trivial

/-- The invariant of an active connection. -/
structure Conn.Woken (c : Conn) : Prop where
  range : 0 ≤ c.tcb.snd.sndUna ∧ c.tcb.snd.sndUna < 4294967296
  /-- The timer will run, or it has run and its event is still there. -/
  armed : c.TimerArmed ∨ (⟨.rtx, some c.tcb.ref⟩ : TCPEvent) ∈ c.core.events
  runs : c.tcb.snd.sndUna ≠ c.tcb.snd.sndMax → c.tcb.rtxTimer ≠ none ∨ c.SendQueued

/-- The invariant of a run. -/
structure Outcome.Awake (o : Outcome) : Prop where
  opened : o.st.tcb.state ∉ [.listen, .synSent, .synRecv]
  noConnect : ∀ ev ∈ o.st.core.events, ev.tcpcb = some o.st.tcb.ref → ev.type.isConnect = false
  woken : o.fault = none → o.st.tcb.state.Active → o.st.Woken

section Runs

variable {c c' : Conn}

theorem Conn.Woken.pending (h : c.Woken) : c.RtxPending := by
  intro hne
  rcases h.armed with harmed | hrtx
  · rcases h.runs hne with hsome | hqueued
    · obtain ⟨id, hid⟩ := Option.ne_none_iff_exists'.1 hsome
      obtain ⟨task, hmem, htask, hdel, -⟩ := harmed id hid
      exact Or.inl ⟨id, hid, task, hmem, htask, hdel⟩
    · exact Or.inr hqueued
  · exact Or.inr ⟨_, hrtx, rfl, rfl⟩

/-- The events that run a send handler of this control block stay in the queue. -/
def Conn.KeepsSends (c c' : Conn) : Prop :=
  ∀ ev ∈ c.core.events, ev.type.isSend = true → ev.tcpcb = some c.tcb.ref → ev ∈ c'.core.events

theorem Conn.SendQueued.mono (h : c.SendQueued) (href : c'.tcb.ref = c.tcb.ref)
    (hsub : c.KeepsSends c') : c'.SendQueued := by
  obtain ⟨ev, hev, hsend, hto⟩ := h
  exact ⟨ev, hsub ev hev hsend hto, hsend, href ▸ hto⟩

/-- Steps that leave the send side alone. -/
theorem Conn.Woken.mono (h : c.Woken) (huna : c'.tcb.snd.sndUna = c.tcb.snd.sndUna)
    (hmax : c'.tcb.snd.sndMax = c.tcb.snd.sndMax) (htimer : c'.tcb.rtxTimer = c.tcb.rtxTimer)
    (href : c'.tcb.ref = c.tcb.ref)
    (harmed : c.TimerArmed → c'.TimerArmed ∨ (⟨.rtx, some c.tcb.ref⟩ : TCPEvent) ∈ c'.core.events)
    (hsub : c.KeepsSends c') : c'.Woken := by
  refine ⟨by rw [huna]; exact h.range, ?_, fun hne => ?_⟩
  · rw [href]
    rcases h.armed with ha | hrtx
    · exact harmed ha
    · exact Or.inr (hsub _ hrtx rfl rfl)
  · rw [huna, hmax] at hne
    rw [htimer]
    exact (h.runs hne).imp_right fun hq => hq.mono href hsub

theorem not_active_of_successor {s s' : STATES} (hopen : s ∉ [.listen, .synSent, .synRecv])
    (hnext : s' ∈ s.successors) :
    s' ∉ [STATES.listen, .synSent, .synRecv] ∧ (s'.Active → s.Active) := by
  revert hopen hnext
  cases s <;> cases s' <;> decide

/-! ### One step -/

variable {o : Outcome}

theorem Outcome.Awake.usr (h : o.Awake) (q : UserRequest) : (o.loop (.usr q)).Awake := by
  have hq := q.apply_requested o.st
  refine ⟨by simpa only [Outcome.loop, hq.state] using h.opened,
    Outcome.loop_noConnect h.noConnect (.usr q), fun hf hs => ?_⟩
  simp only [Outcome.loop, hq.state] at hf hs
  exact (h.woken hf hs).mono hq.una hq.max hq.rtxTimer hq.ref
    (fun ha => Or.inl (ha.congr hq.rtxTimer hq.ref hq.timer)) fun ev hev _ _ => hq.queues.sub hev

theorem Outcome.Awake.arrive (h : o.Awake) (packet : TCPParser) :
    (o.loop (.arrive packet)).Awake := by
  refine ⟨h.opened, Outcome.loop_noConnect h.noConnect (.arrive packet), fun hf hs => ?_⟩
  exact (h.woken hf hs).mono rfl rfl rfl rfl (fun ha => Or.inl (ha.congr rfl rfl rfl))
    fun ev hev _ _ => List.mem_append_left _ hev

/-- The timer takes a task off the heap: the one of `rtx_timer` leaves an `RTX` behind. -/
theorem Conn.TimerArmed.fire (h : c.TimerArmed) (i : Nat) :
    (c.onCore (·.fireTimer i)).TimerArmed ∨
      (⟨.rtx, some c.tcb.ref⟩ : TCPEvent) ∈ (c.core.fireTimer i).events := by
  by_cases hq : (⟨.rtx, some c.tcb.ref⟩ : TCPEvent) ∈ (c.core.fireTimer i).events
  · exact Or.inr hq
  · left
    intro id hid
    obtain ⟨x, hx, hxid, hdel, hcall⟩ := h id hid
    refine ⟨x, ?_, hxid, hdel, hcall⟩
    revert hq
    simp only [Conn.onCore_core, Core.fireTimer]
    split
    · exact fun _ => hx
    · next task timer hpop =>
      rcases Timer.mem_of_popDue hpop hx with rfl | hx
      · simp [hdel, hcall]
      · intro _
        split_ifs
        · exact hx
        · split
          · exact hx
          · exact hx

theorem Outcome.Awake.fire (h : o.Awake) (i : Nat) : (o.loop (.fire i)).Awake := by
  refine ⟨h.opened, Outcome.loop_noConnect h.noConnect (.fire i), fun hf hs => ?_⟩
  exact (h.woken hf hs).mono rfl rfl rfl rfl (fun ha => ha.fire i)
    fun ev hev _ _ => o.st.core.fireTimer_sub i hev

theorem Conn.Woken.rx (h : c.Woken) (hs : c.tcb.state.Active) (packet : TCPParser)
    (hs' : (c.rx packet).st.tcb.state.Active) : (c.rx packet).st.Woken := by
  have hw := (rx_wakes hs h.range packet hs').2
  have hqueue := c.rx_queues packet
  have href : (c.rx packet).st.tcb.ref = c.tcb.ref := congrArg Prod.fst (c.rx_fixed packet)
  refine ⟨hw.range h.range, ?_, fun hne => ?_⟩
  · rw [href]
    exact h.armed.imp hw.armed hqueue.sub
  · rcases hw.runs with htimer | hsend | ⟨htimer, huna, hmax⟩
    · exact Or.inl htimer
    · refine Or.inr ⟨⟨.send, some c.tcb.ref⟩, ?_, rfl, by rw [href]⟩
      rw [hsend]
      exact List.mem_append_right _ (List.mem_singleton_self _)
    · rw [huna, hmax] at hne
      rw [htimer]
      exact (h.runs hne).imp_right fun hq => hq.mono href fun ev hev _ _ => hqueue.sub hev

/-- The send handler, when there is something left to wake an idle connection. -/
theorem Conn.Woken.tx (hrange : 0 ≤ c.tcb.snd.sndUna ∧ c.tcb.snd.sndUna < 4294967296)
    (harmed : c.TimerArmed ∨ (⟨.rtx, some c.tcb.ref⟩ : TCPEvent) ∈ c.core.events)
    (hs : c.tcb.state.Active)
    (hidle : c.tcb.snd.sndUna ≠ c.tcb.snd.sndMax → c.tcb.Idle →
      c.tcb.rtxTimer ≠ none ∨ c.SendQueued)
    (hf : c.tx.fault = none) (hs' : c.tx.st.tcb.state.Active) : c.tx.st.Woken := by
  have hacts := tx_acts hs
  have href : c.tx.st.tcb.ref = c.tcb.ref := congrArg Prod.fst c.tx_fixed
  refine ⟨?_, ?_, fun hne => ?_⟩
  · rw [c.tx_sndUna]
    exact hrange
  · rw [href, c.tx_events]
    exact harmed.imp_left hacts.armed
  · by_cases h : c.tcb.Idle
    · obtain ⟨-, -, hmax, htimer⟩ := hacts.idle h
      rw [c.tx_sndUna, hmax] at hne
      rw [htimer]
      refine (hidle hne h).imp_right fun hq => hq.mono href fun ev hev _ _ => ?_
      rw [c.tx_events]
      exact hev
    · exact Or.inl (hacts.busy h hf hs')

/-- An event that is taken out of the queue and is not a `SEND` or `RTX` of this control block. -/
theorem Conn.Woken.dropEvent (h : c.Woken) {i : Nat} {ev : TCPEvent}
    (hev : c.core.events[i]? = some ev)
    (hother : ev.type.isSend = true → ev.tcpcb ≠ some c.tcb.ref) : (c.dropEvent i).Woken := by
  refine h.mono rfl rfl rfl rfl (fun ha => Or.inl (ha.congr rfl rfl rfl)) fun x hx hsend hto => ?_
  rcases Timer.mem_eraseIdx_or_eq hev hx with rfl | hx
  · exact absurd hto (hother hsend)
  · exact hx

/-- **An event is handled**, and the connection stays woken. -/
theorem Conn.Woken.dispatch (h : c.Woken) (hs : c.tcb.state.Active) {i : Nat} {ev : TCPEvent}
    (hev : c.core.events[i]? = some ev) (hconn : ev.type.isConnect = false)
    (hok : (Outcome.ok c).Resumes (.handle i)) (hto : ev.tcpcb = some c.tcb.ref)
    (hf : ((c.dropEvent i).eventsMap ev.type).fault = none)
    (hs' : ((c.dropEvent i).eventsMap ev.type).st.tcb.state.Active) :
    ((c.dropEvent i).eventsMap ev.type).st.Woken := by
  have hok' := hok ev hev hto rfl hs
  obtain ⟨type, target⟩ := ev
  cases type with
  | connect => cases hconn
  | rxSegment packet =>
    exact (h.dropEvent hev (by simp [TCPEventType.isSend])).rx hs packet hs'
  | send =>
    refine Conn.Woken.tx h.range ?_ hs (fun hne hidle => ?_) hf hs'
    · refine h.armed.imp (fun ha => ha.congr rfl rfl rfl) fun hrtx => ?_
      exact (Timer.mem_eraseIdx_or_eq hev hrtx).resolve_left (by simp)
    · by_cases htimer : c.tcb.rtxTimer = none
      · exact Or.inr (hok' hne hidle htimer)
      · exact Or.inl htimer
  | rtx =>
    exact Conn.Woken.tx (c := (c.dropEvent i).prepareRtx) h.range (Or.inl (.of_none rfl)) hs
      (fun hne hidle => Or.inr (hok' hne hidle)) hf hs'

theorem Outcome.Awake.handle (h : o.Awake) {i : Nat} (hok : o.Resumes (.handle i)) :
    (o.loop (.handle i)).Awake := by
  have hno : (o.loop (.handle i)).st.NoConnect := Outcome.loop_noConnect h.noConnect (.handle i)
  by_cases hlive : o.fault = none ∧ ∃ ev, o.st.core.events[i]? = some ev
  · obtain ⟨hf, ev, hev⟩ := hlive
    rw [Outcome.loop_handle hf hev] at hno ⊢
    by_cases hto : ev.tcpcb = some o.st.tcb.ref
    · have hours : (o.st.dropEvent i).dispatch ev = (o.st.dropEvent i).eventsMap ev.type :=
        if_pos hto
      rw [hours] at hno ⊢
      have hconn := h.noConnect ev (List.mem_of_getElem? hev) hto
      obtain ⟨hopen, hactive⟩ := not_active_of_successor h.opened
        ((o.st.dropEvent i).eventsMap_next hconn)
      refine ⟨hopen, hno, fun hf' hs' => ?_⟩
      have hs := hactive hs'
      rw [Outcome.eq_ok hf] at hok
      exact (h.woken hf hs).dispatch hs hev hconn hok hto hf' hs'
    · have hsame : (o.st.dropEvent i).dispatch ev = .ok (o.st.dropEvent i) := if_neg hto
      rw [hsame] at hno ⊢
      exact ⟨h.opened, hno, fun _ hs => (h.woken hf hs).dropEvent hev fun _ => hto⟩
  · rw [Outcome.loop_handle_eq hlive]
    exact h

/-- **One step** that meets the condition keeps the invariant. -/
theorem Outcome.Awake.step (h : o.Awake) {e : LoopEvent} (hok : o.Resumes e) :
    (o.loop e).Awake := by
  cases e with
  | usr q => exact h.usr q
  | arrive packet => exact h.arrive packet
  | fire i => exact h.fire i
  | handle i => exact h.handle hok

/-- An idle send handler leaves the timer handle as it found it, so that with nothing else in the
queue nothing is pending. -/
theorem Conn.sendQueued_of_idle (hs : c.tcb.state.Active) (hidle : c.tcb.Idle)
    (hne : c.tcb.snd.sndUna ≠ c.tcb.snd.sndMax) (htimer : c.tcb.rtxTimer = none)
    (hpost : c.tx.RtxPending) : c.SendQueued := by
  obtain ⟨hf, hstate, hmax, htimer'⟩ := (tx_acts hs).idle hidle
  have hne' : c.tx.st.tcb.snd.sndUna ≠ c.tx.st.tcb.snd.sndMax := by
    rw [c.tx_sndUna, hmax]
    exact hne
  have hs' : c.tx.st.tcb.state.Active := by
    rw [hstate]
    exact hs
  rcases hpost hf hs' hne' with ⟨id, hid, -⟩ | hq
  · rw [htimer', htimer] at hid
    cases hid
  · refine hq.mono (congrArg Prod.fst c.tx_fixed).symm fun ev hev _ _ => ?_
    rwa [c.tx_events] at hev

/-- A step off the condition leaves nothing pending. -/
theorem Outcome.Resumes.of_pending {e : LoopEvent} (hpost : (o.loop e).RtxPending) :
    o.Resumes e := by
  cases e with
  | usr q => trivial
  | arrive packet => trivial
  | fire i => trivial
  | handle i =>
    intro ev hev hto hf hs hne
    have hours : (o.st.dropEvent i).dispatch ev = (o.st.dropEvent i).eventsMap ev.type := if_pos hto
    rw [Outcome.loop_handle hf hev, hours] at hpost
    obtain ⟨type, target⟩ := ev
    cases type with
    | connect => trivial
    | rxSegment packet => trivial
    | send =>
      intro hidle htimer
      exact Conn.sendQueued_of_idle (c := o.st.dropEvent i) hs hidle hne htimer hpost
    | rtx =>
      intro hidle
      exact Conn.sendQueued_of_idle (c := (o.st.dropEvent i).prepareRtx) hs hidle hne rfl hpost

end Runs

/-- A connection that has just been established: all it sent, the SYN, is acknowledged, the timer is
off, and its `CONNECT` has been handled. -/
structure NothingInFlight (c : Conn) : Prop where
  state : c.tcb.state = .estab
  range : 0 ≤ c.tcb.snd.sndUna ∧ c.tcb.snd.sndUna < 4294967296
  max_eq : c.tcb.snd.sndMax = c.tcb.snd.sndUna
  rtxTimer : c.tcb.rtxTimer = none
  noConnect : ∀ ev ∈ c.core.events, ev.tcpcb = some c.tcb.ref → ev.type.isConnect = false

instance (c : Conn) : Decidable (NothingInFlight c) :=
  decidable_of_iff (c.tcb.state = .estab ∧ (0 ≤ c.tcb.snd.sndUna ∧ c.tcb.snd.sndUna < 4294967296) ∧
      c.tcb.snd.sndMax = c.tcb.snd.sndUna ∧ c.tcb.rtxTimer = none ∧
      ∀ ev ∈ c.core.events, ev.tcpcb = some c.tcb.ref → ev.type.isConnect = false)
    ⟨fun ⟨h₁, h₂, h₃, h₄, h₅⟩ => ⟨h₁, h₂, h₃, h₄, h₅⟩,
      fun h => ⟨h.state, h.range, h.max_eq, h.rtxTimer, h.noConnect⟩⟩

theorem NothingInFlight.awake {c : Conn} (h : NothingInFlight c) : (Outcome.ok c).Awake where
  opened := by
    rw [Outcome.ok_st, h.state]
    decide
  noConnect := h.noConnect
  woken _ _ := ⟨h.range, Or.inl (.of_none h.rtxTimer), fun hne => absurd h.max_eq.symm hne⟩

/-- **Unacknowledged data has a retransmission pending exactly when no send handler gives up.** From
a connection that has just been established, in a run of requests, segments, timers and handled
events, in any order: every state reached has a retransmission pending while something is
unacknowledged, if and only if every `SEND` and `RTX` is handled under `Resumes`. -/
theorem rtx_pending_iff (c : Conn) (hstart : NothingInFlight c) (es : List LoopEvent) :
    (∀ pre, pre <+: es → (run Outcome.loop (.ok c) pre).RtxPending) ↔
      Guarded Outcome.loop Outcome.Resumes (.ok c) es :=
  forall_reached_iff_guarded (D := fun _ _ => True) (I := Outcome.Awake)
    (fun _ h hf hs => (h.woken hf hs).pending) (fun _ _ h _ hok => h.step hok)
    (fun _ _ _ _ hpost => .of_pending hpost) hstart.awake
    (guarded_of_forall_mem (P := fun _ => True) (fun _ _ => trivial) _)

/-- Two bytes and a close are lost, sent again by the timer, and acknowledged. -/
theorem rtx_pending_iff_lost :
    NothingInFlight sampleEstab.st ∧
      ∀ pre, pre <+: [.usr (.tcpSend [1, 2]), .usr .tcpClose, .handle 0, .usr (.tick 1100000000),
          .fire 1, .handle 0, .handle 0, .arrive (.sample 101 1004 0x10 4096 []), .handle 0] →
        (run Outcome.loop sampleEstab pre).RtxPending :=
  ⟨by decide +kernel, (rtx_pending_iff sampleEstab.st (by decide +kernel) _).2 (by decide +kernel)⟩

/-- Our FIN is in flight, the peer closes its window, and the timer runs out: the `RTX` sends
nothing and starts no timer. -/
theorem fin_not_retransmitted :
    NothingInFlight sampleEstab.st ∧ ¬ (run Outcome.loop sampleEstab
      [.usr .tcpShutdown, .handle 0, .arrive (.sample 101 1001 0x10 0 []), .handle 0,
        .usr (.tick 1100000000), .fire 1, .handle 0]).RtxPending := by
  decide +kernel

end Tipy.Tcp
