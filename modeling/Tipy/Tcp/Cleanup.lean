import Mathlib.Data.List.Perm.Basic
import Tipy.Tcp.EventLoop

/-!
# The end of a connection

A connection ends by an RST, by an abort of the application, by data that comes in after a close, by
the last ACK, or by the `TIME_WAIT` timer. `Outcome.Ends` says when a step of the event loop is such
an end, handler by handler, and `Outcome.CleanedUp` what has to be left: a closed control block
without timers that no table knows, and that sends nothing whatever comes next. Three of the ends
share one piece of code (`stop_all_timers`, `CLOSED`, `remove_tcpcb`) and clean up; `cleaned_up_iff`
says exactly when the others do.
-/

namespace Tipy.Tcp

open Tipy.Components Tipy.Lib

/-! ## The ends -/

/-- The ways a connection ends. -/
inductive Ending where
  /-- An RST that acknowledges the SYN, in `SYN_SENT`. -/
  | refused
  /-- An RST in the window, in a later state. -/
  | reset
  /-- A close with `SO_LINGER` on and a zero time. -/
  | lingerAbort
  /-- Data that comes in after a close. -/
  | dataAfterClose
  /-- The ACK of our FIN in `LAST_ACK`. -/
  | finalAck
  /-- The timer of `TIME_WAIT`. -/
  | expired
deriving DecidableEq

namespace Conn

variable (c : Conn) (p : Segment)

/-- `_rx_syn_sent` takes the RST. -/
def RefusedBy : Prop :=
  c.tcb.state = .synSent ∧ p.rst = true ∧ 0 < (hRxAck c.tcb.snd p).2

/-- `_h_rx_rst` takes the RST. The handlers of `SYN_RECV` and `TIME_WAIT` do not look at it. -/
def ResetBy : Prop :=
  match c.tcb.state with
  | .estab | .finWait1 | .finWait2 =>
    (hRxSeq c.tcb.rcv p).verdict = .acceptAndHandle ∧ (hRxSeq c.tcb.rcv p).seg.rst = true
  | .closing | .closeWait | .lastAck => hRxSeqCheck c.tcb.rcv p ∧ p.rst = true
  | _ => False

/-- `_h_active_close_rx` aborts the connection. -/
def DataAfterClose : Prop :=
  match c.tcb.state with
  | .finWait1 | .finWait2 =>
    (hRxSeq c.tcb.rcv p).verdict = .acceptAndHandle ∧ (hRxSeq c.tcb.rcv p).seg.rst = false ∧
      c.ActiveCloseRx (hRxSeq c.tcb.rcv p).seg
  | .closing | .closeWait => hRxSeqCheck c.tcb.rcv p ∧ p.rst = false ∧ c.ActiveCloseRx p
  | _ => False

/-- `_rx_last_ack` takes the acknowledgement of all that was sent. -/
def FinalAckBy : Prop :=
  c.tcb.state = .lastAck ∧ hRxSeqCheck c.tcb.rcv p ∧ p.rst = false ∧ p.syn = false ∧
    0 < (hRxAck c.tcb.snd p).2 ∧ (hRxAck c.tcb.snd p).1.sndUna = (hRxAck c.tcb.snd p).1.sndNxt

/-- `_h_active_close_tx` aborts the connection. In `FIN_WAIT_1` and `CLOSING` a send handler asks it
only when it has no data to send. -/
def LingerAborts : Prop :=
  match c.tcb.state with
  | .estab | .finWait2 | .closeWait => c.ActiveCloseTx c.tcb.req.closeRequested
  | .finWait1 | .closing =>
    (drainSndBuf c.tcb.snd).1 = [] ∧ c.ActiveCloseTx c.tcb.req.closeRequested
  | _ => False

/-- The handler of an event ends the connection. -/
def EndsBy : TCPEventType → Ending → Prop
  | .rxSegment packet, .refused => c.RefusedBy packet.segment
  | .rxSegment packet, .reset => c.ResetBy packet.segment
  | .rxSegment packet, .dataAfterClose => c.DataAfterClose packet.segment
  | .rxSegment packet, .finalAck => c.FinalAckBy packet.segment
  | .send, .lingerAbort => c.LingerAborts
  | .rtx, .lingerAbort => c.prepareRtx.LingerAborts
  | _, _ => False

/-- The task at place `i` is the one of `time_wait_timer`, it is due, and it was not taken off. -/
def ExpiresAt (i : Nat) : Prop :=
  c.tcb.state = .timeWait ∧ ∃ x ∈ c.core.timer.popDue (c.core.nowNs / 1000000) i,
    some x.1.id = c.tcb.timeWaitTimer ∧ x.1.deleted = false

end Conn

/-- The step ends the connection. -/
def Outcome.Ends (o : Outcome) : LoopEvent → Ending → Prop
  | .handle i, ending =>
    o.fault = none ∧ ∃ ev ∈ o.st.core.events[i]?, ev.tcpcb = some o.st.tcb.ref ∧
      o.st.EndsBy ev.type ending
  | .fire i, .expired => o.st.ExpiresAt i
  | _, _ => False

/-- What an end of the connection `c` has to leave. -/
structure Outcome.CleanedUp (c : Conn) (o : Outcome) : Prop where
  state : o.st.tcb.state = .closed
  sockets : o.st.core.tcp.sockets c.tcb.socketId = none
  tcpcbs : o.st.core.tcp.tcpcbs c.tcb.socketId = none
  timers : o.st.tcb.rtxTimer = none ∧ o.st.tcb.timeWaitTimer = none
  /-- The tasks the two timers had before are not run any more. -/
  stopped : ∀ id, c.tcb.rtxTimer = some id ∨ c.tcb.timeWaitTimer = some id →
    ¬ o.st.core.timer.Pending id
  /-- Whatever comes later, no segment is sent and no timer is started. -/
  silent : ∀ es, (run Outcome.loop o es).st.core.out = o.st.core.out ∧
    (run Outcome.loop o es).st.core.timer.counter = o.st.core.timer.counter ∧
    (run Outcome.loop o es).st.tcb.rtxTimer = none ∧
    (run Outcome.loop o es).st.tcb.timeWaitTimer = none

/-- When the handler of an event that ends the connection cleans up: at a refusal never, at the last
ACK when the tables have lost the connection before, and at an abort in an `RTX` when the task of
`rtx_timer`, which `rtx` drops unseen, does not run any more. -/
def Conn.Cleans (c : Conn) (type : TCPEventType) : Ending → Prop
  | .refused => False
  | .reset => True
  | .lingerAbort => type = .rtx → ∀ id ∈ c.tcb.rtxTimer, ¬ c.core.timer.Pending id
  | .dataAfterClose => True
  | .finalAck => c.core.tcp.sockets c.tcb.socketId = none ∧ c.core.tcp.tcpcbs c.tcb.socketId = none
  | .expired => False

/-- When a step that ends the connection cleans up: the timer of `TIME_WAIT` never does. -/
def Outcome.Cleans (o : Outcome) : LoopEvent → Ending → Prop
  | .handle i, ending => ∀ ev ∈ o.st.core.events[i]?, o.st.Cleans ev.type ending
  | _, _ => False

/-! ## The timer of `TIME_WAIT` -/

/-- `time_wait_timer` is set in `TIME_WAIT` only. -/
def Conn.WaitTimer (c : Conn) : Prop := c.tcb.timeWaitTimer ≠ none → c.tcb.state = .timeWait

section WaitTimer

variable {c : Conn}

theorem Conn.WaitTimer.none_of_ne (h : c.WaitTimer) (hs : c.tcb.state ≠ .timeWait) :
    c.tcb.timeWaitTimer = none := by
  by_contra hne
  exact hs (h hne)

theorem Conn.sendFin_timeWaitTimer (c : Conn) (next : Option STATES) :
    (c.sendFin next).tcb.timeWaitTimer = c.tcb.timeWaitTimer := by rw [sendFin_tcb]

theorem txLoop_timeWaitTimer (h : c.tcb.timeWaitTimer = none) (data : List (List UInt8))
    (next : Option STATES) (shutReq closeReq : Bool) :
    (txLoop c data next shutReq closeReq).st.tcb.timeWaitTimer = none := by
  refine txLoop_inv (I := fun c' => c'.tcb.timeWaitTimer = none) h ?_ ?_ ?_ ?_ ?_
  · exact fun c' _ => by simp
  · exact fun c' data fin h => by rw [Conn.afterSegment_tcb, ← h]
  · exact fun c' h => by simpa using h
  · exact fun c' s _ h => by simpa using h
  · exact fun c' h => by simpa using h

/-- A send handler does not start it. -/
theorem Conn.tx_timeWaitTimer (h : c.tcb.timeWaitTimer = none) :
    c.tx.st.tcb.timeWaitTimer = none := by
  refine tx_inv (I := fun c' => c'.tcb.timeWaitTimer = none) h ?_ ?_ ?_ ?_ ?_ ?_ ?_ ?_
  · simp [txSynSent, h]
  · simp [txSynRecv, h]
  · rintro c₁ (rfl | rfl) <;> simp [h]
  · exact fun c' _ => by simp
  · exact fun c' next h => by rw [sendFin_timeWaitTimer, h]
  · exact fun c' h => by simpa using h
  · exact fun c' h => by simpa using h
  · exact fun c' data next shutReq closeReq h => txLoop_timeWaitTimer h data next shutReq closeReq

/-- The handshake does not know the timer. -/
theorem Conn.rxSynSent_timeWaitTimer (c : Conn) (p : Segment) :
    (c.rxSynSent p).st.tcb.timeWaitTimer = c.tcb.timeWaitTimer := by rw [rxSynSent_tcb]

/-- The acknowledgement of the FIN starts it if the FIN of the peer comes with it. -/
theorem Conn.finWait1Ack_waitTimer (h : c.tcb.timeWaitTimer = none) (p : Segment) :
    (c.finWait1Ack p).WaitTimer := by
  unfold finWait1Ack
  simp only
  split
  · split <;> split <;> simp [WaitTimer, h]
  · simp [WaitTimer, h]

theorem Conn.finWait1Accept_waitTimer (h : c.tcb.timeWaitTimer = none) (p : Segment) :
    (c.finWait1Accept p).WaitTimer := by
  unfold finWait1Accept
  simp only
  generalize hc : (if p.dlen ≠ 0 ∨ p.fin = true then c.setAckNow true else c) = c₁
  have hack : (c₁.finWait1Ack p).WaitTimer := by
    refine finWait1Ack_waitTimer ?_ p
    rw [← hc]
    split <;> exact h
  split
  · simpa [WaitTimer] using hack
  · simpa [WaitTimer] using hack

theorem Conn.estabAck_timeWaitTimer (c : Conn) (p : Segment) :
    (c.estabAck p).tcb.timeWaitTimer = c.tcb.timeWaitTimer := by rw [estabAck_tcb]

theorem Conn.estabAccept_timeWaitTimer (c : Conn) (p : Segment) :
    (c.estabAccept p).tcb.timeWaitTimer = c.tcb.timeWaitTimer := by
  unfold estabAccept
  simp only
  split <;> split <;> simp [estabAck_timeWaitTimer]

theorem Conn.finWait2Accept_waitTimer (h : c.tcb.timeWaitTimer = none) (p : Segment) :
    (c.finWait2Accept p).WaitTimer := by
  unfold finWait2Accept
  simp only
  split <;> split <;> simp [WaitTimer, h]

theorem Conn.closeWaitAck_timeWaitTimer (c : Conn) (p : Segment) :
    (c.closeWaitAck p).tcb.timeWaitTimer = c.tcb.timeWaitTimer := by rw [closeWaitAck_tcb]

/-- In `CLOSING` the acknowledgement of the FIN starts it. -/
theorem Conn.closingAck_waitTimer (h : c.tcb.timeWaitTimer = none) (p : Segment) :
    (c.closingAck p).WaitTimer := by
  unfold closingAck
  simp only
  split
  · split <;> simp [WaitTimer, h]
  · simp [WaitTimer, h]

theorem Conn.lastAckAck_timeWaitTimer (c : Conn) (p : Segment) :
    (c.lastAckAck p).tcb.timeWaitTimer = c.tcb.timeWaitTimer := by rw [lastAckAck_tcb]

/-- A segment starts it on the way to `TIME_WAIT`. -/
theorem Conn.rx_waitTimer (h : c.tcb.timeWaitTimer = none) (packet : TCPParser) :
    (c.rx packet).st.WaitTimer := by
  have hnone {c' : Conn} (h' : c'.tcb.timeWaitTimer = none) : c'.WaitTimer := absurd h'
  cases hs : c.tcb.state with
  | synSent => exact hnone (by simp [rx, hs, rxSynSent_timeWaitTimer, h])
  | synRecv =>
    refine hnone ?_
    simp only [rx, hs, Outcome.ok_st, rxSynRecv]
    split_ifs <;> simp [h]
  | estab =>
    refine hnone ?_
    simp only [rx, hs, Outcome.ok_st, rxEstab]
    split
    · split_ifs <;> simp [h, estabAccept_timeWaitTimer]
    · simp [h]
    · simp [h]
  | finWait1 =>
    simp only [rx, hs, Outcome.ok_st, rxFinWait1]
    split
    · split_ifs
      · exact hnone (by simp)
      · exact hnone (by simp)
      · exact hnone (by simp [h])
      · refine finWait1Accept_waitTimer ?_ _
        simpa using h
    · exact hnone (by simp [h])
    · exact hnone (by simp [h])
  | finWait2 =>
    simp only [rx, hs, Outcome.ok_st, rxFinWait2]
    split
    · split_ifs
      · exact hnone (by simp)
      · exact hnone (by simp)
      · exact hnone (by simp [h])
      · refine finWait2Accept_waitTimer ?_ _
        simpa using h
    · exact hnone (by simp [h])
    · exact hnone (by simp [h])
  | closeWait =>
    refine hnone ?_
    simp only [rx, hs, Outcome.ok_st, rxCloseWait]
    split_ifs <;> simp [h, closeWaitAck_timeWaitTimer]
  | closing =>
    simp only [rx, hs, Outcome.ok_st, rxClosing]
    split_ifs
    · exact hnone (by simp)
    · exact hnone (by simp)
    · exact hnone (by simp [h])
    · exact closingAck_waitTimer h _
    · exact hnone (by simp [h])
  | lastAck =>
    refine hnone ?_
    simp only [rx, hs, Outcome.ok_st, rxLastAck]
    split_ifs <;> simp [h, lastAckAck_timeWaitTimer]
  | timeWait =>
    intro _
    simp [rx, hs, rxTimeWait_state]
  | listen => exact hnone (by simp [rx, hs, h])
  | closed => exact hnone (by simp [rx, hs, h])

end WaitTimer

/-! ## What the ends do -/

/-- What `_h_rx_rst`, `_h_active_close_tx` and `_h_active_close_rx` leave of the connection `c`. -/
structure Conn.TornDown (c c' : Conn) : Prop where
  state : c'.tcb.state = .closed
  rtxTimer : c'.tcb.rtxTimer = none
  timeWaitTimer : c'.tcb.timeWaitTimer = none
  tcp : c'.core.tcp = c.core.tcp.remove c.tcb.socketId
  timer : c'.core.timer = c.stopAllTimers.core.timer

namespace Conn

variable {c c' : Conn}

/-- The tasks of both timers are off. -/
theorem stopAllTimers_not_pending {id : Nat}
    (h : c.tcb.rtxTimer = some id ∨ c.tcb.timeWaitTimer = some id) :
    ¬ c.stopAllTimers.core.timer.Pending id := by
  rw [stopAllTimers_core]
  intro hp
  rcases h with h | h
  · rw [h] at hp
    cases ht : c.tcb.timeWaitTimer with
    | none => exact Timer.not_pending_remove _ _ (by simpa [ht] using hp)
    | some id' =>
      exact Timer.not_pending_remove _ _ (Timer.Pending.of_remove (by simpa [ht] using hp))
  · rw [h] at hp
    exact Timer.not_pending_remove _ _ (by simpa using hp)

namespace TornDown

/-- What happens before to other slots. -/
theorem congr {c₁ : Conn} (h : c₁.TornDown c') (hfixed : c₁.tcb.fixed = c.tcb.fixed)
    (hrtx : c₁.tcb.rtxTimer = c.tcb.rtxTimer) (hwait : c₁.tcb.timeWaitTimer = c.tcb.timeWaitTimer)
    (htimer : c₁.core.timer = c.core.timer) (htcp : c₁.core.tcp = c.core.tcp) : c.TornDown c' where
  state := h.state
  rtxTimer := h.rtxTimer
  timeWaitTimer := h.timeWaitTimer
  tcp := by
    have hid : c₁.tcb.socketId = c.tcb.socketId := congrArg (·.2.2.1) hfixed
    rw [h.tcp, htcp, hid]
  timer := by
    rw [h.timer, stopAllTimers_core, stopAllTimers_core]
    simp [hrtx, hwait, htimer]

theorem setRcv {r : RcvVars} (h : (c.setRcv r).TornDown c') : c.TornDown c' :=
  h.congr rfl rfl rfl rfl rfl

theorem signalRst (h : c.TornDown c') : c.TornDown c'.signalRst :=
  ⟨h.state, h.rtxTimer, h.timeWaitTimer, h.tcp, h.timer⟩

theorem hRxRst (c : Conn) (errno : Errno) : c.TornDown (c.hRxRst errno) where
  state := by simp
  rtxTimer := by simp
  timeWaitTimer := by simp
  tcp := by simp [Conn.hRxRst, stopAllTimers]
  timer := by simp [Conn.hRxRst, stopAllTimers]

theorem hActiveCloseTx (c : Conn) : c.TornDown c.hActiveCloseTx where
  state := by simp
  rtxTimer := by simp
  timeWaitTimer := by simp
  tcp := by simp [Conn.hActiveCloseTx, stopAllTimers, sendRst]
  timer := by simp [Conn.hActiveCloseTx, stopAllTimers, sendRst]

theorem hActiveCloseRx (c : Conn) (p : Segment) : c.TornDown (c.hActiveCloseRx p) where
  state := by simp
  rtxTimer := by simp
  timeWaitTimer := by simp
  tcp := by simp [Conn.hActiveCloseRx, stopAllTimers]
  timer := by simp [Conn.hActiveCloseRx, stopAllTimers]

end TornDown

/-- A reset is taken in the same way by every handler that looks at it. -/
theorem ResetBy.tornDown {packet : TCPParser} (h : c.ResetBy packet.segment) :
    c.TornDown (c.rx packet).st := by
  unfold ResetBy at h
  split at h
  · next hs =>
    simp only [rx, hs, Outcome.ok_st, rxEstab, h.1, h.2, if_true]
    exact (TornDown.hRxRst _ _).signalRst.setRcv
  · next hs =>
    simp only [rx, hs, Outcome.ok_st, rxFinWait1, h.1, h.2, if_true]
    exact (TornDown.hRxRst _ _).signalRst.setRcv
  · next hs =>
    simp only [rx, hs, Outcome.ok_st, rxFinWait2, h.1, h.2, if_true]
    exact (TornDown.hRxRst _ _).signalRst.setRcv
  · next hs =>
    simp only [rx, hs, Outcome.ok_st, rxClosing, if_pos h.1, h.2, if_true]
    exact (TornDown.hRxRst _ _).signalRst
  · next hs =>
    simp only [rx, hs, Outcome.ok_st, rxCloseWait, if_pos h.1, h.2, if_true]
    exact (TornDown.hRxRst _ _).signalRst
  · next hs =>
    simp only [rx, hs, Outcome.ok_st, rxLastAck, if_pos h.1, h.2, if_true]
    exact (TornDown.hRxRst _ _).signalRst
  · exact h.elim

/-- Data after a close tears the connection down in the states that check for it. -/
theorem DataAfterClose.tornDown {packet : TCPParser} (h : c.DataAfterClose packet.segment) :
    c.TornDown (c.rx packet).st := by
  unfold DataAfterClose at h
  split at h
  · next hs =>
    obtain ⟨hacc, hrst, hdata⟩ := h
    have hdata' : (c.setRcv (hRxSeq c.tcb.rcv packet.segment).rcv).ActiveCloseRx
      (hRxSeq c.tcb.rcv packet.segment).seg := hdata
    simp only [rx, hs, Outcome.ok_st, rxFinWait1, hacc, hrst, if_pos hdata', Bool.false_eq_true,
      if_false]
    exact (TornDown.hActiveCloseRx _ _).signalRst.setRcv
  · next hs =>
    obtain ⟨hacc, hrst, hdata⟩ := h
    have hdata' : (c.setRcv (hRxSeq c.tcb.rcv packet.segment).rcv).ActiveCloseRx
      (hRxSeq c.tcb.rcv packet.segment).seg := hdata
    simp only [rx, hs, Outcome.ok_st, rxFinWait2, hacc, hrst, if_pos hdata', Bool.false_eq_true,
      if_false]
    exact (TornDown.hActiveCloseRx _ _).signalRst.setRcv
  · next hs =>
    obtain ⟨hacc, hrst, hdata⟩ := h
    simp only [rx, hs, Outcome.ok_st, rxClosing, if_pos hacc, hrst, if_pos hdata,
      Bool.false_eq_true, if_false]
    exact (TornDown.hActiveCloseRx _ _).signalRst
  · next hs =>
    obtain ⟨hacc, hrst, hdata⟩ := h
    simp only [rx, hs, Outcome.ok_st, rxCloseWait, if_pos hacc, hrst, if_pos hdata,
      Bool.false_eq_true, if_false]
    exact (TornDown.hActiveCloseRx _ _).signalRst
  · exact h.elim

theorem txLoop_tornDown {closeReq : Bool} (h : c.ActiveCloseTx closeReq) (data : List (List UInt8))
    (next : Option STATES) (shutReq : Bool) :
    c.TornDown (txLoop c data next shutReq closeReq).st := by
  simp only [txLoop, if_pos h]
  exact TornDown.hActiveCloseTx c

/-- An abort that is due happens on every path that is open to it. -/
theorem tornDown_of_path {c₁ : Conn} {next : Option STATES} {shutReq closeReq : Bool} {o : Outcome}
    (hpath : TxPath c c₁ next shutReq closeReq o) (hdrain : c.DrainsTo c₁)
    (hearly : c.tcb.state ≠ .lastAck) (hab : c.ActiveCloseTx c.tcb.req.closeRequested)
    (hloop : (drainSndBuf c.tcb.snd).1 ≠ [] → closeReq = c.tcb.req.closeRequested) :
    c.TornDown o.st := by
  have hdown : ∀ {c'}, c₁.TornDown c' → c.TornDown c' := by
    intro c' h
    rcases hdrain with rfl | rfl
    · exact h.congr rfl rfl rfl rfl rfl
    · exact h.congr rfl rfl rfl rfl rfl
  cases hpath with
  | abort => exact hdown (.hActiveCloseTx c₁)
  | fin c' _ live => exact absurd hab (live hearly)
  | quiet c' _ live => exact absurd hab (live hearly)
  | loop ready =>
    have hab₁ : c₁.ActiveCloseTx closeReq := by
      rw [hloop ready]
      rcases hdrain with rfl | rfl
      · exact hab
      · exact hab
    exact hdown (txLoop_tornDown hab₁ _ _ _)

/-- A close with `SO_LINGER` on tears it down from a send handler. -/
theorem LingerAborts.tornDown (h : c.LingerAborts) : c.TornDown c.tx.st := by
  unfold LingerAborts at h
  cases hs : c.tcb.state with
  | estab | closeWait =>
    rw [hs] at h
    obtain ⟨c₁, hdrain, hpath⟩ := tx_streaming (c := c) (by rw [hs]; decide)
    exact tornDown_of_path hpath hdrain (by simp [hs]) h fun _ => rfl
  | finWait1 | closing =>
    rw [hs] at h
    obtain ⟨c₁, hdrain, hpath⟩ := tx_ending (c := c) (by rw [hs]; decide)
    exact tornDown_of_path hpath hdrain (by simp [hs]) h.2 fun hready => absurd h.1 hready
  | finWait2 =>
    rw [hs] at h
    simp only [tx, hs, txFinWait2, Outcome.ok_st, if_pos h]
    exact TornDown.hActiveCloseTx c
  | _ => simp [hs] at h

/-- The last ACK closes the connection, but leaves the tables. -/
structure LastAcked (c c' : Conn) : Prop where
  state : c'.tcb.state = .closed
  rtxTimer : c'.tcb.rtxTimer = none
  timeWaitTimer : c'.tcb.timeWaitTimer = c.tcb.timeWaitTimer
  tcp : c'.core.tcp = c.core.tcp
  timer : c'.core.timer = c.stopRtxTimer.core.timer

/-- What the handler of `LAST_ACK` leaves. -/
theorem FinalAckBy.lastAcked {packet : TCPParser} (h : c.FinalAckBy packet.segment) :
    c.LastAcked (c.rx packet).st := by
  obtain ⟨hs, hacc, hrst, hsyn, hacked, hall⟩ := h
  have hack : c.lastAckAck packet.segment =
      ((((c.setSnd (hRxAck c.tcb.snd packet.segment).1).rttSample).stopRtxTimer.freeSnd
        ((hRxAck c.tcb.snd packet.segment).2 - 1)).changeState .closed) := by
    simp only [lastAckAck, if_pos hacked]
    exact if_pos (by simpa using hall)
  have hrx : (c.rx packet).st = (c.lastAckAck packet.segment).updateWnd packet.segment := by
    simp only [rx, hs, Outcome.ok_st, rxLastAck, if_pos hacc, hrst, hsyn,
      Bool.false_eq_true, if_false]
  rw [hrx, hack]
  constructor <;> simp

end Conn

/-! ## After the end -/

/-- What a step leaves alone once the connection is closed. -/
structure Conn.Inert (c c' : Conn) : Prop where
  out : c'.core.out = c.core.out
  counter : c'.core.timer.counter = c.core.timer.counter
  rtxTimer : c.tcb.rtxTimer = none → c'.tcb.rtxTimer = none
  timeWaitTimer : c'.tcb.timeWaitTimer = c.tcb.timeWaitTimer

namespace Conn.Inert

variable {c c' c'' : Conn}

theorem refl (c : Conn) : c.Inert c := ⟨rfl, rfl, id, rfl⟩

theorem trans (h : c.Inert c') (h' : c'.Inert c'') : c.Inert c'' :=
  ⟨h'.out.trans h.out, h'.counter.trans h.counter, h'.rtxTimer ∘ h.rtxTimer,
    h'.timeWaitTimer.trans h.timeWaitTimer⟩

end Conn.Inert

theorem Core.fireTimer_counter (k : Core) (i : Nat) :
    (k.fireTimer i).timer.counter = k.timer.counter := by
  unfold Core.fireTimer
  split
  · rfl
  · next task timer hpop =>
    have hcounter : timer.counter = k.timer.counter := Timer.popDue_counter hpop
    simp only
    split
    · exact hcounter
    · split <;> exact hcounter

theorem Core.fireTimer_out (k : Core) (i : Nat) : (k.fireTimer i).out = k.out := by
  unfold Core.fireTimer
  split
  · rfl
  · simp only
    split
    · rfl
    · split <;> rfl

theorem UserRequest.apply_inert (q : UserRequest) (c : Conn) : c.Inert (q.apply c) := by
  cases q with
  | tcpSend data =>
    simp only [UserRequest.apply, Conn.tcpSend]
    split
    · exact .refl c
    · exact ⟨rfl, rfl, id, rfl⟩
  | tcpRecv n =>
    simp only [UserRequest.apply, Conn.tcpRecv]
    split
    · exact .refl c
    · exact ⟨rfl, rfl, id, rfl⟩
  | tcpClose => exact ⟨rfl, rfl, id, rfl⟩
  | tcpShutdown => exact ⟨rfl, rfl, id, rfl⟩
  | tick ns => exact ⟨rfl, rfl, id, rfl⟩

/-- A closed control block without a `CONNECT` to come. -/
structure Outcome.Dead (o : Outcome) : Prop where
  state : o.st.tcb.state = .closed
  noConnect : o.st.NoConnect

/-- **No event wakes a closed connection**: `_ignore_closed_tcp_event`. -/
theorem Outcome.Dead.step {o : Outcome} (h : o.Dead) (e : LoopEvent) :
    (o.loop e).Dead ∧ o.st.Inert (o.loop e).st := by
  have hstep : (o.loop e).st.tcb.state = .closed ∧ o.st.Inert (o.loop e).st := by
    refine o.loop_rule (R := fun c c' => c'.tcb.state = .closed ∧ c.Inert c') e ⟨h.state, .refl _⟩
      ?_ ?_ ?_ ?_ ?_
    · exact fun q => ⟨(q.apply_state o.st).trans h.state, q.apply_inert o.st⟩
    · exact fun packet => ⟨h.state, rfl, rfl, id, rfl⟩
    · exact fun i => ⟨h.state, o.st.core.fireTimer_out i, o.st.core.fireTimer_counter i, id, rfl⟩
    · exact fun i ev _ _ => ⟨h.state, rfl, rfl, id, rfl⟩
    · intro i ev hev hto
      have hs : (o.st.dropEvent i).tcb.state = .closed := h.state
      have hconn : ev.type.isConnect = false := h.noConnect ev (List.mem_of_getElem? hev) hto
      rcases Conn.eventsMap_closed hs hconn with he | he <;> rw [he]
      · exact ⟨hs, rfl, rfl, id, rfl⟩
      · exact ⟨hs, rfl, rfl, fun _ => rfl, rfl⟩
  exact ⟨⟨hstep.1, Outcome.loop_noConnect h.noConnect e⟩, hstep.2⟩

theorem Outcome.Dead.run {o : Outcome} (h : o.Dead) (es : List LoopEvent) :
    o.st.Inert (run Outcome.loop o es).st := by
  have hguard : Guarded Outcome.loop (fun _ _ => True) o es :=
    guarded_of_forall_mem (P := fun _ => True) (fun _ _ => trivial) o
  exact run_rel (I := Outcome.Dead) (R := fun o o' : Outcome => o.st.Inert o'.st)
    (fun o => .refl o.st) Conn.Inert.trans (fun _ e h _ => h.step e) h hguard

/-- What a closed control block without timers leaves to show. -/
theorem Outcome.CleanedUp.of_dead {c : Conn} {o : Outcome} (h : o.Dead)
    (hsockets : o.st.core.tcp.sockets c.tcb.socketId = none)
    (htcpcbs : o.st.core.tcp.tcpcbs c.tcb.socketId = none)
    (htimers : o.st.tcb.rtxTimer = none ∧ o.st.tcb.timeWaitTimer = none)
    (hstopped : ∀ id, c.tcb.rtxTimer = some id ∨ c.tcb.timeWaitTimer = some id →
      ¬ o.st.core.timer.Pending id) : o.CleanedUp c where
  state := h.state
  sockets := hsockets
  tcpcbs := htcpcbs
  timers := htimers
  stopped := hstopped
  silent es := ⟨(h.run es).out, (h.run es).counter, (h.run es).rtxTimer htimers.1,
    (h.run es).timeWaitTimer.trans htimers.2⟩

theorem Conn.TornDown.cleanedUp {c : Conn} {o : Outcome} (h : c.TornDown o.st)
    (hno : o.st.NoConnect) : o.CleanedUp c :=
  .of_dead ⟨h.state, hno⟩ (by simp [h.tcp, TCPTable.remove]) (by simp [h.tcp, TCPTable.remove])
    ⟨h.rtxTimer, h.timeWaitTimer⟩ fun id hid => by
      rw [h.timer]
      exact Conn.stopAllTimers_not_pending hid

/-! ## Runs from the first `CONNECT` -/

/-- The number of `CONNECT`s queued for this control block. -/
def Conn.connects (c : Conn) : Nat :=
  c.core.events.countP fun ev => ev.type.isConnect && decide (ev.tcpcb = some c.tcb.ref)

section Connects

variable {c c' : Conn}

theorem Conn.noConnect_of_connects (h : c.connects = 0) : c.NoConnect := by
  intro ev hev hto
  have := List.countP_eq_zero.1 h ev hev
  simpa [hto] using this

theorem Conn.connects_eq_zero (h : c.NoConnect) : c.connects = 0 := by
  refine List.countP_eq_zero.2 fun ev hev => ?_
  by_cases hto : ev.tcpcb = some c.tcb.ref
  · simp [h ev hev hto]
  · simp [hto]

theorem Conn.connects_append_le {ev : TCPEvent} (href : c'.tcb.ref = c.tcb.ref)
    (h : c'.core.events = c.core.events ++ [ev]) : c'.connects ≤ c.connects + 1 := by
  simp only [connects, h, href, List.countP_append]
  exact Nat.add_le_add_left List.countP_le_length _

theorem Conn.connects_append {ev : TCPEvent} (href : c'.tcb.ref = c.tcb.ref)
    (h : c'.core.events = c.core.events ++ [ev]) (hev : ev.type.isConnect = false) :
    c'.connects = c.connects := by
  simp [connects, h, href, List.countP_append, hev]

theorem Conn.connects_congr (href : c'.tcb.ref = c.tcb.ref) (h : c'.core.events = c.core.events) :
    c'.connects = c.connects := by
  simp [connects, h, href]

theorem Conn.QueuesSend.connects (h : c.QueuesSend c') (href : c'.tcb.ref = c.tcb.ref) :
    c'.connects = c.connects :=
  h.elim (Conn.connects_congr href) fun h => Conn.connects_append href h rfl

theorem Conn.connects_dropEvent {i : Nat} {ev : TCPEvent} (hev : c.core.events[i]? = some ev) :
    c.connects = (c.dropEvent i).connects +
      if ev.type.isConnect = true ∧ ev.tcpcb = some c.tcb.ref then 1 else 0 := by
  obtain ⟨hi, rfl⟩ := List.getElem?_eq_some_iff.1 hev
  have hperm := (List.getElem_cons_eraseIdx_perm hi).countP_eq
    fun ev => ev.type.isConnect && decide (ev.tcpcb = some c.tcb.ref)
  rw [List.countP_cons] at hperm
  simpa [connects] using hperm.symm

end Connects

/-- `tcp_connect` has made a control block and queued its `CONNECT`. -/
def Outcome.opening (ref so : Nat) (socketId : SockId) (soLinger : Option (List UInt8)) (iss : Int)
    (k : Core) : Outcome :=
  .ok ⟨TCPCB.new ref so socketId soLinger iss k.nowNs, k.scheduleEvent ⟨.connect, some ref⟩⟩

/-- The invariant of the runs of one connection: there is one `CONNECT`, and it comes first. -/
structure Outcome.OpenedOnce (o : Outcome) : Prop where
  wait : o.st.WaitTimer
  once : o.st.connects ≤ 1
  first : o.st.tcb.state ≠ .closed → o.st.connects = 0

theorem opening_openedOnce (ref so : Nat) (socketId : SockId) (soLinger : Option (List UInt8))
    (iss : Int) {k : Core} (hnew : ∀ ev ∈ k.events, ev.tcpcb ≠ some ref) :
    (Outcome.opening ref so socketId soLinger iss k).OpenedOnce where
  wait h := absurd rfl h
  once := by
    let c : Conn := ⟨TCPCB.new ref so socketId soLinger iss k.nowNs, k⟩
    have hk : c.connects = 0 := Conn.connects_eq_zero fun ev hev hto => absurd hto (hnew ev hev)
    have hle : (Outcome.opening ref so socketId soLinger iss k).st.connects ≤ c.connects + 1 :=
      Conn.connects_append_le rfl rfl
    omega
  first h := absurd rfl h

/-- A handler keeps the invariant, given the queue without its event. -/
theorem Outcome.OpenedOnce.handle {o : Outcome} (h : o.OpenedOnce) {i : Nat} {ev : TCPEvent}
    (hev : o.st.core.events[i]? = some ev) (hto : ev.tcpcb = some o.st.tcb.ref) :
    (⟨((o.st.dropEvent i).eventsMap ev.type).st, none⟩ : Outcome).OpenedOnce := by
  have hcount := Conn.connects_dropEvent hev
  have hqueue := ((o.st.dropEvent i).eventsMap_queues ev.type).connects
    ((o.st.dropEvent i).eventsMap_ref ev.type)
  have honce := h.once
  cases hconn : ev.type.isConnect with
  | true =>
    -- the only `CONNECT`, so the control block is still closed and without timers
    have hzero : ((o.st.dropEvent i).eventsMap ev.type).st.connects = 0 := by
      rw [hqueue]
      simp only [hconn, hto, and_self, if_true] at hcount
      omega
    have hstate : o.st.tcb.state = .closed := by
      by_contra hne
      have := h.first hne
      simp only [hconn, hto, and_self, if_true] at hcount
      omega
    have hnone : o.st.tcb.timeWaitTimer = none := h.wait.none_of_ne (by rw [hstate]; decide)
    refine ⟨?_, hzero.le.trans (by omega), fun _ => hzero⟩
    revert hconn
    cases ev.type with
    | connect =>
      intro _
      simp [Conn.WaitTimer, Conn.eventsMap, Conn.activOpen, hnone]
    | rxSegment packet => exact fun hconn => by cases hconn
    | send => exact fun hconn => by cases hconn
    | rtx => exact fun hconn => by cases hconn
  | false =>
    have hsame : ((o.st.dropEvent i).eventsMap ev.type).st.connects = o.st.connects := by
      rw [hqueue, hcount]
      simp [hconn]
    have hnext := (o.st.dropEvent i).eventsMap_next hconn
    refine ⟨?_, hsame.le.trans honce, fun hne => ?_⟩
    · by_cases hs : o.st.tcb.state = .timeWait
      · intro _
        rw [show (o.st.dropEvent i).tcb.state = .timeWait from hs] at hnext
        simpa [STATES.successors] using hnext
      · have hnone : (o.st.dropEvent i).tcb.timeWaitTimer = none := h.wait.none_of_ne hs
        revert hconn
        cases ev.type with
        | connect => exact fun hconn => by cases hconn
        | rxSegment packet => exact fun _ => Conn.rx_waitTimer hnone packet
        | send => exact fun _ => absurd (Conn.tx_timeWaitTimer hnone)
        | rtx =>
          exact fun _ => absurd (Conn.tx_timeWaitTimer (c := (o.st.dropEvent i).prepareRtx) hnone)
    · rw [hsame]
      refine h.first fun hs => hne ?_
      rw [show (o.st.dropEvent i).tcb.state = .closed from hs] at hnext
      simpa [STATES.successors] using hnext

theorem Outcome.OpenedOnce.step {o : Outcome} (h : o.OpenedOnce) (e : LoopEvent) :
    (o.loop e).OpenedOnce := by
  have hkeep : ∀ c' : Conn, c'.tcb.state = o.st.tcb.state →
      c'.tcb.timeWaitTimer = o.st.tcb.timeWaitTimer → c'.connects ≤ o.st.connects →
      (⟨c', none⟩ : Outcome).OpenedOnce := by
    intro c' hstate hwait hcount
    refine ⟨fun hne => ?_, hcount.trans h.once, fun hne => ?_⟩
    · exact hstate.trans (h.wait (hwait ▸ hne))
    · exact Nat.le_zero.1 (hcount.trans (h.first (hstate ▸ hne)).le)
  have hstep : (⟨(o.loop e).st, none⟩ : Outcome).OpenedOnce := by
    refine o.loop_rule (R := fun _ c' => (⟨c', none⟩ : Outcome).OpenedOnce) e
      (hkeep _ rfl rfl le_rfl) ?_ ?_ ?_ ?_ ?_
    · intro q
      have hq := q.apply_requested o.st
      exact hkeep _ hq.state (q.apply_inert o.st).timeWaitTimer (hq.queues.connects hq.ref).le
    · intro packet
      refine hkeep _ rfl rfl ?_
      exact le_of_eq (Conn.connects_append rfl rfl rfl)
    · intro i
      refine hkeep _ rfl rfl ?_
      rcases o.st.core.fireTimer_events i with he | ⟨ref, he⟩
      · exact le_of_eq (Conn.connects_congr rfl he)
      · exact le_of_eq (Conn.connects_append rfl he rfl)
    · intro i ev hev _
      have hcount := Conn.connects_dropEvent hev
      exact hkeep _ rfl rfl (by omega)
    · exact fun i ev hev hto => h.handle hev hto
  exact ⟨hstep.wait, hstep.once, hstep.first⟩

/-! ## When the ends clean up -/

theorem Conn.EndsBy.ne_closed {c : Conn} {type : TCPEventType} {ending : Ending}
    (h : c.EndsBy type ending) : c.tcb.state ≠ .closed := by
  intro hs
  cases type with
  | rxSegment packet =>
    cases ending <;> simp [EndsBy, RefusedBy, ResetBy, DataAfterClose, FinalAckBy, hs] at h
  | send => cases ending <;> simp [EndsBy, LingerAborts, hs] at h
  | rtx =>
    have hs' : c.prepareRtx.tcb.state = .closed := hs
    cases ending <;> simp [EndsBy, LingerAborts, hs'] at h
  | connect => cases ending <;> exact h

section Ends

variable {o : Outcome} {i : Nat} {ev : TCPEvent}

/-- The refusal leaves the state `SYN_SENT`. -/
theorem Conn.RefusedBy.state {c : Conn} {packet : TCPParser} (h : c.RefusedBy packet.segment) :
    (c.rx packet).st.tcb.state = .synSent := by
  obtain ⟨hs, hrst, hacked⟩ := h
  simp only [rx, hs, rxSynSent, if_pos (And.intro hrst hacked), Outcome.ok_st]
  simp [hs]

theorem Outcome.finalAck_iff {c : Conn} (hacked : c.LastAcked o.st) (hno : o.st.NoConnect)
    (hwait : c.tcb.timeWaitTimer = none) : o.CleanedUp c ↔
      c.core.tcp.sockets c.tcb.socketId = none ∧ c.core.tcp.tcpcbs c.tcb.socketId = none := by
  rw [← hacked.tcp]
  refine ⟨fun h => ⟨h.sockets, h.tcpcbs⟩, fun h => ?_⟩
  refine .of_dead ⟨hacked.state, hno⟩ h.1 h.2 ⟨hacked.rtxTimer, hacked.timeWaitTimer.trans hwait⟩
    fun id hid => ?_
  have hrtx : c.tcb.rtxTimer = some id := hid.resolve_right (by simp [hwait])
  rw [hacked.timer, Conn.stopRtxTimer_core, hrtx]
  exact Timer.not_pending_remove _ _

/-- An abort in an `RTX` does not see the timer that `rtx` dropped. -/
theorem Outcome.abortRtx_iff {c : Conn} (hdown : c.prepareRtx.TornDown o.st) (hno : o.st.NoConnect)
    (hwait : c.tcb.timeWaitTimer = none) :
    o.CleanedUp c ↔ ∀ id ∈ c.tcb.rtxTimer, ¬ c.core.timer.Pending id := by
  have htimer : o.st.core.timer = c.core.timer := by
    rw [hdown.timer, Conn.stopAllTimers_core]
    simp [Conn.prepareRtx, hwait]
  refine ⟨fun h id hid => htimer ▸ h.stopped id (Or.inl hid), fun h => ?_⟩
  have hclean := hdown.cleanedUp hno
  refine .of_dead ⟨hclean.state, hno⟩ hclean.sockets hclean.tcpcbs hclean.timers fun id hid => ?_
  rw [htimer]
  exact h id (hid.resolve_right (by simp [hwait]))

/-- A segment that ends the connection. -/
theorem Conn.rx_ends_iff {c : Conn} {packet : TCPParser} {ending : Ending} (hwait : c.WaitTimer)
    (hno : (c.rx packet).st.NoConnect) (hend : c.EndsBy (.rxSegment packet) ending) :
    (c.rx packet).CleanedUp c ↔ c.Cleans (.rxSegment packet) ending := by
  cases ending with
  | refused =>
    have hs := RefusedBy.state hend
    exact iff_of_false (fun hclean => absurd (hs.symm.trans hclean.state) (by decide)) id
  | reset => exact iff_of_true ((ResetBy.tornDown hend).cleanedUp hno) trivial
  | dataAfterClose => exact iff_of_true ((DataAfterClose.tornDown hend).cleanedUp hno) trivial
  | finalAck =>
    have hlast : c.tcb.state = .lastAck := hend.1
    exact Outcome.finalAck_iff (FinalAckBy.lastAcked hend) hno
      (hwait.none_of_ne (by rw [hlast]; decide))
  | lingerAbort => exact hend.elim
  | expired => exact hend.elim

/-- A SEND that ends it. -/
theorem Conn.tx_ends_iff {c : Conn} {ending : Ending} (hno : c.tx.st.NoConnect)
    (hend : c.EndsBy .send ending) : c.tx.CleanedUp c ↔ c.Cleans .send ending := by
  cases ending with
  | lingerAbort =>
    refine iff_of_true ((LingerAborts.tornDown hend).cleanedUp hno) ?_
    intro hrtx
    cases hrtx
  | _ => exact hend.elim

/-- An RTX that ends it. -/
theorem Conn.rtx_ends_iff {c : Conn} {ending : Ending} (hwait : c.WaitTimer)
    (hno : c.rtx.st.NoConnect) (hend : c.EndsBy .rtx ending) :
    c.rtx.CleanedUp c ↔ c.Cleans .rtx ending := by
  cases ending with
  | lingerAbort =>
    have hne : c.tcb.state ≠ .timeWait := by
      intro hs
      have hs' : c.prepareRtx.tcb.state = .timeWait := hs
      simp [EndsBy, LingerAborts, hs'] at hend
    refine (Outcome.abortRtx_iff (LingerAborts.tornDown hend) hno (hwait.none_of_ne hne)).trans ?_
    exact ⟨fun h _ => h, fun h => h rfl⟩
  | _ => exact hend.elim

/-- The end of a connection in the handler of an event. -/
theorem Conn.eventsMap_ends_iff {c : Conn} {type : TCPEventType} {ending : Ending}
    (hwait : c.WaitTimer) (hno : (c.eventsMap type).st.NoConnect) (hend : c.EndsBy type ending) :
    (c.eventsMap type).CleanedUp c ↔ c.Cleans type ending := by
  cases type with
  | rxSegment packet => exact rx_ends_iff hwait hno hend
  | send => exact tx_ends_iff hno hend
  | rtx => exact rtx_ends_iff hwait hno hend
  | connect => cases ending <;> exact hend.elim

/-- What was cleaned up does not depend on the queue before. -/
theorem Outcome.cleanedUp_dropEvent (c : Conn) : o.CleanedUp (c.dropEvent i) ↔ o.CleanedUp c :=
  ⟨fun h => ⟨h.state, h.sockets, h.tcpcbs, h.timers, h.stopped, h.silent⟩,
    fun h => ⟨h.state, h.sockets, h.tcpcbs, h.timers, h.stopped, h.silent⟩⟩

theorem Outcome.ends_handle_iff (h : o.OpenedOnce) (hf : o.fault = none)
    (hev : o.st.core.events[i]? = some ev) (hto : ev.tcpcb = some o.st.tcb.ref) {ending : Ending}
    (hend : o.st.EndsBy ev.type ending) :
    (o.loop (.handle i)).CleanedUp o.st ↔ o.Cleans (.handle i) ending := by
  have hno : (o.loop (.handle i)).st.NoConnect :=
    Outcome.loop_noConnect (Conn.noConnect_of_connects (h.first hend.ne_closed)) _
  have hloop : o.loop (.handle i) = (o.st.dropEvent i).eventsMap ev.type :=
    (Outcome.loop_handle hf hev).trans (if_pos hto)
  have hdrop : (o.st.dropEvent i).EndsBy ev.type ending ∧
      ((o.st.dropEvent i).Cleans ev.type ending ↔ o.st.Cleans ev.type ending) := by
    refine ⟨?_, by cases ending <;> rfl⟩
    revert hend
    cases ev.type <;> cases ending <;> exact id
  have hwait : (o.st.dropEvent i).WaitTimer := h.wait
  rw [hloop] at hno ⊢
  rw [← Outcome.cleanedUp_dropEvent (i := i), Conn.eventsMap_ends_iff hwait hno hdrop.1, hdrop.2]
  simp only [Outcome.Cleans, hev, Option.mem_def, Option.some.injEq, forall_eq']

/-- The timer of `TIME_WAIT` leaves the state as it is. -/
theorem Outcome.ends_fire_iff (hend : o.st.ExpiresAt i) :
    (o.loop (.fire i)).CleanedUp o.st ↔ o.Cleans (.fire i) .expired := by
  have hs : (o.loop (.fire i)).st.tcb.state = .timeWait := hend.1
  exact iff_of_false (fun hclean => absurd (hs.symm.trans hclean.state) (by decide)) id

/-- **The end of a connection in any step.** -/
theorem Outcome.ends_iff (h : o.OpenedOnce) {e : LoopEvent} {ending : Ending}
    (hend : o.Ends e ending) : (o.loop e).CleanedUp o.st ↔ o.Cleans e ending := by
  cases e with
  | handle i =>
    obtain ⟨hf, ev, hev, hto, hby⟩ := hend
    exact Outcome.ends_handle_iff h hf hev hto hby
  | fire i =>
    cases ending with
    | expired => exact Outcome.ends_fire_iff hend
    | _ => exact hend.elim
  | usr q => cases ending <;> exact hend.elim
  | arrive packet => cases ending <;> exact hend.elim

end Ends

/-- **The ends that clean up.** In every run of a connection, from the `CONNECT` that `tcp_connect`
queues and through requests, segments, timers and handled events in any order, the step that ends it
cleans up exactly under `Cleans`. -/
theorem cleaned_up_iff (ref so : Nat) (socketId : SockId)
    (soLinger : Option (List UInt8)) (iss : Int) (k : Core)
    (hnew : ∀ ev ∈ k.events, ev.tcpcb ≠ some ref) (es : List LoopEvent) (e : LoopEvent)
    (ending : Ending)
    (hend : (run Outcome.loop (.opening ref so socketId soLinger iss k) es).Ends e ending) :
    (run Outcome.loop (.opening ref so socketId soLinger iss k) (es ++ [e])).CleanedUp
        (run Outcome.loop (.opening ref so socketId soLinger iss k) es).st ↔
      (run Outcome.loop (.opening ref so socketId soLinger iss k) es).Cleans e ending := by
  rw [run_append]
  refine Outcome.ends_iff ?_ hend
  exact run_inv' (I := Outcome.OpenedOnce) (fun _ e h => h.step e)
    (opening_openedOnce ref so socketId soLinger iss hnew) es

/-- The core after `tcp_connect` has registered a socket and its control block. -/
def Core.sampleRegistered : Core :=
  { Core.idle with tcp :=
      ⟨Function.update (fun _ => none) ⟨1, 1234, 2, 80⟩ (some 0),
        Function.update (fun _ => none) ⟨1, 1234, 2, 80⟩ (some 0)⟩ }

/-- An RST in `ESTAB`. -/
theorem cleaned_up_iff_reset :
    let start := Outcome.opening 0 0 ⟨1, 1234, 2, 80⟩ none 1000 .sampleRegistered
    let es : List LoopEvent := [.handle 0, .arrive (.sample 100 1001 0x12 4096 []), .handle 0,
      .arrive (.sample 101 1001 0x14 0 [])]
    (run Outcome.loop start es).Ends (.handle 0) .reset ∧
      (run Outcome.loop start (es ++ [.handle 0])).CleanedUp (run Outcome.loop start es).st := by
  intro start es
  have hend : (run Outcome.loop start es).Ends (.handle 0) .reset :=
    ⟨rfl, _, rfl, rfl, by decide +kernel, by decide +kernel⟩
  refine ⟨hend, (cleaned_up_iff 0 0 _ none 1000 _ (fun ev hev => by cases hev) es _ _ hend).2 ?_⟩
  exact fun _ _ => trivial

/-- The peer refuses the connection: the control block stays in `SYN_SENT` and in the tables, and a
close afterwards sends the SYN again and starts the timer again. -/
theorem refused_connect_sends_syn :
    let start := Outcome.opening 0 0 ⟨1, 1234, 2, 80⟩ none 1000 .sampleRegistered
    let es : List LoopEvent := [.handle 0, .arrive (.sample 0 1001 0x14 0 [])]
    let o := run Outcome.loop start (es ++ [.handle 0])
    let o' := run Outcome.loop o [.usr .tcpClose, .handle 0]
    (run Outcome.loop start es).Ends (.handle 0) .refused ∧
      ¬ o.CleanedUp (run Outcome.loop start es).st ∧
      o.st.tcb.state = .synSent ∧ o.st.core.tcp.tcpcbs ⟨1, 1234, 2, 80⟩ = some 0 ∧
      o'.st.core.out.map (·.2.syn) = [true, true] ∧ o'.st.tcb.rtxTimer = some 1 := by
  intro start es o o'
  have hstate : o.st.tcb.state = .synSent := by decide +kernel
  refine ⟨⟨rfl, _, rfl, rfl, by decide +kernel, by decide +kernel, by decide +kernel⟩, ?_, hstate,
    by decide +kernel, by decide +kernel, by decide +kernel⟩
  exact fun hclean => absurd (hstate.symm.trans hclean.state) (by decide)

end Tipy.Tcp
