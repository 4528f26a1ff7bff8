import Tipy.Tcp.EventLoop

/-!
# The rule for a handler

A handler is put together from helpers, most of which touch neither the timer nor the tables. So a
property of the timer, the tables and the identity of the control block holds after every handler
once it holds after the few that do: `Stable` names them, and `Kept.eventsMap` is the rule. One
lemma for each helper of the state machine, and from these one for each handler.
-/

namespace Tipy.Tcp

open Tipy.Components

/-- The property depends on the identity of the control block, its `time_wait_timer`, the timer and
the tables only, and the helpers that change these keep it. -/
structure Conn.Stable (I : Conn → Prop) : Prop where
  congr : ∀ {c c' : Conn}, I c → c'.tcb.fixed = c.tcb.fixed →
    c'.tcb.timeWaitTimer = c.tcb.timeWaitTimer → c'.core.timer = c.core.timer →
    c'.core.tcp = c.core.tcp → I c'
  startRtxTimer : ∀ {c : Conn}, I c → I c.startRtxTimer
  restartRtxTimer : ∀ {c : Conn}, I c → I c.restartRtxTimer
  stopRtxTimer : ∀ {c : Conn}, I c → I c.stopRtxTimer
  startTimeWaitTimer : ∀ {c : Conn}, I c → I c.startTimeWaitTimer
  restartTimeWaitTimer : ∀ {c : Conn}, I c → I c.stopTimeWaitTimer.startTimeWaitTimer
  tearDown : ∀ {c : Conn}, I c → I c.stopAllTimers.removeTcpcb

/-- A stable property that holds. -/
structure Conn.Kept (I : Conn → Prop) (c : Conn) : Prop where
  stable : Conn.Stable I
  holds : I c

namespace Conn.Kept

variable {I : Conn → Prop} {c c' : Conn}

/-- Of a connection the property sees the timer, the table, the fixed slots and `time_wait_timer`.
-/
theorem congr (h : Kept I c) (hfixed : c'.tcb.fixed = c.tcb.fixed)
    (hwait : c'.tcb.timeWaitTimer = c.tcb.timeWaitTimer) (htimer : c'.core.timer = c.core.timer)
    (htcp : c'.core.tcp = c.core.tcp) : Kept I c' :=
  ⟨h.stable, h.stable.congr h.holds hfixed hwait htimer htcp⟩

theorem start (h : Kept I c) : Kept I c.startRtxTimer := ⟨h.stable, h.stable.startRtxTimer h.holds⟩

theorem restart (h : Kept I c) : Kept I c.restartRtxTimer :=
  ⟨h.stable, h.stable.restartRtxTimer h.holds⟩

theorem stop (h : Kept I c) : Kept I c.stopRtxTimer := ⟨h.stable, h.stable.stopRtxTimer h.holds⟩

theorem startTimeWait (h : Kept I c) : Kept I c.startTimeWaitTimer :=
  ⟨h.stable, h.stable.startTimeWaitTimer h.holds⟩

theorem restartTimeWait (h : Kept I c) : Kept I c.stopTimeWaitTimer.startTimeWaitTimer :=
  ⟨h.stable, h.stable.restartTimeWaitTimer h.holds⟩

/-- Both timers are stopped before the table forgets the connection. -/
theorem tearDown (h : Kept I c) : Kept I c.stopAllTimers.removeTcpcb :=
  ⟨h.stable, h.stable.tearDown h.holds⟩

/-- The timer is stopped or restarted after an acknowledgement. -/
theorem ackTimer (h : Kept I c) : Kept I c.ackTimer := by
  unfold Conn.ackTimer
  split
  · exact h.stop
  · exact h.restart

/-! ## What touches neither the timer nor the table -/

section Same

variable (h : Kept I c)
include h

theorem setRcv (r : RcvVars) : Kept I (c.setRcv r) := h.congr rfl rfl rfl rfl

theorem setSnd (s : SndVars) : Kept I (c.setSnd s) := h.congr rfl rfl rfl rfl

theorem setRto (x : RtoVars) : Kept I (c.setRto x) := h.congr rfl rfl rfl rfl

theorem setAckNow (b : Bool) : Kept I (c.setAckNow b) := h.congr rfl rfl rfl rfl

theorem changeState (new : STATES) : Kept I (c.changeState new) := h.congr rfl rfl rfl rfl

theorem setSoError (errno : Errno) : Kept I (c.onCore (·.setSoError c.tcb.so errno)) :=
  h.congr rfl rfl rfl rfl

theorem notify (n : Notice) : Kept I (c.notify n) := h.congr rfl rfl rfl rfl

theorem scheduleEvent (type : TCPEventType) : Kept I (c.scheduleEvent type) :=
  h.congr rfl rfl rfl rfl

theorem txTcp (seg : TxTcp) : Kept I (c.txTcp seg) := h.congr rfl rfl rfl rfl

theorem rttProbe : Kept I c.rttProbe := h.congr (by simp) (by simp) (by simp) (by simp)

theorem rttSample : Kept I c.rttSample := h.congr (by simp) (by simp) (by simp) (by simp)

theorem appendData (p : Segment) : Kept I (c.appendData p) :=
  h.congr (by simp) (by simp) (by simp) (by simp)

theorem sendChallengeAck : Kept I c.sendChallengeAck :=
  h.congr (by simp) (by simp) (by simp) (by simp)

theorem dropWithReset (p : Segment) : Kept I (c.dropWithReset p) :=
  h.congr (by simp) (by simp) (by simp) (by simp)

end Same

/-! ## The receive handlers -/

section Receive

variable (h : Kept I c) (p : Segment)
include h

/-- An abort by the peer tears down. -/
theorem hRxRst (errno : Errno) : Kept I (c.hRxRst errno) :=
  h.tearDown.congr (by simp) (by simp) (by simp [Conn.hRxRst, Conn.stopAllTimers])
    (by simp [Conn.hRxRst, Conn.stopAllTimers])

theorem hActiveCloseRx : Kept I (c.hActiveCloseRx p) :=
  h.tearDown.congr (by simp) (by simp) (by simp [Conn.hActiveCloseRx, Conn.stopAllTimers])
    (by simp [Conn.hActiveCloseRx, Conn.stopAllTimers])

theorem signalRst : Kept I c.signalRst := (h.notify .recvEvents).notify .sendEvents

theorem synSentEstab : Kept I (c.synSentEstab p) := by
  have hdata : Kept I (c.synSentData p) := by
    unfold Conn.synSentData
    split
    · exact h.setRcv _
    · exact h
  have hestab :=
    ((hdata.txTcp { (c.synSentData p).header with ack := true }).changeState .estab).notify
    .connectEvents
  unfold Conn.synSentEstab
  simp only
  split
  · exact hestab.notify _
  · exact hestab

/-- The handshake, on each of the ways `_rx_syn_sent` ends. -/
theorem rxSynSent : Kept I (c.rxSynSent p).st := by
  have haccept : Kept I (c.synSentAccept p) :=
    ((((h.setSnd _).rttSample).stop).setRcv _).setSnd _
  have hboth : Kept I (c.synSentSimultaneous p) :=
    ((((((h.stop.setSnd _).setRto _).setRcv _).setSnd _).txTcp _).rttProbe.setSnd
      _).start.changeState _
  refine c.rxSynSent_rule p (I := fun o => Kept I o.st) ?_ h (h.dropWithReset p) ?_ ?_ hboth
  · exact (((h.setSnd _).stop).setSoError _).notify _
  · exact fun _ => haccept
  · exact fun _ => (haccept.setSnd _).synSentEstab p

theorem rxSynRecv : Kept I (c.rxSynRecv p) := by
  have h' := h.setRcv (hRxSeq c.tcb.rcv (c.synRecvSegment p)).rcv
  unfold Conn.rxSynRecv
  simp only
  split_ifs
  · exact h.dropWithReset p
  · exact h'.txTcp _
  · exact (((((h'.setSnd _).rttSample.stop).setSnd _).txTcp _).changeState _).notify _
  · exact h'.dropWithReset _
  · exact h

theorem estabAck : Kept I (c.estabAck p) := by
  unfold Conn.estabAck
  simp only
  split
  · exact (((h.setSnd _).rttSample.ackTimer).setSnd _).notify _
  · exact h.setSnd _

/-- A segment in order in `ESTAB` touches the timer in its acknowledgement only. -/
theorem estabAccept : Kept I (c.estabAccept p) := by
  have htail : ∀ {d : Conn}, Kept I d →
      Kept I (((d.estabAck p).updateWnd p).appendData p) :=
    fun h => ((h.estabAck p).setSnd _).appendData p
  unfold Conn.estabAccept
  simp only
  split <;> split
  · exact (((htail (h.setAckNow true)).changeState _).notify _).scheduleEvent _
  · exact (((htail h).changeState _).notify _).scheduleEvent _
  · exact (htail (h.setAckNow true)).scheduleEvent _
  · exact (htail h).scheduleEvent _

theorem rxEstab : Kept I (c.rxEstab p) := by
  have h' := h.setRcv (hRxSeq c.tcb.rcv p).rcv
  unfold Conn.rxEstab
  simp only
  split
  · split
    · exact (h'.hRxRst _).signalRst
    · split
      · exact h'.sendChallengeAck
      · exact h'.estabAccept _
  · exact (h'.setAckNow _).scheduleEvent _
  · exact h'.sendChallengeAck

/-- The acknowledgement of the FIN stops the timer, and may start the one of `TIME_WAIT`. -/
theorem finWait1Ack : Kept I (c.finWait1Ack p) := by
  have h' := h.setSnd (hRxAck c.tcb.snd p).1
  unfold Conn.finWait1Ack
  simp only
  split
  · split
    · split
      · exact (((h'.stop.setSnd _).changeState _).startTimeWait).setRcv _
      · exact ((h'.stop.setSnd _).changeState _).setRcv _
    · split
      · exact ((h'.restart.setSnd _).changeState _).setRcv _
      · exact (h'.restart.setSnd _).setRcv _
  · exact h'

theorem finWait1Accept : Kept I (c.finWait1Accept p) := by
  have htail : ∀ {d : Conn}, Kept I d →
      Kept I (((d.finWait1Ack p).updateWnd p).appendData p) :=
    fun h => ((h.finWait1Ack p).setSnd _).appendData p
  unfold Conn.finWait1Accept
  simp only
  split <;> split
  · exact (htail (h.setAckNow true)).txTcp _
  · exact htail (h.setAckNow true)
  · exact (htail h).txTcp _
  · exact htail h

theorem rxFinWait1 : Kept I (c.rxFinWait1 p) := by
  have h' := h.setRcv (hRxSeq c.tcb.rcv p).rcv
  unfold Conn.rxFinWait1
  simp only
  split
  · split_ifs
    · exact (h'.hRxRst _).signalRst
    · exact (h'.hActiveCloseRx _).signalRst
    · exact h'.sendChallengeAck
    · exact h'.finWait1Accept _
  · exact h'.txTcp _
  · exact h'.sendChallengeAck

/-- The FIN of the peer starts the timer of `TIME_WAIT`. -/
theorem finWait2Accept : Kept I (c.finWait2Accept p) := by
  have htail : ∀ {d : Conn}, Kept I d → Kept I ((d.appendData p).sendAck) :=
    fun h => (h.appendData p).txTcp _
  unfold Conn.finWait2Accept
  simp only
  split <;> split
  · exact htail ((((((h.setAckNow true).setRcv _).setSnd _).setSnd _).changeState _).startTimeWait)
  · exact htail (((((h.setRcv _).setSnd _).setSnd _).changeState _).startTimeWait)
  · exact htail ((((h.setAckNow true).setRcv _).setSnd _).setSnd _)
  · exact htail (((h.setRcv _).setSnd _).setSnd _)

theorem rxFinWait2 : Kept I (c.rxFinWait2 p) := by
  have h' := h.setRcv (hRxSeq c.tcb.rcv p).rcv
  unfold Conn.rxFinWait2
  simp only
  split
  · split_ifs
    · exact (h'.hRxRst _).signalRst
    · exact (h'.hActiveCloseRx _).signalRst
    · exact h'.sendChallengeAck
    · exact h'.finWait2Accept _
  · exact h'.txTcp _
  · exact h'.sendChallengeAck

theorem rxCloseWait : Kept I (c.rxCloseWait p) := by
  have hack : Kept I (c.closeWaitAck p) := by
    unfold Conn.closeWaitAck
    simp only
    split
    · exact (((h.setSnd _).rttSample.ackTimer).setSnd _).setSnd _
    · exact ((h.setSnd _).setSnd _).setSnd _
  unfold Conn.rxCloseWait
  split_ifs
  · exact (h.hRxRst _).signalRst
  · exact (h.hActiveCloseRx _).signalRst
  · exact h.sendChallengeAck
  · exact hack.scheduleEvent _
  · exact h.scheduleEvent _

theorem rxClosing : Kept I (c.rxClosing p) := by
  have hack : Kept I (c.closingAck p) := by
    unfold Conn.closingAck
    simp only
    split
    · split
      · exact ((((h.setSnd _).stop).changeState _).startTimeWait).setSnd _
      · exact (h.setSnd _).restart.setSnd _
    · exact h.setSnd _
  unfold Conn.rxClosing
  split_ifs
  · exact (h.hRxRst _).signalRst
  · exact (h.hActiveCloseRx _).signalRst
  · exact h.sendChallengeAck
  · exact hack.setSnd _
  · exact h.txTcp _

theorem rxLastAck : Kept I (c.rxLastAck p) := by
  have hack : Kept I (c.lastAckAck p) := by
    unfold Conn.lastAckAck
    simp only
    split
    · split
      · exact (((h.setSnd _).rttSample.stop).setSnd _).changeState _
      · exact ((h.setSnd _).rttSample.restart).setSnd _
    · exact h.setSnd _
  unfold Conn.rxLastAck
  split_ifs
  · exact (h.hRxRst _).signalRst
  · exact h.sendChallengeAck
  · exact hack.setSnd _
  · exact h

/-- A FIN that comes again restarts it. -/
theorem rxTimeWait : Kept I (c.rxTimeWait p) := by
  unfold Conn.rxTimeWait
  split
  · exact (h.txTcp _).restartTimeWait
  · exact h

end Receive

/-- **A segment**, in every state. -/
theorem rx (h : Kept I c) (packet : TCPParser) : Kept I (c.rx packet).st := by
  unfold Conn.rx
  cases c.tcb.state with
  | listen => exact h
  | synSent => exact h.rxSynSent _
  | synRecv => exact h.rxSynRecv _
  | estab => exact h.rxEstab _
  | finWait1 => exact h.rxFinWait1 _
  | finWait2 => exact h.rxFinWait2 _
  | closeWait => exact h.rxCloseWait _
  | closing => exact h.rxClosing _
  | lastAck => exact h.rxLastAck _
  | timeWait => exact h.rxTimeWait _
  | closed => exact h

/-! ## The send handlers -/

section Send

variable (h : Kept I c)
include h

theorem hActiveCloseTx : Kept I c.hActiveCloseTx :=
  h.tearDown.congr (by simp) (by simp) (by simp [Conn.hActiveCloseTx, Conn.stopAllTimers, sendRst])
    (by simp [Conn.hActiveCloseTx, Conn.stopAllTimers, sendRst])

/-- A FIN starts the timer, whether it is sent for the first time or again. -/
theorem sendFin (next : Option STATES) : Kept I (c.sendFin next) := by
  unfold Conn.sendFin
  simp only
  split
  · split
    · exact ((h.txTcp _).setSnd _).start
    · exact h
  · cases next with
    | none => exact (((((h.setSnd _).rttProbe).txTcp _).setSnd _).setSnd _).start
    | some new =>
      exact ((((((h.setSnd _).rttProbe).txTcp _).setSnd _).setSnd _).start).changeState new

/-- The loop starts the timer at its end, or aborts. -/
theorem txLoop (data : List (List UInt8)) (next : Option STATES) (shutReq closeReq : Bool) :
    Kept I (txLoop c data next shutReq closeReq).st := by
  refine txLoop_inv h (fun _ h => h.hActiveCloseTx) ?_ (fun _ h => h.setSnd _)
    (fun _ s _ h => h.changeState s) (fun _ h => h.start)
  intro c' data fin h'
  unfold Conn.afterSegment
  simp only
  split
  · exact (((h'.txTcp _).setSnd _).setSnd _).rttProbe
  · exact (h'.txTcp _).setSnd _

/-- **A SEND**, on every path of a send handler. -/
theorem tx : Kept I c.tx.st := by
  refine tx_inv h ((h.txTcp _).setSnd _).start ((h.txTcp _).setSnd _).start ?_
    (fun _ h => h.hActiveCloseTx) (fun _ next h => h.sendFin next) (fun _ h => h.txTcp _)
    (fun _ h => h.setAckNow _) fun _ data next shutReq closeReq h =>
      h.txLoop data next shutReq closeReq
  rintro c₁ (rfl | rfl)
  · exact h.setSnd _
  · exact (h.setSnd _).setRcv _

/-- **The rule for a handler.** -/
theorem eventsMap (type : TCPEventType) : Kept I (c.eventsMap type).st := by
  cases type with
  | rxSegment packet => exact h.rx packet
  | connect => exact (((((h.txTcp _).rttProbe.setSnd _).setSnd _).setSnd _).changeState _).start
  | send => exact h.tx
  | rtx => exact (h.congr rfl rfl rfl rfl : Kept I c.prepareRtx).tx

end Send

end Conn.Kept

end Tipy.Tcp
