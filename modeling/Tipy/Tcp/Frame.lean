import Tipy.Tcp.Fsm

/-!
# What the helpers of the state machine touch

One lemma for each helper and each half of a `Conn` says which slots are new, and the helper leaves
the others alone: `estabAck_core`, for one, that an acknowledgement changes the timer and the
notifications of the core. Every lemma about a slot that stays is read off that equation, and the
proofs about the handlers never unfold a helper.
-/

namespace Tipy.Tcp

open Tipy.Components

/-- The send side after an acknowledgement in a state behind the FIN of this side: one that covers
all that was sent covers the FIN too, which is not in the buffer. -/
def ackBehindFin (s : SndVars) (p : Segment) : SndVars :=
  if 0 < (hRxAck s p).2 then
    if (hRxAck s p).1.sndUna = (hRxAck s p).1.sndNxt
      then freeSndBuf (hRxAck s p).1 ((hRxAck s p).2 - 1)
    else freeSndBuf (hRxAck s p).1 (hRxAck s p).2
  else (hRxAck s p).1

namespace Conn

variable (c : Conn) (p : Segment)

/-! ## The control block -/

section Tcb

@[simp] theorem header_seq : c.header.seq = c.tcb.snd.sndNxt := rfl

@[simp] theorem header_data : c.header.data = [] := rfl

@[simp] theorem header_fin : c.header.fin = false := rfl

@[simp] theorem signalRst_tcb : c.signalRst.tcb = c.tcb := rfl

@[simp] theorem sendAck_tcb : c.sendAck.tcb = c.tcb := rfl

@[simp] theorem sendRst_tcb : c.sendRst.tcb = c.tcb := rfl

@[simp] theorem dropWithReset_tcb : (c.dropWithReset p).tcb = c.tcb := by
  unfold dropWithReset
  split <;> rfl

@[simp] theorem rttProbe_tcb : c.rttProbe.tcb = c.tcb.setRto (if c.tcb.rto.rtt = none then
    { c.tcb.rto with rtt := some (c.core.nowNs / 1000000000) } else c.tcb.rto) := by
  unfold rttProbe
  split <;> rfl

@[simp] theorem rttProbe_core : c.rttProbe.core = c.core := by
  unfold rttProbe
  split <;> rfl

@[simp] theorem rttSample_core : c.rttSample.core = c.core := by
  unfold rttSample
  cases c.tcb.rto.rtt <;> rfl

@[simp] theorem rttSample_tcb : c.rttSample.tcb = c.tcb.setRto (c.tcb.rto.rtt.elim c.tcb.rto
    fun rtt => c.tcb.rto.setNewRto (c.core.nowNs / 1000000000 - rtt)) := by
  unfold rttSample
  cases c.tcb.rto.rtt <;> rfl

/-- The tokens after a challenge ACK. -/
def challengeLeft : Challenge :=
  let x := refillChallenge c.tcb.challenge c.core.nowNs
  if x.challengeAckLimit ≤ 0 then x else { x with challengeAckLimit := x.challengeAckLimit - 1 }

@[simp] theorem sendChallengeAck_tcb :
    c.sendChallengeAck.tcb = c.tcb.setChallenge c.challengeLeft := by
  unfold sendChallengeAck challengeLeft
  simp only
  split <;> rfl

@[simp] theorem hRxRst_tcb (errno : Errno) : (c.hRxRst errno).tcb =
    ((c.tcb.setRtxTimer none).setTimeWaitTimer none).setState .closed := by
  simp [hRxRst]

@[simp] theorem hActiveCloseTx_tcb : c.hActiveCloseTx.tcb =
    ((c.tcb.setRtxTimer none).setTimeWaitTimer none).setState .closed := by
  simp [hActiveCloseTx]

@[simp] theorem hActiveCloseRx_tcb : (c.hActiveCloseRx p).tcb =
    ((c.tcb.setRtxTimer none).setTimeWaitTimer none).setState .closed := by
  simp [hActiveCloseRx]

@[simp] theorem bumpNxt_tcb : c.bumpNxt.tcb =
    c.tcb.setSnd { c.tcb.snd with sndNxt := (c.tcb.snd.sndNxt + 1) % 4294967296 } := rfl

@[simp] theorem bumpNxt_core : c.bumpNxt.core = c.core := rfl

@[simp] theorem computeWnd_core : c.computeWnd.core = c.core := rfl

@[simp] theorem updateWnd_core : (c.updateWnd p).core = c.core := rfl

@[simp] theorem freeSnd_core (n : Int) : (c.freeSnd n).core = c.core := rfl

@[simp] theorem computeWnd_tcb : c.computeWnd.tcb = c.tcb.setRcv (computeRcvWnd c.tcb.rcv) := rfl

@[simp] theorem updateWnd_tcb : (c.updateWnd p).tcb = c.tcb.setSnd (hRxWnd c.tcb.snd p) := rfl

@[simp] theorem freeSnd_tcb (n : Int) : (c.freeSnd n).tcb = c.tcb.setSnd (freeSndBuf c.tcb.snd n) :=
  rfl

@[simp] theorem appendData_tcb :
    (c.appendData p).tcb = c.tcb.setRcv (appendRcvData c.tcb.rcv p) := by
  unfold appendData
  simp only
  split <;> rfl

/-- The handle is gone when all is acknowledged, or it is a new one. -/
@[simp] theorem ackTimer_tcb : c.ackTimer.tcb = c.tcb.setRtxTimer
    (if c.tcb.snd.sndNxt = c.tcb.snd.sndUna then none
      else some (c.removeTimer c.tcb.rtxTimer).core.timer.counter) := by
  unfold ackTimer
  split <;> simp

theorem estabAck_tcb : (c.estabAck p).tcb = { c.tcb with
    snd := (c.estabAck p).tcb.snd, rto := (c.estabAck p).tcb.rto
    rtxTimer := (c.estabAck p).tcb.rtxTimer } := by
  unfold estabAck
  simp only
  split <;> simp [TCPCB.setSnd, TCPCB.setRto, TCPCB.setRtxTimer]

/-- In `FIN_WAIT_1` an acknowledgement may lead to any state behind the FIN, and recomputes the
window. -/
theorem finWait1Ack_tcb : (c.finWait1Ack p).tcb = { c.tcb with
    rcv := (c.finWait1Ack p).tcb.rcv, snd := (c.finWait1Ack p).tcb.snd
    rtxTimer := (c.finWait1Ack p).tcb.rtxTimer, timeWaitTimer := (c.finWait1Ack p).tcb.timeWaitTimer
    state := (c.finWait1Ack p).tcb.state, prevState := (c.finWait1Ack p).tcb.prevState } := by
  unfold finWait1Ack
  simp only
  split
  · split <;> split <;>
      simp [TCPCB.setRcv, TCPCB.setSnd, TCPCB.setRtxTimer, TCPCB.setTimeWaitTimer, TCPCB.setState]
  · rfl

/-- In `CLOSING` it may lead to `TIME_WAIT` and start its timer. -/
theorem closingAck_tcb : (c.closingAck p).tcb = { c.tcb with
    snd := (c.closingAck p).tcb.snd, rtxTimer := (c.closingAck p).tcb.rtxTimer
    timeWaitTimer := (c.closingAck p).tcb.timeWaitTimer
    state := (c.closingAck p).tcb.state, prevState := (c.closingAck p).tcb.prevState } := by
  unfold closingAck
  simp only
  split
  · split <;> simp [TCPCB.setSnd, TCPCB.setRtxTimer, TCPCB.setTimeWaitTimer, TCPCB.setState]
  · rfl

theorem closeWaitAck_tcb : (c.closeWaitAck p).tcb = { c.tcb with
    snd := (c.closeWaitAck p).tcb.snd, rto := (c.closeWaitAck p).tcb.rto
    rtxTimer := (c.closeWaitAck p).tcb.rtxTimer } := by
  unfold closeWaitAck
  simp only
  split <;> simp [TCPCB.setSnd, TCPCB.setRto, TCPCB.setRtxTimer]

/-- In `LAST_ACK` it may close the connection. -/
theorem lastAckAck_tcb : (c.lastAckAck p).tcb = { c.tcb with
    snd := (c.lastAckAck p).tcb.snd, rto := (c.lastAckAck p).tcb.rto
    rtxTimer := (c.lastAckAck p).tcb.rtxTimer
    state := (c.lastAckAck p).tcb.state, prevState := (c.lastAckAck p).tcb.prevState } := by
  unfold lastAckAck
  simp only
  split
  · split <;> simp [TCPCB.setSnd, TCPCB.setRto, TCPCB.setRtxTimer, TCPCB.setState]
  · rfl

/-- A FIN moves `snd_nxt` and starts the timer; the acknowledged, the window and the buffer stay. -/
theorem sendFin_tcb (next : Option STATES) : (c.sendFin next).tcb = { c.tcb with
    snd := { c.tcb.snd with
      sndNxt := (c.sendFin next).tcb.snd.sndNxt, sndMax := (c.sendFin next).tcb.snd.sndMax
      sentFin := (c.sendFin next).tcb.snd.sentFin }
    rto := (c.sendFin next).tcb.rto, rtxTimer := (c.sendFin next).tcb.rtxTimer
    state := (c.sendFin next).tcb.state, prevState := (c.sendFin next).tcb.prevState } := by
  unfold sendFin
  split
  · split <;> simp [TCPCB.setSnd, TCPCB.setRtxTimer]
  · cases next <;> simp [TCPCB.setSnd, TCPCB.setRto, TCPCB.setRtxTimer, TCPCB.setState]

/-- A data segment may start a probe. -/
theorem afterSegment_tcb (data : List UInt8) (fin : Bool) :
    (c.afterSegment data fin).tcb = { c.tcb with
    snd := (c.afterSegment data fin).tcb.snd, rto := (c.afterSegment data fin).tcb.rto } := by
  unfold afterSegment
  simp only
  split <;> simp [TCPCB.setSnd, TCPCB.setRto]

end Tcb

/-! ## The core

Of its slots an acknowledgement sets the timer, and in `ESTAB` it notifies; what answers a segment
adds to the log, and what aborts the connection takes it out of the table. -/

section Core

theorem ackTimer_core : c.ackTimer.core = { c.core with timer := c.ackTimer.core.timer } := by
  unfold ackTimer
  split <;> simp [Core.setTimer, Core.scheduleTimer]

theorem stopAllTimers_core : c.stopAllTimers.core =
    ((c.removeTimer c.tcb.rtxTimer).removeTimer c.tcb.timeWaitTimer).core := by
  simp [stopAllTimers]

theorem sendChallengeAck_core :
    c.sendChallengeAck.core = { c.core with out := c.sendChallengeAck.core.out } := by
  unfold sendChallengeAck
  simp only
  split <;> rfl

theorem dropWithReset_core :
    (c.dropWithReset p).core = { c.core with out := (c.dropWithReset p).core.out } := by
  unfold dropWithReset
  split <;> rfl

/-- A reset leaves an error, takes the tasks of the connection off, and its entries out of the
table. -/
theorem hRxRst_core (errno : Errno) :
    (c.hRxRst errno).core = { c.core.setSoError c.tcb.so errno with
    timer := (c.hRxRst errno).core.timer, tcp := (c.hRxRst errno).core.tcp } := by
  simp [hRxRst, stopAllTimers, Core.setTimer, Core.setTcp]

theorem hActiveCloseTx_core : c.hActiveCloseTx.core = { c.core with
    timer := c.hActiveCloseTx.core.timer, tcp := c.hActiveCloseTx.core.tcp
    out := c.hActiveCloseTx.core.out } := by
  simp [hActiveCloseTx, stopAllTimers, sendRst, Core.setTimer, Core.setTcp, Core.txTcp]

theorem hActiveCloseRx_core : (c.hActiveCloseRx p).core = { c.core with
    timer := (c.hActiveCloseRx p).core.timer, tcp := (c.hActiveCloseRx p).core.tcp
    out := (c.hActiveCloseRx p).core.out } := by
  simp only [hActiveCloseRx, removeTcpcb_core, changeState_core]
  rw [dropWithReset_core]
  simp [stopAllTimers_core, Core.setTimer, Core.setTcp]

theorem appendData_core :
    (c.appendData p).core = { c.core with notices := (c.appendData p).core.notices } := by
  unfold appendData
  simp only
  split <;> rfl

/-- In `ESTAB` those who wait for room in the buffer are told. -/
theorem estabAck_core : (c.estabAck p).core = { c.core with
    timer := (c.estabAck p).core.timer, notices := (c.estabAck p).core.notices } := by
  unfold estabAck
  simp only
  split
  · simp only [notify_core, freeSnd_core]
    rw [ackTimer_core, rttSample_core]
    rfl
  · rfl

theorem finWait1Ack_core :
    (c.finWait1Ack p).core = { c.core with timer := (c.finWait1Ack p).core.timer } := by
  unfold finWait1Ack
  simp only
  split
  · split <;> split <;> simp [Core.setTimer, Core.scheduleTimer]
  · rfl

theorem closingAck_core :
    (c.closingAck p).core = { c.core with timer := (c.closingAck p).core.timer } := by
  unfold closingAck
  simp only
  split
  · split <;> simp [Core.setTimer, Core.scheduleTimer]
  · rfl

theorem closeWaitAck_core :
    (c.closeWaitAck p).core = { c.core with timer := (c.closeWaitAck p).core.timer } := by
  unfold closeWaitAck
  simp only [freeSnd_core, updateWnd_core]
  split
  · rw [ackTimer_core, rttSample_core]
    rfl
  · rfl

theorem lastAckAck_core :
    (c.lastAckAck p).core = { c.core with timer := (c.lastAckAck p).core.timer } := by
  unfold lastAckAck
  simp only
  split
  · split <;> simp [Core.setTimer, Core.scheduleTimer]
  · rfl

theorem sendFin_core (next : Option STATES) : (c.sendFin next).core = { c.core with
    timer := (c.sendFin next).core.timer, out := (c.sendFin next).core.out } := by
  unfold sendFin
  split
  · split <;> simp [Core.setTimer, Core.txTcp]
  · cases next <;> simp [Core.setTimer, Core.txTcp]

/-- A data segment is one entry of the log. -/
theorem afterSegment_core (data : List UInt8) (fin : Bool) : (c.afterSegment data fin).core =
    c.core.txTcp c.tcb.socketId (c.dataSegment data fin) := by
  unfold afterSegment
  simp only
  split <;> simp

end Core

/-! ## The acknowledgements -/

section Ack

@[simp] theorem estabAck_rcv : (c.estabAck p).tcb.rcv = c.tcb.rcv := by rw [estabAck_tcb]

@[simp] theorem estabAck_state : (c.estabAck p).tcb.state = c.tcb.state := by rw [estabAck_tcb]

@[simp] theorem closingAck_rcv : (c.closingAck p).tcb.rcv = c.tcb.rcv := by rw [closingAck_tcb]

@[simp] theorem closeWaitAck_rcv :
    (c.closeWaitAck p).tcb.rcv = c.tcb.rcv := by rw [closeWaitAck_tcb]

@[simp] theorem closeWaitAck_state : (c.closeWaitAck p).tcb.state = c.tcb.state := by
  rw [closeWaitAck_tcb]

@[simp] theorem lastAckAck_rcv : (c.lastAckAck p).tcb.rcv = c.tcb.rcv := by rw [lastAckAck_tcb]

theorem finWait1Ack_rcv : (c.finWait1Ack p).tcb.rcv =
    if 0 < (hRxAck c.tcb.snd p).2 then computeRcvWnd c.tcb.rcv else c.tcb.rcv := by
  unfold finWait1Ack
  simp only
  split
  · split <;> split <;> simp
  · simp

/-! What becomes of the send side. -/

theorem estabAck_snd : (c.estabAck p).tcb.snd =
    if 0 < (hRxAck c.tcb.snd p).2 then freeSndBuf (hRxAck c.tcb.snd p).1 (hRxAck c.tcb.snd p).2
    else (hRxAck c.tcb.snd p).1 := by
  unfold estabAck
  simp only
  split <;> simp

theorem estabAccept_snd :
    (c.estabAccept p).tcb.snd = hRxWnd (c.estabAck p).tcb.snd p := by
  unfold estabAccept
  simp only
  split <;> split <;> simp [estabAck_snd]

/-- Behind its own FIN this side frees one byte less when the FIN is covered. -/
theorem finWait1Ack_snd : (c.finWait1Ack p).tcb.snd = ackBehindFin c.tcb.snd p := by
  unfold finWait1Ack ackBehindFin
  simp only [setSnd_tcb, TCPCB.setSnd_snd, eq_comm (a := SndVars.sndNxt _)]
  split
  · split <;> split <;> simp
  · simp

theorem finWait1Accept_snd :
    (c.finWait1Accept p).tcb.snd = hRxWnd (c.finWait1Ack p).tcb.snd p := by
  unfold finWait1Accept
  simp only
  split <;> split <;> simp [finWait1Ack_snd]

theorem closingAck_snd : (c.closingAck p).tcb.snd = ackBehindFin c.tcb.snd p := by
  unfold closingAck ackBehindFin
  simp only [setSnd_tcb, TCPCB.setSnd_snd]
  split
  · split <;> simp
  · simp

theorem closeWaitAck_snd : (c.closeWaitAck p).tcb.snd =
    freeSndBuf (hRxWnd (hRxAck c.tcb.snd p).1 p) (hRxAck c.tcb.snd p).2 := by
  unfold closeWaitAck
  simp only
  split <;> simp

theorem lastAckAck_snd : (c.lastAckAck p).tcb.snd = ackBehindFin c.tcb.snd p := by
  unfold lastAckAck ackBehindFin
  simp only [setSnd_tcb, TCPCB.setSnd_snd, rttSample_tcb, TCPCB.setRto_snd]
  split
  · split <;> simp
  · simp

/-! No acknowledgement touches the fixed slots. -/

@[simp] theorem estabAck_fixed : (c.estabAck p).tcb.fixed = c.tcb.fixed := by
  rw [estabAck_tcb]
  rfl

@[simp] theorem finWait1Ack_fixed : (c.finWait1Ack p).tcb.fixed = c.tcb.fixed := by
  rw [finWait1Ack_tcb]
  rfl

@[simp] theorem closingAck_fixed : (c.closingAck p).tcb.fixed = c.tcb.fixed := by
  rw [closingAck_tcb]
  rfl

@[simp] theorem closeWaitAck_fixed : (c.closeWaitAck p).tcb.fixed = c.tcb.fixed := by
  rw [closeWaitAck_tcb]
  rfl

@[simp] theorem lastAckAck_fixed : (c.lastAckAck p).tcb.fixed = c.tcb.fixed := by
  rw [lastAckAck_tcb]
  rfl

end Ack

/-! ## The log of segments -/

section Out

@[simp] theorem appendData_out : (c.appendData p).core.out = c.core.out := by rw [appendData_core]

@[simp] theorem hRxRst_out (errno : Errno) : (c.hRxRst errno).core.out = c.core.out := by
  rw [hRxRst_core]
  rfl

@[simp] theorem signalRst_out : c.signalRst.core.out = c.core.out := rfl

@[simp] theorem estabAck_out : (c.estabAck p).core.out = c.core.out := by rw [estabAck_core]

@[simp] theorem finWait1Ack_out :
    (c.finWait1Ack p).core.out = c.core.out := by rw [finWait1Ack_core]

@[simp] theorem closingAck_out : (c.closingAck p).core.out = c.core.out := by rw [closingAck_core]

@[simp] theorem closeWaitAck_out :
    (c.closeWaitAck p).core.out = c.core.out := by rw [closeWaitAck_core]

@[simp] theorem lastAckAck_out : (c.lastAckAck p).core.out = c.core.out := by rw [lastAckAck_core]

end Out

/-! ## The timer -/

section Timers

@[simp] theorem appendData_timer :
    (c.appendData p).core.timer = c.core.timer := by rw [appendData_core]

@[simp] theorem sendChallengeAck_timer : c.sendChallengeAck.core.timer = c.core.timer := by
  rw [sendChallengeAck_core]

@[simp] theorem sendAck_timer : c.sendAck.core.timer = c.core.timer := rfl

@[simp] theorem dropWithReset_timer : (c.dropWithReset p).core.timer = c.core.timer := by
  rw [dropWithReset_core]

end Timers

/-! ## The table of sockets -/

section Table

@[simp] theorem appendData_tcp : (c.appendData p).core.tcp = c.core.tcp := by rw [appendData_core]

@[simp] theorem sendChallengeAck_tcp : c.sendChallengeAck.core.tcp = c.core.tcp := by
  rw [sendChallengeAck_core]

@[simp] theorem dropWithReset_tcp : (c.dropWithReset p).core.tcp = c.core.tcp := by
  rw [dropWithReset_core]

end Table

/-! ## The queue of events -/

section Events

@[simp] theorem sendChallengeAck_events : c.sendChallengeAck.core.events = c.core.events := by
  rw [sendChallengeAck_core]

@[simp] theorem sendAck_events : c.sendAck.core.events = c.core.events := rfl

@[simp] theorem signalRst_events : c.signalRst.core.events = c.core.events := rfl

@[simp] theorem dropWithReset_events : (c.dropWithReset p).core.events = c.core.events := by
  rw [dropWithReset_core]

@[simp] theorem hRxRst_events (errno : Errno) : (c.hRxRst errno).core.events = c.core.events := by
  rw [hRxRst_core]
  rfl

@[simp] theorem hActiveCloseRx_events : (c.hActiveCloseRx p).core.events = c.core.events := by
  rw [hActiveCloseRx_core]

@[simp] theorem hActiveCloseTx_events : c.hActiveCloseTx.core.events = c.core.events := by
  rw [hActiveCloseTx_core]

@[simp] theorem appendData_events : (c.appendData p).core.events = c.core.events := by
  rw [appendData_core]

@[simp] theorem estabAck_events :
    (c.estabAck p).core.events = c.core.events := by rw [estabAck_core]

@[simp] theorem finWait1Ack_events : (c.finWait1Ack p).core.events = c.core.events := by
  rw [finWait1Ack_core]

@[simp] theorem closingAck_events : (c.closingAck p).core.events = c.core.events := by
  rw [closingAck_core]

@[simp] theorem closeWaitAck_events : (c.closeWaitAck p).core.events = c.core.events := by
  rw [closeWaitAck_core]

@[simp] theorem lastAckAck_events : (c.lastAckAck p).core.events = c.core.events := by
  rw [lastAckAck_core]

@[simp] theorem sendFin_events (next : Option STATES) :
    (c.sendFin next).core.events = c.core.events := by
  rw [sendFin_core]

end Events

/-! ## The notifications -/

section Notices

@[simp] theorem sendChallengeAck_notices : c.sendChallengeAck.core.notices = c.core.notices := by
  rw [sendChallengeAck_core]

@[simp] theorem sendAck_notices : c.sendAck.core.notices = c.core.notices := rfl

@[simp] theorem dropWithReset_notices : (c.dropWithReset p).core.notices = c.core.notices := by
  rw [dropWithReset_core]

@[simp] theorem hActiveCloseTx_notices : c.hActiveCloseTx.core.notices = c.core.notices := by
  rw [hActiveCloseTx_core]

@[simp] theorem ackTimer_notices : c.ackTimer.core.notices = c.core.notices := by rw [ackTimer_core]

@[simp] theorem finWait1Ack_notices : (c.finWait1Ack p).core.notices = c.core.notices := by
  rw [finWait1Ack_core]

@[simp] theorem sendFin_notices (next : Option STATES) :
    (c.sendFin next).core.notices = c.core.notices := by
  rw [sendFin_core]

end Notices

/-! ## The handshake -/

section Handshake

theorem synSentEstab_tcb : (c.synSentEstab p).tcb = { c.tcb with
    rcv := (c.synSentEstab p).tcb.rcv, state := .estab, prevState := c.tcb.state } := by
  unfold synSentEstab synSentData
  simp only
  split <;> split <;> rfl

theorem synSentEstab_core : (c.synSentEstab p).core = { c.core with
    notices := (c.synSentEstab p).core.notices, out := (c.synSentEstab p).core.out } := by
  unfold synSentEstab synSentData
  simp only
  split <;> split <;> rfl

@[simp] theorem synSentEstab_state :
    (c.synSentEstab p).tcb.state = .estab := by rw [synSentEstab_tcb]

@[simp] theorem synSentEstab_events : (c.synSentEstab p).core.events = c.core.events := by
  rw [synSentEstab_core]

/-- **The rule of `_rx_syn_sent`.** It ends in one of six ways: the connection is refused, nothing
happens, a bad acknowledgement is answered, the options cannot be read, or the connection opens,
from one side or from both. -/
theorem rxSynSent_rule {I : Outcome → Prop}
    (hrefused : I (.ok (((c.setSnd (hRxAck c.tcb.snd p).1).stopRtxTimer.onCore fun k =>
      k.setSoError (c.setSnd (hRxAck c.tcb.snd p).1).stopRtxTimer.tcb.so .econnrefused).notify
        .connectEvents)))
    (hsame : I (.ok c)) (hreset : I (.ok (c.dropWithReset p)))
    (hunread : ∀ e, I (.raise (c.synSentAccept p) e))
    (hestab : ∀ mss, I (.ok (((c.synSentAccept p).setSnd
      { (c.synSentAccept p).tcb.snd with remoteMss := mss }).synSentEstab p)))
    (hboth : I (.ok (c.synSentSimultaneous p))) : I (c.rxSynSent p) := by
  unfold rxSynSent
  split
  · exact hrefused
  · split
    · exact hsame
    · split
      · split
        · simp only
          split
          · exact hunread _
          · exact hestab _
        · exact hreset
      · split
        · exact hboth
        · exact hsame

/-- The handshake keeps whose connection it is, the requests of the application and the timer behind
the close. -/
theorem rxSynSent_tcb : (c.rxSynSent p).st.tcb = { c.tcb with
    rcv := (c.rxSynSent p).st.tcb.rcv, snd := (c.rxSynSent p).st.tcb.snd
    rto := (c.rxSynSent p).st.tcb.rto, rtxTimer := (c.rxSynSent p).st.tcb.rtxTimer
    state := (c.rxSynSent p).st.tcb.state, prevState := (c.rxSynSent p).st.tcb.prevState } := by
  refine rxSynSent_rule c p (I := fun o => o.st.tcb = { c.tcb with
    rcv := o.st.tcb.rcv, snd := o.st.tcb.snd, rto := o.st.tcb.rto, rtxTimer := o.st.tcb.rtxTimer
    state := o.st.tcb.state, prevState := o.st.tcb.prevState }) ?_ rfl ?_ ?_ ?_ ?_
  · simp [TCPCB.setSnd, TCPCB.setRtxTimer]
  · simp
  · exact fun _ => by simp [synSentAccept, TCPCB.setRcv, TCPCB.setSnd, TCPCB.setRto,
      TCPCB.setRtxTimer]
  · intro mss
    simp only [Outcome.ok_st]
    rw [synSentEstab_tcb]
    simp [synSentAccept]
  · simp [synSentSimultaneous, TCPCB.setRcv, TCPCB.setSnd, TCPCB.setRto, TCPCB.setRtxTimer,
      TCPCB.setState]

end Handshake

/-! ## Sending -/

section Send

@[simp] theorem sendFin_rcv (next : Option STATES) : (c.sendFin next).tcb.rcv = c.tcb.rcv := by
  rw [sendFin_tcb]

@[simp] theorem sendFin_fixed (next : Option STATES) :
    (c.sendFin next).tcb.fixed = c.tcb.fixed := by
  rw [sendFin_tcb]
  rfl

@[simp] theorem sendFin_sndUna (next : Option STATES) :
    (c.sendFin next).tcb.snd.sndUna = c.tcb.snd.sndUna := by rw [sendFin_tcb]

@[simp] theorem sendFin_sndWnd (next : Option STATES) :
    (c.sendFin next).tcb.snd.sndWnd = c.tcb.snd.sndWnd := by rw [sendFin_tcb]

/-- The log after `_send_fin`: as it was, or with the segment of the FIN. -/
theorem sendFin_out (next : Option STATES) : (c.sendFin next).core.out = c.core.out ∨
    (c.sendFin next).core.out =
      c.core.out ++ [(c.tcb.socketId, { c.header with ack := true, fin := true })] := by
  unfold sendFin
  split
  · split <;> simp
  · right
    cases next <;> simp [header]

/-- The states after `_send_fin` and after `_tx_loop`, which may also abort the connection. -/
theorem sendFin_state (next : Option STATES) :
    (c.sendFin next).tcb.state ∈ [c.tcb.state, next.getD c.tcb.state, .closed] := by
  unfold sendFin
  split
  · split <;> simp
  · cases next <;> simp

end Send

end Conn

/-! ## The transmission loop -/

section Loop

open Conn

/-- **The rule of the loop.** What every segment, the end of the stream and the timer preserve holds
after the loop, whatever it ends with. -/
theorem txTurns_inv {I : Conn → Prop} {next : Option STATES} {wantFin : Bool}
    (hseg : ∀ c data fin, I c → I (c.afterSegment data fin))
    (hfin : ∀ c, I c → I (next.elim (c.setSnd { c.tcb.snd with sentFin := true })
      (c.setSnd { c.tcb.snd with sentFin := true }).changeState))
    (hstart : ∀ c, I c → I c.startRtxTimer) (turns : Nat) {c : Conn} (hc : I c)
    (data : List (List UInt8)) (dlen sndWnd counter : Nat) :
    I (txTurns next wantFin turns c data dlen sndWnd counter).st := by
  induction turns generalizing c data dlen sndWnd counter with
  | zero =>
    unfold txTurns
    split
    · exact hstart c hc
    · exact hc
  | succ turns ih =>
    unfold txTurns
    have hnext := hseg c
      (generateSegmentPayload (min (min c.tcb.snd.remoteMss sndWnd) dlen) data).1
    split
    · exact hstart c hc
    · simp only
      split
      · exact hc
      · split
        · exact hstart _ (hfin _ (hnext _ hc))
        · split
          · exact hstart _ (hnext _ hc)
          · split
            · exact hstart _ (hnext _ hc)
            · exact ih (hnext _ hc) _ _ _ _

/-- **The rule of `_tx_loop`.** -/
theorem txLoop_inv {I : Conn → Prop} {next : Option STATES} {shutReq closeReq : Bool}
    {data : List (List UInt8)} {c : Conn} (hc : I c) (habort : ∀ c, I c → I c.hActiveCloseTx)
    (hseg : ∀ c data fin, I c → I (c.afterSegment data fin))
    (hfin : ∀ c, I c → I (c.setSnd { c.tcb.snd with sentFin := true }))
    (hstate : ∀ c s, next = some s → I c → I (c.changeState s))
    (hstart : ∀ c, I c → I c.startRtxTimer) : I (txLoop c data next shutReq closeReq).st := by
  unfold txLoop
  simp only
  split
  · exact habort c hc
  · refine txTurns_inv hseg ?_ hstart _ hc _ _ _ _
    intro c' h
    cases next with
    | none => exact hfin c' h
    | some new => exact hstate _ new rfl (hfin c' h)

theorem afterSegment_rcv (c : Conn) (data : List UInt8) (fin : Bool) :
    (c.afterSegment data fin).tcb.rcv = c.tcb.rcv := by rw [afterSegment_tcb]

theorem afterSegment_state (c : Conn) (data : List UInt8) (fin : Bool) :
    (c.afterSegment data fin).tcb.state = c.tcb.state := by rw [afterSegment_tcb]

variable (c : Conn) (data : List (List UInt8)) (next : Option STATES) (shutReq closeReq : Bool)

@[simp] theorem txLoop_rcv : (txLoop c data next shutReq closeReq).st.tcb.rcv = c.tcb.rcv := by
  refine txLoop_inv (I := fun c' => c'.tcb.rcv = c.tcb.rcv) rfl ?_ ?_ ?_ ?_ ?_
  · exact fun c' h => by simpa using h
  · exact fun c' data fin h => by rw [afterSegment_rcv, h]
  · exact fun c' h => by simpa using h
  · exact fun c' s _ h => by simpa using h
  · exact fun c' h => by simpa using h

@[simp] theorem afterSegment_fixed (c : Conn) (data : List UInt8) (fin : Bool) :
    (c.afterSegment data fin).tcb.fixed = c.tcb.fixed := by
  rw [afterSegment_tcb]
  rfl

@[simp] theorem afterSegment_req (c : Conn) (data : List UInt8) (fin : Bool) :
    (c.afterSegment data fin).tcb.req = c.tcb.req :=
  congrArg (·.2.2.2) (afterSegment_fixed c data fin)

@[simp] theorem txLoop_fixed :
    (txLoop c data next shutReq closeReq).st.tcb.fixed = c.tcb.fixed := by
  refine txLoop_inv (I := fun c' => c'.tcb.fixed = c.tcb.fixed) rfl ?_ ?_ ?_ ?_ ?_
  · exact fun c' h => by simpa using h
  · exact fun c' data fin h => by rw [afterSegment_fixed, h]
  · exact fun c' h => by simpa using h
  · exact fun c' s _ h => by simpa using h
  · exact fun c' h => by simpa using h

/-- The loop ends in the state it was in, in the next one, or closed. -/
theorem txLoop_state : (txLoop c data next shutReq closeReq).st.tcb.state ∈
    [c.tcb.state, next.getD c.tcb.state, .closed] := by
  refine txLoop_inv (I := fun c' => c'.tcb.state ∈ [c.tcb.state, next.getD c.tcb.state, .closed])
    (by simp) ?_ ?_ ?_ ?_ ?_
  · exact fun c' _ => by simp
  · exact fun c' data fin h => by rwa [afterSegment_state]
  · exact fun c' h => by simpa using h
  · rintro c' s rfl -
    simp
  · exact fun c' h => by simpa using h

end Loop

end Tipy.Tcp
