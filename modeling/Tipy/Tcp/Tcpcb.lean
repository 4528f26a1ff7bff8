import Mathlib.Algebra.Order.Ring.Rat
import Mathlib.Logic.Function.Basic
import Mathlib.Tactic.Simps.Basic
import Tipy.Buffer.RRing
import Tipy.Components.Timer
import Tipy.Tcp.Seq

/-!
# The TCP control block and the core around it

`TCPCB` of `tipy/protocols/tcp/tcpcb.py`, its slots grouped as its comments group them, and the
parts of the core that the state machine works on: the queue of events, the timer, the table of
sockets, and what was handed to `tx_tcp`. A handler runs on a control block and the core together
(`Conn`).

The updates are small functions, each of which touches one field; `simps` gives one lemma for each
field that says what becomes of it.
-/

namespace Tipy.Tcp

open Tipy.Buffer Tipy.Components

/-- `STATES`. -/
inductive STATES where
  | listen
  | synSent
  | synRecv
  | estab
  | finWait1
  | finWait2
  | closeWait
  | closing
  | lastAck
  | timeWait
  | closed
deriving Repr, DecidableEq

/-- `Errno`, and `GaiError.EAI_NONAME`. -/
inductive Errno where
  | econnrefused
  | econnreset
  | epipe
  | eaddrnotavail
  | eaddrinuse
  | enoprotoopt
  | eopnotsupp
  | einval
  | etimedout
  | edestaddrreq
  | enotconn
  | eaiNoname
deriving Repr, DecidableEq

def DEFAULT_RECV_BUFF : Nat := 0xFFFF

def DEFAULT_SEND_BUFF : Nat := 0xFFFF

def DEFAULT_RCV_WND : Nat := 0xFFFF

def MAX_TCP_CHALLENGE_ACK_LIMIT : Int := 100

def TCP_CHALLENGE_ACK_RATE_HZ : Int := 5

/-- `_SO_LINGER_ON`, `pack('ii', 1, 0)` on a little-endian host. -/
def SO_LINGER_ON : List UInt8 := [1, 0, 0, 0, 0, 0, 0, 0]

/-- The key of the socket tables: local address and port, remote address and port. -/
structure SockId where
  localIp : Nat
  localPort : Nat
  remoteIp : Nat
  remotePort : Nat
deriving Repr, DecidableEq

/-! ## The control block -/

/-- The receive side. -/
structure RcvVars where
  rcvBuf : RingBuffer
  tcpDataStart : Int
  tcpDataLen : Int
  rcvNxt : Int
  rcvWnd : Int
  rcvAdv : Int
  irs : Int

/-- The send side. -/
structure SndVars where
  sndBuf : RRingBuffer
  sndUna : Int
  sndNxt : Int
  sndWnd : Nat
  sndMax : Int
  sndWl1 : Int
  sndWl2 : Int
  iss : Int
  remoteMss : Nat
  sentFin : Bool

/-- The retransmission timeout and its estimator, in seconds. -/
structure RtoVars where
  rto : ℚ
  rtt : Option ℚ
  srtt : Option ℚ
  rttvar : Option ℚ

/-- The tokens for challenge ACKs. -/
structure Challenge where
  challengeAckLimit : Int
  lastChallengeAckTimestamp : Int

/-- What the application asked for: the two request flags, and the value of the option
`(SOL_SOCKET, SO_LINGER)`. -/
structure Requests where
  closeRequested : Bool
  shutdownRequested : Bool
  soLinger : Option (List UInt8)

/-- `TCPCB`. The object itself is known to events and timers by `ref`, its socket by `so`. -/
structure TCPCB where
  ref : Nat
  so : Nat
  socketId : SockId
  rcv : RcvVars
  snd : SndVars
  rto : RtoVars
  challenge : Challenge
  req : Requests
  ackNow : Bool
  rtxTimer : Option Nat
  timeWaitTimer : Option Nat
  state : STATES
  prevState : STATES

/-- `TCPCB.__init__` at time `nowNs`, with the initial sequence number it draws. -/
def TCPCB.new (ref so : Nat) (socketId : SockId) (soLinger : Option (List UInt8)) (iss : Int)
    (nowNs : Int) : TCPCB where
  ref := ref
  so := so
  socketId := socketId
  rcv := ⟨.new DEFAULT_RECV_BUFF (by decide), 0, 0, 0, DEFAULT_RCV_WND, 0, 0⟩
  snd := ⟨.new DEFAULT_SEND_BUFF (by decide), 0, 0, 0, 0, 0, 0, iss, 0, false⟩
  rto := ⟨1, none, none, none⟩
  challenge := ⟨MAX_TCP_CHALLENGE_ACK_LIMIT, nowNs⟩
  req := ⟨false, false, soLinger⟩
  ackNow := false
  rtxTimer := none
  timeWaitTimer := none
  state := .closed
  prevState := .closed

namespace TCPCB

variable (t : TCPCB)

@[simps] def setRcv (r : RcvVars) : TCPCB := { t with rcv := r }

@[simps] def setSnd (s : SndVars) : TCPCB := { t with snd := s }

@[simps] def setRto (r : RtoVars) : TCPCB := { t with rto := r }

@[simps] def setChallenge (x : Challenge) : TCPCB := { t with challenge := x }

@[simps] def setReq (x : Requests) : TCPCB := { t with req := x }

@[simps] def setAckNow (b : Bool) : TCPCB := { t with ackNow := b }

@[simps] def setRtxTimer (id : Option Nat) : TCPCB := { t with rtxTimer := id }

@[simps] def setTimeWaitTimer (id : Option Nat) : TCPCB := { t with timeWaitTimer := id }

/-- `_change_state` with a state. -/
@[simps] def setState (new : STATES) : TCPCB := { t with state := new, prevState := t.state }

/-- The slots that no handler changes. -/
def fixed : Nat × Nat × SockId × Requests := (t.ref, t.so, t.socketId, t.req)

@[simp] theorem setRcv_fixed (r : RcvVars) : (t.setRcv r).fixed = t.fixed := rfl

@[simp] theorem setSnd_fixed (s : SndVars) : (t.setSnd s).fixed = t.fixed := rfl

@[simp] theorem setRto_fixed (r : RtoVars) : (t.setRto r).fixed = t.fixed := rfl

@[simp] theorem setChallenge_fixed (x : Challenge) : (t.setChallenge x).fixed = t.fixed := rfl

@[simp] theorem setAckNow_fixed (b : Bool) : (t.setAckNow b).fixed = t.fixed := rfl

@[simp] theorem setRtxTimer_fixed (id : Option Nat) : (t.setRtxTimer id).fixed = t.fixed := rfl

@[simp] theorem setTimeWaitTimer_fixed (id : Option Nat) :
    (t.setTimeWaitTimer id).fixed = t.fixed :=
  rfl

@[simp] theorem setState_fixed (new : STATES) : (t.setState new).fixed = t.fixed := rfl

end TCPCB

/-! ## The core -/

/-- `TCPEventType`; an RX event has its packet with it. -/
inductive TCPEventType where
  | rxSegment (packet : TCPParser)
  | connect
  | send
  | rtx

/-- `TCPEvent`; the control block is `none` when `rx_tcp` found a socket without one. -/
structure TCPEvent where
  type : TCPEventType
  tcpcb : Option Nat

/-- The callbacks the state machine gives to the timer. -/
inductive TimerCall where
  | rtx (tcpcb : Nat)
  | removeTcpcb (socketId : SockId)
deriving DecidableEq

/-- The conditions on which the application waits. -/
inductive Notice where
  | connectEvents
  | recvEvents
  | sendEvents
deriving Repr, DecidableEq

/-- The arguments of a call of `tx_tcp`, without the addresses. -/
structure TxTcp where
  seq : Int
  ackSeq : Int
  ack : Bool
  psh : Bool
  rst : Bool
  syn : Bool
  fin : Bool
  window : Int
  mssOption : Bool
  data : List UInt8

/-- `sockets` and `tcpcbs` of `TCPTable`. -/
structure TCPTable where
  sockets : SockId → Option Nat
  tcpcbs : SockId → Option Nat

/-- The parts of `Core` that TCP works on. The log `out` has every call of `tx_tcp` with a packet
that fits the link, and the socket id it was made for; `notices` has every notification, with the
socket notified. -/
structure Core where
  nowNs : Int
  events : List TCPEvent
  timer : Timer TimerCall
  tcp : TCPTable
  soError : Nat → Option Errno
  notices : List (Nat × Notice)
  out : List (SockId × TxTcp)

namespace Core

variable (k : Core)

/-- `schedule_event`. -/
@[simps] def scheduleEvent (e : TCPEvent) : Core := { k with events := k.events ++ [e] }

@[simps] def setTimer (t : Timer TimerCall) : Core := { k with timer := t }

@[simps] def setTcp (t : TCPTable) : Core := { k with tcp := t }

@[simps] def setSoError (so : Nat) (e : Errno) : Core :=
  { k with soError := Function.update k.soError so (some e) }

@[simps] def notify (so : Nat) (n : Notice) : Core := { k with notices := k.notices ++ [(so, n)] }

/-- The call of `tx_tcp`. What `tx_ip` does with the segment, in the thread that called, is not part
of the core: `Tcp.Threads` has it. -/
@[simps] def txTcp (id : SockId) (seg : TxTcp) : Core := { k with out := k.out ++ [(id, seg)] }

end Core

/-- `remove_socket` and `remove_tcpcb` of the table. -/
def TCPTable.remove (t : TCPTable) (id : SockId) : TCPTable :=
  ⟨Function.update t.sockets id none, Function.update t.tcpcbs id none⟩

/-! ## A control block in the core -/

/-- What a handler runs on. -/
structure Conn where
  tcb : TCPCB
  core : Core

namespace Conn

variable (c : Conn)

@[simps] def onTcb (f : TCPCB → TCPCB) : Conn := { c with tcb := f c.tcb }

@[simps] def onCore (f : Core → Core) : Conn := { c with core := f c.core }

/-- `tx_tcp` for this connection, for a segment that fits the link. -/
@[simps] def txTcp (seg : TxTcp) : Conn := { c with core := c.core.txTcp c.tcb.socketId seg }

@[simps] def notify (n : Notice) : Conn := { c with core := c.core.notify c.tcb.so n }

/-- `schedule_event` with an event for this control block. -/
@[simps] def scheduleEvent (type : TCPEventType) : Conn :=
  { c with core := c.core.scheduleEvent ⟨type, some c.tcb.ref⟩ }

/-- `remove_tcpcb`. -/
@[simps] def removeTcpcb : Conn :=
  { c with core := c.core.setTcp (c.core.tcp.remove c.tcb.socketId) }

end Conn

/-! ## Timers -/

def TIME_WAIT_TIMEOUT : ℚ := 30

def MAX_RTO : ℚ := 60

def MIN_RTO : ℚ := 1

/-- `schedule_timer` on the timer of the core, with the clock of the core. -/
def Core.scheduleTimer (k : Core) (expireAfter : ℚ) (call : TimerCall) : Nat × Core :=
  let t := k.timer.scheduleTimer (k.nowNs / 1000000) expireAfter call
  (t.1, k.setTimer t.2)

@[simp] theorem Core.scheduleTimer_snd (k : Core) (expireAfter : ℚ) (call : TimerCall) :
    (k.scheduleTimer expireAfter call).2 =
      k.setTimer (k.timer.scheduleTimer (k.nowNs / 1000000) expireAfter call).2 := rfl

namespace Conn

variable (c : Conn)

/-- `start_rtx_timer`. -/
def startRtxTimer : Conn :=
  if c.tcb.rtxTimer = none then
    let t := c.core.scheduleTimer c.tcb.rto.rto (.rtx c.tcb.ref)
    ⟨c.tcb.setRtxTimer (some t.1), t.2⟩
  else c

/-- The callback of a timer task is taken off: `TimerTask.remove`. -/
def removeTimer (id : Option Nat) : Conn :=
  match id with
  | some id => c.onCore fun k => k.setTimer (k.timer.remove id)
  | none => c

/-- `restart_rtx_timer`. -/
def restartRtxTimer : Conn :=
  let c := c.removeTimer c.tcb.rtxTimer
  let t := c.core.scheduleTimer c.tcb.rto.rto (.rtx c.tcb.ref)
  ⟨c.tcb.setRtxTimer (some t.1), t.2⟩

/-- `stop_rtx_timer`. -/
def stopRtxTimer : Conn := (c.removeTimer c.tcb.rtxTimer).onTcb (·.setRtxTimer none)

/-- `start_time_wait_timer`. -/
def startTimeWaitTimer : Conn :=
  let t := c.core.scheduleTimer TIME_WAIT_TIMEOUT (.removeTcpcb c.tcb.socketId)
  ⟨c.tcb.setTimeWaitTimer (some t.1), t.2⟩

/-- `stop_time_wait_timer`. -/
def stopTimeWaitTimer : Conn :=
  (c.removeTimer c.tcb.timeWaitTimer).onTcb (·.setTimeWaitTimer none)

/-- `stop_all_timers`. -/
def stopAllTimers : Conn := c.stopRtxTimer.stopTimeWaitTimer

/-! A timer function sets one handle of the control block and the timer of the core. -/

@[simp] theorem startRtxTimer_tcb : c.startRtxTimer.tcb =
    c.tcb.setRtxTimer (if c.tcb.rtxTimer = none then some c.core.timer.counter
        else c.tcb.rtxTimer) := by
  unfold startRtxTimer
  split <;> rfl

@[simp] theorem startRtxTimer_core : c.startRtxTimer.core =
    c.core.setTimer (if c.tcb.rtxTimer = none then
      (c.core.scheduleTimer c.tcb.rto.rto (.rtx c.tcb.ref)).2.timer else c.core.timer) := by
  unfold startRtxTimer
  split <;> rfl

@[simp] theorem removeTimer_tcb (id : Option Nat) : (c.removeTimer id).tcb = c.tcb := by
  cases id <;> rfl

@[simp] theorem removeTimer_core (id : Option Nat) :
    (c.removeTimer id).core = c.core.setTimer (id.elim c.core.timer c.core.timer.remove) := by
  cases id <;> rfl

@[simp] theorem restartRtxTimer_tcb : c.restartRtxTimer.tcb =
    c.tcb.setRtxTimer (some (c.removeTimer c.tcb.rtxTimer).core.timer.counter) := by
  simp [restartRtxTimer, Core.scheduleTimer, Timer.scheduleTimer]

@[simp] theorem restartRtxTimer_core : c.restartRtxTimer.core =
    ((c.removeTimer c.tcb.rtxTimer).core.scheduleTimer c.tcb.rto.rto (.rtx c.tcb.ref)).2 := by
  simp [restartRtxTimer]

@[simp] theorem stopRtxTimer_tcb : c.stopRtxTimer.tcb = c.tcb.setRtxTimer none := by
  simp [stopRtxTimer]

@[simp] theorem stopRtxTimer_core :
    c.stopRtxTimer.core = (c.removeTimer c.tcb.rtxTimer).core := rfl

@[simp] theorem startTimeWaitTimer_tcb :
    c.startTimeWaitTimer.tcb = c.tcb.setTimeWaitTimer (some c.core.timer.counter) := rfl

@[simp] theorem startTimeWaitTimer_core : c.startTimeWaitTimer.core =
    (c.core.scheduleTimer TIME_WAIT_TIMEOUT (.removeTcpcb c.tcb.socketId)).2 := rfl

@[simp] theorem stopTimeWaitTimer_tcb :
    c.stopTimeWaitTimer.tcb = c.tcb.setTimeWaitTimer none := by
  simp [stopTimeWaitTimer]

@[simp] theorem stopTimeWaitTimer_core :
    c.stopTimeWaitTimer.core = (c.removeTimer c.tcb.timeWaitTimer).core := rfl

@[simp] theorem stopAllTimers_tcb :
    c.stopAllTimers.tcb = (c.tcb.setRtxTimer none).setTimeWaitTimer none := by
  simp [stopAllTimers]

end Conn

/-! ## The retransmission timeout -/

namespace RtoVars

/-- `max(srtt + max(G, K * rttvar), MIN_RTO)`, with `K = 4` and `G = 0.001`. -/
def rtoOf (srtt rttvar : ℚ) : ℚ := max (srtt + max (1 / 1000) (4 * rttvar)) MIN_RTO

/-- `set_initial_rto`, for a sample. -/
def setInitialRto (rtt : ℚ) : RtoVars :=
  { rto := rtoOf rtt (rtt / 2), rtt := none, srtt := some rtt, rttvar := some (rtt / 2) }

/-- `set_new_rto`, for a sample; `BETA` is 1/4 and `ALPHA` is 1/8. -/
def setNewRto (x : RtoVars) (rtt : ℚ) : RtoVars :=
  match x.srtt, x.rttvar with
  | some srtt, some rttvar =>
    let rttvar := (1 - 1 / 4) * rttvar + 1 / 4 * |srtt - rtt|
    let srtt := (1 - 1 / 8) * srtt + 1 / 8 * rtt
    { rto := rtoOf srtt rttvar, rtt := none, srtt := some srtt, rttvar := some rttvar }
  | _, _ => setInitialRto rtt

/-- `back_off_rto`. -/
def backOffRto (x : RtoVars) : RtoVars := ⟨min (x.rto * 2) MAX_RTO, none, none, none⟩

end RtoVars

end Tipy.Tcp
