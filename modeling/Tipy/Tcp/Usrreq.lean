import Tipy.Lib.Runs
import Tipy.Tcp.Fsm

/-!
# User requests, and the runs of one connection

The requests of `tipy/protocols/tcp/tcp_usrreq.py` on an existing control block, and the machine of
one connection: a step is an event handled by the event loop, a request of the application, or the
passing of time. Events are handled in any order and number here; where they come from is the matter
of the queue. Once a handler has raised, or does not return, the event loop handles nothing more.
-/

namespace Tipy.Tcp

open Tipy.Components

namespace Conn

variable (c : Conn)

def NON_RECEIVABLE_STATES : List STATES := [.closeWait, .lastAck, .closed, .closing, .timeWait]

/-- One turn of the loop of `tcp_send`, with the bytes it offers to the buffer. -/
def tcpSend (data : List UInt8) : Conn :=
  if data = [] then c
  else
    (c.setSnd { c.tcb.snd with sndBuf := (c.tcb.snd.sndBuf.enqueue data).1 }).scheduleEvent .send

/-- `tcp_recv`, once it does not have to wait. -/
def tcpRecv (bufsize : Nat) : Conn :=
  if c.tcb.state ∈ NON_RECEIVABLE_STATES then c
  else c.setRcv { c.tcb.rcv with rcvBuf := (c.tcb.rcv.rcvBuf.dequeue bufsize).2 }

/-- `tcp_close`. -/
def tcpClose : Conn :=
  (c.onTcb fun t => t.setReq { t.req with closeRequested := true }).scheduleEvent .send

/-- `tcp_shutdown`. -/
def tcpShutdown : Conn :=
  (c.onTcb fun t => t.setReq { t.req with shutdownRequested := true }).scheduleEvent .send

end Conn

/-- What the application and the clock can do to a connection. -/
inductive UserRequest where
  | tcpSend (data : List UInt8)
  | tcpRecv (bufsize : Nat)
  | tcpClose
  | tcpShutdown
  | tick (ns : Nat)

def UserRequest.apply (c : Conn) : UserRequest → Conn
  | .tcpSend data => c.tcpSend data
  | .tcpRecv bufsize => c.tcpRecv bufsize
  | .tcpClose => c.tcpClose
  | .tcpShutdown => c.tcpShutdown
  | .tick ns => c.onCore fun k => { k with nowNs := k.nowNs + ns }

/-- What can happen to a connection: the three kinds of events, handled by the event loop, and
requests. -/
inductive ConnEvent where
  | rx (packet : TCPParser)
  | tx
  | rtx
  | usr (q : UserRequest)

/-- What the event loop runs for an event. -/
def ConnEvent.handler : ConnEvent → Conn → Outcome
  | .rx packet, c => c.rx packet
  | .tx, c => c.tx
  | .rtx, c => c.rtx
  | .usr q, c => .ok (q.apply c)

/-- The step of the machine. A request reaches the control block whether or not the event loop is
alive; an event is handled only while nothing was raised. -/
def Outcome.step (o : Outcome) (e : ConnEvent) : Outcome :=
  match e, o.fault with
  | .usr q, _ => { o with st := q.apply o.st }
  | _, some _ => o
  | e, none => e.handler o.st

theorem Outcome.eq_ok {o : Outcome} (h : o.fault = none) : o = .ok o.st := by
  obtain ⟨st, fault⟩ := o
  cases h
  rfl

/-- The fault stays. -/
theorem Outcome.fault_of_step {o : Outcome} {e : ConnEvent} (h : (o.step e).fault = none) :
    o.fault = none := by
  revert h
  unfold Outcome.step
  split
  · exact id
  · next hf => exact fun h => absurd (hf.symm.trans h) (by simp)
  · next hf => exact fun _ => hf

/-- **The rule for one step.** A relation between control blocks that holds of every handler, of
every request and of doing nothing holds of a step. -/
theorem Outcome.step_rule {R : Conn → Conn → Prop} (o : Outcome) (e : ConnEvent)
    (hrefl : R o.st o.st) (h : o.fault = none ∨ (∃ q, e = .usr q) → R o.st (e.handler o.st).st) :
    R o.st (o.step e).st := by
  cases e with
  | usr q => exact h (Or.inr ⟨q, rfl⟩)
  | _ =>
    cases hfault : o.fault with
    | none => simpa only [Outcome.step, hfault] using h (Or.inl hfault)
    | some f => simpa only [Outcome.step, hfault] using hrefl

/-- A core with nothing to do. -/
def Core.idle : Core where
  nowNs := 0
  events := []
  timer := .new
  tcp := ⟨fun _ => none, fun _ => none⟩
  soError := fun _ => none
  notices := []
  out := []

/-- A control block that was just made. -/
def Conn.sampleNew : Conn := ⟨.new 0 0 ⟨1, 80, 2, 1234⟩ none 1000 0, .idle⟩

end Tipy.Tcp
