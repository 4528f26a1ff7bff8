import Tipy.Arp.SentOnce
import Tipy.Tcp.Dispatch
import Tipy.Tcp.FinOrder
import Tipy.Tcp.SentRecord

/-!
# The event loop among the other threads

`Stack` logs the segments a handler gives to `tx_tcp`. Here the event loop is a thread that takes
each of them through `tx_ip`: it is the thread 0 of `Arp.Threads`, and may be stopped between any
two accesses to the caches it shares with the other threads. `rx_tcp` looks a segment's socket up,
and then its control block, which the event loop or the timer may have taken out of the table in
between. A handler works on its control block in one step, and makes the calls of `tx_tcp` after it;
a handler that is going to raise by itself counts as one that has. The resets of `rx_tcp` are among
the calls of the other threads.

The event loop survives exactly the runs that avoid five things: a segment with a socket and then no
control block, a `SEND` or `RTX` handled in `TIME_WAIT`, options that cannot be read, data that
cannot be sent, and a queue of datagrams that is gone when `enqueue` looks it up again.
-/

namespace Tipy.Tcp

open Tipy.Components Tipy.Lib

/-! ## What a handler sends -/

/-- A handler adds segments to the log, whatever they are. -/
def Conn.Logs (c c' : Conn) : Prop := Emits (fun _ => True) c.core.out c'.core.out

namespace Conn.Logs

variable {c c' c'' : Conn}

theorem of_eq (h : c'.core.out = c.core.out) : c.Logs c' := by
  unfold Logs
  rw [h]
  exact .refl _ _

theorem of_empty (h : Emits TxTcp.Empty c.core.out c'.core.out) : c.Logs c' :=
  h.mono fun _ _ => trivial

theorem one (h : ∃ e, c'.core.out = c.core.out ++ [e]) : c.Logs c' := by
  obtain ⟨e, h⟩ := h
  exact ⟨[e], h, fun _ _ => trivial⟩

theorem trans (h : c.Logs c') (h' : c'.Logs c'') : c.Logs c'' := Emits.trans h h'

theorem rxSynSent (c : Conn) (p : Segment) : c.Logs (c.rxSynSent p).st := by
  have haccept : c.Logs (c.synSentAccept p) := .of_eq (by simp [Conn.synSentAccept])
  refine c.rxSynSent_rule p (I := fun o => c.Logs o.st) (.of_eq ?_) (.of_eq rfl)
    (.of_empty (.dropWithReset c p)) ?_ ?_ (.one ?_)
  · simp
  · exact fun _ => haccept
  · exact fun _ => haccept.trans (.of_empty (synSentEstab_sent ((c.synSentAccept p).setSnd _) p))
  · simp [Conn.synSentSimultaneous]

theorem rxSynRecv (c : Conn) (p : Segment) : c.Logs (c.rxSynRecv p) := by
  unfold Conn.rxSynRecv
  simp only
  split_ifs
  · exact .of_empty (.dropWithReset c p)
  · exact .one ⟨_, rfl⟩
  · exact .one (by simp [Conn.sendAck])
  · exact .of_empty (.dropWithReset (c.setRcv _) _)
  · exact .of_eq rfl

theorem rx (c : Conn) (packet : TCPParser) : c.Logs (c.rx packet).st := by
  by_cases hsent : c.tcb.state = .synSent
  · unfold Conn.rx
    rw [hsent]
    exact rxSynSent c _
  · by_cases hrecv : c.tcb.state = .synRecv
    · unfold Conn.rx
      rw [hrecv]
      exact rxSynRecv c _
    · exact .of_empty (rx_emits c packet hsent hrecv)

theorem txLoop (c : Conn) (data : List (List UInt8)) (next : Option STATES)
    (shutReq closeReq : Bool) :
    c.Logs (txLoop c data next shutReq closeReq).st := by
  refine txLoop_inv (I := c.Logs) (.of_eq rfl) ?_ ?_ ?_ ?_ ?_
  · exact fun c' h => h.trans (.activeCloseTx c' fun _ _ _ => trivial)
  · exact fun c' data fin h => h.trans (.one ⟨_, afterSegment_out c' data fin⟩)
  · exact fun c' h => h
  · exact fun c' s _ h => h
  · exact fun c' h => h.trans (.of_eq (by simp))

theorem tx (c : Conn) : c.Logs c.tx.st := by
  refine tx_inv (I := c.Logs) (.of_eq rfl) ?_ ?_ ?_ ?_ ?_ ?_ ?_ ?_
  · exact .one (by simp [Conn.txSynSent])
  · exact .one (by simp [Conn.txSynRecv])
  · rintro c₁ (rfl | rfl) <;> exact .of_eq rfl
  · exact fun c' h => h.trans (.activeCloseTx c' fun _ _ _ => trivial)
  · exact fun c' next h => h.trans (.sendFin c' next trivial)
  · exact fun c' h => h.trans (.one ⟨_, rfl⟩)
  · exact fun c' h => h
  · exact fun c' data next shutReq closeReq h => h.trans (txLoop c' data next shutReq closeReq)

/-- **A handler** only adds to the log. -/
theorem eventsMap (c : Conn) (type : TCPEventType) : c.Logs (c.eventsMap type).st := by
  cases type with
  | rxSegment packet => exact rx c packet
  | connect => exact .one (by simp [Conn.eventsMap, Conn.activOpen])
  | send => exact tx c
  | rtx => exact (Logs.of_eq rfl : c.Logs c.prepareRtx).trans (tx c.prepareRtx)

end Conn.Logs

/-- Handling an event only adds to the log. -/
theorem Stack.handle_out (s : Stack) (i : Nat) :
    ∃ new, (s.handle i).core.out = s.core.out ++ new := by
  unfold Stack.handle
  split
  · next ev _ _ =>
    split
    · exact ⟨[], (List.append_nil _).symm⟩
    · simp only
      split
      · next t _ =>
        obtain ⟨new, hnew, -⟩ := Conn.Logs.eventsMap ⟨t, _⟩ ev.type
        exact ⟨new, hnew⟩
      · exact ⟨[], (List.append_nil _).symm⟩
  · exact ⟨[], (List.append_nil _).symm⟩

/-! ## The threads -/

/-- The stack with the calls its threads are in. -/
structure ThreadedStack (δ : Type) where
  stack : Stack
  /-- The calls of `tx_tcp` that the event loop has not come to yet. -/
  sending : List (SockId × TxTcp)
  /-- The segment whose socket `rx_tcp` has found. -/
  found : Option (SockId × TCPParser)
  arp : Arp.Threads δ

/-- What happens next. Of the threads of address resolution, the thread 0 is the event loop. -/
inductive ThreadedEvent (δ : Type) where
  | stack (e : StackEvent)
  /-- The event loop makes its next call of `tx_tcp`. -/
  | call
  /-- `rx_tcp` looks up the control block of the segment, and queues it. -/
  | schedule
  | arp (e : Arp.ThreadEvent δ)

namespace ThreadedStack

variable {δ : Type}

def new (ip : Option Nat) (arp : Arp.Threads δ) : ThreadedStack δ := ⟨.new ip, [], none, arp⟩

variable (s : ThreadedStack δ)

/-- The event loop is in no handler. -/
def Between : Prop := s.sending = [] ∧ (s.arp.txs 0).isIdle = true

instance : Decidable s.Between := inferInstanceAs (Decidable (_ ∧ _))

/-- The event loop takes the event at place `i`; the calls its handler makes are those it logs. -/
def handle (i : Nat) : ThreadedStack δ :=
  if s.Between then
    let stack := s.stack.handle i
    { s with stack, sending := stack.core.out.drop s.stack.core.out.length }
  else s

/-- The event loop enters `tx_ip`. -/
def call (datagram : SockId × TxTcp → δ) : ThreadedStack δ :=
  match s.sending with
  | e :: sending =>
    if (s.arp.txs 0).isIdle then
      { s with sending, arp := s.arp.step (.call 0 e.1.localIp e.1.remoteIp (datagram e)) }
    else s
  | [] => s

/-- The next step of `tx_ip` in the event loop. What it raises ends the loop. -/
def tx : ThreadedStack δ :=
  let arp := s.arp.txStep 0
  -- the exception that the step has added, if any
  match arp.raised[s.arp.raised.length]? with
  | some e => { s with arp, stack := { s.stack with fault := some (.raised e) }, sending := [] }
  | none => { s with arp }

/-- `rx_tcp`, up to the look-up of the control block. -/
def rxTcp (src dst : Nat) (packet : TCPParser) : ThreadedStack δ :=
  let id := ⟨dst, packet.dst, src, packet.src⟩
  if s.found.isSome then s
  else if s.stack.core.tcp.sockets id ≠ none then { s with found := some (id, packet) }
  else { s with stack := s.stack.rxTcp src dst packet }

/-- The rest of `rx_tcp`. -/
def schedule : ThreadedStack δ :=
  match s.found with
  | some (id, packet) =>
    { s with
      stack := s.stack.onCore (·.scheduleEvent ⟨.rxSegment packet, s.stack.core.tcp.tcpcbs id⟩)
      found := none }
  | none => s

/-- One step. The event loop makes its calls of `tx_tcp` in the order of the log, and takes the next
event after the last one; nobody else makes calls in its thread. -/
def step (datagram : SockId × TxTcp → δ) (s : ThreadedStack δ) : ThreadedEvent δ → ThreadedStack δ
  | .stack (.handle i) => s.handle i
  | .stack (.rxTcp src dst packet) => s.rxTcp src dst packet
  | .stack e => { s with stack := s.stack.step e }
  | .call => s.call datagram
  | .schedule => s.schedule
  | .arp (.tx 0) => s.tx
  | .arp (.call 0 ..) => s
  | .arp e => { s with arp := s.arp.step e }

/-- The condition on a step. An event is handled only when its control block has what the handler
needs, a segment that was found a socket finds a control block, and so does `enqueue` the queue it
looks up again. -/
def Admits (s : ThreadedStack δ) : ThreadedEvent δ → Prop
  | .stack (.handle i) => s.Between → s.stack.Admits (.handle i)
  | .schedule => ∀ x ∈ s.found, s.stack.core.tcp.tcpcbs x.1 ≠ none
  | .arp (.tx 0) => s.arp.Finds 0
  | _ => True

/-- The event loop is alive, and every event in its queue carries a control block. -/
def Alive : Prop := s.stack.Alive

instance : Decidable s.Alive := inferInstanceAs (Decidable s.stack.Alive)

variable {s : ThreadedStack δ}

/-- The calls are exactly those that the handler adds to the log. -/
theorem handle_sending (hbetween : s.Between) (i : Nat) :
    (s.handle i).stack.core.out = s.stack.core.out ++ (s.handle i).sending := by
  obtain ⟨new, hnew⟩ := s.stack.handle_out i
  simp only [handle, if_pos hbetween, hnew, List.drop_left]

/-- The fault of the stack after a step of `tx_ip`. -/
theorem tx_stack (s : ThreadedStack δ) :
    s.arp.Finds 0 ∧ s.tx.stack = s.stack ∨
      ¬ s.arp.Finds 0 ∧ s.tx.stack = { s.stack with fault := some (.raised .keyError) } := by
  rcases s.arp.txStep_raised 0 with ⟨hfinds, hraised⟩ | ⟨hfinds, hraised⟩
  · exact .inl ⟨hfinds, by simp [tx, hraised]⟩
  · exact .inr ⟨hfinds, by simp [tx, hraised]⟩

theorem sound_rxTcp (h : s.stack.Sound) (src dst : Nat) (packet : TCPParser) :
    (s.rxTcp src dst packet).stack.Sound := by
  unfold rxTcp
  simp only
  split
  · exact h
  · split
    · exact h
    · next hnone => exact h.rxTcp src dst packet fun hsock => absurd hsock hnone

theorem sound_schedule (h : s.stack.Sound) (hadm : s.Admits .schedule) :
    s.schedule.stack.Sound := by
  unfold schedule
  split
  · next id packet hfound =>
    obtain ⟨r, hr⟩ := Option.ne_none_iff_exists'.1 (hadm _ hfound)
    exact ⟨h.tcbs, h.refs.scheduleEvent ⟨r, hr, h.refs.table _ r hr⟩, h.fault⟩
  · exact h

variable {datagram : SockId × TxTcp → δ}

/-- **One step** that meets the condition keeps the invariant of the stack. -/
theorem sound_step (h : s.stack.Sound) {e : ThreadedEvent δ} (hadm : s.Admits e) :
    (s.step datagram e).stack.Sound := by
  cases e with
  | stack e =>
    cases e with
    | handle i =>
      simp only [step, handle]
      split
      · next hbetween => exact h.handle (hadm hbetween)
      · exact h
    | rxTcp src dst packet => exact sound_rxTcp h src dst packet
    | _ =>
      simp only [step]
      exact h.step trivial
  | call =>
    simp only [step, call]
    split
    · split <;> exact h
    · exact h
  | schedule => exact sound_schedule h hadm
  | arp e =>
    cases e with
    | tx t =>
      cases t with
      | zero =>
        rcases s.tx_stack with ⟨-, hstack⟩ | ⟨hfinds, -⟩
        · exact hstack ▸ h
        · exact absurd hadm hfinds
      | succ t => exact h
    | call t src dst d => cases t <;> exact h
    | _ => exact h

/-- A step off the condition stops the event loop, or queues an event without a control block. -/
theorem admits_of_alive (h : s.stack.Sound) {e : ThreadedEvent δ}
    (halive : (s.step datagram e).Alive) :
    s.Admits e := by
  cases e with
  | stack e =>
    cases e with
    | handle i =>
      intro hbetween
      refine h.admits_of_alive (e := .handle i) ?_
      simpa only [Alive, step, handle, if_pos hbetween, Stack.step] using halive
    | _ => trivial
  | call => trivial
  | schedule =>
    rintro ⟨id, packet⟩ hfound
    have hmem : (⟨.rxSegment packet, s.stack.core.tcp.tcpcbs id⟩ : TCPEvent) ∈
        s.schedule.stack.core.events := by
      simp only [schedule, Option.mem_def.1 hfound]
      exact List.mem_append_right _ (List.mem_singleton_self _)
    obtain ⟨r, hr, -⟩ := halive.2 _ hmem
    exact Option.ne_none_iff_exists'.2 ⟨r, hr⟩
  | arp e =>
    cases e with
    | tx t =>
      cases t with
      | zero =>
        rcases s.tx_stack with ⟨hfinds, -⟩ | ⟨-, hstack⟩
        · exact hfinds
        · have hfault : s.tx.stack.fault = none := halive.1
          simp [hstack] at hfault
      | succ t => trivial
    | call t src dst d => cases t <;> trivial
    | _ => trivial

end ThreadedStack

/-- **The event loop survives exactly the runs that meet the condition.** In a run of the stack from
its start and of the threads of address resolution from any state, of calls from any threads,
segments, timers and events handled in any order: the event loop is alive and every queued event
carries a control block in every state reached, if and only if every step meets `Admits`. -/
theorem event_loop_alive_iff {δ : Type} (datagram : SockId × TxTcp → δ) (ip : Option Nat)
    (arp : Arp.Threads δ) (es : List (ThreadedEvent δ)) :
    (∀ pre, pre <+: es → (run (ThreadedStack.step datagram) (.new ip arp) pre).Alive) ↔
      Guarded (ThreadedStack.step datagram) ThreadedStack.Admits (.new ip arp) es :=
  forall_reached_iff_guarded (D := fun _ _ => True) (I := fun s => s.stack.Sound)
    (fun _ h => h.alive)
    (fun _ _ h _ hadm => ThreadedStack.sound_step h hadm)
    (fun _ _ h _ halive => ThreadedStack.admits_of_alive h halive) (Stack.new_sound ip)
    (guarded_of_forall_mem (P := fun _ => True) (fun _ _ => trivial) _)

/-- A stack at 10.0.0.2, with the MACs it knows. -/
def sampleThreads (arpCache : Nat → Option Nat) : ThreadedStack (SockId × TxTcp) :=
  .new (some 0x0A000002) (.start
    { unicastMac := 0x020000000001, unicastIp := some 0x0A000002, network := 0x0A000000,
      mask := 0xFFFFFF00, router := 0x0A0000FE, arpCache, arpWaitList := ∅, arpWaitProbList := ∅,
      pendingQueue := fun _ => none, conflictIps := [], txRing := [], timer := .new, nowMs := 0 })

/-- An event is handled, with one segment to a host whose MAC is known. -/
def sampleHandle : List (ThreadedEvent (SockId × TxTcp)) :=
  [.stack (.handle 0), .call, .arp (.tx 0)]

/-- A segment of 10.0.0.1 for the socket 1234 is received. -/
def sampleRx (packet : TCPParser) : List (ThreadedEvent (SockId × TxTcp)) :=
  [.stack (.rxTcp 0x0A000001 0x0A000002 packet), .schedule]

/-- A socket that was shut down and closed by the peer is in `TIME_WAIT`, and closing it stops the
event loop. -/
theorem close_in_time_wait_raises :
    let s := run (ThreadedStack.step id) (sampleThreads fun _ => some 0x020000000002)
      ([.stack .socket, .stack (.bind 0 (some 0x0A000002) 1234),
          .stack (.connect 0 (some 0x0A000001) 80 32768), .stack (.resume 0 1000)] ++
            sampleHandle ++
        sampleRx (.sample 100 1001 0x12 4096 []) ++ sampleHandle ++
        [.stack (.shutdown 0)] ++ sampleHandle ++
        sampleRx (.sample 101 1002 0x11 4096 []) ++ sampleHandle ++
        [.stack (.close 0), .stack (.handle 0)])
    s.stack.fault = some (.raised .typeError) ∧ ¬ s.Alive := by
  decide +kernel

/-- The `SYN` of a host whose MAC is not known is transmitted again. While the event loop is between
the two look-ups of `enqueue`, the RX thread handles the reply of the host. -/
example :
    (run (ThreadedStack.step id) (sampleThreads fun _ => none)
      ([.stack .socket, .stack (.connect 0 (some 0x0A000001) 80 32768), .stack (.resume 0 1000),
          .stack (.handle 0), .call] ++ List.replicate 7 (.arp (.tx 0)) ++
        [.stack (.tick 1000000000), .stack (.fire 0), .stack (.handle 0), .call, .arp (.tx 0),
          .arp (.tx 0), .arp (.frame Arp.Resolver.sampleReply)] ++ List.replicate 8 (.arp .rx) ++
        [.arp (.tx 0)])).stack.fault = some (.raised .keyError) := by
  decide +kernel

end Tipy.Tcp
