import Tipy.Tcp.Transitions

/-!
# The event loop of one connection

Between the handlers stands a queue. `rx_tcp`, the requests of the application, the handlers
themselves and the callbacks of the timer put events in it, and `_tcp_events_loop` of
`tipy/components/tcp_events.py` takes them out and runs the handler of their type. Here the loop
takes an event from any place of the queue, and the timer any task that is due, so what is proved
does not depend on their order.
-/

namespace Tipy.Tcp

open Tipy.Components

/-- `SEND` and `RTX`: the events that run a send handler. -/
def TCPEventType.isSend : TCPEventType → Bool
  | .send => true
  | .rtx => true
  | .rxSegment _ => false
  | .connect => false

/-- `CONNECT`. -/
def TCPEventType.isConnect : TCPEventType → Bool
  | .connect => true
  | .send => false
  | .rtx => false
  | .rxSegment _ => false

/-- What the timer loop does with the task at place `i` when it is due: a task that is not marked
runs its callback. -/
def Core.fireTimer (k : Core) (i : Nat) : Core :=
  match k.timer.popDue (k.nowNs / 1000000) i with
  | none => k
  | some (task, timer) =>
    let k := k.setTimer timer
    if task.deleted then k
    else match task.call with
      | .rtx ref => k.scheduleEvent ⟨.rtx, some ref⟩
      | .removeTcpcb id => k.setTcp (k.tcp.remove id)

namespace Conn

variable (c : Conn)

/-- The handlers of `_events_map`. -/
def eventsMap : TCPEventType → Outcome
  | .rxSegment packet => c.rx packet
  | .connect => .ok c.activOpen
  | .send => c.tx
  | .rtx => c.rtx

/-- The handler of an event of this control block; an event of another one leaves this one alone. -/
def dispatch (ev : TCPEvent) : Outcome :=
  if ev.tcpcb = some c.tcb.ref then c.eventsMap ev.type else .ok c

/-- The connection without the event at place `i` of the queue. -/
@[simps] def dropEvent (i : Nat) : Conn :=
  { c with core := { c.core with events := c.core.events.eraseIdx i } }

/-- `SEND` or `RTX` is queued for this control block. -/
def SendQueued : Prop :=
  ∃ ev ∈ c.core.events, ev.type.isSend = true ∧ ev.tcpcb = some c.tcb.ref

instance : Decidable c.SendQueued := inferInstanceAs (Decidable (∃ ev ∈ _, _))

end Conn

/-- The steps of the machine: a request, a segment that `rx_tcp` finds a control block for, a timer
that is due, and an event handled by the event loop. -/
inductive LoopEvent where
  | usr (q : UserRequest)
  | arrive (packet : TCPParser)
  | fire (i : Nat)
  | handle (i : Nat)

/-- One step. When a handler has raised, or does not return, the event loop handles nothing more. -/
def Outcome.loop (o : Outcome) : LoopEvent → Outcome
  | .usr q => { o with st := q.apply o.st }
  | .arrive packet => { o with st := o.st.scheduleEvent (.rxSegment packet) }
  | .fire i => { o with st := o.st.onCore (·.fireTimer i) }
  | .handle i =>
    match o.fault, o.st.core.events[i]? with
    | none, some ev => (o.st.dropEvent i).dispatch ev
    | _, _ => o

/-! ## What the handlers put in the queue -/

theorem txLoop_events (c : Conn) (data : List (List UInt8)) (next : Option STATES)
    (shutReq closeReq : Bool) :
    (txLoop c data next shutReq closeReq).st.core.events = c.core.events := by
  refine txLoop_inv (I := fun c' => c'.core.events = c.core.events) rfl ?_ ?_ ?_ ?_ ?_
  · exact fun c' h => by simpa using h
  · intro c' data fin h
    unfold Conn.afterSegment
    simp only
    split <;> simpa using h
  · exact fun c' h => by simpa using h
  · exact fun c' s _ h => by simpa using h
  · exact fun c' h => by simpa using h

namespace Conn

variable (c : Conn) (p : Segment)

/-- A send handler queues nothing. -/
theorem tx_events : c.tx.st.core.events = c.core.events := by
  refine tx_inv (I := fun c' => c'.core.events = c.core.events) rfl ?_ ?_ ?_ ?_ ?_ ?_ ?_ ?_
  · simp [txSynSent]
  · simp [txSynRecv]
  · rintro c₁ (rfl | rfl) <;> simp
  · exact fun c' h => by simpa using h
  · exact fun c' next h => by simpa using h
  · exact fun c' h => by simpa using h
  · exact fun c' h => by simpa using h
  · exact fun c' data next shutReq closeReq h => by rw [txLoop_events, h]

/-- The queue after a segment: as it was, or with a `SEND` for this control block at its end. -/
def QueuesSend (c c' : Conn) : Prop :=
  c'.core.events = c.core.events ∨
    c'.core.events = c.core.events ++ [⟨.send, some c.tcb.ref⟩]

theorem rxSynSent_queues : c.QueuesSend (c.rxSynSent p).st := by
  refine rxSynSent_rule c p (I := fun o => c.QueuesSend o.st) (Or.inl ?_) (Or.inl rfl)
    (Or.inl ?_) ?_ ?_
    (Or.inl ?_)
  · simp
  · simp
  · exact fun _ => Or.inl (by simp [synSentAccept])
  · exact fun _ => Or.inl (by simp [synSentAccept])
  · simp [synSentSimultaneous]

theorem rxEstab_queues : c.QueuesSend (c.rxEstab p) := by
  have href : ∀ t : TCPCB, t.ref = t.fixed.1 := fun _ => rfl
  unfold rxEstab
  simp only
  split
  · split
    · exact Or.inl (by simp)
    · split
      · exact Or.inl (by simp)
      · right
        simp only [estabAccept]
        split <;> split <;> simp [href]
  · exact Or.inr (by simp)
  · exact Or.inl (by simp)

theorem rxFinWait1_queues : c.QueuesSend (c.rxFinWait1 p) := by
  left
  unfold rxFinWait1
  simp only
  split
  · simp only [finWait1Accept]
    split_ifs <;> simp
  · simp
  · simp

theorem rxFinWait2_queues : c.QueuesSend (c.rxFinWait2 p) := by
  left
  unfold rxFinWait2
  simp only
  split
  · simp only [finWait2Accept]
    split_ifs <;> simp
  · simp
  · simp

theorem rxCloseWait_queues : c.QueuesSend (c.rxCloseWait p) := by
  have href : ∀ t : TCPCB, t.ref = t.fixed.1 := fun _ => rfl
  unfold rxCloseWait
  split_ifs
  · exact Or.inl (by simp)
  · exact Or.inl (by simp)
  · exact Or.inl (by simp)
  · exact Or.inr (by simp [href])
  · exact Or.inr (by simp)

/-- A segment queues at most a `SEND`. -/
theorem rx_queues (packet : TCPParser) : c.QueuesSend (c.rx packet).st := by
  unfold rx
  cases hs : c.tcb.state with
  | listen => exact Or.inl rfl
  | synSent => exact c.rxSynSent_queues _
  | synRecv =>
    left
    simp only [Outcome.ok_st, rxSynRecv]
    split_ifs <;> simp
  | estab => exact c.rxEstab_queues _
  | finWait1 => exact c.rxFinWait1_queues _
  | finWait2 => exact c.rxFinWait2_queues _
  | closeWait => exact c.rxCloseWait_queues _
  | closing =>
    left
    simp only [Outcome.ok_st, rxClosing]
    split_ifs <;> simp
  | lastAck =>
    left
    simp only [Outcome.ok_st, rxLastAck]
    split_ifs <;> simp
  | timeWait =>
    left
    simp only [Outcome.ok_st, rxTimeWait]
    split_ifs <;> simp
  | closed => exact Or.inl rfl

/-- **A handler** queues at most a `SEND`. -/
theorem eventsMap_queues (type : TCPEventType) : c.QueuesSend (c.eventsMap type).st := by
  cases type with
  | rxSegment packet => exact c.rx_queues packet
  | connect => exact Or.inl (by simp [eventsMap, activOpen])
  | send => exact Or.inl c.tx_events
  | rtx => exact Or.inl c.prepareRtx.tx_events

theorem eventsMap_fixed (type : TCPEventType) : (c.eventsMap type).st.tcb.fixed = c.tcb.fixed := by
  cases type with
  | rxSegment packet => exact c.rx_fixed packet
  | connect => simp [eventsMap, activOpen]
  | send => exact c.tx_fixed
  | rtx => exact c.prepareRtx.tx_fixed

end Conn

theorem Conn.QueuesSend.sub {c c' : Conn} (h : c.QueuesSend c') {ev : TCPEvent}
    (hev : ev ∈ c.core.events) :
    ev ∈ c'.core.events := by
  rcases h with h | h <;> rw [h]
  · exact hev
  · exact List.mem_append_left _ hev

/-- The timer adds at most an `RTX` to the queue. -/
theorem Core.fireTimer_events (k : Core) (i : Nat) : (k.fireTimer i).events = k.events ∨
    ∃ ref, (k.fireTimer i).events = k.events ++ [⟨.rtx, some ref⟩] := by
  unfold Core.fireTimer
  split
  · exact Or.inl rfl
  · simp only
    split
    · exact Or.inl rfl
    · split
      · next ref _ => exact Or.inr ⟨ref, rfl⟩
      · exact Or.inl rfl

theorem Core.fireTimer_sub (k : Core) (i : Nat) {ev : TCPEvent} (hev : ev ∈ k.events) :
    ev ∈ (k.fireTimer i).events := by
  rcases k.fireTimer_events i with he | ⟨ref, he⟩ <;> rw [he]
  · exact hev
  · exact List.mem_append_left _ hev

/-- What a request of the application leaves alone, and that it queues at most a `SEND`. -/
structure Conn.Requested (c c' : Conn) : Prop where
  ref : c'.tcb.ref = c.tcb.ref
  state : c'.tcb.state = c.tcb.state
  una : c'.tcb.snd.sndUna = c.tcb.snd.sndUna
  max : c'.tcb.snd.sndMax = c.tcb.snd.sndMax
  rtxTimer : c'.tcb.rtxTimer = c.tcb.rtxTimer
  timer : c'.core.timer = c.core.timer
  tcp : c'.core.tcp = c.core.tcp
  queues : c.QueuesSend c'

theorem UserRequest.apply_requested (q : UserRequest) (c : Conn) : c.Requested (q.apply c) := by
  cases q with
  | tcpSend data =>
    simp only [UserRequest.apply, Conn.tcpSend]
    split
    · exact ⟨rfl, rfl, rfl, rfl, rfl, rfl, rfl, Or.inl rfl⟩
    · exact ⟨rfl, rfl, rfl, rfl, rfl, rfl, rfl, Or.inr rfl⟩
  | tcpRecv n =>
    simp only [UserRequest.apply, Conn.tcpRecv]
    split <;> exact ⟨rfl, rfl, rfl, rfl, rfl, rfl, rfl, Or.inl rfl⟩
  | tcpClose => exact ⟨rfl, rfl, rfl, rfl, rfl, rfl, rfl, Or.inr rfl⟩
  | tcpShutdown => exact ⟨rfl, rfl, rfl, rfl, rfl, rfl, rfl, Or.inr rfl⟩
  | tick ns => exact ⟨rfl, rfl, rfl, rfl, rfl, rfl, rfl, Or.inl rfl⟩

/-! ## One step -/

/-- The handlers other than that of `CONNECT` go to a successor state. -/
theorem Conn.eventsMap_next (c : Conn) {type : TCPEventType} (hconn : type.isConnect = false) :
    (c.eventsMap type).st.tcb.state ∈ c.tcb.state.successors := by
  cases type with
  | connect => cases hconn
  | rxSegment packet => exact c.rx_next packet
  | send => exact c.tx_next
  | rtx => exact c.prepareRtx.tx_next

/-- `_ignore_closed_tcp_event`: in `CLOSED` only `CONNECT` does something, but for what `rtx` does
first. -/
theorem Conn.eventsMap_closed {c : Conn} (hs : c.tcb.state = .closed) {type : TCPEventType}
    (hconn : type.isConnect = false) :
    (c.eventsMap type).st = c ∨ (c.eventsMap type).st = c.prepareRtx := by
  cases type with
  | connect => cases hconn
  | rxSegment packet =>
    left
    simp only [eventsMap, rx, hs, Outcome.ok_st]
  | send =>
    left
    simp only [eventsMap, tx, hs, Outcome.ok_st]
  | rtx =>
    right
    have hs' : c.prepareRtx.tcb.state = .closed := hs
    simp only [eventsMap, rtx, tx, hs', Outcome.ok_st]

section Step

variable {o : Outcome}

theorem Outcome.loop_handle {i : Nat} {ev : TCPEvent} (hf : o.fault = none)
    (hev : o.st.core.events[i]? = some ev) :
    o.loop (.handle i) = (o.st.dropEvent i).dispatch ev := by
  simp only [Outcome.loop, hf, hev]

theorem Outcome.loop_handle_eq {i : Nat}
    (h : ¬ (o.fault = none ∧ ∃ ev, o.st.core.events[i]? = some ev)) : o.loop (.handle i) = o := by
  simp only [Outcome.loop]
  split
  · next ev hf hev => exact absurd ⟨hf, ev, hev⟩ h
  · rfl

/-- **The rule for one step of the loop.** A relation between connections that holds of doing
nothing, of a request, of a segment that is queued, of a timer, of an event of another control block
that is dropped, and of a handler run for an event of this one, holds of a step. -/
theorem Outcome.loop_rule {R : Conn → Conn → Prop} (o : Outcome) (e : LoopEvent)
    (hrefl : R o.st o.st) (husr : ∀ q : UserRequest, R o.st (q.apply o.st))
    (harrive : ∀ packet, R o.st (o.st.scheduleEvent (.rxSegment packet)))
    (hfire : ∀ i, R o.st (o.st.onCore (·.fireTimer i)))
    (hdrop : ∀ i ev, o.st.core.events[i]? = some ev → ev.tcpcb ≠ some o.st.tcb.ref →
      R o.st (o.st.dropEvent i))
    (hhandle : ∀ i ev, o.st.core.events[i]? = some ev → ev.tcpcb = some o.st.tcb.ref →
      R o.st ((o.st.dropEvent i).eventsMap ev.type).st) : R o.st (o.loop e).st := by
  cases e with
  | usr q => exact husr q
  | arrive packet => exact harrive packet
  | fire i => exact hfire i
  | handle i =>
    by_cases hlive : o.fault = none ∧ ∃ ev, o.st.core.events[i]? = some ev
    · obtain ⟨hf, ev, hev⟩ := hlive
      rw [Outcome.loop_handle hf hev]
      by_cases hto : ev.tcpcb = some o.st.tcb.ref
      · rw [show (o.st.dropEvent i).dispatch ev =
          (o.st.dropEvent i).eventsMap ev.type from if_pos hto]
        exact hhandle i ev hev hto
      · rw [show (o.st.dropEvent i).dispatch ev = .ok (o.st.dropEvent i) from if_neg hto]
        exact hdrop i ev hev hto
    · rw [Outcome.loop_handle_eq hlive]
      exact hrefl

end Step

/-! ## The `CONNECT` of a connection -/

/-- No `CONNECT` is queued for this control block. -/
def Conn.NoConnect (c : Conn) : Prop :=
  ∀ ev ∈ c.core.events, ev.tcpcb = some c.tcb.ref → ev.type.isConnect = false

section NoConnect

variable {c c' : Conn}

theorem Conn.NoConnect.sub (h : c.NoConnect) (href : c'.tcb.ref = c.tcb.ref)
    (hsub : ∀ ev ∈ c'.core.events, ev.type.isConnect = false ∨ ev ∈ c.core.events) :
    c'.NoConnect := by
  intro ev hev hto
  rw [href] at hto
  exact (hsub ev hev).elim id fun hev => h ev hev hto

theorem Conn.QueuesSend.mem (h : c.QueuesSend c') :
    ∀ ev ∈ c'.core.events, ev.type.isConnect = false ∨ ev ∈ c.core.events := by
  intro ev hev
  rcases h with h | h <;> rw [h] at hev
  · exact Or.inr hev
  · rcases List.mem_append.1 hev with hev | hev
    · exact Or.inr hev
    · rw [List.mem_singleton.1 hev]
      exact Or.inl rfl

theorem Core.fireTimer_mem (k : Core) (i : Nat) :
    ∀ ev ∈ (k.fireTimer i).events, ev.type.isConnect = false ∨ ev ∈ k.events := by
  intro ev hev
  rcases k.fireTimer_events i with he | ⟨ref, he⟩ <;> rw [he] at hev
  · exact Or.inr hev
  · rcases List.mem_append.1 hev with hev | hev
    · exact Or.inr hev
    · rw [List.mem_singleton.1 hev]
      exact Or.inl rfl

theorem Conn.eventsMap_ref (c : Conn) (type : TCPEventType) :
    (c.eventsMap type).st.tcb.ref = c.tcb.ref := congrArg Prod.fst (c.eventsMap_fixed type)

/-- Nothing but `tcp_connect` queues a `CONNECT`. -/
theorem Outcome.loop_mem (o : Outcome) (e : LoopEvent) :
    (o.loop e).st.tcb.ref = o.st.tcb.ref ∧ ∀ ev ∈ (o.loop e).st.core.events,
      ev.type.isConnect = false ∨ ev ∈ o.st.core.events := by
  refine o.loop_rule (R := fun c c' => c'.tcb.ref = c.tcb.ref ∧ ∀ ev ∈ c'.core.events,
    ev.type.isConnect = false ∨ ev ∈ c.core.events) e ⟨rfl, fun _ => Or.inr⟩ ?_ ?_ ?_ ?_ ?_
  · intro q
    have hq := q.apply_requested o.st
    exact ⟨hq.ref, hq.queues.mem⟩
  · intro packet
    refine ⟨rfl, fun ev hev => ?_⟩
    rcases List.mem_append.1 hev with hev | hev
    · exact Or.inr hev
    · rw [List.mem_singleton.1 hev]
      exact Or.inl rfl
  · exact fun i => ⟨rfl, o.st.core.fireTimer_mem i⟩
  · exact fun i ev _ _ => ⟨rfl, fun x hx => Or.inr (List.mem_of_mem_eraseIdx hx)⟩
  · intro i ev _ _
    exact ⟨(o.st.dropEvent i).eventsMap_ref ev.type, fun x hx =>
      (((o.st.dropEvent i).eventsMap_queues ev.type).mem x hx).imp_right List.mem_of_mem_eraseIdx⟩

theorem Outcome.loop_noConnect {o : Outcome} (h : o.st.NoConnect) (e : LoopEvent) :
    (o.loop e).st.NoConnect := h.sub (o.loop_mem e).1 (o.loop_mem e).2

end NoConnect

end Tipy.Tcp
