import Tipy.Tcp.Confined
import Tipy.Tcp.Faults
import Tipy.Tcp.Stack

/-!
# No event stops the event loop

Every queued event has a control block, and its handler returns, as long as four things are avoided:
a segment for a socket that is registered without a control block, a `SEND` or `RTX` handled in
`TIME_WAIT`, options that cannot be read, and data that cannot be sent. The invariant is that
references are to control blocks that were made, none of which is in `LISTEN`; every step that meets
the condition keeps it, and a step that does not breaks what it gives.
-/

namespace Tipy.Tcp

open Tipy.Components Tipy.Lib

/-! ## References of the core -/

/-- Every event has a control block, and every reference of the core is to one of the first `n`. -/
structure Core.RefsBelow (n : Nat) (k : Core) : Prop where
  events : ∀ ev ∈ k.events, ∃ r ∈ ev.tcpcb, r < n
  tasks : ∀ task ∈ k.timer.tasks, ∀ r, task.call = .rtx r → r < n
  table : ∀ id r, k.tcp.tcpcbs id = some r → r < n

namespace Core.RefsBelow

variable {n m : Nat} {k k' : Core}

theorem mono (h : k.RefsBelow n) (hle : n ≤ m) : k.RefsBelow m where
  events ev hev := by
    obtain ⟨r, hr, hlt⟩ := h.events ev hev
    exact ⟨r, hr, hlt.trans_le hle⟩
  tasks task htask r hr := (h.tasks task htask r hr).trans_le hle
  table id r hr := (h.table id r hr).trans_le hle

theorem congr (h : k.RefsBelow n) (hevents : k'.events = k.events) (htimer : k'.timer = k.timer)
    (htable : k'.tcp.tcpcbs = k.tcp.tcpcbs) : k'.RefsBelow n := by
  refine ⟨?_, ?_, ?_⟩
  · rw [hevents]
    exact h.events
  · rw [htimer]
    exact h.tasks
  · rw [htable]
    exact h.table

theorem scheduleEvent (h : k.RefsBelow n) {ev : TCPEvent} (hev : ∃ r ∈ ev.tcpcb, r < n) :
    (k.scheduleEvent ev).RefsBelow n := by
  refine ⟨fun x hx => ?_, h.tasks, h.table⟩
  rcases List.mem_append.1 hx with hx | hx
  · exact h.events x hx
  · rw [List.mem_singleton.1 hx]
    exact hev

/-- What a handler of one of these control blocks leaves. -/
theorem confined {c c' : Conn} (h : c.core.RefsBelow n) (href : c.tcb.ref < n)
    (hc : Conn.Confined c.core c.tcb.ref c') (hq : c.QueuesSend c') : c'.core.RefsBelow n := by
  refine ⟨fun ev hev => ?_, fun task htask r hr => ?_, fun id r hr =>
    h.table id r (hc.table id r hr)⟩
  · rcases hq with hq | hq <;> rw [hq] at hev
    · exact h.events ev hev
    · rcases List.mem_append.1 hev with hev | hev
      · exact h.events ev hev
      · rw [List.mem_singleton.1 hev]
        exact ⟨_, rfl, href⟩
  · rcases hc.tasks task htask r hr with rfl | ⟨x, hx, hxr⟩
    · exact href
    · exact h.tasks x hx r hxr

theorem fireTimer (h : k.RefsBelow n) (i : Nat) : (k.fireTimer i).RefsBelow n := by
  unfold Core.fireTimer
  split
  · exact h
  · next task timer hpop =>
    obtain ⟨htask, htimer⟩ := Timer.popDue_mem hpop
    have h' : (k.setTimer timer).RefsBelow n :=
      ⟨h.events, fun x hx r hr => h.tasks x (htimer x hx) r hr, h.table⟩
    simp only
    split
    · exact h'
    · split
      · next r hr => exact h'.scheduleEvent ⟨r, rfl, h.tasks task htask r hr⟩
      · next id _ =>
        refine ⟨h'.events, h'.tasks, fun id' r hr => h'.table id' r ?_⟩
        simp only [Core.setTcp_tcp, TCPTable.remove] at hr
        by_cases hid : id' = id
        · subst hid
          simp at hr
        · rwa [Function.update_of_ne hid] at hr

end Core.RefsBelow

/-! ## The stack -/

/-- The invariant of the stack. -/
structure Stack.Sound (s : Stack) : Prop where
  tcbs : ∀ (r : Nat) (t : TCPCB), s.tcbs[r]? = some t → t.ref = r ∧ t.state ≠ .listen
  refs : s.core.RefsBelow s.tcbs.length
  fault : s.fault = none

/-- What most steps leave alone. -/
structure Stack.Quiet (s s' : Stack) : Prop where
  tcbs : s'.tcbs = s.tcbs
  events : s'.core.events = s.core.events
  timer : s'.core.timer = s.core.timer
  table : s'.core.tcp.tcpcbs = s.core.tcp.tcpcbs
  fault : s'.fault = s.fault

namespace Stack

variable {s s' s'' : Stack}

theorem Quiet.refl (s : Stack) : s.Quiet s := ⟨rfl, rfl, rfl, rfl, rfl⟩

theorem Quiet.trans (h : s.Quiet s') (h' : s'.Quiet s'') : s.Quiet s'' :=
  ⟨h'.tcbs.trans h.tcbs, h'.events.trans h.events, h'.timer.trans h.timer, h'.table.trans h.table,
    h'.fault.trans h.fault⟩

theorem Sound.quiet (h : s.Sound) (hq : s.Quiet s') : s'.Sound where
  tcbs := by
    rw [hq.tcbs]
    exact h.tcbs
  refs := by
    rw [hq.tcbs]
    exact h.refs.congr hq.events hq.timer hq.table
  fault := hq.fault.trans h.fault

theorem tcpBind_quiet (s : Stack) (so : Nat) (x : TCPSocket) (address : Option Nat) (port : Nat) :
    s.Quiet (s.tcpBind so x address port) := by
  cases address with
  | none => exact ⟨rfl, rfl, rfl, rfl, rfl⟩
  | some ip =>
    simp only [tcpBind]
    split_ifs <;> exact ⟨rfl, rfl, rfl, rfl, rfl⟩

theorem connectRegister_quiet (s : Stack) (so : Nat) (x : TCPSocket) (old : Option SockId) :
    s.Quiet (s.connectRegister so x old) := by
  unfold connectRegister
  split
  · exact ⟨rfl, rfl, rfl, rfl, rfl⟩
  · cases old <;> exact ⟨rfl, rfl, rfl, rfl, rfl⟩

theorem tcpConnect_quiet (s : Stack) (so : Nat) (x : TCPSocket) (address : Option Nat)
    (port picked : Nat) : s.Quiet (s.tcpConnect so x address port picked) := by
  cases address with
  | none => exact ⟨rfl, rfl, rfl, rfl, rfl⟩
  | some ip =>
    simp only [tcpConnect]
    split_ifs
    · have hpick : s.Quiet { s with usedPorts := s.usedPorts ++ [picked] } :=
        ⟨rfl, rfl, rfl, rfl, rfl⟩
      exact hpick.trans (connectRegister_quiet _ _ _ _)
    · exact ⟨rfl, rfl, rfl, rfl, rfl⟩
    · exact connectRegister_quiet _ _ _ _

theorem timeout_quiet (s : Stack) (k : Nat) : s.Quiet (s.timeout k) := by
  unfold timeout
  split
  · exact ⟨rfl, rfl, rfl, rfl, rfl⟩
  · exact .refl s

/-- The control block at place `r` is replaced. -/
theorem Sound.set (h : s.Sound) {r : Nat} {c d : Conn} (hc : s.tcbs[r]? = some c.tcb)
    (hstate : d.tcb.state ≠ .listen) (href : d.tcb.ref = c.tcb.ref)
    (hcore : d.core.RefsBelow s.tcbs.length) (htcbs : s'.tcbs = s.tcbs.set r d.tcb)
    (hcore' : s'.core = d.core) (hfault : s'.fault = none) : s'.Sound where
  tcbs r' t ht := by
    rw [htcbs] at ht
    by_cases hr : r = r'
    · subst hr
      have hlt : r < s.tcbs.length := (List.getElem?_eq_some_iff.1 hc).1
      rw [List.getElem?_set_self hlt] at ht
      cases ht
      exact ⟨href.trans (h.tcbs r _ hc).1, hstate⟩
    · rw [List.getElem?_set_ne hr] at ht
      exact h.tcbs r' t ht
  refs := by
    rw [htcbs, hcore', List.length_set]
    exact hcore
  fault := hfault

/-- A thread of the application does something to a control block. -/
theorem Sound.onTcb (h : s.Sound) (r : Nat) {f : Conn → Conn}
    (hf : ∀ c : Conn, c.Requested (f c)) :
    (s.onTcb r f).Sound := by
  unfold Stack.onTcb
  split
  · next t ht =>
    obtain ⟨href, hl⟩ := h.tcbs r t ht
    have hq := hf ⟨t, s.core⟩
    have hlt : t.ref < s.tcbs.length := href ▸ (List.getElem?_eq_some_iff.1 ht).1
    refine h.set (c := ⟨t, s.core⟩) (d := f ⟨t, s.core⟩) ht (hq.state ▸ hl) hq.ref ?_
      rfl rfl h.fault
    exact h.refs.confined (c := ⟨t, s.core⟩) hlt
      (.congr (.refl _) hq.ref hq.timer hq.tcp) hq.queues
  · exact h

theorem Sound.sendTurn (h : s.Sound) (so r : Nat) (data : List UInt8) (dlen : Int) :
    (s.sendTurn so r data dlen).Sound := by
  have h' := h.onTcb r (f := (·.tcpSend data)) (UserRequest.tcpSend data).apply_requested
  unfold Stack.sendTurn
  split
  · simp only
    split
    · exact h'.quiet ⟨rfl, rfl, rfl, rfl, rfl⟩
    · exact h'
  · exact h

theorem Sound.tcpSend (h : s.Sound) (so : Nat) (x : TCPSocket) (data : List UInt8) :
    (s.tcpSend so x data).Sound := by
  unfold Stack.tcpSend
  split
  · exact h
  · split
    · exact h.quiet ⟨rfl, rfl, rfl, rfl, rfl⟩
    · split
      · exact h
      · exact h.sendTurn _ _ _ _

theorem Sound.tcpRecv (h : s.Sound) (so : Nat) (x : TCPSocket) (bufsize : Nat) :
    (s.tcpRecv so x bufsize).Sound := by
  unfold Stack.tcpRecv
  split
  · exact h
  · split
    · exact h.quiet ⟨rfl, rfl, rfl, rfl, rfl⟩
    · split
      · split_ifs
        · exact h
        · exact h.quiet ⟨rfl, rfl, rfl, rfl, rfl⟩
        · exact h.onTcb _ (UserRequest.tcpRecv bufsize).apply_requested
      · exact h

theorem Sound.tcpClose (h : s.Sound) (x : TCPSocket) : (s.tcpClose x).Sound := by
  unfold Stack.tcpClose
  split
  · exact h.quiet ⟨rfl, rfl, rfl, rfl, rfl⟩
  · exact h.onTcb _ UserRequest.tcpClose.apply_requested

theorem Sound.tcpShutdown (h : s.Sound) (so : Nat) (x : TCPSocket) :
    (s.tcpShutdown so x).Sound := by
  unfold Stack.tcpShutdown
  split
  · exact h.quiet ⟨rfl, rfl, rfl, rfl, rfl⟩
  · exact h.onTcb _ UserRequest.tcpShutdown.apply_requested

/-- A new control block, with its `CONNECT`. -/
theorem Sound.connectTcpcb (h : s.Sound) (so : Nat) (x : TCPSocket) (iss : Nat) :
    (s.connectTcpcb so x iss).Sound := by
  have hlen : (s.connectTcpcb so x iss).tcbs.length = s.tcbs.length + 1 := by
    simp [Stack.connectTcpcb, registerTcpcb]
  refine ⟨fun r t ht => ?_, ?_, h.fault⟩
  · simp only [Stack.connectTcpcb, registerTcpcb, onCore_tcbs] at ht
    rcases Nat.lt_or_ge r s.tcbs.length with hlt | hge
    · rw [List.getElem?_append_left hlt] at ht
      exact h.tcbs r t ht
    · rw [List.getElem?_append_right hge, List.getElem?_singleton] at ht
      split at ht
      · next hr =>
        cases ht
        exact ⟨by simp only [TCPCB.new]; omega, by simp [TCPCB.new]⟩
      · cases ht
  · rw [hlen]
    refine Core.RefsBelow.scheduleEvent ⟨?_, ?_, fun id r hr => ?_⟩ ⟨_, rfl, Nat.lt_succ_self _⟩
    · exact (h.refs.mono (Nat.le_succ _)).events
    · exact (h.refs.mono (Nat.le_succ _)).tasks
    · simp only [registerTcpcb, onCore_core, Core.setTcp_tcp] at hr
      by_cases hid : id = x.sockId
      · subst hid
        rw [Function.update_self] at hr
        cases hr
        exact Nat.lt_succ_self _
      · rw [Function.update_of_ne hid] at hr
        exact (h.refs.mono (Nat.le_succ _)).table id r hr

theorem Sound.resume (h : s.Sound) (k iss : Nat) : (s.resume k iss).Sound := by
  unfold Stack.resume
  split
  · exact h
  · have h' : ({ s with calls := s.calls.eraseIdx k } : Stack).Sound :=
      h.quiet ⟨rfl, rfl, rfl, rfl, rfl⟩
    simp only
    split
    · next so _ =>
      cases s.sockets[so]? with
      | none => exact h'
      | some x => exact h'.connectTcpcb so x iss
    · split
      · exact h'
      · exact h'.sendTurn _ _ _ _
    · exact h'.onTcb _ fun c => ⟨rfl, rfl, rfl, rfl, rfl, rfl, rfl, Or.inl rfl⟩

end Stack

/-! ## Handling an event -/

/-- What the handler of an event needs of its control block. -/
def TCPCB.Handles (t : TCPCB) : TCPEventType → Prop
  | .rxSegment packet => t.ReadsOptions packet.segment
  | .connect => True
  | .send => t.state ≠ .timeWait ∧ t.Sends
  | .rtx => t.state ≠ .timeWait ∧ (t.setSnd (rollbackToUna t.snd)).Sends

/-- **A handler returns** exactly when its control block has what it needs. -/
theorem eventsMap_fault_iff {c : Conn} (hl : c.tcb.state ≠ .listen) (type : TCPEventType) :
    (c.eventsMap type).fault = none ↔ c.tcb.Handles type := by
  cases type with
  | rxSegment packet => exact rx_fault_iff hl packet
  | connect => exact iff_of_true rfl trivial
  | send => exact tx_fault_iff hl
  | rtx => exact tx_fault_iff (c := c.prepareRtx) hl

/-- No handler leads to `LISTEN`. -/
theorem eventsMap_ne_listen {c : Conn} (hl : c.tcb.state ≠ .listen) (type : TCPEventType) :
    (c.eventsMap type).st.tcb.state ≠ .listen := by
  have hnext : ∀ {s s' : STATES}, s ≠ .listen → s' ∈ s.successors → s' ≠ .listen := by
    intro s s'
    cases s <;> cases s' <;> decide
  cases type with
  | rxSegment packet => exact hnext hl (c.rx_next packet)
  | connect => simp [Conn.eventsMap, Conn.activOpen]
  | send => exact hnext hl c.tx_next
  | rtx => exact hnext (s := c.prepareRtx.tcb.state) hl c.prepareRtx.tx_next

namespace Stack

variable {s : Stack}

/-- The condition on a step. A segment finds no socket without a control block, and an event is
handled only when its control block has what the handler needs. -/
def Admits (s : Stack) : StackEvent → Prop
  | .rxTcp src dst packet =>
    s.core.tcp.sockets ⟨dst, packet.dst, src, packet.src⟩ ≠ none →
      s.core.tcp.tcpcbs ⟨dst, packet.dst, src, packet.src⟩ ≠ none
  | .handle i => ∀ ev ∈ s.core.events[i]?, ∀ r ∈ ev.tcpcb, ∀ t ∈ s.tcbs[r]?, t.Handles ev.type
  | _ => True

/-- The event loop is alive, and every event in its queue carries a control block. -/
def Alive (s : Stack) : Prop :=
  s.fault = none ∧ ∀ ev ∈ s.core.events, ∃ r ∈ ev.tcpcb, (s.tcbs[r]?).isSome

instance (s : Stack) : Decidable s.Alive := inferInstanceAs (Decidable (_ ∧ _))

theorem Sound.alive (h : s.Sound) : s.Alive := by
  refine ⟨h.fault, fun ev hev => ?_⟩
  obtain ⟨r, hr, hlt⟩ := h.refs.events ev hev
  exact ⟨r, hr, by simp [hlt]⟩

/-- The event at place `i` of a sound stack, with its control block. -/
theorem Sound.event (h : s.Sound) {i : Nat} {ev : TCPEvent} (hev : s.core.events[i]? = some ev) :
    ∃ r t, ev.tcpcb = some r ∧ s.tcbs[r]? = some t := by
  obtain ⟨r, hr, hlt⟩ := h.refs.events ev (List.mem_of_getElem? hev)
  exact ⟨r, s.tcbs[r], hr, List.getElem?_eq_getElem hlt⟩

/-- The connection the handler runs on: the event is off the queue. -/
def connAt (s : Stack) (i : Nat) (t : TCPCB) : Conn :=
  ⟨t, { s.core with events := s.core.events.eraseIdx i }⟩

theorem Sound.handle_eq (h : s.Sound) {i r : Nat} {ev : TCPEvent} {t : TCPCB}
    (hev : s.core.events[i]? = some ev) (hr : ev.tcpcb = some r) (ht : s.tcbs[r]? = some t) :
    s.handle i = { s with
      tcbs := s.tcbs.set r ((s.connAt i t).eventsMap ev.type).st.tcb
      core := ((s.connAt i t).eventsMap ev.type).st.core
      fault := ((s.connAt i t).eventsMap ev.type).fault } := by
  simp only [Stack.handle, h.fault, hev, hr, onCore_tcbs, ht]
  rfl

theorem Sound.handle (h : s.Sound) {i : Nat} (hadm : s.Admits (.handle i)) :
    (s.handle i).Sound := by
  cases hev : s.core.events[i]? with
  | none =>
    have hsame : s.handle i = s := by simp only [Stack.handle, h.fault, hev]
    rw [hsame]
    exact h
  | some ev =>
    obtain ⟨r, t, hr, ht⟩ := h.event hev
    obtain ⟨href, hl⟩ := h.tcbs r t ht
    have hlt : t.ref < s.tcbs.length := href ▸ (List.getElem?_eq_some_iff.1 ht).1
    have hrefs : (s.connAt i t).core.RefsBelow s.tcbs.length :=
      ⟨fun x hx => h.refs.events x (List.mem_of_mem_eraseIdx hx), h.refs.tasks, h.refs.table⟩
    rw [h.handle_eq hev hr ht]
    refine h.set (c := s.connAt i t) ht (eventsMap_ne_listen hl _)
      (congrArg Prod.fst ((s.connAt i t).eventsMap_fixed ev.type)) ?_ rfl rfl
      ((eventsMap_fault_iff hl _).2 (hadm ev hev r hr t ht))
    exact hrefs.confined hlt (.eventsMap _ _) ((s.connAt i t).eventsMap_queues ev.type)

theorem Sound.rxTcp (h : s.Sound) (src dst : Nat) (packet : TCPParser)
    (hadm : s.Admits (.rxTcp src dst packet)) : (s.rxTcp src dst packet).Sound := by
  unfold Stack.rxTcp
  simp only
  split
  · next hsock =>
    obtain ⟨r, hr⟩ := Option.ne_none_iff_exists'.1 (hadm hsock)
    exact ⟨h.tcbs, h.refs.scheduleEvent ⟨r, hr, h.refs.table _ r hr⟩, h.fault⟩
  · exact h.quiet ⟨rfl, rfl, rfl, rfl, rfl⟩

/-- **One step** that meets the condition keeps the invariant. -/
theorem Sound.step (h : s.Sound) {e : StackEvent} (hadm : s.Admits e) : (s.step e).Sound := by
  have hso : ∀ (so : Nat) {f : TCPSocket → Stack}, (∀ x, (f x).Sound) →
      (s.sockets[so]?.elim s f).Sound := by
    intro so f hf
    cases s.sockets[so]? with
    | none => exact h
    | some x => exact hf x
  cases e with
  | socket => exact h.quiet ⟨rfl, rfl, rfl, rfl, rfl⟩
  | setsockopt so l => exact hso so fun x => h.quiet ⟨rfl, rfl, rfl, rfl, rfl⟩
  | bind so address port => exact hso so fun x => h.quiet (s.tcpBind_quiet so x address port)
  | connect so address port picked =>
    exact hso so fun x => h.quiet (s.tcpConnect_quiet so x address port picked)
  | send so data => exact hso so fun x => h.tcpSend so x data
  | recv so bufsize => exact hso so fun x => h.tcpRecv so x bufsize
  | close so => exact hso so fun x => h.tcpClose x
  | shutdown so => exact hso so fun x => h.tcpShutdown so x
  | resume k iss => exact h.resume k iss
  | timeout k => exact h.quiet (s.timeout_quiet k)
  | rxTcp src dst packet => exact h.rxTcp src dst packet hadm
  | fire i => exact ⟨h.tcbs, h.refs.fireTimer i, h.fault⟩
  | handle i => exact h.handle hadm
  | tick ns => exact h.quiet ⟨rfl, rfl, rfl, rfl, rfl⟩

/-- A step off the condition stops the event loop, or queues an event without a control block. -/
theorem Sound.admits_of_alive (h : s.Sound) {e : StackEvent} (halive : (s.step e).Alive) :
    s.Admits e := by
  cases e with
  | rxTcp src dst packet =>
    intro hsock
    have hmem :
      (⟨.rxSegment packet, s.core.tcp.tcpcbs ⟨dst, packet.dst, src, packet.src⟩⟩ : TCPEvent) ∈
        (s.rxTcp src dst packet).core.events := by
      simp only [Stack.rxTcp, if_pos hsock]
      exact List.mem_append_right _ (List.mem_singleton_self _)
    obtain ⟨r, hr, -⟩ := halive.2 _ hmem
    exact Option.ne_none_iff_exists'.2 ⟨r, hr⟩
  | handle i =>
    intro ev hev r hr t ht
    have hf := halive.1
    simp only [Stack.step, h.handle_eq hev hr ht] at hf
    exact (eventsMap_fault_iff (c := s.connAt i t) (h.tcbs r t ht).2 _).1 hf
  | _ => trivial

theorem new_sound (ip : Option Nat) : (Stack.new ip).Sound :=
  ⟨by simp [Stack.new], ⟨by simp [Stack.new, Core.idle], by simp [Stack.new, Core.idle, Timer.new],
    by simp [Stack.new, Core.idle]⟩, rfl⟩

end Stack

end Tipy.Tcp
