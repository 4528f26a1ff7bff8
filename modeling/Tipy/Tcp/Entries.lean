import Tipy.Tcp.Dispatch

/-!
# One table entry per live socket

`TCPTable` maps a socket id to a socket and to a control block, and both maps are changed by key: a
registration overwrites what is there, and `update_socket`, `remove_socket` and `remove_tcpcb` take
out whatever they find. Nothing keeps two sockets from using one id. Explicit binds and ephemeral
picks draw from two sets that do not know of each other, a bind that fails leaves its port behind,
and an earlier connection of the id may still end, at the latest by its `TIME_WAIT` timer.

`TableRun` keeps next to the stack what each socket should have in the tables. `entries_kept` says
that it has it in every state of a run in which no id is taken while another live socket has it, or
while an earlier connection with it can still end.
-/

namespace Tipy.Tcp

open Tipy.Components Tipy.Lib

/-- What a socket should have in the tables. -/
inductive Holding where
  | nothing
  | bound
  /-- registered by `tcp_connect`, the control block not made yet -/
  | connecting
  | connected (tcpcb : Nat)
deriving Repr, DecidableEq

/-- What is left when the connections of some control blocks end. -/
def Holding.endBy (ends : Nat → Bool) : Holding → Holding
  | .connected r => if ends r then .nothing else .connected r
  | h => h

theorem Holding.endBy_cases (ends : Nat → Bool) (h : Holding) :
    (h.endBy ends = h ∧ ∀ r, h = .connected r → ends r = false) ∨ h.endBy ends = .nothing := by
  cases h with
  | nothing => exact .inr rfl
  | bound => exact .inl ⟨rfl, fun r hr => by cases hr⟩
  | connecting => exact .inl ⟨rfl, fun r hr => by cases hr⟩
  | connected r =>
    simp only [endBy]
    cases hends : ends r with
    | true => exact .inr rfl
    | false => exact .inl ⟨rfl, fun r' hr' => Holding.connected.inj hr' ▸ hends⟩

/-- The socket has in the tables, under the id, what it should have. -/
def TCPTable.Has (tcp : TCPTable) (so : Nat) (id : SockId) : Holding → Prop
  | .nothing => True
  | .bound | .connecting => tcp.sockets id = some so
  | .connected r => tcp.sockets id = some so ∧ tcp.tcpcbs id = some r

instance (tcp : TCPTable) (so : Nat) (id : SockId) : (h : Holding) → Decidable (tcp.Has so id h)
  | .nothing => .isTrue trivial
  | .bound | .connecting => inferInstanceAs (Decidable (_ = _))
  | .connected _ => inferInstanceAs (Decidable (_ ∧ _))

namespace Stack

variable (s : Stack)

/-- The id under which a bind will register its socket, when it gets through. -/
def bindId (so : Nat) (x : TCPSocket) (address : Option Nat) (port : Nat) : Option SockId :=
  address.bind fun ip =>
    if some ip = s.unicastIp ∧ s.core.soError so = none ∧
        ¬ (1 ≤ x.localPort ∧ x.localPort < 65535) ∧ (ip, port) ∉ s.boundSockets then
      some ⟨ip, port, x.remoteIp, x.remotePort⟩
    else none

/-- The id under which a connect will register its socket, when it gets through. -/
def connectId (x : TCPSocket) (address : Option Nat) (port picked : Nat) : Option SockId :=
  address.bind fun ip =>
    if x.localPort = 0 then
      if EphemeralPort picked ∧ picked ∉ s.usedPorts then
        s.unicastIp.map fun a => ⟨a, picked, ip, port⟩
      else none
    else x.localIp.map fun a => ⟨a, x.localPort, ip, port⟩

def sockIdOf (so : Nat) : Option SockId := s.sockets[so]?.map (·.sockId)

/-- The control block is closed and no `CONNECT` is queued for it: it never ends again. -/
def Over (tcb : TCPCB) : Prop :=
  tcb.state = .closed ∧ ∀ ev ∈ s.core.events, ev.tcpcb = some tcb.ref → ev.type.isConnect = false

instance (tcb : TCPCB) : Decidable (s.Over tcb) := inferInstanceAs (Decidable (_ ∧ _))

/-- The event at place `i` belongs to the control block `r`, and its handler closes the connection
or takes its entries out. -/
def EndsByEvent (i r : Nat) : Bool :=
  match s.core.events[i]?, s.tcbs[r]?, (s.handle i).tcbs[r]? with
  | some ev, some t, some t' =>
    decide (ev.tcpcb = some r) &&
      (decide (t.state ≠ .closed ∧ t'.state = .closed) ||
        decide ((s.handle i).core.tcp.sockets t.socketId ≠ s.core.tcp.sockets t.socketId) ||
        decide ((s.handle i).core.tcp.tcpcbs t.socketId ≠ s.core.tcp.tcpcbs t.socketId))
  | _, _, _ => false

/-- The timer at place `i` ends the `TIME_WAIT` of the control block `r`. -/
def EndsByTimer (i r : Nat) : Bool :=
  match s.core.timer.popDue (s.core.nowNs / 1000000) i, s.tcbs[r]? with
  | some (task, _), some t =>
    !task.deleted && decide (task.call = .removeTcpcb t.socketId) && t.timeWaitTimer.isSome
  | _, _ => false

end Stack

/-- The stack, and what its sockets should have in the tables. -/
structure TableRun where
  stack : Stack
  holding : Nat → Holding

namespace TableRun

variable (t : TableRun)

def new (ip : Option Nat) : TableRun := ⟨.new ip, fun _ => .nothing⟩

/-- What the sockets should have after a step. A socket takes by a bind or a connect that gets
through, and gives up by its close and by the end of its own connection. -/
def held : StackEvent → Nat → Holding
  | .bind so address port =>
    match t.stack.sockets[so]?.bind fun x => t.stack.bindId so x address port with
    | some _ => Function.update t.holding so .bound
    | none => t.holding
  | .connect so address port picked =>
    match t.stack.sockets[so]?.bind fun x => t.stack.connectId x address port picked with
    | some _ => Function.update t.holding so .connecting
    | none => t.holding
  | .close so => Function.update t.holding so .nothing
  | .resume k _ =>
    match t.stack.calls[k]? with
    | some (.connecting so) =>
      if t.holding so = .nothing then t.holding
      else Function.update t.holding so (.connected t.stack.tcbs.length)
    | _ => t.holding
  | .handle i => fun so => (t.holding so).endBy (t.stack.EndsByEvent i)
  | .fire i => fun so => (t.holding so).endBy (t.stack.EndsByTimer i)
  | _ => t.holding

def step (e : StackEvent) : TableRun := ⟨t.stack.step e, t.held e⟩

/-- Every socket has its entries under its own id. -/
def EntriesKept : Prop :=
  ∀ so id, t.stack.sockIdOf so = some id → t.stack.core.tcp.Has so id (t.holding so)

/-- No other live socket has the id. -/
def Unheld (so : Nat) (id : SockId) : Prop :=
  ∀ so' ∈ List.range t.stack.sockets.length, so' ≠ so → t.holding so' ≠ .nothing →
    t.stack.sockIdOf so' ≠ some id

/-- The id is free for the socket: no other live socket has it, every earlier connection with it is
over, and no timer is to remove it. -/
def Free (so : Nat) (id : SockId) : Prop :=
  t.Unheld so id ∧ (∀ tcb ∈ t.stack.tcbs, tcb.socketId = id → t.stack.Over tcb) ∧
    ∀ task ∈ t.stack.core.timer.tasks, task.deleted = false → task.call ≠ .removeTcpcb id

/-- The id of a connect that makes its control block is still free, and that of the socket's
addresses. -/
def MayOpen : Option Call → Prop
  | some (.connecting so) => ∀ x ∈ t.stack.sockets[so]?,
    x.sockId = ⟨x.localIp.getD 0, x.localPort, x.remoteIp, x.remotePort⟩ ∧ t.Free so x.sockId
  | _ => True

/-- The condition on a step. A bind and a connect take an id that is free, a bind on a socket that
has no connection; the id `(ip, port, 0, 0)` that a connect of a bound socket takes out is that of
no other live socket; the id is still free, and still that of the socket's addresses, when the
control block is made; and a close that finds no control block finds no other live socket under the
id. -/
def Apart : StackEvent → Prop
  | .bind so address port => ∀ x ∈ t.stack.sockets[so]?, ∀ id ∈ t.stack.bindId so x address port,
    t.Free so id ∧ (t.holding so = .nothing ∨ t.holding so = .bound)
  | .connect so address port picked => ∀ x ∈ t.stack.sockets[so]?,
    ∀ id ∈ t.stack.connectId x address port picked,
      t.Free so id ∧ (x.localPort ≠ 0 → t.Unheld so ⟨id.localIp, id.localPort, 0, 0⟩)
  | .resume k _ => t.MayOpen t.stack.calls[k]?
  | .close so => ∀ x ∈ t.stack.sockets[so]?, t.stack.core.tcp.tcpcbs x.sockId = none →
    t.Unheld so x.sockId
  | _ => True

instance (so : Nat) (id : SockId) : Decidable (t.Unheld so id) :=
  inferInstanceAs (Decidable (∀ so' ∈ List.range _, _ → _ → _ ≠ _))

instance (so : Nat) (id : SockId) : Decidable (t.Free so id) :=
  inferInstanceAs (Decidable (_ ∧ (∀ tcb ∈ t.stack.tcbs, _ → _) ∧ ∀ task ∈ _, _ → _ ≠ _))

instance : (call : Option Call) → Decidable (t.MayOpen call)
  | some (.connecting so) =>
    inferInstanceAs (Decidable (∀ x ∈ t.stack.sockets[so]?, _ = _ ∧ t.Free so _))
  | some (.sending _ _ _ _) | some (.receiving _ _ _) | none => .isTrue trivial

instance : (e : StackEvent) → Decidable (t.Apart e)
  | .bind so address port =>
    inferInstanceAs (Decidable (∀ x ∈ t.stack.sockets[so]?, ∀ id ∈ t.stack.bindId so x address port,
      t.Free so id ∧ (_ = _ ∨ _ = _)))
  | .connect so address port picked =>
    inferInstanceAs (Decidable (∀ x ∈ t.stack.sockets[so]?,
      ∀ id ∈ t.stack.connectId x address port picked, t.Free so id ∧ (_ → t.Unheld so _)))
  | .resume k _ => inferInstanceAs (Decidable (t.MayOpen t.stack.calls[k]?))
  | .close so => inferInstanceAs (Decidable (∀ x ∈ t.stack.sockets[so]?, _ → t.Unheld so x.sockId))
  | .socket | .setsockopt _ _ | .send _ _ | .recv _ _ | .shutdown _ | .timeout _ | .rxTcp _ _ _
  | .fire _ | .handle _ | .tick _ => .isTrue trivial

end TableRun

/-! ## What a handler does to the tables -/

/-- From a control block with the id `id` and the core `k` on: either the tables are as they were, a
`time_wait_timer` that was there still is, and a task that removes an entry is an old one or that of
this timer; or the entries of the id are taken out. -/
inductive Conn.TableEffect (k : Core) (t₀ : TCPCB) (c : Conn) : Prop where
  | same (tcp : c.core.tcp = k.tcp)
      (armed : t₀.timeWaitTimer ≠ none → c.tcb.timeWaitTimer ≠ none)
      (tasks : ∀ task ∈ c.core.timer.tasks, task.deleted = false →
        ∀ id, task.call = .removeTcpcb id →
        (∃ x ∈ k.timer.tasks, x.deleted = false ∧ x.call = .removeTcpcb id) ∨
          (id = t₀.socketId ∧ c.tcb.timeWaitTimer ≠ none))
  | removed (tcp : c.core.tcp = k.tcp.remove t₀.socketId)
      (tasks : ∀ task ∈ c.core.timer.tasks, task.deleted = false →
        ∀ id, task.call = .removeTcpcb id →
        (∃ x ∈ k.timer.tasks, x.deleted = false ∧ x.call = .removeTcpcb id) ∨ id = t₀.socketId)

namespace Conn.TableEffect

variable {k : Core} {t₀ : TCPCB} {c c' : Conn}

theorem refl (c : Conn) : TableEffect c.core c.tcb c :=
  .same rfl (fun h => h) fun task htask hdel _ hcall => .inl ⟨task, htask, hdel, hcall⟩

/-- A helper that leaves the tables and the `time_wait_timer` alone, and adds no task that removes.
-/
theorem mono (h : TableEffect k t₀ c) (htcp : c'.core.tcp = c.core.tcp)
    (harmed : c.tcb.timeWaitTimer ≠ none → c'.tcb.timeWaitTimer ≠ none)
    (htasks : ∀ task ∈ c'.core.timer.tasks, task.deleted = false →
    ∀ id, task.call = .removeTcpcb id →
      (∃ x ∈ c.core.timer.tasks, x.deleted = false ∧ x.call = .removeTcpcb id) ∨
        (id = t₀.socketId ∧ c'.tcb.timeWaitTimer ≠ none)) : TableEffect k t₀ c' := by
  cases h with
  | same tcp armed tasks =>
    refine .same (htcp.trans tcp) (harmed ∘ armed) fun task htask hdel id hcall => ?_
    rcases htasks task htask hdel id hcall with ⟨x, hx, hxd, hxc⟩ | hnew
    · exact (tasks x hx hxd id hxc).imp_right fun h => ⟨h.1, harmed h.2⟩
    · exact .inr hnew
  | removed tcp tasks =>
    refine .removed (htcp.trans tcp) fun task htask hdel id hcall => ?_
    rcases htasks task htask hdel id hcall with ⟨x, hx, hxd, hxc⟩ | hnew
    · exact tasks x hx hxd id hxc
    · exact .inr hnew.1

/-- The tasks of a timer that is not marked stay tasks that are not marked. -/
theorem mem_remove {timer : Timer TimerCall} {n : Nat} {task : TimerTask TimerCall}
    (htask : task ∈ (timer.remove n).tasks) (hdel : task.deleted = false) :
    ∃ x ∈ timer.tasks, x.deleted = false ∧ x.call = task.call := by
  obtain ⟨x, hx, rfl⟩ := List.mem_map.1 htask
  refine ⟨x, hx, ?_⟩
  split at hdel
  · exact absurd hdel (by simp)
  · next hne => simp [hdel, hne]

theorem removeTimer (h : TableEffect k t₀ c) (n : Option Nat) (htcp : c'.core.tcp = c.core.tcp)
    (hwait : c'.tcb.timeWaitTimer = c.tcb.timeWaitTimer)
    (htimer : c'.core.timer = (c.removeTimer n).core.timer) : TableEffect k t₀ c' := by
  refine h.mono htcp (hwait ▸ fun h => h) fun task htask hdel id hcall => .inl ?_
  rw [htimer] at htask
  cases n with
  | none => exact ⟨task, htask, hdel, hcall⟩
  | some n =>
    obtain ⟨x, hx, hxd, hxc⟩ := mem_remove htask hdel
    exact ⟨x, hx, hxd, hxc.trans hcall⟩

/-- A task of the retransmission timer. -/
theorem scheduleRtx (h : TableEffect k t₀ c) (ref : Nat) (after : ℚ)
    (htcp : c'.core.tcp = c.core.tcp) (hwait : c'.tcb.timeWaitTimer = c.tcb.timeWaitTimer)
    (htimer : c'.core.timer = (c.core.scheduleTimer after (.rtx ref)).2.timer) :
    TableEffect k t₀ c' := by
  refine h.mono htcp (hwait ▸ fun h => h) fun task htask hdel id hcall => .inl ?_
  rw [htimer] at htask
  rcases List.mem_append.1 htask with htask | htask
  · exact ⟨task, htask, hdel, hcall⟩
  · rw [List.mem_singleton.1 htask] at hcall
    exact absurd hcall (by simp)

theorem startTimeWaitTimer (h : TableEffect k t₀ c) (hid : c.tcb.socketId = t₀.socketId) :
    TableEffect k t₀ c.startTimeWaitTimer := by
  refine h.mono rfl (fun _ => by simp) fun task htask hdel id hcall => ?_
  rcases List.mem_append.1 htask with htask | htask
  · exact .inl ⟨task, htask, hdel, hcall⟩
  · rw [List.mem_singleton.1 htask] at hcall
    have hcall : TimerCall.removeTcpcb c.tcb.socketId = .removeTcpcb id := hcall
    exact .inr ⟨(TimerCall.removeTcpcb.inj hcall).symm.trans hid, by simp⟩

/-- Stopping the `TIME_WAIT` timer and starting it again at once. -/
theorem restartTimeWaitTimer (h : TableEffect k t₀ c) (hid : c.tcb.socketId = t₀.socketId) :
    TableEffect k t₀ c.stopTimeWaitTimer.startTimeWaitTimer := by
  refine h.mono (by simp) (fun _ => by simp) fun task htask hdel id hcall => ?_
  rcases List.mem_append.1 htask with htask | htask
  · left
    have htask : task ∈ (c.removeTimer c.tcb.timeWaitTimer).core.timer.tasks := htask
    cases hn : c.tcb.timeWaitTimer with
    | none =>
      rw [hn] at htask
      exact ⟨task, htask, hdel, hcall⟩
    | some n =>
      rw [hn] at htask
      obtain ⟨x, hx, hxd, hxc⟩ := mem_remove htask hdel
      exact ⟨x, hx, hxd, hxc.trans hcall⟩
  · rw [List.mem_singleton.1 htask] at hcall
    have hcall : TimerCall.removeTcpcb c.tcb.socketId = .removeTcpcb id := by simpa using hcall
    exact .inr ⟨(TimerCall.removeTcpcb.inj hcall).symm.trans hid, by simp⟩

/-- The end that all aborts share. -/
theorem tearDown (h : TableEffect k t₀ c) (hid : c.tcb.socketId = t₀.socketId) :
    TableEffect k t₀ c.stopAllTimers.removeTcpcb := by
  have hsub : ∀ task ∈ c.stopAllTimers.removeTcpcb.core.timer.tasks, task.deleted = false →
      ∃ x ∈ c.core.timer.tasks, x.deleted = false ∧ x.call = task.call := by
    intro task htask hdel
    have hstop : ∀ (d : Conn) (n : Option Nat), ∀ task ∈ (d.removeTimer n).core.timer.tasks,
        task.deleted = false → ∃ x ∈ d.core.timer.tasks, x.deleted = false ∧
            x.call = task.call := by
      intro d n task htask hdel
      cases n with
      | none => exact ⟨task, htask, hdel, rfl⟩
      | some n => exact mem_remove htask hdel
    obtain ⟨x, hx, hxd, hxc⟩ := hstop c.stopRtxTimer _ task htask hdel
    obtain ⟨y, hy, hyd, hyc⟩ := hstop c _ x hx hxd
    exact ⟨y, hy, hyd, hyc.trans hxc⟩
  have hid' : c.stopAllTimers.tcb.socketId = t₀.socketId := by simpa [stopAllTimers] using hid
  have htcp : c.stopAllTimers.core.tcp = c.core.tcp := by simp [stopAllTimers]
  cases h with
  | same tcp _ tasks =>
    refine .removed ?_ fun task htask hdel id hcall => ?_
    · rw [removeTcpcb_core, Core.setTcp_tcp, hid', htcp, tcp]
    · obtain ⟨x, hx, hxd, hxc⟩ := hsub task htask hdel
      exact (tasks x hx hxd id (hxc.trans hcall)).imp_right And.left
  | removed tcp tasks =>
    refine .removed ?_ fun task htask hdel id hcall => ?_
    · rw [removeTcpcb_core, Core.setTcp_tcp, hid', htcp, tcp]
      simp [TCPTable.remove]
    · obtain ⟨x, hx, hxd, hxc⟩ := hsub task htask hdel
      exact tasks x hx hxd id (hxc.trans hcall)

theorem stable : Conn.Stable fun c => c.tcb.socketId = t₀.socketId ∧ TableEffect k t₀ c where
  congr h hfixed hwait htimer htcp := by
    refine ⟨(congrArg (·.2.2.1) hfixed).trans h.1, h.2.mono htcp (hwait ▸ fun h => h) ?_⟩
    rw [htimer]
    exact fun task htask hdel id hcall => .inl ⟨task, htask, hdel, hcall⟩
  startRtxTimer {c} h := by
    unfold Conn.startRtxTimer
    split
    · exact ⟨h.1, h.2.scheduleRtx c.tcb.ref c.tcb.rto.rto rfl rfl rfl⟩
    · exact h
  restartRtxTimer {c} h := by
    have h' : TableEffect k t₀ (c.removeTimer c.tcb.rtxTimer) :=
      h.2.removeTimer c.tcb.rtxTimer (by simp) (by simp) rfl
    exact ⟨by simpa using h.1,
      h'.scheduleRtx c.tcb.ref c.tcb.rto.rto (by simp) (by simp) (by simp)⟩
  stopRtxTimer {c} h :=
    ⟨by simpa using h.1, h.2.removeTimer c.tcb.rtxTimer (by simp) (by simp) (by simp)⟩
  startTimeWaitTimer h := ⟨h.1, h.2.startTimeWaitTimer h.1⟩
  restartTimeWaitTimer h := ⟨by simpa using h.1, h.2.restartTimeWaitTimer h.1⟩
  tearDown {c} h := ⟨by simpa [stopAllTimers] using h.1, h.2.tearDown h.1⟩

theorem eventsMap (c : Conn) (type : TCPEventType) :
    TableEffect c.core c.tcb (c.eventsMap type).st :=
  (Conn.Kept.eventsMap ⟨stable, rfl, .refl c⟩ type).holds.2

end Conn.TableEffect

/-! ## What the steps of the stack leave alone -/

/-- What the tables depend on of a control block. -/
def TCPCB.mark (t : TCPCB) : Nat × SockId × STATES × Option Nat :=
  (t.ref, t.socketId, t.state, t.timeWaitTimer)

namespace Stack

def markOf (s : Stack) (r : Nat) : Option (Nat × SockId × STATES × Option Nat) :=
  s.tcbs[r]?.map TCPCB.mark

/-- What a step that takes and gives up nothing leaves alone. -/
structure Still (s s' : Stack) : Prop where
  ids : ∀ so, s.sockIdOf so ≠ none → s'.sockIdOf so = s.sockIdOf so
  marks : s'.markOf = s.markOf
  tasks : ∀ task ∈ s'.core.timer.tasks, task ∈ s.core.timer.tasks
  tcp : s'.core.tcp = s.core.tcp
  events : ∀ ev ∈ s'.core.events, ev ∈ s.core.events ∨ ev.type.isConnect = false

variable {s s' s'' : Stack}

namespace Still

theorem refl (s : Stack) : s.Still s := ⟨fun _ _ => rfl, rfl, fun _ h => h, rfl, fun _ h => .inl h⟩

theorem trans (h : s.Still s') (h' : s'.Still s'') : s.Still s'' where
  ids so hso := (h'.ids so (by rw [h.ids so hso]; exact hso)).trans (h.ids so hso)
  marks := h'.marks.trans h.marks
  tasks task htask := h.tasks task (h'.tasks task htask)
  tcp := h'.tcp.trans h.tcp
  events ev hev := (h'.events ev hev).elim (h.events ev) .inr

/-- A step that leaves the sockets, the control blocks and the core but for its errors and its log.
-/
theorem of_eq (hsockets : s'.sockets = s.sockets) (htcbs : s'.tcbs = s.tcbs)
    (htimer : s'.core.timer = s.core.timer) (htcp : s'.core.tcp = s.core.tcp)
    (hevents : s'.core.events = s.core.events) : s.Still s' where
  ids so _ := by rw [sockIdOf, hsockets, sockIdOf]
  marks := by
    funext r
    rw [markOf, htcbs, markOf]
  tasks task htask := htimer ▸ htask
  tcp := htcp
  events ev hev := .inl (hevents ▸ hev)

theorem fail (s : Stack) (so : Nat) (e : Errno) : s.Still (s.fail so e) := of_eq rfl rfl rfl rfl rfl

/-- A control block that is not over in the new state was not over in the old one. -/
theorem not_over (hs : s.Still s') {r : Nat} {tcb' : TCPCB}
    (htcb' : s'.tcbs[r]? = some tcb') :
    ∃ tcb, s.tcbs[r]? = some tcb ∧ tcb.mark = tcb'.mark ∧ (¬ s'.Over tcb' → ¬ s.Over tcb) := by
  have hmark : s.markOf r = some tcb'.mark := by
    rw [← hs.marks, markOf, htcb']
    rfl
  obtain ⟨tcb, htcb, he⟩ := Option.map_eq_some_iff.1 hmark
  have href : tcb.ref = tcb'.ref := congrArg (·.1) he
  have hstate : tcb.state = tcb'.state := congrArg (·.2.2.1) he
  refine ⟨tcb, htcb, he, fun hnot hover => hnot ⟨hstate ▸ hover.1, fun ev hev hto => ?_⟩⟩
  rcases hs.events ev hev with hold | hnew
  · exact hover.2 ev hold (href ▸ hto)
  · exact hnew

/-- A socket object is changed, but not its id. -/
theorem of_set {so : Nat} {x : TCPSocket} (hx : s.sockets[so]? = some x) (x' : TCPSocket)
    (hid : x'.sockId = x.sockId) (hsockets : s'.sockets = s.sockets.set so x')
    (htcbs : s'.tcbs = s.tcbs) (htimer : s'.core.timer = s.core.timer)
    (htcp : s'.core.tcp = s.core.tcp) (hevents : s'.core.events = s.core.events) : s.Still s' where
  ids i _ := by
    have hlt := (List.getElem?_eq_some_iff.1 hx).1
    by_cases hi : i = so
    · subst hi
      rw [sockIdOf, hsockets, List.getElem?_set_self hlt, sockIdOf, hx]
      exact congrArg some hid
    · rw [sockIdOf, hsockets, List.getElem?_set_ne (Ne.symm hi), sockIdOf]
  marks := by
    funext r
    rw [markOf, htcbs, markOf]
  tasks task htask := htimer ▸ htask
  tcp := htcp
  events ev hev := .inl (hevents ▸ hev)

/-- Something done to a control block that the tables do not depend on. -/
theorem onTcb (s : Stack) (r : Nat) {f : Conn → Conn}
    (hf : ∀ c : Conn, (f c).tcb.mark = c.tcb.mark ∧ (f c).core.timer = c.core.timer ∧
      (f c).core.tcp = c.core.tcp ∧ c.QueuesSend (f c)) : s.Still (s.onTcb r f) := by
  unfold Stack.onTcb
  split
  · next t ht =>
    obtain ⟨hmark, htimer, htcp, hq⟩ := hf ⟨t, s.core⟩
    refine ⟨fun _ _ => rfl, ?_, fun task htask => htimer ▸ htask, htcp, fun ev hev => ?_⟩
    · funext i
      have hlt := (List.getElem?_eq_some_iff.1 ht).1
      by_cases hi : i = r
      · subst hi
        simp only [markOf, List.getElem?_set_self hlt, ht, Option.map_some]
        exact congrArg some hmark
      · simp only [markOf, List.getElem?_set_ne (Ne.symm hi)]
    · rcases hq with hq | hq
      · exact .inl (hq ▸ hev)
      · have hev : ev ∈ (f ⟨t, s.core⟩).core.events := hev
        rw [hq] at hev
        rcases List.mem_append.1 hev with hev | hev
        · exact .inl hev
        · exact .inr (by rw [List.mem_singleton.1 hev]; rfl)
  · exact .refl s

/-- A request of the application changes nothing the tables depend on. -/
theorem request (s : Stack) (r : Nat) (q : UserRequest) :
    s.Still (s.onTcb r fun c => q.apply c) := by
  refine onTcb s r fun c => ?_
  have hq := q.apply_requested c
  refine ⟨?_, hq.timer, hq.tcp, hq.queues⟩
  cases q with
  | tcpSend data =>
    simp only [UserRequest.apply, Conn.tcpSend]
    split <;> rfl
  | tcpRecv n =>
    simp only [UserRequest.apply, Conn.tcpRecv]
    split <;> rfl
  | tcpClose => rfl
  | tcpShutdown => rfl
  | tick ns => rfl

theorem socket (s : Stack) : s.Still (s.step .socket) where
  ids so hso := by
    have hlt : so < s.sockets.length := by
      by_contra hge
      exact hso (by simp [sockIdOf, List.getElem?_eq_none (Nat.le_of_not_lt hge)])
    simp only [sockIdOf, Stack.step, List.getElem?_append_left hlt]
  marks := rfl
  tasks _ htask := htask
  tcp := rfl
  events ev hev := .inl hev

theorem sendTurn (s : Stack) (so r : Nat) (data : List UInt8) (dlen : Int) :
    s.Still (s.sendTurn so r data dlen) := by
  unfold Stack.sendTurn
  split
  · simp only
    split
    · exact (request s r (.tcpSend data)).trans (of_eq rfl rfl rfl rfl rfl)
    · exact request s r (.tcpSend data)
  · exact refl s

theorem tcpSend (s : Stack) (so : Nat) (x : TCPSocket) (data : List UInt8) :
    s.Still (s.tcpSend so x data) := by
  unfold Stack.tcpSend
  split
  · exact refl s
  · split
    · exact fail s so _
    · split
      · exact refl s
      · exact sendTurn s _ _ _ _

theorem tcpRecv (s : Stack) (so : Nat) (x : TCPSocket) (bufsize : Nat) :
    s.Still (s.tcpRecv so x bufsize) := by
  unfold Stack.tcpRecv
  split
  · exact refl s
  · split
    · exact fail s so _
    · split
      · split_ifs
        · exact refl s
        · exact of_eq rfl rfl rfl rfl rfl
        · exact request s _ (.tcpRecv bufsize)
      · exact refl s

theorem tcpShutdown (s : Stack) (so : Nat) (x : TCPSocket) : s.Still (s.tcpShutdown so x) := by
  unfold Stack.tcpShutdown
  split
  · exact fail s so _
  · exact request s _ .tcpShutdown

theorem timeout (s : Stack) (k : Nat) : s.Still (s.timeout k) := by
  unfold Stack.timeout
  split
  · exact of_eq rfl rfl rfl rfl rfl
  · exact refl s

theorem rxTcp (s : Stack) (src dst : Nat) (packet : TCPParser) :
    s.Still (s.rxTcp src dst packet) := by
  unfold Stack.rxTcp
  simp only
  split
  · refine ⟨fun _ _ => rfl, rfl, fun _ h => h, rfl, fun ev hev => ?_⟩
    rcases List.mem_append.1 hev with hev | hev
    · exact .inl hev
    · exact .inr (by rw [List.mem_singleton.1 hev]; rfl)
  · exact of_eq rfl rfl rfl rfl rfl

/-- A call other than a connect goes on. -/
theorem resume (s : Stack) (k iss : Nat) (hcall : ∀ so, s.calls[k]? ≠ some (.connecting so)) :
    s.Still (s.resume k iss) := by
  unfold Stack.resume
  split
  · exact refl s
  · next call hk =>
    have hcalls : s.Still { s with calls := s.calls.eraseIdx k } := of_eq rfl rfl rfl rfl rfl
    cases call with
    | connecting so => exact absurd hk (hcall so)
    | sending so r data dlen =>
      simp only
      split
      · exact hcalls
      · exact hcalls.trans (sendTurn _ so r data dlen)
    | receiving so r bufsize =>
      exact hcalls.trans (onTcb _ r fun c => ⟨rfl, rfl, rfl, .inl rfl⟩)

/-- A bind that does not get through. -/
theorem tcpBind {so : Nat} {x : TCPSocket} (hx : s.sockets[so]? = some x) {address : Option Nat}
    {port : Nat} (hid : s.bindId so x address port = none) :
    s.Still (s.tcpBind so x address port) := by
  cases address with
  | none => exact fail s so _
  | some ip =>
    simp only [Stack.tcpBind]
    by_cases hip : some ip = s.unicastIp
    · simp only [if_pos hip]
      split
      · exact of_set hx { x with localIp := some ip } rfl rfl rfl rfl rfl rfl
      · next herr =>
        split
        · exact of_set hx { x with localIp := some ip } rfl rfl rfl rfl rfl rfl
        · next hport =>
          split
          · exact of_set hx { x with localIp := some ip, localPort := port } rfl
              (List.set_set ..) rfl rfl rfl rfl
          · next hbound =>
            simp only [bindId, Option.bind_some] at hid
            rw [if_pos ⟨hip, by simpa using herr, hport, hbound⟩] at hid
            exact absurd hid (by simp)
    · -- the error is set and looked at
      have herr : ((s.fail so .eaddrnotavail).setSocket so
          { x with localIp := some ip }).core.soError so ≠ none := by
        simp [Stack.fail, Core.setSoError]
      simp only [if_neg hip, if_pos herr]
      exact of_set hx { x with localIp := some ip } rfl rfl rfl rfl rfl rfl

/-- A connect that does not get through. -/
theorem tcpConnect {so : Nat} {x : TCPSocket} (hx : s.sockets[so]? = some x) {address : Option Nat}
    {port picked : Nat} (hid : s.connectId x address port picked = none) :
    s.Still (s.tcpConnect so x address port picked) := by
  cases address with
  | none => exact fail s so _
  | some ip =>
    simp only [connectId, Option.bind_some] at hid
    simp only [Stack.tcpConnect]
    split_ifs at hid ⊢
    · have hnone : s.unicastIp = none := by simpa using hid
      simp only [connectRegister, hnone]
      exact of_set hx ⟨none, picked, ip, port, x.sockId, x.soLinger⟩ rfl rfl rfl rfl rfl rfl
    · exact of_set hx ⟨x.localIp, x.localPort, ip, port, x.sockId, x.soLinger⟩ rfl rfl
        rfl rfl rfl rfl
    · have hnone : x.localIp = none := by simpa using hid
      simp only [connectRegister, hnone]
      exact of_set hx ⟨none, x.localPort, ip, port, x.sockId, x.soLinger⟩ rfl rfl rfl rfl rfl rfl

end Still

/-- A socket is registered under an id, after the entry of an old one was taken out. -/
structure Registers (s s' : Stack) (so : Nat) (id : SockId) (old : Option SockId) : Prop where
  ids : s'.sockIdOf = Function.update s.sockIdOf so (some id)
  tcbs : s'.tcbs = s.tcbs
  timer : s'.core.timer = s.core.timer
  events : s'.core.events = s.core.events
  tcpcbs : s'.core.tcp.tcpcbs = s.core.tcp.tcpcbs
  sockets : s'.core.tcp.sockets = Function.update
    (old.elim s.core.tcp.sockets fun o => Function.update s.core.tcp.sockets o none) id (some so)

theorem sockIdOf_of_set {so : Nat} {x : TCPSocket} (hx : s.sockets[so]? = some x) (x' : TCPSocket)
    (hsockets : s'.sockets = s.sockets.set so x') :
    s'.sockIdOf = Function.update s.sockIdOf so (some x'.sockId) := by
  have hlt := (List.getElem?_eq_some_iff.1 hx).1
  funext i
  by_cases hi : i = so
  · subst hi
    rw [Function.update_self, sockIdOf, hsockets, List.getElem?_set_self hlt]
    rfl
  · rw [Function.update_of_ne hi, sockIdOf, hsockets, List.getElem?_set_ne (Ne.symm hi), sockIdOf]

theorem tcpBind_registers {so : Nat} {x : TCPSocket} (hx : s.sockets[so]? = some x)
    {address : Option Nat} {port : Nat} {id : SockId}
    (hid : s.bindId so x address port = some id) :
    s.Registers (s.tcpBind so x address port) so id none := by
  cases address with
  | none => exact absurd hid (by simp [bindId])
  | some ip =>
    simp only [bindId, Option.bind_some] at hid
    split at hid
    · next h =>
      obtain ⟨hip, herr, hport, hbound⟩ := h
      cases Option.some.inj hid
      have herr' : ¬ (s.setSocket so { x with localIp := some ip }).core.soError so ≠ none := by
        simpa using herr
      simp only [Stack.tcpBind, if_pos hip, if_neg herr', if_neg hport, setSocket_boundSockets,
        if_neg hbound]
      refine ⟨sockIdOf_of_set hx ⟨some ip, port, x.remoteIp, x.remotePort,
        ⟨ip, port, x.remoteIp, x.remotePort⟩, x.soLinger⟩ ?_, rfl, rfl, rfl, rfl, rfl⟩
      simp only [registerSocket, onCore_sockets, setSocket_sockets, List.set_set]
    · exact absurd hid (by simp)

/-- The entry a connect takes out: that of the bound socket. -/
def connectOld (x : TCPSocket) (id : SockId) : Option SockId :=
  if x.localPort = 0 then none else some ⟨id.localIp, id.localPort, 0, 0⟩

theorem tcpConnect_registers {so : Nat} {x : TCPSocket} (hx : s.sockets[so]? = some x)
    {address : Option Nat} {port picked : Nat} {id : SockId}
    (hid : s.connectId x address port picked = some id) :
    s.Registers (s.tcpConnect so x address port picked) so id (connectOld x id) := by
  cases address with
  | none => exact absurd hid (by simp [connectId])
  | some ip =>
    simp only [connectId, Option.bind_some] at hid
    simp only [Stack.tcpConnect, connectOld]
    split_ifs at hid ⊢
    · obtain ⟨a, ha, rfl⟩ := Option.map_eq_some_iff.1 hid
      simp only [connectRegister, ha]
      exact ⟨sockIdOf_of_set hx ⟨some a, picked, ip, port, ⟨a, picked, ip, port⟩, x.soLinger⟩
        rfl, rfl, rfl, rfl, rfl, rfl⟩
    · obtain ⟨a, ha, rfl⟩ := Option.map_eq_some_iff.1 hid
      simp only [connectRegister, ha, Option.map_some]
      exact ⟨sockIdOf_of_set hx
        ⟨some a, x.localPort, ip, port, ⟨a, x.localPort, ip, port⟩, x.soLinger⟩ rfl, rfl, rfl,
          rfl, rfl, rfl⟩

/-- A control block is made, with its `CONNECT`. -/
structure Opens (s s' : Stack) (id : SockId) (tcb : TCPCB) : Prop where
  ids : s'.sockIdOf = s.sockIdOf
  tcbs : s'.tcbs = s.tcbs ++ [tcb]
  ref : tcb.ref = s.tcbs.length
  socketId : tcb.socketId = id
  timer : s'.core.timer = s.core.timer
  events : s'.core.events = s.core.events ++ [⟨.connect, some s.tcbs.length⟩]
  sockets : s'.core.tcp.sockets = s.core.tcp.sockets
  tcpcbs : s'.core.tcp.tcpcbs = Function.update s.core.tcp.tcpcbs id (some s.tcbs.length)

theorem connectTcpcb_opens (s : Stack) (calls : List Call) (so iss : Nat) {x : TCPSocket}
    (hid : x.sockId = ⟨x.localIp.getD 0, x.localPort, x.remoteIp, x.remotePort⟩) :
    ∃ tcb, s.Opens ({ s with calls := calls }.connectTcpcb so x iss) x.sockId tcb :=
  ⟨_, rfl, rfl, rfl, hid.symm, rfl, rfl, rfl, rfl⟩

/-- The control blocks are the old ones, over when they were, and the new one. -/
theorem Opens.cases {id : SockId} {tcb : TCPCB} (h : s.Opens s' id tcb)
    (hrefs : ∀ (r : Nat) (tcb : TCPCB), s.tcbs[r]? = some tcb → tcb.ref = r) {r : Nat}
    {tcb' : TCPCB} (htcb' : s'.tcbs[r]? = some tcb') :
    (s.tcbs[r]? = some tcb' ∧ (s.Over tcb' → s'.Over tcb')) ∨ (r = s.tcbs.length ∧ tcb' = tcb) := by
  rw [h.tcbs] at htcb'
  rcases Nat.lt_or_ge r s.tcbs.length with hlt | hge
  · rw [List.getElem?_append_left hlt] at htcb'
    refine .inl ⟨htcb', fun hover => ⟨hover.1, fun ev hev hto => ?_⟩⟩
    rw [h.events] at hev
    rcases List.mem_append.1 hev with hev | hev
    · exact hover.2 ev hev hto
    · -- the `CONNECT` is that of the new one
      rw [List.mem_singleton.1 hev] at hto
      have hr : s.tcbs.length = r := (Option.some.inj hto).trans (hrefs r tcb' htcb')
      omega
  · rw [List.getElem?_append_right hge, List.getElem?_singleton] at htcb'
    split at htcb'
    · next hr => exact .inr ⟨by omega, (Option.some.inj htcb').symm⟩
    · cases htcb'

/-- A handler has run on the control block `tcb`, the one with the number `r`. -/
structure Handled (s s' : Stack) (r : Nat) (tcb tcb' : TCPCB) : Prop where
  old : s.tcbs[r]? = some tcb
  sockets : s'.sockets = s.sockets
  tcbs : s'.tcbs = s.tcbs.set r tcb'
  ref : tcb'.ref = tcb.ref
  socketId : tcb'.socketId = tcb.socketId
  events : ∀ ev ∈ s'.core.events, ev ∈ s.core.events ∨ ev.type.isConnect = false
  effect : Conn.TableEffect s.core tcb ⟨tcb', s'.core⟩

namespace Handled

variable {r : Nat} {tcb tcb' : TCPCB}

theorem ids (h : s.Handled s' r tcb tcb') : s'.sockIdOf = s.sockIdOf := by
  funext so
  rw [sockIdOf, h.sockets, sockIdOf]

theorem self (h : s.Handled s' r tcb tcb') : s'.tcbs[r]? = some tcb' := by
  rw [h.tcbs, List.getElem?_set_self (List.getElem?_eq_some_iff.1 h.old).1]

theorem other (h : s.Handled s' r tcb tcb') {r' : Nat} (hne : r' ≠ r) :
    s'.tcbs[r']? = s.tcbs[r']? := by
  rw [h.tcbs, List.getElem?_set_ne (Ne.symm hne)]

theorem stays_over (h : s.Handled s' r tcb tcb') {x : TCPCB} (hover : s.Over x) : s'.Over x :=
  ⟨hover.1, fun ev hev hto => (h.events ev hev).elim (fun hold => hover.2 ev hold hto) fun hnew =>
    hnew⟩

end Handled

/-- What the event loop does with an event: it leaves the tables and the control blocks alone, or it
runs the handler. -/
theorem handle_cases (s : Stack) (i : Nat) : s.Still (s.handle i) ∨
    ∃ ev r tcb tcb', s.core.events[i]? = some ev ∧ ev.tcpcb = some r ∧
      s.Handled (s.handle i) r tcb tcb' ∧ ⟨tcb', (s.handle i).core⟩ =
        ((s.connAt i tcb).eventsMap ev.type).st := by
  unfold Stack.handle
  split
  · next ev hf hev =>
    have hdrop : ∀ f, s.Still { s.onCore fun k => { k with events := k.events.eraseIdx i } with
        fault := f } :=
      fun f => ⟨fun _ _ => rfl, rfl, fun _ h => h, rfl, fun ev hev =>
        .inl (List.mem_of_mem_eraseIdx hev)⟩
    simp only
    split
    · exact .inl (hdrop _)
    · next r hr =>
      cases htcb : s.tcbs[r]? with
      | none =>
        simp only [onCore_tcbs, htcb]
        exact .inl (hdrop _)
      | some tcb =>
        have hfixed := (s.connAt i tcb).eventsMap_fixed ev.type
        refine .inr ⟨ev, r, tcb, ((s.connAt i tcb).eventsMap ev.type).st.tcb, hev, hr, ?_⟩
        simp only [onCore_tcbs, htcb]
        refine ⟨⟨htcb, rfl, rfl, congrArg (·.1) hfixed, congrArg (·.2.2.1) hfixed,
          fun x hx => ?_, ?_⟩, rfl⟩
        · rcases ((s.connAt i tcb).eventsMap_queues ev.type).mem x hx with hnew | hold
          · exact .inr hnew
          · exact .inl (List.mem_of_mem_eraseIdx hold)
        · cases Conn.TableEffect.eventsMap (s.connAt i tcb) ev.type with
          | same tcp armed tasks => exact .same tcp armed tasks
          | removed tcp tasks => exact .removed tcp tasks
  · exact .inl (.refl s)

/-- The handler of a control block that is over. -/
theorem Over.still {i r : Nat} {ev : TCPEvent} {tcb tcb' : TCPCB} (hover : s.Over tcb)
    (hev : s.core.events[i]? = some ev) (hto : ev.tcpcb = some tcb.ref)
    (hs : s.Handled s' r tcb tcb')
    (hrun : ⟨tcb', s'.core⟩ = ((s.connAt i tcb).eventsMap ev.type).st) : s.Still s' := by
  have hconn := hover.2 ev (List.mem_of_getElem? hev) hto
  have hst : tcb'.mark = tcb.mark ∧ s'.core = (s.connAt i tcb).core := by
    rcases Conn.eventsMap_closed (c := s.connAt i tcb) hover.1 hconn with he | he <;>
      rw [he] at hrun
    · exact ⟨congrArg (·.tcb.mark) hrun, congrArg (·.core) hrun⟩
    · exact ⟨congrArg (·.tcb.mark) hrun, congrArg (·.core) hrun⟩
  refine ⟨fun so _ => congrFun hs.ids so, ?_, fun task htask => by rw [hst.2] at htask; exact htask,
    by rw [hst.2]; rfl, hs.events⟩
  funext r'
  by_cases hr : r' = r
  · subst hr
    simp only [markOf, hs.self, hs.old, Option.map_some, hst.1]
  · simp only [markOf, hs.other hr]

theorem endsByEvent_of_removed {i r : Nat} {ev : TCPEvent} {tcb tcb' : TCPCB}
    (hev : s.core.events[i]? = some ev) (hto : ev.tcpcb = some r) (htcb : s.tcbs[r]? = some tcb)
    (htcb' : (s.handle i).tcbs[r]? = some tcb')
    (hne : (s.handle i).core.tcp.sockets tcb.socketId ≠ s.core.tcp.sockets tcb.socketId) :
    s.EndsByEvent i r = true := by
  simp only [EndsByEvent, hev, htcb, htcb', hto, decide_true, Bool.true_and, Bool.or_eq_true,
    decide_eq_true_eq]
  exact .inl (.inr hne)

/-- What a timer callback does: it queues an event, or it takes out the entries of an id. -/
theorem fire_cases (s : Stack) (i : Nat) : s.Still (s.onCore (·.fireTimer i)) ∨
    ∃ task timer id, s.core.timer.popDue (s.core.nowNs / 1000000) i = some (task, timer) ∧
      task.deleted = false ∧ task.call = .removeTcpcb id ∧
      s.onCore (·.fireTimer i) = s.onCore fun k => (k.setTimer timer).setTcp (k.tcp.remove id) := by
  cases hpop : s.core.timer.popDue (s.core.nowNs / 1000000) i with
  | none =>
    left
    simp only [onCore, Core.fireTimer, hpop]
    exact .refl s
  | some p =>
    obtain ⟨task, timer⟩ := p
    have htasks := (Timer.popDue_mem hpop).2
    simp only [onCore, Core.fireTimer, hpop]
    split
    · exact .inl ⟨fun _ _ => rfl, rfl, htasks, rfl, fun ev hev => .inl hev⟩
    · next hdel =>
      split
      · refine .inl ⟨fun _ _ => rfl, rfl, htasks, rfl, fun ev hev => ?_⟩
        rcases List.mem_append.1 hev with hev | hev
        · exact .inl hev
        · exact .inr (by rw [List.mem_singleton.1 hev]; rfl)
      · next id hcall => exact .inr ⟨task, timer, id, rfl, by simpa using hdel, hcall, rfl⟩

end Stack

/-! ## The invariant -/

theorem TCPTable.Has.congr {tcp tcp' : TCPTable} {so : Nat} {id : SockId} {h : Holding}
    (hhas : tcp.Has so id h) (hsockets : tcp'.sockets id = tcp.sockets id)
    (htcpcbs : tcp'.tcpcbs id = tcp.tcpcbs id) : tcp'.Has so id h := by
  cases h with
  | nothing => trivial
  | bound => exact hsockets.trans hhas
  | connecting => exact hsockets.trans hhas
  | connected r => exact ⟨hsockets.trans hhas.1, htcpcbs.trans hhas.2⟩

theorem TCPTable.Has.sockets {tcp : TCPTable} {so : Nat} {id : SockId} {h : Holding}
    (hhas : tcp.Has so id h) (hlive : h ≠ .nothing) : tcp.sockets id = some so := by
  cases h with
  | nothing => exact absurd rfl hlive
  | bound => exact hhas
  | connecting => exact hhas
  | connected r => exact hhas.1

namespace TableRun

/-- What keeps the entries of a live socket. -/
structure Secure (t : TableRun) (so : Nat) (id : SockId) : Prop where
  has : t.stack.core.tcp.Has so id (t.holding so)
  /-- a control block with the id that can still end is its own -/
  own : ∀ (r : Nat) (tcb : TCPCB), t.stack.tcbs[r]? = some tcb → tcb.socketId = id →
    ¬ t.stack.Over tcb → t.holding so = .connected r
  /-- a task that removes the id is that of its own `TIME_WAIT` -/
  tasks : ∀ task ∈ t.stack.core.timer.tasks, task.deleted = false → task.call = .removeTcpcb id →
    ∃ (r : Nat) (tcb : TCPCB), t.holding so = .connected r ∧ t.stack.tcbs[r]? = some tcb ∧
      tcb.socketId = id ∧ tcb.timeWaitTimer ≠ none

structure Inv (t : TableRun) : Prop where
  unmade : ∀ so, t.stack.sockIdOf so = none → t.holding so = .nothing
  refs : ∀ (r : Nat) (tcb : TCPCB), t.stack.tcbs[r]? = some tcb → tcb.ref = r
  secure : ∀ so id, t.stack.sockIdOf so = some id → t.holding so ≠ .nothing → t.Secure so id

variable {t t' : TableRun}

theorem Inv.kept (h : t.Inv) : t.EntriesKept := by
  intro so id hso
  rcases eq_or_ne (t.holding so) .nothing with hnot | hlive
  · rw [hnot]
    trivial
  · exact (h.secure so id hso hlive).has

theorem inv_new (ip : Option Nat) : (new ip).Inv := by
  refine ⟨fun _ _ => rfl, fun r tcb htcb => ?_, fun so id hso hlive => absurd rfl hlive⟩
  exact absurd htcb (by simp [new, Stack.new])

theorem Unheld.ne {so so' : Nat} {id : SockId} (h : t.Unheld so id)
    (hid : t.stack.sockIdOf so' = some id) (hlive : t.holding so' ≠ .nothing) : so' = so := by
  by_contra hne
  refine h so' (List.mem_range.2 ?_) hne hlive hid
  obtain ⟨x, hx, -⟩ := Option.map_eq_some_iff.1 hid
  exact (List.getElem?_eq_some_iff.1 hx).1

/-- A step that takes nothing, and gives up at most what some sockets should have. -/
theorem Inv.still (h : t.Inv) (hs : t.stack.Still t'.stack)
    (hh : ∀ so, t'.holding so = t.holding so ∨ t'.holding so = .nothing) : t'.Inv := by
  refine ⟨?_, ?_, ?_⟩
  · intro so hnone
    rcases hh so with heq | hnot
    · refine heq.trans (h.unmade so ?_)
      by_contra hmade
      exact hmade ((hs.ids so hmade).symm.trans hnone)
    · exact hnot
  · intro r tcb' htcb'
    obtain ⟨tcb, htcb, he, -⟩ := hs.not_over htcb'
    exact (congrArg (·.1) he).symm.trans (h.refs r tcb htcb)
  · intro so id hso hlive
    -- a live socket of the new state is one of the old, with its id
    have heq : t'.holding so = t.holding so := (hh so).resolve_right hlive
    have hmade : t.stack.sockIdOf so ≠ none := fun hnone => hlive (heq.trans (h.unmade so hnone))
    rw [hs.ids so hmade] at hso
    obtain ⟨has, own, tasks⟩ := h.secure so id hso (heq ▸ hlive)
    refine ⟨?_, ?_, ?_⟩
    · rw [heq, hs.tcp]
      exact has
    · intro r tcb' htcb' hsid hnot
      obtain ⟨tcb, htcb, he, hover⟩ := hs.not_over htcb'
      rw [heq]
      exact own r tcb htcb ((congrArg (·.2.1) he).trans hsid) (hover hnot)
    · intro task htask hdel hcall
      have htask := hs.tasks task htask
      obtain ⟨r, tcb, hr, htcb, hsid, harmed⟩ := tasks task htask hdel hcall
      have hmark : t'.stack.markOf r = some tcb.mark := by
        rw [hs.marks, Stack.markOf, htcb]
        rfl
      obtain ⟨tcb', htcb', he⟩ := Option.map_eq_some_iff.1 hmark
      have hwait : tcb'.timeWaitTimer = tcb.timeWaitTimer := congrArg (·.2.2.2) he
      exact ⟨r, tcb', heq.trans hr, htcb', (congrArg (·.2.1) he).trans hsid, hwait ▸ harmed⟩

/-- What is done elsewhere leaves a socket its entries. -/
theorem Secure.congr {so : Nat} {id : SockId} (h : t.Secure so id)
    (hholding : t'.holding so = t.holding so)
    (hsockets : t'.stack.core.tcp.sockets id = t.stack.core.tcp.sockets id)
    (htcpcbs : t'.stack.core.tcp.tcpcbs id = t.stack.core.tcp.tcpcbs id)
    (htcbs : t'.stack.tcbs = t.stack.tcbs)
    (htasks : ∀ task ∈ t'.stack.core.timer.tasks, task ∈ t.stack.core.timer.tasks)
    (hevents : t'.stack.core.events = t.stack.core.events) : t'.Secure so id where
  has := by
    rw [hholding]
    exact h.has.congr hsockets htcpcbs
  own r tcb htcb hsid hnot := by
    rw [htcbs] at htcb
    rw [hholding]
    refine h.own r tcb htcb hsid fun hover => hnot ⟨hover.1, ?_⟩
    rw [hevents]
    exact hover.2
  tasks task htask := by
    rw [hholding, htcbs]
    exact h.tasks task (htasks task htask)

/-- A free id keeps the entries of the socket that takes it. -/
theorem Free.secure {so : Nat} {id : SockId} (h : t.Free so id)
    (hhas : t'.stack.core.tcp.Has so id (t'.holding so)) (htcbs : t'.stack.tcbs = t.stack.tcbs)
    (htimer : t'.stack.core.timer = t.stack.core.timer)
    (hevents : t'.stack.core.events = t.stack.core.events) : t'.Secure so id where
  has := hhas
  own r tcb htcb hsid hnot := by
    rw [htcbs] at htcb
    refine absurd (h.2.1 tcb (List.mem_of_getElem? htcb) hsid) fun hover => hnot ⟨hover.1, ?_⟩
    rw [hevents]
    exact hover.2
  tasks task htask hdel hcall := by
    rw [htimer] at htask
    exact absurd hcall (h.2.2 task htask hdel)

/-- **A bind or a connect that gets through** takes an id that is free. -/
theorem Inv.register (h : t.Inv) {so : Nat} {id : SockId} {old : Option SockId} (hold : Holding)
    (hreg : t.stack.Registers t'.stack so id old)
    (hholding : t'.holding = Function.update t.holding so hold)
    (hhold : hold = .bound ∨ hold = .connecting) (hfree : t.Free so id)
    (hold' : ∀ o ∈ old, t.Unheld so o) : t'.Inv := by
  refine ⟨?_, ?_, ?_⟩
  · intro i hnone
    rw [hreg.ids] at hnone
    by_cases hi : i = so
    · rw [hi, Function.update_self] at hnone
      cases hnone
    · rw [Function.update_of_ne hi] at hnone
      rw [hholding, Function.update_of_ne hi]
      exact h.unmade i hnone
  · rw [hreg.tcbs]
    exact h.refs
  · intro i id' hi hlive
    rw [hreg.ids] at hi
    by_cases hne : i = so
    · subst hne
      rw [Function.update_self] at hi
      cases hi
      refine hfree.secure ?_ hreg.tcbs hreg.timer hreg.events
      have hsock : t'.stack.core.tcp.sockets id = some i := by
        rw [hreg.sockets, Function.update_self]
      rw [hholding, Function.update_self]
      rcases hhold with rfl | rfl <;> exact hsock
    · rw [Function.update_of_ne hne] at hi
      have heq : t'.holding i = t.holding i := by rw [hholding, Function.update_of_ne hne]
      rw [heq] at hlive
      -- neither the id that is taken nor the one that is taken out is its own
      have hid : id' ≠ id := fun he => hne (hfree.1.ne (he ▸ hi) hlive)
      refine (h.secure i id' hi hlive).congr heq ?_ (by rw [hreg.tcpcbs]) hreg.tcbs
        (fun _ htask => hreg.timer ▸ htask) hreg.events
      rw [hreg.sockets, Function.update_of_ne hid]
      cases old with
      | none => rfl
      | some o =>
        have ho : id' ≠ o := fun he => hne ((hold' o rfl).ne (he ▸ hi) hlive)
        exact Function.update_of_ne ho ..

/-- **A close**: without a control block the entry is taken out by the id. -/
theorem Inv.close (h : t.Inv) {so : Nat} {x : TCPSocket} (hx : t.stack.sockets[so]? = some x)
    (hunheld : t.stack.core.tcp.tcpcbs x.sockId = none → t.Unheld so x.sockId)
    (hstack : t'.stack = t.stack.tcpClose x) (hholding : t'.holding =
    Function.update t.holding so .nothing) :
    t'.Inv := by
  have hheld : ∀ i, t'.holding i = t.holding i ∨ t'.holding i = .nothing := by
    intro i
    rw [hholding]
    by_cases hi : i = so
    · exact .inr (by rw [hi, Function.update_self])
    · exact .inl (Function.update_of_ne hi ..)
  cases htcb : t.stack.core.tcp.tcpcbs x.sockId with
  | some r =>
    refine h.still ?_ hheld
    rw [hstack]
    simp only [Stack.tcpClose, htcb]
    exact .request t.stack r .tcpClose
  | none =>
    simp only [Stack.tcpClose, htcb] at hstack
    refine ⟨?_, ?_, ?_⟩
    · intro i hnone
      rw [hstack] at hnone
      exact (hheld i).elim (fun heq => heq.trans (h.unmade i hnone)) fun hnot => hnot
    · rw [hstack]
      exact h.refs
    · intro i id hi hlive
      have hne : i ≠ so := by
        rintro rfl
        exact hlive (by rw [hholding, Function.update_self])
      have heq : t'.holding i = t.holding i := (hheld i).resolve_right hlive
      rw [hstack] at hi
      rw [heq] at hlive
      have hid : id ≠ x.sockId := fun he => hne ((hunheld htcb).ne (he ▸ hi) hlive)
      refine (h.secure i id hi hlive).congr heq ?_ (by rw [hstack]; rfl) (by rw [hstack]; rfl)
        (fun task htask => ?_) (by rw [hstack]; rfl)
      · rw [hstack]
        exact Function.update_of_ne hid ..
      · rw [hstack] at htask
        exact htask

/-- **The control block of a connect** is made for a socket that still has its id to itself. -/
theorem Inv.opens (h : t.Inv) {so : Nat} {id : SockId} {tcb : TCPCB}
    (hopens : t.stack.Opens t'.stack id tcb) (hso : t.stack.sockIdOf so = some id)
    (hfree : t.Free so id)
    (hholding : t'.holding = if t.holding so = .nothing then t.holding
      else Function.update t.holding so (.connected t.stack.tcbs.length)) : t'.Inv := by
  -- the other sockets hold what they held
  have hother : ∀ i, i ≠ so → t'.holding i = t.holding i := by
    intro i hi
    rw [hholding]
    split
    · rfl
    · exact Function.update_of_ne hi ..
  have hself : t'.holding so ≠ .nothing →
      t.holding so ≠ .nothing ∧ t'.holding so = .connected t.stack.tcbs.length := by
    intro hlive
    rw [hholding] at hlive ⊢
    split at hlive
    · next hnot => exact absurd hnot hlive
    · next hmade => exact ⟨hmade, by rw [if_neg hmade, Function.update_self]⟩
  refine ⟨?_, ?_, ?_⟩
  · intro i hnone
    rw [hopens.ids] at hnone
    have hi : i ≠ so := by
      rintro rfl
      exact absurd (hso.symm.trans hnone) (by simp)
    exact (hother i hi).trans (h.unmade i hnone)
  · intro r tcb' htcb'
    rcases hopens.cases h.refs htcb' with ⟨hold, -⟩ | ⟨rfl, rfl⟩
    · exact h.refs r tcb' hold
    · exact hopens.ref
  · intro i id' hi hlive
    rw [hopens.ids] at hi
    by_cases hne : i = so
    · subst hne
      cases Option.some.inj (hso.symm.trans hi)
      obtain ⟨hmade, heq⟩ := hself hlive
      refine ⟨?_, ?_, ?_⟩
      · rw [heq]
        refine ⟨?_, by rw [hopens.tcpcbs, Function.update_self]⟩
        rw [hopens.sockets]
        exact (h.secure i id hso hmade).has.sockets hmade
      · intro r tcb' htcb' hsid hnot
        rcases hopens.cases h.refs htcb' with ⟨hold, hover⟩ | ⟨rfl, rfl⟩
        · exact absurd (hover (hfree.2.1 tcb' (List.mem_of_getElem? hold) hsid)) hnot
        · exact heq
      · intro task htask hdel hcall
        rw [hopens.timer] at htask
        exact absurd hcall (hfree.2.2 task htask hdel)
    · rw [hother i hne] at hlive
      obtain ⟨has, own, tasks⟩ := h.secure i id' hi hlive
      have hid : id' ≠ id := fun he => hne (hfree.1.ne (he ▸ hi) hlive)
      refine ⟨?_, ?_, ?_⟩
      · rw [hother i hne]
        refine has.congr (by rw [hopens.sockets]) ?_
        rw [hopens.tcpcbs, Function.update_of_ne hid]
      · intro r tcb' htcb' hsid hnot
        rw [hother i hne]
        rcases hopens.cases h.refs htcb' with ⟨hold, hover⟩ | ⟨rfl, rfl⟩
        · exact own r tcb' hold hsid fun hov => hnot (hover hov)
        · exact absurd (hsid.symm.trans hopens.socketId) hid
      · intro task htask hdel hcall
        rw [hopens.timer] at htask
        obtain ⟨r, tcb', hr, htcb', hsid, harmed⟩ := tasks task htask hdel hcall
        have hlt := (List.getElem?_eq_some_iff.1 htcb').1
        exact ⟨r, tcb', (hother i hne).trans hr,
          by rw [hopens.tcbs, List.getElem?_append_left hlt, htcb'], hsid, harmed⟩

/-- A handler of a control block that can still end leaves a socket its entries, when they are not
those of its own connection that it takes out. -/
theorem Secure.handled {so r : Nat} {id : SockId} {tcb tcb' : TCPCB} (h : t.Secure so id)
    (hs : t.stack.Handled t'.stack r tcb tcb') (hnot : ¬ t.stack.Over tcb)
    (hlive : t.holding so ≠ .nothing) (heq : t'.holding so = t.holding so)
    (hends : t.holding so = .connected r → tcb.socketId = id →
      t'.stack.core.tcp.sockets id = t.stack.core.tcp.sockets id) : t'.Secure so id := by
  have hown : ∀ (r' : Nat) (x : TCPCB), t'.stack.tcbs[r']? = some x → x.socketId = id →
      ¬ t'.stack.Over x → t'.holding so = .connected r' := by
    intro r' x hx hsid hnot'
    rw [heq]
    by_cases hr : r' = r
    · subst hr
      cases Option.some.inj (hs.self.symm.trans hx)
      exact h.own r' tcb hs.old (hs.socketId.symm.trans hsid) hnot
    · exact h.own r' x ((hs.other hr).symm.trans hx) hsid fun hover => hnot' (hs.stays_over hover)
  cases hs.effect with
  | same tcp armed tasks =>
    refine ⟨?_, hown, fun task htask hdel hcall => ?_⟩
    · rw [heq]
      exact h.has.congr (congrFun (congrArg (·.sockets) tcp) id)
        (congrFun (congrArg (·.tcpcbs) tcp) id)
    · rw [heq]
      rcases tasks task htask hdel id hcall with ⟨x, hx, hxd, hxc⟩ | ⟨hsid, harmed⟩
      · obtain ⟨r', y, hr', hy, hysid, hyarmed⟩ := h.tasks x hx hxd hxc
        by_cases hr : r' = r
        · subst hr
          cases Option.some.inj (hs.old.symm.trans hy)
          exact ⟨r', tcb', hr', hs.self, hs.socketId.trans hysid, armed hyarmed⟩
        · exact ⟨r', y, hr', (hs.other hr).trans hy, hysid, hyarmed⟩
      · exact ⟨r, tcb', h.own r tcb hs.old hsid.symm hnot, hs.self,
          hs.socketId.trans hsid.symm, harmed⟩
  | removed tcp tasks =>
    -- the id is not that of the control block: its own socket would have given up
    have hne : id ≠ tcb.socketId := by
      rintro rfl
      have hsame := hends (h.own r tcb hs.old rfl hnot) rfl
      have hnone : t'.stack.core.tcp.sockets tcb.socketId = none := by
        rw [show t'.stack.core.tcp = _ from tcp]
        exact Function.update_self ..
      rw [hnone, h.has.sockets hlive] at hsame
      cases hsame
    refine ⟨?_, hown, fun task htask hdel hcall => ?_⟩
    · rw [heq]
      refine h.has.congr ?_ ?_ <;> rw [show t'.stack.core.tcp = _ from tcp]
      · exact Function.update_of_ne hne ..
      · exact Function.update_of_ne hne ..
    · rw [heq]
      obtain ⟨x, hx, hxd, hxc⟩ := (tasks task htask hdel id hcall).resolve_right hne
      obtain ⟨r', y, hr', hy, hysid, hyarmed⟩ := h.tasks x hx hxd hxc
      have hr : r' ≠ r := by
        rintro rfl
        cases Option.some.inj (hs.old.symm.trans hy)
        exact hne hysid.symm
      exact ⟨r', y, hr', (hs.other hr).trans hy, hysid, hyarmed⟩

/-- **A handler** ends at most its own connection. -/
theorem Inv.handle (h : t.Inv) (i : Nat) : (t.step (.handle i)).Inv := by
  have hheld := fun so => (t.holding so).endBy_cases (t.stack.EndsByEvent i)
  rcases t.stack.handle_cases i with hstill | ⟨ev, r, tcb, tcb', hev, hto, hs, hrun⟩
  · exact h.still hstill fun so => (hheld so).imp_left And.left
  have href : tcb.ref = r := h.refs r tcb hs.old
  by_cases hover : t.stack.Over tcb
  · exact h.still (hover.still hev (href ▸ hto) hs hrun) fun so => (hheld so).imp_left And.left
  refine ⟨?_, ?_, ?_⟩
  · intro so hnone
    have hnot := h.unmade so ((congrFun hs.ids so).symm.trans hnone)
    exact (hheld so).elim (fun heq => heq.1.trans hnot) fun hnot => hnot
  · intro r' x hx
    by_cases hr' : r' = r
    · subst hr'
      cases Option.some.inj (hs.self.symm.trans hx)
      exact hs.ref.trans href
    · exact h.refs r' x ((hs.other hr').symm.trans hx)
  · intro so id hso hlive
    obtain ⟨heq, hends⟩ := (hheld so).resolve_right hlive
    have hlive' : t.holding so ≠ .nothing := by
      rw [← heq]
      exact hlive
    refine (h.secure so id ((congrFun hs.ids so).symm.trans hso) hlive').handled hs
      hover hlive' heq ?_
    intro hr hsid
    by_contra hne
    have := Stack.endsByEvent_of_removed hev hto hs.old hs.self (hsid ▸ hne)
    exact absurd ((hends r hr).symm.trans this) (by simp)

/-- **A timer callback** ends at most its own connection. -/
theorem Inv.fire (h : t.Inv) (i : Nat) : (t.step (.fire i)).Inv := by
  have hheld := fun so => (t.holding so).endBy_cases (t.stack.EndsByTimer i)
  rcases t.stack.fire_cases i with hstill | ⟨task, timer, id₀, hpop, hdel, hcall, hstack⟩
  · exact h.still hstill fun so => (hheld so).imp_left And.left
  obtain ⟨htask, htasks⟩ := Timer.popDue_mem hpop
  have hstack : (t.step (.fire i)).stack = t.stack.onCore fun k =>
    (k.setTimer timer).setTcp (k.tcp.remove id₀) := hstack
  refine ⟨?_, ?_, ?_⟩
  · intro so hnone
    rw [hstack] at hnone
    exact (hheld so).elim (fun heq => heq.1.trans (h.unmade so hnone)) fun hnot => hnot
  · rw [hstack]
    exact h.refs
  · intro so id hso hlive
    rw [hstack] at hso
    obtain ⟨heq, hends⟩ := (hheld so).resolve_right hlive
    have hlive' : t.holding so ≠ .nothing := by
      rw [← heq]
      exact hlive
    have hsec := h.secure so id hso hlive'
    -- the task of its own `TIME_WAIT` would have made the socket give up
    have hid : id ≠ id₀ := by
      rintro rfl
      obtain ⟨r, tcb, hr, htcb, hsid, harmed⟩ := hsec.tasks task htask hdel hcall
      have : t.stack.EndsByTimer i r = true := by
        simp only [Stack.EndsByTimer, hpop, htcb, hdel, hcall, hsid, Bool.not_false, Bool.true_and,
          decide_true, Option.isSome_iff_ne_none]
        exact harmed
      exact absurd ((hends r hr).symm.trans this) (by simp)
    refine hsec.congr heq ?_ ?_ (by rw [hstack]; rfl) (fun x hx => ?_) (by rw [hstack]; rfl)
    · rw [hstack]
      exact Function.update_of_ne hid ..
    · rw [hstack]
      exact Function.update_of_ne hid ..
    · rw [hstack] at hx
      exact htasks x hx

theorem Inv.bind (h : t.Inv) {so : Nat} {address : Option Nat} {port : Nat}
    (hok : t.Apart (.bind so address port)) : (t.step (.bind so address port)).Inv := by
  cases hx : t.stack.sockets[so]? with
  | none =>
    refine h.still ?_ fun i => .inl ?_
    · simp only [step, Stack.step, hx, Option.elim_none]
      exact .refl t.stack
    · simp only [step, held, hx, Option.bind_none]
  | some x =>
    have hstack : (t.step (.bind so address port)).stack = t.stack.tcpBind so x address port := by
      simp only [step, Stack.step, hx, Option.elim_some]
    cases hid : t.stack.bindId so x address port with
    | none =>
      refine h.still (hstack ▸ .tcpBind hx hid) fun i => .inl ?_
      simp only [step, held, hx, Option.bind_some, hid]
    | some id =>
      refine h.register .bound (hstack ▸ Stack.tcpBind_registers hx hid) ?_ (.inl rfl)
        (hok x hx id hid).1 (fun o ho => by cases ho)
      simp only [step, held, hx, Option.bind_some, hid]

theorem Inv.connect (h : t.Inv) {so : Nat} {address : Option Nat} {port picked : Nat}
    (hok : t.Apart (.connect so address port picked)) :
    (t.step (.connect so address port picked)).Inv := by
  cases hx : t.stack.sockets[so]? with
  | none =>
    refine h.still ?_ fun i => .inl ?_
    · simp only [step, Stack.step, hx, Option.elim_none]
      exact .refl t.stack
    · simp only [step, held, hx, Option.bind_none]
  | some x =>
    have hstack : (t.step (.connect so address port picked)).stack =
        t.stack.tcpConnect so x address port picked := by
      simp only [step, Stack.step, hx, Option.elim_some]
    cases hid : t.stack.connectId x address port picked with
    | none =>
      refine h.still (hstack ▸ .tcpConnect hx hid) fun i => .inl ?_
      simp only [step, held, hx, Option.bind_some, hid]
    | some id =>
      obtain ⟨hfree, hunheld⟩ := hok x hx id hid
      refine h.register .connecting (hstack ▸ Stack.tcpConnect_registers hx hid) ?_ (.inr rfl)
        hfree (fun o ho => ?_)
      · simp only [step, held, hx, Option.bind_some, hid]
      · simp only [Stack.connectOld] at ho
        split at ho
        · cases ho
        · next hport =>
          cases ho
          exact hunheld hport

theorem Inv.resume (h : t.Inv) {k iss : Nat} (hok : t.Apart (.resume k iss)) :
    (t.step (.resume k iss)).Inv := by
  by_cases hcall : ∃ so, t.stack.calls[k]? = some (.connecting so)
  · obtain ⟨so, hk⟩ := hcall
    simp only [Apart, hk, MayOpen] at hok
    have hheld : (t.step (.resume k iss)).holding = if t.holding so = .nothing then t.holding
        else Function.update t.holding so (.connected t.stack.tcbs.length) := by
      simp only [step, held, hk]
    cases hx : t.stack.sockets[so]? with
    | none =>
      have hnot : t.holding so = .nothing := h.unmade so (by simp [Stack.sockIdOf, hx])
      refine h.still ?_ fun i => .inl (by rw [hheld, if_pos hnot])
      simp only [step, Stack.step, Stack.resume, hk, hx, Option.elim_none]
      exact .of_eq rfl rfl rfl rfl rfl
    | some x =>
      obtain ⟨hid, hfree⟩ := hok x hx
      have hstack : (t.step (.resume k iss)).stack =
          { t.stack with calls := t.stack.calls.eraseIdx k }.connectTcpcb so x iss := by
        simp only [step, Stack.step, Stack.resume, hk, hx, Option.elim_some]
      obtain ⟨tcb, hopens⟩ := t.stack.connectTcpcb_opens (t.stack.calls.eraseIdx k) so iss hid
      refine h.opens (hstack ▸ hopens) ?_ hfree hheld
      rw [Stack.sockIdOf, hx]
      rfl
  · rw [not_exists] at hcall
    refine h.still (.resume t.stack k iss hcall) fun i => .inl ?_
    simp only [step, held]

/-- **One step** that meets the condition keeps the invariant. -/
theorem Inv.step (h : t.Inv) {e : StackEvent} (hok : t.Apart e) : (t.step e).Inv := by
  have hkeep : ∀ so, t.holding so = t.holding so ∨ t.holding so = .nothing := fun _ => .inl rfl
  have hso : ∀ (so : Nat) {f : TCPSocket → Stack},
      (∀ x, t.stack.sockets[so]? = some x → t.stack.Still (f x)) →
      t.stack.Still (t.stack.sockets[so]?.elim t.stack f) := by
    intro so f hf
    cases hx : t.stack.sockets[so]? with
    | none => exact .refl t.stack
    | some x => exact hf x hx
  cases e with
  | socket => exact h.still (.socket t.stack) hkeep
  | setsockopt so l =>
    refine h.still (hso so fun x hx => ?_) hkeep
    exact .of_set hx { x with soLinger := l } rfl rfl rfl rfl rfl rfl
  | bind so address port => exact h.bind hok
  | connect so address port picked => exact h.connect hok
  | send so data => exact h.still (hso so fun x _ => .tcpSend t.stack so x data) hkeep
  | recv so bufsize => exact h.still (hso so fun x _ => .tcpRecv t.stack so x bufsize) hkeep
  | close so =>
    cases hx : t.stack.sockets[so]? with
    | some x =>
      refine h.close hx (hok x hx) ?_ rfl
      simp only [TableRun.step, Stack.step, hx, Option.elim_some]
    | none =>
      refine h.still ?_ fun i => ?_
      · simp only [TableRun.step, Stack.step, hx, Option.elim_none]
        exact .refl t.stack
      · simp only [TableRun.step, held, Function.update_apply]
        split
        · exact .inr rfl
        · exact .inl rfl
  | shutdown so => exact h.still (hso so fun x _ => .tcpShutdown t.stack so x) hkeep
  | resume k iss => exact h.resume hok
  | timeout k => exact h.still (.timeout t.stack k) hkeep
  | rxTcp src dst packet => exact h.still (.rxTcp t.stack src dst packet) hkeep
  | fire i => exact h.fire i
  | handle i => exact h.handle i
  | tick ns => exact h.still (.of_eq rfl rfl rfl rfl rfl) hkeep

end TableRun

/-- **One entry per live socket.** In every state of a run whose steps meet the condition, every
socket has what it should have in the tables, under its own id. -/
theorem entries_kept (ip : Option Nat) {es : List StackEvent}
    (h : Guarded TableRun.step TableRun.Apart (.new ip) es) {pre : List StackEvent}
    (hpre : pre <+: es) :
    (run TableRun.step (.new ip) pre).EntriesKept :=
  (run_inv (I := TableRun.Inv) (fun _ _ h hok => h.step hok) (TableRun.inv_new ip)
    (h.of_prefix hpre)).kept

/-- Two sockets: the first one binds and connects, the second one connects from an ephemeral port,
and each gets its control block. -/
def openBoth : List StackEvent :=
  [.socket, .socket, .bind 0 (some 1) 5000, .connect 0 (some 2) 80 0, .connect 1 (some 2) 80 40000,
    .resume 1 9, .resume 0 7]

theorem entries_kept_openBoth :
    (run TableRun.step (.new (some 1)) openBoth).holding 0 = .connected 1 ∧
      (run TableRun.step (.new (some 1)) openBoth).holding 1 = .connected 0 ∧
      (run TableRun.step (.new (some 1)) openBoth).EntriesKept := by
  have h : Guarded TableRun.step TableRun.Apart (.new (some 1)) openBoth := by decide
  exact ⟨by decide, by decide, entries_kept (some 1) h (List.prefix_refl _)⟩

/-- One socket connects from an ephemeral port. Another one binds the same port, which no bind has
used, and connects to the same remote: its id is that of the first connection, and the table forgets
the first. -/
theorem connected_socket_overwritten :
    (run TableRun.step (.new (some 1)) [.socket, .socket, .connect 0 (some 2) 80 40000, .resume 0 7,
        .bind 1 (some 1) 40000, .connect 1 (some 2) 80 0]).holding 0 = .connected 0 ∧
      ¬ (run TableRun.step (.new (some 1)) [.socket, .socket,
        .connect 0 (some 2) 80 40000, .resume 0 7,
        .bind 1 (some 1) 40000, .connect 1 (some 2) 80 0]).EntriesKept := by
  refine ⟨by decide, fun h => ?_⟩
  have hsock := (h 0 ⟨1, 40000, 2, 80⟩ (by decide)).sockets (by decide)
  exact absurd hsock (by decide)

end Tipy.Tcp
