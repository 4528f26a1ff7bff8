import Tipy.Tcp.HandlerRule

/-!
# What a handler refers to

Timer tasks and the table of control blocks refer to control blocks. A handler works on one of them
and makes no reference to another: `Confined` is stable, so the rule for handlers applies to it.
-/

namespace Tipy.Tcp

open Tipy.Components

/-- From the core `k` on, a handler of the control block `ref` made no reference to another one:
neither a timer task nor an entry of the table. -/
structure Conn.Confined (k : Core) (ref : Nat) (c : Conn) : Prop where
  ref_eq : c.tcb.ref = ref
  tasks : ∀ task ∈ c.core.timer.tasks, ∀ r, task.call = .rtx r →
    r = ref ∨ ∃ x ∈ k.timer.tasks, x.call = .rtx r
  table : ∀ id r, c.core.tcp.tcpcbs id = some r → k.tcp.tcpcbs id = some r

namespace Conn.Confined

variable {k : Core} {ref : Nat} {c c' : Conn}

theorem refl (c : Conn) : Confined c.core c.tcb.ref c :=
  ⟨rfl, fun task htask _ hcall => Or.inr ⟨task, htask, hcall⟩, fun _ _ h => h⟩

theorem congr (h : Confined k ref c) (href : c'.tcb.ref = c.tcb.ref)
    (htimer : c'.core.timer = c.core.timer) (htcp : c'.core.tcp = c.core.tcp) :
    Confined k ref c' := by
  refine ⟨href.trans h.ref_eq, ?_, ?_⟩
  · rw [htimer]
    exact h.tasks
  · rw [htcp]
    exact h.table

/-- A new task of this control block. -/
theorem schedule (h : Confined k ref c) (expireAfter : ℚ) (call : TimerCall)
    (hcall : ∀ r, call = .rtx r → r = ref) (href : c'.tcb.ref = c.tcb.ref)
    (hcore : c'.core = (c.core.scheduleTimer expireAfter call).2) : Confined k ref c' := by
  refine ⟨href.trans h.ref_eq, fun task htask r hr => ?_, ?_⟩
  · simp only [hcore, Core.scheduleTimer_snd, Core.setTimer_timer, Timer.scheduleTimer] at htask
    rcases List.mem_append.1 htask with htask | htask
    · exact h.tasks task htask r hr
    · rw [List.mem_singleton.1 htask] at hr
      exact Or.inl (hcall r hr)
  · rw [hcore]
    exact h.table

theorem removeTimer (h : Confined k ref c) (id : Option Nat) :
    Confined k ref (c.removeTimer id) := by
  cases id with
  | none => exact h
  | some id =>
    refine ⟨h.ref_eq, fun task htask r hr => ?_, h.table⟩
    obtain ⟨x, hx, rfl⟩ := List.mem_map.1 htask
    refine h.tasks x hx r ?_
    split at hr <;> exact hr

theorem removeTcpcb (h : Confined k ref c) : Confined k ref c.removeTcpcb := by
  refine ⟨h.ref_eq, h.tasks, fun id r hr => h.table id r ?_⟩
  simp only [Conn.removeTcpcb_core, Core.setTcp_tcp, TCPTable.remove] at hr
  by_cases hid : id = c.tcb.socketId
  · subst hid
    simp at hr
  · rwa [Function.update_of_ne hid] at hr

theorem stopRtxTimer (h : Confined k ref c) : Confined k ref c.stopRtxTimer :=
  (h.removeTimer c.tcb.rtxTimer).congr (by simp) (by simp) (by simp)

theorem stopTimeWaitTimer (h : Confined k ref c) : Confined k ref c.stopTimeWaitTimer :=
  (h.removeTimer c.tcb.timeWaitTimer).congr (by simp) (by simp) (by simp)

theorem startTimeWaitTimer (h : Confined k ref c) : Confined k ref c.startTimeWaitTimer :=
  h.schedule TIME_WAIT_TIMEOUT _ (fun _ hr => by cases hr) rfl rfl

theorem stable : Conn.Stable (Confined k ref) where
  congr h hfixed _ htimer htcp := h.congr (congrArg (·.1) hfixed) htimer htcp
  startRtxTimer {c} h := by
    unfold Conn.startRtxTimer
    split
    · refine h.schedule c.tcb.rto.rto (.rtx c.tcb.ref) (fun r hr => ?_) rfl rfl
      cases hr
      exact h.ref_eq
    · exact h
  restartRtxTimer {c} h := by
    refine (h.removeTimer c.tcb.rtxTimer).schedule c.tcb.rto.rto (.rtx c.tcb.ref)
      (fun r hr => ?_) (by simp) (by simp)
    cases hr
    exact h.ref_eq
  stopRtxTimer h := h.stopRtxTimer
  startTimeWaitTimer h := h.startTimeWaitTimer
  restartTimeWaitTimer h := h.stopTimeWaitTimer.startTimeWaitTimer
  tearDown h := h.stopRtxTimer.stopTimeWaitTimer.removeTcpcb

/-- **A handler** makes no reference to another control block. -/
theorem eventsMap (c : Conn) (type : TCPEventType) :
    Confined c.core c.tcb.ref (c.eventsMap type).st :=
  (Conn.Kept.eventsMap ⟨stable, .refl c⟩ type).holds

end Conn.Confined

end Tipy.Tcp
