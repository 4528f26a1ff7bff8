import Mathlib.Data.List.Nodup
import Mathlib.Tactic.Linarith
import Tipy.Ip.ReassSession
import Tipy.Lib.Runs

/-!
# The timers of the reassembly

The RX thread and the timer thread meet in `fragments_cache`. `_ip_reass` takes its lock twice, once
to make the entry and once to fill it, and the timer loop works in three steps: it takes the tasks
that are due off the heap, looks at the mark of each, and runs the callback, which waits for the
lock. Any of these steps may come between two others. In every state that is reached so, an entry of
the cache has a task of its own that is not marked and will pop it (`reass_never_leaks`), also when
calls of `_ip_reass` have raised in the middle.
-/

namespace Tipy.Ip

open Tipy.Components Tipy.Lib

/-! ## The two halves of `_ip_reass` -/

/-- `_ip_reass` from where it takes the lock: the entry may be gone by then. -/
def ipReassFill (s : ReassState) (p : IPParser) : ReassOutcome :=
  match s.fragmentsCache p.bufferId with
  | none => (s, .error .keyError)
  | some res =>
    if p.flagMf = false then ipReassLast s p p.bufferId res
    else if res.last then ipReassAfterLast s p p.bufferId res
    else ipReassBeforeLast s p p.bufferId res

theorem ipReass_eq_fill (s : ReassState) (p : IPParser) :
    ipReass s p = ipReassFill (allocIpReassMem s p p.bufferId) p := rfl

/-- What a callback does: `_reass_timer_exceeded`, without the ICMP message it sends. -/
def ReassCall.run : ReassCall → ReassState → ReassState
  | .reassTimerExceeded _ k, s => deallocIpReassMem s k

/-! ## The threads -/

/-- The state of the two threads. The tasks in `state.timer` are those whose callback has not come
to its end: they are on the heap, or taken off it (`ready`), or found unmarked and waiting for the
lock (`started`). `filling` has the packet of a call between its two halves. For each id `heard`
says when the last fragment for it was received. -/
structure ReassThreads where
  state : ReassState
  filling : Option IPParser
  ready : List Nat
  started : List Nat
  heard : BufferId → Int

/-- The steps of the two threads. -/
inductive ReassEvent where
  | arrive (p : IPParser)
  | fill
  | pop (i : Nat)
  | start (id : Nat)
  | callback (id : Nat)
  | elapse (ms : Nat)

namespace ReassThreads

/-- A stack that has received no fragment. -/
def new (nowMs : Int) : ReassThreads := ⟨⟨fun _ => none, .new, nowMs⟩, none, [], [], fun _ => nowMs⟩

variable (t : ReassThreads)

/-- A fragment for `k` is received now. -/
def hear (k : BufferId) : ReassThreads :=
  { t with heard := Function.update t.heard k t.state.nowMs }

/-- A task is done with. -/
def dropTask (id : Nat) : ReassThreads :=
  { t with state := { t.state with timer :=
      { t.state.timer with tasks := t.state.timer.tasks.filter (·.id ≠ id) } } }

/-- The task with this number. -/
def taskOf (id : Nat) : Option (TimerTask ReassCall) := t.state.timer.tasks.find? (·.id = id)

def step (t : ReassThreads) : ReassEvent → ReassThreads
  | .arrive p =>
    if t.filling = none then
      { t.hear p.bufferId with
        state := allocIpReassMem t.state p p.bufferId
        filling := some p }
    else t
  | .fill =>
    match t.filling with
    | some p => { t.hear p.bufferId with state := (ipReassFill t.state p).1, filling := none }
    | none => t
  | .pop i =>
    match t.state.timer.tasks[i]? with
    | some task =>
      if task.executeAtMs ≤ t.state.nowMs ∧ task.id ∉ t.ready ∧ task.id ∉ t.started then
        { t with ready := t.ready ++ [task.id] }
      else t
    | none => t
  | .start id =>
    if id ∈ t.ready then
      let t := { t with ready := t.ready.erase id }
      match t.taskOf id with
      | some task => if task.deleted then t.dropTask id else { t with started := t.started ++ [id] }
      | none => t
    else t
  | .callback id =>
    if id ∈ t.started then
      let t := { t with started := t.started.erase id }
      match t.taskOf id with
      | some task => { t with state := task.call.run (t.dropTask id).state }
      | none => t
    else t
  | .elapse ms => { t with state := { t.state with nowMs := t.state.nowMs + ms } }

/-- With no other step between its two halves, a call of the RX thread is `_ip_reass`. -/
theorem step_fill_arrive (h : t.filling = none) (p : IPParser) :
    ((t.step (.arrive p)).step .fill).state = (ipReass t.state p).1 := by
  rw [ipReass_eq_fill]
  simp [step, h, hear]

end ReassThreads

/-! ## What the two halves do to the timers -/

/-- What the first half does: nothing, or it makes an entry and a timer for it. -/
theorem allocIpReassMem_cases (s : ReassState) (p : IPParser) (k : BufferId) :
    allocIpReassMem s p k = s ∨
      s.fragmentsCache k = none ∧ allocIpReassMem s p k = ipReassTimer s p k freshResources := by
  unfold allocIpReassMem
  split
  · next h => exact .inr ⟨h, rfl⟩
  · exact .inl rfl

/-- What the second half does to the timer of the entry it works on: nothing, when it raises; the
timer is marked and the entry is gone, when the datagram is complete; else the timer is marked and
another one is started. -/
inductive FillStep (s : ReassState) (p : IPParser) (k : BufferId) (res : ReassResources) :
    ReassState → Prop
  | raised (res' : ReassResources) (htimer : res'.timer = res.timer) :
    FillStep s p k res (s.put k res')
  | complete (res' : ReassResources) : FillStep s p k res
      (deallocIpReassMem ({ s with timer := s.timer.remove res.timer }.put k res') k)
  | restarted (res' : ReassResources) : FillStep s p k res
      (ipReassTimer { s with timer := s.timer.remove res.timer } p k res')

section Fill

variable {s : ReassState} {p : IPParser} {k : BufferId} {res res' : ReassResources}

theorem fillStep_finishReass (htimer : res'.timer = res.timer) :
    FillStep s p k res (finishReass s p k res').1 := by
  unfold finishReass
  rw [htimer]
  dsimp only
  split
  · exact .complete res'
  · exact .restarted res'

theorem fillStep_ipReassLast : FillStep s p k res (ipReassLast s p k res).1 := by
  unfold ipReassLast
  dsimp only
  split
  · exact .raised _ rfl
  · split
    · exact .raised _ rfl
    · split
      · exact .raised _ rfl
      · split
        · exact .raised _ rfl
        · split
          · exact .raised _ rfl
          · exact fillStep_finishReass rfl

theorem fillStep_ipReassAfterLast : FillStep s p k res (ipReassAfterLast s p k res).1 := by
  unfold ipReassAfterLast
  split
  · exact .raised _ rfl
  · dsimp only
    split
    · exact .raised _ rfl
    · exact fillStep_finishReass rfl

theorem fillStep_ipReassBeforeLast : FillStep s p k res (ipReassBeforeLast s p k res).1 := by
  unfold ipReassBeforeLast
  dsimp only
  split
  · exact .raised _ rfl
  · exact .restarted _

theorem ipReassFill_cases (s : ReassState) (p : IPParser) :
    (ipReassFill s p).1 = s ∨ ∃ res, s.fragmentsCache p.bufferId = some res ∧
      FillStep s p p.bufferId res (ipReassFill s p).1 := by
  unfold ipReassFill
  split
  · exact .inl rfl
  · next res hres =>
    refine .inr ⟨res, hres, ?_⟩
    split
    · exact fillStep_ipReassLast
    · split
      · exact fillStep_ipReassAfterLast
      · exact fillStep_ipReassBeforeLast

end Fill

/-! ## The invariant -/

namespace ReassThreads

/-- A task that guards the entry of `k`: it is not marked, its callback pops the entry, and it is
due at most `DEFRAGMENTATION_TIMEOUT` after the last fragment for `k`. -/
structure Guards (t : ReassThreads) (k : BufferId) (task : TimerTask ReassCall) : Prop where
  unmarked : task.deleted = false
  pops : ∃ p, task.call = .reassTimerExceeded p k
  due : task.executeAtMs ≤ t.heard k + DEFRAGMENTATION_TIMEOUT * 1000

/-- The entry of each id has its timer among the tasks, and the timer guards it. -/
structure Timed (t : ReassThreads) : Prop where
  numbered : t.state.timer.Numbered
  heard_le : ∀ k, t.heard k ≤ t.state.nowMs
  timed : ∀ k res, t.state.fragmentsCache k = some res →
    ∃ task ∈ t.state.timer.tasks, task.id = res.timer ∧ t.Guards k task

section Invariant

variable {t t' : ReassThreads} {k : BufferId}

theorem timed_new (nowMs : Int) : (new nowMs).Timed :=
  ⟨Timer.numbered_new, fun _ => le_rfl, fun _ _ h => nomatch h⟩

theorem Guards.mono {task : TimerTask ReassCall} (h : t.Guards k task)
    (hle : t.heard k ≤ t'.heard k) :
    t'.Guards k task := by
  have hcast : (t.heard k : ℚ) ≤ t'.heard k := by exact_mod_cast hle
  exact ⟨h.unmarked, h.pops, h.due.trans (by linarith)⟩

/-- A task guards one entry only. -/
theorem Guards.id_ne {k' : BufferId} {task task' : TimerTask ReassCall} (h : t.Timed)
    (hmem : task ∈ t.state.timer.tasks) (hmem' : task' ∈ t.state.timer.tasks) (hg : t.Guards k task)
    (hg' : t.Guards k' task') (hne : k ≠ k') : task.id ≠ task'.id := by
  intro hid
  obtain rfl := h.numbered.eq_of_id hmem hmem' hid
  obtain ⟨p, hp⟩ := hg.pops
  obtain ⟨p', hp'⟩ := hg'.pops
  rw [hp] at hp'
  cases hp'
  exact hne rfl

theorem heard_le_hear (h : ∀ k, t.heard k ≤ t.state.nowMs) (k k' : BufferId) :
    t.heard k' ≤ (t.hear k).heard k' ∧ (t.hear k).heard k' ≤ t.state.nowMs := by
  by_cases hk : k' = k
  · subst hk
    simp only [hear, Function.update_self]
    exact ⟨h k', le_rfl⟩
  · simp only [hear, Function.update_of_ne hk]
    exact ⟨le_rfl, h k'⟩

/-- Hearing a fragment lets a timer be due later. -/
theorem Timed.hear (h : t.Timed) (k : BufferId) : (t.hear k).Timed := by
  refine ⟨h.numbered, fun k' => (heard_le_hear h.heard_le k k').2, ?_⟩
  intro k' res hres
  obtain ⟨task, hmem, hid, hg⟩ := h.timed k' res hres
  exact ⟨task, hmem, hid, hg.mono (heard_le_hear h.heard_le k k').1⟩

/-- The task that is started now guards the entry it is started for. -/
theorem guards_scheduleTimer (hheard : t.heard k = t.state.nowMs) (p : IPParser) (id : Nat) :
    t.Guards k ⟨id, t.state.nowMs, DEFRAGMENTATION_TIMEOUT, .reassTimerExceeded p k, false⟩ :=
  ⟨rfl, ⟨p, rfl⟩, by rw [hheard, TimerTask.executeAtMs]⟩

/-- A new timer for the entry of `k`, when the timers of the other entries are left alone. -/
theorem Timed.ipReassTimer {s : ReassState} {p : IPParser} {res : ReassResources} (h : t.Timed)
    (hheard : t.heard k = t.state.nowMs) (hnow : s.nowMs = t.state.nowMs)
    (hcache : s.fragmentsCache = t.state.fragmentsCache) (hnum : s.timer.Numbered)
    (hsub : ∀ task ∈ t.state.timer.tasks, ∀ k', k' ≠ k → t.Guards k' task → task ∈ s.timer.tasks) :
    ({ t with state := Ip.ipReassTimer s p k res } : ReassThreads).Timed := by
  refine ⟨hnum.scheduleTimer _ _ _, fun k' => (h.heard_le k').trans_eq hnow.symm, ?_⟩
  intro k' res' hres'
  by_cases hk : k' = k
  · subst hk
    rw [ipReassTimer_self] at hres'
    obtain rfl := Option.some.inj hres'
    refine ⟨⟨s.timer.counter, s.nowMs, DEFRAGMENTATION_TIMEOUT, .reassTimerExceeded p k',
      false⟩, ?_, rfl, ?_⟩
    · exact List.mem_append_right _ (List.mem_singleton_self _)
    · have hg := guards_scheduleTimer hheard p s.timer.counter
      rw [hnow]
      exact ⟨hg.unmarked, hg.pops, hg.due⟩
  · have hres : t.state.fragmentsCache k' = some res' := by
      rw [← hcache]
      simpa only [Ip.ipReassTimer, ReassState.put, Function.update_of_ne hk] using hres'
    obtain ⟨task, hmem, hid, hg⟩ := h.timed k' res' hres
    exact ⟨task, List.mem_append_left _ (hsub task hmem k' hk hg), hid, hg.unmarked,
      hg.pops, hg.due⟩

theorem Timed.alloc (h : t.Timed) (p : IPParser) (hheard : t.heard p.bufferId = t.state.nowMs) :
    ({ t with state := allocIpReassMem t.state p p.bufferId } : ReassThreads).Timed := by
  rcases allocIpReassMem_cases t.state p p.bufferId with hsame | ⟨-, hmade⟩
  · rw [hsame]
    exact h
  · rw [hmade]
    exact h.ipReassTimer hheard rfl rfl h.numbered fun _ hmem _ _ _ => hmem

/-- The second half keeps the invariant, whether it raises or not. -/
theorem Timed.fillStep {p : IPParser} {res : ReassResources} {s' : ReassState} (h : t.Timed)
    (hheard : t.heard k = t.state.nowMs) (hres : t.state.fragmentsCache k = some res)
    (hstep : FillStep t.state p k res s') : ({ t with state := s' } : ReassThreads).Timed := by
  obtain ⟨own, hown, hownid, howng⟩ := h.timed k res hres
  have hother : ∀ task ∈ t.state.timer.tasks, ∀ k', k' ≠ k → t.Guards k' task →
      task ∈ (t.state.timer.remove res.timer).tasks := fun task hmem k' hk hg =>
    Timer.mem_remove_of_ne hmem (hownid ▸ Guards.id_ne h hmem hown hg howng hk)
  cases hstep with
  | raised res' htimer =>
    refine ⟨h.numbered, h.heard_le, fun k' res'' hres'' => ?_⟩
    by_cases hk : k' = k
    · subst hk
      rw [put_self] at hres''
      obtain rfl := Option.some.inj hres''
      exact ⟨own, hown, hownid.trans htimer.symm, howng.unmarked, howng.pops, howng.due⟩
    · simp only [ReassState.put, Function.update_of_ne hk] at hres''
      obtain ⟨task, hmem, hid, hg⟩ := h.timed k' res'' hres''
      exact ⟨task, hmem, hid, hg.unmarked, hg.pops, hg.due⟩
  | complete res' =>
    refine ⟨h.numbered.remove _, h.heard_le, fun k' res'' hres'' => ?_⟩
    by_cases hk : k' = k
    · subst hk
      rw [deallocIpReassMem_self] at hres''
      cases hres''
    · simp only [deallocIpReassMem, ReassState.put, Function.update_of_ne hk] at hres''
      obtain ⟨task, hmem, hid, hg⟩ := h.timed k' res'' hres''
      exact ⟨task, hother task hmem k' hk hg, hid, hg.unmarked, hg.pops, hg.due⟩
  | restarted res' => exact h.ipReassTimer hheard rfl rfl (h.numbered.remove _) hother

/-- A task that is done with, when no entry is left that it guards. -/
theorem Timed.dropTask (h : t.Timed) (id : Nat) (hheard : t'.heard = t.heard)
    (hnow : t'.state.nowMs = t.state.nowMs) (htimer : t'.state.timer = (t.dropTask id).state.timer)
    (hcache : ∀ k res, t'.state.fragmentsCache k = some res →
      t.state.fragmentsCache k = some res ∧ res.timer ≠ id) : t'.Timed := by
  refine ⟨htimer ▸ h.numbered.filter _, fun k => ?_, fun k res hres => ?_⟩
  · rw [hheard, hnow]
    exact h.heard_le k
  · obtain ⟨hres, hne⟩ := hcache k res hres
    obtain ⟨task, hmem, hid, hg⟩ := h.timed k res hres
    refine ⟨task, ?_, hid, hg.mono (by rw [hheard])⟩
    rw [htimer]
    exact List.mem_filter.2 ⟨hmem, by simpa [hid] using hne⟩

theorem Timed.congr (h : t.Timed) (hstate : t'.state = t.state) (hheard : t'.heard = t.heard) :
    t'.Timed := by
  refine ⟨hstate ▸ h.numbered, fun k => by rw [hstate, hheard]; exact h.heard_le k,
    fun k res hres => ?_⟩
  rw [hstate] at hres ⊢
  obtain ⟨task, hmem, hid, hg⟩ := h.timed k res hres
  exact ⟨task, hmem, hid, hg.mono (by rw [hheard])⟩

theorem mem_of_taskOf {id : Nat} {task : TimerTask ReassCall} (h : t.taskOf id = some task) :
    task ∈ t.state.timer.tasks ∧ task.id = id :=
  ⟨List.mem_of_find?_eq_some h, by simpa using List.find?_some h⟩

/-- The task that guards an entry is the one its timer names. -/
theorem Timed.guards_of_timer (h : t.Timed) {res : ReassResources} {task : TimerTask ReassCall}
    (hres : t.state.fragmentsCache k = some res) (hmem : task ∈ t.state.timer.tasks)
    (hid : res.timer = task.id) : t.Guards k task := by
  obtain ⟨own, hown, hownid, hg⟩ := h.timed k res hres
  rwa [h.numbered.eq_of_id hmem hown (hid.symm.trans hownid.symm)]

/-- **Every step keeps the invariant.** -/
theorem Timed.step (h : t.Timed) (e : ReassEvent) : (t.step e).Timed := by
  cases e with
  | arrive p =>
    simp only [ReassThreads.step]
    split
    · exact ((h.hear p.bufferId).alloc p (Function.update_self ..)).congr rfl rfl
    · exact h
  | fill =>
    simp only [ReassThreads.step]
    split
    · next p _ =>
      rcases ipReassFill_cases t.state p with hsame | ⟨res, hres, hfill⟩
      · exact (h.hear p.bufferId).congr hsame rfl
      · exact ((h.hear p.bufferId).fillStep (Function.update_self ..) hres hfill).congr rfl rfl
    · exact h
  | pop i =>
    simp only [ReassThreads.step]
    split
    · split <;> exact h.congr rfl rfl
    · exact h
  | start id =>
    simp only [ReassThreads.step]
    split
    · split
      · next task htask =>
        obtain ⟨hmem, hid⟩ := mem_of_taskOf htask
        split
        · next hdel =>
          refine h.dropTask id rfl rfl rfl fun k res hres => ⟨hres, fun hne => ?_⟩
          have hg := h.guards_of_timer hres hmem (hne.trans hid.symm)
          rw [hg.unmarked] at hdel
          cases hdel
        · exact h.congr rfl rfl
      · exact h.congr rfl rfl
    · exact h
  | callback id =>
    simp only [ReassThreads.step]
    split
    · split
      · next task htask =>
        obtain ⟨hmem, hid⟩ := mem_of_taskOf htask
        cases hcall : task.call with
        | reassTimerExceeded p k' =>
          refine h.dropTask id rfl rfl rfl fun k res hres => ?_
          by_cases hk : k = k'
          · subst hk
            cases (deallocIpReassMem_self _ k).symm.trans hres
          · have hres : t.state.fragmentsCache k = some res := by
              simpa only [ReassCall.run, deallocIpReassMem, Function.update_of_ne hk,
                ReassThreads.dropTask] using hres
            refine ⟨hres, fun hne => hk ?_⟩
            obtain ⟨p', hpops⟩ := (h.guards_of_timer hres hmem (hne.trans hid.symm)).pops
            rw [hcall] at hpops
            cases hpops
            rfl
      · exact h.congr rfl rfl
    · exact h
  | elapse ms =>
    refine ⟨h.numbered, fun k => (h.heard_le k).trans ?_, fun k res hres => ?_⟩
    · simp only [ReassThreads.step]
      omega
    · obtain ⟨task, hmem, hid, hg⟩ := h.timed k res hres
      exact ⟨task, hmem, hid, hg.mono le_rfl⟩

end Invariant

/-- **No reassembly buffer is leaked.** In every state that fragments of any kind, timers and the
passing of time lead to, in any order of the steps of the two threads, an entry of the cache has a
task that is not done with and not marked, whose callback pops the entry, and which is due at most
`DEFRAGMENTATION_TIMEOUT` after the last fragment received for it. -/
theorem reass_never_leaks (nowMs : Int) (es : List ReassEvent) (k : BufferId) :
    let t := run step (new nowMs) es
    t.state.fragmentsCache k ≠ none → ∃ task ∈ t.state.timer.tasks, task.deleted = false ∧
      (∀ s, (task.call.run s).fragmentsCache k = none) ∧
      task.executeAtMs ≤ t.heard k + DEFRAGMENTATION_TIMEOUT * 1000 := by
  intro t hne
  have htimed : t.Timed := run_inv' (fun _ e h => h.step e) (timed_new nowMs) es
  obtain ⟨res, hres⟩ := Option.ne_none_iff_exists'.1 hne
  obtain ⟨task, hmem, -, hg⟩ := htimed.timed k res hres
  obtain ⟨p, hcall⟩ := hg.pops
  refine ⟨task, hmem, hg.unmarked, fun s => ?_, hg.due⟩
  rw [hcall]
  exact deallocIpReassMem_self s k

/-- A last fragment twice, 2 ms later: the second call raises, and the first timer is still there.
-/
theorem reass_never_leaks_repeated :
    let t := run step (new 0) [.arrive (bareFragment false 1 [9, 9, 9]), .fill, .elapse 2,
      .arrive (bareFragment false 1 [9, 9, 9]), .fill]
    t.state.fragmentsCache bareId ≠ none ∧ ∃ task ∈ t.state.timer.tasks, task.deleted = false ∧
      (∀ s, (task.call.run s).fragmentsCache bareId = none) ∧
      task.executeAtMs ≤ t.heard bareId + DEFRAGMENTATION_TIMEOUT * 1000 := by
  have hsome : ((run step (new 0) [.arrive (bareFragment false 1 [9, 9, 9]), .fill, .elapse 2,
      .arrive (bareFragment false 1 [9, 9, 9]), .fill]).state.fragmentsCache bareId).isSome =
          true := by
    decide +kernel
  have hne := Option.isSome_iff_ne_none.1 hsome
  exact ⟨hne, reass_never_leaks 0 _ bareId hne⟩

end ReassThreads

end Tipy.Ip
