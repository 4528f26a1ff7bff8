import Mathlib.Data.Prod.Lex
import Mathlib.Algebra.Order.Field.Rat
import Mathlib.Data.Rat.Floor
import Tipy.Lib.MinHeap
import Tipy.Lib.Runs
import Tipy.Components.Timer

/-!
# The timer thread

`_timer_loop` of `tipy/components/timer.py` beside the threads that call `schedule_timer`,
`TimerTask.remove` and `shutdown`. The loop takes the due tasks off the heap under the lock and
executes them without it; a new task gets its start time before the lock is taken; a task is marked
at any moment. One event is one such step of one thread, or the clock going on.

A task is known by the counter value it was pushed with, so an item of the heap is its deadline and
its number. Times are exact numbers here. `heapq` is any correct min-heap on these items.
-/

namespace Tipy.Components.TimerLoop

open Tipy.Lib

/-- An item of `Timer._tasks`: the deadline in ms and the counter, compared in this order. -/
abbrev Item := ℚ ×ₗ ℕ

def Item.mk (executeAtMs : ℚ) (count : Nat) : Item := toLex (executeAtMs, count)

def Item.executeAtMs (e : Item) : ℚ := (ofLex e).1

def Item.count (e : Item) : Nat := (ofLex e).2

@[simp] theorem Item.executeAtMs_mk (d : ℚ) (n : Nat) : (Item.mk d n).executeAtMs = d := rfl

@[simp] theorem Item.count_mk (d : ℚ) (n : Nat) : (Item.mk d n).count = n := rfl

theorem Item.executeAtMs_le {e e' : Item} (h : e ≤ e') : e.executeAtMs ≤ e'.executeAtMs := by
  rcases (Prod.Lex.le_iff).1 h with hlt | ⟨heq, -⟩
  · exact hlt.le
  · exact heq.le

/-- Where the timer thread stands in `_timer_loop`. -/
inductive Pc where
  /-- at `while not self._stop_thread` -/
  | test
  /-- about to take the lock for the first time -/
  | acquire
  /-- with the lock, at `if not self._tasks` -/
  | inspect
  /-- with the lock, in the inner `while` -/
  | popping (readyTasks : List Item)
  /-- in the `for` loop, with the tasks that are left -/
  | executing (readyTasks : List Item)
  /-- about to take the lock again -/
  | reacquire
  /-- with the lock, before the timeout is computed -/
  | timeout
  /-- in `self._cond.wait`, with its timeout in seconds and the clock reading it began at -/
  | waiting (timeout : Option ℚ) (sinceNs : Nat)
  | stopped
deriving DecidableEq

namespace Pc

/-- The timer thread holds the lock of `_cond`. -/
def locked : Pc → Bool
  | inspect | popping _ | timeout => true
  | _ => false

/-- The tasks taken off the heap and not executed yet. -/
def readyTasks : Pc → List Item
  | popping ready | executing ready => ready
  | _ => []

/-- The timer thread is not in a wait and has popped nothing. -/
def plain : Pc → Bool
  | popping ready => ready.isEmpty
  | waiting _ _ => false
  | _ => true

/-- No task of this iteration has been executed. -/
def collecting : Pc → Bool
  | acquire | inspect | popping _ => true
  | _ => false

end Pc

/-- What the timer and its clients did: `remove` was called, or a callback ran, in which iteration
of the loop, for which task and when. -/
inductive Event where
  | removed (id : Nat)
  | fired (iteration : Nat) (task : Item) (nowMs : Int)
deriving DecidableEq

/-- A call of `schedule_timer` that has made its `TimerTask` and not taken the lock yet. -/
structure Scheduling (κ : Type) where
  startTimeMs : Int
  expireAfterSec : ℚ
  call : κ

/-- The timer, its tasks by their numbers, the threads that use it and what happened so far. -/
structure Sys (κ : Type) where
  clockNs : Nat
  objects : List (TimerTask κ)
  tasks : List Item
  stopThread : Bool
  /-- the wait under way was notified -/
  notified : Bool
  scheduling : List (Scheduling κ)
  pc : Pc
  iteration : Nat
  history : List Event

/-- The timer before its thread starts. -/
def init (κ : Type) (clockNs : Nat) : Sys κ :=
  { clockNs := clockNs, objects := [], tasks := [], stopThread := false, notified := false
    scheduling := [], pc := .test, iteration := 0, history := [] }

section
variable {κ : Type} (Q : MinHeap Item) (s : Sys κ)

/-- `monotonic_ns() // 1_000_000`. -/
def ms (clockNs : Nat) : Int := (clockNs / 1000000 : Nat)

theorem ms_mono {a b : Nat} (h : a ≤ b) : ms a ≤ ms b :=
  Int.ofNat_le.2 (Nat.div_le_div_right h)

/-- `self._cond.wait(timeout)`: the lock is given up. -/
def wait (timeout : Option ℚ) : Sys κ :=
  { s with pc := .waiting timeout s.clockNs, notified := false }

/-- The timeout of the second wait, from the task at the front of the heap. -/
def timeoutFor : List Item → Int → Option ℚ
  | [], _ => none
  | e :: _, nowMs => some (max 0 (e.executeAtMs - nowMs) / 1000)

/-- `TimerTask.execute`. -/
def execute (e : Item) : Sys κ :=
  match s.objects[e.count]? with
  | some task =>
    if task.deleted then s
    else { s with history := s.history ++ [.fired s.iteration e (ms s.clockNs)] }
  | none => s

/-- A wait comes to its end: it was notified, or its timeout has passed. -/
def awake (timeout : Option ℚ) (sinceNs : Nat) : Prop :=
  s.notified ∨ ∃ t, timeout = some t ∧ sinceNs + t * 1000000000 ≤ s.clockNs

instance (timeout : Option ℚ) (sinceNs : Nat) : Decidable (awake s timeout sinceNs) :=
  match timeout with
  | none => decidable_of_iff (s.notified = true) (by simp [awake])
  | some t => decidable_of_iff (s.notified = true ∨ (sinceNs + t * 1000000000 : ℚ) ≤ s.clockNs)
      (by simp [awake])

/-- The next step of `_timer_loop`. -/
def loopStep : Sys κ :=
  match s.pc with
  | .test =>
    if s.stopThread then { s with pc := .stopped }
    else { s with pc := .acquire, iteration := s.iteration + 1 }
  | .acquire => { s with pc := .inspect }
  | .inspect => if s.tasks = [] then wait s none else { s with pc := .popping [] }
  | .popping ready =>
    match s.tasks with
    | [] => { s with pc := .executing ready }
    | front :: _ =>
      if front.executeAtMs ≤ ms s.clockNs then
        match Q.pop s.tasks with
        | some (task, tasks) => { s with tasks := tasks, pc := .popping (ready ++ [task]) }
        | none => s
      else { s with pc := .executing ready }
  | .executing [] => { s with pc := .reacquire }
  | .executing (t :: ready) => { execute s t with pc := .executing ready }
  | .reacquire => { s with pc := .timeout }
  | .timeout => wait s (timeoutFor s.tasks (ms s.clockNs))
  | .waiting timeout sinceNs => if awake s timeout sinceNs then { s with pc := .test } else s
  | .stopped => s

/-- `schedule_timer` up to the lock: the task and its start time. -/
def newTask (expireAfter : ℚ) (call : κ) : Sys κ :=
  { s with scheduling := s.scheduling ++ [⟨ms s.clockNs, expireAfter, call⟩] }

/-- The task a call of `schedule_timer` pushes, under the next number. -/
def numbered (c : Scheduling κ) : TimerTask κ :=
  ⟨s.objects.length, c.startTimeMs, c.expireAfterSec, c.call, false⟩

/-- The `with` block of `schedule_timer`. -/
def pushTask (k : Nat) (c : Scheduling κ) : Sys κ :=
  let task := numbered s c
  { s with
    objects := s.objects ++ [task]
    tasks := Q.push s.tasks (Item.mk task.executeAtMs task.id)
    scheduling := s.scheduling.eraseIdx k
    notified := true }

/-- `TimerTask.remove`. -/
def removeTask (id : Nat) : Sys κ :=
  match s.objects[id]? with
  | some task =>
    { s with
      objects := s.objects.set id { task with deleted := true }
      history := s.history ++ [.removed id] }
  | none => s

/-- `Timer.shutdown`. -/
def shutdown : Sys κ := { s with stopThread := true, notified := true }

end

/-- A step of one of the threads. -/
inductive Action (κ : Type) where
  | elapse (ns : Nat)
  | newTask (expireAfter : ℚ) (call : κ)
  /-- the call at place `k` takes the lock, pushes its task and notifies -/
  | push (k : Nat)
  | remove (id : Nat)
  | shutdown
  | loop

/-- What a step does; a `with` block waits while the timer thread has the lock. -/
def step {κ : Type} (Q : MinHeap Item) (s : Sys κ) : Action κ → Sys κ
  | .elapse ns => { s with clockNs := s.clockNs + ns }
  | .newTask expireAfter call => newTask s expireAfter call
  | .push k =>
    match s.scheduling[k]?, s.pc.locked with
    | some c, false => pushTask Q s k c
    | _, _ => s
  | .remove id => removeTask s id
  | .shutdown => if s.pc.locked then s else shutdown s
  | .loop => loopStep Q s

/-! ## What every run keeps -/

/-- The item stands for a task that was pushed, with that task's deadline. -/
def HasObject {κ : Type} (objects : List (TimerTask κ)) (e : Item) : Prop :=
  ∃ task, objects[e.count]? = some task ∧ task.executeAtMs = e.executeAtMs

/-- What two events may be, the second after the first: a callback does not run after its task was
removed or had run, and in one iteration the callbacks run in the order of the items. -/
def MayFollow : Event → Event → Prop
  | .removed id, .fired _ e _ => id ≠ e.count
  | .fired it e _, .fired it' e' _ => e.count ≠ e'.count ∧ (it = it' → e < e')
  | _, .removed _ => True

/-- The timeout of a wait that began at `sinceNs` is over when the first of the items is due. -/
def Covers (tasks : List Item) (timeout : Option ℚ) (sinceNs : Nat) : Prop :=
  ∀ e ∈ tasks, ∃ t, timeout = some t ∧ ms sinceNs + t * 1000 ≤ max (ms sinceNs : ℚ) e.executeAtMs

/-- The items that wait for their execute step. -/
def Sys.inFlight {κ : Type} (s : Sys κ) : List Item := s.tasks ++ s.pc.readyTasks

section
variable {κ : Type} {Q : MinHeap Item} {s : Sys κ}

/-- The invariant of the timer. -/
structure Inv (Q : MinHeap Item) (s : Sys κ) : Prop where
  heap : Q.IsHeap s.tasks
  nodup : (s.inFlight.map Item.count).Nodup
  object : ∀ e ∈ s.inFlight, HasObject s.objects e
  unfired : ∀ e ∈ s.inFlight, ∀ it e' (t : Int), .fired it e' t ∈ s.history → e'.count ≠ e.count
  due : ∀ e ∈ s.pc.readyTasks, e.executeAtMs ≤ ms s.clockNs
  sorted : s.pc.readyTasks.Pairwise (· < ·)
  front : ∀ ready, s.pc = .popping ready → ∀ r ∈ ready, ∀ e ∈ s.tasks, r < e
  past : ∀ it e (t : Int), .fired it e t ∈ s.history → it ≤ s.iteration ∧
    (it = s.iteration → s.pc.collecting = false ∧ ∀ r ∈ s.pc.readyTasks, e < r)
  fired : ∀ it e (t : Int), .fired it e t ∈ s.history → HasObject s.objects e ∧
    e.executeAtMs ≤ (t : ℚ)
  marked : ∀ id, .removed id ∈ s.history →
    ∃ task, s.objects[id]? = some task ∧ task.deleted = true
  ordered : s.history.Pairwise MayFollow
  covered : ∀ timeout since, s.pc = .waiting timeout since → s.notified = false →
    Covers s.tasks timeout since

theorem inv_init (clockNs : Nat) : Inv Q (init κ clockNs) where
  heap := Q.isHeap_nil
  nodup := List.nodup_nil
  object := by intro e he; cases he
  unfired := by intro e he; cases he
  due := by intro e he; cases he
  sorted := List.Pairwise.nil
  front := by intro ready h; cases h
  past := by intro it e t h; cases h
  fired := by intro it e t h; cases h
  marked := by intro id h; cases h
  ordered := List.Pairwise.nil
  covered := by intro timeout since h; cases h

/-- The timer thread goes on with the same tasks in its hands, in this iteration or at the start of
the next one. -/
theorem Inv.move (h : Inv Q s) {pc : Pc} {iteration : Nat}
    (hready : pc.readyTasks = s.pc.readyTasks)
    (hplain : pc.plain = true) (hit : s.iteration ≤ iteration)
    (hnew : pc.collecting = true → s.pc.collecting = true ∨ s.iteration < iteration) :
    Inv Q { s with pc := pc, iteration := iteration } := by
  have hflight : Sys.inFlight { s with pc := pc, iteration := iteration } = s.inFlight := by
    simp only [Sys.inFlight, hready]
  refine
    { heap := h.heap
      nodup := by rw [hflight]; exact h.nodup
      object := by rw [hflight]; exact h.object
      unfired := by rw [hflight]; exact h.unfired
      due := by rw [hready]; exact h.due
      sorted := by rw [hready]; exact h.sorted
      front := ?_
      past := ?_
      fired := h.fired
      marked := h.marked
      ordered := h.ordered
      covered := ?_ }
  · intro ready hpc r hr
    have hpc' : pc = .popping ready := hpc
    rw [hpc'] at hplain
    rw [List.isEmpty_iff.1 hplain] at hr
    cases hr
  · intro it e t hmem
    obtain ⟨hle, hnow⟩ := h.past it e t hmem
    refine ⟨hle.trans hit, fun heq => ?_⟩
    have hsame : it = s.iteration := le_antisymm hle (heq ▸ hit)
    obtain ⟨hcoll, hlt⟩ := hnow hsame
    refine ⟨?_, by rw [hready]; exact hlt⟩
    cases hc : pc.collecting with
    | false => rfl
    | true =>
      rcases hnew hc with hold | hnext
      · rw [hold] at hcoll
        cases hcoll
      · have heq' : it = iteration := heq
        omega
  · intro timeout since hpc
    have hpc' : pc = .waiting timeout since := hpc
    rw [hpc'] at hplain
    cases hplain

/-- The timer thread goes to wait, with a timeout that covers the heap. -/
theorem Inv.wait (h : Inv Q s) (hready : s.pc.readyTasks = []) {timeout : Option ℚ}
    (hcov : Covers s.tasks timeout s.clockNs) : Inv Q (wait s timeout) := by
  have hflight : (TimerLoop.wait s timeout).inFlight = s.inFlight := by
    simp only [Sys.inFlight, hready]
    rfl
  refine
    { heap := h.heap
      nodup := by rw [hflight]; exact h.nodup
      object := by rw [hflight]; exact h.object
      unfired := by rw [hflight]; exact h.unfired
      due := by intro e he; cases he
      sorted := List.Pairwise.nil
      front := by intro ready hpc; cases hpc
      past := ?_
      fired := h.fired
      marked := h.marked
      ordered := h.ordered
      covered := ?_ }
  · intro it e t hmem
    refine ⟨(h.past it e t hmem).1, fun _ => ⟨rfl, ?_⟩⟩
    intro r hr
    cases hr
  · intro timeout' since hpc _
    cases hpc
    exact hcov

/-- The timeout of the second wait covers the heap. -/
theorem covers_timeoutFor {tasks : List Item} (h : Q.IsHeap tasks) (clockNs : Nat) :
    Covers tasks (timeoutFor tasks (ms clockNs)) clockNs := by
  intro e he
  cases tasks with
  | nil => cases he
  | cons front rest =>
    have hle : front.executeAtMs ≤ e.executeAtMs := Item.executeAtMs_le (Q.front_le_mem h he)
    refine ⟨_, rfl, ?_⟩
    rw [div_mul_cancel₀ _ (by norm_num), add_comm, max_add_add_right .. |>.symm, zero_add,
      sub_add_cancel]
    exact max_le_max_left _ hle

/-- The item at the front of the heap is due and goes to the ready tasks. -/
theorem Inv.pop (h : Inv Q s) {ready : List Item} {e : Item} {tasks : List Item}
    (hpc : s.pc = .popping ready) (hheap : Q.IsHeap tasks) (hperm : s.tasks.Perm (e :: tasks))
    (hfirst : ∀ e' ∈ tasks, e ≤ e') (hdue : e.executeAtMs ≤ ms s.clockNs) :
    Inv Q { s with tasks := tasks, pc := .popping (ready ++ [e]) } := by
  have hready : s.pc.readyTasks = ready := by rw [hpc]; rfl
  have hflight : s.inFlight.Perm
      (Sys.inFlight { s with tasks := tasks, pc := .popping (ready ++ [e]) }) := by
    simp only [Sys.inFlight, hready]
    show (s.tasks ++ ready).Perm (tasks ++ (ready ++ [e]))
    refine (hperm.append_right ready).trans ?_
    rw [← List.append_assoc]
    exact (List.perm_append_singleton e (tasks ++ ready)).symm
  have hmem : e ∈ s.tasks := hperm.mem_iff.2 List.mem_cons_self
  have hkeys : (s.tasks.map Item.count).Nodup :=
    h.nodup.sublist ((List.sublist_append_left ..).map _)
  have hlt : ∀ e' ∈ tasks, e < e' := by
    intro e' he'
    refine lt_of_le_of_ne (hfirst e' he') ?_
    rintro rfl
    have hnodup := (List.nodup_cons.1 ((hperm.map _).nodup_iff.1 hkeys)).1
    exact hnodup (List.mem_map_of_mem he')
  have hfront : ∀ r ∈ ready, r < e := fun r hr => h.front ready hpc r hr e hmem
  refine
    { heap := hheap
      nodup := (hflight.map _).nodup_iff.1 h.nodup
      object := fun x hx => h.object x (hflight.mem_iff.2 hx)
      unfired := fun x hx => h.unfired x (hflight.mem_iff.2 hx)
      due := ?_
      sorted := ?_
      front := ?_
      past := ?_
      fired := h.fired
      marked := h.marked
      ordered := h.ordered
      covered := by intro timeout since hw; cases hw }
  · intro r hr
    rcases List.mem_append.1 hr with hr | hr
    · exact h.due r (hready ▸ hr)
    · rw [List.mem_singleton.1 hr]
      exact hdue
  · refine List.pairwise_append.2 ⟨hready ▸ h.sorted, List.pairwise_singleton .., ?_⟩
    intro r hr e' he'
    rw [List.mem_singleton.1 he']
    exact hfront r hr
  · intro ready' hpc' r hr e' he'
    cases hpc'
    rcases List.mem_append.1 hr with hr | hr
    · exact (hfront r hr).trans (hlt e' he')
    · rw [List.mem_singleton.1 hr]
      exact hlt e' he'
  · intro it e' t hm
    obtain ⟨hle, hnow⟩ := h.past it e' t hm
    refine ⟨hle, fun heq => ?_⟩
    have hcoll := (hnow heq).1
    rw [hpc] at hcoll
    cases hcoll

section Execute

variable {e : Item} {ready : List Item} (hpc : s.pc = .executing (e :: ready))
include hpc

theorem inFlight_executing : s.inFlight.Perm (e :: (s.tasks ++ ready)) := by
  rw [Sys.inFlight, hpc]
  exact List.perm_middle

/-- The next ready task is marked, and passed over. -/
theorem Inv.skip (h : Inv Q s) : Inv Q { s with pc := .executing ready } := by
  have hready : s.pc.readyTasks = e :: ready := by rw [hpc]; rfl
  have hflight := inFlight_executing hpc
  exact
    { heap := h.heap
      nodup := (List.nodup_cons.1 ((hflight.map Item.count).nodup_iff.1 h.nodup)).2
      object := fun x hx => h.object x (hflight.mem_iff.2 (List.mem_cons_of_mem _ hx))
      unfired := fun x hx => h.unfired x (hflight.mem_iff.2 (List.mem_cons_of_mem _ hx))
      due := fun x hx => h.due x (hready ▸ List.mem_cons_of_mem _ hx)
      sorted := (List.pairwise_cons.1 (hready ▸ h.sorted)).2
      front := by intro ready' hp; cases hp
      past := by
        intro it e' t hm
        obtain ⟨hle, hnow⟩ := h.past it e' t hm
        refine ⟨hle, fun heq => ⟨rfl, fun x hx => ?_⟩⟩
        exact (hnow heq).2 x (hready ▸ List.mem_cons_of_mem _ hx)
      fired := h.fired
      marked := h.marked
      ordered := h.ordered
      covered := by intro timeout since hw; cases hw }

/-- Its callback runs. -/
theorem Inv.fire (h : Inv Q s) {task : TimerTask κ} (hget : s.objects[e.count]? = some task)
    (hdl : task.executeAtMs = e.executeAtMs) (hdel : task.deleted ≠ true) :
    Inv Q { s with
      history := s.history ++ [.fired s.iteration e (ms s.clockNs)], pc := .executing ready } := by
  have hready : s.pc.readyTasks = e :: ready := by rw [hpc]; rfl
  have hflight := inFlight_executing hpc
  have hnodup := (hflight.map Item.count).nodup_iff.1 h.nodup
  have hin : e ∈ s.inFlight := hflight.mem_iff.2 List.mem_cons_self
  have hskip := h.skip hpc
  refine
    { hskip with
      unfired := ?_
      past := ?_
      fired := ?_
      marked := ?_
      ordered := ?_
      covered := by intro timeout since hw; cases hw }
  · intro x hx it e' t hm
    rcases List.mem_append.1 hm with hm | hm
    · exact hskip.unfired x hx it e' t hm
    · cases List.mem_singleton.1 hm
      intro heq
      exact (List.nodup_cons.1 hnodup).1 (heq ▸ List.mem_map_of_mem hx)
  · intro it e' t hm
    rcases List.mem_append.1 hm with hm | hm
    · exact hskip.past it e' t hm
    · cases List.mem_singleton.1 hm
      exact ⟨le_rfl, fun _ => ⟨rfl, (List.pairwise_cons.1 (hready ▸ h.sorted)).1⟩⟩
  · intro it e' t hm
    rcases List.mem_append.1 hm with hm | hm
    · exact hskip.fired it e' t hm
    · cases List.mem_singleton.1 hm
      exact ⟨⟨task, hget, hdl⟩, h.due e (hready ▸ List.mem_cons_self)⟩
  · intro id hm
    rcases List.mem_append.1 hm with hm | hm
    · exact h.marked id hm
    · cases List.mem_singleton.1 hm
  · refine List.pairwise_append.2 ⟨h.ordered, List.pairwise_singleton .., ?_⟩
    intro ev hev ev' hev'
    rw [List.mem_singleton.1 hev']
    cases ev with
    | removed id =>
      -- a marked task has its `_deleted` flag set, and this one has not
      rintro rfl
      obtain ⟨task', hget', hdel'⟩ := h.marked _ hev
      rw [hget] at hget'
      cases hget'
      exact hdel hdel'
    | fired it e' t =>
      refine ⟨h.unfired e hin it e' t hev, fun heq => ?_⟩
      exact ((h.past it e' t hev).2 heq).2 e (hready ▸ List.mem_cons_self)

/-- The next ready task is executed: its callback runs if the task is not marked. -/
theorem Inv.execute (h : Inv Q s) : Inv Q { execute s e with pc := .executing ready } := by
  obtain ⟨task, hget, hdl⟩ := h.object e ((inFlight_executing hpc).mem_iff.2 List.mem_cons_self)
  have hexec : TimerLoop.execute s e = if task.deleted then s
      else { s with history := s.history ++ [.fired s.iteration e (ms s.clockNs)] } := by
    rw [TimerLoop.execute, hget]
  rw [hexec]
  split
  · exact h.skip hpc
  · next hdel => exact h.fire hpc hget hdl hdel

end Execute

theorem HasObject.lt_length {objects : List (TimerTask κ)} {e : Item} (h : HasObject objects e) :
    e.count < objects.length := by
  obtain ⟨task, hget, -⟩ := h
  exact (List.getElem?_eq_some_iff.1 hget).1

/-- A new task leaves the items of the others as they are. -/
theorem HasObject.append {objects : List (TimerTask κ)} {e : Item} (h : HasObject objects e)
    (task : TimerTask κ) : HasObject (objects ++ [task]) e := by
  obtain ⟨task', hget, hdl⟩ := h
  exact ⟨task', by rw [List.getElem?_append_left (List.getElem?_eq_some_iff.1 hget).1, hget], hdl⟩

/-- Marking a task does not move a deadline. -/
theorem HasObject.mark {objects : List (TimerTask κ)} {e : Item} (h : HasObject objects e)
    {id : Nat} {task : TimerTask κ} (hget : objects[id]? = some task) :
    HasObject (objects.set id { task with deleted := true }) e := by
  obtain ⟨task', hget', hdl⟩ := h
  have hlt := (List.getElem?_eq_some_iff.1 hget).1
  by_cases hid : id = e.count
  · subst hid
    rw [hget] at hget'
    cases hget'
    exact ⟨_, List.getElem?_set_self hlt, hdl⟩
  · exact ⟨task', by rw [List.getElem?_set_ne hid, hget'], hdl⟩

/-- `schedule_timer` pushes a task under a number that no other has. -/
theorem Inv.push (h : Inv Q s) (k : Nat) (c : Scheduling κ) (hfree : s.pc.locked = false) :
    Inv Q (pushTask Q s k c) := by
  have hperm : (Q.push s.tasks (Item.mk (numbered s c).executeAtMs s.objects.length)
      ++ s.pc.readyTasks).Perm
        (Item.mk (numbered s c).executeAtMs s.objects.length :: s.inFlight) :=
    (Q.push_perm _ h.heap).append_right _
  refine
    { heap := Q.isHeap_push _ h.heap
      nodup := (hperm.map _).nodup_iff.2 (List.nodup_cons.2 ⟨?_, h.nodup⟩)
      object := ?_
      unfired := ?_
      due := h.due
      sorted := h.sorted
      front := ?_
      past := h.past
      fired := fun it e t hm => ⟨(h.fired it e t hm).1.append _, (h.fired it e t hm).2⟩
      marked := ?_
      ordered := h.ordered
      covered := by intro timeout since _ hn; cases hn }
  · intro hmem
    obtain ⟨e, he, hcount⟩ := List.mem_map.1 hmem
    have hlt := (h.object e he).lt_length
    rw [Item.count_mk] at hcount
    omega
  · intro e he
    rcases List.mem_cons.1 (hperm.mem_iff.1 he) with rfl | he
    · exact ⟨numbered s c, List.getElem?_concat_length .., rfl⟩
    · exact (h.object e he).append _
  · intro e he it e' t hm
    rcases List.mem_cons.1 (hperm.mem_iff.1 he) with rfl | he
    · exact Nat.ne_of_lt (h.fired it e' t hm).1.lt_length
    · exact h.unfired e he it e' t hm
  · intro ready hpc
    -- the timer thread has the lock while it pops
    have hpc' : s.pc = .popping ready := hpc
    rw [hpc'] at hfree
    cases hfree
  · intro id hm
    obtain ⟨task, hget, hdel⟩ := h.marked id hm
    refine ⟨task, ?_, hdel⟩
    show (s.objects ++ [numbered s c])[id]? = some task
    rw [List.getElem?_append_left (List.getElem?_eq_some_iff.1 hget).1, hget]

/-- `remove` marks the task, whatever the other threads are doing. -/
theorem Inv.remove (h : Inv Q s) (id : Nat) : Inv Q (removeTask s id) := by
  unfold removeTask
  split
  · next task hget =>
    have hmem : ∀ {it e} {t : Int}, .fired it e t ∈ s.history ++ [.removed id] →
        .fired it e t ∈ s.history := by
      intro it e t hm
      rcases List.mem_append.1 hm with hm | hm
      · exact hm
      · cases List.mem_singleton.1 hm
    refine
      { heap := h.heap
        nodup := h.nodup
        object := fun e he => (h.object e he).mark hget
        unfired := fun e he it e' t hm => h.unfired e he it e' t (hmem hm)
        due := h.due
        sorted := h.sorted
        front := h.front
        past := fun it e t hm => h.past it e t (hmem hm)
        fired := fun it e t hm =>
          ⟨(h.fired it e t (hmem hm)).1.mark hget, (h.fired it e t (hmem hm)).2⟩
        marked := ?_
        ordered := ?_
        covered := h.covered }
    · intro id' hm
      have hlt := (List.getElem?_eq_some_iff.1 hget).1
      by_cases hid : id = id'
      · subst hid
        exact ⟨_, List.getElem?_set_self hlt, rfl⟩
      · rcases List.mem_append.1 hm with hm | hm
        · obtain ⟨task', hget', hdel⟩ := h.marked id' hm
          exact ⟨task', by rw [List.getElem?_set_ne hid, hget'], hdel⟩
        · cases List.mem_singleton.1 hm
          exact absurd rfl hid
    · refine List.pairwise_append.2 ⟨h.ordered, List.pairwise_singleton .., ?_⟩
      intro ev _ ev' hev'
      rw [List.mem_singleton.1 hev']
      cases ev <;> trivial
  · exact h

/-- A step of the timer thread. -/
theorem Inv.loopStep (h : Inv Q s) : Inv Q (loopStep Q s) := by
  unfold TimerLoop.loopStep
  split
  · next hpc =>
    split
    · refine h.move (by rw [hpc]; rfl) rfl le_rfl ?_
      intro hc
      cases hc
    · exact h.move (by rw [hpc]; rfl) rfl (Nat.le_succ _) fun _ => Or.inr (Nat.lt_succ_self _)
  · next hpc =>
    refine h.move (by rw [hpc]; rfl) rfl le_rfl ?_
    rw [hpc]
    exact Or.inl
  · next hpc =>
    split
    · next hempty =>
      refine h.wait (by rw [hpc]; rfl) ?_
      intro e he
      rw [hempty] at he
      cases he
    · refine h.move (by rw [hpc]; rfl) rfl le_rfl ?_
      rw [hpc]
      exact Or.inl
  · next ready hpc =>
    have hdone : Inv Q { s with pc := .executing ready } := by
      refine h.move (by rw [hpc]; rfl) rfl le_rfl ?_
      intro hc
      cases hc
    split
    · exact hdone
    · next front rest htasks =>
      split
      · next hdue =>
        have hheap := h.heap
        rw [htasks] at hheap ⊢
        obtain ⟨tasks, hpop, htail, hperm⟩ := Q.pop_cons hheap
        rw [hpop]
        refine h.pop hpc htail (by rw [htasks]; exact hperm.symm.cons _) ?_ hdue
        intro e' he'
        exact Q.front_le hheap e' (hperm.mem_iff.1 he')
      · exact hdone
  · next hpc =>
    refine h.move (by rw [hpc]; rfl) rfl le_rfl ?_
    intro hc
    cases hc
  · next t ready hpc => exact h.execute hpc
  · next hpc =>
    refine h.move (by rw [hpc]; rfl) rfl le_rfl ?_
    intro hc
    cases hc
  · next hpc => exact h.wait (by rw [hpc]; rfl) (covers_timeoutFor h.heap _)
  · next timeout since hpc =>
    split
    · refine h.move (by rw [hpc]; rfl) rfl le_rfl ?_
      intro hc
      cases hc
    · exact h
  · exact h

/-- Every step of every thread keeps the invariant. -/
theorem Inv.step (h : Inv Q s) (a : Action κ) : Inv Q (step Q s a) := by
  cases a with
  | elapse ns =>
    refine { h with due := ?_ }
    intro e he
    refine (h.due e he).trans ?_
    exact_mod_cast ms_mono (Nat.le_add_right s.clockNs ns)
  | newTask expireAfter call => exact { h with }
  | push k =>
    simp only [TimerLoop.step]
    split
    · next c _ hlock => exact h.push k c hlock
    · exact h
  | remove id => exact h.remove id
  | shutdown =>
    simp only [TimerLoop.step]
    split
    · exact h
    · exact { h with covered := by intro timeout since _ hn; cases hn }
  | loop => exact h.loopStep

end

/-- The event is the callback of this task. -/
def Event.fires (id : Nat) : Event → Bool
  | .fired _ e _ => e.count == id
  | .removed _ => false

theorem length_filter_fires_le {history : List Event} (h : history.Pairwise MayFollow) (id : Nat) :
    (history.filter (Event.fires id)).length ≤ 1 := by
  have hall : ∀ ev ∈ history.filter (Event.fires id), ∃ it e t, ev = .fired it e t ∧
      e.count = id := by
    intro ev hev
    cases ev with
    | removed id' => cases (List.mem_filter.1 hev).2
    | fired it e t => exact ⟨it, e, t, rfl, beq_iff_eq.1 (List.mem_filter.1 hev).2⟩
  rcases hf : history.filter (Event.fires id) with _ | ⟨ev, _ | ⟨ev', rest⟩⟩
  · exact Nat.zero_le 1
  · exact le_rfl
  · rw [hf] at hall
    obtain ⟨it, e, t, rfl, he⟩ := hall ev (by simp)
    obtain ⟨it', e', t', rfl, he'⟩ := hall ev' (by simp)
    have hpair : MayFollow (.fired it e t) (.fired it' e' t') :=
      (List.pairwise_cons.1 (hf ▸ h.filter (Event.fires id))).1 _ (by simp)
    exact absurd (he.trans he'.symm) hpair.1

/-- **Timer execution.** In every run of the timer thread and its clients, whatever heap `Q` is: a
task's callback runs at most once, never before the task's deadline, and never after `remove`; the
callbacks of one iteration run in the order of the deadlines and then the numbers; and a wait that
nobody has ended yet has a timeout that is over when the first task on the heap is due. -/
theorem timer_execution {κ : Type} (Q : MinHeap Item) (clockNs : Nat) (acts : List (Action κ)) :
    let s := run (step Q) (init κ clockNs) acts
    (∀ id, (s.history.filter (Event.fires id)).length ≤ 1) ∧
    (∀ it e (t : Int), .fired it e t ∈ s.history →
      ∃ task, s.objects[e.count]? = some task ∧ task.executeAtMs = e.executeAtMs ∧
        task.executeAtMs ≤ (t : ℚ)) ∧
    (∀ past it e (t : Int) future, s.history = past ++ .fired it e t :: future →
      .removed e.count ∉ past) ∧
    (∀ past it e (t : Int) between e' (t' : Int) future,
      s.history = past ++ .fired it e t :: (between ++ .fired it e' t' :: future) → e < e') ∧
    (∀ timeout since, s.pc = .waiting timeout since → s.notified = false →
      ∀ e ∈ s.tasks, ∃ t, timeout = some t ∧
        ms since + t * 1000 ≤ max (ms since : ℚ) e.executeAtMs) := by
  intro s
  have h : Inv Q s := run_inv' (fun s a hs => hs.step a) (inv_init clockNs) acts
  refine ⟨length_filter_fires_le h.ordered, ?_, ?_, ?_, h.covered⟩
  · intro it e t hm
    obtain ⟨⟨task, hget, hdl⟩, hle⟩ := h.fired it e t hm
    exact ⟨task, hget, hdl, hdl ▸ hle⟩
  · intro past it e t future hs hm
    have hpair := (List.pairwise_append.1 (hs ▸ h.ordered)).2.2 _ hm (.fired it e t) (by simp)
    exact hpair rfl
  · intro past it e t between e' t' future hs
    have htail := (List.pairwise_append.1 (hs ▸ h.ordered)).2.1
    have hpair : MayFollow (.fired it e t) (.fired it e' t') :=
      (List.pairwise_cons.1 htail).1 _ (by simp)
    exact hpair.2 rfl

/-- Three tasks, of 2, 1 and 3 ms. The third one is removed, and the thread runs one iteration when
all are due. -/
def sampleTimer : List (Action Unit) :=
  [.newTask (1 / 500) (), .newTask (1 / 1000) (), .newTask (3 / 1000) (), .push 0, .push 0, .push 0,
    .remove 2, .elapse 5000000] ++ List.replicate 11 .loop

/-- Two of them run, in the order of their deadlines. -/
theorem timer_execution_three :
    let s := run (step MinHeap.sortedList) (init Unit 0) sampleTimer
    s.history = [.removed 2, .fired 1 (.mk 1 1) 5, .fired 1 (.mk 2 0) 5] ∧
      (∀ past it e (t : Int) future, s.history = past ++ .fired it e t :: future →
        .removed e.count ∉ past) ∧
      ∀ past it e (t : Int) between e' (t' : Int) future,
        s.history = past ++ .fired it e t :: (between ++ .fired it e' t' :: future) → e < e' := by
  have h := timer_execution MinHeap.sortedList 0 sampleTimer
  exact ⟨by decide +kernel, h.2.2.1, h.2.2.2.1⟩

end Tipy.Components.TimerLoop
