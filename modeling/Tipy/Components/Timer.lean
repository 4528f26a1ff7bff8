import Mathlib.Data.List.Nodup
import Mathlib.Data.Rat.Defs

/-!
# The timer component

`TimerTask` and `Timer` of `tipy/components/timer.py`. A task is pushed on the heap with the next
value of a counter, which also names it here; `remove` marks it and leaves it on the heap, and the
timer loop takes it off the heap when it is due and runs its callback unless it is marked. The type
`κ` says what the callbacks of a client do.
-/

namespace Tipy.Components

/-- `TimerTask`: the fields the stack reads, and the counter value the task was pushed with. -/
structure TimerTask (κ : Type) where
  id : Nat
  startTimeMs : Int
  expireAfterSec : ℚ
  call : κ
  deleted : Bool

/-- `execute_at_ms`. -/
def TimerTask.executeAtMs {κ : Type} (t : TimerTask κ) : ℚ :=
  t.startTimeMs + t.expireAfterSec * 1000

/-- `Timer`: the tasks on the heap and the tie-breaking counter. -/
structure Timer (κ : Type) where
  tasks : List (TimerTask κ)
  counter : Nat

namespace Timer

variable {κ : Type}

def new : Timer κ := ⟨[], 0⟩

/-- `schedule_timer`: the new task and the timer with it on the heap. -/
def scheduleTimer (t : Timer κ) (nowMs : Int) (expireAfter : ℚ) (call : κ) : Nat × Timer κ :=
  (t.counter,
    { tasks := t.tasks ++ [⟨t.counter, nowMs, expireAfter, call, false⟩]
      counter := t.counter + 1 })

/-- `TimerTask.remove`: the task is marked. -/
def remove (t : Timer κ) (id : Nat) : Timer κ :=
  { t with tasks := t.tasks.map fun task =>
      if task.id = id then { task with deleted := true } else task }

/-- The task is on the heap and not marked, so its callback will run when it is due. -/
def Pending (t : Timer κ) (id : Nat) : Prop :=
  ∃ task ∈ t.tasks, task.id = id ∧ task.deleted = false

instance (t : Timer κ) (id : Nat) : Decidable (t.Pending id) :=
  inferInstanceAs (Decidable (∃ task ∈ t.tasks, task.id = id ∧ task.deleted = false))

/-- A task that was taken off does not run. -/
theorem not_pending_remove (t : Timer κ) (id : Nat) : ¬ (t.remove id).Pending id := by
  rintro ⟨task, hmem, hid, hdel⟩
  obtain ⟨x, -, rfl⟩ := List.mem_map.1 hmem
  split at hid
  · next h => simp [h] at hdel
  · next h => exact h hid

theorem Pending.of_remove {t : Timer κ} {id id' : Nat} (h : (t.remove id').Pending id) :
    t.Pending id := by
  obtain ⟨task, hmem, hid, hdel⟩ := h
  obtain ⟨x, hx, rfl⟩ := List.mem_map.1 hmem
  refine ⟨x, hx, ?_, ?_⟩
  · split at hid <;> exact hid
  · split at hdel
    · cases hdel
    · exact hdel

/-- The tasks have different numbers, all below the counter. -/
structure Numbered (t : Timer κ) : Prop where
  nodup : (t.tasks.map TimerTask.id).Nodup
  lt_counter : ∀ task ∈ t.tasks, task.id < t.counter

theorem numbered_new : (new : Timer κ).Numbered :=
  ⟨List.nodup_nil, fun _ h => absurd h List.not_mem_nil⟩

theorem Numbered.scheduleTimer {t : Timer κ} (h : t.Numbered) (nowMs : Int) (expireAfter : ℚ)
    (call : κ) : (t.scheduleTimer nowMs expireAfter call).2.Numbered := by
  refine ⟨?_, ?_⟩
  · simp only [Timer.scheduleTimer, List.map_append, List.map_cons, List.map_nil]
    refine List.nodup_append.2 ⟨h.nodup, List.nodup_singleton _, ?_⟩
    intro id hid id' hid'
    obtain ⟨task, htask, rfl⟩ := List.mem_map.1 hid
    rw [List.mem_singleton.1 hid']
    exact Nat.ne_of_lt (h.lt_counter task htask)
  · intro task htask
    rcases List.mem_append.1 htask with htask | htask
    · exact Nat.lt_succ_of_lt (h.lt_counter task htask)
    · rw [List.mem_singleton.1 htask]
      exact Nat.lt_succ_self _

theorem map_id_remove (t : Timer κ) (id : Nat) :
    (t.remove id).tasks.map TimerTask.id = t.tasks.map TimerTask.id := by
  simp only [remove, List.map_map]
  refine List.map_congr_left fun task _ => ?_
  simp only [Function.comp_apply]
  split <;> rfl

theorem Numbered.remove {t : Timer κ} (h : t.Numbered) (id : Nat) : (t.remove id).Numbered := by
  refine ⟨by rw [map_id_remove]; exact h.nodup, fun task htask => ?_⟩
  obtain ⟨x, hx, rfl⟩ := List.mem_map.1 htask
  have hlt := h.lt_counter x hx
  split <;> exact hlt

theorem Numbered.filter {t : Timer κ} (h : t.Numbered) (f : TimerTask κ → Bool) :
    ({ t with tasks := t.tasks.filter f } : Timer κ).Numbered :=
  ⟨h.nodup.sublist (List.filter_sublist.map _), fun task htask =>
    h.lt_counter task (List.mem_of_mem_filter htask)⟩

/-- Marking one task leaves the others alone. -/
theorem mem_remove_of_ne {t : Timer κ} {task : TimerTask κ} {id : Nat} (h : task ∈ t.tasks)
    (hne : task.id ≠ id) : task ∈ (t.remove id).tasks :=
  List.mem_map.2 ⟨task, h, if_neg hne⟩

/-- A task is known by its number. -/
theorem Numbered.eq_of_id {t : Timer κ} (h : t.Numbered) {task task' : TimerTask κ}
    (hmem : task ∈ t.tasks) (hmem' : task' ∈ t.tasks) (hid : task.id = task'.id) : task = task' :=
  List.inj_on_of_nodup_map h.nodup hmem hmem' hid

/-- What the timer loop takes off the heap: a task that is due, here given by its place, and the
timer without it. -/
def popDue (t : Timer κ) (nowMs : Int) (i : Nat) : Option (TimerTask κ × Timer κ) :=
  match t.tasks[i]? with
  | some task =>
    if task.executeAtMs ≤ nowMs then some (task, { t with tasks := t.tasks.eraseIdx i }) else none
  | none => none

/-- What stays when one place of a list is taken out. -/
theorem mem_eraseIdx_or_eq {α : Type*} {l : List α} {i : Nat} {a x : α} (hi : l[i]? = some a)
    (hx : x ∈ l) : x = a ∨ x ∈ l.eraseIdx i := by
  obtain ⟨j, hj, rfl⟩ := List.mem_iff_getElem.1 hx
  by_cases hij : j = i
  · subst hij
    rw [List.getElem?_eq_getElem hj] at hi
    exact Or.inl (Option.some.inj hi)
  · exact Or.inr (List.mem_eraseIdx_iff_getElem.2 ⟨j, hj, hij, rfl⟩)

theorem mem_of_popDue {t t' : Timer κ} {nowMs : Int} {i : Nat} {task : TimerTask κ}
    (h : t.popDue nowMs i = some (task, t')) {x : TimerTask κ} (hx : x ∈ t.tasks) :
    x = task ∨ x ∈ t'.tasks := by
  unfold popDue at h
  split at h
  · next hi =>
    split at h
    · cases h
      exact mem_eraseIdx_or_eq hi hx
    · cases h
  · cases h

/-- The task was on the heap, and nothing new is. -/
theorem popDue_mem {t t' : Timer κ} {nowMs : Int} {i : Nat} {task : TimerTask κ}
    (h : t.popDue nowMs i = some (task, t')) : task ∈ t.tasks ∧ ∀ x ∈ t'.tasks, x ∈ t.tasks := by
  unfold popDue at h
  split at h
  · next hi =>
    split at h
    · cases h
      exact ⟨List.mem_of_getElem? hi, fun x hx => List.mem_of_mem_eraseIdx hx⟩
    · cases h
  · cases h

/-- The tasks of a kind, without the one taken off. -/
theorem countP_of_popDue {t t' : Timer κ} {nowMs : Int} {i : Nat} {task : TimerTask κ}
    (h : t.popDue nowMs i = some (task, t')) (p : TimerTask κ → Bool) :
    t'.tasks.countP p + (if p task then 1 else 0) = t.tasks.countP p := by
  unfold popDue at h
  split at h
  · next hi =>
    split at h
    · cases h
      obtain ⟨hlt, hget⟩ := List.getElem?_eq_some_iff.1 hi
      have hsplit : t.tasks = t.tasks.take i ++ task :: t.tasks.drop (i + 1) := by
        rw [← hget, ← List.drop_eq_getElem_cons hlt, List.take_append_drop]
      conv_rhs => rw [hsplit]
      rw [List.eraseIdx_eq_take_drop_succ, List.countP_append, List.countP_append, List.countP_cons,
        Nat.add_assoc]
    · cases h
  · cases h

theorem popDue_counter {t t' : Timer κ} {nowMs : Int} {i : Nat} {task : TimerTask κ}
    (h : t.popDue nowMs i = some (task, t')) : t'.counter = t.counter := by
  unfold popDue at h
  split at h
  · split at h
    · cases h
      rfl
    · cases h
  · cases h

end Timer

end Tipy.Components
