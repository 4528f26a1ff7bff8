import Mathlib.Data.List.Basic

/-!
# Condition variables

A condition variable as its users see it: its waiters, oldest first; the calls that were notified
and have not gone on yet; and the number of threads that have made a change and are about to notify.
A notification takes the oldest waiter off the list, and nobody when there is none. A notified call
goes on in a step of its own.

A wait with a time-out ends in two steps. When the time is over the call is still among the waiters,
and leaves them only when it has taken the lock again. A notification in between is spent on it: the
call is `late`, and returns without having been notified all the same.

`Owed` is the balance that rules out a lost wake-up for a queue of which every call takes one item:
either each waiter has a notification coming, or each item of the queue has a call or a notification
that will take it.
-/

namespace Tipy.Lib

/-- A call among the waiters, and whether its time is over. -/
structure Waiter (α : Type*) where
  call : α
  expired : Bool
deriving DecidableEq

structure CondVar (α : Type*) where
  waiters : List (Waiter α)
  woken : List α
  /-- the calls whose time was over when they were notified -/
  late : List α
  /-- the threads about to notify -/
  notifying : Nat
deriving DecidableEq

namespace CondVar

variable {α : Type*}

def new : CondVar α := ⟨[], [], [], 0⟩

variable (c : CondVar α)

/-- The calls that still wait. -/
def waiting : List α := (c.waiters.filter fun w => !w.expired).map Waiter.call

/-- A call starts to wait. -/
@[simps] def wait (x : α) : CondVar α := { c with waiters := c.waiters ++ [⟨x, false⟩] }

/-- A thread has made its change and will notify. -/
@[simps] def signal : CondVar α := { c with notifying := c.notifying + 1 }

/-- One of these threads notifies. -/
def notify : CondVar α :=
  match c.notifying, c.waiters with
  | 0, _ => c
  | n + 1, [] => { c with notifying := n }
  | n + 1, ⟨x, false⟩ :: ws => { c with waiters := ws, woken := c.woken ++ [x], notifying := n }
  | n + 1, ⟨x, true⟩ :: ws => { c with waiters := ws, late := c.late ++ [x], notifying := n }

/-- The notified call at place `k` goes on. -/
@[simps] def resume (k : Nat) : CondVar α := { c with woken := c.woken.eraseIdx k }

/-- The time of the waiter at place `k` is over. -/
@[simps] def expire (k : Nat) : CondVar α :=
  { c with waiters := c.waiters.modify k fun w => { w with expired := true } }

/-- The waiter at place `k`, whose time is over, has taken the lock and leaves. -/
@[simps] def giveUp (k : Nat) : CondVar α := { c with waiters := c.waiters.eraseIdx k }

/-- The late call at place `k` has taken the lock. -/
@[simps] def leave (k : Nat) : CondVar α := { c with late := c.late.eraseIdx k }

/-- Nothing is under way: no notification and no notified call. -/
def Quiet : Prop := c.notifying = 0 ∧ c.woken = []

instance : Decidable c.Quiet := inferInstanceAs (Decidable (_ ∧ _))

/-- The number of calls and notifications under way. -/
def underWay : Nat := c.woken.length + c.notifying

/-- The next notification is spent on a call whose time is over. -/
def MeetsExpired : Prop := 0 < c.notifying ∧ c.waiters.head?.any Waiter.expired = true

instance : Decidable c.MeetsExpired := inferInstanceAs (Decidable (_ ∧ _))

variable {c}

theorem Quiet.underWay (h : c.Quiet) : c.underWay = 0 := by
  rw [CondVar.underWay, h.1, h.2]
  rfl

/-- What a notification does. -/
theorem notify_cases : c.notify = c ∨
    (c.waiters = [] ∧ c.notify = { c with notifying := c.notify.notifying } ∧
      c.notify.notifying + 1 = c.notifying) ∨
    (∃ w ws, c.waiters = w :: ws ∧ ¬ c.MeetsExpired ∧
      c.notify = { c with waiters := ws, woken := c.woken ++ [w.call],
                          notifying := c.notify.notifying } ∧
      c.notify.notifying + 1 = c.notifying) ∨
    ∃ w ws, c.waiters = w :: ws ∧ c.MeetsExpired ∧
      c.notify = { c with waiters := ws, late := c.late ++ [w.call],
                          notifying := c.notify.notifying } ∧
      c.notify.notifying + 1 = c.notifying := by
  obtain ⟨waiters, woken, late, notifying⟩ := c
  cases notifying with
  | zero => exact .inl rfl
  | succ n =>
    cases waiters with
    | nil => exact .inr (.inl ⟨rfl, rfl, rfl⟩)
    | cons w ws =>
      obtain ⟨x, expired⟩ := w
      cases expired with
      | false => exact .inr (.inr (.inl ⟨_, _, rfl, by simp [MeetsExpired], rfl, rfl⟩))
      | true => exact .inr (.inr (.inr ⟨_, _, rfl, by simp [MeetsExpired], rfl, rfl⟩))

theorem length_resume {k : Nat} {x : α} (h : c.woken[k]? = some x) :
    (c.resume k).woken.length + 1 = c.woken.length := by
  have hlt := (List.getElem?_eq_some_iff.1 h).1
  rw [resume_woken, List.length_eraseIdx_of_lt hlt]
  omega

theorem length_giveUp_le (c : CondVar α) (k : Nat) :
    (c.giveUp k).waiters.length ≤ c.waiters.length := by
  rw [giveUp_waiters]
  exact (List.eraseIdx_sublist _ _).length_le

/-- A waiter of the list with one more time over was there before, with the same call. -/
theorem getElem?_expire {k i : Nat} {w : Waiter α} (h : (c.expire k).waiters[i]? = some w) :
    ∃ w', c.waiters[i]? = some w' ∧ w'.call = w.call := by
  rw [expire_waiters, List.getElem?_modify] at h
  split at h
  · obtain ⟨w', hw', rfl⟩ := Option.map_eq_some_iff.1 h
    exact ⟨w', hw', rfl⟩
  · exact ⟨w, by simpa using h, rfl⟩

/-- Each waiter has a notification coming, or each of the `n` items a taker. -/
def Owed (c : CondVar α) (n : Nat) : Prop :=
  c.waiters.length ≤ c.notifying ∨ n ≤ c.underWay

namespace Owed

variable {n : Nat}

theorem signal (h : c.Owed n) : c.signal.Owed (n + 1) := by
  simp only [Owed, underWay, signal_waiters, signal_woken, signal_notifying] at h ⊢
  omega

/-- A notification that is not spent on a call whose time is over. -/
theorem notify (h : c.Owed n) (hlive : ¬ c.MeetsExpired) : c.notify.Owed n := by
  unfold Owed underWay at *
  obtain he | ⟨hw, he, hn⟩ | ⟨w, ws, hw, -, he, hn⟩ | ⟨w, ws, -, hmeets, -⟩ := c.notify_cases
  · rwa [he]
  · rw [he]
    exact .inl (by simp [hw])
  · rw [he]
    rw [hw, List.length_cons] at h
    simp only [List.length_append, List.length_singleton]
    omega
  · exact absurd hmeets hlive

theorem wait {x : α} (h : n = 0 ∨ c.waiters.length < c.notifying) : (c.wait x).Owed n := by
  simp only [Owed, underWay, wait_waiters, wait_notifying, wait_woken, List.length_append,
    List.length_cons, List.length_nil]
  omega

theorem resume (h : c.Owed (n + 1)) {k : Nat} {x : α} (hk : c.woken[k]? = some x) :
    (c.resume k).Owed n := by
  have hlen := length_resume hk
  simp only [Owed, underWay, resume_waiters, resume_notifying] at h ⊢
  omega

theorem expire (h : c.Owed n) (k : Nat) : (c.expire k).Owed n := by
  simpa only [Owed, underWay, expire_waiters, expire_woken, expire_notifying,
    List.length_modify] using h

theorem giveUp (h : c.Owed n) (k : Nat) : (c.giveUp k).Owed n := by
  have hlen := c.length_giveUp_le k
  simp only [Owed, underWay, giveUp_woken, giveUp_notifying] at h ⊢
  omega

/-- Once nothing is under way, there is a waiter only when there is no item. -/
theorem quiet (h : c.Owed n) (hq : c.Quiet) : c.waiters = [] ∨ n = 0 := by
  rw [Owed, hq.underWay, hq.1] at h
  rcases h with h | h
  · exact .inl (List.length_eq_zero_iff.1 (Nat.le_zero.1 h))
  · exact .inr (Nat.le_zero.1 h)

end Owed

end CondVar

end Tipy.Lib
