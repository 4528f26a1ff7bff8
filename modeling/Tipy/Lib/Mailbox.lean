import Mathlib.Data.List.Basic
import Tipy.Lib.Runs

/-!
# Mailboxes

A thread that waits at a condition variable for items that others put in a queue. At each round it
takes the lock, waits if the queue is empty, takes some of the items with it, takes some more after
it gave the lock up, one before each call of its handler, and looks at a flag before the next round.
How many it takes is its `Discipline`; whoever stops it sets the flag, and may notify it.

The thread waits with a plain `if`, not with a loop, and takes items without looking whether there
are any. `Sound` disciplines get along with that: `Inv.step` says that nothing is lost, repeated or
overtaken, that no item is taken from an empty queue, and that the thread waits only when it has
nothing to do. `run_stopping` says how soon it stops, and `drains` that it gets everything done when
it is given time.
-/

namespace Tipy.Lib

/-- How the thread takes items from a queue of a given length: so many with the lock, so many after
it; whether it keeps the lock while it works; whether it is notified to stop. -/
structure Discipline where
  grab : Nat → Nat
  later : Nat → Nat
  keepsLock : Bool
  alarms : Bool

/-- It never takes more than there is, always takes something when there is something, and nothing
when it was notified without an item. -/
structure Discipline.Sound (D : Discipline) : Prop where
  le : ∀ n, 0 < n → D.grab n + D.later n ≤ n
  pos : ∀ n, 0 < n → 0 < D.grab n + D.later n
  empty : D.alarms = true → D.grab 0 + D.later 0 = 0

namespace Mailbox

/-- Where the thread stands. -/
inductive Pc where
  /-- at the flag -/
  | test
  /-- about to take the lock -/
  | acquire
  /-- with the lock, about to look at the queue -/
  | inspect
  | waiting
  /-- notified, about to take the lock again -/
  | woken
  /-- with the lock, about to take items -/
  | collect
  /-- with a batch, and so many items still to take from the queue -/
  | handling (left : Nat)
  | stopped
  /-- an item was taken from an empty queue -/
  | indexError
  /-- the handler raised -/
  | raised
deriving DecidableEq

/-- The thread has a round before it, whatever the flag is. -/
def Pc.pending : Pc → Bool
  | acquire | inspect | waiting | woken | collect => true
  | _ => false

end Mailbox

/-- The queue, the items the thread has in its hands, and what happened so far: the items that were
put in the queue, those the handler was called with, and the number of rounds. -/
structure Mailbox (α : Type*) where
  queue : List α
  batch : List α
  pc : Mailbox.Pc
  stop : Bool
  put : List α
  handled : List α
  rounds : Nat

/-- A step: a client puts an item in the queue, the flag is set, a notification without an item, or
a step of the thread. -/
inductive MailEvent (α : Type*) where
  | put (x : α)
  | shutdown
  | alarm
  | loop (raises : Bool)

namespace Mailbox

variable {α : Type*} (D : Discipline)

/-- Before the thread starts. -/
def new : Mailbox α := ⟨[], [], .test, false, [], [], 0⟩

section

variable (s : Mailbox α)

/-- The thread has the lock. -/
def locked : Bool :=
  match s.pc with
  | .inspect | .collect => true
  | .handling _ => D.keepsLock
  | _ => false

/-- A notification reaches the thread if it waits. -/
def notify : Mailbox α := if s.pc = .waiting then { s with pc := .woken } else s

/-- The item the next step of the thread hands to the handler. -/
def next : Option α :=
  match s.pc with
  | .handling left =>
    match s.batch with
    | x :: _ => some x
    | [] => if left = 0 then none else s.queue.head?
  | _ => none

/-- The handler is called with `x`. -/
def handle (x : α) (raises : Bool) (pc : Pc) : Mailbox α :=
  { s with handled := s.handled ++ [x], pc := if raises then .raised else pc }

/-- One step of the thread. -/
def loop (raises : Bool) : Mailbox α :=
  match s.pc with
  | .test => { s with pc := if s.stop then .stopped else .acquire }
  | .acquire => { s with pc := .inspect }
  | .inspect => { s with pc := if s.queue.isEmpty then .waiting else .collect }
  | .woken => { s with pc := .collect }
  | .collect =>
    if D.grab s.queue.length ≤ s.queue.length then
      { s with
        batch := s.queue.take (D.grab s.queue.length)
        queue := s.queue.drop (D.grab s.queue.length)
        pc := .handling (D.later s.queue.length)
        rounds := s.rounds + 1 }
    else { s with pc := .indexError }
  | .handling left =>
    match s.batch with
    | x :: xs => { s with batch := xs }.handle x raises (.handling left)
    | [] =>
      match left with
      | 0 => { s with pc := .test }
      | left + 1 =>
        match s.queue with
        | x :: xs => { s with queue := xs }.handle x raises (.handling left)
        | [] => { s with pc := .indexError }
  | .waiting | .stopped | .indexError | .raised => s

def step (s : Mailbox α) : MailEvent α → Mailbox α
  | .put x => { s with queue := s.queue ++ [x], put := s.put ++ [x] }.notify
  | .shutdown => { s with stop := true }
  | .alarm => s.notify
  | .loop raises => s.loop D raises

/-- A client needs the lock; a notification without an item is for stopping. -/
def Admits (s : Mailbox α) : MailEvent α → Prop
  | .put _ => s.locked D = false
  | .alarm => D.alarms = true ∧ s.stop = true ∧ s.locked D = false
  | .shutdown | .loop _ => True

instance (s : Mailbox α) : (e : MailEvent α) → Decidable (s.Admits D e)
  | .put _ => inferInstanceAs (Decidable (_ = _))
  | .alarm => inferInstanceAs (Decidable (_ ∧ _ ∧ _))
  | .shutdown | .loop _ => .isTrue trivial

end

variable {D} {s : Mailbox α}

/-! ### The steps with items in hand -/

theorem loop_batch {left : Nat} {x : α} {xs : List α} (raises : Bool) (hpc : s.pc = .handling left)
    (hbatch : s.batch = x :: xs) :
    s.loop D raises = { s with batch := xs }.handle x raises (.handling left) := by
  simp only [loop, hpc, hbatch]

theorem loop_done (raises : Bool) (hpc : s.pc = .handling 0) (hbatch : s.batch = []) :
    s.loop D raises = { s with pc := .test } := by
  simp only [loop, hpc, hbatch]

theorem loop_later {left : Nat} {x : α} {xs : List α} (raises : Bool)
    (hpc : s.pc = .handling (left + 1)) (hbatch : s.batch = []) (hq : s.queue = x :: xs) :
    s.loop D raises = { s with queue := xs }.handle x raises (.handling left) := by
  simp only [loop, hpc, hbatch, hq]

theorem loop_empty {left : Nat} (raises : Bool) (hpc : s.pc = .handling (left + 1))
    (hbatch : s.batch = []) (hq : s.queue = []) : s.loop D raises =
    { s with pc := .indexError } := by
  simp only [loop, hpc, hbatch, hq]

theorem loop_collect (raises : Bool) (hpc : s.pc = .collect)
    (hle : D.grab s.queue.length ≤ s.queue.length) :
    s.loop D raises =
      { s with
        batch := s.queue.take (D.grab s.queue.length)
        queue := s.queue.drop (D.grab s.queue.length)
        pc := .handling (D.later s.queue.length)
        rounds := s.rounds + 1 } := by
  simp only [loop, hpc, if_pos hle]

/-! ## The invariant -/

/-- What holds where the thread stands. -/
def At (D : Discipline) (s : Mailbox α) : Pc → Prop
  | .test | .acquire | .inspect => s.batch = []
  | .waiting => s.batch = [] ∧ s.queue = []
  | .woken | .collect => s.batch = [] ∧ (s.queue = [] → D.alarms = true ∧ s.stop = true)
  | .handling left => left ≤ s.queue.length
  | .stopped => s.batch = [] ∧ s.stop = true
  | .indexError => False
  | .raised => True

/-- The items are handled in the order in which they were put in the queue, each of them once; and
the thread waits only when there are none. -/
structure Inv (D : Discipline) (s : Mailbox α) : Prop where
  order : s.handled ++ s.batch ++ s.queue = s.put
  here : At D s s.pc

theorem Inv.new (D : Discipline) : Inv D (new : Mailbox α) := ⟨rfl, rfl⟩

theorem notify_eq (s : Mailbox α) : s.notify = s ∧ s.pc ≠ .waiting ∨
    s.notify = { s with pc := .woken } ∧ s.pc = .waiting := by
  unfold notify
  split
  · next h => exact Or.inr ⟨rfl, h⟩
  · next h => exact Or.inl ⟨rfl, h⟩

/-- A client puts an item in the queue. -/
theorem Inv.put (h : s.Inv D) (x : α) (hlock : s.locked D = false) : (s.step D (.put x)).Inv D := by
  have horder : s.handled ++ s.batch ++ (s.queue ++ [x]) = s.put ++ [x] := by
    rw [← List.append_assoc, h.order]
  have hhere := h.here
  simp only [step]
  obtain ⟨he, hne⟩ | ⟨he, hpc⟩ :=
    notify_eq { s with queue := s.queue ++ [x], put := s.put ++ [x] }
  · rw [he]
    refine ⟨horder, ?_⟩
    simp only at hne ⊢
    cases hpc : s.pc with
    | waiting => exact absurd hpc hne
    | test | acquire | inspect => simpa only [At, hpc] using hhere
    | woken =>
      rw [hpc] at hhere
      exact ⟨hhere.1, fun hnil => absurd hnil (by simp)⟩
    | collect => simp [locked, hpc] at hlock
    | handling left =>
      rw [hpc] at hhere
      simp only [At, List.length_append] at hhere ⊢
      omega
    | stopped => simpa only [At, hpc] using hhere
    | indexError =>
      rw [hpc] at hhere
      exact hhere
    | raised => trivial
  · rw [he]
    simp only at hpc
    rw [hpc] at hhere
    exact ⟨horder, hhere.1, fun hnil => absurd hnil (by simp)⟩

/-- The flag, and the notification that goes with it. -/
theorem Inv.shutdown (h : s.Inv D) : (s.step D .shutdown).Inv D := by
  refine ⟨h.order, ?_⟩
  have hhere := h.here
  simp only [step]
  cases hpc : s.pc with
  | woken | collect =>
    rw [hpc] at hhere
    exact ⟨hhere.1, fun hnil => ⟨(hhere.2 hnil).1, rfl⟩⟩
  | stopped =>
    rw [hpc] at hhere
    exact ⟨hhere.1, rfl⟩
  | test | acquire | inspect | waiting | handling left | indexError | raised =>
    rw [hpc] at hhere
    exact hhere

theorem Inv.alarm (h : s.Inv D) (halarm : D.alarms = true) (hstop : s.stop = true) :
    (s.step D .alarm).Inv D := by
  simp only [step]
  obtain ⟨he, -⟩ | ⟨he, hpc⟩ := s.notify_eq
  · rwa [he]
  · have hhere := h.here
    rw [hpc] at hhere
    rw [he]
    exact ⟨h.order, hhere.1, fun _ => ⟨halarm, hstop⟩⟩

/-- The handler is called with an item that was next. -/
theorem Inv.handle (x : α) (raises : Bool) {left : Nat} (hleft : left ≤ s.queue.length)
    (horder : s.handled ++ [x] ++ s.batch ++ s.queue = s.put) :
    (s.handle x raises (.handling left)).Inv D := by
  refine ⟨horder, ?_⟩
  cases raises with
  | true => trivial
  | false => exact hleft

/-- The thread takes items: they are there. -/
theorem Inv.loop_collect (h : s.Inv D) (hD : D.Sound) (raises : Bool) (hpc : s.pc = .collect) :
    (s.loop D raises).Inv D := by
  obtain ⟨horder, hhere⟩ := h
  rw [hpc] at hhere
  obtain ⟨hbatch, hempty⟩ := hhere
  have hle : D.grab s.queue.length + D.later s.queue.length ≤ s.queue.length := by
    cases hq : s.queue with
    | nil => exact (hD.empty (hempty hq).1).le
    | cons x xs => exact hD.le _ (by simp)
  rw [Mailbox.loop_collect raises hpc (by omega)]
  refine ⟨?_, ?_⟩
  · simp only
    rw [List.append_assoc, List.take_append_drop, ← horder, hbatch, List.append_nil]
  · simp only [At, List.length_drop]
    omega

/-- The thread works. -/
theorem Inv.loop_handling (h : s.Inv D) (raises : Bool) {left : Nat} (hpc : s.pc = .handling left) :
    (s.loop D raises).Inv D := by
  obtain ⟨horder, hhere⟩ := h
  rw [hpc] at hhere
  cases hbatch : s.batch with
  | cons x xs =>
    rw [loop_batch raises hpc hbatch]
    refine .handle x raises hhere ?_
    rw [← horder, hbatch]
    simp
  | nil =>
    cases left with
    | zero =>
      rw [loop_done raises hpc hbatch]
      exact ⟨horder, hbatch⟩
    | succ left =>
      simp only [At] at hhere
      cases hq : s.queue with
      | nil => simp [hq] at hhere
      | cons x xs =>
        rw [hq, List.length_cons] at hhere
        rw [loop_later raises hpc hbatch hq]
        refine .handle x raises (Nat.le_of_succ_le_succ hhere) ?_
        rw [← horder, hbatch, hq]
        simp

/-- A step of the thread. -/
theorem Inv.loop (h : s.Inv D) (hD : D.Sound) (raises : Bool) : (s.loop D raises).Inv D := by
  have hhere := h.here
  cases hpc : s.pc with
  | collect => exact h.loop_collect hD raises hpc
  | handling left => exact h.loop_handling raises hpc
  | test =>
    rw [hpc] at hhere
    simp only [Mailbox.loop, hpc]
    refine ⟨h.order, ?_⟩
    cases hstop : s.stop with
    | true => exact ⟨hhere, rfl⟩
    | false => exact hhere
  | acquire =>
    rw [hpc] at hhere
    simp only [Mailbox.loop, hpc]
    exact ⟨h.order, hhere⟩
  | inspect =>
    rw [hpc] at hhere
    simp only [Mailbox.loop, hpc]
    cases hq : s.queue with
    | nil =>
      have horder := h.order
      rw [hq] at horder
      exact ⟨horder, hhere, rfl⟩
    | cons x xs =>
      have horder := h.order
      rw [hq] at horder
      exact ⟨horder, hhere, fun hnil => absurd hnil (by simp)⟩
  | woken =>
    rw [hpc] at hhere
    simp only [Mailbox.loop, hpc]
    exact ⟨h.order, hhere⟩
  | waiting | stopped | indexError | raised =>
    simp only [Mailbox.loop, hpc]
    exact h

/-- **One step** keeps the invariant. -/
theorem Inv.step (h : s.Inv D) (hD : D.Sound) {e : MailEvent α} (hadm : s.Admits D e) :
    (s.step D e).Inv D := by
  cases e with
  | put x => exact h.put x hadm
  | shutdown => exact h.shutdown
  | alarm => exact h.alarm hadm.1 hadm.2.1
  | loop raises => exact h.loop hD raises

/-! ## What one step hands to the handler -/

theorem put_pc_raised (D : Discipline) (s : Mailbox α) (x : α) :
    (s.step D (.put x)).pc = .raised ↔ s.pc = .raised := by
  simp only [step]
  obtain ⟨he, -⟩ | ⟨he, hpc⟩ := notify_eq { s with queue := s.queue ++ [x], put := s.put ++ [x] }
  · rw [he]
  · simp only at hpc
    rw [he, hpc]
    simp

@[simp] theorem put_handled (D : Discipline) (s : Mailbox α) (x : α) :
    (s.step D (.put x)).handled = s.handled := by
  simp only [step, notify]
  split <;> rfl

@[simp] theorem put_put (D : Discipline) (s : Mailbox α) (x : α) :
    (s.step D (.put x)).put = s.put ++ [x] := by
  simp only [step, notify]
  split <;> rfl

@[simp] theorem loop_put (D : Discipline) (s : Mailbox α) (raises : Bool) :
    (s.loop D raises).put = s.put := by
  cases hpc : s.pc with
  | handling left =>
    cases hbatch : s.batch with
    | cons x xs => rw [loop_batch raises hpc hbatch, handle]
    | nil =>
      cases left with
      | zero => rw [loop_done raises hpc hbatch]
      | succ left =>
        cases hq : s.queue with
        | nil => rw [loop_empty raises hpc hbatch hq]
        | cons x xs => rw [loop_later raises hpc hbatch hq, handle]
  | collect =>
    simp only [loop, hpc]
    split <;> rfl
  | test | acquire | inspect | waiting | woken | stopped | indexError | raised =>
    simp only [loop, hpc]

/-- The handler is called with an item. -/
theorem loop_of_next {x : α} (h : s.next = some x) (D : Discipline) (raises : Bool) :
    (s.loop D raises).handled = s.handled ++ [x] ∧
    ((s.loop D raises).pc = .raised ↔ raises = true) ∧
      s.pc ≠ .raised := by
  cases hpc : s.pc with
  | handling left =>
    simp only [next, hpc] at h
    cases hbatch : s.batch with
    | cons y ys =>
      rw [hbatch] at h
      obtain rfl := Option.some.inj h
      rw [loop_batch raises hpc hbatch]
      cases raises <;> simp [handle]
    | nil =>
      rw [hbatch] at h
      cases left with
      | zero => cases h
      | succ left =>
        cases hq : s.queue with
        | nil =>
          rw [hq] at h
          cases h
        | cons y ys =>
          rw [hq] at h
          obtain rfl := Option.some.inj h
          rw [loop_later raises hpc hbatch hq]
          cases raises <;> simp [handle]
  | test | acquire | inspect | waiting | woken | collect | stopped | indexError | raised =>
    simp only [next, hpc] at h
    cases h

/-- No item is handed to the handler. -/
theorem loop_of_next_none (h : s.next = none) (D : Discipline) :
    (s.loop D false).handled = s.handled ∧ ((s.loop D false).pc = .raised ↔ s.pc = .raised) := by
  cases hpc : s.pc with
  | handling left =>
    simp only [next, hpc] at h
    cases hbatch : s.batch with
    | cons y ys =>
      rw [hbatch] at h
      cases h
    | nil =>
      rw [hbatch] at h
      cases left with
      | zero =>
        rw [loop_done false hpc hbatch]
        simp
      | succ left =>
        cases hq : s.queue with
        | nil =>
          rw [loop_empty false hpc hbatch hq]
          simp
        | cons y ys =>
          rw [hq] at h
          cases h
  | collect =>
    simp only [loop, hpc]
    split <;> simp
  | test | inspect =>
    simp only [loop, hpc]
    split <;> simp
  | acquire | waiting | woken | stopped | indexError | raised => simp [loop, hpc]

/-- The next item is the first one that was not handled. -/
theorem Inv.next_put (h : s.Inv D) {x : α} (hx : s.next = some x) :
    s.put[s.handled.length]? = some x := by
  rw [← h.order, List.append_assoc, List.getElem?_append_right le_rfl, Nat.sub_self]
  cases hpc : s.pc with
  | handling left =>
    simp only [next, hpc] at hx
    cases hbatch : s.batch with
    | cons y ys =>
      rw [hbatch] at hx
      exact hx
    | nil =>
      rw [hbatch] at hx
      simp only at hx
      split at hx
      · cases hx
      · rwa [List.nil_append, ← List.head?_eq_getElem?]
  | test | acquire | inspect | waiting | woken | collect | stopped | indexError | raised =>
    simp only [next, hpc] at hx
    cases hx

/-! ## Stopping -/

/-- How many items the thread can still handle without a new round, if it never takes more than `B`
in one, and with the round that is before it. -/
def budget (B : Nat) (s : Mailbox α) : Nat :=
  match s.pc with
  | .handling left => s.batch.length + left
  | .acquire | .inspect | .waiting | .woken | .collect => B
  | .test | .stopped | .indexError | .raised => 0

/-- The rounds begun and the one before the thread do not grow, nor does what it has handled and can
handle if it never takes more than `B`. -/
structure Stopping (D : Discipline) (B : Nat) (s s' : Mailbox α) : Prop where
  stop : s.stop = true → s'.stop = true
  rounds : s.stop = true → s'.rounds + s'.pc.pending.toNat ≤ s.rounds + s.pc.pending.toNat
  handled : (∀ n, D.grab n + D.later n ≤ B) → s.stop = true →
    s'.handled.length + s'.budget B ≤ s.handled.length + s.budget B

theorem Stopping.refl (B : Nat) (s : Mailbox α) : Stopping D B s s :=
  ⟨id, fun _ => le_rfl, fun _ _ => le_rfl⟩

theorem Stopping.trans {B : Nat} {s s' s'' : Mailbox α} (h : Stopping D B s s')
    (h' : Stopping D B s' s'') :
    Stopping D B s s'' :=
  ⟨fun hs => h'.stop (h.stop hs), fun hs => (h'.rounds (h.stop hs)).trans (h.rounds hs),
    fun hB hs => (h'.handled hB (h.stop hs)).trans (h.handled hB hs)⟩

/-- A notification begins no round. -/
theorem Stopping.notify (B : Nat) (s : Mailbox α) : Stopping D B s s.notify := by
  obtain ⟨he, -⟩ | ⟨he, hpc⟩ := s.notify_eq
  · rw [he]
    exact .refl B s
  · rw [he]
    refine ⟨id, fun _ => ?_, fun _ _ => ?_⟩
    · simp [hpc, Pc.pending]
    · simp [hpc, budget]

/-- The handler is called with one of the items in hand. -/
theorem Stopping.handle {B : Nat} {s : Mailbox α} {left left' : Nat} (s' : Mailbox α) (x : α)
    (raises : Bool) (hpc : s.pc = .handling left) (hstop : s'.stop = s.stop)
    (hrounds : s'.rounds = s.rounds)
    (hhandled : s'.handled = s.handled)
    (hbudget : s'.batch.length + left' + 1 = s.batch.length + left) :
    Stopping D B s (s'.handle x raises (.handling left')) := by
  refine ⟨fun hs => hstop.trans hs, fun _ => ?_, fun _ _ => ?_⟩
  · rw [hpc]
    cases raises <;> simp [Mailbox.handle, Pc.pending, hrounds]
  · simp only [budget, hpc, Mailbox.handle, hhandled, List.length_append, List.length_singleton]
    cases raises with
    | true =>
      simp only [if_true]
      omega
    | false =>
      simp only [Bool.false_eq_true, if_false]
      omega

theorem Stopping.loop_handling {B : Nat} {s : Mailbox α} (raises : Bool) {left : Nat}
    (hpc : s.pc = .handling left) : Stopping D B s (s.loop D raises) := by
  -- leaving the batch ends what the thread can still handle
  have hleave : ∀ pc : Pc, pc.pending = false → budget B { s with pc } = 0 →
      Stopping D B s { s with pc } := by
    intro pc hpend hbudget
    refine ⟨id, fun _ => ?_, fun _ _ => ?_⟩
    · simp [hpend]
    · rw [hbudget]
      exact Nat.add_le_add_left (Nat.zero_le _) _
  cases hbatch : s.batch with
  | cons x xs =>
    rw [loop_batch raises hpc hbatch]
    refine .handle { s with batch := xs } x raises hpc rfl rfl rfl ?_
    rw [hbatch]
    simp only [List.length_cons]
    omega
  | nil =>
    cases left with
    | zero =>
      rw [loop_done raises hpc hbatch]
      exact hleave .test rfl rfl
    | succ left =>
      cases hq : s.queue with
      | nil =>
        rw [loop_empty raises hpc hbatch hq]
        exact hleave .indexError rfl rfl
      | cons x xs =>
        rw [loop_later raises hpc hbatch hq]
        exact .handle { s with queue := xs } x raises hpc rfl rfl rfl rfl

/-- A step of the thread. -/
theorem Stopping.loop (B : Nat) (s : Mailbox α) (raises : Bool) :
    Stopping D B s (s.loop D raises) := by
  cases hpc : s.pc with
  | handling left => exact .loop_handling raises hpc
  | test =>
    refine ⟨?_, fun hs => ?_, fun _ hs => ?_⟩
    · simp [Mailbox.loop, hpc]
    · simp [Mailbox.loop, hs, hpc, Pc.pending]
    · simp [Mailbox.loop, hs, hpc, budget]
  | acquire | woken =>
    refine ⟨?_, fun _ => ?_, fun _ _ => ?_⟩
    · simp [Mailbox.loop, hpc]
    · simp [Mailbox.loop, hpc, Pc.pending]
    · simp [Mailbox.loop, hpc, budget]
  | inspect =>
    refine ⟨?_, fun _ => ?_, fun _ _ => ?_⟩
    · simp [Mailbox.loop, hpc]
    · cases hq : s.queue <;> simp [Mailbox.loop, hpc, hq, Pc.pending]
    · cases hq : s.queue <;> simp [Mailbox.loop, hpc, hq, budget]
  | collect =>
    refine ⟨?_, fun _ => ?_, fun hB _ => ?_⟩
    · simp only [Mailbox.loop, hpc]
      split <;> exact id
    · simp only [Mailbox.loop, hpc]
      split <;> simp [Pc.pending]
    · have hle := hB s.queue.length
      simp only [Mailbox.loop, hpc]
      split
      · simp only [budget, hpc, List.length_take]
        omega
      · simp [budget]
  | waiting | stopped | indexError | raised =>
    simp only [Mailbox.loop, hpc]
    exact .refl B s

/-- **A step** after the flag was set. -/
theorem Stopping.step (B : Nat) (s : Mailbox α) (e : MailEvent α) :
    Stopping D B s (s.step D e) := by
  cases e with
  | put x =>
    have hput : Stopping D B s { s with queue := s.queue ++ [x], put := s.put ++ [x] } :=
      ⟨id, fun _ => le_rfl, fun _ _ => le_rfl⟩
    exact hput.trans (.notify B _)
  | shutdown => exact ⟨fun _ => rfl, fun _ => le_rfl, fun _ _ => le_rfl⟩
  | alarm => exact .notify B s
  | loop raises => exact .loop B s raises

/-- **Once the flag is set** the thread begins at most one more round, and handles at most as many
items as it takes in one, whatever the others do. -/
theorem run_stopping (B : Nat) (s : Mailbox α) (es : List (MailEvent α)) :
    Stopping D B s (run (Mailbox.step D) s es) :=
  run_rel (I := fun _ => True) (.refl B) .trans (fun s e _ _ => ⟨trivial, .step B s e⟩) trivial
    (guarded_of_forall_mem (P := fun _ => True) (fun _ _ => trivial) s)

/-- The thread never has more in hand than it takes in a round. -/
theorem budget_le {B : Nat} (hB : ∀ n, D.grab n + D.later n ≤ B) (h : s.budget B ≤ B)
    (e : MailEvent α) :
    (s.step D e).budget B ≤ B := by
  have hpc : ∀ s' : Mailbox α, (∀ left, s'.pc ≠ .handling left) → s'.budget B ≤ B := by
    intro s' hne
    unfold budget
    cases hpc : s'.pc with
    | handling left => exact absurd hpc (hne left)
    | acquire | inspect | waiting | woken | collect => exact le_rfl
    | test | stopped | indexError | raised => exact Nat.zero_le _
  have hnotify : ∀ s' : Mailbox α, s'.budget B ≤ B → s'.notify.budget B ≤ B := by
    intro s' hs'
    obtain ⟨he, -⟩ | ⟨he, -⟩ := s'.notify_eq
    · rwa [he]
    · rw [he]
      exact hpc _ (by simp)
  have hhandle : ∀ (s' : Mailbox α) (x : α) (raises : Bool) (left : Nat),
    s'.batch.length + left ≤ B →
      (s'.handle x raises (.handling left)).budget B ≤ B := by
    intro s' x raises left hle
    cases raises with
    | true => exact hpc _ (by simp [handle])
    | false => exact hle
  cases e with
  | put x => exact hnotify _ h
  | shutdown => exact h
  | alarm => exact hnotify s h
  | loop raises =>
    simp only [step]
    cases hs : s.pc with
    | handling left =>
      simp only [budget, hs] at h
      cases hbatch : s.batch with
      | cons x xs =>
        rw [hbatch, List.length_cons] at h
        rw [loop_batch raises hs hbatch]
        exact hhandle _ x raises left (by simp only; omega)
      | nil =>
        cases left with
        | zero =>
          rw [loop_done raises hs hbatch]
          exact Nat.zero_le _
        | succ left =>
          cases hq : s.queue with
          | nil =>
            rw [loop_empty raises hs hbatch hq]
            exact Nat.zero_le _
          | cons x xs =>
            rw [loop_later raises hs hbatch hq]
            exact hhandle _ x raises left (by simp only; omega)
    | collect =>
      have hle := hB s.queue.length
      simp only [loop, hs]
      split
      · simp only [budget, List.length_take]
        omega
      · exact Nat.zero_le _
    | test =>
      refine hpc _ fun left => ?_
      simp only [loop, hs]
      split <;> simp
    | inspect =>
      refine hpc _ fun left => ?_
      simp only [loop, hs]
      split <;> simp
    | acquire | woken | waiting | stopped | indexError | raised =>
      refine hpc _ fun left => ?_
      simp [loop, hs]

/-- Once the flag is set the thread does not wait any more, if it does not wait or is not about to
look at an empty queue. -/
theorem run_not_waiting (hstop : s.stop = true) (hpc : s.pc ≠ .waiting)
    (hq : s.pc = .acquire ∨ s.pc = .inspect → s.queue ≠ []) (es : List (MailEvent α)) :
    (run (step D) s es).pc ≠ .waiting := by
  have hstep : ∀ (s : Mailbox α) (e : MailEvent α),
      (s.stop = true ∧ s.pc ≠ .waiting ∧ (s.pc = .acquire ∨ s.pc = .inspect → s.queue ≠ [])) →
      ((s.step D e).stop = true ∧ (s.step D e).pc ≠ .waiting ∧
        ((s.step D e).pc = .acquire ∨ (s.step D e).pc = .inspect → (s.step D e).queue ≠ [])) := by
    rintro s e ⟨hstop, hpc, hq⟩
    cases e with
    | put x => simp [step, notify, hpc, hstop]
    | shutdown => exact ⟨rfl, hpc, hq⟩
    | alarm =>
      simp only [step, notify, if_neg hpc]
      exact ⟨hstop, hpc, hq⟩
    | loop raises =>
      simp only [step]
      cases hs : s.pc with
      | waiting => exact absurd hs hpc
      | handling left =>
        cases hbatch : s.batch with
        | cons x xs =>
          rw [loop_batch raises hs hbatch]
          cases raises <;> simp [handle, hstop]
        | nil =>
          cases left with
          | zero =>
            rw [loop_done raises hs hbatch]
            simp [hstop]
          | succ left =>
            cases hqueue : s.queue with
            | nil =>
              rw [loop_empty raises hs hbatch hqueue]
              simp [hstop]
            | cons x xs =>
              rw [loop_later raises hs hbatch hqueue]
              cases raises <;> simp [handle, hstop]
      | collect =>
        simp only [loop, hs]
        split <;> simp [hstop]
      | inspect =>
        have hne := hq (Or.inr hs)
        cases hqueue : s.queue with
        | nil => exact absurd hqueue hne
        | cons x xs => simp [loop, hs, hqueue, hstop]
      | acquire =>
        have hne := hq (Or.inl hs)
        simpa [loop, hs, hstop] using hne
      | test | woken | stopped | indexError | raised => simp [loop, hs, hstop]
  exact (run_inv' hstep ⟨hstop, hpc, hq⟩ es).2.1

/-- Nobody wakes a thread that waits but with an item, if nobody notifies it to stop. -/
theorem run_waiting (halarm : D.alarms = false) (hpc : s.pc = .waiting) {es : List (MailEvent α)}
    (hput : ∀ x, .put x ∉ es) (hadm : Guarded (step D) (Admits D) s es) :
    (run (step D) s es).pc = .waiting := by
  induction es generalizing s with
  | nil => exact hpc
  | cons e es ih =>
    refine ih ?_ (fun x hx => hput x (List.mem_cons_of_mem _ hx)) hadm.2
    cases e with
    | put x => exact absurd List.mem_cons_self (hput x)
    | shutdown => exact hpc
    | alarm =>
      have : D.alarms = true := hadm.1.1
      rw [halarm] at this
      cases this
    | loop raises => simp [step, loop, hpc]

/-! ## Getting everything done -/

/-- How many steps the thread needs until it waits, if nobody does anything. -/
def cost (s : Mailbox α) : Nat :=
  6 * (s.batch.length + s.queue.length) +
    match s.pc with
    | .test => 4
    | .acquire => 3
    | .inspect | .woken => 2
    | .collect => 1
    | .handling left => if s.batch.length + left = 0 then 5 else 0
    | .waiting | .stopped | .indexError | .raised => 0

theorem cost_le (s : Mailbox α) : s.cost ≤ 6 * (s.batch.length + s.queue.length) + 5 := by
  unfold cost
  cases s.pc with
  | handling left =>
    simp only
    split_ifs <;> omega
  | test | acquire | inspect | waiting | woken | collect | stopped | indexError | raised => simp

/-- The thread runs, and nobody has stopped it. -/
def Runs (s : Mailbox α) : Prop := s.stop = false ∧ s.pc ≠ .raised

/-- A step of the thread brings it closer to waiting, unless it waits. -/
theorem Inv.loop_cost (h : s.Inv D) (hD : D.Sound) (hruns : s.Runs) :
    (s.loop D false).Runs ∧ (s.loop D false).put = s.put ∧
      (s.pc = .waiting ∧ s.loop D false = s ∨ (s.loop D false).cost < s.cost) := by
  obtain ⟨hstop, hraised⟩ := hruns
  have hhere := h.here
  cases hpc : s.pc with
  | raised => exact absurd hpc hraised
  | indexError =>
    rw [hpc] at hhere
    exact hhere.elim
  | stopped =>
    rw [hpc] at hhere
    rw [hhere.2] at hstop
    cases hstop
  | waiting =>
    have he : s.loop D false = s := by simp only [Mailbox.loop, hpc]
    rw [he]
    exact ⟨⟨hstop, hraised⟩, rfl, Or.inl ⟨rfl, rfl⟩⟩
  | test => simp [Mailbox.loop, Runs, hstop, cost, hpc]
  | acquire => simp [Mailbox.loop, Runs, hstop, cost, hpc]
  | woken => simp [Mailbox.loop, Runs, hstop, cost, hpc]
  | inspect => cases hq : s.queue <;> simp [Mailbox.loop, Runs, hstop, cost, hpc, hq]
  | collect =>
    rw [hpc] at hhere
    have hne : 0 < s.queue.length := by
      cases hq : s.queue with
      | nil =>
        rw [(hhere.2 hq).2] at hstop
        cases hstop
      | cons x xs => simp
    have hle := hD.le _ hne
    have hpos := hD.pos _ hne
    rw [Mailbox.loop_collect false hpc (by omega)]
    refine ⟨⟨hstop, by simp⟩, rfl, Or.inr ?_⟩
    simp only [cost, hpc, hhere.1, List.length_take, List.length_drop, List.length_nil]
    rw [if_neg (by omega)]
    omega
  | handling left =>
    rw [hpc] at hhere
    cases hbatch : s.batch with
    | cons x xs =>
      rw [loop_batch false hpc hbatch]
      refine ⟨⟨hstop, by simp [Mailbox.handle]⟩, rfl, Or.inr ?_⟩
      simp only [cost, Mailbox.handle, hpc, hbatch, List.length_cons, Bool.false_eq_true, if_false]
      split_ifs <;> omega
    | nil =>
      cases left with
      | zero =>
        rw [loop_done false hpc hbatch]
        simp [Runs, hstop, cost, hpc, hbatch]
      | succ left =>
        cases hq : s.queue with
        | nil => simp [At, hq] at hhere
        | cons x xs =>
          rw [loop_later false hpc hbatch hq]
          refine ⟨⟨hstop, by simp [Mailbox.handle]⟩, rfl, Or.inr ?_⟩
          simp only [cost, Mailbox.handle, hpc, hbatch, hq, List.length_cons,
            Bool.false_eq_true, if_false]
          split_ifs <;> omega

/-- With no step left to be made, the thread waits. -/
theorem Inv.of_cost_zero (h : s.Inv D) (hruns : s.Runs) (hcost : s.cost = 0) :
    s.pc = .waiting ∧ s.handled = s.put := by
  have hhere := h.here
  have hempty : s.batch = [] ∧ s.queue = [] := by
    unfold cost at hcost
    exact ⟨List.length_eq_zero_iff.1 (by omega), List.length_eq_zero_iff.1 (by omega)⟩
  refine ⟨?_, ?_⟩
  · cases hpc : s.pc with
    | waiting => rfl
    | raised => exact absurd hpc hruns.2
    | indexError =>
      rw [hpc] at hhere
      exact hhere.elim
    | stopped =>
      rw [hpc] at hhere
      have hstop := hruns.1
      rw [hhere.2] at hstop
      cases hstop
    | test | acquire | inspect | woken | collect => simp [cost, hpc] at hcost
    | handling left =>
      rw [hpc] at hhere
      simp only [At, hempty.2, List.length_nil, Nat.le_zero] at hhere
      simp [cost, hpc, hempty, hhere] at hcost
  · rw [← h.order, hempty.1, hempty.2]
    simp

/-- **The thread gets everything done.** Let it run alone for as many steps as `cost` says, or more:
then it waits, and has handled every item that was put in the queue. -/
theorem Inv.drains (h : s.Inv D) (hD : D.Sound) (hruns : s.Runs) {n : Nat} (hn : s.cost ≤ n) :
    (run (Mailbox.step D) s (List.replicate n (.loop false))).pc = .waiting ∧
      (run (Mailbox.step D) s (List.replicate n (.loop false))).handled = s.put := by
  induction n generalizing s with
  | zero => exact h.of_cost_zero hruns (Nat.le_zero.1 hn)
  | succ n ih =>
    obtain ⟨hruns', hput, hcost⟩ := h.loop_cost hD hruns
    rw [← hput]
    refine ih (h.loop hD false) hruns' ?_
    rcases hcost with ⟨hpc, he⟩ | hlt
    · have hhere := h.here
      rw [hpc] at hhere
      change (s.loop D false).cost ≤ n
      rw [he]
      simp [cost, hpc, hhere.1, hhere.2]
    · exact Nat.le_of_lt_succ (hlt.trans_le hn)

end Mailbox

end Tipy.Lib
