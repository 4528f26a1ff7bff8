import Tipy.Lib.Mailbox

/-!
# The threads behind the queues

`TXRing._tx_loop`, `RXRing._dequeue` and `TCPEvents._tcp_events_loop`: three threads that take
frames, packets and events from a queue others fill. They differ in how many items they take with
the lock, in how many after it, and in what `shutdown` does. The TX ring takes one and builds and
writes it before it gives the lock up; the RX ring takes all and handles them without the lock; the
event loop only reads the length with the lock. `shutdown` of the rings sets a flag and wakes
nobody.
-/

namespace Tipy.Components

open Lib

def MAX_EVENTS : Nat := 5000

/-- `TXRing._tx_loop`: `popleft`, `build` and `os.write` with the lock. -/
def TXRing : Discipline where
  grab _ := 1
  later _ := 0
  keepsLock := true
  alarms := false

/-- `RXRing._dequeue`: `while self._queue` with the lock, `_deque_batch` without it. -/
def RXRing : Discipline where
  grab l := l
  later _ := 0
  keepsLock := false
  alarms := false

/-- `TCPEvents._tcp_events_loop`: `l = len(q)` with the lock, `min(MAX_EVENTS, l)` turns without it.
-/
def TCPEvents : Discipline where
  grab _ := 0
  later l := min MAX_EVENTS l
  keepsLock := false
  alarms := true

/-- The three threads. -/
def threads : List Discipline := [TXRing, RXRing, TCPEvents]

theorem TXRing_sound : TXRing.Sound :=
  ⟨fun _ h => h, fun _ _ => Nat.zero_lt_one, fun h => by cases h⟩

theorem RXRing_sound : RXRing.Sound :=
  ⟨fun _ _ => le_rfl, fun _ h => h, fun _ => rfl⟩

theorem TCPEvents_sound : TCPEvents.Sound := by
  refine ⟨fun n _ => ?_, fun n h => ?_, fun _ => rfl⟩
  · simp only [TCPEvents]
    omega
  · simp only [TCPEvents, MAX_EVENTS]
    omega

theorem threads_sound {D : Discipline} (h : D ∈ threads) : D.Sound := by
  simp only [threads, List.mem_cons, List.not_mem_nil, or_false] at h
  rcases h with rfl | rfl | rfl
  · exact TXRing_sound
  · exact RXRing_sound
  · exact TCPEvents_sound

variable {α : Type*}

/-- What the clients of a queue can rely on: what was put in it is handled in this order, nothing
lost or repeated; the thread takes nothing from an empty queue; it waits only when everything is
handled; and left to itself, with nobody stopping it, it gets there. -/
structure Delivers (D : Discipline) (s : Mailbox α) : Prop where
  order : s.handled ++ s.batch ++ s.queue = s.put
  taken : s.pc ≠ .indexError
  waits : s.pc = .waiting → s.handled = s.put
  drains : s.Runs → ∀ n, 6 * (s.batch.length + s.queue.length) + 5 ≤ n →
    (run (Mailbox.step D) s (List.replicate n (.loop false))).pc = .waiting ∧
      (run (Mailbox.step D) s (List.replicate n (.loop false))).handled = s.put

theorem Delivers.of_inv {D : Discipline} (hD : D.Sound) {s : Mailbox α} (hinv : s.Inv D) :
    Delivers D s := by
  have hhere := hinv.here
  refine ⟨hinv.order, fun hpc => ?_, fun hpc => ?_, fun hruns n hn => ?_⟩
  · rw [hpc] at hhere
    exact hhere
  · rw [hpc] at hhere
    have horder := hinv.order
    rw [hhere.1, hhere.2, List.append_nil, List.append_nil] at horder
    exact horder
  · exact hinv.drains hD hruns ((Mailbox.cost_le _).trans hn)

/-- **The three threads deliver**, in every run of their clients beside them, the handlers raising
or not. -/
theorem threads_deliver (D : Discipline) (hD : D ∈ threads) (es : List (MailEvent α))
    (hadm : Guarded (Mailbox.step D) (Mailbox.Admits D) Mailbox.new es) :
    Delivers D (run (Mailbox.step D) Mailbox.new es) :=
  .of_inv (threads_sound hD) (run_inv (fun _ _ h hok => h.step (threads_sound hD) hok)
    (.new D) hadm)

/-- Three events, the third scheduled while the first is handled. -/
theorem threads_deliver_three :
    Delivers TCPEvents (run (Mailbox.step TCPEvents) Mailbox.new
      [.put 1, .put 2, .loop false, .loop false, .loop false, .loop false, .loop false, .put 3,
        .loop false]) :=
  threads_deliver TCPEvents (by simp [threads]) _ (by decide)

/-! ## Shutting down -/

/-- What `shutdown` does to a thread: it begins at most one more round, and handles at most as many
more items as it takes in one, if that is bounded. A ring that waits goes on waiting until another
frame comes, and does not stop. The event loop is notified: after that it never waits, unless it has
tested the flag before it was set and is about to find the queue empty. -/
structure Stops (D : Discipline) (bound : Option Nat) (s : Mailbox α) : Prop where
  rounds : s.stop = true → ∀ es, (run (Mailbox.step D) s es).rounds ≤ s.rounds + 1
  handled : s.stop = true → ∀ b ∈ bound, ∀ es,
    (run (Mailbox.step D) s es).handled.length ≤ s.handled.length + b
  waits : D.alarms = false → s.pc = .waiting → ∀ es, (∀ x, .put x ∉ es) →
    Guarded (Mailbox.step D) (Mailbox.Admits D) s es → (run (Mailbox.step D) s es).pc = .waiting
  notified : s.Admits D .alarm →
    ((∀ es, (run (Mailbox.step D) (s.step D .alarm) es).pc ≠ .waiting) ↔
      ¬ (s.pc = .acquire ∧ s.queue = []))

/-- The notification reaches the loop, or the loop is on its way to the flag. -/
theorem notified_iff {D : Discipline} {s : Mailbox α} (halarm : s.Admits D .alarm) :
    (∀ es, (run (Mailbox.step D) (s.step D .alarm) es).pc ≠ .waiting) ↔
      ¬ (s.pc = .acquire ∧ s.queue = []) := by
  obtain ⟨-, hstop, hlock⟩ := halarm
  constructor
  · rintro h ⟨hpc, hq⟩
    -- it takes the lock after the notification, and waits
    refine h [.loop false, .loop false] ?_
    simp [Mailbox.step, Mailbox.notify, Mailbox.loop, hpc, hq]
  · intro hne es
    obtain ⟨he, hpc⟩ | ⟨he, -⟩ := s.notify_eq
    · have hstep : s.step D .alarm = s := he
      rw [hstep]
      refine Mailbox.run_not_waiting hstop hpc ?_ es
      rintro (hacquire | hinspect)
      · exact fun hq => hne ⟨hacquire, hq⟩
      · simp [Mailbox.locked, hinspect] at hlock
    · have hstep : s.step D .alarm = { s with pc := .woken } := he
      rw [hstep]
      exact Mailbox.run_not_waiting (s := { s with pc := .woken }) hstop (by simp) (by simp) es

theorem stops_of_bound {D : Discipline} {bound : Option Nat}
    (hbound : ∀ b ∈ bound, ∀ n, D.grab n + D.later n ≤ b) (es : List (MailEvent α)) :
    Stops D bound (run (Mailbox.step D) Mailbox.new es) := by
  refine ⟨fun hstop es' => ?_, fun hstop b hb es' => ?_, fun halarm hpc es' hput hadm =>
    ?_, notified_iff⟩
  · have hrounds :=
      (Mailbox.run_stopping (D := D) 0 (run (Mailbox.step D) Mailbox.new es) es').rounds hstop
    have hbit := Bool.toNat_le (run (Mailbox.step D) Mailbox.new es).pc.pending
    omega
  · have hhandled := (Mailbox.run_stopping b (run (Mailbox.step D) Mailbox.new es) es').handled
      (hbound b hb) hstop
    have hstart : (Mailbox.new : Mailbox α).budget b ≤ b := Nat.zero_le b
    have hbudget : (run (Mailbox.step D) Mailbox.new es).budget b ≤ b :=
      run_inv' (I := fun s : Mailbox α => s.budget b ≤ b)
        (fun _ e h => Mailbox.budget_le (hbound b hb) h e) hstart es
    omega
  · exact Mailbox.run_waiting halarm hpc hput hadm

/-- **The three threads stop**, as far as they do: after the flag is set the TX ring writes at most
one more frame, and the event loop calls at most `MAX_EVENTS` more handlers. -/
theorem threads_stop (es : List (MailEvent α)) :
    Stops TXRing (some 1) (run (Mailbox.step TXRing) Mailbox.new es) ∧
      Stops RXRing none (run (Mailbox.step RXRing) Mailbox.new es) ∧
      Stops TCPEvents (some MAX_EVENTS) (run (Mailbox.step TCPEvents) Mailbox.new es) := by
  refine ⟨stops_of_bound ?_ es, stops_of_bound ?_ es, stops_of_bound ?_ es⟩
  · rintro b ⟨⟩ n
    exact le_rfl
  · rintro b ⟨⟩
  · rintro b ⟨⟩ n
    simp only [TCPEvents]
    omega

end Tipy.Components
