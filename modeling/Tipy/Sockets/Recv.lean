import Tipy.Lib.CondVar
import Tipy.Tcp.Stack

/-!
# Waiting for data

The receive calls of the three kinds of sockets against the threads that deliver. A `UDPSocket` and
a `RIPSocket` have the same `get_data` (append to the queue, then notify under the condition) and,
in `udp_recv` and `raw_recv`, the same call: wait, then take the oldest packet. `tcp_recv` looks at
the connection state and at `rcv_buf` first and waits in a step of its own.

A delivery is two steps, so other threads come in between; `notify` reaches only calls that already
wait. The packet sockets therefore lose the wake-up of data that was queued before the call,
`tcp_recv` that of data that arrives between its test and its wait. A time-out is two steps as well:
a call whose time is over is still among the waiters until it has the lock, and a notification may
be spent on it. `recv_served` says under which guard on the steps no call is left waiting beside
queued data.
-/

namespace Tipy.Sockets

open Tipy.Lib Tipy.Buffer Tipy.Tcp

/-! ## Packet sockets -/

/-- A call of `udp_recv` or `raw_recv`, and whether it found data already queued. -/
structure PacketCall where
  bufsize : Nat
  found : Bool
deriving Repr, DecidableEq

/-- How a call ended; a call that gave up is logged with the queue of that moment. -/
inductive PacketResult where
  | data (packet : List UInt8) (bufsize : Nat)
  | timedOut (queue : List (List UInt8))
  /-- `popleft` of an empty queue -/
  | indexError
deriving Repr, DecidableEq

/-- The bytes a call returns. -/
def PacketResult.bytes : PacketResult → List UInt8
  | .data packet bufsize => packet.take bufsize
  | .timedOut _ | .indexError => []

/-- `queue` and `cond` of a UDP or raw socket, with a log of the packets delivered, of the queue at
each deadline of a call, and of the calls that ended. -/
structure PacketSocket where
  queue : List (List UInt8)
  cond : CondVar PacketCall
  delivered : List (List UInt8)
  deadlines : List (List (List UInt8))
  results : List PacketResult
deriving DecidableEq

inductive PacketEvent where
  /-- the first half of `get_data` -/
  | append (packet : List UInt8)
  /-- the second half of `get_data` -/
  | notify
  | recv (bufsize : Nat)
  /-- a notified call goes on -/
  | resume (k : Nat)
  /-- the time of a waiting call is over -/
  | timeout (k : Nat)
  /-- a call whose time is over leaves the waiters, and raises -/
  | giveUp (k : Nat)
  /-- a call that was notified after its time was over raises -/
  | leave (k : Nat)
deriving Repr, DecidableEq

namespace PacketSocket

def new : PacketSocket := ⟨[], .new, [], [], []⟩

def step (s : PacketSocket) : PacketEvent → PacketSocket
  | .append packet =>
    { s with queue := s.queue ++ [packet], cond := s.cond.signal,
             delivered := s.delivered ++ [packet] }
  | .notify => { s with cond := s.cond.notify }
  | .recv bufsize => { s with cond := s.cond.wait ⟨bufsize, s.queue ≠ []⟩ }
  | .resume k =>
    match s.cond.woken[k]?, s.queue with
    | none, _ => s
    | some call, packet :: queue =>
      { s with queue := queue, cond := s.cond.resume k,
               results := s.results ++ [.data packet call.bufsize] }
    | some _, [] => { s with cond := s.cond.resume k, results := s.results ++ [.indexError] }
  | .timeout k =>
    match s.cond.waiters[k]? with
    | some ⟨_, false⟩ =>
      { s with cond := s.cond.expire k, deadlines := s.deadlines ++ [s.queue] }
    | _ => s
  | .giveUp k =>
    match s.cond.waiters[k]? with
    | some ⟨_, true⟩ =>
      { s with cond := s.cond.giveUp k, results := s.results ++ [.timedOut s.queue] }
    | _ => s
  | .leave k =>
    match s.cond.late[k]? with
    | some _ => { s with cond := s.cond.leave k, results := s.results ++ [.timedOut s.queue] }
    | none => s

/-- The packets taken so far. -/
def taken (s : PacketSocket) : List (List UInt8) :=
  s.results.filterMap fun
    | .data packet _ => some packet
    | .timedOut _ | .indexError => none

/-- The guard: a call starts on an empty queue, or while more deliveries are about to notify than
there are waiters; no notification is spent on a call whose time is over; and no call's time is
over, and none gives up, while a delivery or a notified call is under way. -/
def Timely (s : PacketSocket) : PacketEvent → Prop
  | .recv _ => s.queue = [] ∨ s.cond.waiters.length < s.cond.notifying
  | .notify => ¬ s.cond.MeetsExpired
  | .timeout _ | .giveUp _ | .leave _ => s.cond.Quiet
  | .append _ | .resume _ => True

instance (s : PacketSocket) : (e : PacketEvent) → Decidable (s.Timely e)
  | .recv _ => inferInstanceAs (Decidable (_ ∨ _))
  | .notify => inferInstanceAs (Decidable (¬ s.cond.MeetsExpired))
  | .timeout _ | .giveUp _ | .leave _ => inferInstanceAs (Decidable s.cond.Quiet)
  | .append _ | .resume _ => .isTrue trivial

/-- What every timely run keeps. -/
structure Inv (s : PacketSocket) : Prop where
  oldest_first : s.taken ++ s.queue = s.delivered
  no_error : .indexError ∉ s.results
  deadline_empty : ∀ queue ∈ s.deadlines, queue = []
  gave_up_empty : ∀ queue, .timedOut queue ∈ s.results → queue = []
  none_late : s.cond.late = []
  /-- what is under way was put into the queue before -/
  backed : s.cond.underWay ≤ s.queue.length
  owed : s.cond.Owed s.queue.length
  /-- a call that found data is among those that the coming notifications reach -/
  found_lt : ∀ i w, s.cond.waiters[i]? = some w → w.call.found = true → i < s.cond.notifying

variable {s : PacketSocket}

/-- Beside a waiter, once nothing is under way, the queue is empty. -/
theorem Inv.queue_empty (h : s.Inv) (hq : s.cond.Quiet) {k : Nat} {w : Waiter PacketCall}
    (hw : s.cond.waiters[k]? = some w) : s.queue = [] := by
  rcases h.owed.quiet hq with hnone | hempty
  · rw [hnone] at hw
    simp at hw
  · exact List.length_eq_zero_iff.1 hempty

theorem inv_new : new.Inv where
  oldest_first := rfl
  no_error := by simp [new]
  deadline_empty := by simp [new]
  gave_up_empty := by simp [new]
  none_late := rfl
  backed := Nat.le_refl 0
  owed := .inl (Nat.le_refl 0)
  found_lt := by simp [new, CondVar.new]

theorem Inv.append (h : s.Inv) (packet : List UInt8) : (s.step (.append packet)).Inv where
  oldest_first := by
    change s.taken ++ (s.queue ++ [packet]) = s.delivered ++ [packet]
    rw [← List.append_assoc, h.oldest_first]
  no_error := h.no_error
  deadline_empty := h.deadline_empty
  gave_up_empty := h.gave_up_empty
  none_late := h.none_late
  backed := by
    have := h.backed
    simp only [step, CondVar.underWay, CondVar.signal_woken, CondVar.signal_notifying,
      List.length_append, List.length_cons, List.length_nil] at this ⊢
    omega
  owed := by
    have := h.owed.signal
    simpa [step] using this
  found_lt i w hi hfound := Nat.lt_succ_of_lt (h.found_lt i w hi hfound)

theorem Inv.notify (h : s.Inv) (ht : s.Timely .notify) : (s.step .notify).Inv := by
  have hbacked := h.backed
  refine ⟨h.oldest_first, h.no_error, h.deadline_empty, h.gave_up_empty, ?_, ?_,
    h.owed.notify ht, ?_⟩
  all_goals
    simp only [step, CondVar.underWay] at hbacked ⊢
    obtain he | ⟨hw, he, hn⟩ | ⟨w, ws, hw, -, he, hn⟩ | ⟨w, ws, -, hmeets, -⟩ := s.cond.notify_cases
    on_goal 4 => exact absurd hmeets ht
    all_goals rw [he]
  · exact h.none_late
  · exact h.none_late
  · exact h.none_late
  · exact hbacked
  · simp only
    omega
  · simp only [List.length_append, List.length_singleton]
    omega
  · exact h.found_lt
  · simp [hw]
  · intro i w' hi hfound
    -- the oldest call is gone and one notification with it
    have := h.found_lt (i + 1) w' (by rw [hw]; exact hi) hfound
    simp only
    omega

theorem Inv.recv (h : s.Inv) (bufsize : Nat) (ht : s.Timely (.recv bufsize)) :
    (s.step (.recv bufsize)).Inv := by
  refine ⟨h.oldest_first, h.no_error, h.deadline_empty, h.gave_up_empty, h.none_late,
    h.backed, ?_, ?_⟩
  · exact .wait (ht.imp List.length_eq_zero_iff.2 id)
  · intro i w hi hfound
    simp only [step, CondVar.wait_waiters, CondVar.wait_notifying] at hi ⊢
    rcases Nat.lt_or_ge i s.cond.waiters.length with hlt | hge
    · rw [List.getElem?_append_left hlt] at hi
      exact h.found_lt i w hi hfound
    · rw [List.getElem?_append_right hge] at hi
      have hi0 : i - s.cond.waiters.length = 0 := by
        have := (List.getElem?_eq_some_iff.1 hi).1
        simpa using this
      rw [hi0] at hi
      cases hi
      rcases ht with hnil | hlt
      · simp [hnil] at hfound
      · omega

theorem Inv.resume (h : s.Inv) (k : Nat) : (s.step (.resume k)).Inv := by
  simp only [step]
  split
  · exact h
  · next call packet queue hcall hqueue =>
    have hlen := CondVar.length_resume hcall
    have hbacked := h.backed
    have howed := h.owed
    rw [hqueue] at hbacked howed
    refine ⟨?_, ?_, h.deadline_empty, ?_, h.none_late, ?_, howed.resume hcall, h.found_lt⟩
    · have := h.oldest_first
      rw [hqueue] at this
      simp only [taken, List.filterMap_append, List.filterMap_cons, List.filterMap_nil] at this ⊢
      rw [← this, List.append_assoc]
      rfl
    · simpa using h.no_error
    · simpa using h.gave_up_empty
    · simp only [CondVar.underWay, CondVar.resume_notifying, List.length_cons] at hbacked ⊢
      omega
  · next call hcall hqueue =>
    -- a notified call always finds the packet it was woken for
    have hlt := (List.getElem?_eq_some_iff.1 hcall).1
    have hbacked := h.backed
    rw [hqueue, List.length_nil, CondVar.underWay] at hbacked
    omega

theorem Inv.timeout (h : s.Inv) (k : Nat) (ht : s.Timely (.timeout k)) :
    (s.step (.timeout k)).Inv := by
  simp only [step]
  split
  · next call hcall =>
    refine ⟨h.oldest_first, h.no_error, ?_, h.gave_up_empty, h.none_late, h.backed,
      h.owed.expire k, ?_⟩
    · intro queue hmem
      rcases List.mem_append.1 hmem with hmem | hmem
      · exact h.deadline_empty queue hmem
      · rw [List.mem_singleton.1 hmem, h.queue_empty ht hcall]
    · intro i w hi hfound
      obtain ⟨w', hi', hsame⟩ := CondVar.getElem?_expire hi
      exact h.found_lt i w' hi' (hsame ▸ hfound)
  · exact h

/-- A call that raises beside an empty queue. -/
theorem Inv.gaveUp (h : s.Inv) (hempty : s.queue = []) :
    Inv { s with results := s.results ++ [.timedOut s.queue] } := by
  refine ⟨?_, ?_, h.deadline_empty, ?_, h.none_late, h.backed, h.owed, h.found_lt⟩
  · simpa [taken] using h.oldest_first
  · simpa using h.no_error
  · intro queue hmem
    rcases List.mem_append.1 hmem with hmem | hmem
    · exact h.gave_up_empty queue hmem
    · have : queue = s.queue := by simpa using hmem
      rw [this, hempty]

theorem Inv.giveUp (h : s.Inv) (k : Nat) (ht : s.Timely (.giveUp k)) :
    (s.step (.giveUp k)).Inv := by
  simp only [step]
  split
  · next call hcall =>
    have h' := h.gaveUp (h.queue_empty ht hcall)
    refine ⟨h'.oldest_first, h'.no_error, h'.deadline_empty, h'.gave_up_empty,
      h'.none_late, h'.backed, h'.owed.giveUp k, ?_⟩
    intro i w hi hfound
    simp only [CondVar.giveUp_waiters, CondVar.giveUp_notifying, List.getElem?_eraseIdx] at hi ⊢
    split at hi
    · exact h.found_lt i w hi hfound
    · have := h.found_lt (i + 1) w hi hfound
      omega
  · exact h

theorem Inv.leave (h : s.Inv) (k : Nat) : (s.step (.leave k)).Inv := by
  simp only [step]
  split
  · next call hcall =>
    rw [h.none_late] at hcall
    simp at hcall
  · exact h

theorem Inv.step (h : s.Inv) (e : PacketEvent) (ht : s.Timely e) : (s.step e).Inv := by
  cases e with
  | append packet => exact h.append packet
  | notify => exact h.notify ht
  | recv bufsize => exact h.recv bufsize ht
  | resume k => exact h.resume k
  | timeout k => exact h.timeout k ht
  | giveUp k => exact h.giveUp k ht
  | leave k => exact h.leave k

end PacketSocket

/-! ## Stream sockets -/

/-- How a call of `tcp_recv` ended. A call that returned nothing without reading, or raised, is
logged with what `rcv_buf` held at that moment. -/
inductive StreamResult where
  /-- `bytes` were dequeued; `found` when the call found them without waiting -/
  | data (bufsize : Nat) (found : Bool) (bytes : List UInt8)
  /-- the connection was in one of `NON_RECEIVABLE_STATES` -/
  | endOfFile (queued : List UInt8)
  /-- the socket had an error -/
  | raised (queued : List UInt8)
  | timedOut (queued : List UInt8)
deriving Repr, DecidableEq

/-- The part of a TCP socket and its control block that `tcp_recv` works on, with the calls that
have tested `rcv_buf` and not yet gone on, and a log of the bytes taken into `rcv_buf`, of what it
held at each deadline of a call, and of the calls that ended. -/
structure StreamSocket where
  rcvBuf : RingBuffer
  /-- the state is not one of `NON_RECEIVABLE_STATES` -/
  receivable : Bool
  /-- `so.error` is set -/
  error : Bool
  cond : CondVar Nat
  /-- calls that found `rcv_buf` empty and are about to wait -/
  testing : List Nat
  /-- calls that found data and are about to dequeue -/
  reading : List Nat
  /-- the number of calls that timed out and are about to set `so.error` -/
  raising : Nat
  enqueued : List UInt8
  deadlines : List (List UInt8)
  results : List StreamResult

inductive StreamEvent where
  /-- `rcv_buf.enqueue` of a segment's data -/
  | enqueue (buffer : List UInt8)
  /-- the event loop changes the state and means to notify -/
  | changeState (receivable : Bool)
  | notify
  | recv (bufsize : Nat)
  | read (k : Nat)
  | wait (k : Nat)
  | resume (k : Nat)
  /-- the time of a waiting call is over -/
  | timeout (k : Nat)
  /-- a call whose time is over leaves the waiters -/
  | giveUp (k : Nat)
  /-- a call that was notified after its time was over goes on -/
  | leave (k : Nat)
  /-- a call that timed out sets `so.error` and raises -/
  | raise
deriving Repr, DecidableEq

namespace StreamSocket

def new (size : Nat) (hsize : 0 < size) : StreamSocket :=
  ⟨.new size hsize, true, false, .new, [], [], 0, [], [], []⟩

variable (s : StreamSocket)

/-- The end of `tcp_recv`: `dequeue`, whose views are read at once. -/
def dequeue (bufsize : Nat) (found : Bool) : StreamSocket :=
  { s with
    rcvBuf := (s.rcvBuf.dequeue bufsize).2
    results := s.results ++
      [.data bufsize found (viewBytes s.rcvBuf.ring (s.rcvBuf.dequeue bufsize).1)] }

/-- The end of a wait that got no notification in time. -/
def timedOut (cond : CondVar Nat) : StreamSocket :=
  { s with
    cond
    raising := s.raising + 1
    results := s.results ++ [.timedOut s.rcvBuf.queue] }

def step : StreamEvent → StreamSocket
  | .enqueue buffer =>
    { s with
      rcvBuf := (s.rcvBuf.enqueue buffer).1
      cond := s.cond.signal
      enqueued := s.enqueued ++ buffer.take (s.rcvBuf.enqueue buffer).2 }
  | .changeState receivable => { s with receivable := receivable, cond := s.cond.signal }
  | .notify => { s with cond := s.cond.notify }
  | .recv bufsize =>
    if s.error then { s with results := s.results ++ [.raised s.rcvBuf.queue] }
    else if s.receivable = false then
      { s with results := s.results ++ [.endOfFile s.rcvBuf.queue] }
    else if s.rcvBuf.isEmpty then { s with testing := s.testing ++ [bufsize] }
    else { s with reading := s.reading ++ [bufsize] }
  | .read k =>
    s.reading[k]?.elim s fun bufsize =>
      { s with reading := s.reading.eraseIdx k }.dequeue bufsize true
  | .wait k =>
    s.testing[k]?.elim s fun bufsize =>
      { s with testing := s.testing.eraseIdx k, cond := s.cond.wait bufsize }
  | .resume k =>
    s.cond.woken[k]?.elim s fun bufsize =>
      { s with cond := s.cond.resume k }.dequeue bufsize false
  | .timeout k =>
    match s.cond.waiters[k]? with
    | some ⟨_, false⟩ =>
      { s with cond := s.cond.expire k, deadlines := s.deadlines ++ [s.rcvBuf.queue] }
    | _ => s
  | .giveUp k =>
    match s.cond.waiters[k]? with
    | some ⟨_, true⟩ => s.timedOut (s.cond.giveUp k)
    | _ => s
  | .leave k =>
    match s.cond.late[k]? with
    | some _ => s.timedOut (s.cond.leave k)
    | none => s
  | .raise => if 0 < s.raising then { s with raising := s.raising - 1, error := true } else s

/-- The bytes returned so far. -/
def returned : List UInt8 :=
  s.results.flatMap fun
    | .data _ _ bytes => bytes
    | .endOfFile _ | .raised _ | .timedOut _ => []

/-- A result that leaves no data behind: a call that found data returns some, and one that returns
without reading, or raises, does so on an empty `rcv_buf`. -/
def Fair : StreamResult → Prop
  | .data bufsize found bytes => found = true → bufsize ≠ 0 → bytes ≠ []
  | .endOfFile queued | .raised queued | .timedOut queued => queued = []

instance : (r : StreamResult) → Decidable (Fair r)
  | .data .. => inferInstanceAs (Decidable (_ → _))
  | .endOfFile _ | .raised _ | .timedOut _ => inferInstanceAs (Decidable (_ = []))

/-- The guard. A call on a socket with an error, or in a state in which nothing is received, finds
`rcv_buf` empty; a call that found data still finds some when it reads; a call starts to wait beside
an empty `rcv_buf` or while a notification or a notified call is under way; a notification is spent
on a call whose time is over, or comes when such calls are all that is left, only beside an empty
`rcv_buf` or while another is under way; a notified call takes everything, unless no call waits or
gives up or another one is under way; and no call's time is over, and none gives up, while a
delivery or a notified call is under way. -/
def Timely : StreamEvent → Prop
  | .recv _ => s.error = true ∨ s.receivable = false → s.rcvBuf.isEmpty = true
  | .read _ => s.rcvBuf.isEmpty = false
  | .wait _ => s.rcvBuf.isEmpty = true ∨ 0 < s.cond.underWay
  | .notify => s.cond.MeetsExpired ∨ s.cond.waiters = [] ∧ s.cond.late ≠ [] →
      s.rcvBuf.isEmpty = true ∨ 1 < s.cond.underWay
  | .resume k => s.rcvBuf.ready ≤ s.cond.woken[k]?.getD 0 ∨
      s.cond.waiters = [] ∧ s.cond.late = [] ∨ 1 < s.cond.underWay
  | .timeout _ | .giveUp _ | .leave _ => s.cond.Quiet
  | .enqueue _ | .changeState _ | .raise => True

instance : (e : StreamEvent) → Decidable (s.Timely e)
  | .recv _ => inferInstanceAs (Decidable (_ → _))
  | .read _ => inferInstanceAs (Decidable (_ = _))
  | .wait _ => inferInstanceAs (Decidable (_ ∨ _))
  | .notify => inferInstanceAs (Decidable (_ → _))
  | .resume _ => inferInstanceAs (Decidable (_ ∨ _ ∧ _ ∨ _))
  | .timeout _ | .giveUp _ | .leave _ => inferInstanceAs (Decidable s.cond.Quiet)
  | .enqueue _ | .changeState _ | .raise => .isTrue trivial

/-- What every timely run keeps. -/
structure Inv : Prop where
  oldest_first : s.returned ++ s.rcvBuf.queue = s.enqueued
  deadline_empty : ∀ queued ∈ s.deadlines, queued = []
  fair : ∀ r ∈ s.results, Fair r
  /-- beside queued data a call waits, or gives up, only while something is under way -/
  attended : s.rcvBuf.queue = [] ∨ s.cond.waiters = [] ∧ s.cond.late = [] ∨ 0 < s.cond.underWay

variable {s}

/-- Once nothing is under way, `rcv_buf` is empty beside a call that waits or gives up. -/
theorem Inv.queue_empty (h : s.Inv) (hq : s.cond.Quiet)
    (hcall : s.cond.waiters ≠ [] ∨ s.cond.late ≠ []) : s.rcvBuf.queue = [] := by
  rcases h.attended with hempty | ⟨hnone, hnone'⟩ | hpos
  · exact hempty
  · exact absurd hcall (by simp [hnone, hnone'])
  · rw [hq.underWay] at hpos
    omega

theorem inv_new (size : Nat) (hsize : 0 < size) : (new size hsize).Inv :=
  ⟨by simp [new, returned], by simp [new], by simp [new], .inl (by simp [new])⟩

/-- A result without data. -/
theorem Inv.fail (h : s.Inv) {r : StreamResult} (hr : Fair r)
    (hnone : returned { s with results := s.results ++ [r] } = s.returned) :
    { s with results := s.results ++ [r] }.Inv := by
  refine ⟨by rw [hnone]; exact h.oldest_first, h.deadline_empty, ?_, h.attended⟩
  intro r' hmem
  rcases List.mem_append.1 hmem with hmem | hmem
  · exact h.fair r' hmem
  · rw [List.mem_singleton.1 hmem]
    exact hr

/-- A call that times out beside an empty `rcv_buf`. -/
theorem Inv.timedOut (h : s.Inv) (hempty : s.rcvBuf.queue = []) (cond : CondVar Nat) :
    (s.timedOut cond).Inv := by
  have hfail := h.fail (r := .timedOut s.rcvBuf.queue) hempty (by simp [returned])
  exact ⟨hfail.oldest_first, hfail.deadline_empty, hfail.fair, .inl hempty⟩

/-- A read keeps the order. -/
theorem inv_dequeue (hord : s.returned ++ s.rcvBuf.queue = s.enqueued)
    (hdead : ∀ queued ∈ s.deadlines, queued = [])
    (hfair : ∀ r ∈ s.results, Fair r) {bufsize : Nat} {found : Bool}
    (hfound : found = true → s.rcvBuf.isEmpty = false)
    (hatt : s.rcvBuf.queue.drop bufsize = [] ∨ s.cond.waiters = [] ∧ s.cond.late = [] ∨
      0 < s.cond.underWay) :
    (s.dequeue bufsize found).Inv := by
  obtain ⟨-, hbytes, hrest⟩ := s.rcvBuf.dequeue_spec bufsize
  refine ⟨?_, hdead, ?_, ?_⟩
  · simp only [StreamSocket.dequeue, returned, List.flatMap_append, List.flatMap_cons,
      List.flatMap_nil, List.append_nil]
    rw [hbytes, hrest, List.append_assoc, List.take_append_drop]
    exact hord
  · intro r hmem
    rcases List.mem_append.1 hmem with hmem | hmem
    · exact hfair r hmem
    · rw [List.mem_singleton.1 hmem]
      intro htrue hpos hnil
      rw [hbytes, List.take_eq_nil_iff] at hnil
      have hne := hfound htrue
      rcases hnil with hzero | hempty
      · exact hpos hzero
      · rw [s.rcvBuf.isEmpty_iff.2 hempty] at hne
        exact absurd hne (by decide)
  · simp only [StreamSocket.dequeue, hrest]
    exact hatt

theorem Inv.notify (h : s.Inv) (ht : s.Timely .notify) : (s.step .notify).Inv := by
  refine ⟨h.oldest_first, h.deadline_empty, h.fair, ?_⟩
  simp only [StreamSocket.step]
  -- a notification that reaches no call that waits
  have hspent (hlost : s.cond.MeetsExpired ∨ s.cond.waiters = [] ∧ s.cond.late ≠ [])
      (hleft : s.cond.notify.underWay + 1 = s.cond.underWay) : s.rcvBuf.queue = [] ∨
        s.cond.notify.waiters = [] ∧ s.cond.notify.late = [] ∨ 0 < s.cond.notify.underWay := by
    rcases ht hlost with hempty | hmore
    · exact .inl (s.rcvBuf.isEmpty_iff.1 hempty)
    · exact .inr (.inr (by omega))
  obtain he | ⟨hw, he, hn⟩ | ⟨w, ws, -, -, he, -⟩ | ⟨w, ws, -, hmeets, he, hn⟩ :=
    s.cond.notify_cases
  · rw [he]
    exact h.attended
  · by_cases hlate : s.cond.late = []
    · rw [he]
      exact .inr (.inl ⟨hw, hlate⟩)
    · exact hspent (.inr ⟨hw, hlate⟩) (by rw [he]; simp only [CondVar.underWay]; omega)
  · refine .inr (.inr ?_)
    rw [he, CondVar.underWay, List.length_append, List.length_singleton]
    omega
  · exact hspent (.inl hmeets) (by rw [he]; simp only [CondVar.underWay]; omega)

theorem Inv.step (h : s.Inv) (e : StreamEvent) (ht : s.Timely e) : (s.step e).Inv := by
  cases e with
  | enqueue buffer =>
    refine ⟨?_, h.deadline_empty, h.fair, .inr (.inr ?_)⟩
    · simp only [StreamSocket.step, RingBuffer.enqueue_eq, RingBuffer.queue_pushed]
      rw [← List.append_assoc]
      exact congrArg (· ++ _) h.oldest_first
    · simp [StreamSocket.step, CondVar.underWay]
  | changeState receivable =>
    exact ⟨h.oldest_first, h.deadline_empty, h.fair,
      .inr (.inr (by simp [StreamSocket.step, CondVar.underWay]))⟩
  | notify => exact h.notify ht
  | recv bufsize =>
    simp only [StreamSocket.step]
    split
    · next herr => exact h.fail (s.rcvBuf.isEmpty_iff.1 (ht (.inl herr))) (by simp [returned])
    · split
      · next hrec => exact h.fail (s.rcvBuf.isEmpty_iff.1 (ht (.inr hrec))) (by simp [returned])
      · split
        · exact ⟨h.oldest_first, h.deadline_empty, h.fair, h.attended⟩
        · exact ⟨h.oldest_first, h.deadline_empty, h.fair, h.attended⟩
  | read k =>
    simp only [StreamSocket.step]
    cases s.reading[k]? with
    | none => exact h
    | some bufsize =>
      refine inv_dequeue (s := { s with reading := s.reading.eraseIdx k }) h.oldest_first
        h.deadline_empty h.fair (fun _ => ht) ?_
      rcases h.attended with hempty | hatt
      · exact .inl (by simp [hempty])
      · exact .inr hatt
  | wait k =>
    simp only [StreamSocket.step]
    cases s.testing[k]? with
    | none => exact h
    | some bufsize =>
      refine ⟨h.oldest_first, h.deadline_empty, h.fair, ?_⟩
      rcases ht with hempty | hpos
      · exact .inl (s.rcvBuf.isEmpty_iff.1 hempty)
      · exact .inr (.inr hpos)
  | resume k =>
    simp only [StreamSocket.step]
    simp only [Timely] at ht
    cases hk : s.cond.woken[k]? with
    | none => exact h
    | some bufsize =>
      rw [hk, Option.getD_some] at ht
      have hlen := CondVar.length_resume hk
      refine inv_dequeue (s := { s with cond := s.cond.resume k }) h.oldest_first h.deadline_empty
        h.fair (fun hfalse => absurd hfalse (by decide)) ?_
      rcases ht with hall | hnone | hmore
      · exact .inl (List.drop_of_length_le (by rw [RingBuffer.length_queue]; exact hall))
      · exact .inr (.inl hnone)
      · refine .inr (.inr ?_)
        simp only [CondVar.underWay, CondVar.resume_notifying] at hmore ⊢
        omega
  | timeout k =>
    simp only [StreamSocket.step]
    split
    · next call hk =>
      have hempty := h.queue_empty ht (.inl fun hnil => by simp [hnil] at hk)
      refine ⟨h.oldest_first, fun queued hmem => ?_, h.fair, .inl hempty⟩
      rcases List.mem_append.1 hmem with hmem | hmem
      · exact h.deadline_empty queued hmem
      · rw [List.mem_singleton.1 hmem, hempty]
    · exact h
  | giveUp k =>
    simp only [StreamSocket.step]
    split
    · next call hk => exact h.timedOut (h.queue_empty ht (.inl fun hnil => by simp [hnil] at hk)) _
    · exact h
  | leave k =>
    simp only [StreamSocket.step]
    split
    · next call hk => exact h.timedOut (h.queue_empty ht (.inr fun hnil => by simp [hnil] at hk)) _
    · exact h
  | raise =>
    simp only [StreamSocket.step]
    split
    · exact ⟨h.oldest_first, h.deadline_empty, h.fair, h.attended⟩
    · exact h

end StreamSocket

/-- `tcp_recv` of the stack is the call of the stream socket: it waits when the call is about to
wait, and otherwise leaves the `rcv_buf` that the call leaves. -/
theorem StreamSocket.tcpRecv_eq (s : Stack) (so bufsize : Nat) (x : TCPSocket) {tcpcb : Nat}
    {t : TCPCB} (v : StreamSocket) (hcb : s.core.tcp.tcpcbs x.sockId = some tcpcb)
    (ht : s.tcbs[tcpcb]? = some t) (hbuf : v.rcvBuf = t.rcv.rcvBuf)
    (herr : v.error = (s.core.soError so).isSome)
    (hrec : v.receivable = decide (t.state ∉ Conn.NON_RECEIVABLE_STATES))
    (htest : v.testing = []) (hread : v.reading = []) :
    (s.tcpRecv so x bufsize).calls =
        s.calls ++ (v.step (.recv bufsize)).testing.map (.receiving so tcpcb) ∧
      ∃ t', (s.tcpRecv so x bufsize).tcbs[tcpcb]? = some t' ∧
        t'.rcv.rcvBuf = ((v.step (.recv bufsize)).step (.read 0)).rcvBuf := by
  by_cases he : s.core.soError so = none
  · have herr' : v.error = false := by rw [herr, he]; rfl
    by_cases hstate : t.state ∈ Conn.NON_RECEIVABLE_STATES
    · have hrec' : v.receivable = false := by rw [hrec]; simp [hstate]
      simp [Stack.tcpRecv, he, hcb, ht, hstate, step, herr', hrec', htest, hread, hbuf]
    · have hrec' : v.receivable = true := by rw [hrec]; simp [hstate]
      cases hempty : t.rcv.rcvBuf.isEmpty with
      | true =>
        simp [Stack.tcpRecv, he, hcb, ht, hstate, hempty, step, herr', hrec', htest, hread, hbuf]
      | false =>
        have hcall : s.tcpRecv so x bufsize = s.onTcb tcpcb (·.tcpRecv bufsize) := by
          simp [Stack.tcpRecv, he, hcb, ht, hstate, hempty]
        have hset := s.getElem?_onTcb ht (·.tcpRecv bufsize)
        rw [← hcall] at hset
        refine ⟨?_, _, hset, ?_⟩
        · simp [hcall, Stack.onTcb_calls, step, herr', hrec', hbuf, hempty, htest]
        · simp [Conn.tcpRecv, hstate, step, herr', hrec', hbuf, hempty, hread, StreamSocket.dequeue]
  · have herr' : v.error = true := by rw [herr]; exact Option.isSome_iff_ne_none.2 he
    simp [Stack.tcpRecv, he, ht, step, herr', htest, hread, hbuf]

/-! ## Runs -/

end Tipy.Sockets
