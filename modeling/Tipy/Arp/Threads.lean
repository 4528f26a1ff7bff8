import Tipy.Arp.Rx

/-!
# Resolving addresses in several threads

`tx_ip` runs in any number of threads, `rx_arp` in the RX thread and the callbacks in the timer
thread, and a thread may be stopped between any two accesses to what they share. So a call is a
sequence of phases here, one for each access, and a run picks the thread that goes on. The lists of
the pending queues are objects: the dictionary has references to them, a thread may hold one that
was taken out of the dictionary since, and the loop of `dequeue` sees what is appended to its list
while it runs.

What is released is in the order it was queued, each datagram once, whatever the threads do
(`Threads.Accounted`). But look-ups of keys that were there a moment ago may fail: in `dequeue`,
when the address still waits and its queue was released already, or is not there yet; in `enqueue`,
when the queue is released between its two look-ups; and in `_arp_wait_remove`, when two threads
have put the address into the wait list.
-/

namespace Tipy.Arp

open Tipy.Components Tipy.Wire Tipy.Ip Lib

/-! ## Phases -/

/-- What a thread in `tx_ip` does next. -/
inductive TxPhase (δ : Type) where
  | idle
  /-- `tx_ether`, for an address that is known. -/
  | send (mac : Nat) (d : δ)
  /-- `is_enqueued` of `_h_unresolved_mac_datagrams`. -/
  | check (src tpa : Nat) (d : δ)
  /-- `arp_wait_test` of `arp_wait_add`. -/
  | waitTest (src tpa : Nat) (d : δ)
  /-- `self._arp_wait_list.add(ip)`. -/
  | waitAdd (src tpa : Nat) (d : δ)
  /-- `schedule_timer` of `arp_wait_add`. -/
  | waitTimer (src tpa : Nat) (d : δ)
  /-- `tx_ether` of `tx_arp`. -/
  | request (src tpa : Nat) (d : δ)
  /-- `is_enqueued` of `enqueue`. -/
  | enqueue (tpa : Nat) (d : δ)
  /-- `self._arp_pending_datagrams_queue[ip]`. -/
  | append (tpa : Nat) (d : δ)
  /-- `append(datagram)`, to the list looked up. -/
  | appendTo (tpa : Nat) (d : δ) (n : Nat)
  /-- `len(self._arp_pending_datagrams_queue[ip])`, for the log. -/
  | length (tpa : Nat)
  /-- `self._arp_pending_datagrams_queue[ip] = [datagram]`. -/
  | create (tpa : Nat) (d : δ)

/-- The thread is not in `tx_ip`. -/
def TxPhase.isIdle {δ : Type} : TxPhase δ → Bool
  | .idle => true
  | _ => false

/-- What the RX thread does next. -/
inductive RxPhase where
  | idle
  /-- `arp_wait_test`. -/
  | waitTest (spa sha : Nat)
  /-- `arp_probe_test`. -/
  | probeTest (spa : Nat)
  /-- `update_arp_cache` for a reply. -/
  | update (spa sha : Nat)
  /-- `schedule_timer` for the entry. -/
  | flushTimer (spa sha : Nat)
  /-- `len(self._arp_pending_datagrams_queue[ip])`. -/
  | length (spa sha : Nat)
  /-- `self._arp_pending_datagrams_queue[ip]`, for the loop. -/
  | iterate (spa sha : Nat)
  /-- The `i`-th turn of the loop over a list. -/
  | loop (spa sha n i : Nat)
  /-- `self._arp_pending_datagrams_queue.pop(ip, None)`. -/
  | pop (spa : Nat)
  /-- `tx_arp` for a request. -/
  | answer (unicastIp etherSrc spa : Nat)
  /-- `update_arp_cache` for a request. -/
  | learn (spa etherSrc : Nat)
  /-- An exception has ended the thread. -/
  | dead

/-- The threads and what they share. The list objects of an address are numbered as they are made.
The last three fields record what happened: the datagrams put on a list for an address, those
released to it with the MAC they were sent to, and the MACs of the replies accepted for it. -/
structure Threads (δ : Type) where
  core : Core δ Nat
  lists : Nat → Nat → List δ
  serial : Nat → Nat
  txs : Nat → TxPhase δ
  rx : RxPhase
  timerRuns : Bool
  raised : List PyError
  queued : Nat → List δ
  released : Nat → List (δ × Nat)
  accepted : Nat → List Nat

namespace Threads

variable {δ : Type} (s : Threads δ)

/-- The thread `t` goes on with another phase. -/
def goto (t : Nat) (phase : TxPhase δ) : Threads δ :=
  { s with txs := Function.update s.txs t phase }

def raise (e : PyError) : Threads δ := { s with raised := s.raised ++ [e] }

/-- `list.append`, on the `n`-th list of an address. -/
def appendTo (ip n : Nat) (d : δ) : Threads δ :=
  { s with
    lists := Function.update s.lists ip (Function.update (s.lists ip) n (s.lists ip n ++ [d]))
    queued := Function.update s.queued ip (s.queued ip ++ [d]) }

/-- A new list, under the key of an address. -/
def create (ip : Nat) (d : δ) : Threads δ :=
  { s with
    core := s.core.setQueue ip (some (s.serial ip))
    lists := Function.update s.lists ip (Function.update (s.lists ip) (s.serial ip) [d])
    serial := Function.update s.serial ip (s.serial ip + 1)
    queued := Function.update s.queued ip (s.queued ip ++ [d]) }

/-- `tx_ether` for a datagram that waited. -/
def release (ip mac : Nat) (d : δ) : Threads δ :=
  { s with
    core := s.core.txEther (.datagram d) mac s.core.unicastMac 0x0800
    released := Function.update s.released ip (s.released ip ++ [(d, mac)]) }

/-- The next step of `tx_ip` in the thread `t`. -/
def txStep (t : Nat) : Threads δ :=
  match s.txs t with
  | .idle => s
  | .send mac d =>
    { s with core := s.core.txEther (.datagram d) mac s.core.unicastMac 0x0800 }.goto t .idle
  | .check src tpa d =>
    s.goto t (if s.core.isEnqueued tpa then .enqueue tpa d else .waitTest src tpa d)
  | .waitTest src tpa d =>
    s.goto t (if s.core.arpWaitTest tpa then .request src tpa d else .waitAdd src tpa d)
  | .waitAdd src tpa d => { s with core := s.core.waitListAdd tpa }.goto t (.waitTimer src tpa d)
  | .waitTimer src tpa d =>
    { s with core := s.core.scheduleTimer ARP_REPLY_TIMEOUT (.waitRemove tpa) }.goto t
      (.request src tpa d)
  | .request src tpa d =>
    { s with
      core := s.core.txEther (.arp ⟨s.core.unicastMac, src, 0, tpa, ARP_OP_REQUEST⟩) 0xFFFFFFFFFFFF
        s.core.unicastMac 0x0806 }.goto t (.enqueue tpa d)
  | .enqueue tpa d => s.goto t (if s.core.isEnqueued tpa then .append tpa d else .create tpa d)
  | .append tpa d =>
    match s.core.pendingQueue tpa with
    | some n => s.goto t (.appendTo tpa d n)
    | none => (s.raise .keyError).goto t .idle
  | .appendTo tpa d n => (s.appendTo tpa n d).goto t (.length tpa)
  | .length tpa =>
    match s.core.pendingQueue tpa with
    | some _ => s.goto t .idle
    | none => (s.raise .keyError).goto t .idle
  | .create tpa d => (s.create tpa d).goto t .idle

/-- `rx_arp` up to its first access to what is shared. -/
def receive (bytes : List UInt8) : RxPhase :=
  let ether : EtherParser := ⟨bytes⟩
  let arp : ARPParser := ⟨bytes.drop 14⟩
  if arp.frame.length < 28 then .idle
  else if arp.op = ARP_OP_REPLY ∧ ether.dst = s.core.unicastMac then .waitTest arp.spa arp.sha
  else match s.core.unicastIp with
    | some unicastIp =>
      if arp.op = ARP_OP_REQUEST ∧ arp.tpa = unicastIp then .answer unicastIp ether.src arp.spa
      else .idle
    | none => .idle

/-- The next step of `rx_arp`. -/
def rxStep : Threads δ :=
  match s.rx with
  | .idle => s
  | .dead => s
  | .waitTest spa sha =>
    if s.core.arpWaitTest spa then
      { s with
        rx := .update spa sha
        accepted := Function.update s.accepted spa (s.accepted spa ++ [sha]) }
    else { s with rx := .probeTest spa }
  | .probeTest spa =>
    if s.core.arpProbeTest spa then
      { s with rx := .idle, core := { s.core with conflictIps := s.core.conflictIps ++ [spa] } }
    else { s with rx := .idle }
  | .update spa sha => { s with rx := .flushTimer spa sha, core := s.core.updateArpCache spa sha }
  | .flushTimer spa sha =>
    { s with rx := .length spa sha, core := s.core.scheduleTimer ARP_CACHE_TTL (.flushEntry spa) }
  | .length spa sha =>
    match s.core.pendingQueue spa with
    | some _ => { s with rx := .iterate spa sha }
    | none => { s.raise .keyError with rx := .dead }
  | .iterate spa sha =>
    match s.core.pendingQueue spa with
    | some n => { s with rx := .loop spa sha n 0 }
    | none => { s.raise .keyError with rx := .dead }
  | .loop spa sha n i =>
    match (s.lists spa n)[i]? with
    | some d => { s.release spa sha d with rx := .loop spa sha n (i + 1) }
    | none => { s with rx := .pop spa }
  | .pop spa => { s with rx := .idle, core := s.core.setQueue spa none }
  | .answer unicastIp etherSrc spa =>
    { s with
      rx := .learn spa etherSrc
      core := s.core.txArp s.core.unicastMac unicastIp etherSrc spa ARP_OP_REPLY false }
  | .learn spa etherSrc => { s with rx := .idle, core := s.core.updateArpCache spa etherSrc }

/-- The timer thread runs a task that is due. -/
def timerStep (i : Nat) : Threads δ :=
  match s.core.timer.popDue s.core.nowMs i with
  | some (task, timer) =>
    let s := { s with core := { s.core with timer } }
    if task.deleted then s
    else match s.core.call task.call with
      | (core, .ok ()) => { s with core }
      | (core, .error e) => { s.raise e with core, timerRuns := false }
  | none => s

end Threads

/-- What happens next: a thread that is idle enters `tx_ip` with a datagram that fits the MTU, or
goes on; the RX thread takes a frame, or goes on; the timer thread runs a task; or time passes. -/
inductive ThreadEvent (δ : Type) where
  | call (t src dst : Nat) (d : δ)
  | tx (t : Nat)
  | frame (bytes : List UInt8)
  | rx
  | timer (i : Nat)
  | elapse (ms : Nat)

namespace Threads

variable {δ : Type}

/-- The phase `tx_ip` is in when it has looked the route up. -/
def enter (s : Threads δ) (src dst : Nat) (d : δ) : TxPhase δ :=
  match route s.core dst with
  | (_, some mac) => .send mac d
  | (tpa, none) => .check src tpa d

def step (s : Threads δ) : ThreadEvent δ → Threads δ
  | .call t src dst d =>
    match s.txs t with
    | .idle => s.goto t (s.enter src dst d)
    | _ => s
  | .tx t => s.txStep t
  | .frame bytes =>
    match s.rx with
    | .idle => { s with rx := s.receive bytes }
    | _ => s
  | .rx => s.rxStep
  | .timer i => if s.timerRuns then s.timerStep i else s
  | .elapse ms => { s with core := { s.core with nowMs := s.core.nowMs + ms } }

/-! ## What is released -/

/-- The list under the key of an address. -/
def current (s : Threads δ) (ip : Nat) : List δ :=
  match s.core.pendingQueue ip with
  | some n => s.lists ip n
  | none => []

/-- What may still be released of what was queued for an address: the rest of the list the RX thread
goes through, or else the list under the key. -/
def rest (s : Threads δ) (ip : Nat) : List δ :=
  match s.rx with
  | .loop spa _ n i => if spa = ip then (s.lists ip n).drop i else s.current ip
  | .pop spa => if spa = ip then [] else s.current ip
  | _ => s.current ip

end Threads

/-- The RX thread handles an accepted reply. -/
def RxPhase.Handles : RxPhase → Nat → Nat → Prop
  | .update spa sha, ip, mac => spa = ip ∧ sha = mac
  | .flushTimer spa sha, ip, mac => spa = ip ∧ sha = mac
  | .length spa sha, ip, mac => spa = ip ∧ sha = mac
  | .iterate spa sha, ip, mac => spa = ip ∧ sha = mac
  | .loop spa sha _ _, ip, mac => spa = ip ∧ sha = mac
  | _, _, _ => False

/-- The RX thread does not go through a list. -/
def RxPhase.Away : RxPhase → Prop
  | .loop .. => False
  | .pop _ => False
  | _ => True

namespace Threads

variable {δ : Type} {s s' : Threads δ}

/-- **The books of the resolver.** What was released for an address, followed by what may still be,
is a part of what was queued for it, in the same order; and it went to MACs of replies that were
accepted. -/
structure Accounted (s : Threads δ) : Prop where
  serial_lt : ∀ ip n, s.core.pendingQueue ip = some n → n < s.serial ip
  loop_lt : ∀ spa sha n i, s.rx = .loop spa sha n i → n < s.serial spa ∧ i ≤ (s.lists spa n).length
  order : ∀ ip, ((s.released ip).map Prod.fst ++ s.rest ip).Sublist (s.queued ip)
  mac : ∀ ip, ∀ p ∈ s.released ip, p.2 ∈ s.accepted ip
  handles : ∀ ip mac, s.rx.Handles ip mac → mac ∈ s.accepted ip

theorem rest_of_away (h : s.rx.Away) (ip : Nat) : s.rest ip = s.current ip := by
  unfold rest
  split
  · next hrx => simp only [hrx, RxPhase.Away] at h
  · next hrx => simp only [hrx, RxPhase.Away] at h
  · rfl

theorem rest_congr (hqueue : s'.core.pendingQueue = s.core.pendingQueue)
    (hlists : s'.lists = s.lists) (hrx : s'.rx = s.rx) : s'.rest = s.rest := by
  funext ip
  simp only [rest, current, hqueue, hlists, hrx]

/-- Steps that touch neither the queues nor the books. -/
theorem Accounted.congr (h : s.Accounted) (hqueue : s'.core.pendingQueue = s.core.pendingQueue)
    (hlists : s'.lists = s.lists) (hserial : s'.serial = s.serial) (hrx : s'.rx = s.rx)
    (hqueued : s'.queued = s.queued) (hreleased : s'.released = s.released)
    (haccepted : s'.accepted = s.accepted) : s'.Accounted where
  serial_lt := by rw [hqueue, hserial]; exact h.serial_lt
  loop_lt := by rw [hrx, hserial, hlists]; exact h.loop_lt
  order := by rw [hreleased, hqueued, rest_congr hqueue hlists hrx]; exact h.order
  mac := by rw [hreleased, haccepted]; exact h.mac
  handles := by rw [hrx, haccepted]; exact h.handles

/-- The RX thread goes from one phase outside the loop to another. -/
theorem Accounted.turn (h : s.Accounted) {phase : RxPhase} {core : Core δ Nat} (haway : s.rx.Away)
    (haway' : phase.Away) (hqueue : core.pendingQueue = s.core.pendingQueue)
    (hhandles : ∀ ip mac, phase.Handles ip mac → mac ∈ s.accepted ip) :
    ({ s with rx := phase, core } : Threads δ).Accounted where
  serial_lt := by
    intro ip n hn
    exact h.serial_lt ip n (hqueue ▸ hn)
  loop_lt := by
    rintro spa sha n i rfl
    exact haway'.elim
  order := by
    intro ip
    have hrest : ({ s with rx := phase, core } : Threads δ).rest ip = s.rest ip := by
      rw [rest_of_away haway, rest_of_away (s := { s with rx := phase, core }) haway',
        current, current, hqueue]
    rw [hrest]
    exact h.order ip
  mac := h.mac
  handles := hhandles

/-- A reply is accepted. -/
theorem Accounted.accept (h : s.Accounted) (spa sha : Nat) :
    ({ s with accepted := Function.update s.accepted spa (s.accepted spa ++ [sha]) } :
      Threads δ).Accounted := by
  have hmono (ip mac : Nat) (hmac : mac ∈ s.accepted ip) :
      mac ∈ Function.update s.accepted spa (s.accepted spa ++ [sha]) ip := by
    by_cases hip : ip = spa
    · subst hip
      rw [Function.update_self]
      exact List.mem_append_left _ hmac
    · rwa [Function.update_of_ne hip]
  exact {
    serial_lt := h.serial_lt
    loop_lt := h.loop_lt
    order := h.order
    mac := fun ip p hp => hmono ip p.2 (h.mac ip p hp)
    handles := fun ip mac hhandles => hmono ip mac (h.handles ip mac hhandles) }

/-- One more datagram is queued for an address: it is not to be released, or after what was to be,
or alone. -/
theorem Accounted.order_queue (h : s.Accounted) {ip : Nat} {d : δ}
    (hqueued : s'.queued = Function.update s.queued ip (s.queued ip ++ [d]))
    (hreleased : s'.released = s.released)
    (hrest : ∀ ip', s'.rest ip' = s.rest ip' ∨
      ip' = ip ∧ (s'.rest ip' = s.rest ip' ++ [d] ∨ s'.rest ip' = [d])) (ip' : Nat) :
    ((s'.released ip').map Prod.fst ++ s'.rest ip').Sublist (s'.queued ip') := by
  have horder := h.order ip'
  rw [hqueued, hreleased]
  by_cases hip : ip' = ip
  · subst hip
    rw [Function.update_self]
    rcases hrest ip' with hrest | ⟨-, hrest | hrest⟩ <;> rw [hrest]
    · exact horder.trans (List.sublist_append_left ..)
    · rw [← List.append_assoc]
      exact horder.append (List.Sublist.refl [d])
    · exact ((List.sublist_append_left ..).trans horder).append (List.Sublist.refl [d])
  · rw [Function.update_of_ne hip]
    rcases hrest ip' with hrest | ⟨heq, -⟩
    · rwa [hrest]
    · exact absurd heq hip

theorem lists_appendTo (s : Threads δ) (ip n : Nat) (d : δ) (ip' n' : Nat) :
    (s.appendTo ip n d).lists ip' n' =
      if ip' = ip ∧ n' = n then s.lists ip' n' ++ [d] else s.lists ip' n' := by
  by_cases hip : ip' = ip
  · subst hip
    by_cases hn : n' = n
    · subst hn
      simp [appendTo]
    · simp [appendTo, hn]
  · simp [appendTo, hip]

theorem rest_appendTo (hloop : ∀ spa sha n i, s.rx = .loop spa sha n i → i ≤ (s.lists spa n).length)
    (ip n : Nat) (d : δ) (ip' : Nat) :
    (s.appendTo ip n d).rest ip' = s.rest ip' ∨
      ip' = ip ∧ (s.appendTo ip n d).rest ip' = s.rest ip' ++ [d] := by
  have hcurrent : (s.appendTo ip n d).current ip' = s.current ip' ∨
      ip' = ip ∧ (s.appendTo ip n d).current ip' = s.current ip' ++ [d] := by
    unfold current
    have hqueue : (s.appendTo ip n d).core.pendingQueue = s.core.pendingQueue := rfl
    rw [hqueue]
    cases s.core.pendingQueue ip' with
    | none => exact .inl rfl
    | some m =>
      dsimp only
      rw [lists_appendTo]
      split
      · next hm => exact .inr ⟨hm.1, rfl⟩
      · exact .inl rfl
  have hrx : (s.appendTo ip n d).rx = s.rx := rfl
  unfold rest
  rw [hrx]
  split
  · next spa sha m i hphase =>
    split
    · next hspa =>
      subst hspa
      rw [lists_appendTo]
      split
      · next hm => exact .inr ⟨hm.1, List.drop_append_of_le_length (hloop _ _ _ _ hphase)⟩
      · exact .inl rfl
    · exact hcurrent
  · split
    · exact .inl rfl
    · exact hcurrent
  · exact hcurrent

theorem Accounted.appendTo (h : s.Accounted) (ip n : Nat) (d : δ) :
    (s.appendTo ip n d).Accounted where
  serial_lt := h.serial_lt
  loop_lt := by
    intro spa sha m i hphase
    obtain ⟨hlt, hle⟩ := h.loop_lt spa sha m i hphase
    refine ⟨hlt, ?_⟩
    rw [lists_appendTo]
    split
    · rw [List.length_append]
      omega
    · exact hle
  order := by
    refine h.order_queue rfl rfl fun ip' => ?_
    rcases rest_appendTo (fun _ _ _ _ hphase => (h.loop_lt _ _ _ _ hphase).2) ip n d ip' with
      hrest | ⟨hip, hrest⟩
    · exact .inl hrest
    · exact .inr ⟨hip, .inl hrest⟩
  mac := h.mac
  handles := h.handles

theorem lists_create (s : Threads δ) (ip : Nat) (d : δ) (ip' n' : Nat) :
    (s.create ip d).lists ip' n' = if ip' = ip ∧ n' = s.serial ip then [d] else s.lists ip' n' := by
  by_cases hip : ip' = ip
  · subst hip
    by_cases hn : n' = s.serial ip'
    · subst hn
      simp [create]
    · simp [create, hn]
  · simp [create, hip]

theorem current_create (s : Threads δ) (ip : Nat) (d : δ) (ip' : Nat) :
    (s.create ip d).current ip' = if ip' = ip then [d] else s.current ip' := by
  by_cases hip : ip' = ip
  · subst hip
    simp [current, create, Core.setQueue]
  · simp [current, create, Core.setQueue, hip]

theorem Accounted.rest_create (h : s.Accounted) (ip : Nat) (d : δ) (ip' : Nat) :
    (s.create ip d).rest ip' = s.rest ip' ∨ ip' = ip ∧ (s.create ip d).rest ip' = [d] := by
  have hcurrent : (s.create ip d).current ip' = s.current ip' ∨
      ip' = ip ∧ (s.create ip d).current ip' = [d] := by
    rw [current_create]
    split
    · next hip => exact .inr ⟨hip, rfl⟩
    · exact .inl rfl
  have hrx : (s.create ip d).rx = s.rx := rfl
  unfold rest
  rw [hrx]
  split
  · next spa sha m i hphase =>
    split
    · next hspa =>
      subst hspa
      -- the list the RX thread goes through is older than the new one
      have hlt := (h.loop_lt _ _ _ _ hphase).1
      rw [lists_create, if_neg (by rintro ⟨rfl, rfl⟩; omega)]
      exact .inl rfl
    · exact hcurrent
  · split
    · exact .inl rfl
    · exact hcurrent
  · exact hcurrent

theorem Accounted.create (h : s.Accounted) (ip : Nat) (d : δ) : (s.create ip d).Accounted where
  serial_lt := by
    intro ip' n hn
    by_cases hip : ip' = ip
    · subst hip
      simp only [Threads.create, Core.setQueue, Function.update_self, Option.some.injEq] at hn ⊢
      omega
    · simp only [Threads.create, Core.setQueue, Function.update_of_ne hip] at hn ⊢
      exact h.serial_lt ip' n hn
  loop_lt := by
    intro spa sha m i hphase
    obtain ⟨hlt, hle⟩ := h.loop_lt spa sha m i hphase
    rw [lists_create, if_neg (by rintro ⟨rfl, rfl⟩; omega)]
    refine ⟨?_, hle⟩
    by_cases hip : spa = ip
    · subst hip
      simp only [Threads.create, Function.update_self]
      omega
    · simpa only [Threads.create, Function.update_of_ne hip] using hlt
  order := by
    refine h.order_queue rfl rfl fun ip' => ?_
    rcases h.rest_create ip d ip' with hrest | ⟨hip, hrest⟩
    · exact .inl hrest
    · exact .inr ⟨hip, .inr hrest⟩
  mac := h.mac
  handles := h.handles

/-! ### The steps of the RX thread -/

/-- The loop begins at the list under the key. -/
theorem Accounted.iterate (h : s.Accounted) {spa sha n : Nat} (hrx : s.rx = .iterate spa sha)
    (hn : s.core.pendingQueue spa = some n) :
    ({ s with rx := .loop spa sha n 0 } : Threads δ).Accounted where
  serial_lt := h.serial_lt
  loop_lt := by
    rintro spa' sha' n' i ⟨⟩
    exact ⟨h.serial_lt spa n hn, Nat.zero_le _⟩
  order := by
    intro ip
    have hrest : ({ s with rx := .loop spa sha n 0 } : Threads δ).rest ip = s.rest ip := by
      rw [rest_of_away (s := s) (by rw [hrx]; trivial)]
      simp only [rest, List.drop_zero]
      split
      · next hip =>
        subst hip
        simp only [current, hn]
      · rfl
    rw [hrest]
    exact h.order ip
  mac := h.mac
  handles := by
    intro ip mac hhandles
    refine h.handles ip mac ?_
    rw [hrx]
    exact hhandles

/-- One turn of the loop. -/
theorem Accounted.release (h : s.Accounted) {spa sha n i : Nat} {d : δ}
    (hrx : s.rx = .loop spa sha n i) (hd : (s.lists spa n)[i]? = some d) :
    ({ s.release spa sha d with rx := .loop spa sha n (i + 1) } : Threads δ).Accounted where
  serial_lt := h.serial_lt
  loop_lt := by
    rintro spa' sha' n' i' ⟨⟩
    have hlt : i < (s.lists spa n).length := (List.getElem?_eq_some_iff.1 hd).1
    exact ⟨(h.loop_lt spa sha n i hrx).1, hlt⟩
  order := by
    intro ip
    have horder := h.order ip
    simp only [rest, hrx] at horder
    by_cases hip : spa = ip
    · subst hip
      rw [if_pos rfl, List.drop_eq_getElem?_toList_append, hd] at horder
      simpa [rest, Threads.release] using horder
    · rw [if_neg hip] at horder
      simpa [rest, Threads.release, hip, Ne.symm hip, current, Core.txEther] using horder
  mac := by
    intro ip p hp
    have hsha : sha ∈ s.accepted spa := h.handles spa sha (by rw [hrx]; exact ⟨rfl, rfl⟩)
    by_cases hip : ip = spa
    · subst hip
      simp only [Threads.release, Function.update_self, List.mem_append, List.mem_singleton] at hp
      rcases hp with hp | rfl
      · exact h.mac ip p hp
      · exact hsha
    · simp only [Threads.release, Function.update_of_ne hip] at hp
      exact h.mac ip p hp
  handles := by
    rintro ip mac ⟨rfl, rfl⟩
    exact h.handles spa sha (by rw [hrx]; exact ⟨rfl, rfl⟩)

/-- The end of the loop. -/
theorem Accounted.loopEnd (h : s.Accounted) {spa sha n i : Nat} (hrx : s.rx = .loop spa sha n i) :
    ({ s with rx := .pop spa } : Threads δ).Accounted where
  serial_lt := h.serial_lt
  loop_lt := by rintro spa' sha' n' i' ⟨⟩
  order := by
    intro ip
    have horder := h.order ip
    simp only [rest, hrx] at horder ⊢
    split
    · next hip =>
      rw [if_pos hip] at horder
      rw [List.append_nil]
      exact (List.sublist_append_left ..).trans horder
    · next hip => rwa [if_neg hip] at horder
  mac := h.mac
  handles := by rintro ip mac ⟨⟩

/-- The key is taken out of the dictionary, with a list that may have grown since. -/
theorem Accounted.pop (h : s.Accounted) {spa : Nat} (hrx : s.rx = .pop spa) :
    ({ s with rx := .idle, core := s.core.setQueue spa none } : Threads δ).Accounted where
  serial_lt := by
    intro ip n hn
    by_cases hip : ip = spa
    · simp [hip, Core.setQueue] at hn
    · simp only [Core.setQueue, Function.update_of_ne hip] at hn
      exact h.serial_lt ip n hn
  loop_lt := by rintro spa' sha' n' i' ⟨⟩
  order := by
    intro ip
    have horder := h.order ip
    simp only [rest, hrx] at horder
    by_cases hip : spa = ip
    · subst hip
      simpa [rest, current, Core.setQueue] using horder
    · rw [if_neg hip] at horder
      simpa [rest, current, Core.setQueue, Ne.symm hip] using horder
  mac := h.mac
  handles := by rintro ip mac ⟨⟩

theorem Accounted.raise (h : s.Accounted) (e : PyError) : (s.raise e).Accounted :=
  h.congr rfl rfl rfl rfl rfl rfl rfl

theorem Accounted.rxStep (h : s.Accounted) : s.rxStep.Accounted := by
  have hkeep {spa sha : Nat} (hrx : s.rx.Handles spa sha) (ip mac : Nat)
      (heq : spa = ip ∧ sha = mac) : mac ∈ s.accepted ip :=
    h.handles ip mac (heq.1 ▸ heq.2 ▸ hrx)
  unfold Threads.rxStep
  split
  · exact h
  · exact h
  · next spa sha hrx =>
    split
    · refine (h.accept spa sha).turn (hrx ▸ trivial) trivial rfl ?_
      rintro ip mac ⟨rfl, rfl⟩
      simp
    · exact h.turn (hrx ▸ trivial) trivial rfl (by rintro _ _ ⟨⟩)
  · next spa hrx =>
    split <;> exact h.turn (hrx ▸ trivial) trivial rfl (by rintro _ _ ⟨⟩)
  · next spa sha hrx => exact h.turn (hrx ▸ trivial) trivial (by simp) (hkeep (hrx ▸ ⟨rfl, rfl⟩))
  · next spa sha hrx => exact h.turn (hrx ▸ trivial) trivial rfl (hkeep (hrx ▸ ⟨rfl, rfl⟩))
  · next spa sha hrx =>
    split
    · exact h.turn (hrx ▸ trivial) trivial rfl (hkeep (hrx ▸ ⟨rfl, rfl⟩))
    · exact (h.raise .keyError).turn (hrx ▸ trivial) trivial rfl (by rintro _ _ ⟨⟩)
  · next spa sha hrx =>
    split
    · next n hn => exact h.iterate hrx hn
    · exact (h.raise .keyError).turn (hrx ▸ trivial) trivial rfl (by rintro _ _ ⟨⟩)
  · next spa sha n i hrx =>
    split
    · next d hd => exact h.release hrx hd
    · exact h.loopEnd hrx
  · next spa hrx => exact h.pop hrx
  · next unicastIp etherSrc spa hrx => exact h.turn (hrx ▸ trivial) trivial rfl (by rintro _ _ ⟨⟩)
  · next spa etherSrc hrx => exact h.turn (hrx ▸ trivial) trivial (by simp) (by rintro _ _ ⟨⟩)

/-! ### The other steps -/

theorem Accounted.goto (h : s.Accounted) (t : Nat) (phase : TxPhase δ) :
    (s.goto t phase).Accounted :=
  h.congr rfl rfl rfl rfl rfl rfl rfl

theorem Accounted.core (h : s.Accounted) {core : Core δ Nat}
    (hqueue : core.pendingQueue = s.core.pendingQueue) : ({ s with core } : Threads δ).Accounted :=
  h.congr hqueue rfl rfl rfl rfl rfl rfl

theorem Accounted.txStep (h : s.Accounted) (t : Nat) : (s.txStep t).Accounted := by
  unfold Threads.txStep
  split
  · exact h
  · exact h.congr rfl rfl rfl rfl rfl rfl rfl
  · exact h.goto t _
  · exact h.goto t _
  · exact h.congr rfl rfl rfl rfl rfl rfl rfl
  · exact h.congr rfl rfl rfl rfl rfl rfl rfl
  · exact h.congr rfl rfl rfl rfl rfl rfl rfl
  · exact h.goto t _
  · split
    · exact h.goto t _
    · exact (h.raise .keyError).goto t _
  · exact (h.appendTo _ _ _).goto t _
  · split
    · exact h.goto t _
    · exact (h.raise .keyError).goto t _
  · exact (h.create _ _).goto t _

end Threads

theorem Core.call_pendingQueue {δ ρ : Type} (k : Core δ ρ) (c : ArpCall) :
    (k.call c).1.pendingQueue = k.pendingQueue := by
  cases c with
  | waitRemove ip =>
    simp only [call, arpWaitRemove]
    split <;> rfl
  | probeDone ip =>
    simp only [call, probeDone]
    split <;> rfl
  | flushEntry ip => rfl

namespace Threads

variable {δ : Type} {s : Threads δ}

/-- The timer thread changes no queue, and no other thread. -/
theorem timerStep_eq (s : Threads δ) (i : Nat) :
    ∃ core raised timerRuns, s.timerStep i = { s with core, raised, timerRuns } ∧
      core.pendingQueue = s.core.pendingQueue := by
  unfold timerStep
  split
  · next task timer _ =>
    have hcall := Core.call_pendingQueue { s.core with timer } task.call
    dsimp only
    split
    · exact ⟨_, _, _, rfl, rfl⟩
    · split
      · next core hcore =>
        rw [hcore] at hcall
        exact ⟨_, _, _, rfl, hcall⟩
      · next core e hcore =>
        rw [hcore] at hcall
        exact ⟨_, _, _, rfl, hcall⟩
  · exact ⟨_, _, _, rfl, rfl⟩

theorem Accounted.timerStep (h : s.Accounted) (i : Nat) : (s.timerStep i).Accounted := by
  obtain ⟨core, raised, timerRuns, hstep, hqueue⟩ := s.timerStep_eq i
  rw [hstep]
  exact h.congr hqueue rfl rfl rfl rfl rfl rfl

/-- The frame brings the RX thread to the start of a branch of `rx_arp`. -/
theorem receive_away (s : Threads δ) (bytes : List UInt8) :
    (s.receive bytes).Away ∧ ∀ ip mac, ¬ (s.receive bytes).Handles ip mac := by
  unfold receive
  dsimp only
  split
  · exact ⟨trivial, fun _ _ h => h⟩
  · split
    · exact ⟨trivial, fun _ _ h => h⟩
    · split
      · split <;> exact ⟨trivial, fun _ _ h => h⟩
      · exact ⟨trivial, fun _ _ h => h⟩

theorem Accounted.step (h : s.Accounted) (e : ThreadEvent δ) : (s.step e).Accounted := by
  cases e with
  | call t src dst d =>
    simp only [Threads.step]
    split
    · exact h.goto t _
    · exact h
  | tx t => exact h.txStep t
  | frame bytes =>
    simp only [Threads.step]
    split
    · next hrx =>
      have haway := s.receive_away bytes
      exact h.turn (hrx ▸ trivial) haway.1 rfl fun ip mac hh => (haway.2 ip mac hh).elim
    · exact h
  | rx => exact h.rxStep
  | timer i =>
    simp only [Threads.step]
    split
    · exact h.timerStep i
    · exact h
  | elapse ms => exact h.core rfl

/-! ## The look-ups of `enqueue` -/

/-- When the next step of the thread is to look up again, in `enqueue`, a queue that was there
before, the queue is still there. -/
def Finds (s : Threads δ) (t : Nat) : Prop :=
  match s.txs t with
  | .append tpa _ => s.core.isEnqueued tpa = true
  | .length tpa => s.core.isEnqueued tpa = true
  | _ => True

/-- A step of `tx_ip` raises exactly when the look-up fails. -/
theorem txStep_raised (s : Threads δ) (t : Nat) :
    s.Finds t ∧ (s.txStep t).raised = s.raised ∨
      ¬ s.Finds t ∧ (s.txStep t).raised = s.raised ++ [.keyError] := by
  unfold Finds txStep
  cases s.txs t with
  | append tpa d =>
    cases hqueue : s.core.pendingQueue tpa with
    | none => exact .inr ⟨by simp [Core.isEnqueued, hqueue], by simp only [hqueue]; rfl⟩
    | some n => exact .inl ⟨by simp [Core.isEnqueued, hqueue], by simp only [hqueue]; rfl⟩
  | length tpa =>
    cases hqueue : s.core.pendingQueue tpa with
    | none => exact .inr ⟨by simp [Core.isEnqueued, hqueue], by simp only [hqueue]; rfl⟩
    | some n => exact .inl ⟨by simp [Core.isEnqueued, hqueue], by simp only [hqueue]; rfl⟩
  | _ => exact .inl ⟨trivial, rfl⟩

end Threads

end Tipy.Arp
