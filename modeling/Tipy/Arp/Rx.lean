import Tipy.Ip.Tx
import Tipy.Lib.Runs

/-!
# Resolving addresses

`rx_arp`, the callbacks of the timers, and runs of the resolver as a sequence of whole operations:
sends to a next hop, ARP frames received, and timers that are due. A datagram that waits is released
by a reply, and only by a reply for an address in the wait list. The address is put into the list by
the send that starts the queue, and taken off again by a timer that does not look at the queue; so a
queue may be left without anything that would release it.
-/

namespace Tipy.Arp

open Tipy.Components Tipy.Wire Tipy.Ip Lib

/-! ## `rx_arp` -/

/-- `ARPParser`. -/
structure ARPParser where
  frame : List UInt8

namespace ARPParser

variable (p : ARPParser)

def op : Nat := u16At p.frame 6

def sha : Nat := u32At p.frame 8 <<< 16 ||| u16At p.frame 12

def spa : Nat := u32At p.frame 14

def tha : Nat := u32At p.frame 18 <<< 16 ||| u16At p.frame 22

def tpa : Nat := u32At p.frame 24

end ARPParser

namespace Core

variable {δ ρ : Type}

/-- The branch of `rx_arp` for a reply to a request of this host. -/
def acceptReply (k : Core δ) (spa sha : Nat) : Core δ × Except PyError Unit :=
  ((k.updateArpCache spa sha).scheduleTimer ARP_CACHE_TTL (.flushEntry spa)).dequeue spa sha

/-- The branch of `rx_arp` for a request for the address of this host. -/
def answerRequest (k : Core δ ρ) (unicastIp etherSrc spa : Nat) : Core δ ρ :=
  (k.txArp k.unicastMac unicastIp etherSrc spa ARP_OP_REPLY false).updateArpCache spa etherSrc

/-- `rx_arp`. -/
def rxArp (k : Core δ) (ether : EtherParser) (frame : List UInt8) : Core δ × Except PyError Unit :=
  let arp : ARPParser := ⟨frame⟩
  if frame.length < 28 then (k, .ok ())
  else if arp.op = ARP_OP_REPLY ∧ ether.dst = k.unicastMac ∧ k.arpWaitTest arp.spa then
    k.acceptReply arp.spa arp.sha
  else if arp.op = ARP_OP_REPLY ∧ ether.dst = k.unicastMac ∧ k.arpProbeTest arp.spa then
    ({ k with conflictIps := k.conflictIps ++ [arp.spa] }, .ok ())
  else match k.unicastIp with
    | some unicastIp =>
      if arp.op = ARP_OP_REQUEST ∧ arp.tpa = unicastIp then
        (k.answerRequest unicastIp ether.src arp.spa, .ok ())
      else (k, .ok ())
    | none => (k, .ok ())

/-- A callback of a timer. -/
def call (k : Core δ ρ) : ArpCall → Core δ ρ × Except PyError Unit
  | .waitRemove ip => k.arpWaitRemove ip
  | .probeDone ip => k.probeDone ip
  | .flushEntry ip => (k.flushEntry ip, .ok ())

/-- A callback of the timer works on the cache and the lists of those who wait, and on nothing else.
-/
theorem call_core (k : Core δ ρ) (call : ArpCall) : (k.call call).1 = { k with
    arpCache := (k.call call).1.arpCache, arpWaitList := (k.call call).1.arpWaitList
    arpWaitProbList := (k.call call).1.arpWaitProbList } := by
  cases call with
  | waitRemove ip =>
    simp only [call, arpWaitRemove]
    split <;> rfl
  | probeDone ip =>
    simp only [call, probeDone]
    split <;> rfl
  | flushEntry ip => rfl

end Core

/-! ## Runs of whole operations -/

/-- An operation of the resolver: a call of `tx_ip`, an ARP frame, a timer that is due, or time
passing. -/
inductive Operation where
  | txIp (payload : Payload) (src dst ttl protocol : Nat) (options : List IPOpt)
    (id fragId turns : Nat)
  | frame (bytes : List UInt8)
  | timer (i : Nat)
  | elapse (ms : Nat)

/-- The core, and whether the RX thread and the timer thread still run: an exception ends them. -/
structure Resolver where
  core : Core Datagram
  rxRuns : Bool
  timerRuns : Bool

namespace Resolver

/-- The task the timer thread takes off the heap. -/
def due (s : Resolver) (i : Nat) : Option (TimerTask ArpCall × Timer ArpCall) :=
  if s.timerRuns then s.core.timer.popDue s.core.nowMs i else none

/-- One operation. -/
def step (s : Resolver) : Operation → Resolver
  | .txIp payload src dst ttl protocol options id fragId turns =>
    { s with core := (Ip.txIp s.core payload src dst ttl protocol options id fragId turns).1 }
  | .frame bytes =>
    if s.rxRuns then
      let r := s.core.rxArp ⟨bytes⟩ (bytes.drop 14)
      { s with core := r.1, rxRuns := r.2.isOk }
    else s
  | .timer i =>
    match s.due i with
    | some (task, timer) =>
      if task.deleted then { s with core := { s.core with timer } }
      else
        let r := { s.core with timer }.call task.call
        { s with core := r.1, timerRuns := r.2.isOk }
    | none => s
  | .elapse ms => { s with core := { s.core with nowMs := s.core.nowMs + ms } }

end Resolver

/-! ## What the operations do to a queue and to the wait list -/

namespace Core

variable {δ : Type} (k : Core δ)

/-- What an operation does to the queue of an address and to its place in the wait list: nothing; a
datagram is appended, and the address waits; or the queue is released. -/
inductive QueueStep (k k' : Core δ) : Prop where
  | same (hqueue : k'.pendingQueue = k.pendingQueue) (hwait : k'.arpWaitList = k.arpWaitList)
  | appended (ip : Nat) (q : List δ) (d : δ) (hq : k.pendingQueue ip = some q)
    (hqueue : k'.pendingQueue = Function.update k.pendingQueue ip (some (q ++ [d])))
    (hwait : k'.arpWaitList = k.arpWaitList)
  | started (ip : Nat) (d : δ) (hq : k.pendingQueue ip = none)
    (hqueue : k'.pendingQueue = Function.update k.pendingQueue ip (some [d]))
    (hwait : k'.arpWaitList = insert ip k.arpWaitList)
  | released (ip : Nat) (hmem : ip ∈ k.arpWaitList)
    (hqueue : k'.pendingQueue = Function.update k.pendingQueue ip none)
    (hwait : k'.arpWaitList = k.arpWaitList)

theorem queueStep_hUnresolved (src tpa : Nat) (d : δ) :
    k.QueueStep (k.hUnresolvedMacDatagrams src tpa d) := by
  cases hq : k.pendingQueue tpa with
  | some q =>
    refine .appended tpa q d hq ?_ ?_ <;>
      simp [hUnresolvedMacDatagrams, isEnqueued, enqueue, hq, setQueue]
  | none =>
    refine .started tpa d hq ?_ ?_ <;>
      simp [hUnresolvedMacDatagrams, isEnqueued, enqueue, hq, setQueue, txArp_request, txEther]

theorem queueStep_txDatagram (src tpa : Nat) (mac : Option Nat) (d : δ) :
    k.QueueStep (txDatagram k src tpa mac d) := by
  cases mac with
  | some mac => exact .same rfl rfl
  | none => exact k.queueStep_hUnresolved src tpa d

theorem queueStep_acceptReply {spa : Nat} (hwait : spa ∈ k.arpWaitList) (sha : Nat) :
    k.QueueStep (k.acceptReply spa sha).1 := by
  cases hq : k.pendingQueue spa with
  | some q =>
    have hdeq :=
      dequeue_some ((k.updateArpCache spa sha).scheduleTimer ARP_CACHE_TTL (.flushEntry spa))
      sha (by simpa [scheduleTimer] using hq)
    refine .released spa hwait ?_ ?_ <;> rw [acceptReply, hdeq] <;>
      simp [Core.released, scheduleTimer]
  | none =>
    have hdeq :=
      dequeue_none ((k.updateArpCache spa sha).scheduleTimer ARP_CACHE_TTL (.flushEntry spa))
      sha (by simpa [scheduleTimer] using hq)
    refine .same ?_ ?_ <;> rw [acceptReply, hdeq] <;> simp [scheduleTimer]

theorem queueStep_rxArp (ether : EtherParser) (frame : List UInt8) :
    k.QueueStep (k.rxArp ether frame).1 := by
  unfold rxArp
  dsimp only
  split
  · exact .same rfl rfl
  · split
    · next h => exact k.queueStep_acceptReply (by simpa [arpWaitTest] using h.2.2) _
    · split
      · exact .same rfl rfl
      · split
        · split
          · refine .same ?_ ?_ <;> simp [answerRequest, txArp_reply, txEther]
          · exact .same rfl rfl
        · exact .same rfl rfl

end Core

namespace Core

variable {δ : Type} {k k' : Core δ}

/-- A queue that exists has a datagram, and its address waits for a reply. -/
def Waiting (k : Core δ) : Prop := ∀ ip q, k.pendingQueue ip = some q → q ≠ [] ∧ ip ∈ k.arpWaitList

theorem Waiting.congr (h : k.Waiting) (hqueue : k'.pendingQueue = k.pendingQueue)
    (hwait : k'.arpWaitList = k.arpWaitList) : k'.Waiting := by
  intro ip q hq
  rw [hqueue] at hq
  rw [hwait]
  exact h ip q hq

theorem Waiting.update {ip : Nat} {v : Option (List δ)} (h : k.Waiting)
    (hqueue : k'.pendingQueue = Function.update k.pendingQueue ip v)
    (hwait : k.arpWaitList ⊆ k'.arpWaitList)
    (hv : ∀ q, v = some q → q ≠ [] ∧ ip ∈ k'.arpWaitList) : k'.Waiting := by
  intro ip' q hq
  rw [hqueue] at hq
  by_cases hip : ip' = ip
  · subst hip
    rw [Function.update_self] at hq
    exact hv q hq
  · rw [Function.update_of_ne hip] at hq
    exact ⟨(h ip' q hq).1, hwait (h ip' q hq).2⟩

theorem QueueStep.waiting (hstep : QueueStep k k') (h : k.Waiting) : k'.Waiting := by
  cases hstep with
  | same hqueue hwait => exact h.congr hqueue hwait
  | appended ip q d hq hqueue hwait =>
    refine h.update hqueue hwait.ge ?_
    rintro q' ⟨⟩
    exact ⟨by simp, hwait ▸ (h ip q hq).2⟩
  | started ip d hq hqueue hwait =>
    refine h.update hqueue (hwait ▸ Finset.subset_insert ip _) ?_
    rintro q' ⟨⟩
    exact ⟨by simp, hwait ▸ Finset.mem_insert_self ip _⟩
  | released ip hmem hqueue hwait =>
    refine h.update hqueue hwait.ge ?_
    rintro q' ⟨⟩

end Core

namespace Resolver

/-- The `i`-th task is due, and is the wait timer of `ip`. -/
def Expires (s : Resolver) (i ip : Nat) : Prop :=
  ∃ task timer, s.due i = some (task, timer) ∧ task.deleted = false ∧ task.call = .waitRemove ip

/-- A wait timer takes its address off the list and looks at nothing else. -/
theorem step_expires {s : Resolver} {i ip : Nat} (h : s.Expires i ip) :
    (s.step (.timer i)).core.pendingQueue = s.core.pendingQueue ∧
      (s.step (.timer i)).core.arpWaitList = s.core.arpWaitList.erase ip := by
  obtain ⟨task, timer, hdue, hdel, hcall⟩ := h
  have hstep : (s.step (.timer i)).core = ({ s.core with timer }.arpWaitRemove ip).1 := by
    simp [step, hdue, hdel, hcall, Core.call]
  rw [hstep, Core.arpWaitRemove]
  split
  · exact ⟨rfl, rfl⟩
  · next hmem => exact ⟨rfl, (Finset.erase_eq_of_notMem hmem).symm⟩

/-- All that an operation can do to the queues and the wait list. -/
theorem step_cases (s : Resolver) (e : Operation) :
    s.core.QueueStep (s.step e).core ∨ ∃ i ip, e = .timer i ∧ s.Expires i ip := by
  cases e with
  | txIp payload src dst ttl protocol options id fragId turns =>
    left
    rcases txIp_core s.core payload src dst ttl protocol options id fragId turns with h | ⟨d, h⟩
    · exact .same (by simp only [step, h]) (by simp only [step, h])
    · simp only [step, h]
      exact s.core.queueStep_txDatagram _ _ _ _
  | frame bytes =>
    left
    by_cases hruns : s.rxRuns
    · simp only [step, if_pos hruns]
      exact s.core.queueStep_rxArp _ _
    · simp only [step, if_neg hruns]
      exact .same rfl rfl
  | elapse ms => exact .inl (.same rfl rfl)
  | timer i =>
    cases hdue : s.due i with
    | none => exact .inl (.same (by simp only [step, hdue]) (by simp only [step, hdue]))
    | some p =>
      obtain ⟨task, timer⟩ := p
      by_cases hdel : task.deleted = true
      · exact .inl
          (.same (by simp only [step, hdue, if_pos hdel]) (by simp only [step, hdue, if_pos hdel]))
      · cases hcall : task.call with
        | waitRemove ip => exact .inr ⟨i, ip, rfl, task, timer, hdue, by simpa using hdel, hcall⟩
        | probeDone ip =>
          refine .inl (.same ?_ ?_) <;>
            simp only [step, hdue, if_neg hdel, hcall, Core.call, Core.probeDone] <;> split <;> rfl
        | flushEntry ip =>
          refine .inl (.same ?_ ?_) <;>
            simp only [step, hdue, if_neg hdel, hcall, Core.call, Core.flushEntry]

/-- A wait timer expires only when no datagram waits for its address. -/
def ExpiresIdle (s : Resolver) (e : Operation) : Prop :=
  ∀ i ip, e = .timer i → s.Expires i ip → s.core.pendingQueue ip = none

/-- A resolution is in progress for every address that a datagram waits for. -/
def Resolving (s : Resolver) : Prop :=
  ∀ ip q, s.core.pendingQueue ip = some q → q ≠ [] → ip ∈ s.core.arpWaitList

theorem step_waiting {s : Resolver} {e : Operation} (h : s.core.Waiting) (hidle : s.ExpiresIdle e) :
    (s.step e).core.Waiting := by
  rcases s.step_cases e with hstep | ⟨i, ip, rfl, hexp⟩
  · exact hstep.waiting h
  · obtain ⟨hqueue, hwait⟩ := step_expires hexp
    intro ip' q hq
    rw [hqueue] at hq
    have hne : ip' ≠ ip := by
      rintro rfl
      rw [hidle i ip' rfl hexp] at hq
      cases hq
    rw [hwait]
    exact ⟨(h ip' q hq).1, Finset.mem_erase_of_ne_of_mem hne (h ip' q hq).2⟩

/-- A wait timer that expires too early breaks the invariant at once. -/
theorem expiresIdle_of_resolving {s : Resolver} {e : Operation} (h : s.core.Waiting)
    (hres : (s.step e).Resolving) : s.ExpiresIdle e := by
  rintro i ip rfl hexp
  obtain ⟨hqueue, hwait⟩ := step_expires hexp
  cases hq : s.core.pendingQueue ip with
  | none => rfl
  | some q =>
    have hmem := hres ip q (by rw [hqueue, hq]) (h ip q hq).1
    rw [hwait] at hmem
    exact absurd hmem (Finset.notMem_erase ip _)

/-- **Datagrams wait for a resolution in progress** exactly in the runs in which no wait timer
expires while a datagram waits for its address. -/
theorem resolving_iff {s : Resolver} (hs : ∀ ip, s.core.pendingQueue ip = none)
    (es : List Operation) :
    (∀ pre, pre <+: es → (run step s pre).Resolving) ↔ Guarded step ExpiresIdle s es := by
  refine forall_reached_iff_guarded (D := fun _ _ => True) (I := fun s =>
    s.core.Waiting) ?_ ?_ ?_ ?_
    (guarded_of_forall_mem (P := fun _ => True) (fun _ _ => trivial) s)
  · intro s h ip q hq _
    exact (h ip q hq).2
  · intro s e h _ hidle
    exact step_waiting h hidle
  · intro s e h _ hres
    exact expiresIdle_of_resolving h hres
  · intro ip q hq
    rw [hs ip] at hq
    cases hq

/-- Datagrams that wait for an address no resolution is in progress for. -/
def Parked (s : Resolver) (ip : Nat) (q : List Datagram) : Prop :=
  ∃ q', s.core.pendingQueue ip = some (q ++ q') ∧ ip ∉ s.core.arpWaitList

theorem Parked.step {s : Resolver} {ip : Nat} {q : List Datagram} (h : s.Parked ip q)
    (e : Operation) :
    (s.step e).Parked ip q := by
  obtain ⟨q', hq, hwait⟩ := h
  rcases s.step_cases e with hstep | ⟨i, ip', rfl, hexp⟩
  · cases hstep with
    | same hqueue hlist => exact ⟨q', by rw [hqueue, hq], hlist ▸ hwait⟩
    | appended ip' q₀ d hq' hqueue hlist =>
      by_cases hip : ip = ip'
      · subst hip
        obtain rfl : q ++ q' = q₀ := Option.some.inj (hq.symm.trans hq')
        exact ⟨q' ++ [d], by rw [hqueue, Function.update_self, List.append_assoc], hlist ▸ hwait⟩
      · exact ⟨q', by rw [hqueue, Function.update_of_ne hip, hq], hlist ▸ hwait⟩
    | started ip' d hq' hqueue hlist =>
      have hip : ip ≠ ip' := by
        rintro rfl
        rw [hq] at hq'
        cases hq'
      refine ⟨q', by rw [hqueue, Function.update_of_ne hip, hq], ?_⟩
      rw [hlist, Finset.mem_insert]
      exact not_or.2 ⟨hip, hwait⟩
    | released ip' hmem hqueue hlist =>
      have hip : ip ≠ ip' := fun h => hwait (h ▸ hmem)
      exact ⟨q', by rw [hqueue, Function.update_of_ne hip, hq], hlist ▸ hwait⟩
  · obtain ⟨hqueue, hlist⟩ := step_expires hexp
    exact ⟨q', by rw [hqueue, hq], hlist ▸ fun h => hwait (Finset.mem_of_mem_erase h)⟩

/-- **What is parked stays parked**: no later reply releases it, and no later send asks for the
address. -/
theorem Parked.run {s : Resolver} {ip : Nat} {q : List Datagram} (h : s.Parked ip q)
    (es : List Operation) : (run Resolver.step s es).Parked ip q :=
  run_inv' (I := fun s : Resolver => s.Parked ip q) (fun _ e h => h.step e) h es

/-- A stack that knows no address yet. -/
def sample : Resolver := ⟨{ sampleCore with arpCache := fun _ => none }, true, true⟩

/-- A datagram to 10.0.0.1. -/
def sampleSend : Operation :=
  .txIp (.udp ⟨80, 1234, [7]⟩) 0x0A000002 0x0A000001 64 IP_PROTO_UDP [] 7 8 0

/-- The reply of 10.0.0.1. -/
def sampleReply : List UInt8 :=
  [2, 0, 0, 0, 0, 1, 2, 0, 0, 0, 0, 255, 8, 6] ++
    [0, 1, 8, 0, 6, 4, 0, 2, 2, 0, 0, 0, 0, 255, 10, 0, 0, 1, 2, 0, 0, 0, 0, 1, 10, 0, 0, 2]

theorem resolving_iff_reply :
    (Lib.run step sample [sampleSend, .frame sampleReply, .elapse 3000, .timer 0]).Resolving := by
  have hguard : Guarded step ExpiresIdle sample
      [sampleSend, .frame sampleReply, .elapse 3000, .timer 0] := by
    refine ⟨?_, ?_, ?_, ?_, trivial⟩
    · rintro i ip ⟨⟩
    · rintro i ip ⟨⟩
    · rintro i ip ⟨⟩
    · -- the timer is that of 10.0.0.1, whose queue the reply released
      rintro i ip ⟨⟩ ⟨task, timer, hdue, -, hcall⟩
      have hcalls :
        (((Lib.run step sample [sampleSend, .frame sampleReply, .elapse 3000]).due 0).map
          fun p => p.1.call) = some (.waitRemove 0x0A000001) := by decide +kernel
      have htask := (congrArg (Option.map fun p => p.1.call) hdue).symm.trans hcalls
      simp only [Option.map_some, hcall, Option.some.injEq, ArpCall.waitRemove.injEq] at htask
      subst htask
      exact Option.isNone_iff_eq_none.1 (by decide +kernel)
  exact (resolving_iff (fun _ => rfl) _).2 hguard _ (List.prefix_refl _)

/-- An address that does not answer within the timeout. -/
theorem unanswered_not_resolving :
    ¬ (Lib.run step sample [sampleSend, .elapse 3000, .timer 0]).Resolving := by
  have hlen : ((Lib.run step sample [sampleSend, .elapse 3000, .timer 0]).core.pendingQueue
      0x0A000001).map List.length = some 1 := by decide +kernel
  obtain ⟨q, hq, hlen⟩ := Option.map_eq_some_iff.1 hlen
  intro h
  have hwait := h 0x0A000001 q hq (by rintro rfl; cases hlen)
  exact absurd hwait (by decide +kernel)

end Resolver

end Tipy.Arp
