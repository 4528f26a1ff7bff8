import Tipy.Arp.Rx

/-!
# How long an entry of the ARP cache stays

`update_arp_cache` makes an entry when there is none, and the timer that takes the entry out again
is started by `rx_arp` alone, after a reply. So every entry goes on time as long as the entries come
from replies; a request for the address of this host makes an entry that no timer stands behind.

The resolver is that of `Tipy.Arp.Rx`, with the time at which each entry was made.
-/

namespace Tipy.Arp

open Tipy.Components Tipy.Wire Tipy.Ip Lib

/-- The resolver, and for each address when its entry of the cache was made. -/
structure Aging where
  resolver : Resolver
  created : Nat → Int

namespace Aging

abbrev core (s : Aging) : Core Datagram := s.resolver.core

/-- One operation; an entry that was not there before was made by it. -/
def step (s : Aging) (e : Operation) : Aging :=
  let resolver := s.resolver.step e
  { resolver
    created := fun ip =>
      if s.core.arpCache ip = none then resolver.core.nowMs else s.created ip }

/-- When the entry of an address is to go. -/
def goesAt (s : Aging) (ip : Nat) : ℚ := s.created ip + ARP_CACHE_TTL * 1000

/-- A pending "arp flush" timer of an address. -/
def IsFlush (ip : Nat) (task : TimerTask ArpCall) : Bool :=
  task.call = .flushEntry ip ∧ task.deleted = false

/-- Each entry of the cache has its flush timer, and no flush timer of its address is due earlier.
-/
def OnTime (s : Aging) : Prop :=
  ∀ ip, (s.core.arpCache ip).isSome →
    (∃ task ∈ s.core.timer.tasks, IsFlush ip task ∧ task.executeAtMs = s.goesAt ip) ∧
    ∀ task ∈ s.core.timer.tasks, IsFlush ip task → s.goesAt ip ≤ task.executeAtMs

/-- The frame is a request for the address of this host, from an address that has no entry. -/
def RequestFromUnknown (k : Core Datagram) (frame : List UInt8) : Prop :=
  28 ≤ frame.length ∧ (ARPParser.mk frame).op = ARP_OP_REQUEST ∧
    k.unicastIp = some (ARPParser.mk frame).tpa ∧ k.arpCache (ARPParser.mk frame).spa = none

instance (k : Core Datagram) (frame : List UInt8) : Decidable (RequestFromUnknown k frame) :=
  inferInstanceAs (Decidable (_ ∧ _ ∧ _ ∧ _))

/-- No request that the RX thread handles comes from an address that has no entry. -/
def FromReplies (s : Aging) : Operation → Prop
  | .frame bytes => s.resolver.rxRuns = true → ¬ RequestFromUnknown s.core (bytes.drop 14)
  | _ => True

end Aging

/-! ## What an operation does to an entry -/

namespace Resolver

open Aging

/-- What an operation other than a request from an unknown address does to the entry of an address,
its flush timers and its queue: nothing; a reply makes the entry unless it is there, starts a flush
timer and releases the queue, or ends the RX thread when there is none; or a flush timer that is due
takes the entry out. -/
inductive EntryStep (s s' : Resolver) (ip : Nat) : Prop where
  | same (hnow : s.core.nowMs ≤ s'.core.nowMs)
    (hcache : s'.core.arpCache ip = s.core.arpCache ip)
    (hmem : ∀ task, IsFlush ip task → (task ∈ s'.core.timer.tasks ↔ task ∈ s.core.timer.tasks))
    (hcount : s'.core.timer.tasks.countP (IsFlush ip) = s.core.timer.tasks.countP (IsFlush ip))
    (hruns : s'.rxRuns = true → s.rxRuns = true)
    (hqueue : (s.core.arpCache ip).isSome → s.core.pendingQueue ip = none →
      s'.core.pendingQueue ip = none)
  | replied (hruns : s.rxRuns = true) (hnow : s'.core.nowMs = s.core.nowMs)
    (hcache : (s'.core.arpCache ip).isSome)
    (htasks : ∃ n, s'.core.timer.tasks = s.core.timer.tasks ++
      [⟨n, s.core.nowMs, ARP_CACHE_TTL, .flushEntry ip, false⟩])
    (hqueue : s'.rxRuns = true → s.core.pendingQueue ip ≠ none ∧ s'.core.pendingQueue ip = none)
  | flushed (hcache : s'.core.arpCache ip = none)
    (hcount : s'.core.timer.tasks.countP (IsFlush ip) + 1 = s.core.timer.tasks.countP (IsFlush ip))
    (hruns : s'.rxRuns = s.rxRuns)

theorem EntryStep.of_eq {s s' : Resolver} (hnow : s.core.nowMs ≤ s'.core.nowMs)
    (hcache : s'.core.arpCache = s.core.arpCache)
    (htimer : s'.core.timer = s.core.timer) (hruns : s'.rxRuns = s.rxRuns)
    (hqueue : s'.core.pendingQueue = s.core.pendingQueue) (ip : Nat) : EntryStep s s' ip := by
  refine .same hnow (by rw [hcache]) (fun task _ => by rw [htimer]) (by rw [htimer])
    (by rw [hruns]; exact id) ?_
  intro _ hnone
  rw [hqueue, hnone]

/-- A task that is no flush timer of the address does not matter for its entry. -/
theorem EntryStep.of_append {s s' : Resolver} {ip : Nat} {task : TimerTask ArpCall}
    (htask : IsFlush ip task = false) (hnow : s.core.nowMs ≤ s'.core.nowMs)
    (hcache : s'.core.arpCache = s.core.arpCache)
    (htasks : s'.core.timer.tasks = s.core.timer.tasks ++ [task]) (hruns : s'.rxRuns = s.rxRuns)
    (hqueue : (s.core.arpCache ip).isSome → s'.core.pendingQueue ip = s.core.pendingQueue ip) :
    EntryStep s s' ip := by
  refine .same hnow (by rw [hcache]) ?_ ?_ (by rw [hruns]; exact id) ?_
  · intro task' hflush
    rw [htasks, List.mem_append, List.mem_singleton]
    refine ⟨?_, Or.inl⟩
    rintro (hmem | rfl)
    · exact hmem
    · rw [htask] at hflush
      cases hflush
  · rw [htasks, List.countP_append, List.countP_singleton, htask]
    rfl
  · intro hentry hnone
    rw [hqueue hentry, hnone]

/-- A datagram for an address without an entry: the address may get a wait timer, and its queue. -/
theorem hUnresolved_cases (k : Core Datagram) (src tpa : Nat) (d : Datagram) :
    let k' := k.hUnresolvedMacDatagrams src tpa d
    k'.nowMs = k.nowMs ∧ k'.arpCache = k.arpCache ∧
      (∀ ip, ip ≠ tpa → k'.pendingQueue ip = k.pendingQueue ip) ∧
      (k'.timer.tasks = k.timer.tasks ∨
        ∃ n, k'.timer.tasks =
          k.timer.tasks ++ [⟨n, k.nowMs, ARP_REPLY_TIMEOUT, .waitRemove tpa, false⟩]) := by
  have henq : ∀ k : Core Datagram, (k.enqueue tpa d).nowMs = k.nowMs ∧
      (k.enqueue tpa d).arpCache = k.arpCache ∧
      (k.enqueue tpa d).timer = k.timer ∧
      ∀ ip, ip ≠ tpa → (k.enqueue tpa d).pendingQueue ip = k.pendingQueue ip := by
    intro k
    unfold Core.enqueue
    split <;> exact ⟨rfl, rfl, rfl, fun ip hip => Function.update_of_ne hip ..⟩
  intro k'
  by_cases hq : k.isEnqueued tpa
  · have hk' : k' = k.enqueue tpa d := by
      simp only [k', Core.hUnresolvedMacDatagrams, if_pos hq]
    rw [hk']
    obtain ⟨hnow, hcache, htimer, hqueue⟩ := henq k
    exact ⟨hnow, hcache, hqueue, .inl (by rw [htimer])⟩
  · have hk' : k' = ((k.arpWaitAdd tpa).txEther
        (.arp ⟨k.unicastMac, src, 0, tpa, ARP_OP_REQUEST⟩) 0xFFFFFFFFFFFF k.unicastMac
        0x0806).enqueue tpa d := by
      simp only [k', Core.hUnresolvedMacDatagrams, if_neg hq, Core.txArp_request]
    rw [hk']
    obtain ⟨hnow, hcache, htimer, hqueue⟩ := henq ((k.arpWaitAdd tpa).txEther
        (.arp ⟨k.unicastMac, src, 0, tpa, ARP_OP_REQUEST⟩) 0xFFFFFFFFFFFF k.unicastMac 0x0806)
    rw [hnow, hcache, htimer]
    refine ⟨?_, ?_, ?_, ?_⟩
    · simp only [Core.txEther, Core.arpWaitAdd]
      split <;> rfl
    · simp only [Core.txEther, Core.arpWaitAdd]
      split <;> rfl
    · intro ip hip
      rw [hqueue ip hip]
      simp [Core.txEther]
    · simp only [Core.txEther, Core.arpWaitAdd]
      split
      · exact .inl rfl
      · exact .inr ⟨_, rfl⟩

/-- The link layer asks for the address of the next hop, which has no entry. -/
theorem route_none {k : Core Datagram} {dst : Nat} (h : (route k dst).2 = none) :
    k.arpCache (route k dst).1 = none := by
  unfold route at h ⊢
  split at h
  · cases h
  · next hb =>
    rw [if_neg hb]
    split at h
    · next hs => rw [if_pos hs]; exact h
    · next hs => rw [if_neg hs]; exact h

/-- A send leaves the cache alone, and an address that has an entry gets no queue. -/
theorem entryStep_txIp (s : Resolver) (payload : Payload) (src dst ttl protocol : Nat)
    (options : List IPOpt) (id fragId turns ip : Nat) :
    EntryStep s (s.step (.txIp payload src dst ttl protocol options id fragId turns)) ip := by
  rcases txIp_core s.core payload src dst ttl protocol options id fragId turns with h | ⟨d, h⟩
  · apply EntryStep.of_eq
    · simp only [step, h, le_refl]
    · simp only [step, h]
    · simp only [step, h]
    · rfl
    · simp only [step, h]
  · have hcore : (s.step (.txIp payload src dst ttl protocol options id fragId turns)).core =
        txDatagram s.core src (route s.core dst).1 (route s.core dst).2 d := h
    cases hmac : (route s.core dst).2 with
    | some mac =>
      rw [hmac] at hcore
      apply EntryStep.of_eq
      · rw [hcore, txDatagram, Core.txEther]
      · rw [hcore, txDatagram, Core.txEther]
      · rw [hcore, txDatagram, Core.txEther]
      · rfl
      · rw [hcore, txDatagram, Core.txEther]
    | none =>
      rw [hmac] at hcore
      have hnone := route_none hmac
      obtain ⟨hnow, hcache, hqueue, htasks⟩ :=
        hUnresolved_cases s.core src (route s.core dst).1 d
      have hnow' : s.core.nowMs ≤
          (s.step (.txIp payload src dst ttl protocol options id fragId turns)).core.nowMs := by
        rw [hcore]
        exact hnow.ge
      have hqueue' : (s.core.arpCache ip).isSome →
          (txDatagram s.core src (route s.core dst).1 none d).pendingQueue ip =
            s.core.pendingQueue ip := by
        intro hentry
        apply hqueue
        rintro rfl
        rw [hnone] at hentry
        cases hentry
      rcases htasks with htasks | ⟨n, htasks⟩
      · refine .same hnow' (by rw [hcore]; exact congrFun hcache ip) ?_ ?_ (fun hruns => hruns) ?_
        · intro task _
          rw [hcore]
          exact Iff.of_eq (congrArg (task ∈ ·) htasks)
        · rw [hcore]
          exact congrArg _ htasks
        · intro hentry hq
          rw [hcore, hqueue' hentry, hq]
      · refine .of_append ?_ hnow' (by rw [hcore]; exact hcache) (by rw [hcore]; exact htasks) rfl
          (by rw [hcore]; exact hqueue')
        simp [IsFlush]

/-- A reply to a request of this host: the entry, the timer, and then the queue or the exception. -/
theorem acceptReply_cases (k : Core Datagram) (spa sha : Nat) :
    let r := k.acceptReply spa sha
    r.1.arpCache = (k.updateArpCache spa sha).arpCache ∧ r.1.nowMs = k.nowMs ∧
      r.1.timer.tasks = k.timer.tasks ++
        [⟨k.timer.counter, k.nowMs, ARP_CACHE_TTL, .flushEntry spa, false⟩] ∧
      (∀ ip, ip ≠ spa → r.1.pendingQueue ip = k.pendingQueue ip) ∧
      (r.2.isOk → k.pendingQueue spa ≠ none ∧ r.1.pendingQueue spa = none) := by
  have hnow : (k.updateArpCache spa sha).nowMs = k.nowMs := by
    unfold Core.updateArpCache
    split <;> rfl
  intro r
  cases hq : k.pendingQueue spa with
  | some q =>
    have hr : r = _ := Core.dequeue_some
      ((k.updateArpCache spa sha).scheduleTimer ARP_CACHE_TTL (.flushEntry spa)) sha
      (by simpa [Core.scheduleTimer] using hq)
    rw [hr]
    refine ⟨rfl, hnow, ?_, ?_, ?_⟩
    · simp [Core.released, Core.scheduleTimer, Timer.scheduleTimer, hnow]
    · intro ip hip
      simp [Core.released, Core.scheduleTimer, hip]
    · intro _
      exact ⟨Option.some_ne_none q, Function.update_self ..⟩
  | none =>
    have hr : r = _ := Core.dequeue_none
      ((k.updateArpCache spa sha).scheduleTimer ARP_CACHE_TTL (.flushEntry spa)) sha
      (by simpa [Core.scheduleTimer] using hq)
    rw [hr]
    refine ⟨rfl, hnow, ?_, ?_, ?_⟩
    · simp [Core.scheduleTimer, Timer.scheduleTimer, hnow]
    · intro ip _
      simp [Core.scheduleTimer]
    · intro hok
      cases hok

theorem updateArpCache_isSome (k : Core Datagram) (ip mac : Nat) :
    ((k.updateArpCache ip mac).arpCache ip).isSome := by
  unfold Core.updateArpCache
  split
  · simp
  · next h => exact Option.isSome_iff_ne_none.2 h

theorem updateArpCache_of_ne (k : Core Datagram) {ip ip' : Nat} (mac : Nat) (h : ip' ≠ ip) :
    (k.updateArpCache ip mac).arpCache ip' = k.arpCache ip' := by
  unfold Core.updateArpCache
  split
  · exact Function.update_of_ne h ..
  · rfl

theorem entryStep_acceptReply {s s' : Resolver} (hruns : s.rxRuns = true) {spa sha : Nat}
    (hcore : s'.core = (s.core.acceptReply spa sha).1)
    (hruns' : s'.rxRuns = (s.core.acceptReply spa sha).2.isOk) (ip : Nat) : EntryStep s s' ip := by
  obtain ⟨hcache, hnow, htasks, hother, hqueue⟩ := acceptReply_cases s.core spa sha
  rw [← hcore] at hcache hnow htasks hother hqueue
  rw [← hruns'] at hqueue
  by_cases hip : ip = spa
  · subst hip
    exact .replied hruns hnow (by rw [hcache]; exact updateArpCache_isSome ..) ⟨_, htasks⟩ hqueue
  · refine .same hnow.ge (by rw [hcache, updateArpCache_of_ne _ _ hip]) ?_ ?_ (fun _ => hruns) ?_
    · intro task hflush
      rw [htasks, List.mem_append, List.mem_singleton]
      refine ⟨?_, Or.inl⟩
      rintro (hmem | rfl)
      · exact hmem
      · simp [IsFlush, Ne.symm hip] at hflush
    · rw [htasks, List.countP_append, List.countP_singleton]
      simp [IsFlush, Ne.symm hip]
    · intro _ hnone
      rw [hother ip hip, hnone]

/-- A frame that the RX thread handles. -/
theorem entryStep_frame {s : Resolver} {bytes : List UInt8}
    (hknown : s.rxRuns = true → ¬ RequestFromUnknown s.core (bytes.drop 14)) (ip : Nat) :
    EntryStep s (s.step (.frame bytes)) ip := by
  by_cases hruns : s.rxRuns = true
  case neg =>
    simp only [step, if_neg hruns]
    exact .of_eq le_rfl rfl rfl rfl rfl ip
  have hcore : (s.step (.frame bytes)).core = (s.core.rxArp ⟨bytes⟩ (bytes.drop 14)).1 := by
    simp only [step, if_pos hruns]
  have hruns' : (s.step (.frame bytes)).rxRuns = (s.core.rxArp ⟨bytes⟩ (bytes.drop 14)).2.isOk := by
    simp only [step, if_pos hruns]
  have hok : ∀ k' : Core Datagram, s.core.rxArp ⟨bytes⟩ (bytes.drop 14) = (k', .ok ()) →
      k'.nowMs = s.core.nowMs → k'.arpCache = s.core.arpCache → k'.timer = s.core.timer →
      k'.pendingQueue = s.core.pendingQueue → EntryStep s (s.step (.frame bytes)) ip := by
    intro k' hrx hnow hcache htimer hqueue
    rw [hrx] at hcore hruns'
    exact .of_eq (by rw [hcore, hnow]) (by rw [hcore, hcache]) (by rw [hcore, htimer])
      (by rw [hruns', hruns]; rfl) (by rw [hcore, hqueue]) ip
  by_cases hshort : (bytes.drop 14).length < 28
  · exact hok s.core (by rw [Core.rxArp]; simp only [if_pos hshort]) rfl rfl rfl rfl
  by_cases hreply : (ARPParser.mk (bytes.drop 14)).op = ARP_OP_REPLY ∧
      (EtherParser.mk bytes).dst = s.core.unicastMac ∧
      s.core.arpWaitTest (ARPParser.mk (bytes.drop 14)).spa
  · have hrx : s.core.rxArp ⟨bytes⟩ (bytes.drop 14) =
        s.core.acceptReply (ARPParser.mk (bytes.drop 14)).spa
            (ARPParser.mk (bytes.drop 14)).sha := by
      rw [Core.rxArp]
      simp only [if_neg hshort, if_pos hreply]
    rw [hrx] at hcore hruns'
    exact entryStep_acceptReply hruns hcore hruns' ip
  by_cases hprobe : (ARPParser.mk (bytes.drop 14)).op = ARP_OP_REPLY ∧
      (EtherParser.mk bytes).dst = s.core.unicastMac ∧
      s.core.arpProbeTest (ARPParser.mk (bytes.drop 14)).spa
  · refine hok { s.core with
      conflictIps := s.core.conflictIps ++ [(ARPParser.mk (bytes.drop 14)).spa] } ?_ rfl rfl rfl rfl
    rw [Core.rxArp]
    simp only [if_neg hshort, if_neg hreply, if_pos hprobe]
  cases hip : s.core.unicastIp with
  | none =>
    refine hok s.core ?_ rfl rfl rfl rfl
    rw [Core.rxArp]
    simp only [if_neg hshort, if_neg hreply, if_neg hprobe, hip]
  | some unicastIp =>
    by_cases hreq : (ARPParser.mk (bytes.drop 14)).op = ARP_OP_REQUEST ∧
        (ARPParser.mk (bytes.drop 14)).tpa = unicastIp
    · have hentry : s.core.arpCache (ARPParser.mk (bytes.drop 14)).spa ≠ none := fun hnone =>
        hknown hruns ⟨Nat.le_of_not_lt hshort, hreq.1, by rw [hip, hreq.2], hnone⟩
      refine hok (s.core.answerRequest unicastIp (EtherParser.mk bytes).src
        (ARPParser.mk (bytes.drop 14)).spa) ?_ ?_ ?_ ?_ ?_
      · rw [Core.rxArp]
        simp only [if_neg hshort, if_neg hreply, if_neg hprobe, hip, if_pos hreq]
      · rw [Core.answerRequest, Core.txArp_reply, Core.updateArpCache, if_neg]
        · rfl
        · exact hentry
      · rw [Core.answerRequest, Core.txArp_reply, Core.updateArpCache, if_neg]
        · rfl
        · exact hentry
      · rw [Core.answerRequest, Core.txArp_reply, Core.updateArpCache_timer]
        rfl
      · rw [Core.answerRequest, Core.txArp_reply, Core.updateArpCache_pendingQueue]
        rfl
    · refine hok s.core ?_ rfl rfl rfl rfl
      rw [Core.rxArp]
      simp only [if_neg hshort, if_neg hreply, if_neg hprobe, hip, if_neg hreq]

/-- A request from an unknown address makes an entry and starts no timer. -/
theorem step_requestFromUnknown {s : Resolver} {bytes : List UInt8} (hruns : s.rxRuns = true)
    (h : RequestFromUnknown s.core (bytes.drop 14)) :
    ((s.step (.frame bytes)).core.arpCache (ARPParser.mk (bytes.drop 14)).spa).isSome ∧
      (s.step (.frame bytes)).core.timer = s.core.timer := by
  obtain ⟨hlen, hop, hip, hnone⟩ := h
  have hne : ARP_OP_REQUEST ≠ ARP_OP_REPLY := by decide
  have hcore : (s.step (.frame bytes)).core = s.core.answerRequest
      (ARPParser.mk (bytes.drop 14)).tpa (EtherParser.mk bytes).src
      (ARPParser.mk (bytes.drop 14)).spa := by
    simp only [step, if_pos hruns, Core.rxArp, if_neg (Nat.not_lt.2 hlen), hop, hne, hip, false_and,
      if_false, and_self, if_true]
  rw [hcore]
  refine ⟨updateArpCache_isSome .., ?_⟩
  rw [Core.answerRequest, Core.txArp_reply, Core.updateArpCache_timer]
  rfl

/-- A callback touches neither the heap nor the queues, and the cache only as a flush timer. -/
theorem call_cases (k : Core Datagram) (c : ArpCall) :
    (k.call c).1.nowMs = k.nowMs ∧ (k.call c).1.timer = k.timer ∧
    (k.call c).1.pendingQueue = k.pendingQueue ∧
      ∀ ip, (k.call c).1.arpCache ip = if c = .flushEntry ip then none else k.arpCache ip := by
  cases c with
  | waitRemove ip' =>
    simp only [Core.call, Core.arpWaitRemove]
    split <;> simp
  | probeDone ip' =>
    simp only [Core.call, Core.probeDone]
    split <;> simp
  | flushEntry ip' =>
    refine ⟨rfl, rfl, rfl, fun ip => ?_⟩
    simp only [Core.call, Core.flushEntry]
    by_cases hip : ip = ip'
    · subst hip
      simp
    · simp [Function.update_of_ne hip, Ne.symm hip]

/-- A timer that is due. -/
theorem entryStep_timer (s : Resolver) (i ip : Nat) : EntryStep s (s.step (.timer i)) ip := by
  cases hdue : s.due i with
  | none =>
    have hstep : s.step (.timer i) = s := by simp only [step, hdue]
    rw [hstep]
    exact .of_eq le_rfl rfl rfl rfl rfl ip
  | some p =>
    obtain ⟨task, timer⟩ := p
    have hpop : s.core.timer.popDue s.core.nowMs i = some (task, timer) := by
      unfold due at hdue
      split at hdue
      · exact hdue
      · cases hdue
    have hcount := Timer.countP_of_popDue hpop (IsFlush ip)
    have hrest : ∀ x, IsFlush ip x → IsFlush ip task = false →
        (x ∈ timer.tasks ↔ x ∈ s.core.timer.tasks) := by
      intro x hx htask
      refine ⟨(Timer.popDue_mem hpop).2 x, fun hmem => ?_⟩
      rcases Timer.mem_of_popDue hpop hmem with rfl | hmem
      · rw [htask] at hx
        cases hx
      · exact hmem
    by_cases hdel : task.deleted = true
    · have hstep : s.step (.timer i) = { s with core := { s.core with timer } } := by
        simp only [step, hdue, if_pos hdel]
      have htask : IsFlush ip task = false := by simp [IsFlush, hdel]
      rw [hstep]
      refine .same le_rfl rfl (fun x hx => hrest x hx htask) ?_ (fun h => h) (fun _ h => h)
      simpa only [htask, Bool.false_eq_true, if_false, Nat.add_zero] using hcount
    · obtain ⟨hnow, htimer, hqueue, hcache⟩ := call_cases { s.core with timer } task.call
      have hcore : (s.step (.timer i)).core = ({ s.core with timer }.call task.call).1 := by
        simp only [step, hdue, if_neg hdel]
      have hruns : (s.step (.timer i)).rxRuns = s.rxRuns := by
        simp only [step, hdue, if_neg hdel]
      rw [← hcore] at hnow htimer hqueue hcache
      by_cases hflush : task.call = .flushEntry ip
      · have htask : IsFlush ip task = true := by simpa [IsFlush, hflush] using hdel
        refine .flushed ?_ ?_ hruns
        · rw [hcache ip, if_pos hflush]
        · rw [htimer]
          simpa only [htask, if_true] using hcount
      · have htask : IsFlush ip task = false := by simp [IsFlush, hflush]
        refine .same hnow.ge ?_ ?_ ?_ (fun h => hruns ▸ h) ?_
        · rw [hcache ip, if_neg hflush]
        · intro x hx
          rw [htimer]
          exact hrest x hx htask
        · rw [htimer]
          simpa only [htask, Bool.false_eq_true, if_false, Nat.add_zero] using hcount
        · intro _ hnone
          rw [hqueue, hnone]

/-- All that an operation can do to an entry, unless it is a request from an unknown address. -/
theorem entryStep {s : Resolver} {e : Operation}
    (hknown : ∀ bytes, e = .frame bytes → s.rxRuns = true →
      ¬ RequestFromUnknown s.core (bytes.drop 14)) (ip : Nat) : EntryStep s (s.step e) ip := by
  cases e with
  | txIp payload src dst ttl protocol options id fragId turns => exact entryStep_txIp ..
  | frame bytes => exact entryStep_frame (hknown bytes rfl) ip
  | timer i => exact s.entryStep_timer i ip
  | elapse ms =>
    apply EntryStep.of_eq
    · exact Int.le_add_of_nonneg_right (Int.natCast_nonneg ms)
    · rfl
    · rfl
    · rfl
    · rfl

end Resolver

namespace Aging

/-! ## The invariant -/

/-- The entry of an address, if there is one, is on time; and as long as the RX thread runs it has
one flush timer and no datagram waiting, and an address without an entry has no flush timer. -/
structure EntryInv (s : Aging) (ip : Nat) : Prop where
  onTime : (s.core.arpCache ip).isSome →
    (∃ task ∈ s.core.timer.tasks, IsFlush ip task ∧ task.executeAtMs = s.goesAt ip) ∧
    ∀ task ∈ s.core.timer.tasks, IsFlush ip task → s.goesAt ip ≤ task.executeAtMs
  created_le : (s.core.arpCache ip).isSome → s.created ip ≤ s.core.nowMs
  flushes : s.resolver.rxRuns = true →
    s.core.timer.tasks.countP (IsFlush ip) = if (s.core.arpCache ip).isSome then 1 else 0
  queue : s.resolver.rxRuns = true → (s.core.arpCache ip).isSome → s.core.pendingQueue ip = none

theorem created_step_of_isSome {s : Aging} {ip : Nat} (h : (s.core.arpCache ip).isSome)
    (e : Operation) : (s.step e).created ip = s.created ip := by
  simp only [step, if_neg (Option.isSome_iff_ne_none.1 h)]

theorem created_step_of_none {s : Aging} {ip : Nat} (h : s.core.arpCache ip = none)
    (e : Operation) : (s.step e).created ip = (s.step e).core.nowMs := by
  simp only [step, if_pos h]

theorem goesAt_step_of_isSome {s : Aging} {ip : Nat} (h : (s.core.arpCache ip).isSome)
    (e : Operation) : (s.step e).goesAt ip = s.goesAt ip := by
  rw [goesAt, goesAt, created_step_of_isSome h e]

section Step

variable {s : Aging} {ip : Nat} {e : Operation}

/-- The operation leaves the entry and its flush timers alone. -/
theorem EntryInv.same (h : s.EntryInv ip) (hnow : s.core.nowMs ≤ (s.step e).core.nowMs)
    (hcache : (s.step e).core.arpCache ip = s.core.arpCache ip)
    (hmem : ∀ task, IsFlush ip task →
      (task ∈ (s.step e).core.timer.tasks ↔ task ∈ s.core.timer.tasks))
    (hcount : (s.step e).core.timer.tasks.countP (IsFlush ip) =
      s.core.timer.tasks.countP (IsFlush ip))
    (hruns : (s.step e).resolver.rxRuns = true → s.resolver.rxRuns = true)
    (hqueue : (s.core.arpCache ip).isSome → s.core.pendingQueue ip = none →
      (s.step e).core.pendingQueue ip = none) : (s.step e).EntryInv ip := by
  have hold : ((s.step e).core.arpCache ip).isSome → (s.core.arpCache ip).isSome := by
    intro hentry
    rwa [← hcache]
  refine ⟨?_, ?_, ?_, ?_⟩
  · intro hentry
    obtain ⟨⟨task, htask, hflush, hat⟩, hlater⟩ := h.onTime (hold hentry)
    rw [goesAt_step_of_isSome (hold hentry) e]
    exact ⟨⟨task, (hmem task hflush).2 htask, hflush, hat⟩,
      fun task' htask' hflush' => hlater task' ((hmem task' hflush').1 htask') hflush'⟩
  · intro hentry
    rw [created_step_of_isSome (hold hentry) e]
    exact (h.created_le (hold hentry)).trans hnow
  · intro hr
    rw [hcount, h.flushes (hruns hr), hcache]
  · intro hr hentry
    exact hqueue (hold hentry) (h.queue (hruns hr) (hold hentry))

/-- A reply makes the entry: its timer is the only one. -/
theorem EntryInv.replied_new (h : s.EntryInv ip) (hentry : s.core.arpCache ip = none)
    (hruns : s.resolver.rxRuns = true) (hnow : (s.step e).core.nowMs = s.core.nowMs)
    (hcache : ((s.step e).core.arpCache ip).isSome) {n : Nat}
    (htasks : (s.step e).core.timer.tasks = s.core.timer.tasks ++
      [⟨n, s.core.nowMs, ARP_CACHE_TTL, .flushEntry ip, false⟩])
    (hqueue : (s.step e).resolver.rxRuns = true → (s.step e).core.pendingQueue ip = none) :
    (s.step e).EntryInv ip := by
  have hnew : IsFlush ip ⟨n, s.core.nowMs, ARP_CACHE_TTL, .flushEntry ip, false⟩ = true := by
    simp [IsFlush]
  have hgoes : (s.step e).goesAt ip = s.core.nowMs + ARP_CACHE_TTL * 1000 := by
    rw [goesAt, created_step_of_none hentry e, hnow]
  have hzero : s.core.timer.tasks.countP (IsFlush ip) = 0 := by
    rw [h.flushes hruns, hentry]
    rfl
  refine ⟨fun _ => ⟨⟨_, ?_, hnew, ?_⟩, ?_⟩, ?_, ?_, ?_⟩
  · rw [htasks]
    exact List.mem_append_right _ (List.mem_singleton_self _)
  · rw [hgoes]
    rfl
  · intro task htask hflush
    rw [htasks] at htask
    rcases List.mem_append.1 htask with hmem | hmem
    · exact absurd hflush (List.countP_eq_zero.1 hzero task hmem)
    · rw [List.mem_singleton.1 hmem, hgoes]
      exact le_rfl
  · intro _
    rw [created_step_of_none hentry e]
  · intro _
    rw [if_pos hcache, htasks, List.countP_append, hzero, List.countP_singleton, if_pos hnew]
  · intro hr _
    exact hqueue hr

/-- A reply for an entry that is there: there is no queue to release, so the RX thread ends, and the
timer that was started is one too many. -/
theorem EntryInv.replied_again (h : s.EntryInv ip) (hentry : (s.core.arpCache ip).isSome)
    (hruns : s.resolver.rxRuns = true) (hnow : (s.step e).core.nowMs = s.core.nowMs) {n : Nat}
    (htasks : (s.step e).core.timer.tasks = s.core.timer.tasks ++
      [⟨n, s.core.nowMs, ARP_CACHE_TTL, .flushEntry ip, false⟩])
    (hqueue : (s.step e).resolver.rxRuns = true → s.core.pendingQueue ip ≠ none) :
    (s.step e).EntryInv ip := by
  have hdead : ¬ (s.step e).resolver.rxRuns = true := fun hr => hqueue hr (h.queue hruns hentry)
  refine ⟨fun _ => ?_, ?_, fun hr => absurd hr hdead, fun hr => absurd hr hdead⟩
  · obtain ⟨⟨task, htask, hflush, hat⟩, hlater⟩ := h.onTime hentry
    rw [goesAt_step_of_isSome hentry e, htasks]
    refine ⟨⟨task, List.mem_append_left _ htask, hflush, hat⟩, fun task' htask' hflush' => ?_⟩
    rcases List.mem_append.1 htask' with hmem | hmem
    · exact hlater task' hmem hflush'
    · rw [List.mem_singleton.1 hmem, goesAt, TimerTask.executeAtMs]
      have hle : (s.created ip : ℚ) ≤ s.core.nowMs := Int.cast_le.2 (h.created_le hentry)
      linarith
  · intro _
    rw [created_step_of_isSome hentry e, hnow]
    exact h.created_le hentry

/-- Every operation but a request from an unknown address keeps the invariant. -/
theorem EntryInv.step (h : s.EntryInv ip) (hknown : s.FromReplies e) : (s.step e).EntryInv ip := by
  have hstep : s.resolver.EntryStep (s.step e).resolver ip := by
    refine Resolver.entryStep ?_ ip
    rintro bytes rfl
    exact hknown
  cases hstep with
  | same hnow hcache hmem hcount hruns hqueue =>
    exact h.same hnow hcache hmem hcount hruns hqueue
  | replied hruns hnow hcache htasks hqueue =>
    obtain ⟨n, htasks⟩ := htasks
    cases hentry : s.core.arpCache ip with
    | none => exact h.replied_new hentry hruns hnow hcache htasks fun hr => (hqueue hr).2
    | some mac =>
      have hsome : (s.core.arpCache ip).isSome := by rw [hentry]; rfl
      exact h.replied_again hsome hruns hnow htasks fun hr => (hqueue hr).1
  | flushed hcache hcount hruns =>
    have hgone : ¬ ((s.step e).core.arpCache ip).isSome := by rw [hcache]; simp
    refine ⟨fun hentry => absurd hentry hgone, fun hentry => absurd hentry hgone, ?_,
      fun _ hentry => absurd hentry hgone⟩
    intro hr
    have hold := h.flushes (hruns ▸ hr)
    rw [if_neg hgone]
    simp only [core] at hold ⊢
    split at hold <;> omega

end Step

/-- A request from an unknown address leaves an entry without a timer. -/
theorem fromReplies_of_onTime {s : Aging} {e : Operation} (h : ∀ ip, s.EntryInv ip)
    (hon : (s.step e).OnTime) : s.FromReplies e := by
  cases e with
  | txIp payload src dst ttl protocol options id fragId turns => trivial
  | timer i => trivial
  | elapse ms => trivial
  | frame bytes =>
    intro hruns hreq
    obtain ⟨hentry, htimer⟩ := Resolver.step_requestFromUnknown hruns hreq
    obtain ⟨⟨task, htask, hflush, -⟩, -⟩ := hon _ hentry
    have hzero := (h (ARPParser.mk (bytes.drop 14)).spa).flushes hruns
    rw [hreq.2.2.2] at hzero
    have hmem : task ∈ s.core.timer.tasks := by
      rw [← htimer]
      exact htask
    exact List.countP_eq_zero.1 hzero task hmem hflush

/-- **Cache entries expire on time** exactly in the runs in which the RX thread handles no request
for the address of this host from an address that has no entry: in every state reached each entry
has a flush timer due when it is to go, and no flush timer of its address is due earlier. -/
theorem onTime_iff {s : Aging} (hcache : ∀ ip, s.core.arpCache ip = none)
    (htimer : ∀ ip, ∀ task ∈ s.core.timer.tasks, IsFlush ip task = false) (es : List Operation) :
    (∀ pre, pre <+: es → (run step s pre).OnTime) ↔ Guarded step FromReplies s es := by
  refine forall_reached_iff_guarded (D := fun _ _ => True) (I := fun s => ∀ ip, s.EntryInv ip)
    ?_ ?_ ?_ ?_ (guarded_of_forall_mem (P := fun _ => True) (fun _ _ => trivial) s)
  · intro s h ip
    exact (h ip).onTime
  · intro s e h _ hknown ip
    exact (h ip).step hknown
  · intro s e h _ hon
    exact fromReplies_of_onTime h hon
  · intro ip
    have hgone : ¬ (s.core.arpCache ip).isSome := by rw [hcache ip]; simp
    refine ⟨fun hentry => absurd hentry hgone, fun hentry => absurd hentry hgone, ?_,
      fun _ hentry => absurd hentry hgone⟩
    intro _
    rw [if_neg hgone, List.countP_eq_zero]
    intro task htask
    rw [htimer ip task htask]
    exact Bool.false_ne_true

/-- A stack that knows no address yet. -/
def sample : Aging := ⟨Resolver.sample, fun _ => 0⟩

/-- A datagram, the reply that releases it, and the flush timer 300 seconds later. -/
theorem onTime_iff_reply : (Lib.run step sample
    [Resolver.sampleSend, .frame Resolver.sampleReply, .elapse 300000, .timer 1]).OnTime := by
  have hguard : Guarded step FromReplies sample
      [Resolver.sampleSend, .frame Resolver.sampleReply, .elapse 300000, .timer 1] := by
    refine ⟨trivial, ?_, trivial, trivial, trivial⟩
    intro _ hreq
    exact absurd hreq.2.1 (by decide +kernel)
  exact (onTime_iff (fun _ => rfl) (fun _ _ h => by cases h) _).2 hguard _ (List.prefix_refl _)

/-- The request of 10.0.0.1 for 10.0.0.2. -/
def sampleRequest : List UInt8 :=
  [255, 255, 255, 255, 255, 255, 2, 0, 0, 0, 0, 255, 8, 6] ++
    [0, 1, 8, 0, 6, 4, 0, 1, 2, 0, 0, 0, 0, 255, 10, 0, 0, 1, 0, 0, 0, 0, 0, 0, 10, 0, 0, 2]

/-- The entry a request makes has no timer, and so it never goes. -/
theorem request_not_onTime : ¬ (Lib.run step sample [.frame sampleRequest]).OnTime := by
  intro h
  obtain ⟨⟨task, htask, -⟩, -⟩ := h 0x0A000001 (by decide +kernel)
  have hnone : (Lib.run step sample [.frame sampleRequest]).core.timer.tasks = [] := by
    decide +kernel
  rw [hnone] at htask
  cases htask

end Aging

end Tipy.Arp
