import Tipy.Arp.Rx

/-!
# Acquiring the address

`_acquire_ipaddr` of `tipy/components/core.py`: the starting thread sends an ARP probe for the
configured address and waits on `arp_prob_cond`, which a reply to the probe notifies as well as its
timer. A reply leaves an `IPAddress` in `conflict_ips`; the starting thread looks there for the
string of the configuration. `IPAddress` has no `__eq__`, so it never finds it, and a host that
defends its address does not keep the stack from taking it (`conflict_assigned`).
-/

namespace Tipy.Arp

open Tipy.Components Tipy.Wire Lib

/-! ## Addresses as strings and as objects -/

/-- One part of a dotted address: ASCII digits without a leading zero, at most 255. -/
def octet (cs : List Char) : Option Nat :=
  if cs = [] ∨ ¬ cs.all Char.isDigit then none
  else if 1 < cs.length ∧ cs.head? = some '0' then none
  else
    let n := cs.foldl (fun n c => n * 10 + (c.toNat - 48)) 0
    if n ≤ 0xFF then some n else none

/-- `IPAddress(ipadd)` for a string: its `ip`, or `none` for the `IPFormatError`. -/
def IPAddress (ipadd : String) : Option Nat :=
  match (ipadd.toList.splitOn '.').map octet with
  | [some a, some b, some c, some d] => some (d ||| (c <<< 8 ||| (b <<< 16 ||| a <<< 24)))
  | _ => none

/-- What the membership test compares: strings, and `IPAddress` objects, known by a number. -/
inductive PyValue where
  | str (s : String)
  | ipAddress (ref ip : Nat)
deriving Repr, DecidableEq

/-- `a == b`. The class has no `__eq__`, so an object is equal to itself only. -/
def PyValue.eq : PyValue → PyValue → Bool
  | .str s, .str t => s == t
  | .ipAddress ref _, .ipAddress ref' _ => ref == ref'
  | .str _, .ipAddress _ _ => false
  | .ipAddress _ _, .str _ => false

/-- `x in xs`. -/
def pyIn (x : PyValue) (xs : List PyValue) : Bool := xs.any x.eq

/-- The objects in `conflict_ips`. -/
def Core.conflictObjects {δ ρ : Type} (k : Core δ ρ) : List PyValue :=
  k.conflictIps.zipIdx.map fun (ip, ref) => .ipAddress ref ip

/-! ## The starting thread -/

/-- Where the starting thread is in `_acquire_ipaddr`: in its `wait`, notified but not yet running,
past the assignment, or gone after a conflict. -/
inductive Starter where
  | waiting
  | notified
  | assigned
  | stopped
deriving Repr, DecidableEq

/-- A stack that starts. `ipHandler` says whether the map of the Ethernet types has an entry for
IPv4. -/
structure Startup (δ : Type) where
  ipaddr : String
  addr : Nat
  core : Core δ
  rxRuns : Bool
  timerRuns : Bool
  starter : Starter
  ipHandler : Bool

/-- What can happen: an ARP frame is received, a timer is due, time passes, and the starting thread
goes on. -/
inductive StartupEvent where
  | frame (bytes : List UInt8)
  | timer (i : Nat)
  | elapse (ms : Nat)
  | resume

/-- A core as `__init__` leaves it. -/
def Core.init {δ : Type} (unicastMac network mask router : Nat) (nowMs : Int) : Core δ where
  unicastMac := unicastMac
  unicastIp := none
  network := network
  mask := mask
  router := router
  arpCache _ := none
  arpWaitList := ∅
  arpWaitProbList := ∅
  pendingQueue _ := none
  conflictIps := []
  txRing := []
  timer := .new
  nowMs := nowMs

namespace Startup

variable {δ : Type} (s : Startup δ)

/-- The first part of `_acquire_ipaddr` for an address that can be read: the probe is sent and the
thread waits. The lock of the condition is held in between, so no notification comes before the
wait. -/
def probe (k : Core δ) (ipaddr : String) (addr : Nat) : Startup δ where
  ipaddr := ipaddr
  addr := addr
  core := k.txArp k.unicastMac 0 0 addr ARP_OP_REQUEST true
  rxRuns := true
  timerRuns := true
  starter := .waiting
  ipHandler := false

/-- The first part of `_acquire_ipaddr`; `none` when `IPAddress` raises. -/
def begin (k : Core δ) (ipaddr : String) : Option (Startup δ) :=
  (IPAddress ipaddr).map (probe k ipaddr)

/-- `notify` and `notify_all` of `arp_prob_cond`: nobody else waits on it. -/
def notify : Startup δ := if s.starter = .waiting then { s with starter := .notified } else s

/-- The branch of `rx_arp` that marks a conflict and notifies. -/
def ProbeAnswered (k : Core δ) (ether : EtherParser) (arp : ARPParser) : Prop :=
  28 ≤ arp.frame.length ∧ arp.op = ARP_OP_REPLY ∧ ether.dst = k.unicastMac ∧
    k.arpWaitTest arp.spa = false ∧ k.arpProbeTest arp.spa = true

instance (k : Core δ) (ether : EtherParser) (arp : ARPParser) :
    Decidable (ProbeAnswered k ether arp) :=
  inferInstanceAs (Decidable (_ ∧ _))

/-- The rest of `_acquire_ipaddr`. -/
def acquire : Startup δ :=
  if pyIn (.str s.ipaddr) s.core.conflictObjects then { s with starter := .stopped }
  else { s with
    core := { s.core with unicastIp := some s.addr }
    starter := .assigned
    ipHandler := true }

def step (s : Startup δ) : StartupEvent → Startup δ
  | .frame bytes =>
    if s.rxRuns then
      let r := s.core.rxArp ⟨bytes⟩ (bytes.drop 14)
      let s' := { s with core := r.1, rxRuns := r.2.isOk }
      if ProbeAnswered s.core ⟨bytes⟩ ⟨bytes.drop 14⟩ then s'.notify else s'
    else s
  | .timer i =>
    match if s.timerRuns then s.core.timer.popDue s.core.nowMs i else none with
    | some (task, timer) =>
      if task.deleted then { s with core := { s.core with timer } }
      else
        let r := { s.core with timer }.call task.call
        let s' := { s with core := r.1, timerRuns := r.2.isOk }
        match task.call, r.2 with
        | .probeDone _, .ok _ => s'.notify
        | _, _ => s'
    | none => s
  | .elapse ms => { s with core := { s.core with nowMs := s.core.nowMs + ms } }
  | .resume => if s.starter = .notified then s.acquire else s

/-! ## The verdict is lost -/

/-- The string is never among the objects. -/
theorem pyIn_conflictObjects (k : Core δ) (ipaddr : String) :
    pyIn (.str ipaddr) k.conflictObjects = false := by
  simp only [pyIn, Core.conflictObjects, List.any_map, List.any_eq_false]
  intro x _
  simp [PyValue.eq]

/-- What every run of a starting stack keeps: no request is waiting for a reply, and as long as the
starting thread waits the RX thread runs and the probe is pending; past the wait it has the address
or will take it. -/
structure Probing (mac addr : Nat) (s : Startup δ) : Prop where
  mac_eq : s.core.unicastMac = mac
  addr_eq : s.addr = addr
  wait : s.core.arpWaitList = ∅
  runs : s.rxRuns = true
  pending : s.starter = .waiting → addr ∈ s.core.arpWaitProbList
  running : s.starter ≠ .stopped
  taken : s.starter = .assigned → s.core.unicastIp = some addr ∧ s.ipHandler = true

/-- A reply of the host that has the address. -/
def Conflicts (mac addr : Nat) (bytes : List UInt8) : Prop :=
  28 ≤ (bytes.drop 14).length ∧ (ARPParser.mk (bytes.drop 14)).op = ARP_OP_REPLY ∧
    (EtherParser.mk bytes).dst = mac ∧ (ARPParser.mk (bytes.drop 14)).spa = addr

instance (mac addr : Nat) (bytes : List UInt8) : Decidable (Conflicts mac addr bytes) :=
  inferInstanceAs (Decidable (_ ∧ _))

/-- What a frame leaves alone when no request waits for a reply. -/
theorem rxArp_of_wait_empty {k : Core δ} (hwait : k.arpWaitList = ∅) (ether : EtherParser)
    (frame : List UInt8) :
    (k.rxArp ether frame).2 = .ok () ∧ (k.rxArp ether frame).1.arpWaitList = ∅ ∧
      (k.rxArp ether frame).1.arpWaitProbList = k.arpWaitProbList ∧
      (k.rxArp ether frame).1.unicastMac = k.unicastMac ∧
      (k.rxArp ether frame).1.unicastIp = k.unicastIp := by
  have htest : ∀ ip, k.arpWaitTest ip = false := by simp [Core.arpWaitTest, hwait]
  unfold Core.rxArp
  simp only [htest, Bool.false_eq_true, and_false, if_false]
  split
  · exact ⟨rfl, hwait, rfl, rfl, rfl⟩
  · split
    · exact ⟨rfl, hwait, rfl, rfl, rfl⟩
    · split
      · split
        · simp [Core.answerRequest, Core.txArp_reply, Core.txEther, hwait]
        · exact ⟨rfl, hwait, rfl, rfl, rfl⟩
      · exact ⟨rfl, hwait, rfl, rfl, rfl⟩

section Run

variable {mac addr : Nat} {s : Startup δ}

theorem notify_starter_ne : s.notify.starter ≠ .waiting := by
  unfold notify
  split
  · exact Starter.noConfusion
  · assumption

/-- A notification leaves all but the thread alone, which then no longer waits. -/
theorem Probing.notify (h : s.Probing mac addr) : s.notify.Probing mac addr := by
  unfold Startup.notify
  split
  · exact ⟨h.mac_eq, h.addr_eq, h.wait, h.runs, nofun, nofun, nofun⟩
  · exact h

/-- A frame that is no reply to the probe. -/
theorem Probing.frame (h : s.Probing mac addr) (bytes : List UInt8) :
    ({ s with core := (s.core.rxArp ⟨bytes⟩ (bytes.drop 14)).1
              rxRuns := (s.core.rxArp ⟨bytes⟩ (bytes.drop 14)).2.isOk } : Startup δ).Probing
                  mac addr := by
  obtain ⟨hok, hwait, hprob, hmac, hip⟩ := rxArp_of_wait_empty h.wait ⟨bytes⟩ (bytes.drop 14)
  refine ⟨hmac.trans h.mac_eq, h.addr_eq, hwait, by rw [hok]; rfl, fun hs => ?_,
    h.running, fun hs => ?_⟩
  · rw [hprob]
    exact h.pending hs
  · exact ⟨hip.trans (h.taken hs).1, (h.taken hs).2⟩

/-- A callback other than that of a probe. -/
theorem Probing.call (h : s.Probing mac addr) (timer : Timer ArpCall) {c : ArpCall}
    (hc : ∀ ip, c = .probeDone ip → ip ∉ s.core.arpWaitProbList) :
    ({ s with core := ({ s.core with timer }.call c).1
              timerRuns := ({ s.core with timer }.call c).2.isOk } : Startup δ).Probing
                  mac addr := by
  cases c with
  | waitRemove ip =>
    rw [Core.call, Core.arpWaitRemove, if_neg (by simp [h.wait])]
    exact ⟨h.mac_eq, h.addr_eq, h.wait, h.runs, h.pending, h.running, h.taken⟩
  | probeDone ip =>
    rw [Core.call, Core.probeDone, if_neg (hc ip rfl)]
    exact ⟨h.mac_eq, h.addr_eq, h.wait, h.runs, h.pending, h.running, h.taken⟩
  | flushEntry ip => exact ⟨h.mac_eq, h.addr_eq, h.wait, h.runs, h.pending, h.running, h.taken⟩

/-- The callback of a probe that is pending. -/
theorem Probing.probeDone (h : s.Probing mac addr) (timer : Timer ArpCall) (ip : Nat) (b : Bool) :
    ({ s with core := { s.core with timer, arpWaitProbList := s.core.arpWaitProbList.erase ip }
              timerRuns := b } : Startup δ).notify.Probing mac addr := by
  unfold Startup.notify
  split
  · exact ⟨h.mac_eq, h.addr_eq, h.wait, h.runs, nofun, nofun, nofun⟩
  · next hs =>
      exact ⟨h.mac_eq, h.addr_eq, h.wait, h.runs, fun hw => absurd hw hs, h.running, h.taken⟩

theorem Probing.acquire (h : s.Probing mac addr) :
    s.acquire.Probing mac addr ∧ s.acquire.starter = .assigned := by
  rw [Startup.acquire, pyIn_conflictObjects]
  exact ⟨⟨h.mac_eq, h.addr_eq, h.wait, h.runs, nofun, nofun, fun _ =>
    ⟨congrArg some h.addr_eq, rfl⟩⟩, rfl⟩

/-- **Every step keeps the invariant**, and a thread that waits no longer does not wait again. -/
theorem Probing.step (h : s.Probing mac addr) (e : StartupEvent) :
    (s.step e).Probing mac addr ∧ (s.starter ≠ .waiting → (s.step e).starter ≠ .waiting) := by
  cases e with
  | frame bytes =>
    simp only [Startup.step, if_pos h.runs]
    split
    · exact ⟨(h.frame bytes).notify, fun _ => notify_starter_ne⟩
    · exact ⟨h.frame bytes, id⟩
  | timer i =>
    simp only [Startup.step]
    split
    · next task timer _ =>
      split
      · exact ⟨⟨h.mac_eq, h.addr_eq, h.wait, h.runs, h.pending, h.running, h.taken⟩, id⟩
      · cases hcall : task.call with
        | waitRemove ip => exact ⟨h.call timer nofun, id⟩
        | flushEntry ip => exact ⟨h.call timer nofun, id⟩
        | probeDone ip =>
          by_cases hip : ip ∈ s.core.arpWaitProbList
          · simp only [Core.call, Core.probeDone, if_pos hip]
            exact ⟨h.probeDone timer ip _, fun _ => notify_starter_ne⟩
          · have hkept := h.call timer (c := .probeDone ip) (by rintro ip' ⟨⟩; exact hip)
            simp only [Core.call, Core.probeDone, if_neg hip] at hkept ⊢
            exact ⟨hkept, id⟩
    · exact ⟨h, id⟩
  | elapse ms => exact ⟨⟨h.mac_eq, h.addr_eq, h.wait, h.runs, h.pending, h.running, h.taken⟩, id⟩
  | resume =>
    simp only [Startup.step]
    split
    · exact ⟨h.acquire.1, fun _ => by rw [h.acquire.2]; exact Starter.noConfusion⟩
    · exact ⟨h, id⟩

/-- A reply of the host that has the address ends the wait. -/
theorem Probing.conflict (h : s.Probing mac addr) {bytes : List UInt8}
    (hc : Conflicts mac addr bytes) :
    (s.step (.frame bytes)).starter ≠ .waiting := by
  by_cases hs : s.starter = .waiting
  · have hanswered : ProbeAnswered s.core ⟨bytes⟩ ⟨bytes.drop 14⟩ := by
      refine ⟨hc.1, hc.2.1, hc.2.2.1.trans h.mac_eq.symm, by simp [Core.arpWaitTest, h.wait], ?_⟩
      simpa [Core.arpProbeTest, hc.2.2.2] using h.pending hs
    simp only [Startup.step, if_pos h.runs, if_pos hanswered]
    exact notify_starter_ne
  · exact (h.step (.frame bytes)).2 hs

theorem probing_probe (k : Core δ) (hwait : k.arpWaitList = ∅) (ipaddr : String) (addr : Nat) :
    (probe k ipaddr addr).Probing k.unicastMac addr := by
  have hcore : (probe k ipaddr addr).core.arpWaitList = ∅ ∧
      addr ∈ (probe k ipaddr addr).core.arpWaitProbList ∧
      (probe k ipaddr addr).core.unicastMac = k.unicastMac := by
    simp only [probe, Core.txArp, Core.arpProbeAdd, if_true]
    split
    · next hmem => exact ⟨hwait, hmem, rfl⟩
    · exact ⟨hwait, Finset.mem_insert_self addr _, rfl⟩
  exact ⟨hcore.2.2, rfl, hcore.1, rfl, fun _ => hcore.2.1, nofun, nofun⟩

/-- A run with a reply of the host that has the address, from a state in which the thread waits. -/
theorem Probing.run_conflict (h : s.Probing mac addr) {es : List StartupEvent} {bytes : List UInt8}
    (hmem : .frame bytes ∈ es) (hc : Conflicts mac addr bytes) :
    (run Startup.step s es).Probing mac addr ∧ (run Startup.step s es).starter ≠ .waiting := by
  -- past the wait, the rest of the run is that of the invariant alone
  have hrest : ∀ {s : Startup δ} (es : List StartupEvent), s.Probing mac addr →
    s.starter ≠ .waiting →
      (run Startup.step s es).Probing mac addr ∧ (run Startup.step s es).starter ≠ .waiting :=
    fun es hs hw => run_inv' (I := fun s : Startup δ => s.Probing mac addr ∧ s.starter ≠ .waiting)
      (fun _ e h => ⟨(h.1.step e).1, (h.1.step e).2 h.2⟩) ⟨hs, hw⟩ es
  induction es generalizing s with
  | nil => cases hmem
  | cons e es ih =>
    rcases List.mem_cons.1 hmem with rfl | hmem
    · exact hrest es (h.step _).1 (h.conflict hc)
    · exact ih (h.step e).1 hmem

end Run

/-- **A conflict is never detected.** For every configuration, and every sequence of frames, timers
and steps of the starting thread after the probe: when one of the frames is an ARP reply to this
host's MAC from the probed address, the stack has the address and the IPv4 handler as soon as the
starting thread has run. -/
theorem conflict_assigned (mac network mask router : Nat) (nowMs : Int) (ipaddr : String)
    {s₀ : Startup δ} (hbegin : begin (Core.init mac network mask router nowMs) ipaddr = some s₀)
    (es : List StartupEvent)
    (bytes : List UInt8) (hmem : .frame bytes ∈ es) (hc : Conflicts mac s₀.addr bytes) :
    let s := run step s₀ (es ++ [.resume])
    s.core.unicastIp = IPAddress ipaddr ∧ s.ipHandler = true := by
  obtain ⟨addr, haddr, rfl⟩ := Option.map_eq_some_iff.1 hbegin
  have hstart := probing_probe (Core.init (δ := δ) mac network mask router nowMs) rfl ipaddr addr
  obtain ⟨hrun, hwoken⟩ := hstart.run_conflict hmem hc
  intro s
  have hs : s =
      (run step (probe (Core.init mac network mask router nowMs) ipaddr addr) es).step .resume :=
    run_append ..
  have hassigned : s.starter = .assigned := by
    rw [hs]
    simp only [step]
    split
    · exact hrun.acquire.2
    · next hn =>
      cases hst :
        (run step (probe (Core.init mac network mask router nowMs) ipaddr addr) es).starter with
      | waiting => exact absurd hst hwoken
      | notified => exact absurd hst hn
      | assigned => rfl
      | stopped => exact absurd hst hrun.running
  have hkept : s.Probing mac addr := hs ▸ (hrun.step .resume).1
  rw [haddr]
  exact hkept.taken hassigned

/-- The configuration of the repository. -/
def sampleStart : Startup Ip.Datagram :=
  probe (Core.init 0x001122334455 0xC0A80200 0xFFFFFF00 0xC0A80201 0) "192.168.2.200" 0xC0A802C8

/-- The reply of another host that has the address. -/
def sampleDefence : List UInt8 :=
  [0, 0x11, 0x22, 0x33, 0x44, 0x55, 2, 0, 0, 0, 0, 9, 8, 6] ++
    [0, 1, 8, 0, 6, 4, 0, 2, 2, 0, 0, 0, 0, 9, 0xC0, 0xA8, 2, 0xC8] ++
    [0, 0x11, 0x22, 0x33, 0x44, 0x55, 0, 0, 0, 0]

theorem conflict_assigned_sample :
    let s := run step sampleStart ([.elapse 100, .frame sampleDefence] ++ [.resume])
    s.core.unicastIp = IPAddress "192.168.2.200" ∧ s.ipHandler = true := by
  have haddr : IPAddress "192.168.2.200" = some 0xC0A802C8 := by decide +kernel
  have hbegin :
    begin (Core.init 0x001122334455 0xC0A80200 0xFFFFFF00 0xC0A80201 0) "192.168.2.200" =
      some sampleStart := by
    rw [begin, haddr]
    rfl
  exact conflict_assigned _ _ _ _ _ _ hbegin _ sampleDefence (by simp) (by decide +kernel)

/-- The address of another host, which answers the probe, is taken. -/
theorem defended_address_taken :
    Conflicts 0x001122334455 0xC0A802C8 sampleDefence ∧
      ¬ ((run step sampleStart [.frame sampleDefence, .resume]).core.unicastIp = none ∧
        (run step sampleStart [.frame sampleDefence, .resume]).ipHandler = false) := by
  decide +kernel

end Startup

end Tipy.Arp
