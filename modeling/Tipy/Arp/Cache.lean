import Mathlib.Data.Finset.Insert
import Mathlib.Data.Finset.Erase
import Mathlib.Logic.Function.Basic
import Tipy.Components.Timer
import Tipy.Python

/-!
# The caches under ARP

`ARPCache` and `IPCache` as far as address resolution goes: the cache itself, the set of addresses
that wait for a reply, and the queues of datagrams that wait for an address. `tx_arp` and `tx_ether`
are here too, since sending a request is what puts an address into the set. The type `δ` is that of
the datagrams, which nothing here looks into, and `ρ` is what the dictionary of queues has for a
list: the list itself, or a reference to it where several threads may hold one. A call that raises
leaves behind what it did before.
-/

namespace Tipy.Arp

open Tipy.Components

def ARP_OP_REQUEST : Nat := 1

def ARP_OP_REPLY : Nat := 2

/-- `ARP_REPLY_TIMEOUT`, in seconds. -/
def ARP_REPLY_TIMEOUT : ℚ := 3

/-- `ARP_CACHE_TTL`, in seconds. -/
def ARP_CACHE_TTL : ℚ := 300

/-- `ARPBuilder`. -/
structure ARPBuilder where
  sha : Nat
  spa : Nat
  tha : Nat
  tpa : Nat
  op : Nat
deriving Repr, DecidableEq

/-- What a frame carries. -/
inductive Carried (δ : Type) where
  | datagram (d : δ)
  | arp (b : ARPBuilder)
deriving Repr, DecidableEq

/-- A frame on the TX ring. -/
structure Frame (δ : Type) where
  payload : Carried δ
  dst : Nat
  src : Nat
  type : Nat
deriving Repr, DecidableEq

/-- The callbacks of the timers. -/
inductive ArpCall where
  | waitRemove (ip : Nat)
  | probeDone (ip : Nat)
  | flushEntry (ip : Nat)
deriving Repr, DecidableEq

/-- The part of the core that address resolution works on. -/
structure Core (δ : Type) (ρ : Type := List δ) where
  unicastMac : Nat
  unicastIp : Option Nat
  network : Nat
  mask : Nat
  router : Nat
  arpCache : Nat → Option Nat
  arpWaitList : Finset Nat
  arpWaitProbList : Finset Nat
  pendingQueue : Nat → Option ρ
  conflictIps : List Nat
  txRing : List (Frame δ)
  timer : Timer ArpCall
  nowMs : Int

namespace Core

variable {δ ρ : Type} (k : Core δ ρ)

/-! ## The ARP cache -/

def findEntry (ip : Nat) : Option Nat := k.arpCache ip

def flushEntry (ip : Nat) : Core δ ρ := { k with arpCache := Function.update k.arpCache ip none }

/-- `update_arp_cache`: an entry that exists stays. -/
def updateArpCache (ip mac : Nat) : Core δ ρ :=
  if k.arpCache ip = none then { k with arpCache := Function.update k.arpCache ip (some mac) }
    else k

def arpWaitTest (ip : Nat) : Bool := ip ∈ k.arpWaitList

/-- `self._arp_wait_list.add(ip)`. -/
def waitListAdd (ip : Nat) : Core δ ρ := { k with arpWaitList := insert ip k.arpWaitList }

def scheduleTimer (expireAfter : ℚ) (call : ArpCall) : Core δ ρ :=
  { k with timer := (k.timer.scheduleTimer k.nowMs expireAfter call).2 }

/-- `arp_wait_add`. -/
def arpWaitAdd (ip : Nat) : Core δ ρ :=
  if k.arpWaitTest ip then k
  else (k.waitListAdd ip).scheduleTimer ARP_REPLY_TIMEOUT (.waitRemove ip)

/-- `_arp_wait_remove`: `set.remove` raises when the address is not there. -/
def arpWaitRemove (ip : Nat) : Core δ ρ × Except PyError Unit :=
  if ip ∈ k.arpWaitList then ({ k with arpWaitList := k.arpWaitList.erase ip }, .ok ())
  else (k, .error .keyError)

/-- `arp_probe_add`. -/
def arpProbeAdd (ip : Nat) : Core δ ρ :=
  if ip ∈ k.arpWaitProbList then k
  else { k with arpWaitProbList := insert ip k.arpWaitProbList }.scheduleTimer ARP_REPLY_TIMEOUT
    (.probeDone ip)

def arpProbeTest (ip : Nat) : Bool := ip ∈ k.arpWaitProbList

/-- `_probe_done`, without the thread it wakes. -/
def probeDone (ip : Nat) : Core δ ρ × Except PyError Unit :=
  if ip ∈ k.arpWaitProbList then ({ k with arpWaitProbList := k.arpWaitProbList.erase ip }, .ok ())
  else (k, .error .keyError)

/-! ## Sending -/

def txEther (payload : Carried δ) (dst src type : Nat) : Core δ ρ :=
  { k with txRing := k.txRing ++ [⟨payload, dst, src, type⟩] }

/-- `tx_arp`. -/
def txArp (sha spa tha tpa op : Nat) (prob : Bool) : Core δ ρ :=
  let b : ARPBuilder := ⟨sha, spa, tha, tpa, op⟩
  if op = ARP_OP_REQUEST then
    (if prob then k.arpProbeAdd tpa else k.arpWaitAdd tpa).txEther
      (.arp b) 0xFFFFFFFFFFFF sha 0x0806
  else if op = ARP_OP_REPLY then k.txEther (.arp b) tha sha 0x0806
  else k

/-! ## The dictionary of queues -/

def isEnqueued (ip : Nat) : Bool := (k.pendingQueue ip).isSome

def setQueue (ip : Nat) (q : Option ρ) : Core δ ρ :=
  { k with pendingQueue := Function.update k.pendingQueue ip q }

/-! ## What the operations leave alone -/

section Frame

variable (ip mac : Nat)

@[simp] theorem updateArpCache_pendingQueue :
    (k.updateArpCache ip mac).pendingQueue = k.pendingQueue := by
  unfold updateArpCache
  split <;> rfl

@[simp] theorem updateArpCache_arpWaitList :
    (k.updateArpCache ip mac).arpWaitList = k.arpWaitList := by
  unfold updateArpCache
  split <;> rfl

@[simp] theorem updateArpCache_arpWaitProbList :
    (k.updateArpCache ip mac).arpWaitProbList = k.arpWaitProbList := by
  unfold updateArpCache
  split <;> rfl

@[simp] theorem updateArpCache_unicastMac :
    (k.updateArpCache ip mac).unicastMac = k.unicastMac := by
  unfold updateArpCache
  split <;> rfl

@[simp] theorem updateArpCache_unicastIp : (k.updateArpCache ip mac).unicastIp = k.unicastIp := by
  unfold updateArpCache
  split <;> rfl

@[simp] theorem updateArpCache_timer : (k.updateArpCache ip mac).timer = k.timer := by
  unfold updateArpCache
  split <;> rfl

@[simp] theorem arpWaitAdd_pendingQueue : (k.arpWaitAdd ip).pendingQueue = k.pendingQueue := by
  unfold arpWaitAdd
  split <;> rfl

@[simp] theorem arpWaitAdd_arpWaitList :
    (k.arpWaitAdd ip).arpWaitList = insert ip k.arpWaitList := by
  unfold arpWaitAdd
  split
  · next h => rw [Finset.insert_eq_of_mem (by simpa [arpWaitTest] using h)]
  · rfl

theorem txArp_request (sha spa tha tpa : Nat) :
    k.txArp sha spa tha tpa ARP_OP_REQUEST false =
      (k.arpWaitAdd tpa).txEther (.arp ⟨sha, spa, tha, tpa, ARP_OP_REQUEST⟩)
          0xFFFFFFFFFFFF sha 0x0806 :=
  rfl

theorem txArp_reply (sha spa tha tpa : Nat) :
    k.txArp sha spa tha tpa ARP_OP_REPLY false =
      k.txEther (.arp ⟨sha, spa, tha, tpa, ARP_OP_REPLY⟩) tha sha 0x0806 := rfl

end Frame

end Core

/-! ## The datagrams that wait -/

namespace Core

variable {δ : Type} (k : Core δ)

/-- `enqueue`. -/
def enqueue (ip : Nat) (d : δ) : Core δ :=
  match k.pendingQueue ip with
  | some q => k.setQueue ip (some (q ++ [d]))
  | none => k.setQueue ip (some [d])

/-- `dequeue`: `len(self._arp_pending_datagrams_queue[ip])` raises when there is no queue. -/
def dequeue (ip mac : Nat) : Core δ × Except PyError Unit :=
  match k.pendingQueue ip with
  | some q =>
    ((q.foldl (fun k d => k.txEther (.datagram d) mac k.unicastMac 0x0800) k).setQueue ip none,
      .ok ())
  | none => (k, .error .keyError)

/-- `_h_unresolved_mac_datagrams`. -/
def hUnresolvedMacDatagrams (src dst : Nat) (d : δ) : Core δ :=
  (if k.isEnqueued dst then k
    else k.txArp k.unicastMac src 0 dst ARP_OP_REQUEST false).enqueue dst d

/-- The frames of datagrams that are released. -/
def released (ip mac : Nat) (q : List δ) : Core δ :=
  { k with
    txRing := k.txRing ++ q.map fun d => ⟨.datagram d, mac, k.unicastMac, 0x0800⟩
    pendingQueue := Function.update k.pendingQueue ip none }

/-- The loop of `dequeue` sends the queue in its order. -/
theorem foldl_txEther (mac : Nat) (q : List δ) :
    q.foldl (fun k d => k.txEther (.datagram d) mac k.unicastMac 0x0800) k =
      { k with txRing := k.txRing ++ q.map fun d => ⟨.datagram d, mac, k.unicastMac, 0x0800⟩ } := by
  induction q generalizing k with
  | nil => simp
  | cons d q ih =>
    rw [List.foldl_cons, ih]
    simp [txEther]

theorem dequeue_some {ip : Nat} {q : List δ} (mac : Nat) (h : k.pendingQueue ip = some q) :
    k.dequeue ip mac = (k.released ip mac q, .ok ()) := by
  simp only [dequeue, h, foldl_txEther, setQueue, released]

theorem dequeue_none {ip : Nat} (mac : Nat) (h : k.pendingQueue ip = none) :
    k.dequeue ip mac = (k, .error .keyError) := by
  simp only [dequeue, h]

end Core

end Tipy.Arp
