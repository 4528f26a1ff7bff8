import Tipy.Host.Answers

/-!
# Hosts on one segment

Any number of hosts that run the stack on one Ethernet segment. What a host has put on its TX ring
may be written to the wire at any time and any number of times, and any host may receive what was
written, whoever it is for: frames are lost, repeated, reordered and overheard. The ARP caches of
the hosts stay right nevertheless, since every host says the truth about itself: so no datagram goes
to the wrong station.
-/

namespace Tipy

open Components Arp Ip Wire Lib

@[simp] theorem Arp.Core.updateArpCache_txRing {δ ρ : Type} (k : Core δ ρ) (ip mac : Nat) :
    (k.updateArpCache ip mac).txRing = k.txRing := by
  unfold Core.updateArpCache
  split <;> rfl

/-! ## What `tx_ip` sends -/

theorem Wire.IPBuilder.dst_of_new {payload : Payload} {id ttl protocol src dst : Nat}
    {options : List IPOpt} {b : IPBuilder}
    (h : IPBuilder.new payload id ttl protocol src dst options = .ok b) : b.dst = dst := by
  obtain ⟨ihl, -, h⟩ := bind_eq_ok.1 h
  rw [← Except.ok.inj h]

/-- The call raises and changes nothing, or its packet is sent or waits. -/
theorem Ip.txIp_cases (k : Core Datagram) (payload : Payload) (src dst ttl protocol : Nat)
    (options : List IPOpt) (id fragId turns : Nat) :
    (txIp k payload src dst ttl protocol options id fragId turns).1 = k ∨
      ∃ b, IPBuilder.new payload id ttl protocol src dst options = .ok b ∧ b.len ≤ MTU ∧
        (txIp k payload src dst ttl protocol options id fragId turns).1 =
          txDatagram k src (route k dst).1 (route k dst).2 (.whole b) := by
  cases hnew : IPBuilder.new payload id ttl protocol src dst options with
  | error e =>
    left
    simp only [txIp, hnew]
  | ok b =>
    by_cases hlen : b.len ≤ MTU
    · exact .inr ⟨b, rfl, hlen, by rw [txIp_short hnew hlen]⟩
    · left
      obtain ⟨e, hraised⟩ := txIp_long (k := k) hnew (Nat.not_le.1 hlen) fragId turns
      rw [hraised]

/-! ## Stations -/

/-- The stations of a segment with their configuration. A probe is sent from the address 0, which is
no station's. -/
structure Stations (ι : Type) where
  mac : ι → Nat
  addr : ι → Nat
  network : ι → Nat
  mask : ι → Nat
  router : ι → Nat
  distinct : Function.Injective addr
  nonzero : ∀ i, addr i ≠ 0

namespace Stations

variable {ι : Type} (S : Stations ι)

/-- The address that the link layer of station `i` is to deliver a packet for `dst` to; a broadcast
is for no single one. -/
def nextHop (i : ι) (dst : Nat) : Option Nat :=
  if IsBroadcast dst then none
  else if IsInSubnet dst (S.network i) (S.mask i) then some dst
  else some (S.router i)

/-- `mac` is right for the address `ip`, if a station has that. -/
def Right (ip mac : Nat) : Prop := ∀ j, ip = S.addr j → mac = S.mac j

/-- A frame in which station `i` says the truth about itself, or a packet that fits the MTU and is
no fragment, for the station that has the address of its next hop. -/
inductive Honest (i : ι) : Frame Datagram → Prop where
  | arp (b : ARPBuilder) (dst : Nat) (hsha : b.sha = S.mac i) (hspa : b.spa = 0 ∨
    b.spa = S.addr i) :
    Honest i ⟨.arp b, dst, S.mac i, 0x0806⟩
  | whole (b : IPBuilder) (dst : Nat) (hb : b.Unfragmented) (hlen : b.len ≤ MTU)
    (hdst : ∀ ip, S.nextHop i b.dst = some ip → S.Right ip dst) :
    Honest i ⟨.datagram (.whole b), dst, S.mac i, 0x0800⟩

/-- The request of station `i` for the address `ip`. -/
def request (i : ι) (ip : Nat) : Frame Datagram :=
  ⟨.arp ⟨S.mac i, S.addr i, 0, ip, ARP_OP_REQUEST⟩, 0xFFFFFFFFFFFF, S.mac i, 0x0806⟩

theorem request_honest (i : ι) (ip : Nat) : S.Honest i (S.request i ip) := .arp _ _ rfl (.inr rfl)

/-- The datagrams that wait for `ip` are to go there. -/
def IsFor (i : ι) (ip : Nat) (d : Datagram) : Prop :=
  ∃ b, d = .whole b ∧ b.Unfragmented ∧ b.len ≤ MTU ∧ S.nextHop i b.dst = some ip

/-- What the tables of a core are to be. -/
structure Sound (i : ι) (k : Core Datagram) : Prop where
  mac : k.unicastMac = S.mac i
  network : k.network = S.network i
  mask : k.mask = S.mask i
  router : k.router = S.router i
  unicastIp : k.unicastIp = none ∨ k.unicastIp = some (S.addr i)
  cache : ∀ ip mac, k.arpCache ip = some mac → S.Right ip mac
  queue : ∀ ip q, k.pendingQueue ip = some q → (∀ d ∈ q, S.IsFor i ip d) ∧ S.request i ip ∈ k.txRing
  ring : ∀ f ∈ k.txRing, S.Honest i f

/-- What a host has seen of another station: its own hardware address, under its own address or
none. -/
theorem right_of_honest {j : ι} {spa : Nat} (hspa : spa = 0 ∨ spa = S.addr j) :
    S.Right spa (S.mac j) := by
  rintro l rfl
  rcases hspa with hzero | hsame
  · exact absurd hzero (S.nonzero l)
  · rw [S.distinct hsame]

namespace Sound

variable {S} {i : ι} {k k' : Core Datagram}

/-- What the wait lists, the timers and the clock have to do with it: nothing. -/
theorem congr (h : S.Sound i k) (hmac : k'.unicastMac = k.unicastMac)
    (hnetwork : k'.network = k.network) (hmask : k'.mask = k.mask) (hrouter : k'.router = k.router)
    (hip : k'.unicastIp = k.unicastIp)
    (hcache : k'.arpCache = k.arpCache) (hqueue : k'.pendingQueue = k.pendingQueue)
    (hring : k'.txRing = k.txRing) : S.Sound i k' := by
  refine ⟨hmac.trans h.mac, hnetwork.trans h.network, hmask.trans h.mask,
    hrouter.trans h.router, ?_, ?_, ?_, ?_⟩
  · rw [hip]
    exact h.unicastIp
  · rw [hcache]
    exact h.cache
  · rw [hqueue, hring]
    exact h.queue
  · rw [hring]
    exact h.ring

theorem scheduleTimer (h : S.Sound i k) (expireAfter : ℚ) (call : ArpCall) :
    S.Sound i (k.scheduleTimer expireAfter call) :=
  h.congr rfl rfl rfl rfl rfl rfl rfl rfl

theorem arpWaitAdd (h : S.Sound i k) (ip : Nat) : S.Sound i (k.arpWaitAdd ip) := by
  unfold Core.arpWaitAdd
  split
  · exact h
  · exact h.congr rfl rfl rfl rfl rfl rfl rfl rfl

theorem txEther (h : S.Sound i k) {payload : Carried Datagram} {dst src type : Nat}
    (hf : S.Honest i ⟨payload, dst, src, type⟩) : S.Sound i (k.txEther payload dst src type) where
  mac := h.mac
  network := h.network
  mask := h.mask
  router := h.router
  unicastIp := h.unicastIp
  cache := h.cache
  queue ip q hq := ⟨(h.queue ip q hq).1, List.mem_append_left _ (h.queue ip q hq).2⟩
  ring f hmem := by
    rcases List.mem_append.1 hmem with hmem | hmem
    · exact h.ring f hmem
    · obtain rfl := List.mem_singleton.1 hmem
      exact hf

theorem updateArpCache (h : S.Sound i k) {ip mac : Nat} (hright : S.Right ip mac) :
    S.Sound i (k.updateArpCache ip mac) := by
  unfold Core.updateArpCache
  split
  · refine ⟨h.mac, h.network, h.mask, h.router, h.unicastIp, fun ip' mac' hmem =>
      ?_, h.queue, h.ring⟩
    rcases of_update_eq_some hmem with ⟨rfl, hmac⟩ | ⟨-, hold⟩
    · exact Option.some.inj hmac ▸ hright
    · exact h.cache ip' mac' hold
  · exact h

theorem flushEntry (h : S.Sound i k) (ip : Nat) : S.Sound i (k.flushEntry ip) := by
  refine ⟨h.mac, h.network, h.mask, h.router, h.unicastIp, fun ip' mac' hmem => ?_, h.queue, h.ring⟩
  rcases of_update_eq_some hmem with ⟨-, hmac⟩ | ⟨-, hold⟩
  · cases hmac
  · exact h.cache ip' mac' hold

/-- A new queue for one address. -/
theorem setQueue (h : S.Sound i k) {ip : Nat} {q : Option (List Datagram)}
    (hq : ∀ q', q = some q' → (∀ d ∈ q', S.IsFor i ip d) ∧ S.request i ip ∈ k.txRing) :
    S.Sound i (k.setQueue ip q) := by
  refine ⟨h.mac, h.network, h.mask, h.router, h.unicastIp, h.cache, fun ip' q' hmem => ?_, h.ring⟩
  rcases of_update_eq_some hmem with ⟨rfl, hnew⟩ | ⟨-, hold⟩
  · exact hq q' hnew
  · exact h.queue ip' q' hold

theorem enqueue (h : S.Sound i k) {ip : Nat} {d : Datagram} (hd : S.IsFor i ip d)
    (hrequest : S.request i ip ∈ k.txRing) : S.Sound i (k.enqueue ip d) := by
  unfold Core.enqueue
  split
  · next q hq =>
    refine h.setQueue ?_
    rintro _ ⟨⟩
    refine ⟨fun d' hmem => ?_, hrequest⟩
    rcases List.mem_append.1 hmem with hmem | hmem
    · exact (h.queue ip q hq).1 d' hmem
    · obtain rfl := List.mem_singleton.1 hmem
      exact hd
  · refine h.setQueue ?_
    rintro _ ⟨⟩
    exact ⟨fun d' hmem => List.mem_singleton.1 hmem ▸ hd, hrequest⟩

/-- The first datagram for an address that is not known asks for it. -/
theorem hUnresolvedMacDatagrams (h : S.Sound i k) {ip : Nat} {d : Datagram} (hd : S.IsFor i ip d) :
    S.Sound i (k.hUnresolvedMacDatagrams (S.addr i) ip d) := by
  unfold Core.hUnresolvedMacDatagrams
  split
  · next henqueued =>
    obtain ⟨q, hq⟩ := Option.isSome_iff_exists.1 henqueued
    exact h.enqueue hd (h.queue ip q hq).2
  · rw [Core.txArp_request, h.mac]
    refine ((h.arpWaitAdd ip).txEther (S.request_honest i ip)).enqueue hd ?_
    exact List.mem_append_right _ (List.mem_singleton_self _)

/-- A reply, if it is right. -/
theorem acceptReply (h : S.Sound i k) {spa sha : Nat} (hright : S.Right spa sha) :
    S.Sound i (k.acceptReply spa sha).1 := by
  have hnoted := (h.updateArpCache hright).scheduleTimer ARP_CACHE_TTL (.flushEntry spa)
  unfold Core.acceptReply
  generalize (k.updateArpCache spa sha).scheduleTimer ARP_CACHE_TTL (.flushEntry spa) = k₁ at hnoted
  unfold Core.dequeue
  split
  · next q hq =>
    have hfor := (hnoted.queue spa q hq).1
    -- the loop over the queue
    have hloop : S.Sound i (q.foldl
        (fun k d => k.txEther (.datagram d) sha k.unicastMac 0x0800) k₁) := by
      clear hq
      induction q generalizing k₁ with
      | nil => exact hnoted
      | cons d q ih =>
        obtain ⟨⟨b, rfl, hb, hlen, hhop⟩, hrest⟩ := List.forall_mem_cons.1 hfor
        refine ih _ (hnoted.txEther ?_) hrest
        rw [hnoted.mac]
        refine .whole b sha hb hlen fun ip hip => ?_
        obtain rfl := Option.some.inj (hhop.symm.trans hip)
        exact hright
    refine hloop.setQueue ?_
    rintro q' ⟨⟩
  · exact hnoted

/-- The two copies of the routing decision agree. -/
theorem route (h : S.Sound i k) (dst : Nat) :
    (S.nextHop i dst = none ∧ (Ip.route k dst).2 ≠ none) ∨
      (S.nextHop i dst = some (Ip.route k dst).1 ∧
          (Ip.route k dst).2 = k.arpCache (Ip.route k dst).1) := by
  unfold nextHop Ip.route
  rw [h.network, h.mask, h.router]
  by_cases hbroad : IsBroadcast dst
  · rw [if_pos hbroad, if_pos hbroad]
    exact .inl ⟨rfl, Option.some_ne_none _⟩
  · rw [if_neg hbroad, if_neg hbroad]
    by_cases hsubnet : IsInSubnet dst (S.network i) (S.mask i)
    · rw [if_pos hsubnet, if_pos hsubnet]
      exact .inr ⟨rfl, rfl⟩
    · rw [if_neg hsubnet, if_neg hsubnet]
      exact .inr ⟨rfl, rfl⟩

/-- `tx_ip`, called with the address of the station. -/
theorem txIp (h : S.Sound i k) (payload : Payload) (dst ttl protocol : Nat) (options : List IPOpt)
    (id fragId turns : Nat) :
    S.Sound i (Ip.txIp k payload (S.addr i) dst ttl protocol options id fragId turns).1 := by
  rcases txIp_cases k payload (S.addr i) dst ttl protocol options id fragId turns with
    hcore | ⟨b, hnew, hlen, hcore⟩
  · rw [hcore]
    exact h
  · have hb := IPBuilder.unfragmented_of_new hnew
    have hdst : b.dst = dst := IPBuilder.dst_of_new hnew
    rw [hcore]
    unfold txDatagram
    rcases h.route dst with ⟨hhop, hmac⟩ | ⟨hhop, hmac⟩
    · obtain ⟨mac, hmac⟩ := Option.ne_none_iff_exists'.1 hmac
      rw [hmac]
      dsimp only
      refine h.txEther ?_
      rw [h.mac]
      refine .whole b mac hb hlen fun ip hip => ?_
      rw [hdst, hhop] at hip
      cases hip
    · rw [hmac]
      split
      · next mac hcache =>
        refine h.txEther ?_
        rw [h.mac]
        refine .whole b mac hb hlen fun ip hip => ?_
        rw [hdst, hhop] at hip
        obtain rfl := Option.some.inj hip
        exact h.cache _ mac hcache
      · exact h.hUnresolvedMacDatagrams ⟨b, rfl, hb, hlen, hdst ▸ hhop⟩

/-- `rx_arp`, on what another station has sent. -/
theorem rxArp (h : S.Sound i k) {ether : EtherParser} {arp : ARPParser} {j : ι}
    (hsrc : ether.src = S.mac j) (hsha : arp.sha = S.mac j)
    (hspa : arp.spa = 0 ∨ arp.spa = S.addr j) :
    S.Sound i (k.rxArp ether arp.frame).1 := by
  unfold Core.rxArp
  dsimp only
  split
  · exact h
  · split
    · refine h.acceptReply ?_
      have hright := S.right_of_honest hspa
      rwa [← hsha] at hright
    · split
      · exact h.congr rfl rfl rfl rfl rfl rfl rfl rfl
      · split
        · next unicastIp hip =>
          split
          · unfold Core.answerRequest
            rw [Core.txArp_reply, hsrc]
            have hown : unicastIp = S.addr i := by
              rcases h.unicastIp with hnone | hsome
              · rw [hip] at hnone
                cases hnone
              · exact Option.some.inj (hip.symm.trans hsome)
            refine (h.txEther ?_).updateArpCache (S.right_of_honest hspa)
            rw [h.mac, hown]
            exact .arp _ _ rfl (.inr rfl)
          · exact h
        · exact h

/-- The callbacks of the timers. -/
theorem call (h : S.Sound i k) (call : ArpCall) : S.Sound i (k.call call).1 := by
  cases call with
  | waitRemove ip =>
    simp only [Core.call, Core.arpWaitRemove]
    split
    · exact h.congr rfl rfl rfl rfl rfl rfl rfl rfl
    · exact h
  | probeDone ip =>
    simp only [Core.call, Core.probeDone]
    split
    · exact h.congr rfl rfl rfl rfl rfl rfl rfl rfl
    · exact h
  | flushEntry ip => exact h.flushEntry ip

end Sound

/-! ## One station -/

/-- What a station is to be. Nothing waits in its reassembly. -/
structure Station (i : ι) (h : Host) : Prop where
  core : S.Sound i h.core
  addr : h.addr = S.addr i
  raw : h.RawMapped
  timer : h.reass.timer = .new

/-- The events of a station other than a frame: its sockets send from its own address, and its raw
sockets are for protocols that `ip_protocol_map` has. -/
def Own (i : ι) : HostEvent → Prop
  | .frame _ _ => False
  | .txIp _ src _ _ _ _ _ => src = S.addr i
  | .rip id queue => queue ≠ none → Mapped id.protocol
  | _ => True

namespace Station

variable {S} {i : ι} {h h' : Host}

theorem answers (hs : S.Station i h) (ha : h.Answers (S.addr i) h') : S.Station i h' := by
  have hraw : h'.RawMapped := fun id hid => hs.raw id fun hnone => hid (ha.rip id hnone)
  have htimer : h'.reass.timer = .new := by
    rw [ha.reass]
    exact hs.timer
  rcases ha.startup with hsame | ⟨payload, dst, protocol, x, -, hsent⟩
  · refine ⟨?_, ?_, hraw, htimer⟩ <;> rw [hsame]
    · exact hs.core
    · exact hs.addr
  · refine ⟨?_, ?_, hraw, htimer⟩ <;> rw [hsent]
    · exact hs.core.txIp ..
    · exact hs.addr

theorem notify (hs : S.Station i h) : S.Station i { h with toStartup := h.toStartup.notify } := by
  unfold Startup.notify
  split
  · exact ⟨hs.core, hs.addr, hs.raw, hs.timer⟩
  · exact hs

/-- **A frame of a station** leaves the receiver as it is to be, whoever it was for. -/
theorem frame (hs : S.Station i h) {j : ι} {f : Frame Datagram} {bs body : List UInt8}
    (hf : S.Honest j f) (hw : f.Written bs body) (x : Picks) : S.Station i
    (h.step (.frame bs x)) := by
  have hether := hw.ether
  have hreceived : S.Station i (h.handlePacket bs x).1 := by
    unfold Host.handlePacket
    rw [if_neg (Nat.not_lt.2 hw.length), hether.type]
    cases hf with
    | arp b dst hsha hspa =>
      rw [if_pos rfl]
      obtain ⟨-, hread⟩ := hw.arp rfl
      have hcore :=
        @Sound.rxArp ι S i h.core hs.core ⟨bs⟩ ⟨bs.drop 14⟩ j hether.src (hread.sha.trans hsha)
        (hread.spa.symm ▸ hspa)
      have hmoved : S.Station i { h with core := (h.core.rxArp ⟨bs⟩ (bs.drop 14)).1 } :=
        ⟨hcore, hs.addr, hs.raw, hs.timer⟩
      unfold Host.rxArp
      dsimp only
      split
      · exact hmoved.notify
      · exact hmoved
    | whole b dst hb hlen hdst =>
      rw [if_neg (by decide : ¬ (0x0800 = 0x0806))]
      split
      · exact hs.answers (Host.answers_rxIp hs.raw hs.core.unicastIp (hw.not_fragment rfl hb _))
      · exact hs
  simp only [Host.step]
  split
  · exact ⟨hreceived.core, hreceived.addr, hreceived.raw, hreceived.timer⟩
  · exact hs

/-- The starting thread takes the configured address. -/
theorem resume (hs : S.Station i h) : S.Station i (h.step .resume) := by
  simp only [Host.step, Startup.step]
  split
  · unfold Startup.acquire
    split
    · exact ⟨hs.core, hs.addr, hs.raw, hs.timer⟩
    · have hcore := hs.core
      refine ⟨⟨hcore.mac, hcore.network, hcore.mask, hcore.router, .inr ?_,
        hcore.cache, hcore.queue, hcore.ring⟩, hs.addr, hs.raw, hs.timer⟩
      exact congrArg some hs.addr
  · exact hs

theorem timerStep (hs : S.Station i h) (n : Nat) : S.Station i (h.step (.timer n)) := by
  simp only [Host.step, Startup.step]
  split
  · next task timer _ =>
    have htimer : S.Sound i { h.core with timer := timer } :=
      hs.core.congr rfl rfl rfl rfl rfl rfl rfl rfl
    split
    · exact ⟨htimer, hs.addr, hs.raw, hs.timer⟩
    · have hcalled : S.Station i { h with
          core := ({ h.core with timer := timer }.call task.call).1
          timerRuns := ({ h.core with timer := timer }.call task.call).2.isOk } :=
        ⟨htimer.call _, hs.addr, hs.raw, hs.timer⟩
      split
      · exact hcalled.notify
      · exact hcalled
  · exact hs

/-- Every other event of a station. -/
theorem own (hs : S.Station i h) {e : HostEvent} (he : S.Own i e) : S.Station i (h.step e) := by
  cases e with
  | frame bytes x => exact absurd he id
  | resume => exact hs.resume
  | timer n => exact hs.timerStep n
  | reassTimer n x =>
    have hnone : h.reass.timer.popDue h.reass.nowMs n = none := by
      rw [hs.timer]
      rfl
    simp only [Host.step, hnone, ite_self]
    exact hs
  | elapse ms => exact ⟨hs.core.congr rfl rfl rfl rfl rfl rfl rfl rfl, hs.addr, hs.raw, hs.timer⟩
  | txIp payload src dst ttl protocol options x =>
    obtain rfl : src = S.addr i := he
    exact ⟨hs.core.txIp .., hs.addr, hs.raw, hs.timer⟩
  | udp id queue => exact ⟨hs.core, hs.addr, hs.raw, hs.timer⟩
  | rip id queue =>
    refine ⟨hs.core, hs.addr, fun id' hid => ?_, hs.timer⟩
    by_cases hsame : id' = id
    · subst hsame
      refine he fun hnone => hid ?_
      simp only [Host.step, Function.update_self, hnone]
    · refine hs.raw id' fun hnone => hid ?_
      simp only [Host.step, Function.update_of_ne hsame, hnone]
  | tcp table events => exact ⟨hs.core, hs.addr, hs.raw, hs.timer⟩

end Station

/-- A station as it starts. -/
def start (i : ι) (nowMs : Int) (ipaddr : String) : Host :=
  Host.start (S.mac i) (S.network i) (S.mask i) (S.router i) nowMs ipaddr (S.addr i)

theorem start_station (i : ι) (nowMs : Int) (ipaddr : String) :
    S.Station i (S.start i nowMs ipaddr) where
  core := by
    have hinit : S.Sound i (Core.init (S.mac i) (S.network i) (S.mask i) (S.router i) nowMs) := by
      refine ⟨rfl, rfl, rfl, rfl, .inl rfl, ?_, ?_, ?_⟩
      · rintro ip mac ⟨⟩
      · rintro ip q ⟨⟩
      · rintro f ⟨⟩
    have hprobe :
      S.Sound i ((Core.init (S.mac i) (S.network i) (S.mask i) (S.router i) nowMs).arpProbeAdd
        (S.addr i)) := by
      unfold Core.arpProbeAdd
      split
      · exact hinit
      · exact hinit.congr rfl rfl rfl rfl rfl rfl rfl rfl
    exact hprobe.txEther (.arp _ _ rfl (.inl rfl))
  addr := rfl
  raw id hid := absurd rfl hid
  timer := rfl

end Stations

/-! ## The segment -/

/-- The stations, and all that was ever written to the wire. -/
structure Segment (ι : Type) where
  host : ι → Host
  wire : List (List UInt8)

/-- What can happen on a segment: an event of one host; the host `i` writes a frame of its TX ring;
the host `i` receives a frame that was written. -/
inductive SegmentEvent (ι : Type) where
  | host (i : ι) (e : HostEvent)
  | transmit (i : ι) (n : Nat)
  | receive (i : ι) (n : Nat) (x : Picks)

namespace Segment

section Inv

variable {ι : Type}

/-- The events of a host are its own. -/
def Admits (S : Stations ι) (_ : Segment ι) : SegmentEvent ι → Prop
  | .host i e => S.Own i e
  | .transmit _ _ => True
  | .receive _ _ _ => True

/-- The segment when the stations start. -/
def start (S : Stations ι) (nowMs : ι → Int) (ipaddr : ι → String) : Segment ι where
  host i := S.start i (nowMs i) (ipaddr i)
  wire := []

/-- Every station is as it is to be, and what was written are frames of the stations. -/
structure Inv (S : Stations ι) (s : Segment ι) : Prop where
  host : ∀ i, S.Station i (s.host i)
  wire : ∀ bs ∈ s.wire, ∃ i f body, S.Honest i f ∧ f.Written bs body

theorem inv_start (S : Stations ι) (nowMs : ι → Int) (ipaddr : ι → String) :
    (start S nowMs ipaddr).Inv S := by
  refine ⟨fun i => S.start_station i _ _, ?_⟩
  rintro bs ⟨⟩

/-- What can be relied on: an entry of a cache for the address of a station has its MAC; what was
written comes from the station whose MAC it has for its source; an ARP packet has the MAC of the
station whose address it has; and an IP packet goes to the station that has the address of its next
hop. -/
structure Safe (S : Stations ι) (s : Segment ι) : Prop where
  cache : ∀ i j mac, (s.host i).core.arpCache (S.addr j) = some mac → mac = S.mac j
  arp : ∀ bs ∈ s.wire, (EtherParser.mk bs).type = 0x0806 → ∀ j,
    (ARPParser.mk (bs.drop 14)).spa = S.addr j →
      (ARPParser.mk (bs.drop 14)).sha = S.mac j ∧ (EtherParser.mk bs).src = S.mac j
  ip : ∀ bs ∈ s.wire, (EtherParser.mk bs).type = 0x0800 → ∃ i, (EtherParser.mk bs).src = S.mac i ∧
    ∀ j, S.nextHop i (IPParser.mk (bs.drop 14)).dst = some (S.addr j) →
      (EtherParser.mk bs).dst = S.mac j

theorem Inv.safe {S : Stations ι} {s : Segment ι} (h : s.Inv S) : s.Safe S where
  cache i j mac hmac := (h.host i).core.cache _ mac hmac j rfl
  arp bs hmem htype j hspa := by
    obtain ⟨i, f, body, hf, hwritten⟩ := h.wire bs hmem
    have hether := hwritten.ether
    rw [hether.type] at htype
    rw [hether.src]
    cases hf with
    | arp b dst hsha hspa' =>
      obtain ⟨-, hread⟩ := hwritten.arp rfl
      rw [hread.spa] at hspa
      have hright := S.right_of_honest hspa' j hspa
      exact ⟨hread.sha.trans (hsha.trans hright), hright⟩
    | whole b dst hb hlen hdst => cases htype
  ip bs hmem htype := by
    obtain ⟨i, f, body, hf, hwritten⟩ := h.wire bs hmem
    have hether := hwritten.ether
    rw [hether.type] at htype
    rw [hether.src, hether.dst]
    cases hf with
    | arp b dst hsha hspa => cases htype
    | whole b dst hb hlen hdst =>
      rw [hwritten.dst_whole rfl hb]
      exact ⟨i, rfl, fun j hhop => hdst _ hhop j rfl⟩

end Inv

section Run

variable {ι : Type} [DecidableEq ι]

def step (s : Segment ι) : SegmentEvent ι → Segment ι
  | .host i e => { s with host := Function.update s.host i ((s.host i).step e) }
  | .transmit i n =>
    match (s.host i).core.txRing[n]?.map Frame.bytes with
    | some (.ok bs) => { s with wire := s.wire ++ [bs] }
    | _ => s
  | .receive i n x =>
    match s.wire[n]? with
    | some bs => { s with host := Function.update s.host i ((s.host i).step (.frame bs x)) }
    | none => s

variable {S : Stations ι} {s : Segment ι}

theorem Inv.update (h : s.Inv S) {i : ι} {h' : Host} (hi : S.Station i h') :
    ({ s with host := Function.update s.host i h' } : Segment ι).Inv S := by
  refine ⟨fun j => ?_, h.wire⟩
  by_cases hij : j = i
  · subst hij
    simp only [Function.update_self]
    exact hi
  · simp only [Function.update_of_ne hij]
    exact h.host j

/-- **One step of the segment.** -/
theorem Inv.step (h : s.Inv S) {e : SegmentEvent ι} (he : Admits S s e) : (s.step e).Inv S := by
  cases e with
  | host i e => exact h.update ((h.host i).own he)
  | transmit i n =>
    simp only [Segment.step]
    split
    · next bs hbytes =>
      obtain ⟨f, hf, hbytes⟩ := Option.map_eq_some_iff.1 hbytes
      obtain ⟨body, hwritten⟩ := Frame.bytes_ok hbytes
      refine ⟨h.host, fun bs' hmem => ?_⟩
      rcases List.mem_append.1 hmem with hmem | hmem
      · exact h.wire bs' hmem
      · obtain rfl := List.mem_singleton.1 hmem
        exact ⟨i, f, body, (h.host i).core.ring f (List.mem_of_getElem? hf), hwritten⟩
    · exact h
  | receive i n x =>
    simp only [Segment.step]
    split
    · next bs hbs =>
      obtain ⟨j, f, body, hf, hwritten⟩ := h.wire bs (List.mem_of_getElem? hbs)
      exact h.update ((h.host i).frame hf hwritten x)
    · exact h

theorem inv_run {nowMs : ι → Int} {ipaddr : ι → String} {es : List (SegmentEvent ι)}
    (hes : Guarded step (Admits S) (start S nowMs ipaddr) es) :
    (run step (start S nowMs ipaddr) es).Inv S :=
  run_inv (fun _ _ h he => h.step he) (inv_start S nowMs ipaddr) hes

/-- **No datagram goes to the wrong station**, in any run of the segment. -/
theorem segment_safe (S : Stations ι) (nowMs : ι → Int) (ipaddr : ι → String)
    (es : List (SegmentEvent ι)) (hes : Guarded step (Admits S) (start S nowMs ipaddr) es) :
    (run step (start S nowMs ipaddr) es).Safe S :=
  (inv_run hes).safe

end Run

/-- Two stations at 10.0.0.2 and 10.0.0.1. -/
def sampleStations : Stations Bool where
  mac i := if i then 0x0200000000FF else 0x020000000001
  addr i := if i then 0x0A000001 else 0x0A000002
  network _ := 0x0A000000
  mask _ := 0xFFFFFF00
  router _ := 0x0A0000FE
  distinct i j := by cases i <;> cases j <;> decide
  nonzero := by decide

/-- Both take their addresses, and the first sends a datagram to the second. -/
def sampleRun : List (SegmentEvent Bool) :=
  [.host false (.elapse 3000), .host false (.timer 0), .host false .resume,
    .host true (.elapse 3000), .host true (.timer 0), .host true .resume,
    .host false (.txIp (.udp ⟨80, 1234, [7]⟩) 0x0A000002 0x0A000001 64 IP_PROTO_UDP [] ⟨7, 8, 0⟩)]

def sampleStart : Segment Bool :=
  start sampleStations (fun _ => 0) fun i => if i then "10.0.0.1" else "10.0.0.2"

theorem sampleRun_admitted : Guarded step (Admits sampleStations) sampleStart sampleRun :=
  ⟨trivial, trivial, trivial, trivial, trivial, trivial, rfl, trivial⟩

/-- The request is received and answered, the answer is received, and the datagram is sent. -/
def sampleExchange : List (SegmentEvent Bool) :=
  [.transmit false 1, .receive true 0 ⟨1, 2, 0⟩, .transmit true 1, .receive false 1 ⟨3, 4, 0⟩,
    .transmit false 2]

theorem segment_safe_two :
    (run step sampleStart (sampleRun ++ sampleExchange)).Safe sampleStations := by
  refine segment_safe sampleStations _ _ _ ?_
  exact (guarded_append ..).2 ⟨sampleRun_admitted, trivial, trivial, trivial, trivial,
    trivial, trivial⟩

end Segment

end Tipy
