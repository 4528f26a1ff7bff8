import Tipy.Host.Resolution

/-!
# A packet and its answer

What one station sends to another on the segment gets there, if the frames are carried: at once, or
after a resolution; and what the other one answers gets back. `Inv.delivered` and `Inv.answered` say
this for whatever the handler of the protocol does with a packet.
-/

namespace Tipy

open Components Arp Ip Wire Lib

/-- A host that has its address and receives IPv4 packets. -/
structure Stations.Up {ι : Type} (S : Stations ι) (i : ι) (h : Host) : Prop where
  rxRuns : h.rxRuns = true
  ipHandler : h.ipHandler = true
  unicastIp : h.core.unicastIp = some (S.addr i)

/-- A whole packet for this host goes to the handler of its protocol, and an exception ends the
thread. -/
theorem Host.step_whole {h : Host} {bs part : List UInt8}
    {id ttl protocol src dst : Nat} {x : Picks} (hruns : h.rxRuns = true)
    (hhandler : h.ipHandler = true) (hip : h.core.unicastIp = some dst)
    (hlen : 14 ≤ bs.length) (htype : (EtherParser.mk bs).type = 0x0800)
    (hread : IpReceived ⟨bs.drop 14⟩ id ttl protocol src dst part) (hacc : Accepted dst src dst ttl)
    {nextLayer : Host → IPParser → List UInt8 → Picks → Host × TxEnd}
    (hmap : ipProtocolMap protocol = some nextLayer) :
    h.step (.frame bs x) = { (nextLayer h ⟨bs.drop 14⟩ part x).1 with
      rxRuns := decide ((nextLayer h ⟨bs.drop 14⟩ part x).2 = .returned) } := by
  have hhandle : h.handlePacket bs x = nextLayer h ⟨bs.drop 14⟩ part x := by
    unfold Host.handlePacket
    rw [if_neg (Nat.not_lt.2 hlen), htype, if_neg (by decide), if_pos ⟨rfl, hhandler⟩]
    unfold Host.rxIp
    simp only [hip, hread.rxIp_whole_iff.2 ⟨rfl, hacc⟩, hread.protocol, hmap]
  unfold Host.step
  dsimp only
  rw [if_pos hruns, hhandle]

/-! ## What is sent on the segment -/

namespace Stations

variable {ι : Type} {S : Stations ι} {i j : ι}

/-- Nothing is left waiting for an address whose wait timer has expired. -/
def Open (ip : Nat) (k : Core Datagram) : Prop :=
  k.arpCache ip = none → k.pendingQueue ip ≠ none → ip ∈ k.arpWaitList

/-- The frame of a datagram of station `i` for station `j`. -/
def frameTo (S : Stations ι) (i j : ι) (d : Datagram) : Frame Datagram :=
  ⟨.datagram d, S.mac j, S.mac i, 0x0800⟩

/-- A datagram on its way from station `i` to station `j`: it is on the TX ring, or waits for a
reply. -/
def Outgoing (S : Stations ι) (i j : ι) (d : Datagram) (k : Core Datagram) : Prop :=
  S.frameTo i j d ∈ k.txRing ∨
    ∃ q, k.pendingQueue (S.addr j) = some q ∧ d ∈ q ∧ S.addr j ∈ k.arpWaitList

/-- What `tx_ip` does with a packet for a station of the subnet. -/
theorem Sound.txIp_outgoing {k : Core Datagram} (hs : S.Sound i k) (hopen : Open (S.addr j) k)
    (hlink : S.nextHop i (S.addr j) = some (S.addr j)) {payload : Payload}
    (hlen : 20 + payload.len ≤ MTU) (ttl protocol : Nat) (x : Picks) :
    ∃ k', Ip.txIp k payload (S.addr i) (S.addr j) ttl protocol [] x.id x.fragId x.turns =
      (k', .returned) ∧
      S.Outgoing i j (.whole (IPBuilder.plain payload x.id ttl protocol (S.addr i) (S.addr j))) k' ∧
      Open (S.addr j) k' := by
  refine ⟨_, txIp_short (IPBuilder.new_nil ..) (by rwa [IPBuilder.len_plain]) _ _, ?_⟩
  generalize hd :
    Datagram.whole (IPBuilder.plain payload x.id ttl protocol (S.addr i) (S.addr j)) = d
  unfold txDatagram
  rcases hs.route (S.addr j) with ⟨hnone, -⟩ | ⟨hhop, hmac⟩
  · rw [hlink] at hnone
    cases hnone
  · have htpa : (Ip.route k (S.addr j)).1 = S.addr j :=
      (Option.some.inj (hlink.symm.trans hhop)).symm
    rw [hmac, htpa]
    split
    · next mac hcache =>
      obtain rfl := hs.cache _ mac hcache j rfl
      refine ⟨.inl ?_, hopen⟩
      rw [hs.mac]
      exact List.mem_append_right _ (List.mem_singleton_self _)
    · next hcache =>
      -- the datagram waits, and a reply is waited for
      suffices hwaits :
        ∃ q, (k.hUnresolvedMacDatagrams (S.addr i) (S.addr j) d).pendingQueue (S.addr j) =
          some q ∧ d ∈ q ∧
              S.addr j ∈ (k.hUnresolvedMacDatagrams (S.addr i) (S.addr j) d).arpWaitList by
        obtain ⟨q, hq, hmem, hwait⟩ := hwaits
        exact ⟨.inr ⟨q, hq, hmem, hwait⟩, fun _ _ => hwait⟩
      unfold Core.hUnresolvedMacDatagrams
      split
      · next henqueued =>
        obtain ⟨q, hq⟩ := Option.isSome_iff_exists.1 henqueued
        have hwait := hopen hcache (by rw [hq]; exact Option.some_ne_none _)
        refine ⟨q ++ [d], ?_, List.mem_append_right _ (List.mem_singleton_self _), ?_⟩
        · simp [Core.enqueue, hq, Core.setQueue]
        · simpa [Core.enqueue, hq, Core.setQueue] using hwait
      · next henqueued =>
        have hq : k.pendingQueue (S.addr j) = none := by
          simpa [Core.isEnqueued] using henqueued
        refine ⟨[d], ?_, List.mem_singleton_self _, ?_⟩
        · simp [Core.txArp_request, Core.enqueue, Core.txEther, hq, Core.setQueue]
        · simp [Core.txArp_request, Core.enqueue, Core.txEther, hq, Core.setQueue]

end Stations

namespace Segment

variable {ι : Type}

/-- The events of the wire; `x` is what is picked if a frame is answered. -/
def Carries (x : Picks) : SegmentEvent ι → Prop
  | .host _ _ => False
  | .transmit _ _ => True
  | .receive _ _ x' => x' = x

/-- Two stations are as before but for their cores, and a datagram of the first for the second is on
the TX ring. -/
structure Ready (S : Stations ι) (i j : ι) (d : Datagram) (s s' : Segment ι) : Prop where
  sent : S.frameTo i j d ∈ (s'.host i).core.txRing
  sender : s'.host i = { s.host i with core := (s'.host i).core }
  target : s'.host j = { s.host j with core := (s'.host j).core }
  unicastIp : ∀ l, (s'.host l).core.unicastIp = (s.host l).core.unicastIp
  fore : Stations.Open (S.addr j) (s.host i).core → Stations.Open (S.addr j) (s'.host i).core
  back : Stations.Open (S.addr i) (s.host j).core → Stations.Open (S.addr i) (s'.host j).core

section Ready

variable {S : Stations ι} {s s' : Segment ι} {i j : ι} {d : Datagram}

theorem Ready.up_sender (hr : Ready S i j d s s') (h : S.Up i (s.host i)) : S.Up i (s'.host i) := by
  refine ⟨?_, ?_, (hr.unicastIp i).trans h.unicastIp⟩
  · rw [hr.sender]
    exact h.rxRuns
  · rw [hr.sender]
    exact h.ipHandler

theorem Ready.up_target (hr : Ready S i j d s s') (h : S.Up j (s.host j)) : S.Up j (s'.host j) := by
  refine ⟨?_, ?_, (hr.unicastIp j).trans h.unicastIp⟩
  · rw [hr.target]
    exact h.rxRuns
  · rw [hr.target]
    exact h.ipHandler

end Ready

section Hop

variable [DecidableEq ι] {S : Stations ι} {s s' : Segment ι} {i j : ι}

theorem Inv.carried (h : s.Inv S) {x : Picks} {es : List (SegmentEvent ι)}
    (hes : ∀ e ∈ es, Carries x e) :
    (run Segment.step s es).Inv S := by
  refine run_inv (fun s e h he => h.step ?_) h (guarded_of_forall_mem hes s)
  cases e with
  | host i e => exact absurd he id
  | transmit i n => trivial
  | receive i n x' => trivial

/-- A datagram that is on its way gets to the TX ring, after a resolution if there has to be one. -/
theorem Inv.ready (h : s.Inv S) (hrange : S.InRange) (hij : i ≠ j) (hi : S.Up i (s.host i))
    (hj : S.Up j (s.host j)) {d : Datagram} (hout : S.Outgoing i j d (s.host i).core) (x : Picks) :
    ∃ es, (∀ e ∈ es, Carries x e) ∧ Ready S i j d s (run Segment.step s es) := by
  rcases hout with hsent | ⟨q, hq, hd, hwait⟩
  · refine ⟨[], fun e he => absurd he List.not_mem_nil, hsent, rfl, rfl, fun _ => rfl, id, id⟩
  · obtain ⟨n, m, hres⟩ := h.exchange hrange hij hq hwait hi.rxRuns hj.rxRuns hj.unicastIp x x
    refine ⟨_, ?_, ?_, hres.asker, hres.asked, hres.unicastIp, ?_, ?_⟩
    · simp [Segment.exchange, Carries]
    · rw [hres.sent]
      exact List.mem_append_right _ (List.mem_map_of_mem hd)
    · intro _ hnone
      rw [hres.known] at hnone
      cases hnone
    · intro _ hnone
      rw [hres.back] at hnone
      cases hnone

/-- A frame of a TX ring is written and received. -/
theorem carry {f : Frame Datagram} {bs : List UInt8} (hf : f ∈ (s.host i).core.txRing)
    (hbs : f.bytes = .ok bs) (x : Picks) : ∃ n, run Segment.step s
    [.transmit i n, .receive j s.wire.length x] =
      ⟨Function.update s.host j ((s.host j).step (.frame bs x)), s.wire ++ [bs]⟩ := by
  obtain ⟨n, hn⟩ := List.mem_iff_getElem?.1 hf
  refine ⟨n, ?_⟩
  have h₁ := step_transmit hn hbs
  have h₂ := step_receive (s := ⟨s.host, s.wire ++ [bs]⟩) (i := j) (n := s.wire.length)
    (by simp : (s.wire ++ [bs])[s.wire.length]? = some bs) x
  rw [run_cons, run_cons, run_nil, h₁, h₂]

/-- **A hop.** The datagram is received by the station it is for, in a state in which both stations
are as before but for their cores. -/
theorem Inv.hop (h : s.Inv S) (hrange : S.InRange) (hij : i ≠ j) (hi : S.Up i (s.host i))
    (hj : S.Up j (s.host j)) {d : Datagram} (hout : S.Outgoing i j d (s.host i).core)
    {bs : List UInt8} (hbs : (S.frameTo i j d).bytes = .ok bs) (x : Picks) :
    ∃ es s', (∀ e ∈ es, Carries x e) ∧ Ready S i j d s s' ∧ s'.Inv S ∧
      (run Segment.step s es).host = Function.update s'.host j
          ((s'.host j).step (.frame bs x)) := by
  obtain ⟨es, hes, hready⟩ := h.ready hrange hij hi hj hout x
  obtain ⟨n, hcarry⟩ := carry (j := j) hready.sent hbs x
  refine ⟨es ++ [.transmit i n, .receive j (run Segment.step s es).wire.length x],
    run Segment.step s es, ?_, hready, h.carried hes, ?_⟩
  · intro e he
    rcases List.mem_append.1 he with he | he
    · exact hes e he
    · rcases List.mem_pair.1 he with rfl | rfl
      · trivial
      · rfl
  · rw [run_append, hcarry]

end Hop

end Segment

/-! ## A packet -/

namespace Stations

variable {ι : Type} {S : Stations ι} {i j : ι}

/-- Station `i` reaches station `j` directly, by an address of its own. -/
structure Link (S : Stations ι) (i j : ι) : Prop where
  ne : i ≠ j
  hop : S.nextHop i (S.addr j) = some (S.addr j)
  not_multicast : ¬ IsMulticast (S.addr j)

theorem Link.not_broadcast (h : S.Link i j) : ¬ IsBroadcast (S.addr j) := by
  intro hbroad
  have hhop := h.hop
  rw [nextHop, if_pos hbroad] at hhop
  cases hhop

theorem Link.accepted (h : S.Link j i) {ttl : Nat} (httl : 0 < ttl) :
    Accepted (S.addr j) (S.addr i) (S.addr j) ttl :=
  ⟨rfl, h.not_broadcast, h.not_multicast, Nat.ne_of_gt httl⟩

/-- The frame of a packet whose payload is known. -/
theorem InRange.frameTo (hrange : S.InRange) (i j : ι) {payload : Payload} {part : List UInt8}
    {id ttl protocol : Nat} (hid : id < 65536) (httl : ttl < 256) (hprotocol : protocol < 256)
    (hlen : 20 + payload.len ≤ MTU) (hpart : part.length = payload.len)
    (hbuild : payload.build (zeros 1480)
    (IPBuilder.phsumOf protocol (S.addr i) (S.addr j) payload.len) =
      .ok (part ++ zeros (1480 - payload.len))) :
    ∃ bs, (S.frameTo i j
      (.whole (IPBuilder.plain payload id ttl protocol (S.addr i) (S.addr j)))).bytes =
        .ok bs ∧ 14 ≤ bs.length ∧ (EtherParser.mk bs).type = 0x0800 ∧
      IpReceived ⟨bs.drop 14⟩ id ttl protocol (S.addr i) (S.addr j) part := by
  have hfits : IPBuilder.Fits id ttl protocol (S.addr i) (S.addr j) payload.len :=
    ⟨hid, httl, hprotocol, hrange.addr i, hrange.addr j, by simp only [MTU] at hlen; omega⟩
  obtain ⟨bs, hbs, hether, hip⟩ := frame_of_part (b := ⟨_, S.mac j, S.mac i, 0x0800⟩) hfits
    (IPBuilder.new_nil ..) (hrange.mac j) (hrange.mac i) (by decide : 0x0800 < 65536) hpart hbuild
  refine ⟨bs, hbs, ?_, hether.type, hip⟩
  have hlength : (bs.drop 14).length = 20 + part.length := hip.length
  rw [List.length_drop] at hlength
  omega

end Stations

namespace Segment

variable {ι : Type} {S : Stations ι} {s : Segment ι} {i j : ι}

/-- Two stations that have their addresses and receive IPv4 packets, with nothing left waiting
between them. -/
structure Pair (S : Stations ι) (i j : ι) (s : Segment ι) : Prop where
  inv : s.Inv S
  up : S.Up i (s.host i)
  peer : S.Up j (s.host j)
  fore : Stations.Open (S.addr j) (s.host i).core
  back : Stations.Open (S.addr i) (s.host j).core

theorem Pair.symm (h : Pair S i j s) : Pair S j i s := ⟨h.inv, h.peer, h.up, h.back, h.fore⟩

variable [DecidableEq ι]

/-- A call of `tx_ip` for the other station. -/
theorem Pair.sent (h : Pair S i j s) (hij : S.Link i j) (payload : Payload)
    (hlen : 20 + payload.len ≤ MTU) (ttl protocol : Nat) (x : Picks) {s' : Segment ι}
    (hs' : s' = s.step (.host i (.txIp payload (S.addr i) (S.addr j) ttl protocol [] x))) :
    Pair S i j s' ∧ (∃ k, s'.host i = { s.host i with core := k }) ∧ s'.host j = s.host j ∧
      S.Outgoing i j (.whole (IPBuilder.plain payload x.id ttl protocol (S.addr i) (S.addr j)))
        (s'.host i).core := by
  obtain ⟨k, hsent, hout, hfore⟩ :=
    (h.inv.host i).core.txIp_outgoing h.fore hij.hop hlen ttl protocol x
  have hkeeps := Ip.txIp_unicastIp (s.host i).core payload (S.addr i) (S.addr j) ttl protocol
    [] x.id x.fragId
    x.turns
  rw [hsent] at hkeeps
  have hsender : s'.host i = { s.host i with core := k } := by
    rw [hs']
    simp only [Segment.step, Host.step, Function.update_self, hsent]
  have hpeer : s'.host j = s.host j := by
    rw [hs']
    exact Function.update_of_ne hij.ne.symm ..
  refine ⟨⟨?_, ?_, ?_, ?_, ?_⟩, ⟨k, hsender⟩, hpeer, ?_⟩
  · rw [hs']
    exact h.inv.step rfl
  · rw [hsender]
    exact ⟨h.up.rxRuns, h.up.ipHandler, hkeeps.trans h.up.unicastIp⟩
  · rw [hpeer]
    exact h.peer
  · rw [hsender]
    exact hfore
  · rw [hpeer]
    exact h.back
  · rw [hsender]
    exact hout

/-- What has become of the two stations when a packet of station `i` has been received by station
`j`: in the state `s₀` before only their cores may have changed, and `handled` is what the handler
of the protocol has made of the packet. -/
structure Arrived (S : Stations ι) (i j : ι) (s s₀ s' : Segment ι) (handled : Host × TxEnd) :
    Prop where
  pair : Pair S i j s₀
  inv : s'.Inv S
  sender : ∃ k, s₀.host i = { s.host i with core := k }
  target : ∃ k, s₀.host j = { s.host j with core := k }
  still : s'.host i = s₀.host i
  handled : s'.host j = { handled.1 with rxRuns := decide (handled.2 = .returned) }

section Packet

variable {part : List UInt8} {id ttl protocol : Nat}
  {nextLayer : Host → IPParser → List UInt8 → Picks → Host × TxEnd}

/-- A packet on its way from one station to the other, whose payload is `part` on the wire and goes
to `nextLayer`. -/
structure OnItsWay (S : Stations ι) (i j : ι) (s : Segment ι) (payload : Payload)
    (part : List UInt8) (id ttl protocol : Nat)
    (nextLayer : Host → IPParser → List UInt8 → Picks → Host × TxEnd) : Prop where
  id_lt : id < 65536
  ttl_pos : 0 < ttl
  ttl_lt : ttl < 256
  protocol_lt : protocol < 256
  fits : 20 + payload.len ≤ MTU
  handler : Host.ipProtocolMap protocol = some nextLayer
  length : part.length = payload.len
  built : payload.build (zeros 1480)
    (IPBuilder.phsumOf protocol (S.addr i) (S.addr j) payload.len) =
    .ok (part ++ zeros (1480 - payload.len))
  out : S.Outgoing i j (.whole (IPBuilder.plain payload id ttl protocol (S.addr i) (S.addr j)))
    (s.host i).core

/-- **A packet is delivered** to the handler of its protocol. -/
theorem Pair.delivered (h : Pair S i j s) (hrange : S.InRange) (hij : S.Link i j) (hji : S.Link j i)
    {payload : Payload} (hway : OnItsWay S i j s payload part id ttl protocol nextLayer)
    (x : Picks) :
    ∃ es s₀ p, (∀ e ∈ es, Carries x e) ∧ IpReceived p id ttl protocol (S.addr i) (S.addr j) part ∧
      Arrived S i j s s₀ (run Segment.step s es) (nextLayer (s₀.host j) p part x) := by
  obtain ⟨bs, hbs, hbsLen, htype, hip⟩ :=
    hrange.frameTo i j hway.id_lt hway.ttl_lt hway.protocol_lt hway.fits
    hway.length hway.built
  obtain ⟨es, s₀, hes, hready, hinv, hrun⟩ := h.inv.hop hrange hij.ne h.up h.peer hway.out hbs x
  have hup := hready.up_sender h.up
  have hpeer := hready.up_target h.peer
  refine ⟨es, s₀, _, hes, hip, ⟨hinv, hup, hpeer, hready.fore h.fore, hready.back h.back⟩,
    h.inv.carried hes, ⟨_, hready.sender⟩, ⟨_, hready.target⟩, ?_, ?_⟩
  · rw [hrun, Function.update_of_ne hij.ne]
  · rw [hrun, Function.update_self]
    exact Host.step_whole hpeer.rxRuns hpeer.ipHandler hpeer.unicastIp hbsLen htype hip
      (hji.accepted hway.ttl_pos) hway.handler

/-- **A packet is taken** by a handler that changes something else than the core. -/
theorem Pair.taken (h : Pair S i j s) (hrange : S.InRange) (hij : S.Link i j) (hji : S.Link j i)
    {payload : Payload} (hway : OnItsWay S i j s payload part id ttl protocol nextLayer)
    {Q : Host → Prop} (x : Picks)
    (hlayer : ∀ k p, IpReceived p id ttl protocol (S.addr i) (S.addr j) part →
      ∃ h', nextLayer { s.host j with core := k } p part x = (h', .returned) ∧
        h'.toStartup = { (s.host j).toStartup with core := k } ∧ Q h') :
    ∃ es, (∀ e ∈ es, Carries x e) ∧ Pair S i j (run Segment.step s es) ∧
        Q ((run Segment.step s es).host j) := by
  obtain ⟨es, s₀, p, hes, hip, harrived⟩ := h.delivered hrange hij hji hway x
  obtain ⟨k, htarget⟩ := harrived.target
  obtain ⟨h', hhandled, hstartup, hQ⟩ := hlayer k p hip
  have hruns : h'.rxRuns = true := by
    rw [hstartup]
    exact h.peer.rxRuns
  have hsame : (run Segment.step s es).host j = h' := by
    rw [harrived.handled, htarget, hhandled]
    simp only [decide_true, ← hruns]
  have hcore : h'.core = (s₀.host j).core := by
    rw [hstartup, htarget]
  refine ⟨es, hes, ⟨harrived.inv, ?_, ?_, ?_, ?_⟩, ?_⟩
  · rw [harrived.still]
    exact harrived.pair.up
  · rw [hsame]
    refine ⟨hruns, ?_, ?_⟩
    · rw [hstartup]
      exact h.peer.ipHandler
    · rw [hcore]
      exact harrived.pair.peer.unicastIp
  · rw [harrived.still]
    exact harrived.pair.fore
  · rw [hsame, hcore]
    exact harrived.pair.back
  · rw [hsame]
    exact hQ

/-- **A packet is answered**, if its handler sends an answer to the station that it came from. -/
theorem Pair.answered (h : Pair S i j s) (hrange : S.InRange) (hij : S.Link i j) (hji : S.Link j i)
    {payload : Payload} (hway : OnItsWay S i j s payload part id ttl protocol nextLayer)
    (answer : IPParser → Payload)
    (hanswer : ∀ p, IpReceived p id ttl protocol (S.addr i) (S.addr j) part →
    20 + (answer p).len ≤ MTU)
    {protocol' : Nat} (x : Picks)
    (hlayer : ∀ k p, IpReceived p id ttl protocol (S.addr i) (S.addr j) part →
      nextLayer { s.host j with core := k } p part x =
        Host.txIp { s.host j with core := k } (answer p) (S.addr j) (S.addr i) protocol' x) :
    ∃ es p, (∀ e ∈ es, Carries x e) ∧ IpReceived p id ttl protocol (S.addr i) (S.addr j) part ∧
      Pair S i j (run Segment.step s es) ∧
      (∃ k, (run Segment.step s es).host i = { s.host i with core := k }) ∧
      S.Outgoing j i (.whole (IPBuilder.plain (answer p) x.id 64 protocol' (S.addr j) (S.addr i)))
        ((run Segment.step s es).host j).core := by
  obtain ⟨es, s₀, p, hes, hip, harrived⟩ := h.delivered hrange hij hji hway x
  obtain ⟨k, htarget⟩ := harrived.target
  have hpair := harrived.pair
  obtain ⟨k', hsent, hout, hback⟩ :=
    (hpair.inv.host j).core.txIp_outgoing hpair.back hji.hop (hanswer p hip) 64
    protocol' x
  have hkeeps :=
    Ip.txIp_unicastIp (s₀.host j).core (answer p) (S.addr j) (S.addr i) 64 protocol' [] x.id
    x.fragId x.turns
  rw [hsent] at hkeeps
  have hsame : (run Segment.step s es).host j = { s₀.host j with core := k' } := by
    rw [harrived.handled, htarget, hlayer k p hip, ← htarget]
    simp only [Host.txIp, hsent, decide_true, ← hpair.peer.rxRuns]
  refine ⟨es, p, hes, hip, ⟨harrived.inv, ?_, ?_, ?_, ?_⟩, ?_, ?_⟩
  · rw [harrived.still]
    exact hpair.up
  · rw [hsame]
    exact ⟨hpair.peer.rxRuns, hpair.peer.ipHandler, hkeeps.trans hpair.peer.unicastIp⟩
  · rw [harrived.still]
    exact hpair.fore
  · rw [hsame]
    exact hback
  · rw [harrived.still]
    exact harrived.sender
  · rw [hsame]
    exact hout

end Packet

end Segment

end Tipy
