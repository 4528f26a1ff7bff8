import Tipy.Host.Exchange

/-!
# A datagram to a port without a socket

An empty datagram passes the test of `rx_udp`. If there is a socket for it, the socket is given it.
If there is none, the other host answers with an ICMP error, and the handler of such errors raises
whatever the error quotes: so a host that sends an empty datagram to a closed port of another one
loses its RX thread.
-/

namespace Tipy

open Components Arp Ip Wire Lib

/-! ## ICMP errors -/

namespace Wire

/-- An ICMP error with a code that fits its field. -/
structure ICMPBuilder.Error (b : ICMPBuilder) : Prop where
  type : b.type ∈ [DESTINATION_UNREACHABLE, TIME_EXCEEDED]
  code : b.code < 256

variable {b : ICMPBuilder}

theorem ICMPBuilder.Error.type_lt (h : b.Error) : b.type < 256 := by
  have ht := h.type
  simp only [List.mem_cons, DESTINATION_UNREACHABLE, TIME_EXCEEDED, List.not_mem_nil,
    or_false] at ht
  omega

/-- **An error** on a frame of zeros: the unused field is one of four bytes. -/
theorem ICMPBuilder.Error.build_zeros (h : b.Error) {n : Nat} (hn : b.len ≤ n) :
    b.build (zeros n) = .ok (b.message 0 0 (inetCsum (b.message 0 0 0 ++ zeros (n - b.len)) 0) ++
      zeros (n - b.len)) := by
  have hlen : b.len = b.data.length + 8 := rfl
  have hfits := structPack_eq_some [(.B, b.type), (.B, b.code), (.H, 0), (.I, 0)] (by
    simp only [List.forall_mem_cons, Fmt.bound]
    exact ⟨h.type_lt, h.code, by omega, by omega, by simp⟩)
  have hhead := structPackInto_zeros hfits (n := n) (by simp [Fmt.bytes]; omega)
  have hunused : be32 0 = be16 0 ++ be16 0 := rfl
  simp only [List.flatMap_cons, List.flatMap_nil, Fmt.bytes, List.append_nil, hunused] at hhead
  have hdata := sliceAssign_append ([UInt8.ofNat b.type] ++ ([UInt8.ofNat b.code] ++ (be16 0 ++
    (be16 0 ++ be16 0)))) (zeros (n - 8)) b.data (by simp; omega)
  have hcsum := writeCsum_append [UInt8.ofNat b.type, UInt8.ofNat b.code]
    (be16 0 ++ be16 0 ++ b.data ++ zeros (n - b.len)) 0
  have hrest : n - 8 - b.data.length = n - b.len := by omega
  simp only [drop_zeros, hrest] at hdata
  rw [ICMPBuilder.build, if_pos h.type]
  simp only [hhead, bind, Except.bind]
  simp only [List.length_append, List.length_cons, List.length_nil, length_be16] at hdata ⊢
  simp only [hdata]
  simpa [ICMPBuilder.message, List.append_assoc] using hcsum

/-- `ICMPParser` returns what the error was given, and the tests of `rx_icmp` pass. -/
structure ErrorReceived (b : ICMPBuilder) (q : ICMPParser) : Prop where
  length : 8 ≤ q.frame.length
  csum : rxIcmpCsum q.frame = 0
  type : q.type = b.type
  code : q.code = b.code
  data : q.data = b.data

theorem ICMPBuilder.Error.received (h : b.Error) {n c : Nat}
    (hc : c = inetCsum (b.message 0 0 0 ++ zeros n) 0) : ErrorReceived b ⟨b.message 0 0 c⟩ where
  length := by simp [ICMPBuilder.length_message, ICMPBuilder.len]
  csum := by
    refine inetCsum_written (n := n) (by simp) ?_
    simpa only [ICMPBuilder.message, zeros, List.append_assoc] using hc
  type := byteAt_of_drop rfl h.type_lt
  code := byteAt_of_drop rfl h.code
  data := rfl

end Wire

/-! ## What a host does with an empty datagram and with an error -/

namespace Host

variable {h : Host} {p : IPParser} {part : List UInt8} {x : Picks}

/-- The error of a closed port. -/
def portUnreach (p : IPParser) : ICMPBuilder :=
  ⟨DESTINATION_UNREACHABLE, 3, p.header ++ p.data.take 8, none, none⟩

theorem portUnreach_error (p : IPParser) : (portUnreach p).Error :=
  ⟨List.mem_cons_self, (by decide : 3 < 256)⟩

theorem portUnreach_len (hihl : p.ihl = 20) : (portUnreach p).len ≤ 1480 := by
  have hheader : p.header.length ≤ 20 := by
    rw [IPParser.header, hihl, slice, List.length_drop]
    exact (Nat.sub_le ..).trans (List.length_take_le ..)
  have hdata : (p.data.take 8).length ≤ 8 := List.length_take_le ..
  simp only [portUnreach, ICMPBuilder.len, List.length_append]
  omega

theorem portUnreach_fits (hihl : p.ihl = 20) : 20 + (Payload.icmp (portUnreach p)).len ≤ MTU := by
  have hlen := portUnreach_len hihl
  simp only [Payload.len, MTU]
  omega

theorem ipProtocolMap_udp : ipProtocolMap IP_PROTO_UDP = some rxUdp := rfl

/-- What `rx_udp` does with a datagram that passes its test. -/
theorem rxUdp_received (hp : 20 ≤ p.frame.length) {u : UDPBuilder} (hudp : UdpParsed u ⟨part⟩)
    (htest : rxUdpCsum p part = 0) :
    h.rxUdp p part x = match h.udp ⟨p.dst, u.dst, p.src, u.src⟩ with
      | some queue =>
        ({ h with
          udp := Function.update h.udp ⟨p.dst, u.dst, p.src, u.src⟩ (some (queue ++ [u.data])) },
            .returned)
      | none => h.txIcmp p.dst p.src (portUnreach p) x := by
  have hsrc : readSrc p = .ok p.src := if_pos (by omega)
  have hdst : readDst p = .ok p.dst := if_pos hp
  unfold Host.rxUdp
  rw [if_neg (Nat.not_lt.2 hudp.length), hdst, hsrc]
  simp only [reading]
  rw [if_neg (not_not.2 htest), hudp.src, hudp.dst, hudp.data]
  rfl

theorem len_empty {u : UDPBuilder} (hdata : u.data = []) : u.len = 8 := by
  rw [UDPBuilder.len, hdata]
  rfl

/-- An empty datagram passes the test. -/
theorem rxUdp_empty {u : UDPBuilder} (hu : u.InRange) (hdata : u.data = [])
    {id ttl src dst n c : Nat}
    (hc : c = inetCsum (u.datagram 0 ++ zeros n) (phdrSum src dst IP_PROTO_UDP u.len))
    (hip : IpReceived p id ttl IP_PROTO_UDP src dst (u.datagram c)) :
    h.rxUdp p (u.datagram c) x = match h.udp ⟨dst, u.dst, src, u.src⟩ with
      | some queue =>
        ({ h with udp := Function.update h.udp ⟨dst, u.dst, src, u.src⟩ (some (queue ++ [[]])) },
          .returned)
      | none => h.txIcmp dst src (portUnreach p) x := by
  have hp : 20 ≤ p.frame.length := by
    have hlength := hip.length
    omega
  have hlen : 20 + u.len ≤ MTU := by
    rw [len_empty hdata]
    decide
  have htest : rxUdpCsum p (u.datagram c) = 0 := by
    rw [rxUdpCsum, hip.src, hip.dst, hip.protocol]
    exact (UDPBuilder.datagram_test_iff hlen hc).2 hdata
  rw [rxUdp_received hp (hu.parsed c) htest, hip.src, hip.dst, hdata]

/-- **The handler of the error** raises. -/
theorem rxIcmp_portUnreach {b : ICMPBuilder} (hread : ErrorReceived b ⟨part⟩)
    (htype : b.type = DESTINATION_UNREACHABLE) (hcode : b.code = 3) :
    (h.rxIcmp p part x).2 ≠ .returned := by
  have hport : (ICMPParser.mk part).type = DESTINATION_UNREACHABLE ∧
      (ICMPParser.mk part).code = 3 :=
    ⟨hread.type.trans htype, hread.code.trans hcode⟩
  unfold Host.rxIcmp
  dsimp only
  rw [if_neg (Nat.not_lt.2 hread.length), if_neg (not_not.2 hread.csum), if_pos hport,
    hIcmpDestUnreachPort, quotedHeader]
  split
  · exact TxEnd.noConfusion
  · exact TxEnd.noConfusion

end Host

/-! ## From one station to the other -/

namespace Segment

variable {ι : Type} {S : Stations ι} {s : Segment ι} {i j : ι}

/-- `tx_udp` of one station to another. -/
def sendUdp (S : Stations ι) (i j : ι) (u : UDPBuilder) (ttl : Nat) (x : Picks) : SegmentEvent ι :=
  .host i (.txIp (.udp u) (S.addr i) (S.addr j) ttl IP_PROTO_UDP [] x)

/-- The socket of station `j` for the datagrams `u` of station `i`. -/
def udpSocket (S : Stations ι) (i j : ι) (u : UDPBuilder) : UdpId :=
  ⟨S.addr j, u.dst, S.addr i, u.src⟩

/-- What an empty datagram comes to. -/
inductive UdpSent (S : Stations ι) (i j : ι) (u : UDPBuilder) (s s' : Segment ι) : Prop where
  | given (queue : List (List UInt8)) (hsocket : (s.host j).udp (udpSocket S i j u) = some queue)
    (hgiven : (s'.host j).udp (udpSocket S i j u) = some (queue ++ [[]]))
  | unreachable (hsocket : (s.host j).udp (udpSocket S i j u) = none)
    (hraised : (s'.host i).rxRuns = false)

variable [DecidableEq ι]

/-- **The error** ends the RX thread of the station that it is for. -/
theorem Pair.portUnreach (h : Pair S i j s) (hrange : S.InRange) (hij : S.Link i j)
    (hji : S.Link j i) {p : IPParser} (hihl : p.ihl = 20) {x : Picks} (hx : x.id < 65536)
    (hout : S.Outgoing j i
    (.whole (IPBuilder.plain (.icmp (Host.portUnreach p)) x.id 64 IP_PROTO_ICMP
      (S.addr j) (S.addr i))) (s.host j).core) :
    ∃ es, (∀ e ∈ es, Carries x e) ∧ ((run Segment.step s es).host i).rxRuns = false := by
  have hroom := Host.portUnreach_len hihl
  have herror := Host.portUnreach_error p
  have hbuild := herror.build_zeros hroom
  generalize hc :
    inetCsum ((Host.portUnreach p).message 0 0 0 ++ zeros (1480 - (Host.portUnreach p).len)) 0 = c
    at hbuild
  have hway :
    OnItsWay S j i s (.icmp (Host.portUnreach p)) ((Host.portUnreach p).message 0 0 c) x.id 64
      IP_PROTO_ICMP Host.rxIcmp :=
    ⟨hx, by decide, by decide, by decide, Host.portUnreach_fits hihl, rfl,
      ICMPBuilder.length_message c, hbuild,
      hout⟩
  obtain ⟨es, s₀, p', hes, -, harrived⟩ := h.symm.delivered hrange hji hij hway x
  refine ⟨es, hes, ?_⟩
  rw [harrived.handled]
  exact decide_eq_false (Host.rxIcmp_portUnreach (herror.received hc.symm) rfl rfl)

theorem Pair.udp (h : Pair S i j s) (hrange : S.InRange) (hij : S.Link i j) (hji : S.Link j i)
    {u : UDPBuilder} (hsport : u.src < 65536) (hdport : u.dst < 65536) (hdata : u.data = [])
    {ttl : Nat} (hpos : 0 < ttl)
    (httl : ttl < 256) {x : Picks} (hx : x.id < 65536) :
    ∃ es, (∀ e ∈ es, Carries x e) ∧
        UdpSent S i j u s (run Segment.step s (sendUdp S i j u ttl x :: es)) := by
  have hulen := Host.len_empty hdata
  have hlen : 20 + u.len ≤ MTU := by
    rw [hulen]
    decide
  have hu : u.InRange := ⟨hsport, hdport, by omega⟩
  have hbuild := UDPBuilder.build_zeros hu (by omega : u.len ≤ 1480)
    (phdrSum (S.addr i) (S.addr j) IP_PROTO_UDP u.len)
  generalize hc : inetCsum (u.datagram 0 ++ zeros (1480 - u.len))
    (phdrSum (S.addr i) (S.addr j) IP_PROTO_UDP u.len) = c at hbuild
  obtain ⟨hpair, -, htarget, hout⟩ := h.sent hij (.udp u) hlen ttl IP_PROTO_UDP x rfl
  have hway : OnItsWay S i j _ (.udp u) (u.datagram c) x.id ttl IP_PROTO_UDP Host.rxUdp :=
    ⟨hx, hpos, httl, by decide, hlen, Host.ipProtocolMap_udp,
      UDPBuilder.length_datagram c, hbuild, hout⟩
  simp only [run_cons, sendUdp]
  generalize s.step (.host i (.txIp (.udp u) (S.addr i) (S.addr j) ttl IP_PROTO_UDP [] x)) = s₁ at *
  cases hsocket : (s.host j).udp (udpSocket S i j u) with
  | some queue =>
    have hsocket₁ : (s₁.host j).udp ⟨S.addr j, u.dst, S.addr i, u.src⟩ = some queue := by
      rw [htarget]
      exact hsocket
    obtain ⟨es, hes, -, hgiven⟩ := hpair.taken hrange hij hji hway
      (Q := fun h' => h'.udp (udpSocket S i j u) = some (queue ++ [[]])) x fun k p hip => by
        rw [Host.rxUdp_empty hu hdata hc.symm hip]
        simp only [hsocket₁]
        exact ⟨_, rfl, rfl, Function.update_self ..⟩
    exact ⟨es, hes, .given queue hsocket hgiven⟩
  | none =>
    have hsocket₁ : (s₁.host j).udp ⟨S.addr j, u.dst, S.addr i, u.src⟩ = none := by
      rw [htarget]
      exact hsocket
    obtain ⟨es₁, p, hes₁, hip, hpair₁, -, hout₁⟩ := hpair.answered hrange hij hji hway
      (fun p => .icmp (Host.portUnreach p)) (fun p hip => Host.portUnreach_fits hip.ihl) x
          fun k p hip => by
        rw [Host.rxUdp_empty hu hdata hc.symm hip]
        simp only [hsocket₁]
        rfl
    obtain ⟨es₂, hes₂, hraised⟩ := hpair₁.portUnreach hrange hij hji hip.ihl hx hout₁
    refine ⟨es₁ ++ es₂, fun e he => (List.mem_append.1 he).elim (hes₁ e) (hes₂ e),
      .unreachable hsocket ?_⟩
    rw [run_append]
    exact hraised

/-- **An empty datagram is given to its socket, or ends the RX thread of its sender.** From every
state that is reached in which the two stations have their addresses and nothing is left waiting,
the frames of the segment can be carried such that it comes to this. -/
theorem udp_sent (S : Stations ι) (hrange : S.InRange) (nowMs : ι → Int) (ipaddr : ι → String)
    (es : List (SegmentEvent ι)) (hes : Guarded step (Admits S) (start S nowMs ipaddr) es)
    (s : Segment ι) (hs : s = run step (start S nowMs ipaddr) es) (i j : ι) (hij : S.Link i j)
    (hji : S.Link j i)
    (hi : S.Up i (s.host i)) (hj : S.Up j (s.host j))
    (hopen : Stations.Open (S.addr j) (s.host i).core)
    (hopen' : Stations.Open (S.addr i) (s.host j).core) (u : UDPBuilder) (hsport : u.src < 65536)
    (hdport : u.dst < 65536) (hdata : u.data = []) (ttl : Nat) (hpos : 0 < ttl)
    (httl : ttl < 256) (x : Picks) (hx : x.id < 65536) :
    ∃ es', (∀ e ∈ es', Carries x e) ∧
        UdpSent S i j u s (run step s (sendUdp S i j u ttl x :: es')) := by
  subst hs
  have hpair : Pair S i j (run step (start S nowMs ipaddr) es) :=
    ⟨inv_run hes, hi, hj, hopen, hopen'⟩
  exact hpair.udp hrange hij hji hsport hdport hdata hpos httl hx

theorem udp_sent_two : ∃ es', (∀ e ∈ es', Carries ⟨7, 8, 0⟩ e) ∧
    UdpSent sampleStations false true ⟨80, 1234, []⟩ (run step sampleStart sampleRun)
      (run step (run step sampleStart sampleRun)
        (sendUdp sampleStations false true ⟨80, 1234, []⟩ 64 ⟨7, 8, 0⟩ :: es')) :=
  udp_sent sampleStations sampleStations_inRange _ _ sampleRun sampleRun_admitted _ rfl false true
    ⟨by decide, by decide, by decide⟩ ⟨by decide, by decide, by decide⟩
    ⟨by decide +kernel, by decide +kernel, by decide +kernel⟩
    ⟨by decide +kernel, by decide +kernel, by decide +kernel⟩ (fun _ _ => by decide +kernel)
    (fun _ hne => absurd (by decide +kernel) hne) ⟨80, 1234,
      []⟩ (by decide) (by decide) rfl 64 (by decide)
    (by decide) ⟨7, 8, 0⟩ (by decide)

end Segment

end Tipy
