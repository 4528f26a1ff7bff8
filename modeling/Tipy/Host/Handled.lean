import Tipy.Host.Rx
import Tipy.Ip.ReassFaults

/-!
# Which frames the receive path handles

`handle_packet` returns on a frame exactly when the frame is `Handled` in the state it comes to
(`handlePacket_returned_iff`). It raises on all others: a reply to an ARP request whose queue is
gone; an ICMP message that a port or a protocol is unreachable; an echo request whose answer does
not fit the MTU; a packet the reassembly does not take, whether a fragment or what a raw socket has
been given; and one that completes a datagram with too few bytes for its header to be read, or with
an ICMP message as above in it.
-/

namespace Tipy

open Components Arp Ip Wire Lib

/-! ## The conditions -/

/-- An ICMP message the handlers get through: no port or protocol is unreachable, the answer to an
echo request fits the MTU, and the addresses can be read where they are needed. -/
def IcmpHandled (p : IPParser) (frame : List UInt8) : Prop :=
  8 ≤ frame.length → rxIcmpCsum frame = 0 →
    ¬ ((ICMPParser.mk frame).type = DESTINATION_UNREACHABLE ∧
      ((ICMPParser.mk frame).code = 3 ∨ (ICMPParser.mk frame).code = 2)) ∧
    ((ICMPParser.mk frame).type = ECHO_REQUEST ∧ (ICMPParser.mk frame).code = 0 →
      20 ≤ p.frame.length ∧ 20 + frame.length ≤ MTU) ∧
    ((ICMPParser.mk frame).type = ECHO_REPLY ∧ (ICMPParser.mk frame).code = 0 → 20 ≤ p.frame.length)

/-- A payload that the handler of its protocol gets through. -/
def LayerHandled (p : IPParser) (frame : List UInt8) : Prop :=
  (p.protocol = IP_PROTO_ICMP → IcmpHandled p frame) ∧
    (p.protocol = IP_PROTO_UDP → 8 ≤ frame.length → 20 ≤ p.frame.length)

/-- A protocol that has a handler. -/
def Mapped (protocol : Nat) : Prop := protocol ∈ [255, IP_PROTO_ICMP, IP_PROTO_UDP, IP_PROTO_TCP]

instance (protocol : Nat) : Decidable (Mapped protocol) := inferInstanceAs (Decidable (_ ∈ _))

/-- A protocol without an entry in the map has no handler that could raise. -/
theorem LayerHandled.of_not_mapped {p : IPParser} (hmap : ¬ Mapped p.protocol)
    (frame : List UInt8) :
    LayerHandled p frame := by
  constructor
  · intro hproto
    rw [hproto] at hmap
    exact absurd (by decide) hmap
  · intro hproto
    rw [hproto] at hmap
    exact absurd (by decide) hmap

/-- A reassembled datagram that is empty, or has the fields of its header that are read and a
payload its handler gets through. -/
def DatagramHandled (dgram : List UInt8) : Prop :=
  dgram ≠ [] → 10 ≤ dgram.length ∧
    LayerHandled ⟨dgram⟩ (slice dgram (IPParser.mk dgram).ihl (IPParser.mk dgram).totalLen) ∧
    (¬ Mapped (IPParser.mk dgram).protocol → 20 ≤ dgram.length)

/-- A packet that the reassembly takes, and that completes no datagram but one that is handled. -/
def ReassHandled (s : ReassState) (p : IPParser) : Prop :=
  (entryOf s p p.bufferId).Takes p ∧ ∀ dgram ∈ (entryOf s p p.bufferId).assembled p,
    DatagramHandled dgram

namespace Host

variable (h : Host)

/-- A packet that `rx_ip` gets through. -/
def IpHandled (p : IPParser) : Prop :=
  ∀ unicastIp ∈ h.core.unicastIp,
    match Wire.rxIp unicastIp p with
    | .dropped | .ttlExceeded => True
    | .whole payload =>
      LayerHandled p payload ∧ (¬ Mapped p.protocol → h.rip (ripId p) ≠ none →
        ReassHandled h.reass p)
    | .fragment => ReassHandled h.reass p

/-- A frame that `rx_arp` gets through: not a reply to a request of this host whose queue is gone.
-/
def ArpHandled (bytes : List UInt8) : Prop :=
  28 ≤ (bytes.drop 14).length → (ARPParser.mk (bytes.drop 14)).op = ARP_OP_REPLY →
    (EtherParser.mk bytes).dst = h.core.unicastMac →
    (ARPParser.mk (bytes.drop 14)).spa ∈ h.core.arpWaitList →
    h.core.pendingQueue (ARPParser.mk (bytes.drop 14)).spa ≠ none

/-- A frame that `handle_packet` gets through. -/
def Handled (bytes : List UInt8) : Prop :=
  14 ≤ bytes.length ∧ ((EtherParser.mk bytes).type = 0x0806 → h.ArpHandled bytes) ∧
    ((EtherParser.mk bytes).type = 0x0800 → h.ipHandler = true → h.IpHandled ⟨bytes.drop 14⟩)

end Host

/-! ## Lengths -/

theorem length_slice (frame : List UInt8) (lo hi : Nat) :
    (slice frame lo hi).length = min hi frame.length - lo := by
  rw [slice, List.length_drop, List.length_take]

theorem Ip.IPParser.ihl_le (p : IPParser) : p.ihl ≤ 60 := by
  have hand : byteAt p.frame 0 &&& 0xF ≤ 0xF := Nat.and_le_right
  rw [IPParser.ihl]
  omega

theorem Ip.IPParser.totalLen_le (p : IPParser) : p.totalLen ≤ 65535 := by
  have hlt := Tcp.u16At_lt p.frame 2
  rw [IPParser.totalLen]
  omega

/-- The payload of a packet, by the lengths in its header. -/
theorem length_payload (p : IPParser) : (slice p.frame p.ihl p.totalLen).length ≤ p.frame.length ∧
    (slice p.frame p.ihl p.totalLen).length ≤ 65535 := by
  have htotal := p.totalLen_le
  rw [length_slice]
  omega

/-- What `rx_ip` hands on comes from a packet that has a whole header. -/
theorem rxIp_eq_whole {unicastIp : Nat} {p : IPParser} {payload : List UInt8}
    (h : Wire.rxIp unicastIp p = .whole payload) :
    20 ≤ p.frame.length ∧ payload = slice p.frame p.ihl p.totalLen := by
  unfold Wire.rxIp at h
  split at h
  · cases h
  · next hlen =>
    split at h
    · cases h
    · split at h
      · cases h
      · split at h
        · cases h
        · split at h
          · cases h
          · split at h
            · cases h
              exact ⟨Nat.le_of_not_lt hlen, rfl⟩
            · cases h

namespace Host

variable (h : Host) {p : IPParser} {frame : List UInt8} (x : Picks)

/-! ## Answers and fields -/

/-- An answer is sent, or waits, exactly when it fits the MTU. -/
theorem txIp_returned_iff (payload : Payload) (src dst protocol : Nat) :
    (h.txIp payload src dst protocol x).2 = .returned ↔ 20 + payload.len ≤ MTU := by
  by_cases hlen : 20 + payload.len ≤ MTU
  · have hfit : (IPBuilder.plain payload x.id 64 protocol src dst).len ≤ MTU := hlen
    simp only [txIp, txIp_short (IPBuilder.new_nil ..) hfit, hlen]
  · obtain ⟨e, hraised⟩ := txIp_long (k := h.core)
      (IPBuilder.new_nil payload x.id 64 protocol src dst) (Nat.not_le.1 hlen) x.fragId x.turns
    simp only [txIp, hraised, hlen, reduceCtorEq]

/-- An ICMP error quotes so little that it always fits. -/
theorem icmpError_returned (p : IPParser) (type code : Nat) :
    (h.icmpError p type code x).2 = .returned := by
  refine (h.txIp_returned_iff x _ _ _ _).2 ?_
  have hihl := p.ihl_le
  have hheader : p.header.length ≤ 60 := by
    rw [IPParser.header, length_slice]
    omega
  simp only [Payload.len, ICMPBuilder.len, List.length_append, List.length_take, MTU]
  omega

/-- A field that is read has to be there, and the rest has to return. -/
theorem reading_returned_iff {α : Type} {stop : Nat} {e : PyError} {a : α}
    {next : α → Host × TxEnd} :
    (h.reading (field p stop e a) next).2 = .returned ↔
      stop ≤ p.frame.length ∧ (next a).2 = .returned := by
  by_cases hstop : stop ≤ p.frame.length
  · have hread : field p stop e a = .ok a := if_pos hstop
    simp only [hread, reading, hstop, true_and]
  · have hread : field p stop e a = .error e := if_neg hstop
    simp only [hread, reading, hstop, false_and, reduceCtorEq]

/-! ## The handlers of the protocols -/

/-- A handler that quotes the headers of an error never returns. -/
theorem quotedHeader_not_returned (errData : List UInt8) :
    (h.quotedHeader errData).2 ≠ .returned := by
  unfold quotedHeader
  split
  · rintro ⟨⟩
  · rintro ⟨⟩

/-- An echo request is answered with its own data. -/
theorem hIcmpEchoReq_returned_iff (hlen : 8 ≤ frame.length) :
    (h.hIcmpEchoReq p ⟨frame⟩ x).2 = .returned ↔ 20 ≤ p.frame.length ∧ 20 + frame.length ≤ MTU := by
  have hsize : (Payload.icmp ⟨ECHO_REPLY, 0, (ICMPParser.mk frame).data,
      some (ICMPParser.mk frame).echoId, some (ICMPParser.mk frame).echoSeq⟩).len =
          frame.length := by
    simp only [Payload.len, ICMPBuilder.len, ICMPParser.data, List.length_drop]
    omega
  rw [hIcmpEchoReq, readSrc, readDst, reading_returned_iff, reading_returned_iff, txIcmp,
    txIp_returned_iff, hsize]
  omega

theorem hIcmpEchoRep_returned_iff :
    (h.hIcmpEchoRep p ⟨frame⟩).2 = .returned ↔ 20 ≤ p.frame.length := by
  rw [hIcmpEchoRep, readSrc, readDst, reading_returned_iff, reading_returned_iff]
  simp only [and_true]
  omega

/-- **ICMP**, by type and code. -/
theorem rxIcmp_returned_iff : (h.rxIcmp p frame x).2 = .returned ↔ IcmpHandled p frame := by
  unfold rxIcmp IcmpHandled
  dsimp only
  by_cases hlen : frame.length < 8
  · simp only [if_pos hlen, Nat.not_le.2 hlen, false_implies]
  rw [if_neg hlen]
  have hlen := Nat.le_of_not_lt hlen
  by_cases hcsum : rxIcmpCsum frame = 0
  swap
  · simp only [ne_eq, hcsum, not_false_eq_true, if_true, false_implies, implies_true]
  simp only [ne_eq, hcsum, not_true_eq_false, if_false, hlen, true_implies]
  generalize (ICMPParser.mk frame).type = type
  generalize (ICMPParser.mk frame).code = code
  split
  · next hport =>
    simp only [hport, hIcmpDestUnreachPort, h.quotedHeader_not_returned, true_or, and_self,
      not_true_eq_false, false_and]
  · next hport =>
    split
    · next hproto =>
      simp only [hproto, hIcmpDestUnreachProto, h.quotedHeader_not_returned, or_true, and_self,
        not_true_eq_false, false_and]
    · next hproto =>
      have hreach : ¬ (type = DESTINATION_UNREACHABLE ∧ (code = 3 ∨ code = 2)) := by
        rintro ⟨htype, hcode | hcode⟩
        · exact hport ⟨htype, hcode⟩
        · exact hproto ⟨htype, hcode⟩
      split
      · next hreq =>
        rw [hIcmpEchoReq_returned_iff h x hlen]
        obtain ⟨rfl, rfl⟩ := hreq
        simp [DESTINATION_UNREACHABLE, ECHO_REQUEST, ECHO_REPLY]
      · next hreq =>
        split
        · next hrep =>
          rw [hIcmpEchoRep_returned_iff]
          obtain ⟨rfl, rfl⟩ := hrep
          simp [DESTINATION_UNREACHABLE, ECHO_REQUEST, ECHO_REPLY]
        · next hrep => simp only [hreach, hreq, hrep, not_false_eq_true, false_implies, and_self]

/-- **UDP**: the addresses of the packet are read for a whole header, and nothing else can raise. -/
theorem rxUdp_returned_iff :
    (h.rxUdp p frame x).2 = .returned ↔ (8 ≤ frame.length → 20 ≤ p.frame.length) := by
  unfold rxUdp
  by_cases hlen : frame.length < 8
  · simp only [if_pos hlen, Nat.not_le.2 hlen, false_implies]
  rw [if_neg hlen, readDst, readSrc, reading_returned_iff, reading_returned_iff]
  have hend : ∀ r : Host × TxEnd, r.2 = .returned →
      (20 ≤ p.frame.length ∧ 16 ≤ p.frame.length ∧ r.2 = .returned ↔
        (8 ≤ frame.length → 20 ≤ p.frame.length)) := by
    intro r hr
    simp only [hr, and_true, Nat.le_of_not_lt hlen, true_implies]
    omega
  refine hend _ ?_
  split
  · rfl
  · dsimp only
    split
    · rfl
    · exact h.icmpError_returned x _ _ _

/-- A segment is shorter than the packet it was cut out of, and its length fits the pseudo header.
-/
theorem rxTcp_returned (hpacket : frame.length ≤ p.frame.length) (hlen : frame.length ≤ 65535) :
    (h.rxTcp p frame x).2 = .returned := by
  unfold rxTcp
  split
  · rfl
  · next hge =>
    rw [readDst, readSrc, reading_returned_iff, reading_returned_iff]
    refine ⟨by omega, by omega, ?_⟩
    rw [dif_neg (Nat.not_lt.2 hlen)]
    split
    · rfl
    · dsimp only
      split
      · rfl
      · refine (h.txIp_returned_iff x _ _ _ _).2 ?_
        have hdata : ∀ q : Tcp.Segment, (Tcp.Stack.resetFor q).data = [] := by
          intro q
          unfold Tcp.Stack.resetFor
          split <;> rfl
        simp [Payload.len, TCPBuilder.len, TCPBuilder.doff, tcpOptLen, hdata, MTU]

theorem ipProtocolMap_eq_none {protocol : Nat} :
    ipProtocolMap protocol = none ↔ ¬ Mapped protocol := by
  unfold ipProtocolMap Mapped
  simp only [List.mem_cons, List.not_mem_nil, or_false]
  split
  · simp [*]
  · split
    · simp [*]
    · split
      · simp [*]
      · split
        · simp [*]
        · simp [*]

/-- The entries of `ip_protocol_map`. -/
theorem ipProtocolMap_eq_some {protocol : Nat}
    {nextLayer : Host → IPParser → List UInt8 → Picks → Host × TxEnd}
    (hmap : ipProtocolMap protocol = some nextLayer) :
    (protocol = 255 ∧ nextLayer = rxRaw) ∨ (protocol = IP_PROTO_ICMP ∧ nextLayer = rxIcmp) ∨
      (protocol = IP_PROTO_UDP ∧ nextLayer = rxUdp) ∨
          (protocol = IP_PROTO_TCP ∧ nextLayer = rxTcp) := by
  unfold ipProtocolMap at hmap
  split_ifs at hmap with hraw hicmp hudp htcp
  · exact .inl ⟨hraw, (Option.some.inj hmap).symm⟩
  · exact .inr (.inl ⟨hicmp, (Option.some.inj hmap).symm⟩)
  · exact .inr (.inr (.inl ⟨hudp, (Option.some.inj hmap).symm⟩))
  · exact .inr (.inr (.inr ⟨htcp, (Option.some.inj hmap).symm⟩))

theorem mapped_of_eq_some {protocol : Nat}
    {nextLayer : Host → IPParser → List UInt8 → Picks → Host × TxEnd}
    (hmap : ipProtocolMap protocol = some nextLayer) : Mapped protocol := by
  by_contra hmapped
  rw [ipProtocolMap_eq_none.2 hmapped] at hmap
  cases hmap

/-- A handler of `ip_protocol_map`, whichever it is. -/
theorem nextLayer_returned_iff {nextLayer : Host → IPParser → List UInt8 → Picks → Host × TxEnd}
    (hmap : ipProtocolMap p.protocol = some nextLayer) (hpacket : frame.length ≤ p.frame.length)
    (hlen : frame.length ≤ 65535) :
    (nextLayer h p frame x).2 = .returned ↔ LayerHandled p frame := by
  unfold LayerHandled
  rcases ipProtocolMap_eq_some hmap with ⟨hproto, rfl⟩ | ⟨hproto, rfl⟩ | ⟨hproto,
    rfl⟩ | ⟨hproto, rfl⟩
  · simp [rxRaw, hproto, IP_PROTO_ICMP, IP_PROTO_UDP]
  · rw [rxIcmp_returned_iff]
    simp [hproto, IP_PROTO_ICMP, IP_PROTO_UDP]
  · rw [rxUdp_returned_iff]
    simp [hproto, IP_PROTO_ICMP, IP_PROTO_UDP]
  · simp [h.rxTcp_returned x hpacket hlen, hproto, IP_PROTO_ICMP, IP_PROTO_UDP, IP_PROTO_TCP]

/-! ## IP and Ethernet -/

theorem rxDatagram_returned_iff {dgram : List UInt8} (hne : dgram ≠ []) :
    (h.rxDatagram dgram x).2 = .returned ↔ DatagramHandled dgram := by
  obtain ⟨hpacket, hlen⟩ := length_payload ⟨dgram⟩
  unfold rxDatagram DatagramHandled
  dsimp only
  rw [readTotalLen, readProtocol, reading_returned_iff, reading_returned_iff]
  simp only [ne_eq, hne, not_false_eq_true, true_implies]
  split
  · next nextLayer hmap =>
    rw [nextLayer_returned_iff h x hmap hpacket hlen]
    simp only [mapped_of_eq_some hmap, not_true_eq_false, false_implies, and_true]
    constructor
    · exact fun ⟨_, hlen, hlayer⟩ => ⟨hlen, hlayer⟩
    · exact fun ⟨hlen, hlayer⟩ => ⟨by omega, hlen, hlayer⟩
  · next hmap =>
    have hmapped := ipProtocolMap_eq_none.1 hmap
    rw [readDst, readSrc, reading_returned_iff, reading_returned_iff]
    simp only [hmapped, not_false_eq_true, true_implies,
      LayerHandled.of_not_mapped hmapped, true_and]
    have hend : ∀ r : Host × TxEnd, r.2 = .returned →
        (4 ≤ dgram.length ∧ 10 ≤ dgram.length ∧ 20 ≤ dgram.length ∧ 16 ≤ dgram.length ∧
          r.2 = .returned ↔ 10 ≤ dgram.length ∧ 20 ≤ dgram.length) := by
      intro r hr
      simp only [hr, and_true]
      omega
    refine hend _ ?_
    split
    · rfl
    · exact h.icmpError_returned x _ _ _

/-- A fragment is kept, or completes a datagram that is handled. -/
theorem rxReass_returned_iff : (h.rxReass p x).2 = .returned ↔ ReassHandled h.reass p := by
  unfold rxReass ReassHandled
  dsimp only
  by_cases htakes : (entryOf h.reass p p.bufferId).Takes p
  · rw [ipReass_of_takes htakes]
    simp only [htakes, true_and]
    cases hasm : (entryOf h.reass p p.bufferId).assembled p with
    | none => simp
    | some dgram =>
      simp only [Option.mem_def, Option.some.injEq, forall_eq']
      by_cases hne : dgram = []
      · rw [if_pos hne]
        simp only [DatagramHandled, ne_eq, hne, not_true_eq_false, false_implies]
      · rw [if_neg hne, rxDatagram_returned_iff _ _ hne]
  · obtain ⟨e, herror⟩ := ipReass_of_not_takes htakes
    rw [herror]
    simp only [htakes, false_and, reduceCtorEq]

@[simp] theorem ripGetData_reass (id : RipId) (packet : List UInt8) :
    (h.ripGetData id packet).reass = h.reass := by
  unfold ripGetData
  split <;> rfl

/-- **IP**, for a stack that has an address. -/
theorem rxIp_returned_iff (hassigned : h.core.unicastIp ≠ none) :
    (h.rxIp frame x).2 = .returned ↔ h.IpHandled ⟨frame⟩ := by
  obtain ⟨unicastIp, hip⟩ := Option.ne_none_iff_exists'.1 hassigned
  unfold rxIp IpHandled
  simp only [hip, Option.mem_def, Option.some.injEq, forall_eq']
  cases hin : Wire.rxIp unicastIp ⟨frame⟩ with
  | dropped => simp
  | ttlExceeded => simp only [icmpTtlExceeded, icmpError_returned]
  | fragment => exact h.rxReass_returned_iff x
  | whole payload =>
    obtain ⟨-, rfl⟩ := rxIp_eq_whole hin
    obtain ⟨hpacket, hlen⟩ := length_payload ⟨frame⟩
    dsimp only
    split
    · next nextLayer hmap =>
      rw [nextLayer_returned_iff h x hmap hpacket hlen]
      simp only [mapped_of_eq_some hmap, not_true_eq_false, false_implies, and_true]
    · next hmap =>
      have hmapped := ipProtocolMap_eq_none.1 hmap
      simp only [LayerHandled.of_not_mapped hmapped, hmapped, not_false_eq_true,
        true_implies, true_and]
      split
      · next hrip => simp [hrip, icmpProtoUnreach, icmpError_returned]
      · next hrip =>
        rw [rxReass_returned_iff, ripGetData_reass]
        simp [hrip]

/-- **ARP**: the one frame that raises is a reply whose queue is gone. -/
theorem rxArp_returned_iff (bytes : List UInt8) :
    (h.rxArp bytes).2 = .returned ↔ h.ArpHandled bytes := by
  unfold rxArp ArpHandled Core.rxArp
  dsimp only
  split
  · next hlen => simp only [ended, Nat.not_le.2 hlen, false_implies]
  · next hlen =>
    simp only [Nat.le_of_not_lt hlen, true_implies]
    split
    · next hreply =>
      obtain ⟨hop, hdst, hwait⟩ := hreply
      have hwait : (ARPParser.mk (bytes.drop 14)).spa ∈ h.core.arpWaitList :=
        of_decide_eq_true hwait
      simp only [hop, hdst, hwait, true_implies]
      cases hq : h.core.pendingQueue (ARPParser.mk (bytes.drop 14)).spa with
      | none =>
        rw [Core.acceptReply, Core.dequeue_none _ _ (by simpa [Core.scheduleTimer] using hq)]
        simp [ended]
      | some q =>
        rw [Core.acceptReply, Core.dequeue_some _ _ (by simpa [Core.scheduleTimer] using hq)]
        simp [ended]
    · next hreply =>
      have hhandled : (ARPParser.mk (bytes.drop 14)).op = ARP_OP_REPLY →
          (EtherParser.mk bytes).dst = h.core.unicastMac →
          (ARPParser.mk (bytes.drop 14)).spa ∈ h.core.arpWaitList →
          h.core.pendingQueue (ARPParser.mk (bytes.drop 14)).spa ≠ none := by
        intro hop hdst hwait
        exact absurd ⟨hop, hdst, decide_eq_true hwait⟩ hreply
      simp only [eq_true hhandled, iff_true]
      split
      · rfl
      · split
        · split
          · rfl
          · rfl
        · rfl

/-- **One frame**: `handle_packet` returns exactly on the frames that are handled. -/
theorem handlePacket_returned_iff (hassigned : h.ipHandler = true → h.core.unicastIp ≠ none)
    (bytes : List UInt8) : (h.handlePacket bytes x).2 = .returned ↔ h.Handled bytes := by
  unfold handlePacket Handled
  dsimp only
  split
  · next hlen => simp [Nat.not_le.2 hlen]
  · next hlen =>
    simp only [Nat.le_of_not_lt hlen, true_and]
    split
    · next htype =>
      rw [rxArp_returned_iff]
      simp [htype]
    · next htype =>
      split
      · next hip =>
        rw [rxIp_returned_iff h x (hassigned hip.2)]
        simp [hip]
      · next hip =>
        simp only [htype, false_implies, true_and, true_iff]
        exact fun htype hhandler => absurd ⟨htype, hhandler⟩ hip

end Host

end Tipy
