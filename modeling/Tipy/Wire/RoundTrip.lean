import Tipy.Wire.TcpOptions
import Tipy.Wire.Rx

/-!
# From the builders to the parsers

What the parsers read from the bytes of the builders, and that these bytes pass the checksum tests
of the receivers. IP, TCP and ICMP echo come back as they were sent. A UDP datagram does not:
`rx_udp` takes `len(packet_rx.udp)`, the length of the header, for the length of the datagram.
-/

namespace Tipy.Wire

open Tipy.Ip Tipy.Tcp

/-! ## Ethernet -/

/-- `EtherParser` returns what `EtherBuilder` was given. -/
structure EtherReceived (p : EtherParser) (dst src type : Nat) : Prop where
  dst : p.dst = dst
  src : p.src = src
  type : p.type = type

/-- An address is put together from its parts. -/
theorem mac_of_drop {frame rest : List UInt8} {i mac : Nat} (h : mac < 281474976710656)
    (hdrop : frame.drop i = be32 (mac >>> 16) ++ (be16 (mac &&& 0xFFFF) ++ rest)) :
    u32At frame i <<< 16 ||| u16At frame (i + 4) = mac := by
  have hnext : frame.drop (i + 4) = be16 (mac &&& 0xFFFF) ++ rest := by
    rw [← List.drop_drop, hdrop]
    exact List.drop_left' rfl
  rw [Nat.shiftRight_eq_div_pow] at hdrop
  rw [EtherBuilder.mac_low] at hnext
  rw [u32At_of_drop hdrop (by omega), u16At_of_drop hnext (by omega),
    ← Nat.shiftLeft_add_eq_or_of_lt (i := 16) (by omega), Nat.shiftLeft_eq]
  omega

theorem etherReceived {dst src type : Nat} (hdst : dst < 281474976710656)
    (hsrc : src < 281474976710656) (htype : type < 65536) (payload : List UInt8) :
    EtherReceived ⟨EtherBuilder.header dst src type ++ payload⟩ dst src type where
  dst := mac_of_drop hdst rfl
  src := mac_of_drop hsrc rfl
  type := u16At_of_drop rfl htype

/-! ## IP -/

/-- `IPParser` returns what `IPBuilder` was given, and the test of `rx_ip` passes. -/
structure IpReceived (p : IPParser) (id ttl protocol src dst : Nat) (part : List UInt8) : Prop where
  length : p.frame.length = 20 + part.length
  csum : rxIpCsum p = 0
  ver : p.ver = IP_VERSION
  ihl : p.ihl = 20
  totalLen : p.totalLen = 20 + part.length
  id : p.id = id
  flagDf : p.flagDf = false
  flagMf : p.flagMf = false
  offset : p.offset = 0
  ttl : p.ttl = ttl
  protocol : p.protocol = protocol
  src : p.src = src
  dst : p.dst = dst
  payload : slice p.frame p.ihl p.totalLen = part

namespace IPBuilder

theorem header_test (totalLen id ttl protocol src dst n : Nat) :
    inetCsum (header totalLen id ttl protocol src dst (csum totalLen id ttl protocol src dst n)) 0 =
      0 := by
  refine inetCsum_written (n := n) (by rw [length_front]) ?_
  simp only [csum, header, zeros, List.append_assoc]

end IPBuilder

open IPBuilder in
theorem ipReceived {id ttl protocol src dst : Nat} {part : List UInt8}
    (h : Fits id ttl protocol src dst part.length) (n : Nat) :
    IpReceived ⟨header (20 + part.length) id ttl protocol src dst
      (csum (20 + part.length) id ttl protocol src dst n) ++ part⟩ id ttl protocol src
          dst part := by
  have hlen := h.len
  generalize hc : csum (20 + part.length) id ttl protocol src dst n = c
  have htest := header_test (20 + part.length) id ttl protocol src dst n
  rw [hc] at htest
  have hihl :
      (IPParser.mk (header (20 + part.length) id ttl protocol src dst c ++ part)).ihl = 20 := by
    simp [IPParser.ihl, byteAt, header, front]
  have htotal :
    (IPParser.mk (header (20 + part.length) id ttl protocol src dst c ++ part)).totalLen =
      20 + part.length := u16At_of_drop rfl (by omega)
  have hflags : (IPParser.mk (header (20 + part.length) id ttl protocol src dst c ++
      part)).flagsFragoff = 0 := u16At_of_drop rfl (by omega)
  exact {
    length := by simp [length_header]
    csum := by
      rw [rxIpCsum, hihl, slice, List.drop_zero, List.take_left' (length_header ..)]
      exact htest
    ver := by simp [IPParser.ver, byteAt, header, front, IP_VERSION]
    ihl := hihl
    totalLen := htotal
    id := u16At_of_drop rfl h.id
    flagDf := by simp [IPParser.flagDf, hflags]
    flagMf := by simp [IPParser.flagMf, hflags]
    offset := by simp [IPParser.offset, hflags]
    ttl := byteAt_of_drop rfl h.ttl
    protocol := byteAt_of_drop rfl h.protocol
    src := u32At_of_drop rfl h.src
    dst := u32At_of_drop rfl h.dst
    payload := by
      rw [hihl, htotal, slice, List.take_of_length_le (by simp [length_header])]
      exact List.drop_left' (length_header ..) }

/-! ## TCP -/

/-- `TCPParser` returns what `TCPBuilder` was given, and the test of `rx_tcp` passes. -/
structure TcpReceived (b : TCPBuilder) (p : IPParser) (q : TCPParser) : Prop where
  csum : rxTcpCsum p q.frame = 0
  src : q.src = b.src
  dst : q.dst = b.dst
  seq : q.seq = b.seq
  ackSeq : q.ackSeq = b.ackSeq
  doff : q.doff = b.doff * 4
  cwr : q.cwr = b.cwr
  ece : q.ece = b.ece
  urg : q.urg = b.urg
  ack : q.ack = b.ack
  psh : q.psh = b.psh
  rst : q.rst = b.rst
  syn : q.syn = b.syn
  fin : q.fin = b.fin
  window : q.window = b.window
  urgPtr : q.urgPtr = b.urgPtr
  options : q.options = .ok (if b.options = [] then none else some MSS)
  dlen : q.dlen = b.data.length
  data : q.data = b.data

namespace TCPBuilder

variable {b : TCPBuilder}

theorem segment_test {phsum n c : Nat} (hc : c = inetCsum (b.segment 0 ++ zeros n) phsum) :
    inetCsum (b.segment c) phsum = 0 := by
  refine inetCsum_written (n := n) (by rw [length_front]) ?_
  simpa only [segment, zeros, List.append_assoc] using hc

/-- The flags are the bits of their byte. -/
theorem flags_bits (b : TCPBuilder) :
    (b.flags &&& 0x80 != 0) = b.cwr ∧ (b.flags &&& 0x40 != 0) = b.ece ∧
      (b.flags &&& 0x20 != 0) = b.urg ∧ (b.flags &&& 0x10 != 0) = b.ack ∧
      (b.flags &&& 0x08 != 0) = b.psh ∧ (b.flags &&& 0x04 != 0) = b.rst ∧
      (b.flags &&& 0x02 != 0) = b.syn ∧ (b.flags &&& 0x01 != 0) = b.fin := by
  unfold flags
  generalize b.cwr = c
  generalize b.ece = e
  generalize b.urg = u
  generalize b.ack = a
  generalize b.psh = p
  generalize b.rst = r
  generalize b.syn = s
  generalize b.fin = f
  revert c e u a p r s f
  decide

variable {q : TCPParser} {c : Nat} (hq : q.frame = b.segment c)

include hq

theorem flags_read : q.flags = b.flags := by
  have hlt := b.flags_lt
  have hdrop : q.frame.drop 13 = UInt8.ofNat ((b.doff <<< 12 ||| b.flags) % 256) ::
      (be16 b.window ++ (be16 c ++ b.back)) := by
    rw [hq]
    rfl
  rw [doff_flags] at hdrop
  rw [TCPParser.flags, byteAt_of_drop hdrop (by omega)]
  omega

theorem PlainOptions.doff_read (ho : b.PlainOptions) : q.doff = b.doff * 4 :=
  doff_of_front (ho.doff_le.trans (by decide)) (hq.trans (List.append_assoc ..))

/-- What follows the fixed header. -/
theorem drop_header : q.frame.drop 20 = b.optBytes ++ b.data := by
  rw [hq]
  rfl

theorem PlainOptions.options_read (ho : b.PlainOptions) :
    q.options = .ok (if b.options = [] then none else some MSS) := by
  have hdoff := ho.doff_read hq
  have hdrop := drop_header hq
  rw [ho.doff] at hdoff
  rcases ho with ho | ho <;> rw [optBytes, ho] at hdrop <;> rw [ho] at hdoff ⊢
  · exact paddedArea_read (show (paddedArea []).Placed q b.data from ⟨hdrop, hdoff⟩)
  · exact paddedArea_read (show (paddedArea [.mss]).Placed q b.data from ⟨hdrop, hdoff⟩)

theorem PlainOptions.data_read (ho : b.PlainOptions) : q.data = b.data := by
  rw [TCPParser.data, ho.doff_read hq, ho.doff, ← List.drop_drop, drop_header hq, ← ho.length]
  exact List.drop_left' rfl

end TCPBuilder

theorem tcpReceived {b : TCPBuilder} (h : b.InRange) (ho : b.PlainOptions) {p : IPParser}
    {q : TCPParser} {c : Nat} (hq : q.frame = b.segment c) (hcsum : rxTcpCsum p q.frame = 0) :
    TcpReceived b p q := by
  have hflags := TCPBuilder.flags_read hq
  obtain ⟨hcwr, hece, hurg, hack, hpsh, hrst, hsyn, hfin⟩ := b.flags_bits
  have hsrc : q.frame.drop 0 = be16 b.src ++ (b.segment c).drop 2 := by rw [hq]; rfl
  have hdst : q.frame.drop 2 = be16 b.dst ++ (b.segment c).drop 4 := by rw [hq]; rfl
  have hseq : q.frame.drop 4 = be32 b.seq ++ (b.segment c).drop 8 := by rw [hq]; rfl
  have hackSeq : q.frame.drop 8 = be32 b.ackSeq ++ (b.segment c).drop 12 := by rw [hq]; rfl
  have hwindow : q.frame.drop 14 = be16 b.window ++ (b.segment c).drop 16 := by rw [hq]; rfl
  have hurgPtr : q.frame.drop 18 = be16 b.urgPtr ++ (b.segment c).drop 20 := by rw [hq]; rfl
  exact {
    csum := hcsum
    src := u16At_of_drop hsrc h.src
    dst := u16At_of_drop hdst h.dst
    seq := u32At_of_drop hseq h.seq
    ackSeq := u32At_of_drop hackSeq h.ackSeq
    doff := ho.doff_read hq
    cwr := by rw [TCPParser.cwr, hflags, hcwr]
    ece := by rw [TCPParser.ece, hflags, hece]
    urg := by rw [TCPParser.urg, hflags, hurg]
    ack := by rw [TCPParser.ack, hflags, hack]
    psh := by rw [TCPParser.psh, hflags, hpsh]
    rst := by rw [TCPParser.rst, hflags, hrst]
    syn := by rw [TCPParser.syn, hflags, hsyn]
    fin := by rw [TCPParser.fin, hflags, hfin]
    window := u16At_of_drop hwindow h.window
    urgPtr := u16At_of_drop hurgPtr h.urgPtr
    options := ho.options_read hq
    dlen := by
      rw [TCPParser.dlen, ho.doff_read hq, hq, b.length_segment ho, TCPBuilder.len]
      omega
    data := ho.data_read hq }

/-! ## ICMP echo -/

/-- `ICMPParser` returns what `ICMPBuilder` was given, and the tests of `rx_icmp` pass. -/
structure IcmpReceived (b : ICMPBuilder) (q : ICMPParser) : Prop where
  length : 8 ≤ q.frame.length
  csum : rxIcmpCsum q.frame = 0
  type : q.type = b.type
  code : q.code = b.code
  echoId : b.echoId = some q.echoId
  echoSeq : b.echoSeq = some q.echoSeq
  data : q.data = b.data

theorem icmpReceived {b : ICMPBuilder} {echoId echoSeq : Nat}
    (h : b.Echo echoId echoSeq) {n c : Nat}
    (hc : c = inetCsum (b.message echoId echoSeq 0 ++ zeros n) 0) :
    IcmpReceived b ⟨b.message echoId echoSeq c⟩ where
  length := by simp [ICMPBuilder.length_message, ICMPBuilder.len]
  csum := by
    refine inetCsum_written (n := n) (by simp) ?_
    simpa only [ICMPBuilder.message, zeros, List.append_assoc] using hc
  type := byteAt_of_drop rfl h.type_lt
  code := byteAt_of_drop rfl h.code
  echoId := h.id_eq.trans (congrArg some (u16At_of_drop rfl h.id_lt).symm)
  echoSeq := h.seq_eq.trans (congrArg some (u16At_of_drop rfl h.seq_lt).symm)
  data := rfl

/-! ## The round trip -/

/-- TCP segments without options or with the MSS, and echo messages, each with its protocol number.
-/
inductive Plain : Payload → Nat → Prop where
  | tcp {b : TCPBuilder} : b.InRange → b.PlainOptions → Plain (.tcp b) IP_PROTO_TCP
  | icmp {b : ICMPBuilder} {echoId echoSeq : Nat} :
    b.Echo echoId echoSeq → Plain (.icmp b) IP_PROTO_ICMP

/-- The handler of the protocol reads the payload back from its part of the packet. -/
def Payload.Received (p : IPParser) (part : List UInt8) : Payload → Prop
  | .tcp b => ∃ q : TCPParser, q.frame = part ∧ TcpReceived b p q
  | .icmp b => IcmpReceived b ⟨part⟩
  | .udp _ => False
  | .raw _ => False

/-- What a payload writes, and that it is read back. -/
theorem Plain.build {payload : Payload} {protocol n : Nat} (h : Plain payload protocol)
    (hn : payload.len ≤ n) (hmax : n ≤ 65535) (src dst : Nat) :
    ∃ part, payload.build (zeros n) (IPBuilder.phsumOf protocol src dst payload.len) =
        .ok (part ++ zeros (n - payload.len)) ∧
      part.length = payload.len ∧
      ∀ p : IPParser, p.src = src → p.dst = dst → p.protocol = protocol →
          payload.Received p part := by
  cases h with
  | @tcp b h ho =>
    have hbuild := TCPBuilder.build_zeros h ho hn (phdrSum src dst IP_PROTO_TCP b.len)
    generalize hc :
      inetCsum (b.segment 0 ++ zeros (n - b.len)) (phdrSum src dst IP_PROTO_TCP b.len) = c
      at hbuild
    have hlen := b.length_segment ho c
    refine ⟨b.segment c, hbuild, hlen, ?_⟩
    rintro p rfl rfl hproto
    have hge : 20 ≤ (b.segment c).length := by
      rw [hlen, TCPBuilder.len, ho.doff]
      omega
    have hle : (b.segment c).length ≤ 65535 := hlen ▸ hn.trans hmax
    have htest : rxTcpCsum p (b.segment c) = 0 := by
      rw [rxTcpCsum, hlen, hproto]
      exact TCPBuilder.segment_test hc.symm
    exact ⟨⟨b.segment c, hge, hle⟩, rfl, tcpReceived h ho rfl htest⟩
  | @icmp b echoId echoSeq h =>
    have hbuild := ICMPBuilder.build_zeros h hn
    exact ⟨_, hbuild, ICMPBuilder.length_message _, fun p _ _ _ => icmpReceived h rfl⟩

theorem Plain.protocol_lt {payload : Payload} {protocol : Nat} (h : Plain payload protocol) :
    protocol < 256 := by
  cases h <;> decide

/-- The frame of a packet whose payload is known. -/
theorem frame_of_part {payload : Payload} {protocol id ttl src dst : Nat} {b : EtherBuilder}
    (hfits : IPBuilder.Fits id ttl protocol src dst payload.len)
    (hnew : IPBuilder.new payload id ttl protocol src dst [] = .ok b.payload)
    (hdmac : b.dst < 281474976710656) (hsmac : b.src < 281474976710656) (htype : b.type < 65536)
    {part : List UInt8} (hpart : part.length = payload.len)
    (hbuild : payload.build (zeros 1480) (IPBuilder.phsumOf protocol src dst payload.len) =
      .ok (part ++ zeros (1480 - payload.len))) :
    ∃ bytes, b.frame = .ok bytes ∧ EtherReceived ⟨bytes⟩ b.dst b.src b.type ∧
      IpReceived ⟨bytes.drop 14⟩ id ttl protocol src dst part := by
  obtain ⟨ip, dmac, smac, type⟩ := b
  obtain rfl : IPBuilder.plain payload id ttl protocol src dst = ip := by
    simpa [IPBuilder.new_nil] using hnew
  have hip := IPBuilder.build_zeros hfits hbuild
  have hframe := EtherBuilder.frame_eq hdmac hsmac htype hip (by
    simp only [IPBuilder.len, IPBuilder.plain, IPBuilder.length_header, hpart])
  rw [← hpart] at hfits hframe
  refine ⟨_, hframe, etherReceived hdmac hsmac htype _, ?_⟩
  rw [List.drop_left' (EtherBuilder.length_header ..)]
  exact ipReceived hfits 1480

/-- **The round trip.** The frame of a TCP segment or of an echo message is read back as it was
built, by each of the parsers, and passes the checksum tests. -/
theorem frame_round_trip {payload : Payload} {protocol id ttl src dst : Nat} {b : EtherBuilder}
    (hplain : Plain payload protocol) (hid : id < 65536) (httl : ttl < 256)
    (hsrc : src < 4294967296) (hdst : dst < 4294967296) (hlen : 20 + payload.len ≤ MTU)
    (hnew : IPBuilder.new payload id ttl protocol src dst [] = .ok b.payload)
    (hdmac : b.dst < 281474976710656) (hsmac : b.src < 281474976710656) (htype : b.type < 65536) :
    ∃ bytes part, b.frame = .ok bytes ∧ EtherReceived ⟨bytes⟩ b.dst b.src b.type ∧
      IpReceived ⟨bytes.drop 14⟩ id ttl protocol src dst part ∧
      payload.Received ⟨bytes.drop 14⟩ part := by
  have hroom : payload.len ≤ 1480 := by
    simp only [MTU] at hlen
    omega
  have hfits : IPBuilder.Fits id ttl protocol src dst payload.len :=
    ⟨hid, httl, hplain.protocol_lt, hsrc, hdst, by omega⟩
  obtain ⟨part, hbuild, hpart, hread⟩ := hplain.build hroom (by omega) src dst
  obtain ⟨bytes, hframe, hether, hip⟩ :=
    frame_of_part hfits hnew hdmac hsmac htype hpart hbuild
  exact ⟨bytes, part, hframe, hether, hip, hread _ hip.src hip.dst hip.protocol⟩

/-- A segment that opens a connection, with the MSS and an odd number of bytes. -/
def TCPBuilder.sampleSyn : TCPBuilder where
  src := 1234
  dst := 80
  seq := 4294967295
  ackSeq := 0
  cwr := false
  ece := false
  urg := false
  ack := false
  psh := false
  rst := false
  syn := true
  fin := false
  window := 65535
  urgPtr := 0
  options := [.mss]
  data := [1, 2, 3]

/-- `TCPOptBuilder` adds no padding to the MSS. -/
example : tcpOptBuilder [.mss] = .ok TCPBuilder.sampleSyn.options := rfl

theorem frame_round_trip_syn :
    let b : EtherBuilder := ⟨.plain (.tcp .sampleSyn) 7 64 IP_PROTO_TCP 0x0A000001 0x0A000002,
      0x0200000000FF, 0x020000000001, 0x0800⟩
    ∃ bytes part, b.frame = .ok bytes ∧ EtherReceived ⟨bytes⟩ 0x0200000000FF 0x020000000001 0x0800 ∧
      IpReceived ⟨bytes.drop 14⟩ 7 64 IP_PROTO_TCP 0x0A000001 0x0A000002 part ∧
      (Payload.tcp .sampleSyn).Received ⟨bytes.drop 14⟩ part :=
  frame_round_trip
    (.tcp ⟨by decide, by decide, by decide, by decide, by decide, by decide⟩ (by decide))
    (by decide) (by decide) (by decide) (by decide) (by decide) rfl (by decide) (by decide)
    (by decide)

/-! ## UDP -/

/-- `UDPParser` returns what `UDPBuilder` was given; the test of `rx_udp` is left open. -/
structure UdpParsed (u : UDPBuilder) (q : UDPParser) : Prop where
  length : 8 ≤ q.frame.length
  src : q.src = u.src
  dst : q.dst = u.dst
  data : q.data = u.data

namespace UDPBuilder

variable {u : UDPBuilder}

theorem InRange.parsed (h : u.InRange) (c : Nat) : UdpParsed u ⟨u.datagram c⟩ where
  length := by simp [length_datagram, UDPBuilder.len, UDP_HEADER_LEN]
  src := u16At_of_drop rfl h.src
  dst := u16At_of_drop rfl h.dst
  data := rfl

/-- The two pseudo headers agree when there is no data. -/
theorem phdrSum_len_iff (hlen : 20 + u.len ≤ MTU) (src dst : Nat) :
    phdrSum src dst IP_PROTO_UDP UDP_HEADER_LEN ≡ phdrSum src dst IP_PROTO_UDP u.len [MOD 65535] ↔
      u.data = [] := by
  simp only [len, UDP_HEADER_LEN, MTU] at hlen ⊢
  have hrx : phdrSum src dst IP_PROTO_UDP 8 ≡ _ [MOD 65535] := phdrSum_modEq (by omega)
  have htx : phdrSum src dst IP_PROTO_UDP (u.data.length + 8) ≡ _ [MOD 65535] :=
    phdrSum_modEq (by omega)
  constructor
  · intro h
    have hmod := Nat.ModEq.add_left_cancel' _ ((hrx.symm.trans h).trans htx)
    have hzero : u.data.length = 0 := by
      unfold Nat.ModEq at hmod
      omega
    exact List.length_eq_zero_iff.1 hzero
  · rintro h
    rw [h]
    rfl

/-- **The test of `rx_udp`** passes for empty datagrams only. -/
theorem datagram_test_iff (hlen : 20 + u.len ≤ MTU) {src dst n c : Nat}
    (hc : c = inetCsum (u.datagram 0 ++ zeros n) (phdrSum src dst IP_PROTO_UDP u.len)) :
    inetCsum (u.datagram c) (phdrSum src dst IP_PROTO_UDP UDP_HEADER_LEN) = 0 ↔ u.data = [] := by
  rw [← phdrSum_len_iff hlen src dst]
  have heven : (be16 u.src ++ be16 u.dst ++ be16 u.len).length % 2 = 0 := by simp
  refine inetCsum_written_iff (n := n) heven ?_ (phdrSum_pos (by decide) (by decide))
  simpa only [datagram, zeros, List.append_assoc] using hc

end UDPBuilder

/-- The conditions under which `rx_ip` hands a packet on. -/
structure Accepted (unicastIp src dst ttl : Nat) : Prop where
  dst : dst = unicastIp
  not_broadcast : ¬ IsBroadcast src
  not_multicast : ¬ IsMulticast src
  ttl : ttl ≠ 0

/-- What `rx_ip` does with a packet that was read back. -/
theorem IpReceived.rxIp_whole_iff {p : IPParser} {id ttl protocol src dst unicastIp : Nat}
    {part payload : List UInt8} (h : IpReceived p id ttl protocol src dst part) :
    rxIp unicastIp p = .whole payload ↔ payload = part ∧ Accepted unicastIp src dst ttl := by
  have hlen : ¬ p.frame.length < 20 := by
    have := h.length
    omega
  have hihl : ¬ 20 < p.ihl := by
    rw [h.ihl]
    omega
  have hwhole : p.offset = 0 ∧ p.flagMf = false := ⟨h.offset, h.flagMf⟩
  rw [rxIp, if_neg hlen, if_neg (not_not.2 h.csum), if_neg hihl, if_pos hwhole, h.src, h.dst, h.ttl,
    h.payload]
  by_cases hdrop : IsBroadcast src ∨ IsMulticast src ∨ dst ≠ unicastIp
  · have hnot : ¬ Accepted unicastIp src dst ttl := by
      rintro ⟨hdst, hbroad, hmulti, -⟩
      rcases hdrop with hdrop | hdrop | hdrop
      · exact hbroad hdrop
      · exact hmulti hdrop
      · exact hdrop hdst
    simp [hdrop, hnot]
  · rw [if_neg hdrop]
    simp only [not_or, not_not] at hdrop
    by_cases httl : ttl = 0
    · have hnot : ¬ Accepted unicastIp src dst ttl := fun hacc => hacc.ttl httl
      simp only [if_pos httl, reduceCtorEq, hnot, and_false]
    · have hacc : Accepted unicastIp src dst ttl := ⟨hdrop.2.2, hdrop.1, hdrop.2.1, httl⟩
      simp [httl, hacc, eq_comm]

/-- The frame of a datagram, as the receiver sees it. -/
theorem udp_frame {u : UDPBuilder} {id ttl src dst : Nat} {b : EtherBuilder}
    (hsport : u.src < 65536) (hdport : u.dst < 65536) (hid : id < 65536) (httl : ttl < 256)
    (hsrc : src < 4294967296)
    (hdst : dst < 4294967296) (hlen : 20 + u.len ≤ MTU)
    (hnew : IPBuilder.new (.udp u) id ttl IP_PROTO_UDP src dst [] = .ok b.payload)
    (hdmac : b.dst < 281474976710656) (hsmac : b.src < 281474976710656) (htype : b.type = 0x0800) :
    ∃ bytes part, b.frame = .ok bytes ∧ EtherReceived ⟨bytes⟩ b.dst b.src b.type ∧
      IpReceived ⟨bytes.drop 14⟩ id ttl IP_PROTO_UDP src dst part ∧ UdpParsed u ⟨part⟩ ∧
      (rxUdpCsum ⟨bytes.drop 14⟩ part = 0 ↔ u.data = []) := by
  have hroom : u.len ≤ 1480 := by
    simp only [MTU] at hlen
    omega
  have hrange : u.InRange := ⟨hsport, hdport, by omega⟩
  have hfits : IPBuilder.Fits id ttl IP_PROTO_UDP src dst u.len :=
    ⟨hid, httl, by decide, hsrc, hdst, by omega⟩
  have hbuild := UDPBuilder.build_zeros hrange hroom (phdrSum src dst IP_PROTO_UDP u.len)
  generalize hc : inetCsum (u.datagram 0 ++ zeros (1480 - u.len))
    (phdrSum src dst IP_PROTO_UDP u.len) = c at hbuild
  obtain ⟨bytes, hframe, hether, hip⟩ := frame_of_part hfits hnew hdmac hsmac (by omega)
    (UDPBuilder.length_datagram c) hbuild
  refine ⟨bytes, u.datagram c, hframe, hether, hip, hrange.parsed c, ?_⟩
  rw [rxUdpCsum, hip.src, hip.dst, hip.protocol]
  exact UDPBuilder.datagram_test_iff hlen hc.symm

namespace UdpCore

variable {k : UdpCore} {bytes part : List UInt8} {u : UDPBuilder} {id ttl src dst : Nat}

/-- A UDP packet that is not for `rx_udp` changes nothing. -/
theorem rxEther_rejected (hip : IpReceived ⟨bytes.drop 14⟩ id ttl IP_PROTO_UDP src dst part)
    (hrej : ¬ Accepted k.unicastIp src dst ttl) : k.rxEther bytes = k := by
  unfold rxEther
  split
  · dsimp only
    split
    · next payload hwhole => exact absurd (hip.rxIp_whole_iff.1 hwhole).2 hrej
    · rfl
  · rfl

theorem rxEther_accepted (htype : (EtherParser.mk bytes).type = 0x0800)
    (hip : IpReceived ⟨bytes.drop 14⟩ id ttl IP_PROTO_UDP src dst part)
    (hacc : Accepted k.unicastIp src dst ttl) :
    k.rxEther bytes = k.rxUdp ⟨bytes.drop 14⟩ part := by
  have hwhole : rxIp k.unicastIp ⟨bytes.drop 14⟩ = .whole part := hip.rxIp_whole_iff.2 ⟨rfl, hacc⟩
  simp only [rxEther, htype, if_true, hwhole, hip.protocol]

theorem rxUdp_of_test {p : IPParser} (hudp : UdpParsed u ⟨part⟩) (htest : rxUdpCsum p part = 0)
    {queue : List (List UInt8)} (hsock : k.sockets ⟨p.dst, u.dst, p.src, u.src⟩ = some queue) :
    k.rxUdp p part = { k with
      sockets :=
          Function.update k.sockets ⟨p.dst, u.dst, p.src, u.src⟩ (some (queue ++ [u.data])) } := by
  rw [rxUdp, if_neg (Nat.not_lt.2 hudp.length), if_neg (not_not.2 htest)]
  simp only [hudp.src, hudp.dst, hudp.data, hsock]

end UdpCore

/-- What the receiver of a datagram is to do: the checksum is right, and the payload is appended to
the queue of the socket. -/
def UdpDelivered (k : UdpCore) (b : EtherBuilder) (u : UDPBuilder) (src dst : Nat)
    (queue : List (List UInt8)) : Prop :=
  ∃ bytes part, b.frame = .ok bytes ∧
    slice (bytes.drop 14) (IPParser.mk (bytes.drop 14)).ihl (IPParser.mk (bytes.drop 14)).totalLen =
      part ∧
    rxUdpCsum ⟨bytes.drop 14⟩ part = 0 ∧
    k.rxEther bytes = { k with
      sockets := Function.update k.sockets ⟨dst, u.dst, src, u.src⟩ (some (queue ++ [u.data])) }

section Delivered

variable {u : UDPBuilder} {id ttl src dst : Nat} {b : EtherBuilder} {k : UdpCore}
  {queue : List (List UInt8)}

/-- A datagram with data does not pass the test. -/
theorem UdpDelivered.data_nil (hsport : u.src < 65536) (hdport : u.dst < 65536) (hid : id < 65536)
    (httl : ttl < 256) (hsrc : src < 4294967296) (hdst : dst < 4294967296)
    (hlen : 20 + u.len ≤ MTU)
    (hnew : IPBuilder.new (.udp u) id ttl IP_PROTO_UDP src dst [] = .ok b.payload)
    (hdmac : b.dst < 281474976710656) (hsmac : b.src < 281474976710656) (htype : b.type = 0x0800)
    (h : UdpDelivered k b u src dst queue) : u.data = [] := by
  obtain ⟨bytes, part, hframe, -, hip, -, htest⟩ :=
    udp_frame hsport hdport hid httl hsrc hdst hlen hnew hdmac hsmac htype
  obtain ⟨bytes', part', hframe', rfl, htest', -⟩ := h
  obtain rfl : bytes = bytes' := by simpa [hframe] using hframe'
  rw [hip.payload] at htest'
  exact htest.1 htest'

/-- **UDP datagrams** arrive when they are empty and `rx_ip` accepts them. -/
theorem udp_delivered_iff (hsport : u.src < 65536) (hdport : u.dst < 65536) (hid : id < 65536)
    (httl : ttl < 256) (hsrc : src < 4294967296) (hdst : dst < 4294967296)
    (hlen : 20 + u.len ≤ MTU)
    (hnew : IPBuilder.new (.udp u) id ttl IP_PROTO_UDP src dst [] = .ok b.payload)
    (hdmac : b.dst < 281474976710656) (hsmac : b.src < 281474976710656) (htype : b.type = 0x0800)
    (hsock : k.sockets ⟨dst, u.dst, src, u.src⟩ = some queue) :
    UdpDelivered k b u src dst queue ↔ u.data = [] ∧ Accepted k.unicastIp src dst ttl := by
  obtain ⟨bytes, part, hframe, hether, hip, hudp, htest⟩ :=
    udp_frame hsport hdport hid httl hsrc hdst hlen hnew hdmac hsmac htype
  constructor
  · intro h
    refine ⟨h.data_nil hsport hdport hid httl hsrc hdst hlen hnew hdmac hsmac htype, ?_⟩
    obtain ⟨bytes', part', hframe', -, -, hrx⟩ := h
    obtain rfl : bytes = bytes' := by simpa [hframe] using hframe'
    by_contra hrej
    rw [UdpCore.rxEther_rejected hip hrej] at hrx
    have hqueue := congrArg (fun k => k.sockets ⟨dst, u.dst, src, u.src⟩) hrx
    simp [hsock] at hqueue
  · rintro ⟨hdata, hacc⟩
    have hpass := htest.2 hdata
    refine ⟨bytes, part, hframe, hip.payload, hpass, ?_⟩
    rw [UdpCore.rxEther_accepted (hether.type.trans htype) hip hacc]
    rw [← hip.src, ← hip.dst] at hsock ⊢
    exact UdpCore.rxUdp_of_test hudp hpass hsock

end Delivered

/-- A stack at 10.0.0.2 with a socket that is connected to port 1234 of 10.0.0.1. -/
def UdpCore.sample : UdpCore where
  unicastIp := 0x0A000002
  sockets id := if id = ⟨0x0A000002, 80, 0x0A000001, 1234⟩ then some [] else none
  errors := []

/-- The frame of a datagram to that socket. -/
def EtherBuilder.sampleUdp (data : List UInt8) : EtherBuilder where
  payload := .plain (.udp ⟨1234, 80, data⟩) 7 64 IP_PROTO_UDP 0x0A000001 0x0A000002
  dst := 0x0200000000FF
  src := 0x020000000001
  type := 0x0800

theorem udp_delivered_iff_empty :
    UdpDelivered .sample (.sampleUdp []) ⟨1234, 80, []⟩ 0x0A000001 0x0A000002 [] :=
  (udp_delivered_iff
    (by decide) (by decide) (by decide) (by decide) (by decide) (by decide) (by decide)
    rfl (by decide) (by decide) rfl rfl).2 ⟨rfl, rfl, by decide, by decide, by decide⟩

/-- One byte of data is enough to lose the datagram. -/
theorem udp_byte_dropped :
    Accepted UdpCore.sample.unicastIp 0x0A000001 0x0A000002 64 ∧
      ¬ UdpDelivered .sample (.sampleUdp [7]) ⟨1234, 80, [7]⟩ 0x0A000001 0x0A000002 [] := by
  refine ⟨⟨rfl, by decide, by decide, by decide⟩, fun h => ?_⟩
  have hnil := h.data_nil (by decide) (by decide) (by decide) (by decide) (by decide) (by decide)
    (by decide) rfl (by decide) (by decide) rfl
  cases hnil

end Tipy.Wire
