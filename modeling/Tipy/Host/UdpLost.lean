import Tipy.Host.Datagrams

/-!
# UDP between two stations

`rx_udp` sums the pseudo header with the length of the UDP header in place of that of the datagram,
so what `tx_udp` sends passes its test only if it has no data. On a segment of stations that run the
stack nothing that is sent with UDP is therefore ever given to a socket but empty datagrams,
whatever is lost, repeated, reordered or overheard.
-/

namespace Tipy

open Components Arp Ip Wire Lib

/-! ## A datagram on the wire -/

/-- A packet of `tx_udp` from a socket without options, or no UDP. -/
def Ip.Datagram.IsPlainUdp (d : Datagram) : Prop :=
  ∀ b, d = .whole b → b.protocol = IP_PROTO_UDP → ∃ u id ttl src dst,
    b = .plain (.udp u) id ttl IP_PROTO_UDP src dst

namespace Wire

/-- The ports of a datagram that was built fit their fields. -/
theorem UDPBuilder.ports_of_build {u : UDPBuilder} {frame out : List UInt8} {phsum : Nat}
    (h : u.build frame phsum = .ok out) : u.src < 65536 ∧ u.dst < 65536 := by
  cases hpack : structPack [(.H, u.src), (.H, u.dst), (.H, u.len), (.H, 0)] with
  | none =>
    simp only [UDPBuilder.build, hpack] at h
    cases h
  | some fields =>
    have hbound := structPack_bound hpack
    exact ⟨hbound (.H, u.src) (by simp), hbound (.H, u.dst) (by simp)⟩

/-- What `build` of the payload has to be given. -/
theorem IPBuilder.payload_of_build {b : IPBuilder} {frame out : List UInt8}
    (h : b.build frame = .ok out) :
    ∃ frame phsum out, b.payload.build frame phsum = .ok out := by
  obtain ⟨hdr, -, h⟩ := bind_eq_ok.1 h
  obtain ⟨opts, -, h⟩ := bind_eq_ok.1 h
  obtain ⟨summed, -, h⟩ := bind_eq_ok.1 h
  split at h
  · obtain ⟨phsum, -, h⟩ := bind_eq_ok.1 h
    obtain ⟨rest, hrest, -⟩ := bind_eq_ok.1 h
    exact ⟨_, _, rest, hrest⟩
  · obtain ⟨rest, hrest, -⟩ := bind_eq_ok.1 h
    exact ⟨_, _, rest, hrest⟩

end Wire

namespace Arp.Frame.Written

variable {f : Frame Datagram} {bs bs' body body' : List UInt8}

/-- A frame is written in one way. -/
theorem unique (h : f.Written bs body) (h' : f.Written bs' body') : bs = bs' := by
  obtain ⟨frame, n, hbuild, hlen, rfl⟩ := h.body
  obtain ⟨frame', n', hbuild', hlen', rfl⟩ := h'.body
  obtain rfl := Except.ok.inj (hbuild.symm.trans hbuild')
  obtain rfl := Except.ok.inj (hlen.symm.trans hlen')
  rw [h.eq, h'.eq]

/-- **The protocol** of a packet is read back. -/
theorem protocol_whole {b : IPBuilder} (h : f.Written bs body)
    (hf : f.payload = .datagram (.whole b)) (hb : b.Unfragmented) :
    (IPParser.mk (bs.drop 14)).protocol = b.protocol := by
  obtain ⟨frame, -, hbuild, -⟩ := h.body
  rw [hf] at hbuild
  have hbound := (hb.header hbuild).1 (.B, b.protocol) (by simp [IPBuilder.fields])
  have hwritten : byteAt (b.fields.flatMap fun f => f.1.bytes f.2) 9 = b.protocol :=
    byteAt_of_drop rfl hbound
  have hread := h.u16At_header hf hb (i := 8) (by omega) (.inl (by omega))
  have hlt := Tcp.byteAt_lt (bs.drop 14) 9
  have hlt' := Tcp.byteAt_lt (b.fields.flatMap fun f => f.1.bytes f.2) 9
  simp only [u16At, Nat.reduceAdd] at hread
  have hsame :
    byteAt (bs.drop 14) 9 = byteAt (b.fields.flatMap fun f => f.1.bytes f.2) 9 := by omega
  exact hsame.trans hwritten

/-- **A datagram that was written** is read back, and passes the test of `rx_udp` if it is empty. -/
theorem udp {u : UDPBuilder} {id ttl src dst dmac smac : Nat} (h : (Frame.mk (.datagram
    (.whole (IPBuilder.plain (.udp u) id ttl IP_PROTO_UDP src dst))) dmac smac 0x0800).Written bs
    body)
    (hlen : 20 + u.len ≤ MTU) :
    ∃ part, IpReceived ⟨bs.drop 14⟩ id ttl IP_PROTO_UDP src dst part ∧ UdpParsed u ⟨part⟩ ∧
      (rxUdpCsum ⟨bs.drop 14⟩ part = 0 ↔ u.data = []) := by
  obtain ⟨frame, n, hbuild, -⟩ := h.body
  have hb := IPBuilder.unfragmented_of_new (IPBuilder.new_nil (.udp u) id ttl IP_PROTO_UDP src dst)
  have hbound := (hb.header hbuild).1
  obtain ⟨rest, phsum, out, hpayload⟩ := IPBuilder.payload_of_build hbuild
  obtain ⟨hsport, hdport⟩ : u.src < 65536 ∧ u.dst < 65536 := by
    cases phsum with
    | none => cases hpayload
    | some phsum => exact UDPBuilder.ports_of_build hpayload
  obtain ⟨bytes, part, hbytes, -, hip, hudp, htest⟩ :=
    udp_frame (b := ⟨_, dmac, smac, 0x0800⟩) hsport hdport
    (hbound (.H, id) (by simp [IPBuilder.fields, IPBuilder.plain]))
    (hbound (.B, ttl) (by simp [IPBuilder.fields, IPBuilder.plain]))
    (hbound (.I, src) (by simp [IPBuilder.fields, IPBuilder.plain]))
    (hbound (.I, dst)
      (by simp [IPBuilder.fields, IPBuilder.plain])) hlen (IPBuilder.new_nil ..) h.dst h.src rfl
  rw [← Frame.bytes_whole] at hbytes
  obtain ⟨body', hwritten⟩ := Frame.bytes_ok hbytes
  obtain rfl := h.unique hwritten
  exact ⟨part, hip, hudp, htest⟩

end Arp.Frame.Written

/-! ## The sockets of a host -/

namespace Host

variable {h : Host} {p : IPParser} {frame part : List UInt8} {x : Picks}

theorem reading_udp {α : Type} {r : Except PyError α} {next : α → Host × TxEnd}
    (hnext : ∀ a, (next a).1.udp = h.udp) : (h.reading r next).1.udp = h.udp := by
  unfold Host.reading
  split
  · exact hnext _
  · rfl

theorem ripGetData_udp (id : RipId) (packet : List UInt8) :
    (h.ripGetData id packet).udp = h.udp := by
  unfold ripGetData
  split <;> rfl

theorem rxIcmp_udp : (h.rxIcmp p frame x).1.udp = h.udp := by
  unfold Host.rxIcmp
  dsimp only
  split
  · rfl
  split
  · rfl
  split
  · unfold hIcmpDestUnreachPort quotedHeader
    split <;> rfl
  split
  · unfold hIcmpDestUnreachProto quotedHeader
    split <;> rfl
  split
  · exact reading_udp fun src => reading_udp fun dst => rfl
  split
  · exact reading_udp fun src => reading_udp fun dst => ripGetData_udp _ _
  · rfl

theorem rxTcp_udp : (h.rxTcp p frame x).1.udp = h.udp := by
  unfold Host.rxTcp
  split
  · rfl
  · refine reading_udp fun dst => reading_udp fun src => ?_
    split
    · rfl
    · split
      · rfl
      · dsimp only
        split <;> rfl

/-- Only `rx_udp` changes the UDP sockets. -/
theorem nextLayer_udp {protocol : Nat}
    {nextLayer : Host → IPParser → List UInt8 → Picks → Host × TxEnd}
    (hmap : ipProtocolMap protocol = some nextLayer) (hprotocol : protocol ≠ IP_PROTO_UDP) :
    (nextLayer h p frame x).1.udp = h.udp := by
  rcases ipProtocolMap_eq_some hmap with ⟨-, rfl⟩ | ⟨-, rfl⟩ | ⟨hudp, rfl⟩ | ⟨-, rfl⟩
  · rfl
  · exact rxIcmp_udp
  · exact absurd hudp hprotocol
  · exact rxTcp_udp

/-- A packet that is no fragment, and not for a raw socket of a protocol that is not in the map,
changes the UDP sockets by `rx_udp` only. -/
theorem rxIp_udp {addr : Nat} (hraw : h.RawMapped)
    (hip : h.core.unicastIp = none ∨ h.core.unicastIp = some addr)
    (hfrag : Wire.rxIp addr ⟨frame⟩ ≠ .fragment) :
    (h.rxIp frame x).1.udp = h.udp ∨ ∃ payload, Wire.rxIp addr ⟨frame⟩ = .whole payload ∧
      (IPParser.mk frame).protocol = IP_PROTO_UDP ∧ h.rxIp frame x = h.rxUdp ⟨frame⟩ payload x := by
  unfold Host.rxIp
  dsimp only
  rcases hip with hip | hip
  · left
    rw [hip]
    dsimp only
    split <;> rfl
  · rw [hip]
    dsimp only
    cases hrx : Wire.rxIp addr ⟨frame⟩ with
    | dropped => exact .inl rfl
    | ttlExceeded => exact .inl rfl
    | fragment => exact absurd hrx hfrag
    | whole payload =>
      dsimp only
      by_cases hprotocol : (IPParser.mk frame).protocol = IP_PROTO_UDP
      · right
        rw [hprotocol]
        exact ⟨payload, rfl, rfl, rfl⟩
      · left
        split
        · next hmap => exact nextLayer_udp hmap hprotocol
        · next hmap =>
          split
          · rfl
          · next queue hqueue =>
            have hmapped : Mapped (IPParser.mk frame).protocol :=
              hraw (ripId ⟨frame⟩) (by rw [hqueue]; exact Option.some_ne_none _)
            exact absurd hmapped (ipProtocolMap_eq_none.1 hmap)

/-- No socket has been given data. -/
def NoUdpData (h : Host) : Prop := ∀ id queue, h.udp id = some queue → ∀ data ∈ queue, data = []

/-- A datagram that passes the test only if it is empty. -/
theorem NoUdpData.rxUdp (hnone : h.NoUdpData) {u : UDPBuilder} (hudp : UdpParsed u ⟨part⟩)
    (htest : rxUdpCsum p part = 0 → u.data = []) : (h.rxUdp p part x).1.NoUdpData := by
  have hreading : ∀ {stop : Nat} {e : PyError} {a : Nat} {next : Nat → Host × TxEnd},
      (next a).1.NoUdpData → (h.reading (field p stop e a) next).1.NoUdpData := by
    intro stop e a next hnext
    unfold field
    split
    · exact hnext
    · exact hnone
  unfold Host.rxUdp
  rw [if_neg (Nat.not_lt.2 hudp.length)]
  refine hreading (hreading ?_)
  split
  · exact hnone
  · next hzero =>
    have hdata : (UDPParser.mk part).data = [] := hudp.data.trans (htest (not_not.1 hzero))
    dsimp only
    split
    · next queue hqueue =>
      intro id' queue' hqueue' data hmem
      rcases of_update_eq_some hqueue' with ⟨-, hnew⟩ | ⟨-, hold⟩
      · obtain rfl := Option.some.inj hnew
        rcases List.mem_append.1 hmem with hmem | hmem
        · exact hnone _ queue hqueue data hmem
        · exact (List.mem_singleton.1 hmem).trans hdata
      · exact hnone id' queue' hold data hmem
    · exact hnone

end Host

/-! ## The segment -/

namespace Segment

variable {ι : Type} {S : Stations ι} {s : Segment ι}

/-- The sockets use UDP by `tx_udp`, without options, and take what they have been given: a queue is
new and empty, or the first packets have been taken. -/
def UdpUse (s : Segment ι) : SegmentEvent ι → Prop
  | .host _ (.txIp payload _ _ _ protocol options _) =>
    protocol = IP_PROTO_UDP → options = [] ∧ ∃ u, payload = .udp u
  | .host i (.udp id queue) =>
    ∀ q, queue = some q → q = [] ∨ ∃ q', (s.host i).udp id = some q' ∧ q <:+ q'
  | _ => True

theorem UdpUse.sends {e : SegmentEvent ι} (h : UdpUse s e) : Sends Datagram.IsPlainUdp s e := by
  cases e with
  | transmit i n => trivial
  | receive i n x => trivial
  | host i e =>
    intro d hd
    cases e with
    | txIp payload src dst ttl protocol options x =>
      obtain ⟨b, hnew, -, rfl⟩ := hd
      rintro _ ⟨⟩ hb
      obtain ⟨rfl, u, rfl⟩ := h ((IPBuilder.protocol_of_new hnew).symm.trans hb)
      obtain rfl := (IPBuilder.protocol_of_new hnew).symm.trans hb
      rw [IPBuilder.new_nil] at hnew
      exact ⟨u, x.id, ttl, src, dst, (Except.ok.inj hnew).symm⟩
    | _ => exact hd.elim

/-- **A frame** gives no data to a socket. -/
theorem noUdpData_frame {i j : ι} {h : Host} (hs : S.Station i h) (hnone : h.NoUdpData)
    {f : Frame Datagram} {bs body : List UInt8} (hf : S.Honest j f) (hw : f.Written bs body)
    (hplain : ∀ d, f.payload = .datagram d → d.IsPlainUdp) (x : Picks) :
    (h.step (.frame bs x)).NoUdpData := by
  simp only [Host.step]
  split
  · suffices hhandled : (h.handlePacket bs x).1.NoUdpData from hhandled
    unfold Host.handlePacket
    rw [if_neg (Nat.not_lt.2 hw.length), hw.ether.type]
    cases hf with
    | arp b dst hsha hspa =>
      rw [if_pos rfl]
      unfold Host.rxArp
      dsimp only
      split
      · exact hnone
      · exact hnone
    | whole b dst hb hlen hdst =>
      rw [if_neg (by decide : ¬ (0x0800 = 0x0806))]
      split
      · rcases Host.rxIp_udp (x := x) hs.raw hs.core.unicastIp (hw.not_fragment rfl hb _) with
          hsame | ⟨payload, hwhole, hprotocol, hrx⟩
        · intro id queue hqueue
          rw [hsame] at hqueue
          exact hnone id queue hqueue
        · -- the packet is UDP, so it is one of `tx_udp`
          have hsent : b.protocol = IP_PROTO_UDP := (hw.protocol_whole rfl hb).symm.trans hprotocol
          obtain ⟨u, id, ttl, src, dst', rfl⟩ := hplain _ rfl b rfl hsent
          obtain ⟨part, hip, hudp, htest⟩ := hw.udp hlen
          obtain ⟨rfl, -⟩ := hip.rxIp_whole_iff.1 hwhole
          rw [hrx]
          exact hnone.rxUdp hudp htest.1
      · exact hnone
  · exact hnone

/-- What every run keeps. -/
structure Mute (S : Stations ι) (s : Segment ι) : Prop where
  holds : Holds S Datagram.IsPlainUdp s
  sockets : ∀ i, (s.host i).NoUdpData

variable [DecidableEq ι]

/-- A host whose sockets have not changed, or not for the worse. -/
theorem Mute.update (h : Mute S s) {i : ι} {h' : Host}
    (hholds : Holds S Datagram.IsPlainUdp { s with host := Function.update s.host i h' })
    (hnone : h'.NoUdpData) : Mute S { s with host := Function.update s.host i h' } := by
  refine ⟨hholds, fun j => ?_⟩
  by_cases hij : j = i
  · subst hij
    simp only [Function.update_self]
    exact hnone
  · simp only [Function.update_of_ne hij]
    exact h.sockets j

/-- **One step of the segment.** -/
theorem Mute.step (h : Mute S s) {e : SegmentEvent ι} (hown : Admits S s e) (huse : UdpUse s e) :
    Mute S (s.step e) := by
  have hholds : Holds S Datagram.IsPlainUdp (s.step e) := by
    refine h.holds.step ?_ hown huse.sends
    rintro _ ⟨b, rfl, hb⟩ b' ⟨⟩ hudp
    exact absurd hudp hb
  cases e with
  | host i e =>
    refine h.update hholds ?_
    have hnone := h.sockets i
    cases e with
    | frame bytes x => exact absurd hown id
    | resume => exact hnone
    | timer n => exact hnone
    | reassTimer n x =>
      have hdue : (s.host i).reass.timer.popDue (s.host i).reass.nowMs n = none := by
        rw [(h.holds.inv.host i).timer]
        rfl
      simp only [Host.step, hdue, ite_self]
      exact hnone
    | elapse ms => exact hnone
    | txIp payload src dst ttl protocol options x => exact hnone
    | udp id queue =>
      intro id' queue' hqueue' data hmem
      rcases of_update_eq_some hqueue' with ⟨rfl, hnew⟩ | ⟨-, hold⟩
      · rcases huse queue' hnew with rfl | ⟨q, hq, hsuffix⟩
        · cases hmem
        · exact hnone id' q hq data (hsuffix.subset hmem)
      · exact hnone id' queue' hold data hmem
    | rip id queue => exact hnone
    | tcp table events => exact hnone
  | transmit i n =>
    refine ⟨hholds, fun j => ?_⟩
    simp only [Segment.step]
    split <;> exact h.sockets j
  | receive i n x =>
    simp only [Segment.step] at hholds ⊢
    split at hholds
    · next bs hbs =>
      obtain ⟨j, f, body, hf, hwritten, hplain⟩ := h.holds.wire bs (List.mem_of_getElem? hbs)
      exact h.update hholds
        (noUdpData_frame (h.holds.inv.host i) (h.sockets i) hf hwritten hplain x)
    · exact h

/-- **No data is received with UDP**, in any run of the segment. -/
theorem udp_data_lost (S : Stations ι) (nowMs : ι → Int) (ipaddr : ι → String)
    (es : List (SegmentEvent ι)) (hes : Guarded step (Admits S) (start S nowMs ipaddr) es)
    (huse : Guarded step UdpUse (start S nowMs ipaddr) es) (i : ι) (id : UdpId)
    (queue : List (List UInt8))
    (hqueue : ((run step (start S nowMs ipaddr) es).host i).udp id = some queue) :
    ∀ data ∈ queue, data = [] := by
  have hstart : Mute S (start S nowMs ipaddr) :=
    ⟨holds_start S Datagram.IsPlainUdp nowMs ipaddr, fun i id queue hnone => by cases hnone⟩
  have hmute := run_inv (I := Mute S) (fun s e h he => h.step he.1 he.2) hstart (hes.and huse)
  exact hmute.sockets i id queue hqueue

/-- The second station has a socket for empty datagrams of the first, which sends one with data and
an empty one. -/
def sampleUdp : List (SegmentEvent Bool) :=
  [.host true (.udp ⟨0x0A000001, 1234, 0x0A000002, 80⟩ (some []))] ++ sampleRun ++
    [.host false (.txIp (.udp ⟨80, 1234, []⟩) 0x0A000002 0x0A000001 64 IP_PROTO_UDP []
      ⟨7, 8, 0⟩)] ++
    sampleExchange ++ [.transmit false 3, .receive true 2 ⟨1, 2, 0⟩, .receive true 3 ⟨1, 2, 0⟩]

theorem sampleUdp_admitted : Guarded step (Admits sampleStations) sampleStart sampleUdp :=
  ⟨trivial, trivial, trivial, trivial, trivial, trivial, trivial, rfl, rfl, trivial, trivial,
    trivial, trivial, trivial, trivial, trivial, trivial, trivial⟩

theorem sampleUdp_use : Guarded step UdpUse sampleStart sampleUdp :=
  ⟨fun _ hq => .inl (Option.some.inj hq).symm, trivial, trivial, trivial, trivial, trivial, trivial,
    fun _ => ⟨rfl, _, rfl⟩, fun _ => ⟨rfl, _, rfl⟩, trivial, trivial, trivial, trivial, trivial,
      trivial, trivial,
    trivial, trivial⟩

/-- Both datagrams get to the second station, and the socket is given the empty one. -/
theorem udp_data_lost_two : ((run step sampleStart sampleUdp).host true).udp
    ⟨0x0A000001, 1234, 0x0A000002, 80⟩ = some [[]] ∧ ∀ data ∈ [([] : List UInt8)], data = [] := by
  have hqueue :
    ((run step sampleStart sampleUdp).host true).udp ⟨0x0A000001, 1234, 0x0A000002, 80⟩ =
      some [[]] := by
    decide +kernel
  exact ⟨hqueue, udp_data_lost sampleStations _ _ sampleUdp sampleUdp_admitted sampleUdp_use
    true _ _ hqueue⟩

end Segment

end Tipy
