import Tipy.Arp.Rx
import Tipy.Wire.RoundTrip

/-!
# The frames of the TX ring as bytes

`ARPBuilder.build`, `IPFragBuilder.build`, and what `_tx_loop` writes to the interface for a frame,
whatever it carries. A frame whose values do not fit their fields makes `build` raise; of a frame
that is written, the parsers of the receiver read back what the builders were given. An IP packet of
`tx_ip` never looks like a fragment: after its header, nothing is written to the first ten bytes of
the packet.
-/

namespace Tipy

open Wire Ip

/-! ## What a call that does not raise has done -/

theorem bind_eq_ok {ε α β : Type} {x : Except ε α} {f : α → Except ε β} {b : β} :
    x >>= f = .ok b ↔ ∃ a, x = .ok a ∧ f a = .ok b := by
  cases x with
  | error e => simp [bind, Except.bind]
  | ok a => simp [bind, Except.bind]

namespace Wire

variable {buf buf' : List UInt8} {fields : List (Fmt × Nat)} {off : Nat}

theorem structPack_bound {bs : List UInt8} (h : structPack fields = some bs) :
    ∀ f ∈ fields, f.2 < f.1.bound := by
  induction fields generalizing bs with
  | nil => simp
  | cons f fields ih =>
    simp only [structPack] at h
    split at h
    · next hf =>
      obtain ⟨bs', hbs, -⟩ := Option.map_eq_some_iff.1 h
      exact List.forall_mem_cons.2 ⟨hf, ih hbs⟩
    · cases h

/-- The values were in range, and their bytes are in the buffer. -/
theorem structPackInto_ok (h : structPackInto buf off fields = .ok buf') :
    (∀ f ∈ fields, f.2 < f.1.bound) ∧
      packInto buf off (fields.flatMap fun f => f.1.bytes f.2) = some buf' := by
  unfold structPackInto at h
  split at h
  · next hbind =>
    cases h
    obtain ⟨bs, hbs, hpack⟩ := Option.bind_eq_some_iff.1 hbind
    have hbound := structPack_bound hbs
    obtain rfl := Option.some.inj ((structPack_eq_some fields hbound).symm.trans hbs)
    exact ⟨hbound, hpack⟩
  · cases h

/-- Nothing was written before `off`. -/
structure KeepsFront (off : Nat) (buf buf' : List UInt8) : Prop where
  length : buf'.length = buf.length
  front : ∀ i < off, buf'[i]? = buf[i]?

theorem KeepsFront.refl (off : Nat) (buf : List UInt8) : KeepsFront off buf buf :=
  ⟨rfl, fun _ _ => rfl⟩

theorem KeepsFront.trans {buf'' : List UInt8} (h : KeepsFront off buf buf')
    (h' : KeepsFront off buf' buf'') :
    KeepsFront off buf buf'' :=
  ⟨h'.length.trans h.length, fun i hi => (h'.front i hi).trans (h.front i hi)⟩

theorem keepsFront_packInto {data : List UInt8} {at' : Nat} (h : packInto buf at' data = some buf')
    (hoff : off ≤ at') : KeepsFront off buf buf' := by
  refine ⟨length_of_packInto h, fun i hi => ?_⟩
  rw [getElem?_of_packInto h, if_neg (by omega)]

theorem keepsFront_structPackInto {at' : Nat} (h : structPackInto buf at' fields = .ok buf')
    (hoff : off ≤ at') : KeepsFront off buf buf' :=
  keepsFront_packInto (structPackInto_ok h).2 hoff

theorem keepsFront_opt {opt : IPOpt} {at' : Nat} (h : opt.build buf at' = .ok buf')
    (hoff : off ≤ at') :
    KeepsFront off buf buf' := by
  have hpack {data : List UInt8} (h : IPOpt.build.ofPack (packInto buf at' data) = .ok buf') :
      KeepsFront off buf buf' := by
    cases hdata : packInto buf at' data with
    | none =>
      rw [hdata] at h
      cases h
    | some frame =>
      rw [hdata] at h
      cases h
      exact keepsFront_packInto hdata hoff
  cases opt with
  | eol arg =>
    cases arg with
    | int n => exact hpack h
    | raw opts => cases h
  | nop arg =>
    cases arg with
    | int n => exact keepsFront_structPackInto h hoff
    | raw opts => cases h
  | lsrr opt start stop => exact hpack h
  | unknown opt start stop =>
    cases h
    exact .refl off buf

theorem keepsFront_ipOptBuild {options : List IPOpt} {at' : Nat}
    (h : ipOptBuild buf at' options = .ok buf') (hoff : off ≤ at') : KeepsFront off buf buf' := by
  induction options generalizing buf at' with
  | nil =>
    cases h
    exact .refl off _
  | cons opt options ih =>
    obtain ⟨frame, hopt, h⟩ := bind_eq_ok.1 h
    obtain ⟨n, -, h⟩ := bind_eq_ok.1 h
    exact (keepsFront_opt hopt hoff).trans (ih h (by omega))

/-- The payload is built behind the header. -/
theorem front_of_buildAt {build : List UInt8 → Except PyError (List UInt8)} {at' : Nat}
    (h : buildAt buf at' build = .ok buf') {i : Nat} (hat : i < at') (hi : i < buf.length) :
    buf'[i]? = buf[i]? := by
  obtain ⟨rest, -, h⟩ := bind_eq_ok.1 h
  cases h
  rw [List.getElem?_append_left (by simp; omega), List.getElem?_take_of_lt hat]

end Wire

/-! ## Builders -/

namespace Ip.IPFragBuilder

variable (b : IPFragBuilder)

/-- `build`; the first value it packs is made with `self.__ihl`. A negative offset makes a negative
value, which no format packs. -/
def build (frame : List UInt8) : Except PyError (List UInt8) := do
  let ihl ← getAttribute b.privateIhl
  let frame ← if b.offset < 0 then throw .structError else
    structPackInto frame 0 [(.B, IP_VERSION <<< 4 ||| ihl), (.B, 0), (.H, b.totalLen), (.H, b.id),
      (.H, b.flagDf.toNat <<< 14 ||| b.flagMf.toNat <<< 13 ||| b.offset.toNat), (.B, b.ttl),
      (.B, b.protocol), (.H, 0), (.I, b.src), (.I, b.dst)]
  let frame ← ipOptBuild frame 20 b.options
  let frame ← writeCsum frame 10 0
  match packInto frame (ihl * 4) b.payload with
  | some frame => return frame
  | none => throw .structError

def len : Except PyError Nat := do return (← getAttribute b.privateIhl) * 4 + b.payload.length

end Ip.IPFragBuilder

namespace Arp

def ARP_HEADER_LEN : Nat := 28

namespace ARPBuilder

variable (b : ARPBuilder)

/-- What `build` packs: Ethernet and IPv4 with the lengths of their addresses, and the fields. -/
def fields : List (Fmt × Nat) :=
  [(.H, 1), (.H, 0x0800), (.B, 6), (.B, 4), (.H, b.op), (.I, b.sha >>> 16), (.H, b.sha &&& 0xFFFF),
    (.I, b.spa), (.I, b.tha >>> 16), (.H, b.tha &&& 0xFFFF), (.I, b.tpa)]

def build (frame : List UInt8) : Except PyError (List UInt8) := structPackInto frame 0 b.fields

/-- The values fit their fields. -/
structure InRange : Prop where
  op : b.op < 65536
  sha : b.sha < 281474976710656
  spa : b.spa < 4294967296
  tha : b.tha < 281474976710656
  tpa : b.tpa < 4294967296

/-- The packet. -/
def packet : List UInt8 := b.fields.flatMap fun f => f.1.bytes f.2

theorem length_packet : b.packet.length = ARP_HEADER_LEN := rfl

theorem inRange_iff : b.InRange ↔ ∀ f ∈ b.fields, f.2 < f.1.bound := by
  simp only [fields, List.forall_mem_cons, Fmt.bound, EtherBuilder.mac_low,
    Nat.shiftRight_eq_div_pow]
  constructor
  · rintro ⟨hop, hsha, hspa, htha, htpa⟩
    exact ⟨by omega, by omega, by omega, by omega, hop, by omega, by omega,
      hspa, by omega, by omega, htpa,
      by simp⟩
  · rintro ⟨-, -, -, -, hop, hsha, -, hspa, htha, -, htpa, -⟩
    exact ⟨hop, by omega, hspa, by omega, htpa⟩

/-- **`build`** on a frame of zeros. -/
theorem build_zeros_iff {n : Nat} {frame : List UInt8} (hn : ARP_HEADER_LEN ≤ n) :
    b.build (zeros n) = .ok frame ↔ b.InRange ∧ frame = b.packet ++ zeros (n - ARP_HEADER_LEN) := by
  rw [inRange_iff]
  constructor
  · intro h
    obtain ⟨hbound, -⟩ := structPackInto_ok h
    have hwrite := structPackInto_zeros (structPack_eq_some _ hbound) (n := n) hn
    exact ⟨hbound, Except.ok.inj (h.symm.trans hwrite)⟩
  · rintro ⟨hbound, rfl⟩
    exact structPackInto_zeros (structPack_eq_some _ hbound) hn

end ARPBuilder

/-- `ARPParser` returns what `ARPBuilder` was given. -/
structure ArpReceived (b : ARPBuilder) (p : ARPParser) : Prop where
  length : p.frame.length = ARP_HEADER_LEN
  op : p.op = b.op
  sha : p.sha = b.sha
  spa : p.spa = b.spa
  tha : p.tha = b.tha
  tpa : p.tpa = b.tpa

theorem ARPBuilder.InRange.received {b : ARPBuilder} (h : b.InRange) :
    ArpReceived b ⟨b.packet⟩ where
  length := b.length_packet
  op := u16At_of_drop rfl h.op
  sha := mac_of_drop h.sha rfl
  spa := u32At_of_drop rfl h.spa
  tha := mac_of_drop h.tha rfl
  tpa := u32At_of_drop rfl h.tpa

/-! ## Frames -/

namespace Carried

/-- `build` of the payload of an `EtherBuilder`. -/
def build (frame : List UInt8) : Carried Datagram → Except PyError (List UInt8)
  | .datagram (.whole b) => b.build frame
  | .datagram (.frag b) => b.build frame
  | .arp b => b.build frame

def len : Carried Datagram → Except PyError Nat
  | .datagram (.whole b) => .ok b.len
  | .datagram (.frag b) => b.len
  | .arp _ => .ok ARP_HEADER_LEN

end Carried

namespace Frame

variable (f : Frame Datagram)

/-- `EtherBuilder.build`. -/
def build (frame : List UInt8) : Except PyError (List UInt8) := do
  let frame ← structPackInto frame 0 [(.I, f.dst >>> 16), (.H, f.dst &&& 0xFFFF),
    (.I, f.src >>> 16), (.H, f.src &&& 0xFFFF), (.H, f.type)]
  buildAt frame 14 fun rest => f.payload.build rest

/-- What `_tx_loop` writes to the interface. -/
def bytes : Except PyError (List UInt8) := do
  let frame ← f.build (List.replicate (MTU + 14) 0)
  return frame.take (ETHER_LEN + (← f.payload.len))

variable {f}

/-- The frame of an IP packet is that of `EtherBuilder`. -/
theorem bytes_whole (b : IPBuilder) (dst src type : Nat) :
    (Frame.mk (.datagram (.whole b)) dst src type).bytes = (EtherBuilder.mk b dst src type).frame :=
  rfl

/-- What is written, when nothing raises. -/
structure Written (f : Frame Datagram) (bs body : List UInt8) : Prop where
  dst : f.dst < 281474976710656
  src : f.src < 281474976710656
  type : f.type < 65536
  eq : bs = EtherBuilder.header f.dst f.src f.type ++ body
  body : ∃ frame n, f.payload.build (zeros MTU) = .ok frame ∧ f.payload.len = .ok n ∧
    body = frame.take n

theorem bytes_ok {bs : List UInt8} (h : f.bytes = .ok bs) : ∃ body, f.Written bs body := by
  obtain ⟨frame, hbuild, h⟩ := bind_eq_ok.1 h
  obtain ⟨n, hlen, h⟩ := bind_eq_ok.1 h
  obtain rfl := Except.ok.inj h
  obtain ⟨hdr, hheader, hpayload⟩ := bind_eq_ok.1 hbuild
  obtain ⟨hbound, -⟩ := structPackInto_ok hheader
  have hwrite :=
    structPackInto_zeros (structPack_eq_some _ hbound) (n := MTU + 14) (by simp [Fmt.bytes, MTU])
  have hhdr : hdr = EtherBuilder.header f.dst f.src f.type ++ zeros MTU :=
    (Except.ok.inj (hheader.symm.trans hwrite)).trans
      (by simp [EtherBuilder.header, Fmt.bytes, MTU])
  have hat := buildAt_append (EtherBuilder.header f.dst f.src f.type) (zeros MTU)
    fun rest => f.payload.build rest
  rw [EtherBuilder.length_header, ← hhdr, hpayload] at hat
  simp only [List.forall_mem_cons, Fmt.bound, EtherBuilder.mac_low,
    Nat.shiftRight_eq_div_pow] at hbound
  cases hbody : f.payload.build (zeros MTU) with
  | error e =>
    rw [hbody] at hat
    cases hat
  | ok body =>
    rw [hbody] at hat
    obtain rfl := Except.ok.inj hat
    refine ⟨body.take n, by omega, by omega, by omega, ?_, body, n, hbody, hlen, rfl⟩
    rw [ETHER_LEN, ← EtherBuilder.length_header f.dst f.src f.type, List.take_length_add_append]

namespace Written

variable {bs body : List UInt8}

theorem ether (h : f.Written bs body) : EtherReceived ⟨bs⟩ f.dst f.src f.type := by
  rw [h.eq]
  exact etherReceived h.dst h.src h.type body

theorem drop_header (h : f.Written bs body) : bs.drop 14 = body := by
  rw [h.eq]
  exact List.drop_left' (EtherBuilder.length_header ..)

theorem length (h : f.Written bs body) : 14 ≤ bs.length := by
  rw [h.eq, List.length_append, EtherBuilder.length_header]
  omega

/-- **An ARP packet** is read back. -/
theorem arp {b : ARPBuilder} (h : f.Written bs body) (hb : f.payload = .arp b) :
    b.InRange ∧ ArpReceived b ⟨bs.drop 14⟩ := by
  obtain ⟨frame, n, hbuild, hlen, rfl⟩ := h.body
  rw [hb] at hbuild hlen
  obtain ⟨hrange, rfl⟩ := (b.build_zeros_iff (by decide)).1 hbuild
  obtain rfl := Except.ok.inj hlen
  refine ⟨hrange, ?_⟩
  rw [h.drop_header, List.take_left' b.length_packet]
  exact hrange.received

end Written

/-- An ARP frame whose values fit is written. -/
theorem bytes_arp {b : ARPBuilder} {dst src type : Nat} (hdst : dst < 281474976710656)
    (hsrc : src < 281474976710656) (htype : type < 65536) (hb : b.InRange) :
    (Frame.mk (.arp b) dst src type).bytes =
    .ok (EtherBuilder.header dst src type ++ b.packet) := by
  have hpack := structPack_eq_some [(.I, dst >>> 16), (.H, dst &&& 0xFFFF), (.I, src >>> 16),
      (.H, src &&& 0xFFFF), (.H, type)] (by
    simp only [List.forall_mem_cons, Fmt.bound, EtherBuilder.mac_low, Nat.shiftRight_eq_div_pow]
    exact ⟨by omega, by omega, by omega, by omega, htype, by simp⟩)
  have hwrite : structPackInto (zeros (MTU + 14)) 0 [(.I, dst >>> 16), (.H, dst &&& 0xFFFF),
      (.I, src >>> 16), (.H, src &&& 0xFFFF), (.H, type)] =
      .ok (EtherBuilder.header dst src type ++ zeros MTU) := by
    rw [structPackInto_zeros hpack (by simp [Fmt.bytes, MTU])]
    simp [EtherBuilder.header, Fmt.bytes, MTU]
  have hpacket := (b.build_zeros_iff (n := MTU) (by decide)).2 ⟨hb, rfl⟩
  have hat := buildAt_append (EtherBuilder.header dst src type) (zeros MTU) b.build
  rw [EtherBuilder.length_header, hpacket] at hat
  have hbuild : (Frame.mk (.arp b) dst src type).build (zeros (MTU + 14)) =
      .ok (EtherBuilder.header dst src type ++ (b.packet ++ zeros (MTU - ARP_HEADER_LEN))) := by
    rw [build, hwrite]
    exact hat
  refine bind_eq_ok.2 ⟨_, hbuild, bind_eq_ok.2 ⟨ARP_HEADER_LEN, rfl, ?_⟩⟩
  rw [ETHER_LEN, ← EtherBuilder.length_header dst src type, List.take_length_add_append,
    List.take_left' b.length_packet]
  rfl

end Frame

/-! ## Packets that are no fragments -/

end Arp

namespace Wire.IPBuilder

/-- What `tx_ip` makes: the offset and the flags are those `__init__` has by default. -/
structure Unfragmented (b : IPBuilder) : Prop where
  offset : b.offset = 0
  flagDf : b.flagDf = false
  flagMf : b.flagMf = false
  ihl : 5 ≤ b.ihl

theorem unfragmented_of_new {payload : Payload} {id ttl protocol src dst : Nat}
    {options : List IPOpt} {b : IPBuilder}
    (h : new payload id ttl protocol src dst options = .ok b) : b.Unfragmented := by
  obtain ⟨ihl, hihl, h⟩ := bind_eq_ok.1 h
  obtain rfl := Except.ok.inj h
  refine ⟨rfl, rfl, rfl, ?_⟩
  unfold ipIhl at hihl
  split at hihl
  · obtain rfl := Except.ok.inj hihl
    exact le_rfl
  · obtain ⟨n, -, hn⟩ := bind_eq_ok.1 hihl
    obtain rfl := Except.ok.inj hn
    simp [IP_IHL]

/-- What `build` packs first. -/
def fields (b : IPBuilder) : List (Fmt × Nat) :=
  [(.B, IP_VERSION <<< 4 ||| b.ihl), (.B, 0), (.H, b.totalLen), (.H, b.id),
    (.H, b.flagDf.toNat <<< 14 ||| b.flagMf.toNat <<< 13 ||| b.offset), (.B, b.ttl),
      (.B, b.protocol),
    (.H, 0), (.I, b.src), (.I, b.dst)]

/-- The header but for its checksum stays as it was packed, whatever the options and the payload
write. -/
theorem Unfragmented.header {b : IPBuilder} (hb : b.Unfragmented) {buf out : List UInt8}
    (h : b.build buf = .ok out) : (∀ f ∈ b.fields, f.2 < f.1.bound) ∧ ∀ i < 20, i ≠ 10 → i ≠ 11 →
      out[i]? = (b.fields.flatMap fun f => f.1.bytes f.2)[i]? := by
  obtain ⟨hdr, hheader, h⟩ := bind_eq_ok.1 h
  obtain ⟨opts, hopts, h⟩ := bind_eq_ok.1 h
  obtain ⟨summed, hsum, h⟩ := bind_eq_ok.1 h
  obtain ⟨hbound, hpack⟩ := structPackInto_ok hheader
  refine ⟨hbound, fun i hi h10 h11 => ?_⟩
  have hlen := length_of_packInto hpack
  have hroom : 20 ≤ buf.length := by
    unfold packInto at hpack
    split at hpack
    · next hle => simpa [Fmt.bytes] using hle
    · cases hpack
  have hkeeps : KeepsFront 20 hdr opts := keepsFront_ipOptBuild hopts le_rfl
  have hcsum := (structPackInto_ok hsum).2
  have hsummed := getElem?_of_packInto hcsum i
  rw [if_neg (by simp [Fmt.bytes]; omega), hkeeps.front i hi, getElem?_of_packInto hpack,
    if_pos (by simp [Fmt.bytes]; omega)] at hsummed
  have hroom' : summed.length = buf.length :=
    (length_of_packInto hcsum).trans (hkeeps.length.trans hlen)
  have hihl := hb.ihl
  refine Eq.trans ?_ hsummed
  split at h
  · obtain ⟨phsum, -, h⟩ := bind_eq_ok.1 h
    exact front_of_buildAt h (by omega) (by omega)
  · exact front_of_buildAt h (by omega) (by omega)

end Wire.IPBuilder

namespace Arp.Frame.Written

variable {f : Frame Datagram} {bs body : List UInt8} {b : IPBuilder}

/-- Two bytes of the header of a packet that was written. -/
theorem u16At_header (h : f.Written bs body) (hf : f.payload = .datagram (.whole b))
    (hb : b.Unfragmented) {i : Nat} (hi : i < 19) (hcsum : i < 9 ∨ 11 < i) :
    u16At (bs.drop 14) i = u16At (b.fields.flatMap fun f => f.1.bytes f.2) i := by
  obtain ⟨frame, n, hbuild, hlen, rfl⟩ := h.body
  rw [hf] at hbuild hlen
  obtain rfl : b.len = n := Except.ok.inj hlen
  have hroom : 20 ≤ b.len := by
    have hihl := hb.ihl
    rw [IPBuilder.len]
    omega
  have hheader := (hb.header hbuild).2
  rw [h.drop_header]
  refine u16At_congr ?_ ?_
  · rw [List.getElem?_take_of_lt (by omega)]
    exact hheader i (by omega) (by omega) (by omega)
  · rw [List.getElem?_take_of_lt (by omega)]
    exact hheader (i + 1) (by omega) (by omega) (by omega)

/-- **The destination** of a packet is read back. -/
theorem dst_whole (h : f.Written bs body) (hf : f.payload = .datagram (.whole b))
    (hb : b.Unfragmented) :
    (IPParser.mk (bs.drop 14)).dst = b.dst := by
  obtain ⟨frame, -, hbuild, -⟩ := h.body
  rw [hf] at hbuild
  have hbound := (hb.header hbuild).1 (.I, b.dst) (by simp [IPBuilder.fields])
  have hread := @u32At_of_drop (b.fields.flatMap fun f => f.1.bytes f.2) [] 16 b.dst rfl hbound
  refine Eq.trans ?_ hread
  rw [IPParser.dst, u32At, u32At, h.u16At_header hf hb (by omega) (.inr (by omega)),
    h.u16At_header hf hb (by omega) (.inr (by omega))]

/-- **A packet of `tx_ip`** is no fragment to `rx_ip`. -/
theorem not_fragment (h : f.Written bs body) (hf : f.payload = .datagram (.whole b))
    (hb : b.Unfragmented) (unicastIp : Nat) : rxIp unicastIp ⟨bs.drop 14⟩ ≠ .fragment := by
  have hfrag : (IPParser.mk (bs.drop 14)).flagsFragoff = 0 := by
    rw [IPParser.flagsFragoff, h.u16At_header hf hb (by omega) (.inl (by omega))]
    refine @u16At_of_drop _ ([UInt8.ofNat b.ttl, UInt8.ofNat b.protocol] ++ be16 0 ++ be32 b.src ++
      be32 b.dst) 6 0 ?_ (by omega)
    simp [IPBuilder.fields, Fmt.bytes, hb.offset, hb.flagDf, hb.flagMf, be16, be32]
  have hwhole : (IPParser.mk (bs.drop 14)).offset = 0 ∧
      (IPParser.mk (bs.drop 14)).flagMf = false := by
    simp [IPParser.offset, IPParser.flagMf, hfrag]
  unfold rxIp
  rw [if_pos hwhole]
  split
  · exact IpInput.noConfusion
  split
  · exact IpInput.noConfusion
  split
  · exact IpInput.noConfusion
  split
  · exact IpInput.noConfusion
  split
  · exact IpInput.noConfusion
  · exact IpInput.noConfusion

end Arp.Frame.Written

end Tipy
