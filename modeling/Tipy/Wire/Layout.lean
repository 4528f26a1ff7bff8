import Tipy.Wire.Builder

/-!
# What the builders write

A builder that is given a frame of zeros leaves its header, its payload and zeros on it; the lemmas
here say which bytes these are. The checksums stand at even places of what they are computed over,
and nothing but zeros follows, so what they make of the whole frame they make of the packet too.
-/

namespace Tipy.Wire

/-! ## Writing behind what was written -/

section Write

variable (xs ys : List UInt8) {data bs : List UInt8} {fields : List (Fmt × Nat)}

theorem structPack_eq_some (fields : List (Fmt × Nat)) (h : ∀ f ∈ fields, f.2 < f.1.bound) :
    structPack fields = some (fields.flatMap fun f => f.1.bytes f.2) := by
  induction fields with
  | nil => rfl
  | cons f fields ih =>
    have hf : f.2 < f.1.bound := h f List.mem_cons_self
    have hrest := ih fun f hf => h f (List.mem_cons_of_mem _ hf)
    simp only [structPack, if_pos hf, hrest, Option.map_some, List.flatMap_cons]

theorem packInto_append (h : data.length ≤ ys.length) :
    packInto (xs ++ ys) xs.length data = some (xs ++ data ++ ys.drop data.length) := by
  rw [packInto_eq_some (by simp; omega), List.take_left, List.drop_append]
  have hdrop : xs.drop (xs.length + data.length) = [] := List.drop_eq_nil_of_le (by omega)
  rw [hdrop, List.nil_append, Nat.add_sub_cancel_left]

theorem structPackInto_append (hpack : structPack fields = some bs) (h : bs.length ≤ ys.length) :
    structPackInto (xs ++ ys) xs.length fields = .ok (xs ++ bs ++ ys.drop bs.length) := by
  simp only [structPackInto, hpack, Option.bind_some, packInto_append xs ys h]

theorem sliceAssign_append (data : List UInt8) (h : data.length ≤ ys.length) :
    sliceAssign (xs ++ ys) xs.length data = .ok (xs ++ data ++ ys.drop data.length) := by
  unfold sliceAssign
  split
  · next hnil => simp [hnil]
  · rw [packInto_append xs ys h]

theorem buildAt_append (build : List UInt8 → Except PyError (List UInt8)) :
    buildAt (xs ++ ys) xs.length build = (build ys).map (xs ++ ·) := by
  unfold buildAt
  rw [List.take_left, List.drop_left]
  cases build ys <;> rfl

/-- A checksum goes where zeros are. -/
theorem writeCsum_append (front back : List UInt8) (phsum : Nat) :
    writeCsum (front ++ be16 0 ++ back) front.length phsum =
      .ok (front ++ be16 (inetCsum (front ++ be16 0 ++ back) phsum) ++ back) := by
  have hpack : structPack [(.H, inetCsum (front ++ be16 0 ++ back) phsum)] =
      some (be16 (inetCsum (front ++ be16 0 ++ back) phsum)) := by
    rw [structPack_eq_some _ (by simpa [Fmt.bound] using inetCsum_lt _ _)]
    simp [Fmt.bytes]
  have hwrite := structPackInto_append front (be16 0 ++ back) hpack (by simp)
  simpa [writeCsum, be16] using hwrite

end Write

/-- A buffer of zeros. -/
def zeros (n : Nat) : List UInt8 := List.replicate n 0

@[simp] theorem length_zeros (n : Nat) : (zeros n).length = n := List.length_replicate

@[simp] theorem drop_zeros (n k : Nat) : (zeros n).drop k = zeros (n - k) := List.drop_replicate

/-- A header at the start of a frame of zeros. -/
theorem structPackInto_zeros {fields : List (Fmt × Nat)} {bs : List UInt8} {n : Nat}
    (hpack : structPack fields = some bs) (h : bs.length ≤ n) :
    structPackInto (zeros n) 0 fields = .ok (bs ++ zeros (n - bs.length)) := by
  simpa using structPackInto_append [] (zeros n) hpack (by simpa using h)

/-! ## TCP -/

/-- The bytes of an option. -/
def TCPOpt.bytes : TCPOpt → List UInt8
  | .eol count => zeros count
  | .nop => [1]
  | .mss => [2, 4] ++ be16 MSS

/-- `build` of the option does not raise for want of values. -/
def TCPOpt.Packs : TCPOpt → Prop
  | .eol count => count = 1
  | _ => True

theorem TCPOpt.length_bytes (o : TCPOpt) : o.bytes.length = o.len := by
  cases o with
  | eol count => exact length_zeros count
  | nop => rfl
  | mss => rfl

theorem length_flatMap_bytes (options : List TCPOpt) :
    (options.flatMap TCPOpt.bytes).length = tcpOptLen options := by
  simp only [List.length_flatMap, TCPOpt.length_bytes, tcpOptLen]

theorem TCPOpt.Packs.build {o : TCPOpt} (h : o.Packs) (xs : List UInt8) {n : Nat} (hn : o.len ≤ n) :
    o.build (xs ++ zeros n) xs.length = .ok (xs ++ o.bytes ++ zeros (n - o.len)) := by
  have hlen : o.bytes.length ≤ (zeros n).length := by rwa [o.length_bytes, length_zeros]
  rw [← o.length_bytes, ← drop_zeros]
  cases o with
  | eol count =>
    obtain rfl : count = 1 := h
    exact structPackInto_append xs (zeros n) rfl hlen
  | nop => exact structPackInto_append xs (zeros n) rfl hlen
  | mss => exact structPackInto_append xs (zeros n) rfl hlen

/-- **The options** on a frame of zeros. -/
theorem tcpOptBuild_append {options : List TCPOpt} (h : ∀ o ∈ options, o.Packs) (xs : List UInt8)
    {n : Nat} (hn : tcpOptLen options ≤ n) : tcpOptBuild (xs ++ zeros n) xs.length options =
      .ok (xs ++ options.flatMap TCPOpt.bytes ++ zeros (n - tcpOptLen options)) := by
  induction options generalizing xs n with
  | nil => simp [tcpOptBuild, tcpOptLen]
  | cons o options ih =>
    obtain ⟨ho, hoptions⟩ := List.forall_mem_cons.1 h
    have hsum : tcpOptLen (o :: options) = o.len + tcpOptLen options := rfl
    have hrest := ih hoptions (xs ++ o.bytes) (n := n - o.len) (by omega)
    rw [List.length_append, o.length_bytes] at hrest
    simp only [tcpOptBuild, ho.build xs (n := n) (by omega), bind, Except.bind]
    rw [hrest, hsum, List.flatMap_cons, Nat.sub_sub, List.append_assoc xs]

namespace TCPBuilder

variable (b : TCPBuilder)

/-- The header up to the checksum. -/
def front : List UInt8 :=
  be16 b.src ++ be16 b.dst ++ be32 b.seq ++ be32 b.ackSeq ++ be16 (b.doff <<< 12 ||| b.flags) ++
    be16 b.window

/-- The bytes of the options. -/
def optBytes : List UInt8 := if b.options = [] then [] else [2, 4] ++ be16 MSS

/-- What follows the checksum. -/
def back : List UInt8 := be16 b.urgPtr ++ b.optBytes ++ b.data

/-- The segment, with a checksum. -/
def segment (csum : Nat) : List UInt8 := b.front ++ be16 csum ++ b.back

/-- The values fit their fields. -/
structure InRange : Prop where
  src : b.src < 65536
  dst : b.dst < 65536
  seq : b.seq < 4294967296
  ackSeq : b.ackSeq < 4294967296
  window : b.window < 65536
  urgPtr : b.urgPtr < 65536

/-- The options of `tx_tcp`: none, or the MSS. -/
def PlainOptions : Prop := b.options = [] ∨ b.options = [.mss]

instance : Decidable b.PlainOptions := inferInstanceAs (Decidable (_ ∨ _))

variable {b}

theorem PlainOptions.length (h : b.PlainOptions) : b.optBytes.length = tcpOptLen b.options := by
  rcases h with h | h <;> simp [optBytes, h, tcpOptLen, TCPOpt.len]

theorem PlainOptions.doff (h : b.PlainOptions) : b.doff * 4 = 20 + tcpOptLen b.options := by
  rcases h with h | h <;> simp [TCPBuilder.doff, h, tcpOptLen, TCPOpt.len]

theorem PlainOptions.doff_le (h : b.PlainOptions) : b.doff ≤ 6 := by
  have hdoff := h.doff
  rcases h with h | h <;> simp [h, tcpOptLen, TCPOpt.len] at hdoff <;> omega

theorem PlainOptions.optBytes_eq (h : b.PlainOptions) :
    b.optBytes = b.options.flatMap TCPOpt.bytes := by
  rcases h with h | h <;> simp [TCPBuilder.optBytes, h, TCPOpt.bytes]

theorem PlainOptions.packs (h : b.PlainOptions) : ∀ o ∈ b.options, o.Packs := by
  rcases h with h | h <;> simp [h, TCPOpt.Packs]

theorem flags_lt : b.flags < 256 := by
  unfold flags
  generalize b.cwr = c
  generalize b.ece = e
  generalize b.urg = u
  generalize b.ack = a
  generalize b.psh = p
  generalize b.rst = r
  generalize b.syn = s
  generalize b.fin = f
  revert c e u a p r s f
  decide

theorem doff_flags (b : TCPBuilder) : b.doff <<< 12 ||| b.flags = b.doff * 4096 + b.flags := by
  have hlt : b.flags < 2 ^ 12 := by
    have := b.flags_lt
    omega
  rw [← Nat.shiftLeft_add_eq_or_of_lt hlt, Nat.shiftLeft_eq]

theorem length_front : b.front.length = 16 := rfl

theorem length_segment (h : b.PlainOptions) (csum : Nat) : (b.segment csum).length = b.len := by
  simp [segment, back, length_front, h.length, len, h.doff]
  omega

/-- The first step of `build`. -/
theorem InRange.header (h : b.InRange) (hdoff : b.doff ≤ 15) {n : Nat} (hn : 20 ≤ n) :
    structPackInto (zeros n) 0 [(.H, b.src), (.H, b.dst), (.I, b.seq), (.I, b.ackSeq),
      (.H, b.doff <<< 12 ||| b.flags), (.H, b.window), (.H, 0), (.H, b.urgPtr)] =
    .ok (b.front ++ be16 0 ++ be16 b.urgPtr ++ zeros (n - 20)) := by
  have hflags := b.flags_lt
  have hfits := structPack_eq_some [(.H, b.src), (.H, b.dst), (.I, b.seq), (.I, b.ackSeq),
      (.H, b.doff <<< 12 ||| b.flags), (.H, b.window), (.H, 0), (.H, b.urgPtr)] (by
    simp only [List.forall_mem_cons, Fmt.bound, doff_flags]
    exact ⟨h.src, h.dst, h.seq, h.ackSeq, by omega, h.window, by omega, h.urgPtr, by simp⟩)
  have hwrite := structPackInto_zeros hfits (n := n) (by simpa [Fmt.bytes] using hn)
  rw [hwrite]
  simp [Fmt.bytes, front]

/-- The segment with the bytes of its options. -/
theorem build_options (h : b.InRange) (hdoff : b.doff ≤ 15) (hpacks : ∀ o ∈ b.options, o.Packs)
    {rest n : Nat} (hn : n = 20 + tcpOptLen b.options + b.data.length + rest) {back : List UInt8}
    (hback : back = be16 b.urgPtr ++ b.options.flatMap TCPOpt.bytes ++ b.data) (phsum : Nat) :
    b.build (zeros n) phsum = .ok (b.front ++
      be16 (inetCsum (b.front ++ be16 0 ++ back ++ zeros rest) phsum) ++ back ++ zeros rest) := by
  have hhead := h.header hdoff (n := n) (by omega)
  have hopts :=
    tcpOptBuild_append hpacks (b.front ++ be16 0 ++ be16 b.urgPtr) (n := n - 20) (by omega)
  have hdata := sliceAssign_append
    (b.front ++ be16 0 ++ be16 b.urgPtr ++ b.options.flatMap TCPOpt.bytes)
    (zeros (n - 20 - tcpOptLen b.options)) b.data (by simp; omega)
  have hcsum := writeCsum_append b.front (back ++ zeros rest) phsum
  have hrest : n - 20 - tcpOptLen b.options - b.data.length = rest := by omega
  simp only [List.length_append, length_front, length_be16, length_flatMap_bytes] at hopts hdata
  simp only [List.append_assoc, drop_zeros, hrest] at hhead hopts hdata
  simp only [build, hhead, bind, Except.bind, hopts, hdata]
  simpa [hback, List.append_assoc, length_front] using hcsum

/-- **The segment** on a frame of zeros. -/
theorem build_zeros (h : b.InRange) (ho : b.PlainOptions) {n : Nat} (hn : b.len ≤ n) (phsum : Nat) :
    b.build (zeros n) phsum = .ok (b.segment (inetCsum (b.segment 0 ++ zeros (n - b.len)) phsum) ++
      zeros (n - b.len)) := by
  have hlen : b.len = 20 + tcpOptLen b.options + b.data.length := by rw [len, ho.doff]
  have hdoff : b.doff ≤ 15 := ho.doff_le.trans (by decide)
  exact build_options h hdoff ho.packs (by omega) (by rw [back, ho.optBytes_eq]) phsum

end TCPBuilder

/-! ## ICMP echo and UDP -/

namespace ICMPBuilder

variable {b : ICMPBuilder} {echoId echoSeq : Nat}

/-- An echo message with values that fit their fields. -/
structure Echo (b : ICMPBuilder) (echoId echoSeq : Nat) : Prop where
  type : b.type ∈ [ECHO_REQUEST, ECHO_REPLY]
  code : b.code < 256
  id_eq : b.echoId = some echoId
  seq_eq : b.echoSeq = some echoSeq
  id_lt : echoId < 65536
  seq_lt : echoSeq < 65536

/-- The message, with a checksum. -/
def message (b : ICMPBuilder) (echoId echoSeq csum : Nat) : List UInt8 :=
  [UInt8.ofNat b.type, UInt8.ofNat b.code] ++ be16 csum ++
    (be16 echoId ++ be16 echoSeq ++ b.data)

theorem length_message (csum : Nat) : (b.message echoId echoSeq csum).length = b.len := by
  simp [message, len]
  omega

theorem Echo.type_lt (h : b.Echo echoId echoSeq) : b.type < 256 := by
  have ht := h.type
  simp only [List.mem_cons, ECHO_REQUEST, ECHO_REPLY, List.not_mem_nil, or_false] at ht
  omega

theorem Echo.type_ne (h : b.Echo echoId echoSeq) :
    b.type ∉ [DESTINATION_UNREACHABLE, TIME_EXCEEDED] := by
  have ht := h.type
  simp only [List.mem_cons, ECHO_REQUEST, ECHO_REPLY, DESTINATION_UNREACHABLE, TIME_EXCEEDED,
    List.not_mem_nil, or_false] at ht ⊢
  omega

/-- **The echo message** on a frame of zeros. -/
theorem build_zeros (h : b.Echo echoId echoSeq) {n : Nat} (hn : b.len ≤ n) :
    b.build (zeros n) = .ok (b.message echoId echoSeq
      (inetCsum (b.message echoId echoSeq 0 ++ zeros (n - b.len)) 0) ++ zeros (n - b.len)) := by
  have hlen : b.len = b.data.length + 8 := rfl
  have hfits := structPack_eq_some
      [(.B, b.type), (.B, b.code), (.H, 0), (.H, echoId), (.H, echoSeq)] (by
    simp only [List.forall_mem_cons, Fmt.bound]
    exact ⟨h.type_lt, h.code, by omega, h.id_lt, h.seq_lt, by simp⟩)
  have hhead := structPackInto_zeros hfits (n := n) (by simp [Fmt.bytes]; omega)
  simp only [List.flatMap_cons, List.flatMap_nil, Fmt.bytes, List.append_nil] at hhead
  have hdata := sliceAssign_append ([UInt8.ofNat b.type] ++ ([UInt8.ofNat b.code] ++ (be16 0 ++
    (be16 echoId ++ be16 echoSeq)))) (zeros (n - 8)) b.data (by simp; omega)
  have hcsum := writeCsum_append [UInt8.ofNat b.type, UInt8.ofNat b.code]
    (be16 echoId ++ be16 echoSeq ++ b.data ++ zeros (n - b.len)) 0
  have hrest : n - 8 - b.data.length = n - b.len := by omega
  simp only [drop_zeros, hrest] at hdata
  rw [build, if_neg h.type_ne, if_pos h.type, h.id_eq, h.seq_eq]
  simp only [hhead, bind, Except.bind]
  simp only [List.length_append, List.length_cons, List.length_nil, length_be16] at hdata ⊢
  simp only [hdata]
  simpa [message, List.append_assoc] using hcsum

end ICMPBuilder

namespace UDPBuilder

variable (b : UDPBuilder)

/-- The values fit their fields. -/
structure InRange : Prop where
  src : b.src < 65536
  dst : b.dst < 65536
  len : b.len < 65536

/-- The datagram, with a checksum. -/
def datagram (csum : Nat) : List UInt8 :=
  be16 b.src ++ be16 b.dst ++ be16 b.len ++ be16 csum ++ b.data

variable {b}

theorem length_datagram (csum : Nat) : (b.datagram csum).length = b.len := by
  simp [datagram, len, UDP_HEADER_LEN]
  omega

/-- **The datagram** on a frame of zeros. -/
theorem build_zeros (h : b.InRange) {n : Nat} (hn : b.len ≤ n) (phsum : Nat) :
    b.build (zeros n) phsum =
      .ok (b.datagram (inetCsum (b.datagram 0 ++ zeros (n - b.len)) phsum) ++
      zeros (n - b.len)) := by
  have hlen : b.len = b.data.length + 8 := rfl
  have hfits := structPack_eq_some [(.H, b.src), (.H, b.dst), (.H, b.len), (.H, 0)] (by
    simp only [List.forall_mem_cons, Fmt.bound]
    exact ⟨h.src, h.dst, h.len, by omega, by simp⟩)
  simp only [List.flatMap_cons, List.flatMap_nil, Fmt.bytes, List.append_nil] at hfits
  have hroom : (be16 b.src ++ (be16 b.dst ++ (be16 b.len ++ be16 0)) ++ b.data).length ≤
      (zeros n).length := by
    simp
    omega
  have hpack := packInto_append [] (zeros n) hroom
  have hcsum := writeCsum_append (be16 b.src ++ be16 b.dst ++ be16 b.len)
    (b.data ++ zeros (n - b.len)) phsum
  have hrest : n - (be16 b.src ++ (be16 b.dst ++ (be16 b.len ++ be16 0)) ++ b.data).length =
      n - b.len := by
    simp
    omega
  simp only [List.nil_append, List.length_nil, drop_zeros, hrest] at hpack
  simp only [build, hfits, hpack, bind, Except.bind, pure, Except.pure]
  simpa [datagram, List.append_assoc] using hcsum

end UDPBuilder

/-! ## IP -/

namespace IPBuilder

/-- The packet `tx_ip` makes when there are no options. -/
def plain (payload : Payload) (id ttl protocol src dst : Nat) : IPBuilder where
  payload := payload
  id := id
  offset := 0
  flagDf := false
  flagMf := false
  ttl := ttl
  protocol := protocol
  options := []
  ihl := 5
  totalLen := 20 + payload.len
  src := src
  dst := dst

theorem new_nil (payload : Payload) (id ttl protocol src dst : Nat) :
    new payload id ttl protocol src dst [] = .ok (plain payload id ttl protocol src dst) := rfl

theorem len_plain (payload : Payload) (id ttl protocol src dst : Nat) :
    (plain payload id ttl protocol src dst).len = 20 + payload.len := rfl

/-- The header up to the checksum. -/
def front (totalLen id ttl protocol : Nat) : List UInt8 :=
  [0x45, 0] ++ be16 totalLen ++ be16 id ++ be16 0 ++ [UInt8.ofNat ttl, UInt8.ofNat protocol]

theorem length_front (totalLen id ttl protocol : Nat) :
    (front totalLen id ttl protocol).length = 10 := rfl

/-- The header, with a checksum. -/
def header (totalLen id ttl protocol src dst csum : Nat) : List UInt8 :=
  front totalLen id ttl protocol ++ be16 csum ++ (be32 src ++ be32 dst)

theorem length_header (totalLen id ttl protocol src dst csum : Nat) :
    (header totalLen id ttl protocol src dst csum).length = 20 := rfl

/-- The values fit their fields, and the packet is not too long for its length field. -/
structure Fits (id ttl protocol src dst payloadLen : Nat) : Prop where
  id : id < 65536
  ttl : ttl < 256
  protocol : protocol < 256
  src : src < 4294967296
  dst : dst < 4294967296
  len : 20 + payloadLen ≤ 65535

variable {payload : Payload} {id ttl protocol src dst : Nat}

theorem psum_plain (h : Fits id ttl protocol src dst payload.len) :
    (plain payload id ttl protocol src dst).psum = .ok (phdrSum src dst protocol payload.len) := by
  have hlen : (plain payload id ttl protocol src dst).totalLen -
      (plain payload id ttl protocol src dst).ihl * 4 = payload.len := by
    simp [plain]
  have hmax := h.len
  have hfits := structPack_eq_some
      [(.I, src), (.I, dst), (.B, 0), (.B, protocol), (.H, payload.len)] (by
    simp only [List.forall_mem_cons, Fmt.bound]
    exact ⟨h.src, h.dst, by omega, h.protocol, by omega, by simp⟩)
  simp only [psum, hlen]
  simp only [plain, hfits]
  simp [phdrSum, Fmt.bytes]

/-- What the payload gets for its checksum. -/
def phsumOf (protocol src dst payloadLen : Nat) : Option Nat :=
  if protocol ∈ NEED_P_HDR_SUM then some (phdrSum src dst protocol payloadLen) else none

/-- The header, before its checksum. -/
theorem header_zeros (h : Fits id ttl protocol src dst payload.len) (n : Nat) :
    structPackInto (zeros (20 + n)) 0 [(.B, IP_VERSION <<< 4 ||| 5), (.B, 0),
      (.H, 20 + payload.len), (.H, id), (.H, 0), (.B, ttl), (.B, protocol), (.H, 0),
      (.I, src), (.I, dst)] =
    .ok (header (20 + payload.len) id ttl protocol src dst 0 ++ zeros n) := by
  have hlen := h.len
  have hpack : structPack [(.B, IP_VERSION <<< 4 ||| 5), (.B, 0), (.H, 20 + payload.len), (.H, id),
      (.H, 0), (.B, ttl), (.B, protocol), (.H, 0), (.I, src), (.I, dst)] =
      some (header (20 + payload.len) id ttl protocol src dst 0) := by
    refine structPack_eq_some _ ?_
    simp only [List.forall_mem_cons, Fmt.bound]
    exact ⟨by decide, by omega, by omega, h.id, by omega, h.ttl, h.protocol, by omega, h.src, h.dst,
      by simp⟩
  have hwrite := structPackInto_zeros (n := 20 + n) hpack (by simp [length_header])
  rwa [length_header, Nat.add_sub_cancel_left] at hwrite

/-- The checksum of the header is computed while the payload is still zeros. -/
def csum (totalLen id ttl protocol src dst n : Nat) : Nat :=
  inetCsum (header totalLen id ttl protocol src dst 0 ++ zeros n) 0

theorem header_csum (totalLen id ttl protocol src dst n : Nat) :
    writeCsum (header totalLen id ttl protocol src dst 0 ++ zeros n) 10 0 =
      .ok (header totalLen id ttl protocol src dst (csum totalLen id ttl protocol src dst n) ++
        zeros n) := by
  have hcsum :=
    writeCsum_append (front totalLen id ttl protocol) (be32 src ++ be32 dst ++ zeros n) 0
  rw [length_front] at hcsum
  simpa only [header, csum, List.append_assoc] using hcsum

/-- **The packet** on a frame of zeros. -/
theorem build_zeros (h : Fits id ttl protocol src dst payload.len) {n : Nat} {part : List UInt8}
    (hpart : payload.build (zeros n) (phsumOf protocol src dst payload.len) = .ok part) :
    (plain payload id ttl protocol src dst).build (zeros (20 + n)) =
      .ok (header (20 + payload.len) id ttl protocol src dst
        (csum (20 + payload.len) id ttl protocol src dst n) ++ part) := by
  have hpayload := buildAt_append (header (20 + payload.len) id ttl protocol src dst
    (csum (20 + payload.len) id ttl protocol src dst n)) (zeros n)
    fun frame => payload.build frame (phsumOf protocol src dst payload.len)
  rw [hpart, length_header] at hpayload
  simp only [build, psum_plain h]
  simp only [plain, Bool.toNat_false, Nat.zero_shiftLeft, Nat.or_zero, header_zeros h,
    ipOptBuild, bind, Except.bind, header_csum]
  by_cases hneed : protocol ∈ NEED_P_HDR_SUM
  · rw [phsumOf, if_pos hneed] at hpayload
    exact (if_pos hneed).trans hpayload
  · rw [phsumOf, if_neg hneed] at hpayload
    exact (if_neg hneed).trans hpayload

end IPBuilder

/-! ## Ethernet -/

namespace EtherBuilder

/-- The header. -/
def header (dst src type : Nat) : List UInt8 :=
  be32 (dst >>> 16) ++ be16 (dst &&& 0xFFFF) ++ be32 (src >>> 16) ++
    be16 (src &&& 0xFFFF) ++ be16 type

theorem length_header (dst src type : Nat) : (header dst src type).length = 14 := rfl

/-- The parts of an address, as `MACAddress` cuts it. -/
theorem mac_low (mac : Nat) : mac &&& 0xFFFF = mac % 65536 :=
  Nat.and_two_pow_sub_one_eq_mod mac 16

/-- **The frame** that is written to the interface: the headers and the payload, without the zeros.
-/
theorem frame_eq {b : EtherBuilder} {iph part : List UInt8} {k : Nat}
    (hdst : b.dst < 281474976710656) (hsrc : b.src < 281474976710656) (htype : b.type < 65536)
    (hbuild : b.payload.build (zeros MTU) = .ok (iph ++ (part ++ zeros k)))
    (hlen : b.payload.len = iph.length + part.length) :
    b.frame = .ok (header b.dst b.src b.type ++ (iph ++ part)) := by
  have hpack : structPack [(.I, b.dst >>> 16), (.H, b.dst &&& 0xFFFF), (.I, b.src >>> 16),
      (.H, b.src &&& 0xFFFF), (.H, b.type)] = some (header b.dst b.src b.type) := by
    refine (structPack_eq_some _ ?_).trans (congrArg some (by simp [header, Fmt.bytes]))
    simp only [List.forall_mem_cons, Fmt.bound, mac_low, Nat.shiftRight_eq_div_pow]
    exact ⟨by omega, by omega, by omega, by omega, htype, by simp⟩
  have hwrite := structPackInto_zeros (n := MTU + 14) hpack (by simp [length_header, MTU])
  have hpayload := buildAt_append (header b.dst b.src b.type) (zeros MTU) b.payload.build
  rw [length_header] at hwrite hpayload
  rw [hbuild] at hpayload
  have hcut : b.len = (header b.dst b.src b.type ++ (iph ++ part)).length := by
    simp [len, ETHER_LEN, length_header, hlen]
  have hframe : b.build (List.replicate (MTU + 14) 0) =
      .ok (header b.dst b.src b.type ++ (iph ++ (part ++ zeros k))) := by
    rw [build, show List.replicate (MTU + 14) (0 : UInt8) = zeros (MTU + 14) from rfl, hwrite]
    exact hpayload
  rw [frame, hframe, hcut]
  have hassoc : header b.dst b.src b.type ++ (iph ++ (part ++ zeros k)) =
      header b.dst b.src b.type ++ (iph ++ part) ++ zeros k := by
    simp only [List.append_assoc]
  simp only [bind, Except.bind, pure, Except.pure, hassoc, List.take_left]

end EtherBuilder

end Tipy.Wire
