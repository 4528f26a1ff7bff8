import Tipy.Host.Runs

/-!
# Who is handed a packet

`rx_ip` with a record of what it hands on: to the handler of a protocol, to a raw socket, or back to
the sender in an ICMP message. A packet for a raw socket is not done with then. It goes on to the
reassembly, which takes it for the last fragment of a datagram and, when it is long enough, hands
its payload on as a packet of its own. So a packet that is no fragment is handed on once and leaves
the reassembly alone exactly when it is not for a raw socket, or the reassembly comes to nothing
with it.
-/

namespace Tipy

open Arp Ip Wire Lib

/-! ## The reassembly of a whole packet -/

namespace Ip

section Whole

variable {s : ReassState} {p : IPParser} {res : ReassResources}

theorem cache_put_eq_iff {k : BufferId} : (s.put k res).fragmentsCache = s.fragmentsCache ↔
    s.fragmentsCache k = some res := by
  rw [ReassState.put, Function.update_eq_self_iff, eq_comm]

/-- The data of a packet, with zeros up to the length in its header. -/
def IPParser.paddedData (p : IPParser) : List UInt8 :=
  overwrite (List.replicate (p.totalLen - p.ihl) 0) 0 p.data

/-- The entry is what a call that raises on this packet leaves behind. -/
def ReassResources.LeftBy (res : ReassResources) (p : IPParser) : Prop :=
  res.last = true ∧ res.totalDataLen = p.totalLen - p.ihl ∧
    (p.totalLen < p.ihl ∨
      match res.temporaryDataBuffer with
      | none => res.dataBuffer = p.paddedData
      | some frags => FilledUntil p.paddedData frags res.dataBuffer)

/-- The data fits the length in the header. -/
theorem packInto_paddedData (hdata : p.ihl + p.data.length ≤ p.totalLen) :
    packInto (List.replicate (p.totalLen - p.ihl) 0) 0 p.data = some p.paddedData := by
  refine packInto_eq_overwrite ?_
  rw [List.length_replicate]
  omega

/-- A whole packet that finds an entry leaves the cache alone only when it raises, on an entry that
is as such a call leaves it. -/
theorem ipReassLast_cache {k : BufferId} (hk : s.fragmentsCache k = some res) (hoff : p.offset = 0)
    (hdata : p.ihl ≤ p.totalLen → p.ihl + p.data.length ≤ p.totalLen) :
    ((ipReassLast s p k res).1.fragmentsCache = s.fragmentsCache ↔ res.LeftBy p) ∧
      (res.LeftBy p → ∃ e, (ipReassLast s p k res).2 = .error e) := by
  have htotal : (p.totalLen : Int) - p.ihl + p.offset * 8 = p.totalLen - p.ihl := by
    rw [hoff]
    omega
  obtain ⟨dataBuffer, hdr, blocks, totalDataLen, temporary, last, timer⟩ := res
  unfold ipReassLast ReassResources.LeftBy
  simp only [htotal]
  by_cases hneg : p.totalLen < p.ihl
  · have hlt : (p.totalLen : Int) - p.ihl < 0 := by omega
    rw [if_pos hlt, cache_put_eq_iff, hk]
    simp [hneg, and_comm]
  · have hnonneg : ¬ (p.totalLen : Int) - p.ihl < 0 := by omega
    have hnat : ((p.totalLen : Int) - p.ihl).toNat = p.totalLen - p.ihl := by omega
    have hpack := packInto_paddedData (hdata (Nat.le_of_not_lt hneg))
    rw [if_neg hnonneg]
    simp only [hnat, hoff, Nat.zero_mul, hpack, hneg, false_or]
    cases temporary with
    | none =>
      dsimp only
      rw [cache_put_eq_iff, hk]
      simp only [Option.some.injEq, ReassResources.mk.injEq, true_and, and_true]
      exact ⟨by tauto, fun _ => ⟨_, rfl⟩⟩
    | some frags =>
      dsimp only
      rw [← packAll_eq_error_iff]
      cases hall : packAll p.paddedData frags with
      | error buf =>
        dsimp only
        rw [cache_put_eq_iff, hk]
        simp only [Option.some.injEq, ReassResources.mk.injEq, true_and, and_true,
          Except.error.injEq]
        exact ⟨by tauto, fun _ => ⟨_, rfl⟩⟩
      | ok buf =>
        -- the temporary buffer is gone after this, or the whole entry
        simp only [reduceCtorEq, and_false, false_implies, and_true, iff_false]
        cases patchTotalLen hdr (hdr.length + ((p.totalLen : Int) - p.ihl)) with
        | none =>
          simp only [cache_put_eq_iff, hk]
          simp
        | some hdr' =>
          simp only [finishReass]
          split
          · intro heq
            have hnone := congrFun heq k
            simp [hk] at hnone
          · intro heq
            have hsome := congrFun heq k
            rw [ipReassTimer_self, hk] at hsome
            simp at hsome

/-- A whole packet opens the session of its buffer id and ends it, when its data has the length its
header says. -/
theorem ipReass_whole_fresh (hfresh : s.fragmentsCache p.bufferId = none) (hmf : p.flagMf = false)
    (hoff : p.offset = 0) (hdata : p.ihl + p.data.length ≤ p.totalLen) :
    (ipReass s p).1.fragmentsCache = s.fragmentsCache ∧
    (ipReass s p).2 = .ok (some p.paddedData) := by
  have htotal : (p.totalLen : Int) - p.ihl + p.offset * 8 = p.totalLen - p.ihl := by
    rw [hoff]
    omega
  have hnonneg : ¬ (p.totalLen : Int) - p.ihl < 0 := by omega
  have hnat : ((p.totalLen : Int) - p.ihl).toNat = p.totalLen - p.ihl := by omega
  have hblocks : p.blocks = ((p.totalLen : Int) - p.ihl + 7) / 8 := by
    simp only [IPParser.blocks, hoff]
    omega
  have hres : isReassembled true (0 + p.blocks) ((p.totalLen : Int) - p.ihl) = true := by
    simp [isReassembled, hblocks]
  have halloc : allocIpReassMem s p p.bufferId = ipReassTimer s p p.bufferId freshResources :=
    if_pos hfresh
  have hzero : p.offset * 8 = 0 := by rw [hoff]
  simp only [ipReass, halloc, ipReassTimer_self, hmf, if_true, ipReassLast, freshResources, htotal,
    if_neg hnonneg, hnat, hzero, packInto_paddedData hdata, packAll, patchTotalLen,
      finishReass, hres]
  refine ⟨?_, rfl⟩
  -- the entry is made and taken away again
  funext k
  by_cases hk : k = p.bufferId
  · subst hk
    simp [deallocIpReassMem, hfresh]
  · simp [deallocIpReassMem, ReassState.put, ipReassTimer, hk]

/-- A whole packet whose data is too long for it opens a session and raises. -/
theorem ipReass_whole_fresh_raises (hfresh : s.fragmentsCache p.bufferId = none)
    (hmf : p.flagMf = false) (hoff : p.offset = 0) (hdata : ¬ p.ihl + p.data.length ≤ p.totalLen) :
    (ipReass s p).1.fragmentsCache p.bufferId ≠ none := by
  have halloc : allocIpReassMem s p p.bufferId = ipReassTimer s p p.bufferId freshResources :=
    if_pos hfresh
  simp only [ipReass, halloc, ipReassTimer_self, hmf, if_true, ipReassLast]
  split
  · simp
  · next hnonneg =>
    have hout : packInto (List.replicate ((p.totalLen : Int) - p.ihl + p.offset * 8).toNat 0)
        (p.offset * 8) p.data = none := by
      refine packInto_eq_none ?_
      rw [List.length_replicate]
      omega
    simp [hout]

/-- **What the reassembly does with a whole packet.** The packet leaves the cache alone exactly when
it opens a session and ends it, or raises on an entry that is as it leaves it. -/
theorem ipReass_whole (hmf : p.flagMf = false) (hoff : p.offset = 0)
    (hpay : p.data = slice p.frame p.ihl p.totalLen) :
    (ipReass s p).1.fragmentsCache = s.fragmentsCache ↔
      match s.fragmentsCache p.bufferId with
      | none => p.ihl ≤ p.totalLen
      | some res => res.LeftBy p := by
  have hlen : p.ihl ≤ p.totalLen ↔ p.ihl + p.data.length ≤ p.totalLen := by
    rw [hpay, length_slice]
    omega
  cases hcache : s.fragmentsCache p.bufferId with
  | none =>
    dsimp only
    rw [hlen]
    constructor
    · intro heq
      by_contra hdata
      refine ipReass_whole_fresh_raises hcache hmf hoff hdata ?_
      rw [heq, hcache]
    · exact fun hdata => (ipReass_whole_fresh hcache hmf hoff hdata).1
  | some res =>
    have halloc : allocIpReassMem s p p.bufferId = s := if_neg (by simp [hcache])
    simp only [ipReass, halloc, hcache, hmf, if_true]
    exact (ipReassLast_cache hcache hoff hlen.1).1

end Whole

end Ip

/-! ## The handlers and the reassembly -/

namespace Host

variable (h : Host) (r : ReassState) (p : IPParser) (frame : List UInt8) (x : Picks)

/-- The host with another state of the reassembly. -/
def withReass : Host := { h with reass := r }

@[simp] theorem withReass_reass : (h.withReass r).reass = r := rfl

@[simp] theorem withReass_core : (h.withReass r).core = h.core := rfl

@[simp] theorem withReass_udp : (h.withReass r).udp = h.udp := rfl

@[simp] theorem withReass_rip : (h.withReass r).rip = h.rip := rfl

@[simp] theorem withReass_tcp : (h.withReass r).tcp = h.tcp := rfl

/-- The result of a call on such a host. -/
def onReass (out : Host × TxEnd) : Host × TxEnd := (out.1.withReass r, out.2)

theorem txIp_withReass (payload : Payload) (src dst protocol : Nat) :
    (h.withReass r).txIp payload src dst protocol x =
    onReass r (h.txIp payload src dst protocol x) := by
  unfold txIp
  rw [withReass_core]
  generalize Ip.txIp h.core payload src dst 64 protocol [] x.id x.fragId x.turns = out
  rfl

theorem icmpError_withReass (type code : Nat) :
    (h.withReass r).icmpError p type code x = onReass r (h.icmpError p type code x) :=
  h.txIp_withReass r x _ _ _ _

theorem txIp_reass (payload : Payload) (src dst protocol : Nat) :
    (h.txIp payload src dst protocol x).1.reass = h.reass := by
  unfold txIp
  generalize Ip.txIp h.core payload src dst 64 protocol [] x.id x.fragId x.turns = out
  rfl

theorem icmpError_reass (type code : Nat) : (h.icmpError p type code x).1.reass = h.reass :=
  h.txIp_reass x _ _ _ _

theorem reading_withReass {α : Type} (res : Except PyError α) {next next' : α → Host × TxEnd}
    (hnext : ∀ a, next' a = onReass r (next a)) :
    (h.withReass r).reading res next' = onReass r (h.reading res next) := by
  cases res with
  | ok a => exact hnext a
  | error e => rfl

theorem ripGetData_withReass (id : RipId) (packet : List UInt8) :
    (h.withReass r).ripGetData id packet = (h.ripGetData id packet).withReass r := by
  unfold ripGetData
  dsimp only [withReass_rip]
  split <;> rfl

theorem rxIcmp_withReass : (h.withReass r).rxIcmp p frame x = onReass r (h.rxIcmp p frame x) := by
  unfold rxIcmp
  dsimp only
  split
  · rfl
  split
  · rfl
  split
  · unfold hIcmpDestUnreachPort quotedHeader
    split <;> rfl
  split
  · unfold hIcmpDestUnreachProto quotedHeader
    split <;> rfl
  split
  · refine reading_withReass h r _ fun src => reading_withReass h r _ fun dst => ?_
    exact h.txIp_withReass r x _ _ _ _
  split
  · refine reading_withReass h r _ fun src => reading_withReass h r _ fun dst => ?_
    rw [ripGetData_withReass]
    rfl
  · rfl

theorem rxUdp_withReass : (h.withReass r).rxUdp p frame x = onReass r (h.rxUdp p frame x) := by
  unfold rxUdp
  split
  · rfl
  · refine reading_withReass h r _ fun dst => reading_withReass h r _ fun src => ?_
    split
    · rfl
    · dsimp only [withReass_udp]
      split
      · rfl
      · exact h.icmpError_withReass r p x _ _

theorem rxTcp_withReass : (h.withReass r).rxTcp p frame x = onReass r (h.rxTcp p frame x) := by
  unfold rxTcp
  split
  · rfl
  · refine reading_withReass h r _ fun dst => reading_withReass h r _ fun src => ?_
    split
    · rfl
    · split
      · rfl
      · dsimp only [withReass_tcp]
        split
        · next hsock => exact if_pos hsock
        · next hsock => exact (if_neg hsock).trans (h.txIp_withReass r x _ _ _ _)

variable {p frame x} in
/-- **The handlers leave the reassembly alone** and do not look at it. -/
theorem nextLayer_withReass {protocol : Nat}
    {nextLayer : Host → IPParser → List UInt8 → Picks → Host × TxEnd}
    (hmap : ipProtocolMap protocol = some nextLayer) :
    nextLayer (h.withReass r) p frame x = onReass r (nextLayer h p frame x) := by
  rcases ipProtocolMap_eq_some hmap with ⟨-, rfl⟩ | ⟨-, rfl⟩ | ⟨-, rfl⟩ | ⟨-, rfl⟩
  · rfl
  · exact h.rxIcmp_withReass r p frame x
  · exact h.rxUdp_withReass r p frame x
  · exact h.rxTcp_withReass r p frame x

theorem rxDatagram_withReass (dgram : List UInt8) :
    (h.withReass r).rxDatagram dgram x = onReass r (h.rxDatagram dgram x) := by
  refine reading_withReass h r _ fun totalLen => reading_withReass h r _ fun protocol => ?_
  split
  · next hmap => exact nextLayer_withReass h r hmap
  · refine reading_withReass h r _ fun dst => reading_withReass h r _ fun src => ?_
    dsimp only [withReass_rip]
    split
    · rw [ripGetData_withReass]
      rfl
    · exact h.icmpError_withReass r ⟨dgram⟩ x _ _

variable {h} in
/-- A call that does not look at the reassembly leaves it alone. -/
theorem reass_of_withReass (call : Host → Host × TxEnd)
    (hcall : call (h.withReass h.reass) = onReass h.reass (call h)) :
    (call h).1.reass = h.reass := by
  have heq : call h = onReass h.reass (call h) := hcall
  rw [heq]
  rfl

theorem nextLayer_reass {protocol : Nat}
    {nextLayer : Host → IPParser → List UInt8 → Picks → Host × TxEnd}
    (hmap : ipProtocolMap protocol = some nextLayer) : (nextLayer h p frame x).1.reass = h.reass :=
  reass_of_withReass (nextLayer · p frame x) (h.nextLayer_withReass h.reass hmap)

theorem rxDatagram_reass (dgram : List UInt8) : (h.rxDatagram dgram x).1.reass = h.reass :=
  reass_of_withReass (rxDatagram · dgram x) (h.rxDatagram_withReass h.reass x dgram)

theorem rxReass_reass : (h.rxReass p x).1.reass = (ipReass h.reass p).1 := by
  unfold rxReass
  dsimp only
  split
  · rfl
  · rfl
  · split
    · rfl
    · rw [rxDatagram_reass]

/-! ## `rx_ip` with a record -/

/-- Where `rx_ip` hands a packet on to. -/
inductive Dispatch where
  | handler (protocol : Nat) (payload : List UInt8)
  | raw (id : RipId) (packet : List UInt8)
  | protoUnreach (p : IPParser)
deriving DecidableEq

/-- The result of a call and what it has handed on. -/
abbrev Traced := (Host × TxEnd) × List Dispatch

/-- Going on with a value that was read. -/
def readingTraced {α : Type} (res : Except PyError α) (next : α → Traced) : Traced :=
  match res with
  | .ok a => next a
  | .error e => ((h, .raised e), [])

/-- The end of `rx_ip`, for a datagram that was reassembled and is not empty. -/
def rxDatagramTraced (dgram : List UInt8) : Traced :=
  let p : IPParser := ⟨dgram⟩
  h.readingTraced (readTotalLen p) fun totalLen => h.readingTraced (readProtocol p) fun protocol =>
    match ipProtocolMap protocol with
    | some nextLayer =>
      let payload := slice dgram p.ihl totalLen
      (nextLayer h p payload x, [.handler protocol payload])
    | none =>
      h.readingTraced (readDst p) fun dst => h.readingTraced (readSrc p) fun src =>
        let id : RipId := ⟨dst, protocol, src⟩
        match h.rip id with
        | some _ => ((h.ripGetData id p.data, .returned), [.raw id p.data])
        | none => (h.icmpProtoUnreach p x, [.protoUnreach p])

/-- `rx_ip` from the reassembly on. -/
def rxReassTraced : Traced :=
  let r := ipReass h.reass p
  let h := { h with reass := r.1 }
  match r.2 with
  | .error e => ((h, .raised e), [])
  | .ok none => ((h, .returned), [])
  | .ok (some dgram) => if dgram = [] then ((h, .returned), []) else h.rxDatagramTraced x dgram

/-- `rx_ip`. -/
def rxIpTraced : Traced :=
  let p : IPParser := ⟨frame⟩
  match h.core.unicastIp with
  | none =>
    (if Wire.rxIp p.dst p = .dropped then (h, .returned) else (h, .raised .attributeError), [])
  | some unicastIp =>
    match Wire.rxIp unicastIp p with
    | .dropped => ((h, .returned), [])
    | .ttlExceeded => (h.icmpTtlExceeded p x, [])
    | .whole payload =>
      match ipProtocolMap p.protocol with
      | some nextLayer => (nextLayer h p payload x, [.handler p.protocol payload])
      | none =>
        match h.rip (ripId p) with
        | none => (h.icmpProtoUnreach p x, [.protoUnreach p])
        | some _ =>
          let rest := (h.ripGetData (ripId p) p.data).rxReassTraced p x
          (rest.1, .raw (ripId p) p.data :: rest.2)
    | .fragment => h.rxReassTraced p x

/-! The record changes nothing. -/

theorem readingTraced_fst {α : Type} (res : Except PyError α) {next : α → Traced}
    {next' : α → Host × TxEnd} (hnext : ∀ a, (next a).1 = next' a) :
    (h.readingTraced res next).1 = h.reading res next' := by
  cases res with
  | ok a => exact hnext a
  | error e => rfl

theorem rxDatagramTraced_fst (dgram : List UInt8) :
    (h.rxDatagramTraced x dgram).1 = h.rxDatagram dgram x := by
  refine readingTraced_fst h _ fun totalLen => readingTraced_fst h _ fun protocol => ?_
  cases ipProtocolMap protocol with
  | some nextLayer => rfl
  | none =>
    refine readingTraced_fst h _ fun dst => readingTraced_fst h _ fun src => ?_
    dsimp only
    cases h.rip ⟨dst, protocol, src⟩ with
    | some queue => rfl
    | none => rfl

theorem rxReassTraced_fst : (h.rxReassTraced p x).1 = h.rxReass p x := by
  unfold rxReassTraced rxReass
  dsimp only
  cases (ipReass h.reass p).2 with
  | error e => rfl
  | ok result =>
    cases result with
    | none => rfl
    | some dgram =>
      dsimp only
      by_cases hnil : dgram = []
      · rw [if_pos hnil, if_pos hnil]
      · rw [if_neg hnil, if_neg hnil, rxDatagramTraced_fst]

theorem rxIpTraced_fst : (h.rxIpTraced frame x).1 = h.rxIp frame x := by
  unfold rxIpTraced rxIp
  dsimp only
  cases h.core.unicastIp with
  | none => rfl
  | some unicastIp =>
    dsimp only
    cases Wire.rxIp unicastIp ⟨frame⟩ with
    | dropped => rfl
    | ttlExceeded => rfl
    | fragment => exact h.rxReassTraced_fst _ x
    | whole payload =>
      dsimp only
      cases ipProtocolMap (IPParser.mk frame).protocol with
      | some nextLayer => rfl
      | none =>
        dsimp only
        cases h.rip (ripId ⟨frame⟩) with
        | none => rfl
        | some queue => exact rxReassTraced_fst _ _ x

/-! ## One dispatch -/

/-- A datagram nobody is handed: it is empty, or ends before the fields of its header that are read.
-/
def Undispatched (dgram : List UInt8) : Prop :=
  dgram.length < 10 ∨ dgram.length < 20 ∧ ¬ Mapped (IPParser.mk dgram).protocol

instance (dgram : List UInt8) : Decidable (Undispatched dgram) :=
  inferInstanceAs (Decidable (_ ∨ _ ∧ _))

theorem readingTraced_nil_iff {α : Type} {stop : Nat} {e : PyError} {a : α} {next : α → Traced} :
    (h.readingTraced (field p stop e a) next).2 = [] ↔
    (stop ≤ p.frame.length → (next a).2 = []) := by
  by_cases hstop : stop ≤ p.frame.length
  · have hread : field p stop e a = .ok a := if_pos hstop
    simp only [hread, readingTraced, hstop, true_implies]
  · have hread : field p stop e a = .error e := if_neg hstop
    simp only [hread, readingTraced, hstop, false_implies]

theorem rxDatagramTraced_nil_iff (dgram : List UInt8) :
    (h.rxDatagramTraced x dgram).2 = [] ↔ Undispatched dgram := by
  unfold rxDatagramTraced Undispatched
  dsimp only
  rw [readTotalLen, readProtocol, readingTraced_nil_iff, readingTraced_nil_iff]
  dsimp only
  cases hmap : ipProtocolMap (IPParser.mk dgram).protocol with
  | some nextLayer =>
    have hmapped := mapped_of_eq_some hmap
    dsimp only
    simp only [hmapped, not_true_eq_false, and_false, or_false, List.cons_ne_nil]
    constructor
    · intro hnil
      by_contra hlen
      exact hnil (by omega) (by omega)
    · intro hlen _ hlong
      omega
  | none =>
    have hmapped := ipProtocolMap_eq_none.1 hmap
    have hlast : (match h.rip ⟨(IPParser.mk dgram).dst, (IPParser.mk dgram).protocol,
        (IPParser.mk dgram).src⟩ with
      | some _ => ((h.ripGetData ⟨(IPParser.mk dgram).dst, (IPParser.mk dgram).protocol,
          (IPParser.mk dgram).src⟩ (IPParser.mk dgram).data, TxEnd.returned),
        [Dispatch.raw ⟨(IPParser.mk dgram).dst, (IPParser.mk dgram).protocol,
          (IPParser.mk dgram).src⟩ (IPParser.mk dgram).data])
      | none => (h.icmpProtoUnreach ⟨dgram⟩ x, [Dispatch.protoUnreach ⟨dgram⟩])).2 ≠ [] := by
      split
      · exact List.cons_ne_nil _ _
      · exact List.cons_ne_nil _ _
    dsimp only
    rw [readDst, readSrc, readingTraced_nil_iff, readingTraced_nil_iff]
    dsimp only
    simp only [hmapped, hlast, not_false_eq_true, and_true]
    constructor
    · intro hnil
      by_contra hlen
      exact hnil (by omega) (by omega) (by omega) (by omega)
    · intro hlen _ _ hlong _
      omega

theorem rxReassTraced_nil_iff : (h.rxReassTraced p x).2 = [] ↔
    ∀ dgram, (ipReass h.reass p).2 = .ok (some dgram) → Undispatched dgram := by
  unfold rxReassTraced
  dsimp only
  cases (ipReass h.reass p).2 with
  | error e => simp
  | ok result =>
    cases result with
    | none => simp
    | some dgram =>
      simp only [Except.ok.injEq, Option.some.injEq, forall_eq']
      by_cases hnil : dgram = []
      · rw [if_pos hnil, hnil]
        exact ⟨fun _ => .inl (by decide), fun _ => rfl⟩
      · rw [if_neg hnil, rxDatagramTraced_nil_iff]

/-- A packet that is handed on once, and not through the reassembly: the handler of its protocol is
called, or its raw socket receives its payload, or its sender is told that the protocol is
unreachable; and the cache of the fragments is as it was. -/
structure DispatchedOnce (payload : List UInt8) : Prop where
  once : (h.rxIpTraced frame x).2 = [.handler (IPParser.mk frame).protocol payload] ∨
    (h.rxIpTraced frame x).2 = [.raw (ripId ⟨frame⟩) payload] ∨
    (h.rxIpTraced frame x).2 = [.protoUnreach ⟨frame⟩]
  cache : (h.rxIpTraced frame x).1.1.reass.fragmentsCache = h.reass.fragmentsCache

/-- A packet for a raw socket that the reassembly comes to nothing with: nothing follows its
payload, and it either opens a session and ends it with a datagram nobody is handed, or raises on an
entry that is as it leaves it. -/
def EndsInReass (payload : List UInt8) : Prop :=
  p.data = payload ∧
    match h.reass.fragmentsCache p.bufferId with
    | none => p.ihl ≤ p.totalLen ∧ Undispatched p.paddedData
    | some res => res.LeftBy p

variable {h p frame x}

/-- A whole packet is no fragment. -/
theorem not_fragment_of_whole {unicastIp : Nat} {payload : List UInt8}
    (hin : Wire.rxIp unicastIp p = .whole payload) : p.offset = 0 ∧ p.flagMf = false := by
  unfold Wire.rxIp at hin
  repeat' split at hin
  all_goals first
    | cases hin; done
    | assumption

/-- A packet for a raw socket. -/
theorem rxReassTraced_raw_iff {payload : List UInt8}
    (hoff : p.offset = 0) (hmf : p.flagMf = false)
    (hpay : payload = slice p.frame p.ihl p.totalLen) :
    ((((h.ripGetData (ripId p) p.data).rxReassTraced p x).2 = [] ∧ p.data = payload) ∧
        (ipReass h.reass p).1.fragmentsCache = h.reass.fragmentsCache) ↔
            h.EndsInReass p payload := by
  unfold EndsInReass
  rw [rxReassTraced_nil_iff, ripGetData_reass, and_comm (b := p.data = payload), and_assoc]
  refine and_congr_right fun hdata => ?_
  rw [ipReass_whole hmf hoff (hdata.trans hpay)]
  cases hcache : h.reass.fragmentsCache p.bufferId with
  | none =>
    dsimp only
    rw [and_comm]
    refine and_congr_right fun hle => ?_
    have hfit : p.ihl + p.data.length ≤ p.totalLen := by
      rw [hdata, hpay, length_slice]
      omega
    simp only [(ipReass_whole_fresh hcache hmf hoff hfit).2, Except.ok.injEq, Option.some.injEq,
      forall_eq']
  | some res =>
    dsimp only
    refine ⟨And.right, fun hleft => ⟨fun dgram hdgram => ?_, hleft⟩⟩
    have hfit : p.ihl ≤ p.totalLen → p.ihl + p.data.length ≤ p.totalLen := by
      rw [hdata, hpay, length_slice]
      omega
    have halloc : allocIpReassMem h.reass p p.bufferId = h.reass := if_neg (by simp [hcache])
    obtain ⟨e, herr⟩ := (ipReassLast_cache hcache hoff hfit).2 hleft
    simp only [ipReass, halloc, hcache, hmf, if_true, herr, reduceCtorEq] at hdgram

/-- **When a whole packet is handed on once.** For every packet without fragmentation that passes
the checks of `rx_ip`: its protocol has a handler, or there is no raw socket for it, or the
reassembly it goes through as well comes to nothing. -/
theorem dispatchedOnce_iff {unicastIp : Nat} {payload : List UInt8}
    (haddr : h.core.unicastIp = some unicastIp) (hin : Wire.rxIp unicastIp ⟨frame⟩ =
    .whole payload) :
    h.DispatchedOnce frame x payload ↔
      Mapped (IPParser.mk frame).protocol ∨ h.rip (ripId ⟨frame⟩) = none ∨
        h.EndsInReass ⟨frame⟩ payload := by
  obtain ⟨-, hpay⟩ := rxIp_eq_whole hin
  obtain ⟨hoff, hmf⟩ := not_fragment_of_whole hin
  cases hmap : ipProtocolMap (IPParser.mk frame).protocol with
  | some nextLayer =>
    have htraced : h.rxIpTraced frame x = (nextLayer h ⟨frame⟩ payload x,
        [.handler (IPParser.mk frame).protocol payload]) := by
      simp only [rxIpTraced, haddr, hin, hmap]
    refine iff_of_true ?_ (.inl (mapped_of_eq_some hmap))
    refine ⟨.inl (by rw [htraced]), ?_⟩
    rw [htraced, nextLayer_reass h _ _ x hmap]
  | none =>
    have hmapped := ipProtocolMap_eq_none.1 hmap
    cases hrip : h.rip (ripId ⟨frame⟩) with
    | none =>
      have htraced :
          h.rxIpTraced frame x = (h.icmpProtoUnreach ⟨frame⟩ x, [.protoUnreach ⟨frame⟩]) := by
        simp only [rxIpTraced, haddr, hin, hmap, hrip]
      refine iff_of_true ⟨.inr (.inr (by rw [htraced])), ?_⟩ (.inr (.inl rfl))
      rw [htraced, icmpProtoUnreach, icmpError_reass]
    | some queue =>
      simp only [hmapped, reduceCtorEq, false_or]
      have htraced : h.rxIpTraced frame x =
          (((h.ripGetData (ripId ⟨frame⟩) (IPParser.mk frame).data).rxReassTraced ⟨frame⟩ x).1,
            .raw (ripId ⟨frame⟩) (IPParser.mk frame).data ::
              ((h.ripGetData (ripId ⟨frame⟩) (IPParser.mk frame).data).rxReassTraced
                  ⟨frame⟩ x).2) := by
        simp only [rxIpTraced, haddr, hin, hmap, hrip]
      rw [← rxReassTraced_raw_iff (x := x) hoff hmf hpay]
      constructor
      · rintro ⟨honce, hcache⟩
        rw [htraced] at honce hcache
        rw [rxReassTraced_fst, rxReass_reass, ripGetData_reass] at hcache
        refine ⟨?_, hcache⟩
        simpa [and_comm] using honce
      · rintro ⟨⟨hrest, hdata⟩, hcache⟩
        refine ⟨.inr (.inl ?_), ?_⟩
        · rw [htraced, hrest, hdata]
        · rw [htraced, rxReassTraced_fst, rxReass_reass, ripGetData_reass]
          exact hcache

/-- A stack at 10.0.0.2 with a raw socket for protocol 99 and 10.0.0.1. -/
def sampleRaw : Host :=
  run step sampleStart (sampleAcquire ++ [.rip ⟨0x0A000002, 99, 0x0A000001⟩ (some [])])

theorem sampleRaw_unicastIp : sampleRaw.core.unicastIp = some 0x0A000002 := by decide +kernel

/-- A packet of four bytes for the raw socket. -/
def rawShort : List UInt8 :=
  [69, 0, 0, 24, 0, 9, 0, 0, 64, 99, 102, 120, 10, 0, 0, 1, 10, 0, 0, 2] ++ [1, 2, 3, 4]

/-- A packet of twenty bytes for it. -/
def rawLong : List UInt8 :=
  [69, 0, 0, 40, 0, 9, 0, 0, 64, 99, 102, 104, 10, 0, 0, 1, 10, 0, 0, 2] ++ List.replicate 20 0

/-- Four bytes are too few for a header, so nobody else is handed them. -/
theorem rawShort_dispatchedOnce : sampleRaw.DispatchedOnce rawShort ⟨1, 2, 0⟩ [1, 2, 3, 4] := by
  have hcache : sampleRaw.reass.fragmentsCache (IPParser.mk rawShort).bufferId = none := rfl
  refine (dispatchedOnce_iff sampleRaw_unicastIp
    (by decide +kernel)).2 (.inr (.inr ⟨by decide +kernel, ?_⟩))
  rw [hcache]
  exact ⟨by decide +kernel, by decide +kernel⟩

/-- The twenty bytes are taken for a packet of their own, and its sender is told that its protocol
is unreachable. -/
theorem rawLong_dispatchedTwice :
    Wire.rxIp 0x0A000002 ⟨rawLong⟩ = .whole (List.replicate 20 0) ∧
      (sampleRaw.rxIpTraced rawLong ⟨1, 2, 0⟩).2 =
        [.raw ⟨0x0A000002, 99, 0x0A000001⟩ (List.replicate 20 0),
          .protoUnreach ⟨List.replicate 20 0⟩] ∧
      ¬ sampleRaw.DispatchedOnce rawLong ⟨1, 2, 0⟩ (List.replicate 20 0) := by
  have htrace : (sampleRaw.rxIpTraced rawLong ⟨1, 2, 0⟩).2 =
      [.raw ⟨0x0A000002, 99, 0x0A000001⟩ (List.replicate 20 0),
          .protoUnreach ⟨List.replicate 20 0⟩] := by
    decide +kernel
  refine ⟨by decide +kernel, htrace, ?_⟩
  intro h
  rcases h.once with honce | honce | honce
  · rw [htrace] at honce
    cases honce
  · rw [htrace] at honce
    cases honce
  · rw [htrace] at honce
    cases honce

end Host

end Tipy
