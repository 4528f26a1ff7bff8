import Tipy.Host.Dispatched
import Tipy.Ip.Padding

/-!
# Padding on the link

`rx_ip` on a packet, and on a frame with the packet and more bytes behind it, as Ethernet pads every
short frame. A payload is cut off at the total length, so no handler sees the padding. An ICMP error
does when the packet has less than eight bytes of data; a raw socket always does; and the reassembly
does unless it gets by without the data. `padding_harmless_iff` says when the padding has no effect.
-/

namespace Tipy.Arp

/-! ## What is sent is recorded -/

variable {δ : Type} {k : Core δ} {ip src : Nat} {d d' : δ}

theorem Core.enqueue_inj (h : k.enqueue ip d = k.enqueue ip d') : d = d' := by
  have hqueue := congrFun (congrArg Core.pendingQueue h) ip
  unfold enqueue at hqueue
  cases hq : k.pendingQueue ip with
  | none => simpa [hq, setQueue] using hqueue
  | some q => simpa [hq, setQueue] using hqueue

theorem txDatagram_inj {mac : Option Nat}
    (h : Ip.txDatagram k src ip mac d = Ip.txDatagram k src ip mac d') :
    d = d' := by
  cases mac with
  | some mac =>
    have hring := congrArg Core.txRing h
    simpa [Ip.txDatagram, Core.txEther] using hring
  | none => exact Core.enqueue_inj h

end Tipy.Arp

namespace Tipy

open Components Arp Ip Wire Lib

namespace Host

/-! ## Effects -/

/-- The same host but for the packets that the timers of the reassembly keep. -/
structure Alike (h h' : Host) : Prop where
  eq_withReass : h' = h.withReass h'.reass
  reass : h.reass.Alike h'.reass

/-- The bytes that are handed on; of a packet that is answered, what the answer quotes. -/
def Dispatch.seen : Dispatch → Dispatch ⊕ (Nat × Nat × List UInt8)
  | .handler protocol payload => .inl (.handler protocol payload)
  | .raw id packet => .inl (.raw id packet)
  | .protoUnreach p => .inr p.quote

/-- The call raises. -/
def Raises (e : TxEnd) : Prop := ∃ err, e = .raised err

/-- Two calls end alike: in the same way, or both raise. -/
def EndAlike (e e' : TxEnd) : Prop := e' = e ∨ (Raises e ∧ Raises e')

/-- What `_ip_reass` returns to `rx_ip`, when it is called and returns. -/
def reassembled (h : Host) (frame : List UInt8) : Option (Option (List UInt8)) :=
  let p : IPParser := ⟨frame⟩
  match h.core.unicastIp with
  | none => none
  | some unicastIp =>
    match Wire.rxIp unicastIp p with
    | .dropped | .ttlExceeded => none
    | .whole _ =>
      if ipProtocolMap p.protocol = none ∧ h.rip (ripId p) ≠ none
        then (ipReass h.reass p).2.toOption
      else none
    | .fragment => (ipReass h.reass p).2.toOption

/-- `rx_ip` has the same effects on two frames: on the sockets, the cache, the timers and what is
sent, on what the handlers are given and the reassembly returns, and it raises on both or on
neither. -/
structure SameEffects (h : Host) (frame frame' : List UInt8) (x : Picks) : Prop where
  host : (h.rxIp frame x).1.Alike (h.rxIp frame' x).1
  raises : Raises (h.rxIp frame' x).2 ↔ Raises (h.rxIp frame x).2
  dispatched :
    (h.rxIpTraced frame' x).2.map Dispatch.seen = (h.rxIpTraced frame x).2.map Dispatch.seen
  reassembled : h.reassembled frame' = h.reassembled frame

/-- The padding `z` of a packet does not matter: there is none; or the packet is dropped, or
answered with its first eight bytes of data, or cut off for the handler of its protocol; or the
reassembly gets by. -/
def PaddingHarmless (h : Host) (p z : List UInt8) : Prop :=
  z = [] ∨ ∀ unicastIp ∈ h.core.unicastIp,
    match Wire.rxIp unicastIp ⟨p⟩ with
    | .dropped => True
    | .ttlExceeded => 8 ≤ (IPParser.mk p).data.length
    | .whole _ => Mapped (IPParser.mk p).protocol ∨
        (h.rip (ripId ⟨p⟩) = none ∧ 8 ≤ (IPParser.mk p).data.length)
    | .fragment => Ip.PaddingHarmless h.reass ⟨p⟩ (z.take (IPParser.mk p).ihl)

variable {h h' : Host} {p q : IPParser} {w : List UInt8} {x : Picks}

theorem Alike.refl (h : Host) : h.Alike h := ⟨rfl, .refl _⟩

theorem alike_withReass {r r' : ReassState} (hr : r.Alike r') :
    (h.withReass r).Alike (h.withReass r') := ⟨rfl, hr⟩

theorem Alike.exists_withReass (ha : h.Alike h') : ∃ r, h' = h.withReass r ∧ h.reass.Alike r :=
  ⟨h'.reass, ha.eq_withReass, ha.reass⟩

theorem Alike.core (ha : h.Alike h') : h'.core = h.core := by
  rw [ha.eq_withReass]
  rfl

theorem Alike.rip (ha : h.Alike h') : h'.rip = h.rip := by
  rw [ha.eq_withReass]
  rfl

theorem EndAlike.raises_iff {e e' : TxEnd} (h : EndAlike e e') : Raises e' ↔ Raises e := by
  rcases h with heq | ⟨hraises, hraises'⟩
  · rw [heq]
  · exact iff_of_true hraises' hraises

theorem EndAlike.returned_iff {e e' : TxEnd} (h : EndAlike e e') :
    e' = .returned ↔ e = .returned := by
  rcases h with heq | ⟨⟨err, rfl⟩, ⟨err', rfl⟩⟩
  · rw [heq]
  · simp

/-! ## ICMP errors -/

theorem icmpError_of_quote (hquote : q.quote = p.quote) (type code : Nat) :
    h.icmpError q type code x = h.icmpError p type code x := by
  simp only [IPParser.quote, Prod.mk.injEq] at hquote
  obtain ⟨hdst, hsrc, hdata⟩ := hquote
  rw [icmpError, icmpError, hdst, hsrc, hdata]

/-- An ICMP error fits the MTU, so it is sent as it is. -/
theorem icmpError_core (p : IPParser) (type code : Nat) :
    (h.icmpError p type code x).1.core =
      txDatagram h.core p.dst (route h.core p.src).1 (route h.core p.src).2
        (.whole (.plain (.icmp ⟨type, code, p.header ++ p.data.take 8, none, none⟩) x.id
          64 IP_PROTO_ICMP
          p.dst p.src)) := by
  have hihl := p.ihl_le
  have hheader : p.header.length ≤ 60 := by
    rw [IPParser.header, length_slice]
    omega
  have hfit : (IPBuilder.plain (.icmp ⟨type, code, p.header ++ p.data.take 8, none, none⟩) x.id 64
      IP_PROTO_ICMP p.dst p.src).len ≤ MTU := by
    rw [IPBuilder.len_plain]
    simp only [Payload.len, ICMPBuilder.len, List.length_append, List.length_take, MTU]
    omega
  rw [icmpError, txIcmp, txIp_toStartup, txIp_short (IPBuilder.new_nil ..) hfit]

/-- An ICMP error is sent or waits, with what it quotes. -/
theorem icmpError_inj {type code : Nat} (hdst : q.dst = p.dst) (hsrc : q.src = p.src)
    (heq : (h.icmpError q type code x).1.core = (h.icmpError p type code x).1.core) :
    q.quote = p.quote := by
  rw [icmpError_core, icmpError_core, hdst, hsrc] at heq
  have hbuilder := txDatagram_inj heq
  simp only [Datagram.whole.injEq, IPBuilder.plain, IPBuilder.mk.injEq, Payload.icmp.injEq,
    ICMPBuilder.mk.injEq, and_true, true_and] at hbuilder
  rw [IPParser.quote, IPParser.quote, hdst, hsrc, hbuilder.1]

/-! ## The checks and the handlers -/

/-- The checks look at the header, and the payload is cut off at the total length. -/
theorem rxIp_padded {p : List UInt8} (hp : IsPacket p) (z : List UInt8) (unicastIp : Nat) :
    Wire.rxIp unicastIp ⟨p ++ z⟩ = Wire.rxIp unicastIp ⟨p⟩ := by
  have h := hp.samePacket z
  have hlen : ¬ p.length < 20 := Nat.not_lt.2 hp.length_ge
  have hlen' : ¬ (p ++ z).length < 20 := by
    rw [List.length_append]
    omega
  have hcsum : rxIpCsum ⟨p ++ z⟩ = rxIpCsum ⟨p⟩ := by
    rw [rxIpCsum, rxIpCsum]
    exact congrArg (inetCsum · 0) h.header
  have hpay : slice (p ++ z) (IPParser.mk p).ihl (IPParser.mk p).totalLen =
      slice p (IPParser.mk p).ihl (IPParser.mk p).totalLen := slice_append hp.totalLen.le
  simp only [Wire.rxIp, hlen, hlen', hcsum, h.ihl, h.src, h.dst, h.ttl, h.offset,
    h.flagMf, h.totalLen, hpay]

theorem ripId_padded (hs : SamePacket p q w) : ripId q = ripId p := by
  simp only [ripId, hs.dst, hs.src, hs.protocol]

theorem readSrc_eq (hp : 20 ≤ p.frame.length) : readSrc p = .ok p.src := if_pos (by omega)

theorem readDst_eq (hp : 20 ≤ p.frame.length) : readDst p = .ok p.dst := if_pos hp

/-- A handler does the same with a payload from either frame; it quotes the packet only when there
are eight bytes to quote. -/
theorem nextLayer_padded (hs : SamePacket p q w) (hp : 20 ≤ p.frame.length)
    (hq : 20 ≤ q.frame.length) {payload : List UInt8}
    (hquote : 8 ≤ payload.length → q.quote = p.quote) {protocol : Nat}
    {nextLayer : Host → IPParser → List UInt8 → Picks → Host × TxEnd}
    (hmap : ipProtocolMap protocol = some nextLayer) :
    nextLayer h q payload x = nextLayer h p payload x := by
  rcases ipProtocolMap_eq_some hmap with ⟨-, rfl⟩ | ⟨-, rfl⟩ | ⟨-, rfl⟩ | ⟨-, rfl⟩
  · rfl
  · simp only [rxIcmp, hIcmpEchoReq, hIcmpEchoRep, readSrc_eq hp, readSrc_eq hq, readDst_eq hp,
      readDst_eq hq, reading, hs.src, hs.dst, hs.protocol]
  · unfold rxUdp
    split
    · rfl
    · next hlen =>
      have herror := icmpError_of_quote (h := h) (x := x) (hquote (Nat.le_of_not_lt hlen))
      have hcsum : rxUdpCsum q payload = rxUdpCsum p payload := by
        rw [rxUdpCsum, rxUdpCsum, hs.src, hs.dst, hs.protocol]
      simp only [readSrc_eq hp, readSrc_eq hq, readDst_eq hp, readDst_eq hq, reading, hcsum, hs.src,
        hs.dst, herror]
  · have hcsum : rxTcpCsum q payload = rxTcpCsum p payload := by
      rw [rxTcpCsum, rxTcpCsum, hs.src, hs.dst, hs.protocol]
    simp only [rxTcp, readSrc_eq hp, readSrc_eq hq, readDst_eq hp, readDst_eq hq, reading,
      hcsum, hs.src, hs.dst]

/-! ## The reassembly -/

theorem readingTraced_withReass {r : ReassState} {α : Type} (res : Except PyError α)
    {next next' : α → Traced} (hnext : ∀ a, (next' a).2 = (next a).2) :
    ((h.withReass r).readingTraced res next').2 = (h.readingTraced res next).2 := by
  cases res with
  | ok a => exact hnext a
  | error e => rfl

/-- What a datagram is handed on to does not depend on the reassembly. -/
theorem rxDatagramTraced_withReass (r : ReassState) (dgram : List UInt8) :
    ((h.withReass r).rxDatagramTraced x dgram).2 = (h.rxDatagramTraced x dgram).2 := by
  refine readingTraced_withReass _ fun totalLen => readingTraced_withReass _ fun protocol => ?_
  cases ipProtocolMap protocol with
  | some nextLayer => rfl
  | none =>
    refine readingTraced_withReass _ fun dst => readingTraced_withReass _ fun src => ?_
    dsimp only [withReass_rip]
    cases h.rip ⟨dst, protocol, src⟩ with
    | some queue => rfl
    | none => rfl

theorem rxDatagram_alike {r r' : ReassState} (hr : r.Alike r') (dgram : List UInt8) :
    ((h.withReass r).rxDatagram dgram x).1.Alike ((h.withReass r').rxDatagram dgram x).1 ∧
      EndAlike ((h.withReass r).rxDatagram dgram x).2 ((h.withReass r').rxDatagram dgram x).2 ∧
      ((h.withReass r').rxDatagramTraced x dgram).2 =
          ((h.withReass r).rxDatagramTraced x dgram).2 := by
  rw [rxDatagram_withReass, rxDatagram_withReass, rxDatagramTraced_withReass,
    rxDatagramTraced_withReass]
  exact ⟨alike_withReass hr, .inl rfl, rfl⟩

/-- Two calls of the reassembly with the same outcome lead to the same effects. -/
theorem rxReass_alike {r : ReassState} (halike : (ipReass h.reass p).Alike (ipReass r q)) :
    (h.rxReass p x).1.Alike ((h.withReass r).rxReass q x).1 ∧
      EndAlike (h.rxReass p x).2 ((h.withReass r).rxReass q x).2 ∧
      ((h.withReass r).rxReassTraced q x).2 = (h.rxReassTraced p x).2 := by
  obtain ⟨hstate, hresult⟩ := halike
  have hhost : (h.withReass (ipReass h.reass p).1).Alike (h.withReass (ipReass r q).1) :=
    alike_withReass hstate
  unfold rxReass rxReassTraced
  dsimp only [withReass_reass]
  cases hp : (ipReass h.reass p).2 with
  | error e =>
    cases hq : (ipReass r q).2 with
    | error e' => exact ⟨hhost, .inr ⟨⟨e, rfl⟩, ⟨e', rfl⟩⟩, rfl⟩
    | ok v => simp [hp, hq, Except.toOption] at hresult
  | ok v =>
    cases hq : (ipReass r q).2 with
    | error e' => simp [hp, hq, Except.toOption] at hresult
    | ok v' =>
      obtain rfl : v' = v := by simpa [hp, hq, Except.toOption] using hresult
      cases v' with
      | none => exact ⟨hhost, .inl rfl, rfl⟩
      | some dgram =>
        dsimp only
        by_cases hnil : dgram = []
        · rw [if_pos hnil, if_pos hnil, if_pos hnil, if_pos hnil]
          exact ⟨hhost, .inl rfl, rfl⟩
        · rw [if_neg hnil, if_neg hnil, if_neg hnil, if_neg hnil]
          exact rxDatagram_alike hstate dgram

/-! ## Alike hosts behave alike -/

section Alike

theorem rxArp_withReass (r : ReassState) (bytes : List UInt8) :
    (h.withReass r).rxArp bytes = onReass r (h.rxArp bytes) := by
  have hcore : (h.withReass r).core = h.core := rfl
  unfold rxArp
  simp only [hcore]
  split <;> rfl

/-- A call that does not look at the reassembly goes the same way on alike hosts. -/
theorem Alike.of_withReass (call : Host → Host × TxEnd)
    (hcall : ∀ (h : Host) r, call (h.withReass r) = onReass r (call h)) (ha : h.Alike h') :
    (call h).1.Alike (call h').1 ∧ EndAlike (call h).2 (call h').2 := by
  have hself : call h = onReass h.reass (call h) := hcall h h.reass
  rw [ha.eq_withReass, hcall h h'.reass, hself]
  exact ⟨alike_withReass ha.reass, .inl rfl⟩

theorem Alike.rxReass (ha : h.Alike h') (p : IPParser) (x : Picks) :
    (h.rxReass p x).1.Alike (h'.rxReass p x).1 ∧ EndAlike (h.rxReass p x).2 (h'.rxReass p x).2 := by
  rw [ha.eq_withReass]
  obtain ⟨hhost, hends, -⟩ := rxReass_alike (x := x) (ha.reass.ipReass p)
  exact ⟨hhost, hends⟩

theorem Alike.ripGetData (ha : h.Alike h') (id : RipId) (packet : List UInt8) :
    (h.ripGetData id packet).Alike (h'.ripGetData id packet) := by
  have hself : h.ripGetData id packet = (h.ripGetData id packet).withReass h.reass :=
    h.ripGetData_withReass h.reass id packet
  rw [ha.eq_withReass, ripGetData_withReass, hself]
  exact alike_withReass ha.reass

theorem Alike.rxIp (ha : h.Alike h') (frame : List UInt8) (x : Picks) :
    (h.rxIp frame x).1.Alike (h'.rxIp frame x).1 ∧
    EndAlike (h.rxIp frame x).2 (h'.rxIp frame x).2 := by
  unfold Host.rxIp
  rw [ha.core, ha.rip]
  dsimp only
  cases h.core.unicastIp with
  | none =>
    dsimp only
    split
    · exact ⟨ha, .inl rfl⟩
    · exact ⟨ha, .inl rfl⟩
  | some unicastIp =>
    dsimp only
    cases Wire.rxIp unicastIp ⟨frame⟩ with
    | dropped => exact ⟨ha, .inl rfl⟩
    | ttlExceeded =>
      exact ha.of_withReass (icmpError · ⟨frame⟩ _ _ x) fun h r => h.icmpError_withReass r _ x _ _
    | fragment => exact ha.rxReass _ x
    | whole payload =>
      dsimp only
      cases hmap : ipProtocolMap (IPParser.mk frame).protocol with
      | some nextLayer =>
        exact ha.of_withReass (nextLayer · ⟨frame⟩ payload x) fun h r =>
          h.nextLayer_withReass r hmap
      | none =>
        dsimp only
        cases h.rip (ripId ⟨frame⟩) with
        | none =>
          exact ha.of_withReass (icmpError · ⟨frame⟩ _ _ x) fun h r =>
            h.icmpError_withReass r _ x _ _
        | some queue => exact (ha.ripGetData _ _).rxReass _ x

theorem Alike.handlePacket (ha : h.Alike h') (bytes : List UInt8) (x : Picks) :
    (h.handlePacket bytes x).1.Alike (h'.handlePacket bytes x).1 ∧
      EndAlike (h.handlePacket bytes x).2 (h'.handlePacket bytes x).2 := by
  have hhandler : h'.ipHandler = h.ipHandler := by
    rw [ha.eq_withReass]
    rfl
  unfold Host.handlePacket
  dsimp only
  rw [hhandler]
  split_ifs
  · exact ⟨ha, .inl rfl⟩
  · exact ha.of_withReass (rxArp · bytes) fun h r => h.rxArp_withReass r bytes
  · exact ha.rxIp _ x
  · exact ⟨ha, .inl rfl⟩

/-- A callback of the reassembly looks at the entry and at what it quotes. -/
theorem Alike.reassTimerExceeded (ha : h.Alike h') {call call' : ReassCall}
    (hcall : call'.seen = call.seen) (x : Picks) :
    (h.reassTimerExceeded x call).Alike (h'.reassTimerExceeded x call') := by
  obtain ⟨p, k⟩ := call
  obtain ⟨q, k'⟩ := call'
  simp only [ReassCall.seen, Prod.mk.injEq] at hcall
  obtain ⟨hquote, rfl⟩ := hcall
  obtain ⟨r, rfl, hreass⟩ := ha.exists_withReass
  unfold Host.reassTimerExceeded
  simp only [withReass_reass, hreass.cache]
  split_ifs
  · exact ha
  · have hdealloc := alike_withReass (h := h) (hreass.dealloc k')
    have herror := (hdealloc.of_withReass (icmpError · p TIME_EXCEEDED 1 x)
      fun h r => h.icmpError_withReass r p x TIME_EXCEEDED 1).1
    unfold icmpDefragmentExceeded
    rw [icmpError_of_quote hquote]
    exact herror

/-- A timer of the reassembly, with the same place in both. -/
theorem Alike.reassTimer (ha : h.Alike h') (i : Nat) (x : Picks) :
    (h.step (.reassTimer i x)).Alike (h'.step (.reassTimer i x)) := by
  obtain ⟨r, rfl, hreass⟩ := ha.exists_withReass
  have hruns : (h.withReass r).timerRuns = h.timerRuns := rfl
  have hdue : (r.timer.popDue r.nowMs i).map
        (fun due => (due.1.map ReassCall.seen, due.2.map ReassCall.seen)) =
      (h.reass.timer.popDue h.reass.nowMs i).map
        fun due => (due.1.map ReassCall.seen, due.2.map ReassCall.seen) := by
    rw [← Timer.map_popDue, ← Timer.map_popDue, hreass.timer, hreass.nowMs]
  simp only [Host.step, hruns, withReass_reass]
  split_ifs
  · cases hpop : h.reass.timer.popDue h.reass.nowMs i with
    | none =>
      rw [hpop, Option.map_none, Option.map_eq_none_iff] at hdue
      rw [hdue]
      exact ha
    | some due =>
      rw [hpop, Option.map_some, Option.map_eq_some_iff] at hdue
      obtain ⟨due', hpop', hdue'⟩ := hdue
      rw [hpop']
      obtain ⟨task, timer⟩ := due
      obtain ⟨task', timer'⟩ := due'
      simp only [Prod.mk.injEq, TimerTask.map, TimerTask.mk.injEq] at hdue'
      obtain ⟨⟨-, -, -, hcall, hdeleted⟩, htimer⟩ := hdue'
      have hpopped : (h.withReass { h.reass with timer := timer }).Alike
          (h.withReass { r with timer := timer' }) :=
        alike_withReass ⟨hreass.cache, htimer, hreass.nowMs⟩
      dsimp only
      rw [hdeleted]
      split_ifs
      · exact hpopped
      · exact hpopped.reassTimerExceeded hcall x
  · exact ha

/-- **One step.** Alike hosts stay alike, whatever happens. -/
theorem Alike.step (ha : h.Alike h') (e : HostEvent) : (h.step e).Alike (h'.step e) := by
  obtain ⟨r, rfl, hreass⟩ := ha.exists_withReass
  cases e with
  | frame bytes x =>
    obtain ⟨hhost, hends⟩ := ha.handlePacket bytes x
    have hruns : (h.withReass r).rxRuns = h.rxRuns := rfl
    simp only [Host.step, hruns, hends.returned_iff]
    split
    · obtain ⟨r', hr', hreass'⟩ := hhost.exists_withReass
      rw [hr']
      exact ⟨rfl, hreass'⟩
    · exact ha
  | resume => exact ⟨rfl, hreass⟩
  | timer i => exact ⟨rfl, hreass⟩
  | reassTimer i x => exact ha.reassTimer i x
  | elapse ms =>
    refine ⟨rfl, hreass.cache, hreass.timer, ?_⟩
    exact congrArg (· + (ms : Int)) hreass.nowMs
  | txIp payload src dst ttl protocol options x => exact ⟨rfl, hreass⟩
  | udp id queue => exact ⟨rfl, hreass⟩
  | rip id queue => exact ⟨rfl, hreass⟩
  | tcp table events => exact ⟨rfl, hreass⟩

/-- **Whole runs.** What the timers keep beside the quote is never seen. -/
theorem Alike.run (ha : h.Alike h') (es : List HostEvent) :
    (run Host.step h es).Alike (run Host.step h' es) :=
  run_sim (fun _ _ e halike => halike.step e) ha es

/-- So what has the same effects cannot be told apart later. -/
theorem SameEffects.run {frame frame' : List UInt8} (he : h.SameEffects frame frame' x)
    (es : List HostEvent) :
    (Lib.run Host.step (h.rxIp frame x).1 es).Alike (Lib.run Host.step (h.rxIp frame' x).1 es) :=
  he.host.run es

end Alike

/-! ## When padding has no effect -/

theorem SameEffects.of_eq {frame frame' : List UInt8}
    (hrx : h.rxIpTraced frame' x = h.rxIpTraced frame x)
    (hreass : h.reassembled frame' = h.reassembled frame) : h.SameEffects frame frame' x := by
  have hfst : h.rxIp frame' x = h.rxIp frame x := by
    rw [← rxIpTraced_fst, ← rxIpTraced_fst, hrx]
  refine ⟨?_, ?_, by rw [hrx], hreass⟩
  · rw [hfst]
    exact .refl _
  · rw [hfst]

section Cases

variable {p z : List UInt8} (hp : IsPacket p)
include hp

/-- A packet whose TTL is exceeded. -/
theorem sameEffects_ttl_iff (hw : z.take (IPParser.mk p).ihl ≠ []) {unicastIp : Nat}
    (haddr : h.core.unicastIp = some unicastIp) (hin : Wire.rxIp unicastIp ⟨p⟩ = .ttlExceeded) :
    h.SameEffects p (p ++ z) x ↔ 8 ≤ (IPParser.mk p).data.length := by
  have hs := hp.samePacket z
  have hin' := (rxIp_padded hp z unicastIp).trans hin
  have htraced : h.rxIpTraced p x = (h.icmpTtlExceeded ⟨p⟩ x, []) := by
    simp only [rxIpTraced, haddr, hin]
  have htraced' : h.rxIpTraced (p ++ z) x = (h.icmpTtlExceeded ⟨p ++ z⟩ x, []) := by
    simp only [rxIpTraced, haddr, hin']
  rw [← hs.quote_eq_iff hw]
  constructor
  · intro heffects
    have hcore := heffects.host.core
    rw [← rxIpTraced_fst, ← rxIpTraced_fst, htraced, htraced'] at hcore
    exact icmpError_inj hs.dst hs.src hcore
  · intro hquote
    refine .of_eq ?_ ?_
    · rw [htraced, htraced', icmpTtlExceeded, icmpTtlExceeded, icmpError_of_quote hquote]
    · simp only [reassembled, haddr, hin, hin']

/-- A packet for a protocol with a handler. -/
theorem sameEffects_mapped {unicastIp : Nat} {payload : List UInt8}
    (haddr : h.core.unicastIp = some unicastIp) (hin : Wire.rxIp unicastIp ⟨p⟩ = .whole payload)
    (hmapped : Mapped (IPParser.mk p).protocol) : h.SameEffects p (p ++ z) x := by
  have hs := hp.samePacket z
  have hin' := (rxIp_padded hp z unicastIp).trans hin
  obtain ⟨nextLayer, hmap⟩ : ∃ nextLayer, ipProtocolMap (IPParser.mk p).protocol =
      some nextLayer := by
    refine Option.ne_none_iff_exists'.1 fun hnone => ?_
    exact ipProtocolMap_eq_none.1 hnone hmapped
  have hlen : payload.length = (IPParser.mk p).data.length := by
    rw [(rxIp_eq_whole hin).2, length_slice, hp.totalLen]
    have hdata := hs.length_data
    rw [hp.totalLen] at hdata
    dsimp only
    omega
  have hquote : 8 ≤ payload.length → (IPParser.mk (p ++ z)).quote = (IPParser.mk p).quote := by
    intro hlong
    by_cases hw : z.take (IPParser.mk p).ihl = []
    · simp only [IPParser.quote, hs.dst, hs.src, hs.header, hs.data, hw, List.append_nil]
    · rw [hlen] at hlong
      exact (hs.quote_eq_iff hw).2 hlong
  refine .of_eq ?_ ?_
  · simp only [rxIpTraced, haddr, hin, hin', hs.protocol, hmap,
      nextLayer_padded hs hp.length_ge (hp.length_append_ge z) hquote hmap]
  · simp only [reassembled, haddr, hin, hin', hs.protocol, hmap, reduceCtorEq, false_and, if_false]

/-- A packet that nobody is there for. -/
theorem sameEffects_unreach_iff (hw : z.take (IPParser.mk p).ihl ≠ []) {unicastIp : Nat}
    {payload : List UInt8} (haddr : h.core.unicastIp = some unicastIp)
    (hin : Wire.rxIp unicastIp ⟨p⟩ = .whole payload)
    (hmapped : ¬ Mapped (IPParser.mk p).protocol) (hrip : h.rip (ripId ⟨p⟩) = none) :
    h.SameEffects p (p ++ z) x ↔ 8 ≤ (IPParser.mk p).data.length := by
  have hs := hp.samePacket z
  have hin' := (rxIp_padded hp z unicastIp).trans hin
  have hmap := ipProtocolMap_eq_none.2 hmapped
  have htraced : h.rxIpTraced p x = (h.icmpProtoUnreach ⟨p⟩ x, [.protoUnreach ⟨p⟩]) := by
    simp only [rxIpTraced, haddr, hin, hmap, hrip]
  have htraced' : h.rxIpTraced (p ++ z) x =
      (h.icmpProtoUnreach ⟨p ++ z⟩ x, [.protoUnreach ⟨p ++ z⟩]) := by
    simp only [rxIpTraced, haddr, hin', hs.protocol, hmap, ripId_padded hs, hrip]
  rw [← hs.quote_eq_iff hw]
  constructor
  · intro heffects
    have hcore := heffects.host.core
    rw [← rxIpTraced_fst, ← rxIpTraced_fst, htraced, htraced'] at hcore
    exact icmpError_inj hs.dst hs.src hcore
  · intro hquote
    have hsame : h.icmpProtoUnreach ⟨p ++ z⟩ x = h.icmpProtoUnreach ⟨p⟩ x :=
      icmpError_of_quote hquote _ _
    refine ⟨?_, ?_, ?_, ?_⟩
    · rw [← rxIpTraced_fst, ← rxIpTraced_fst, htraced, htraced', hsame]
      exact .refl _
    · rw [← rxIpTraced_fst, ← rxIpTraced_fst, htraced, htraced', hsame]
    · rw [htraced, htraced']
      simp only [List.map_cons, List.map_nil, Dispatch.seen, hquote]
    · simp only [reassembled, haddr, hin, hin', hs.protocol, ripId_padded hs, hrip, ne_eq,
        not_true_eq_false, and_false, if_false]

/-- A packet for a raw socket, which is given the padding. -/
theorem not_sameEffects_raw (hw : z.take (IPParser.mk p).ihl ≠ []) {unicastIp : Nat}
    {payload : List UInt8} (haddr : h.core.unicastIp = some unicastIp)
    (hin : Wire.rxIp unicastIp ⟨p⟩ = .whole payload)
    (hmapped : ¬ Mapped (IPParser.mk p).protocol) (hrip : h.rip (ripId ⟨p⟩) ≠ none) :
    ¬ h.SameEffects p (p ++ z) x := by
  have hs := hp.samePacket z
  have hin' := (rxIp_padded hp z unicastIp).trans hin
  have hmap := ipProtocolMap_eq_none.2 hmapped
  obtain ⟨queue, hqueue⟩ := Option.ne_none_iff_exists'.1 hrip
  intro heffects
  have hhead := congrArg List.head? heffects.dispatched
  simp only [rxIpTraced, haddr, hin, hin', hs.protocol, hmap, ripId_padded hs, hqueue,
    List.map_cons, List.head?_cons, Dispatch.seen, Option.some.injEq, Sum.inl.injEq,
    Dispatch.raw.injEq, true_and,
    hs.data] at hhead
  exact hw (by simpa using hhead)

/-- A fragment. -/
theorem sameEffects_fragment_iff (hw : z.take (IPParser.mk p).ihl ≠ []) {unicastIp : Nat}
    (haddr : h.core.unicastIp = some unicastIp) (hin : Wire.rxIp unicastIp ⟨p⟩ = .fragment) :
    h.SameEffects p (p ++ z) x ↔
      Ip.PaddingHarmless h.reass ⟨p⟩ (z.take (IPParser.mk p).ihl) := by
  have hs := hp.samePacket z
  have hin' := (rxIp_padded hp z unicastIp).trans hin
  have htraced : h.rxIpTraced p x = h.rxReassTraced ⟨p⟩ x := by
    simp only [rxIpTraced, haddr, hin]
  have htraced' : h.rxIpTraced (p ++ z) x = h.rxReassTraced ⟨p ++ z⟩ x := by
    simp only [rxIpTraced, haddr, hin']
  have hrx : h.rxIp p x = h.rxReass ⟨p⟩ x := by
    rw [← rxIpTraced_fst, htraced, rxReassTraced_fst]
  have hrx' : h.rxIp (p ++ z) x = h.rxReass ⟨p ++ z⟩ x := by
    rw [← rxIpTraced_fst, htraced', rxReassTraced_fst]
  rw [← hs.ipReass_alike_iff hw]
  constructor
  · intro heffects
    refine ⟨?_, ?_⟩
    · have hreass := heffects.host.reass
      rwa [hrx, hrx', rxReass_reass, rxReass_reass] at hreass
    · have hresult := heffects.reassembled
      simpa only [reassembled, haddr, hin, hin'] using hresult
  · intro halike
    obtain ⟨hhost, hends, htrace⟩ := rxReass_alike (x := x) halike
    have htrace' : (h.rxReassTraced ⟨p ++ z⟩ x).2 = (h.rxReassTraced ⟨p⟩ x).2 := htrace
    refine ⟨?_, ?_, ?_, ?_⟩
    · rw [hrx, hrx']
      exact hhost
    · rw [hrx, hrx']
      exact hends.raises_iff
    · rw [htraced, htraced', htrace']
    · simpa only [reassembled, haddr, hin, hin'] using halike.result

end Cases

/-- A packet without a header, or with options, is not taken. -/
theorem rxIp_eq_dropped (hihl : p.ihl = 0 ∨ 20 < p.ihl) (unicastIp : Nat) :
    Wire.rxIp unicastIp p = .dropped := by
  rcases hihl with hzero | hoptions
  · have hcsum : rxIpCsum p ≠ 0 := by
      rw [rxIpCsum, hzero, slice, List.take_zero, List.drop_zero]
      decide
    simp only [Wire.rxIp, if_pos hcsum, ite_self]
  · simp only [Wire.rxIp, if_pos hoptions, ite_self]

/-- **When padding has no effect.** For every packet, all bytes behind it and every state of the
stack: `rx_ip` has the same effects on the padded frame exactly when the padding is harmless. -/
theorem padding_harmless_iff {p : List UInt8} (hlen : 20 ≤ p.length)
    (htotal : (IPParser.mk p).totalLen = p.length) (z : List UInt8) (h : Host) (x : Picks) :
    h.SameEffects p (p ++ z) x ↔ h.PaddingHarmless p z := by
  have hihl' : (IPParser.mk (p ++ z)).ihl = (IPParser.mk p).ihl := by
    simp only [IPParser.ihl, byteAt_append (show 0 < p.length by omega)]
  unfold PaddingHarmless
  by_cases hihl : (IPParser.mk p).ihl = 0 ∨ 20 < (IPParser.mk p).ihl
  · have hin := rxIp_eq_dropped hihl
    have hin' := rxIp_eq_dropped (hihl'.symm ▸ hihl)
    refine iff_of_true (.of_eq ?_ ?_) (.inr fun unicastIp _ => by rw [hin]; trivial)
    · simp only [rxIpTraced, hin, hin', if_true]
    · simp only [reassembled, hin, hin']
  have hp : IsPacket p := ⟨hlen, by omega, htotal⟩
  have hs := hp.samePacket z
  by_cases hz : z = []
  · refine iff_of_true ?_ (.inl hz)
    rw [hz, List.append_nil]
    exact .of_eq rfl rfl
  have hw : z.take (IPParser.mk p).ihl ≠ [] := by
    rw [Ne, List.take_eq_nil_iff]
    tauto
  simp only [hz, false_or]
  cases haddr : h.core.unicastIp with
  | none =>
    refine iff_of_true (.of_eq ?_ ?_) (by simp)
    · simp only [rxIpTraced, haddr, rxIp_padded hp, hs.dst]
    · simp only [reassembled, haddr]
  | some unicastIp =>
    simp only [Option.mem_def, Option.some.injEq, forall_eq']
    cases hin : Wire.rxIp unicastIp ⟨p⟩ with
    | dropped =>
      have hin' := (rxIp_padded hp z unicastIp).trans hin
      refine iff_of_true (.of_eq ?_ ?_) trivial
      · simp only [rxIpTraced, haddr, hin, hin']
      · simp only [reassembled, haddr, hin, hin']
    | ttlExceeded => exact sameEffects_ttl_iff hp hw haddr hin
    | fragment => exact sameEffects_fragment_iff hp hw haddr hin
    | whole payload =>
      dsimp only
      by_cases hmapped : Mapped (IPParser.mk p).protocol
      · exact iff_of_true (sameEffects_mapped hp haddr hin hmapped) (.inl hmapped)
      by_cases hrip : h.rip (ripId ⟨p⟩) = none
      · rw [sameEffects_unreach_iff hp hw haddr hin hmapped hrip]
        simp [hmapped, hrip]
      · refine iff_of_false (not_sameEffects_raw hp hw haddr hin hmapped hrip) ?_
        simp [hmapped, hrip]

/-- An empty UDP datagram for a port that nobody is bound to. -/
def udpShort : List UInt8 :=
  [69, 0, 0, 28, 0, 9, 0, 0, 64, 17, 102, 198, 10, 0, 0, 1, 10, 0, 0, 2] ++
    [3, 232, 0, 53, 0, 8, 231, 190]

/-- The answer to it quotes its eight bytes and none of the padding. -/
theorem udpShort_padded :
    sampleRaw.SameEffects udpShort (udpShort ++ List.replicate 18 0) ⟨1, 2, 0⟩ := by
  have hin :
    Wire.rxIp 0x0A000002 ⟨udpShort⟩ = .whole [3, 232, 0, 53, 0, 8, 231, 190] := by decide +kernel
  refine (padding_harmless_iff (by decide) (by decide) _ _ _).2 (.inr ?_)
  intro unicastIp hunicast
  obtain rfl := Option.some.inj (sampleRaw_unicastIp.symm.trans hunicast)
  rw [hin]
  exact .inl (by decide)

/-- The raw socket is given two bytes of padding with the four of the packet. -/
theorem rawShort_padded :
    20 ≤ rawShort.length ∧ (IPParser.mk rawShort).totalLen = rawShort.length ∧
      (sampleRaw.rxIpTraced rawShort ⟨1, 2, 0⟩).2 =
        [.raw ⟨0x0A000002, 99, 0x0A000001⟩ [1, 2, 3, 4]] ∧
      (sampleRaw.rxIpTraced (rawShort ++ [0, 0]) ⟨1, 2, 0⟩).2 =
        [.raw ⟨0x0A000002, 99, 0x0A000001⟩ [1, 2, 3, 4, 0, 0]] ∧
      ¬ sampleRaw.SameEffects rawShort (rawShort ++ [0, 0]) ⟨1, 2, 0⟩ := by
  have hshort : (sampleRaw.rxIpTraced rawShort ⟨1, 2, 0⟩).2 =
      [.raw ⟨0x0A000002, 99, 0x0A000001⟩ [1, 2, 3, 4]] := by
    decide +kernel
  have hpadded : (sampleRaw.rxIpTraced (rawShort ++ [0, 0]) ⟨1, 2, 0⟩).2 =
      [.raw ⟨0x0A000002, 99, 0x0A000001⟩ [1, 2, 3, 4, 0, 0]] := by
    decide +kernel
  refine ⟨by decide, by decide, hshort, hpadded, ?_⟩
  intro heffects
  have hseen := heffects.dispatched
  rw [hshort, hpadded] at hseen
  simp [Dispatch.seen] at hseen

end Host

end Tipy
