import Tipy.CsumOrder
import Tipy.Host.Exchange
import Tipy.Ip.Padding

/-!
# A ping

`example/ping.py` on one station of a segment, against the stack of another. The example computes
the checksum of its message in its own way and sends it with a raw socket; the other host takes the
message from the wire, answers it with the checksum of the stack, and what the first host receives
is given to the raw socket. Before that the stations may have to resolve each other's addresses.
-/

namespace Tipy

open Components Arp Ip Wire Lib

/-! ## The messages -/

/-- `Ping.build_echo_req`, which makes the header twice. -/
def buildEchoReq (icmpId sequence : Nat) (payload : List UInt8) : Option (List UInt8) := do
  let header ← structPack [(.B, ECHO_REQUEST), (.B, 0), (.H, 0), (.H, icmpId), (.H, sequence)]
  let checksum := pingCsum (header ++ payload)
  let header ← structPack [(.B, ECHO_REQUEST), (.B, 0), (.H, checksum), (.H, icmpId),
    (.H, sequence)]
  return header ++ payload

/-- What `Ping.parse_reply` returns. -/
structure PingReply where
  type : Nat
  code : Nat
  checksum : Nat
  id : Nat
  seq : Nat
  payload : List UInt8
deriving Repr, DecidableEq

/-- `Ping.parse_reply`. -/
def parseReply (rawData : List UInt8) : Option PingReply :=
  if rawData.length < 8 then none
  else some ⟨byteAt rawData 0, byteAt rawData 1, u16At rawData 2, u16At rawData 4, u16At rawData 6,
    rawData.drop 8⟩

/-- The example and the stack compute one checksum. -/
theorem pingCsum_eq (data : List UInt8) : pingCsum data = inetCsum data 0 := by
  generalize hpad : (if data.length % 2 ≠ 0 then data ++ [0] else data) = whole
  have heven : whole.length % 2 = 0 := by
    rw [← hpad]
    split
    · next h =>
      rw [List.length_append, List.length_singleton]
      omega
    · next h => omega
  have hwhole : leNat whole = leNat data := by
    rw [← hpad]
    split
    · exact pad_leNat _
    · rfl
  obtain ⟨hlt, hmod, hzero⟩ := pingTotal_sum whole 0 heven (by norm_num)
  rw [hwhole, Nat.zero_add] at hmod
  rw [hwhole] at hzero
  have hswapped := csumSwapped_modEq data 0
  rw [Nat.zero_add] at hswapped
  have hsame := eq_of_modEq_pred hlt (csumSwapped_lt data 0) (hmod.trans hswapped.symm)
    (hzero.trans (csumSwapped_eq_zero_iff data 0).symm)
  have hping : pingCsum data = 0xFFFF - pingTotal whole 0 := by
    rw [← hpad]
    rfl
  rw [hping, hsame]
  rfl

/-- The counters of `Ping.ping`. -/
structure PingCounts where
  sent : Nat
  received : Nat
deriving Repr, DecidableEq

/-- What a turn of the loop in `Ping.ping` counts; `none` when `recv` has timed out. -/
def PingCounts.turn (c : PingCounts) (icmpId : Nat) (rawReply : Option (List UInt8)) :
    PingCounts where
  sent := c.sent + 1
  received :=
    match rawReply.bind parseReply with
    | some r => if r.type = 0 ∧ r.id = icmpId ∧ r.seq = c.sent then c.received + 1 else c.received
    | none => c.received

/-- The request as `ICMPBuilder` would have made it. -/
def echoRequest (icmpId sequence : Nat) (payload : List UInt8) : ICMPBuilder :=
  ⟨ECHO_REQUEST, 0, payload, some icmpId, some sequence⟩

/-- The answer of `_h_icmp_echo_req`. -/
def echoReply (icmpId sequence : Nat) (payload : List UInt8) : ICMPBuilder :=
  ⟨ECHO_REPLY, 0, payload, some icmpId, some sequence⟩

section Messages

variable {icmpId sequence : Nat} {payload : List UInt8}

theorem echoRequest_echo (hid : icmpId < 65536) (hseq : sequence < 65536) :
    (echoRequest icmpId sequence payload).Echo icmpId sequence :=
  ⟨List.mem_cons_self, Nat.zero_lt_succ 255, rfl, rfl, hid, hseq⟩

theorem echoReply_echo (hid : icmpId < 65536) (hseq : sequence < 65536) :
    (echoReply icmpId sequence payload).Echo icmpId sequence :=
  ⟨List.mem_cons_of_mem _ List.mem_cons_self, Nat.zero_lt_succ 255, rfl, rfl, hid, hseq⟩

/-- **The request of the example** is a message the stack accepts. -/
theorem buildEchoReq_received {req : List UInt8}
    (h : buildEchoReq icmpId sequence payload = some req) :
    icmpId < 65536 ∧ sequence < 65536 ∧ req.length = 8 + payload.length ∧
      IcmpReceived (echoRequest icmpId sequence payload) ⟨req⟩ := by
  obtain ⟨header, hheader, h⟩ := Option.bind_eq_some_iff.1 h
  have hbound := structPack_bound hheader
  have hid : icmpId < 65536 := hbound (.H, icmpId) (by simp)
  have hseq : sequence < 65536 := hbound (.H, sequence) (by simp)
  obtain ⟨header', hheader', h⟩ := Option.bind_eq_some_iff.1 h
  obtain rfl := Option.some.inj h
  have hzero : header = [8, 0] ++ be16 0 ++ (be16 icmpId ++ be16 sequence) := by
    obtain rfl := Option.some.inj ((structPack_eq_some _ hbound).symm.trans hheader)
    simp [Fmt.bytes, ECHO_REQUEST]
  have hfinal : header' =
      [8, 0] ++ be16 (pingCsum (header ++ payload)) ++ (be16 icmpId ++ be16 sequence) := by
    obtain rfl :=
      Option.some.inj ((structPack_eq_some _ (structPack_bound hheader')).symm.trans hheader')
    simp [Fmt.bytes, ECHO_REQUEST]
  have hmessage : header' ++ payload =
      (echoRequest icmpId sequence payload).message icmpId sequence
          (pingCsum (header ++ payload)) := by
    rw [hfinal]
    simp [ICMPBuilder.message, echoRequest, ECHO_REQUEST]
  refine ⟨hid, hseq, ?_, ?_⟩
  · rw [hmessage, ICMPBuilder.length_message]
    exact Nat.add_comm _ _
  · rw [hmessage]
    refine icmpReceived (n := 0) (echoRequest_echo hid hseq) ?_
    rw [pingCsum_eq, hzero]
    simp [ICMPBuilder.message, echoRequest, ECHO_REQUEST, zeros]

/-- A request is built as long as the sequence number fits its field. -/
theorem buildEchoReq_isSome (payload : List UInt8) (hid : icmpId < 65536)
    (hseq : sequence < 65536) :
    ∃ req, buildEchoReq icmpId sequence payload = some req := by
  have hbound : ∀ {csum : Nat}, csum < 65536 → ∀ fv ∈
      [(Fmt.B, ECHO_REQUEST), (.B, 0), (.H, csum), (.H, icmpId), (.H, sequence)],
          fv.2 < fv.1.bound := by
    intro csum hcsum
    simp [Fmt.bound, ECHO_REQUEST, hcsum, hid, hseq]
  have hcsum : ∀ data, pingCsum data < 65536 := fun data => by
    rw [pingCsum_eq]
    exact inetCsum_lt _ _
  unfold buildEchoReq
  rw [structPack_eq_some _ (hbound (by decide : 0 < 65536)), Option.bind_eq_bind, Option.bind_some]
  dsimp only
  rw [structPack_eq_some _ (hbound (hcsum _))]
  exact ⟨_, rfl⟩

/-- **The answer of the stack** is counted, as far as `recv` gives it back. -/
theorem PingCounts.turn_received {part : List UInt8} {c : PingCounts} {bufsize : Nat}
    (hbuf : 8 ≤ bufsize) (h : IcmpReceived (echoReply icmpId c.sent payload) ⟨part⟩) :
    c.turn icmpId (some (part.take bufsize)) = ⟨c.sent + 1, c.received + 1⟩ := by
  have hlength : 8 ≤ (part.take bufsize).length := by
    have hlength : 8 ≤ part.length := h.length
    rw [List.length_take]
    omega
  have htype : byteAt part 0 = 0 := h.type
  have hid : u16At part 4 = icmpId := (Option.some.inj h.echoId).symm
  have hseq : u16At part 6 = c.sent := (Option.some.inj h.echoSeq).symm
  rw [← List.take_append_drop bufsize part] at htype hid hseq
  rw [byteAt_append (by omega)] at htype
  rw [u16At_append (by omega)] at hid hseq
  have hlong : ¬ (part.take bufsize).length < 8 := Nat.not_lt.2 hlength
  simp only [turn, Option.bind_some, parseReply, if_neg hlong, htype, hid, hseq, and_self, if_true]

end Messages

/-! ## What a host does with a message -/

/-- The bytes of a raw packet go out as they are. -/
theorem Wire.RAWBuilder.build_zeros (data : List UInt8) {n : Nat} (hn : data.length ≤ n) :
    (Payload.raw ⟨data⟩).build (zeros n) none = .ok (data ++ zeros (n - data.length)) := by
  simpa [Payload.build, RAWBuilder.build] using @sliceAssign_append [] (zeros n) data
    (by simpa using hn)

namespace Host

variable {h : Host} {part : List UInt8} {x : Picks} {p : IPParser} {icmpId sequence : Nat}
  {payload : List UInt8}

/-- **An echo request** is answered with what it carries. -/
theorem rxIcmp_request (hp : 20 ≤ p.frame.length)
    (hread : IcmpReceived (echoRequest icmpId sequence payload) ⟨part⟩) :
    h.rxIcmp p part x = h.txIcmp p.dst p.src (echoReply icmpId sequence payload) x := by
  have htype : (ICMPParser.mk part).type = ECHO_REQUEST := hread.type
  have hcode : (ICMPParser.mk part).code = 0 := hread.code
  have hsrc : readSrc p = .ok p.src := if_pos (by omega)
  have hdst : readDst p = .ok p.dst := if_pos hp
  have hnot : ∀ code, ¬ ((ICMPParser.mk part).type = DESTINATION_UNREACHABLE ∧
      (ICMPParser.mk part).code = code) := by
    rintro code ⟨hunreach, -⟩
    rw [htype] at hunreach
    cases hunreach
  unfold Host.rxIcmp
  dsimp only
  rw [if_neg (Nat.not_lt.2 hread.length), if_neg (not_not.2 hread.csum), if_neg (hnot 3),
    if_neg (hnot 2), if_pos ⟨htype, hcode⟩, hIcmpEchoReq, hsrc, hdst]
  have hid : icmpId = (ICMPParser.mk part).echoId := Option.some.inj hread.echoId
  have hseq : sequence = (ICMPParser.mk part).echoSeq := Option.some.inj hread.echoSeq
  have hdata : (ICMPParser.mk part).data = payload := hread.data
  simp only [reading, ← hid, ← hseq, hdata, echoReply]

/-- **An echo reply** is given to the raw socket. -/
theorem rxIcmp_reply (hp : 20 ≤ p.frame.length)
    (hread : IcmpReceived (echoReply icmpId sequence payload) ⟨part⟩) :
    h.rxIcmp p part x = (h.ripGetData (ripId p) part, .returned) := by
  have htype : (ICMPParser.mk part).type = ECHO_REPLY := hread.type
  have hcode : (ICMPParser.mk part).code = 0 := hread.code
  have hsrc : readSrc p = .ok p.src := if_pos (by omega)
  have hdst : readDst p = .ok p.dst := if_pos hp
  have hnot : ∀ code, ¬ ((ICMPParser.mk part).type = DESTINATION_UNREACHABLE ∧
      (ICMPParser.mk part).code = code) := by
    rintro code ⟨hunreach, -⟩
    rw [htype] at hunreach
    cases hunreach
  have hrequest : ¬ ((ICMPParser.mk part).type = ECHO_REQUEST ∧ (ICMPParser.mk part).code = 0) := by
    rintro ⟨hrequest, -⟩
    rw [htype] at hrequest
    cases hrequest
  unfold Host.rxIcmp
  dsimp only
  rw [if_neg (Nat.not_lt.2 hread.length), if_neg (not_not.2 hread.csum), if_neg (hnot 3),
    if_neg (hnot 2), if_neg hrequest, if_pos ⟨htype, hcode⟩, hIcmpEchoRep, hsrc, hdst]
  rfl

theorem ipProtocolMap_icmp : ipProtocolMap IP_PROTO_ICMP = some rxIcmp := rfl

end Host

/-! ## The ping -/

namespace Segment

variable {ι : Type} {S : Stations ι} {s : Segment ι} {i j : ι} {icmpId sequence : Nat}
    {payload : List UInt8}

/-- The id of the raw socket of station `i` that is connected to station `j`. -/
def pingSocket (S : Stations ι) (i j : ι) : RipId := ⟨S.addr i, IP_PROTO_ICMP, S.addr j⟩

/-- `send` of this socket. -/
def pingSend (S : Stations ι) (i j : ι) (req : List UInt8) (x : Picks) : SegmentEvent ι :=
  .host i (.txIp (.raw ⟨req⟩) (S.addr i) (S.addr j) 64 IP_PROTO_ICMP [] x)

variable [DecidableEq ι]

/-- The loop in `Ping.ping` with what happens on the segment meanwhile: a request is built and sent,
frames are carried, and `recv` takes the first packet in the queue of the socket or times out. -/
inductive PingLoop (S : Stations ι) (i j : ι) (icmpId bufsize : Nat) (payload : List UInt8)
    (picks : Nat → Picks) (s₀ : Segment ι) : PingCounts → Segment ι → Prop where
  | start : PingLoop S i j icmpId bufsize payload picks s₀ ⟨0, 0⟩ s₀
  | reply {c : PingCounts} {s s' : Segment ι} {req msg : List UInt8} {es : List (SegmentEvent ι)}
      {queue : List (List UInt8)} (hloop : PingLoop S i j icmpId bufsize payload picks s₀ c s)
      (hreq : buildEchoReq icmpId c.sent payload = some req) (hes : ∀ e ∈ es,
        Carries (picks c.sent) e)
      (hs' : s' = run step s (pingSend S i j req (picks c.sent) :: es))
      (hqueue : (s'.host i).rip (pingSocket S i j) = some (msg :: queue)) :
      PingLoop S i j icmpId bufsize payload picks s₀ (c.turn icmpId (some (msg.take bufsize)))
        (s'.step (.host i (.rip (pingSocket S i j) (some queue))))
  | timeout {c : PingCounts} {s : Segment ι} {req : List UInt8} {es : List (SegmentEvent ι)}
      (hloop : PingLoop S i j icmpId bufsize payload picks s₀ c s)
      (hreq : buildEchoReq icmpId c.sent payload = some req) (hes : ∀ e ∈ es,
        Carries (picks c.sent) e) :
      PingLoop S i j icmpId bufsize payload picks s₀ (c.turn icmpId none)
        (run step s (pingSend S i j req (picks c.sent) :: es))

/-- Two stations between which a raw socket waits for answers. -/
structure Pinging (S : Stations ι) (i j : ι) (s : Segment ι) (queue : List (List UInt8)) :
    Prop where
  pair : Pair S i j s
  socket : (s.host i).rip (pingSocket S i j) = some queue

/-- What `recv` leaves in the queue. -/
theorem Pinging.recv {queue queue' : List (List UInt8)} (h : Pinging S i j s queue)
    (hij : S.Link i j) :
    Pinging S i j (s.step (.host i (.rip (pingSocket S i j) (some queue')))) queue' := by
  generalize hs' : s.step (.host i (.rip (pingSocket S i j) (some queue'))) = s'
  have hinv : s'.Inv S := by
    rw [← hs']
    exact h.pair.inv.step fun _ => .tail _ (.head _)
  have hfirst : s'.host i =
      { s.host i with rip := Function.update (s.host i).rip (pingSocket S i j) (some queue') } := by
    rw [← hs']
    exact Function.update_self ..
  have hpeer : s'.host j = s.host j := by
    rw [← hs']
    exact Function.update_of_ne hij.ne.symm ..
  refine ⟨⟨hinv, ?_, ?_, ?_, ?_⟩, ?_⟩
  · rw [hfirst]
    exact ⟨h.pair.up.rxRuns, h.pair.up.ipHandler, h.pair.up.unicastIp⟩
  · rw [hpeer]
    exact h.pair.peer
  · rw [hfirst]
    exact h.pair.fore
  · rw [hpeer]
    exact h.pair.back
  · rw [hfirst]
    exact Function.update_self ..

/-- The request is answered. -/
theorem Pair.request (h : Pair S i j s) (hrange : S.InRange) (hij : S.Link i j) (hji : S.Link j i)
    {req : List UInt8} (hreq : buildEchoReq icmpId sequence payload = some req)
    (hlen : 20 + req.length ≤ MTU) {x : Picks} (hx : x.id < 65536) :
    ∃ es, (∀ e ∈ es, Carries x e) ∧ Pair S i j (run Segment.step s (pingSend S i j req x :: es)) ∧
      (∃ k, (run Segment.step s (pingSend S i j req x :: es)).host i =
        { s.host i with core := k }) ∧
      S.Outgoing j i
        (.whole (IPBuilder.plain (.icmp (echoReply icmpId sequence payload)) x.id 64 IP_PROTO_ICMP
        (S.addr j) (S.addr i)))
            ((run Segment.step s (pingSend S i j req x :: es)).host j).core := by
  obtain ⟨hicmpId, hsequence, hreqLen, hreceived⟩ := buildEchoReq_received hreq
  have hroom : req.length ≤ 1480 := by
    simp only [MTU] at hlen
    omega
  have hanswer : 20 + (Payload.icmp (echoReply icmpId sequence payload)).len ≤ MTU := by
    simp only [Payload.len, ICMPBuilder.len, echoReply]
    omega
  obtain ⟨hpair, ⟨k, hsender⟩, -, hout⟩ := h.sent hij (.raw ⟨req⟩) hlen 64 IP_PROTO_ICMP x rfl
  have hway : OnItsWay S i j _ (.raw ⟨req⟩) req x.id 64 IP_PROTO_ICMP Host.rxIcmp :=
    ⟨hx, by decide, by decide, by decide, hlen, Host.ipProtocolMap_icmp, rfl,
      RAWBuilder.build_zeros req hroom,
      hout⟩
  obtain ⟨es, -, hes, -, hpair', ⟨k', hsender'⟩, hanswered⟩ := hpair.answered hrange hij hji hway
    (fun _ => .icmp (echoReply icmpId sequence payload)) (fun _ _ => hanswer) x fun k p hip => by
        have hlength := hip.length
        rw [Host.rxIcmp_request (by omega) hreceived, hip.src, hip.dst, Host.txIcmp]
  refine ⟨es, hes, hpair', ⟨k', ?_⟩, hanswered⟩
  rw [run_cons]
  refine hsender'.trans ?_
  rw [hsender]

/-- The answer gets to the raw socket. -/
theorem Pinging.reply {queue : List (List UInt8)} (h : Pinging S i j s queue) (hrange : S.InRange)
    (hij : S.Link i j) (hji : S.Link j i) (hicmpId : icmpId < 65536) (hsequence : sequence < 65536)
    (hlen : 28 + payload.length ≤ MTU) {x : Picks} (hx : x.id < 65536)
    (hout : S.Outgoing j i
    (.whole (IPBuilder.plain (.icmp (echoReply icmpId sequence payload)) x.id 64
      IP_PROTO_ICMP (S.addr j) (S.addr i))) (s.host j).core) :
    ∃ es, (∀ e ∈ es, Carries x e) ∧
      ∃ part, IcmpReceived (echoReply icmpId sequence payload) ⟨part⟩ ∧
      Pinging S i j (run Segment.step s es) (queue ++ [part]) := by
  have hroom : (echoReply icmpId sequence payload).len ≤ 1480 := by
    simp only [MTU, ICMPBuilder.len, echoReply] at hlen ⊢
    omega
  have hfits : 20 + (Payload.icmp (echoReply icmpId sequence payload)).len ≤ MTU := by
    simp only [MTU, Payload.len]
    omega
  obtain ⟨part, hbuild, hpart, hread⟩ := (Plain.icmp (echoReply_echo hicmpId hsequence)).build hroom
    (by decide) (S.addr j) (S.addr i)
  obtain ⟨es, hes, hpair, hreceived, hsocket⟩ := h.pair.symm.taken hrange hji hij
    ⟨hx, by decide, by decide, by decide, hfits, Host.ipProtocolMap_icmp, hpart, hbuild, hout⟩
    (Q := fun h' => IcmpReceived (echoReply icmpId sequence payload) ⟨part⟩ ∧
      h'.rip (pingSocket S i j) = some (queue ++ [part])) x fun k p hip => by
      have hreceived : IcmpReceived (echoReply icmpId sequence payload) ⟨part⟩ :=
        hread p hip.src hip.dst hip.protocol
      have hlength := hip.length
      have hkey : Host.ripId p = pingSocket S i j := by
        rw [Host.ripId, hip.dst, hip.protocol, hip.src, pingSocket]
      rw [Host.rxIcmp_reply (by omega) hreceived, hkey]
      simp only [Host.ripGetData, h.socket]
      exact ⟨_, rfl, rfl, hreceived, Function.update_self ..⟩
  exact ⟨es, hes, part, hreceived, hpair.symm, hsocket⟩

/-- A turn whose request is answered. -/
theorem Pinging.turn (h : Pinging S i j s []) (hrange : S.InRange) (hij : S.Link i j)
    (hji : S.Link j i) {bufsize : Nat} (hbuf : 8 ≤ bufsize) (hlen : 28 + payload.length ≤ MTU)
    {picks : Nat → Picks}
    (hpicks : ∀ n, (picks n).id < 65536) (hicmpId : icmpId < 65536) {s₀ : Segment ι}
    {c : PingCounts} (hsent : c.sent < 65536)
    (hloop : PingLoop S i j icmpId bufsize payload picks s₀ c s) :
    ∃ s', PingLoop S i j icmpId bufsize payload picks s₀ ⟨c.sent + 1, c.received + 1⟩ s' ∧
      Pinging S i j s' [] := by
  obtain ⟨req, hreq⟩ := buildEchoReq_isSome payload hicmpId hsent
  obtain ⟨-, -, hreqLen, -⟩ := buildEchoReq_received hreq
  obtain ⟨es, hes, hpair, ⟨k, hsender⟩, hout⟩ :=
    h.pair.request hrange hij hji hreq (by omega) (hpicks c.sent)
  have hsocket : ((run Segment.step s (pingSend S i j req (picks c.sent) :: es)).host i).rip
    (pingSocket S i j) =
      some [] := by
    rw [hsender]
    exact h.socket
  obtain ⟨es', hes', part, hreceived, hpinging⟩ :=
    (Pinging.mk hpair hsocket).reply hrange hij hji hicmpId hsent
    hlen (hpicks c.sent) hout
  have hcarried : ∀ e ∈ es ++ es', Carries (picks c.sent) e := fun e he =>
    (List.mem_append.1 he).elim (hes e) (hes' e)
  rw [← run_append, List.cons_append] at hpinging
  refine ⟨_, ?_, hpinging.recv hij⟩
  rw [← c.turn_received hbuf hreceived]
  exact .reply hloop hreq hcarried rfl hpinging.socket

/-- **Every ping is answered.** From every state that is reached in which the two stations have
their addresses and nothing is left waiting, the loop can go on for as long as the sequence numbers
fit their field, and none of its requests is lost. -/
theorem ping_answered (S : Stations ι) (hrange : S.InRange) (nowMs : ι → Int) (ipaddr : ι → String)
    (es : List (SegmentEvent ι)) (hes : Guarded step (Admits S) (start S nowMs ipaddr) es)
    (s : Segment ι) (hs : s = run step (start S nowMs ipaddr) es) (i j : ι) (hij : S.Link i j)
    (hji : S.Link j i)
    (hi : S.Up i (s.host i)) (hj : S.Up j (s.host j))
    (hopen : Stations.Open (S.addr j) (s.host i).core)
    (hopen' : Stations.Open (S.addr i) (s.host j).core)
    (hsock : (s.host i).rip (pingSocket S i j) = some []) (icmpId bufsize : Nat)
    (hicmpId : icmpId < 65536) (hbuf : 8 ≤ bufsize) (payload : List UInt8)
    (hlen : 28 + payload.length ≤ MTU) (picks : Nat → Picks)
    (hpicks : ∀ n, (picks n).id < 65536) (count : Nat) (hcount : count ≤ 65536) :
    ∃ s', PingLoop S i j icmpId bufsize payload picks s ⟨count, count⟩ s' := by
  subst hs
  have hstart : Pinging S i j (run step (start S nowMs ipaddr) es) [] :=
    ⟨⟨inv_run hes, hi, hj, hopen, hopen'⟩, hsock⟩
  suffices hturns :
    ∃ s', PingLoop S i j icmpId bufsize payload picks (run step (start S nowMs ipaddr) es)
      ⟨count, count⟩ s' ∧ Pinging S i j s' [] by
    obtain ⟨s', hloop, -⟩ := hturns
    exact ⟨s', hloop⟩
  induction count with
  | zero => exact ⟨_, .start, hstart⟩
  | succ n ih =>
    obtain ⟨s', hloop, hpinging⟩ := ih (by omega)
    exact hpinging.turn hrange hij hji hbuf hlen hpicks hicmpId (Nat.lt_of_succ_le hcount) hloop

/-- A raw socket for the replies of the second station. -/
def samplePing : List (SegmentEvent Bool) :=
  sampleRun ++ [.host false (.rip (pingSocket sampleStations false true) (some []))]

theorem ping_answered_two : ∃ s', PingLoop sampleStations false true 17 128 [97, 98, 99]
    (fun n => ⟨n % 65536, 8, 0⟩) (run step sampleStart samplePing) ⟨50000, 50000⟩ s' := by
  have hadmitted : Guarded step (Admits sampleStations) sampleStart samplePing :=
    (guarded_append ..).2 ⟨sampleRun_admitted, fun _ => .tail _ (.head _), trivial⟩
  have hfirst : sampleStations.Up false ((run step sampleStart samplePing).host false) :=
    ⟨by decide +kernel, by decide +kernel, by decide +kernel⟩
  have hsecond : sampleStations.Up true ((run step sampleStart samplePing).host true) :=
    ⟨by decide +kernel, by decide +kernel, by decide +kernel⟩
  exact ping_answered sampleStations sampleStations_inRange _ _ samplePing hadmitted _
    rfl false true
    ⟨by decide, by decide, by decide⟩ ⟨by decide, by decide, by decide⟩ hfirst hsecond
    (fun _ _ => by decide +kernel) (fun _ hne => absurd (by decide +kernel) hne) (by decide +kernel)
    17 128
    (by decide) (by decide) [97, 98,
      99] (by decide) _ (fun n => Nat.mod_lt n (by decide)) 50000 (by decide)

end Segment

end Tipy
