import Tipy.Host.Exchange
import Tipy.Tcp.Cleanup

/-!
# A connection that is refused

`tcp_connect` to a port of another station that has no socket. The SYN of `_activ_open` gets to the
other host, whose `rx_tcp` answers it with a reset; the reset gets back to the event loop, as an
acknowledgement of the SYN that `_rx_syn_sent` accepts: the caller of `connect` is told that the
connection was refused.
-/

namespace Tipy

open Components Arp Ip Wire Lib Tcp

namespace Tcp

/-- The `TCPBuilder` of `tx_tcp`. -/
def TxTcp.builder (t : TxTcp) (id : SockId) : TCPBuilder where
  src := id.localPort
  dst := id.remotePort
  seq := t.seq.toNat
  ackSeq := t.ackSeq.toNat
  cwr := false
  ece := false
  urg := false
  ack := t.ack
  psh := t.psh
  rst := t.rst
  syn := t.syn
  fin := t.fin
  window := t.window.toNat
  urgPtr := 0
  options := if t.mssOption then [.mss] else []
  data := t.data

section Builder

variable {t : TxTcp} {id : SockId}

theorem TxTcp.builder_plainOptions (t : TxTcp) (id : SockId) : (t.builder id).PlainOptions := by
  unfold TCPBuilder.PlainOptions builder
  cases t.mssOption with
  | true => exact .inr rfl
  | false => exact .inl rfl

theorem TxTcp.builder_inRange (hlocal : id.localPort < 65536) (hremote : id.remotePort < 65536)
    (hseq : t.seq < 4294967296) (hack : t.ackSeq < 4294967296) (hwindow : t.window < 65536) :
    (t.builder id).InRange :=
  ⟨hlocal, hremote, by simp only [builder]; omega, by simp only [builder]; omega,
    by simp only [builder]; omega, Nat.zero_lt_succ _⟩

/-- A segment without data fits the MTU. -/
theorem TxTcp.builder_len (hdata : t.data = []) (id : SockId) :
    (Payload.tcp (t.builder id)).len ≤ 1480 := by
  have hdoff := (t.builder_plainOptions id).doff_le
  have hdata' : (t.builder id).data = [] := hdata
  simp only [Payload.len, TCPBuilder.len, hdata', List.length_nil]
  omega

end Builder

/-- The segment of `_activ_open`. -/
def Conn.syn (c : Conn) : TxTcp :=
  { TxTcp.bare c.tcb.snd.iss 0 DEFAULT_RCV_WND with syn := true, mssOption := true }

/-- The reset that answers a SYN. -/
def resetOfSyn (iss : Int) : TxTcp :=
  { TxTcp.bare 0 ((iss + 1) % 4294967296) 0 with rst := true, ack := true }

/-- The caller of `connect` is woken, and told that the connection was refused. -/
structure Refused (so : Nat) (o : Outcome) : Prop where
  fault : o.fault = none
  soError : o.st.core.soError so = some .econnrefused
  notified : (so, .connectEvents) ∈ o.st.core.notices

/-- The reset acknowledges the SYN. -/
theorem Conn.activOpen_refused (c : Conn) (hiss : 0 ≤ c.tcb.snd.iss ∧ c.tcb.snd.iss < 4294967296)
    {packet : TCPParser} (hrst : packet.rst = true)
    (hack : (packet.ackSeq : Int) = (c.tcb.snd.iss + 1) % 4294967296) :
    Refused c.tcb.so (c.activOpen.rx packet) := by
  obtain ⟨hlow, hhigh⟩ := hiss
  have hstate : c.activOpen.tcb.state = .synSent := by simp [activOpen]
  have huna : c.activOpen.tcb.snd.sndUna = c.tcb.snd.iss := by simp [activOpen, initSndSeq]
  have hnxt :
    c.activOpen.tcb.snd.sndNxt = (c.tcb.snd.iss + 1) % 4294967296 := by simp [activOpen, initSndSeq]
  have hso : c.activOpen.tcb.so = c.tcb.so := by simp [activOpen]
  have hackSeq : packet.segment.ackSeq = (c.tcb.snd.iss + 1) % 4294967296 := hack
  have hacked : 0 < (hRxAck c.activOpen.tcb.snd packet.segment).2 := by
    have hnot : ¬ (seqLeq packet.segment.ackSeq c.activOpen.tcb.snd.sndUna ∨
        seqGt packet.segment.ackSeq c.activOpen.tcb.snd.sndNxt) := by
      rw [hackSeq, huna, hnxt]
      simp only [seqLeq, seqLt, seqGt]
      omega
    rw [hRxAck, if_neg hnot, hackSeq, huna]
    simp only [seqDiff]
    omega
  have hrx : c.activOpen.rx packet = .ok ((((c.activOpen.setSnd
      (hRxAck c.activOpen.tcb.snd packet.segment).1).stopRtxTimer).onCore
        (·.setSoError c.tcb.so .econnrefused)).notify .connectEvents) := by
    have hrst' : packet.segment.rst = true := hrst
    simp only [rx, hstate, rxSynSent, if_pos (And.intro hrst' hacked)]
    simp [hso]
  rw [hrx]
  refine ⟨rfl, ?_, ?_⟩
  · simp
  · simp [hso]

end Tcp

namespace Host

variable {h : Host} {p : IPParser} {q : TCPParser} {b : TCPBuilder} {x : Picks}

theorem ipProtocolMap_tcp : ipProtocolMap IP_PROTO_TCP = some rxTcp := rfl

theorem txTcp_eq (h : Host) (id : SockId) {t : TxTcp} (ht : t.mssOption = false) (x : Picks) :
    h.txTcp id t x = h.txIp (.tcp (t.builder id)) id.localIp id.remoteIp IP_PROTO_TCP x := by
  unfold txTcp TxTcp.builder
  rw [ht]
  rfl

/-- What `rx_tcp` does with a segment that was read back. -/
theorem rxTcp_received (hp : 20 ≤ p.frame.length) (hread : TcpReceived b p q) :
    h.rxTcp p q.frame x =
      if h.tcp.sockets ⟨p.dst, b.dst, p.src, b.src⟩ ≠ none then
        ({ h with tcpEvents :=
            h.tcpEvents ++ [⟨.rxSegment q, h.tcp.tcpcbs ⟨p.dst, b.dst, p.src, b.src⟩⟩] }, .returned)
      else h.txTcp ⟨p.dst, b.dst, p.src, b.src⟩ (Tcp.Stack.resetFor q.segment) x := by
  have hsrc : readSrc p = .ok p.src := if_pos (by omega)
  have hdst : readDst p = .ok p.dst := if_pos hp
  unfold rxTcp
  rw [dif_neg (Nat.not_lt.2 q.length_ge), hdst, hsrc]
  simp only [reading]
  rw [dif_neg (Nat.not_lt.2 q.length_le), if_neg (not_not.2 hread.csum)]
  simp only [hread.src, hread.dst]

end Host

namespace Segment

variable {ι : Type} {S : Stations ι} {s : Segment ι} {i j : ι}

/-- `tx_tcp` of the SYN. -/
def sendSyn (S : Stations ι) (i j : ι) (c : Conn) (x : Picks) : SegmentEvent ι :=
  .host i (.txIp (.tcp (c.syn.builder c.tcb.socketId)) (S.addr i) (S.addr j) 64 IP_PROTO_TCP [] x)

/-- The reset that answers the SYN of a connection. -/
theorem resetFor_syn {c : Conn} {id : SockId} {p : IPParser} {q : TCPParser}
    (hiss : 0 ≤ c.tcb.snd.iss) (hread : TcpReceived (c.syn.builder id) p q) :
    Tcp.Stack.resetFor q.segment = resetOfSyn c.tcb.snd.iss := by
  have hack : q.segment.ack = false := hread.ack
  have hseq : q.segment.seq = c.tcb.snd.iss := by
    have hseq : (q.seq : Int) = (c.tcb.snd.iss.toNat : Int) := congrArg Nat.cast hread.seq
    rwa [Int.toNat_of_nonneg hiss] at hseq
  have hdlen : q.segment.dlen = 0 := hread.dlen
  have hsyn : q.segment.syn = true := hread.syn
  have hfin : q.segment.fin = false := hread.fin
  unfold Tcp.Stack.resetFor resetOfSyn
  rw [if_neg (by rw [hack]; exact Bool.false_ne_true), hseq, hdlen, hsyn, hfin]
  simp

variable [DecidableEq ι]

/-- The SYN is answered by a reset. -/
theorem Pair.syn (h : Pair S i j s) (hrange : S.InRange) (hij : S.Link i j)
    (hji : S.Link j i) {c : Conn} {lport rport : Nat}
    (hid : c.tcb.socketId = ⟨S.addr i, lport, S.addr j, rport⟩) (hlport : lport < 65536)
    (hrport : rport < 65536) (hiss : 0 ≤ c.tcb.snd.iss ∧ c.tcb.snd.iss < 4294967296)
    (hclosed : (s.host j).tcp.sockets ⟨S.addr j, rport, S.addr i, lport⟩ = none) {x : Picks}
    (hx : x.id < 65536) :
    ∃ es, (∀ e ∈ es, Carries x e) ∧ Pair S i j (run Segment.step s (sendSyn S i j c x :: es)) ∧
      (∃ k, (run Segment.step s (sendSyn S i j c x :: es)).host i = { s.host i with core := k }) ∧
      S.Outgoing j i (.whole (IPBuilder.plain
        (.tcp ((resetOfSyn c.tcb.snd.iss).builder ⟨S.addr j, rport, S.addr i, lport⟩)) x.id
          64 IP_PROTO_TCP
        (S.addr j) (S.addr i))) ((run Segment.step s (sendSyn S i j c x :: es)).host j).core := by
  obtain ⟨hlow, hhigh⟩ := hiss
  have hsyn : (c.syn.builder c.tcb.socketId).InRange := by
    rw [hid]
    exact TxTcp.builder_inRange hlport hrport hhigh (by simp [Conn.syn, TxTcp.bare])
      (by simp [Conn.syn, TxTcp.bare, DEFAULT_RCV_WND])
  have hsynLen := @TxTcp.builder_len c.syn rfl c.tcb.socketId
  have hresetLen :=
    @TxTcp.builder_len (resetOfSyn c.tcb.snd.iss) rfl ⟨S.addr j, rport, S.addr i, lport⟩
  have hresetFits : 20 + (Payload.tcp ((resetOfSyn c.tcb.snd.iss).builder
      ⟨S.addr j, rport, S.addr i, lport⟩)).len ≤ Wire.MTU := by
    simp only [Wire.MTU]
    omega
  have hfits : 20 + (Payload.tcp (c.syn.builder c.tcb.socketId)).len ≤ Wire.MTU := by
    simp only [Wire.MTU]
    omega
  obtain ⟨part, hbuild, hpart, hread⟩ :=
    (Plain.tcp hsyn (c.syn.builder_plainOptions _)).build hsynLen
    (by decide) (S.addr i) (S.addr j)
  obtain ⟨hpair, ⟨k, hsender⟩, htarget, hout⟩ :=
    h.sent hij (.tcp (c.syn.builder c.tcb.socketId)) hfits 64
    IP_PROTO_TCP x rfl
  rw [← htarget] at hclosed
  obtain ⟨es, -, hes, -, hpair', ⟨k', hsender'⟩, hanswered⟩ := hpair.answered hrange hij hji
    ⟨hx, by decide, by decide, by decide, hfits, Host.ipProtocolMap_tcp, hpart, hbuild, hout⟩
    (fun _ => .tcp ((resetOfSyn c.tcb.snd.iss).builder ⟨S.addr j, rport, S.addr i, lport⟩))
    (fun _ _ => hresetFits) x fun k p hip => by
      obtain ⟨q, hq, hreceived⟩ := hread p hip.src hip.dst hip.protocol
      have hlength : 20 ≤ p.frame.length := by
        have hlength := hip.length
        omega
      have hkey :
        (⟨p.dst, (c.syn.builder c.tcb.socketId).dst, p.src, (c.syn.builder c.tcb.socketId).src⟩ :
          SockId) = ⟨S.addr j, rport, S.addr i, lport⟩ := by
        rw [hip.src, hip.dst, hid]
        rfl
      rw [← hq, Host.rxTcp_received hlength hreceived, hkey, if_neg (not_not.2 hclosed),
        resetFor_syn hlow hreceived, Host.txTcp_eq _ _ rfl]
  refine ⟨es, hes, hpair', ⟨k', ?_⟩, hanswered⟩
  rw [run_cons]
  refine hsender'.trans ?_
  rw [hsender]

/-- The reset gets to the event loop of the connection, and is accepted. -/
theorem Pair.reset (h : Pair S i j s) (hrange : S.InRange) (hij : S.Link i j)
    (hji : S.Link j i) {c : Conn} {lport rport : Nat}
    (hid : c.tcb.socketId = ⟨S.addr i, lport, S.addr j, rport⟩) (hlport : lport < 65536)
    (hrport : rport < 65536) (hiss : 0 ≤ c.tcb.snd.iss ∧ c.tcb.snd.iss < 4294967296)
    (hregistered : (s.host i).tcp.sockets c.tcb.socketId ≠ none) {x : Picks} (hx : x.id < 65536)
    (hout : S.Outgoing j i (.whole (IPBuilder.plain
      (.tcp ((resetOfSyn c.tcb.snd.iss).builder ⟨S.addr j, rport, S.addr i, lport⟩)) x.id
        64 IP_PROTO_TCP
      (S.addr j) (S.addr i))) (s.host j).core) :
    ∃ es, (∀ e ∈ es, Carries x e) ∧ ∃ q : TCPParser,
      ((run Segment.step s es).host i).tcpEvents =
        (s.host i).tcpEvents ++ [⟨.rxSegment q, (s.host i).tcp.tcpcbs c.tcb.socketId⟩] ∧
      Refused c.tcb.so (c.activOpen.rx q) := by
  have hreset : ((resetOfSyn c.tcb.snd.iss).builder ⟨S.addr j, rport, S.addr i, lport⟩).InRange :=
    TxTcp.builder_inRange hrport hlport (by simp [resetOfSyn, TxTcp.bare])
      (by simp only [resetOfSyn, TxTcp.bare]; omega) (by simp [resetOfSyn, TxTcp.bare])
  have hresetLen :=
    @TxTcp.builder_len (resetOfSyn c.tcb.snd.iss) rfl ⟨S.addr j, rport, S.addr i, lport⟩
  have hresetFits : 20 + (Payload.tcp ((resetOfSyn c.tcb.snd.iss).builder
      ⟨S.addr j, rport, S.addr i, lport⟩)).len ≤ Wire.MTU := by
    simp only [Wire.MTU]
    omega
  obtain ⟨part, hbuild, hpart, hread⟩ :=
    (Plain.tcp hreset (TxTcp.builder_plainOptions _ _)).build hresetLen
    (by decide) (S.addr j) (S.addr i)
  obtain ⟨es, hes, -, hrefused⟩ := h.symm.taken hrange hji hij
    ⟨hx, by decide, by decide, by decide, hresetFits, Host.ipProtocolMap_tcp, hpart, hbuild, hout⟩
    (Q := fun h' => ∃ q : TCPParser, h'.tcpEvents = (s.host i).tcpEvents ++
      [⟨.rxSegment q, (s.host i).tcp.tcpcbs c.tcb.socketId⟩] ∧
        Refused c.tcb.so (c.activOpen.rx q)) x
    fun k p hip => by
      obtain ⟨q, hq, hreceived⟩ := hread p hip.src hip.dst hip.protocol
      have hlength : 20 ≤ p.frame.length := by
        have hlength := hip.length
        omega
      have hkey : (⟨p.dst, lport, p.src, rport⟩ : SockId) = c.tcb.socketId := by
        rw [hip.src, hip.dst, hid]
      have hack : (q.ackSeq : Int) = (c.tcb.snd.iss + 1) % 4294967296 := by
        have hack : (q.ackSeq : Int) = (((c.tcb.snd.iss + 1) % 4294967296).toNat : Int) :=
          congrArg Nat.cast hreceived.ackSeq
        rw [hack, Int.toNat_of_nonneg (by omega)]
      rw [← hq, Host.rxTcp_received hlength hreceived]
      simp only [resetOfSyn, TxTcp.builder, hkey]
      rw [if_pos hregistered]
      exact ⟨_, rfl, rfl, q, rfl, c.activOpen_refused hiss hreceived.rst hack⟩
  exact ⟨es, hes, hrefused⟩

/-- **A connection is refused.** From every state that is reached in which the two stations have
their addresses and nothing is left waiting, the frames of the segment can be carried such that the
SYN of a connection to a port without a socket is answered by a reset, and the event loop that takes
the reset tells the caller of `connect` that the connection was refused. -/
theorem connect_refused (S : Stations ι) (hrange : S.InRange) (nowMs : ι → Int)
    (ipaddr : ι → String) (es : List (SegmentEvent ι))
    (hes : Guarded step (Admits S) (start S nowMs ipaddr) es) (s : Segment ι)
    (hs : s = run step (start S nowMs ipaddr) es) (i j : ι) (hij : S.Link i j) (hji : S.Link j i)
    (hi : S.Up i (s.host i)) (hj : S.Up j (s.host j))
    (hopen : Stations.Open (S.addr j) (s.host i).core)
    (hopen' : Stations.Open (S.addr i) (s.host j).core) (c : Conn) (lport rport : Nat)
    (hid : c.tcb.socketId = ⟨S.addr i, lport, S.addr j, rport⟩) (hlport : lport < 65536)
    (hrport : rport < 65536) (hiss : 0 ≤ c.tcb.snd.iss ∧ c.tcb.snd.iss < 4294967296)
    (hregistered : (s.host i).tcp.sockets c.tcb.socketId ≠ none)
    (hclosed : (s.host j).tcp.sockets ⟨S.addr j, rport, S.addr i, lport⟩ = none) (x : Picks)
    (hx : x.id < 65536) :
    ∃ es', (∀ e ∈ es', Carries x e) ∧ ∃ q : TCPParser,
      ((run step s (sendSyn S i j c x :: es')).host i).tcpEvents =
        (s.host i).tcpEvents ++ [⟨.rxSegment q, (s.host i).tcp.tcpcbs c.tcb.socketId⟩] ∧
      Refused c.tcb.so (c.activOpen.rx q) := by
  subst hs
  have hpair : Pair S i j (run step (start S nowMs ipaddr) es) :=
    ⟨inv_run hes, hi, hj, hopen, hopen'⟩
  obtain ⟨es₁, hes₁, hpair₁, ⟨k, hsender⟩, hout⟩ :=
    hpair.syn hrange hij hji hid hlport hrport hiss hclosed hx
  have hregistered₁ :
    ((run step (run step (start S nowMs ipaddr) es) (sendSyn S i j c x :: es₁)).host
      i).tcp.sockets c.tcb.socketId ≠ none := by
    rw [hsender]
    exact hregistered
  obtain ⟨es₂, hes₂, q, hevents, hrefused⟩ :=
    hpair₁.reset hrange hij hji hid hlport hrport hiss hregistered₁ hx
    hout
  refine ⟨es₁ ++ es₂, fun e he => (List.mem_append.1 he).elim (hes₁ e) (hes₂ e), q, ?_, hrefused⟩
  rw [← List.cons_append, run_append, hevents, hsender]

/-- A connection of the first station to port 80 of the second one, which has no socket. -/
def sampleConn : Conn :=
  ⟨.new 0 0 ⟨0x0A000002, 1234, 0x0A000001, 80⟩ none 4294967295 0, .idle⟩

/-- The socket of the connection is registered. -/
def sampleConnect : List (SegmentEvent Bool) :=
  sampleRun ++ [.host false (.tcp
    ⟨fun id => if id = sampleConn.tcb.socketId then some 0 else none,
      fun id => if id = sampleConn.tcb.socketId then some 0 else none⟩ [])]

theorem connect_refused_two : ∃ es', (∀ e ∈ es', Carries ⟨7, 8, 0⟩ e) ∧ ∃ q : TCPParser,
    ((run step (run step sampleStart sampleConnect)
        (sendSyn sampleStations false true sampleConn ⟨7, 8, 0⟩ :: es')).host false).tcpEvents =
      ((run step sampleStart sampleConnect).host false).tcpEvents ++
        [⟨.rxSegment q, ((run step sampleStart sampleConnect).host false).tcp.tcpcbs
          sampleConn.tcb.socketId⟩] ∧
    Refused 0 (sampleConn.activOpen.rx q) := by
  have hadmitted : Guarded step (Admits sampleStations) sampleStart sampleConnect :=
    (guarded_append ..).2 ⟨sampleRun_admitted, trivial, trivial⟩
  have hfirst : sampleStations.Up false ((run step sampleStart sampleConnect).host false) :=
    ⟨by decide +kernel, by decide +kernel, by decide +kernel⟩
  have hsecond : sampleStations.Up true ((run step sampleStart sampleConnect).host true) :=
    ⟨by decide +kernel, by decide +kernel, by decide +kernel⟩
  exact connect_refused sampleStations sampleStations_inRange _ _ sampleConnect hadmitted _
    rfl false true
    ⟨by decide, by decide, by decide⟩ ⟨by decide, by decide, by decide⟩ hfirst hsecond
    (fun _ _ => by decide +kernel) (fun _ hne => absurd (by decide +kernel) hne)
    sampleConn 1234 80 rfl (by decide)
    (by decide) (by decide) (by decide +kernel) (by decide +kernel) ⟨7, 8, 0⟩ (by decide)

end Segment

end Tipy
