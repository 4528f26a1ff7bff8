import Tipy.Host.Segment

/-!
# A resolution from end to end

A datagram for an address that is not known waits, and its station asks for the address. From every
state of the segment in which the wait timer has not expired, the request and the reply release all
that waits, in the order in which it was sent: the bytes of the request make the other station
answer, and the bytes of its answer make the first one send.
-/

namespace Tipy

open Components Arp Ip Wire Lib

namespace Stations

variable {ι : Type} (S : Stations ι)

/-- The addresses of the stations fit their fields. -/
structure InRange : Prop where
  mac : ∀ i, S.mac i < 281474976710656
  addr : ∀ i, S.addr i < 4294967296

/-- The answer of station `j` to a request of station `i`. -/
def reply (j i : ι) : Frame Datagram :=
  ⟨.arp ⟨S.mac j, S.addr j, S.mac i, S.addr i, ARP_OP_REPLY⟩, S.mac i, S.mac j, 0x0806⟩

variable {S} {i j : ι} {h : Host} {bs body : List UInt8}

theorem InRange.request (hrange : S.InRange) (i j : ι) :
    ∃ bs, (S.request i (S.addr j)).bytes = .ok bs :=
  ⟨_, Frame.bytes_arp (by decide) (hrange.mac i) (by decide)
    ⟨(by decide : 1 < 65536), hrange.mac i, hrange.addr i, Nat.zero_lt_succ _, hrange.addr j⟩⟩

theorem InRange.reply (hrange : S.InRange) (j i : ι) : ∃ bs, (S.reply j i).bytes = .ok bs :=
  ⟨_, Frame.bytes_arp (hrange.mac i) (hrange.mac j) (by decide)
    ⟨(by decide : 2 < 65536), hrange.mac j, hrange.addr j, hrange.mac i, hrange.addr i⟩⟩

/-- What is asked for is known afterwards. -/
theorem Sound.updateArpCache_right {k : Core Datagram} (hs : S.Sound i k) (j : ι) :
    (k.updateArpCache (S.addr j) (S.mac j)).arpCache (S.addr j) = some (S.mac j) := by
  unfold Core.updateArpCache
  split
  · exact Function.update_self ..
  · next hne =>
    obtain ⟨mac, hmac⟩ := Option.ne_none_iff_exists'.1 hne
    rw [hmac, hs.cache _ mac hmac j rfl]

/-- The answer is the next frame. -/
theorem Sound.answerRequest_txRing {k : Core Datagram} (hs : S.Sound j k) (i : ι) :
    (k.answerRequest (S.addr j) (S.mac i) (S.addr i)).txRing = k.txRing ++ [S.reply j i] := by
  unfold Core.answerRequest
  rw [Core.txArp_reply, hs.mac, Core.updateArpCache_txRing]
  rfl

/-- Who asks is known afterwards. -/
theorem Sound.answerRequest_arpCache {k : Core Datagram} (hs : S.Sound j k) (i : ι) :
    (k.answerRequest (S.addr j) (S.mac i) (S.addr i)).arpCache (S.addr i) = some (S.mac i) := by
  unfold Core.answerRequest
  rw [Core.txArp_reply, hs.mac]
  exact (hs.txEther (.arp _ _ rfl (.inr rfl))).updateArpCache_right i

/-- A frame of ARP that makes nothing of a probe. -/
theorem step_arp {f : Frame Datagram} (hruns : h.rxRuns = true) (hw : f.Written bs body)
    (htype : f.type = 0x0806) (hprobe : ¬ Startup.ProbeAnswered h.core ⟨bs⟩ ⟨bs.drop 14⟩)
    (hok : (h.core.rxArp ⟨bs⟩ (bs.drop 14)).2 = .ok ()) (x : Picks) :
    h.step (.frame bs x) = { h with core := (h.core.rxArp ⟨bs⟩ (bs.drop 14)).1 } := by
  have hhandle :
      h.handlePacket bs x = ({ h with core := (h.core.rxArp ⟨bs⟩ (bs.drop 14)).1 }, .returned) := by
    unfold Host.handlePacket
    rw [if_neg (Nat.not_lt.2 hw.length), hw.ether.type, htype, if_pos rfl]
    simp only [Host.rxArp, if_neg hprobe, hok, Host.ended]
  unfold Host.step
  dsimp only
  rw [if_pos hruns, hhandle]
  simp only [decide_true, hruns]

/-- **The request** is answered. -/
theorem step_request (hruns : h.rxRuns = true)
    (hip : h.core.unicastIp = some (S.addr j))
    (hw : (S.request i (S.addr j)).Written bs body) (x : Picks) :
    h.step (.frame bs x) =
        { h with core := h.core.answerRequest (S.addr j) (S.mac i) (S.addr i) } := by
  obtain ⟨-, hread⟩ := hw.arp rfl
  have hop : (ARPParser.mk (bs.drop 14)).op = ARP_OP_REQUEST := hread.op
  have hnot : (ARPParser.mk (bs.drop 14)).op ≠ ARP_OP_REPLY := by
    rw [hop]
    decide
  have hrx : h.core.rxArp ⟨bs⟩ (bs.drop 14) =
      (h.core.answerRequest (S.addr j) (S.mac i) (S.addr i), .ok ()) := by
    unfold Core.rxArp
    dsimp only
    have hlen : ¬ (bs.drop 14).length < 28 := by
      rw [hread.length]
      decide
    rw [if_neg hlen, if_neg fun h => hnot h.1, if_neg fun h => hnot h.1, hip]
    dsimp only
    rw [if_pos ⟨hop, hread.tpa⟩, hw.ether.src, hread.spa]
    rfl
  rw [step_arp hruns hw rfl (fun h => hnot h.2.1) (by rw [hrx]), hrx]

/-- **The reply** releases what waits for it. -/
theorem Station.step_reply (hs : S.Station i h) (hruns : h.rxRuns = true)
    (hwait : S.addr j ∈ h.core.arpWaitList) {q : List Datagram}
    (hq : h.core.pendingQueue (S.addr j) = some q)
    (hw : (S.reply j i).Written bs body) (x : Picks) :
    h.step (.frame bs x) = { h with
      core := ((h.core.updateArpCache (S.addr j) (S.mac j)).scheduleTimer ARP_CACHE_TTL
        (.flushEntry (S.addr j))).released (S.addr j) (S.mac j) q } := by
  obtain ⟨-, hread⟩ := hw.arp rfl
  have hspa : (ARPParser.mk (bs.drop 14)).spa = S.addr j := hread.spa
  have hsha : (ARPParser.mk (bs.drop 14)).sha = S.mac j := hread.sha
  have hmine : (EtherParser.mk bs).dst = h.core.unicastMac := hw.ether.dst.trans hs.core.mac.symm
  have htest : h.core.arpWaitTest (S.addr j) = true := by simpa [Core.arpWaitTest] using hwait
  have hrx : h.core.rxArp ⟨bs⟩ (bs.drop 14) =
      (((h.core.updateArpCache (S.addr j) (S.mac j)).scheduleTimer ARP_CACHE_TTL
        (.flushEntry (S.addr j))).released (S.addr j) (S.mac j) q, .ok ()) := by
    unfold Core.rxArp
    dsimp only
    have hlen : ¬ (bs.drop 14).length < 28 := by
      rw [hread.length]
      decide
    rw [if_neg hlen, hspa, hsha, if_pos ⟨hread.op, hmine, htest⟩, Core.acceptReply]
    exact Core.dequeue_some _ _ (by simpa [Core.scheduleTimer] using hq)
  have hprobe : ¬ Startup.ProbeAnswered h.core ⟨bs⟩ ⟨bs.drop 14⟩ := by
    rintro ⟨-, -, -, hnone, -⟩
    rw [hspa, htest] at hnone
    cases hnone
  rw [step_arp hruns hw rfl hprobe (by rw [hrx]), hrx]

end Stations

namespace Segment

variable {ι : Type} [DecidableEq ι]

/-- What a resolution comes to. The datagrams go to the station that was asked for, in their order;
both stations know each other, and go on as before but for their cores; and no other station has
changed. -/
structure Resolved (S : Stations ι) (i j : ι) (q : List Datagram) (s s' : Segment ι) : Prop where
  queue : (s'.host i).core.pendingQueue (S.addr j) = none
  sent : (s'.host i).core.txRing = (s.host i).core.txRing ++
    q.map fun d => ⟨.datagram d, S.mac j, S.mac i, 0x0800⟩
  known : (s'.host i).core.arpCache (S.addr j) = some (S.mac j)
  back : (s'.host j).core.arpCache (S.addr i) = some (S.mac i)
  asker : s'.host i = { s.host i with core := (s'.host i).core }
  asked : s'.host j = { s.host j with core := (s'.host j).core }
  unicastIp : ∀ l, (s'.host l).core.unicastIp = (s.host l).core.unicastIp
  others : ∀ l, l ≠ i → l ≠ j → s'.host l = s.host l

/-- The request is written and received, then the reply is: the `n`-th frame of one ring and the
`m`-th of the other. -/
def exchange (i j : ι) (n m written : Nat) (x y : Picks) : List (SegmentEvent ι) :=
  [.transmit i n, .receive j written x, .transmit j m, .receive i (written + 1) y]

section Exchange

variable {S : Stations ι} {s : Segment ι} {i j : ι}

theorem step_transmit {n : Nat} {f : Frame Datagram} {bs : List UInt8}
    (hf : (s.host i).core.txRing[n]? = some f) (hbs : f.bytes = .ok bs) :
    s.step (.transmit i n) = { s with wire := s.wire ++ [bs] } := by
  simp only [step, hf, Option.map_some, hbs]

theorem step_receive {n : Nat} {bs : List UInt8} (hbs : s.wire[n]? = some bs) (x : Picks) :
    s.step (.receive i n x) =
      { s with host := Function.update s.host i ((s.host i).step (.frame bs x)) } := by
  simp only [step, hbs]

theorem Inv.exchange (h : s.Inv S) (hrange : S.InRange) (hij : i ≠ j) {q : List Datagram}
    (hq : (s.host i).core.pendingQueue (S.addr j) = some q)
    (hwait : S.addr j ∈ (s.host i).core.arpWaitList) (hi : (s.host i).rxRuns = true)
    (hj : (s.host j).rxRuns = true) (hassigned : (s.host j).core.unicastIp = some (S.addr j))
    (x y : Picks) :
    ∃ n m, Resolved S i j q s
        (run Segment.step s (Segment.exchange i j n m s.wire.length x y)) := by
  have hsi := h.host i
  have hsj := h.host j
  obtain ⟨n, hn⟩ := List.mem_iff_getElem?.1 (hsi.core.queue _ q hq).2
  obtain ⟨bs, hbs⟩ := hrange.request i j
  obtain ⟨body, hw⟩ := Frame.bytes_ok hbs
  obtain ⟨bs', hbs'⟩ := hrange.reply j i
  obtain ⟨body', hw'⟩ := Frame.bytes_ok hbs'
  -- the request
  have hrequest := Stations.step_request hj hassigned hw x
  generalize hanswered : ({ s.host j with
    core := (s.host j).core.answerRequest (S.addr j) (S.mac i) (S.addr i) } : Host) =
      hj' at hrequest
  have hm : hj'.core.txRing[(s.host j).core.txRing.length]? = some (S.reply j i) := by
    rw [← hanswered]
    simp [hsj.core.answerRequest_txRing]
  -- the reply
  have hreply := hsi.step_reply hi hwait hq hw' y
  generalize hreleased : ({ s.host i with
    core := (((s.host i).core.updateArpCache (S.addr j) (S.mac j)).scheduleTimer ARP_CACHE_TTL
      (.flushEntry (S.addr j))).released (S.addr j) (S.mac j) q } : Host) = hi' at hreply
  have h₁ := step_transmit hn hbs
  have h₂ := step_receive (s := ⟨s.host, s.wire ++ [bs]⟩) (i := j) (n := s.wire.length)
    (by simp : (s.wire ++ [bs])[s.wire.length]? = some bs) x
  have h₃ := step_transmit (s := ⟨Function.update s.host j hj', s.wire ++ [bs]⟩) (i := j)
    (n := (s.host j).core.txRing.length) (f := S.reply j i) (by simpa using hm) hbs'
  have h₄ := step_receive (s := ⟨Function.update s.host j hj', s.wire ++ [bs] ++ [bs']⟩) (i := i)
    (n := s.wire.length + 1) (by simp : (s.wire ++ [bs] ++ [bs'])[s.wire.length + 1]? = some bs') y
  simp only [hrequest] at h₂
  simp only [Function.update_of_ne hij, hreply] at h₄
  refine ⟨n, (s.host j).core.txRing.length, ?_⟩
  simp only [Segment.exchange, run_cons, run_nil]
  rw [h₁, h₂, h₃, h₄, ← hreleased, ← hanswered]
  have hji : j ≠ i := hij.symm
  refine ⟨?_, ?_, ?_, ?_, ?_, ?_, fun l => ?_, fun l hli hlj => ?_⟩
  · simp only [Function.update_self, Core.released]
  · simp only [Function.update_self, Core.released, Core.scheduleTimer, Core.updateArpCache_txRing,
      Core.updateArpCache_unicastMac, hsi.core.mac]
  · simp only [Function.update_self, Core.released, Core.scheduleTimer]
    exact hsi.core.updateArpCache_right j
  · simp only [Function.update_of_ne hji, Function.update_self]
    exact hsj.core.answerRequest_arpCache i
  · simp only [Function.update_self]
  · simp only [Function.update_of_ne hji, Function.update_self]
  · by_cases hli : l = i
    · subst hli
      simp only [Function.update_self, Core.released, Core.scheduleTimer,
        Core.updateArpCache_unicastIp]
    · by_cases hlj : l = j
      · subst hlj
        simp [Function.update_of_ne hli, Core.answerRequest, Core.txArp_reply, Core.txEther]
      · simp only [Function.update_of_ne hli, Function.update_of_ne hlj]
  · simp only [Function.update_of_ne hli, Function.update_of_ne hlj]

end Exchange

/-- **A resolution** completes, from every state that is reached before the wait timer has expired.
-/
theorem segment_resolves (S : Stations ι) (hrange : S.InRange) (nowMs : ι → Int)
    (ipaddr : ι → String) (es : List (SegmentEvent ι))
    (hes : Guarded step (Admits S) (start S nowMs ipaddr) es) (s : Segment ι)
    (hs : s = run step (start S nowMs ipaddr) es) (i j : ι) (hij : i ≠ j) (q : List Datagram)
    (hq : (s.host i).core.pendingQueue (S.addr j) = some q)
    (hwait : S.addr j ∈ (s.host i).core.arpWaitList) (hi : (s.host i).rxRuns = true)
    (hj : (s.host j).rxRuns = true) (hassigned : (s.host j).core.unicastIp = some (S.addr j))
    (x y : Picks) :
    ∃ n m, Resolved S i j q s (run step s (exchange i j n m s.wire.length x y)) := by
  subst hs
  exact (inv_run hes).exchange hrange hij hq hwait hi hj hassigned x y

theorem sampleStations_inRange : sampleStations.InRange := ⟨by decide, by decide⟩

/-- The datagram of the first station gets to the second. -/
theorem segment_resolves_two :
    ∃ q n m, Resolved sampleStations false true q (run step sampleStart sampleRun)
    (run step (run step sampleStart sampleRun)
      (exchange false true n m (run step sampleStart sampleRun).wire.length ⟨1, 2, 0⟩
          ⟨3, 4, 0⟩)) := by
  have hsome :
      (((run step sampleStart sampleRun).host false).core.pendingQueue 0x0A000001).isSome := by
    decide +kernel
  obtain ⟨q, hq⟩ := Option.isSome_iff_exists.1 hsome
  exact ⟨q, segment_resolves sampleStations sampleStations_inRange _ _ sampleRun
    sampleRun_admitted _ rfl false
    true (by decide) q hq (by decide +kernel) (by decide +kernel) (by decide +kernel)
    (by decide +kernel) _ _⟩

end Segment

end Tipy
