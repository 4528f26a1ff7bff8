import Tipy.Components.Rings
import Tipy.Host.Resolution

/-!
# Hosts with their threads

The stations of a segment as they run: `_rx_loop` reads frames into the queue of the RX ring,
`_dequeue` takes them out in batches and handles them, whatever is sent goes into the queue of the
TX ring, and `_tx_loop` builds one frame after the other and writes it. All threads of all stations
run beside each other. Each such run is a run of the segment, in which frames are received and sent
one by one: so what holds of the segment holds of the stations with their threads
(`threads_refine`).
-/

namespace Tipy

open Components Arp Ip Wire Lib

/-! ## Nothing is taken off the TX ring -/

section Core

variable {δ : Type} (k : Core δ)

/-- A datagram that waits adds a request to the ring at most. -/
theorem Arp.Core.hUnresolvedMacDatagrams_txRing (src dst : Nat) (d : δ) :
    k.txRing <+: (k.hUnresolvedMacDatagrams src dst d).txRing := by
  have henqueue : ∀ k : Core δ, (k.enqueue dst d).txRing = k.txRing := by
    intro k
    unfold Core.enqueue
    split <;> rfl
  unfold Core.hUnresolvedMacDatagrams
  rw [henqueue]
  split
  · exact List.prefix_rfl
  · rw [Core.txArp_request]
    have hwait : (k.arpWaitAdd dst).txRing = k.txRing := by
      unfold Core.arpWaitAdd
      split <;> rfl
    rw [Core.txEther, hwait]
    exact List.prefix_append ..

/-- A reply adds the datagrams that waited for it. -/
theorem Arp.Core.acceptReply_txRing (spa sha : Nat) :
    k.txRing <+: (k.acceptReply spa sha).1.txRing := by
  unfold Core.acceptReply
  have hnoted : ((k.updateArpCache spa sha).scheduleTimer ARP_CACHE_TTL (.flushEntry spa)).txRing =
      k.txRing := by
    simp [Core.scheduleTimer]
  generalize (k.updateArpCache spa sha).scheduleTimer ARP_CACHE_TTL (.flushEntry spa) = k₁ at hnoted
  rw [← hnoted]
  cases hq : k₁.pendingQueue spa with
  | none =>
    rw [k₁.dequeue_none sha hq]
  | some q =>
    rw [k₁.dequeue_some sha hq]
    exact List.prefix_append ..

theorem Arp.Core.rxArp_txRing (ether : EtherParser) (frame : List UInt8) :
    k.txRing <+: (k.rxArp ether frame).1.txRing := by
  unfold Core.rxArp
  dsimp only
  split
  · exact List.prefix_rfl
  · split
    · exact k.acceptReply_txRing _ _
    · split
      · exact List.prefix_rfl
      · split
        · split
          · rw [Core.answerRequest, Core.txArp_reply, Core.updateArpCache_txRing]
            exact List.prefix_append ..
          · exact List.prefix_rfl
        · exact List.prefix_rfl

end Core

theorem Ip.txIp_txRing (k : Core Datagram) (payload : Payload) (src dst ttl protocol : Nat)
    (options : List IPOpt) (id fragId turns : Nat) :
    k.txRing <+: (txIp k payload src dst ttl protocol options id fragId turns).1.txRing := by
  rcases txIp_cases k payload src dst ttl protocol options id fragId turns
    with hcore | ⟨b, -, -, hcore⟩
  · rw [hcore]
  · rw [hcore]
    unfold txDatagram
    split
    · exact List.prefix_append ..
    · exact k.hUnresolvedMacDatagrams_txRing _ _ _

/-! ## A station with its threads -/

namespace Stations.Station

variable {ι : Type} {S : Stations ι} {i j : ι} {h : Host} {bs body : List UInt8}

/-- What a station sends while it handles a frame comes after what it has sent before. -/
theorem frame_txRing (hs : S.Station i h) {f : Frame Datagram} (hf : S.Honest j f)
    (hw : f.Written bs body) (x : Picks) : h.core.txRing <+:
    (h.step (.frame bs x)).core.txRing := by
  have hreceived : h.core.txRing <+: (h.handlePacket bs x).1.core.txRing := by
    unfold Host.handlePacket
    rw [if_neg (Nat.not_lt.2 hw.length)]
    split
    · unfold Host.rxArp Startup.notify
      dsimp only
      split
      · split <;> exact h.core.rxArp_txRing _ _
      · exact h.core.rxArp_txRing _ _
    · split
      · next htype =>
        cases hf with
        | arp b dst hsha hspa =>
          rw [hw.ether.type] at htype
          cases htype.1
        | whole b dst hb hlen hdst =>
          have ha := Host.answers_rxIp (x := x) hs.raw hs.core.unicastIp (hw.not_fragment rfl hb _)
          rcases ha.startup with hsame | ⟨payload, dst', protocol, x', -, hsent⟩
          · rw [hsame]
          · rw [hsent]
            exact Ip.txIp_txRing ..
      · exact List.prefix_rfl
  simp only [Host.step]
  split
  · exact hreceived
  · exact List.prefix_rfl

/-- So does what a call or a timer sends. -/
theorem own_txRing (hs : S.Station i h) {e : HostEvent} (he : S.Own i e) :
    h.core.txRing <+: (h.step e).core.txRing := by
  cases e with
  | frame bytes x => exact absurd he id
  | resume =>
    simp only [Host.step, Startup.step]
    split
    · unfold Startup.acquire
      split <;> exact List.prefix_rfl
    · exact List.prefix_rfl
  | timer n =>
    simp only [Host.step, Startup.step]
    split
    · split
      · exact List.prefix_rfl
      · next task timer _ _ =>
        have hcalled :
            h.core.txRing <+: ({ h.core with timer := timer }.call task.call).1.txRing := by
          rw [Core.call_core]
        unfold Startup.notify
        split
        · split <;> exact hcalled
        · exact hcalled
    · exact List.prefix_rfl
  | reassTimer n x =>
    have hnone : h.reass.timer.popDue h.reass.nowMs n = none := by
      rw [hs.timer]
      rfl
    simp only [Host.step, hnone, ite_self]
    exact List.prefix_rfl
  | txIp payload src dst ttl protocol options x => exact Ip.txIp_txRing ..
  | elapse ms | udp id queue | rip id queue | tcp table events => exact List.prefix_rfl

end Stations.Station

/-- What a station writes is read whole. -/
theorem Stations.Honest.length_le {ι : Type} {S : Stations ι} {i : ι} {f : Frame Datagram}
    {bs body : List UInt8} (hf : S.Honest i f) (hw : f.Written bs body) : bs.length ≤ 14 + MTU := by
  obtain ⟨frame, n, -, hlen, hbody⟩ := hw.body
  have hn : n ≤ MTU := by
    cases hf with
    | arp b dst hsha hspa =>
      obtain rfl := Except.ok.inj hlen
      decide
    | whole b dst hb hmtu hdst =>
      obtain rfl := Except.ok.inj hlen
      exact hmtu
  have htake : body.length ≤ n := by
    rw [hbody]
    exact List.length_take_le ..
  rw [hw.eq, List.length_append, EtherBuilder.length_header]
  omega

/-- The core with its rings. -/
structure HostThreads where
  host : Host
  rx : Mailbox (List UInt8)
  tx : Mailbox (Frame Datagram)

namespace HostThreads

variable (t : HostThreads)

/-- One turn of `_rx_loop`, with the frame that the interface gives. -/
def rxLoop (frame : List UInt8) : HostThreads :=
  { t with rx := t.rx.step RXRing (.put (frame.take 2048)) }

/-- A step of `_dequeue`. When it comes to a frame, this is `handle_packet`; an exception ends the
thread. -/
def dequeue (x : Picks) : HostThreads :=
  match t.rx.next with
  | some bs =>
    let host := t.host.step (.frame bs x)
    { t with host, rx := t.rx.loop RXRing !host.rxRuns }
  | none => { t with rx := t.rx.loop RXRing false }

/-- `enqueue` of the TX ring, with the next frame that the core has sent. -/
def enqueue : HostThreads :=
  match t.host.core.txRing[t.tx.put.length]? with
  | some f => { t with tx := t.tx.step TXRing (.put f) }
  | none => t

/-- A step of `_tx_loop`, and what it writes. -/
def txLoop : HostThreads × List (List UInt8) :=
  match t.tx.next with
  | some f =>
    match f.bytes with
    | .ok bs => ({ t with tx := t.tx.loop TXRing false }, [bs])
    | .error _ => ({ t with tx := t.tx.loop TXRing true }, [])
  | none => ({ t with tx := t.tx.loop TXRing false }, [])

/-- `shutdown` of the rings. -/
def shutdown : HostThreads :=
  { t with rx := t.rx.step RXRing .shutdown, tx := t.tx.step TXRing .shutdown }

end HostThreads

/-! ## The segment -/

/-- The stations with their threads, and all that was ever written to the wire. -/
structure ThreadedSegment (ι : Type) where
  station : ι → HostThreads
  wire : List (List UInt8)

/-- What can happen: a call or a timer of one station, a frame from the wire is read, a step of one
of the threads, a frame is put in the queue of the TX ring, the rings are shut down. -/
inductive ThreadEvent (ι : Type) where
  | call (i : ι) (e : HostEvent)
  | rxLoop (i : ι) (n : Nat)
  | dequeue (i : ι) (x : Picks)
  | enqueue (i : ι)
  | txLoop (i : ι)
  | shutdown (i : ι)

namespace ThreadedSegment

section Facts

variable {ι : Type} (S : Stations ι)

/-- The calls of a station are its own; the queues are used with their locks. -/
def Admits (s : ThreadedSegment ι) : ThreadEvent ι → Prop
  | .call i e => S.Own i e
  | .rxLoop i _ => (s.station i).rx.locked RXRing = false
  | .enqueue i => (s.station i).tx.locked TXRing = false
  | .dequeue _ _ | .txLoop _ | .shutdown _ => True

def start (nowMs : ι → Int) (ipaddr : ι → String) : ThreadedSegment ι where
  station i := ⟨S.start i (nowMs i) (ipaddr i), .new, .new⟩
  wire := []

/-- The segment without the threads. -/
def segment (s : ThreadedSegment ι) : Segment ι := ⟨fun i => (s.station i).host, s.wire⟩

end Facts

section Run

variable {ι : Type} [DecidableEq ι]

def step (s : ThreadedSegment ι) : ThreadEvent ι → ThreadedSegment ι
  | .call i e => { s with
      station :=
        Function.update s.station i { s.station i with host := (s.station i).host.step e } }
  | .rxLoop i n =>
    match s.wire[n]? with
    | some bs => { s with station := Function.update s.station i ((s.station i).rxLoop bs) }
    | none => s
  | .dequeue i x => { s with station := Function.update s.station i ((s.station i).dequeue x) }
  | .enqueue i => { s with station := Function.update s.station i (s.station i).enqueue }
  | .txLoop i =>
    let r := (s.station i).txLoop
    ⟨Function.update s.station i r.1, s.wire ++ r.2⟩
  | .shutdown i => { s with station := Function.update s.station i (s.station i).shutdown }

/-- The frames that station `i` receives in a step of the segment. -/
def received (i : ι) (s : Segment ι) : SegmentEvent ι → List (List UInt8)
  | .receive j n _ => if j = i then s.wire[n]?.toList else []
  | .host _ _ | .transmit _ _ => []

/-- The frames that station `i` is to write in a step of the segment. -/
def transmitted (i : ι) (s : Segment ι) : SegmentEvent ι → List (Frame Datagram)
  | .transmit j n => if j = i then (s.host j).core.txRing[n]?.toList else []
  | .host _ _ | .receive _ _ _ => []

end Run

end ThreadedSegment

/-- What holds of a station with its threads: what it reads was written, what is in its TX queue was
sent by the core, in this order, and the thread of the RX ring has ended exactly when
`handle_packet` has raised. -/
structure HostThreads.Kept (t : HostThreads) (wire : List (List UInt8)) : Prop where
  rx : t.rx.Inv RXRing
  tx : t.tx.Inv TXRing
  read : ∀ bs ∈ t.rx.put, bs ∈ wire
  sent : t.tx.put <+: t.host.core.txRing
  ended : t.rx.pc = .raised ↔ t.host.rxRuns = false

theorem HostThreads.kept_new {ι : Type} (S : Stations ι) (i : ι) (nowMs : Int) (ipaddr : String)
    (wire : List (List UInt8)) : HostThreads.Kept ⟨S.start i nowMs ipaddr, .new, .new⟩ wire where
  rx := .new RXRing
  tx := .new TXRing
  read bs hbs := absurd hbs List.not_mem_nil
  sent := List.nil_prefix
  ended := by
    constructor
    · intro h
      cases h
    · intro h
      cases h

namespace ThreadedSegment

variable {ι : Type} [DecidableEq ι]

/-- The run `t` of the segment has come to the same hosts and the same wire; and what every station
has handled and written is what it receives and transmits there, in this order. -/
structure Refines (S : Stations ι) (s₀ : Segment ι) (s : ThreadedSegment ι)
    (t : List (SegmentEvent ι)) :
    Prop where
  guarded : Guarded Segment.step (Segment.Admits S) s₀ t
  segment : s.segment = run Segment.step s₀ t
  received : ∀ i, outputs Segment.step (received i) s₀ t = (s.station i).rx.handled
  transmitted : ∀ i, outputs Segment.step (transmitted i) s₀ t = (s.station i).tx.handled
  kept : ∀ i, (s.station i).Kept s.wire

section Refines

variable {S : Stations ι} {s₀ : Segment ι} {s : ThreadedSegment ι}
    {t t' : List (SegmentEvent ι)} {i : ι}
  {u : HostThreads} {wire : List (List UInt8)}

theorem segment_update (s : ThreadedSegment ι) (i : ι) (u : HostThreads)
    (wire : List (List UInt8)) :
    (⟨Function.update s.station i u, wire⟩ : ThreadedSegment ι).segment =
      ⟨Function.update s.segment.host i u.host, wire⟩ := by
  unfold segment
  congr 1
  funext j
  exact Function.apply_update (fun _ (t : HostThreads) => t.host) s.station i u j

/-- One station has done something, and the segment has done `t'`. -/
theorem Refines.update (h : Refines S s₀ s t)
    (hguarded : Guarded Segment.step (Segment.Admits S) s.segment t')
    (hsegment : run Segment.step s.segment t' = ⟨Function.update s.segment.host i u.host, wire⟩)
    (hreceived : (s.station i).rx.handled ++ outputs Segment.step (ThreadedSegment.received i)
    s.segment t' =
      u.rx.handled)
    (htransmitted : (s.station i).tx.handled ++
      outputs Segment.step (ThreadedSegment.transmitted i) s.segment t' = u.tx.handled)
    (hothers : ∀ j, j ≠ i → outputs Segment.step (ThreadedSegment.received j) s.segment t' = [] ∧
      outputs Segment.step (ThreadedSegment.transmitted j) s.segment t' = [])
    (hkept : u.Kept wire) (hwire : s.wire <+: wire) :
    Refines S s₀ ⟨Function.update s.station i u, wire⟩ (t ++ t') := by
  have hsame := h.segment
  have hself : (⟨Function.update s.station i u, wire⟩ : ThreadedSegment ι).station i = u :=
    Function.update_self ..
  have hother : ∀ j, j ≠ i →
      (⟨Function.update s.station i u, wire⟩ : ThreadedSegment ι).station j = s.station j :=
    fun j hj => Function.update_of_ne hj ..
  refine ⟨?_, ?_, fun j => ?_, fun j => ?_, fun j => ?_⟩
  · rw [guarded_append, ← hsame]
    exact ⟨h.guarded, hguarded⟩
  · rw [run_append, ← hsame, hsegment, segment_update]
  · rw [outputs_append, ← hsame, h.received]
    by_cases hj : j = i
    · subst hj
      rw [hreceived, hself]
    · rw [(hothers j hj).1, List.append_nil, hother j hj]
  · rw [outputs_append, ← hsame, h.transmitted]
    by_cases hj : j = i
    · subst hj
      rw [htransmitted, hself]
    · rw [(hothers j hj).2, List.append_nil, hother j hj]
  · by_cases hj : j = i
    · subst hj
      rwa [hself]
    · rw [hother j hj]
      have hk := h.kept j
      exact ⟨hk.rx, hk.tx, fun bs hbs => hwire.subset (hk.read bs hbs), hk.sent, hk.ended⟩

/-- One station has done something that the segment does not see. -/
theorem Refines.stutter (h : Refines S s₀ s t) (hhost : u.host = (s.station i).host)
    (hrx : u.rx.handled = (s.station i).rx.handled) (htx : u.tx.handled = (s.station i).tx.handled)
    (hkept : u.Kept s.wire) :
    Refines S s₀ { s with station := Function.update s.station i u } t := by
  rw [← t.append_nil]
  refine h.update trivial ?_ ?_ ?_ ?_ hkept List.prefix_rfl
  · rw [run_nil, hhost]
    exact congrArg (Segment.mk · s.wire) (Function.update_eq_self i s.segment.host).symm
  · rw [hrx]
    exact List.append_nil _
  · rw [htx]
    exact List.append_nil _
  · exact fun _ _ => ⟨rfl, rfl⟩

/-- A call or a timer of one station is the same step of the segment. -/
theorem Refines.call (h : Refines S s₀ s t) (hinv : s.segment.Inv S) {e : HostEvent}
    (he : S.Own i e) :
    ∃ t', Refines S s₀ (s.step (.call i e)) (t ++ t') := by
  have hk := h.kept i
  refine ⟨[.host i e], h.update ⟨he, trivial⟩ rfl (List.append_nil _) (List.append_nil _)
    (fun _ _ => ⟨rfl, rfl⟩) ⟨hk.rx, hk.tx, hk.read, ?_, ?_⟩ List.prefix_rfl⟩
  · exact hk.sent.trans ((hinv.host i).own_txRing he)
  · have hstill := (s.station i).host.step_still (e := e) (by rintro bytes x rfl; exact he)
    rw [hk.ended]
    exact iff_of_eq (congrArg (· = false) hstill.rxRuns.symm)

/-- `_rx_loop` fills the queue of one station; the segment has not delivered the frame yet. -/
theorem Refines.rxLoop (h : Refines S s₀ s t) (hinv : s.segment.Inv S) {n : Nat}
    (hlock : (s.station i).rx.locked RXRing = false) :
    ∃ t', Refines S s₀ (s.step (.rxLoop i n)) (t ++ t') := by
  refine ⟨[], ?_⟩
  rw [List.append_nil]
  simp only [step]
  split
  · next bs hbs =>
    have hmem : bs ∈ s.wire := List.mem_of_getElem? hbs
    obtain ⟨j, f, body, hf, hwritten⟩ := hinv.wire bs hmem
    -- the buffer of `os.read` is longer than any frame
    have hread : bs.take 2048 = bs := by
      refine List.take_of_length_le ((hf.length_le hwritten).trans ?_)
      decide
    have hk := h.kept i
    refine h.stutter rfl (Mailbox.put_handled RXRing _ _) rfl ⟨hk.rx.put _ hlock, hk.tx,
      ?_, hk.sent, ?_⟩
    · simp only [HostThreads.rxLoop, Mailbox.put_put, hread]
      intro bs' hbs'
      rcases List.mem_append.1 hbs' with hbs' | hbs'
      · exact hk.read bs' hbs'
      · rwa [List.mem_singleton.1 hbs']
    · exact (Mailbox.put_pc_raised RXRing _ _).trans hk.ended
  · exact h

/-- `_dequeue` comes to a frame when the segment delivers it. -/
theorem Refines.dequeue (h : Refines S s₀ s t) (hinv : s.segment.Inv S) (x : Picks) :
    ∃ t', Refines S s₀ (s.step (.dequeue i x)) (t ++ t') := by
  have hk := h.kept i
  simp only [step, HostThreads.dequeue]
  split
  · next bs hnext =>
    obtain ⟨hhandled, hraised, hbefore⟩ := Mailbox.loop_of_next hnext RXRing
      (!((s.station i).host.step (.frame bs x)).rxRuns)
    obtain ⟨n, hn⟩ :=
      List.mem_iff_getElem?.1 (hk.read bs (List.mem_of_getElem? (hk.rx.next_put hnext)))
    obtain ⟨j, f, body, hf, hwritten⟩ := hinv.wire bs (List.mem_of_getElem? hn)
    refine ⟨[.receive i n x], h.update ⟨trivial, trivial⟩ ?_ ?_ (List.append_nil _) ?_
      ⟨hk.rx.loop RXRing_sound _, hk.tx, ?_, ?_, ?_⟩ List.prefix_rfl⟩
    · exact Segment.step_receive (s := s.segment) hn x
    · rw [hhandled]
      simp [outputs, ThreadedSegment.received, ThreadedSegment.segment, hn]
    · intro l hl
      simp [outputs, ThreadedSegment.received, ThreadedSegment.transmitted, hl.symm]
    · rw [Mailbox.loop_put]
      exact hk.read
    · exact hk.sent.trans ((hinv.host i).frame_txRing hf hwritten x)
    · rw [hraised]
      simp
  · next hnext =>
    obtain ⟨hhandled, hraised⟩ := Mailbox.loop_of_next_none hnext RXRing
    refine ⟨[], ?_⟩
    rw [List.append_nil]
    refine h.stutter rfl hhandled rfl ⟨hk.rx.loop RXRing_sound _, hk.tx, ?_, hk.sent, ?_⟩
    · rw [Mailbox.loop_put]
      exact hk.read
    · exact hraised.trans hk.ended

/-- A frame that was sent waits in the queue of the TX ring. -/
theorem Refines.enqueue (h : Refines S s₀ s t) (hlock : (s.station i).tx.locked TXRing = false) :
    ∃ t', Refines S s₀ (s.step (.enqueue i)) (t ++ t') := by
  have hk := h.kept i
  refine ⟨[], ?_⟩
  rw [List.append_nil]
  simp only [step, HostThreads.enqueue]
  split
  · next f hf =>
    refine h.stutter rfl rfl (Mailbox.put_handled TXRing _ _) ⟨hk.rx, hk.tx.put _ hlock,
      hk.read, ?_, hk.ended⟩
    obtain ⟨rest, hrest⟩ := hk.sent
    rw [Mailbox.put_put, ← hrest]
    rw [← hrest, List.getElem?_append_right le_rfl, Nat.sub_self, ← List.head?_eq_getElem?] at hf
    obtain ⟨rest', rfl⟩ := List.head?_eq_some_iff.1 hf
    exact ⟨rest', by simp⟩
  · exact h.stutter rfl rfl rfl hk

/-- `_tx_loop` writes a frame when the segment puts it on the wire. -/
theorem Refines.txLoop (h : Refines S s₀ s t) :
    ∃ t', Refines S s₀ (s.step (.txLoop i)) (t ++ t') := by
  have hk := h.kept i
  simp only [step, HostThreads.txLoop]
  split
  · next f hnext =>
    have hput := hk.tx.next_put hnext
    have hring : (s.segment.host i).core.txRing[(s.station i).tx.handled.length]? = some f := by
      obtain ⟨rest, hrest⟩ := hk.sent
      have hlt : (s.station i).tx.handled.length < (s.station i).tx.put.length :=
        (List.getElem?_eq_some_iff.1 hput).1
      rw [ThreadedSegment.segment, ← hrest, List.getElem?_append_left hlt, hput]
    have houtput : outputs Segment.step (ThreadedSegment.transmitted i) s.segment
        [.transmit i (s.station i).tx.handled.length] = [f] := by
      simp [outputs, ThreadedSegment.transmitted, hring]
    have hothers : ∀ j, j ≠ i →
        outputs Segment.step (ThreadedSegment.received j) s.segment
          [.transmit i (s.station i).tx.handled.length] = [] ∧
        outputs Segment.step (ThreadedSegment.transmitted j) s.segment
          [.transmit i (s.station i).tx.handled.length] = [] := by
      intro j hj
      simp [outputs, ThreadedSegment.received, ThreadedSegment.transmitted, hj.symm]
    have hloop : ∀ raises, ((s.station i).tx.loop TXRing raises).handled =
        (s.station i).tx.handled ++ [f] :=
      fun raises => (Mailbox.loop_of_next hnext TXRing raises).1
    have hsent :
        ∀ raises, ((s.station i).tx.loop TXRing raises).put <+: (s.station i).host.core.txRing := by
      intro raises
      rw [Mailbox.loop_put]
      exact hk.sent
    refine ⟨[.transmit i (s.station i).tx.handled.length], ?_⟩
    cases hbs : f.bytes with
    | ok bs =>
      refine h.update ⟨trivial, trivial⟩ ?_ (List.append_nil _) ?_ hothers
        ⟨hk.rx, hk.tx.loop TXRing_sound _, fun bs' hbs' => ?_, hsent false, hk.ended⟩
          (List.prefix_append ..)
      · rw [run_cons, run_nil, Segment.step_transmit hring hbs]
        exact congrArg (Segment.mk · _) (Function.update_eq_self i s.segment.host).symm
      · rw [houtput, hloop]
      · exact List.mem_append_left _ (hk.read bs' hbs')
    | error e =>
      refine h.update ⟨trivial, trivial⟩ ?_ (List.append_nil _) ?_ hothers
        ⟨hk.rx, hk.tx.loop TXRing_sound _, fun bs' hbs' => ?_, hsent true, hk.ended⟩
          (List.prefix_append ..)
      · rw [run_cons, run_nil]
        simp only [Segment.step, hring, Option.map_some, hbs, List.append_nil]
        exact congrArg (Segment.mk · _) (Function.update_eq_self i s.segment.host).symm
      · rw [houtput, hloop]
      · exact List.mem_append_left _ (hk.read bs' hbs')
  · next hnext =>
    obtain ⟨hhandled, -⟩ := Mailbox.loop_of_next_none hnext TXRing
    refine ⟨[], ?_⟩
    rw [List.append_nil, List.append_nil]
    refine h.stutter rfl rfl hhandled ⟨hk.rx, hk.tx.loop TXRing_sound _, hk.read, ?_, hk.ended⟩
    rw [Mailbox.loop_put]
    exact hk.sent

theorem Refines.shutdown (h : Refines S s₀ s t) :
    ∃ t', Refines S s₀ (s.step (.shutdown i)) (t ++ t') := by
  have hk := h.kept i
  refine ⟨[], ?_⟩
  rw [List.append_nil]
  exact h.stutter rfl rfl rfl ⟨hk.rx.shutdown, hk.tx.shutdown, hk.read, hk.sent, hk.ended⟩

/-- **One step** of the stations with their threads. -/
theorem Refines.step (h : Refines S s₀ s t) (hinv : s.segment.Inv S) {e : ThreadEvent ι}
    (he : Admits S s e) :
    ∃ t', Refines S s₀ (s.step e) (t ++ t') := by
  cases e with
  | call i e => exact h.call hinv he
  | rxLoop i n => exact h.rxLoop hinv he
  | dequeue i x => exact h.dequeue hinv x
  | enqueue i => exact h.enqueue he
  | txLoop i => exact h.txLoop
  | shutdown i => exact h.shutdown

end Refines

/-- **The stations with their threads** do what the segment does, in every order of their steps; so
their caches are right and no datagram goes to the wrong one. Each thread handles what was put in
its queue in order, loses nothing, and gets everything done. -/
theorem threads_refine (S : Stations ι) (nowMs : ι → Int) (ipaddr : ι → String)
    (es : List (ThreadEvent ι)) (hes : Guarded step (Admits S) (start S nowMs ipaddr) es) :
    (∃ t, Refines S (Segment.start S nowMs ipaddr) (run step (start S nowMs ipaddr) es) t) ∧
      (run step (start S nowMs ipaddr) es).segment.Safe S ∧
      ∀ i, Delivers RXRing ((run step (start S nowMs ipaddr) es).station i).rx ∧
        Delivers TXRing ((run step (start S nowMs ipaddr) es).station i).tx := by
  have hinv : ∀ {s : ThreadedSegment ι} {t : List (SegmentEvent ι)},
      Refines S (Segment.start S nowMs ipaddr) s t → s.segment.Inv S := by
    intro s t h
    rw [h.segment]
    exact Segment.inv_run h.guarded
  have hstart : Refines S (Segment.start S nowMs ipaddr) (start S nowMs ipaddr) [] :=
    ⟨trivial, rfl, fun _ => rfl, fun _ => rfl, fun i => HostThreads.kept_new S i _ _ _⟩
  obtain ⟨t, ht⟩ := run_history (fun s t e h he => h.step (hinv h) he) hstart hes
  refine ⟨⟨[] ++ t, ht⟩, (hinv ht).safe, fun i => ⟨?_, ?_⟩⟩
  · exact .of_inv RXRing_sound (ht.kept i).rx
  · exact .of_inv TXRing_sound (ht.kept i).tx

/-- The probe of the first station is written, and the second one reads and handles it. -/
def sampleThreads : List (ThreadEvent Bool) :=
  [.enqueue false, .txLoop false, .txLoop false, .txLoop false, .txLoop false, .txLoop false,
    .dequeue true ⟨1, 2, 0⟩, .rxLoop true 0, .dequeue true ⟨1, 2, 0⟩, .dequeue true ⟨1, 2, 0⟩,
    .dequeue true ⟨1, 2, 0⟩, .dequeue true ⟨1, 2, 0⟩, .shutdown true]

theorem threads_refine_probe :
    Guarded step (Admits Segment.sampleStations)
      (start Segment.sampleStations (fun _ => 0) fun _ => "10.0.0.2") sampleThreads ∧
      (run step (start Segment.sampleStations (fun _ => 0) fun _ =>
        "10.0.0.2") sampleThreads).segment.Safe
        Segment.sampleStations := by
  have hadmitted : Guarded step (Admits Segment.sampleStations)
      (start Segment.sampleStations (fun _ => 0) fun _ => "10.0.0.2") sampleThreads := by
    refine ⟨rfl, trivial, trivial, trivial, trivial, trivial, trivial, ?_, trivial, trivial,
      trivial, trivial, trivial, trivial⟩
    change Mailbox.locked _ _ = _
    decide +kernel
  exact ⟨hadmitted, (threads_refine Segment.sampleStations _ _ sampleThreads hadmitted).2.1⟩

end ThreadedSegment

end Tipy
