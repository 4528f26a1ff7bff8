import Tipy.Tcp.EventLoop
import Tipy.Tcp.Refusals
import Tipy.Tcp.TxSegments

/-!
# Acknowledgements that are owed

An acknowledgement goes out with the first data segment, or by itself when the drained list is
empty. With data in the buffer and a closed window the list is neither: `_drain_snd_buf` returns one
empty view, and `_tx_loop` sends nothing for it. `txLoop_acks_iff` says when the loop sends a
segment, and so an acknowledgement; from it follow what becomes of `ack_now` in `ESTAB` and
`CLOSE_WAIT` (`pending_ack_sent_iff`) and of a FIN that the peer sends again
(`fin_acked_again_iff`).
-/

namespace Tipy.Tcp

open Tipy.Buffer Tipy.Lib

/-! ## A segment with an acknowledgement -/

/-- A segment that acknowledges everything before `rcvNxt` was added to the log. -/
def Acks (rcvNxt : Int) (out out' : List (SockId × TxTcp)) : Prop :=
  ∃ new, out' = out ++ new ∧ ∃ e ∈ new, e.2.ack = true ∧ e.2.ackSeq = rcvNxt

namespace Acks

variable {rcvNxt : Int} {out out' out'' : List (SockId × TxTcp)}

theorem length_lt (h : Acks rcvNxt out out') : out.length < out'.length := by
  obtain ⟨new, rfl, e, he, -⟩ := h
  have := List.length_pos_of_mem he
  rw [List.length_append]
  omega

theorem not_refl : ¬ Acks rcvNxt out out := fun h => absurd h.length_lt (lt_irrefl _)

theorem append (id : SockId) {seg : TxTcp} (hack : seg.ack = true) (hseq : seg.ackSeq = rcvNxt) :
    Acks rcvNxt out (out ++ [(id, seg)]) :=
  ⟨_, rfl, _, List.mem_singleton_self _, hack, hseq⟩

theorem trans_prefix (h : Acks rcvNxt out out') (hpre : out' <+: out'') :
    Acks rcvNxt out out'' := by
  obtain ⟨new, rfl, e, he, hacks⟩ := h
  obtain ⟨more, rfl⟩ := hpre
  exact ⟨new ++ more, by simp, e, List.mem_append_left _ he, hacks⟩

end Acks

/-! ## The first segment of a loop -/

/-- The length of the first payload of `_tx_loop`: the first view of the ring, cut by the MSS. -/
def SndVars.firstLen (s : SndVars) : Nat :=
  min s.remoteMss (min (drainLen s) (s.sndBuf.size - s.sndBuf.vr))

/-- There is data to send, room for it, and its first segment fits the link. -/
def SndVars.SendsFirst (s : SndVars) : Prop :=
  0 < s.sndBuf.ready ∧ 0 < s.sndWnd ∧ s.firstLen ≤ MTU - 40

instance (s : SndVars) : Decidable s.SendsFirst := inferInstanceAs (Decidable (_ ∧ _))

section Loop

variable {c c₁ : Conn}

/-- The first view of the ring ends at its end, if not before. -/
theorem dequeueAt_firstView {size r w n : Nat} (hr : r < size) (hw : w < size)
    (hpos : 0 < gap size w r) :
    ∃ v vs, dequeueAt size r w n = v :: vs ∧ v.len = min (min n (gap size w r)) (size - r) := by
  have hg := gap_eq hr hw
  unfold dequeueAt
  simp only
  by_cases hlt : r < w
  · rw [if_pos hlt]
    rw [if_pos hlt.le] at hg
    refine ⟨_, _, rfl, ?_⟩
    simp only [View.len]
    omega
  · by_cases hgt : w < r
    · rw [if_neg hlt, if_pos hgt]
      rw [if_neg (by omega)] at hg
      split
      · refine ⟨_, _, rfl, ?_⟩
        simp only [View.len]
        omega
      · refine ⟨_, _, rfl, ?_⟩
        simp only [View.len]
        omega
    · rw [if_pos (by omega)] at hg
      omega

theorem drainSndBuf_firstView (s : SndVars) (hready : 0 < s.sndBuf.ready) :
    ∃ buf bufs, (drainSndBuf s).1 = buf :: bufs ∧
      buf.length = min (drainLen s) (s.sndBuf.size - s.sndBuf.vr) := by
  obtain ⟨v, vs, hviews, hlen⟩ := dequeueAt_firstView (n := min TCP_MAX_TX_BYTES s.sndWnd)
    s.sndBuf.vr_lt s.sndBuf.vw_lt hready
  refine ⟨v.bytes s.sndBuf.ring, vs.map (View.bytes s.sndBuf.ring), ?_, ?_⟩
  · simp only [drainSndBuf, RRingBuffer.dequeue, hviews, List.map_cons]
  · rw [← show v.len = min (drainLen s) (s.sndBuf.size - s.sndBuf.vr) from hlen]
    simp [View.bytes]

/-- The payload of the first turn. -/
theorem length_firstPayload {mss wnd n : Nat} {buf : List UInt8} (bufs : List (List UInt8))
    (hbuf : buf.length ≤ n) (hn : n ≤ wnd) :
    (generateSegmentPayload (min (min mss wnd) n) (buf :: bufs)).1.length = min mss buf.length := by
  simp only [generateSegmentPayload]
  split
  · simp only
    omega
  · simp only [List.length_take]
    omega

/-- A loop with something to send sends its first segment, if that fits the link. -/
theorem txTurns_acks_iff (next : Option STATES) (wantFin : Bool) (turns : Nat) {c : Conn}
    {data : List (List UInt8)} {dlen sndWnd counter : Nat} (hdlen : dlen ≠ 0) :
    Acks c.tcb.rcv.rcvNxt c.core.out
        (txTurns next wantFin (turns + 1) c data dlen sndWnd counter).st.core.out ↔
      (generateSegmentPayload (min (min c.tcb.snd.remoteMss sndWnd) dlen) data).1.length ≤ MTU
          - 40 := by
  unfold txTurns
  rw [if_neg hdlen]
  generalize generateSegmentPayload (min (min c.tcb.snd.remoteMss sndWnd) dlen) data = g
  obtain ⟨seg, rest⟩ := g
  simp only [ipLen_dataSegment]
  by_cases hbig : MTU < 40 + seg.length
  · rw [if_pos hbig]
    have hlong : ¬ seg.length ≤ MTU - 40 := by
      simp only [MTU] at *
      omega
    exact iff_of_false Acks.not_refl hlong
  · rw [if_neg hbig]
    refine iff_of_true ?_ (by omega)
    -- the segment is in the log, and the log only grows after it
    have hseg : Acks c.tcb.rcv.rcvNxt c.core.out
        (c.afterSegment seg (wantFin && rest.isEmpty)).core.out := by
      rw [afterSegment_out]
      exact .append _ rfl rfl
    refine hseg.trans_prefix ?_
    split
    · cases next <;> simp
    · split
      · simp
      · split
        · simp
        · exact txTurns_out_prefix ..

/-- **When `_tx_loop` acknowledges**: called after `_drain_snd_buf` with a list that is not empty,
it sends a segment exactly when the window is open and the first segment fits the link. -/
theorem txLoop_acks_iff (hd : Drained c c₁) (next : Option STATES) (shutReq closeReq : Bool)
    (hopen : ¬ c₁.ActiveCloseTx closeReq) (hready : 0 < c.tcb.snd.sndBuf.ready) :
    Acks c₁.tcb.rcv.rcvNxt c₁.core.out
        (txLoop c₁ (drainSndBuf c.tcb.snd).1 next shutReq closeReq).st.core.out ↔
      c.tcb.snd.SendsFirst := by
  have hsum := (drainSndBuf_views c.tcb.snd).2.1
  have hmss : c₁.tcb.snd.remoteMss = c.tcb.snd.remoteMss := by
    rw [hd.snd]
    rfl
  have hwnd : c₁.tcb.snd.sndWnd = c.tcb.snd.sndWnd := by
    rw [hd.snd]
    rfl
  rw [← drainLen] at hsum
  unfold txLoop
  simp only [if_neg hopen, hsum]
  by_cases hzero : c.tcb.snd.sndWnd = 0
  · -- a closed window: the only view is empty
    have hlen : drainLen c.tcb.snd = 0 := by
      unfold drainLen
      omega
    rw [hlen]
    refine iff_of_false ?_ fun h => absurd h.2.1 (by omega)
    simpa [txTurns] using Acks.not_refl
  · have hlen : drainLen c.tcb.snd ≠ 0 := by
      unfold drainLen TCP_MAX_TX_BYTES
      omega
    have hle : drainLen c.tcb.snd ≤ c.tcb.snd.sndWnd :=
      (Nat.min_le_left _ _).trans (Nat.min_le_right _ _)
    obtain ⟨turns, hturns⟩ := Nat.exists_eq_add_one_of_ne_zero hlen
    obtain ⟨buf, bufs, hviews, hbuf⟩ := drainSndBuf_firstView c.tcb.snd hready
    rw [hviews, hwnd]
    nth_rewrite 1 [hturns]
    rw [txTurns_acks_iff next _ turns hlen, hmss,
      length_firstPayload bufs (hbuf ▸ Nat.min_le_left _ _) hle, hbuf]
    exact ⟨fun h => ⟨hready, by omega, h⟩, fun h => h.2.2⟩

/-- Neither a close nor a shutdown was asked for. -/
def Requests.Open (q : Requests) : Prop := q.closeRequested = false ∧ q.shutdownRequested = false

instance (q : Requests) : Decidable q.Open := inferInstanceAs (Decidable (_ ∧ _))

/-- What the send handlers of `ESTAB` and `CLOSE_WAIT` do when neither was asked for, once the
buffer is drained. -/
def Conn.txOpen (c₁ : Conn) (data : List (List UInt8)) (next : STATES) : Outcome :=
  if data = [] then
    if c₁.tcb.ackNow then .ok (c₁.sendAck.setAckNow false) else .ok c₁
  else txLoop c₁ data (some next) false false

theorem txEstab_open (hopen : c.tcb.req.Open) :
    c.txEstab = ((c.setSnd (drainSndBuf c.tcb.snd).2).computeWnd).txOpen (drainSndBuf c.tcb.snd).1
      .finWait1 := by
  obtain ⟨hclose, hshut⟩ := hopen
  have hreq : ((c.setSnd (drainSndBuf c.tcb.snd).2).computeWnd).tcb.req = c.tcb.req := rfl
  simp only [Conn.txEstab, Conn.txOpen, Conn.ActiveCloseTx, hreq, hclose, hshut, Bool.false_eq_true,
    false_and, or_self, if_false]

theorem txCloseWait_open (hopen : c.tcb.req.Open) :
    c.txCloseWait = (c.computeWnd.setSnd (drainSndBuf c.tcb.snd).2).txOpen (drainSndBuf c.tcb.snd).1
      .lastAck := by
  obtain ⟨hclose, hshut⟩ := hopen
  have hsnd : c.computeWnd.tcb.snd = c.tcb.snd := rfl
  simp only [Conn.txCloseWait, Conn.txOpen, Conn.ActiveCloseTx, hsnd, hclose, hshut,
    Bool.false_eq_true, false_and, or_self, if_false]

theorem txOpen_acks_iff (hd : Drained c c₁) (next : STATES) :
    Acks c₁.tcb.rcv.rcvNxt c.core.out (c₁.txOpen (drainSndBuf c.tcb.snd).1 next).st.core.out ↔
      c.tcb.snd.sndBuf.ready = 0 ∧ c₁.tcb.ackNow = true ∨ c.tcb.snd.SendsFirst := by
  have hnil := (drainSndBuf_views c.tcb.snd).1
  rw [← hd.out]
  unfold Conn.txOpen
  split
  · next hempty =>
    have hready := hnil.1 hempty
    have hno : ¬ c.tcb.snd.SendsFirst := fun h => absurd h.1 (by omega)
    cases hnow : c₁.tcb.ackNow with
    | true => exact iff_of_true (.append _ rfl rfl) (Or.inl ⟨hready, rfl⟩)
    | false => exact iff_of_false Acks.not_refl (by simp [hno])
  · next hempty =>
    have hready : c.tcb.snd.sndBuf.ready ≠ 0 := mt hnil.2 hempty
    have hopen : ¬ c₁.ActiveCloseTx false := fun h => absurd h.1 (by decide)
    rw [txLoop_acks_iff hd (some next) false false hopen (by omega)]
    exact ⟨Or.inr, fun h => h.resolve_left fun h => hready h.1⟩

/-- **When a send handler acknowledges**, in the states that stream: `ack_now` counts only with
nothing in the buffer. -/
theorem tx_acks_iff (hs : c.tcb.state = .estab ∨ c.tcb.state = .closeWait)
    (hopen : c.tcb.req.Open) :
    Acks c.tcb.rcv.rcvNxt c.core.out c.tx.st.core.out ↔
      c.tcb.snd.sndBuf.ready = 0 ∧ c.tcb.ackNow = true ∨ c.tcb.snd.SendsFirst := by
  unfold Conn.tx
  rcases hs with hs | hs
  · have hd : Drained c ((c.setSnd (drainSndBuf c.tcb.snd).2).computeWnd) := ⟨rfl, rfl, rfl, rfl⟩
    simp only [hs, txEstab_open hopen]
    exact txOpen_acks_iff hd .finWait1
  · have hd : Drained c (c.computeWnd.setSnd (drainSndBuf c.tcb.snd).2) := ⟨rfl, rfl, rfl, rfl⟩
    simp only [hs, txCloseWait_open hopen]
    exact txOpen_acks_iff hd .lastAck

end Loop

/-! ## `ack_now` -/

/-- **A pending acknowledgement is sent** by the next send event exactly when there is nothing to
send, or the first segment of what there is goes out. -/
theorem pending_ack_sent_iff (c : Conn) (hs : c.tcb.state = .estab ∨ c.tcb.state = .closeWait)
    (hopen : c.tcb.req.Open) (hack : c.tcb.ackNow = true) :
    Acks c.tcb.rcv.rcvNxt c.core.out c.tx.st.core.out ↔
      c.tcb.snd.sndBuf.ready = 0 ∨ c.tcb.snd.SendsFirst := by
  rw [tx_acks_iff hs hopen]
  simp [hack]

/-- A byte of the peer is to be acknowledged, and nothing is to be sent. -/
theorem pending_ack_sent_iff_idle :
    let c := (run Outcome.step sampleEstab [.rx (.sample 101 1001 0x18 4096 [7])]).st
    c.tcb.ackNow = true ∧ Acks 102 c.core.out c.tx.st.core.out := by
  intro c
  have hs : c.tcb.state = .estab := by decide +kernel
  have hack : c.tcb.ackNow = true := by decide +kernel
  have hnxt : c.tcb.rcv.rcvNxt = 102 := by decide +kernel
  refine ⟨hack, ?_⟩
  rw [← hnxt]
  exact (pending_ack_sent_iff c (Or.inl hs) (by decide +kernel) hack).2 (Or.inl (by decide +kernel))

/-- The same with a byte to send and a window that the peer has closed: nothing is sent. -/
theorem pending_ack_withheld :
    let c := (run Outcome.step sampleEstab
      [.usr (.tcpSend [1]), .rx (.sample 101 1001 0x18 0 [7])]).st
    c.tcb.state = .estab ∧ c.tcb.req.Open ∧ c.tcb.ackNow = true ∧ 1 ≤ c.tcb.snd.remoteMss ∧
      ¬ Acks c.tcb.rcv.rcvNxt c.core.out c.tx.st.core.out := by
  intro c
  have hlen : c.tx.st.core.out.length = c.core.out.length := by decide +kernel
  refine ⟨by decide +kernel, by decide +kernel, by decide +kernel, by decide +kernel, fun h => ?_⟩
  exact absurd h.length_lt (by omega)

/-! ## A FIN that is sent again -/

/-- A segment is handled, and then the event its handler has queued, if any. -/
def Conn.rxThenQueued (c : Conn) (packet : TCPParser) : Outcome :=
  let o := c.rx packet
  match o.st.core.events[c.core.events.length]? with
  | some ev => (o.st.dropEvent c.core.events.length).dispatch ev
  | none => o

section Again

variable {c : Conn} {packet : TCPParser}

theorem rxThenQueued_of_events (h : (c.rx packet).st.core.events = c.core.events) :
    c.rxThenQueued packet = c.rx packet := by
  unfold Conn.rxThenQueued
  simp only [h, List.getElem?_length]

/-- The segment begins before `rcv_nxt` and is none of the window. -/
theorem not_hRxSeqCheck_of_last {r : RcvVars} {p : Segment} (hp : p.Parsed)
    (hlast : (p.seq + p.data.length + 1) % 4294967296 = r.rcvNxt % 4294967296) :
    ¬ hRxSeqCheck r p := by
  have hlen := hp.length_data
  have hdlen := hp.dlen_range
  rintro ⟨hgeq, -⟩
  unfold seqGeq seqGt at hgeq
  omega

end Again

/-- **A FIN that is sent again is acknowledged again** exactly in `CLOSING` and `TIME_WAIT`, and in
`CLOSE_WAIT` when there happens to be data that goes out with the acknowledgement. -/
theorem fin_acked_again_iff (c : Conn) (packet : TCPParser)
    (hs : c.tcb.state.PeerClosed ∨ c.tcb.state = .timeWait)
    (hopen : c.tcb.state = .closeWait → c.tcb.req.Open ∧ c.tcb.ackNow = false)
    (hfin : packet.fin = true)
    (hlast : (packet.segment.seq + packet.segment.data.length + 1) % 4294967296 =
      c.tcb.rcv.rcvNxt % 4294967296) :
    Acks c.tcb.rcv.rcvNxt c.core.out (c.rxThenQueued packet).st.core.out ↔
      c.tcb.state = .closing ∨ c.tcb.state = .timeWait ∨
        c.tcb.state = .closeWait ∧ c.tcb.snd.SendsFirst := by
  have hcheck := not_hRxSeqCheck_of_last packet.parsed hlast
  rcases hs with (hs | hs | hs) | hs
  · -- `SEND` is queued, but nothing has said that an acknowledgement is owed
    have hrx : c.rx packet = .ok (c.scheduleEvent .send) := by
      simp only [Conn.rx, hs, Conn.rxCloseWait, if_neg hcheck]
    have htx : c.rxThenQueued packet =
        ((c.scheduleEvent .send).dropEvent c.core.events.length).tx := by
      simp [Conn.rxThenQueued, hrx, Conn.dispatch, Conn.eventsMap]
    rw [htx]
    obtain ⟨hopen, hack⟩ := hopen hs
    have hacks := tx_acks_iff (c := (c.scheduleEvent .send).dropEvent c.core.events.length)
      (Or.inr hs) hopen
    simpa [hs, hack] using hacks
  · have hrx : c.rx packet = .ok c.sendAck := by
      simp only [Conn.rx, hs, Conn.rxClosing, if_neg hcheck]
    rw [rxThenQueued_of_events (by rw [hrx]; rfl), hrx]
    exact iff_of_true (.append _ rfl rfl) (Or.inl hs)
  · have hrx : c.rx packet = .ok c := by
      simp only [Conn.rx, hs, Conn.rxLastAck, if_neg hcheck]
    rw [rxThenQueued_of_events (by rw [hrx]; rfl), hrx]
    exact iff_of_false Acks.not_refl (by simp [hs])
  · have hrx : c.rx packet = .ok c.sendAck.stopTimeWaitTimer.startTimeWaitTimer := by
      have hfin' : packet.segment.fin = true := hfin
      simp only [Conn.rx, hs, Conn.rxTimeWait, if_pos hfin']
    rw [rxThenQueued_of_events (by rw [hrx]; simp), hrx]
    have hout : c.sendAck.stopTimeWaitTimer.startTimeWaitTimer.core.out =
      c.sendAck.core.out := by simp
    refine iff_of_true ?_ (Or.inr (Or.inl hs))
    rw [Outcome.ok_st, hout]
    exact .append _ rfl rfl

/-- The FIN of the peer comes again in `TIME_WAIT`. -/
theorem fin_acked_again_iff_time_wait :
    let c := (run Outcome.step sampleEstab
      [.usr .tcpShutdown, .tx, .rx (.sample 101 1002 0x11 4096 [])]).st
    c.tcb.state = .timeWait ∧
      Acks c.tcb.rcv.rcvNxt c.core.out
        (c.rxThenQueued (.sample 101 1002 0x11 4096 [])).st.core.out := by
  intro c
  have hs : c.tcb.state = .timeWait := by decide +kernel
  have hclose : c.tcb.state ≠ .closeWait := by
    rw [hs]
    decide
  refine ⟨hs, ?_⟩
  exact (fin_acked_again_iff c _ (Or.inr hs) (fun h => absurd h hclose) (by decide +kernel)
    (by decide +kernel)).2 (Or.inr (Or.inl hs))

/-- The FIN comes again in `CLOSE_WAIT`, with nothing to send, and in `LAST_ACK`: no answer. -/
theorem fin_not_acked_again :
    let c := (run Outcome.step sampleEstab [.rx (.sample 101 1001 0x11 4096 []), .tx]).st
    let d := (run Outcome.step (.ok c) [.usr .tcpShutdown, .tx]).st
    let packet := TCPParser.sample 101 1001 0x11 4096 []
    (c.tcb.state = .closeWait ∧ c.tcb.req.Open ∧ c.tcb.ackNow = false ∧ c.tcb.rcv.rcvNxt = 102 ∧
        ¬ Acks c.tcb.rcv.rcvNxt c.core.out (c.rxThenQueued packet).st.core.out) ∧
      (d.tcb.state = .lastAck ∧ d.tcb.ackNow = false ∧ d.tcb.rcv.rcvNxt = 102 ∧
        ¬ Acks d.tcb.rcv.rcvNxt d.core.out (d.rxThenQueued packet).st.core.out) := by
  intro c d packet
  have hc : (c.rxThenQueued packet).st.core.out.length = c.core.out.length := by decide +kernel
  have hd : (d.rxThenQueued packet).st.core.out.length = d.core.out.length := by decide +kernel
  refine ⟨⟨by decide +kernel, by decide +kernel, by decide +kernel, by decide +kernel, fun h => ?_⟩,
    ⟨by decide +kernel, by decide +kernel, by decide +kernel, fun h => ?_⟩⟩
  · exact absurd h.length_lt (by omega)
  · exact absurd h.length_lt (by omega)

end Tipy.Tcp
