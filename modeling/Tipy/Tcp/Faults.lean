import Tipy.Tcp.SndStream

/-!
# When a handler raises or does not return

Three things stop a handler. The options of a SYN-ACK can be cut short, so that reading them raises.
In `TIME_WAIT` (and `LISTEN`, which no control block is ever in) the table of the send handlers has
no entry. And `_tx_loop` does not return when the MSS of the peer is 0, and raises when a segment
does not fit the link, which happens for an MSS above `MTU - 40` and a view of the buffer longer
than that. Each is characterised exactly here, by the control block before the event.
-/

namespace Tipy.Tcp

open Tipy.Buffer

/-! ## The loop -/

section Loop

variable {next : Option STATES} {wantFin : Bool}

/-- What `_tx_loop` needs of the views it is given: an MSS, unless they are empty, and no view that
does not fit the link, unless the MSS cuts it. -/
def ViewsFit (mss : Nat) (data : List (List UInt8)) : Prop :=
  (mss = 0 → (data.map List.length).sum = 0) ∧
    (MTU - 40 < mss → ∀ v ∈ data, v.length ≤ MTU - 40)

theorem ViewsFit.of_sum_eq_zero {mss : Nat} {data : List (List UInt8)}
    (h : (data.map List.length).sum = 0) : ViewsFit mss data := by
  refine ⟨fun _ => h, fun _ v hv => ?_⟩
  have := List.sum_eq_zero_iff_forall_eq_nat.1 h v.length (List.mem_map_of_mem hv)
  omega

/-- With an MSS of 0 every turn sends an empty segment. -/
theorem txTurns_hang (turns : Nat) {c : Conn} {data : List (List UInt8)} {dlen sndWnd counter : Nat}
    (hmss : c.tcb.snd.remoteMss = 0) (hne : ∀ v ∈ data, v ≠ [])
    (hsum : (data.map List.length).sum = dlen) (hdlen : dlen ≠ 0) (hwnd : dlen ≤ sndWnd)
    (hcounter : counter + dlen ≤ TCP_MAX_TX_BYTES) :
    (txTurns next wantFin turns c data dlen sndWnd counter).fault ≠ none := by
  induction turns generalizing c with
  | zero =>
    unfold txTurns
    rw [if_neg hdlen]
    simp
  | succ turns ih =>
    cases data with
    | nil =>
      simp only [List.map_nil, List.sum_nil] at hsum
      exact absurd hsum.symm hdlen
    | cons buf bufs =>
      have hbuf : ¬ buf.length ≤ 0 := by
        have := List.length_pos_iff.2 (hne buf List.mem_cons_self)
        omega
      have hseg : generateSegmentPayload (min (min c.tcb.snd.remoteMss sndWnd) dlen) (buf :: bufs) =
          ([], buf :: bufs) := by
        rw [hmss, Nat.zero_min, Nat.zero_min, generateSegmentPayload, if_neg hbuf]
        simp
      unfold txTurns
      rw [if_neg hdlen]
      simp only [hseg, List.isEmpty_cons, Bool.and_false, List.length_nil, Nat.sub_zero,
        Nat.add_zero, Bool.false_eq_true, if_false]
      rw [if_neg (by simp [TxTcp.ipLen, MTU, Conn.dataSegment, Conn.header, TxTcp.bare]),
        if_neg (by omega), if_neg (by omega)]
      exact ih (by rw [afterSegment_snd]; exact hmss)

/-- The length of the packet of a data segment. -/
theorem ipLen_dataSegment (c : Conn) (data : List UInt8) (fin : Bool) :
    (c.dataSegment data fin).ipLen = 40 + data.length := rfl

/-- One turn with an MSS: its segment has a byte, and the views fit when the segment and the views
that are left do. -/
theorem viewsFit_payload {mss dlen sndWnd : Nat} {data : List (List UInt8)} (hmss : mss ≠ 0)
    (hne : ∀ v ∈ data, v ≠ []) (hsum : (data.map List.length).sum = dlen) (hdlen : dlen ≠ 0)
    (hwnd : dlen ≤ sndWnd) :
    let g := generateSegmentPayload (min (min mss sndWnd) dlen) data
    0 < g.1.length ∧ (ViewsFit mss data ↔ g.1.length ≤ MTU - 40 ∧ ViewsFit mss g.2) := by
  cases data with
  | nil =>
    simp only [List.map_nil, List.sum_nil] at hsum
    exact absurd hsum.symm hdlen
  | cons buf bufs =>
    have hbuf : 0 < buf.length := List.length_pos_iff.2 (hne buf List.mem_cons_self)
    have hle : buf.length ≤ dlen := by
      simp only [List.map_cons, List.sum_cons] at hsum
      omega
    have hfits : ∀ data, ViewsFit mss data ↔ (MTU - 40 < mss → ∀ v ∈ data, v.length ≤ MTU - 40) :=
      fun data => and_iff_right fun h => absurd h hmss
    simp only [hfits, generateSegmentPayload, List.forall_mem_cons]
    split
    · refine ⟨hbuf, ?_⟩
      by_cases hbig : MTU - 40 < mss
      · simp [hbig]
      · simp only [hbig, false_implies, and_true, true_iff]
        omega
    · next hlt =>
      have htake : (buf.take (min (min mss sndWnd) dlen)).length = mss := by
        rw [List.length_take]
        omega
      rw [htake]
      refine ⟨by omega, ?_⟩
      by_cases hbig : MTU - 40 < mss
      · -- the view is longer than the MSS, so neither it nor the segment fits
        have hlong : ¬ buf.length ≤ MTU - 40 := by omega
        have hlong' : ¬ mss ≤ MTU - 40 := by omega
        simp [hbig, hlong, hlong']
      · simp only [hbig, false_implies, and_true, true_iff]
        omega

/-- **The loop returns exactly when its views fit.** -/
theorem txTurns_fault_iff (turns : Nat) {c : Conn} {data : List (List UInt8)}
    {dlen sndWnd counter : Nat} (hne : dlen ≠ 0 → ∀ v ∈ data, v ≠ [])
    (hsum : (data.map List.length).sum = dlen) (hturns : dlen ≤ turns) (hwnd : dlen ≤ sndWnd)
    (hcounter : counter + dlen ≤ TCP_MAX_TX_BYTES) :
    (txTurns next wantFin turns c data dlen sndWnd counter).fault = none ↔
      ViewsFit c.tcb.snd.remoteMss data := by
  by_cases hzero : dlen = 0
  · have hfit : ViewsFit c.tcb.snd.remoteMss data := .of_sum_eq_zero (hsum.trans hzero)
    cases turns <;> simp [txTurns, hzero, hfit]
  by_cases hmss : c.tcb.snd.remoteMss = 0
  · have hfit : ¬ ViewsFit c.tcb.snd.remoteMss data := fun h => hzero (hsum ▸ h.1 hmss)
    exact iff_of_false (txTurns_hang turns hmss (hne hzero) hsum hzero hwnd hcounter) hfit
  induction turns generalizing c data dlen sndWnd counter with
  | zero => omega
  | succ turns ih =>
    have hspec := generateSegmentPayload_spec
      (min (min c.tcb.snd.remoteMss sndWnd) dlen) (hne hzero)
    obtain ⟨hpos, hiff⟩ := viewsFit_payload hmss (hne hzero) hsum hzero hwnd
    rw [hiff]
    unfold txTurns
    rw [if_neg hzero]
    generalize generateSegmentPayload (min (min c.tcb.snd.remoteMss sndWnd) dlen) data = g at *
    obtain ⟨seg, rest⟩ := g
    obtain ⟨hlen, hrest⟩ := hspec
    simp only [ipLen_dataSegment] at hlen hrest hpos ⊢
    rw [hsum] at hlen
    by_cases hbig : MTU < 40 + seg.length
    · have hno : ¬ seg.length ≤ MTU - 40 := by
        simp only [MTU] at *
        omega
      simp [hbig, hno]
    · have hok : seg.length ≤ MTU - 40 := by omega
      rw [if_neg hbig, and_iff_right hok]
      split
      · next hfin =>
        have hempty : rest = [] := by
          simpa using (Bool.and_eq_true_iff.1 hfin).2
        subst hempty
        exact iff_of_true rfl (.of_sum_eq_zero rfl)
      · split
        · exact iff_of_true rfl (.of_sum_eq_zero (by omega))
        · split
          · exact iff_of_true rfl (.of_sum_eq_zero (by omega))
          · have hmss' : (c.afterSegment seg (wantFin && rest.isEmpty)).tcb.snd.remoteMss =
                c.tcb.snd.remoteMss := by rw [afterSegment_snd]
            rw [← hmss']
            by_cases hleft : (rest.map List.length).sum = 0
            · rw [hmss']
              refine iff_of_true ?_ (.of_sum_eq_zero hleft)
              have hdlen : dlen - seg.length = 0 := by omega
              rw [hdlen]
              cases turns <;> simp [txTurns]
            · exact ih (fun _ => hrest) (by omega) (by omega) (by omega) (by omega) (by omega)
                (by rwa [hmss'])

end Loop

/-! ## The send handlers -/

/-- The data a send handler drains can be sent: there is an MSS, unless nothing is drained, and
neither of the two views of the ring, up to its end and from its start, is too long for the link,
unless the MSS cuts it. -/
def SndVars.Fits (s : SndVars) : Prop :=
  let n := min (min TCP_MAX_TX_BYTES s.sndWnd) s.sndBuf.ready
  let toEnd := s.sndBuf.size - s.sndBuf.vr
  (s.remoteMss = 0 → n = 0) ∧
    (MTU - 40 < s.remoteMss → min n toEnd ≤ MTU - 40 ∧ n - toEnd ≤ MTU - 40)

instance (s : SndVars) : Decidable s.Fits := inferInstanceAs (Decidable (_ ∧ _))

theorem viewsFit_drain (s : SndVars) : ViewsFit s.remoteMss (drainSndBuf s).1 ↔ s.Fits := by
  unfold ViewsFit SndVars.Fits
  rw [(drainSndBuf_views s).2.1]
  refine and_congr_right fun _ => imp_congr_right fun _ => ?_
  have hvr := s.sndBuf.vr_lt
  have hvw := s.sndBuf.vw_lt
  have hg := gap_eq hvr hvw
  have hlen : ∀ v : View, (v.bytes s.sndBuf.ring).length = v.len := by
    intro v
    simp [View.bytes]
  simp only [drainSndBuf, RRingBuffer.dequeue, List.forall_mem_map, hlen, dequeueAt,
    RRingBuffer.ready]
  split_ifs at hg ⊢ <;>
    simp only [List.forall_mem_cons, List.not_mem_nil, false_implies, implies_true, and_true,
      View.len, true_iff] <;> omega

/-- Sending in the state of a control block: with `SO_LINGER` on, a close in `ESTAB` and
`CLOSE_WAIT` aborts the connection before anything is sent. -/
def TCPCB.Sends (t : TCPCB) : Prop :=
  t.state ∈ [.estab, .finWait1, .closing, .closeWait, .lastAck] →
    t.state ∈ [.estab, .closeWait] ∧ t.req.closeRequested = true ∧
      t.req.soLinger = some SO_LINGER_ON ∨
      t.snd.Fits

instance (t : TCPCB) : Decidable t.Sends := inferInstanceAs (Decidable (_ → _))

section Handlers

variable {c d : Conn}

/-- `_tx_loop` on the views that were drained. -/
theorem txLoop_fault_iff (hd : d.tcb.snd = (drainSndBuf c.tcb.snd).2) (next : Option STATES)
    (shutReq closeReq : Bool) :
    (txLoop d (drainSndBuf c.tcb.snd).1 next shutReq closeReq).fault = none ↔
      d.ActiveCloseTx closeReq ∨ c.tcb.snd.Fits := by
  obtain ⟨-, hsum, hne⟩ := drainSndBuf_views c.tcb.snd
  unfold txLoop
  simp only
  split
  · next hab => simp [hab]
  · next hab =>
    have hmss : c.tcb.snd.remoteMss = d.tcb.snd.remoteMss := by
      rw [hd]
      rfl
    have hwnd : d.tcb.snd.sndWnd = c.tcb.snd.sndWnd := by
      rw [hd]
      rfl
    rw [or_iff_right hab, ← viewsFit_drain, hmss]
    rw [← hsum] at hne
    exact txTurns_fault_iff _ hne rfl le_rfl (by omega) (by omega)

/-- What is drained can be sent when it is nothing. -/
theorem SndVars.Fits.of_nil {s : SndVars} (h : (drainSndBuf s).1 = []) : s.Fits := by
  rw [← viewsFit_drain, h]
  exact .of_sum_eq_zero rfl

/-- A send handler returns on every path but that of the loop. -/
theorem TxPath.fault_iff {next : Option STATES} {shutReq closeReq : Bool} {o : Outcome}
    (hpath : TxPath c d next shutReq closeReq o) (hdrain : c.DrainsTo d) :
    o.fault = none ↔
      closeReq = true ∧ c.tcb.req.soLinger = some SO_LINGER_ON ∨ c.tcb.snd.Fits := by
  cases hpath with
  | abort nil => exact iff_of_true rfl (Or.inr (.of_nil nil))
  | fin c' nil => exact iff_of_true rfl (Or.inr (.of_nil nil))
  | quiet c' nil => exact iff_of_true rfl (Or.inr (.of_nil nil))
  | loop =>
    have hreq : d.tcb.req = c.tcb.req := by rcases hdrain with rfl | rfl <;> rfl
    have hsnd : d.tcb.snd = (drainSndBuf c.tcb.snd).2 := by rcases hdrain with rfl | rfl <;> rfl
    rw [txLoop_fault_iff hsnd, Conn.ActiveCloseTx, hreq]

/-- **A send event returns** exactly when the state has a send handler and the data can be sent. -/
theorem tx_fault_iff (hl : c.tcb.state ≠ .listen) :
    c.tx.fault = none ↔ c.tcb.state ≠ .timeWait ∧ c.tcb.Sends := by
  unfold TCPCB.Sends
  cases hs : c.tcb.state with
  | listen => exact absurd hs hl
  | estab | closeWait =>
    obtain ⟨c₁, hdrain, hpath⟩ := Conn.tx_streaming (c := c) (by rw [hs]; decide)
    simpa using hpath.fault_iff hdrain
  | finWait1 | closing | lastAck =>
    obtain ⟨c₁, hdrain, hpath⟩ := Conn.tx_ending (c := c) (by rw [hs]; decide)
    simpa using hpath.fault_iff hdrain
  | _ => simp [Conn.tx, hs]

theorem txEstab_fault_iff (hs : c.tcb.state = .estab) : c.txEstab.fault = none ↔
    c.tcb.req.closeRequested = true ∧ c.tcb.req.soLinger = some SO_LINGER_ON ∨ c.tcb.snd.Fits :=
  (Conn.txEstab_path hs).fault_iff (Or.inr rfl)

/-! ## Segments -/

/-- The options of a segment are read, and can be: they are read of a SYN-ACK without FIN that
acknowledges the SYN, and is no reset. -/
def TCPCB.ReadsOptions (t : TCPCB) (p : Segment) : Prop :=
  t.state = .synSent → p.rst = false → p.fin = false → p.syn = true → p.ack = true →
    0 < (hRxAck t.snd p).2 → ∃ mss, p.options = .ok mss

theorem rxSynSent_fault_iff (p : Segment) (hs : c.tcb.state = .synSent) :
    (c.rxSynSent p).fault = none ↔ c.tcb.ReadsOptions p := by
  unfold Conn.rxSynSent TCPCB.ReadsOptions
  split
  · next h => simp [h.1]
  · next hrst =>
    split
    · next hfin => simp [hfin]
    · split
      · next hfin hsyn =>
        split
        · next hpos =>
          have hrst' : p.rst = false := by simpa [hpos] using hrst
          cases ho : p.options with
          | error e => simp [hs, hrst', hfin, hsyn, hpos]
          | ok mss => simp
        · next hpos => simp [hpos]
      · next hsyn =>
        split <;> exact iff_of_true rfl fun _ _ _ hsyn' hack => absurd ⟨hsyn', hack⟩ hsyn

/-- **A segment is handled** exactly when its options can be read, if they are. -/
theorem rx_fault_iff (hl : c.tcb.state ≠ .listen) (packet : TCPParser) :
    (c.rx packet).fault = none ↔ c.tcb.ReadsOptions packet.segment := by
  unfold Conn.rx
  cases hs : c.tcb.state with
  | listen => exact absurd hs hl
  | synSent => exact rxSynSent_fault_iff _ hs
  | _ => simp [TCPCB.ReadsOptions, hs]

end Handlers

end Tipy.Tcp
