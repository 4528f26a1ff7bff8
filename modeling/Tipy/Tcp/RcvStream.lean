import Tipy.Tcp.Acceptance
import Tipy.Tcp.PeerFin

/-!
# The stream the receiver stores

The sequence check says in `tcp_data_start` and `tcp_data_len` which bytes of a segment are new;
`_append_rcv_data` copies the slice from `tcp_data_start` to `tcp_data_len`, which is the right one
only when the segment does not overlap what was received, and in a few corner cases (`CopyExact`).
For one segment, the bytes stored are those that `rcv_nxt` went over exactly when the condition
holds. Over a run of segments cut from one stream, each of which meets it, the bytes stored are a
prefix of the stream.
-/

namespace Tipy.Tcp

open Tipy.Buffer Tipy.Lib

/-! ## The bytes of a segment -/

/-- The payload bytes with sequence numbers from the old `rcv_nxt` up to the new one, in order. -/
def payloadIn (r r' : RcvVars) (p : Segment) : List UInt8 :=
  (p.data.zipIdx.filter fun e =>
    seqDiff (p.seq + e.2) r.rcvNxt < seqDiff r'.rcvNxt r.rcvNxt).map Prod.fst

/-- How far the segment reaches back before `rcv_nxt`. -/
def overlap (r : RcvVars) (p : Segment) : Int := seqDiff r.rcvNxt p.seq

/-- The bound the window sets on `tcp_data_len`. -/
def rcvLimit (r : RcvVars) : Int := (seqDiff r.rcvAdv r.rcvNxt - 1) % 4294967296

/-- When the slice from `tcp_data_start` to `tcp_data_len` is the right one: the segment starts at
`rcv_nxt`; or has no new payload; or the window lets nothing in; or one byte is repeated, and a FIN,
which counts in `tcp_data_len`, makes up for it. -/
def CopyExact (r : RcvVars) (p : Segment) : Prop :=
  overlap r p = 0 ∨ p.dlen ≤ overlap r p ∨ rcvLimit r = 0 ∨
    overlap r p = 1 ∧ p.fin = true ∧ p.dlen ≤ rcvLimit r

instance (r : RcvVars) (p : Segment) : Decidable (CopyExact r p) :=
  inferInstanceAs (Decidable (_ ∨ _ ∨ _ ∨ _ ∧ _ ∧ _))

/-- There is room in the receive buffer for the bytes that the sequence check lets in. -/
def HasRoom (r : RcvVars) (p : Segment) : Prop :=
  (payloadIn r (hRxSeq r p).rcv p).length ≤ r.rcvBuf.freeSpace

instance (r : RcvVars) (p : Segment) : Decidable (HasRoom r p) :=
  inferInstanceAs (Decidable (_ ≤ _))

theorem zipIdx_filter_range (l : List UInt8) (a b k : Nat) :
    ((l.zipIdx k).filter fun e => decide (a ≤ e.2 ∧ e.2 < b)).map Prod.fst =
      slice l (a - k) (b - k) := by
  induction l generalizing k with
  | nil => simp [slice]
  | cons x l ih =>
    rw [List.zipIdx_cons, List.filter_cons]
    by_cases hb : k < b
    · obtain ⟨n, hn⟩ : ∃ n, b - k = n + 1 := ⟨b - k - 1, by omega⟩
      have hn' : b - (k + 1) = n := by omega
      by_cases ha : a ≤ k
      · have hak : a - k = 0 := by omega
        have hak' : a - (k + 1) = 0 := by omega
        rw [if_pos (decide_eq_true ⟨ha, hb⟩), List.map_cons, ih, hn, hn', hak, hak']
        simp [slice]
      · obtain ⟨m, hm⟩ : ∃ m, a - k = m + 1 := ⟨a - k - 1, by omega⟩
        have hm' : a - (k + 1) = m := by omega
        rw [if_neg (by simp [ha]), ih, hn, hn', hm, hm']
        simp [slice]
    · have hbk : b - k = 0 := by omega
      have hbk' : b - (k + 1) = 0 := by omega
      rw [if_neg (by simp [hb]), ih, hbk, hbk']
      simp [slice]

theorem slice_slice (l : List UInt8) (k n a b : Nat) :
    slice (slice l k n) a b = slice l (k + a) (min (k + b) n) := by
  unfold slice
  rw [List.take_drop, List.drop_drop, List.take_take]

/-- Two slices with one start: the shorter one is the whole of the other when the start is 0, when
it is empty, or when the list has no more. -/
theorem slice_add_iff (l : List UInt8) (i n : Nat) :
    (slice l i n = slice l i (i + n) ↔ i = 0 ∨ n = 0 ∨ l.length ≤ i ∨ l.length ≤ n) ∧
      (slice l i n).length ≤ (slice l i (i + n)).length ∧
      (¬ (i = 0 ∨ n = 0 ∨ l.length ≤ i ∨ l.length ≤ n) →
        (slice l i n).length < (slice l i (i + n)).length) := by
  have hpre : slice l i n <+: slice l i (i + n) := by
    unfold slice
    rw [List.drop_take, List.drop_take]
    exact List.take_prefix_take_left (by omega)
  have hlen : ∀ m, (slice l i m).length = min m l.length - i := by
    intro m
    simp [slice]
  have hiff : (slice l i n).length = (slice l i (i + n)).length ↔
      i = 0 ∨ n = 0 ∨ l.length ≤ i ∨ l.length ≤ n := by
    rw [hlen, hlen]
    omega
  refine ⟨⟨fun h => hiff.1 (congrArg List.length h), fun h => hpre.eq_of_length (hiff.2 h)⟩,
    hpre.length_le, fun hnot => ?_⟩
  exact lt_of_le_of_ne hpre.length_le fun h => hnot (hiff.1 h)

theorem append_slice_prefix {l s : List UInt8} (h : l <+: s) (n : Nat) :
    l ++ slice s l.length n <+: s := by
  obtain ⟨t, rfl⟩ := h
  unfold slice
  rw [List.drop_take, List.drop_left]
  exact (List.prefix_append_right_inj l).2 (List.take_prefix _ _)

/-- An in-order segment: the lengths as plain numbers. -/
structure InOrder (r : RcvVars) (p : Segment) : Prop where
  normal : hRxSeq r p = hRxSeqNormal r p
  lower : seqLeq p.seq r.rcvNxt
  upper : seqGeq (lastSeq p) r.rcvNxt
  nonzero : p.dlen + p.fin.toInt ≠ 0

section Bytes

variable {r : RcvVars} {p : Segment}

/-- A segment is accepted when it is in order, or when it carries nothing. -/
theorem accepted_cases (hsyn : p.syn = false) (h : (hRxSeq r p).verdict = .acceptAndHandle) :
    InOrder r p ∨ p.dlen + p.fin.toInt = 0 := by
  by_cases hzero : p.dlen + p.fin.toInt = 0
  · exact Or.inr hzero
  · have hlen : p.segLen ≠ 0 := by rwa [segLen_of_syn hsyn]
    obtain ⟨hwnd, hin⟩ := coversNext_of_handled hlen h
    exact Or.inl ⟨hRxSeq_normal hlen hwnd, hin.1, hin.2, hzero⟩

/-- Only a segment in order changes the receive side. -/
theorem hRxSeq_rcv_cases (hsyn : p.syn = false) :
    InOrder r p ∧ (hRxSeq r p).verdict = .acceptAndHandle ∨ (hRxSeq r p).rcv = r := by
  by_cases h : r.rcvWnd ≠ 0 ∧ p.segLen ≠ 0 ∧ CoversNext r p
  · left
    obtain ⟨hwnd, hlen, hin⟩ := h
    have hzero : p.dlen + p.fin.toInt ≠ 0 := by rwa [← segLen_of_syn hsyn]
    refine ⟨⟨hRxSeq_normal hlen hwnd, hin.1, hin.2, hzero⟩, ?_⟩
    rw [hRxSeq_normal hlen hwnd, hRxSeqNormal_verdict, if_pos hin]
  · exact Or.inr (hRxSeq_rcv_eq h).1

/-- The number of new sequence numbers of a segment with a length that is not negative. -/
theorem InOrder.bounds (h : InOrder r p) (hp : p.Parsed) (hsyn : p.syn = false) (hd : 0 ≤ p.dlen) :
    0 ≤ overlap r p ∧ overlap r p ≤ p.dlen + p.fin.toInt - 1 ∧
      acceptedLen r p = min (rcvLimit r) (p.dlen + p.fin.toInt - overlap r p) := by
  obtain ⟨-, hlo, hup, hne⟩ := h
  have hfin : 0 ≤ p.fin.toInt ∧ p.fin.toInt ≤ 1 := by cases p.fin <;> decide
  have hrange := hp.dlen_range
  rw [← segLen_of_syn hsyn] at hne ⊢
  have hlen : 0 < p.segLen ∧ p.segLen ≤ 65536 := by
    rw [segLen_of_syn hsyn] at hne ⊢
    omega
  have hle : overlap r p ≤ p.segLen - 1 := by
    rw [lastSeq_eq hne] at hup
    unfold seqLeq seqLt at hlo
    unfold seqGeq seqGt at hup
    unfold overlap seqDiff
    omega
  have hpos : 0 ≤ overlap r p := Int.emod_nonneg _ (by decide)
  -- the way from `rcv_nxt` to the end of the segment
  have hend : seqDiff (lastSeq p + 1) r.rcvNxt = p.segLen - overlap r p := by
    rw [lastSeq_eq hne]
    unfold overlap seqDiff at *
    omega
  refine ⟨hpos, hle, ?_⟩
  unfold acceptedLen rcvLimit
  rw [hend]

/-- The new payload as a slice. -/
theorem payloadIn_hRxSeq (h : InOrder r p) (hp : p.Parsed) (hsyn : p.syn = false)
    (hd : 0 ≤ p.dlen) :
    payloadIn r (hRxSeq r p).rcv p =
      slice p.data (overlap r p).toNat (overlap r p + acceptedLen r p).toNat := by
  obtain ⟨ho, hle, hlen⟩ := h.bounds hp hsyn hd
  have hrange := hp.dlen_range
  have hdata := hp.length_data
  have hfin : 0 ≤ p.fin.toInt ∧ p.fin.toInt ≤ 1 := by cases p.fin <;> decide
  have hlimit : 0 ≤ rcvLimit r := Int.emod_nonneg _ (by decide)
  have hnxt : (hRxSeq r p).rcv.rcvNxt = (r.rcvNxt + acceptedLen r p) % 4294967296 := by
    rw [h.normal, hRxSeqNormal, if_pos ⟨h.lower, h.upper⟩]
  have hslice := zipIdx_filter_range p.data (overlap r p).toNat
    (overlap r p + acceptedLen r p).toNat 0
  rw [Nat.sub_zero, Nat.sub_zero] at hslice
  rw [← hslice]
  unfold payloadIn
  congr 1
  refine List.filter_congr fun e he => decide_eq_decide.2 ?_
  have hidx : e.2 < p.data.length := by
    have := List.mem_zipIdx he
    omega
  have hmoved : seqDiff ((r.rcvNxt + acceptedLen r p) % 4294967296) r.rcvNxt = acceptedLen r p := by
    unfold seqDiff
    omega
  have hplace : seqDiff (p.seq + e.2) r.rcvNxt = (e.2 - overlap r p) % 4294967296 := by
    unfold overlap seqDiff
    omega
  rw [hnxt, hmoved, hplace]
  generalize overlap r p = o at *
  generalize acceptedLen r p = a at *
  omega

/-- The slice the code copies and the new payload have one start; when the copy is not exact, it is
shorter. -/
theorem copy_eq_payload_iff (h : InOrder r p) (hp : p.Parsed) (hsyn : p.syn = false)
    (hd : 0 ≤ p.dlen) :
    (pySlice p.data (overlap r p) (acceptedLen r p) = payloadIn r (hRxSeq r p).rcv p ↔
        CopyExact r p) ∧
      (pySlice p.data (overlap r p) (acceptedLen r p)).length ≤
        (payloadIn r (hRxSeq r p).rcv p).length ∧
      (¬ CopyExact r p → (pySlice p.data (overlap r p) (acceptedLen r p)).length <
        (payloadIn r (hRxSeq r p).rcv p).length) := by
  obtain ⟨ho, hle, hlen⟩ := h.bounds hp hsyn hd
  have hdata := hp.length_data
  have hfin : p.fin = true ∧ p.fin.toInt = 1 ∨ p.fin = false ∧ p.fin.toInt = 0 := by
    cases p.fin <;> simp
  have hlimit : 0 ≤ rcvLimit r := Int.emod_nonneg _ (by decide)
  have hsum :
      (overlap r p + acceptedLen r p).toNat = (overlap r p).toNat + (acceptedLen r p).toNat :=
    Int.toNat_add ho (by omega)
  -- the copy is exact in the cases that the lengths of the two slices leave
  have hexact : CopyExact r p ↔ overlap r p = 0 ∨ acceptedLen r p = 0 ∨
      p.dlen ≤ overlap r p ∨ p.dlen ≤ acceptedLen r p := by
    unfold CopyExact
    rcases hfin with ⟨hf, hf'⟩ | ⟨hf, hf'⟩
    · rw [hf'] at hle hlen
      simp only [hf, true_and]
      omega
    · rw [hf'] at hle hlen
      simp only [hf, Bool.false_eq_true, false_and, and_false, or_false]
      omega
  have hiff : CopyExact r p ↔ (overlap r p).toNat = 0 ∨ (acceptedLen r p).toNat = 0 ∨
      p.data.length ≤ (overlap r p).toNat ∨ p.data.length ≤ (acceptedLen r p).toNat := by
    rw [hexact]
    omega
  rw [payloadIn_hRxSeq h hp hsyn hd, hsum, hiff]
  exact slice_add_iff p.data (overlap r p).toNat (acceptedLen r p).toNat

/-- What `_append_rcv_data` stores: as much of the slice as there is room for. -/
theorem appendRcvData_queue (r : RcvVars) (p : Segment) : (appendRcvData r p).rcvBuf.queue =
    r.rcvBuf.queue ++ (pySlice p.data r.tcpDataStart r.tcpDataLen).take r.rcvBuf.freeSpace := by
  have hbuf : (computeRcvWnd r).rcvBuf = r.rcvBuf := rfl
  have hwnd : (computeRcvWnd r).rcvWnd = r.rcvBuf.freeSpace := rfl
  unfold appendRcvData
  simp only [hwnd, Int.natCast_eq_zero]
  by_cases hzero : r.rcvBuf.freeSpace = 0
  · rw [if_pos hzero, hbuf, hzero]
    simp
  · rw [if_neg hzero]
    by_cases hdata : p.data = []
    · rw [if_pos hdata, hbuf, hdata]
      simp [pySlice, slice]
    · rw [if_neg hdata]
      simp only [hbuf]
      rw [RingBuffer.enqueue_eq, RingBuffer.queue_pushed, RingBuffer.room,
        ← RingBuffer.freeSpace_eq, Nat.min_comm, ← List.take_eq_take_min]
      rfl

end Bytes

/-! ## One segment -/

namespace Conn

variable {c : Conn}

/-- What an accepted segment adds to the receive buffer. -/
theorem rx_queue (packet : TCPParser) (hs : c.tcb.state.TakesFin)
    (hclose : c.tcb.req.closeRequested = false) (hrst : packet.segment.rst = false)
    (hsyn : packet.segment.syn = false)
    (hacc : (hRxSeq c.tcb.rcv packet.segment).verdict = .acceptAndHandle) :
    (c.rx packet).st.tcb.rcv.rcvBuf.queue = c.tcb.rcv.rcvBuf.queue ++
      (pySlice packet.segment.data (hRxSeq c.tcb.rcv packet.segment).rcv.tcpDataStart
        (hRxSeq c.tcb.rcv packet.segment).rcv.tcpDataLen).take c.tcb.rcv.rcvBuf.freeSpace := by
  obtain ⟨-, hr, hy, hd, hb, -⟩ := hRxSeq_keeps c.tcb.rcv packet.segment
  have key : ∀ r, r.rcvBuf = c.tcb.rcv.rcvBuf →
      r.tcpDataStart = (hRxSeq c.tcb.rcv packet.segment).rcv.tcpDataStart →
      r.tcpDataLen = (hRxSeq c.tcb.rcv packet.segment).rcv.tcpDataLen →
      (appendRcvData r (hRxSeq c.tcb.rcv packet.segment).seg).rcvBuf.queue =
        c.tcb.rcv.rcvBuf.queue ++ (pySlice packet.segment.data
          (hRxSeq c.tcb.rcv packet.segment).rcv.tcpDataStart
          (hRxSeq c.tcb.rcv packet.segment).rcv.tcpDataLen).take c.tcb.rcv.rcvBuf.freeSpace := by
    intro r h₁ h₂ h₃
    rw [appendRcvData_queue, h₁, h₂, h₃, hd]
  simp only [STATES.TakesFin, List.mem_cons, List.not_mem_nil, or_false] at hs
  rcases hs with hs | hs | hs
  · simp only [rx, hs, Outcome.ok_st, rxEstab, hacc, hr, hy, hrst, hsyn,
      Bool.false_eq_true, if_false, estabAccept]
    split_ifs <;> simpa using key _ hb rfl rfl
  · simp only [rx, hs, Outcome.ok_st, rxFinWait1, hacc, hr, hy, hrst, hsyn, Bool.false_eq_true,
      if_false, ActiveCloseRx, setRcv_tcb, TCPCB.setRcv_req, hclose, false_and, finWait1Accept]
    split_ifs <;> simp only [sendAck_tcb, appendData_tcb, TCPCB.setRcv_rcv, updateWnd_tcb,
      TCPCB.setSnd_rcv, finWait1Ack_rcv, setAckNow_tcb, TCPCB.setAckNow_rcv, TCPCB.setAckNow_snd,
      setRcv_tcb, TCPCB.setRcv_snd] <;> split_ifs <;> exact key _ hb rfl rfl
  · simp only [rx, hs, Outcome.ok_st, rxFinWait2, hacc, hr, hy, hrst, hsyn, Bool.false_eq_true,
      if_false, ActiveCloseRx, setRcv_tcb, TCPCB.setRcv_req, hclose, false_and, finWait2Accept]
    split_ifs <;> simp <;> exact key _ hb rfl rfl

/-- A segment that is not accepted adds nothing. -/
theorem rx_queue_of_not_accepted (packet : TCPParser) (hs : c.tcb.state.TakesFin)
    (hrej : (hRxSeq c.tcb.rcv packet.segment).verdict ≠ .acceptAndHandle) :
    (c.rx packet).st.tcb.rcv.rcvBuf = c.tcb.rcv.rcvBuf := by
  have hbuf := (hRxSeq_keeps c.tcb.rcv packet.segment).rcvBuf
  simp only [STATES.TakesFin, List.mem_cons, List.not_mem_nil, or_false] at hs
  rcases hs with hs | hs | hs
  · simp only [rx, hs, Outcome.ok_st, rxEstab]
    split
    · next h => exact absurd h hrej
    · simpa using hbuf
    · simpa using hbuf
  · simp only [rx, hs, Outcome.ok_st, rxFinWait1]
    split
    · next h => exact absurd h hrej
    · simpa using hbuf
    · simpa using hbuf
  · simp only [rx, hs, Outcome.ok_st, rxFinWait2]
    split
    · next h => exact absurd h hrej
    · simpa using hbuf
    · simpa using hbuf

/-- What a segment in order adds, when there is room. -/
theorem rx_queue_of_inOrder (packet : TCPParser) (hs : c.tcb.state.TakesFin)
    (hclose : c.tcb.req.closeRequested = false) (hrst : packet.segment.rst = false)
    (hsyn : packet.segment.syn = false)
    (hacc : (hRxSeq c.tcb.rcv packet.segment).verdict = .acceptAndHandle)
    (hin : InOrder c.tcb.rcv packet.segment) (hd : 0 ≤ packet.segment.dlen)
    (hroom : HasRoom c.tcb.rcv packet.segment) :
    (c.rx packet).st.tcb.rcv.rcvBuf.queue = c.tcb.rcv.rcvBuf.queue ++
      pySlice packet.segment.data (overlap c.tcb.rcv packet.segment)
        (acceptedLen c.tcb.rcv packet.segment) := by
  have hle := (copy_eq_payload_iff hin packet.parsed hsyn hd).2.1
  have hvars : (hRxSeq c.tcb.rcv packet.segment).rcv.tcpDataStart =
        overlap c.tcb.rcv packet.segment ∧
      (hRxSeq c.tcb.rcv packet.segment).rcv.tcpDataLen =
        acceptedLen c.tcb.rcv packet.segment := by
    rw [hin.normal, hRxSeqNormal, if_pos ⟨hin.lower, hin.upper⟩]
    exact ⟨rfl, rfl⟩
  rw [rx_queue packet hs hclose hrst hsyn hacc, hvars.1, hvars.2,
    List.take_of_length_le (hle.trans hroom)]

/-- A segment that is not in order leaves `rcv_nxt` and the bytes in the buffer alone. -/
theorem rx_quiet (packet : TCPParser) (hs : c.tcb.state.TakesFin)
    (hclose : c.tcb.req.closeRequested = false) (hrst : packet.segment.rst = false)
    (hsyn : packet.segment.syn = false) (hd : 0 ≤ packet.segment.dlen)
    (hout : ¬ (InOrder c.tcb.rcv packet.segment ∧
      (hRxSeq c.tcb.rcv packet.segment).verdict = .acceptAndHandle)) :
    (c.rx packet).st.tcb.rcv.rcvNxt = c.tcb.rcv.rcvNxt ∧
      (c.rx packet).st.tcb.rcv.rcvBuf.queue = c.tcb.rcv.rcvBuf.queue := by
  refine ⟨by rw [c.rx_rcvNxt packet hs, (hRxSeq_rcv_cases hsyn).resolve_left hout], ?_⟩
  by_cases hacc : (hRxSeq c.tcb.rcv packet.segment).verdict = .acceptAndHandle
  · have hzero := (accepted_cases hsyn hacc).resolve_left fun hin => hout ⟨hin, hacc⟩
    have hfin : 0 ≤ packet.segment.fin.toInt := by cases packet.segment.fin <;> decide
    have hdata : packet.segment.data = [] := by
      have := packet.parsed.length_data
      exact List.length_eq_zero_iff.1 (by omega)
    rw [rx_queue packet hs hclose hrst hsyn hacc, hdata]
    simp [pySlice, slice]
  · rw [rx_queue_of_not_accepted packet hs hacc]

/-- **One segment.** An accepted segment stores exactly its new payload if and only if the copy is
exact. -/
theorem rx_stores_iff_copyExact (packet : TCPParser) (hs : c.tcb.state.TakesFin)
    (hclose : c.tcb.req.closeRequested = false) (hrst : packet.segment.rst = false)
    (hsyn : packet.segment.syn = false)
    (hacc : (hRxSeq c.tcb.rcv packet.segment).verdict = .acceptAndHandle)
    (hroom : HasRoom c.tcb.rcv packet.segment) :
    (c.rx packet).st.tcb.rcv.rcvBuf.queue =
        c.tcb.rcv.rcvBuf.queue ++ payloadIn c.tcb.rcv (c.rx packet).st.tcb.rcv packet.segment ↔
      CopyExact c.tcb.rcv packet.segment := by
  have hpay : payloadIn c.tcb.rcv (c.rx packet).st.tcb.rcv packet.segment =
      payloadIn c.tcb.rcv (hRxSeq c.tcb.rcv packet.segment).rcv packet.segment := by
    unfold payloadIn
    rw [c.rx_rcvNxt packet hs]
  rw [hpay]
  by_cases hd : 0 < packet.segment.dlen
  · have hin : InOrder c.tcb.rcv packet.segment := by
      refine (accepted_cases hsyn hacc).resolve_right ?_
      cases packet.segment.fin <;> simp <;> omega
    rw [rx_queue_of_inOrder packet hs hclose hrst hsyn hacc hin hd.le hroom,
      List.append_cancel_left_eq]
    exact (copy_eq_payload_iff hin packet.parsed hsyn hd.le).1
  · -- without payload there is nothing to store, and nothing to get wrong
    have hdata : packet.segment.data = [] := by
      have := packet.parsed.length_data
      exact List.length_eq_zero_iff.1 (by omega)
    have hover : 0 ≤ overlap c.tcb.rcv packet.segment := Int.emod_nonneg _ (by decide)
    rw [rx_queue packet hs hclose hrst hsyn hacc, hdata]
    simp only [payloadIn, hdata, pySlice, slice, List.take_nil, List.drop_nil, List.zipIdx_nil,
      List.filter_nil, List.map_nil, true_iff]
    exact Or.inr (Or.inl (by omega))

end Conn

/-! ## Runs -/

/-- The segment was cut from the stream at offset `k`; its FIN, if any, comes after the last byte.
-/
structure CutAt (stream : List UInt8) (irs : Int) (p : Segment) (k : Nat) : Prop where
  seq_eq : p.seq = (irs + 1 + k) % 4294967296
  dlen_nonneg : 0 ≤ p.dlen
  data_eq : p.data = slice stream k (k + p.data.length)
  le : k + p.data.length ≤ stream.length
  fin_eq : p.fin = true → k + p.data.length = stream.length
  syn_eq : p.syn = false
  rst_eq : p.rst = false

instance (stream : List UInt8) (irs : Int) (p : Segment) (k : Nat) :
    Decidable (CutAt stream irs p k) :=
  decidable_of_iff (p.seq = (irs + 1 + k) % 4294967296 ∧ 0 ≤ p.dlen ∧
      p.data = slice stream k (k + p.data.length) ∧ k + p.data.length ≤ stream.length ∧
      (p.fin = true → k + p.data.length = stream.length) ∧ p.syn = false ∧ p.rst = false)
    ⟨fun ⟨h₁, h₂, h₃, h₄, h₅, h₆, h₇⟩ => ⟨h₁, h₂, h₃, h₄, h₅, h₆, h₇⟩,
      fun h => ⟨h.seq_eq, h.dlen_nonneg, h.data_eq, h.le, h.fin_eq, h.syn_eq, h.rst_eq⟩⟩

/-- A connection, whether the FIN of the peer was consumed, and all bytes put in the receive buffer
since the SYN of the peer. -/
structure StreamRun extends FinRun where
  stored : List UInt8

namespace StreamRun

/-- A segment that is handled adds to the stored bytes what it puts at the end of the buffer. -/
def step (t : StreamRun) (e : ConnEvent) : StreamRun where
  toFinRun := t.toFinRun.step e
  stored := match e with
    | .rx _ => t.stored ++
        (t.o.step e).st.tcb.rcv.rcvBuf.queue.drop t.o.st.tcb.rcv.rcvBuf.queue.length
    | _ => t.stored

/-- The stored bytes are a prefix of the stream, and `rcv_nxt` is right after them, or after the
FIN. -/
def Faithful (stream : List UInt8) (irs : Int) (t : StreamRun) : Prop :=
  t.stored <+: stream ∧
    t.o.st.tcb.rcv.rcvNxt = (irs + 1 + t.stored.length + t.consumed.toInt) % 4294967296

/-- The events of the runs: segments cut from the stream less than half of the sequence space away
from the bytes stored, for which there is room, and anything else but a close. -/
def FromStream (stream : List UInt8) (irs : Int) (t : StreamRun) : ConnEvent → Prop
  | .rx packet =>
    (∃ k : Nat, CutAt stream irs packet.segment k ∧ k < t.stored.length + 2147483648 ∧
        t.stored.length < k + 2147483648) ∧
      HasRoom t.o.st.tcb.rcv packet.segment
  | .usr .tcpClose => False
  | _ => True

/-- The condition on an event: a segment that is accepted is copied exactly. -/
def Copies (t : StreamRun) : ConnEvent → Prop
  | .rx packet => t.o.fault = none → t.o.st.tcb.state.TakesFin →
      (hRxSeq t.o.st.tcb.rcv packet.segment).verdict = .acceptAndHandle →
      CopyExact t.o.st.tcb.rcv packet.segment
  | _ => True

instance (stream : List UInt8) (irs : Int) (t : StreamRun) : Decidable (t.Faithful stream irs) :=
  inferInstanceAs (Decidable (_ ∧ _))

instance (t : StreamRun) : (e : ConnEvent) → Decidable (t.Copies e)
  | .rx _ => inferInstanceAs (Decidable (_ → _ → _ → _))
  | .tx | .rtx | .usr _ => .isTrue trivial

/-- The invariant: the stored bytes are right, the handshake is over, the application has not
closed, and the FIN was consumed only after the last byte. -/
structure Inv (stream : List UInt8) (irs : Int) (t : StreamRun) : Prop where
  faithful : t.Faithful stream irs
  close_eq : t.o.st.tcb.req.closeRequested = false
  notSynSent : t.o.st.tcb.state ≠ .synSent
  notSynRecv : t.o.st.tcb.state ≠ .synRecv
  whole : t.consumed = true → t.stored.length = stream.length

variable {stream : List UInt8} {irs : Int} {t : StreamRun}

/-- The arithmetic of a segment in order: it starts inside what is stored, the bytes it adds are the
next ones of the stream, and one more number is taken when its FIN is consumed. -/
theorem Inv.payload (h : t.Inv stream irs) {p : Segment} (hp : p.Parsed) {k : Nat}
    (hcut : CutAt stream irs p k) (hk : k < t.stored.length + 2147483648)
    (hk' : t.stored.length < k + 2147483648) (hin : InOrder t.o.st.tcb.rcv p) :
    t.consumed = false ∧
      (∃ n, payloadIn t.o.st.tcb.rcv (hRxSeq t.o.st.tcb.rcv p).rcv p =
        slice stream t.stored.length n) ∧
      acceptedLen t.o.st.tcb.rcv p =
        (payloadIn t.o.st.tcb.rcv (hRxSeq t.o.st.tcb.rcv p).rcv p).length +
          (decide (ConsumesFin t.o.st.tcb.rcv (hRxSeq t.o.st.tcb.rcv p).rcv p)).toInt ∧
      (ConsumesFin t.o.st.tcb.rcv (hRxSeq t.o.st.tcb.rcv p).rcv p → t.stored.length +
        (payloadIn t.o.st.tcb.rcv (hRxSeq t.o.st.tcb.rcv p).rcv p).length = stream.length) := by
  obtain ⟨ho, hle, hlen⟩ := hin.bounds hp hcut.syn_eq hcut.dlen_nonneg
  have hdlen : p.dlen = p.data.length := by
    have := hp.length_data
    have := hcut.dlen_nonneg
    omega
  have hfin : p.fin = true ∧ p.fin.toInt = 1 ∨ p.fin = false ∧ p.fin.toInt = 0 := by
    cases p.fin <;> simp
  have hlimit : 0 ≤ rcvLimit t.o.st.tcb.rcv ∧ rcvLimit t.o.st.tcb.rcv < 4294967296 :=
    ⟨Int.emod_nonneg _ (by decide), Int.emod_lt_of_pos _ (by decide)⟩
  have hover : overlap t.o.st.tcb.rcv p = t.stored.length + t.consumed.toInt - k := by
    have hlo := hin.lower
    have hrange := hp.dlen_range
    have hc : t.consumed.toInt = 0 ∨ t.consumed.toInt = 1 := by cases t.consumed <;> simp
    unfold seqLeq seqLt at hlo
    unfold overlap seqDiff at *
    rw [h.faithful.2, hcut.seq_eq] at *
    omega
  have hfresh : t.consumed = false := by
    rcases Bool.eq_false_or_eq_true t.consumed with hc | hc
    · have := h.whole hc
      have := hcut.le
      rw [hc, Bool.toInt_true] at hover
      omega
    · exact hc
  rw [hfresh, Bool.toInt_false] at hover
  have hconsumes : ConsumesFin t.o.st.tcb.rcv (hRxSeq t.o.st.tcb.rcv p).rcv p ↔
      p.fin = true ∧ p.dlen - overlap t.o.st.tcb.rcv p < acceptedLen t.o.st.tcb.rcv p := by
    refine and_congr_right fun hf => ?_
    rw [hf, Bool.toInt_true] at hle hlen
    have hrange := hp.dlen_range
    rw [hin.normal, hRxSeqNormal, if_pos ⟨hin.lower, hin.upper⟩]
    simp only [finSeq, hcut.syn_eq, Bool.toInt_false]
    rw [hover] at hle hlen ⊢
    unfold seqDiff
    rw [h.faithful.2, hcut.seq_eq, hfresh, Bool.toInt_false]
    omega
  have hslice := payloadIn_hRxSeq hin hp hcut.syn_eq hcut.dlen_nonneg
  have hpay : (payloadIn t.o.st.tcb.rcv (hRxSeq t.o.st.tcb.rcv p).rcv p).length =
      min (overlap t.o.st.tcb.rcv p + acceptedLen t.o.st.tcb.rcv p).toNat p.data.length -
        (overlap t.o.st.tcb.rcv p).toNat := by
    rw [hslice]
    simp [slice]
  refine ⟨hfresh, ⟨min (k + (overlap t.o.st.tcb.rcv p + acceptedLen t.o.st.tcb.rcv p).toNat)
    (k + p.data.length), ?_⟩, ?_, ?_⟩
  · have hpos : t.stored.length = k + (overlap t.o.st.tcb.rcv p).toNat := by omega
    rw [hslice, hpos]
    conv_lhs => rw [hcut.data_eq]
    exact slice_slice _ _ _ _ _
  · by_cases hcons : ConsumesFin t.o.st.tcb.rcv (hRxSeq t.o.st.tcb.rcv p).rcv p
    · have := hconsumes.1 hcons
      rw [decide_eq_true hcons, hpay, Bool.toInt_true]
      omega
    · rw [decide_eq_false hcons, hpay, Bool.toInt_false]
      rw [hconsumes, not_and] at hcons
      rcases hfin with ⟨hf, hf'⟩ | ⟨hf, hf'⟩
      · have := hcons hf
        omega
      · omega
  · intro hcons
    have hend := hcut.fin_eq hcons.1
    have := hconsumes.1 hcons
    rw [hpay]
    omega

/-! ### The steps -/

theorem Inv.step_frame (h : t.Inv stream irs) {e : ConnEvent} (hdom : t.FromStream stream irs e) :
    (t.o.step e).st.tcb.req.closeRequested = false ∧ (t.o.step e).st.tcb.state ≠ .synSent ∧
      (t.o.step e).st.tcb.state ≠ .synRecv := by
  refine ⟨?_, ?_⟩
  · refine (t.o.step_rule (R := fun c c' => c'.tcb.req.closeRequested = c.tcb.req.closeRequested) e
      rfl fun _ => ?_).trans h.close_eq
    cases e with
    | rx packet => exact congrArg Requests.closeRequested (t.o.st.rx_req packet)
    | tx => exact congrArg Requests.closeRequested t.o.st.tx_req
    | rtx => exact congrArg Requests.closeRequested t.o.st.prepareRtx.tx_req
    | usr q =>
      cases q with
      | tcpClose => exact hdom.elim
      | tcpSend data =>
        simp only [ConnEvent.handler, UserRequest.apply, Conn.tcpSend]
        split <;> rfl
      | tcpRecv n =>
        simp only [ConnEvent.handler, UserRequest.apply, Conn.tcpRecv]
        split <;> rfl
      | tcpShutdown => rfl
      | tick ns => rfl
  · have hnext := t.o.step_next e
    have h₁ := h.notSynSent
    have h₂ := h.notSynRecv
    revert h₁ h₂ hnext
    cases t.o.st.tcb.state <;> cases (t.o.step e).st.tcb.state <;> decide

/-- What is not a segment in order keeps the invariant. -/
theorem Inv.step_quiet (h : t.Inv stream irs) {e : ConnEvent} (hdom : t.FromStream stream irs e)
    (hnxt : (t.o.step e).st.tcb.rcv.rcvNxt = t.o.st.tcb.rcv.rcvNxt)
    (hqueue : ∀ packet, e = .rx packet →
      (t.o.step e).st.tcb.rcv.rcvBuf.queue = t.o.st.tcb.rcv.rcvBuf.queue) :
    (t.step e).Inv stream irs := by
  obtain ⟨hclose, hsent, hrecv⟩ := h.step_frame hdom
  have hstored : (t.step e).stored = t.stored := by
    cases e with
    | rx packet => simp [StreamRun.step, hqueue packet rfl]
    | _ => rfl
  have hconsumed : (t.step e).consumed = t.consumed := by
    cases e with
    | rx packet =>
      have hself : ¬ ConsumesFin t.o.st.tcb.rcv (t.o.step (.rx packet)).st.tcb.rcv
          packet.segment := by
        rintro ⟨-, hlt⟩
        rw [hnxt] at hlt
        unfold seqDiff at hlt
        omega
      simp [StreamRun.step, FinRun.step, hself]
    | _ => simp [StreamRun.step, FinRun.step]
  refine ⟨⟨?_, ?_⟩, hclose, hsent, hrecv, ?_⟩
  · rw [hstored]
    exact h.faithful.1
  · rw [hstored, hconsumed]
    exact hnxt.trans h.faithful.2
  · rw [hstored, hconsumed]
    exact h.whole

/-- What a segment in order does: it moves `rcv_nxt` over the new payload and the FIN, and stores
what the code copies. -/
theorem Inv.step_inOrder (h : t.Inv stream irs) {packet : TCPParser}
    (hdom : t.FromStream stream irs (.rx packet)) (hf : t.o.fault = none)
    (hs : t.o.st.tcb.state.TakesFin) (hin : InOrder t.o.st.tcb.rcv packet.segment)
    (hacc : (hRxSeq t.o.st.tcb.rcv packet.segment).verdict = .acceptAndHandle) :
    let pay := payloadIn t.o.st.tcb.rcv (hRxSeq t.o.st.tcb.rcv packet.segment).rcv packet.segment
    let fin := decide (ConsumesFin t.o.st.tcb.rcv (hRxSeq t.o.st.tcb.rcv packet.segment).rcv
      packet.segment)
    (t.step (.rx packet)).stored = t.stored ++ pySlice packet.segment.data
        (overlap t.o.st.tcb.rcv packet.segment) (acceptedLen t.o.st.tcb.rcv packet.segment) ∧
      (t.step (.rx packet)).consumed = fin ∧
      (t.step (.rx packet)).o.st.tcb.rcv.rcvNxt =
        (irs + 1 + t.stored.length + pay.length + fin.toInt) % 4294967296 ∧
      t.stored ++ pay <+: stream ∧
      (fin = true → t.stored.length + pay.length = stream.length) := by
  intro pay fin
  obtain ⟨⟨k, hcut, hk, hk'⟩, hroom⟩ := hdom
  obtain ⟨hfresh, ⟨n, hslice⟩, hlen, hwhole⟩ := h.payload packet.parsed hcut hk hk' hin
  have hstep : t.o.step (.rx packet) = t.o.st.rx packet := by
    simp only [Outcome.step, hf, ConnEvent.handler]
  have hnxt := t.o.st.rx_rcvNxt packet hs
  refine ⟨?_, ?_, ?_, ?_, fun hfin => hwhole (of_decide_eq_true hfin)⟩
  · simp only [StreamRun.step, hstep]
    rw [Conn.rx_queue_of_inOrder packet hs h.close_eq hcut.rst_eq hcut.syn_eq hacc hin
      hcut.dlen_nonneg hroom, List.drop_left]
  · have hcons : ConsumesFin t.o.st.tcb.rcv (t.o.st.rx packet).st.tcb.rcv packet.segment ↔
        ConsumesFin t.o.st.tcb.rcv (hRxSeq t.o.st.tcb.rcv packet.segment).rcv packet.segment := by
      unfold ConsumesFin
      rw [hnxt]
    simp only [StreamRun.step, FinRun.step, hstep, hfresh, Bool.false_or, hs, true_and, hcons, fin]
  · simp only [StreamRun.step, FinRun.step, hstep]
    rw [hnxt, hin.normal, hRxSeqNormal, if_pos ⟨hin.lower, hin.upper⟩]
    simp only [h.faithful.2, hfresh, Bool.toInt_false, hlen, pay, fin]
    omega
  · have hpay : pay = slice stream t.stored.length n := hslice
    rw [hpay]
    exact append_slice_prefix h.faithful.1 n

theorem Inv.step (h : t.Inv stream irs) {e : ConnEvent} (hdom : t.FromStream stream irs e)
    (hok : t.Copies e) : (t.step e).Inv stream irs := by
  cases e with
  | rx packet =>
    cases hf : t.o.fault with
    | some f =>
      have hstep : t.o.step (.rx packet) = t.o := by simp only [Outcome.step, hf]
      exact h.step_quiet hdom (by rw [hstep]) fun _ _ => by rw [hstep]
    | none =>
      have hstep : t.o.step (.rx packet) = t.o.st.rx packet := by
        simp only [Outcome.step, hf, ConnEvent.handler]
      by_cases hs : t.o.st.tcb.state.TakesFin
      · by_cases hin : InOrder t.o.st.tcb.rcv packet.segment ∧
          (hRxSeq t.o.st.tcb.rcv packet.segment).verdict = .acceptAndHandle
        · obtain ⟨hstored, hcons, hnxt, hprefix, hwhole⟩ := h.step_inOrder hdom hf hs hin.1 hin.2
          obtain ⟨hclose, hsent, hrecv⟩ := h.step_frame hdom
          obtain ⟨⟨k, hcut, -⟩, -⟩ := hdom
          rw [(copy_eq_payload_iff hin.1 packet.parsed hcut.syn_eq hcut.dlen_nonneg).1.2
            (hok hf hs hin.2)] at hstored
          refine ⟨⟨?_, ?_⟩, hclose, hsent, hrecv, ?_⟩
          · rw [hstored]
            exact hprefix
          · rw [hstored, hcons, hnxt, List.length_append, Nat.cast_add, ← add_assoc]
          · rw [hstored, hcons, List.length_append]
            exact hwhole
        · obtain ⟨⟨k, hcut, -⟩, -⟩ := id hdom
          obtain ⟨hnxt, hqueue⟩ := Conn.rx_quiet packet hs h.close_eq hcut.rst_eq hcut.syn_eq
            hcut.dlen_nonneg hin
          exact h.step_quiet hdom (by rw [hstep, hnxt]) fun _ _ => by rw [hstep, hqueue]
      · -- the states after the FIN leave the receive side alone
        have hrcv : (t.o.st.rx packet).st.tcb.rcv = t.o.st.tcb.rcv := by
          have h₁ := h.notSynSent
          have h₂ := h.notSynRecv
          cases hst : t.o.st.tcb.state with
          | synSent => exact absurd hst h₁
          | synRecv => exact absurd hst h₂
          | estab => exact absurd (by rw [hst]; decide) hs
          | finWait1 => exact absurd (by rw [hst]; decide) hs
          | finWait2 => exact absurd (by rw [hst]; decide) hs
          | listen => simp [Conn.rx, hst]
          | closeWait => simp [Conn.rx, hst, Conn.rxCloseWait_rcv]
          | closing => simp [Conn.rx, hst, Conn.rxClosing_rcv]
          | lastAck => simp [Conn.rx, hst, Conn.rxLastAck_rcv]
          | timeWait => simp [Conn.rx, hst, Conn.rxTimeWait_rcv]
          | closed => simp [Conn.rx, hst]
        exact h.step_quiet hdom (by rw [hstep, hrcv]) fun _ _ => by rw [hstep, hrcv]
  | tx =>
    refine h.step_quiet hdom (t.o.step_rule (R := fun c c' => c'.tcb.rcv.rcvNxt = c.tcb.rcv.rcvNxt)
      .tx rfl fun _ => ?_) (by simp)
    exact t.o.st.tx_rcvNxt
  | rtx =>
    refine h.step_quiet hdom (t.o.step_rule (R := fun c c' => c'.tcb.rcv.rcvNxt = c.tcb.rcv.rcvNxt)
      .rtx rfl fun _ => ?_) (by simp)
    exact t.o.st.prepareRtx.tx_rcvNxt
  | usr q =>
    refine h.step_quiet hdom ?_ (by simp)
    cases q with
    | tcpSend data =>
      simp only [Outcome.step, UserRequest.apply, Conn.tcpSend]
      split <;> rfl
    | tcpRecv n =>
      simp only [Outcome.step, UserRequest.apply, Conn.tcpRecv]
      split <;> rfl
    | tcpClose => rfl
    | tcpShutdown => rfl
    | tick ns => rfl

/-- A copy that is not exact leaves fewer bytes than `rcv_nxt` went over. -/
theorem Inv.copies_of_faithful (h : t.Inv stream irs) {e : ConnEvent}
    (hdom : t.FromStream stream irs e) (hf' : (t.step e).Faithful stream irs) : t.Copies e := by
  cases e with
  | rx packet =>
    intro hf hs hacc
    have hcut := hdom.1.choose_spec.1
    by_cases hin : InOrder t.o.st.tcb.rcv packet.segment
    · by_contra hnot
      obtain ⟨hstored, hcons, hnxt, -, -⟩ := h.step_inOrder hdom hf hs hin hacc
      have hlt := (copy_eq_payload_iff hin packet.parsed hcut.syn_eq hcut.dlen_nonneg).2.2 hnot
      have heq := hf'.2
      rw [hstored, hcons, hnxt, List.length_append, Nat.cast_add] at heq
      have hpay : (payloadIn t.o.st.tcb.rcv (hRxSeq t.o.st.tcb.rcv packet.segment).rcv
          packet.segment).length ≤ packet.segment.data.length := by
        rw [payloadIn, List.length_map]
        exact (List.length_filter_le _ _).trans (List.length_zipIdx).le
      have := packet.parsed.length_data
      have := packet.parsed.dlen_range
      omega
    · have hzero := (accepted_cases hcut.syn_eq hacc).resolve_left hin
      have hover : 0 ≤ overlap t.o.st.tcb.rcv packet.segment := Int.emod_nonneg _ (by decide)
      have hfin : 0 ≤ packet.segment.fin.toInt := by cases packet.segment.fin <;> decide
      exact Or.inr (Or.inl (by omega))
  | tx => trivial
  | rtx => trivial
  | usr q => trivial

end StreamRun

/-- **The receive stream.** An accepted segment for which there is room puts exactly its new payload
in the receive buffer if and only if its copy is exact. In a run of segments cut from one stream,
with anything but a close between them, the stored bytes are at all times a prefix of the stream
that ends at `rcv_nxt`, not counting the FIN, if and only if every segment that is accepted is
copied exactly. -/
theorem rcv_stream_iff_copyExact (o : Outcome) (hs : o.st.tcb.state.TakesFin)
    (hclose : o.st.tcb.req.closeRequested = false) :
    (∀ packet : TCPParser, packet.segment.rst = false → packet.segment.syn = false →
      (hRxSeq o.st.tcb.rcv packet.segment).verdict = .acceptAndHandle →
      HasRoom o.st.tcb.rcv packet.segment →
      ((o.st.rx packet).st.tcb.rcv.rcvBuf.queue =
          o.st.tcb.rcv.rcvBuf.queue ++
            payloadIn o.st.tcb.rcv (o.st.rx packet).st.tcb.rcv packet.segment ↔
        CopyExact o.st.tcb.rcv packet.segment)) ∧
    ∀ (stream stored : List UInt8) (es : List ConnEvent),
      StreamRun.Faithful stream o.st.tcb.rcv.irs ⟨⟨o, false⟩, stored⟩ →
      Guarded StreamRun.step (StreamRun.FromStream stream o.st.tcb.rcv.irs)
        ⟨⟨o, false⟩, stored⟩ es →
      ((∀ pre, pre <+: es → StreamRun.Faithful stream o.st.tcb.rcv.irs
          (run StreamRun.step ⟨⟨o, false⟩, stored⟩ pre)) ↔
        Guarded StreamRun.step StreamRun.Copies ⟨⟨o, false⟩, stored⟩ es) := by
  refine ⟨fun packet hrst hsyn hacc hroom =>
    Conn.rx_stores_iff_copyExact packet hs hclose hrst hsyn hacc hroom, ?_⟩
  intro stream stored es hstart hdom
  refine forall_reached_iff_guarded (I := StreamRun.Inv stream o.st.tcb.rcv.irs)
    (fun _ h => h.faithful) (fun _ _ h hdom hok => h.step hdom hok)
    (fun _ _ h hdom hpost => h.copies_of_faithful hdom hpost)
    ⟨hstart, hclose, ?_, ?_, by simp⟩ hdom
  · rintro hbad
    simp only at hbad
    rw [hbad] at hs
    exact absurd hs (by decide)
  · rintro hbad
    simp only at hbad
    rw [hbad] at hs
    exact absurd hs (by decide)

/-- Three bytes, then two more with a FIN: the first segment on its own, and both in a run. -/
theorem rcv_stream_iff_copyExact_five :
    (sampleEstab.st.rx (.sample 101 1001 0x10 4096 [1, 2, 3])).st.tcb.rcv.rcvBuf.queue =
        sampleEstab.st.tcb.rcv.rcvBuf.queue ++ payloadIn sampleEstab.st.tcb.rcv
          (sampleEstab.st.rx (.sample 101 1001 0x10 4096 [1, 2, 3])).st.tcb.rcv
          (TCPParser.sample 101 1001 0x10 4096 [1, 2, 3]).segment ∧
      ∀ pre, pre <+: [.rx (.sample 101 1001 0x10 4096 [1, 2, 3]), .tx,
          .rx (.sample 104 1001 0x11 4096 [4, 5])] →
        StreamRun.Faithful [1, 2, 3, 4, 5] sampleEstab.st.tcb.rcv.irs
          (run StreamRun.step ⟨⟨sampleEstab, false⟩, []⟩ pre) := by
  obtain ⟨hone, hrun⟩ :=
    rcv_stream_iff_copyExact sampleEstab (by decide +kernel) (by decide +kernel)
  refine ⟨(hone _ ?_ ?_ ?_ ?_).2 ?_, (hrun _ _ _ ?_ ?_).2 ?_⟩
  · decide +kernel
  · decide +kernel
  · decide +kernel
  · decide +kernel
  · decide +kernel
  · decide +kernel
  · exact ⟨⟨⟨0, by decide +kernel⟩, by decide +kernel⟩, trivial,
      ⟨⟨3, by decide +kernel⟩, by decide +kernel⟩, trivial⟩
  · decide +kernel

/-- A retransmission that repeats two bytes and has two new ones: `rcv_nxt` goes over the new bytes,
and none of them is stored. -/
theorem overlapping_retransmission_dropped :
    let c := (run Outcome.step sampleEstab [.rx (.sample 101 1001 0x10 4096 [1, 2, 3])]).st
    let packet := TCPParser.sample 102 1001 0x10 4096 [2, 3, 4, 5]
    c.tcb.state.TakesFin ∧ c.tcb.req.closeRequested = false ∧ packet.segment.rst = false ∧
      packet.segment.syn = false ∧
      (hRxSeq c.tcb.rcv packet.segment).verdict = .acceptAndHandle ∧
      HasRoom c.tcb.rcv packet.segment ∧
      payloadIn c.tcb.rcv (c.rx packet).st.tcb.rcv packet.segment = [4, 5] ∧
      (c.rx packet).st.tcb.rcv.rcvBuf.queue = c.tcb.rcv.rcvBuf.queue ∧
      (c.rx packet).st.tcb.rcv.rcvBuf.queue ≠
        c.tcb.rcv.rcvBuf.queue ++
          payloadIn c.tcb.rcv (c.rx packet).st.tcb.rcv packet.segment := by
  decide +kernel

end Tipy.Tcp
