import Tipy.Tcp.RcvStream

/-!
# What is acknowledged is stored

The window offered has to fit the receive buffer: `Fits` says that `rcv_adv` is no further ahead of
`rcv_nxt` than there is room, and one. `_append_rcv_data` recomputes the window first and enqueues
afterwards, so that the bytes it stores are counted as room once more. One byte is made up for by
the number `rcv_nxt` never takes up; two are not. The condition `StoresOne` says when an event keeps
`Fits` and stores every byte that `rcv_nxt` goes over.
-/

namespace Tipy.Tcp

open Tipy.Buffer Tipy.Lib

/-! ## The window and the buffer -/

/-- The window offered fits the receive buffer. -/
structure RcvVars.Fits (r : RcvVars) : Prop extends r.Window where
  adv_le : seqDiff r.rcvAdv r.rcvNxt ≤ r.rcvBuf.freeSpace + 1
  wnd_nonneg : 0 ≤ r.rcvWnd
  wnd_le : r.rcvWnd ≤ 65535

section Fits

variable {r : RcvVars} {p : Segment}

theorem RcvVars.Fits.of_fresh (hw : r.Window) (h : r.Fresh) : r.Fits := by
  have hfree : r.rcvBuf.freeSpace = 65534 := by
    rw [RingBuffer.freeSpace_eq, h.size_eq, h.ready_eq]
    rfl
  have hle := hw.le
  refine ⟨hw, by rw [hfree]; omega, ?_, ?_⟩ <;> rw [h.wnd_eq] <;> decide

/-- The width of the window after `_compute_rcv_wnd`. -/
theorem computeRcvWnd_width (h : r.Window) :
    seqDiff (computeRcvWnd r).rcvAdv (computeRcvWnd r).rcvNxt =
      max (seqDiff r.rcvAdv r.rcvNxt) r.rcvBuf.freeSpace := by
  have hfree := freeSpace_le r h
  obtain ⟨-, hn, ha, hp, hl⟩ := h
  simp only [computeRcvWnd]
  split
  · next hgt =>
    unfold seqGt at hgt
    unfold seqDiff at *
    omega
  · next hgt =>
    unfold seqGt at hgt
    unfold seqDiff at *
    omega

theorem RcvVars.Fits.compute (h : r.Fits) : (computeRcvWnd r).Fits := by
  have hfree := freeSpace_le r h.toWindow
  have hwidth := computeRcvWnd_width h.toWindow
  have hle := h.adv_le
  have hbuf : (computeRcvWnd r).rcvBuf = r.rcvBuf := rfl
  have hwnd : (computeRcvWnd r).rcvWnd = r.rcvBuf.freeSpace := rfl
  exact ⟨(computeRcvWnd_grows r h.toWindow).1, by rw [hwidth, hbuf]; omega, by rw [hwnd]; omega,
    by rw [hwnd]; omega⟩

theorem computeRcvWnd_idem (r : RcvVars) : computeRcvWnd (computeRcvWnd r) = computeRcvWnd r := by
  simp only [computeRcvWnd, RcvVars.mk.injEq, true_and, and_true]
  split_ifs <;> rfl

theorem appendRcvData_compute (r : RcvVars) (p : Segment) :
    appendRcvData (computeRcvWnd r) p = appendRcvData r p := by
  unfold appendRcvData
  rw [computeRcvWnd_idem]

theorem RcvVars.Fits.hRxSeq (h : r.Fits) (p : Segment) : (hRxSeq r p).rcv.Fits := by
  obtain ⟨hw, n, hn, hlt, hnxt, -⟩ := hRxSeq_moves r p h.toWindow
  obtain ⟨-, -, -, -, hbuf, hwnd, hadv⟩ := hRxSeq_keeps r p
  refine ⟨hw, ?_, by rw [hwnd]; exact h.wnd_nonneg, by rw [hwnd]; exact h.wnd_le⟩
  have hle := h.adv_le
  rw [hbuf, hadv, hnxt]
  have := hw.pos
  rw [hadv, hnxt] at this
  unfold seqDiff at *
  omega

/-- **`_append_rcv_data`** keeps the window within the buffer when it stores at most one byte. -/
theorem RcvVars.Fits.append (h : r.Fits)
    (hlen : p.data ≠ [] → 0 ≤ r.tcpDataLen ∧
      seqDiff r.rcvAdv r.rcvNxt + r.tcpDataLen ≤ r.rcvBuf.freeSpace + 1)
    (hone : (pySlice p.data r.tcpDataStart r.tcpDataLen).length ≤ 1) :
    (appendRcvData r p).Fits := by
  have hwidth := computeRcvWnd_width h.toWindow
  have hpos := h.pos
  have hgrows := (appendRcvData_grows r p h.toWindow).1
  have hslice : (pySlice p.data r.tcpDataStart r.tcpDataLen).length ≤ r.tcpDataLen.toNat := by
    simp only [pySlice, slice, List.length_drop, List.length_take]
    omega
  revert hgrows
  unfold appendRcvData
  simp only
  split
  · exact fun _ => h.compute
  · split
    · exact fun _ => h.compute
    · next hwnd hdata =>
      intro hgrows
      obtain ⟨hnonneg, hbudget⟩ := hlen hdata
      have hfree := freeSpace_le r h.toWindow
      have hready := r.rcvBuf.ready_lt
      have hroom : (r.rcvBuf.enqueue (pySlice p.data r.tcpDataStart r.tcpDataLen)).1.freeSpace =
          r.rcvBuf.freeSpace -
            min (pySlice p.data r.tcpDataStart r.tcpDataLen).length r.rcvBuf.freeSpace := by
        rw [RingBuffer.enqueue_eq, RingBuffer.freeSpace_eq, RingBuffer.ready_pushed,
          RingBuffer.freeSpace_eq]
        simp only [RingBuffer.pushed, RingBuffer.room]
        omega
      have hbuf : (computeRcvWnd r).rcvBuf = r.rcvBuf := rfl
      have hwnd' : (computeRcvWnd r).rcvWnd = r.rcvBuf.freeSpace := rfl
      have hdlen : (computeRcvWnd r).tcpDataLen = r.tcpDataLen := rfl
      have hstart : (computeRcvWnd r).tcpDataStart = r.tcpDataStart := rfl
      refine ⟨hgrows, ?_, ?_, ?_⟩
      · simp only [hbuf, hdlen, hstart]
        rw [hroom, hwidth]
        omega
      · simp only [hwnd', hdlen]
        omega
      · simp only [hwnd', hdlen]
        omega

end Fits

/-! ## One segment -/

/-- The segment is in order: it starts at or before `rcv_nxt` and ends at or after it. -/
def Arrives (r : RcvVars) (p : Segment) : Prop :=
  r.rcvWnd ≠ 0 ∧ p.dlen + p.fin.toInt + p.syn.toInt ≠ 0 ∧ seqLeq p.seq r.rcvNxt ∧
    seqGeq (lastSeq p) r.rcvNxt

instance (r : RcvVars) (p : Segment) : Decidable (Arrives r p) :=
  inferInstanceAs (Decidable (_ ∧ _ ∧ _ ∧ _))

/-- The number of new payload bytes of a segment in order that the window lets in. -/
def newLen (r : RcvVars) (p : Segment) : Int := min (rcvLimit r) (p.dlen - overlap r p)

/-- The condition on a segment: if it is in order and moves `rcv_nxt`, it has no SYN, and no new
payload or one new byte, which is copied right, comes without RST, and not after a close that resets
the connection. -/
def StoresOne (t : TCPCB) (p : Segment) : Prop :=
  t.state.TakesFin → Arrives t.rcv p → rcvLimit t.rcv ≠ 0 →
    p.syn = false ∧ 0 ≤ p.dlen ∧ (newLen t.rcv p ≤ 0 ∨
      newLen t.rcv p = 1 ∧ p.rst = false ∧ (t.state = .estab ∨ t.req.closeRequested = false) ∧
        CopyExact t.rcv p)

instance (t : TCPCB) (p : Segment) : Decidable (StoresOne t p) :=
  inferInstanceAs (Decidable (_ → _ → _ → _))

/-- What `rcv_nxt` has gone over is in the buffer, a FIN aside. -/
structure Stored (r r' : RcvVars) (p : Segment) : Prop where
  queue : r'.rcvBuf.queue = r.rcvBuf.queue ++ payloadIn r r' p
  covers : seqDiff r'.rcvNxt r.rcvNxt ≤ (payloadIn r r' p).length + p.fin.toInt

section Segment

variable {r : RcvVars} {p : Segment} {c : Conn}

theorem Arrives.hRxSeq_eq (h : Arrives r p) : hRxSeq r p = hRxSeqNormal r p ∧
    (hRxSeq r p).verdict = .acceptAndHandle ∧ (hRxSeq r p).rcv =
      { r with
        tcpDataStart := overlap r p
        tcpDataLen := acceptedLen r p
        rcvNxt := (r.rcvNxt + acceptedLen r p) % 4294967296 } := by
  obtain ⟨hwnd, hlen, hlo, hup⟩ := h
  have heq : hRxSeq r p = hRxSeqNormal r p := by
    unfold hRxSeq
    rw [if_neg hlen, if_neg hwnd]
  refine ⟨heq, ?_, ?_⟩ <;> rw [heq, hRxSeqNormal, if_pos ⟨hlo, hup⟩]
  rfl

/-- A segment that is not in order leaves the receive side alone, and is accepted only if it is
empty. -/
theorem hRxSeq_of_not_arrives (hp : p.Parsed) (h : ¬ Arrives r p) :
    (hRxSeq r p).rcv = r ∧ ((hRxSeq r p).verdict = .acceptAndHandle → p.data = []) := by
  have hdata := hp.length_data
  have hfin : 0 ≤ p.fin.toInt ∧ 0 ≤ p.syn.toInt := by cases p.fin <;> cases p.syn <;> decide
  have hempty : p.dlen + p.fin.toInt + p.syn.toInt = 0 → p.data = [] := fun hzero =>
    List.length_eq_zero_iff.1 (by omega)
  unfold hRxSeq hRxSeqNormal
  split_ifs with h₁ h₂ h₃ h₄
  · exact ⟨rfl, fun _ => hempty h₁⟩
  · exact ⟨rfl, fun _ => hempty h₁⟩
  · exact ⟨rfl, fun hacc => by cases hacc⟩
  · exact absurd ⟨h₃, h₁, h₄⟩ h
  · exact ⟨rfl, fun hacc => by cases hacc⟩
  · exact ⟨rfl, fun hacc => by cases hacc⟩

theorem appendRcvData_congr {p' : Segment} (r : RcvVars) (h : p'.data = p.data) :
    appendRcvData r p' = appendRcvData r p := by
  unfold appendRcvData
  rw [h]

theorem estabAccept_rcv (c : Conn) (p : Segment) :
    (c.estabAccept p).tcb.rcv = appendRcvData c.tcb.rcv p := by
  unfold Conn.estabAccept
  simp only
  split <;> split <;> simp

theorem finWait1Accept_rcv (c : Conn) (p : Segment) :
    (c.finWait1Accept p).tcb.rcv = appendRcvData c.tcb.rcv p := by
  have hack : appendRcvData (c.finWait1Ack p).tcb.rcv p = appendRcvData c.tcb.rcv p := by
    rw [Conn.finWait1Ack_rcv]
    split
    · exact appendRcvData_compute _ _
    · rfl
  rw [Conn.finWait1Ack_rcv] at hack
  unfold Conn.finWait1Accept
  simp only
  split <;> split <;> simpa [Conn.finWait1Ack_rcv] using hack

theorem finWait2Accept_rcv (c : Conn) (p : Segment) :
    (c.finWait2Accept p).tcb.rcv = appendRcvData c.tcb.rcv p := by
  have hack := appendRcvData_compute c.tcb.rcv p
  unfold Conn.finWait2Accept
  simp only
  split <;> split <;> simpa using hack

/-- **The receive side after a segment**: as the sequence check left it, or with the data appended.
An accepted segment without RST and SYN is appended, unless it resets the connection after a close.
-/
theorem rx_rcv_cases (packet : TCPParser) (hs : c.tcb.state.TakesFin) :
    (c.rx packet).st.tcb.rcv = (hRxSeq c.tcb.rcv packet.segment).rcv ∧
        ((hRxSeq c.tcb.rcv packet.segment).verdict = .acceptAndHandle → packet.segment.rst = true ∨
          packet.segment.syn = true ∨ c.tcb.state ≠ .estab ∧ c.tcb.req.closeRequested = true) ∨
      (hRxSeq c.tcb.rcv packet.segment).verdict = .acceptAndHandle ∧
        (c.rx packet).st.tcb.rcv =
          appendRcvData (hRxSeq c.tcb.rcv packet.segment).rcv packet.segment := by
  obtain ⟨-, hrst, hsyn, hdata, -⟩ := hRxSeq_keeps c.tcb.rcv packet.segment
  simp only [STATES.TakesFin, List.mem_cons, List.not_mem_nil, or_false] at hs
  rw [← appendRcvData_congr _ hdata, ← hrst, ← hsyn]
  rcases hs with hs | hs | hs
  · simp only [Conn.rx, hs, Outcome.ok_st, Conn.rxEstab]
    split
    · next hacc =>
      split_ifs with h₁ h₂
      · exact Or.inl ⟨by simp, fun _ => Or.inl h₁⟩
      · exact Or.inl ⟨by simp, fun _ => Or.inr (Or.inl h₂)⟩
      · exact Or.inr ⟨hacc, estabAccept_rcv _ _⟩
    · next hacc => exact Or.inl ⟨by simp, fun h => absurd (hacc.symm.trans h) (by decide)⟩
    · next hacc => exact Or.inl ⟨by simp, fun h => absurd (hacc.symm.trans h) (by decide)⟩
  · simp only [Conn.rx, hs, Outcome.ok_st, Conn.rxFinWait1]
    split
    · next hacc =>
      split_ifs with h₁ h₂ h₃
      · exact Or.inl ⟨by simp, fun _ => Or.inl h₁⟩
      · exact Or.inl ⟨by simp, fun _ => Or.inr (Or.inr ⟨by decide, h₂.1⟩)⟩
      · exact Or.inl ⟨by simp, fun _ => Or.inr (Or.inl h₃)⟩
      · exact Or.inr ⟨hacc, finWait1Accept_rcv _ _⟩
    · next hacc => exact Or.inl ⟨by simp, fun h => absurd (hacc.symm.trans h) (by decide)⟩
    · next hacc => exact Or.inl ⟨by simp, fun h => absurd (hacc.symm.trans h) (by decide)⟩
  · simp only [Conn.rx, hs, Outcome.ok_st, Conn.rxFinWait2]
    split
    · next hacc =>
      split_ifs with h₁ h₂ h₃
      · exact Or.inl ⟨by simp, fun _ => Or.inl h₁⟩
      · exact Or.inl ⟨by simp, fun _ => Or.inr (Or.inr ⟨by decide, h₂.1⟩)⟩
      · exact Or.inl ⟨by simp, fun _ => Or.inr (Or.inl h₃)⟩
      · exact Or.inr ⟨hacc, finWait2Accept_rcv _ _⟩
    · next hacc => exact Or.inl ⟨by simp, fun h => absurd (hacc.symm.trans h) (by decide)⟩
    · next hacc => exact Or.inl ⟨by simp, fun h => absurd (hacc.symm.trans h) (by decide)⟩

theorem payloadIn_congr {r' r'' : RcvVars} (h : r'.rcvNxt = r''.rcvNxt) :
    payloadIn r r' p = payloadIn r r'' p := by
  unfold payloadIn
  rw [h]

/-- Nothing was received. -/
theorem Stored.of_same {r' : RcvVars} (hnxt : r'.rcvNxt = r.rcvNxt)
    (hqueue : r'.rcvBuf.queue = r.rcvBuf.queue) : Stored r r' p := by
  have hnone : payloadIn r r' p = [] := by
    have hzero : seqDiff r.rcvNxt r.rcvNxt = 0 := by simp [seqDiff]
    unfold payloadIn
    rw [hnxt, hzero, List.map_eq_nil_iff, List.filter_eq_nil_iff]
    intro e _
    have : 0 ≤ seqDiff (p.seq + e.2) r.rcvNxt := Int.emod_nonneg _ (by decide)
    simpa using this
  have hfin : 0 ≤ p.fin.toInt := by cases p.fin <;> decide
  refine ⟨by rw [hqueue, hnone, List.append_nil], ?_⟩
  rw [hnxt, hnone]
  simpa [seqDiff] using hfin

theorem appendRcvData_of_nil (r : RcvVars) (h : p.data = []) :
    appendRcvData r p = computeRcvWnd r := by
  simp only [appendRcvData, h]
  split <;> rfl

/-- A segment that is not in order. -/
theorem rx_stored_of_not_arrives (packet : TCPParser) (hs : c.tcb.state.TakesFin)
    (h : c.tcb.rcv.Fits) (hout : ¬ Arrives c.tcb.rcv packet.segment) :
    (c.rx packet).st.tcb.rcv.Fits ∧
      Stored c.tcb.rcv (c.rx packet).st.tcb.rcv packet.segment := by
  obtain ⟨hsame, hempty⟩ := hRxSeq_of_not_arrives packet.parsed hout
  rcases rx_rcv_cases packet hs with ⟨hrcv, -⟩ | ⟨hacc, hrcv⟩
  · rw [hrcv, hsame]
    exact ⟨h, .of_same rfl rfl⟩
  · rw [hrcv, hsame, appendRcvData_of_nil _ (hempty hacc)]
    exact ⟨h.compute, .of_same rfl rfl⟩

/-- A segment in order, when the window lets nothing in. -/
theorem rx_stored_of_closed (packet : TCPParser) (hs : c.tcb.state.TakesFin) (h : c.tcb.rcv.Fits)
    (hin : Arrives c.tcb.rcv packet.segment) (hlimit : rcvLimit c.tcb.rcv = 0) :
    (c.rx packet).st.tcb.rcv.Fits ∧
      Stored c.tcb.rcv (c.rx packet).st.tcb.rcv packet.segment := by
  obtain ⟨-, -, hrcv₁⟩ := hin.hRxSeq_eq
  have hzero : acceptedLen c.tcb.rcv packet.segment = 0 := by
    have hnonneg : 0 ≤ seqDiff (lastSeq packet.segment + 1) c.tcb.rcv.rcvNxt :=
      Int.emod_nonneg _ (by decide)
    rw [acceptedLen, ← rcvLimit, hlimit]
    omega
  have hnxt : (c.tcb.rcv.rcvNxt + 0) % 4294967296 = c.tcb.rcv.rcvNxt := by
    have := h.nxt_range
    omega
  rw [hzero, hnxt] at hrcv₁
  have hfits₁ := h.hRxSeq packet.segment
  rw [hrcv₁] at hfits₁
  rcases rx_rcv_cases packet hs with ⟨hrcv, -⟩ | ⟨-, hrcv⟩
  · rw [hrcv, hrcv₁]
    exact ⟨hfits₁, .of_same rfl rfl⟩
  · have hnone : ∀ start, pySlice packet.segment.data start 0 = [] := by
      intro start
      simp [pySlice, slice]
    rw [hrcv, hrcv₁]
    refine ⟨hfits₁.append (fun _ => ⟨le_rfl, ?_⟩) ?_, .of_same ?_ ?_⟩
    · simpa using h.adv_le
    · simp [hnone]
    · rw [← hrcv₁, ← hrcv, c.rx_rcvNxt packet hs, hrcv₁]
    · rw [appendRcvData_queue, hnone]
      simp

/-- The bytes let in. -/
theorem length_payloadIn (hin : InOrder r p) (hp : p.Parsed) (hsyn : p.syn = false)
    (hd : 0 ≤ p.dlen) :
    (payloadIn r (hRxSeq r p).rcv p).length = (newLen r p).toNat ∧
      acceptedLen r p ≤ (payloadIn r (hRxSeq r p).rcv p).length + p.fin.toInt := by
  obtain ⟨ho, hle, hlen⟩ := hin.bounds hp hsyn hd
  have hdata := hp.length_data
  have hfin : 0 ≤ p.fin.toInt ∧ p.fin.toInt ≤ 1 := by cases p.fin <;> decide
  have hlimit : 0 ≤ rcvLimit r := Int.emod_nonneg _ (by decide)
  have hpay : (payloadIn r (hRxSeq r p).rcv p).length = (newLen r p).toNat := by
    rw [payloadIn_hRxSeq hin hp hsyn hd]
    simp only [slice, List.length_drop, List.length_take, newLen]
    omega
  refine ⟨hpay, ?_⟩
  rw [hpay]
  simp only [newLen]
  omega

/-- **A segment that meets the condition** keeps the window within the buffer, and what `rcv_nxt`
goes over is stored. -/
theorem rx_stored (packet : TCPParser) (hs : c.tcb.state.TakesFin) (h : c.tcb.rcv.Fits)
    (hone : StoresOne c.tcb packet.segment) :
    (c.rx packet).st.tcb.rcv.Fits ∧
      Stored c.tcb.rcv (c.rx packet).st.tcb.rcv packet.segment := by
  by_cases harr : Arrives c.tcb.rcv packet.segment
  swap
  · exact rx_stored_of_not_arrives packet hs h harr
  by_cases hlimit : rcvLimit c.tcb.rcv = 0
  · exact rx_stored_of_closed packet hs h harr hlimit
  obtain ⟨hsyn, hd, hbytes⟩ := hone hs harr hlimit
  obtain ⟨hnormal, hacc, hrcv₁⟩ := harr.hRxSeq_eq
  have hin : InOrder c.tcb.rcv packet.segment := by
    refine ⟨hnormal, harr.2.2.1, harr.2.2.2, ?_⟩
    simpa [hsyn] using harr.2.1
  have hlimit_nonneg : 0 ≤ rcvLimit c.tcb.rcv := Int.emod_nonneg _ (by decide)
  obtain ⟨hpay, hcovers⟩ := length_payloadIn hin packet.parsed hsyn hd
  obtain ⟨hexact, hshort, -⟩ := copy_eq_payload_iff hin packet.parsed hsyn hd
  obtain ⟨hnonneg, hlt, hwidth⟩ := acceptedLen_range c.tcb.rcv packet.segment h.toWindow
  have hpayload := payloadIn_congr (r := c.tcb.rcv) (p := packet.segment) (c.rx_rcvNxt packet hs)
  have hnxt : seqDiff (c.rx packet).st.tcb.rcv.rcvNxt c.tcb.rcv.rcvNxt =
      acceptedLen c.tcb.rcv packet.segment := by
    rw [c.rx_rcvNxt packet hs, hrcv₁]
    have := h.le
    simp only [seqDiff, Int.emod_sub_emod, add_sub_cancel_left]
    exact Int.emod_eq_of_lt hnonneg (by omega)
  have hcov : seqDiff (c.rx packet).st.tcb.rcv.rcvNxt c.tcb.rcv.rcvNxt ≤
      (payloadIn c.tcb.rcv (c.rx packet).st.tcb.rcv packet.segment).length +
        packet.segment.fin.toInt := by
    rw [hnxt, hpayload]
    exact hcovers
  have hfits₁ := h.hRxSeq packet.segment
  rcases rx_rcv_cases packet hs with ⟨hrcv, hwhy⟩ | ⟨-, hrcv⟩
  · -- not appended: there was no new payload
    have hnone : newLen c.tcb.rcv packet.segment ≤ 0 := by
      rcases hbytes with hnone | ⟨-, hrst, hclose, -⟩
      · exact hnone
      · rcases hwhy hacc with hbad | hbad | ⟨hestab, hbad⟩
        · rw [hrst] at hbad
          cases hbad
        · rw [hsyn] at hbad
          cases hbad
        · rw [hclose.resolve_left hestab] at hbad
          cases hbad
    have hnil : payloadIn c.tcb.rcv (hRxSeq c.tcb.rcv packet.segment).rcv packet.segment = [] :=
      List.length_eq_zero_iff.1 (by rw [hpay]; omega)
    refine ⟨hrcv ▸ hfits₁, ⟨?_, hcov⟩⟩
    rw [hpayload, hnil, hrcv, hrcv₁, List.append_nil]
  · have hcopy : pySlice packet.segment.data (overlap c.tcb.rcv packet.segment)
          (acceptedLen c.tcb.rcv packet.segment) =
        payloadIn c.tcb.rcv (hRxSeq c.tcb.rcv packet.segment).rcv packet.segment := by
      rcases hbytes with hnone | ⟨-, -, -, hcopy⟩
      · have hnil : (payloadIn c.tcb.rcv (hRxSeq c.tcb.rcv packet.segment).rcv
            packet.segment).length = 0 := by
          rw [hpay]
          omega
        rw [List.length_eq_zero_iff.1 hnil]
        exact List.length_eq_zero_iff.1 (by omega)
      · exact hexact.2 hcopy
    have hle : newLen c.tcb.rcv packet.segment ≤ 1 := by
      rcases hbytes with hnone | ⟨hnone, -⟩ <;> omega
    have hroom : 1 ≤ c.tcb.rcv.rcvBuf.freeSpace := by
      have hadv := h.adv_le
      have hpos := h.pos
      have hwle := h.le
      unfold rcvLimit at hlimit
      omega
    rw [hrcv₁] at hrcv hfits₁
    refine ⟨?_, ⟨?_, hcov⟩⟩
    · rw [hrcv]
      refine hfits₁.append (fun _ => ⟨hnonneg, ?_⟩) ?_
      · have hadv := h.adv_le
        simp only [hwidth]
        omega
      · simp only [hcopy, hpay]
        omega
    · rw [hrcv, appendRcvData_queue, ← hrcv, hpayload]
      simp only [hcopy]
      rw [List.take_of_length_le (by rw [hpay]; omega)]

end Segment

/-! ## The handshake -/

section Handshake

variable {c : Conn} {p : Segment}

theorem synSentData_fits (hw : c.tcb.rcv.Window) (h : c.tcb.rcv.Fresh)
    (hwide : seqDiff c.tcb.rcv.rcvAdv c.tcb.rcv.rcvNxt = 65535) :
    (c.synSentData p).tcb.rcv.Fits := by
  have hw' := Conn.synSentData_window c p hw h hwide
  have hfits := RcvVars.Fits.of_fresh hw h
  revert hw'
  unfold Conn.synSentData
  split
  · intro hw'
    have hroom :
      (c.tcb.rcv.rcvBuf.enqueue p.data).1.freeSpace + (c.tcb.rcv.rcvBuf.enqueue p.data).2 =
        65534 := by
      rw [RingBuffer.enqueue_eq, RingBuffer.freeSpace_eq, RingBuffer.ready_pushed]
      simp only [RingBuffer.pushed, RingBuffer.room, h.size_eq, h.ready_eq, DEFAULT_RECV_BUFF]
      omega
    have hwnd := h.wnd_eq
    have hle := hw'.le
    simp only [DEFAULT_RCV_WND] at hwnd
    refine ⟨hw', ?_, ?_, ?_⟩ <;> simp only [Conn.setRcv_tcb, TCPCB.setRcv_rcv, seqDiff] at *
    all_goals omega
  · exact fun _ => hfits

/-- What the SYN of the peer does to the receive side. -/
theorem rxSynSent_rcv (hs : c.tcb.state = .synSent) (h : c.tcb.rcv.Fresh) :
    (c.rxSynSent p).st.tcb.state = .synSent ∧ (c.rxSynSent p).st.tcb.rcv.Fresh ∨
      (c.rxSynSent p).st.tcb.state = .synRecv ∧ (c.rxSynSent p).st.tcb.rcv.Window ∧
        (c.rxSynSent p).st.tcb.rcv.Fresh ∨
      (c.rxSynSent p).st.tcb.state = .estab ∧ (c.rxSynSent p).st.tcb.rcv.Fits := by
  have hinit := initRcvSeq_window c.tcb.rcv p h
  have hfresh : (initRcvSeq c.tcb.rcv p).Fresh := ⟨h.size_eq, h.ready_eq, h.wnd_eq⟩
  refine c.rxSynSent_rule p (I := fun o => o.st.tcb.state = .synSent ∧ o.st.tcb.rcv.Fresh ∨
    o.st.tcb.state = .synRecv ∧ o.st.tcb.rcv.Window ∧ o.st.tcb.rcv.Fresh ∨
    o.st.tcb.state = .estab ∧ o.st.tcb.rcv.Fits) (Or.inl ?_) (Or.inl ⟨hs, h⟩) (Or.inl ?_) ?_ ?_
    (Or.inr (Or.inl ?_))
  · exact ⟨by simpa using hs, by simpa using h⟩
  · exact ⟨by simpa using hs, by simpa using h⟩
  · exact fun _ =>
      Or.inl ⟨by simpa [Conn.synSentAccept] using hs, by simpa [Conn.synSentAccept] using hfresh⟩
  · intro mss
    have hdata := synSentData_fits (p := p) (c := (c.synSentAccept p).setSnd
        { (c.synSentAccept p).tcb.snd with remoteMss := mss })
      (by simpa [Conn.synSentAccept] using hinit) (by simpa [Conn.synSentAccept] using hfresh)
      (by simpa [Conn.synSentAccept] using initRcvSeq_width c.tcb.rcv p h)
    refine Or.inr (Or.inr ⟨by simp, ?_⟩)
    simp only [Outcome.ok_st, Conn.synSentEstab]
    split <;> simpa using hdata
  · exact ⟨by simp [Conn.synSentSimultaneous], by simpa [Conn.synSentSimultaneous] using hinit,
      by simpa [Conn.synSentSimultaneous] using hfresh⟩

theorem rxSynRecv_rcv (hw : c.tcb.rcv.Window) (h : c.tcb.rcv.Fresh) :
    (c.rxSynRecv p).tcb.rcv.Window ∧ (c.rxSynRecv p).tcb.rcv.Fresh := by
  have hseq : (hRxSeq c.tcb.rcv (c.synRecvSegment p)).rcv.Fresh := by
    obtain ⟨-, -, -, -, hbuf, hwnd, -⟩ := hRxSeq_keeps c.tcb.rcv (c.synRecvSegment p)
    exact ⟨by rw [hbuf, h.size_eq], by rw [hbuf, h.ready_eq], by rw [hwnd, h.wnd_eq]⟩
  refine ⟨(c.rxSynRecv_moves p hw).1, ?_⟩
  unfold Conn.rxSynRecv
  split
  · split
    · simpa using h
    · simp only
      split_ifs <;> simpa using hseq
  · exact h

/-- The receive side up to the end of the handshake, and at the entry to `ESTAB`. -/
inductive Conn.Handshake (c : Conn) : Prop
  | synSent (state : c.tcb.state = .synSent) (fresh : c.tcb.rcv.Fresh)
  | synRecv (state : c.tcb.state = .synRecv) (window : c.tcb.rcv.Window) (fresh : c.tcb.rcv.Fresh)
  | opened (state : c.tcb.state ≠ .listen ∧ c.tcb.state ≠ .synSent ∧ c.tcb.state ≠ .synRecv)

/-- One event of the handshake: it goes on, or ends with a window that fits the buffer. -/
theorem handler_handshake (e : ConnEvent) {c : Conn} (h : c.Handshake) :
    (e.handler c).st.Handshake ∧
      (c.tcb.state ≠ .estab → (e.handler c).st.tcb.state = .estab →
        (e.handler c).st.tcb.rcv.Fits) := by
  cases h with
  | synSent hs hf =>
    have hstay : ∀ {c' : Conn}, c'.tcb.state = .synSent → c'.tcb.rcv.Fresh →
        c'.Handshake ∧ (c.tcb.state ≠ .estab → c'.tcb.state = .estab → c'.tcb.rcv.Fits) :=
      fun hs' hf' => ⟨.synSent hs' hf', fun _ hbad => absurd (hs'.symm.trans hbad) (by decide)⟩
    cases e with
    | tx =>
      exact hstay (by simp [ConnEvent.handler, Conn.tx, hs, Conn.txSynSent])
        (by simpa [ConnEvent.handler, Conn.tx, hs, Conn.txSynSent] using hf)
    | rtx =>
      exact hstay (by simp [ConnEvent.handler, Conn.rtx, Conn.prepareRtx, Conn.tx, hs,
        Conn.txSynSent])
        (by simpa [ConnEvent.handler, Conn.rtx, Conn.prepareRtx, Conn.tx, hs,
          Conn.txSynSent] using hf)
    | usr q => exact hstay ((q.apply_state c).trans hs) (q.apply_fresh hf)
    | rx packet =>
      have hrx : (ConnEvent.rx packet).handler c = c.rxSynSent packet.segment := by
        simp [ConnEvent.handler, Conn.rx, hs]
      rw [hrx]
      rcases rxSynSent_rcv (p := packet.segment) hs hf with ⟨hs', hf'⟩ | ⟨hs', hw',
        hf'⟩ | ⟨hs', hfits⟩
      · exact hstay hs' hf'
      · exact ⟨.synRecv hs' hw' hf', fun _ hbad => absurd (hs'.symm.trans hbad) (by decide)⟩
      · exact ⟨.opened (by rw [hs']; decide), fun _ _ => hfits⟩
  | synRecv hs hw hf =>
    have hstay : ∀ {c' : Conn}, c'.tcb.state = .synRecv → c'.tcb.rcv.Window → c'.tcb.rcv.Fresh →
        c'.Handshake ∧ (c.tcb.state ≠ .estab → c'.tcb.state = .estab → c'.tcb.rcv.Fits) :=
      fun hs' hw' hf' =>
        ⟨.synRecv hs' hw' hf', fun _ hbad => absurd (hs'.symm.trans hbad) (by decide)⟩
    cases e with
    | tx =>
      exact hstay (by simp [ConnEvent.handler, Conn.tx, hs, Conn.txSynRecv])
        (by simpa [ConnEvent.handler, Conn.tx, hs, Conn.txSynRecv] using hw)
        (by simpa [ConnEvent.handler, Conn.tx, hs, Conn.txSynRecv] using hf)
    | rtx =>
      exact hstay (by simp [ConnEvent.handler, Conn.rtx, Conn.prepareRtx, Conn.tx, hs,
        Conn.txSynRecv])
        (by simpa [ConnEvent.handler, Conn.rtx, Conn.prepareRtx, Conn.tx, hs,
          Conn.txSynRecv] using hw)
        (by simpa [ConnEvent.handler, Conn.rtx, Conn.prepareRtx, Conn.tx, hs,
          Conn.txSynRecv] using hf)
    | usr q => exact hstay ((q.apply_state c).trans hs) (q.apply_moves hw).1 (q.apply_fresh hf)
    | rx packet =>
      have hrx : ((ConnEvent.rx packet).handler c).st = c.rxSynRecv packet.segment := by
        simp [ConnEvent.handler, Conn.rx, hs]
      obtain ⟨hw', hf'⟩ := rxSynRecv_rcv (p := packet.segment) hw hf
      rw [hrx]
      have hstate := c.rxSynRecv_state packet.segment
      rw [hs] at hstate
      rcases hstate with hs' | hs'
      · exact hstay hs' hw' hf'
      · exact ⟨.opened (by rw [hs']; decide), fun _ _ => .of_fresh hw' hf'⟩
  | opened state =>
    have hnext := handler_next e c
    have hopened : ∀ s s' : STATES, s ≠ .listen ∧ s ≠ .synSent ∧ s ≠ .synRecv → s' ∈ s.successors →
        (s' ≠ .listen ∧ s' ≠ .synSent ∧ s' ≠ .synRecv) ∧ (s ≠ .estab → s' ≠ .estab) := by
      intro s s'
      cases s <;> cases s' <;> decide
    obtain ⟨hstate, hnot⟩ := hopened _ _ state hnext
    exact ⟨.opened hstate, fun hne hbad => absurd hbad (hnot hne)⟩

end Handshake

/-! ## Runs -/

/-- The condition on an event of a run: that of a segment which is handled. -/
def Outcome.StoresOne (o : Outcome) : ConnEvent → Prop
  | .rx packet => o.fault = none → Tcp.StoresOne o.st.tcb packet.segment
  | _ => True

instance (o : Outcome) : (e : ConnEvent) → Decidable (o.StoresOne e)
  | .rx _ => inferInstanceAs (Decidable (_ → _))
  | .tx | .rtx | .usr _ => .isTrue trivial

/-- An event moves `rcv_nxt` only over what it stores. -/
def StoresAcked (c c' : Conn) : ConnEvent → Prop
  | .rx packet => Stored c.tcb.rcv c'.tcb.rcv packet.segment
  | _ => c'.tcb.rcv.rcvNxt = c.tcb.rcv.rcvNxt

theorem UserRequest.apply_fits (q : UserRequest) {c : Conn} (h : c.tcb.rcv.Fits) :
    (q.apply c).tcb.rcv.Fits ∧ (q.apply c).tcb.rcv.rcvNxt = c.tcb.rcv.rcvNxt := by
  have hw := (q.apply_moves h.toWindow).1
  revert hw
  cases q with
  | tcpSend data =>
    simp only [UserRequest.apply, Conn.tcpSend]
    split <;> exact fun _ => ⟨h, rfl⟩
  | tcpRecv n =>
    simp only [UserRequest.apply, Conn.tcpRecv]
    split
    · exact fun _ => ⟨h, rfl⟩
    · intro hw
      have hfree : c.tcb.rcv.rcvBuf.freeSpace ≤ (c.tcb.rcv.rcvBuf.dequeue n).2.freeSpace := by
        rw [RingBuffer.freeSpace_eq, RingBuffer.freeSpace_eq, RingBuffer.ready_dequeue]
        simp only [RingBuffer.dequeue]
        omega
      have hle := h.adv_le
      refine ⟨⟨hw, ?_, h.wnd_nonneg, h.wnd_le⟩, rfl⟩
      simp only [Conn.setRcv_tcb, TCPCB.setRcv_rcv]
      omega
  | tcpClose => exact fun _ => ⟨h, rfl⟩
  | tcpShutdown => exact fun _ => ⟨h, rfl⟩
  | tick ns => exact fun _ => ⟨h, rfl⟩

theorem tx_fits {c : Conn} (h : c.tcb.rcv.Fits) : c.tx.st.tcb.rcv.Fits := by
  rcases c.tx_rcv with heq | heq <;> rw [heq]
  · exact h
  · exact h.compute

/-- **One event** after the handshake. -/
theorem handler_storesAcked (e : ConnEvent) {c : Conn} (h : c.tcb.rcv.Fits)
    (hopened : c.tcb.state ≠ .listen ∧ c.tcb.state ≠ .synSent ∧ c.tcb.state ≠ .synRecv)
    (hone : ∀ packet, e = .rx packet → StoresOne c.tcb packet.segment) :
    (e.handler c).st.tcb.rcv.Fits ∧ StoresAcked c (e.handler c).st e := by
  cases e with
  | tx => exact ⟨tx_fits h, c.tx_rcvNxt⟩
  | rtx =>
    have hprep : c.prepareRtx.tcb.rcv.Fits := h
    exact ⟨tx_fits hprep, c.prepareRtx.tx_rcvNxt⟩
  | usr q => exact q.apply_fits h
  | rx packet =>
    by_cases hs : c.tcb.state.TakesFin
    · exact rx_stored packet hs h (hone packet rfl)
    · have hsame : (c.rx packet).st.tcb.rcv = c.tcb.rcv := by
        obtain ⟨hl, hsent, hrecv⟩ := hopened
        cases hst : c.tcb.state with
        | listen => exact absurd hst hl
        | synSent => exact absurd hst hsent
        | synRecv => exact absurd hst hrecv
        | estab => exact absurd (by rw [hst]; decide) hs
        | finWait1 => exact absurd (by rw [hst]; decide) hs
        | finWait2 => exact absurd (by rw [hst]; decide) hs
        | closeWait => simp [Conn.rx, hst, Conn.rxCloseWait_rcv]
        | closing => simp [Conn.rx, hst, Conn.rxClosing_rcv]
        | lastAck => simp [Conn.rx, hst, Conn.rxLastAck_rcv]
        | timeWait => simp [Conn.rx, hst, Conn.rxTimeWait_rcv]
        | closed => simp [Conn.rx, hst]
      simp only [ConnEvent.handler, StoresAcked]
      rw [hsame]
      exact ⟨h, .of_same rfl rfl⟩

theorem StoresAcked.refl (c : Conn) (e : ConnEvent) : StoresAcked c c e := by
  cases e with
  | rx packet => exact .of_same rfl rfl
  | _ => rfl

/-- The receive side after the handshake. -/
structure Outcome.StoreInv (o : Outcome) : Prop where
  opened : o.st.tcb.state ≠ .listen ∧ o.st.tcb.state ≠ .synSent ∧ o.st.tcb.state ≠ .synRecv
  fits : o.st.tcb.rcv.Fits

theorem Outcome.StoreInv.step {o : Outcome} (h : o.StoreInv) {e : ConnEvent}
    (hone : o.StoresOne e) :
    (o.step e).StoreInv ∧ StoresAcked o.st (o.step e).st e := by
  have hstep : (o.step e).st.tcb.rcv.Fits ∧ StoresAcked o.st (o.step e).st e :=
    o.step_rule (R := fun c c' => c'.tcb.rcv.Fits ∧ StoresAcked c c' e) e ⟨h.fits, .refl _ _⟩
      fun hlive => handler_storesAcked e h.fits h.opened (by
        rintro packet rfl
        exact hone (hlive.resolve_right (by simp)))
  have hshake : (o.step e).st.tcb.state ≠ .listen ∧ (o.step e).st.tcb.state ≠ .synSent ∧
      (o.step e).st.tcb.state ≠ .synRecv := by
    have hnext := o.step_next e
    have hopened := h.opened
    revert hnext hopened
    cases o.st.tcb.state <;> cases (o.step e).st.tcb.state <;> decide
  exact ⟨⟨hshake, hstep.1⟩, hstep.2⟩

/-- The handshake ends with a window that fits the buffer. -/
theorem connected_storeInv (ref so : Nat) (socketId : SockId) (soLinger : Option (List UInt8))
    (iss : Int) (k : Core) (es : List ConnEvent) (e : ConnEvent)
    (hbefore :
    (run Outcome.step (.connected ref so socketId soLinger iss k) es).st.tcb.state ≠ .estab)
    (hestab :
    (run Outcome.step (.connected ref so socketId soLinger iss k) (es ++ [e])).st.tcb.state =
      .estab) :
    (run Outcome.step (.connected ref so socketId soLinger iss k) (es ++ [e])).StoreInv := by
  have hstart : (Outcome.connected ref so socketId soLinger iss k).st.Handshake := by
    rcases connected_rcvInv ref so socketId soLinger iss k with ⟨hs, hf⟩ | ⟨hs, -⟩
    · exact .synSent hs hf
    · exact absurd (by simp [Outcome.connected, Conn.activOpen]) hs
  have hshake : (run Outcome.step (.connected ref so socketId soLinger iss k) es).st.Handshake :=
    run_inv' (I := fun o : Outcome => o.st.Handshake)
      (fun o e h => o.step_rule (R := fun _ c' => c'.Handshake) e h
        fun _ => (handler_handshake e h).1) hstart es
  rw [run_append] at hestab ⊢
  generalize run Outcome.step (.connected ref so socketId soLinger iss k) es = o at *
  have hfits : o.st.tcb.state ≠ .estab → (o.step e).st.tcb.state = .estab →
      (o.step e).st.tcb.rcv.Fits :=
    o.step_rule (R := fun c c' => c.tcb.state ≠ .estab → c'.tcb.state = .estab → c'.tcb.rcv.Fits) e
      (fun hne heq => absurd heq hne) fun _ => (handler_handshake e hshake).2
  simp only [run_cons, run_nil] at hestab ⊢
  exact ⟨by rw [hestab]; decide, hfits hbefore hestab⟩

/-- **What is acknowledged is stored, one byte at a time.** From the end of the handshake on, in
every run in which each segment meets `StoresOne`: in every state reached `rcv_adv` is at most the
free space and one ahead of `rcv_nxt`, and `rcv_wnd` is in range; and each event moves `rcv_nxt`
only over bytes it puts in the receive buffer, and a FIN. -/
theorem acked_bytes_stored (ref so : Nat) (socketId : SockId) (soLinger : Option (List UInt8))
    (iss : Int) (k : Core) (es₀ : List ConnEvent) (e₀ : ConnEvent)
    (hbefore :
    (run Outcome.step (.connected ref so socketId soLinger iss k) es₀).st.tcb.state ≠ .estab)
    (hestab : (run Outcome.step (.connected ref so socketId soLinger iss k)
      (es₀ ++ [e₀])).st.tcb.state = .estab) (es : List ConnEvent)
    (hone : Guarded Outcome.step Outcome.StoresOne
      (run Outcome.step (.connected ref so socketId soLinger iss k) (es₀ ++ [e₀])) es)
    (pre : List ConnEvent) (hpre : pre <+: es) :
    let o := run Outcome.step (.connected ref so socketId soLinger iss k) (es₀ ++ [e₀] ++ pre)
    ((o.st.tcb.rcv.rcvAdv - o.st.tcb.rcv.rcvNxt) % 4294967296 ≤ o.st.tcb.rcv.rcvBuf.freeSpace + 1 ∧
        0 ≤ o.st.tcb.rcv.rcvWnd ∧ o.st.tcb.rcv.rcvWnd ≤ 65535) ∧
      ∀ e, pre ++ [e] <+: es → StoresAcked o.st (o.step e).st e := by
  intro o
  have hstart := connected_storeInv ref so socketId soLinger iss k es₀ e₀ hbefore hestab
  have hinv : o.StoreInv := by
    change (run Outcome.step _ (es₀ ++ [e₀] ++ pre)).StoreInv
    rw [run_append]
    exact run_inv (fun o e h hok => (h.step hok).1) hstart (hone.of_prefix hpre)
  refine ⟨⟨hinv.fits.adv_le, hinv.fits.wnd_nonneg, hinv.fits.wnd_le⟩, fun e he => ?_⟩
  have hlast := (guarded_append _ _ _ pre [e]).1 (hone.of_prefix he)
  rw [← run_append] at hlast
  exact (hinv.step hlast.2.1).2

/-- The SYN-ACK of the peer and one byte of data. -/
theorem acked_bytes_stored_one :
    let start := Outcome.connected 0 0 ⟨1, 1234, 2, 80⟩ none 1000 .idle
    let e₀ : ConnEvent := .rx (.sample 100 1001 0x12 4096 [])
    let e : ConnEvent := .rx (.sample 101 1001 0x18 4096 [7])
    start.st.tcb.state ≠ .estab ∧ Guarded Outcome.step Outcome.StoresOne (start.step e₀) [e] ∧
      StoresAcked (start.step e₀).st ((start.step e₀).step e).st e := by
  refine ⟨by decide +kernel, by decide +kernel, ?_⟩
  exact (acked_bytes_stored 0 0 ⟨1, 1234, 2, 80⟩ none 1000 .idle []
    (.rx (.sample 100 1001 0x12 4096 []))
    (by decide +kernel) (by decide +kernel) [.rx (.sample 101 1001 0x18 4096 [7])]
    (by decide +kernel) [] List.nil_prefix).2 _ (List.prefix_refl _)

/-- Two bytes in order after the handshake: the window is computed before they are stored, and is
wider than the buffer has room for. -/
theorem two_bytes_widen_window :
    let o := run Outcome.step (.connected 0 0 ⟨1, 1234, 2, 80⟩ none 1000 .idle)
      [.rx (.sample 100 1001 0x12 4096 []), .rx (.sample 101 1001 0x18 4096 [7, 8])]
    o.fault = none ∧ o.st.tcb.state = .estab ∧ o.st.tcb.rcv.rcvBuf.freeSpace = 65532 ∧
      ¬ (o.st.tcb.rcv.rcvAdv - o.st.tcb.rcv.rcvNxt) % 4294967296 ≤
        o.st.tcb.rcv.rcvBuf.freeSpace + 1 := by
  decide +kernel

end Tipy.Tcp
