import Tipy.Tcp.Transitions

/-!
# The receive window

`rcv_nxt` is moved by the sequence check and `rcv_adv` by `_compute_rcv_wnd`, each of which takes
the other as it finds it. `Window` is the invariant that keeps the two apart by 1 to 65535, and the
two relations say what a handler does to it: `Grows` keeps `rcv_nxt` and may move `rcv_adv` on,
`Moves` also lets `rcv_nxt` advance inside the window. A handler makes one sequence check and then
only `Grows`.
-/

namespace Tipy.Tcp

open Tipy.Buffer Tipy.Lib

/-! ## The invariant and the two moves -/

/-- The receive window is between 1 and 65535 sequence numbers wide. -/
structure RcvVars.Window (r : RcvVars) : Prop where
  size_eq : r.rcvBuf.size = DEFAULT_RECV_BUFF
  nxt_range : 0 ≤ r.rcvNxt ∧ r.rcvNxt < 4294967296
  adv_range : 0 ≤ r.rcvAdv ∧ r.rcvAdv < 4294967296
  pos : 1 ≤ seqDiff r.rcvAdv r.rcvNxt
  le : seqDiff r.rcvAdv r.rcvNxt ≤ 65535

/-- The receive side before the peer's SYN: the buffer is empty and its whole length is offered. -/
structure RcvVars.Fresh (r : RcvVars) : Prop where
  size_eq : r.rcvBuf.size = DEFAULT_RECV_BUFF
  ready_eq : r.rcvBuf.ready = 0
  wnd_eq : r.rcvWnd = DEFAULT_RCV_WND

/-- `rcv_nxt` stays and `rcv_adv` is not moved back. -/
def RcvVars.Grows (r r' : RcvVars) : Prop :=
  r.Window → r'.Window ∧ r'.rcvNxt = r.rcvNxt ∧
    seqDiff r.rcvAdv r.rcvNxt ≤ seqDiff r'.rcvAdv r'.rcvNxt

/-- `rcv_nxt` advances by less than the width of the window, and `rcv_adv` is not moved back. -/
def RcvVars.Moves (r r' : RcvVars) : Prop :=
  r'.Window ∧ ∃ n : Int, 0 ≤ n ∧ n ≤ seqDiff r.rcvAdv r.rcvNxt - 1 ∧
    r'.rcvNxt = (r.rcvNxt + n) % 4294967296 ∧
    seqDiff r.rcvAdv r.rcvNxt - n ≤ seqDiff r'.rcvAdv r'.rcvNxt

section Moves

variable {r r' r'' : RcvVars}

theorem RcvVars.Grows.refl (r : RcvVars) : r.Grows r := fun h => ⟨h, rfl, le_rfl⟩

theorem RcvVars.Grows.trans (h : r.Grows r') (h' : r'.Grows r'') : r.Grows r'' := by
  intro hw
  obtain ⟨hw', hnxt, hle⟩ := h hw
  obtain ⟨hw'', hnxt', hle'⟩ := h' hw'
  exact ⟨hw'', hnxt'.trans hnxt, hle.trans hle'⟩

theorem RcvVars.Grows.moves (h : r.Grows r') (hw : r.Window) : r.Moves r' := by
  obtain ⟨hw', hnxt, hle⟩ := h hw
  have := hw.pos
  have := hw.nxt_range
  exact ⟨hw', 0, le_rfl, by omega, by omega, by omega⟩

theorem RcvVars.Moves.grows (h : r.Moves r') (h' : r'.Grows r'') : r.Moves r'' := by
  obtain ⟨hw', n, hn, hlt, hnxt, hle⟩ := h
  obtain ⟨hw'', hnxt', hle'⟩ := h' hw'
  exact ⟨hw'', n, hn, hlt, hnxt'.trans hnxt, hle.trans hle'⟩

/-- What a move means in sequence space. -/
theorem RcvVars.Moves.bounds (h : r.Moves r') (hw : r.Window) :
    seqLeq r.rcvNxt r'.rcvNxt ∧ seqLeq r.rcvAdv r'.rcvAdv ∧
      seqDiff r'.rcvNxt r.rcvNxt ≤ (r.rcvAdv - r.rcvNxt - 1) % 4294967296 := by
  obtain ⟨hw', n, hn, hlt, hnxt, hle⟩ := h
  obtain ⟨-, hn₁, ha₁, hp₁, hl₁⟩ := hw
  obtain ⟨-, hn₂, ha₂, hp₂, hl₂⟩ := hw'
  unfold seqLeq seqLt
  unfold seqDiff at *
  omega

end Moves

/-! ## The helpers -/

section Helpers

variable (r : RcvVars) (p : Segment)

theorem RingBuffer.size_enqueue (b : RingBuffer) (data : List UInt8) :
    (b.enqueue data).1.size = b.size := by
  rw [b.enqueue_eq]
  rfl

theorem freeSpace_le (h : r.Window) : r.rcvBuf.freeSpace ≤ 65534 := by
  rw [RingBuffer.freeSpace_eq, h.size_eq]
  simp [DEFAULT_RECV_BUFF]

/-- The window is recomputed without moving `rcv_nxt`. -/
theorem computeRcvWnd_grows : r.Grows (computeRcvWnd r) := by
  intro h
  have hfree := freeSpace_le r h
  obtain ⟨hs, hn, ha, hp, hl⟩ := h
  have key : ∀ adv, adv = (computeRcvWnd r).rcvAdv → 0 ≤ adv ∧ adv < 4294967296 ∧
      seqDiff r.rcvAdv r.rcvNxt ≤ seqDiff adv r.rcvNxt ∧ seqDiff adv r.rcvNxt ≤ 65535 := by
    intro adv hadv
    simp only [computeRcvWnd] at hadv
    split at hadv
    · next hgt =>
      unfold seqGt at hgt
      unfold seqDiff at *
      omega
    · rw [hadv]
      exact ⟨ha.1, ha.2, le_rfl, hl⟩
  obtain ⟨h₁, h₂, h₃, h₄⟩ := key _ rfl
  exact ⟨⟨hs, hn, ⟨h₁, h₂⟩, hp.trans h₃, h₄⟩, rfl, h₃⟩

/-- The data is stored and the window recomputed: the sequence check has moved `rcv_nxt` before. -/
theorem appendRcvData_grows : r.Grows (appendRcvData r p) := by
  refine (computeRcvWnd_grows r).trans ?_
  unfold appendRcvData
  simp only
  split
  · exact .refl _
  · split
    · exact .refl _
    · intro h
      exact ⟨⟨(RingBuffer.size_enqueue _ _).trans h.size_eq, h.nxt_range, h.adv_range, h.pos, h.le⟩,
        rfl, le_rfl⟩

/-- What the sequence check moves `rcv_nxt` by, and what is left of the window. -/
theorem acceptedLen_range (h : r.Window) :
    0 ≤ acceptedLen r p ∧ acceptedLen r p ≤ seqDiff r.rcvAdv r.rcvNxt - 1 ∧
      seqDiff r.rcvAdv ((r.rcvNxt + acceptedLen r p) % 4294967296) =
        seqDiff r.rcvAdv r.rcvNxt - acceptedLen r p := by
  obtain ⟨-, hn, ha, hp, hl⟩ := h
  have hnonneg : 0 ≤ acceptedLen r p := by
    unfold acceptedLen seqDiff
    omega
  have hlt : acceptedLen r p ≤ seqDiff r.rcvAdv r.rcvNxt - 1 := by
    unfold acceptedLen
    omega
  refine ⟨hnonneg, hlt, ?_⟩
  unfold seqDiff at *
  omega

/-- The sequence check never lets `rcv_nxt` reach `rcv_adv`. -/
theorem hRxSeqNormal_moves (h : r.Window) : r.Moves (hRxSeqNormal r p).rcv := by
  unfold hRxSeqNormal
  split
  · obtain ⟨hnonneg, hlt, hwidth⟩ := acceptedLen_range r p h
    obtain ⟨hs, hn, ha, hp, hl⟩ := h
    refine ⟨⟨hs, by simp only; omega, ha, ?_, ?_⟩, acceptedLen r p, hnonneg, hlt, rfl, ?_⟩ <;>
      simp only [hwidth] <;> omega
  · have hrefl := (RcvVars.Grows.refl r).moves h
    split <;> exact hrefl

/-- The sequence check as a whole: what is not accepted moves nothing. -/
theorem hRxSeq_moves (h : r.Window) : r.Moves (hRxSeq r p).rcv := by
  unfold hRxSeq
  split_ifs
  · exact (RcvVars.Grows.refl r).moves h
  · exact (RcvVars.Grows.refl r).moves h
  · exact (RcvVars.Grows.refl r).moves h
  · exact hRxSeqNormal_moves r p h

/-- The SYN of the peer opens the window. -/
theorem initRcvSeq_window (h : r.Fresh) : (initRcvSeq r p).Window := by
  have hwnd := h.wnd_eq
  refine ⟨h.size_eq, ?_, ?_, ?_, ?_⟩ <;>
    simp only [initRcvSeq, hwnd, seqDiff, DEFAULT_RCV_WND] <;> omega

theorem initRcvSeq_width (h : r.Fresh) :
    seqDiff (initRcvSeq r p).rcvAdv (initRcvSeq r p).rcvNxt = 65535 := by
  have hwnd := h.wnd_eq
  simp only [initRcvSeq, hwnd, seqDiff, DEFAULT_RCV_WND]
  omega

end Helpers

/-! ## The handlers -/

namespace Conn

variable (c : Conn) (p : Segment)

/-- A segment moves the window by what was accepted of it. -/
theorem rxEstab_moves (h : c.tcb.rcv.Window) : c.tcb.rcv.Moves (c.rxEstab p).tcb.rcv := by
  refine (hRxSeq_moves _ p h).grows ?_
  unfold rxEstab
  simp only
  split
  · split
    · simpa using RcvVars.Grows.refl _
    · split
      · simpa using RcvVars.Grows.refl _
      · unfold estabAccept
        simp only
        split <;> split <;> simpa using appendRcvData_grows _ _
  · simpa using RcvVars.Grows.refl _
  · simpa using RcvVars.Grows.refl _

theorem finWait1Ack_grows : c.tcb.rcv.Grows (c.finWait1Ack p).tcb.rcv := by
  rw [finWait1Ack_rcv]
  split
  · exact computeRcvWnd_grows _
  · exact .refl _

theorem finWait1Accept_grows : c.tcb.rcv.Grows (c.finWait1Accept p).tcb.rcv := by
  have key := (c.finWait1Ack_grows p).trans (appendRcvData_grows _ p)
  rw [finWait1Ack_rcv] at key
  unfold finWait1Accept
  simp only
  split <;> split <;> simpa [finWait1Ack_rcv] using key

theorem rxFinWait1_moves (h : c.tcb.rcv.Window) : c.tcb.rcv.Moves (c.rxFinWait1 p).tcb.rcv := by
  refine (hRxSeq_moves _ p h).grows ?_
  unfold rxFinWait1
  simp only
  split
  · split
    · simpa using RcvVars.Grows.refl _
    · split
      · simpa using RcvVars.Grows.refl _
      · split
        · simpa using RcvVars.Grows.refl _
        · exact finWait1Accept_grows (c.setRcv (hRxSeq c.tcb.rcv p).rcv) _
  · simpa using RcvVars.Grows.refl _
  · simpa using RcvVars.Grows.refl _

theorem finWait2Accept_grows : c.tcb.rcv.Grows (c.finWait2Accept p).tcb.rcv := by
  have key := (computeRcvWnd_grows c.tcb.rcv).trans (appendRcvData_grows _ p)
  unfold finWait2Accept
  simp only
  split <;> split <;> simpa using key

theorem rxFinWait2_moves (h : c.tcb.rcv.Window) : c.tcb.rcv.Moves (c.rxFinWait2 p).tcb.rcv := by
  refine (hRxSeq_moves _ p h).grows ?_
  unfold rxFinWait2
  simp only
  split
  · split
    · simpa using RcvVars.Grows.refl _
    · split
      · simpa using RcvVars.Grows.refl _
      · split
        · simpa using RcvVars.Grows.refl _
        · exact finWait2Accept_grows (c.setRcv (hRxSeq c.tcb.rcv p).rcv) _
  · simpa using RcvVars.Grows.refl _
  · simpa using RcvVars.Grows.refl _

/-- In the closing states a segment leaves the receive side alone. -/
theorem rxClosing_rcv : (c.rxClosing p).tcb.rcv = c.tcb.rcv := by
  unfold rxClosing
  split_ifs <;> simp

theorem rxCloseWait_rcv : (c.rxCloseWait p).tcb.rcv = c.tcb.rcv := by
  unfold rxCloseWait
  split_ifs <;> simp

theorem rxLastAck_rcv : (c.rxLastAck p).tcb.rcv = c.tcb.rcv := by
  unfold rxLastAck
  split_ifs <;> simp

theorem rxTimeWait_rcv : (c.rxTimeWait p).tcb.rcv = c.tcb.rcv := by
  unfold rxTimeWait
  split <;> simp

theorem rxSynRecv_moves (h : c.tcb.rcv.Window) : c.tcb.rcv.Moves (c.rxSynRecv p).tcb.rcv := by
  have hrefl := (RcvVars.Grows.refl c.tcb.rcv).moves h
  have hseq := hRxSeq_moves c.tcb.rcv (c.synRecvSegment p) h
  unfold rxSynRecv
  split
  · split
    · simpa using hrefl
    · simp only
      split_ifs <;> simpa using hseq
  · exact hrefl

/-- A send handler recomputes the window or leaves it alone. -/
theorem tx_rcv : c.tx.st.tcb.rcv = c.tcb.rcv ∨ c.tx.st.tcb.rcv = computeRcvWnd c.tcb.rcv := by
  refine tx_inv (I := fun c' => c'.tcb.rcv = c.tcb.rcv ∨ c'.tcb.rcv = computeRcvWnd c.tcb.rcv)
    (Or.inl rfl) ?_ ?_ ?_ ?_ ?_ ?_ ?_ ?_
  · exact Or.inl (by simp [txSynSent])
  · exact Or.inl (by simp [txSynRecv])
  · rintro c₁ (rfl | rfl)
    · exact Or.inl rfl
    · exact Or.inr rfl
  · exact fun c' h => by simpa using h
  · exact fun c' next h => by simpa using h
  · exact fun c' h => by simpa using h
  · exact fun c' h => by simpa using h
  · exact fun c' data next shutReq closeReq h => by simpa using h

theorem tx_rcvNxt : c.tx.st.tcb.rcv.rcvNxt = c.tcb.rcv.rcvNxt := by
  rcases c.tx_rcv with h | h
  · rw [h]
  · rw [h]
    rfl

/-- A send handler may offer more. -/
theorem tx_grows : c.tcb.rcv.Grows c.tx.st.tcb.rcv := by
  rcases c.tx_rcv with h | h
  · rw [h]
    exact .refl _
  · rw [h]
    exact computeRcvWnd_grows _

theorem synSentData_window (hw : c.tcb.rcv.Window) (h : c.tcb.rcv.Fresh)
    (hwide : seqDiff c.tcb.rcv.rcvAdv c.tcb.rcv.rcvNxt = 65535) :
    (c.synSentData p).tcb.rcv.Window := by
  unfold synSentData
  split
  · have henq : ((c.tcb.rcv.rcvBuf.enqueue p.data).2 : Int) ≤ 65534 := by
      rw [RingBuffer.enqueue_eq]
      simp only [RingBuffer.room, h.size_eq, DEFAULT_RECV_BUFF]
      omega
    obtain ⟨hs, hn, ha, hp, hl⟩ := hw
    refine ⟨?_, ?_, ?_, ?_, ?_⟩ <;>
      simp only [setRcv_tcb, TCPCB.setRcv_rcv, RingBuffer.size_enqueue, seqDiff] at *
    · exact hs
    all_goals omega
  · exact hw

theorem synSentEstab_window (hw : c.tcb.rcv.Window) (h : c.tcb.rcv.Fresh)
    (hwide : seqDiff c.tcb.rcv.rcvAdv c.tcb.rcv.rcvNxt = 65535) :
    (c.synSentEstab p).tcb.rcv.Window := by
  unfold synSentEstab
  simp only
  split <;> simpa using synSentData_window c p hw h hwide

/-- The handshake opens the window, and everything before it leaves the receive side fresh. -/
theorem rxSynSent_inv (hs : c.tcb.state = .synSent) (h : c.tcb.rcv.Fresh) :
    (c.rxSynSent p).st.tcb.state = .synSent ∧ (c.rxSynSent p).st.tcb.rcv.Fresh ∨
      (c.rxSynSent p).st.tcb.state ∈ [.synRecv, .estab] ∧ (c.rxSynSent p).st.tcb.rcv.Window := by
  have hinit := initRcvSeq_window c.tcb.rcv p h
  have hfresh : (initRcvSeq c.tcb.rcv p).Fresh := ⟨h.size_eq, h.ready_eq, h.wnd_eq⟩
  refine rxSynSent_rule c p (I := fun o =>
    o.st.tcb.state = .synSent ∧ o.st.tcb.rcv.Fresh ∨ o.st.tcb.state ∈ [.synRecv, .estab] ∧
      o.st.tcb.rcv.Window) (Or.inl ?_) (Or.inl ⟨hs, h⟩) (Or.inl ?_) ?_ ?_ (Or.inr ?_)
  · exact ⟨by simpa using hs, by simpa using h⟩
  · exact ⟨by simpa using hs, by simpa using h⟩
  · exact fun _ => Or.inl ⟨by simpa [synSentAccept] using hs, by simpa [synSentAccept] using hfresh⟩
  · refine fun _ => Or.inr ⟨by simp, ?_⟩
    exact synSentEstab_window _ p (by simpa [synSentAccept] using hinit)
      (by simpa [synSentAccept] using hfresh)
      (by simpa [synSentAccept] using initRcvSeq_width c.tcb.rcv p h)
  · exact ⟨by simp [synSentSimultaneous], by simpa [synSentSimultaneous] using hinit⟩

end Conn

/-! ## Runs -/

/-- The receive side of a connection that has sent its SYN: fresh before the SYN of the peer, and
with an open window after it. -/
def Conn.RcvInv (c : Conn) : Prop :=
  c.tcb.state = .synSent ∧ c.tcb.rcv.Fresh ∨
    c.tcb.state ≠ .synSent ∧ c.tcb.state ≠ .listen ∧ c.tcb.rcv.Window

theorem UserRequest.apply_moves (q : UserRequest) {c : Conn} (h : c.tcb.rcv.Window) :
    c.tcb.rcv.Moves (q.apply c).tcb.rcv := by
  have hrefl := (RcvVars.Grows.refl c.tcb.rcv).moves h
  cases q with
  | tcpSend data =>
    simp only [UserRequest.apply, Conn.tcpSend]
    split <;> simpa using hrefl
  | tcpRecv n =>
    simp only [UserRequest.apply, Conn.tcpRecv]
    split
    · exact hrefl
    · refine RcvVars.Grows.moves (fun h => ?_) h
      exact ⟨⟨h.size_eq, h.nxt_range, h.adv_range, h.pos, h.le⟩, rfl, le_rfl⟩
  | tcpClose => simpa [UserRequest.apply, Conn.tcpClose] using hrefl
  | tcpShutdown => simpa [UserRequest.apply, Conn.tcpShutdown] using hrefl
  | tick ns => exact hrefl

theorem UserRequest.apply_fresh (q : UserRequest) {c : Conn} (h : c.tcb.rcv.Fresh) :
    (q.apply c).tcb.rcv.Fresh := by
  cases q with
  | tcpSend data =>
    simp only [UserRequest.apply, Conn.tcpSend]
    split <;> simpa using h
  | tcpRecv n =>
    simp only [UserRequest.apply, Conn.tcpRecv]
    split
    · exact h
    · refine ⟨h.size_eq, ?_, h.wnd_eq⟩
      simp [RingBuffer.ready_dequeue, h.ready_eq]
  | tcpClose => simpa [UserRequest.apply, Conn.tcpClose] using h
  | tcpShutdown => simpa [UserRequest.apply, Conn.tcpShutdown] using h
  | tick ns => exact h

/-- **One event.** After the handshake an event moves the window as it may. -/
theorem handler_moves (e : ConnEvent) {c : Conn} (hs : c.tcb.state ≠ .synSent)
    (hl : c.tcb.state ≠ .listen) (h : c.tcb.rcv.Window) :
    c.tcb.rcv.Moves (e.handler c).st.tcb.rcv := by
  have hrefl := (RcvVars.Grows.refl c.tcb.rcv).moves h
  cases e with
  | tx => exact c.tx_grows.moves h
  | rtx => exact c.prepareRtx.tx_grows.moves h
  | usr q => exact q.apply_moves h
  | rx packet =>
    simp only [ConnEvent.handler]
    cases hst : c.tcb.state with
    | listen => exact absurd hst hl
    | synSent => exact absurd hst hs
    | synRecv => simpa [Conn.rx, hst] using c.rxSynRecv_moves packet.segment h
    | estab => simpa [Conn.rx, hst] using c.rxEstab_moves packet.segment h
    | finWait1 => simpa [Conn.rx, hst] using c.rxFinWait1_moves packet.segment h
    | finWait2 => simpa [Conn.rx, hst] using c.rxFinWait2_moves packet.segment h
    | closeWait => simpa [Conn.rx, hst, Conn.rxCloseWait_rcv] using hrefl
    | closing => simpa [Conn.rx, hst, Conn.rxClosing_rcv] using hrefl
    | lastAck => simpa [Conn.rx, hst, Conn.rxLastAck_rcv] using hrefl
    | timeWait => simpa [Conn.rx, hst, Conn.rxTimeWait_rcv] using hrefl
    | closed => simpa [Conn.rx, hst] using hrefl

/-- In `SYN_SENT` only a SYN of the peer touches the receive side. -/
theorem handler_synSent (e : ConnEvent) {c : Conn} (hs : c.tcb.state = .synSent)
    (h : c.tcb.rcv.Fresh) : (e.handler c).st.RcvInv := by
  cases e with
  | tx =>
    exact Or.inl ⟨by simp [ConnEvent.handler, Conn.tx, hs, Conn.txSynSent],
      by simpa [ConnEvent.handler, Conn.tx, hs, Conn.txSynSent] using h⟩
  | rtx =>
    exact Or.inl ⟨by simp [ConnEvent.handler, Conn.rtx, Conn.prepareRtx, Conn.tx, hs,
      Conn.txSynSent],
      by simpa [ConnEvent.handler, Conn.rtx, Conn.prepareRtx, Conn.tx, hs, Conn.txSynSent] using h⟩
  | usr q => exact Or.inl ⟨(q.apply_state c).trans hs, q.apply_fresh h⟩
  | rx packet =>
    have hrx : (ConnEvent.rx packet).handler c = c.rxSynSent packet.segment := by
      simp [ConnEvent.handler, Conn.rx, hs]
    rw [hrx]
    rcases c.rxSynSent_inv packet.segment hs h with hstay | ⟨hnew, hw⟩
    · exact Or.inl hstay
    · refine Or.inr ⟨?_, ?_, hw⟩ <;>
        · rcases List.mem_pair.1 hnew with h' | h' <;> rw [h'] <;> decide

/-- **One event** keeps the invariant of the receive side. -/
theorem handler_rcvInv (e : ConnEvent) {c : Conn} (h : c.RcvInv) : (e.handler c).st.RcvInv := by
  rcases h with ⟨hs, hf⟩ | ⟨hs, hl, hw⟩
  · exact handler_synSent e hs hf
  · have hnext := handler_next e c
    refine Or.inr ⟨?_, ?_, (handler_moves e hs hl hw).1⟩
    · intro hbad
      rw [hbad] at hnext
      revert hs hl hnext
      cases c.tcb.state <;> decide
    · intro hbad
      rw [hbad] at hnext
      revert hs hl hnext
      cases c.tcb.state <;> decide

theorem Outcome.step_rcvInv {o : Outcome} (h : o.st.RcvInv) (e : ConnEvent) :
    (o.step e).st.RcvInv :=
  o.step_rule (R := fun _ c' => c'.RcvInv) e h fun _ => handler_rcvInv e h

theorem Outcome.step_moves {o : Outcome} (e : ConnEvent) (hs : o.st.tcb.state ≠ .synSent)
    (hl : o.st.tcb.state ≠ .listen) (hw : o.st.tcb.rcv.Window) :
    o.st.tcb.rcv.Moves (o.step e).st.tcb.rcv :=
  o.step_rule (R := fun c c' => c.tcb.rcv.Moves c'.tcb.rcv) e ((RcvVars.Grows.refl _).moves hw)
    fun _ => handler_moves e hs hl hw

/-- No state but `SYN_SENT` leads back to it, and none leads to `LISTEN`. -/
theorem run_leaves_synSent {o : Outcome} (hs : o.st.tcb.state ≠ .synSent)
    (hl : o.st.tcb.state ≠ .listen) (es : List ConnEvent) :
    (run Outcome.step o es).st.tcb.state ≠ .synSent ∧
      (run Outcome.step o es).st.tcb.state ≠ .listen := by
  refine run_inv' (I := fun o : Outcome => o.st.tcb.state ≠ .synSent ∧ o.st.tcb.state ≠ .listen)
    (fun o e h => ?_) ⟨hs, hl⟩ es
  obtain ⟨hs, hl⟩ := h
  have hnext := o.step_next e
  revert hs hl hnext
  cases o.st.tcb.state <;> cases (o.step e).st.tcb.state <;> decide

/-- A new control block after `CONNECT` was handled. -/
def Outcome.connected (ref so : Nat) (socketId : SockId)
    (soLinger : Option (List UInt8)) (iss : Int) (k : Core) : Outcome :=
  .ok (Conn.activOpen ⟨TCPCB.new ref so socketId soLinger iss k.nowNs, k⟩)

theorem connected_rcvInv (ref so : Nat) (socketId : SockId) (soLinger : Option (List UInt8))
    (iss : Int) (k : Core) : (Outcome.connected ref so socketId soLinger iss k).st.RcvInv := by
  refine Or.inl ⟨by simp [Outcome.connected, Conn.activOpen], ?_⟩
  have hfresh : (TCPCB.new ref so socketId soLinger iss k.nowNs).rcv.Fresh :=
    ⟨rfl, by simp [TCPCB.new, RingBuffer.new, RingBuffer.ready, gap], rfl⟩
  simpa [Outcome.connected, Conn.activOpen] using hfresh

/-- **A run** keeps it, from the first `CONNECT` on. -/
theorem run_rcvInv (ref so : Nat) (socketId : SockId) (soLinger : Option (List UInt8)) (iss : Int)
    (k : Core) (es : List ConnEvent) :
    (run Outcome.step (.connected ref so socketId soLinger iss k) es).st.RcvInv :=
  run_inv' (I := fun o : Outcome => o.st.RcvInv) (fun _ e h => Outcome.step_rcvInv h e)
    (connected_rcvInv ref so socketId soLinger iss k) es

/-- **The receive window.** Once the handshake is complete, and whatever happens afterwards, the
window is between 1 and 65535 sequence numbers wide; the next event moves neither `rcv_nxt` nor
`rcv_adv` back, and moves `rcv_nxt` by less than the width of the window. -/
theorem rcv_window_invariant (ref so : Nat) (socketId : SockId) (soLinger : Option (List UInt8))
    (iss : Int) (k : Core) (es es' : List ConnEvent)
    (hestab : (run Outcome.step (.connected ref so socketId soLinger iss k) es).st.tcb.state =
    .estab)
    (e : ConnEvent) :
    let o := run Outcome.step (.connected ref so socketId soLinger iss k) (es ++ es')
    (1 ≤ (o.st.tcb.rcv.rcvAdv - o.st.tcb.rcv.rcvNxt) % 4294967296 ∧
        (o.st.tcb.rcv.rcvAdv - o.st.tcb.rcv.rcvNxt) % 4294967296 ≤ 65535) ∧
      seqLeq o.st.tcb.rcv.rcvNxt (o.step e).st.tcb.rcv.rcvNxt ∧
      seqLeq o.st.tcb.rcv.rcvAdv (o.step e).st.tcb.rcv.rcvAdv ∧
      ((o.step e).st.tcb.rcv.rcvNxt - o.st.tcb.rcv.rcvNxt) % 4294967296 ≤
        (o.st.tcb.rcv.rcvAdv - o.st.tcb.rcv.rcvNxt - 1) % 4294967296 := by
  intro o
  have hinv : o.st.RcvInv := run_rcvInv ref so socketId soLinger iss k _
  obtain ⟨hs, hl⟩ := run_leaves_synSent (o := run Outcome.step
    (.connected ref so socketId soLinger iss k) es) (by rw [hestab]; decide)
    (by rw [hestab]; decide) es'
  rw [← run_append] at hs hl
  rcases hinv with ⟨hbad, -⟩ | ⟨-, -, hw⟩
  · exact absurd hbad hs
  · exact ⟨⟨hw.pos, hw.le⟩, (Outcome.step_moves e hs hl hw).bounds hw⟩

/-- The connection after the SYN-ACK of the peer and three bytes of data. -/
theorem rcv_window_invariant_three :
    let o := run Outcome.step (.connected 0 0 ⟨1, 1234, 2, 80⟩ none 1000 .idle)
      ([.rx (.sample 100 1001 0x12 4096 [])] ++ [.rx (.sample 101 1001 0x18 4096 [1, 2, 3])])
    (1 ≤ (o.st.tcb.rcv.rcvAdv - o.st.tcb.rcv.rcvNxt) % 4294967296 ∧
        (o.st.tcb.rcv.rcvAdv - o.st.tcb.rcv.rcvNxt) % 4294967296 ≤ 65535) ∧
      seqLeq o.st.tcb.rcv.rcvNxt (o.step .tx).st.tcb.rcv.rcvNxt ∧
      seqLeq o.st.tcb.rcv.rcvAdv (o.step .tx).st.tcb.rcv.rcvAdv ∧
      ((o.step .tx).st.tcb.rcv.rcvNxt - o.st.tcb.rcv.rcvNxt) % 4294967296 ≤
        (o.st.tcb.rcv.rcvAdv - o.st.tcb.rcv.rcvNxt - 1) % 4294967296 :=
  rcv_window_invariant 0 0 ⟨1, 1234, 2, 80⟩ none 1000 .idle
    [.rx (.sample 100 1001 0x12 4096 [])] [.rx (.sample 101 1001 0x18 4096 [1, 2, 3])]
    (by decide +kernel) .tx

end Tipy.Tcp
