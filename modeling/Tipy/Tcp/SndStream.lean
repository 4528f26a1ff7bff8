import Tipy.Tcp.Transitions

/-!
# The send side as positions in a stream

The send side has sequence numbers modulo `2 ^ 32` and ring offsets modulo the size of the buffer.
Both are positions in one stream of bytes: `F` bytes are acknowledged, `R` is the next position to
send, `T` the highest ever sent, and `N` bytes were enqueued; a FIN stands at position `N`. `SeqAt`
and `RingAt` say that the two sets of variables stand at these positions, and there is one lemma for
each operation.

The rule `txTurns_rule` is for the loop of `_tx_loop`: an invariant indexed by the bytes that are
left.
-/

namespace Tipy.Tcp

open Tipy.Buffer

/-! ## Positions -/

/-- The sequence number of a stream position. -/
def seqOf (iss : Int) (k : Nat) : Int := (iss + 1 + k) % 4294967296

/-- The sequence numbers stand at `F`, `R` and `T`. -/
structure SeqAt (iss : Int) (F R T : Nat) (s : SndVars) : Prop where
  una_eq : s.sndUna = seqOf iss F
  nxt_eq : s.sndNxt = seqOf iss R
  max_eq : s.sndMax = seqOf iss T
  una_le : F ≤ R
  nxt_le : R ≤ T

theorem SeqAt.una_range {iss : Int} {F R T : Nat} {s : SndVars} (h : SeqAt iss F R T s) :
    0 ≤ s.sndUna ∧ s.sndUna < 4294967296 := by
  rw [h.una_eq]
  exact ⟨Int.emod_nonneg _ (by decide), Int.emod_lt_of_pos _ (by decide)⟩

/-- The offsets of the ring stand at `F`, `V` and `N`. -/
structure RingAt (N F V : Nat) (b : RRingBuffer) : Prop where
  size_eq : b.size = DEFAULT_SEND_BUFF
  r_eq : b.r = F % DEFAULT_SEND_BUFF
  vr_eq : b.vr = V % DEFAULT_SEND_BUFF
  vw_eq : b.vw = N % DEFAULT_SEND_BUFF
  vr_le : V ≤ N
  room : N - V < DEFAULT_SEND_BUFF

namespace RingAt

variable {N F V : Nat} {b : RRingBuffer}

theorem ready_eq (h : RingAt N F V b) : b.ready = N - V := by
  rw [RRingBuffer.ready, h.size_eq, h.vw_eq, h.vr_eq]
  exact gap_mod h.vr_le h.room

theorem free (h : RingAt N F V b) (k : Nat) : RingAt N (F + k) V (b.free k) where
  size_eq := h.size_eq
  r_eq := by rw [b.free_natCast_r k, h.r_eq, h.size_eq, Nat.mod_add_mod]
  vr_eq := h.vr_eq
  vw_eq := h.vw_eq
  vr_le := h.vr_le
  room := h.room

theorem enqueue (h : RingAt N F V b) (data : List UInt8) :
    RingAt (N + (b.enqueue data).2) F V (b.enqueue data).1 := by
  have hroom : (b.enqueue data).2 ≤ DEFAULT_SEND_BUFF - 1 - (N - V) := by
    rw [b.enqueue_eq, ← h.ready_eq, ← h.size_eq]
    exact Nat.min_le_right _ _
  have hle := h.vr_le
  have hlt := h.room
  refine ⟨?_, ?_, ?_, ?_, by omega, by omega⟩
  · rw [b.enqueue_eq]
    exact h.size_eq
  · rw [b.enqueue_eq]
    exact h.r_eq
  · rw [b.enqueue_eq]
    exact h.vr_eq
  · rw [b.enqueue_eq]
    simp only [RRingBuffer.pushed]
    rw [h.size_eq, h.vw_eq, Nat.mod_add_mod]

theorem rollBack (h : RingAt N F V b) (hF : F ≤ N) (hlt : N - F < DEFAULT_SEND_BUFF) :
    RingAt N F F b.rollBackToR :=
  ⟨h.size_eq, h.r_eq, h.r_eq, h.vw_eq, hF, hlt⟩

theorem dequeue (h : RingAt N F V b) (n : Nat) :
    RingAt N F (V + min n (N - V)) (b.dequeue n).2 := by
  have hlen := (b.dequeue_spec n).2.2
  rw [h.ready_eq] at hlen
  have hle := h.vr_le
  have hlt := h.room
  refine ⟨h.size_eq, h.r_eq, ?_, h.vw_eq, by omega, by omega⟩
  simp only [RRingBuffer.dequeue] at hlen ⊢
  rw [hlen, h.vr_eq, h.size_eq, Nat.mod_add_mod]

end RingAt

/-! ## Draining the buffer -/

/-- The views of a ring: none if and only if nothing is ready, and no empty one if there is a byte.
-/
theorem dequeueAt_views {size r w n : Nat} (hr : r < size) (hw : w < size) :
    (dequeueAt size r w n = [] ↔ gap size w r = 0) ∧
      (min n (gap size w r) ≠ 0 → ∀ v ∈ dequeueAt size r w n, v.len ≠ 0) := by
  have hg := gap_eq hr hw
  unfold dequeueAt
  simp only
  split_ifs at hg ⊢ with h₁ h₂ h₃ h₄ <;>
    simp only [false_iff, true_iff, List.mem_cons, List.not_mem_nil, or_false,
      forall_eq_or_imp, forall_eq, View.len] <;> omega

/-- The views `_drain_snd_buf` returns. -/
theorem drainSndBuf_views (s : SndVars) :
    ((drainSndBuf s).1 = [] ↔ s.sndBuf.ready = 0) ∧
      ((drainSndBuf s).1.map List.length).sum =
        min (min TCP_MAX_TX_BYTES s.sndWnd) s.sndBuf.ready ∧
      (min (min TCP_MAX_TX_BYTES s.sndWnd) s.sndBuf.ready ≠ 0 →
          ∀ v ∈ (drainSndBuf s).1, v ≠ []) := by
  have hviews := dequeueAt_views (n := min TCP_MAX_TX_BYTES s.sndWnd) s.sndBuf.vr_lt s.sndBuf.vw_lt
  have hbytes : ∀ v : View, (v.bytes s.sndBuf.ring).length = v.len := by
    intro v
    simp [View.bytes]
  refine ⟨?_, ?_, ?_⟩
  · simp only [drainSndBuf, List.map_eq_nil_iff]
    exact hviews.1
  · rw [← (s.sndBuf.dequeue_spec (min TCP_MAX_TX_BYTES s.sndWnd)).2.2]
    simp only [drainSndBuf, List.map_map, viewLen]
    congr 1
    exact List.map_congr_left fun v _ => hbytes v
  · intro hne v hv
    obtain ⟨w, hw, rfl⟩ := List.mem_map.1 hv
    have := hviews.2 hne w hw
    rw [← hbytes w] at this
    exact fun hnil => this (by rw [hnil]; rfl)

/-- What `_drain_snd_buf` takes off the buffer. -/
theorem drainSndBuf_spec (s : SndVars) {N F V : Nat} (h : RingAt N F V s.sndBuf) :
    ((drainSndBuf s).1 = [] ↔ N = V) ∧
      ((drainSndBuf s).1.map List.length).sum = min (min TCP_MAX_TX_BYTES s.sndWnd) (N - V) ∧
      (min (min TCP_MAX_TX_BYTES s.sndWnd) (N - V) ≠ 0 → ∀ v ∈ (drainSndBuf s).1, v ≠ []) ∧
      RingAt N F (V + min (min TCP_MAX_TX_BYTES s.sndWnd) (N - V)) (drainSndBuf s).2.sndBuf := by
  obtain ⟨hnil, hsum, hne⟩ := drainSndBuf_views s
  have hle := h.vr_le
  rw [h.ready_eq] at hnil hsum hne
  exact ⟨hnil.trans (by omega), hsum, hne, h.dequeue _⟩

theorem generateSegmentPayload_spec (n : Nat) {data : List (List UInt8)}
    (hne : ∀ v ∈ data, v ≠ []) :
    (generateSegmentPayload n data).1.length +
        ((generateSegmentPayload n data).2.map List.length).sum = (data.map List.length).sum ∧
      ∀ v ∈ (generateSegmentPayload n data).2, v ≠ [] := by
  cases data with
  | nil => exact ⟨rfl, hne⟩
  | cons buf bufs =>
    simp only [generateSegmentPayload]
    split
    · exact ⟨by simp, fun v hv => hne v (List.mem_cons_of_mem _ hv)⟩
    · next hlt =>
      refine ⟨?_, fun v hv => ?_⟩
      · simp only [List.map_cons, List.sum_cons, List.length_take, List.length_drop]
        omega
      · rcases List.mem_cons.1 hv with rfl | hv
        · intro hnil
          have := congrArg List.length hnil
          simp only [List.length_drop, List.length_nil] at this
          omega
        · exact hne v (List.mem_cons_of_mem _ hv)

/-! ## Acknowledgements -/

section Ack

variable {iss : Int} {F R T : Nat} {s : SndVars} {p : Segment}

/-- An acknowledgement moves `snd_una` on, and not past `snd_nxt`, however far the two are apart. -/
theorem hRxAck_seqAt (h : SeqAt iss F R T s) (hp : 0 ≤ p.ackSeq ∧ p.ackSeq < 4294967296) :
    ∃ k : Nat, (hRxAck s p).2 = k ∧ SeqAt iss (F + k) R T (hRxAck s p).1 ∧
      (hRxAck s p).1 = { s with sndUna := (hRxAck s p).1.sndUna } ∧
      seqDiff (hRxAck s p).1.sndUna s.sndUna = k := by
  obtain ⟨huna, hnxt, hmax, hF, hR⟩ := h
  unfold hRxAck
  split_ifs with hout
  · refine ⟨0, rfl, ⟨huna, hnxt, hmax, hF, hR⟩, rfl, ?_⟩
    unfold seqDiff
    simp
  · rw [not_or] at hout
    obtain ⟨hlo, hhi⟩ := hout
    rw [huna] at hlo
    rw [hnxt] at hhi
    have hpos : 0 ≤ seqDiff p.ackSeq s.sndUna := Int.emod_nonneg _ (by decide)
    have hk : F + (seqDiff p.ackSeq s.sndUna).toNat ≤ R ∧
        p.ackSeq = seqOf iss (F + (seqDiff p.ackSeq s.sndUna).toNat) := by
      unfold seqLeq seqLt at hlo
      unfold seqGt at hhi
      rw [huna]
      unfold seqDiff
      unfold seqOf at *
      omega
    refine ⟨(seqDiff p.ackSeq s.sndUna).toNat, (Int.toNat_of_nonneg hpos).symm,
      ⟨hk.2, hnxt, hmax, hk.1, hR⟩, rfl, (Int.toNat_of_nonneg hpos).symm⟩

/-- Nothing was acknowledged. -/
theorem hRxAck_of_not_pos (huna : 0 ≤ s.sndUna ∧ s.sndUna < 4294967296)
    (hp : 0 ≤ p.ackSeq ∧ p.ackSeq < 4294967296) (h : ¬ 0 < (hRxAck s p).2) :
    (hRxAck s p).1 = s := by
  unfold hRxAck at *
  split_ifs at * with hout
  · rfl
  · refine absurd (Or.inl (Or.inl ?_)) hout
    simp only [seqDiff] at h
    omega

/-- The window update leaves the positions and the buffer alone. -/
theorem hRxWnd_seqAt (h : SeqAt iss F R T s) : SeqAt iss F R T (hRxWnd s p) := by
  unfold hRxWnd
  split
  · exact ⟨h.una_eq, h.nxt_eq, h.max_eq, h.una_le, h.nxt_le⟩
  · exact h

@[simp] theorem hRxWnd_sndBuf : (hRxWnd s p).sndBuf = s.sndBuf := by
  unfold hRxWnd
  split <;> rfl

@[simp] theorem hRxWnd_sentFin : (hRxWnd s p).sentFin = s.sentFin := by
  unfold hRxWnd
  split <;> rfl

@[simp] theorem hRxWnd_sndUna : (hRxWnd s p).sndUna = s.sndUna := by
  unfold hRxWnd
  split <;> rfl

end Ack

/-! ## The loop -/

section Loop

@[simp] theorem afterSegment_snd (c : Conn) (data : List UInt8) (fin : Bool) :
    (c.afterSegment data fin).tcb.snd =
      let nxt := (c.tcb.snd.sndNxt + data.length + fin.toInt) % 4294967296
      { c.tcb.snd with
        sndNxt := nxt
        sndMax := if seqGt nxt c.tcb.snd.sndMax then nxt else c.tcb.snd.sndMax } := by
  unfold Conn.afterSegment
  simp only [Conn.txTcp_tcb, Conn.setSnd_tcb, TCPCB.setSnd_snd]
  split <;> simp

@[simp] theorem afterSegment_out (c : Conn) (data : List UInt8) (fin : Bool) :
    (c.afterSegment data fin).core.out =
      c.core.out ++ [(c.tcb.socketId, c.dataSegment data fin)] := by
  rw [Conn.afterSegment_core]
  rfl

/-- **One segment** moves `snd_nxt` on, and `snd_max` with it when it was passed. -/
theorem SeqAt.segment {iss : Int} {F R T : Nat} {c : Conn} (h : SeqAt iss F R T c.tcb.snd)
    (data : List UInt8) (fin : Bool) (hlen : data.length ≤ TCP_MAX_TX_BYTES) :
    ∃ T', T' ≤ max T (R + data.length + fin.toNat) ∧
      SeqAt iss F (R + data.length + fin.toNat) T' (c.afterSegment data fin).tcb.snd := by
  obtain ⟨huna, hnxt, hmax, hF, hR⟩ := h
  have hfin : fin.toNat ≤ 1 ∧ fin.toInt = fin.toNat := by cases fin <;> decide
  simp only [TCP_MAX_TX_BYTES] at hlen
  have hnew : (c.tcb.snd.sndNxt + data.length + fin.toInt) % 4294967296 =
      seqOf iss (R + data.length + fin.toNat) := by
    rw [hnxt, hfin.2]
    unfold seqOf
    push_cast
    omega
  rw [afterSegment_snd]
  simp only [hnew]
  by_cases hgt : seqGt (seqOf iss (R + data.length + fin.toNat)) c.tcb.snd.sndMax
  · rw [if_pos hgt]
    exact ⟨_, le_max_right _ _, ⟨huna, rfl, rfl, by omega, le_rfl⟩⟩
  · rw [if_neg hgt]
    refine ⟨T, le_max_left _ _, ⟨huna, rfl, hmax, by omega, ?_⟩⟩
    -- a new highest position would have been noticed
    by_contra hlt
    rw [hmax] at hgt
    unfold seqGt seqOf at hgt
    push_cast at hgt
    omega

/-- The loop leaves `snd_una` and the window of the peer alone. -/
theorem txLoop_peer (c : Conn) (data : List (List UInt8)) (next : Option STATES)
    (shutReq closeReq : Bool) :
    (txLoop c data next shutReq closeReq).st.tcb.snd.sndUna = c.tcb.snd.sndUna ∧
      (txLoop c data next shutReq closeReq).st.tcb.snd.sndWnd = c.tcb.snd.sndWnd := by
  refine txLoop_inv (I := fun c' => c'.tcb.snd.sndUna = c.tcb.snd.sndUna ∧
    c'.tcb.snd.sndWnd = c.tcb.snd.sndWnd) ⟨rfl, rfl⟩ ?_ ?_ ?_ ?_ ?_
  · exact fun c' h => by simpa using h
  · intro c' data fin h
    rw [afterSegment_snd]
    exact h
  · exact fun c' h => by simpa using h
  · exact fun c' s _ h => by simpa using h
  · exact fun c' h => by simpa using h

/-- Sending leaves `snd_una` and the window of the peer alone. -/
theorem Conn.tx_peer (c : Conn) : c.tx.st.tcb.snd.sndUna = c.tcb.snd.sndUna ∧
    c.tx.st.tcb.snd.sndWnd = c.tcb.snd.sndWnd := by
  refine tx_inv (I := fun c' => c'.tcb.snd.sndUna = c.tcb.snd.sndUna ∧
    c'.tcb.snd.sndWnd = c.tcb.snd.sndWnd) ⟨rfl, rfl⟩ ?_ ?_ ?_ ?_ ?_ ?_ ?_ ?_
  · simp [txSynSent]
  · simp [txSynRecv]
  · rintro c₁ (rfl | rfl)
    · exact ⟨rfl, rfl⟩
    · exact ⟨rfl, rfl⟩
  · exact fun c' h => by simpa using h
  · exact fun c' next h => by simpa using h
  · exact fun c' h => by simpa using h
  · exact fun c' h => by simpa using h
  · intro c' data next shutReq closeReq h
    obtain ⟨huna, hwnd⟩ := txLoop_peer c' data next shutReq closeReq
    exact ⟨huna.trans h.1, hwnd.trans h.2⟩

theorem Conn.tx_sndUna (c : Conn) : c.tx.st.tcb.snd.sndUna = c.tcb.snd.sndUna := c.tx_peer.1

/-- The connection after the segment with the FIN. -/
def Conn.afterFin (c : Conn) (next : Option STATES) (data : List UInt8) : Conn :=
  let c := c.afterSegment data true
  let c := c.setSnd { c.tcb.snd with sentFin := true }
  (next.elim c c.changeState).startRtxTimer

/-- **The rule of the loop, by the bytes left.** Let `I n` hold with `n` bytes left, as every
segment without FIN preserves it. If the loop returns, either there is no FIN to send and no byte is
left, or the last segment had all the bytes that were left and the FIN. -/
theorem txTurns_rule (next : Option STATES) (wantFin : Bool) {I : Nat → Conn → Prop}
    {J : Conn → Prop} (hseg : ∀ c seg n, I (List.length seg + n) c → I n (c.afterSegment seg false))
    (hdone : wantFin = false → ∀ c, I 0 c → J c.startRtxTimer)
    (hfin : wantFin = true → ∀ c seg, I (List.length seg) c → J (c.afterFin next seg))
    (turns : Nat) (c : Conn) (data : List (List UInt8)) (dlen sndWnd counter : Nat) (hc : I dlen c)
    (hsum : (data.map List.length).sum = dlen) (hne : ∀ v ∈ data, v ≠ [])
    (hwant : wantFin = true → dlen ≠ 0) (hwnd : dlen ≤ sndWnd)
    (hcounter : counter + dlen ≤ TCP_MAX_TX_BYTES) :
    let o := txTurns next wantFin turns c data dlen sndWnd counter
    o.fault = none ∧ J o.st ∨ o.fault ≠ none ∧ ∃ n, I n o.st := by
  induction turns generalizing c data dlen sndWnd counter with
  | zero =>
    unfold txTurns
    split
    · next hzero =>
      have hno : wantFin = false := by
        cases wantFin
        · rfl
        · exact absurd hzero (hwant rfl)
      exact Or.inl ⟨rfl, hdone hno c (hzero ▸ hc)⟩
    · exact Or.inr ⟨by simp, dlen, hc⟩
  | succ turns ih =>
    have hseg' := generateSegmentPayload_spec (min (min c.tcb.snd.remoteMss sndWnd) dlen) hne
    unfold txTurns
    generalize generateSegmentPayload (min (min c.tcb.snd.remoteMss sndWnd) dlen)
      data = g at hseg' ⊢
    obtain ⟨seg, rest⟩ := g
    obtain ⟨hlen, hrest⟩ := hseg'
    simp only at hlen hrest ⊢
    rw [hsum] at hlen
    split
    · next hzero =>
      have hno : wantFin = false := by
        cases wantFin
        · rfl
        · exact absurd hzero (hwant rfl)
      exact Or.inl ⟨rfl, hdone hno c (hzero ▸ hc)⟩
    · split
      · exact Or.inr ⟨by simp, dlen, hc⟩
      · split
        · next hshould =>
          obtain ⟨hw, hempty⟩ := Bool.and_eq_true_iff.1 hshould
          rw [List.isEmpty_iff] at hempty
          subst hempty
          have hall : seg.length = dlen := by simpa using hlen
          rw [hshould]
          exact Or.inl ⟨rfl, hfin hw c seg (hall ▸ hc)⟩
        · next hshould =>
          have hnofin : (wantFin && rest.isEmpty) = false := by simpa using hshould
          rw [hnofin]
          have hnext : I (rest.map List.length).sum (c.afterSegment seg false) :=
            hseg c seg _ (hlen ▸ hc)
          -- bytes are left for the FIN to wait for
          have hleft : wantFin = true → (rest.map List.length).sum ≠ 0 := by
            intro hw
            rw [hw, Bool.true_and] at hnofin
            cases rest with
            | nil => cases hnofin
            | cons v vs =>
              have hv : 0 < v.length := List.length_pos_iff.2 (hrest v List.mem_cons_self)
              simp only [List.map_cons, List.sum_cons]
              omega
          have hexit : (rest.map List.length).sum = 0 →
              J (c.afterSegment seg false).startRtxTimer := by
            intro hzero
            have hno : wantFin = false := by
              cases wantFin
              · rfl
              · exact absurd hzero (hleft rfl)
            exact hdone hno _ (hzero ▸ hnext)
          split
          · exact Or.inl ⟨rfl, hexit (by omega)⟩
          · split
            · exact Or.inl ⟨rfl, hexit (by omega)⟩
            · have hdlen : dlen - seg.length = (rest.map List.length).sum := by omega
              rw [hdlen]
              exact ih _ _ _ _ _ hnext rfl hrest hleft (by omega) (by omega)

end Loop

end Tipy.Tcp
