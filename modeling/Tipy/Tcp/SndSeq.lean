import Tipy.Tcp.FinOrder

/-!
# The send side keeps in step

Five functions move the send side: `_drain_snd_buf` takes bytes off the ring, `_tx_loop` and
`_send_fin` move `snd_nxt` and `snd_max`, `_h_rx_ack` moves `snd_una` and the handler that called it
frees the ring, and `_rollback_to_una` goes back. `TxMove` says what a send handler that returns has
done to the positions, `RxMove` what a segment has done; both hold whatever the ring has in it.

The invariant `InStep` counts from `snd_una`: what is sent and what is ready is never more than
twice what was enqueued and one ring, because a FIN is only sent with a byte or when nothing is
ready.
-/

namespace Tipy.Tcp

open Tipy.Buffer Tipy.Lib

/-! ## The ring -/

/-- The ring after `n` bytes were drained. -/
structure DrainedBy (n : Nat) (b b' : RRingBuffer) : Prop where
  size_eq : b'.size = b.size
  r_eq : b'.r = b.r
  vr_eq : b'.vr = (b.vr + n) % b.size
  ready_eq : b'.ready + n = b.ready

/-- The number of bytes `_drain_snd_buf` takes. -/
def drainLen (s : SndVars) : Nat := min (min TCP_MAX_TX_BYTES s.sndWnd) s.sndBuf.ready

theorem drainSndBuf_drainedBy (s : SndVars) :
    DrainedBy (drainLen s) s.sndBuf (drainSndBuf s).2.sndBuf := by
  have hlen : viewLen (s.sndBuf.dequeue (min TCP_MAX_TX_BYTES s.sndWnd)).1 = drainLen s :=
    (s.sndBuf.dequeue_spec _).2.2
  have hvr : (drainSndBuf s).2.sndBuf.vr = (s.sndBuf.vr + drainLen s) % s.sndBuf.size := by
    rw [← hlen]
    rfl
  have hvw : (drainSndBuf s).2.sndBuf.vw = (s.sndBuf.vw + 0) % s.sndBuf.size :=
    (Nat.mod_eq_of_lt s.sndBuf.vw_lt).symm
  have hle : drainLen s ≤ s.sndBuf.ready := Nat.min_le_right _ _
  have hlt := s.sndBuf.ready_lt
  have hmoved : (drainSndBuf s).2.sndBuf.ready + drainLen s = s.sndBuf.ready + 0 :=
    s.sndBuf.ready_of_moved rfl hvr hvw hle (by omega)
  exact ⟨rfl, rfl, hvr, hmoved⟩

/-! ## Sending -/

/-- The states after the handshake. -/
def STATES.Opened (s : STATES) : Prop := s.Streaming ∨ s.Ending ∨ s.Ended

instance (s : STATES) : Decidable s.Opened := inferInstanceAs (Decidable (_ ∨ _))

theorem STATES.Opened.of_successors {s s' : STATES} (h : s.Opened) (hs' : s' ∈ s.successors) :
    s'.Opened ∧ (s'.Streaming → s.Streaming) := by
  revert h hs'
  cases s <;> cases s' <;> decide

/-- What a send handler that returns has done: `n` bytes were drained, and `snd_nxt` moved on from
`R` as far as they reach, and past the FIN when one was sent. -/
inductive TxMove (iss : Int) (F R T n : Nat) (c c' : Conn) : Prop
  | abort (seq : SeqAt iss F R T c'.tcb.snd) (sentFin : c'.tcb.snd.sentFin = c.tcb.snd.sentFin)
      (state : c'.tcb.state = .closed)
  | data (T' : Nat) (le : T' ≤ max T (R + n)) (seq : SeqAt iss F (R + n) T' c'.tcb.snd)
      (sentFin : c'.tcb.snd.sentFin = c.tcb.snd.sentFin) (state : c'.tcb.state = c.tcb.state)
  | dataFin (T' : Nat) (le : T' ≤ max T (R + n + 1)) (seq : SeqAt iss F (R + n + 1) T' c'.tcb.snd)
      (sentFin : c'.tcb.snd.sentFin = true) (state : ¬ c'.tcb.state.Streaming) (pos : 0 < n)
  | fin (T' : Nat) (le : T' ≤ max T (R + 1)) (seq : SeqAt iss F (R + 1) T' c'.tcb.snd)
      (sentFin : c'.tcb.snd.sentFin = true) (state : ¬ c'.tcb.state.Streaming)
      (ready : c.tcb.snd.sndBuf.ready = 0) (again : c.tcb.snd.sentFin = true → R + 1 ≤ T)

section Send

variable {iss : Int} {F R T : Nat} {c c₁ : Conn}

theorem SeqAt.drained (h : SeqAt iss F R T c.tcb.snd) (hd : Drained c c₁) :
    SeqAt iss F R T c₁.tcb.snd := by
  rw [hd.snd]
  exact ⟨h.una_eq, h.nxt_eq, h.max_eq, h.una_le, h.nxt_le⟩

theorem DrainedBy.of_drained (hd : Drained c c₁) :
    DrainedBy (drainLen c.tcb.snd) c.tcb.snd.sndBuf c₁.tcb.snd.sndBuf := by
  rw [hd.snd]
  exact drainSndBuf_drainedBy c.tcb.snd

/-- What a loop has done when `m` of the `n` bytes are left. -/
structure Looped (iss : Int) (F R T n m : Nat) (c c' : Conn) : Prop where
  le : m ≤ n
  seq : ∃ T' ≤ max T (R + n), SeqAt iss F (R + n - m) T' c'.tcb.snd
  sndBuf : c'.tcb.snd.sndBuf = c.tcb.snd.sndBuf
  sentFin : c'.tcb.snd.sentFin = c.tcb.snd.sentFin
  state : c'.tcb.state = c.tcb.state

theorem Looped.segment {n m : Nat} {c' : Conn} {seg : List UInt8}
    (h : Looped iss F R T n (seg.length + m) c c') (hn : n ≤ TCP_MAX_TX_BYTES) :
    Looped iss F R T n m c (c'.afterSegment seg false) := by
  obtain ⟨hle, ⟨T', hT', hseq⟩, hbuf, hfin, hstate⟩ := h
  obtain ⟨T'', hT'', hseq'⟩ := hseq.segment seg false (by omega)
  have hpos : R + n - (seg.length + m) + seg.length + false.toNat = R + n - m := by
    simp only [Bool.toNat_false]
    omega
  rw [hpos] at hseq' hT''
  refine ⟨by omega, ⟨T'', by omega, hseq'⟩, ?_, ?_, ?_⟩
  · rw [afterSegment_snd]
    exact hbuf
  · rw [afterSegment_snd]
    exact hfin
  · rw [afterSegment_state]
    exact hstate

/-- **The rule of `_tx_loop` after `_drain_snd_buf`.** Let `I m` hold with `m` of the drained bytes
left, and `J` after an abort, with no byte left, and after the segment with the FIN. -/
theorem txLoop_rule (hd : Drained c c₁) (next : Option STATES) (shutReq closeReq : Bool)
    {I : Nat → Conn → Prop} {J : Conn → Prop} (hc : I (drainLen c.tcb.snd) c₁)
    (habort : J c₁.hActiveCloseTx)
    (hseg : ∀ c' seg m, List.length seg + m ≤ drainLen c.tcb.snd → I (List.length seg + m) c' →
      I m (c'.afterSegment seg false))
    (hdone : ∀ c', I 0 c' → J c'.startRtxTimer)
    (hfin : (shutReq || closeReq) = true → ∀ c' seg, 0 < drainLen c.tcb.snd →
      List.length seg ≤ drainLen c.tcb.snd → I (List.length seg) c' → J (c'.afterFin next seg)) :
    let o := txLoop c₁ (drainSndBuf c.tcb.snd).1 next shutReq closeReq
    o.fault = none ∧ J o.st ∨ o.fault ≠ none ∧ ∃ m, I m o.st := by
  have hmax : drainLen c.tcb.snd ≤ TCP_MAX_TX_BYTES :=
    (Nat.min_le_left _ _).trans (Nat.min_le_left _ _)
  have hwnd : drainLen c.tcb.snd ≤ c₁.tcb.snd.sndWnd := by
    rw [hd.snd]
    exact (Nat.min_le_left _ _).trans (Nat.min_le_right _ _)
  obtain ⟨-, hsum, hne⟩ := drainSndBuf_views c.tcb.snd
  rw [← drainLen] at hsum hne
  unfold txLoop
  simp only [hsum]
  split
  · exact Or.inl ⟨rfl, habort⟩
  · by_cases hzero : drainLen c.tcb.snd = 0
    · -- an empty view: the loop is not entered
      rw [hzero] at hc ⊢
      simpa [txTurns] using hdone c₁ hc
    · have hrule := txTurns_rule next (shutReq || closeReq)
        (I := fun m c' => m ≤ drainLen c.tcb.snd ∧ I m c') (J := J)
        (fun c' seg m h => ⟨by omega, hseg c' seg m h.1 h.2⟩) (fun _ c' h => hdone c' h.2)
        (fun hw c' seg h => hfin hw c' seg (by omega) h.1 h.2) (drainLen c.tcb.snd) c₁
        (drainSndBuf c.tcb.snd).1 (drainLen c.tcb.snd) c₁.tcb.snd.sndWnd 0 ⟨le_rfl,
          hc⟩ hsum (hne hzero)
        (fun _ => hzero) hwnd (by omega)
      rcases hrule with h | ⟨hf, m, -, hm⟩
      · exact Or.inl h
      · exact Or.inr ⟨hf, m, hm⟩

/-- **`_tx_loop`**, after `_drain_snd_buf`. -/
theorem txLoop_txMove (hseq : SeqAt iss F R T c.tcb.snd) (hd : Drained c c₁) (next : Option STATES)
    (shutReq closeReq : Bool) (hnext : ¬ (next.getD c.tcb.state).Streaming)
    (hret : (txLoop c₁ (drainSndBuf c.tcb.snd).1 next shutReq closeReq).fault = none) :
    let c' := (txLoop c₁ (drainSndBuf c.tcb.snd).1 next shutReq closeReq).st
    TxMove iss F R T (drainLen c.tcb.snd) c c' ∧ c'.tcb.snd.sndBuf = c₁.tcb.snd.sndBuf := by
  have hfin₁ : c₁.tcb.snd.sentFin = c.tcb.snd.sentFin := by rw [hd.snd]; rfl
  have hseq₁ := hseq.drained hd
  have hmax : drainLen c.tcb.snd ≤ TCP_MAX_TX_BYTES :=
    (Nat.min_le_left _ _).trans (Nat.min_le_left _ _)
  have hrule := txLoop_rule hd next shutReq closeReq
    (I := fun m c' => Looped iss F R T (drainLen c.tcb.snd) m c₁ c')
    (J := fun c' => TxMove iss F R T (drainLen c.tcb.snd) c c' ∧
      c'.tcb.snd.sndBuf = c₁.tcb.snd.sndBuf)
    ⟨le_rfl, ⟨T, le_max_left _ _, by rwa [Nat.add_sub_cancel]⟩, rfl, rfl, rfl⟩
    ⟨.abort (by simpa using hseq₁) (by simpa using hfin₁) (by simp), by simp⟩
    (fun c' seg m _ h => h.segment hmax) ?hdone ?hfin
  · rcases hrule with ⟨-, h⟩ | ⟨hf, -⟩
    · exact h
    · exact absurd hret hf
  case hdone =>
    rintro c' ⟨-, ⟨T', hT', hseq'⟩, hbuf, hfin, hstate⟩
    exact ⟨.data T' hT' (by simpa using hseq') (by simpa using hfin.trans hfin₁)
      (by simpa using hstate.trans hd.state), by simpa using hbuf⟩
  case hfin =>
    rintro - c' seg hpos - ⟨hle, ⟨T', hT', hseq'⟩, hbuf, hfin, hstate⟩
    obtain ⟨T'', hT'', hlast⟩ := hseq'.segment seg true (by omega)
    have hend : R + drainLen c.tcb.snd - seg.length + seg.length + true.toNat =
        R + drainLen c.tcb.snd + 1 := by
      simp only [Bool.toNat_true]
      omega
    rw [hend] at hT'' hlast
    have hstate' : (c'.afterFin next seg).tcb.state = next.getD c.tcb.state := by
      unfold Conn.afterFin
      cases next <;> simp [afterSegment_state, hstate, hd.state]
    have hsnd : (c'.afterFin next seg).tcb.snd =
        { (c'.afterSegment seg true).tcb.snd with sentFin := true } := by
      unfold Conn.afterFin
      cases next <;> simp
    refine ⟨.dataFin T'' (by omega) ?_ (by rw [hsnd]) (by rwa [hstate']) hpos, ?_⟩
    · rw [hsnd]
      exact ⟨hlast.una_eq, hlast.nxt_eq, hlast.max_eq, hlast.una_le, hlast.nxt_le⟩
    · rw [hsnd, afterSegment_snd]
      exact hbuf

/-- **`_send_fin`**, when nothing was ready. -/
theorem sendFin_txMove (hseq : SeqAt iss F R T c.tcb.snd) (hd : Drained c c₁)
    (hplain : c.tcb.state.Streaming → c.tcb.snd.sentFin = false)
    (hready : c.tcb.snd.sndBuf.ready = 0) (next : Option STATES)
    (hnext : ¬ (next.getD c.tcb.state).Streaming) :
    TxMove iss F R T 0 c (c₁.sendFin next) ∧
      (c₁.sendFin next).tcb.snd.sndBuf = c₁.tcb.snd.sndBuf := by
  have hfin₁ : c₁.tcb.snd.sentFin = c.tcb.snd.sentFin := by rw [hd.snd]; rfl
  obtain ⟨huna, hnxt, hmax, hF, hR⟩ := hseq.drained hd
  have hbump : (c₁.tcb.snd.sndNxt + 1) % 4294967296 = seqOf iss (R + 1) := by
    rw [hnxt]
    unfold seqOf
    push_cast
    omega
  unfold Conn.sendFin
  split
  · next hsent =>
    split
    · next hgt =>
      -- the FIN was rolled back, so it lies below `snd_max`
      have hlt : R ≠ T := by
        rintro rfl
        exact hgt.1 (hmax.trans hnxt.symm)
      have hstate : ¬ c.tcb.state.Streaming := by
        intro h
        rw [hfin₁, hplain h] at hsent
        cases hsent
      refine ⟨.fin T (le_max_left _ _) ⟨?_, ?_, ?_, by omega, by omega⟩ (by simpa using hsent)
        (by simpa [hd.state] using hstate) hready (fun _ => by omega), by simp⟩
      · simpa using huna
      · simpa using hbump
      · simpa using hmax
    · exact ⟨.data T (le_max_left _ _) ⟨huna, hnxt, hmax, hF, hR⟩ hfin₁ hd.state, rfl⟩
  · next hsent =>
    refine ⟨.fin (R + 1) (le_max_right _ _) ⟨?_, ?_, ?_, by omega, le_rfl⟩ ?_ ?_ hready
      (fun h => absurd (hfin₁.trans h) hsent), ?_⟩
    · cases next <;> simpa using huna
    · cases next <;> simpa using hbump
    · cases next <;> simpa using hbump
    · cases next <;> simp
    · cases next <;> simpa [hd.state] using hnext
    · cases next <;> simp

/-- A send handler that ends as one of the above after it drained the buffer. -/
structure TxMoved (iss : Int) (F R T n : Nat) (c c' : Conn) : Prop where
  move : TxMove iss F R T n c c'
  drained : DrainedBy n c.tcb.snd.sndBuf c'.tcb.snd.sndBuf

theorem DrainedBy.refl (b : RRingBuffer) : DrainedBy 0 b b :=
  ⟨rfl, rfl, (Nat.mod_eq_of_lt b.vr_lt).symm, rfl⟩

theorem TxMoved.same {c' : Conn} (hseq : SeqAt iss F R T c.tcb.snd) (hsnd : c'.tcb.snd = c.tcb.snd)
    (hstate : c'.tcb.state = c.tcb.state ∨ c'.tcb.state = .closed) : TxMoved iss F R T 0 c c' := by
  refine ⟨?_, by rw [hsnd]; exact .refl _⟩
  rcases hstate with hstate | hstate
  · exact .data T (le_max_left _ _) (by rw [hsnd]; exact hseq) (by rw [hsnd]) hstate
  · exact .abort (by rw [hsnd]; exact hseq) (by rw [hsnd]) hstate

/-- Nothing was ready, and what follows leaves the send side alone. -/
theorem TxMoved.quiet {c' : Conn} (hseq : SeqAt iss F R T c.tcb.snd) (hd : Drained c c₁)
    (hready : c.tcb.snd.sndBuf.ready = 0) (hsnd : c'.tcb.snd = c₁.tcb.snd)
    (hstate : c'.tcb.state = c.tcb.state ∨ c'.tcb.state = .closed) :
    TxMoved iss F R T (drainLen c.tcb.snd) c c' := by
  have hzero : drainLen c.tcb.snd = 0 := by simp [drainLen, hready]
  have hfin₁ : c₁.tcb.snd.sentFin = c.tcb.snd.sentFin := by rw [hd.snd]; rfl
  refine ⟨?_, by rw [hsnd]; exact .of_drained hd⟩
  rw [hzero]
  rcases hstate with hstate | hstate
  · exact .data T (le_max_left _ _)
      (by rw [hsnd]; exact hseq.drained hd) (by rw [hsnd, hfin₁]) hstate
  · exact .abort (by rw [hsnd]; exact hseq.drained hd) (by rw [hsnd, hfin₁]) hstate

theorem TxMoved.sendFin {c' : Conn} (hseq : SeqAt iss F R T c.tcb.snd) (hd : Drained c c₁)
    (hplain : c.tcb.state.Streaming → c.tcb.snd.sentFin = false)
    (hready : c.tcb.snd.sndBuf.ready = 0) (next : Option STATES)
    (hnext : ¬ (next.getD c.tcb.state).Streaming) (hsnd : c'.tcb.snd = (c₁.sendFin next).tcb.snd)
    (hstate : c'.tcb.state = (c₁.sendFin next).tcb.state) :
    TxMoved iss F R T (drainLen c.tcb.snd) c c' := by
  have hzero : drainLen c.tcb.snd = 0 := by simp [drainLen, hready]
  obtain ⟨hmove, hbuf⟩ := sendFin_txMove hseq hd hplain hready next hnext
  refine ⟨?_, by rw [hsnd, hbuf]; exact .of_drained hd⟩
  rw [hzero]
  cases hmove with
  | abort seq sentFin state => exact .abort (hsnd ▸ seq) (hsnd ▸ sentFin) (hstate.trans state)
  | data T' le seq sentFin state =>
    exact .data T' le (hsnd ▸ seq) (hsnd ▸ sentFin) (hstate.trans state)
  | dataFin T' le seq sentFin state pos =>
    exact .dataFin T' le (hsnd ▸ seq) (hsnd ▸ sentFin) (hstate ▸ state) pos
  | fin T' le seq sentFin state ready again =>
    exact .fin T' le (hsnd ▸ seq) (hsnd ▸ sentFin) (hstate ▸ state) ready again

theorem TxMoved.loop (hseq : SeqAt iss F R T c.tcb.snd) (hd : Drained c c₁) (next : Option STATES)
    (shutReq closeReq : Bool) (hnext : ¬ (next.getD c.tcb.state).Streaming)
    (hret : (txLoop c₁ (drainSndBuf c.tcb.snd).1 next shutReq closeReq).fault = none) :
    TxMoved iss F R T (drainLen c.tcb.snd) c
      (txLoop c₁ (drainSndBuf c.tcb.snd).1 next shutReq closeReq).st := by
  obtain ⟨hmove, hbuf⟩ := txLoop_txMove hseq hd next shutReq closeReq hnext hret
  exact ⟨hmove, by rw [hbuf]; exact .of_drained hd⟩

/-- A send handler on each of its paths. -/
theorem TxPath.txMoved {next : Option STATES} {shutReq closeReq : Bool} {o : Outcome}
    (hpath : TxPath c c₁ next shutReq closeReq o) (hd : Drained c c₁)
    (hseq : SeqAt iss F R T c.tcb.snd) (hplain : c.tcb.state.Streaming → c.tcb.snd.sentFin = false)
    (hnext : ¬ (next.getD c.tcb.state).Streaming) (hret : o.fault = none) :
    TxMoved iss F R T (drainLen c.tcb.snd) c o.st := by
  have hnil := (drainSndBuf_views c.tcb.snd).1
  cases hpath with
  | abort nil => exact .quiet hseq hd (hnil.1 nil) (by simp) (Or.inr (by simp))
  | fin c' nil _ _ _ sent =>
    rcases sent with rfl | rfl
    · exact .sendFin hseq hd hplain (hnil.1 nil) next hnext rfl rfl
    · exact .sendFin hseq hd hplain (hnil.1 nil) next hnext rfl rfl
  | quiet c' nil _ _ sent =>
    rcases sent with rfl | rfl
    · exact .quiet hseq hd (hnil.1 nil) rfl (Or.inl hd.state)
    · exact .quiet hseq hd (hnil.1 nil) rfl (Or.inl hd.state)
  | loop _ => exact .loop hseq hd next shutReq closeReq hnext hret

/-- **A send handler that returns.** -/
theorem tx_txMoved (hseq : SeqAt iss F R T c.tcb.snd)
    (hplain : c.tcb.state.Streaming → c.tcb.snd.sentFin = false) (hopen : c.tcb.state.Opened)
    (hret : c.tx.fault = none) : ∃ n, TxMoved iss F R T n c c.tx.st := by
  have hdisj := c.tcb.state.streaming_ending_ended_disjoint
  rcases hopen with hs | hs | hs
  · obtain ⟨c₁, hdrain, hpath⟩ := Conn.tx_streaming hs
    have hend : ¬ c.tcb.state.behindFin.Streaming :=
      fun h => c.tcb.state.behindFin.streaming_ending_ended_disjoint.1 ⟨h, hs.behindFin⟩
    exact ⟨_, hpath.txMoved hdrain.drained hseq hplain hend hret⟩
  · obtain ⟨c₁, hdrain, hpath⟩ := Conn.tx_ending hs
    exact ⟨_, hpath.txMoved hdrain.drained hseq hplain (fun h => hdisj.1 ⟨h, hs⟩) hret⟩
  · rcases Conn.tx_ended hs with htx | ⟨-, -, htx⟩ | htx
    · rw [htx]
      exact ⟨0, .same hseq rfl (Or.inl rfl)⟩
    · rw [htx]
      exact ⟨0, .same hseq (by simp) (Or.inr (by simp))⟩
    · rw [htx] at hret
      exact absurd hret (by simp)

end Send

/-! ## Receiving -/

/-- What a segment has done: `k` sequence numbers were acknowledged, and the ring was freed. -/
structure RxMove (iss : Int) (F R T k : Nat) (s s' : SndVars) : Prop where
  seq : SeqAt iss (F + k) R T s'
  size_eq : s'.sndBuf.size = s.sndBuf.size
  vr_eq : s'.sndBuf.vr = s.sndBuf.vr
  ready_eq : s'.sndBuf.ready = s.sndBuf.ready
  sentFin : s'.sentFin = s.sentFin

/-- The ring was freed by what was acknowledged. -/
def FreesAcked (k : Nat) (s s' : SndVars) : Prop := s'.sndBuf.r = (s.sndBuf.r + k) % s.sndBuf.size

section Receive

variable {iss : Int} {F R T k : Nat} {s s' : SndVars} {c : Conn} {p : Segment}

theorem RxMove.refl (h : SeqAt iss F R T s) : RxMove iss F R T 0 s s := ⟨h, rfl, rfl, rfl, rfl⟩

theorem FreesAcked.refl (s : SndVars) : FreesAcked 0 s s := (Nat.mod_eq_of_lt s.sndBuf.r_lt).symm

theorem RxMove.wnd (h : RxMove iss F R T k s s') : RxMove iss F R T k s (hRxWnd s' p) where
  seq := hRxWnd_seqAt h.seq
  size_eq := by rw [hRxWnd_sndBuf]; exact h.size_eq
  vr_eq := by rw [hRxWnd_sndBuf]; exact h.vr_eq
  ready_eq := by rw [hRxWnd_sndBuf]; exact h.ready_eq
  sentFin := by rw [hRxWnd_sentFin]; exact h.sentFin

theorem RxMove.free (h : RxMove iss F R T k s s') (n : Int) :
    RxMove iss F R T k s (freeSndBuf s' n) :=
  ⟨⟨h.seq.una_eq, h.seq.nxt_eq, h.seq.max_eq, h.seq.una_le, h.seq.nxt_le⟩, h.size_eq, h.vr_eq,
    h.ready_eq, h.sentFin⟩

theorem FreesAcked.wnd (h : FreesAcked k s s') : FreesAcked k s (hRxWnd s' p) := by
  rw [FreesAcked, hRxWnd_sndBuf]
  exact h

/-- **`_h_rx_ack`**, and freeing what it says was acknowledged. -/
theorem hRxAck_rxMove (h : SeqAt iss F R T s) (hp : 0 ≤ p.ackSeq ∧ p.ackSeq < 4294967296) :
    ∃ k, RxMove iss F R T k s (hRxAck s p).1 ∧ (k = 0 → (hRxAck s p).1 = s) ∧
      (hRxAck s p).2 = k ∧ FreesAcked k s (freeSndBuf (hRxAck s p).1 (hRxAck s p).2) := by
  obtain ⟨k, hk, hseq, heq, -⟩ := hRxAck_seqAt h hp
  have hbuf : (hRxAck s p).1.sndBuf = s.sndBuf := by rw [heq]
  have hfin : (hRxAck s p).1.sentFin = s.sentFin := by rw [heq]
  refine ⟨k, ⟨hseq, by rw [hbuf], by rw [hbuf], by rw [hbuf], hfin⟩, ?_, hk, ?_⟩
  · rintro rfl
    exact hRxAck_of_not_pos h.una_range hp (by rw [hk]; simp)
  · rw [FreesAcked, hk]
    simp only [freeSndBuf, hbuf]
    exact s.sndBuf.free_natCast_r k

theorem rxEstab_rxMove (h : SeqAt iss F R T c.tcb.snd) (hp : p.Parsed) :
    ∃ k, RxMove iss F R T k c.tcb.snd (c.rxEstab p).tcb.snd ∧
      FreesAcked k c.tcb.snd (c.rxEstab p).tcb.snd := by
  have hrefl : ∃ k, RxMove iss F R T k c.tcb.snd c.tcb.snd ∧ FreesAcked k c.tcb.snd c.tcb.snd :=
    ⟨0, .refl h, .refl _⟩
  unfold Conn.rxEstab
  simp only
  split
  · split
    · simpa using hrefl
    · split
      · simpa using hrefl
      · have hp' : 0 ≤ (hRxSeq c.tcb.rcv p).seg.ackSeq ∧
            (hRxSeq c.tcb.rcv p).seg.ackSeq < 4294967296 := by
          rw [hRxSeq_ackSeq]
          exact hp.ackSeq_range
        obtain ⟨k, hmove, hzero, hk, hfree⟩ := hRxAck_rxMove h hp'
        rw [Conn.estabAccept_snd, Conn.estabAck_snd]
        simp only [Conn.setRcv_tcb, TCPCB.setRcv_snd]
        refine ⟨k, ?_, ?_⟩
        · split
          · exact (hmove.free _).wnd
          · exact hmove.wnd
        · split
          · exact hfree.wnd
          · next hpos =>
            obtain rfl : k = 0 := by omega
            rw [hzero rfl]
            exact (FreesAcked.refl _).wnd
  · simpa using hrefl
  · simpa using hrefl

theorem rxCloseWait_rxMove (h : SeqAt iss F R T c.tcb.snd) (hp : p.Parsed) :
    ∃ k, RxMove iss F R T k c.tcb.snd (c.rxCloseWait p).tcb.snd ∧
      FreesAcked k c.tcb.snd (c.rxCloseWait p).tcb.snd := by
  have hrefl : ∃ k, RxMove iss F R T k c.tcb.snd c.tcb.snd ∧ FreesAcked k c.tcb.snd c.tcb.snd :=
    ⟨0, .refl h, .refl _⟩
  unfold Conn.rxCloseWait
  split_ifs
  · simpa using hrefl
  · simpa using hrefl
  · simpa using hrefl
  · obtain ⟨k, hmove, -, hk, hfree⟩ := hRxAck_rxMove h hp.ackSeq_range
    rw [Conn.scheduleEvent_tcb, Conn.closeWaitAck_snd]
    refine ⟨k, hmove.wnd.free _, ?_⟩
    rw [FreesAcked, freeSndBuf, hRxWnd_sndBuf]
    exact hfree
  · exact hrefl

/-- The acknowledgement of the states that end the stream. -/
theorem RxMove.ending (h : SeqAt iss F R T s) (hp : 0 ≤ p.ackSeq ∧ p.ackSeq < 4294967296) :
    ∃ k, RxMove iss F R T k s (ackBehindFin s p) := by
  obtain ⟨k, hmove, -⟩ := hRxAck_rxMove h hp
  refine ⟨k, ?_⟩
  unfold ackBehindFin
  split_ifs
  · exact hmove.free _
  · exact hmove.free _
  · exact hmove

theorem rxFinWait1_rxMove (h : SeqAt iss F R T c.tcb.snd) (hp : p.Parsed) :
    ∃ k, RxMove iss F R T k c.tcb.snd (c.rxFinWait1 p).tcb.snd := by
  have hrefl : ∃ k, RxMove iss F R T k c.tcb.snd c.tcb.snd := ⟨0, .refl h⟩
  unfold Conn.rxFinWait1
  simp only
  split
  · split_ifs
    · simpa using hrefl
    · simpa using hrefl
    · simpa using hrefl
    · have hp' : 0 ≤ (hRxSeq c.tcb.rcv p).seg.ackSeq ∧
          (hRxSeq c.tcb.rcv p).seg.ackSeq < 4294967296 := by
        rw [hRxSeq_ackSeq]
        exact hp.ackSeq_range
      obtain ⟨k, hmove⟩ := RxMove.ending h hp'
      rw [Conn.finWait1Accept_snd, Conn.finWait1Ack_snd]
      exact ⟨k, hmove.wnd⟩
  · simpa using hrefl
  · simpa using hrefl

theorem rxFinWait2_rxMove (h : SeqAt iss F R T c.tcb.snd) (hp : p.Parsed) :
    ∃ k, RxMove iss F R T k c.tcb.snd (c.rxFinWait2 p).tcb.snd := by
  have hrefl : ∃ k, RxMove iss F R T k c.tcb.snd c.tcb.snd := ⟨0, .refl h⟩
  unfold Conn.rxFinWait2
  simp only
  split
  · split_ifs
    · simpa using hrefl
    · simpa using hrefl
    · simpa using hrefl
    · have hp' : 0 ≤ (hRxSeq c.tcb.rcv p).seg.ackSeq ∧
          (hRxSeq c.tcb.rcv p).seg.ackSeq < 4294967296 := by
        rw [hRxSeq_ackSeq]
        exact hp.ackSeq_range
      obtain ⟨k, hmove, -⟩ := hRxAck_rxMove h hp'
      refine ⟨k, ?_⟩
      simp only [Conn.finWait2Accept]
      split <;> split <;> simpa using hmove.wnd
  · simpa using hrefl
  · simpa using hrefl

theorem rxClosing_rxMove (h : SeqAt iss F R T c.tcb.snd) (hp : p.Parsed) :
    ∃ k, RxMove iss F R T k c.tcb.snd (c.rxClosing p).tcb.snd := by
  have hrefl : ∃ k, RxMove iss F R T k c.tcb.snd c.tcb.snd := ⟨0, .refl h⟩
  unfold Conn.rxClosing
  split_ifs
  · simpa using hrefl
  · simpa using hrefl
  · simpa using hrefl
  · obtain ⟨k, hmove⟩ := RxMove.ending h hp.ackSeq_range
    rw [← c.closingAck_snd p] at hmove
    exact ⟨k, hmove.wnd⟩
  · exact hrefl

theorem rxLastAck_rxMove (h : SeqAt iss F R T c.tcb.snd) (hp : p.Parsed) :
    ∃ k, RxMove iss F R T k c.tcb.snd (c.rxLastAck p).tcb.snd := by
  have hrefl : ∃ k, RxMove iss F R T k c.tcb.snd c.tcb.snd := ⟨0, .refl h⟩
  unfold Conn.rxLastAck
  split_ifs
  · simpa using hrefl
  · simpa using hrefl
  · obtain ⟨k, hmove⟩ := RxMove.ending h hp.ackSeq_range
    rw [← c.lastAckAck_snd p] at hmove
    exact ⟨k, hmove.wnd⟩
  · exact hrefl

/-- **A segment.** In the states that stream, the ring is freed by what was acknowledged. -/
theorem rx_rxMove (packet : TCPParser) (h : SeqAt iss F R T c.tcb.snd)
    (hopen : c.tcb.state.Opened) :
    ∃ k, RxMove iss F R T k c.tcb.snd (c.rx packet).st.tcb.snd ∧
      (c.tcb.state.Streaming → FreesAcked k c.tcb.snd (c.rx packet).st.tcb.snd) := by
  have hp := packet.parsed
  have hnot : ∀ {x : STATES} {s s' : SndVars}, ¬ x.Streaming → (∃ k, RxMove iss F R T k s s') →
      ∃ k, RxMove iss F R T k s s' ∧ (x.Streaming → FreesAcked k s s') := by
    rintro x s s' hno ⟨k, hk⟩
    exact ⟨k, hk, fun hs => absurd hs hno⟩
  unfold Conn.rx
  cases hs : c.tcb.state with
  | listen | synSent | synRecv => exact absurd hopen (by rw [hs]; decide)
  | estab =>
    obtain ⟨k, hmove, hfree⟩ := rxEstab_rxMove h hp
    exact ⟨k, hmove, fun _ => hfree⟩
  | closeWait =>
    obtain ⟨k, hmove, hfree⟩ := rxCloseWait_rxMove h hp
    exact ⟨k, hmove, fun _ => hfree⟩
  | finWait1 => exact hnot (by decide) (rxFinWait1_rxMove h hp)
  | finWait2 => exact hnot (by decide) (rxFinWait2_rxMove h hp)
  | closing => exact hnot (by decide) (rxClosing_rxMove h hp)
  | lastAck => exact hnot (by decide) (rxLastAck_rxMove h hp)
  | timeWait =>
    refine hnot (by decide) ⟨0, ?_⟩
    simp only [Outcome.ok_st, Conn.rxTimeWait]
    split <;> simpa using RxMove.refl h
  | closed => exact hnot (by decide) ⟨0, .refl h⟩

end Receive

/-! ## The invariant -/

/-- The send side after `E` bytes were enqueued, counted from `snd_una`. -/
structure InStep (iss : Int) (E F R T : Nat) (c : Conn) : Prop where
  seq : SeqAt iss F R T c.tcb.snd
  opened : c.tcb.state.Opened
  size_eq : c.tcb.snd.sndBuf.size = DEFAULT_SEND_BUFF
  nxt_le : R + 2 * c.tcb.snd.sndBuf.ready ≤ F + 2 * E + 131068 + c.tcb.snd.sentFin.toNat
  max_le : T ≤ F + 2 * E + 131069
  plain : c.tcb.state.Streaming → c.tcb.snd.sentFin = false
  coupled : c.tcb.state.Streaming →
    c.tcb.snd.sndBuf.vr = (c.tcb.snd.sndBuf.r + (R - F)) % c.tcb.snd.sndBuf.size

namespace InStep

variable {iss : Int} {E F R T : Nat} {c : Conn}

theorem tx (h : InStep iss E F R T c) (hret : c.tx.fault = none) :
    ∃ R' T', InStep iss E F R' T' c.tx.st := by
  obtain ⟨n, hmove, hdrain⟩ := tx_txMoved h.seq h.plain h.opened hret
  obtain ⟨hopen, hback⟩ := h.opened.of_successors c.tx_next
  have hF := h.seq.una_le
  have hT := h.max_le
  have hN := h.nxt_le
  have hready := hdrain.ready_eq
  have hsize := hdrain.size_eq.trans h.size_eq
  have hbit : c.tcb.snd.sentFin.toNat ≤ 1 := by cases c.tcb.snd.sentFin <;> decide
  cases hmove with
  | abort seq sentFin state =>
    have hno : ¬ c.tx.st.tcb.state.Streaming := by
      rw [state]
      decide
    exact ⟨R, T, seq, hopen, hsize, by rw [sentFin]; omega, hT, fun hs => absurd hs hno,
      fun hs => absurd hs hno⟩
  | data T' le seq sentFin state =>
    refine ⟨R + n, T', seq, hopen, hsize, by rw [sentFin]; omega, by omega,
      fun hs => ?_, fun hs => ?_⟩
    · rw [sentFin]
      exact h.plain (hback hs)
    · rw [hdrain.vr_eq, hdrain.r_eq, hdrain.size_eq, h.coupled (hback hs), Nat.mod_add_mod]
      congr 1
      omega
  | dataFin T' le seq sentFin state pos =>
    exact ⟨R + n + 1, T', seq, hopen, hsize, by rw [sentFin, Bool.toNat_true]; omega, by omega,
      fun hs => absurd hs state, fun hs => absurd hs state⟩
  | fin T' le seq sentFin state ready again =>
    have hone : R + 1 ≤ F + 2 * E + 131069 := by
      cases hs : c.tcb.snd.sentFin with
      | true =>
        have := again hs
        omega
      | false =>
        rw [hs, Bool.toNat_false] at hN
        omega
    exact ⟨R + 1, T', seq, hopen, hsize, by rw [sentFin, Bool.toNat_true]; omega, by omega,
      fun hs => absurd hs state, fun hs => absurd hs state⟩

theorem prepareRtx (h : InStep iss E F R T c) : InStep iss E F F T c.prepareRtx := by
  have hF := h.seq.una_le
  have hR := h.seq.nxt_le
  have hlt : c.prepareRtx.tcb.snd.sndBuf.ready < DEFAULT_SEND_BUFF := by
    rw [← h.size_eq]
    exact c.tcb.snd.sndBuf.rollBackToR.ready_lt
  simp only [DEFAULT_SEND_BUFF] at hlt
  refine ⟨⟨h.seq.una_eq, h.seq.una_eq, h.seq.max_eq, le_rfl, by omega⟩, h.opened,
    h.size_eq, by omega,
    h.max_le, h.plain, fun _ => ?_⟩
  rw [Nat.sub_self, Nat.add_zero]
  exact (Nat.mod_eq_of_lt c.tcb.snd.sndBuf.r_lt).symm

theorem rx (h : InStep iss E F R T c) (packet : TCPParser) :
    ∃ F', InStep iss E F' R T (c.rx packet).st := by
  obtain ⟨k, hmove, hfree⟩ := rx_rxMove packet h.seq h.opened
  obtain ⟨hopen, hback⟩ := h.opened.of_successors (c.rx_next packet)
  have hN := h.nxt_le
  have hT := h.max_le
  have hk := hmove.seq.una_le
  refine ⟨F + k, hmove.seq, hopen, hmove.size_eq.trans h.size_eq, ?_, by omega, fun hs => ?_,
    fun hs => ?_⟩
  · rw [hmove.ready_eq, hmove.sentFin]
    omega
  · rw [hmove.sentFin]
    exact h.plain (hback hs)
  · rw [hmove.vr_eq, hmove.size_eq, h.coupled (hback hs), hfree (hback hs), Nat.mod_add_mod]
    congr 1
    omega

theorem usr (h : InStep iss E F R T c) (q : UserRequest) :
    InStep iss (E + SendRun.enqueued c (.usr q)) F R T (q.apply c) := by
  cases q with
  | tcpSend data =>
    simp only [UserRequest.apply, Conn.tcpSend, SendRun.enqueued]
    split
    · exact h
    · have hN := h.nxt_le
      have hT := h.max_le
      have hready := c.tcb.snd.sndBuf.enqueue_ready data
      have henq := c.tcb.snd.sndBuf.enqueue_eq data
      refine ⟨⟨h.seq.una_eq, h.seq.nxt_eq, h.seq.max_eq, h.seq.una_le, h.seq.nxt_le⟩,
        h.opened, ?_, ?_, by omega, h.plain, ?_⟩ <;>
        simp only [Conn.scheduleEvent_tcb, Conn.setSnd_tcb, TCPCB.setSnd_snd]
      · rw [henq]
        exact h.size_eq
      · rw [hready]
        omega
      · rw [henq]
        exact h.coupled
  | tcpRecv n =>
    simp only [UserRequest.apply, Conn.tcpRecv]
    split <;> exact ⟨h.seq, h.opened, h.size_eq, h.nxt_le, h.max_le, h.plain, h.coupled⟩
  | tcpClose => exact ⟨h.seq, h.opened, h.size_eq, h.nxt_le, h.max_le, h.plain, h.coupled⟩
  | tcpShutdown => exact ⟨h.seq, h.opened, h.size_eq, h.nxt_le, h.max_le, h.plain, h.coupled⟩
  | tick ns => exact ⟨h.seq, h.opened, h.size_eq, h.nxt_le, h.max_le, h.plain, h.coupled⟩

/-- **One event** that returns. -/
theorem step {t : SendRun} (h : InStep iss t.total F R T t.o.st) {e : ConnEvent}
    (hret : (t.step e).o.fault = none) :
    ∃ F' R' T', InStep iss (t.step e).total F' R' T' (t.step e).o.st := by
  have hbefore : t.o.fault = none := Outcome.fault_of_step hret
  cases e with
  | usr q => exact ⟨F, R, T, h.usr q⟩
  | rx packet =>
    obtain ⟨F', h'⟩ := h.rx packet
    refine ⟨F', R, T, ?_⟩
    simpa only [SendRun.step, Outcome.step, hbefore, ConnEvent.handler, SendRun.enqueued,
      Nat.add_zero] using h'
  | tx =>
    simp only [SendRun.step, Outcome.step, hbefore, ConnEvent.handler] at hret ⊢
    obtain ⟨R', T', h'⟩ := h.tx hret
    exact ⟨F, R', T', h'⟩
  | rtx =>
    simp only [SendRun.step, Outcome.step, hbefore, ConnEvent.handler] at hret ⊢
    obtain ⟨R', T', h'⟩ := h.prepareRtx.tx hret
    exact ⟨F, R', T', h'⟩

end InStep

/-! ## What is retransmitted first -/

/-- Segments were added to the log, and the first of them with data, if there is one, has this
sequence number and begins with this byte. -/
def FirstData (seq : Int) (b : UInt8) (out out' : List (SockId × TxTcp)) : Prop :=
  ∃ new, out' = out ++ new ∧ ∀ e, new.find? (fun e => e.2.data ≠ []) = some e →
    e.2.seq = seq ∧ e.2.data.head? = some b

section FirstData

variable {seq : Int} {b : UInt8} {out out' : List (SockId × TxTcp)} {c c₁ : Conn}

theorem FirstData.refl : FirstData seq b out out := ⟨[], by simp, by simp⟩

theorem FirstData.empty (out : List (SockId × TxTcp)) (id : SockId) {seg : TxTcp}
    (hdata : seg.data = []) :
    FirstData seq b out (out ++ [(id, seg)]) :=
  ⟨[(id, seg)], rfl, by simp [hdata]⟩

/-- A segment without data puts off the first one with data. -/
theorem FirstData.cons_empty (id : SockId) {seg : TxTcp} (hdata : seg.data = [])
    (h : FirstData seq b (out ++ [(id, seg)]) out') : FirstData seq b out out' := by
  obtain ⟨new, hnew, hfirst⟩ := h
  refine ⟨(id, seg) :: new, by simpa using hnew, fun e he => hfirst e ?_⟩
  simpa [List.find?_cons, hdata] using he

theorem FirstData.cons_data (id : SockId) {seg : TxTcp} (hdata : seg.data.head? = some b)
    (hseq : seg.seq = seq) (h : out ++ [(id, seg)] <+: out') : FirstData seq b out out' := by
  obtain ⟨rest, hrest⟩ := h
  have hne : seg.data ≠ [] := by
    rintro hnil
    rw [hnil] at hdata
    cases hdata
  refine ⟨(id, seg) :: rest, by simpa using hrest.symm, fun e he => ?_⟩
  have hfound : (id, seg) = e := by simpa [List.find?_cons, hne] using he
  rw [← hfound]
  exact ⟨hseq, hdata⟩

theorem txTurns_out_prefix (next : Option STATES) (wantFin : Bool) (turns : Nat) (c : Conn)
    (data : List (List UInt8)) (dlen sndWnd counter : Nat) :
    c.core.out <+: (txTurns next wantFin turns c data dlen sndWnd counter).st.core.out := by
  refine txTurns_inv (I := fun c' => c.core.out <+: c'.core.out) ?_ ?_ ?_ _
    (List.prefix_refl _) _ _ _ _
  · intro c' data fin h
    rw [afterSegment_out]
    exact h.trans (List.prefix_append _ _)
  · intro c' h
    cases next <;> simpa using h
  · intro c' h
    simpa using h

/-- A turn with room for a byte sends the first one; a turn without room sends nothing. -/
theorem generateSegmentPayload_head (n : Nat) {buf : List UInt8} (bufs : List (List UInt8))
    (hbyte : buf.head? = some b) :
    (generateSegmentPayload n (buf :: bufs)).1.head? = some b ∨
      generateSegmentPayload n (buf :: bufs) = ([], buf :: bufs) := by
  have hpos : 0 < buf.length := by
    cases buf with
    | nil => simp at hbyte
    | cons x xs => simp
  simp only [generateSegmentPayload]
  split
  · exact Or.inl hbyte
  · by_cases hzero : n = 0
    · right
      simp [hzero]
    · left
      simpa [List.head?_take, hzero] using hbyte

/-- The loop starts with the first byte it was given, at `snd_nxt`. -/
theorem txTurns_firstData (next : Option STATES) (wantFin : Bool) (turns : Nat) (c : Conn)
    {buf : List UInt8} (bufs : List (List UInt8)) (dlen sndWnd counter : Nat)
    (hbyte : buf.head? = some b) (hrange : c.tcb.snd.sndNxt % 4294967296 = c.tcb.snd.sndNxt) :
    FirstData c.tcb.snd.sndNxt b c.core.out
      (txTurns next wantFin turns c (buf :: bufs) dlen sndWnd counter).st.core.out := by
  induction turns generalizing c dlen sndWnd counter with
  | zero =>
    unfold txTurns
    split
    · simpa using FirstData.refl
    · exact .refl
  | succ turns ih =>
    have hpay := generateSegmentPayload_head (min (min c.tcb.snd.remoteMss sndWnd) dlen) bufs hbyte
    unfold txTurns
    generalize generateSegmentPayload (min (min c.tcb.snd.remoteMss sndWnd) dlen) (buf :: bufs) = g
      at hpay ⊢
    obtain ⟨seg, rest⟩ := g
    simp only
    split
    · simpa using FirstData.refl
    · split
      · exact .refl
      · rcases hpay with hhead | hnone
        · -- the first byte goes out, and the log only grows after it
          have hdata : (c.dataSegment seg (wantFin && rest.isEmpty)).data.head? = some b := hhead
          refine .cons_data c.tcb.socketId hdata rfl ?_
          rw [← afterSegment_out]
          split
          · cases next <;> simp
          · split
            · simp
            · split
              · simp
              · exact txTurns_out_prefix ..
        · obtain ⟨rfl, rfl⟩ := Prod.mk.inj hnone
          have hnxt : (c.afterSegment [] false).tcb.snd.sndNxt = c.tcb.snd.sndNxt := by
            simpa using hrange
          have hempty : (c.dataSegment [] false).data = [] := rfl
          simp only [List.isEmpty_cons, Bool.and_false, Bool.false_eq_true, if_false]
          split
          · simpa using FirstData.empty c.core.out c.tcb.socketId hempty
          · split
            · simpa using FirstData.empty c.core.out c.tcb.socketId hempty
            · refine .cons_empty c.tcb.socketId hempty ?_
              have hrec := ih (c.afterSegment [] false) (dlen - ([] : List UInt8).length)
                (sndWnd - ([] : List UInt8).length) (counter + ([] : List UInt8).length)
                (by rw [hnxt]; exact hrange)
              rwa [hnxt, afterSegment_out] at hrec

theorem hActiveCloseTx_firstData (c : Conn) :
    FirstData seq b c.core.out c.hActiveCloseTx.core.out := by
  have hout : c.hActiveCloseTx.core.out = c.core.out ++
      [(c.tcb.socketId,
          { c.stopAllTimers.header with ack := true, rst := true, window := 0 })] := by
    simp [Conn.hActiveCloseTx, Conn.sendRst, Conn.stopAllTimers]
  rw [hout]
  exact .empty _ _ rfl

theorem sendFin_firstData (seq : Int) (b : UInt8) (c : Conn) (next : Option STATES) :
    FirstData seq b c.core.out (c.sendFin next).core.out := by
  rcases c.sendFin_out next with hout | hout
  · rw [hout]
    exact .refl
  · rw [hout]
    exact .empty _ _ rfl

/-- The views `_drain_snd_buf` returns have the bytes from the read offset on. -/
theorem drainSndBuf_flatten (s : SndVars) : (drainSndBuf s).1.flatten =
    loadCyc s.sndBuf.ring s.sndBuf.size s.sndBuf.vr (drainLen s) := by
  rw [drainLen, ← (s.sndBuf.dequeue_spec (min TCP_MAX_TX_BYTES s.sndWnd)).2.1]
  simp [drainSndBuf, viewBytes, List.flatMap_def]

/-- They begin with the byte at that offset. -/
theorem drainSndBuf_head (s : SndVars) (hlen : drainLen s ≠ 0) :
    ∃ buf bufs, (drainSndBuf s).1 = buf :: bufs ∧ buf.head? = some (s.sndBuf.ring s.sndBuf.vr) := by
  obtain ⟨-, -, hne⟩ := drainSndBuf_views s
  have hfirst : (drainSndBuf s).1.flatten.head? = some (s.sndBuf.ring s.sndBuf.vr) := by
    rw [drainSndBuf_flatten, List.head?_eq_getElem?, getElem?_loadCyc (by omega), Nat.add_zero,
      Nat.mod_eq_of_lt s.sndBuf.vr_lt]
  cases hviews : (drainSndBuf s).1 with
  | nil => simp [hviews] at hfirst
  | cons buf bufs =>
    have hbuf : buf ≠ [] := hne hlen buf (by rw [hviews]; exact List.mem_cons_self)
    rw [hviews, List.flatten_cons, List.head?_append_of_ne_nil _ hbuf] at hfirst
    exact ⟨buf, bufs, rfl, hfirst⟩

theorem txLoop_firstData (hd : Drained c c₁) (next : Option STATES) (shutReq closeReq : Bool)
    (hrange : c.tcb.snd.sndNxt % 4294967296 = c.tcb.snd.sndNxt) :
    FirstData c.tcb.snd.sndNxt (c.tcb.snd.sndBuf.ring c.tcb.snd.sndBuf.vr) c.core.out
      (txLoop c₁ (drainSndBuf c.tcb.snd).1 next shutReq closeReq).st.core.out := by
  have hnxt : c₁.tcb.snd.sndNxt = c.tcb.snd.sndNxt := by rw [hd.snd]; rfl
  have hsum := (drainSndBuf_views c.tcb.snd).2.1
  rw [← drainLen] at hsum
  rw [← hd.out]
  unfold txLoop
  simp only [hsum]
  split
  · exact hActiveCloseTx_firstData c₁
  · by_cases hzero : drainLen c.tcb.snd = 0
    · rw [hzero]
      simpa [txTurns] using FirstData.refl
    · obtain ⟨buf, bufs, hviews, hbyte⟩ := drainSndBuf_head c.tcb.snd hzero
      rw [hviews, ← hnxt]
      exact txTurns_firstData next _ _ c₁ bufs _ _ _ hbyte (by rw [hnxt]; exact hrange)

/-- **The first data segment** of a send handler of the states that stream. -/
theorem tx_firstData (hs : c.tcb.state.Streaming)
    (hrange : c.tcb.snd.sndNxt % 4294967296 = c.tcb.snd.sndNxt) :
    FirstData c.tcb.snd.sndNxt (c.tcb.snd.sndBuf.ring c.tcb.snd.sndBuf.vr) c.core.out
      c.tx.st.core.out := by
  have hcases : c.tcb.state = .estab ∨ c.tcb.state = .closeWait := by
    simpa [STATES.Streaming] using hs
  rcases hcases with hs | hs
  · have hd : Drained c ((c.setSnd (drainSndBuf c.tcb.snd).2).computeWnd) := ⟨rfl, rfl, rfl, rfl⟩
    simp only [Conn.tx, hs, Conn.txEstab]
    split_ifs
    · exact hActiveCloseTx_firstData _
    · simpa using sendFin_firstData c.tcb.snd.sndNxt (c.tcb.snd.sndBuf.ring c.tcb.snd.sndBuf.vr)
        ((c.setSnd (drainSndBuf c.tcb.snd).2).computeWnd) (some .finWait1)
    · exact .empty _ _ rfl
    · exact .refl
    · exact txLoop_firstData hd _ _ _ hrange
  · have hd : Drained c (c.computeWnd.setSnd (drainSndBuf c.tcb.snd).2) := ⟨rfl, rfl, rfl, rfl⟩
    simp only [Conn.tx, hs, Conn.txCloseWait]
    split_ifs
    · exact hActiveCloseTx_firstData _
    · exact sendFin_firstData _ _ _ _
    · exact .empty _ _ rfl
    · exact .refl
    · exact txLoop_firstData hd _ _ _ hrange

end FirstData

/-! ## Runs -/

/-- A control block that has just entered `ESTAB` with nothing in flight. -/
structure EntersEstab (t : TCPCB) : Prop where
  state : t.state = .estab
  una_range : 0 ≤ t.snd.sndUna ∧ t.snd.sndUna < 4294967296
  nxt_eq : t.snd.sndNxt = t.snd.sndUna
  max_eq : t.snd.sndMax = t.snd.sndUna
  sentFin : t.snd.sentFin = false
  size_eq : t.snd.sndBuf.size = DEFAULT_SEND_BUFF
  vr_eq : t.snd.sndBuf.vr = t.snd.sndBuf.r

theorem EntersEstab.inStep {c : Conn} (h : EntersEstab c.tcb) :
    InStep (c.tcb.snd.sndUna - 1) 0 0 0 0 c := by
  have hzero : c.tcb.snd.sndUna = seqOf (c.tcb.snd.sndUna - 1) 0 := by
    obtain ⟨hlo, hhi⟩ := h.una_range
    unfold seqOf
    omega
  have hlt := c.tcb.snd.sndBuf.ready_lt
  rw [h.size_eq] at hlt
  simp only [DEFAULT_SEND_BUFF] at hlt
  refine ⟨⟨hzero, h.nxt_eq.trans hzero, h.max_eq.trans hzero, le_rfl, le_rfl⟩, ?_,
    h.size_eq, by omega,
    by omega, fun _ => h.sentFin, fun _ => ?_⟩
  · rw [h.state]
    decide
  · rw [h.vr_eq]
    exact (Nat.mod_eq_of_lt c.tcb.snd.sndBuf.r_lt).symm

/-- What the sequence numbers and the offsets of the ring have to do with each other. -/
structure SeqCoupled (c : Conn) : Prop where
  nxt_le_max : (c.tcb.snd.sndNxt - c.tcb.snd.sndUna) % 4294967296 ≤
    (c.tcb.snd.sndMax - c.tcb.snd.sndUna) % 4294967296
  max_lt : (c.tcb.snd.sndMax - c.tcb.snd.sndUna) % 4294967296 < 2147483648
  noFin : c.tcb.state.Streaming → c.tcb.snd.sentFin = false
  ring : c.tcb.state.Streaming →
    ((c.tcb.snd.sndBuf.vr : Int) - c.tcb.snd.sndBuf.r) % c.tcb.snd.sndBuf.size =
      (c.tcb.snd.sndNxt - c.tcb.snd.sndUna) % 4294967296 % c.tcb.snd.sndBuf.size
  resend : c.tcb.state.Streaming →
    FirstData c.tcb.snd.sndUna (c.tcb.snd.sndBuf.ring c.tcb.snd.sndBuf.r) c.core.out
      c.rtx.st.core.out

theorem InStep.seqCoupled {iss : Int} {E F R T : Nat} {c : Conn} (h : InStep iss E F R T c)
    (hE : E < 536870912) : SeqCoupled c := by
  obtain ⟨huna, hnxt, hmax, hF, hR⟩ := h.seq
  have hT := h.max_le
  have hdist : (c.tcb.snd.sndNxt - c.tcb.snd.sndUna) % 4294967296 = ((R - F : Nat) : Int) := by
    rw [hnxt, huna]
    unfold seqOf
    omega
  have hdist' : (c.tcb.snd.sndMax - c.tcb.snd.sndUna) % 4294967296 = ((T - F : Nat) : Int) := by
    rw [hmax, huna]
    unfold seqOf
    omega
  refine ⟨by omega, by omega, h.plain, fun hs => ?_, fun hs => ?_⟩
  · rw [hdist, h.coupled hs]
    push_cast
    rw [Int.emod_sub_emod, add_sub_cancel_left]
  · have hrange : c.tcb.snd.sndUna % 4294967296 = c.tcb.snd.sndUna := by
      rw [huna]
      exact Int.emod_emod_of_dvd _ (dvd_refl _)
    exact tx_firstData (c := c.prepareRtx) hs hrange

/-- **The send side keeps in step.** From a control block that has just entered `ESTAB` with nothing
in flight, in every run of requests and events whose handlers return and in which less than `2 ^ 29`
bytes are enqueued: `snd_nxt` is no further from `snd_una` than `snd_max`, which is less than `2 ^
31` away; in the states that stream no FIN was sent, the ring and the sequence numbers are at the
same distance, and the first data segment of a retransmission is that of the byte at `r`, at
`snd_una`. -/
theorem snd_seq_coupled (c : Conn) (h : EntersEstab c.tcb) (es : List ConnEvent)
    (hret : (run SendRun.step ⟨.ok c, 0, 0⟩ es).o.fault = none)
    (hfew : (run SendRun.step ⟨.ok c, 0, 0⟩ es).total < 2 ^ 29) :
    SeqCoupled (run SendRun.step ⟨.ok c, 0, 0⟩ es).o.st := by
  obtain ⟨F, R, T, hin⟩ := run_inv' (I := fun t : SendRun => t.o.fault = none → ∃ F R T,
      InStep (c.tcb.snd.sndUna - 1) t.total F R T t.o.st)
    (fun t e hinv hret => by
      obtain ⟨F, R, T, hin⟩ := hinv (Outcome.fault_of_step hret)
      exact hin.step hret)
    (fun _ => ⟨0, 0, 0, h.inStep⟩) es hret
  exact hin.seqCoupled hfew

/-- Three bytes are sent, the first is acknowledged, two more are enqueued, and the timer goes off.
-/
theorem snd_seq_coupled_partial :
    let es : List ConnEvent := [.usr (.tcpSend [1, 2, 3]), .tx,
      .rx (.sample 101 1002 0x10 4096 []), .usr (.tcpSend [4, 5]), .rtx]
    let t := run SendRun.step ⟨.ok sampleEstab.st, 0, 0⟩ es
    t.o.fault = none ∧ t.total = 5 ∧ SeqCoupled t.o.st := by
  have h : EntersEstab sampleEstab.st.tcb :=
    ⟨by decide +kernel, by decide +kernel, by decide +kernel, by decide +kernel, by decide +kernel,
      by decide +kernel, by decide +kernel⟩
  exact ⟨by decide +kernel, by decide +kernel, snd_seq_coupled _ h _ (by decide +kernel)
    (by decide +kernel)⟩

end Tipy.Tcp
