import Tipy.Tcp.Faults
import Tipy.Tcp.PeerFin
import Tipy.Tcp.SndSeq

/-!
# The segments of one call

`_drain_snd_buf` takes the bytes off the buffer before `_tx_loop` has sent any of them, so a loop
that stopped early would lose them. `Transmitted` says what a loop that returns has done: its
segments are the drained bytes cut up, one after the other from `snd_nxt` on, and `snd_nxt` and
`snd_max` stand where they end. The induction is on the turns of the loop; one turn is
`Transmitted.cons`, and the last one, if it has the FIN, `Transmitted.fin`.

The MSS of the peer is the step of the loop, and is taken from the SYN-ACK as it stands. `MssRun`
keeps account of it from the handshake on, and `tx_estab_fits_iff` says for which peers a call
returns.
-/

namespace Tipy.Tcp

open Tipy.Buffer Tipy.Lib

/-! ## The positions -/

/-- `snd_nxt` is at `snd_max` or not far before it. -/
structure SndVars.Ordered (s : SndVars) : Prop where
  nxt_range : 0 ≤ s.sndNxt ∧ s.sndNxt < 4294967296
  max_range : 0 ≤ s.sndMax ∧ s.sndMax < 4294967296
  near : (s.sndMax - s.sndNxt) % 4294967296 < 1073741824

instance (s : SndVars) : Decidable s.Ordered :=
  decidable_of_iff ((0 ≤ s.sndNxt ∧ s.sndNxt < 4294967296) ∧
    (0 ≤ s.sndMax ∧ s.sndMax < 4294967296) ∧
      (s.sndMax - s.sndNxt) % 4294967296 < 1073741824)
    ⟨fun h => ⟨h.1, h.2.1, h.2.2⟩, fun h => ⟨h.nxt_range, h.max_range, h.near⟩⟩

/-- The later of `snd_max` and a new `snd_nxt`. -/
def laterMax (nxt max : Int) : Int := if seqGt nxt max then nxt else max

section Positions

variable {s : SndVars}

theorem SndVars.Ordered.not_seqGt (h : s.Ordered) : ¬ seqGt s.sndNxt s.sndMax := by
  obtain ⟨hnxt, hmax, hnear⟩ := h
  unfold seqGt
  omega

/-- A step forward of `i` passes `snd_max` when it is longer than the way to it. -/
theorem SndVars.Ordered.laterMax_eq (h : s.Ordered) {i : Int} (hi : 0 ≤ i ∧ i ≤ 20002) :
    laterMax ((s.sndNxt + i) % 4294967296) s.sndMax =
      if i ≤ (s.sndMax - s.sndNxt) % 4294967296 then s.sndMax else (s.sndNxt + i) % 4294967296 := by
  obtain ⟨hnxt, hmax, hnear⟩ := h
  have hiff : seqGt ((s.sndNxt + i) % 4294967296) s.sndMax ↔
      ¬ i ≤ (s.sndMax - s.sndNxt) % 4294967296 := by
    unfold seqGt
    omega
  unfold laterMax
  rw [if_congr hiff rfl rfl, ite_not]

theorem SndVars.Ordered.advance (h : s.Ordered) {i : Int} (hi : 0 ≤ i ∧ i ≤ 10001) :
    SndVars.Ordered { s with
      sndNxt := (s.sndNxt + i) % 4294967296
      sndMax := laterMax ((s.sndNxt + i) % 4294967296) s.sndMax } := by
  rw [h.laterMax_eq (by omega)]
  obtain ⟨hnxt, hmax, hnear⟩ := h
  refine ⟨⟨Int.emod_nonneg _ (by decide), Int.emod_lt_of_pos _ (by decide)⟩, ?_, ?_⟩
  · simp only
    split <;> omega
  · simp only
    split <;> omega

/-- Two steps forward are one. -/
theorem laterMax_laterMax (h : s.Ordered) {i j : Int} (hi : 0 ≤ i ∧ i ≤ 10001)
    (hj : 0 ≤ j ∧ j ≤ 10001) :
    laterMax (((s.sndNxt + i) % 4294967296 + j) % 4294967296)
        (laterMax ((s.sndNxt + i) % 4294967296) s.sndMax) =
      laterMax (((s.sndNxt + i) % 4294967296 + j) % 4294967296) s.sndMax := by
  have htwo := (h.advance hi).laterMax_eq (i := j) (by omega)
  have hone := h.laterMax_eq (i := i + j) (by omega)
  have hnxt :
      ((s.sndNxt + i) % 4294967296 + j) % 4294967296 = (s.sndNxt + (i + j)) % 4294967296 := by
    omega
  rw [htwo, hnxt, hone, h.laterMax_eq (by omega)]
  obtain ⟨-, hmax, -⟩ := h
  by_cases hi' : i ≤ (s.sndMax - s.sndNxt) % 4294967296
  · rw [if_pos hi']
    have hiff : j ≤ (s.sndMax - (s.sndNxt + i) % 4294967296) % 4294967296 ↔
        i + j ≤ (s.sndMax - s.sndNxt) % 4294967296 := by omega
    rw [if_congr hiff rfl rfl]
  · have hsum : ¬ i + j ≤ (s.sndMax - s.sndNxt) % 4294967296 := by omega
    rw [if_neg hi', if_neg hsum, sub_self]
    simp only
    split <;> omega

end Positions

/-! ## The segments -/

/-- The bytes of the segments, in order. -/
def payload (segs : List TxTcp) : List UInt8 := segs.flatMap (·.data)

/-- The segments that were sent carry `data`: each has a byte, and no more than the MSS and the link
allow, and only the last can have the FIN. -/
structure Carried (c c' : Conn) (data : List UInt8) (segs : List TxTcp) : Prop where
  out : c'.core.out = c.core.out ++ segs.map (c.tcb.socketId, ·)
  bytes : payload segs = data
  size : ∀ seg ∈ segs, 1 ≤ seg.data.length ∧ seg.data.length ≤ min c.tcb.snd.remoteMss (MTU - 40)
  fin : ∀ pre seg post, segs = pre ++ seg :: post → seg.fin = true → post = []

/-- The segments follow each other from `snd_nxt` on, and `snd_nxt` and `snd_max` moved past their
bytes and their FIN. -/
structure InSequence (c c' : Conn) (data : List UInt8) (segs : List TxTcp) : Prop where
  seq : ∀ pre seg post, segs = pre ++ seg :: post →
    seg.seq = (c.tcb.snd.sndNxt + (payload pre).length) % 4294967296
  nxt : c'.tcb.snd.sndNxt =
    (c.tcb.snd.sndNxt + (data.length + (segs.any (·.fin)).toInt)) % 4294967296
  max : c'.tcb.snd.sndMax = laterMax c'.tcb.snd.sndNxt c.tcb.snd.sndMax

/-- What a loop that was given `data` has done. -/
structure Transmitted (c c' : Conn) (data : List UInt8) (segs : List TxTcp) : Prop
  extends Carried c c' data segs, InSequence c c' data segs

section Turns

variable {c c' c'' : Conn} {seg data : List UInt8} {segs : List TxTcp}

/-! ### The last turn -/

theorem Carried.congr (h : Carried c c' data segs) (hout : c''.core.out = c'.core.out) :
    Carried c c'' data segs :=
  ⟨hout.trans h.out, h.bytes, h.size, h.fin⟩

theorem InSequence.congr (h : InSequence c c' data segs)
    (hnxt : c''.tcb.snd.sndNxt = c'.tcb.snd.sndNxt) (hmax : c''.tcb.snd.sndMax =
    c'.tcb.snd.sndMax) :
    InSequence c c'' data segs := by
  refine ⟨h.seq, hnxt.trans h.nxt, ?_⟩
  rw [hnxt, hmax]
  exact h.max

/-- Views without a byte. -/
theorem flatten_eq_nil_of_sum {views : List (List UInt8)} (hsum : (views.map List.length).sum = 0) :
    views.flatten = [] :=
  List.length_eq_zero_iff.1 (by rw [List.length_flatten, hsum])

theorem Carried.nil (c : Conn) : Carried c c.startRtxTimer [] [] :=
  ⟨by simp, rfl, by simp, by simp⟩

theorem InSequence.nil (h : c.tcb.snd.Ordered) : InSequence c c.startRtxTimer [] [] := by
  have hsnd : c.startRtxTimer.tcb.snd = c.tcb.snd := by simp
  refine ⟨by simp, ?_, ?_⟩
  · have := h.nxt_range
    rw [hsnd]
    simp only [List.length_nil, List.any_nil, Bool.toInt_false]
    omega
  · unfold laterMax
    rw [hsnd, if_neg h.not_seqGt]

/-- The last turn, with the FIN. -/
theorem Carried.finSegment
    (hsize : 1 ≤ seg.length ∧ seg.length ≤ min c.tcb.snd.remoteMss (MTU - 40))
    (next : Option STATES) :
    Carried c (c.afterFin next seg) seg [c.dataSegment seg true] := by
  have hsent : Carried c (c.afterSegment seg true) seg [c.dataSegment seg true] := by
    refine ⟨by simp, by simp [payload, Conn.dataSegment], ?_, ?_⟩
    · intro x hx
      rw [List.mem_singleton.1 hx]
      exact hsize
    · intro pre x post hsegs _
      rcases List.singleton_eq_append_iff.1 hsegs with ⟨-, hx⟩ | ⟨-, hx⟩
      · exact (List.cons.inj hx).2
      · cases hx
  unfold Conn.afterFin
  cases next with
  | none => exact hsent.congr (by simp)
  | some new => exact hsent.congr (by simp)

theorem InSequence.finSegment (h : c.tcb.snd.Ordered) (seg : List UInt8) (next : Option STATES) :
    InSequence c (c.afterFin next seg) seg [c.dataSegment seg true] := by
  have hrange := h.nxt_range
  have hsent : InSequence c (c.afterSegment seg true) seg [c.dataSegment seg true] := by
    refine ⟨?_, ?_, ?_⟩
    · intro pre x post hsegs
      obtain ⟨rfl, rfl⟩ : pre = [] ∧ x = c.dataSegment seg true := by
        rcases List.singleton_eq_append_iff.1 hsegs with ⟨hpre, hx⟩ | ⟨-, hx⟩
        · exact ⟨hpre, (List.cons.inj hx).1⟩
        · cases hx
      change c.tcb.snd.sndNxt = _
      simp only [payload, List.flatMap_nil, List.length_nil]
      omega
    · rw [afterSegment_snd, add_assoc]
      rfl
    · rw [afterSegment_snd]
      rfl
  unfold Conn.afterFin
  cases next with
  | none => exact hsent.congr (by simp) (by simp)
  | some new => exact hsent.congr (by simp) (by simp)

/-! ### A turn without the FIN -/

theorem afterSegment_ordered (h : c.tcb.snd.Ordered) (hlen : seg.length ≤ TCP_MAX_TX_BYTES)
    (fin : Bool) : (c.afterSegment seg fin).tcb.snd.Ordered := by
  have hfin : 0 ≤ fin.toInt ∧ fin.toInt ≤ 1 := by cases fin <;> decide
  simp only [TCP_MAX_TX_BYTES] at hlen
  have hadv := h.advance (i := seg.length + fin.toInt) (by omega)
  rw [← add_assoc] at hadv
  rw [afterSegment_snd]
  exact hadv

theorem Carried.cons (hsize : 1 ≤ seg.length ∧ seg.length ≤ min c.tcb.snd.remoteMss (MTU - 40))
    (htail : Carried (c.afterSegment seg false) c' data segs) :
    Carried c c' (seg ++ data) (c.dataSegment seg false :: segs) := by
  have hid : (c.afterSegment seg false).tcb.socketId = c.tcb.socketId :=
    congrArg (fun x => x.2.2.1) (afterSegment_fixed c seg false)
  obtain ⟨hout, hbytes, hsizes, hfins⟩ := htail
  rw [afterSegment_out, hid] at hout
  rw [afterSegment_snd] at hsizes
  refine ⟨by simpa using hout, ?_, ?_, ?_⟩
  · rw [← hbytes]
    rfl
  · intro x hx
    rcases List.mem_cons.1 hx with rfl | hx
    · exact hsize
    · exact hsizes x hx
  · intro pre x post hsegs hx
    cases pre with
    | nil =>
      obtain ⟨rfl, -⟩ := List.cons.inj hsegs
      cases hx
    | cons y pre => exact hfins pre x post (List.cons.inj hsegs).2 hx

theorem InSequence.cons (h : c.tcb.snd.Ordered) (hlen : seg.length ≤ TCP_MAX_TX_BYTES)
    (hdata : data.length ≤ TCP_MAX_TX_BYTES)
    (htail : InSequence (c.afterSegment seg false) c' data segs) :
    InSequence c c' (seg ++ data) (c.dataSegment seg false :: segs) := by
  have hfin : 0 ≤ (segs.any (·.fin)).toInt ∧ (segs.any (·.fin)).toInt ≤ 1 := by
    cases segs.any (·.fin) <;> decide
  have hrange := h.nxt_range
  obtain ⟨hseqs, hnxt, hmax⟩ := htail
  simp only [afterSegment_snd, Bool.toInt_false, add_zero] at *
  simp only [TCP_MAX_TX_BYTES] at hlen hdata
  refine ⟨?_, ?_, ?_⟩
  · intro pre x post hsegs
    cases pre with
    | nil =>
      obtain ⟨rfl, -⟩ := List.cons.inj hsegs
      change c.tcb.snd.sndNxt = _
      simp only [payload, List.flatMap_nil, List.length_nil]
      omega
    | cons y pre =>
      obtain ⟨rfl, hpost⟩ := List.cons.inj hsegs
      rw [hseqs pre x post hpost]
      simp only [payload, List.flatMap_cons, List.length_append]
      change _ = (_ + ((seg.length + _ : Nat) : Int)) % _
      push_cast
      omega
  · rw [hnxt]
    simp only [List.length_append, List.any_cons]
    change _ = (_ + (_ + (false || _).toInt)) % _
    rw [Bool.false_or]
    push_cast
    omega
  · rw [hmax, hnxt]
    exact laterMax_laterMax h (by omega) (by omega)

/-! ### All turns -/

/-- The payload of a turn, and what is left, are the bytes there were. -/
theorem generateSegmentPayload_bytes (n : Nat) (data : List (List UInt8)) :
    (generateSegmentPayload n data).1 ++ (generateSegmentPayload n data).2.flatten = data.flatten ∧
      (generateSegmentPayload n data).1.length ≤ n := by
  cases data with
  | nil => exact ⟨rfl, Nat.zero_le n⟩
  | cons buf bufs =>
    simp only [generateSegmentPayload]
    split
    · next hle => exact ⟨rfl, hle⟩
    · refine ⟨?_, List.length_take_le n buf⟩
      rw [List.flatten_cons, ← List.append_assoc, List.take_append_drop, List.flatten_cons]

/-- **The loop sends all it was given**, when it returns. The induction is on the turns: what is
left fits the window and the limit, so the loop does not break off before the views are empty. -/
theorem txTurns_sends_all (next : Option STATES) (wantFin : Bool) (turns : Nat) {c : Conn}
    {data : List (List UInt8)} {dlen sndWnd counter : Nat} (hne : dlen ≠ 0 → ∀ v ∈ data, v ≠ [])
    (hsum : (data.map List.length).sum = dlen) (hwnd : dlen ≤ sndWnd)
    (hcounter : counter + dlen ≤ TCP_MAX_TX_BYTES)
    (hret : (txTurns next wantFin turns c data dlen sndWnd counter).fault = none) :
    let c' := (txTurns next wantFin turns c data dlen sndWnd counter).st
    ∃ segs, Carried c c' data.flatten segs ∧
      (c.tcb.snd.Ordered → InSequence c c' data.flatten segs) := by
  have hnone : ∀ {c : Conn} {data : List (List UInt8)}, (data.map List.length).sum = 0 →
      ∃ segs, Carried c c.startRtxTimer data.flatten segs ∧
        (c.tcb.snd.Ordered → InSequence c c.startRtxTimer data.flatten segs) := by
    intro c data hsum
    rw [flatten_eq_nil_of_sum hsum]
    exact ⟨[], .nil c, .nil⟩
  induction turns generalizing c data dlen sndWnd counter with
  | zero =>
    have hzero : dlen = 0 := by
      by_contra hdlen
      unfold txTurns at hret
      rw [if_neg hdlen] at hret
      cases hret
    unfold txTurns
    rw [if_pos hzero]
    exact hnone (hsum.trans hzero)
  | succ turns ih =>
    by_cases hzero : dlen = 0
    · unfold txTurns
      rw [if_pos hzero]
      exact hnone (hsum.trans hzero)
    have hmss : c.tcb.snd.remoteMss ≠ 0 := fun hmss =>
      txTurns_hang (turns + 1) hmss (hne hzero) hsum hzero hwnd hcounter hret
    have hpos := (viewsFit_payload hmss (hne hzero) hsum hzero hwnd).1
    have hspec :=
      generateSegmentPayload_spec (min (min c.tcb.snd.remoteMss sndWnd) dlen) (hne hzero)
    have hbytes := generateSegmentPayload_bytes (min (min c.tcb.snd.remoteMss sndWnd) dlen) data
    unfold txTurns at hret ⊢
    rw [if_neg hzero] at hret ⊢
    generalize generateSegmentPayload (min (min c.tcb.snd.remoteMss sndWnd) dlen) data = g at *
    obtain ⟨seg, rest⟩ := g
    obtain ⟨hlen, hrest⟩ := hspec
    obtain ⟨hbytes, hle⟩ := hbytes
    simp only [ipLen_dataSegment] at *
    rw [hsum] at hlen
    rw [← hbytes]
    by_cases hbig : MTU < 40 + seg.length
    · rw [if_pos hbig] at hret
      cases hret
    rw [if_neg hbig] at hret ⊢
    have hsize : 1 ≤ seg.length ∧ seg.length ≤ min c.tcb.snd.remoteMss (MTU - 40) :=
      ⟨hpos, Nat.le_min.2 ⟨by omega, by omega⟩⟩
    by_cases hshould : (wantFin && rest.isEmpty) = true
    · have hempty : rest = [] := by simpa using (Bool.and_eq_true_iff.1 hshould).2
      rw [if_pos hshould, hshould, hempty, List.flatten_nil, List.append_nil]
      exact ⟨_, .finSegment hsize next, fun hord => .finSegment hord seg next⟩
    rw [Bool.not_eq_true] at hshould
    rw [hshould] at hret ⊢
    simp only [Bool.false_eq_true, if_false] at hret ⊢
    -- in every case that is left, this segment and then the segments of what comes after it
    have hturn : ∀ {c' : Conn}, (∃ segs, Carried (c.afterSegment seg false) c' rest.flatten segs ∧
        ((c.afterSegment seg false).tcb.snd.Ordered →
          InSequence (c.afterSegment seg false) c' rest.flatten segs)) →
        ∃ segs, Carried c c' (seg ++ rest.flatten) segs ∧
          (c.tcb.snd.Ordered → InSequence c c' (seg ++ rest.flatten) segs) := by
      rintro c' ⟨segs, hcarried, hinseq⟩
      have hdata : rest.flatten.length ≤ TCP_MAX_TX_BYTES := by
        rw [List.length_flatten]
        omega
      refine ⟨_, hcarried.cons hsize, fun hord => ?_⟩
      exact .cons hord (by omega) hdata (hinseq (afterSegment_ordered hord (by omega) false))
    by_cases hfull : sndWnd - seg.length = 0
    · rw [if_pos hfull]
      exact hturn (hnone (by omega))
    rw [if_neg hfull] at hret ⊢
    by_cases hlimit : TCP_MAX_TX_BYTES ≤ counter + seg.length
    · rw [if_pos hlimit]
      exact hturn (hnone (by omega))
    rw [if_neg hlimit] at hret ⊢
    exact hturn (ih (fun _ => hrest) (by omega) (by omega) (by omega) hret)

end Turns

/-! ## The loop after the drain -/

section Drain

variable {c c₁ : Conn} (hd : Drained c c₁) (next : Option STATES) (shutReq closeReq : Bool)
  (hopen : ¬ c₁.ActiveCloseTx closeReq)

include hd hopen

theorem txLoop_sends_drained
    (hret : (txLoop c₁ (drainSndBuf c.tcb.snd).1 next shutReq closeReq).fault = none) :
    let c' := (txLoop c₁ (drainSndBuf c.tcb.snd).1 next shutReq closeReq).st
    ∃ segs, Carried c₁ c' (drainSndBuf c.tcb.snd).1.flatten segs ∧
      (c₁.tcb.snd.Ordered → InSequence c₁ c' (drainSndBuf c.tcb.snd).1.flatten segs) := by
  have hmax : drainLen c.tcb.snd ≤ TCP_MAX_TX_BYTES :=
    (Nat.min_le_left _ _).trans (Nat.min_le_left _ _)
  have hwnd : drainLen c.tcb.snd ≤ c₁.tcb.snd.sndWnd := by
    rw [hd.snd]
    exact (Nat.min_le_left _ _).trans (Nat.min_le_right _ _)
  obtain ⟨-, hsum, hne⟩ := drainSndBuf_views c.tcb.snd
  rw [← drainLen] at hsum hne
  unfold txLoop at hret ⊢
  simp only [if_neg hopen, hsum] at hret ⊢
  exact txTurns_sends_all next _ _ hne hsum hwnd (by omega) hret

/-- **`_tx_loop` transmits what was drained**: called as the send handlers do, after
`_drain_snd_buf`, with whatever is in the buffer and whether or not a FIN was asked for. Unless the
connection is aborted, or the loop does not return, its segments are the first bytes of the buffer
that were not read, as many as the limit and the window of the peer allow. -/
theorem txLoop_transmits_drained (hord : c.tcb.snd.Ordered)
    (hret : (txLoop c₁ (drainSndBuf c.tcb.snd).1 next shutReq closeReq).fault = none) :
    ∃ segs, Transmitted c₁ (txLoop c₁ (drainSndBuf c.tcb.snd).1 next shutReq closeReq).st
      (loadCyc c.tcb.snd.sndBuf.ring c.tcb.snd.sndBuf.size c.tcb.snd.sndBuf.vr
        (min (min TCP_MAX_TX_BYTES c.tcb.snd.sndWnd) c.tcb.snd.sndBuf.ready)) segs := by
  have hord' : c₁.tcb.snd.Ordered := by
    rw [hd.snd]
    exact ⟨hord.nxt_range, hord.max_range, hord.near⟩
  obtain ⟨segs, hcarried, hinseq⟩ := txLoop_sends_drained hd next shutReq closeReq hopen hret
  rw [drainSndBuf_flatten, drainLen] at hcarried hinseq
  exact ⟨segs, hcarried, hinseq hord'⟩

end Drain

/-- The sample connection with five bytes to send, three of them behind the end of the ring. -/
def sampleWrapped : Conn :=
  sampleEstab.st.setSnd { sampleEstab.st.tcb.snd with
    sndBuf := ⟨8, fun i => UInt8.ofNat i, 6, 6, 3, by decide, by decide, by decide⟩ }

/-- The bytes on both sides of the end of the ring are sent, and the FIN after them. -/
theorem txLoop_transmits_drained_wrapped :
    sampleWrapped.tcb.snd.Ordered ∧ ∃ segs,
      Transmitted (sampleWrapped.setSnd (drainSndBuf sampleWrapped.tcb.snd).2)
        (txLoop (sampleWrapped.setSnd (drainSndBuf sampleWrapped.tcb.snd).2)
          (drainSndBuf sampleWrapped.tcb.snd).1 (some .finWait1) true false).st [6, 7, 0,
              1, 2] segs := by
  have hord : sampleWrapped.tcb.snd.Ordered := by decide +kernel
  have hbytes : loadCyc sampleWrapped.tcb.snd.sndBuf.ring sampleWrapped.tcb.snd.sndBuf.size
      sampleWrapped.tcb.snd.sndBuf.vr (min (min TCP_MAX_TX_BYTES sampleWrapped.tcb.snd.sndWnd)
        sampleWrapped.tcb.snd.sndBuf.ready) = [6, 7, 0, 1, 2] := by decide +kernel
  have hd : Drained sampleWrapped (sampleWrapped.setSnd (drainSndBuf sampleWrapped.tcb.snd).2) :=
    ⟨rfl, rfl, rfl, rfl⟩
  rw [← hbytes]
  exact ⟨hord, txLoop_transmits_drained hd _ true false
    (by decide +kernel) hord (by decide +kernel)⟩

/-! ## The MSS of the peer -/

/-- The segment completes the handshake of a connection in `SYN_SENT`, if its options can be read.
-/
def Conn.AcceptsSynAck (c : Conn) (p : Segment) : Prop :=
  c.tcb.state = .synSent ∧ p.rst = false ∧ p.fin = false ∧ p.syn = true ∧ p.ack = true ∧
    0 < (hRxAck c.tcb.snd p).2

instance (c : Conn) (p : Segment) : Decidable (c.AcceptsSynAck p) :=
  inferInstanceAs (Decidable (_ ∧ _))

/-- The MSS that is known after a segment, if `mss` was before: that of the options of the SYN-ACK,
or 536 if they have none. The SYN of a simultaneous open says nothing. -/
def Conn.mssAfter (c : Conn) (mss : Nat) (p : Segment) : Nat :=
  if c.AcceptsSynAck p then
    match p.options with
    | .ok announced => announced.getD 536
    | .error _ => mss
  else mss

/-- A connection and the MSS its handshake gave it. -/
structure MssRun where
  o : Outcome
  mss : Nat

/-- The step of the connection, and of what is known of the MSS. -/
def MssRun.step (t : MssRun) (e : ConnEvent) : MssRun where
  o := t.o.step e
  mss := match e, t.o.fault with
    | .rx packet, none => t.o.st.mssAfter t.mss packet.segment
    | _, _ => t.mss

/-- The states up to `ESTAB`. -/
def STATES.UpToEstab (s : STATES) : Prop := s = .synSent ∨ s = .synRecv ∨ s = .estab

section Mss

variable {c : Conn} {p : Segment}

theorem hRxAck_remoteMss (s : SndVars) : (hRxAck s p).1.remoteMss = s.remoteMss := by
  unfold hRxAck
  split <;> rfl

theorem hRxWnd_remoteMss (s : SndVars) : (hRxWnd s p).remoteMss = s.remoteMss := by
  unfold hRxWnd
  split <;> rfl

theorem synSentEstab_snd : (c.synSentEstab p).tcb.snd = c.tcb.snd := by
  have hdata : (c.synSentData p).tcb.snd = c.tcb.snd := by
    unfold Conn.synSentData
    split <;> rfl
  unfold Conn.synSentEstab
  simp only
  split <;> simpa using hdata

/-- `_rx_syn_sent` takes the MSS of the SYN-ACK. -/
theorem rxSynSent_remoteMss (hs : c.tcb.state = .synSent) :
    (c.rxSynSent p).st.tcb.snd.remoteMss = c.mssAfter c.tcb.snd.remoteMss p := by
  unfold Conn.mssAfter
  by_cases hacc : c.AcceptsSynAck p
  · obtain ⟨-, hrst, hfin, hsyn, hack, hpos⟩ := id hacc
    rw [if_pos hacc]
    unfold Conn.rxSynSent
    rw [if_neg (by simp [hrst]), if_neg (by simp [hfin]), if_pos ⟨hsyn, hack⟩, if_pos hpos]
    cases p.options with
    | error e => simp [Conn.synSentAccept, initSndWnd, hRxAck_remoteMss]
    | ok announced => simp [synSentEstab_snd]
  · rw [if_neg hacc]
    unfold Conn.rxSynSent
    split
    · simp [hRxAck_remoteMss]
    · next hrst =>
      split
      · rfl
      · next hfin =>
        split
        · next hsyn =>
          have hpos : ¬ 0 < (hRxAck c.tcb.snd p).2 := by
            intro hpos
            have hrst' : p.rst = false := by simpa [hpos] using hrst
            exact hacc ⟨hs, hrst', by simpa using hfin, hsyn.1, hsyn.2, hpos⟩
          rw [if_neg hpos]
          simp
        · split <;> simp [Conn.synSentSimultaneous, initSndWnd, rollbackToUna]

theorem rxSynRecv_remoteMss : (c.rxSynRecv p).tcb.snd.remoteMss = c.tcb.snd.remoteMss := by
  unfold Conn.rxSynRecv
  simp only
  split_ifs <;> simp [hRxAck_remoteMss, hRxWnd_remoteMss]

theorem rxEstab_remoteMss : (c.rxEstab p).tcb.snd.remoteMss = c.tcb.snd.remoteMss := by
  have haccept : ∀ (d : Conn) (q : Segment),
      (d.estabAccept q).tcb.snd.remoteMss = d.tcb.snd.remoteMss := by
    intro d q
    rw [Conn.estabAccept_snd, hRxWnd_remoteMss, Conn.estabAck_snd]
    split <;> exact hRxAck_remoteMss d.tcb.snd
  simp only [Conn.rxEstab]
  split
  · split_ifs
    · simp
    · simp
    · exact haccept _ _
  · simp
  · simp

theorem sendFin_remoteMss (next : Option STATES) :
    (c.sendFin next).tcb.snd.remoteMss = c.tcb.snd.remoteMss := by rw [Conn.sendFin_tcb]

theorem txLoop_remoteMss (data : List (List UInt8)) (next : Option STATES)
    (shutReq closeReq : Bool) :
    (txLoop c data next shutReq closeReq).st.tcb.snd.remoteMss = c.tcb.snd.remoteMss := by
  refine txLoop_inv (I := fun c' => c'.tcb.snd.remoteMss = c.tcb.snd.remoteMss) rfl ?_ ?_ ?_ ?_ ?_
  · exact fun c' h => by simpa using h
  · intro c' data fin h
    rw [afterSegment_snd]
    exact h
  · exact fun c' h => by simpa using h
  · exact fun c' s _ h => by simpa using h
  · exact fun c' h => by simpa using h

theorem tx_remoteMss : c.tx.st.tcb.snd.remoteMss = c.tcb.snd.remoteMss := by
  refine Conn.tx_inv (I := fun c' => c'.tcb.snd.remoteMss = c.tcb.snd.remoteMss) rfl ?_
    ?_ ?_ ?_ ?_ ?_
    ?_ ?_
  · simp [Conn.txSynSent, Conn.bumpNxt]
  · simp [Conn.txSynRecv, Conn.bumpNxt]
  · rintro c₁ (rfl | rfl)
    · rfl
    · rfl
  · exact fun c' h => by simpa using h
  · exact fun c' next h => by rw [sendFin_remoteMss, h]
  · exact fun c' h => by simpa using h
  · exact fun c' h => by simpa using h
  · exact fun c' data next shutReq closeReq h => by rw [txLoop_remoteMss, h]

/-- Up to `ESTAB` nothing but the SYN-ACK changes the MSS. -/
theorem rx_remoteMss (hs : c.tcb.state.UpToEstab) (packet : TCPParser) :
    (c.rx packet).st.tcb.snd.remoteMss = c.mssAfter c.tcb.snd.remoteMss packet.segment := by
  have hother : c.tcb.state ≠ .synSent →
      c.mssAfter c.tcb.snd.remoteMss packet.segment = c.tcb.snd.remoteMss :=
    fun hne => if_neg fun h => hne h.1
  unfold Conn.rx
  rcases hs with hs | hs | hs
  · simpa only [hs] using rxSynSent_remoteMss hs
  · simpa only [hs, hother (by rw [hs]; decide), Outcome.ok_st] using rxSynRecv_remoteMss
  · simpa only [hs, hother (by rw [hs]; decide), Outcome.ok_st] using rxEstab_remoteMss

theorem usr_remoteMss (q : UserRequest) : (q.apply c).tcb.snd.remoteMss = c.tcb.snd.remoteMss := by
  cases q with
  | tcpSend data =>
    simp only [UserRequest.apply, Conn.tcpSend]
    split <;> simp
  | tcpRecv n =>
    simp only [UserRequest.apply, Conn.tcpRecv]
    split <;> simp
  | tcpClose => simp [UserRequest.apply, Conn.tcpClose]
  | tcpShutdown => simp [UserRequest.apply, Conn.tcpShutdown]
  | tick ns => rfl

end Mss

namespace MssRun

/-- Up to `ESTAB` the MSS of the control block is the one the handshake gave. -/
def Known (t : MssRun) : Prop := t.o.st.tcb.state.UpToEstab → t.o.st.tcb.snd.remoteMss = t.mss

theorem Known.step {t : MssRun} (h : t.Known) (e : ConnEvent) : (t.step e).Known := by
  intro hs'
  have hs : t.o.st.tcb.state.UpToEstab := by
    have hnext := t.o.step_next e
    change (t.o.step e).st.tcb.state.UpToEstab at hs'
    revert hs' hnext
    unfold STATES.UpToEstab
    cases t.o.st.tcb.state <;> cases (t.o.step e).st.tcb.state <;> decide
  have hmss := h hs
  change (t.o.step e).st.tcb.snd.remoteMss = _
  unfold MssRun.step
  cases e with
  | usr q => exact (usr_remoteMss q).trans hmss
  | rx packet =>
    cases hf : t.o.fault with
    | some f => simpa only [Outcome.step, hf] using hmss
    | none =>
      simp only [Outcome.step, hf, ConnEvent.handler]
      rw [rx_remoteMss hs, hmss]
  | tx =>
    cases hf : t.o.fault with
    | some f => simpa only [Outcome.step, hf] using hmss
    | none =>
      simp only [Outcome.step, hf, ConnEvent.handler]
      rw [tx_remoteMss, hmss]
  | rtx =>
    cases hf : t.o.fault with
    | some f => simpa only [Outcome.step, hf] using hmss
    | none =>
      simp only [Outcome.step, hf, ConnEvent.handler]
      exact (tx_remoteMss (c := t.o.st.prepareRtx)).trans hmss

theorem known_connected (ref so : Nat) (socketId : SockId)
    (soLinger : Option (List UInt8)) (iss : Int) (k : Core) (es : List ConnEvent) :
    (run MssRun.step ⟨.connected ref so socketId soLinger iss k, 0⟩ es).Known :=
  run_inv' (I := Known) (fun _ e h => h.step e)
    (fun _ => by simp [Outcome.connected, Conn.activOpen, TCPCB.new, initSndSeq, Conn.bumpNxt]) es

end MssRun

/-! ## Calls of `_tx_estab` -/

/-- A segment of `_tx_loop`, which sets PSH in all of them, has a byte and fits the MSS and the
link. -/
def TxTcp.FitsLink (mss : Nat) (seg : TxTcp) : Prop :=
  seg.psh = true ∨ seg.data ≠ [] → 1 ≤ seg.data.length ∧ seg.data.length ≤ min mss (MTU - 40)

/-- A call of `_tx_estab` returns, and its data segments fit. -/
def Conn.TxEstabFits (c : Conn) : Prop :=
  c.txEstab.fault = none ∧
    Emits (TxTcp.FitsLink c.tcb.snd.remoteMss) c.core.out c.txEstab.st.core.out

/-- What a buffer, a window and an MSS need for that: nothing is to be sent, or there is an MSS and
it fits the link, or neither of the two views of the ring is longer than the link allows. -/
def DrainFits (buf : RRingBuffer) (wnd mss : Nat) : Prop :=
  let n := min (min TCP_MAX_TX_BYTES wnd) buf.ready
  let toEnd := buf.size - buf.vr
  n = 0 ∨ 1 ≤ mss ∧ (mss ≤ MTU - 40 ∨ min n toEnd ≤ MTU - 40 ∧ n - toEnd ≤ MTU - 40)

instance (buf : RRingBuffer) (wnd mss : Nat) : Decidable (DrainFits buf wnd mss) :=
  inferInstanceAs (Decidable (_ ∨ _))

theorem drainFits_iff (s : SndVars) : DrainFits s.sndBuf s.sndWnd s.remoteMss ↔ s.Fits := by
  simp only [DrainFits, SndVars.Fits]
  generalize min (min TCP_MAX_TX_BYTES s.sndWnd) s.sndBuf.ready = n
  generalize s.sndBuf.size - s.sndBuf.vr = toEnd
  omega

/-- The connection with another buffer and another window of the peer. -/
def Conn.withBuffer (c : Conn) (buf : RRingBuffer) (wnd : Nat) : Conn :=
  c.setSnd { c.tcb.snd with sndBuf := buf, sndWnd := wnd }

section TxEstab

variable {c : Conn}

theorem TxTcp.FitsLink.of_bare {mss : Nat} {seg : TxTcp} (hpsh : seg.psh = false)
    (hdata : seg.data = []) :
    seg.FitsLink mss := by
  rintro (h | h)
  · rw [hpsh] at h
    cases h
  · exact absurd hdata h

theorem txLoop_emits {c₁ : Conn} (hd : Drained c c₁) (next : Option STATES)
    (shutReq closeReq : Bool)
    (hret : (txLoop c₁ (drainSndBuf c.tcb.snd).1 next shutReq closeReq).fault = none) :
    Emits (TxTcp.FitsLink c₁.tcb.snd.remoteMss) c₁.core.out
      (txLoop c₁ (drainSndBuf c.tcb.snd).1 next shutReq closeReq).st.core.out := by
  by_cases hopen : c₁.ActiveCloseTx closeReq
  · unfold txLoop
    simp only
    rw [if_pos hopen]
    exact .activeCloseTx c₁ fun _ => .of_bare
  · obtain ⟨segs, hcarried, -⟩ := txLoop_sends_drained hd next shutReq closeReq hopen hret
    refine ⟨_, hcarried.out, fun e he _ => ?_⟩
    obtain ⟨seg, hseg, rfl⟩ := List.mem_map.1 he
    exact hcarried.size seg hseg

/-- What a call that returns has sent. -/
theorem txEstab_emits (hret : c.txEstab.fault = none) :
    Emits (TxTcp.FitsLink c.tcb.snd.remoteMss) c.core.out c.txEstab.st.core.out := by
  have hd : Drained c ((c.setSnd (drainSndBuf c.tcb.snd).2).computeWnd) := ⟨rfl, rfl, rfl, rfl⟩
  revert hret
  simp only [Conn.txEstab]
  split_ifs
  · exact fun _ => .activeCloseTx ((c.setSnd (drainSndBuf c.tcb.snd).2).computeWnd) fun _ =>
      .of_bare
  · exact fun _ => .sendFin ((c.setSnd (drainSndBuf c.tcb.snd).2).computeWnd) _
      (TxTcp.FitsLink.of_bare rfl rfl)
  · exact fun _ => .append _ _ (.of_bare rfl rfl)
  · exact fun _ => .refl _ _
  · exact txLoop_emits hd _ _ _

end TxEstab

/-- **For which peers a call of `_tx_estab` returns, with segments that fit**: in every run that has
come to `ESTAB`, by a SYN-ACK with any options or by a simultaneous open, and with every buffer and
window of the peer. -/
theorem tx_estab_fits_iff (ref so : Nat) (socketId : SockId)
    (soLinger : Option (List UInt8)) (iss : Int) (k : Core) (es : List ConnEvent)
    (buf : RRingBuffer) (wnd : Nat)
    (hestab : (run MssRun.step ⟨.connected ref so socketId soLinger iss k, 0⟩ es).o.st.tcb.state =
      .estab) :
    let t := run MssRun.step ⟨.connected ref so socketId soLinger iss k, 0⟩ es
    (t.o.st.withBuffer buf wnd).TxEstabFits ↔
      t.o.st.tcb.req.closeRequested = true ∧ t.o.st.tcb.req.soLinger = some SO_LINGER_ON ∨
        DrainFits buf wnd t.mss := by
  intro t
  have hmss : t.o.st.tcb.snd.remoteMss = t.mss :=
    MssRun.known_connected ref so socketId soLinger iss k es (Or.inr (Or.inr hestab))
  have hfits : DrainFits buf wnd t.mss ↔ (t.o.st.withBuffer buf wnd).tcb.snd.Fits := by
    rw [← hmss]
    exact drainFits_iff (t.o.st.withBuffer buf wnd).tcb.snd
  have hestab' : (t.o.st.withBuffer buf wnd).tcb.state = .estab := hestab
  rw [hfits]
  constructor
  · rintro ⟨hret, -⟩
    exact (txEstab_fault_iff hestab').1 hret
  · intro h
    have hret : (t.o.st.withBuffer buf wnd).txEstab.fault = none := (txEstab_fault_iff hestab').2 h
    exact ⟨hret, txEstab_emits hret⟩

/-- The SYN-ACK of a peer with an MSS of 9000. -/
def sampleJumbo : TCPParser where
  frame := be16 80 ++ be16 1234 ++ be32 100 ++ be32 1001 ++ [0x60, 0x12] ++ be16 4096 ++
    [0, 0, 0, 0, 2, 4] ++ be16 9000
  length_ge := by decide
  length_le := by decide

/-- A buffer with `n` bytes to send, at the start of the ring. -/
def sampleBuffer (n : Nat) (h : n < 65536) : RRingBuffer :=
  ⟨65536, fun _ => 0, 0, 0, n, by decide, by decide, h⟩

/-- A peer without the option. -/
theorem tx_estab_fits_iff_default :
    let t := run MssRun.step ⟨.connected 0 0 ⟨1, 1234, 2, 80⟩ none 1000 .idle, 0⟩
      [.rx (.sample 100 1001 0x12 4096 [])]
    t.mss = 536 ∧ (t.o.st.withBuffer (sampleBuffer 2000 (by decide)) 4096).TxEstabFits := by
  refine ⟨by decide +kernel, ?_⟩
  exact (tx_estab_fits_iff 0 0 ⟨1, 1234, 2, 80⟩ none 1000 .idle _ _ 4096 (by decide +kernel)).2
    (Or.inr (by decide +kernel))

/-- After a simultaneous open the MSS is 0 and one byte keeps the loop busy for ever; and 2000 bytes
to a peer with an MSS of 9000 do not fit the link. -/
theorem tx_estab_stuck :
    let both := run MssRun.step ⟨.connected 0 0 ⟨1, 1234, 2, 80⟩ none 1000 .idle, 0⟩
      [.rx (.sample 100 0 0x02 4096 []), .rx (.sample 100 1001 0x12 4096 [])]
    let jumbo :=
      run MssRun.step ⟨.connected 0 0 ⟨1, 1234, 2, 80⟩ none 1000 .idle, 0⟩ [.rx sampleJumbo]
    (both.o.fault = none ∧ both.o.st.tcb.state = .estab ∧
        ¬ (both.o.st.withBuffer (sampleBuffer 1 (by decide)) 4096).TxEstabFits) ∧
      (jumbo.o.fault = none ∧ jumbo.o.st.tcb.state = .estab ∧
        ¬ (jumbo.o.st.withBuffer (sampleBuffer 2000 (by decide)) 4096).TxEstabFits) := by
  refine ⟨⟨by decide +kernel, by decide +kernel, fun h => ?_⟩,
    ⟨by decide +kernel, by decide +kernel, fun h => ?_⟩⟩
  · have hret := (txEstab_fault_iff (by decide +kernel)).1 h.1
    revert hret
    decide +kernel
  · have hret := (txEstab_fault_iff (by decide +kernel)).1 h.1
    revert hret
    decide +kernel

end Tipy.Tcp
