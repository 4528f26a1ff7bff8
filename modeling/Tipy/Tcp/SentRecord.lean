import Mathlib.Data.List.Lemmas
import Tipy.Lib.Transmissions
import Tipy.Tcp.TxSegments

/-!
# The record of what was sent

A handler adds its segments to the log, and the record has a `Transmission` for each, with the
positions counted from the SYN. `Sends` says what a send handler that returns has done: segments in
a row from `snd_nxt` on, and a measurement of the round trip was started if a number was sent for
the first time. `Heard` says what a segment that arrives has done: it ends the measurement if it
acknowledges anything.
-/

namespace Tipy.Tcp

open Tipy.Buffer Tipy.Lib Tipy.Lib.Transmission

/-- The number of sequence numbers of a segment. -/
def TxTcp.seqLen (seg : TxTcp) : Nat := seg.data.length + seg.syn.toNat + seg.fin.toNat

/-- The clock as `_rtt_probe` and `_rtt_sample` read it. -/
def Core.seconds (k : Core) : ℚ := k.nowNs / 1000000000

/-- A segment that was sent when the first `acked` numbers were acknowledged, up to `una`. -/
def TxTcp.sentAt (seg : TxTcp) (time : ℚ) (acked : Nat) (una : Int) : Transmission ℚ :=
  ⟨time, acked + (seqDiff seg.seq una).toNat, seg.seqLen⟩

/-- What a handler sent. -/
def sentSince (acked : Nat) (una : Int) (c c' : Conn) : List (Transmission ℚ) :=
  (c'.core.out.drop c.core.out.length).map fun e => e.2.sentAt c.core.seconds acked una

/-! ## Segments in a row -/

/-- The segments follow each other from position `R` to `R'`. -/
def Laid (iss : Int) : Nat → List (SockId × TxTcp) → Nat → Prop
  | R, [], R' => R = R'
  | R, e :: es, R' => e.2.seq = seqOf iss R ∧ Laid iss (R + e.2.seqLen) es R'

section Laid

variable {iss : Int} {F R R' R'' : Nat} {segs : List (SockId × TxTcp)}
  (time : ℚ)

theorem Laid.le (h : Laid iss R segs R') : R ≤ R' := by
  induction segs generalizing R with
  | nil => exact h.le
  | cons e es ih => exact (Nat.le_add_right _ _).trans (ih h.2)

theorem Laid.snoc (h : Laid iss R segs R') {e : SockId × TxTcp} (hseq : e.2.seq = seqOf iss R')
    (hlen : R' + e.2.seqLen = R'') : Laid iss R (segs ++ [e]) R'' := by
  induction segs generalizing R with
  | nil =>
    obtain rfl : R = R' := h
    exact ⟨hseq, hlen⟩
  | cons x xs ih => exact ⟨h.1, ih h.2⟩

/-- The position of a segment is found from its sequence number when it is not too far. -/
theorem sentAt_pos {seg : TxTcp} {P : Nat} (hseq : seg.seq = seqOf iss P) (hF : F ≤ P)
    (hP : P < F + 4294967296) : (seg.sentAt time F (seqOf iss F)).pos = P := by
  unfold TxTcp.sentAt seqDiff
  rw [hseq]
  unfold seqOf
  simp only
  omega

/-- The transmissions of segments in a row. -/
theorem Laid.between (h : Laid iss R segs R') (hF : F ≤ R) (hR' : R' < F + 4294967296) :
    From (segs.map fun e => e.2.sentAt time F (seqOf iss F)) R ∧
      Below (segs.map fun e => e.2.sentAt time F (seqOf iss F)) R' := by
  induction segs generalizing R with
  | nil => exact ⟨by simp [From], by simp [Below]⟩
  | cons e es ih =>
    obtain ⟨hseq, hrest⟩ := h
    have hle := hrest.le
    have hpos := sentAt_pos time hseq hF (by omega)
    obtain ⟨hfrom, hbelow⟩ := ih hrest (by omega)
    refine ⟨?_, ?_⟩
    · rintro x (_ | ⟨_, hx⟩)
      · exact Or.inr hpos.ge
      · exact (hfrom x hx).imp_right fun h => (Nat.le_add_right _ _).trans h
    · rintro x (_ | ⟨_, hx⟩)
      · refine Or.inr ?_
        unfold stop
        rw [hpos]
        exact hle
      · exact hbelow x hx

/-- The first of them that has a number. -/
theorem Laid.first (h : Laid iss R segs R') (hlt : R < R') (hF : F ≤ R)
    (hR' : R' < F + 4294967296) :
    ∃ pre s new, (segs.map fun e => e.2.sentAt time F (seqOf iss F)) = pre ++ s :: new ∧
      (∀ x ∈ pre, x.len = 0) ∧ s.time = time ∧ s.pos = R ∧ 0 < s.len ∧ s.stop ≤ R' ∧
          From new s.stop := by
  induction segs generalizing R with
  | nil =>
    obtain rfl : R = R' := h
    exact absurd hlt (lt_irrefl _)
  | cons e es ih =>
    obtain ⟨hseq, hrest⟩ := h
    have hle := hrest.le
    have hpos := sentAt_pos time hseq hF (by omega)
    by_cases hzero : e.2.seqLen = 0
    · rw [hzero, Nat.add_zero] at hrest
      obtain ⟨pre, s, new, hmap, hpre, hs⟩ := ih hrest hlt hF
      refine ⟨e.2.sentAt time F (seqOf iss F) :: pre, s,
        new, by rw [List.map_cons, hmap]; rfl, ?_, hs⟩
      rintro x (_ | ⟨_, hx⟩)
      · exact hzero
      · exact hpre x hx
    · have hstop : (e.2.sentAt time F (seqOf iss F)).stop = R + e.2.seqLen := by
        unfold stop
        rw [hpos]
        rfl
      refine ⟨[], _, _, rfl, by simp, rfl, hpos, Nat.pos_of_ne_zero hzero, hstop.trans_le hle, ?_⟩
      rw [hstop]
      exact (hrest.between time (by omega) hR').1

end Laid

theorem sentSince_empty (acked : Nat) (una : Int) {c c' : Conn}
    (h : Emits TxTcp.Empty c.core.out c'.core.out) : ∀ x ∈ sentSince acked una c c', x.len = 0 := by
  obtain ⟨new, hout, hnew⟩ := h
  unfold sentSince
  rw [hout, List.drop_left]
  intro x hx
  obtain ⟨y, hy, rfl⟩ := List.mem_map.1 hx
  obtain ⟨⟨hdata, hfin⟩, hsyn⟩ := hnew y hy
  unfold TxTcp.sentAt TxTcp.seqLen
  rw [hdata, hfin, hsyn]
  rfl

/-! ## How far a send handler goes -/

/-- The FIN is wanted. -/
def Conn.finDue (c : Conn) : Bool := c.tcb.req.finWanted || decide (c.tcb.state = .lastAck)

/-- The FIN is sent for the first time, and without data. -/
def Conn.FinAlone (c : Conn) : Prop :=
  c.tcb.snd.sndBuf.ready = 0 ∧ c.finDue = true ∧ c.tcb.snd.sentFin = false ∧ 0 < c.tcb.snd.sndWnd

instance (c : Conn) : Decidable c.FinAlone := inferInstanceAs (Decidable (_ ∧ _))

/-- How far the handler of `SEND` may move `snd_nxt`. -/
def Conn.reach (c : Conn) : Nat :=
  if c.FinAlone then 1
  else if drainLen c.tcb.snd = 0 then 0
  else drainLen c.tcb.snd + c.finDue.toNat

/-- The states in which data is sent and samples are taken. -/
def STATES.Timed (s : STATES) : Prop := s ∈ [.estab, .closeWait, .lastAck]

instance (s : STATES) : Decidable s.Timed := inferInstanceAs (Decidable (s ∈ _))

/-! ## Sending -/

/-- A measurement that starts when none runs. -/
def probed (rtt : Option ℚ) (now : ℚ) (new : Prop) [Decidable new] : Option ℚ :=
  rtt.or (if new then some now else none)

/-- What a send handler that returns has done: segments in a row from `snd_nxt` on, up to `R'`, and
a measurement was started if a new number was among them. -/
structure Sends (iss : Int) (F R T R' : Nat) (c c' : Conn) : Prop where
  seq : SeqAt iss F R' (max T R') c'.tcb.snd
  sent : ∃ segs, c'.core.out = c.core.out ++ segs ∧ Laid iss R segs R'
  rtt : c'.tcb.rto.rtt = probed c.tcb.rto.rtt c.core.seconds (T < R')
  nowNs : c'.core.nowNs = c.core.nowNs

theorem probed_of_not {rtt : Option ℚ} {now : ℚ} {new : Prop} [Decidable new] (h : ¬ new) :
    probed rtt now new = rtt := by
  unfold probed
  rw [if_neg h, Option.or_none]

/-- The comparison of two sequence numbers that are near to each other. -/
theorem seqGt_seqOf {iss : Int} {a b : Nat} (h : a < b + 2147483648 ∧ b < a + 2147483648) :
    seqGt (seqOf iss a) (seqOf iss b) ↔ b < a := by
  unfold seqGt seqOf
  omega

@[simp] theorem afterSegment_rtt (c : Conn) (data : List UInt8) (fin : Bool) :
    (c.afterSegment data fin).tcb.rto.rtt = probed c.tcb.rto.rtt c.core.seconds
      (seqGt ((c.tcb.snd.sndNxt + data.length + fin.toInt) % 4294967296) c.tcb.snd.sndMax) := by
  unfold Conn.afterSegment probed
  simp only [Conn.txTcp_tcb, Conn.setSnd_tcb, TCPCB.setSnd_snd]
  split
  · cases hrtt : c.tcb.rto.rtt <;> simp [hrtt, Core.seconds]
  · simp

@[simp] theorem afterSegment_nowNs (c : Conn) (data : List UInt8) (fin : Bool) :
    (c.afterSegment data fin).core.nowNs = c.core.nowNs := by
  rw [Conn.afterSegment_core]
  rfl

namespace Sends

variable {iss : Int} {F R T R' : Nat} {c c' c'' : Conn}

/-- Nothing, or a segment without numbers. -/
theorem of_empty (hseq : SeqAt iss F R T c'.tcb.snd)
    (hout : c'.core.out = c.core.out ∨ ∃ e, c'.core.out = c.core.out ++ [e] ∧ e.2.Empty ∧
      e.2.seq = seqOf iss R)
    (hrtt : c'.tcb.rto.rtt = c.tcb.rto.rtt) (hnow : c'.core.nowNs = c.core.nowNs) :
    Sends iss F R T R c c' := by
  have hR := hseq.nxt_le
  refine ⟨by rwa [max_eq_left hR], ?_, by rw [probed_of_not (by omega), hrtt], hnow⟩
  rcases hout with hout | ⟨e, hout, ⟨⟨hdata, hfin⟩, hsyn⟩, hseq'⟩
  · exact ⟨[], by rw [hout, List.append_nil], rfl⟩
  · refine ⟨[e], hout, hseq', ?_⟩
    unfold TxTcp.seqLen
    rw [hdata, hfin, hsyn]
    rfl

/-- One segment with one number. -/
theorem of_one {e : SockId × TxTcp} (hseq : SeqAt iss F (R + 1) (max T (R + 1)) c'.tcb.snd)
    (hout : c'.core.out = c.core.out ++ [e]) (hnxt : e.2.seq = seqOf iss R) (hlen : e.2.seqLen = 1)
    (hrtt : c'.tcb.rto.rtt = probed c.tcb.rto.rtt c.core.seconds (T < R + 1))
    (hnow : c'.core.nowNs = c.core.nowNs) : Sends iss F R T (R + 1) c c' :=
  ⟨hseq, ⟨[e], hout, hnxt, by rw [hlen]; rfl⟩, hrtt, hnow⟩

theorem congr (h : Sends iss F R T R' c c') (hseq : SeqAt iss F R' (max T R') c''.tcb.snd)
    (hout : c''.core.out = c'.core.out) (hrtt : c''.tcb.rto.rtt = c'.tcb.rto.rtt)
    (hnow : c''.core.nowNs = c'.core.nowNs) : Sends iss F R T R' c c'' :=
  ⟨hseq, by rw [hout]; exact h.sent, hrtt.trans h.rtt, hnow.trans h.nowNs⟩

theorem startRtxTimer (h : Sends iss F R T R' c c') : Sends iss F R T R' c c'.startRtxTimer :=
  h.congr (by simpa using h.seq) (by simp) (by simp) (by simp)

/-- **One segment** of the loop. -/
theorem segment (h : Sends iss F R T R' c c') (data : List UInt8) (fin : Bool)
    (hlen : data.length ≤ TCP_MAX_TX_BYTES) (hnear : T < F + 2147483648) :
    Sends iss F R T (R' + data.length + fin.toNat) c (c'.afterSegment data fin) := by
  obtain ⟨⟨huna, hnxt, hmax, hF, -⟩, ⟨segs, hout, hlaid⟩, hrtt, hnow⟩ := h
  have hbit : fin.toNat ≤ 1 ∧ fin.toInt = fin.toNat := by cases fin <;> decide
  simp only [TCP_MAX_TX_BYTES] at hlen
  have hnew : (c'.tcb.snd.sndNxt + data.length + fin.toInt) % 4294967296 =
      seqOf iss (R' + data.length + fin.toNat) := by
    rw [hnxt, hbit.2]
    unfold seqOf
    push_cast
    omega
  have hgt : seqGt (seqOf iss (R' + data.length + fin.toNat)) c'.tcb.snd.sndMax ↔
      max T R' < R' + data.length + fin.toNat := by
    rw [hmax]
    exact seqGt_seqOf (by omega)
  refine ⟨?_, ⟨segs ++ [(c'.tcb.socketId, c'.dataSegment data fin)], ?_, ?_⟩, ?_, ?_⟩
  · rw [afterSegment_snd]
    simp only [hnew]
    refine ⟨huna, rfl, ?_, by omega, le_max_right _ _⟩
    simp only
    split
    · next h =>
      rw [max_eq_right (by have := hgt.1 h; omega)]
    · next h =>
      rw [hmax]
      congr 1
      have := mt hgt.2 h
      omega
  · rw [afterSegment_out, hout, List.append_assoc]
  · exact hlaid.snoc hnxt (by simp [TxTcp.seqLen, Conn.dataSegment, Conn.header,
      TxTcp.bare, add_assoc])
  · rw [afterSegment_rtt, hnew, hrtt]
    have hsec : c'.core.seconds = c.core.seconds := by
      unfold Core.seconds
      rw [hnow]
    unfold probed
    rw [hsec]
    by_cases hold : T < R'
    · have hpast : T < R' + data.length + fin.toNat := by omega
      rw [if_pos hold, if_pos hpast]
      cases c.tcb.rto.rtt <;> simp
    · have hmaxT : max T R' = T := by omega
      rw [if_neg hold, Option.or_none]
      rw [hmaxT] at hgt
      rw [if_congr hgt rfl rfl]
  · rw [afterSegment_nowNs, hnow]

end Sends

/-- The connection after `_drain_snd_buf`, at the same time. -/
structure DrainedNow (c c₁ : Conn) : Prop extends Drained c c₁ where
  rtt : c₁.tcb.rto.rtt = c.tcb.rto.rtt
  nowNs : c₁.core.nowNs = c.core.nowNs

section Handlers

variable {iss : Int} {F R T : Nat} {c c₁ : Conn}

theorem Conn.DrainsTo.now (h : c.DrainsTo c₁) : DrainedNow c c₁ := by
  rcases h with rfl | rfl
  · exact ⟨⟨rfl, rfl, rfl, rfl⟩, rfl, rfl⟩
  · exact ⟨⟨rfl, rfl, rfl, rfl⟩, rfl, rfl⟩

theorem DrainedNow.sends (hd : DrainedNow c c₁) (hseq : SeqAt iss F R T c.tcb.snd) :
    Sends iss F R T R c c₁ :=
  .of_empty (hseq.drained hd.toDrained) (Or.inl hd.out) hd.rtt hd.nowNs

/-- A reset or an acknowledgement, and nothing else that the record shows. -/
theorem DrainedNow.sends_empty (hd : DrainedNow c c₁) (hseq : SeqAt iss F R T c.tcb.snd) {c' : Conn}
    {seg : TxTcp} (hsnd : c'.tcb.snd = c₁.tcb.snd)
    (hout : c'.core.out = c₁.core.out ++ [(c₁.tcb.socketId, seg)]) (hempty : seg.Empty)
    (hnxt : seg.seq = c₁.tcb.snd.sndNxt) (hrtt : c'.tcb.rto.rtt = c₁.tcb.rto.rtt)
    (hnow : c'.core.nowNs = c₁.core.nowNs) : Sends iss F R T R c c' := by
  have hseq₁ := hseq.drained hd.toDrained
  refine .of_empty (by rwa [hsnd]) (Or.inr ⟨_, by rw [hout, hd.out], hempty,
    ?_⟩) (hrtt.trans hd.rtt)
    (hnow.trans hd.nowNs)
  exact hnxt.trans hseq₁.nxt_eq

theorem DrainedNow.activeCloseTx (hd : DrainedNow c c₁) (hseq : SeqAt iss F R T c.tcb.snd) :
    Sends iss F R T R c c₁.hActiveCloseTx := by
  have hempty :
      TxTcp.Empty { c₁.stopAllTimers.header with ack := true, rst := true, window := 0 } :=
    ⟨⟨rfl, rfl⟩, rfl⟩
  refine hd.sends_empty hseq (by simp) ?_ hempty (by simp [Conn.header, TxTcp.bare]) (by simp) ?_
  · simp [Conn.hActiveCloseTx, Conn.sendRst, Conn.stopAllTimers]
  · simp [Conn.hActiveCloseTx, Conn.sendRst, Conn.stopAllTimers]

/-- **`_tx_loop`** sends the drained bytes, and possibly the FIN. -/
theorem txLoop_sends (hd : DrainedNow c c₁) (hseq : SeqAt iss F R T c.tcb.snd)
    (hnear : T < F + 2147483648) (next : Option STATES) (shutReq closeReq : Bool)
    (hret : (txLoop c₁ (drainSndBuf c.tcb.snd).1 next shutReq closeReq).fault = none) :
    ∃ R' ≤ R + (if drainLen c.tcb.snd = 0 then 0
      else drainLen c.tcb.snd + (shutReq || closeReq).toNat),
      Sends iss F R T R' c (txLoop c₁ (drainSndBuf c.tcb.snd).1 next shutReq closeReq).st := by
  have hmax : drainLen c.tcb.snd ≤ TCP_MAX_TX_BYTES :=
    (Nat.min_le_left _ _).trans (Nat.min_le_left _ _)
  have hrule := txLoop_rule hd.toDrained next shutReq closeReq
    (I := fun m c' => m ≤ drainLen c.tcb.snd ∧ Sends iss F R T (R + drainLen c.tcb.snd - m) c c')
    (J := fun c' => ∃ R' ≤ R + (if drainLen c.tcb.snd = 0 then 0
      else drainLen c.tcb.snd + (shutReq || closeReq).toNat), Sends iss F R T R' c c')
    ⟨le_rfl, by rw [Nat.add_sub_cancel]; exact hd.sends hseq⟩
    ⟨R, Nat.le_add_right _ _, hd.activeCloseTx hseq⟩ ?hseg ?hdone ?hfin
  · rcases hrule with ⟨-, h⟩ | ⟨hf, -⟩
    · exact h
    · exact absurd hret hf
  case hseg =>
    rintro c' seg m hlen ⟨hle, h⟩
    have hpos : R + drainLen c.tcb.snd - (seg.length + m) + seg.length + false.toNat =
        R + drainLen c.tcb.snd - m := by
      simp only [Bool.toNat_false]
      omega
    refine ⟨by omega, ?_⟩
    rw [← hpos]
    exact h.segment seg false (by omega) hnear
  case hdone =>
    rintro c' ⟨-, h⟩
    refine ⟨R + drainLen c.tcb.snd, ?_, h.startRtxTimer⟩
    split <;> omega
  case hfin =>
    rintro hwant c' seg hpos hle ⟨-, h⟩
    have hend : R + drainLen c.tcb.snd - seg.length + seg.length + true.toNat =
        R + drainLen c.tcb.snd + 1 := by
      simp only [Bool.toNat_true]
      omega
    have hlast := h.segment seg true (by omega) hnear
    rw [hend] at hlast
    have hseq' := hlast.seq
    have hmark : SeqAt iss F (R + drainLen c.tcb.snd + 1) (max T (R + drainLen c.tcb.snd + 1))
        { (c'.afterSegment seg true).tcb.snd with sentFin := true } :=
      ⟨hseq'.una_eq, hseq'.nxt_eq, hseq'.max_eq, hseq'.una_le, hseq'.nxt_le⟩
    refine ⟨R + drainLen c.tcb.snd + 1, ?_, ?_⟩
    · rw [if_neg hpos.ne', hwant, Bool.toNat_true, Nat.add_assoc]
    · unfold Conn.afterFin
      refine hlast.congr ?_ ?_ ?_ ?_
      · cases next <;> simpa using hmark
      · cases next <;> simp
      · cases next <;> simp
      · cases next <;> simp

/-- **`_send_fin`**: the FIN for the first time, or again, or nothing. -/
theorem sendFin_sends (hd : DrainedNow c c₁) (hseq : SeqAt iss F R T c.tcb.snd)
    (next : Option STATES) (hfirst : c.tcb.snd.sentFin = false → R = T) :
    ∃ R', (R' ≤ T ∨ R' = R + 1 ∧ c.tcb.snd.sentFin = false) ∧
      Sends iss F R T R' c (c₁.sendFin next) := by
  have hfin₁ : c₁.tcb.snd.sentFin = c.tcb.snd.sentFin := by rw [hd.snd]; rfl
  obtain ⟨huna, hnxt, hmax, hF, hR⟩ := hseq.drained hd.toDrained
  have hbump : (c₁.tcb.snd.sndNxt + 1) % 4294967296 = seqOf iss (R + 1) := by
    rw [hnxt]
    unfold seqOf
    push_cast
    omega
  have hsec : (c₁.core.nowNs : ℚ) / 1000000000 = c.core.seconds := by
    unfold Core.seconds
    rw [hd.nowNs]
  unfold Conn.sendFin
  split
  · next hsent =>
    split
    · next hgt =>
      have hlt : R + 1 ≤ T := by
        have hne : R ≠ T := by
          rintro rfl
          exact hgt.1 (hmax.trans hnxt.symm)
        omega
      refine ⟨R + 1, Or.inl hlt,
        .of_one (e := (c₁.tcb.socketId, { c₁.header with ack := true, fin := true })) ?_ ?_
        hnxt rfl ?_ ?_⟩
      · rw [max_eq_left hlt]
        refine ⟨?_, ?_, ?_, by omega, hlt⟩
        · simpa using huna
        · simpa using hbump
        · simpa using hmax
      · simp [hd.out]
      · rw [probed_of_not (by omega)]
        simpa using hd.rtt
      · simpa using hd.nowNs
    · exact ⟨R, Or.inl hR, hd.sends hseq⟩
  · next hsent =>
    have hnot : c.tcb.snd.sentFin = false := by simpa [hfin₁] using hsent
    obtain rfl := hfirst hnot
    refine ⟨R + 1, Or.inr ⟨rfl, hnot⟩,
      .of_one (e := (c₁.tcb.socketId, { c₁.header with ack := true, fin := true })) ?_ ?_
        hnxt rfl ?_ ?_⟩
    · rw [max_eq_right (Nat.le_succ R)]
      refine ⟨?_, ?_, ?_, by omega, le_rfl⟩
      · cases next <;> simpa using huna
      · cases next <;> simpa using hbump
      · cases next <;> simpa using hbump
    · cases next <;> simp [Conn.header, hd.out]
    · unfold probed
      rw [if_pos (Nat.lt_succ_self R), ← hd.rtt, ← hsec]
      cases next <;> cases hrtt : c₁.tcb.rto.rtt <;> simp [hrtt]
    · cases next <;> simpa using hd.nowNs

/-- What a send handler may do: it stays in what was sent before, or within its reach. -/
def SendsUpTo (iss : Int) (F R T : Nat) (c c' : Conn) : Prop :=
  ∃ R', (R' ≤ T ∨ R' ≤ R + c.reach) ∧ Sends iss F R T R' c c'

/-- Nothing was ready: the FIN alone, if it is wanted and there is a window. -/
theorem DrainedNow.sendFin (hd : DrainedNow c c₁) (hseq : SeqAt iss F R T c.tcb.snd)
    (hfirst : c.FinAlone → R = T) (next : Option STATES) (hready : c.tcb.snd.sndBuf.ready = 0)
    (hdue : c.finDue = true) (hwnd : 0 < c.tcb.snd.sndWnd) {c' : Conn}
    (hc' : c' = c₁.sendFin next ∨ c' = (c₁.sendFin next).setAckNow false) :
    SendsUpTo iss F R T c c' := by
  have halone : c.tcb.snd.sentFin = false → c.FinAlone := fun hno => ⟨hready, hdue, hno, hwnd⟩
  obtain ⟨R', hle, hsends⟩ := sendFin_sends hd hseq next fun hno => hfirst (halone hno)
  refine ⟨R', ?_, ?_⟩
  · rcases hle with hle | ⟨rfl, hno⟩
    · exact Or.inl hle
    · right
      unfold Conn.reach
      rw [if_pos (halone hno)]
  · rcases hc' with rfl | rfl
    · exact hsends
    · exact hsends.congr hsends.seq rfl rfl rfl

/-- Something was ready. -/
theorem DrainedNow.loop (hd : DrainedNow c c₁) (hseq : SeqAt iss F R T c.tcb.snd)
    (hnear : T < F + 2147483648) (next : Option STATES) (shutReq closeReq : Bool)
    (hready : c.tcb.snd.sndBuf.ready ≠ 0) (hdue : (shutReq || closeReq) = c.finDue)
    (hret : (txLoop c₁ (drainSndBuf c.tcb.snd).1 next shutReq closeReq).fault = none) :
    SendsUpTo iss F R T c (txLoop c₁ (drainSndBuf c.tcb.snd).1 next shutReq closeReq).st := by
  obtain ⟨R', hle, hsends⟩ := txLoop_sends hd hseq hnear next shutReq closeReq hret
  refine ⟨R', Or.inr ?_, hsends⟩
  unfold Conn.reach
  rwa [if_neg fun h => hready h.1, ← hdue]

variable (hseq : SeqAt iss F R T c.tcb.snd) (hnear : T < F + 2147483648)
    (hfirst : c.FinAlone → R = T)

include hseq hnear hfirst

/-- A send handler on each of its paths. -/
theorem TxPath.sendsUpTo {next : Option STATES} {shutReq closeReq : Bool} {o : Outcome}
    (hpath : TxPath c c₁ next shutReq closeReq o) (hd : DrainedNow c c₁)
    (hdue : (shutReq || closeReq) = c.finDue) (hret : o.fault = none) :
    SendsUpTo iss F R T c o.st := by
  have hnil := (drainSndBuf_views c.tcb.snd).1
  have hstay {c' : Conn} (h : Sends iss F R T R c c') : SendsUpTo iss F R T c c' :=
    ⟨R, Or.inl hseq.nxt_le, h⟩
  cases hpath with
  | abort => exact hstay (hd.activeCloseTx hseq)
  | fin c' nil _ due wnd sent =>
    exact hd.sendFin hseq hfirst next (hnil.1 nil) (hdue ▸ due) wnd sent
  | quiet c' _ _ _ sent =>
    rcases sent with rfl | rfl
    · exact hstay (hd.sends hseq)
    · exact hstay (hd.sends_empty hseq rfl rfl ⟨⟨rfl, rfl⟩, rfl⟩ rfl rfl rfl)
  | loop ready => exact hd.loop hseq hnear next _ _ (fun h => ready (hnil.2 h)) hdue hret

/-- **A send handler** of the states in which samples are taken, when it returns. -/
theorem tx_sends (hs : c.tcb.state.Timed) (hret : c.tx.fault = none) :
    SendsUpTo iss F R T c c.tx.st := by
  have hcases : c.tcb.state.Streaming ∨ c.tcb.state = .lastAck := by
    simpa [STATES.Timed, STATES.Streaming, or_assoc] using hs
  rcases hcases with hs | hs
  · obtain ⟨c₁, hdrain, hpath⟩ := Conn.tx_streaming hs
    have hlast : c.tcb.state ≠ .lastAck := fun h => absurd (h ▸ hs) (by decide)
    have hdue : c.tcb.req.finWanted = c.finDue := by simp [Conn.finDue, hlast]
    exact hpath.sendsUpTo hseq hnear hfirst hdrain.now hdue hret
  · obtain ⟨c₁, hdrain, hpath⟩ := Conn.tx_ending (c := c) (by rw [hs]; decide)
    have hdue : true = c.finDue := by simp [Conn.finDue, hs]
    exact hpath.sendsUpTo hseq hnear hfirst hdrain.now hdue hret

end Handlers

/-! ## Receiving -/

/-- What a segment has done: `k` sequence numbers were acknowledged, a sample was taken if there
were any, and nothing with a sequence number was sent. -/
structure Heard (iss : Int) (F R T k : Nat) (p : Segment) (c c' : Conn) : Prop where
  seq : SeqAt iss (F + k) R T c'.tcb.snd
  ack : 0 < k → (k : Int) = seqDiff p.ackSeq c.tcb.snd.sndUna
  rto : c'.tcb.rto = if 0 < k then c.rttSample.tcb.rto else c.tcb.rto
  sent : Emits TxTcp.Empty c.core.out c'.core.out

section Receive

variable {iss : Int} {F R T k : Nat} {c c' c'' : Conn} {p : Segment}

theorem Heard.same (hseq : SeqAt iss F R T c.tcb.snd) (hsnd : c'.tcb.snd = c.tcb.snd)
    (hrto : c'.tcb.rto = c.tcb.rto) (hsent : Emits TxTcp.Empty c.core.out c'.core.out) :
    Heard iss F R T 0 p c c' :=
  ⟨by rw [hsnd]; exact hseq, fun h => absurd h (lt_irrefl 0), by rw [hrto, if_neg (lt_irrefl 0)],
    hsent⟩

/-- What does not move the positions, and sends only empty segments, may follow. -/
theorem Heard.congr (h : Heard iss F R T k p c c')
    (hseq : SeqAt iss (F + k) R T c'.tcb.snd → SeqAt iss (F + k) R T c''.tcb.snd)
    (hrto : c''.tcb.rto = c'.tcb.rto) (hsent : Emits TxTcp.Empty c'.core.out c''.core.out) :
    Heard iss F R T k p c c'' :=
  ⟨hseq h.seq, h.ack, hrto.trans h.rto, h.sent.trans hsent⟩

/-- The acknowledgement number of a segment was handled. -/
theorem Heard.of_ack (hseq : SeqAt iss F R T c.tcb.snd) (hp : 0 ≤ p.ackSeq ∧ p.ackSeq < 4294967296)
    (hsnd : ∀ k : Nat, SeqAt iss (F + k) R T (hRxAck c.tcb.snd p).1 →
    SeqAt iss (F + k) R T c'.tcb.snd)
    (hrto : c'.tcb.rto = if 0 < (hRxAck c.tcb.snd p).2 then c.rttSample.tcb.rto else c.tcb.rto)
    (hsent : Emits TxTcp.Empty c.core.out c'.core.out) : ∃ k, Heard iss F R T k p c c' := by
  obtain ⟨k, hk, hseq', heq, hdiff⟩ := hRxAck_seqAt hseq hp
  have hpos : 0 < (hRxAck c.tcb.snd p).2 ↔ 0 < k := by
    rw [hk]
    exact Int.natCast_pos
  refine ⟨k, hsnd k hseq', fun h => ?_, by rw [hrto, if_congr hpos rfl rfl], hsent⟩
  rw [← hk]
  unfold hRxAck at hk ⊢
  split
  · next hout =>
    rw [if_pos hout] at hk
    simp only at hk
    omega
  · rfl

theorem SeqAt.free {s : SndVars} (h : SeqAt iss F R T s) (n : Int) :
    SeqAt iss F R T (freeSndBuf s n) :=
  ⟨h.una_eq, h.nxt_eq, h.max_eq, h.una_le, h.nxt_le⟩

theorem estabAck_rto : (c.estabAck p).tcb.rto =
    if 0 < (hRxAck c.tcb.snd p).2 then c.rttSample.tcb.rto else c.tcb.rto := by
  unfold Conn.estabAck
  simp only
  split
  · unfold Conn.ackTimer
    split <;> simp
  · simp

theorem estabAccept_rto : (c.estabAccept p).tcb.rto =
    if 0 < (hRxAck c.tcb.snd p).2 then c.rttSample.tcb.rto else c.tcb.rto := by
  unfold Conn.estabAccept Conn.appendData
  simp only
  split <;> split <;> split <;> simp [estabAck_rto]

theorem closeWaitAck_rto : (c.closeWaitAck p).tcb.rto =
    if 0 < (hRxAck c.tcb.snd p).2 then c.rttSample.tcb.rto else c.tcb.rto := by
  unfold Conn.closeWaitAck Conn.ackTimer
  simp only
  split
  · split <;> simp
  · simp

theorem lastAckAck_rto : (c.lastAckAck p).tcb.rto =
    if 0 < (hRxAck c.tcb.snd p).2 then c.rttSample.tcb.rto else c.tcb.rto := by
  unfold Conn.lastAckAck
  simp only
  split
  · split <;> simp
  · simp

theorem rxEstab_heard (hseq : SeqAt iss F R T c.tcb.snd) (hp : p.Parsed) :
    ∃ k, Heard iss F R T k p c (c.rxEstab p) := by
  have hsent := rxEstab_emits c p
  have hack : ∀ s, hRxAck s (hRxSeq c.tcb.rcv p).seg = hRxAck s p := by
    intro s
    unfold hRxAck
    rw [hRxSeq_ackSeq]
  revert hsent
  unfold Conn.rxEstab
  simp only
  split
  · split
    · exact fun hsent => ⟨0, .same hseq (by simp) (by simp) hsent⟩
    · split
      · exact fun hsent => ⟨0, .same hseq (by simp) (by simp) hsent⟩
      · intro hsent
        refine Heard.of_ack hseq hp.ackSeq_range ?_ ?_ hsent
        · intro k h
          rw [Conn.estabAccept_snd, Conn.estabAck_snd, Conn.setRcv_tcb, TCPCB.setRcv_snd, hack]
          refine hRxWnd_seqAt ?_
          split
          · exact h.free _
          · exact h
        · rw [estabAccept_rto, Conn.setRcv_tcb, TCPCB.setRcv_snd, hack]
          simp
  · exact fun hsent => ⟨0, .same hseq (by simp) (by simp) hsent⟩
  · exact fun hsent => ⟨0, .same hseq (by simp) (by simp) hsent⟩

theorem rxCloseWait_heard (hseq : SeqAt iss F R T c.tcb.snd) (hp : p.Parsed) :
    ∃ k, Heard iss F R T k p c (c.rxCloseWait p) := by
  have hsent := rxCloseWait_emits c p
  revert hsent
  unfold Conn.rxCloseWait
  split_ifs
  · exact fun hsent => ⟨0, .same hseq (by simp) (by simp) hsent⟩
  · exact fun hsent => ⟨0, .same hseq (by simp) (by simp) hsent⟩
  · exact fun hsent => ⟨0, .same hseq (by simp) (by simp) hsent⟩
  · intro hsent
    refine Heard.of_ack hseq hp.ackSeq_range ?_ ?_ hsent
    · intro k h
      rw [Conn.scheduleEvent_tcb, Conn.closeWaitAck_snd]
      exact (hRxWnd_seqAt h).free _
    · rw [Conn.scheduleEvent_tcb, closeWaitAck_rto]
  · exact fun hsent => ⟨0, .same hseq rfl rfl hsent⟩

theorem rxLastAck_heard (hseq : SeqAt iss F R T c.tcb.snd) (hp : p.Parsed) :
    ∃ k, Heard iss F R T k p c (c.rxLastAck p) := by
  have hsent := rxLastAck_emits c p
  revert hsent
  unfold Conn.rxLastAck
  split_ifs
  · exact fun hsent => ⟨0, .same hseq (by simp) (by simp) hsent⟩
  · exact fun hsent => ⟨0, .same hseq (by simp) (by simp) hsent⟩
  · intro hsent
    refine Heard.of_ack hseq hp.ackSeq_range ?_ ?_ hsent
    · intro k h
      rw [Conn.updateWnd_tcb, TCPCB.setSnd_snd, Conn.lastAckAck_snd]
      refine hRxWnd_seqAt ?_
      unfold ackBehindFin
      split_ifs
      · exact h.free _
      · exact h.free _
      · exact h
    · rw [Conn.updateWnd_tcb, TCPCB.setSnd_rto, lastAckAck_rto]
  · exact fun hsent => ⟨0, .same hseq rfl rfl hsent⟩

/-- **A segment** in the states in which samples are taken. -/
theorem rx_heard (packet : TCPParser) (hseq : SeqAt iss F R T c.tcb.snd) (hs : c.tcb.state.Timed) :
    ∃ k, Heard iss F R T k packet.segment c (c.rx packet).st := by
  have hcases : c.tcb.state = .estab ∨ c.tcb.state = .closeWait ∨ c.tcb.state = .lastAck := by
    simpa [STATES.Timed] using hs
  unfold Conn.rx
  rcases hcases with hs | hs | hs
  · rw [hs]
    exact rxEstab_heard hseq packet.parsed
  · rw [hs]
    exact rxCloseWait_heard hseq packet.parsed
  · rw [hs]
    exact rxLastAck_heard hseq packet.parsed

theorem synSentEstab_sent (c : Conn) (p : Segment) :
    Emits TxTcp.Empty c.core.out (c.synSentEstab p).core.out := by
  have hdata : (c.synSentData p).core.out = c.core.out := by
    unfold Conn.synSentData
    split <;> rfl
  have hack : Emits TxTcp.Empty (c.synSentData p).core.out (c.synSentData p).sendAck.core.out :=
    .append _ _ ⟨⟨rfl, rfl⟩, rfl⟩
  rw [hdata] at hack
  unfold Conn.synSentEstab
  simp only
  split <;> simpa using hack

/-- In `SYN_SENT` a sample is taken when the SYN-ACK is accepted, even if its options cannot be
read. -/
theorem rxSynSent_heard (hseq : SeqAt iss F R T c.tcb.snd) (hs : c.tcb.state = .synSent)
    (hp : p.Parsed) (hrst : ¬ (p.rst = true ∧ 0 < (hRxAck c.tcb.snd p).2))
    (hopen : p.syn = true → p.ack = true ∨ p.fin = true) :
    ∃ k, Heard iss F R T k p c (c.rxSynSent p).st ∧
      ((c.rxSynSent p).st.tcb.state = .synSent ∧ k = 0 ∨ (c.rxSynSent p).st.tcb.state = .estab ∨
        (c.rxSynSent p).fault ≠ none) := by
  unfold Conn.rxSynSent
  rw [if_neg hrst]
  split
  · exact ⟨0, .same hseq rfl rfl (.refl _ _), Or.inl ⟨hs, rfl⟩⟩
  · next hfin =>
    split
    · split
      · next hpos =>
        have haccept : ∃ k, Heard iss F R T k p c (c.synSentAccept p) := by
          refine Heard.of_ack hseq hp.ackSeq_range ?_ ?_ ?_
          · intro k h
            have hinit : SeqAt iss (F + k) R T (initSndWnd (hRxAck c.tcb.snd p).1 p) :=
              ⟨h.una_eq, h.nxt_eq, h.max_eq, h.una_le, h.nxt_le⟩
            simpa [Conn.synSentAccept] using hinit
          · rw [if_pos hpos]
            simp [Conn.synSentAccept]
          · simpa [Conn.synSentAccept] using Emits.refl TxTcp.Empty c.core.out
        obtain ⟨k, hk⟩ := haccept
        simp only
        split
        · exact ⟨k, hk, Or.inr (Or.inr (by simp))⟩
        · refine ⟨k, hk.congr ?_ ?_ ?_, Or.inr (Or.inl ?_)⟩
          · intro h
            rw [Outcome.ok_st, synSentEstab_snd, Conn.setSnd_tcb, TCPCB.setSnd_snd]
            exact ⟨h.una_eq, h.nxt_eq, h.max_eq, h.una_le, h.nxt_le⟩
          · simp only [Outcome.ok_st, Conn.synSentEstab, Conn.synSentData]
            split <;> split <;> simp
          · exact synSentEstab_sent ((c.synSentAccept p).setSnd _) p
          · simp only [Outcome.ok_st, Conn.synSentEstab]
            split <;> simp
      · exact ⟨0, .same hseq (by simp) (by simp) (.dropWithReset c p),
          Or.inl ⟨by simpa using hs, rfl⟩⟩
    · next hsynack =>
      split
      · next hsyn => exact absurd ⟨hsyn, (hopen hsyn).resolve_right hfin⟩ hsynack
      · exact ⟨0, .same hseq rfl rfl (.refl _ _), Or.inl ⟨hs, rfl⟩⟩

end Receive

/-- The states that no sample is taken in, and that lead to no other. -/
def STATES.Spent (s : STATES) : Prop := s ∈ [.finWait1, .finWait2, .closing, .timeWait, .closed]

instance (s : STATES) : Decidable s.Spent := inferInstanceAs (Decidable (s ∈ _))

section Spent

variable {c : Conn} {p : Segment}

theorem finWait1Accept_rto : (c.finWait1Accept p).tcb.rto = c.tcb.rto := by
  have hack : ∀ d : Conn, (d.finWait1Ack p).tcb.rto = d.tcb.rto := by
    intro d
    unfold Conn.finWait1Ack
    simp only
    split
    · split <;> split <;> simp
    · simp
  unfold Conn.finWait1Accept Conn.appendData
  simp only
  split <;> split <;> split <;> simp [hack]

theorem finWait2Accept_rto : (c.finWait2Accept p).tcb.rto = c.tcb.rto := by
  unfold Conn.finWait2Accept Conn.appendData
  simp only
  split <;> split <;> split <;> simp

theorem closingAck_rto : (c.closingAck p).tcb.rto = c.tcb.rto := by rw [Conn.closingAck_tcb]

theorem rx_rto_of_spent (hs : c.tcb.state.Spent) (packet : TCPParser) :
    (c.rx packet).st.tcb.rto = c.tcb.rto := by
  unfold Conn.rx
  cases hstate : c.tcb.state with
  | listen | synSent | synRecv | estab | closeWait | lastAck =>
    exact absurd hs (by rw [hstate]; decide)
  | finWait1 =>
    simp only [Outcome.ok_st, Conn.rxFinWait1]
    split
    · split_ifs <;> simp [finWait1Accept_rto]
    · simp
    · simp
  | finWait2 =>
    simp only [Outcome.ok_st, Conn.rxFinWait2]
    split
    · split_ifs <;> simp [finWait2Accept_rto]
    · simp
    · simp
  | closing =>
    simp only [Outcome.ok_st, Conn.rxClosing]
    split_ifs <;> simp [closingAck_rto]
  | timeWait =>
    simp only [Outcome.ok_st, Conn.rxTimeWait]
    split <;> simp
  | closed => rfl

/-- A segment leaves the estimator alone, or is a sample, or opens the connection from the other
side. -/
theorem rx_rto (packet : TCPParser) : (c.rx packet).st.tcb.rto = c.tcb.rto ∨
    (c.rx packet).st.tcb.rto = c.rttSample.tcb.rto ∨
      (c.rx packet).st.tcb.rto = { c.tcb.rto with rtt := some c.core.seconds } := by
  by_cases hs : c.tcb.state.Spent
  · exact Or.inl (rx_rto_of_spent hs packet)
  unfold Conn.rx
  cases hstate : c.tcb.state with
  | finWait1 | finWait2 | closing | timeWait | closed => exact absurd (by rw [hstate]; decide) hs
  | listen => exact Or.inl rfl
  | synSent =>
    simp only [Conn.rxSynSent]
    split
    · simp
    · split
      · simp
      · split
        · split
          · split
            · simp [Conn.synSentAccept]
            · simp only [Outcome.ok_st, Conn.synSentEstab, Conn.synSentData]
              split <;> split <;> simp [Conn.synSentAccept]
          · simp
        · split
          · simp [Conn.synSentSimultaneous, Core.seconds]
          · simp
  | synRecv =>
    simp only [Outcome.ok_st, Conn.rxSynRecv]
    split_ifs <;> simp
  | estab =>
    simp only [Outcome.ok_st, Conn.rxEstab]
    split
    · split_ifs
      · simp
      · simp
      · rw [estabAccept_rto]
        split <;> simp
    · simp
    · simp
  | closeWait =>
    simp only [Outcome.ok_st, Conn.rxCloseWait]
    split_ifs
    · simp
    · simp
    · simp
    · rw [Conn.scheduleEvent_tcb, closeWaitAck_rto]
      split <;> simp
    · simp
  | lastAck =>
    simp only [Outcome.ok_st, Conn.rxLastAck]
    split_ifs
    · simp
    · simp
    · rw [Conn.updateWnd_tcb, TCPCB.setSnd_rto, lastAckAck_rto]
      split <;> simp
    · simp

end Spent

end Tipy.Tcp
