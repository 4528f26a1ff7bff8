import Tipy.Lib.Arc
import Tipy.Tcp.Frame

/-!
# Which segments are accepted

The sequence check of `_h_rx_seq` compares with signed differences, which are no order on the circle
of sequence numbers, and takes the last number of a segment without reducing it. Read as arcs of the
circle, what it does is plain: a segment is handled when it covers `rcv_nxt`, buffered when it only
starts in the window, and dropped when it does not meet the window (`acceptance_by_overlap`).

The FIN of an accepted segment is kept up to the last number of the window, while `rcv_nxt` stops
one number before the end of the window. The two disagree for a FIN on the last number of the window
(`fin_kept_iff_consumed_iff`).
-/

namespace Tipy.Tcp

open Tipy.Lib

/-! ## The numbers of a segment -/

/-- `SEG.LEN`: the payload, and one number each for SYN and FIN. -/
def Segment.segLen (p : Segment) : Int := p.dlen + p.syn.toInt + p.fin.toInt

/-- The numbers of a segment. -/
def Segment.arc (p : Segment) : Set Int := Lib.arc 4294967296 p.seq p.segLen

/-- The numbers of the receive window. -/
def RcvVars.windowArc (r : RcvVars) : Set Int :=
  Lib.arc 4294967296 r.rcvNxt (seqDiff r.rcvAdv r.rcvNxt)

instance (x : Int) (p : Segment) : Decidable (x ∈ p.arc) :=
  inferInstanceAs (Decidable (x ∈ Lib.arc _ _ _))

instance (x : Int) (r : RcvVars) : Decidable (x ∈ r.windowArc) :=
  inferInstanceAs (Decidable (x ∈ Lib.arc _ _ _))

/-- The window offered is between 1 and 65535 numbers wide. -/
structure RcvVars.Offers (r : RcvVars) : Prop where
  nxt_range : 0 ≤ r.rcvNxt ∧ r.rcvNxt < 4294967296
  adv_range : 0 ≤ r.rcvAdv ∧ r.rcvAdv < 4294967296
  pos : 1 ≤ seqDiff r.rcvAdv r.rcvNxt
  le : seqDiff r.rcvAdv r.rcvNxt ≤ 65535

/-- `RCV.NXT` falls within the numbers of the segment, by the comparisons of the code. -/
def CoversNext (r : RcvVars) (p : Segment) : Prop :=
  seqLeq p.seq r.rcvNxt ∧ seqGeq (lastSeq p) r.rcvNxt

instance (r : RcvVars) (p : Segment) : Decidable (CoversNext r p) :=
  inferInstanceAs (Decidable (_ ∧ _))

section Check

variable {r : RcvVars} {p : Segment}

theorem lastSeq_eq (h : p.segLen ≠ 0) : lastSeq p = p.seq + p.segLen - 1 := by
  have hsome : p.syn = true ∨ p.fin = true ∨ p.dlen ≠ 0 := by
    by_contra hnone
    simp only [not_or, Bool.not_eq_true, not_not] at hnone
    obtain ⟨hsyn, hfin, hdlen⟩ := hnone
    simp [Segment.segLen, hsyn, hfin, hdlen] at h
  unfold lastSeq Segment.segLen
  rw [if_pos hsome]
  omega

theorem segLen_of_syn (h : p.syn = false) : p.segLen = p.dlen + p.fin.toInt := by
  simp [Segment.segLen, h]

/-- The length is what the dispatch tests. -/
theorem segLen_eq : p.dlen + p.fin.toInt + p.syn.toInt = p.segLen := by
  unfold Segment.segLen
  omega

/-! ## The four cases of the dispatch -/

theorem hRxSeq_zlen_zwnd (hlen : p.segLen = 0) (hwnd : r.rcvWnd = 0) :
    hRxSeq r p = hRxSeqZlenZwnd r p := by
  unfold hRxSeq
  rw [segLen_eq, if_pos hlen, if_pos hwnd]

theorem hRxSeq_zlen (hlen : p.segLen = 0) (hwnd : r.rcvWnd ≠ 0) : hRxSeq r p = hRxSeqZlen r p := by
  unfold hRxSeq
  rw [segLen_eq, if_pos hlen, if_neg hwnd]

theorem hRxSeq_zwnd (hlen : p.segLen ≠ 0) (hwnd : r.rcvWnd = 0) : hRxSeq r p = hRxSeqZwnd r p := by
  unfold hRxSeq
  rw [segLen_eq, if_neg hlen, if_pos hwnd]

theorem hRxSeq_normal (hlen : p.segLen ≠ 0) (hwnd : r.rcvWnd ≠ 0) :
    hRxSeq r p = hRxSeqNormal r p := by
  unfold hRxSeq
  rw [segLen_eq, if_neg hlen, if_neg hwnd]

theorem hRxSeqNormal_verdict : (hRxSeqNormal r p).verdict =
    if CoversNext r p then .acceptAndHandle
    else if seqGt p.seq r.rcvNxt ∧ seqLt p.seq r.rcvAdv then .acceptButBuffer else .drop := by
  by_cases hin : CoversNext r p
  · rw [if_pos hin]
    unfold CoversNext at hin
    rw [hRxSeqNormal, if_pos hin]
  · rw [if_neg hin]
    unfold CoversNext at hin
    rw [hRxSeqNormal, if_neg hin]
    split <;> rfl

theorem hRxSeqNormal_rcvNxt (h : CoversNext r p) :
    (hRxSeqNormal r p).rcv.rcvNxt = (r.rcvNxt + acceptedLen r p) % 4294967296 := by
  unfold CoversNext at h
  rw [hRxSeqNormal, if_pos h]

theorem hRxSeqNormal_fin (h : CoversNext r p) :
    (hRxSeqNormal r p).seg.fin = (p.fin && !decide (seqGeq (lastSeq p) r.rcvAdv)) := by
  unfold CoversNext at h
  rw [hRxSeqNormal, if_pos h]

/-- A segment that is not in order is left as it is, and so is the control block. -/
theorem hRxSeqNormal_eq (h : ¬ CoversNext r p) :
    (hRxSeqNormal r p).rcv = r ∧ (hRxSeqNormal r p).seg = p := by
  unfold CoversNext at h
  rw [hRxSeqNormal, if_neg h]
  split <;> exact ⟨rfl, rfl⟩

/-- **Only a segment in order changes the control block**, and only when it has a length and the
window is open. -/
theorem hRxSeq_rcv_eq (h : ¬ (r.rcvWnd ≠ 0 ∧ p.segLen ≠ 0 ∧ CoversNext r p)) :
    (hRxSeq r p).rcv = r ∧ (hRxSeq r p).seg = p := by
  by_cases hlen : p.segLen = 0
  · by_cases hwnd : r.rcvWnd = 0
    · rw [hRxSeq_zlen_zwnd hlen hwnd]
      exact ⟨rfl, rfl⟩
    · rw [hRxSeq_zlen hlen hwnd]
      exact ⟨rfl, rfl⟩
  · by_cases hwnd : r.rcvWnd = 0
    · rw [hRxSeq_zwnd hlen hwnd]
      exact ⟨rfl, rfl⟩
    · rw [hRxSeq_normal hlen hwnd]
      exact hRxSeqNormal_eq fun hin => h ⟨hwnd, hlen, hin⟩

end Check

/-! ## Comparisons on the circle -/

section Circle

variable {r : RcvVars} {p : Segment}

/-- `rcv_nxt` is one of the numbers of a segment that is shorter than half the circle. -/
theorem coversNext_iff (hn : 0 ≤ r.rcvNxt ∧ r.rcvNxt < 4294967296)
    (hseq : 0 ≤ p.seq ∧ p.seq < 4294967296) (hlen : 0 < p.segLen) (hle : p.segLen ≤ 65537) :
    CoversNext r p ↔ r.rcvNxt ∈ p.arc := by
  unfold CoversNext Segment.arc
  rw [lastSeq_eq hlen.ne', mem_arc]
  unfold seqLeq seqLt seqGeq seqGt
  omega

/-- `seq` is one of the numbers of the window. -/
theorem seqGt_seqLt_iff (hr : r.Offers) (hne : p.seq ≠ r.rcvNxt) :
    seqGt p.seq r.rcvNxt ∧ seqLt p.seq r.rcvAdv ↔ p.seq ∈ r.windowArc := by
  obtain ⟨hn, ha, hpos, hle⟩ := hr
  unfold RcvVars.windowArc
  rw [mem_arc]
  unfold seqGt seqLt
  unfold seqDiff at *
  omega

theorem seqLeq_seqLt_iff (hr : r.Offers) (hseq : 0 ≤ p.seq ∧ p.seq < 4294967296) :
    seqLeq r.rcvNxt p.seq ∧ seqLt p.seq r.rcvAdv ↔ p.seq ∈ r.windowArc := by
  obtain ⟨hn, ha, hpos, hle⟩ := hr
  unfold RcvVars.windowArc
  rw [mem_arc]
  unfold seqLeq seqLt
  unfold seqDiff at *
  omega

theorem acceptedLen_eq (hr : r.Offers) (hlen : p.segLen ≠ 0) : acceptedLen r p =
    min (seqDiff r.rcvAdv r.rcvNxt - 1) (seqDiff (p.seq + p.segLen) r.rcvNxt) := by
  obtain ⟨hn, ha, hpos, hle⟩ := hr
  unfold acceptedLen
  rw [lastSeq_eq hlen]
  unfold seqDiff at *
  omega

/-- The segment and the window are disjoint when `rcv_nxt` is not in the one and `seq` not in the
other. -/
theorem arc_inter_windowArc_iff (hr : r.Offers) (hlen : 0 < p.segLen) :
    p.arc ∩ r.windowArc = ∅ ↔ r.rcvNxt ∉ p.arc ∧ p.seq ∉ r.windowArc := by
  apply arc_inter_eq_empty_iff (by decide) hlen
  have := hr.pos
  omega

/-- The verdict on a segment with numbers, in an open window. -/
theorem hRxSeq_verdict (hr : r.Offers) (hseq : 0 ≤ p.seq ∧ p.seq < 4294967296) (hpos : 0 < p.segLen)
    (hle : p.segLen ≤ 65537) (hwnd : r.rcvWnd ≠ 0) : (hRxSeq r p).verdict =
      if r.rcvNxt ∈ p.arc then .acceptAndHandle
      else if p.seq ∈ r.windowArc then .acceptButBuffer else .drop := by
  have hin := coversNext_iff hr.nxt_range hseq hpos hle
  rw [hRxSeq_normal hpos.ne' hwnd, hRxSeqNormal_verdict]
  by_cases hmem : r.rcvNxt ∈ p.arc
  · rw [if_pos (hin.2 hmem), if_pos hmem]
  · -- a segment that starts at `rcv_nxt` covers it
    have hne : p.seq ≠ r.rcvNxt := by
      intro heq
      apply hmem
      rw [← heq]
      exact start_mem_arc.2 hpos
    rw [if_neg (mt hin.1 hmem), if_neg hmem, if_congr (seqGt_seqLt_iff hr hne) rfl rfl]

/-- A segment with numbers that is handled is in order, in an open window. -/
theorem coversNext_of_handled (hlen : p.segLen ≠ 0) (h : (hRxSeq r p).verdict = .acceptAndHandle) :
    r.rcvWnd ≠ 0 ∧ CoversNext r p := by
  have hwnd : r.rcvWnd ≠ 0 := by
    intro hwnd
    rw [hRxSeq_zwnd hlen hwnd] at h
    cases h
  refine ⟨hwnd, ?_⟩
  rw [hRxSeq_normal hlen hwnd, hRxSeqNormal_verdict] at h
  by_contra hno
  rw [if_neg hno] at h
  split at h <;> cases h

end Circle

/-! ## Acceptance -/

/-- What the sequence check does, with the segment and the window as arcs. Only whether `rcv_wnd` is
0 counts, not its sign. -/
structure AcceptsByOverlap (r : RcvVars) (p : Segment) : Prop where
  handled : r.rcvWnd ≠ 0 → 0 < p.segLen →
    ((hRxSeq r p).verdict = .acceptAndHandle ↔ r.rcvNxt ∈ p.arc)
  buffered : r.rcvWnd ≠ 0 → 0 < p.segLen →
    ((hRxSeq r p).verdict = .acceptButBuffer ↔ r.rcvNxt ∉ p.arc ∧ p.seq ∈ r.windowArc)
  dropped : r.rcvWnd ≠ 0 → 0 < p.segLen →
    ((hRxSeq r p).verdict = .drop ↔ p.arc ∩ r.windowArc = ∅)
  advances : r.rcvWnd ≠ 0 → 0 < p.segLen → (hRxSeq r p).verdict = .acceptAndHandle →
    (hRxSeq r p).rcv.rcvNxt = (r.rcvNxt +
      min (seqDiff r.rcvAdv r.rcvNxt - 1) (seqDiff (p.seq + p.segLen) r.rcvNxt)) % 4294967296
  empty : p.segLen = 0 → r.rcvWnd ≠ 0 →
    ((hRxSeq r p).verdict = .acceptAndHandle ↔ p.seq ∈ r.windowArc)
  empty_closed : p.segLen = 0 → r.rcvWnd = 0 →
    ((hRxSeq r p).verdict = .acceptAndHandle ↔ p.seq = r.rcvNxt)
  closed : 0 < p.segLen → r.rcvWnd = 0 → (hRxSeq r p).verdict = .drop
  unchanged : ¬ ((hRxSeq r p).verdict = .acceptAndHandle ∧ 0 < p.segLen ∧ r.rcvWnd ≠ 0) →
    (hRxSeq r p).rcv = r

/-- **Segment acceptance is interval intersection.** With a window of 1 to 65535 numbers and a
segment of up to 65537, wherever on the circle it starts: a segment with numbers is handled if
`rcv_nxt` is one of them, buffered if that is not so but it starts in the window, and dropped if it
does not meet the window; one without numbers is accepted if it lies in the window. The control
block changes only when a segment with numbers is handled. -/
theorem acceptance_by_overlap (r : RcvVars) (p : Segment) (hr : r.Offers)
    (hseq : 0 ≤ p.seq ∧ p.seq < 4294967296) (hlen : 0 ≤ p.segLen ∧ p.segLen ≤ 65537) :
    AcceptsByOverlap r p := by
  refine ⟨?_, ?_, ?_, ?_, ?_, ?_, ?_, ?_⟩
  · intro hwnd hpos
    rw [hRxSeq_verdict hr hseq hpos hlen.2 hwnd]
    split_ifs <;> simp [*]
  · intro hwnd hpos
    rw [hRxSeq_verdict hr hseq hpos hlen.2 hwnd]
    split_ifs <;> simp [*]
  · intro hwnd hpos
    rw [hRxSeq_verdict hr hseq hpos hlen.2 hwnd, arc_inter_windowArc_iff hr hpos]
    split_ifs <;> simp [*]
  · intro hwnd hpos hacc
    have hin := (coversNext_of_handled hpos.ne' hacc).2
    rw [hRxSeq_normal hpos.ne' hwnd, hRxSeqNormal_rcvNxt hin, acceptedLen_eq hr hpos.ne']
  · intro hzero hwnd
    rw [hRxSeq_zlen hzero hwnd, ← seqLeq_seqLt_iff hr hseq]
    unfold hRxSeqZlen
    split <;> simp [*]
  · intro hzero hwnd
    rw [hRxSeq_zlen_zwnd hzero hwnd]
    unfold hRxSeqZlenZwnd
    split <;> simp [*]
  · intro hpos hwnd
    rw [hRxSeq_zwnd hpos.ne' hwnd]
    rfl
  · intro hno
    refine (hRxSeq_rcv_eq fun h => hno ?_).1
    obtain ⟨hwnd, hne, hin⟩ := h
    have hpos : 0 < p.segLen := by omega
    refine ⟨?_, hpos, hwnd⟩
    rw [hRxSeq_normal hne hwnd, hRxSeqNormal_verdict, if_pos hin]

theorem default_recv_buff_pos : 0 < DEFAULT_RECV_BUFF := by decide

/-- A receive side for runs on fixed inputs, with an empty buffer. -/
def RcvVars.sample (rcvNxt rcvWnd rcvAdv : Int) : RcvVars :=
  ⟨.new DEFAULT_RECV_BUFF default_recv_buff_pos, 0, 0, rcvNxt, rcvWnd, rcvAdv, 0⟩

/-- Ten bytes that begin before `rcv_nxt` and go on past `2 ^ 32`. -/
theorem acceptance_by_overlap_wrap :
    let r := RcvVars.sample 4294967290 50 44
    let p := (TCPParser.sample 4294967288 0 0x10 0 [1, 2, 3, 4, 5, 6, 7, 8, 9, 10]).segment
    (hRxSeq r p).verdict = .acceptAndHandle ∧ (hRxSeq r p).rcv.rcvNxt = 2 ∧ AcceptsByOverlap r p :=
  ⟨by decide +kernel, by decide +kernel, acceptance_by_overlap _ _
    ⟨by decide, by decide, by decide, by decide⟩ (by decide +kernel) (by decide +kernel)⟩

/-! ## The FIN -/

/-- The number after the FIN is not the end of the window. (A header that claims one byte more than
the frame has leaves a payload of length -1 and, with its FIN, no number at all: such a segment has
to start at `rcv_nxt`.) -/
def FinOffEdge (r : RcvVars) (p : Segment) : Prop :=
  if p.dlen = -1 then p.seq = r.rcvNxt else (p.seq + p.dlen + 1) % 4294967296 ≠ r.rcvAdv

instance (r : RcvVars) (p : Segment) : Decidable (FinOffEdge r p) :=
  inferInstanceAs (Decidable (if p.dlen = -1 then p.seq = r.rcvNxt
    else (p.seq + p.dlen + 1) % 4294967296 ≠ r.rcvAdv))

/-- **The FIN of an accepted segment stays exactly when it is consumed**, if and only if it does not
stand on the last number of the window. -/
theorem fin_kept_iff_consumed_iff (r : RcvVars) (p : Segment) (hr : r.Offers) (hwnd : 0 < r.rcvWnd)
    (hp : p.Parsed) (hfin : p.fin = true) (hsyn : p.syn = false)
    (hacc : (hRxSeq r p).verdict = .acceptAndHandle) :
    ((hRxSeq r p).seg.fin = true ↔
      (hRxSeq r p).rcv.rcvNxt = (p.seq + p.dlen + 1) % 4294967296) ↔ FinOffEdge r p := by
  have hlen : p.segLen = p.dlen + 1 := by rw [segLen_of_syn hsyn, hfin, Bool.toInt_true]
  have hseq := hp.seq_range
  unfold FinOffEdge
  by_cases hzero : p.dlen = -1
  · -- no number at all: the control block stays, and so does the flag
    rw [if_pos hzero, hRxSeq_zlen (by omega) hwnd.ne']
    simp only [hRxSeqZlen, hfin, true_iff]
    omega
  · have hne : p.segLen ≠ 0 := by omega
    have hin := (coversNext_of_handled hne hacc).2
    rw [if_neg hzero, hRxSeq_normal hne hwnd.ne', hRxSeqNormal_rcvNxt hin,
      hRxSeqNormal_fin hin, hfin]
    simp only [Bool.true_and, Bool.not_eq_true', decide_eq_false_iff_not]
    -- the ways from `rcv_nxt` to the end of the segment, and to the end of the window
    have hend : 1 ≤ seqDiff (p.seq + p.segLen) r.rcvNxt ∧
        seqDiff (p.seq + p.segLen) r.rcvNxt ≤ 2147483648 := by
      have hupper := hin.2
      rw [lastSeq_eq hne] at hupper
      unfold seqGeq seqGt at hupper
      unfold seqDiff
      omega
    have hkept : seqGeq (lastSeq p) r.rcvAdv ↔
        seqDiff r.rcvAdv r.rcvNxt < seqDiff (p.seq + p.segLen) r.rcvNxt := by
      obtain ⟨-, -, -, hle⟩ := hr
      rw [lastSeq_eq hne]
      unfold seqGeq seqGt
      unfold seqDiff at *
      omega
    have hconsumed : (r.rcvNxt + acceptedLen r p) % 4294967296 = (p.seq + p.dlen + 1) % 4294967296 ↔
        seqDiff (p.seq + p.segLen) r.rcvNxt < seqDiff r.rcvAdv r.rcvNxt := by
      rw [acceptedLen_eq hr hne, add_assoc p.seq, ← hlen]
      have hpos := hr.pos
      unfold seqDiff at *
      omega
    have hedge : (p.seq + p.dlen + 1) % 4294967296 = r.rcvAdv ↔
        seqDiff (p.seq + p.segLen) r.rcvNxt = seqDiff r.rcvAdv r.rcvNxt := by
      obtain ⟨hn, ha, -, -⟩ := hr
      rw [hlen, ← add_assoc]
      unfold seqDiff
      omega
    rw [hkept, hconsumed, Ne, hedge]
    omega

/-- Three bytes and a FIN in a window of five numbers. -/
theorem fin_kept_iff_consumed_iff_inside :
    let r := RcvVars.sample 100 5 105
    let p := (TCPParser.sample 100 0 0x11 0 [1, 2, 3]).segment
    (hRxSeq r p).verdict = .acceptAndHandle ∧
      ((hRxSeq r p).seg.fin = true ↔
        (hRxSeq r p).rcv.rcvNxt = (p.seq + p.dlen + 1) % 4294967296) :=
  ⟨by decide +kernel, (fin_kept_iff_consumed_iff _ _ ⟨by decide, by decide, by decide, by decide⟩
    (by decide) (TCPParser.parsed _) (by decide +kernel) (by decide +kernel) (by decide +kernel)).2
    (by decide +kernel)⟩

/-- Four bytes and a FIN fill a window of five numbers: `rcv_nxt` stops before the FIN, which is
kept. -/
theorem fin_on_edge_kept :
    let r := RcvVars.sample 100 5 105
    let p := (TCPParser.sample 100 0 0x11 0 [1, 2, 3, 4]).segment
    (1 ≤ (r.rcvAdv - r.rcvNxt) % 4294967296 ∧ (r.rcvAdv - r.rcvNxt) % 4294967296 ≤ 65535) ∧
      0 < r.rcvWnd ∧ p.fin = true ∧ p.syn = false ∧ (hRxSeq r p).verdict = .acceptAndHandle ∧
      ¬ ((hRxSeq r p).seg.fin = true ↔
        (hRxSeq r p).rcv.rcvNxt = (p.seq + p.dlen + 1) % 4294967296) := by
  decide +kernel

end Tipy.Tcp
