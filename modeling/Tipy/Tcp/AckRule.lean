import Tipy.Tcp.Refusals
import Tipy.Tcp.SndStream

/-!
# Acknowledgements and window updates

All handlers of the synchronized states but that of `TIME_WAIT` end in `_h_rx_ack` and `_h_rx_wnd`,
which see the segment as the sequence check left it. `rx_processed` says once what becomes of the
send side, in all seven states; the two theorems read off when that is what a receiver of the
segment should do.

`_h_rx_ack` does not look at the ACK flag, and takes `snd_nxt` for the end of what was sent, which a
retransmission has set back (`ack_processed_iff`). `_h_rx_wnd` asks for a later acknowledgement
where the sequence number is the same, so a segment that repeats both does not update the window
(`window_follows_iff`).
-/

namespace Tipy.Tcp

open Tipy.Lib

/-! ## The segments that are processed -/

/-- The states in which both sides know each other's sequence numbers. -/
def STATES.Synchronized (s : STATES) : Prop := s.Receiving ∨ s.PeerClosed ∨ s = .timeWait

instance (s : STATES) : Decidable s.Synchronized := inferInstanceAs (Decidable (_ ∨ _))

namespace Conn

variable (c : Conn) (p : Segment)

/-- A segment without RST and SYN gets to `_h_rx_ack`: it passes the check, in order, and does not
abort a connection that was closed. -/
def Processes : Prop :=
  c.tcb.state.Receiving ∧ (hRxSeq c.tcb.rcv p).verdict = .acceptAndHandle ∧
      (c.tcb.state ≠ .estab → ¬ c.ActiveCloseRx (hRxSeq c.tcb.rcv p).seg) ∨
    c.tcb.state.PeerClosed ∧ hRxSeqCheck c.tcb.rcv p ∧
      (c.tcb.state ≠ .lastAck → ¬ c.ActiveCloseRx p)

instance : Decidable (c.Processes p) := inferInstanceAs (Decidable (_ ∨ _))

/-- The segment as the sequence check left it. -/
def checked : Segment := if c.tcb.state.Receiving then (hRxSeq c.tcb.rcv p).seg else p

end Conn

/-- The window of the peer, and the segment it was taken from. -/
def SndVars.wnds (s : SndVars) : Nat × Int × Int := (s.sndWnd, s.sndWl1, s.sndWl2)

/-- What `_h_rx_ack` with the acknowledgement of `p`, and `_h_rx_wnd` with `q`, make of the send
side. -/
structure Processed (s s' : SndVars) (p q : Segment) : Prop where
  una : s'.sndUna = (hRxAck s p).1.sndUna
  wnds : s'.wnds = (hRxWnd s q).wnds

section Processed

variable {s s' : SndVars} {p q : Segment}

theorem hRxAck_congr (s : SndVars) (h : q.ackSeq = p.ackSeq) : hRxAck s q = hRxAck s p := by
  unfold hRxAck
  rw [h]

theorem hRxAck_wnds (s : SndVars) (p : Segment) : (hRxAck s p).1.wnds = s.wnds := by
  unfold hRxAck
  split <;> rfl

theorem ackBehindFin_una (s : SndVars) (p : Segment) :
    (ackBehindFin s p).sndUna = (hRxAck s p).1.sndUna := by
  unfold ackBehindFin
  split_ifs <;> rfl

theorem ackBehindFin_wnds (s : SndVars) (p : Segment) : (ackBehindFin s p).wnds = s.wnds := by
  rw [← hRxAck_wnds s p]
  unfold ackBehindFin
  split_ifs <;> rfl

/-- `_h_rx_wnd` reads the window and where it was taken from, and no more of the send side. -/
theorem hRxWnd_wnds (h : s'.wnds = s.wnds) (q : Segment) :
    (hRxWnd s' q).wnds = (hRxWnd s q).wnds := by
  simp only [SndVars.wnds, Prod.mk.injEq] at h
  obtain ⟨hwnd, hwl1, hwl2⟩ := h
  unfold hRxWnd
  rw [hwl1, hwl2]
  split
  · rfl
  · simp only [SndVars.wnds, hwnd, hwl1, hwl2]

theorem Processed.of_wnd (hack : q.ackSeq = p.ackSeq) (huna : s'.sndUna = (hRxAck s q).1.sndUna)
    (hwnds : s'.wnds = s.wnds) : Processed s (hRxWnd s' q) p q := by
  refine ⟨?_, hRxWnd_wnds hwnds q⟩
  rw [hRxWnd_sndUna, huna, hRxAck_congr s hack]

end Processed

namespace Conn

variable (c : Conn) {p q : Segment}

theorem estabAccept_processed (hack : q.ackSeq = p.ackSeq) :
    Processed c.tcb.snd (c.estabAccept q).tcb.snd p q := by
  rw [estabAccept_snd, estabAck_snd]
  split
  · exact .of_wnd hack rfl (hRxAck_wnds _ q)
  · exact .of_wnd hack rfl (hRxAck_wnds _ q)

theorem finWait1Accept_processed (hack : q.ackSeq = p.ackSeq) :
    Processed c.tcb.snd (c.finWait1Accept q).tcb.snd p q := by
  rw [finWait1Accept_snd, finWait1Ack_snd]
  exact .of_wnd hack (ackBehindFin_una _ q) (ackBehindFin_wnds _ q)

theorem finWait2Accept_processed (hack : q.ackSeq = p.ackSeq) :
    Processed c.tcb.snd (c.finWait2Accept q).tcb.snd p q := by
  have hsnd : (c.finWait2Accept q).tcb.snd = hRxWnd (hRxAck c.tcb.snd q).1 q := by
    unfold finWait2Accept
    simp only
    split <;> split <;> simp
  rw [hsnd]
  exact .of_wnd hack rfl (hRxAck_wnds _ q)

theorem closeWaitAck_processed : Processed c.tcb.snd (c.closeWaitAck p).tcb.snd p p := by
  have h : Processed c.tcb.snd (hRxWnd (hRxAck c.tcb.snd p).1 p) p p :=
    .of_wnd rfl rfl (hRxAck_wnds _ p)
  rw [closeWaitAck_snd]
  exact ⟨h.una, h.wnds⟩

/-! Each handler: what it does with a segment without RST and SYN that it processes, and that it
leaves
the send side alone otherwise. -/

theorem setRcv_activeCloseRx (r : RcvVars) (q : Segment) :
    (c.setRcv r).ActiveCloseRx q ↔ c.ActiveCloseRx q := Iff.rfl

section Handlers

variable (hrst : ¬ p.rst = true) (hsyn : ¬ p.syn = true)

include hrst hsyn

theorem rxEstab_processed :
    ((hRxSeq c.tcb.rcv p).verdict = .acceptAndHandle →
        Processed c.tcb.snd (c.rxEstab p).tcb.snd p (hRxSeq c.tcb.rcv p).seg) ∧
      (¬ (hRxSeq c.tcb.rcv p).verdict = .acceptAndHandle → (c.rxEstab p).tcb.snd = c.tcb.snd) := by
  have hkeeps := hRxSeq_keeps c.tcb.rcv p
  rw [← hkeeps.rst] at hrst
  rw [← hkeeps.syn] at hsyn
  simp only [rxEstab]
  cases hv : (hRxSeq c.tcb.rcv p).verdict with
  | acceptAndHandle =>
    simp only
    rw [if_neg hrst, if_neg hsyn]
    refine ⟨fun _ => ?_, fun h => absurd trivial h⟩
    exact (c.setRcv (hRxSeq c.tcb.rcv p).rcv).estabAccept_processed hkeeps.ackSeq
  | acceptButBuffer => simp
  | drop => simp

theorem finWaitRx_processed {accept : Conn → Segment → Conn}
    (haccept : ∀ (c : Conn) (q : Segment), q.ackSeq = p.ackSeq →
      Processed c.tcb.snd (accept c q).tcb.snd p q) :
    ((hRxSeq c.tcb.rcv p).verdict = .acceptAndHandle ∧ ¬ c.ActiveCloseRx (hRxSeq c.tcb.rcv p).seg →
        Processed c.tcb.snd (c.finWaitRx accept p).tcb.snd p (hRxSeq c.tcb.rcv p).seg) ∧
      (¬ ((hRxSeq c.tcb.rcv p).verdict = .acceptAndHandle ∧
          ¬ c.ActiveCloseRx (hRxSeq c.tcb.rcv p).seg) →
        (c.finWaitRx accept p).tcb.snd = c.tcb.snd) := by
  have hkeeps := hRxSeq_keeps c.tcb.rcv p
  rw [← hkeeps.rst] at hrst
  rw [← hkeeps.syn] at hsyn
  simp only [finWaitRx]
  cases hv : (hRxSeq c.tcb.rcv p).verdict with
  | acceptAndHandle =>
    simp only
    rw [if_neg hrst, if_neg hsyn]
    constructor
    · rintro ⟨-, hclose⟩
      rw [if_neg (mt (c.setRcv_activeCloseRx _ _).1 hclose)]
      exact haccept (c.setRcv (hRxSeq c.tcb.rcv p).rcv) _ hkeeps.ackSeq
    · intro h
      rw [if_pos ((c.setRcv_activeCloseRx _ _).2 (not_not.1 fun hclose => h ⟨trivial, hclose⟩))]
      simp
  | acceptButBuffer => simp
  | drop => simp

theorem rxCloseWait_processed :
    (hRxSeqCheck c.tcb.rcv p ∧ ¬ c.ActiveCloseRx p →
        Processed c.tcb.snd (c.rxCloseWait p).tcb.snd p p) ∧
      (¬ (hRxSeqCheck c.tcb.rcv p ∧ ¬ c.ActiveCloseRx p) →
        (c.rxCloseWait p).tcb.snd = c.tcb.snd) := by
  unfold rxCloseWait
  rw [if_neg hrst, if_neg hsyn]
  constructor
  · rintro ⟨hcheck, hclose⟩
    rw [if_pos hcheck, if_neg hclose]
    exact c.closeWaitAck_processed
  · intro h
    split
    · next hcheck =>
      rw [if_pos (not_not.1 fun hclose => h ⟨hcheck, hclose⟩)]
      simp
    · rfl

theorem rxClosing_processed :
    (hRxSeqCheck c.tcb.rcv p ∧ ¬ c.ActiveCloseRx p →
        Processed c.tcb.snd (c.rxClosing p).tcb.snd p p) ∧
      (¬ (hRxSeqCheck c.tcb.rcv p ∧ ¬ c.ActiveCloseRx p) →
        (c.rxClosing p).tcb.snd = c.tcb.snd) := by
  unfold rxClosing
  rw [if_neg hrst, if_neg hsyn]
  constructor
  · rintro ⟨hcheck, hclose⟩
    rw [if_pos hcheck, if_neg hclose, updateWnd_tcb, TCPCB.setSnd_snd, closingAck_snd]
    exact .of_wnd rfl (ackBehindFin_una _ p) (ackBehindFin_wnds _ p)
  · intro h
    split
    · next hcheck =>
      rw [if_pos (not_not.1 fun hclose => h ⟨hcheck, hclose⟩)]
      simp
    · rfl

theorem rxLastAck_processed :
    (hRxSeqCheck c.tcb.rcv p → Processed c.tcb.snd (c.rxLastAck p).tcb.snd p p) ∧
      (¬ hRxSeqCheck c.tcb.rcv p → (c.rxLastAck p).tcb.snd = c.tcb.snd) := by
  unfold rxLastAck
  rw [if_neg hrst, if_neg hsyn]
  constructor
  · intro hcheck
    rw [if_pos hcheck, updateWnd_tcb, TCPCB.setSnd_snd, lastAckAck_snd]
    exact .of_wnd rfl (ackBehindFin_una _ p) (ackBehindFin_wnds _ p)
  · intro hcheck
    rw [if_neg hcheck]

end Handlers

theorem rxTimeWait_snd (p : Segment) : (c.rxTimeWait p).tcb.snd = c.tcb.snd := by
  unfold rxTimeWait
  split <;> simp

end Conn

/-- **What a segment without RST and SYN does to the send side**, in every synchronized state. -/
theorem rx_processed {c : Conn} {packet : TCPParser} (hs : c.tcb.state.Synchronized)
    (hrst : packet.rst = false) (hsyn : packet.syn = false) :
    (c.Processes packet.segment → Processed c.tcb.snd (c.rx packet).st.tcb.snd packet.segment
      (c.checked packet.segment)) ∧
    (¬ c.Processes packet.segment → (c.rx packet).st.tcb.snd = c.tcb.snd) := by
  have hrst' : ¬ packet.segment.rst = true := by
    rw [show packet.segment.rst = packet.rst from rfl, hrst]
    decide
  have hsyn' : ¬ packet.segment.syn = true := by
    rw [show packet.segment.syn = packet.syn from rfl, hsyn]
    decide
  unfold Conn.Processes Conn.checked Conn.rx
  rcases hs with (hs | hs | hs) | (hs | hs | hs) | hs
  · simpa [hs, STATES.Receiving, STATES.PeerClosed] using c.rxEstab_processed hrst' hsyn'
  · simpa [hs, STATES.Receiving, STATES.PeerClosed, Conn.rxFinWait1_eq] using
      c.finWaitRx_processed hrst' hsyn' fun c _ => c.finWait1Accept_processed
  · simpa [hs, STATES.Receiving, STATES.PeerClosed, Conn.rxFinWait2_eq] using
      c.finWaitRx_processed hrst' hsyn' fun c _ => c.finWait2Accept_processed
  · simpa [hs, STATES.Receiving, STATES.PeerClosed] using c.rxCloseWait_processed hrst' hsyn'
  · simpa [hs, STATES.Receiving, STATES.PeerClosed] using c.rxClosing_processed hrst' hsyn'
  · simpa [hs, STATES.Receiving, STATES.PeerClosed] using c.rxLastAck_processed hrst' hsyn'
  · simpa [hs, STATES.Receiving, STATES.PeerClosed] using c.rxTimeWait_snd packet.segment

/-! ## Acknowledgements -/

/-- `SND.UNA < SEG.ACK =< hi`, by the comparisons of the code. -/
def SndVars.AckUpTo (s : SndVars) (p : Segment) (hi : Int) : Prop :=
  seqGt p.ackSeq s.sndUna ∧ seqLeq p.ackSeq hi

instance (s : SndVars) (p : Segment) (hi : Int) : Decidable (s.AckUpTo p hi) :=
  inferInstanceAs (Decidable (_ ∧ _))

/-- The two comparisons of `_h_rx_ack` are the negations of these. -/
theorem hRxAck_una (s : SndVars) (p : Segment) :
    (hRxAck s p).1.sndUna = if s.AckUpTo p s.sndNxt then p.ackSeq else s.sndUna := by
  have hiff : (seqLeq p.ackSeq s.sndUna ∨ seqGt p.ackSeq s.sndNxt) ↔ ¬ s.AckUpTo p s.sndNxt := by
    unfold SndVars.AckUpTo seqLeq seqGt seqLt
    omega
  unfold hRxAck
  by_cases h : s.AckUpTo p s.sndNxt
  · rw [if_neg (not_not_intro h ∘ hiff.1), if_pos h]
  · rw [if_pos (hiff.2 h), if_neg h]

/-- The count that `_h_rx_ack` returns is how far it moved `snd_una`. -/
theorem hRxAck_count (s : SndVars) (p : Segment) :
    (hRxAck s p).2 = seqDiff (hRxAck s p).1.sndUna s.sndUna := by
  unfold hRxAck
  split
  · simp [seqDiff]
  · rfl

/-- The acknowledgement of a segment is processed as it should be: `snd_una` moves to it if the
segment has the ACK flag and everything up to it was sent, and stays otherwise; and the count is the
distance. -/
structure AckProcessed (c : Conn) (packet : TCPParser) : Prop where
  una : (c.rx packet).st.tcb.snd.sndUna =
    if packet.ack = true ∧ c.tcb.snd.AckUpTo packet.segment c.tcb.snd.sndMax then
      packet.segment.ackSeq else c.tcb.snd.sndUna
  count : c.Processes packet.segment → (hRxAck c.tcb.snd packet.segment).2 =
    seqDiff (c.rx packet).st.tcb.snd.sndUna c.tcb.snd.sndUna

/-- The acknowledgement is one that the code treats as it should. -/
structure AckRegular (s : SndVars) (p : Segment) (processed : Prop) : Prop where
  /-- without the ACK flag the field does not look like one for what was sent -/
  flag : p.ack = false → processed → ¬ s.AckUpTo p s.sndNxt
  /-- nothing above a `snd_nxt` that was set back is acknowledged -/
  sent : p.ack = true → s.AckUpTo p s.sndMax → seqLeq p.ackSeq s.sndNxt
  /-- a segment that has to be processed is -/
  seen : p.ack = true → s.AckUpTo p s.sndMax → processed
  /-- `snd_nxt` is not past `snd_max` -/
  ordered : p.ack = true → processed → s.AckUpTo p s.sndNxt → seqLeq p.ackSeq s.sndMax

theorem ackRegular_iff {s : SndVars} {p : Segment} {processed : Prop} : AckRegular s p processed ↔
    (processed ∧ s.AckUpTo p s.sndNxt ↔ p.ack = true ∧ s.AckUpTo p s.sndMax) := by
  constructor
  · intro h
    cases hack : p.ack with
    | true =>
      constructor
      · rintro ⟨hproc, hup⟩
        exact ⟨rfl, hup.1, h.ordered hack hproc hup⟩
      · rintro ⟨-, hup⟩
        exact ⟨h.seen hack hup, hup.1, h.sent hack hup⟩
    | false =>
      constructor
      · rintro ⟨hproc, hup⟩
        exact absurd hup (h.flag hack hproc)
      · rintro ⟨hflag, -⟩
        cases hflag
  · intro h
    refine ⟨fun hflag hproc hup => ?_, fun hflag hup => ?_, fun hflag hup => ?_,
      fun hflag hproc hup => ?_⟩
    · have := (h.1 ⟨hproc, hup⟩).1
      rw [hflag] at this
      cases this
    · exact (h.2 ⟨hflag, hup⟩).2.2
    · exact (h.2 ⟨hflag, hup⟩).1
    · exact (h.1 ⟨hproc, hup⟩).2.2

/-- **Acknowledgements are processed as they should be** exactly when they are regular: for every
control block in a synchronized state, whatever its sequence numbers, and every segment without RST
and SYN. -/
theorem ack_processed_iff (c : Conn) (packet : TCPParser) (hs : c.tcb.state.Synchronized)
    (hrst : packet.rst = false) (hsyn : packet.syn = false) :
    AckProcessed c packet ↔
      AckRegular c.tcb.snd packet.segment (c.Processes packet.segment) := by
  obtain ⟨hproc, hnot⟩ := rx_processed hs hrst hsyn
  have huna : (c.rx packet).st.tcb.snd.sndUna =
      if c.Processes packet.segment ∧ c.tcb.snd.AckUpTo packet.segment c.tcb.snd.sndNxt then
        packet.segment.ackSeq else c.tcb.snd.sndUna := by
    by_cases h : c.Processes packet.segment
    · rw [(hproc h).una, hRxAck_una]
      simp only [h, true_and]
    · rw [hnot h, if_neg fun hup => h hup.1]
  -- an acknowledgement that is taken is not the old one
  have hne : ∀ hi, c.tcb.snd.AckUpTo packet.segment hi →
      packet.segment.ackSeq ≠ c.tcb.snd.sndUna := fun hi h => h.1.1
  rw [ackRegular_iff]
  constructor
  · rintro ⟨hdue, -⟩
    rw [huna] at hdue
    change _ ↔ packet.ack = true ∧ _
    split_ifs at hdue with htaken hdue' hdue'
    · exact iff_of_true htaken hdue'
    · exact absurd hdue (hne _ htaken.2)
    · exact absurd hdue.symm (hne _ hdue'.2)
    · exact iff_of_false htaken hdue'
  · intro h
    refine ⟨?_, fun hp => ?_⟩
    · rw [huna]
      exact if_congr h rfl rfl
    · rw [hRxAck_count, (hproc hp).una]

/-- Three bytes were sent on the sample connection. -/
def sampleSent : Outcome := run Outcome.step sampleEstab [.usr (.tcpSend [1, 2, 3]), .tx]

/-- The timer went off after the peer had closed its window down to one byte. -/
def sampleRolledBack : Outcome :=
  run Outcome.step sampleSent [.rx (.sample 101 1001 0x10 1 []), .rtx]

/-- Two of the three bytes are acknowledged. -/
theorem ack_processed_iff_partial :
    sampleSent.st.tcb.state.Synchronized ∧
        AckProcessed sampleSent.st (.sample 101 1003 0x10 4096 []) := by
  have hs : sampleSent.st.tcb.state.Synchronized := by decide +kernel
  refine ⟨hs, (ack_processed_iff _ _ hs (by decide +kernel) (by decide +kernel)).2 ?_⟩
  rw [ackRegular_iff]
  decide +kernel

/-- All three bytes are acknowledged, but `snd_nxt` stands after the first of them again; and a
segment without the ACK flag acknowledges two bytes. -/
theorem late_ack_ignored :
    ¬ AckProcessed sampleRolledBack.st (.sample 101 1004 0x10 1 []) ∧
      ¬ AckProcessed sampleSent.st (.sample 101 1003 0x00 4096 []) := by
  refine ⟨fun h => ?_, fun h => ?_⟩
  · have huna := h.una
    revert huna
    decide +kernel
  · have huna := h.una
    revert huna
    decide +kernel

/-! ## Window updates -/

/-- `SEG.SEQ` after the segment was trimmed on the left to `rcv_nxt`. -/
def trimmedSeq (r : RcvVars) (p : Segment) : Int :=
  if p.segLen ≠ 0 ∧ CoversNext r p then r.rcvNxt % 4294967296 else p.seq

/-- The rule for window updates: `SND.WL1 < SEG.SEQ`, or `SND.WL1 = SEG.SEQ` and `SND.WL2 =<
SEG.ACK`. -/
def SndVars.WndDue (s : SndVars) (seq ackSeq : Int) : Prop :=
  seqLt s.sndWl1 seq ∨ s.sndWl1 = seq ∧ seqLeq s.sndWl2 ackSeq

instance (s : SndVars) (seq ackSeq : Int) : Decidable (s.WndDue seq ackSeq) :=
  inferInstanceAs (Decidable (_ ∨ _))

/-- The window follows the newest segment. -/
def WndFollows (s s' : SndVars) (r : RcvVars) (p : Segment) : Prop :=
  if s.WndDue (trimmedSeq r p) p.ackSeq then s'.sndWnd = p.window else s'.wnds = s.wnds

instance (s s' : SndVars) (r : RcvVars) (p : Segment) : Decidable (WndFollows s s' r p) :=
  inferInstanceAs (Decidable (if s.WndDue (trimmedSeq r p) p.ackSeq then s'.sndWnd = p.window
    else s'.wnds = s.wnds))

/-- The window update is one that the code makes: it does not repeat both numbers of the last one
with another window; and a segment that is not processed has nothing new to say about the window. -/
def WndRegular (s : SndVars) (r : RcvVars) (p : Segment) (processed : Prop) : Prop :=
  (processed → s.sndWl1 = trimmedSeq r p → s.sndWl2 = p.ackSeq → p.window = s.sndWnd) ∧
    (¬ processed → s.WndDue (trimmedSeq r p) p.ackSeq → p.window = s.sndWnd)

instance (s : SndVars) (r : RcvVars) (p : Segment) (processed : Prop) [Decidable processed] :
    Decidable (WndRegular s r p processed) := inferInstanceAs (Decidable (_ ∧ _))

section Window

variable {c : Conn} {p : Segment}

theorem eq_of_seqLeq_of_seqGeq {a b : Int} (hle : seqLeq a b) (hge : seqGeq a b) : a = b := by
  unfold seqLeq seqLt at hle
  unfold seqGeq seqGt at hge
  omega

/-- A segment that is processed comes to `_h_rx_wnd` trimmed. -/
theorem checked_seq (hseq : 0 ≤ p.seq ∧ p.seq < 4294967296) (h : c.Processes p) :
    (c.checked p).seq = trimmedSeq c.tcb.rcv p := by
  have hstates : c.tcb.state.PeerClosed → ¬ c.tcb.state.Receiving := by
    cases c.tcb.state <;> decide
  unfold Conn.checked trimmedSeq
  rcases h with ⟨hs, hacc, -⟩ | ⟨hs, hcheck, -⟩
  · rw [if_pos hs]
    by_cases hlen : p.segLen = 0
    · rw [(hRxSeq_rcv_eq fun h => h.2.1 hlen).2, if_neg fun h => h.1 hlen]
    · obtain ⟨hwnd, hin⟩ := coversNext_of_handled hlen hacc
      rw [if_pos ⟨hlen, hin⟩, hRxSeq_normal hlen hwnd]
      unfold CoversNext at hin
      rw [hRxSeqNormal, if_pos hin]
      simp only [seqDiff]
      omega
  · rw [if_neg (hstates hs)]
    split
    · next hin =>
      -- the check of these states leaves only a segment that starts at `rcv_nxt`
      rw [← eq_of_seqLeq_of_seqGeq hin.2.1 hcheck.1]
      exact (Int.emod_eq_of_lt hseq.1 hseq.2).symm
    · rfl

theorem checked_ackSeq_window :
    (c.checked p).ackSeq = p.ackSeq ∧ (c.checked p).window = p.window := by
  unfold Conn.checked
  split
  · refine ⟨hRxSeq_ackSeq _ _, ?_⟩
    unfold hRxSeq hRxSeqZlenZwnd hRxSeqZlen hRxSeqZwnd hRxSeqNormal
    split_ifs <;> rfl
  · exact ⟨rfl, rfl⟩

/-- `_h_rx_wnd` makes the update unless both numbers are those of the last one. -/
theorem hRxWnd_follows_iff (s : SndVars) (q : Segment) :
    (if s.WndDue q.seq q.ackSeq then (hRxWnd s q).sndWnd = q.window
    else (hRxWnd s q).wnds = s.wnds) ↔
      (s.sndWl1 = q.seq → s.sndWl2 = q.ackSeq → q.window = s.sndWnd) := by
  have hnot : ∀ n : Int, ¬ seqLt n n := by simp [seqLt]
  unfold hRxWnd
  by_cases hnewer : seqLt s.sndWl1 q.seq ∨ q.seq = s.sndWl1 ∧ seqLt s.sndWl2 q.ackSeq
  · have hdue : s.WndDue q.seq q.ackSeq := hnewer.imp_right fun h => ⟨h.1.symm, Or.inr h.2⟩
    rw [if_pos hnewer, if_pos hdue]
    refine iff_of_true rfl fun hseq hack => ?_
    rw [hseq, hack] at hnewer
    rcases hnewer with hlt | ⟨-, hlt⟩
    · exact absurd hlt (hnot _)
    · exact absurd hlt (hnot _)
  · rw [if_neg hnewer]
    rw [not_or, not_and] at hnewer
    by_cases hdue : s.WndDue q.seq q.ackSeq
    · rw [if_pos hdue]
      obtain ⟨hseq, hack⟩ := hdue.resolve_left hnewer.1
      have hack' : s.sndWl2 = q.ackSeq := hack.resolve_right (hnewer.2 hseq.symm)
      exact ⟨fun h _ _ => h.symm, fun h => (h hseq hack').symm⟩
    · rw [if_neg hdue]
      exact iff_of_true rfl fun hseq hack => absurd (Or.inr ⟨hseq, Or.inl hack⟩) hdue

end Window

/-- **The window follows the newest segment** exactly when the update is regular: for every control
block in a synchronized state and every segment without RST and SYN. -/
theorem window_follows_iff (c : Conn) (packet : TCPParser) (hs : c.tcb.state.Synchronized)
    (hrst : packet.rst = false) (hsyn : packet.syn = false) :
    WndFollows c.tcb.snd (c.rx packet).st.tcb.snd c.tcb.rcv packet.segment ↔
      WndRegular c.tcb.snd c.tcb.rcv packet.segment (c.Processes packet.segment) := by
  obtain ⟨hproc, hnot⟩ := rx_processed hs hrst hsyn
  unfold WndRegular
  by_cases h : c.Processes packet.segment
  · have hseq := checked_seq packet.parsed.seq_range h
    obtain ⟨hack, hwindow⟩ := checked_ackSeq_window (c := c) (p := packet.segment)
    have hwnds := (hproc h).wnds
    have hwnd : (c.rx packet).st.tcb.snd.sndWnd =
        (hRxWnd c.tcb.snd (c.checked packet.segment)).sndWnd := congrArg Prod.fst hwnds
    have hrule := hRxWnd_follows_iff c.tcb.snd (c.checked packet.segment)
    rw [hseq, hack, hwindow, ← hwnd, ← hwnds] at hrule
    simpa [h, WndFollows] using hrule
  · rw [hnot h]
    unfold WndFollows
    split
    · next hdue => simp [h, hdue, eq_comm]
    · next hdue => simp [h, hdue]

/-- The peer has closed its window. -/
def sampleNoWindow : Outcome := run Outcome.step sampleSent [.rx (.sample 101 1001 0x10 0 [])]

/-- An acknowledgement opens the window again. -/
theorem window_follows_iff_opened :
    sampleNoWindow.st.tcb.state.Synchronized ∧
      WndFollows sampleNoWindow.st.tcb.snd
        (sampleNoWindow.st.rx (.sample 101 1004 0x10 4096 [])).st.tcb.snd sampleNoWindow.st.tcb.rcv
        (TCPParser.sample 101 1004 0x10 4096 []).segment := by
  have hs : sampleNoWindow.st.tcb.state.Synchronized := by decide +kernel
  refine ⟨hs, (window_follows_iff _ _ hs (by decide +kernel) (by decide +kernel)).2 ?_⟩
  decide +kernel

/-- The same segment with a window does not open a window that was closed. -/
theorem window_update_ignored :
    sampleNoWindow.st.tcb.snd.sndWnd = 0 ∧
      (sampleNoWindow.st.rx (.sample 101 1001 0x10 4096 [])).st.tcb.snd.sndWnd = 0 ∧
      ¬ WndFollows sampleNoWindow.st.tcb.snd
        (sampleNoWindow.st.rx (.sample 101 1001 0x10 4096 [])).st.tcb.snd sampleNoWindow.st.tcb.rcv
        (TCPParser.sample 101 1001 0x10 4096 []).segment := by
  decide +kernel

end Tipy.Tcp
