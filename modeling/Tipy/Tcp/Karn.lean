import Tipy.Tcp.Handshake
import Tipy.Tcp.SentRecord

/-!
# What the round trip samples measure

`_rtt_probe` notes the time and nothing else, and the next acknowledgement that advances takes it as
the start of a sample. A run keeps the record of what was sent when, and of how much was
acknowledged. A sample is good (`KarnSample`) when it is the time from the transmission of one
segment, all of whose numbers were sent once, to an acknowledgement that covers it.

`Tracked` is the invariant that gives good samples: while a measurement runs, nothing was sent
before the segment it is for that is not acknowledged, and nothing was sent again. The steps that
keep it (`AdmitsProbe`) are those that begin a measurement only with nothing in flight.
-/

namespace Tipy.Tcp

open Tipy.Buffer Tipy.Lib Tipy.Lib.Transmission

/-! ## The samples of a run -/

/-- A connection, how many of its sequence numbers were acknowledged, and what it has sent. -/
structure Traced where
  o : Outcome
  acked : Nat
  log : List (Transmission ℚ)

namespace Traced

/-- The connection was opened, and has sent its SYN. -/
def connect (c : Conn) : Traced :=
  ⟨.ok c.activOpen, 0, sentSince 0 c.tcb.snd.iss c c.activOpen⟩

def step (t : Traced) (e : ConnEvent) : Traced where
  o := t.o.step e
  acked := ackedTo t.acked t.o.st.tcb.snd (t.o.step e).st.tcb.snd
  log := t.log ++ sentSince t.acked t.o.st.tcb.snd.sndUna t.o.st (t.o.step e).st

/-- A segment that arrives ends the measurement that began at `start`: `_rtt_sample`, as `rx_rto`
says. -/
def Samples (t : Traced) (e : ConnEvent) (start : ℚ) : Prop :=
  (∃ packet, e = .rx packet) ∧ t.o.st.tcb.rto.rtt = some start ∧
    (t.step e).o.st.tcb.rto.rtt = none

/-- The position of the acknowledgement number of a segment. -/
def ackPos (t : Traced) (packet : TCPParser) : Nat :=
  t.acked + (seqDiff packet.ackSeq t.o.st.tcb.snd.sndUna).toNat

end Traced

/-- The sample is the time since one segment was sent that is acknowledged now and was not before,
and no number of which was sent a second time. -/
structure KarnSample (t : Traced) (e : ConnEvent) (start : ℚ) : Prop where
  rto : (t.step e).o.st.tcb.rto = t.o.st.tcb.rto.setNewRto (t.o.st.core.seconds - start)
  timed : ∃ s, Once t.log s ∧ s.time = start ∧ t.acked < s.stop ∧ s.stop ≤ (t.step e).acked

/-- Every sample of the run is good. -/
def KarnRun (c : Conn) (es : List ConnEvent) : Prop :=
  ∀ pre e, pre ++ [e] <+: es → ∀ start, (run Traced.step (.connect c) pre).Samples e start →
    KarnSample (run Traced.step (.connect c) pre) e start

/-! ## The condition -/

/-- Where `SEND` can be handled: with a measurement running, with nothing in flight, or when all it
sends was sent before. What is in flight is less than half of the sequence space. -/
structure AdmitsSend (c : Conn) : Prop where
  near : seqDiff c.tcb.snd.sndMax c.tcb.snd.sndUna + c.reach < 2147483648
  probe : c.tcb.rto.rtt ≠ none ∨
    (c.tcb.snd.sndUna = c.tcb.snd.sndNxt ∧ c.tcb.snd.sndNxt = c.tcb.snd.sndMax) ∨
    (¬ c.FinAlone ∧ (c.reach : Int) ≤ seqDiff c.tcb.snd.sndMax c.tcb.snd.sndNxt)

/-- The condition on an event. Before the connection is open, its SYN is not moved, and the peer
does not open it from its side; after that, `SEND` and `RTX` begin no measurement with segments in
flight, and while one runs no acknowledgement is inside of a segment. -/
def AdmitsProbe (iss : Int) (t : Traced) (e : ConnEvent) : Prop :=
  AdmitsSyn iss t.o e ∧
    (t.o.fault = none → match e with
      | .usr _ => True
      | .tx => t.o.st.tcb.state.Timed → AdmitsSend t.o.st
      | .rtx => t.o.st.tcb.state.Timed → AdmitsSend t.o.st.prepareRtx
      | .rx packet =>
        (t.o.st.tcb.state = .synSent → packet.syn = true → packet.ack = true ∨ packet.fin = true) ∧
          (t.o.st.tcb.rto.rtt ≠ none →
            ∀ x ∈ t.log, ¬ (x.pos < t.ackPos packet ∧ t.ackPos packet < x.stop)))

instance (c : Conn) : Decidable (AdmitsSend c) :=
  decidable_of_iff (_ ∧ _) ⟨fun h => AdmitsSend.mk h.1 h.2, fun h => ⟨h.near, h.probe⟩⟩

instance (iss : Int) (o : Outcome) : ∀ e : ConnEvent, Decidable (AdmitsSyn iss o e)
  | .usr _ => .isTrue trivial
  | .rtx => .isTrue trivial
  | .tx => inferInstanceAs (Decidable (_ → _))
  | .rx _ => inferInstanceAs (Decidable (_ → _))

instance (iss : Int) (t : Traced) : ∀ e : ConnEvent, Decidable (AdmitsProbe iss t e)
  | .usr q => inferInstanceAs (Decidable (AdmitsSyn iss t.o (.usr q) ∧ (_ → True)))
  | .tx => inferInstanceAs (Decidable (AdmitsSyn iss t.o .tx ∧ (_ → _ → _)))
  | .rtx => inferInstanceAs (Decidable (AdmitsSyn iss t.o .rtx ∧ (_ → _ → _)))
  | .rx packet => inferInstanceAs (Decidable (AdmitsSyn iss t.o (.rx packet) ∧ (_ → _ ∧ _)))

/-! ## The invariant -/

/-- Where a connection stands. While a measurement runs nothing is sent again, and the segment it is
for is the first that is not acknowledged. -/
structure Tracked (iss : Int) (R T : Nat) (t : Traced) : Prop where
  seq : SeqAt (iss - 1) t.acked R T t.o.st.tcb.snd
  near : T < t.acked + 2147483648
  below : Below t.log T
  timed : ∀ start, t.o.st.tcb.rto.rtt = some start →
    R = T ∧ ∃ s, Once t.log s ∧ s.time = start ∧ s.pos = t.acked ∧ s.stop ≤ T

theorem seqDiff_seqOf {iss : Int} {a b : Nat} (hle : b ≤ a) (hlt : a < b + 4294967296) :
    seqDiff (seqOf iss a) (seqOf iss b) = ((a - b : Nat) : Int) := by
  unfold seqDiff seqOf
  omega

section Tracked

variable {iss : Int} {R T R' k : Nat} {t : Traced} {e : ConnEvent} {packet : TCPParser}

theorem Tracked.acked_of_una {F' : Nat} (h : Tracked iss R T t) {s : SndVars} (hF : t.acked ≤ F')
    (hR : F' ≤ R) (hs : s.sndUna = seqOf (iss - 1) F') : ackedTo t.acked t.o.st.tcb.snd s = F' := by
  have hnxt := h.seq.nxt_le
  have hnear := h.near
  unfold ackedTo
  rw [hs, h.seq.una_eq, seqDiff_seqOf hF (by omega), Int.toNat_natCast]
  omega

/-- **A send handler** keeps it, if a measurement starts only with nothing in flight. -/
theorem Tracked.sends (h : Tracked iss R T t)
    (hsends : Sends (iss - 1) t.acked R T R' t.o.st (t.step e).o.st)
    (hnear : R' < t.acked + 2147483648)
    (hprobe : t.o.st.tcb.rto.rtt = none → T < R' → t.acked = R ∧ R = T) :
    Tracked iss R' (max T R') (t.step e) := by
  obtain ⟨hseq, ⟨segs, hout, hlaid⟩, hrtt, -⟩ := hsends
  have hF := h.seq.una_le
  have hT := h.near
  have hacked : (t.step e).acked = t.acked := h.acked_of_una le_rfl hF hseq.una_eq
  have hlog : (t.step e).log = t.log ++ segs.map fun x =>
      x.2.sentAt t.o.st.core.seconds t.acked (seqOf (iss - 1) t.acked) := by
    change t.log ++ sentSince _ _ _ (t.step e).o.st = _
    unfold sentSince
    rw [hout, List.drop_left, h.seq.una_eq]
  obtain ⟨hfrom, hbelow⟩ := hlaid.between t.o.st.core.seconds hF (by omega)
  refine ⟨by rw [hacked]; exact hseq, by omega, ?_, fun start hstart => ?_⟩
  · rw [hlog]
    exact (h.below.mono (le_max_left _ _)).append (hbelow.mono (le_max_right _ _))
  · rw [hrtt] at hstart
    rw [hlog, hacked]
    cases hold : t.o.st.tcb.rto.rtt with
    | some old =>
      -- the measurement goes on, and what was sent lies behind
      rw [hold] at hstart
      obtain rfl : old = start := by simpa [probed] using hstart
      obtain ⟨rfl, s, honce, htime, hpos, hstop⟩ := h.timed old hold
      have hle := hlaid.le
      exact ⟨(max_eq_right hle).symm, s, honce.append (hfrom.mono hstop), htime, hpos, by omega⟩
    | none =>
      rw [hold] at hstart
      by_cases hnew : T < R'
      · obtain ⟨hidle, rfl⟩ := hprobe hold hnew
        obtain rfl : t.o.st.core.seconds = start := by simpa [probed, hnew] using hstart
        obtain ⟨pre, s, new, hmap, hpre, htime, hpos, hlen, hstop, hrest⟩ :=
          hlaid.first t.o.st.core.seconds hnew hF (by omega)
        have hbefore : Below (t.log ++ pre) s.pos := by
          rw [hpos]
          exact h.below.append fun x hx => Or.inl (hpre x hx)
        refine ⟨(max_eq_right hnew.le).symm, s, ?_, htime, by omega, by omega⟩
        rw [hmap, ← List.append_assoc]
        exact once_of_fresh hbefore hlen hrest
      · simp [probed, hnew] at hstart

/-- **A segment** keeps it, and the sample it is taken for is good. -/
theorem Tracked.heard (h : Tracked iss R T t)
    (hk : Heard (iss - 1) t.acked R T k packet.segment t.o.st (t.step (.rx packet)).o.st)
    (hmid : t.o.st.tcb.rto.rtt ≠ none → ∀ x ∈ t.log,
      ¬ (x.pos < t.ackPos packet ∧ t.ackPos packet < x.stop)) :
    Tracked iss R T (t.step (.rx packet)) ∧
      ∀ start, t.Samples (.rx packet) start → KarnSample t (.rx packet) start := by
  obtain ⟨hseq, hack, hrto, hsent⟩ := hk
  have hkR := hseq.una_le
  have hnear := h.near
  have hacked : (t.step (.rx packet)).acked = t.acked + k :=
    h.acked_of_una (Nat.le_add_right _ _) hkR hseq.una_eq
  have hempty := sentSince_empty t.acked t.o.st.tcb.snd.sndUna hsent
  have hlog : (t.step (.rx packet)).log = t.log ++ sentSince t.acked t.o.st.tcb.snd.sndUna t.o.st
      (t.step (.rx packet)).o.st := rfl
  have hstopped : 0 < k → (t.step (.rx packet)).o.st.tcb.rto.rtt = none := by
    intro hpos
    rw [hrto, if_pos hpos, Conn.rttSample_tcb, TCPCB.setRto_rto]
    cases hrtt : t.o.st.tcb.rto.rtt with
    | none => exact hrtt
    | some start =>
      simp only [Option.elim_some, RtoVars.setNewRto]
      split <;> rfl
  refine ⟨⟨by rw [hacked]; exact hseq, by omega, ?_, fun start hstart => ?_⟩, ?_⟩
  · rw [hlog]
    exact h.below.append fun x hx => Or.inl (hempty x hx)
  · rcases Nat.eq_zero_or_pos k with rfl | hpos
    · rw [hrto, if_neg (lt_irrefl 0)] at hstart
      obtain ⟨hRT, s, honce, htime, hs, hstop⟩ := h.timed start hstart
      refine ⟨hRT, s, ?_, htime, by rw [hacked]; exact hs, hstop⟩
      rw [hlog]
      exact honce.append fun x hx => Or.inl (hempty x hx)
    · rw [hstopped hpos] at hstart
      cases hstart
  · rintro start ⟨-, hstart, hend⟩
    have hpos : 0 < k := by
      by_contra hzero
      rw [hrto, if_neg hzero, hstart] at hend
      cases hend
    obtain ⟨-, s, honce, htime, hs, hstop⟩ := h.timed start hstart
    obtain ⟨hmem, hlen⟩ := honce.mem
    have hat : t.ackPos packet = t.acked + k := by
      have hk : seqDiff packet.ackSeq t.o.st.tcb.snd.sndUna = k := (hack hpos).symm
      unfold Traced.ackPos
      rw [hk, Int.toNat_natCast]
    have hin := hmid (by rw [hstart]; simp) s hmem
    refine ⟨?_, s, honce, htime, ?_, ?_⟩
    · rw [hrto, if_pos hpos, Conn.rttSample_tcb, TCPCB.setRto_rto, hstart]
      rfl
    · unfold stop
      omega
    · rw [hacked]
      omega

/-- What a request of the application leaves alone. -/
theorem usr_unsent (q : UserRequest) (c : Conn) : (q.apply c).core.out = c.core.out ∧
    (q.apply c).tcb.rto = c.tcb.rto ∧ (q.apply c).tcb.state = c.tcb.state ∧
    ∀ {iss : Int} {F R T : Nat}, SeqAt iss F R T c.tcb.snd →
        SeqAt iss F R T (q.apply c).tcb.snd := by
  cases q with
  | tcpSend data =>
    simp only [UserRequest.apply, Conn.tcpSend]
    split
    · exact ⟨rfl, rfl, rfl, id⟩
    · exact ⟨rfl, rfl, rfl, fun h => ⟨h.una_eq, h.nxt_eq, h.max_eq, h.una_le, h.nxt_le⟩⟩
  | tcpRecv bufsize =>
    simp only [UserRequest.apply, Conn.tcpRecv]
    split <;> exact ⟨rfl, rfl, rfl, id⟩
  | tcpClose => exact ⟨rfl, rfl, rfl, id⟩
  | tcpShutdown => exact ⟨rfl, rfl, rfl, id⟩
  | tick ns => exact ⟨rfl, rfl, rfl, id⟩

theorem Tracked.usr (h : Tracked iss R T t) (q : UserRequest) :
    Tracked iss R T (t.step (.usr q)) ∧ (t.step (.usr q)).acked = t.acked := by
  obtain ⟨hout, hrto, -, hpos⟩ := usr_unsent q t.o.st
  have hseq := hpos h.seq
  have hacked : (t.step (.usr q)).acked = t.acked :=
    h.acked_of_una le_rfl h.seq.una_le hseq.una_eq
  have hlog : (t.step (.usr q)).log = t.log := by
    change t.log ++ sentSince _ _ t.o.st (q.apply t.o.st) = t.log
    unfold sentSince
    rw [hout, List.drop_length, List.map_nil, List.append_nil]
  refine ⟨⟨by rw [hacked]; exact hseq, by rw [hacked]; exact h.near, by rw [hlog]; exact h.below,
    ?_⟩,
    hacked⟩
  intro start hstart
  rw [hlog, hacked]
  refine h.timed start ?_
  rw [← hrto]
  exact hstart

/-- `SEND` in the states in which samples are taken. -/
theorem Tracked.tx (h : Tracked iss R T t) (hs : t.o.st.tcb.state.Timed) (hf : t.o.fault = none)
    (hadm : AdmitsSend t.o.st) (hret : (t.step .tx).o.fault = none) :
    ∃ R' T', Tracked iss R' T' (t.step .tx) := by
  have hF := h.seq.una_le
  have hR := h.seq.nxt_le
  have hT := h.near
  have hstep : (t.step .tx).o = t.o.st.tx := by
    simp only [Traced.step, Outcome.step, hf, ConnEvent.handler]
  have hfar : seqDiff t.o.st.tcb.snd.sndMax t.o.st.tcb.snd.sndUna =
      ((T - t.acked : Nat) : Int) := by
    rw [h.seq.max_eq, h.seq.una_eq]
    exact seqDiff_seqOf (by omega) (by omega)
  have hback : seqDiff t.o.st.tcb.snd.sndMax t.o.st.tcb.snd.sndNxt = ((T - R : Nat) : Int) := by
    rw [h.seq.max_eq, h.seq.nxt_eq]
    exact seqDiff_seqOf (by omega) (by omega)
  have hidle : t.o.st.tcb.snd.sndUna = t.o.st.tcb.snd.sndNxt →
      t.o.st.tcb.snd.sndNxt = t.o.st.tcb.snd.sndMax → t.acked = R ∧ R = T := by
    rw [h.seq.una_eq, h.seq.nxt_eq, h.seq.max_eq]
    unfold seqOf
    omega
  have hnear := hadm.near
  rw [hfar] at hnear
  have hfirst : t.o.st.FinAlone → R = T := by
    intro halone
    rcases hadm.probe with hrun | ⟨huna, hnxt⟩ | ⟨hno, -⟩
    · obtain ⟨start, hstart⟩ := Option.ne_none_iff_exists'.1 hrun
      exact (h.timed start hstart).1
    · exact (hidle huna hnxt).2
    · exact absurd halone hno
  rw [hstep] at hret
  obtain ⟨R', hle, hsends⟩ := tx_sends h.seq hT hfirst hs hret
  rw [← hstep] at hsends
  refine ⟨R', max T R', h.sends hsends (by omega) fun hrtt hnew => ?_⟩
  rcases hadm.probe with hrun | ⟨huna, hnxt⟩ | ⟨-, hold⟩
  · exact absurd hrtt hrun
  · exact hidle huna hnxt
  · rw [hback] at hold
    omega

/-! ### Retransmission -/

/-- The connection after the roll back of `rtx`, in which no measurement runs. -/
def Traced.rolledBack (t : Traced) : Traced := { t with o := .ok t.o.st.prepareRtx }

theorem Traced.step_rtx (hf : t.o.fault = none) : t.step .rtx = t.rolledBack.step .tx := by
  simp only [Traced.step, Traced.rolledBack, Outcome.step, hf, ConnEvent.handler, Outcome.ok_fault]
  rfl

theorem Tracked.rolledBack (h : Tracked iss R T t) : Tracked iss t.acked T t.rolledBack := by
  refine ⟨⟨h.seq.una_eq, h.seq.una_eq, h.seq.max_eq, le_rfl, h.seq.una_le.trans h.seq.nxt_le⟩,
    h.near, h.below, ?_⟩
  rintro start ⟨⟩

/-! ### The opening -/

/-- The SYN is sent again. -/
theorem Tracked.resendSyn (h : Tracked iss 1 1 t) (hacked : t.acked = 0)
    (hs : t.o.st.tcb.state = .synSent) (hf : t.o.fault = none) :
    Tracked iss 1 1 (t.step .rtx) ∧ (t.step .rtx).acked = 0 := by
  rw [Traced.step_rtx hf]
  have hback := h.rolledBack
  rw [hacked] at hback
  have hacked' : t.rolledBack.acked = 0 := hacked
  have htx : (t.rolledBack.step .tx).o.st = t.o.st.prepareRtx.txSynSent := by
    have hs' : t.o.st.prepareRtx.tcb.state = .synSent := hs
    simp only [Traced.step, Traced.rolledBack, Outcome.step, ConnEvent.handler, Outcome.ok_fault,
      Outcome.ok_st, Conn.tx, hs']
  have huna : t.o.st.prepareRtx.tcb.snd.sndUna = seqOf (iss - 1) 0 := by
    have h₀ := hback.seq.una_eq
    rwa [hacked'] at h₀
  have hnxt : t.o.st.prepareRtx.tcb.snd.sndNxt = seqOf (iss - 1) 0 := hback.seq.nxt_eq
  have hmax : t.o.st.prepareRtx.tcb.snd.sndMax = seqOf (iss - 1) 1 := hback.seq.max_eq
  have hbump : (t.o.st.prepareRtx.tcb.snd.sndNxt + 1) % 4294967296 = seqOf (iss - 1) 1 := by
    rw [hnxt]
    unfold seqOf
    omega
  have hsends :
      Sends (iss - 1) t.rolledBack.acked 0 1 1 t.rolledBack.o.st (t.rolledBack.step .tx).o.st := by
    rw [hacked', htx]
    refine .of_one (R := 0)
      (e := (t.o.st.tcb.socketId, { t.o.st.prepareRtx.header with syn := true }))
      ?_ ?_ hnxt rfl ?_ ?_
    · rw [max_self]
      refine ⟨?_, ?_, ?_, Nat.zero_le _, le_rfl⟩
      · simpa [Conn.txSynSent] using huna
      · simpa [Conn.txSynSent] using hbump
      · simpa [Conn.txSynSent] using hmax
    · simp [Conn.txSynSent, Traced.rolledBack, Conn.prepareRtx]
    · rw [probed_of_not (by omega)]
      simp [Conn.txSynSent, Traced.rolledBack]
    · simp [Conn.txSynSent, Traced.rolledBack]
  have hnext := hback.sends hsends (by omega) fun _ hnew => absurd hnew (lt_irrefl 1)
  have hlast := hsends.seq.una_eq
  rw [hacked'] at hlast
  exact ⟨hnext, hback.acked_of_una hacked'.le le_rfl hlast⟩

/-- A segment in `SYN_SENT`. -/
theorem Tracked.rxSynSent (h : Tracked iss 1 1 t) (hacked : t.acked = 0)
    (hiss : 0 ≤ iss ∧ iss < 4294967296) (hs : t.o.st.tcb.state = .synSent) (hf : t.o.fault = none)
    (hadm : AdmitsProbe iss t (.rx packet)) :
    (∀ start, t.Samples (.rx packet) start → KarnSample t (.rx packet) start) ∧
      Tracked iss 1 1 (t.step (.rx packet)) ∧
      ((t.step (.rx packet)).o.st.tcb.state = .synSent ∧ (t.step (.rx packet)).acked = 0 ∨
        (t.step (.rx packet)).o.st.tcb.state = .estab ∨ (t.step (.rx packet)).o.fault ≠ none) := by
  obtain ⟨hsyn, hprobe⟩ := hadm
  obtain ⟨hopen, hmid⟩ := hprobe hf
  have hstep : (t.step (.rx packet)).o = t.o.st.rxSynSent packet.segment := by
    simp only [Traced.step, Outcome.step, hf, ConnEvent.handler, Conn.rx, hs]
  have hat : SynAt iss t.o.st.core.out t.o.st := by
    have huna := h.seq.una_eq
    have hnxt := h.seq.nxt_eq
    have hmax := h.seq.max_eq
    rw [hacked] at huna
    unfold seqOf at huna hnxt hmax
    exact ⟨by omega, by omega, by omega, .refl _ _⟩
  have hrst : ¬ (packet.segment.rst = true ∧ 0 < (hRxAck t.o.st.tcb.snd packet.segment).2) := by
    rw [hat.hRxAck_pos_iff hiss packet.parsed.ackSeq_range]
    exact hsyn hf hs
  obtain ⟨k, hk, hnext⟩ := rxSynSent_heard h.seq hs packet.parsed hrst (hopen hs)
  rw [← hstep] at hk hnext
  obtain ⟨htrack, hsample⟩ := h.heard hk hmid
  refine ⟨hsample, htrack, hnext.imp_left ?_⟩
  rintro ⟨hstate, rfl⟩
  refine ⟨hstate, ?_⟩
  rw [← hacked]
  exact h.acked_of_una le_rfl h.seq.una_le hk.seq.una_eq

theorem Traced.connect_tracked (c : Conn) (hrtt : c.tcb.rto.rtt = none)
    (hiss : 0 ≤ c.tcb.snd.iss ∧ c.tcb.snd.iss < 4294967296) :
    Tracked c.tcb.snd.iss 1 1 (.connect c) := by
  have hat := activOpen_synAt c
  have hone : seqOf (c.tcb.snd.iss - 1) 1 = (c.tcb.snd.iss + 1) % 4294967296 := by
    unfold seqOf
    omega
  have hzero : seqOf (c.tcb.snd.iss - 1) 0 = c.tcb.snd.iss := by
    unfold seqOf
    omega
  have hout : c.activOpen.core.out = c.core.out ++ [(c.tcb.socketId,
      { TxTcp.bare c.tcb.snd.iss 0 DEFAULT_RCV_WND with syn := true, mssOption := true })] := by
    simp [Conn.activOpen]
  have hlog : (Traced.connect c).log = [⟨c.core.seconds, 0, 1⟩] := by
    change sentSince 0 c.tcb.snd.iss c c.activOpen = _
    unfold sentSince
    rw [hout, List.drop_left]
    simp [TxTcp.sentAt, TxTcp.seqLen, TxTcp.bare, seqDiff]
  have hnow : c.activOpen.tcb.rto.rtt = some c.core.seconds := by
    simp [Conn.activOpen, hrtt, Core.seconds]
  refine ⟨⟨?_, ?_, ?_, Nat.zero_le _, le_rfl⟩, ?_, ?_, ?_⟩
  · exact hat.sndUna.trans hzero.symm
  · exact hat.sndNxt.trans hone.symm
  · exact hat.sndMax.trans hone.symm
  · change 1 < 0 + 2147483648
    omega
  · rw [hlog]
    rintro x (_ | ⟨_, ⟨⟩⟩)
    exact Or.inr le_rfl
  · intro start hstart
    obtain rfl : c.core.seconds = start := Option.some.inj (hnow.symm.trans hstart)
    refine ⟨rfl, ⟨c.core.seconds, 0, 1⟩, ?_, rfl, rfl, le_rfl⟩
    have honce : Once ([] ++ [(⟨c.core.seconds, 0, 1⟩ : Transmission ℚ)]) ⟨c.core.seconds, 0, 1⟩ :=
      once_of_fresh (by simp [Below]) Nat.one_pos (by simp [From])
    rw [hlog]
    exact honce

end Tracked

/-- A sample that is taken goes to `set_new_rto`, whatever it measures. -/
theorem Traced.Samples.rto {t : Traced} {e : ConnEvent} {start : ℚ} (h : t.Samples e start) :
    (t.step e).o.st.tcb.rto = t.o.st.tcb.rto.setNewRto (t.o.st.core.seconds - start) := by
  obtain ⟨⟨packet, rfl⟩, hstart, hend⟩ := h
  cases hf : t.o.fault with
  | some f =>
    simp only [Traced.step, Outcome.step, hf, hstart] at hend
    cases hend
  | none =>
    simp only [Traced.step, Outcome.step, hf, ConnEvent.handler] at hend ⊢
    rcases rx_rto (c := t.o.st) packet with hsame | hsample | hprobe
    · rw [hsame, hstart] at hend
      cases hend
    · rw [hsample, Conn.rttSample_tcb, TCPCB.setRto_rto, hstart]
      rfl
    · rw [hprobe] at hend
      cases hend

/-- The invariant of a run. -/
inductive Watched (iss : Int) (t : Traced) : Prop
  | opening (state : t.o.st.tcb.state = .synSent) (acked : t.acked = 0) (track : Tracked iss 1 1 t)
  | timed (R T : Nat) (state : t.o.st.tcb.state.Timed) (track : Tracked iss R T t)
  | spent (state : t.o.st.tcb.state.Spent)
  | dead (fault : t.o.fault ≠ none)

namespace Watched

variable {iss : Int} {t : Traced} {e : ConnEvent}

/-- Only a segment that arrives is a sample. -/
theorem not_samples (h : ∀ packet, e ≠ .rx packet) {start : ℚ} : ¬ t.Samples e start := by
  rintro ⟨⟨packet, he⟩, -⟩
  exact h packet he

theorem of_tracked {R T : Nat} (hs : t.o.st.tcb.state.Timed) (h : Tracked iss R T (t.step e)) :
    Watched iss (t.step e) := by
  have hclass : (t.step e).o.st.tcb.state.Timed ∨ (t.step e).o.st.tcb.state.Spent := by
    have hnext := t.o.step_next e
    change (t.o.step e).st.tcb.state.Timed ∨ (t.o.step e).st.tcb.state.Spent
    revert hs hnext
    cases t.o.st.tcb.state <;> cases (t.o.step e).st.tcb.state <;> decide
  rcases hclass with hstate | hstate
  · exact .timed R T hstate h
  · exact .spent hstate

/-- When the event loop has stopped, nothing is a sample. -/
theorem step_dead (hf : t.o.fault ≠ none) :
    Watched iss (t.step e) ∧ ∀ start, t.Samples e start → KarnSample t e start := by
  refine ⟨.dead (mt Outcome.fault_of_step hf), ?_⟩
  rintro start ⟨⟨packet, rfl⟩, hstart, hend⟩
  obtain ⟨f, hf⟩ := Option.ne_none_iff_exists'.1 hf
  have hsame : (t.step (.rx packet)).o = t.o := by simp only [Traced.step, Outcome.step, hf]
  rw [hsame, hstart] at hend
  cases hend

theorem step_spent (hs : t.o.st.tcb.state.Spent) :
    Watched iss (t.step e) ∧ ∀ start, t.Samples e start → KarnSample t e start := by
  refine ⟨.spent ?_, ?_⟩
  · have hnext := t.o.step_next e
    change (t.o.step e).st.tcb.state.Spent
    revert hs hnext
    cases t.o.st.tcb.state <;> cases (t.o.step e).st.tcb.state <;> decide
  · rintro start ⟨⟨packet, rfl⟩, hstart, hend⟩
    have hrto : (t.step (.rx packet)).o.st.tcb.rto = t.o.st.tcb.rto := by
      cases hf : t.o.fault with
      | some f => simp only [Traced.step, Outcome.step, hf]
      | none =>
        simp only [Traced.step, Outcome.step, hf, ConnEvent.handler]
        exact rx_rto_of_spent hs packet
    rw [hrto, hstart] at hend
    cases hend

theorem step_timed {R T : Nat} (h : Tracked iss R T t) (hs : t.o.st.tcb.state.Timed)
    (hf : t.o.fault = none) (hadm : AdmitsProbe iss t e) :
    Watched iss (t.step e) ∧ ∀ start, t.Samples e start → KarnSample t e start := by
  obtain ⟨-, hprobe⟩ := hadm
  cases e with
  | usr q =>
    exact ⟨.of_tracked hs (h.usr q).1, fun _ hsample => absurd hsample (not_samples (by simp))⟩
  | tx =>
    refine ⟨?_, fun _ hsample => absurd hsample (not_samples (by simp))⟩
    by_cases hret : (t.step .tx).o.fault = none
    · obtain ⟨R', T', hnext⟩ := h.tx hs hf (hprobe hf hs) hret
      exact .of_tracked hs hnext
    · exact .dead hret
  | rtx =>
    refine ⟨?_, fun _ hsample => absurd hsample (not_samples (by simp))⟩
    have hs' : t.rolledBack.o.st.tcb.state.Timed := hs
    rw [Traced.step_rtx hf]
    by_cases hret : (t.rolledBack.step .tx).o.fault = none
    · obtain ⟨R', T', hnext⟩ := h.rolledBack.tx hs' rfl (hprobe hf hs) hret
      exact .of_tracked hs' hnext
    · exact .dead hret
  | rx packet =>
    have hstep : (t.step (.rx packet)).o = t.o.st.rx packet := by
      simp only [Traced.step, Outcome.step, hf, ConnEvent.handler]
    obtain ⟨k, hk⟩ := rx_heard packet h.seq hs
    rw [← hstep] at hk
    obtain ⟨hnext, hsample⟩ := h.heard hk (hprobe hf).2
    exact ⟨.of_tracked hs hnext, hsample⟩

theorem step_opening (h : Tracked iss 1 1 t) (hacked : t.acked = 0)
    (hiss : 0 ≤ iss ∧ iss < 4294967296) (hs : t.o.st.tcb.state = .synSent) (hf : t.o.fault = none)
    (hadm : AdmitsProbe iss t e) :
    Watched iss (t.step e) ∧ ∀ start, t.Samples e start → KarnSample t e start := by
  cases e with
  | usr q =>
    refine ⟨.opening ?_ ((h.usr q).2.trans hacked) (h.usr q).1,
      fun _ hsample => absurd hsample (not_samples (by simp))⟩
    exact (usr_unsent q t.o.st).2.2.1.trans hs
  | tx => exact absurd (Or.inl hs) (hadm.1 hf)
  | rtx =>
    obtain ⟨htrack, hzero⟩ := h.resendSyn hacked hs hf
    refine ⟨.opening ?_ hzero htrack, fun _ hsample => absurd hsample (not_samples (by simp))⟩
    have hs' : t.o.st.prepareRtx.tcb.state = .synSent := hs
    simp [Traced.step, Outcome.step, hf, ConnEvent.handler, Conn.rtx, Conn.tx, hs', Conn.txSynSent]
  | rx packet =>
    obtain ⟨hsample, htrack, hnext⟩ := h.rxSynSent hacked hiss hs hf hadm
    refine ⟨?_, hsample⟩
    rcases hnext with ⟨hstate, hzero⟩ | hstate | hdead
    · exact .opening hstate hzero htrack
    · exact .timed 1 1 (by rw [hstate]; decide) htrack
    · exact .dead hdead

/-- **One event** that is admitted. -/
theorem step (h : Watched iss t) (hiss : 0 ≤ iss ∧ iss < 4294967296) (hadm : AdmitsProbe iss t e) :
    Watched iss (t.step e) ∧ ∀ start, t.Samples e start → KarnSample t e start := by
  by_cases hf : t.o.fault = none
  · cases h with
    | opening state acked track => exact step_opening track acked hiss state hf hadm
    | timed R T state track => exact step_timed track state hf hadm
    | spent state => exact step_spent state
    | dead fault => exact absurd hf fault
  · exact step_dead hf

end Watched

/-- **Karn's rule** holds in every run of a new connection whose events are all admitted. -/
theorem karn_rule (c : Conn) (hrtt : c.tcb.rto.rtt = none)
    (hiss : 0 ≤ c.tcb.snd.iss ∧ c.tcb.snd.iss < 4294967296) (es : List ConnEvent)
    (hadm : Guarded Traced.step (AdmitsProbe c.tcb.snd.iss) (.connect c) es) : KarnRun c es := by
  intro pre e hpre start hsample
  have hboth := (guarded_append _ _ _ pre [e]).1 (hadm.of_prefix hpre)
  have hwatched : Watched c.tcb.snd.iss (run Traced.step (.connect c) pre) :=
    run_inv (fun _ _ h hok => (h.step hiss hok).1)
      (.opening
        (by simp [Traced.connect, Conn.activOpen]) rfl (Traced.connect_tracked c hrtt hiss)) hboth.1
  exact (hwatched.step hiss hboth.2.1).2 start hsample

/-- Three bytes are sent at one second, and sent again, and acknowledged; then two more are timed.
-/
theorem karn_rule_rtx :
    let es : List ConnEvent := [.rx (.sample 500 1001 0x12 65535 []), .usr (.tick 1000000000),
      .usr (.tcpSend [1, 2, 3]), .tx, .rtx, .rx (.sample 501 1004 0x10 65535 []),
      .usr (.tcpSend [4, 5]), .tx]
    let ack : ConnEvent := .rx (.sample 501 1006 0x10 65535 [])
    (run Traced.step (.connect Conn.sampleNew) es).Samples ack 1 ∧
      Guarded Traced.step (AdmitsProbe 1000) (.connect Conn.sampleNew) (es ++ [ack]) ∧
        KarnRun Conn.sampleNew (es ++ [ack]) := by
  intro es ack
  have hadm : Guarded Traced.step (AdmitsProbe 1000) (.connect Conn.sampleNew) (es ++ [ack]) := by
    decide +kernel
  refine ⟨⟨⟨_, rfl⟩, by decide +kernel, by decide +kernel⟩, hadm, ?_⟩
  exact karn_rule Conn.sampleNew rfl ⟨by decide, by decide⟩ _ hadm

/-- The acknowledgement of older bytes ends the measurement of newer ones. Five bytes are sent, and
three of them are acknowledged; a second later one more is sent, and the other two are acknowledged.
-/
theorem karn_rule_older :
    let es : List ConnEvent :=
      [.rx (.sample 500 1001 0x12 65535 []), .usr (.tcpSend [1, 2, 3]), .tx, .usr (.tcpSend [4, 5]),
      .tx, .rx (.sample 501 1004 0x10 65535 []), .usr (.tick 1000000000),
      .usr (.tcpSend [6]), .tx]
    ¬ KarnRun Conn.sampleNew (es ++ [.rx (.sample 501 1006 0x10 65535 [])]) := by
  intro es h
  obtain ⟨-, s, honce, htime, -, hstop⟩ :=
    h es (.rx (.sample 501 1006 0x10 65535 [])) (List.prefix_refl _) 1
    ⟨⟨_, rfl⟩, by decide +kernel, by decide +kernel⟩
  have hlater : ∀ x ∈ (run Traced.step (.connect Conn.sampleNew) es).log, x.time = 1 →
      6 < x.stop := by
    decide +kernel
  have hacked : ((run Traced.step (.connect Conn.sampleNew) es).step
      (.rx (.sample 501 1006 0x10 65535 []))).acked = 6 := by decide +kernel
  rw [hacked] at hstop
  exact absurd hstop (hlater s honce.mem.1 htime).not_ge

end Tipy.Tcp
