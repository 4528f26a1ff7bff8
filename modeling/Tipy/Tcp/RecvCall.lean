import Tipy.Tcp.RcvStored

/-!
# Reading to the end of the stream

Calls of `tcp_recv` against the event loop of one connection. A call looks at the state, then at
`rcv_buf`, then it waits or reads, and the event loop comes in between. `NON_RECEIVABLE_STATES`
answers with the empty result whatever `rcv_buf` holds, so a reader that is slower than the FIN of
the peer loses what it has not read.

`ReadRun` logs what was put in `rcv_buf` and what the calls returned. `recv_whole_stream` says under
which condition on the steps the calls return a prefix of the stream, and the empty result only at
its end.
-/

namespace Tipy.Tcp

open Tipy.Lib Tipy.Buffer

/-- What a call returned, with what `rcv_buf` held and whether the FIN of the peer was consumed at
that moment. -/
structure ReadResult where
  bytes : List UInt8
  unread : List UInt8
  fin : Bool
deriving DecidableEq

/-- A connection, and the calls of `tcp_recv` on it by what they do next, with their `bufsize`. -/
structure ReadRun extends FinRun where
  testing : List Nat
  /-- about to wait -/
  parking : List Nat
  waiting : List Nat
  reading : List Nat
  enqueued : List UInt8
  results : List ReadResult
  /-- the connection went from `ESTAB`, `FIN_WAIT_1` or `FIN_WAIT_2` to `CLOSED` -/
  aborted : Bool

/-- The steps. A read of the application is the five below `conn`: a call that has found the control
block looks at its state, at `rcv_buf`, starts to wait, reads, or gives up. -/
inductive ReadEvent where
  | conn (e : ConnEvent)
  | recv (bufsize : Nat)
  | test (k : Nat)
  | wait (k : Nat)
  | read (k : Nat)
  | timeout (k : Nat)

/-- The unread bytes. -/
def Conn.unread (c : Conn) : List UInt8 := c.tcb.rcv.rcvBuf.queue

/-- How often `recv_events` of the socket was notified. -/
def Conn.recvNotices (c : Conn) : Nat := c.core.notices.count (c.tcb.so, .recvEvents)

namespace ReadRun

variable (t : ReadRun)

/-- A connection nobody reads from yet. -/
def start (o : Outcome) : ReadRun := ⟨⟨o, false⟩, [], [], [], [], [], [], false⟩

/-- The event loop, a request other than a read, or the clock. Each notification takes the oldest
call that waits. -/
def onConn (e : ConnEvent) : ReadRun :=
  let f := t.toFinRun.step e
  let woken := f.o.st.recvNotices - t.o.st.recvNotices
  { t with
    toFinRun := f
    waiting := t.waiting.drop woken
    reading := t.reading ++ t.waiting.take woken
    enqueued := t.enqueued ++ f.o.st.unread.drop t.o.st.unread.length
    aborted := t.aborted || decide (t.o.st.tcb.state.TakesFin ∧ f.o.st.tcb.state = .closed) }

/-- A call returns. -/
def log (bytes : List UInt8) : ReadRun :=
  { t with results := t.results ++ [⟨bytes, t.o.st.unread, t.consumed⟩] }

/-- `rcv_buf.dequeue(bufsize)`. -/
def dequeue (bufsize : Nat) : ReadRun :=
  let c := t.o.st
  let b := c.tcb.rcv.rcvBuf.dequeue bufsize
  let t := t.log (viewBytes c.tcb.rcv.rcvBuf.ring b.1)
  { t with o := { t.o with st := c.setRcv { c.tcb.rcv with rcvBuf := b.2 } } }

def step : ReadEvent → ReadRun
  | .conn (.usr (.tcpRecv _)) => t
  | .conn e => t.onConn e
  | .recv bufsize =>
    if t.o.st.tcb.state ∈ Conn.NON_RECEIVABLE_STATES then t.log []
    else { t with testing := t.testing ++ [bufsize] }
  | .test k =>
    match t.testing[k]? with
    | none => t
    | some bufsize =>
      let t := { t with testing := t.testing.eraseIdx k }
      if t.o.st.tcb.rcv.rcvBuf.isEmpty then { t with parking := t.parking ++ [bufsize] }
      else { t with reading := t.reading ++ [bufsize] }
  | .wait k =>
    match t.parking[k]? with
    | none => t
    | some bufsize =>
      { t with parking := t.parking.eraseIdx k, waiting := t.waiting ++ [bufsize] }
  | .read k =>
    match t.reading[k]? with
    | none => t
    | some bufsize => { t with reading := t.reading.eraseIdx k }.dequeue bufsize
  | .timeout k => { t with waiting := t.waiting.eraseIdx k }

/-- The events of the runs: a call asks for at least one byte, and no segment has RST set. -/
def InDomain (_ : ReadRun) : ReadEvent → Prop
  | .recv bufsize => 0 < bufsize
  | .conn (.rx packet) => packet.segment.rst = false
  | _ => True

/-- The condition on a segment that is accepted in `ESTAB`, `FIN_WAIT_1` or `FIN_WAIT_2`. A FIN that
the check leaves in it lies where `rcv_nxt` goes over it. While a call waits, it is not data after a
close, and its data finds unread bytes, has the FIN with it, or is stored: the slice that is copied
is not empty. -/
def Wakes (p : Segment) : Prop :=
  let c := t.o.st
  let res := hRxSeq c.tcb.rcv p
  c.tcb.state.TakesFin → res.verdict = .acceptAndHandle →
    (res.seg.fin = true → FinArrives c.tcb.rcv p) ∧
      (t.waiting ≠ [] → ¬ (c.tcb.state ≠ .estab ∧ c.ActiveCloseRx res.seg) ∧
        (p.data ≠ [] → c.unread ≠ [] ∨ FinArrives c.tcb.rcv p ∨
          pySlice p.data res.rcv.tcpDataStart res.rcv.tcpDataLen ≠ []))

instance (p : Segment) : Decidable (t.Wakes p) :=
  inferInstanceAs (Decidable (_ → _ → (_ → _) ∧ (_ → ¬ (_ ∧ _) ∧ (_ → _ ∨ _ ∨ _))))

/-- The condition on a step: that on a segment; a call that finds a state of `NON_RECEIVABLE_STATES`
finds nothing unread, and the connection was not aborted; and a call that reads beside others that
are about to read leaves them something, or the FIN was consumed. -/
def Admits : ReadEvent → Prop
  | .conn (.rx packet) => t.o.fault = none → t.Wakes packet.segment
  | .recv _ =>
    t.o.st.tcb.state ∈ Conn.NON_RECEIVABLE_STATES → t.o.st.unread = [] ∧ t.aborted = false
  | .read k => ∀ bufsize ∈ t.reading[k]?, t.reading.eraseIdx k = [] ∨
      bufsize < t.o.st.unread.length ∨ t.consumed = true
  | _ => True

instance : (e : ReadEvent) → Decidable (t.InDomain e)
  | .recv _ => inferInstanceAs (Decidable (0 < _))
  | .conn (.rx _) => inferInstanceAs (Decidable (_ = _))
  | .conn .tx | .conn .rtx | .conn (.usr _) | .test _ | .wait _ | .read _ | .timeout _ =>
    .isTrue trivial

instance : (e : ReadEvent) → Decidable (t.Admits e)
  | .conn (.rx _) => inferInstanceAs (Decidable (_ → t.Wakes _))
  | .recv _ => inferInstanceAs (Decidable (_ → _ ∧ _))
  | .read k => inferInstanceAs (Decidable (∀ bufsize ∈ t.reading[k]?, _ ∨ _ ∨ _))
  | .conn .tx | .conn .rtx | .conn (.usr _) | .test _ | .wait _ | .timeout _ => .isTrue trivial

/-- What the calls returned is a prefix of what was put in `rcv_buf`, and a call returned nothing
only when nothing was unread and the FIN of the peer was consumed. -/
def Delivers : Prop :=
  t.results.flatMap (·.bytes) <+: t.enqueued ∧
    ∀ r ∈ t.results, r.bytes = [] → r.unread = [] ∧ r.fin = true

end ReadRun

theorem STATES.TakesFin.not_showsFin {s : STATES} (h : s.TakesFin) : ¬ s.ShowsFin := by
  revert h
  cases s <;> decide

/-! ## What the handlers notify -/

namespace Conn

variable (c : Conn) (p : Segment)

theorem txLoop_notices (data : List (List UInt8)) (next : Option STATES) (shutReq closeReq : Bool) :
    (txLoop c data next shutReq closeReq).st.core.notices = c.core.notices := by
  refine txLoop_inv (I := fun c' => c'.core.notices = c.core.notices) rfl ?_ ?_ ?_ ?_ ?_
  · exact fun c' h => by simpa using h
  · intro c' data fin h
    unfold Conn.afterSegment
    simp only
    split <;> simpa using h
  · exact fun c' h => by simpa using h
  · exact fun c' s _ h => by simpa using h
  · exact fun c' h => by simpa using h

/-- A send handler notifies nobody. -/
theorem tx_notices : c.tx.st.core.notices = c.core.notices := by
  refine tx_inv (I := fun c' => c'.core.notices = c.core.notices) rfl ?_ ?_ ?_ ?_ ?_ ?_ ?_ ?_
  · simp [txSynSent]
  · simp [txSynRecv]
  · rintro c₁ (rfl | rfl) <;> simp
  · exact fun c' h => by simpa using h
  · exact fun c' next h => by simpa using h
  · exact fun c' h => by simpa using h
  · exact fun c' h => by simpa using h
  · exact fun c' data next shutReq closeReq h => by rw [txLoop_notices, h]

variable {c p}

theorem recvNotices_congr {c' : Conn} (hfixed : c'.tcb.fixed = c.tcb.fixed)
    (h : c'.core.notices = c.core.notices) : c'.recvNotices = c.recvNotices := by
  have hso : c'.tcb.so = c.tcb.so := congrArg (·.2.1) hfixed
  simp only [recvNotices, h, hso]

variable (c p)

theorem notify_recvEvents : (c.notify .recvEvents).recvNotices = c.recvNotices + 1 := by
  simp [recvNotices]

theorem notify_sendEvents : (c.notify .sendEvents).recvNotices = c.recvNotices := by
  simp [recvNotices]

theorem notify_connectEvents : (c.notify .connectEvents).recvNotices = c.recvNotices := by
  simp [recvNotices]

theorem estabAck_recvNotices : (c.estabAck p).recvNotices = c.recvNotices := by
  unfold estabAck
  simp only
  split
  · rw [notify_sendEvents]
    exact recvNotices_congr (by simp) (by simp)
  · rfl

/-- The number of notifications of `_append_rcv_data`: it notifies when there is room and data, also
when nothing is stored. -/
def appendNotices (r : RcvVars) (data : List UInt8) : Nat :=
  if r.rcvBuf.freeSpace = 0 ∨ data = [] then 0 else 1

variable {c p} in
theorem appendData_recvNotices {d : Conn} (hnotices : d.recvNotices = c.recvNotices)
    (hbuf : d.tcb.rcv.rcvBuf = c.tcb.rcv.rcvBuf) :
    (d.appendData p).recvNotices = c.recvNotices + appendNotices c.tcb.rcv p.data := by
  have hwnd : (computeRcvWnd d.tcb.rcv).rcvWnd = 0 ↔ c.tcb.rcv.rcvBuf.freeSpace = 0 := by
    simp [computeRcvWnd, hbuf]
  unfold appendData appendNotices
  simp only [hwnd]
  split
  · exact hnotices
  · exact (notify_recvEvents _).trans (congrArg (· + 1) hnotices)

theorem setAckNow_ite (P : Prop) [Decidable P] (b : Bool) :
    (if P then c.setAckNow b else c).recvNotices = c.recvNotices ∧
      (if P then c.setAckNow b else c).tcb.rcv = c.tcb.rcv := by
  split <;> exact ⟨rfl, rfl⟩

theorem estabAccept_recvNotices : (c.estabAccept p).recvNotices =
    c.recvNotices + appendNotices c.tcb.rcv p.data + if p.fin then 1 else 0 := by
  obtain ⟨hnotices, hrcv⟩ := c.setAckNow_ite (0 < p.dlen ∨ p.fin = true) true
  simp only [estabAccept]
  generalize (if 0 < p.dlen ∨ p.fin = true then c.setAckNow true else c) = d at *
  have happend := appendData_recvNotices (p := p) (d := (d.estabAck p).updateWnd p)
    ((d.estabAck_recvNotices p).trans hnotices) (by simp [hrcv])
  cases p.fin with
  | true => exact (notify_recvEvents _).trans (congrArg (· + 1) happend)
  | false => exact happend

theorem finWait1Accept_recvNotices : (c.finWait1Accept p).recvNotices =
    c.recvNotices + appendNotices c.tcb.rcv p.data := by
  obtain ⟨hnotices, hrcv⟩ := c.setAckNow_ite (p.dlen ≠ 0 ∨ p.fin = true) true
  simp only [finWait1Accept]
  generalize (if p.dlen ≠ 0 ∨ p.fin = true then c.setAckNow true else c) = d at *
  have hack : (d.finWait1Ack p).recvNotices = d.recvNotices := recvNotices_congr (by simp) (by simp)
  have hbuf : (d.finWait1Ack p).tcb.rcv.rcvBuf = c.tcb.rcv.rcvBuf := by
    rw [finWait1Ack_rcv, hrcv]
    split <;> rfl
  have happend := appendData_recvNotices (p := p) (d := (d.finWait1Ack p).updateWnd p)
    (hack.trans hnotices) hbuf
  split
  · exact happend
  · exact happend

theorem finWait2Accept_recvNotices : (c.finWait2Accept p).recvNotices =
    c.recvNotices + appendNotices c.tcb.rcv p.data := by
  obtain ⟨hnotices, hrcv⟩ := c.setAckNow_ite (0 < p.dlen ∨ p.fin = true) true
  simp only [finWait2Accept]
  generalize (if 0 < p.dlen ∨ p.fin = true then c.setAckNow true else c) = d at *
  have hbuf : d.computeWnd.tcb.rcv.rcvBuf = c.tcb.rcv.rcvBuf := by
    rw [computeWnd_tcb, TCPCB.setRcv_rcv, hrcv]
    rfl
  split
  · exact appendData_recvNotices hnotices hbuf
  · exact appendData_recvNotices hnotices hbuf

variable {c}

/-- **Why a reader is woken** by a segment without RST, before the FIN of the peer: data after a
close, the FIN in `ESTAB`, or data for which there is room. -/
theorem rx_notified (packet : TCPParser) (hs : c.tcb.state.TakesFin)
    (hrst : packet.segment.rst = false) (h : c.recvNotices < (c.rx packet).st.recvNotices) :
    (hRxSeq c.tcb.rcv packet.segment).verdict = .acceptAndHandle ∧
      (c.tcb.state ≠ .estab ∧ c.ActiveCloseRx (hRxSeq c.tcb.rcv packet.segment).seg ∨
        (hRxSeq c.tcb.rcv packet.segment).seg.fin = true ∨
        packet.segment.data ≠ [] ∧ (hRxSeq c.tcb.rcv packet.segment).rcv.rcvBuf.freeSpace ≠ 0 ∧
          (c.rx packet).st.tcb.rcv =
            appendRcvData (hRxSeq c.tcb.rcv packet.segment).rcv packet.segment) := by
  obtain ⟨-, hrst', hsyn, hdata, -⟩ := hRxSeq_keeps c.tcb.rcv packet.segment
  rw [hrst] at hrst'
  have hone : ∀ r data, 0 < appendNotices r data → data ≠ [] ∧ r.rcvBuf.freeSpace ≠ 0 := by
    intro r data hpos
    unfold appendNotices at hpos
    split at hpos
    · omega
    · next hne => exact ⟨fun h => hne (.inr h), fun h => hne (.inl h)⟩
  rw [← appendRcvData_congr _ hdata, ← hdata]
  simp only [STATES.TakesFin, List.mem_cons, List.not_mem_nil, or_false] at hs
  have hsame : ∀ {c' : Conn}, c'.tcb.fixed = c.tcb.fixed → c'.core.notices = c.core.notices →
      ¬ c.recvNotices < c'.recvNotices := by
    intro c' hfixed hnotices
    rw [recvNotices_congr hfixed hnotices]
    exact lt_irrefl _
  rcases hs with hs | hs | hs
  · simp only [rx, hs, Outcome.ok_st, rxEstab, hrst', Bool.false_eq_true, if_false] at h ⊢
    split at h
    · next hacc =>
      refine ⟨hacc, .inr ?_⟩
      split_ifs at h ⊢ with hsyn
      · exact absurd h (hsame (by simp) (by simp))
      · rw [estabAccept_recvNotices] at h
        cases hfin : (hRxSeq c.tcb.rcv packet.segment).seg.fin with
        | true => exact .inl rfl
        | false =>
          rw [hfin] at h
          obtain ⟨hne, hfree⟩ := hone _ _ (Nat.lt_add_right_iff_pos.1 h)
          exact .inr ⟨hne, hfree, estabAccept_rcv _ _⟩
    · exact absurd h (hsame (by simp) (by simp))
    · exact absurd h (hsame (by simp) (by simp))
  · simp only [rx, hs, Outcome.ok_st, rxFinWait1, hrst', Bool.false_eq_true, if_false] at h ⊢
    split at h
    · next hacc =>
      refine ⟨hacc, ?_⟩
      split_ifs at h ⊢ with hclose hsyn
      · exact .inl ⟨by decide, hclose⟩
      · exact absurd h (hsame (by simp) (by simp))
      · rw [finWait1Accept_recvNotices] at h
        obtain ⟨hne, hfree⟩ := hone _ _ (Nat.lt_add_right_iff_pos.1 h)
        exact .inr (.inr ⟨hne, hfree, finWait1Accept_rcv _ _⟩)
    · exact absurd h (hsame (by simp) (by simp))
    · exact absurd h (hsame (by simp) (by simp))
  · simp only [rx, hs, Outcome.ok_st, rxFinWait2, hrst', Bool.false_eq_true, if_false] at h ⊢
    split at h
    · next hacc =>
      refine ⟨hacc, ?_⟩
      split_ifs at h ⊢ with hclose hsyn
      · exact .inl ⟨by decide, hclose⟩
      · exact absurd h (hsame (by simp) (by simp))
      · rw [finWait2Accept_recvNotices] at h
        obtain ⟨hne, hfree⟩ := hone _ _ (Nat.lt_add_right_iff_pos.1 h)
        exact .inr (.inr ⟨hne, hfree, finWait2Accept_rcv _ _⟩)
    · exact absurd h (hsame (by simp) (by simp))
    · exact absurd h (hsame (by simp) (by simp))

theorem synSentData_recvNotices : (c.synSentData p).recvNotices = c.recvNotices := by
  unfold synSentData
  split <;> rfl

/-- The data of a SYN-ACK wakes a reader when some of it was stored. -/
theorem synSentEstab_notified (h : c.recvNotices < (c.synSentEstab p).recvNotices) :
    (c.synSentEstab p).unread ≠ [] := by
  have hconnect :
    (((c.synSentData p).sendAck.changeState .estab).notify .connectEvents).recvNotices =
      c.recvNotices := (notify_connectEvents _).trans (synSentData_recvNotices p)
  simp only [synSentEstab] at h ⊢
  split at h
  · next hstored =>
    rw [if_pos hstored]
    have hunread : (c.synSentData p).unread = (c.tcb.rcv.rcvBuf.enqueue p.data).1.queue := by
      simp only [synSentData, if_pos hstored.1]
      rfl
    have hlen := congrArg List.length hunread
    rw [RingBuffer.enqueue_eq] at hlen hstored
    rw [RingBuffer.length_queue, RingBuffer.ready_pushed] at hlen
    intro hnil
    have hnil : (c.synSentData p).unread = [] := hnil
    rw [hnil, List.length_nil] at hlen
    omega
  · rw [hconnect] at h
    exact absurd h (lt_irrefl _)

/-- In `SYN_SENT` a reader is woken by data that was stored. -/
theorem rxSynSent_notified (h : c.recvNotices < (c.rxSynSent p).st.recvNotices) :
    (c.rxSynSent p).st.unread ≠ [] := by
  have hsame : ∀ {c' : Conn}, c'.recvNotices = c.recvNotices → ¬ c.recvNotices < c'.recvNotices :=
    fun he => he ▸ lt_irrefl _
  have haccept : (c.synSentAccept p).recvNotices = c.recvNotices :=
    recvNotices_congr (by simp [synSentAccept]) (by simp [synSentAccept])
  unfold rxSynSent at h ⊢
  split at h
  · refine absurd h (hsame ((notify_connectEvents _).trans (recvNotices_congr ?_ ?_))) <;> simp
  · next hrst =>
    rw [if_neg hrst]
    split at h
    · exact absurd h (hsame rfl)
    · next hfin =>
      rw [if_neg hfin]
      split at h
      · next hsyn =>
        rw [if_pos hsyn]
        split at h
        · next hack =>
          rw [if_pos hack]
          cases hopt : p.options with
          | error e =>
            simp only [hopt] at h
            exact absurd h (hsame haccept)
          | ok mss =>
            simp only [hopt, Outcome.ok_st] at h ⊢
            refine synSentEstab_notified p ?_
            exact haccept.symm ▸ h
        · exact absurd h (hsame (recvNotices_congr (by simp) (by simp)))
      · split at h
        · refine absurd h (hsame (recvNotices_congr ?_ ?_)) <;> simp [synSentSimultaneous]
        · exact absurd h (hsame rfl)

theorem rxSynRecv_notices : (c.rxSynRecv p).recvNotices = c.recvNotices := by
  unfold rxSynRecv
  simp only
  split
  · split
    · exact recvNotices_congr (by simp) (by simp)
    · split
      · exact recvNotices_congr (by simp) (by simp)
      · split
        · exact (notify_connectEvents _).trans (recvNotices_congr (by simp) (by simp))
        · exact recvNotices_congr (by simp) (by simp)
  · rfl

/-! ## What the handlers do to the unread bytes -/

theorem unread_of_rcvBuf {c' : Conn} (h : c'.tcb.rcv.rcvBuf = c.tcb.rcv.rcvBuf) :
    c'.unread = c.unread :=
  congrArg RingBuffer.queue h

theorem rxSynSent_unread : c.unread <+: (c.rxSynSent p).st.unread := by
  have hsame : ∀ {c' : Conn}, c'.tcb.rcv.rcvBuf = c.tcb.rcv.rcvBuf → c.unread <+: c'.unread :=
    fun h => by rw [unread_of_rcvBuf h]
  have hdata : ∀ d : Conn, d.tcb.rcv.rcvBuf = c.tcb.rcv.rcvBuf →
      c.unread <+: (d.synSentData p).unread := by
    intro d hd
    unfold synSentData
    split
    · simp only [unread, setRcv_tcb, TCPCB.setRcv_rcv, RingBuffer.enqueue_eq,
        RingBuffer.queue_pushed, hd]
      exact List.prefix_append _ _
    · exact hsame hd
  refine rxSynSent_rule c p (I := fun o => c.unread <+: o.st.unread) (hsame ?_)
    (hsame rfl) (hsame ?_)
    ?_ ?_ (hsame ?_)
  · simp
  · simp
  · exact fun _ => hsame (by simp [synSentAccept, initRcvSeq])
  · intro mss
    have hd :=
      hdata ((c.synSentAccept p).setSnd { (c.synSentAccept p).tcb.snd with remoteMss := mss })
      (by simp [synSentAccept, initRcvSeq])
    simp only [synSentEstab, Outcome.ok_st]
    split <;> exact hd
  · simp [synSentSimultaneous, initRcvSeq]

theorem rxSynRecv_rcvBuf : (c.rxSynRecv p).tcb.rcv.rcvBuf = c.tcb.rcv.rcvBuf := by
  unfold rxSynRecv
  simp only
  split_ifs <;> simp [(hRxSeq_keeps _ _).rcvBuf]

/-- **A segment** adds to the unread bytes at their end. -/
theorem rx_unread (packet : TCPParser) : c.unread <+: (c.rx packet).st.unread := by
  have hsame : ∀ {c' : Conn}, c'.tcb.rcv.rcvBuf = c.tcb.rcv.rcvBuf → c.unread <+: c'.unread :=
    fun h => by rw [unread_of_rcvBuf h]
  have htakes : c.tcb.state.TakesFin → c.unread <+: (c.rx packet).st.unread := by
    intro hs
    rcases rx_rcv_cases packet hs with ⟨he, -⟩ | ⟨-, he⟩
    · exact hsame (by rw [he, (hRxSeq_keeps _ _).rcvBuf])
    · rw [unread, unread, he, appendRcvData_queue, (hRxSeq_keeps _ _).rcvBuf]
      exact List.prefix_append _ _
  cases hs : c.tcb.state with
  | synSent =>
    simp only [rx, hs]
    exact rxSynSent_unread _
  | synRecv => exact hsame (by simp only [rx, hs, Outcome.ok_st, rxSynRecv_rcvBuf])
  | estab => exact htakes (by rw [hs]; decide)
  | finWait1 => exact htakes (by rw [hs]; decide)
  | finWait2 => exact htakes (by rw [hs]; decide)
  | closeWait => exact hsame (by simp only [rx, hs, Outcome.ok_st, rxCloseWait_rcv])
  | closing => exact hsame (by simp only [rx, hs, Outcome.ok_st, rxClosing_rcv])
  | lastAck => exact hsame (by simp only [rx, hs, Outcome.ok_st, rxLastAck_rcv])
  | timeWait => exact hsame (by simp only [rx, hs, Outcome.ok_st, rxTimeWait_rcv])
  | listen => exact hsame (by simp only [rx, hs, Outcome.raise_st])
  | closed => exact hsame (by simp only [rx, hs, Outcome.ok_st])

theorem tx_rcvBuf : c.tx.st.tcb.rcv.rcvBuf = c.tcb.rcv.rcvBuf := by
  rcases c.tx_rcv with he | he <;> rw [he]
  rfl

/-! ## When the state shows the FIN -/

theorem estabAccept_state : (c.estabAccept p).tcb.state =
    if p.fin then .closeWait else c.tcb.state := by
  unfold estabAccept
  simp only
  split <;> split <;> simp

/-- A segment leads out of the states that take a FIN only by the FIN it has, or to `CLOSED`. -/
theorem rx_fin_of_showsFin (packet : TCPParser) (hs : c.tcb.state.TakesFin)
    (hshow : (c.rx packet).st.tcb.state.ShowsFin) (hopen : (c.rx packet).st.tcb.state ≠ .closed) :
    (hRxSeq c.tcb.rcv packet.segment).verdict = .acceptAndHandle ∧
      (hRxSeq c.tcb.rcv packet.segment).seg.fin = true := by
  have hback : ∀ {c' : Conn}, c'.tcb.state = c.tcb.state → ¬ c'.tcb.state.ShowsFin := by
    intro c' he
    rw [he]
    exact hs.not_showsFin
  have hfin : ∀ {c' : Conn}, c'.tcb.state.ShowsFin →
      ((hRxSeq c.tcb.rcv packet.segment).seg.fin = false →
        c'.tcb.state = c.tcb.state ∨ c'.tcb.state = .finWait2) →
      (hRxSeq c.tcb.rcv packet.segment).seg.fin = true := by
    intro c' hshow hnot
    by_contra hne
    rcases hnot (by simpa using hne) with he | he
    · exact hback he hshow
    · rw [he] at hshow
      exact absurd hshow (by decide)
  simp only [STATES.TakesFin, List.mem_cons, List.not_mem_nil, or_false] at hs
  rcases hs with hs | hs | hs
  · simp only [rx, hs, Outcome.ok_st, rxEstab] at hshow hopen
    split at hshow
    · next hacc =>
      simp only [hacc] at hopen
      split_ifs at hshow hopen
      · exact absurd rfl hopen
      · exact absurd hshow (hback (by simp))
      · exact ⟨hacc, hfin hshow fun hf => .inl (by rw [estabAccept_state, hf]; rfl)⟩
    · exact absurd hshow (hback (by simp))
    · exact absurd hshow (hback (by simp))
  · simp only [rx, hs, Outcome.ok_st, rxFinWait1] at hshow hopen
    split at hshow
    · next hacc =>
      simp only [hacc] at hopen
      split_ifs at hshow hopen
      · exact absurd rfl hopen
      · exact absurd rfl hopen
      · exact absurd hshow (hback (by simp))
      · refine ⟨hacc, hfin hshow fun hf => ?_⟩
        rw [finWait1Accept_state, finWait1Ack_state, hf]
        simp only [Bool.false_eq_true, if_false]
        split_ifs <;> simp
    · exact absurd hshow (hback (by simp))
    · exact absurd hshow (hback (by simp))
  · simp only [rx, hs, Outcome.ok_st, rxFinWait2] at hshow hopen
    split at hshow
    · next hacc =>
      simp only [hacc] at hopen
      split_ifs at hshow hopen
      · exact absurd rfl hopen
      · exact absurd rfl hopen
      · exact absurd hshow (hback (by simp))
      · exact ⟨hacc, hfin hshow fun hf => .inl (by rw [finWait2Accept_state, hf]; rfl)⟩
    · exact absurd hshow (hback (by simp))
    · exact absurd hshow (hback (by simp))

/-- A send handler does not show a FIN. -/
theorem tx_showsFin (hs : c.tcb.state.TakesFin) (hshow : c.tx.st.tcb.state.ShowsFin) :
    c.tx.st.tcb.state = .closed := by
  simp only [STATES.TakesFin, List.mem_cons, List.not_mem_nil, or_false] at hs
  rcases hs with hs | hs | hs
  · have hnext := c.tx_state (Or.inl (by rw [hs]; decide))
    rw [hs] at hnext
    revert hshow hnext
    cases c.tx.st.tcb.state <;> decide
  · have hnext := c.tx_state (Or.inr (by rw [hs]; decide))
    rw [hs] at hnext
    revert hshow hnext
    cases c.tx.st.tcb.state <;> decide
  · simp only [tx, hs, Outcome.ok_st, txFinWait2] at hshow ⊢
    split at hshow
    · next hclose => rw [if_pos hclose]; rfl
    · rw [hs] at hshow
      exact absurd hshow (by decide)

end Conn

/-! ## The invariant -/

namespace ReadRun

/-- Every call of the list asks for something. -/
def Asking (calls : List Nat) : Prop := ∀ n ∈ calls, 0 < n

section Asking

variable {calls : List Nat}

theorem Asking.erase (h : Asking calls) (k : Nat) : Asking (calls.eraseIdx k) :=
  fun n hn => h n (List.mem_of_mem_eraseIdx hn)

theorem Asking.append {calls' : List Nat} (h : Asking calls) (h' : Asking calls') :
    Asking (calls ++ calls') := fun n hn => (List.mem_append.1 hn).elim (h n) (h' n)

theorem Asking.singleton {n : Nat} (hn : 0 < n) : Asking [n] :=
  fun _ hm => List.mem_singleton.1 hm ▸ hn

end Asking

/-- What every admitted run keeps. -/
structure Inv (t : ReadRun) : Prop where
  order : t.results.flatMap (·.bytes) ++ t.o.st.unread = t.enqueued
  empty : ∀ r ∈ t.results, r.bytes = [] → r.unread = [] ∧ r.fin = true
  /-- a call that is about to read finds something, or the end -/
  backed : t.reading ≠ [] → t.o.st.unread ≠ [] ∨ t.consumed = true
  asks : Asking t.testing ∧ Asking t.parking ∧ Asking t.waiting ∧ Asking t.reading
  rcv : t.o.st.RcvInv
  shown : t.o.st.tcb.state.ShowsFin → t.aborted = false → t.consumed = true
  ended : t.aborted = true → t.o.st.tcb.state = .closed

variable {t : ReadRun}

theorem Inv.delivers (h : t.Inv) : t.Delivers :=
  ⟨h.order ▸ List.prefix_append _ _, h.empty⟩

theorem Inv.window (h : t.Inv) (hs : t.o.st.tcb.state.TakesFin) : t.o.st.tcb.rcv.Window := by
  rcases h.rcv with ⟨hsyn, -⟩ | ⟨-, -, hw⟩
  · rw [hsyn] at hs
    exact absurd hs (by decide)
  · exact hw

theorem consumed_mono (e : ConnEvent) (hc : t.consumed = true) :
    (t.toFinRun.step e).consumed = true := by
  simp only [FinRun.step, hc, Bool.true_or]

/-- An event or a request that adds to the unread bytes, wakes readers for something, and shows a
FIN that was consumed. -/
theorem Inv.onConn (h : t.Inv) {e : ConnEvent} (hunread : t.o.st.unread <+: (t.o.step e).st.unread)
    (hwake : t.waiting ≠ [] → t.o.st.recvNotices < (t.o.step e).st.recvNotices →
      (t.o.step e).st.unread ≠ [] ∨ (t.toFinRun.step e).consumed = true)
    (hshow : t.o.st.tcb.state.TakesFin → (t.o.step e).st.tcb.state.ShowsFin →
      (t.o.step e).st.tcb.state ≠ .closed → (t.toFinRun.step e).consumed = true) :
    (t.onConn e).Inv := by
  have hnext := t.o.step_next e
  refine ⟨?_, h.empty, ?_, ?_, Outcome.step_rcvInv h.rcv e, ?_, ?_⟩
  · obtain ⟨new, hnew⟩ := hunread
    simp only [ReadRun.onConn, FinRun.step, ← hnew, List.drop_left]
    rw [← List.append_assoc, h.order]
  · intro hreading
    rcases eq_or_ne t.reading [] with hnone | hsome
    · simp only [ReadRun.onConn, hnone, List.nil_append] at hreading
      refine hwake (fun hw => hreading (by rw [hw, List.take_nil])) ?_
      by_contra hle
      have hzero : (t.toFinRun.step e).o.st.recvNotices - t.o.st.recvNotices = 0 :=
        Nat.sub_eq_zero_of_le (Nat.le_of_not_lt hle)
      exact hreading (by rw [hzero, List.take_zero])
    · refine (h.backed hsome).imp (fun hne hnil => ?_) (consumed_mono e)
      have hnil : (t.o.step e).st.unread = [] := hnil
      rw [hnil, List.prefix_nil] at hunread
      exact hne hunread
  · obtain ⟨htest, hpark, hwait, hread⟩ := h.asks
    exact ⟨htest, hpark, fun n hn => hwait n (List.mem_of_mem_drop hn),
      hread.append fun n hn => hwait n (List.mem_of_mem_take hn)⟩
  · intro hs' hab
    obtain ⟨hab, hnot⟩ := Bool.or_eq_false_iff.1 hab
    have hnot := of_decide_eq_false hnot
    by_cases hs : t.o.st.tcb.state.ShowsFin
    · exact consumed_mono e (h.shown hs hab)
    · -- the state does not show a FIN yet, so it takes one
      have htakes : t.o.st.tcb.state.TakesFin := by
        have hs' : (t.o.step e).st.tcb.state.ShowsFin := hs'
        clear hnot
        revert hs hs' hnext
        cases t.o.st.tcb.state <;> cases (t.o.step e).st.tcb.state <;> decide
      exact hshow htakes hs' fun hclosed => hnot ⟨htakes, hclosed⟩
  · intro hab
    rcases Bool.or_eq_true_iff.1 hab with hab | hab
    · rw [h.ended hab] at hnext
      exact List.mem_singleton.1 hnext
    · exact (of_decide_eq_true hab).2

/-- A step that leaves the state alone, and the unread bytes and the readers. -/
theorem Inv.inert (h : t.Inv) {e : ConnEvent} (hunread : (t.o.step e).st.unread = t.o.st.unread)
    (hnotices : (t.o.step e).st.recvNotices = t.o.st.recvNotices)
    (hstate : (t.o.step e).st.tcb.state = t.o.st.tcb.state) : (t.onConn e).Inv := by
  refine h.onConn (by rw [hunread]) (fun _ hlt => ?_) fun hs hs' _ => ?_
  · rw [hnotices] at hlt
    exact absurd hlt (lt_irrefl _)
  · rw [hstate] at hs'
    exact absurd hs' hs.not_showsFin

/-- **A segment** that meets the condition. -/
theorem Inv.rx (h : t.Inv) {packet : TCPParser} (hrst : packet.segment.rst = false)
    (hwakes : t.o.fault = none → t.Wakes packet.segment) : (t.onConn (.rx packet)).Inv := by
  cases hf : t.o.fault with
  | some f =>
    have hstep : t.o.step (.rx packet) = t.o := by simp only [Outcome.step, hf]
    exact h.inert (by rw [hstep]) (by rw [hstep]) (by rw [hstep])
  | none =>
    have hwakes := hwakes hf
    have hstep : (t.o.step (.rx packet)).st = (t.o.st.rx packet).st := by
      simp only [Outcome.step, hf, ConnEvent.handler]
    have hprefix := Conn.rx_unread (c := t.o.st) packet
    -- a FIN that arrives is consumed
    have hconsumed : t.o.st.tcb.state.TakesFin → FinArrives t.o.st.tcb.rcv packet.segment →
        (t.toFinRun.step (.rx packet)).consumed = true := by
      intro hs harr
      have hcons := (Conn.rx_showsFin packet (h.window hs) hs).1.2 harr
      simp only [FinRun.step, hstep, Bool.or_eq_true, decide_eq_true_eq]
      exact .inr ⟨hs, hcons⟩
    have hshown : t.o.st.tcb.state.ShowsFin → t.o.st.tcb.state ≠ .closed →
        (t.toFinRun.step (.rx packet)).consumed = true := by
      intro hs hopen
      refine consumed_mono _ (h.shown hs ?_)
      by_contra hab
      exact hopen (h.ended (by simpa using hab))
    refine h.onConn ?_ ?_ ?_ <;> rw [hstep]
    · exact hprefix
    · intro hwaiting hlt
      by_cases hs : t.o.st.tcb.state.TakesFin
      · obtain ⟨hacc, habort | hfin | ⟨hdata, hfree, hrcv⟩⟩ := Conn.rx_notified packet hs hrst hlt
        · exact absurd habort ((hwakes hs hacc).2 hwaiting).1
        · exact .inr (hconsumed hs ((hwakes hs hacc).1 hfin))
        · rcases ((hwakes hs hacc).2 hwaiting).2 hdata with hold | harr | hslice
          · left
            intro hnil
            rw [hnil, List.prefix_nil] at hprefix
            exact hold hprefix
          · exact .inr (hconsumed hs harr)
          · left
            rw [Conn.unread, hrcv, appendRcvData_queue]
            intro hnil
            rcases List.take_eq_nil_iff.1 (List.append_eq_nil_iff.1 hnil).2 with hzero | hnone
            · exact hfree hzero
            · exact hslice hnone
      · -- before the handshake is over, or after the FIN of the peer
        cases hstate : t.o.st.tcb.state with
        | synSent =>
          simp only [Conn.rx, hstate] at hlt ⊢
          exact .inl (Conn.rxSynSent_notified _ hlt)
        | synRecv =>
          simp only [Conn.rx, hstate, Outcome.ok_st, Conn.rxSynRecv_notices] at hlt
          exact absurd hlt (lt_irrefl _)
        | listen => exact absurd hlt (by simp [Conn.rx, hstate])
        | closed => exact absurd hlt (by simp [Conn.rx, hstate])
        | estab => exact absurd (by rw [hstate]; decide) hs
        | finWait1 => exact absurd (by rw [hstate]; decide) hs
        | finWait2 => exact absurd (by rw [hstate]; decide) hs
        | closeWait => exact .inr (hshown (by rw [hstate]; decide) (by rw [hstate]; decide))
        | closing => exact .inr (hshown (by rw [hstate]; decide) (by rw [hstate]; decide))
        | lastAck => exact .inr (hshown (by rw [hstate]; decide) (by rw [hstate]; decide))
        | timeWait => exact .inr (hshown (by rw [hstate]; decide) (by rw [hstate]; decide))
    · intro hs hs' hopen
      obtain ⟨hacc, hfin⟩ := Conn.rx_fin_of_showsFin packet hs hs' hopen
      exact hconsumed hs ((hwakes hs hacc).1 hfin)

/-- A send handler. -/
theorem Inv.tx (h : t.Inv) {e : ConnEvent} {c : Conn} (hc : c.unread = t.o.st.unread)
    (hnotices : c.recvNotices = t.o.st.recvNotices) (hstate : c.tcb.state = t.o.st.tcb.state)
    (hstep : (t.o.step e).st = t.o.st ∨ (t.o.step e).st = c.tx.st) : (t.onConn e).Inv := by
  rcases hstep with hstep | hstep
  · exact h.inert (by rw [hstep]) (by rw [hstep]) (by rw [hstep])
  · refine h.onConn ?_ ?_ ?_ <;> rw [hstep]
    · rw [Conn.unread_of_rcvBuf Conn.tx_rcvBuf, hc]
    · intro _ hlt
      rw [Conn.recvNotices_congr c.tx_fixed c.tx_notices, hnotices] at hlt
      exact absurd hlt (lt_irrefl _)
    · intro hs hs' hopen
      exact absurd (Conn.tx_showsFin (hstate ▸ hs) hs') hopen

/-- **The event loop, the requests and the clock.** -/
theorem Inv.conn (h : t.Inv) {e : ConnEvent} (hdom : t.InDomain (.conn e))
    (hadm : t.Admits (.conn e)) :
    (t.step (.conn e)).Inv := by
  cases e with
  | rx packet => exact h.rx hdom hadm
  | tx =>
    refine h.tx (e := .tx) (c := t.o.st) rfl rfl rfl ?_
    cases hf : t.o.fault with
    | none => exact .inr (by simp only [Outcome.step, hf, ConnEvent.handler])
    | some f => exact .inl (by simp only [Outcome.step, hf])
  | rtx =>
    refine h.tx (e := .rtx) (c := t.o.st.prepareRtx) rfl rfl rfl ?_
    cases hf : t.o.fault with
    | none => exact .inr (by simp only [Outcome.step, hf, ConnEvent.handler, Conn.rtx])
    | some f => exact .inl (by simp only [Outcome.step, hf])
  | usr q =>
    cases q with
    | tcpRecv n => exact h
    | tcpSend data =>
      have hsame : ∀ c : Conn, (c.tcpSend data).unread = c.unread ∧
          (c.tcpSend data).recvNotices = c.recvNotices ∧
              (c.tcpSend data).tcb.state = c.tcb.state := by
        intro c
        unfold Conn.tcpSend
        split <;> exact ⟨rfl, rfl, rfl⟩
      obtain ⟨h₁, h₂, h₃⟩ := hsame t.o.st
      exact h.inert (e := .usr (.tcpSend data)) h₁ h₂ h₃
    | tcpClose => exact h.inert (e := .usr .tcpClose) rfl rfl rfl
    | tcpShutdown => exact h.inert (e := .usr .tcpShutdown) rfl rfl rfl
    | tick ns => exact h.inert (e := .usr (.tick ns)) rfl rfl rfl

/-- A read keeps the receive side as it has to be. -/
theorem rcvInv_dequeue {c : Conn} (h : c.RcvInv) (n : Nat) :
    (c.setRcv { c.tcb.rcv with rcvBuf := (c.tcb.rcv.rcvBuf.dequeue n).2 }).RcvInv := by
  rcases h with ⟨hs, hfresh⟩ | ⟨hs, hl, hw⟩
  · refine .inl ⟨hs, hfresh.size_eq, ?_, hfresh.wnd_eq⟩
    simp [RingBuffer.ready_dequeue, hfresh.ready_eq]
  · exact .inr ⟨hs, hl, hw.size_eq, hw.nxt_range, hw.adv_range, hw.pos, hw.le⟩

/-- A call finds a state in which it gets nothing. -/
theorem Inv.log_nil (h : t.Inv) (hunread : t.o.st.unread = []) (hfin : t.consumed = true) :
    (t.log []).Inv := by
  refine ⟨?_, fun r hr hnil => ?_, h.backed, h.asks, h.rcv, h.shown, h.ended⟩
  · simp only [ReadRun.log, List.flatMap_append, List.flatMap_cons, List.flatMap_nil,
      List.append_nil]
    exact h.order
  · rcases List.mem_append.1 hr with hr | hr
    · exact h.empty r hr hnil
    · rw [List.mem_singleton.1 hr]
      exact ⟨hunread, hfin⟩

/-- **A call reads.** -/
theorem Inv.read (h : t.Inv) {k : Nat} (hadm : t.Admits (.read k)) : (t.step (.read k)).Inv := by
  simp only [ReadRun.step]
  cases hk : t.reading[k]? with
  | none => exact h
  | some n =>
    obtain ⟨-, hbytes, hrest⟩ := t.o.st.tcb.rcv.rcvBuf.dequeue_spec n
    have hmem : n ∈ t.reading := List.mem_of_getElem? hk
    have hsome : t.reading ≠ [] := List.ne_nil_of_mem hmem
    refine ⟨?_, ?_, ?_, ?_, rcvInv_dequeue h.rcv n, h.shown, h.ended⟩
    · simp only [ReadRun.dequeue, ReadRun.log, Conn.unread, Conn.setRcv_tcb, TCPCB.setRcv_rcv,
        List.flatMap_append, List.flatMap_cons, List.flatMap_nil, List.append_nil]
      rw [hbytes, hrest, List.append_assoc, List.take_append_drop]
      exact h.order
    · intro r hr hnil
      rcases List.mem_append.1 hr with hr | hr
      · exact h.empty r hr hnil
      · rw [List.mem_singleton.1 hr] at hnil ⊢
        have hnil : t.o.st.unread.take n = [] := hbytes.symm.trans hnil
        have hpos : n ≠ 0 := (h.asks.2.2.2 n hmem).ne'
        have hempty : t.o.st.unread = [] := (List.take_eq_nil_iff.1 hnil).resolve_left hpos
        exact ⟨hempty, (h.backed hsome).resolve_left fun hne => hne hempty⟩
    · intro hothers
      rcases hadm n hk with hnone | hleft | hfin
      · exact absurd hnone hothers
      · left
        have hrest : (t.o.st.tcb.rcv.rcvBuf.dequeue n).2.queue = t.o.st.unread.drop n := hrest
        intro hnil
        rw [show (t.o.st.tcb.rcv.rcvBuf.dequeue n).2.queue = [] from hnil] at hrest
        have := List.drop_eq_nil_iff.1 hrest.symm
        omega
      · exact .inr hfin
    · obtain ⟨htest, hpark, hwait, hread⟩ := h.asks
      exact ⟨htest, hpark, hwait, hread.erase k⟩

/-- **One step** that meets the condition keeps the invariant. -/
theorem Inv.step (h : t.Inv) {e : ReadEvent} (hdom : t.InDomain e) (hadm : t.Admits e) :
    (t.step e).Inv := by
  obtain ⟨htest, hpark, hwait, hread⟩ := h.asks
  cases e with
  | conn e => exact h.conn hdom hadm
  | recv n =>
    simp only [ReadRun.step]
    split
    · next hs =>
      obtain ⟨hunread, hab⟩ := hadm hs
      refine h.log_nil hunread (h.shown ?_ hab)
      revert hs
      cases t.o.st.tcb.state <;> decide
    · exact ⟨h.order, h.empty, h.backed, ⟨htest.append (.singleton hdom), hpark, hwait,
        hread⟩, h.rcv, h.shown, h.ended⟩
  | test k =>
    simp only [ReadRun.step]
    cases hk : t.testing[k]? with
    | none => exact h
    | some n =>
      have hpos : 0 < n := htest n (List.mem_of_getElem? hk)
      simp only
      split
      · exact ⟨h.order, h.empty, h.backed,
          ⟨htest.erase k, hpark.append (.singleton hpos), hwait, hread⟩, h.rcv, h.shown, h.ended⟩
      · next hne =>
        have hunread : t.o.st.unread ≠ [] := fun hnil =>
          hne (t.o.st.tcb.rcv.rcvBuf.isEmpty_iff.2 hnil)
        exact ⟨h.order, h.empty, fun _ => .inl hunread,
          ⟨htest.erase k, hpark, hwait, hread.append (.singleton hpos)⟩, h.rcv, h.shown, h.ended⟩
  | wait k =>
    simp only [ReadRun.step]
    cases hk : t.parking[k]? with
    | none => exact h
    | some n =>
      have hpos : 0 < n := hpark n (List.mem_of_getElem? hk)
      exact ⟨h.order, h.empty, h.backed,
        ⟨htest, hpark.erase k, hwait.append (.singleton hpos), hread⟩, h.rcv, h.shown, h.ended⟩
  | read k => exact h.read hadm
  | timeout k =>
    exact ⟨h.order, h.empty, h.backed, ⟨htest, hpark, hwait.erase k, hread⟩, h.rcv,
      h.shown, h.ended⟩

theorem inv_start (ref so : Nat) (socketId : SockId) (soLinger : Option (List UInt8)) (iss : Int)
    (k : Core) : (start (.connected ref so socketId soLinger iss k)).Inv where
  order := by
    simp [start, Outcome.connected, Conn.activOpen, Conn.unread, TCPCB.new]
  empty := by simp [start]
  backed h := absurd rfl h
  asks := by simp [start, Asking]
  rcv := connected_rcvInv ref so socketId soLinger iss k
  shown hs := absurd hs (by simp [start, Outcome.connected, Conn.activOpen, STATES.ShowsFin])
  ended h := absurd h (by simp [start])

/-- A call that finds data and is not interrupted is `tcp_recv` of the connection. -/
theorem recv_eq (t : ReadRun) (n : Nat) (hs : t.o.st.tcb.state ∉ Conn.NON_RECEIVABLE_STATES)
    (hne : t.o.st.unread ≠ []) :
    (((t.step (.recv n)).step (.test t.testing.length)).step (.read t.reading.length)).o =
      t.o.step (.usr (.tcpRecv n)) := by
  have hempty : t.o.st.tcb.rcv.rcvBuf.isEmpty = false := by
    rw [← Bool.not_eq_true, RingBuffer.isEmpty_iff]
    exact hne
  simp [ReadRun.step, hs, hempty, ReadRun.dequeue, ReadRun.log, Outcome.step, UserRequest.apply,
    Conn.tcpRecv]

end ReadRun

/-- **The whole stream before the end.** In every state of a run of segments, state changes and
calls of `tcp_recv` whose steps meet the condition, the calls so far have returned a prefix of what
was put in `rcv_buf`, and nothing only when nothing was unread and the FIN of the peer was consumed.
-/
theorem recv_whole_stream (ref so : Nat) (socketId : SockId)
    (soLinger : Option (List UInt8)) (iss : Int) (k : Core) {es : List ReadEvent}
    (hdom : Guarded ReadRun.step ReadRun.InDomain
    (.start (.connected ref so socketId soLinger iss k)) es)
    (hadm : Guarded ReadRun.step ReadRun.Admits
    (.start (.connected ref so socketId soLinger iss k)) es)
    {pre : List ReadEvent} (hpre : pre <+: es) :
    (run ReadRun.step (.start (.connected ref so socketId soLinger iss k)) pre).Delivers := by
  have hboth := hdom.and hadm
  exact (run_inv (I := ReadRun.Inv) (fun _ _ h hok => h.step hok.1 hok.2)
    (ReadRun.inv_start ref so socketId soLinger iss k) (hboth.of_prefix hpre)).delivers

/-- A call waits for the data of the peer and reads it, and the next one finds the FIN. -/
def sampleReads : List ReadEvent :=
  [.conn (.rx (.sample 100 1001 0x12 4096 [])), .recv 9, .test 0, .wait 0,
    .conn (.rx (.sample 101 1001 0x10 4096 [1, 2, 3])), .read 0,
    .conn (.rx (.sample 104 1001 0x11 4096 [])), .recv 9]

theorem recv_whole_stream_waiting :
    (run ReadRun.step (.start (.connected 0 0 ⟨1, 1234, 2, 80⟩ none 1000 .idle))
    sampleReads).results =
        [⟨[1, 2, 3], [1, 2, 3], false⟩, ⟨[], [], true⟩] ∧
      (run ReadRun.step (.start (.connected 0 0 ⟨1, 1234, 2, 80⟩ none 1000 .idle))
          sampleReads).Delivers :=
  ⟨by decide +kernel, recv_whole_stream 0 0 ⟨1, 1234, 2, 80⟩ none 1000 .idle (by decide +kernel)
    (by decide +kernel) (List.prefix_refl _)⟩

/-- The peer sends three bytes with its FIN, and the application calls `tcp_recv` then: the state is
`CLOSE_WAIT`, and the call returns nothing beside the unread bytes. -/
theorem recv_loses_answer :
    (run ReadRun.step (.start (.connected 0 0 ⟨1, 1234, 2, 80⟩ none 1000 .idle))
        [.conn (.rx (.sample 100 1001 0x12 4096 [])),
          .conn (.rx (.sample 101 1001 0x11 4096 [1, 2, 3])), .recv 9]).results =
        [⟨[], [1, 2, 3], true⟩] ∧
      ¬ (run ReadRun.step (.start (.connected 0 0 ⟨1, 1234, 2, 80⟩ none 1000 .idle))
        [.conn (.rx (.sample 100 1001 0x12 4096 [])),
          .conn (.rx (.sample 101 1001 0x11 4096 [1, 2, 3])), .recv 9]).Delivers := by
  have hres : (run ReadRun.step (.start (.connected 0 0 ⟨1, 1234, 2, 80⟩ none 1000 .idle))
      [.conn (.rx (.sample 100 1001 0x12 4096 [])),
        .conn (.rx (.sample 101 1001 0x11 4096 [1, 2, 3])), .recv 9]).results =
      [⟨[], [1, 2, 3], true⟩] := by decide +kernel
  refine ⟨hres, fun h => ?_⟩
  have hbad := (h.2 ⟨[], [1, 2, 3], true⟩ (by rw [hres]; exact List.mem_singleton_self _) rfl).1
  exact absurd hbad (by decide)

end Tipy.Tcp
