import Tipy.Tcp.Stack

/-!
# Answers to a reset

A segment with RST set is handled twice, by `rx_tcp` and then by the handler of the event it queues.
Four places make a reset, and two of them look at the flag first. The other two are `rx_tcp` for a
segment without a socket, and the handlers of the handshake for a SYN-ACK whose acknowledgement, or
whose sequence number, is not the one expected. So a reset is answered with a reset exactly there
(`reset_unanswered_iff`).
-/

namespace Tipy.Tcp

open Tipy.Lib

/-! ## Resets among the segments sent -/

/-- No segment that was sent on the way from `k` to `k'` has RST set. -/
def NoReset (k k' : Core) : Prop := ∀ x ∈ k'.out.drop k.out.length, x.2.rst = false

instance (k k' : Core) : Decidable (NoReset k k') := inferInstanceAs (Decidable (∀ x ∈ _, _))

section NoReset

variable {k k' : Core} {x : SockId × TxTcp}

theorem noReset_of_out_eq (h : k'.out = k.out) : NoReset k k' := by
  rw [NoReset, h, List.drop_length]
  exact fun _ hx => absurd hx List.not_mem_nil

theorem NoReset.congr {k'' : Core} (h : NoReset k k') (hout : k''.out = k'.out) :
    NoReset k k'' := by
  rwa [NoReset, hout]

theorem noReset_append_iff (h : k'.out = k.out ++ [x]) : NoReset k k' ↔ x.2.rst = false := by
  rw [NoReset, h, List.drop_left]
  exact List.forall_mem_singleton

end NoReset

/-! ## The handlers -/

namespace Conn

variable (c : Conn) (p : Segment)

/-- The acknowledgement of the segment is for nothing that is outstanding. -/
def BadAck : Prop := ¬ 0 < (hRxAck c.tcb.snd p).2

instance : Decidable (c.BadAck p) := inferInstanceAs (Decidable (¬ _))

/-- A SYN-ACK that the handshake refuses: its acknowledgement is bad, or, in `SYN_RECV`, its
sequence number is before that of the SYN. -/
def RefusesSynAck : Prop :=
  p.syn = true ∧ p.ack = true ∧
    (c.tcb.state = .synSent ∧ p.fin = false ∧ c.BadAck p ∨
      c.tcb.state = .synRecv ∧ (seqLt p.seq c.tcb.rcv.irs ∨
        (hRxSeq c.tcb.rcv (c.synRecvSegment p)).verdict ≠ .drop ∧ c.BadAck p))

instance : Decidable (c.RefusesSynAck p) := inferInstanceAs (Decidable (_ ∧ _))

section Sent

variable {k : Core} (hout : c.core.out = k.out)

include hout

theorem noReset_sendAck : NoReset k c.sendAck.core := by
  have hsent : c.sendAck.core.out = k.out ++ [(c.tcb.socketId, { c.header with ack := true })] := by
    rw [← hout]
    rfl
  exact (noReset_append_iff hsent).2 rfl

theorem noReset_sendChallengeAck : NoReset k c.sendChallengeAck.core := by
  unfold sendChallengeAck
  dsimp only
  split
  · exact noReset_of_out_eq hout
  · have hsent : (c.core.txTcp c.tcb.socketId { c.header with ack := true }).out =
        k.out ++ [(c.tcb.socketId, { c.header with ack := true })] := by
      rw [← hout]
      rfl
    exact (noReset_append_iff hsent).2 rfl

theorem not_noReset_dropWithReset : ¬ NoReset k (c.dropWithReset p).core := by
  obtain ⟨x, hrst, hsent⟩ : ∃ x : SockId × TxTcp, x.2.rst = true ∧
      (c.dropWithReset p).core.out = k.out ++ [x] := by
    rw [← hout]
    unfold dropWithReset
    split
    · exact ⟨_, rfl, rfl⟩
    · exact ⟨_, rfl, rfl⟩
  rw [noReset_append_iff hsent, hrst]
  exact Bool.noConfusion

end Sent

theorem noReset_synSentSimultaneous : NoReset c.core (c.synSentSimultaneous p).core := by
  obtain ⟨x, hrst, hsent⟩ : ∃ x : SockId × TxTcp, x.2.rst = false ∧
      (c.synSentSimultaneous p).core.out = c.core.out ++ [x] :=
    ⟨_, rfl, by simp [synSentSimultaneous]; rfl⟩
  rwa [noReset_append_iff hsent]

variable {c p}

theorem noReset_rxSynSent_iff (hstate : c.tcb.state = .synSent) (hrst : p.rst = true) :
    NoReset c.core (c.rxSynSent p).st.core ↔ ¬ c.RefusesSynAck p := by
  have hrefuses : c.RefusesSynAck p ↔
      p.syn = true ∧ p.ack = true ∧ p.fin = false ∧ c.BadAck p := by
    simp [RefusesSynAck, hstate]
  rw [hrefuses]
  unfold rxSynSent
  split
  · next h => exact iff_of_true (noReset_of_out_eq (by simp)) fun hbad => hbad.2.2.2 h.2
  · next h =>
    have hbad : c.BadAck p := fun hack => h ⟨hrst, hack⟩
    split
    · next hfin => exact iff_of_true (noReset_of_out_eq rfl) (by simp [hfin])
    · next hfin =>
      split
      · next hsynack =>
        rw [if_neg hbad]
        exact iff_of_false (c.not_noReset_dropWithReset p rfl)
          fun h => h ⟨hsynack.1, hsynack.2, by simpa using hfin, hbad⟩
      · next hsynack =>
        refine iff_of_true ?_ fun h => hsynack ⟨h.1, h.2.1⟩
        split
        · exact c.noReset_synSentSimultaneous p
        · exact noReset_of_out_eq rfl

theorem noReset_rxSynRecv_iff (hstate : c.tcb.state = .synRecv) :
    NoReset c.core (c.rxSynRecv p).core ↔ ¬ c.RefusesSynAck p := by
  have hrefuses : c.RefusesSynAck p ↔ p.syn = true ∧ p.ack = true ∧ (seqLt p.seq c.tcb.rcv.irs ∨
      (hRxSeq c.tcb.rcv (c.synRecvSegment p)).verdict ≠ .drop ∧ c.BadAck p) := by
    simp [RefusesSynAck, hstate]
  have hack : hRxAck c.tcb.snd (hRxSeq c.tcb.rcv (c.synRecvSegment p)).seg =
      hRxAck c.tcb.snd p := by
    have hseq : (hRxSeq c.tcb.rcv (c.synRecvSegment p)).seg.ackSeq = p.ackSeq := by
      rw [hRxSeq_ackSeq, synRecvSegment]
      split <;> rfl
    simp only [hRxAck, hseq]
  rw [hrefuses]
  unfold rxSynRecv
  split
  · next hsynack =>
    split
    · next hseq =>
      exact iff_of_false (c.not_noReset_dropWithReset p rfl) fun h =>
        h ⟨hsynack.2, hsynack.1, .inl hseq⟩
    · next hseq =>
      dsimp only
      split
      · next hdrop =>
        refine iff_of_true (noReset_sendAck _ rfl) fun h => ?_
        exact h.2.2.elim hseq fun h => h.1 hdrop
      · next hdrop =>
        simp only [setRcv_tcb, TCPCB.setRcv_snd, hack]
        split
        · next hgood =>
          refine iff_of_true ?_ fun h => ?_
          · exact (noReset_sendAck (k := c.core) _ (by simp)).congr rfl
          · exact h.2.2.elim hseq fun h => h.2 hgood
        · next hbad =>
          exact iff_of_false (not_noReset_dropWithReset _ _ rfl) fun h =>
            h ⟨hsynack.2, hsynack.1, .inr ⟨hdrop, hbad⟩⟩
  · next hsynack => exact iff_of_true (noReset_of_out_eq rfl) fun h => hsynack ⟨h.2.1, h.1⟩

/-- The handlers of the other states do not answer a reset with a reset. -/
theorem noReset_rx_other (packet : TCPParser) (hrst : packet.segment.rst = true)
    (hsent : c.tcb.state ≠ .synSent) (hrecv : c.tcb.state ≠ .synRecv) :
    NoReset c.core (c.rx packet).st.core := by
  cases hstate : c.tcb.state with
  | synSent => exact absurd hstate hsent
  | synRecv => exact absurd hstate hrecv
  | listen =>
    simp only [rx, hstate]
    exact noReset_of_out_eq rfl
  | estab =>
    simp only [rx, hstate, rxEstab, Outcome.ok_st]
    split
    · rw [(hRxSeq_keeps _ _).rst, if_pos hrst]
      exact noReset_of_out_eq (by simp)
    · exact noReset_of_out_eq (by simp)
    · exact noReset_sendChallengeAck _ rfl
  | finWait1 =>
    simp only [rx, hstate, rxFinWait1, Outcome.ok_st]
    split
    · rw [(hRxSeq_keeps _ _).rst, if_pos hrst]
      exact noReset_of_out_eq (by simp)
    · exact noReset_sendAck _ rfl
    · exact noReset_sendChallengeAck _ rfl
  | finWait2 =>
    simp only [rx, hstate, rxFinWait2, Outcome.ok_st]
    split
    · rw [(hRxSeq_keeps _ _).rst, if_pos hrst]
      exact noReset_of_out_eq (by simp)
    · exact noReset_sendAck _ rfl
    · exact noReset_sendChallengeAck _ rfl
  | closeWait =>
    simp only [rx, hstate, rxCloseWait, Outcome.ok_st, if_pos hrst]
    split
    · exact noReset_of_out_eq (by simp)
    · exact noReset_of_out_eq (by simp)
  | closing =>
    simp only [rx, hstate, rxClosing, Outcome.ok_st, if_pos hrst]
    split
    · exact noReset_of_out_eq (by simp)
    · exact noReset_sendAck _ rfl
  | lastAck =>
    simp only [rx, hstate, rxLastAck, Outcome.ok_st, if_pos hrst]
    split
    · exact noReset_of_out_eq (by simp)
    · exact noReset_of_out_eq rfl
  | timeWait =>
    simp only [rx, hstate, rxTimeWait, Outcome.ok_st]
    split
    · exact (noReset_sendAck c rfl).congr (by simp)
    · exact noReset_of_out_eq rfl
  | closed =>
    simp only [rx, hstate]
    exact noReset_of_out_eq rfl

/-- **A handler** answers a reset with a reset exactly when it is one of the handshake and refuses a
SYN-ACK. -/
theorem noReset_rx_iff (packet : TCPParser) (hrst : packet.rst = true) :
    NoReset c.core (c.rx packet).st.core ↔ ¬ c.RefusesSynAck packet.segment := by
  by_cases hsent : c.tcb.state = .synSent
  · simp only [rx, hsent]
    exact noReset_rxSynSent_iff hsent hrst
  · by_cases hrecv : c.tcb.state = .synRecv
    · simp only [rx, hrecv]
      exact noReset_rxSynRecv_iff hrecv
    · refine iff_of_true (noReset_rx_other packet hrst hsent hrecv) fun h => ?_
      exact h.2.2.elim (fun h => hsent h.1) fun h => hrecv h.1

end Conn

/-! ## The stack -/

namespace Stack

theorem resetFor_rst (p : Segment) : (resetFor p).rst = true := by
  unfold resetFor
  split <;> rfl

/-- A step that handles the segment: `rx_tcp`, or the handler of the event it queued. -/
def Handles (s : Stack) (packet : TCPParser) : StackEvent → Prop
  | .rxTcp _ _ p => p = packet
  | .handle i => ∃ tcpcb, s.core.events[i]? = some ⟨.rxSegment packet, tcpcb⟩
  | _ => False

/-- The condition: `rx_tcp` finds a socket for the segment, and the control block of the event,
while the event loop runs, does not refuse it as a SYN-ACK. -/
def Spares (s : Stack) (packet : TCPParser) : StackEvent → Prop
  | .rxTcp src dst _ => s.core.tcp.sockets ⟨dst, packet.dst, src, packet.src⟩ ≠ none
  | .handle i => s.fault = none → ∀ ev ∈ s.core.events[i]?, ∀ n ∈ ev.tcpcb, ∀ t ∈ s.tcbs[n]?,
      ¬ Conn.RefusesSynAck ⟨t, s.core⟩ packet.segment
  | _ => True

instance (s : Stack) (packet : TCPParser) : (e : StackEvent) → Decidable (s.Spares packet e)
  | .rxTcp .. => inferInstanceAs (Decidable (_ ≠ _))
  | .handle _ => inferInstanceAs (Decidable (_ → _))
  | .socket => .isTrue trivial
  | .setsockopt .. => .isTrue trivial
  | .bind .. => .isTrue trivial
  | .connect .. => .isTrue trivial
  | .send .. => .isTrue trivial
  | .recv .. => .isTrue trivial
  | .close _ => .isTrue trivial
  | .shutdown _ => .isTrue trivial
  | .resume .. => .isTrue trivial
  | .timeout _ => .isTrue trivial
  | .fire _ => .isTrue trivial
  | .tick _ => .isTrue trivial

/-- **A reset is not answered with a reset**, in a step that handles it, exactly when `rx_tcp` finds
a socket and the handler does not refuse it as a SYN-ACK of the handshake. -/
theorem reset_unanswered_iff (s : Stack) (packet : TCPParser) (hrst : packet.rst = true)
    (e : StackEvent) (he : s.Handles packet e) : NoReset s.core
    (s.step e).core ↔ s.Spares packet e := by
  cases e with
  | rxTcp src dst p =>
    obtain rfl : p = packet := he
    simp only [step, rxTcp, Spares]
    split
    · next h => exact iff_of_true (noReset_of_out_eq rfl) h
    · next h =>
      refine iff_of_false ?_ h
      rw [noReset_append_iff (x := (⟨dst, p.dst, src, p.src⟩, resetFor p.segment))
        rfl, resetFor_rst]
      exact Bool.noConfusion
  | handle i =>
    obtain ⟨tcpcb, hev⟩ := he
    by_cases hfault : s.fault = none
    · have hspares : s.Spares packet (.handle i) ↔ ∀ n ∈ tcpcb, ∀ t ∈ s.tcbs[n]?,
          ¬ Conn.RefusesSynAck ⟨t, s.core⟩ packet.segment := by
        simp [Spares, hfault, hev]
      rw [hspares]
      cases tcpcb with
      | none =>
        simp only [step, handle, hfault, hev]
        exact iff_of_true (noReset_of_out_eq rfl) (by simp)
      | some n =>
        cases ht : s.tcbs[n]? with
        | none =>
          simp only [step, handle, hfault, hev, onCore_tcbs, ht]
          exact iff_of_true (noReset_of_out_eq rfl) (by simp [ht])
        | some t =>
          simp only [step, handle, hfault, hev, onCore_tcbs, ht, Option.mem_def, Option.some.injEq,
            forall_eq']
          exact Conn.noReset_rx_iff (c := ⟨t, { s.core with events := s.core.events.eraseIdx i }⟩)
            packet hrst
    · have hsame : s.step (.handle i) = s := by
        obtain ⟨f, hf⟩ := Option.ne_none_iff_exists'.1 hfault
        simp only [step, handle, hf]
      rw [hsame]
      exact iff_of_true (noReset_of_out_eq rfl) fun h => absurd h hfault
  | _ => exact he.elim

/-- The event that `rx_tcp` queues is at the end of the queue. -/
theorem handles_of_spares {s : Stack} {packet : TCPParser} {src dst : Nat}
    (h : s.Spares packet (.rxTcp src dst packet)) :
    (s.step (.rxTcp src dst packet)).Handles packet (.handle s.core.events.length) := by
  have hsocket : s.core.tcp.sockets ⟨dst, packet.dst, src, packet.src⟩ ≠ none := h
  refine ⟨s.core.tcp.tcpcbs ⟨dst, packet.dst, src, packet.src⟩, ?_⟩
  simp only [step, rxTcp, if_pos hsocket, onCore_core, Core.scheduleEvent_events,
    List.getElem?_concat_length]

/-- A stack that has sent a SYN to port 80 of host 2. -/
def synSentStack : Stack :=
  run step (new (some 1)) [.socket, .bind 0 (some 1) 1234, .connect 0 (some 2) 80 0, .resume 0 100,
    .handle 0]

/-- The SYN is refused: the reset finds the socket, and the handler takes it. -/
theorem reset_unanswered_iff_refused :
    let packet := TCPParser.sample 0 101 0x14 0 []
    let s := synSentStack.step (.rxTcp 2 1 packet)
    NoReset synSentStack.core s.core ∧ NoReset s.core (s.step (.handle 0)).core := by
  have hsocket : synSentStack.Spares (.sample 0 101 0x14 0 [])
      (.rxTcp 2 1 (.sample 0 101 0x14 0 [])) := by
    decide +kernel
  have hqueue : synSentStack.core.events.length = 0 := by decide +kernel
  have hev := handles_of_spares hsocket
  rw [hqueue] at hev
  refine ⟨(reset_unanswered_iff synSentStack _ ?_ (.rxTcp 2 1 _) rfl).2 hsocket,
    (reset_unanswered_iff _ _ ?_ _ hev).2 ?_⟩
  · decide
  · decide
  · decide +kernel

/-- A reset for a port without a socket is answered with a reset. -/
theorem reset_without_socket_answered :
    let packet := TCPParser.sample 7 9 0x14 0 []
    packet.rst = true ∧ (new (some 1)).Handles packet (.rxTcp 2 1 packet) ∧
      ¬ NoReset (new (some 1)).core ((new (some 1)).step (.rxTcp 2 1 packet)).core :=
  ⟨by decide, rfl, by decide +kernel⟩

end Stack

end Tipy.Tcp
