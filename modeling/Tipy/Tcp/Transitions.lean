import Tipy.Tcp.SendPaths
import Tipy.Tcp.Usrreq

/-!
# The state diagram

Which states an event can lead to from which. `handler_next` says it once for all events and
requests; the invariants that depend on the state of a connection are then proved state by state. No
handler touches the requests of the application, or whose connection it is.
-/

namespace Tipy.Tcp

/-- The states one event can lead to. -/
def STATES.successors : STATES → List STATES
  | .listen => [.listen]
  | .synSent => [.synSent, .synRecv, .estab]
  | .synRecv => [.synRecv, .estab]
  | .estab => [.estab, .finWait1, .closeWait, .closed]
  | .finWait1 => [.finWait1, .finWait2, .closing, .timeWait, .closed]
  | .finWait2 => [.finWait2, .timeWait, .closed]
  | .closeWait => [.closeWait, .lastAck, .closed]
  | .closing => [.closing, .timeWait, .closed]
  | .lastAck => [.lastAck, .closed]
  | .timeWait => [.timeWait]
  | .closed => [.closed]

theorem STATES.self_mem_successors (s : STATES) : s ∈ s.successors := by
  cases s <;> decide

namespace Conn

variable (c : Conn) (p : Segment)

/-! ## Segments -/

/-- A SYN-ACK opens the connection, a SYN alone opens it from both sides. -/
theorem rxSynSent_state :
    (c.rxSynSent p).st.tcb.state = c.tcb.state ∨ (c.rxSynSent p).st.tcb.state = .synRecv ∨
      (c.rxSynSent p).st.tcb.state = .estab := by
  refine rxSynSent_rule c p (I := fun o => o.st.tcb.state = c.tcb.state ∨
    o.st.tcb.state = .synRecv ∨ o.st.tcb.state = .estab) ?_ (Or.inl rfl) ?_ ?_ ?_ ?_
  · simp
  · simp
  · exact fun _ => Or.inl (by simp [synSentAccept])
  · exact fun _ => by simp
  · simp [synSentSimultaneous]

/-- The acknowledgement of the SYN-ACK completes a simultaneous open. -/
theorem rxSynRecv_state :
    (c.rxSynRecv p).tcb.state = c.tcb.state ∨ (c.rxSynRecv p).tcb.state = .estab := by
  unfold rxSynRecv
  split
  · split
    · simp
    · simp only
      split
      · simp
      · split <;> simp
  · simp

/-- In `ESTAB` a segment changes the state only by its RST or its FIN. -/
theorem rxEstab_state : (c.rxEstab p).tcb.state ∈ [c.tcb.state, .closeWait, .closed] := by
  unfold rxEstab
  simp only
  split
  · split
    · simp
    · split
      · simp
      · simp only [estabAccept]
        split <;> split <;> simp
  · simp
  · simp

/-- The acknowledgement of the FIN leads on, and where to depends on the FIN of the peer. -/
theorem finWait1Ack_state : (c.finWait1Ack p).tcb.state =
    if 0 < (hRxAck c.tcb.snd p).2 then
      if (hRxAck c.tcb.snd p).1.sndNxt = (hRxAck c.tcb.snd p).1.sndUna then
        if p.fin then .timeWait else .finWait2
      else if p.fin then .closing else c.tcb.state
    else c.tcb.state := by
  unfold finWait1Ack
  simp only [setSnd_tcb, TCPCB.setSnd_snd]
  split
  · split <;> split <;> simp
  · simp

theorem finWait1Accept_state :
    (c.finWait1Accept p).tcb.state = (c.finWait1Ack p).tcb.state := by
  unfold finWait1Accept
  simp only
  split <;> split <;> simp [finWait1Ack_state]

theorem rxFinWait1_state : (c.rxFinWait1 p).tcb.state ∈
    [c.tcb.state, .finWait2, .closing, .timeWait, .closed] := by
  unfold rxFinWait1
  simp only
  split
  · split
    · simp
    · split
      · simp
      · split
        · simp
        · rw [finWait1Accept_state, finWait1Ack_state]
          split_ifs <;> simp
  · simp
  · simp

theorem finWait2Accept_state : (c.finWait2Accept p).tcb.state =
    if p.fin then .timeWait else c.tcb.state := by
  unfold finWait2Accept
  simp only
  split <;> split <;> simp

/-- In `FIN_WAIT_2` only the FIN of the peer is missing. -/
theorem rxFinWait2_state : (c.rxFinWait2 p).tcb.state ∈ [c.tcb.state, .timeWait, .closed] := by
  unfold rxFinWait2
  simp only
  split
  · split
    · simp
    · split
      · simp
      · split
        · simp
        · rw [finWait2Accept_state]
          split_ifs <;> simp
  · simp
  · simp

theorem rxCloseWait_state : (c.rxCloseWait p).tcb.state ∈ [c.tcb.state, .closed] := by
  unfold rxCloseWait
  split_ifs <;> simp

/-- In `CLOSING` only the acknowledgement of the FIN is missing. -/
theorem rxClosing_state : (c.rxClosing p).tcb.state ∈ [c.tcb.state, .timeWait, .closed] := by
  unfold rxClosing closingAck
  simp only
  split_ifs <;> simp

/-- In `LAST_ACK` that acknowledgement ends the connection. -/
theorem rxLastAck_state : (c.rxLastAck p).tcb.state ∈ [c.tcb.state, .closed] := by
  unfold rxLastAck lastAckAck
  simp only
  split_ifs <;> simp

/-- `TIME_WAIT` ends by its timer and not by a segment. -/
theorem rxTimeWait_state : (c.rxTimeWait p).tcb.state = c.tcb.state := by
  unfold rxTimeWait
  split <;> simp

/-- A segment leads to a successor: one case for each handler. -/
theorem rx_next (packet : TCPParser) :
    (c.rx packet).st.tcb.state ∈ c.tcb.state.successors := by
  cases hs : c.tcb.state with
  | listen => simp [rx, hs, STATES.successors]
  | synSent => simpa [rx, hs, STATES.successors] using c.rxSynSent_state packet.segment
  | synRecv => simpa [rx, hs, STATES.successors] using c.rxSynRecv_state packet.segment
  | estab =>
    have := c.rxEstab_state packet.segment
    simp only [rx, hs, STATES.successors, Outcome.ok_st, List.mem_cons] at this ⊢
    tauto
  | finWait1 => simpa [rx, hs, STATES.successors] using c.rxFinWait1_state packet.segment
  | finWait2 => simpa [rx, hs, STATES.successors] using c.rxFinWait2_state packet.segment
  | closeWait =>
    have := c.rxCloseWait_state packet.segment
    simp only [rx, hs, STATES.successors, Outcome.ok_st, List.mem_cons] at this ⊢
    tauto
  | closing => simpa [rx, hs, STATES.successors] using c.rxClosing_state packet.segment
  | lastAck => simpa [rx, hs, STATES.successors] using c.rxLastAck_state packet.segment
  | timeWait => simpa [rx, hs, STATES.successors] using c.rxTimeWait_state packet.segment
  | closed => simp [rx, hs, STATES.successors]

/-! ## Sending -/

/-- With data in flight or to be sent the state stays, or the FIN or an abort was sent. -/
theorem tx_state (hs : c.tcb.state.Streaming ∨ c.tcb.state.Ending) :
    c.tx.st.tcb.state ∈ [c.tcb.state, c.tcb.state.behindFin, .closed] := by
  have hpath : ∀ {c₁ next shutReq closeReq o}, c.DrainsTo c₁ →
      TxPath c c₁ next shutReq closeReq o → next.getD c.tcb.state = c.tcb.state.behindFin →
      o.st.tcb.state ∈ [c.tcb.state, c.tcb.state.behindFin, .closed] := by
    intro c₁ next shutReq closeReq o hd ho hnext
    have hstate : c₁.tcb.state = c.tcb.state := by rcases hd with rfl | rfl <;> rfl
    rw [← hnext, ← hstate]
    cases ho with
    | abort => simp
    | fin c' _ _ _ _ sent =>
      rcases sent with rfl | rfl
      · exact c₁.sendFin_state next
      · exact c₁.sendFin_state next
    | quiet c' _ _ _ sent => rcases sent with rfl | rfl <;> simp
    | loop => exact txLoop_state c₁ _ next shutReq closeReq
  rcases hs with hs | hs
  · obtain ⟨c₁, hd, ho⟩ := tx_streaming hs
    exact hpath hd ho rfl
  · obtain ⟨c₁, hd, ho⟩ := tx_ending hs
    exact hpath hd ho hs.behindFin.symm

/-- A SEND leads to a successor. -/
theorem tx_next : c.tx.st.tcb.state ∈ c.tcb.state.successors := by
  have hsucc : ∀ s s' : STATES, s.Streaming ∨ s.Ending → s' ∈ [s, s.behindFin, .closed] →
      s' ∈ s.successors := by
    intro s s'
    cases s <;> cases s' <;> decide
  rcases c.tcb.state.class_cases with hs | hs | hs | hs
  · exact hsucc _ _ (Or.inl hs) (c.tx_state (Or.inl hs))
  · exact hsucc _ _ (Or.inr hs) (c.tx_state (Or.inr hs))
  · rcases tx_ended hs with htx | ⟨hs, -, htx⟩ | htx
    · rw [htx]
      exact c.tcb.state.self_mem_successors
    · rw [htx, hs]
      simp [STATES.successors]
    · rw [htx]
      exact c.tcb.state.self_mem_successors
  · rcases tx_opening hs with htx | htx | htx
    · rw [htx]
      exact c.tcb.state.self_mem_successors
    · rw [htx]
      simpa [txSynSent] using c.tcb.state.self_mem_successors
    · rw [htx]
      simpa [txSynRecv] using c.tcb.state.self_mem_successors

/-! ## The slots that stay -/

theorem rxSynSent_fixed : (c.rxSynSent p).st.tcb.fixed = c.tcb.fixed := by
  rw [rxSynSent_tcb]
  rfl

theorem rxEstab_fixed : (c.rxEstab p).tcb.fixed = c.tcb.fixed := by
  unfold rxEstab
  simp only
  split
  · simp only [estabAccept]
    split_ifs <;> simp
  · simp
  · simp

theorem rxFinWait1_fixed : (c.rxFinWait1 p).tcb.fixed = c.tcb.fixed := by
  unfold rxFinWait1
  simp only
  split
  · simp only [finWait1Accept]
    split_ifs <;> simp
  · simp
  · simp

theorem rxFinWait2_fixed : (c.rxFinWait2 p).tcb.fixed = c.tcb.fixed := by
  unfold rxFinWait2
  simp only
  split
  · simp only [finWait2Accept]
    split_ifs <;> simp
  · simp
  · simp

/-- A segment leaves the requests of the application alone, and whose connection it is. -/
theorem rx_fixed (packet : TCPParser) : (c.rx packet).st.tcb.fixed = c.tcb.fixed := by
  cases hs : c.tcb.state with
  | synSent => simpa [rx, hs] using c.rxSynSent_fixed packet.segment
  | synRecv =>
    simp only [rx, hs, Outcome.ok_st, rxSynRecv]
    split_ifs <;> simp
  | estab => simpa [rx, hs] using c.rxEstab_fixed packet.segment
  | finWait1 => simpa [rx, hs] using c.rxFinWait1_fixed packet.segment
  | finWait2 => simpa [rx, hs] using c.rxFinWait2_fixed packet.segment
  | closeWait =>
    simp only [rx, hs, Outcome.ok_st, rxCloseWait]
    split_ifs <;> simp
  | closing =>
    simp only [rx, hs, Outcome.ok_st, rxClosing]
    split_ifs <;> simp
  | lastAck =>
    simp only [rx, hs, Outcome.ok_st, rxLastAck]
    split_ifs <;> simp
  | timeWait =>
    simp only [rx, hs, Outcome.ok_st, rxTimeWait]
    split_ifs <;> simp
  | listen => simp [rx, hs]
  | closed => simp [rx, hs]

/-- So does a SEND. -/
theorem tx_fixed : c.tx.st.tcb.fixed = c.tcb.fixed := by
  refine tx_inv (I := fun c' => c'.tcb.fixed = c.tcb.fixed) rfl ?_ ?_ ?_ ?_ ?_ ?_ ?_ ?_
  · simp [txSynSent]
  · simp [txSynRecv]
  · rintro c₁ (rfl | rfl) <;> simp
  · exact fun c' h => by simpa using h
  · exact fun c' next h => by simpa using h
  · exact fun c' h => by simpa using h
  · exact fun c' h => by simpa using h
  · exact fun c' data next shutReq closeReq h => by simpa using h

theorem rx_req (packet : TCPParser) : (c.rx packet).st.tcb.req = c.tcb.req :=
  congrArg (·.2.2.2) (c.rx_fixed packet)

theorem tx_req : c.tx.st.tcb.req = c.tcb.req := congrArg (·.2.2.2) c.tx_fixed

end Conn

theorem UserRequest.apply_state (q : UserRequest) (c : Conn) :
    (q.apply c).tcb.state = c.tcb.state := by
  cases q with
  | tcpSend data =>
    simp only [UserRequest.apply, Conn.tcpSend]
    split <;> simp
  | tcpRecv n =>
    simp only [UserRequest.apply, Conn.tcpRecv]
    split <;> simp
  | tcpClose => simp [UserRequest.apply, Conn.tcpClose]
  | tcpShutdown => simp [UserRequest.apply, Conn.tcpShutdown]
  | tick ns => rfl

/-- **The state diagram.** Every event leads from a state to one of its successors. -/
theorem handler_next (e : ConnEvent) (c : Conn) :
    (e.handler c).st.tcb.state ∈ c.tcb.state.successors := by
  cases e with
  | rx packet => exact c.rx_next packet
  | tx => exact c.tx_next
  | rtx => exact c.prepareRtx.tx_next
  | usr q =>
    have h : ((ConnEvent.usr q).handler c).st.tcb.state = c.tcb.state := q.apply_state c
    rw [h]
    exact c.tcb.state.self_mem_successors

theorem Outcome.step_next (o : Outcome) (e : ConnEvent) :
    (o.step e).st.tcb.state ∈ o.st.tcb.state.successors :=
  o.step_rule (R := fun c c' => c'.tcb.state ∈ c.tcb.state.successors) e
    o.st.tcb.state.self_mem_successors fun _ => handler_next e o.st

end Tipy.Tcp
