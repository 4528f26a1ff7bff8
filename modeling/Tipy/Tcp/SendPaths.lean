import Tipy.Tcp.Frame

/-!
# The paths of the send handlers

The send handlers of the five states in which data can be in flight differ in the state behind the
FIN, in what asks for the FIN and in `ack_now`. `TxPath` names the ways they go once the buffer is
drained, and `Conn.tx_streaming` and `Conn.tx_ending` say that they go one of them. So a property of
sending is proved for four paths, not for five handlers. `Conn.tx_inv` is the rule for what every
step of a handler keeps.
-/

namespace Tipy.Tcp

/-- The application wants the stream to end. -/
def Requests.finWanted (q : Requests) : Bool := q.shutdownRequested || q.closeRequested

theorem Requests.finWanted_iff (q : Requests) :
    q.finWanted = true ↔ q.closeRequested = true ∨ q.shutdownRequested = true := by
  unfold Requests.finWanted
  rw [Bool.or_eq_true, or_comm]

/-! ## The states -/

/-- The states in which the stream is sent, those in which its FIN was sent too, and those after it
was acknowledged. -/
def STATES.Streaming (s : STATES) : Prop := s ∈ [.estab, .closeWait]

def STATES.Ending (s : STATES) : Prop := s ∈ [.finWait1, .closing, .lastAck]

def STATES.Ended (s : STATES) : Prop := s ∈ [.finWait2, .timeWait, .closed]

instance (s : STATES) : Decidable s.Streaming := inferInstanceAs (Decidable (s ∈ _))

instance (s : STATES) : Decidable s.Ending := inferInstanceAs (Decidable (s ∈ _))

instance (s : STATES) : Decidable s.Ended := inferInstanceAs (Decidable (s ∈ _))

theorem STATES.streaming_ending_ended_disjoint (s : STATES) :
    ¬ (s.Streaming ∧ s.Ending) ∧ ¬ (s.Streaming ∧ s.Ended) ∧ ¬ (s.Ending ∧ s.Ended) := by
  cases s <;> decide

theorem STATES.class_cases (s : STATES) :
    s.Streaming ∨ s.Ending ∨ s.Ended ∨ s ∈ [.listen, .synSent, .synRecv] := by
  cases s <;> decide

/-- The state behind the FIN of this side. -/
def STATES.behindFin : STATES → STATES
  | .estab => .finWait1
  | .closeWait => .lastAck
  | s => s

theorem STATES.Streaming.behindFin {s : STATES} (h : s.Streaming) : s.behindFin.Ending := by
  revert h
  cases s <;> decide

theorem STATES.Ending.behindFin {s : STATES} (h : s.Ending) : s.behindFin = s := by
  revert h
  cases s <;> decide

/-! ## The paths -/

/-- What a send handler goes on with after `_drain_snd_buf`, and possibly `_compute_rcv_wnd`. -/
def Conn.DrainsTo (c c₁ : Conn) : Prop :=
  c₁ = c.setSnd (drainSndBuf c.tcb.snd).2 ∨ c₁ = (c.setSnd (drainSndBuf c.tcb.snd).2).computeWnd

/-- The ways a send handler goes from there (`c₁`). A FIN on its own goes out where one is asked for
and the window is open, and only `ESTAB` resets `ack_now` behind it. -/
inductive TxPath (c c₁ : Conn) (next : Option STATES) (shutReq closeReq : Bool) : Outcome → Prop
  | abort (nil : (drainSndBuf c.tcb.snd).1 = []) (early : c.tcb.state ≠ .lastAck)
      (close : c.ActiveCloseTx c.tcb.req.closeRequested) :
      TxPath c c₁ next shutReq closeReq (.ok c₁.hActiveCloseTx)
  | fin (c' : Conn) (nil : (drainSndBuf c.tcb.snd).1 = [])
      (live : c.tcb.state ≠ .lastAck → ¬ c.ActiveCloseTx c.tcb.req.closeRequested)
      (due : (shutReq || closeReq) = true) (wnd : 0 < c.tcb.snd.sndWnd)
      (sent : c' = c₁.sendFin next ∨ c' = (c₁.sendFin next).setAckNow false) :
      TxPath c c₁ next shutReq closeReq (.ok c')
  | quiet (c' : Conn) (nil : (drainSndBuf c.tcb.snd).1 = [])
      (live : c.tcb.state ≠ .lastAck → ¬ c.ActiveCloseTx c.tcb.req.closeRequested)
      (idle : (shutReq || closeReq) = true → ¬ 0 < c.tcb.snd.sndWnd)
      (sent : c' = c₁ ∨ c' = c₁.sendAck.setAckNow false) :
        TxPath c c₁ next shutReq closeReq (.ok c')
  | loop (ready : (drainSndBuf c.tcb.snd).1 ≠ []) :
      TxPath c c₁ next shutReq closeReq
        (txLoop c₁ (drainSndBuf c.tcb.snd).1 next shutReq closeReq)

namespace Conn

section Paths

variable {c : Conn}

theorem txEstab_path (hs : c.tcb.state = .estab) :
    TxPath c (c.setSnd (drainSndBuf c.tcb.snd).2).computeWnd (some .finWait1)
      c.tcb.req.shutdownRequested
      c.tcb.req.closeRequested c.txEstab := by
  unfold txEstab
  simp only
  split
  · next hnil =>
    split_ifs with hab hfin hack
    · exact .abort hnil (by simp [hs]) hab
    · exact .fin _ hnil (fun _ => hab) (c.tcb.req.finWanted_iff.2 hfin.1) hfin.2 (Or.inr rfl)
    · exact .quiet _ hnil (fun _ => hab) (fun hdue hwnd =>
        hfin ⟨c.tcb.req.finWanted_iff.1 hdue, hwnd⟩)
        (Or.inr rfl)
    · exact .quiet _ hnil (fun _ => hab) (fun hdue hwnd =>
        hfin ⟨c.tcb.req.finWanted_iff.1 hdue, hwnd⟩)
        (Or.inl rfl)
  · next hready => exact .loop hready

theorem txCloseWait_path (hs : c.tcb.state = .closeWait) :
    TxPath c (c.setSnd (drainSndBuf c.tcb.snd).2).computeWnd (some .lastAck)
      c.tcb.req.shutdownRequested
      c.tcb.req.closeRequested c.txCloseWait := by
  unfold txCloseWait
  simp only
  split
  · next hnil =>
    split_ifs with hab hfin hack
    · exact .abort hnil (by simp [hs]) hab
    · exact .fin _ hnil (fun _ => hab) (c.tcb.req.finWanted_iff.2 hfin.1) hfin.2 (Or.inl rfl)
    · exact .quiet _ hnil (fun _ => hab) (fun hdue hwnd =>
        hfin ⟨c.tcb.req.finWanted_iff.1 hdue, hwnd⟩)
        (Or.inr rfl)
    · exact .quiet _ hnil (fun _ => hab) (fun hdue hwnd =>
        hfin ⟨c.tcb.req.finWanted_iff.1 hdue, hwnd⟩)
        (Or.inl rfl)
  · next hready => exact .loop hready

theorem txFinWait1_path (hs : c.tcb.state = .finWait1) :
    TxPath c (c.setSnd (drainSndBuf c.tcb.snd).2).computeWnd none true false c.txFinWait1 := by
  unfold txFinWait1
  simp only
  split
  · next hnil =>
    split_ifs with hab hwnd
    · exact .abort hnil (by simp [hs]) hab
    · exact .fin _ hnil (fun _ => hab) rfl hwnd (Or.inl rfl)
    · exact .quiet _ hnil (fun _ => hab) (fun _ => hwnd) (Or.inl rfl)
  · next hready => exact .loop hready

theorem txClosing_path (hs : c.tcb.state = .closing) :
    TxPath c (c.setSnd (drainSndBuf c.tcb.snd).2) none true false c.txClosing := by
  unfold txClosing
  simp only
  split
  · next hnil =>
    split_ifs with hab hwnd
    · exact .abort hnil (by simp [hs]) hab
    · exact .fin _ hnil (fun _ => hab) rfl hwnd (Or.inl rfl)
    · exact .quiet _ hnil (fun _ => hab) (fun _ => hwnd) (Or.inl rfl)
  · next hready => exact .loop hready

theorem txLastAck_path (hs : c.tcb.state = .lastAck) :
    TxPath c (c.setSnd (drainSndBuf c.tcb.snd).2) none true false c.txLastAck := by
  unfold txLastAck
  simp only
  split
  · next hnil =>
    split_ifs with hwnd
    · exact .fin _ hnil (fun h => absurd hs h) rfl hwnd (Or.inl rfl)
    · exact .quiet _ hnil (fun h => absurd hs h) (fun _ => hwnd) (Or.inl rfl)
  · next hready => exact .loop hready

/-- The send handlers of the states in which the stream is sent. -/
theorem tx_streaming (hs : c.tcb.state.Streaming) :
    ∃ c₁, c.DrainsTo c₁ ∧ TxPath c c₁ (some c.tcb.state.behindFin) c.tcb.req.shutdownRequested
      c.tcb.req.closeRequested c.tx := by
  have hcases : c.tcb.state = .estab ∨ c.tcb.state = .closeWait := by
    simpa [STATES.Streaming] using hs
  unfold tx
  rcases hcases with hs | hs
  · refine ⟨_, Or.inr rfl, ?_⟩
    rw [hs]
    exact txEstab_path hs
  · refine ⟨_, Or.inr rfl, ?_⟩
    rw [hs]
    exact txCloseWait_path hs

/-- The send handlers of the states in which the FIN was sent. -/
theorem tx_ending (hs : c.tcb.state.Ending) :
    ∃ c₁, c.DrainsTo c₁ ∧ TxPath c c₁ none true false c.tx := by
  have hcases : c.tcb.state = .finWait1 ∨ c.tcb.state = .closing ∨ c.tcb.state = .lastAck := by
    simpa [STATES.Ending] using hs
  unfold tx
  rcases hcases with hs | hs | hs
  · refine ⟨_, Or.inr rfl, ?_⟩
    rw [hs]
    exact txFinWait1_path hs
  · refine ⟨_, Or.inl rfl, ?_⟩
    rw [hs]
    exact txClosing_path hs
  · refine ⟨_, Or.inl rfl, ?_⟩
    rw [hs]
    exact txLastAck_path hs

/-- The send handlers of the states after it: there is none in `TIME_WAIT`. -/
theorem tx_ended (hs : c.tcb.state.Ended) :
    c.tx = .ok c ∨ (c.tcb.state = .finWait2 ∧ c.ActiveCloseTx c.tcb.req.closeRequested ∧
      c.tx = .ok c.hActiveCloseTx) ∨ c.tx = .raise c .typeError := by
  have hcases : c.tcb.state = .finWait2 ∨ c.tcb.state = .timeWait ∨ c.tcb.state = .closed := by
    simpa [STATES.Ended] using hs
  unfold tx
  rcases hcases with hs | hs | hs
  · simp only [hs, txFinWait2]
    split
    · next hab => exact Or.inr (Or.inl ⟨trivial, hab, rfl⟩)
    · exact Or.inl rfl
  · exact Or.inr (Or.inr (by rw [hs]))
  · exact Or.inl (by rw [hs])

/-- The send handlers of the states before it: there is none in `LISTEN`. -/
theorem tx_opening (hs : c.tcb.state ∈ [.listen, .synSent, .synRecv]) :
    c.tx = .raise c .typeError ∨ c.tx = .ok c.txSynSent ∨ c.tx = .ok c.txSynRecv := by
  have hcases : c.tcb.state = .listen ∨ c.tcb.state = .synSent ∨ c.tcb.state = .synRecv := by
    simpa using hs
  unfold tx
  rcases hcases with hs | hs | hs
  · exact Or.inl (by rw [hs])
  · exact Or.inr (Or.inl (by rw [hs]))
  · exact Or.inr (Or.inr (by rw [hs]))

end Paths

/-! ## The rule of a send handler -/

/-- **The rule of a send handler.** What its steps preserve it preserves, whatever it ends with. -/
theorem tx_inv {I : Conn → Prop} {c : Conn} (h : I c) (hsynSent : I c.txSynSent)
    (hsynRecv : I c.txSynRecv) (hdrain : ∀ c₁, c.DrainsTo c₁ → I c₁)
    (habort : ∀ c, I c → I c.hActiveCloseTx) (hfin : ∀ c next, I c → I (c.sendFin next))
    (hack : ∀ c, I c → I c.sendAck) (hnow : ∀ c, I c → I (c.setAckNow false))
    (hloop : ∀ c data next shutReq closeReq, I c → I (txLoop c data next shutReq closeReq).st) :
    I c.tx.st := by
  have hpath : ∀ {c₁ next shutReq closeReq o}, c.DrainsTo c₁ →
      TxPath c c₁ next shutReq closeReq o → I o.st := by
    intro c₁ next shutReq closeReq o hd ho
    have h₁ := hdrain c₁ hd
    cases ho with
    | abort => exact habort c₁ h₁
    | fin c' _ _ _ _ sent =>
      rcases sent with rfl | rfl
      · exact hfin c₁ next h₁
      · exact hnow _ (hfin c₁ next h₁)
    | quiet c' _ _ _ sent =>
      rcases sent with rfl | rfl
      · exact h₁
      · exact hnow _ (hack c₁ h₁)
    | loop => exact hloop _ _ _ _ _ h₁
  rcases c.tcb.state.class_cases with hs | hs | hs | hs
  · obtain ⟨c₁, hd, ho⟩ := tx_streaming hs
    exact hpath hd ho
  · obtain ⟨c₁, hd, ho⟩ := tx_ending hs
    exact hpath hd ho
  · rcases tx_ended hs with htx | ⟨-, -, htx⟩ | htx
    · rw [htx]
      exact h
    · rw [htx]
      exact habort c h
    · rw [htx]
      exact h
  · rcases tx_opening hs with htx | htx | htx
    · rw [htx]
      exact h
    · rw [htx]
      exact hsynSent
    · rw [htx]
      exact hsynRecv

end Conn

end Tipy.Tcp
