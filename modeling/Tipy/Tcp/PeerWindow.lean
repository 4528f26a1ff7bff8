import Tipy.Tcp.SndSeq

/-!
# The window of the peer

`_tx_loop` sends "within the current send window", but takes the window as it was advertised, from
`snd_una` on, for room from `snd_nxt` on: what is in flight is not taken off it. A data segment ends
at most `drainLen` past `snd_nxt`, so it ends within the window of the peer when what is in flight
and what is about to be drained fit it together. This is the condition `FitsWindow` on a `SEND`; at
an `RTX` nothing is in flight and it holds by itself.
-/

namespace Tipy.Tcp

open Tipy.Buffer Tipy.Lib

/-- The segment ends within the window of the peer. -/
def EndsInWindow (una : Int) (wnd : Nat) (seg : TxTcp) : Prop :=
  seg.data ≠ [] → (seg.seq + seg.data.length - una) % 4294967296 ≤ wnd

instance (una : Int) (wnd : Nat) (seg : TxTcp) : Decidable (EndsInWindow una wnd seg) :=
  inferInstanceAs (Decidable (_ → _))

/-- The data of the segment lies in the `n` bytes from `nxt` on. -/
def SentFrom (nxt : Int) (n : Nat) (seg : TxTcp) : Prop :=
  seg.data ≠ [] → ∃ i : Nat, seg.seq % 4294967296 = (nxt + i) % 4294967296 ∧ i + seg.data.length ≤ n

theorem SentFrom.of_bare {nxt : Int} {n : Nat} {seg : TxTcp} (h : seg.data = []) :
    SentFrom nxt n seg :=
  fun hne => absurd h hne

theorem SentFrom.endsInWindow {nxt una : Int} {n wnd : Nat} {seg : TxTcp} (h : SentFrom nxt n seg)
    (hfit : (nxt - una) % 4294967296 + n ≤ wnd) : EndsInWindow una wnd seg := by
  intro hne
  obtain ⟨i, hseq, hlen⟩ := h hne
  omega

/-! ## What a send handler emits -/

section Send

variable {c c₁ : Conn} {n : Nat} {nxt : Int}

theorem sendFin_sentFrom (c : Conn) (next : Option STATES) :
    Emits (SentFrom nxt n) c.core.out (c.sendFin next).core.out :=
  .sendFin c next (.of_bare rfl)

theorem hActiveCloseTx_sentFrom (c : Conn) :
    Emits (SentFrom nxt n) c.core.out c.hActiveCloseTx.core.out :=
  .activeCloseTx c fun _ _ => .of_bare

/-- What a loop has emitted when `m` of the `n` bytes are left. -/
structure LoopSent (n m : Nat) (c c' : Conn) : Prop where
  le : m ≤ n
  nxt : c'.tcb.snd.sndNxt % 4294967296 = (c.tcb.snd.sndNxt + (n - m : Nat)) % 4294967296
  emits : Emits (SentFrom c.tcb.snd.sndNxt n) c.core.out c'.core.out

theorem LoopSent.segment {m : Nat} {c' : Conn} {seg : List UInt8} (fin : Bool)
    (h : LoopSent n (seg.length + m) c c') :
    Emits (SentFrom c.tcb.snd.sndNxt n) c.core.out (c'.afterSegment seg fin).core.out := by
  refine h.emits.trans ?_
  rw [afterSegment_out]
  refine .append _ _ fun _ => ⟨n - (seg.length + m), h.nxt, ?_⟩
  have hle := h.le
  change n - (seg.length + m) + seg.length ≤ n
  omega

/-- **`_tx_loop`** sends the bytes it was given, from `snd_nxt` on, and no others. -/
theorem txLoop_sentFrom (hd : Drained c c₁) (next : Option STATES) (shutReq closeReq : Bool) :
    Emits (SentFrom c.tcb.snd.sndNxt (drainLen c.tcb.snd)) c.core.out
      (txLoop c₁ (drainSndBuf c.tcb.snd).1 next shutReq closeReq).st.core.out := by
  have hnxt : c₁.tcb.snd.sndNxt = c.tcb.snd.sndNxt := by rw [hd.snd]; rfl
  rw [← hd.out, ← hnxt]
  have hrule := txLoop_rule hd next shutReq closeReq
    (I := fun m c' => LoopSent (drainLen c.tcb.snd) m c₁ c')
    (J := fun c' => Emits (SentFrom c₁.tcb.snd.sndNxt (drainLen c.tcb.snd)) c₁.core.out c'.core.out)
    ⟨le_rfl, by simp, .refl _ _⟩ (hActiveCloseTx_sentFrom c₁) ?hseg
    (fun c' h => by simpa using h.emits) ?hfin
  · rcases hrule with ⟨-, h⟩ | ⟨-, m, h⟩
    · exact h
    · exact h.emits
  case hseg =>
    intro c' seg m hle h
    refine ⟨by omega, ?_, h.segment false⟩
    rw [afterSegment_snd]
    have := h.nxt
    simp only [Bool.toInt_false]
    omega
  case hfin =>
    intro _ c' seg _ _ h
    unfold Conn.afterFin
    cases next <;> simpa using LoopSent.segment (m := 0) true h

/-- Before and after the stream is sent a send handler sends no data. -/
theorem tx_sentFrom_bare (hs : ¬ c.tcb.state.Streaming) (hend : ¬ c.tcb.state.Ending) :
    Emits (SentFrom nxt n) c.core.out c.tx.st.core.out := by
  have hbare : ∀ {seg : TxTcp}, seg.data = [] →
      Emits (SentFrom nxt n) c.core.out (c.core.out ++ [(c.tcb.socketId, seg)]) :=
    fun h => .append _ _ (.of_bare h)
  rcases c.tcb.state.class_cases with h | h | h | h
  · exact absurd h hs
  · exact absurd h hend
  · rcases Conn.tx_ended h with htx | ⟨-, -, htx⟩ | htx
    · rw [htx]
      exact .refl _ _
    · rw [htx]
      exact hActiveCloseTx_sentFrom c
    · rw [htx]
      exact .refl _ _
  · rcases Conn.tx_opening h with htx | htx | htx
    · rw [htx]
      exact .refl _ _
    · rw [htx]
      simpa [Conn.txSynSent] using hbare rfl
    · rw [htx]
      simpa [Conn.txSynRecv] using hbare rfl

theorem TxPath.sentFrom {next : Option STATES} {shutReq closeReq : Bool} {o : Outcome}
    (hpath : TxPath c c₁ next shutReq closeReq o) (hd : Drained c c₁) :
    Emits (SentFrom c.tcb.snd.sndNxt (drainLen c.tcb.snd)) c.core.out o.st.core.out := by
  cases hpath with
  | abort =>
    rw [← hd.out]
    exact hActiveCloseTx_sentFrom c₁
  | fin c' _ _ _ _ sent =>
    rw [← hd.out]
    rcases sent with rfl | rfl
    · exact sendFin_sentFrom c₁ next
    · exact sendFin_sentFrom c₁ next
  | quiet c' _ _ _ sent =>
    rw [← hd.out]
    rcases sent with rfl | rfl
    · exact .refl _ _
    · exact .append _ _ (.of_bare rfl)
  | loop => exact txLoop_sentFrom hd next shutReq closeReq

/-- **A send handler** sends at most the bytes it drains, from `snd_nxt` on. -/
theorem tx_sentFrom (c : Conn) :
    Emits (SentFrom c.tcb.snd.sndNxt (drainLen c.tcb.snd)) c.core.out c.tx.st.core.out := by
  by_cases hs : c.tcb.state.Streaming
  · obtain ⟨c₁, hdrain, hpath⟩ := Conn.tx_streaming hs
    exact hpath.sentFrom hdrain.drained
  · by_cases hend : c.tcb.state.Ending
    · obtain ⟨c₁, hdrain, hpath⟩ := Conn.tx_ending hend
      exact hpath.sentFrom hdrain.drained
    · exact tx_sentFrom_bare hs hend

end Send

/-! ## The condition -/

/-- A send handler would send data: it drains some bytes, and does not abort the connection. -/
def SendsData (t : TCPCB) : Prop :=
  (t.state.Streaming ∧ ¬ (t.req.closeRequested = true ∧ t.req.soLinger = some SO_LINGER_ON) ∨
    t.state.Ending) ∧ drainLen t.snd ≠ 0

instance (t : TCPCB) : Decidable (SendsData t) := inferInstanceAs (Decidable (_ ∧ _))

/-- What is in flight and what is about to be sent fit the window of the peer. -/
def FitsWindow (t : TCPCB) : Prop :=
  SendsData t → (t.snd.sndNxt - t.snd.sndUna) % 4294967296 + drainLen t.snd ≤ t.snd.sndWnd

instance (t : TCPCB) : Decidable (FitsWindow t) := inferInstanceAs (Decidable (_ → _))

/-- The condition on an event of a run: that of a `SEND` which is handled. -/
def Outcome.FitsWindow (o : Outcome) : ConnEvent → Prop
  | .tx => o.fault = none → Tcp.FitsWindow o.st.tcb
  | _ => True

instance (o : Outcome) : (e : ConnEvent) → Decidable (o.FitsWindow e)
  | .tx => inferInstanceAs (Decidable (_ → _))
  | .rx _ | .rtx | .usr _ => .isTrue trivial

section Condition

variable {c : Conn}

theorem txLoop_abort {nxt : Int} {n : Nat} {data : List (List UInt8)} {next : Option STATES}
    {shutReq closeReq : Bool} (h : c.ActiveCloseTx closeReq) :
    Emits (SentFrom nxt n) c.core.out (txLoop c data next shutReq closeReq).st.core.out := by
  unfold txLoop
  simp only [if_pos h]
  exact hActiveCloseTx_sentFrom c

/-- Where no data is to be sent none is. -/
theorem tx_sentFrom_none (h : ¬ SendsData c.tcb) :
    Emits (SentFrom c.tcb.snd.sndNxt 0) c.core.out c.tx.st.core.out := by
  by_cases hzero : drainLen c.tcb.snd = 0
  · simpa [hzero] using tx_sentFrom c
  · have hend : ¬ c.tcb.state.Ending := fun hs => h ⟨Or.inr hs, hzero⟩
    by_cases hs : c.tcb.state.Streaming
    · have habort : c.ActiveCloseTx c.tcb.req.closeRequested := by
        by_contra hno
        exact h ⟨Or.inl ⟨hs, hno⟩, hzero⟩
      have hready : (drainSndBuf c.tcb.snd).1 ≠ [] := by
        intro hnil
        rw [(drainSndBuf_views c.tcb.snd).1] at hnil
        exact hzero (by simp [drainLen, hnil])
      obtain ⟨c₁, hdrain, hpath⟩ := Conn.tx_streaming hs
      have hd := hdrain.drained
      have habort₁ : c₁.ActiveCloseTx c.tcb.req.closeRequested := by
        unfold Conn.ActiveCloseTx
        rw [hd.req]
        exact habort
      generalize c.tx = o at hpath ⊢
      cases hpath with
      | abort nil => exact absurd nil hready
      | fin c' nil => exact absurd nil hready
      | quiet c' nil => exact absurd nil hready
      | loop =>
        rw [← hd.out]
        exact txLoop_abort habort₁
    · exact tx_sentFrom_bare hs hend

/-- **A send event** that meets the condition keeps to the window. -/
theorem tx_endsInWindow (h : FitsWindow c.tcb) :
    Emits (EndsInWindow c.tcb.snd.sndUna c.tcb.snd.sndWnd) c.core.out c.tx.st.core.out := by
  by_cases hdata : SendsData c.tcb
  · exact (tx_sentFrom c).mono fun seg hseg => hseg.endsInWindow (h hdata)
  · refine (tx_sentFrom_none hdata).mono fun seg hseg hne => ?_
    obtain ⟨i, -, hlen⟩ := hseg hne
    exact absurd (List.eq_nil_of_length_eq_zero (by omega)) hne

/-- After a roll back nothing is in flight, and the condition holds. -/
theorem fitsWindow_prepareRtx (c : Conn) : FitsWindow c.prepareRtx.tcb := by
  intro _
  have hflight : (c.prepareRtx.tcb.snd.sndNxt - c.prepareRtx.tcb.snd.sndUna) % 4294967296 = 0 := by
    change (c.tcb.snd.sndUna - c.tcb.snd.sndUna) % 4294967296 = 0
    simp
  have hle : drainLen c.prepareRtx.tcb.snd ≤ c.prepareRtx.tcb.snd.sndWnd :=
    (Nat.min_le_left _ _).trans (Nat.min_le_right _ _)
  rw [hflight]
  omega

/-- What one event has put on the wire, while `snd_una` and the window of the peer were the same. -/
def InPeerWindow (c c' : Conn) : Prop :=
  Emits (fun seg => EndsInWindow c.tcb.snd.sndUna c.tcb.snd.sndWnd seg ∧
    (seg.data ≠ [] → c'.tcb.snd.sndUna = c.tcb.snd.sndUna ∧ c'.tcb.snd.sndWnd = c.tcb.snd.sndWnd))
    c.core.out c'.core.out

theorem InPeerWindow.of_bare {c' : Conn} (h : Emits TxTcp.Bare c.core.out c'.core.out) :
    InPeerWindow c c' :=
  h.mono fun _ hseg => ⟨fun hne => absurd hseg.1 hne, fun hne => absurd hseg.1 hne⟩

theorem InPeerWindow.tx (h : FitsWindow c.tcb) : InPeerWindow c c.tx.st :=
  (tx_endsInWindow h).mono fun _ hseg => ⟨hseg, fun _ => c.tx_peer⟩

theorem InPeerWindow.usr (c : Conn) (q : UserRequest) : InPeerWindow c (q.apply c) := by
  have hout : (q.apply c).core.out = c.core.out := by
    cases q with
    | tcpSend data =>
      simp only [UserRequest.apply, Conn.tcpSend]
      split <;> rfl
    | tcpRecv n =>
      simp only [UserRequest.apply, Conn.tcpRecv]
      split <;> rfl
    | tcpClose => rfl
    | tcpShutdown => rfl
    | tick ns => rfl
  exact .of_bare (hout ▸ .refl _ _)

/-- **One event.** -/
theorem Outcome.step_inPeerWindow {o : Outcome} (hopen : o.st.tcb.state.Opened) {e : ConnEvent}
    (hfit : o.FitsWindow e) : InPeerWindow o.st (o.step e).st := by
  refine o.step_rule e (.of_bare (.refl _ _)) fun hlive => ?_
  cases e with
  | usr q => exact .usr o.st q
  | rx packet =>
    refine .of_bare ((rx_emits o.st packet ?_ ?_).mono fun _ h => h.1)
    · intro hs
      rw [hs] at hopen
      exact absurd hopen (by decide)
    · intro hs
      rw [hs] at hopen
      exact absurd hopen (by decide)
  | tx => exact .tx (hfit (hlive.resolve_right (by simp)))
  | rtx =>
    have hrtx : InPeerWindow o.st.prepareRtx o.st.prepareRtx.tx.st :=
      .tx (fitsWindow_prepareRtx o.st)
    exact hrtx

end Condition

/-- **The sender respects the window of the peer when what is in flight is counted.** In every run
from a connection in `ESTAB` in which, at each `SEND` that sends data, the bytes in flight and those
drained fit the window together: each data segment an event emits ends within the window, with
`snd_una` and `snd_wnd` as they are at that event. -/
theorem data_in_peer_window (c : Conn) (hs : c.tcb.state = .estab) (es : List ConnEvent)
    (hfit : Guarded Outcome.step Outcome.FitsWindow (.ok c) es) (pre : List ConnEvent)
    (e : ConnEvent) (hpre : pre ++ [e] <+: es) :
    InPeerWindow (run Outcome.step (.ok c) pre).st ((run Outcome.step (.ok c) pre).step e).st := by
  have hopen : (run Outcome.step (.ok c) pre).st.tcb.state.Opened := by
    refine run_inv' (I := fun o : Outcome => o.st.tcb.state.Opened) (fun o e h => ?_) ?_ pre
    · exact (h.of_successors (o.step_next e)).1
    · rw [Outcome.ok_st, hs]
      decide
  have hlast := (guarded_append _ _ _ pre [e]).1 (hfit.of_prefix hpre)
  exact Outcome.step_inPeerWindow hopen hlast.2.1

/-- Two bytes in flight, one of them acknowledged, and one more. -/
theorem data_in_peer_window_three :
    let es : List ConnEvent := [.usr (.tcpSend [1, 2]), .tx, .rx (.sample 101 1002 0x10 4096 []),
      .usr (.tcpSend [3]), .tx]
    sampleEstab.st.tcb.state = .estab ∧
      Guarded Outcome.step Outcome.FitsWindow (.ok sampleEstab.st) es ∧
      InPeerWindow (run Outcome.step (.ok sampleEstab.st) (es.take 4)).st
        ((run Outcome.step (.ok sampleEstab.st) (es.take 4)).step .tx).st := by
  refine ⟨by decide +kernel, by decide +kernel, ?_⟩
  exact data_in_peer_window _ (by decide +kernel) _ (by decide +kernel) _ .tx (List.prefix_refl _)

/-- The peer advertises two bytes; two are in flight when two more are sent. -/
theorem second_send_overruns_window :
    let c := (run Outcome.step (.connected 0 0 ⟨1, 1234, 2, 80⟩ none 1000 .idle)
      [.rx (.sample 100 1001 0x12 2 [])]).st
    let o := run Outcome.step (.ok c) [.usr (.tcpSend [1, 2]), .tx, .usr (.tcpSend [3, 4])]
    FreshEstab c ∧ o.fault = none ∧ o.st.tcb.snd.sndWnd = 2 ∧
      ∃ x ∈ (o.step .tx).st.core.out.drop o.st.core.out.length,
        ¬ EndsInWindow o.st.tcb.snd.sndUna o.st.tcb.snd.sndWnd x.2 := by
  decide +kernel

end Tipy.Tcp
