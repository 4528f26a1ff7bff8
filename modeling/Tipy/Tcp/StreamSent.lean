import Tipy.Tcp.AckRule
import Tipy.Tcp.PeerFin
import Tipy.Tcp.TxSegments

/-!
# The segments carry the stream

A segment is given to `tx_tcp` with views of the ring, which `build` reads later, in the TX thread;
here its payload is what they show when `tx_tcp` is called. So a retransmission is right only if the
ring still has at each offset the byte of the stream that belongs there. `Tells` says that the
payload of a segment is the stream at the place of its sequence number. `segments_tell_stream`: so
it is for every segment of every run, first transmission or not, in which nothing was written over
what is not acknowledged.

`Answers` is the other half of a segment: what it acknowledges. After the handshake every segment of
a connection that was not closed acknowledges `rcv_nxt`.
-/

namespace Tipy.Tcp

open Tipy.Buffer Tipy.Lib

/-! ## What a segment says -/

/-- The payload is the bytes of the stream at the place of the sequence number. -/
def Tells (iss : Int) (stream : List UInt8) (seg : TxTcp) : Prop :=
  seg.data = [] ∨ ∃ k, seg.seq = seqOf iss k ∧ k + seg.data.length ≤ stream.length ∧
    seg.data = slice stream k (k + seg.data.length)

/-- The segment acknowledges what comes before `n`, and neither opens nor resets the connection. -/
structure Answers (n : Int) (seg : TxTcp) : Prop where
  ack : seg.ack = true
  syn : seg.syn = false
  rst : seg.rst = false
  ackSeq : seg.ackSeq = n

/-- A segment of the stream with an acknowledgement. -/
structure Speaks (iss : Int) (stream : List UInt8) (n : Int) (seg : TxTcp) : Prop where
  tells : Tells iss stream seg
  answers : Answers n seg

/-- An acknowledgement and nothing else. -/
structure PureAck (n : Int) (seg : TxTcp) : Prop where
  data : seg.data = []
  fin : seg.fin = false
  answers : Answers n seg

theorem slice_append_of_le {s t : List UInt8} {a b : Nat} (h : b ≤ s.length) :
    slice (s ++ t) a b = slice s a b := by
  unfold slice
  rw [List.take_append_of_le_length h]

theorem Tells.mono {iss : Int} {stream : List UInt8} {seg : TxTcp} (h : Tells iss stream seg)
    (more : List UInt8) : Tells iss (stream ++ more) seg := by
  rcases h with h | ⟨k, hseq, hle, hdata⟩
  · exact Or.inl h
  · refine Or.inr ⟨k, hseq, ?_, ?_⟩
    · rw [List.length_append]
      omega
    · rw [slice_append_of_le hle]
      exact hdata

theorem length_slice {s : List UInt8} {a b : Nat} (h : b ≤ s.length) :
    (slice s a b).length = b - a := by
  simp [slice, h]

/-- The two parts of a stretch of the stream. -/
theorem slice_split {s xs ys : List UInt8} {a b : Nat} (h : slice s a b = xs ++ ys)
    (hb : b ≤ s.length) (hab : a ≤ b) :
    xs = slice s a (a + xs.length) ∧ ys = slice s (a + xs.length) b ∧
        a + xs.length + ys.length = b := by
  have hlen := congrArg List.length h
  rw [length_slice hb, List.length_append] at hlen
  refine ⟨?_, ?_, by omega⟩
  · have htake := congrArg (List.take xs.length) h
    rw [List.take_left] at htake
    unfold slice at htake ⊢
    rw [List.take_drop, List.take_take, Nat.min_eq_left (by omega)] at htake
    exact htake.symm
  · have hdrop := congrArg (List.drop xs.length) h
    rw [List.drop_left] at hdrop
    rw [← hdrop]
    unfold slice
    rw [List.drop_drop]

/-! ## Sending -/

section Send

variable {iss n : Int} {stream bytes : List UInt8} {E : Nat} {c c₁ : Conn}

/-- **The rule of the loop, by the bytes left.** `I bytes` holds with `bytes` left. A segment
without FIN takes the first of them and one with the FIN takes them all; `J` is what is left of `I`
in the end, whether or not the loop returns. -/
theorem txTurns_bytes_rule (next : Option STATES) (wantFin : Bool) {I : List UInt8 → Conn → Prop}
    {J : Conn → Prop} (hseg : ∀ c seg rest, I (seg ++ rest) c → I rest (c.afterSegment seg false))
    (hlast : ∀ c seg, I seg c → J (c.afterSegment seg true)) (hleave : ∀ bytes c, I bytes c → J c)
    (hsent : ∀ c, J c → J (c.setSnd { c.tcb.snd with sentFin := true }))
    (hstate : ∀ c s, J c → J (c.changeState s)) (hstart : ∀ c, J c →
    J c.startRtxTimer) (turns : Nat)
    {c : Conn} {data : List (List UInt8)} {dlen sndWnd counter : Nat} (hc : I data.flatten c) :
    J (txTurns next wantFin turns c data dlen sndWnd counter).st := by
  induction turns generalizing c data dlen sndWnd counter with
  | zero =>
    unfold txTurns
    split
    · exact hstart c (hleave _ c hc)
    · exact hleave _ c hc
  | succ turns ih =>
    unfold txTurns
    have hbytes := (generateSegmentPayload_bytes (min (min c.tcb.snd.remoteMss sndWnd) dlen) data).1
    generalize generateSegmentPayload (min (min c.tcb.snd.remoteMss sndWnd) dlen)
      data = g at hbytes ⊢
    obtain ⟨seg, rest⟩ := g
    simp only at hbytes ⊢
    split
    · exact hstart c (hleave _ c hc)
    split
    · exact hleave _ c hc
    rw [← hbytes] at hc
    cases hshould : wantFin && rest.isEmpty with
    | true =>
      have hempty : rest = [] := by simpa using (Bool.and_eq_true_iff.1 hshould).2
      rw [hempty, List.flatten_nil, List.append_nil] at hc
      refine hstart _ ?_
      have hfin := hsent _ (hlast c seg hc)
      cases next with
      | none => exact hfin
      | some s => exact hstate _ s hfin
    | false =>
      have hrest := hseg c seg _ hc
      simp only [Bool.false_eq_true, if_false]
      split
      · exact hstart _ (hleave _ _ hrest)
      split
      · exact hstart _ (hleave _ _ hrest)
      · exact ih hrest

/-- What the loop has done when `bytes` are left, the last of them at position `E`. -/
structure Speaking (iss : Int) (stream : List UInt8) (n : Int) (E : Nat)
    (out : List (SockId × TxTcp)) (bytes : List UInt8) (c : Conn) : Prop where
  out : Emits (Speaks iss stream n) out c.core.out
  rcvNxt : c.tcb.rcv.rcvNxt = n
  sndNxt : c.tcb.snd.sndNxt = seqOf iss (E - bytes.length)
  le : bytes.length ≤ E
  bytes_eq : slice stream (E - bytes.length) E = bytes

/-- A data segment at the front of what is left. -/
theorem Speaking.dataSegment {out : List (SockId × TxTcp)} {seg rest : List UInt8}
    (h : Speaking iss stream n E out (seg ++ rest) c) (hE : E ≤ stream.length) (fin : Bool) :
    Speaks iss stream n (c.dataSegment seg fin) := by
  obtain ⟨-, hrcv, hnxt, hle, hbytes⟩ := h
  obtain ⟨hseg, -, hend⟩ := slice_split hbytes hE (Nat.sub_le _ _)
  exact ⟨Or.inr ⟨_, hnxt, by change _ + seg.length ≤ _; omega, hseg⟩, rfl, rfl, rfl, hrcv⟩

theorem Speaking.emits {out : List (SockId × TxTcp)} {seg rest : List UInt8}
    (h : Speaking iss stream n E out (seg ++ rest) c) (hE : E ≤ stream.length) (fin : Bool) :
    Emits (Speaks iss stream n) out (c.afterSegment seg fin).core.out := by
  rw [afterSegment_out]
  exact h.out.trans (.append _ _ (h.dataSegment hE fin))

theorem Speaking.segment {out : List (SockId × TxTcp)} {seg rest : List UInt8}
    (h : Speaking iss stream n E out (seg ++ rest) c) (hE : E ≤ stream.length) :
    Speaking iss stream n E out rest (c.afterSegment seg false) := by
  have hout := h.emits hE false
  obtain ⟨-, hrcv, hnxt, hle, hbytes⟩ := h
  obtain ⟨-, hrest, hend⟩ := slice_split hbytes hE (Nat.sub_le _ _)
  have hpos : E - (seg ++ rest).length + seg.length = E - rest.length := by omega
  refine ⟨hout, by rw [afterSegment_rcv, hrcv], ?_, by omega, ?_⟩
  · rw [afterSegment_snd]
    simp only [hnxt, Bool.toInt_false, add_zero]
    rw [← hpos]
    unfold seqOf
    push_cast
    omega
  · rw [← hpos]
    exact hrest.symm

/-- **`_tx_loop`**, when the views hold the stream up to position `E`. -/
theorem txLoop_speaks {data : List (List UInt8)} (next : Option STATES) (shutReq closeReq : Bool)
    (hopen : ¬ c.ActiveCloseTx closeReq) (hle : data.flatten.length ≤ E)
    (hnxt : c.tcb.snd.sndNxt = seqOf iss (E - data.flatten.length)) (hE : E ≤ stream.length)
    (hdata : slice stream (E - data.flatten.length) E = data.flatten) :
    Emits (Speaks iss stream c.tcb.rcv.rcvNxt) c.core.out
      (txLoop c data next shutReq closeReq).st.core.out := by
  unfold txLoop
  simp only [if_neg hopen]
  refine txTurns_bytes_rule next _ (I := Speaking iss stream c.tcb.rcv.rcvNxt E c.core.out)
    (J := fun c' => Emits (Speaks iss stream c.tcb.rcv.rcvNxt) c.core.out c'.core.out)
    (fun c' seg rest h => h.segment hE) (fun c' seg h => ?_) (fun _ _ h => h.out) (fun _ h => h)
    (fun _ _ h => h) (fun c' h => by simpa using h) _ ⟨.refl _ _, rfl, hnxt, hle, hdata⟩
  rw [← List.append_nil seg] at h
  exact h.emits hE true

/-- The buffer was drained and `rcv_nxt` is where it was. -/
theorem Conn.DrainsTo.rcvNxt (h : c.DrainsTo c₁) : c₁.tcb.rcv.rcvNxt = c.tcb.rcv.rcvNxt := by
  rcases h with rfl | rfl
  · rfl
  · rfl

/-- A send handler on each of its paths. -/
theorem TxPath.speaks {next : Option STATES} {shutReq closeReq : Bool} {o : Outcome}
    (hpath : TxPath c c₁ next shutReq closeReq o) (hd : c.DrainsTo c₁)
    (hlinger : c.tcb.req.soLinger ≠ some SO_LINGER_ON) {V : Nat} (hV : V ≤ stream.length)
    (hnxt : (drainSndBuf c.tcb.snd).1 ≠ [] → c.tcb.snd.sndNxt = seqOf iss V)
    (hdata : (drainSndBuf c.tcb.snd).1.flatten =
      slice stream V (V + min (min TCP_MAX_TX_BYTES c.tcb.snd.sndWnd) (stream.length - V))) :
    Emits (Speaks iss stream c.tcb.rcv.rcvNxt) c.core.out o.st.core.out := by
  have hdr := hd.drained
  have hrcv := hd.rcvNxt
  rw [← hdr.out, ← hrcv]
  have hack : ∀ fin :
      Bool, Speaks iss stream c₁.tcb.rcv.rcvNxt { c₁.header with ack := true, fin := fin } :=
    fun fin => ⟨Or.inl rfl, rfl, rfl, rfl, rfl⟩
  cases hpath with
  | abort _ _ close => exact absurd close.2 hlinger
  | fin c' _ _ _ _ sent =>
    rcases sent with rfl | rfl
    · exact .sendFin c₁ next (hack true)
    · exact .sendFin c₁ next (hack true)
  | quiet c' _ _ _ sent =>
    rcases sent with rfl | rfl
    · exact .refl _ _
    · exact .append _ _ (hack false)
  | loop ready =>
    have hopen : ¬ c₁.ActiveCloseTx closeReq := by
      rintro ⟨-, hon⟩
      rw [hdr.req] at hon
      exact hlinger hon
    have hlen : (drainSndBuf c.tcb.snd).1.flatten.length =
        min (min TCP_MAX_TX_BYTES c.tcb.snd.sndWnd) (stream.length - V) := by
      rw [hdata, length_slice (by omega)]
      omega
    refine txLoop_speaks (E := V + (drainSndBuf c.tcb.snd).1.flatten.length) next shutReq
      closeReq hopen
      (Nat.le_add_left _ _) ?_ (by omega) ?_
    · rw [Nat.add_sub_cancel, hdr.snd]
      exact hnxt ready
    · rw [Nat.add_sub_cancel, hlen]
      exact hdata.symm

/-- **A send handler**, in every phase, when the ring holds what is not acknowledged. -/
theorem Phase.tx_speaks {F : Nat} (h : Phase iss stream.length F c)
    (hlinger : c.tcb.req.soLinger ≠ some SO_LINGER_ON)
    (hheld : c.tcb.state.Streaming ∨ c.tcb.state.Ending →
      Holds c.tcb.snd.sndBuf.ring DEFAULT_SEND_BUFF stream F stream.length) :
    Emits (Speaks iss stream c.tcb.rcv.rcvNxt) c.core.out c.tx.st.core.out := by
  -- what is drained is the stream from the read position on
  have hdrain : ∀ {V : Nat}, (c.tcb.state.Streaming ∨ c.tcb.state.Ending) → F ≤ V →
      RingAt stream.length F V c.tcb.snd.sndBuf → (drainSndBuf c.tcb.snd).1.flatten =
        slice stream V (V + min (min TCP_MAX_TX_BYTES c.tcb.snd.sndWnd) (stream.length - V)) := by
    intro V hs hF hring
    have hle := hring.vr_le
    rw [drainSndBuf_flatten, drainLen, hring.ready_eq, hring.size_eq, hring.vr_eq, loadCyc_mod,
      (hheld hs).loadCyc hF (by omega)]
    unfold slice
    rw [List.take_drop]
  cases h with
  | streaming R T state flow ring le sentFin noFin =>
    obtain ⟨c₁, hd, hpath⟩ := Conn.tx_streaming state
    exact hpath.speaks hd hlinger ring.vr_le (fun _ => flow.seq.nxt_eq)
      (hdrain (Or.inl state) flow.seq.una_le ring)
  | ending R state flow ring le sentFin wanted pos =>
    obtain ⟨c₁, hd, hpath⟩ := Conn.tx_ending state
    have hF := flow.seq.una_le
    refine hpath.speaks hd hlinger ring.vr_le (fun hready => ?_)
      (hdrain (Or.inr state) (by omega) ring)
    -- bytes are ready only after a roll back
    have hne : stream.length ≠ min R stream.length := fun heq =>
      hready ((drainSndBuf_spec c.tcb.snd ring).1.2 heq)
    rw [Nat.min_eq_left (by omega)]
    exact flow.seq.nxt_eq
  | ended state =>
    rcases Conn.tx_ended (c := c) state with htx | ⟨-, hab, -⟩ | htx
    · rw [htx]
      exact .refl _ _
    · exact absurd hab.2 hlinger
    · rw [htx]
      exact .refl _ _

end Send

/-! ## Receiving -/

namespace Emits

variable {n : Int} {out : List (SockId × TxTcp)} {c : Conn}

theorem pureAck (h : Emits (PureAck n) out c.core.out) (hn : c.tcb.rcv.rcvNxt = n) :
    Emits (PureAck n) out c.sendAck.core.out :=
  h.trans (.append _ _ ⟨rfl, rfl, rfl, rfl, rfl, hn⟩)

theorem pureChallenge (h : Emits (PureAck n) out c.core.out) (hn : c.tcb.rcv.rcvNxt = n) :
    Emits (PureAck n) out c.sendChallengeAck.core.out := by
  refine h.trans ?_
  unfold Conn.sendChallengeAck
  simp only
  split
  · exact .refl _ _
  · exact .append _ _ ⟨rfl, rfl, rfl, rfl, rfl, hn⟩

/-- Nothing was sent. -/
theorem of_eq (P : TxTcp → Prop) {out out' : List (SockId × TxTcp)} (h : out' = out) :
    Emits P out out' := by
  rw [h]
  exact .refl P out

end Emits

section Answer

variable {c : Conn} {p : Segment}

theorem finWait1Accept_answers :
    Emits (PureAck (c.finWait1Accept p).tcb.rcv.rcvNxt) c.core.out
        (c.finWait1Accept p).core.out := by
  unfold Conn.finWait1Accept
  simp only
  split <;> split
  · exact .pureAck (.of_eq _ (by simp)) rfl
  · exact .of_eq _ (by simp)
  · exact .pureAck (.of_eq _ (by simp)) rfl
  · exact .of_eq _ (by simp)

theorem finWait2Accept_answers :
    Emits (PureAck (c.finWait2Accept p).tcb.rcv.rcvNxt) c.core.out
        (c.finWait2Accept p).core.out := by
  unfold Conn.finWait2Accept
  simp only
  refine .pureAck (.of_eq _ ?_) rfl
  split <;> split <;> simp

/-- **What a segment is answered with** after the handshake, on a connection that was not closed:
nothing but acknowledgements of `rcv_nxt`. -/
theorem rx_answers (packet : TCPParser) (hopen : c.tcb.state.Opened)
    (hclose : c.tcb.req.closeRequested = false) (hrst : packet.segment.rst = false) :
    Emits (PureAck (c.rx packet).st.tcb.rcv.rcvNxt) c.core.out (c.rx packet).st.core.out := by
  have hkeeps := hRxSeq_keeps c.tcb.rcv packet.segment
  have hno : ∀ q, ¬ c.ActiveCloseRx q := by
    rintro q ⟨h, -⟩
    rw [hclose] at h
    cases h
  unfold Conn.rx
  cases hs : c.tcb.state with
  | listen | synSent | synRecv => exact absurd hopen (by rw [hs]; decide)
  | estab =>
    simp only [Outcome.ok_st, Conn.rxEstab, hkeeps.rst, hrst, Bool.false_eq_true, if_false]
    split
    · split
      · exact .pureChallenge (.refl _ _) (by simp)
      · refine .of_eq _ ?_
        simp only [Conn.estabAccept]
        split <;> split <;> simp
    · exact .of_eq _ rfl
    · exact .pureChallenge (.refl _ _) (by simp)
  | finWait1 =>
    simp only [Outcome.ok_st, Conn.rxFinWait1, hkeeps.rst, hrst, Bool.false_eq_true, if_false,
      Conn.setRcv_activeCloseRx, hno]
    split
    · split
      · exact .pureChallenge (.refl _ _) (by simp)
      · exact finWait1Accept_answers (c := c.setRcv (hRxSeq c.tcb.rcv packet.segment).rcv)
    · exact .pureAck (.refl _ _) (by simp)
    · exact .pureChallenge (.refl _ _) (by simp)
  | finWait2 =>
    simp only [Outcome.ok_st, Conn.rxFinWait2, hkeeps.rst, hrst, Bool.false_eq_true, if_false,
      Conn.setRcv_activeCloseRx, hno]
    split
    · split
      · exact .pureChallenge (.refl _ _) (by simp)
      · exact finWait2Accept_answers (c := c.setRcv (hRxSeq c.tcb.rcv packet.segment).rcv)
    · exact .pureAck (.refl _ _) (by simp)
    · exact .pureChallenge (.refl _ _) (by simp)
  | closeWait =>
    simp only [Outcome.ok_st, Conn.rxCloseWait, hrst, Bool.false_eq_true, if_false, hno]
    split_ifs
    · exact .pureChallenge (.refl _ _) (by simp)
    · exact .of_eq _ (by simp)
    · exact .of_eq _ rfl
  | closing =>
    simp only [Outcome.ok_st, Conn.rxClosing, hrst, Bool.false_eq_true, if_false, hno]
    split_ifs
    · exact .pureChallenge (.refl _ _) (by simp)
    · exact .of_eq _ (by simp)
    · exact .pureAck (.refl _ _) (by simp)
  | lastAck =>
    simp only [Outcome.ok_st, Conn.rxLastAck, hrst, Bool.false_eq_true, if_false]
    split_ifs
    · exact .pureChallenge (.refl _ _) (by simp)
    · exact .of_eq _ (by simp)
    · exact .of_eq _ rfl
  | timeWait =>
    simp only [Outcome.ok_st, Conn.rxTimeWait]
    split
    · have hack : Emits (PureAck c.tcb.rcv.rcvNxt) c.core.out c.sendAck.core.out :=
        .pureAck (.refl _ _) rfl
      simpa using hack
    · exact .refl _ _
  | closed => exact .refl _ _

end Answer

/-! ## The ring -/

/-- The cells of the ring. -/
def SndVars.cells (s : SndVars) : Nat → UInt8 := s.sndBuf.ring

section Cells

variable {c : Conn} {p : Segment} {s : SndVars}

@[simp] theorem hRxAck_cells : (hRxAck s p).1.cells = s.cells := by
  unfold hRxAck
  split <;> rfl

@[simp] theorem hRxWnd_cells : (hRxWnd s p).cells = s.cells := by
  unfold hRxWnd
  split <;> rfl

@[simp] theorem freeSndBuf_cells (n : Int) : (freeSndBuf s n).cells = s.cells := rfl

@[simp] theorem ackBehindFin_cells : (ackBehindFin s p).cells = s.cells := by
  unfold ackBehindFin
  split_ifs <;> simp

/-- A segment leaves the ring as it is. -/
theorem rx_cells (packet : TCPParser) (hopen : c.tcb.state.Opened) :
    (c.rx packet).st.tcb.snd.cells = c.tcb.snd.cells := by
  unfold Conn.rx
  cases hs : c.tcb.state with
  | listen | synSent | synRecv => exact absurd hopen (by rw [hs]; decide)
  | estab =>
    simp only [Outcome.ok_st, Conn.rxEstab]
    split
    · split_ifs
      · simp
      · simp
      · rw [Conn.estabAccept_snd, Conn.estabAck_snd]
        split <;> simp
    · simp
    · simp
  | finWait1 =>
    simp only [Outcome.ok_st, Conn.rxFinWait1]
    split
    · split_ifs
      · simp
      · simp
      · simp
      · rw [Conn.finWait1Accept_snd, Conn.finWait1Ack_snd]
        simp
    · simp
    · simp
  | finWait2 =>
    simp only [Outcome.ok_st, Conn.rxFinWait2]
    split
    · split_ifs
      · simp
      · simp
      · simp
      · simp only [Conn.finWait2Accept]
        split <;> split <;> simp
    · simp
    · simp
  | closeWait =>
    simp only [Outcome.ok_st, Conn.rxCloseWait]
    split_ifs
    · simp
    · simp
    · simp
    · simp [Conn.closeWaitAck_snd]
    · simp
  | closing =>
    simp only [Outcome.ok_st, Conn.rxClosing]
    split_ifs
    · simp
    · simp
    · simp
    · simp [Conn.closingAck_snd]
    · simp
  | lastAck =>
    simp only [Outcome.ok_st, Conn.rxLastAck]
    split_ifs
    · simp
    · simp
    · simp [Conn.lastAckAck_snd]
    · rfl
  | timeWait => simp [Conn.rxTimeWait_snd]
  | closed => rfl

theorem sendFin_cells (next : Option STATES) :
    (c.sendFin next).tcb.snd.cells = c.tcb.snd.cells := by
  rw [Conn.sendFin_tcb]
  rfl

/-- A send handler reads the ring only. -/
theorem tx_cells : c.tx.st.tcb.snd.cells = c.tcb.snd.cells := by
  refine Conn.tx_inv (I := fun c' => c'.tcb.snd.cells = c.tcb.snd.cells) rfl ?_ ?_ ?_ ?_ ?_ ?_ ?_ ?_
  · simp [Conn.txSynSent, SndVars.cells]
  · simp [Conn.txSynRecv, SndVars.cells]
  · rintro c₁ (rfl | rfl)
    · rfl
    · rfl
  · exact fun c' h => by simpa using h
  · exact fun c' next h => (sendFin_cells next).trans h
  · exact fun c' h => by simpa using h
  · exact fun c' h => by simpa using h
  · intro c' data next shutReq closeReq h
    refine txLoop_inv (I := fun d => d.tcb.snd.cells = c.tcb.snd.cells) h ?_ ?_ ?_ ?_ ?_
    · exact fun d h => by simpa using h
    · intro d data fin h
      rw [afterSegment_snd]
      exact h
    · exact fun d h => h
    · exact fun d s _ h => h
    · exact fun d h => by simpa using h

end Cells

/-! ## The states -/

theorem Phase.opened {iss : Int} {N F : Nat} {c : Conn} (h : Phase iss N F c) :
    c.tcb.state.Opened := by
  cases h with
  | streaming R T state => exact Or.inl state
  | ending R state => exact Or.inr (Or.inl state)
  | ended state => exact Or.inr (Or.inr state)

/-- After the handshake no way leads back from the ended states. -/
theorem STATES.Opened.not_ended_of_successors {s s' : STATES} (h : s.Opened)
    (hs : s' ∈ s.successors) (hs' : s'.Streaming ∨ s'.Ending) : s.Streaming ∨ s.Ending := by
  revert h hs hs'
  cases s <;> cases s' <;> decide

/-! ## Runs -/

/-- A connection, the bytes that `tcp_send` put in the send buffer, in order, and the number of
sequence numbers acknowledged after the SYN. -/
structure StreamSend where
  o : Outcome
  enqueued : List UInt8
  acked : Nat

namespace StreamSend

/-- The bytes an event puts in the send buffer. -/
def taken (c : Conn) : ConnEvent → List UInt8
  | .usr (.tcpSend data) => if data = [] then [] else data.take (c.tcb.snd.sndBuf.enqueue data).2
  | _ => []

def step (t : StreamSend) (e : ConnEvent) : StreamSend where
  o := t.o.step e
  enqueued := t.enqueued ++ taken t.o.st e
  acked := ackedTo t.acked t.o.st.tcb.snd (t.o.step e).st.tcb.snd

/-- The same run with the bytes counted. -/
def toSendRun (t : StreamSend) : SendRun := ⟨t.o, t.enqueued.length, t.acked⟩

/-- What `tcp_send` puts in the buffer fits beside what is not acknowledged. -/
def Fits (t : StreamSend) (e : ConnEvent) : Prop :=
  (t.enqueued ++ taken t.o.st e).length < t.acked + DEFAULT_SEND_BUFF

/-- The condition on a `SEND` or `RTX` that can send a FIN. -/
def Drains (t : StreamSend) : ConnEvent → Prop
  | .tx => t.o.fault = none → DrainsAll t.o.st.tcb
  | .rtx => t.o.fault = none → DrainsAll t.o.st.prepareRtx.tcb
  | _ => True

/-- The condition on an event: nothing is sent after the stream was closed, nothing is written over
what is not acknowledged, and a FIN goes out with the last byte. -/
structure Admits (t : StreamSend) (e : ConnEvent) : Prop where
  before : t.toSendRun.SendsBeforeClose e
  fits : t.Fits e
  drains : t.Drains e

instance (t : StreamSend) (e : ConnEvent) : Decidable (t.Fits e) :=
  inferInstanceAs (Decidable (_ < _))

instance (t : StreamSend) : (e : ConnEvent) → Decidable (t.Drains e)
  | .tx => inferInstanceAs (Decidable (_ → _))
  | .rtx => inferInstanceAs (Decidable (_ → _))
  | .rx _ | .usr _ => .isTrue trivial

instance (t : StreamSend) (e : ConnEvent) : Decidable (t.Admits e) :=
  decidable_of_iff (t.toSendRun.SendsBeforeClose e ∧ t.Fits e ∧ t.Drains e)
    ⟨fun ⟨h₁, h₂, h₃⟩ => ⟨h₁, h₂, h₃⟩, fun h => ⟨h.before, h.fits, h.drains⟩⟩

/-- The invariant: the counts are those of `Good`, the ring holds what is not acknowledged, and
every segment tells the stream. -/
structure Inv (iss : Int) (t : StreamSend) : Prop where
  good : Good iss t.enqueued.length t.acked t.o
  room : t.enqueued.length < t.acked + DEFAULT_SEND_BUFF
  held : t.o.fault = none → t.o.st.tcb.state.Streaming ∨ t.o.st.tcb.state.Ending →
    Holds t.o.st.tcb.snd.cells DEFAULT_SEND_BUFF t.enqueued t.acked t.enqueued.length
  told : ∀ e ∈ t.o.st.core.out, Tells iss t.enqueued e.2

variable {iss : Int} {t : StreamSend}

theorem length_taken (c : Conn) (e : ConnEvent) : (taken c e).length = SendRun.enqueued c e := by
  cases e with
  | usr q =>
    cases q with
    | tcpSend data =>
      simp only [taken, SendRun.enqueued]
      split
      · rfl
      · have hle : (c.tcb.snd.sndBuf.enqueue data).2 ≤ data.length := by
          rw [RRingBuffer.enqueue_eq]
          exact Nat.min_le_left _ _
        rw [List.length_take, Nat.min_eq_left hle]
    | _ => rfl
  | _ => rfl

theorem toSendRun_step (t : StreamSend) (e : ConnEvent) :
    (t.step e).toSendRun = t.toSendRun.step e := by
  simp only [toSendRun, step, SendRun.step, List.length_append, length_taken]

theorem Admits.sendRun {e : ConnEvent} (h : t.Admits e)
    (hroom : t.enqueued.length < t.acked + DEFAULT_SEND_BUFF) :
    t.toSendRun.SendsBeforeClose e ∧ t.toSendRun.Admits e := by
  refine ⟨h.before, ?_⟩
  have hdrains := h.drains
  cases e with
  | tx => exact hdrains
  | rtx => exact fun hf => ⟨hdrains hf, fun _ => hroom⟩
  | rx packet => trivial
  | usr q => trivial

/-- The count of what is acknowledged never goes back. -/
theorem acked_le (t : StreamSend) (e : ConnEvent) : t.acked ≤ (t.step e).acked :=
  Nat.le_add_right _ _

/-! ### The steps -/

/-- What was told stays told. -/
theorem Inv.told_step (h : t.Inv iss) {e : ConnEvent}
    (hnew : Emits (Tells iss (t.enqueued ++ taken t.o.st e)) t.o.st.core.out
    (t.o.step e).st.core.out) :
    ∀ x ∈ (t.step e).o.st.core.out, Tells iss (t.step e).enqueued x.2 := by
  obtain ⟨new, hout, htells⟩ := hnew
  intro x hx
  simp only [step] at hx ⊢
  rw [hout] at hx
  rcases List.mem_append.1 hx with hx | hx
  · exact (h.told x hx).mono _
  · exact htells x hx

/-- What the event sends tells the stream. -/
theorem Inv.emits (h : t.Inv iss) {e : ConnEvent} (hadm : t.Admits e) :
    Emits (Tells iss (t.enqueued ++ taken t.o.st e)) t.o.st.core.out (t.o.step e).st.core.out := by
  cases e with
  | usr q =>
    refine .of_eq _ ?_
    cases q with
    | tcpSend data =>
      simp only [Outcome.step, UserRequest.apply, Conn.tcpSend]
      split <;> rfl
    | tcpRecv n =>
      simp only [Outcome.step, UserRequest.apply, Conn.tcpRecv]
      split <;> rfl
    | _ => rfl
  | rx packet =>
    cases hf : t.o.fault with
    | some f => exact .of_eq _ (by simp only [Outcome.step, hf])
    | none =>
      obtain ⟨-, hsent, hrecv⟩ := (h.good.phase hf).state_cases
      have hstep : t.o.step (.rx packet) = t.o.st.rx packet := by
        simp only [Outcome.step, hf, ConnEvent.handler]
      rw [hstep]
      exact (rx_emits t.o.st packet hsent hrecv).mono fun _ hx => Or.inl hx.1.1
  | tx =>
    cases hf : t.o.fault with
    | some f => exact .of_eq _ (by simp only [Outcome.step, hf])
    | none =>
      have hstep : t.o.step .tx = t.o.st.tx := by simp only [Outcome.step, hf, ConnEvent.handler]
      rw [hstep]
      simp only [taken, List.append_nil]
      exact ((h.good.phase hf).tx_speaks h.good.linger (h.held hf)).mono fun _ hx => hx.tells
  | rtx =>
    cases hf : t.o.fault with
    | some f => exact .of_eq _ (by simp only [Outcome.step, hf])
    | none =>
      have hstep : t.o.step .rtx = t.o.st.prepareRtx.tx := by
        simp only [Outcome.step, hf, ConnEvent.handler]
        rfl
      have hgood := h.good
      rw [Outcome.eq_ok hf] at hgood
      rw [hstep]
      simp only [taken, List.append_nil]
      exact (((hgood.prepareRtx fun _ => h.room).phase rfl).tx_speaks hgood.linger (h.held hf)).mono
        fun _ hx => hx.tells

/-- Bytes of the application go behind the ones in the ring. -/
theorem Inv.held_send (h : t.Inv iss) {data : List UInt8} (hadm : t.Admits (.usr (.tcpSend data)))
    (hf : t.o.fault = none) (hne : data ≠ [])
    (hstate : t.o.st.tcb.state.Streaming ∨ t.o.st.tcb.state.Ending) :
    Holds (t.o.st.tcb.snd.sndBuf.enqueue data).1.ring DEFAULT_SEND_BUFF
      (t.enqueued ++ taken t.o.st (.usr (.tcpSend data))) t.acked
      (t.enqueued ++ taken t.o.st (.usr (.tcpSend data))).length := by
  have hfits := hadm.fits
  have hheld := h.held hf hstate
  obtain ⟨hF, hsize, hvw⟩ : t.acked ≤ t.enqueued.length ∧
    t.o.st.tcb.snd.sndBuf.size = DEFAULT_SEND_BUFF ∧
      t.o.st.tcb.snd.sndBuf.vw = t.enqueued.length % DEFAULT_SEND_BUFF := by
    cases h.good.phase hf with
    | streaming R T state flow ring le sentFin noFin =>
      have hle := flow.seq.una_le
      have hnxt := flow.seq.nxt_le
      exact ⟨by omega, ring.size_eq, ring.vw_eq⟩
    | ending R state flow ring le sentFin wanted pos => exact ⟨le, ring.size_eq, ring.vw_eq⟩
    | ended state =>
      have hdisj := t.o.st.tcb.state.streaming_ending_ended_disjoint
      rcases hstate with hs | hs
      · exact absurd ⟨hs, state⟩ hdisj.2.1
      · exact absurd ⟨hs, state⟩ hdisj.2.2
  simp only [Fits, taken, if_neg hne, RRingBuffer.enqueue_eq, List.length_append] at hfits ⊢
  have hring : (t.o.st.tcb.snd.sndBuf.pushed data).ring = storeCyc t.o.st.tcb.snd.cells
      t.o.st.tcb.snd.sndBuf.size t.o.st.tcb.snd.sndBuf.vw
        (data.take (t.o.st.tcb.snd.sndBuf.room data)) := rfl
  rw [hring, hsize, hvw]
  exact hheld.storeCyc _ (by decide) hF (by omega)

/-- What is held stays held by an event that leaves the ring. -/
theorem Inv.held_same (h : t.Inv iss) {e : ConnEvent} (hf : t.o.fault = none)
    (htaken : taken t.o.st e = []) (hcells : (t.o.step e).st.tcb.snd.cells = t.o.st.tcb.snd.cells)
    (hstate : (t.o.step e).st.tcb.state.Streaming ∨ (t.o.step e).st.tcb.state.Ending →
      t.o.st.tcb.state.Streaming ∨ t.o.st.tcb.state.Ending)
    (hafter : (t.o.step e).st.tcb.state.Streaming ∨ (t.o.step e).st.tcb.state.Ending) :
    Holds (t.o.step e).st.tcb.snd.cells DEFAULT_SEND_BUFF (t.enqueued ++ taken t.o.st e)
      (t.step e).acked (t.enqueued ++ taken t.o.st e).length := by
  rw [htaken, hcells, List.append_nil]
  exact (h.held hf (hstate hafter)).mono (t.acked_le e)

/-- The ring after an event. -/
theorem Inv.held_step (h : t.Inv iss) {e : ConnEvent} (hadm : t.Admits e) (hf : t.o.fault = none)
    (hafter : (t.o.step e).st.tcb.state.Streaming ∨ (t.o.step e).st.tcb.state.Ending) :
    Holds (t.o.step e).st.tcb.snd.cells DEFAULT_SEND_BUFF (t.enqueued ++ taken t.o.st e)
      (t.step e).acked (t.enqueued ++ taken t.o.st e).length := by
  have hopen := (h.good.phase hf).opened
  cases e with
  | rx packet =>
    have hstep : t.o.step (.rx packet) = t.o.st.rx packet := by
      simp only [Outcome.step, hf, ConnEvent.handler]
    refine h.held_same hf rfl ?_ ?_ hafter
    · rw [hstep]
      exact rx_cells packet hopen
    · rw [hstep]
      exact hopen.not_ended_of_successors (t.o.st.rx_next packet)
  | tx =>
    have hstep : t.o.step .tx = t.o.st.tx := by simp only [Outcome.step, hf, ConnEvent.handler]
    refine h.held_same hf rfl ?_ ?_ hafter
    · rw [hstep]
      exact tx_cells
    · rw [hstep]
      exact hopen.not_ended_of_successors t.o.st.tx_next
  | rtx =>
    have hstep : t.o.step .rtx = t.o.st.prepareRtx.tx := by
      simp only [Outcome.step, hf, ConnEvent.handler]
      rfl
    refine h.held_same hf rfl ?_ ?_ hafter
    · rw [hstep]
      exact tx_cells
    · rw [hstep]
      exact hopen.not_ended_of_successors t.o.st.prepareRtx.tx_next
  | usr q =>
    cases q with
    | tcpSend data =>
      by_cases hne : data = []
      · subst hne
        exact h.held_same hf rfl rfl id hafter
      · simp only [Outcome.step, UserRequest.apply, Conn.tcpSend, if_neg hne] at hafter ⊢
        refine (h.held_send hadm hf hne hafter).mono (t.acked_le _)
    | tcpRecv n =>
      have hsnd : (t.o.st.tcpRecv n).tcb.snd = t.o.st.tcb.snd ∧
          (t.o.st.tcpRecv n).tcb.state = t.o.st.tcb.state := by
        unfold Conn.tcpRecv
        split <;> exact ⟨rfl, rfl⟩
      refine h.held_same hf rfl ?_ ?_ hafter
      · exact congrArg SndVars.cells hsnd.1
      · exact fun hs => hsnd.2 ▸ hs
    | tcpClose => exact h.held_same hf rfl rfl id hafter
    | tcpShutdown => exact h.held_same hf rfl rfl id hafter
    | tick ns => exact h.held_same hf rfl rfl id hafter

/-- **One event** keeps the invariant. -/
theorem Inv.step (h : t.Inv iss) {e : ConnEvent} (hadm : t.Admits e) : (t.step e).Inv iss := by
  have hgood := SendRun.good_step (t := t.toSendRun) h.good (hadm.sendRun h.room)
  rw [← toSendRun_step] at hgood
  refine ⟨hgood, ?_, ?_, h.told_step (h.emits hadm)⟩
  · have hle := t.acked_le e
    have hfits := hadm.fits
    unfold Fits at hfits
    simp only [StreamSend.step] at hle ⊢
    omega
  · exact fun hf hafter => h.held_step hadm (Outcome.fault_of_step hf) hafter

theorem Inv.fresh {c : Conn} (hfresh : FreshEstab c)
    (hlinger : c.tcb.req.soLinger ≠ some SO_LINGER_ON) :
    Inv c.tcb.snd.iss ⟨.ok c, [], 0⟩ := by
  refine ⟨hfresh.good hlinger, Nat.zero_lt_succ _, fun _ _ p _ hp =>
    absurd hp (Nat.not_lt_zero p), ?_⟩
  exact fun e he => Or.inl (hfresh.out_eq e he).1

end StreamSend

/-- **Every segment tells the stream.** In every run from a connection that has just been
established, with no `SO_LINGER`, nothing sent after the end of the stream was asked for, nothing
written over what is not acknowledged and the FIN only behind the last byte: the payload of every
segment, first transmission or retransmission, is when `tx_tcp` is called the enqueued bytes at the
place of its sequence number. -/
theorem segments_tell_stream (c : Conn) (hfresh : FreshEstab c)
    (hlinger : c.tcb.req.soLinger ≠ some SO_LINGER_ON) (es : List ConnEvent)
    (hadm : Guarded StreamSend.step StreamSend.Admits ⟨.ok c, [], 0⟩ es) (pre : List ConnEvent)
    (hpre : pre <+: es) :
    let t := run StreamSend.step ⟨.ok c, [], 0⟩ pre
    ∀ e ∈ t.o.st.core.out, Tells c.tcb.snd.iss t.enqueued e.2 :=
  (run_inv (I := StreamSend.Inv c.tcb.snd.iss) (fun _ _ h hok => h.step hok) (.fresh hfresh hlinger)
    (hadm.of_prefix hpre)).told

/-- Three bytes, the first of them acknowledged, a retransmission of the others, one byte more and a
close. -/
theorem segments_tell_stream_four :
    let es := [.usr (.tcpSend [1, 2, 3]), .tx, .rx (.sample 101 1002 0x10 4096 []), .rtx,
      .usr (.tcpSend [4]), .usr .tcpShutdown, .tx]
    let t := run StreamSend.step ⟨.ok sampleEstab.st, [], 0⟩ es
    ∀ e ∈ t.o.st.core.out, Tells sampleEstab.st.tcb.snd.iss t.enqueued e.2 :=
  segments_tell_stream sampleEstab.st (by decide +kernel) (by decide +kernel)
    [.usr (.tcpSend [1, 2, 3]), .tx, .rx (.sample 101 1002 0x10 4096 []), .rtx, .usr (.tcpSend [4]),
      .usr .tcpShutdown, .tx] (by decide +kernel) _ (List.prefix_refl _)

end Tipy.Tcp
