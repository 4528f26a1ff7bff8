import Tipy.Tcp.SndStream

/-!
# Where the send side stands

The log of segments says which bytes of the stream were sent, and `Flow` ties the sequence numbers
to it. `Phase` is the invariant of a connection, state by state: before the FIN the stream is sent
as far as it goes; once the FIN was sent, either everything is in flight or everything was rolled
back.

`_tx_loop` sets the FIN on the last segment of the bytes it was given, and `_drain_snd_buf` gives it
at most `TCP_MAX_TX_BYTES` and a window. When that is all that is ready the FIN is in its place:
this is the condition `DrainsAll`, asked of every `SEND` and `RTX` that can send a FIN.
-/

namespace Tipy.Tcp

open Tipy.Buffer

/-! ## The log of segments -/

/-- The segment carries nothing, or bytes of the stream and possibly the FIN, each with its own
sequence number. -/
def Placed (iss : Int) (N : Nat) (seg : TxTcp) : Prop :=
  seg.data = [] ∧ seg.fin = false ∨
    ∃ k, seg.seq = seqOf iss k ∧ k + seg.data.length ≤ N ∧
      (seg.fin = true → k + seg.data.length = N)

/-- The byte at position `j` was sent. -/
def Covered (iss : Int) (out : List (SockId × TxTcp)) (j : Nat) : Prop :=
  ∃ e ∈ out, ∃ k, e.2.seq = seqOf iss k ∧ k ≤ j ∧ j < k + e.2.data.length

/-- No FIN was sent. -/
def NoFin (out : List (SockId × TxTcp)) : Prop := ∀ e ∈ out, e.2.fin = false

theorem Covered.mono {iss : Int} {out out' : List (SockId × TxTcp)} {j : Nat}
    (h : Covered iss out j) (hsub : ∀ e ∈ out, e ∈ out') : Covered iss out' j := by
  obtain ⟨e, he, hk⟩ := h
  exact ⟨e, hsub e he, hk⟩

theorem Placed.mono {iss : Int} {N N' : Nat} {seg : TxTcp} (h : Placed iss N seg)
    (hfin : seg.fin = false) (hle : N ≤ N') : Placed iss N' seg := by
  rcases h with h | ⟨k, hseq, hlen, -⟩
  · exact Or.inl h
  · exact Or.inr ⟨k, hseq, hlen.trans hle, by simp [hfin]⟩

/-- The sequence numbers stand at positions, and the log shows it: every segment is placed, and all
bytes before `T` were sent. -/
structure Flow (iss : Int) (N F R T : Nat) (c : Conn) : Prop where
  seq : SeqAt iss F R T c.tcb.snd
  placed : ∀ e ∈ c.core.out, Placed iss N e.2
  covered : ∀ j < min T N, Covered iss c.core.out j

/-- What a sending loop leaves alone, and that it only adds to the log, segments without FIN. -/
structure Keeps (c c' : Conn) : Prop where
  sndBuf : c'.tcb.snd.sndBuf = c.tcb.snd.sndBuf
  sentFin : c'.tcb.snd.sentFin = c.tcb.snd.sentFin
  state : c'.tcb.state = c.tcb.state
  req : c'.tcb.req = c.tcb.req
  sub : ∀ e ∈ c.core.out, e ∈ c'.core.out
  noFin : ∀ e ∈ c'.core.out, e ∈ c.core.out ∨ e.2.fin = false

theorem Keeps.refl (c : Conn) : Keeps c c :=
  ⟨rfl, rfl, rfl, rfl, fun _ h => h, fun _ h => Or.inl h⟩

theorem Keeps.segment {c c' : Conn} (h : Keeps c c') (data : List UInt8) :
    Keeps c (c'.afterSegment data false) where
  sndBuf := by rw [afterSegment_snd]; exact h.sndBuf
  sentFin := by rw [afterSegment_snd]; exact h.sentFin
  state := (afterSegment_state _ _ _).trans h.state
  req := (afterSegment_req _ _ _).trans h.req
  sub := by
    intro e he
    rw [afterSegment_out]
    exact List.mem_append_left _ (h.sub e he)
  noFin := by
    intro e he
    rw [afterSegment_out] at he
    rcases List.mem_append.1 he with he | he
    · exact h.noFin e he
    · rw [List.mem_singleton.1 he]
      exact Or.inr rfl

section Sending

variable {iss : Int} {N F R T : Nat} {c : Conn}

/-- Adding a segment that stands at position `R` to the log. -/
theorem covered_append {out : List (SockId × TxTcp)} {id : SockId} {seg : TxTcp} {T' : Nat}
    (hcov : ∀ j < min T N, Covered iss out j) (hseq : seg.seq = seqOf iss R) (hR : R ≤ T)
    (hT : min T' N ≤ max T (R + seg.data.length)) :
    ∀ j < min T' N, Covered iss (out ++ [(id, seg)]) j := by
  intro j hj
  by_cases hlt : j < T
  · exact (hcov j (by omega)).mono fun e he => List.mem_append_left _ he
  · exact ⟨(id, seg), by simp, R, hseq, by omega, by simp only; omega⟩

/-- **One segment** of the stream, with or without the FIN. -/
theorem Flow.segment (h : Flow iss N F R T c) (data : List UInt8) (fin : Bool)
    (hle : R + data.length ≤ N) (hfin : fin = true → R + data.length = N)
    (hlen : data.length ≤ TCP_MAX_TX_BYTES) :
    ∃ T', T' ≤ max T (R + data.length + fin.toNat) ∧
      Flow iss N F (R + data.length + fin.toNat) T' (c.afterSegment data fin) := by
  have hfinN : min (R + data.length + fin.toNat) N ≤ R + data.length := by
    cases fin with
    | false => simp
    | true =>
      have := hfin rfl
      omega
  have hnxt := h.seq.nxt_eq
  have hR := h.seq.nxt_le
  obtain ⟨T', hT', hseq⟩ := h.seq.segment data fin hlen
  refine ⟨T', hT', hseq, ?_, ?_⟩
  · intro e he
    rw [afterSegment_out] at he
    rcases List.mem_append.1 he with he | he
    · exact h.placed e he
    · rw [List.mem_singleton.1 he]
      exact Or.inr ⟨R, hnxt, hle, hfin⟩
  · rw [afterSegment_out]
    refine covered_append h.covered hnxt hR ?_
    have hdata : (c.dataSegment data fin).data = data := rfl
    rw [hdata]
    omega

theorem Flow.congr {c' : Conn} (h : Flow iss N F R T c) (hsnd : c'.tcb.snd = c.tcb.snd)
    (hout : c'.core.out = c.core.out) : Flow iss N F R T c' := by
  refine ⟨?_, ?_, ?_⟩
  · rw [hsnd]
    exact h.seq
  · rw [hout]
    exact h.placed
  · rw [hout]
    exact h.covered

/-- The FIN was sent after the last byte, and everything up to it is in flight. -/
structure FinSent (iss : Int) (N F : Nat) (next : Option STATES) (c c' : Conn) : Prop where
  flow : Flow iss N F (N + 1) (N + 1) c'
  sndBuf : c'.tcb.snd.sndBuf = c.tcb.snd.sndBuf
  sentFin : c'.tcb.snd.sentFin = true
  state : c'.tcb.state = next.getD c.tcb.state
  req : c'.tcb.req = c.tcb.req

theorem FinSent.congr {next : Option STATES} {c c' c'' : Conn} (h : FinSent iss N F next c c')
    (hsnd : c''.tcb.snd = c'.tcb.snd) (hstate : c''.tcb.state = c'.tcb.state)
    (hreq : c''.tcb.req = c'.tcb.req) (hout : c''.core.out = c'.core.out) :
    FinSent iss N F next c c'' :=
  ⟨h.flow.congr hsnd hout, by rw [hsnd]; exact h.sndBuf, by rw [hsnd]; exact h.sentFin,
    hstate.trans h.state, hreq.trans h.req⟩

/-- The segment that ends the stream. -/
theorem Flow.afterFin (h : Flow iss N F R T c) (next : Option STATES) (data : List UInt8)
    (hend : R + data.length = N) (hT : T ≤ N + 1) (hlen : data.length ≤ TCP_MAX_TX_BYTES) :
    FinSent iss N F next c (c.afterFin next data) := by
  obtain ⟨T', hT', hflow⟩ := h.segment data true hend.le (fun _ => hend) hlen
  have hnxt := hflow.seq.nxt_le
  simp only [Bool.toNat_true] at hT' hnxt hflow
  obtain rfl : T' = N + 1 := by omega
  rw [hend] at hflow
  have hfin : Flow iss N F (N + 1) (N + 1)
      ((c.afterSegment data true).setSnd { (c.afterSegment data true).tcb.snd with
          sentFin := true }) :=
    ⟨⟨hflow.seq.una_eq, hflow.seq.nxt_eq, hflow.seq.max_eq, hflow.seq.una_le, hflow.seq.nxt_le⟩,
      hflow.placed, hflow.covered⟩
  unfold Conn.afterFin
  refine ⟨hfin.congr ?_ ?_, ?_, ?_, ?_, ?_⟩
  · cases next <;> simp
  · cases next <;> simp
  · cases next <;> simp
  · cases next <;> simp
  · cases next <;> simp [afterSegment_state]
  · cases next <;> simp

/-- **`_tx_loop`.** Of the `L` bytes it is given it sends all, with the FIN at the end when it is
wanted, unless it does not return. -/
theorem txLoop_flow {B L : Nat} {data : List (List UInt8)} (next : Option STATES)
    (shutReq closeReq : Bool) (h : Flow iss N F R T c) (hT : T ≤ B) (hNB : N ≤ B) (hBN : B ≤ N + 1)
    (hsum : (data.map List.length).sum = L) (hne : L ≠ 0 → ∀ v ∈ data, v ≠ [])
    (hwnd : L ≤ c.tcb.snd.sndWnd) (hmax : L ≤ TCP_MAX_TX_BYTES) (hle : R + L ≤ N)
    (hall : (shutReq || closeReq) = true → L ≠ 0 → R + L = N)
    (hlinger : ¬ c.ActiveCloseTx closeReq) :
    let o := txLoop c data next shutReq closeReq
    o.fault = none ∧ (shutReq || closeReq) = true ∧ L ≠ 0 ∧ FinSent iss N F next c o.st ∨
      o.fault = none ∧ ((shutReq || closeReq) = false ∨ L = 0) ∧
        (∃ T' ≤ B, (L = 0 → T' = T) ∧ Flow iss N F (R + L) T' o.st) ∧ Keeps c o.st ∨
      o.fault ≠ none ∧ (∀ e ∈ o.st.core.out, Placed iss N e.2) ∧ Keeps c o.st := by
  intro o
  have hkeep : ∀ c', Keeps c c' → Keeps c c'.startRtxTimer := fun c' hk =>
    ⟨by simpa using hk.sndBuf, by simpa using hk.sentFin, by simpa using hk.state,
      by simpa using hk.req, by simpa using hk.sub, by simpa using hk.noFin⟩
  have ho : o = txTurns next (shutReq || closeReq) L c data L c.tcb.snd.sndWnd 0 := by
    simp only [o, txLoop, if_neg hlinger, hsum]
  by_cases hzero : L = 0
  · -- an empty view: the loop is not entered
    subst hzero
    have ho' : o = .ok c.startRtxTimer := by rw [ho]; rfl
    refine Or.inr (Or.inl ⟨by rw [ho']; rfl, Or.inr rfl, ⟨T, hT, fun _ => rfl, ?_⟩, ?_⟩)
    · rw [ho']
      exact h.congr (by simp) (by simp)
    · rw [ho']
      exact hkeep c (.refl c)
  · have hrule := txTurns_rule next (shutReq || closeReq)
      (I := fun n c' => n ≤ L ∧ (∃ T' ≤ B, Flow iss N F (R + L - n) T' c') ∧ Keeps c c')
      (J := fun c' => (shutReq || closeReq) = true ∧ FinSent iss N F next c c' ∨
        (shutReq || closeReq) = false ∧ (∃ T' ≤ B, Flow iss N F (R + L) T' c') ∧ Keeps c c')
      ?hseg ?hdone ?hfin L c data L c.tcb.snd.sndWnd 0 ⟨le_rfl,
        ⟨T, hT, by rwa [Nat.add_sub_cancel]⟩, .refl c⟩ hsum (hne hzero)
      (fun _ => hzero) hwnd (by omega)
    case hseg =>
      rintro c' seg n ⟨hn, ⟨T', hT', hflow⟩, hk⟩
      refine ⟨by omega, ?_, hk.segment seg⟩
      obtain ⟨T'', hT'', hflow'⟩ := hflow.segment seg false (by omega) (by simp) (by omega)
      have hpos : R + L - (seg.length + n) + seg.length + false.toNat = R + L - n := by
        simp only [Bool.toNat_false]
        omega
      rw [hpos] at hflow' hT''
      exact ⟨T'', by omega, hflow'⟩
    case hdone =>
      rintro hno c' ⟨-, ⟨T', hT', hflow⟩, hk⟩
      exact Or.inr ⟨hno, ⟨T', hT', hflow.congr (by simp) (by simp)⟩, hkeep c' hk⟩
    case hfin =>
      rintro hw c' seg ⟨hn, ⟨T', hT', hflow⟩, hk⟩
      have hend := hall hw hzero
      have hsent := hflow.afterFin next seg (by omega) (by omega) (by omega)
      exact Or.inl ⟨hw, hsent.flow, hsent.sndBuf.trans hk.sndBuf, hsent.sentFin,
        by rw [hsent.state, hk.state], hsent.req.trans hk.req⟩
    rw [← ho] at hrule
    rcases hrule with ⟨hf, ⟨hw, hsent⟩ | ⟨hno, ⟨T', hT', hflow⟩, hk⟩⟩ |
      ⟨hf, n, -, ⟨T', -, hflow⟩, hk⟩
    · exact Or.inl ⟨hf, hw, hzero, hsent⟩
    · exact Or.inr (Or.inl ⟨hf, Or.inl hno, ⟨T', hT', fun h => absurd h hzero, hflow⟩, hk⟩)
    · exact Or.inr (Or.inr ⟨hf, hflow.placed, hk⟩)

/-- **`_send_fin`**, the first time and after a roll back, when every byte was sent. -/
theorem sendFin_flow (next : Option STATES) (h : Flow iss N F N T c)
    (hfirst : c.tcb.snd.sentFin = false ∨ T = N + 1 ∧ next = none) :
    FinSent iss N F next c (c.sendFin next) := by
  obtain ⟨⟨huna, hnxt, hmax, hF, hR⟩, hplaced, hcov⟩ := h
  have hbump : (c.tcb.snd.sndNxt + 1) % 4294967296 = seqOf iss (N + 1) := by
    rw [hnxt]
    unfold seqOf
    push_cast
    omega
  have hseg : ∀ e ∈ c.core.out ++ [(c.tcb.socketId, { c.header with ack := true, fin := true })],
      Placed iss N e.2 := by
    intro e he
    rcases List.mem_append.1 he with he | he
    · exact hplaced e he
    · rw [List.mem_singleton.1 he]
      exact Or.inr ⟨N, hnxt, by simp [Conn.header, TxTcp.bare], by simp [Conn.header, TxTcp.bare]⟩
  have hall : ∀ j < min (N + 1) N, Covered iss
      (c.core.out ++ [(c.tcb.socketId, { c.header with ack := true, fin := true })]) j :=
        fun j hj =>
    (hcov j (by omega)).mono fun e he => List.mem_append_left _ he
  cases hs : c.tcb.snd.sentFin with
  | true =>
    obtain ⟨rfl, rfl⟩ := hfirst.resolve_left (by simp [hs])
    have hgt : seqGt c.tcb.snd.sndMax c.tcb.snd.sndNxt := by
      rw [hmax, hnxt]
      unfold seqGt seqOf
      push_cast
      omega
    unfold Conn.sendFin
    rw [if_pos hs, if_pos hgt]
    refine ⟨⟨⟨?_, ?_, ?_, by omega, le_rfl⟩, ?_, ?_⟩, ?_, ?_, ?_, ?_⟩
    · simpa using huna
    · simpa using hbump
    · simpa using hmax
    · simpa using hseg
    · simpa using hall
    · simp
    · simpa using hs
    · simp
    · simp
  | false =>
    unfold Conn.sendFin
    rw [if_neg (by simp [hs])]
    refine ⟨⟨⟨?_, ?_, ?_, by omega, le_rfl⟩, ?_, ?_⟩, ?_, ?_, ?_, ?_⟩
    · cases next <;> simpa using huna
    · cases next <;> simpa using hbump
    · cases next <;> simpa using hbump
    · cases next <;> simpa [Conn.header] using hseg
    · cases next <;> simpa [Conn.header] using hall
    · cases next <;> simp
    · cases next <;> simp
    · cases next <;> simp
    · cases next <;> simp

end Sending

/-! ## The invariant -/

/-- Where the send side stands, by state. Once the FIN was sent, either everything is in flight or
everything was rolled back. -/
inductive Phase (iss : Int) (N F : Nat) (c : Conn) : Prop
  | streaming (R T : Nat) (state : c.tcb.state.Streaming) (flow : Flow iss N F R T c)
      (ring : RingAt N F R c.tcb.snd.sndBuf) (le : T ≤ N) (sentFin : c.tcb.snd.sentFin = false)
      (noFin : NoFin c.core.out)
  | ending (R : Nat) (state : c.tcb.state.Ending) (flow : Flow iss N F R (N + 1) c)
      (ring : RingAt N F (min R N) c.tcb.snd.sndBuf) (le : F ≤ N)
      (sentFin : c.tcb.snd.sentFin = true) (wanted : c.tcb.req.finWanted = true)
      (pos : R = N + 1 ∨ R = F)
  | ended (state : c.tcb.state.Ended)

/-- What the log has to show: every byte and every FIN is in its place, and no byte is missing when
there is a FIN. -/
structure FinLast (iss : Int) (N : Nat) (out : List (SockId × TxTcp)) : Prop where
  placed : ∀ e ∈ out, Placed iss N e.2
  whole : ¬ NoFin out → ∀ j < N, Covered iss out j

/-- The invariant of a connection on which `N` bytes were enqueued and `F` acknowledged. -/
structure Good (iss : Int) (N F : Nat) (o : Outcome) : Prop where
  log : FinLast iss N o.st.core.out
  noFin : o.st.tcb.req.finWanted = false → NoFin o.st.core.out
  linger : o.st.tcb.req.soLinger ≠ some SO_LINGER_ON
  phase : o.fault = none → Phase iss N F o.st

/-- The condition on a `SEND` or an `RTX` that can send a FIN: what it drains is all that is ready,
unless the window is closed. -/
def DrainsAll (t : TCPCB) : Prop :=
  t.state.Streaming ∧ t.req.finWanted = true ∨ t.state.Ending →
    t.snd.sndWnd = 0 ∨ t.snd.sndBuf.ready ≤ min TCP_MAX_TX_BYTES t.snd.sndWnd

instance (t : TCPCB) : Decidable (DrainsAll t) := inferInstanceAs (Decidable (_ → _))

/-- Segments without data and FIN were added to the log. -/
structure Quiet (out out' : List (SockId × TxTcp)) : Prop where
  sub : ∀ e ∈ out, e ∈ out'
  new : ∀ e ∈ out', e ∈ out ∨ e.2.data = [] ∧ e.2.fin = false

theorem Quiet.refl (out : List (SockId × TxTcp)) : Quiet out out :=
  ⟨fun _ h => h, fun _ h => Or.inl h⟩

theorem Quiet.append (out : List (SockId × TxTcp)) {id : SockId} {seg : TxTcp}
    (hdata : seg.data = []) (hfin : seg.fin = false) : Quiet out
    (out ++ [(id, seg)]) where
  sub e he := List.mem_append_left _ he
  new e he := by
    rcases List.mem_append.1 he with he | he
    · exact Or.inl he
    · rw [List.mem_singleton.1 he]
      exact Or.inr ⟨hdata, hfin⟩

theorem Quiet.trans {out out' out'' : List (SockId × TxTcp)} (h : Quiet out out')
    (h' : Quiet out' out'') : Quiet out out'' where
  sub e he := h'.sub e (h.sub e he)
  new e he := (h'.new e he).elim (h.new e) Or.inr

theorem Quiet.ack {out : List (SockId × TxTcp)} {c : Conn} (h : Quiet out c.core.out) :
    Quiet out c.sendAck.core.out :=
  h.trans (.append _ rfl rfl)

/-- Segments with the property `P` were added to the log. -/
def Emits (P : TxTcp → Prop) (out out' : List (SockId × TxTcp)) : Prop :=
  ∃ new, out' = out ++ new ∧ ∀ e ∈ new, P e.2

/-- A segment without data and FIN. -/
def TxTcp.Bare (seg : TxTcp) : Prop := seg.data = [] ∧ seg.fin = false

/-- A segment without any sequence number. -/
def TxTcp.Empty (seg : TxTcp) : Prop := seg.Bare ∧ seg.syn = false

namespace Emits

variable {P Q : TxTcp → Prop} {out out' out'' : List (SockId × TxTcp)} {c : Conn}

theorem refl (P : TxTcp → Prop) (out : List (SockId × TxTcp)) : Emits P out out :=
  ⟨[], by simp, by simp⟩

theorem append (out : List (SockId × TxTcp)) (id : SockId) {seg : TxTcp} (h : P seg) :
    Emits P out (out ++ [(id, seg)]) :=
  ⟨[(id, seg)], rfl, by simpa using h⟩

theorem trans (h : Emits P out out') (h' : Emits P out' out'') : Emits P out out'' := by
  obtain ⟨new, rfl, hnew⟩ := h
  obtain ⟨new', rfl, hnew'⟩ := h'
  refine ⟨new ++ new', by simp, fun e he => ?_⟩
  rcases List.mem_append.1 he with he | he
  · exact hnew e he
  · exact hnew' e he

theorem mono (h : Emits P out out') (hPQ : ∀ seg, P seg → Q seg) : Emits Q out out' := by
  obtain ⟨new, hout, hnew⟩ := h
  exact ⟨new, hout, fun e he => hPQ _ (hnew e he)⟩

theorem quiet (h : Emits TxTcp.Bare out out') : Quiet out out' := by
  obtain ⟨new, rfl, hnew⟩ := h
  exact ⟨fun e he => List.mem_append_left _ he, fun e he =>
    (List.mem_append.1 he).imp_right (hnew e)⟩

theorem ack (h : Emits TxTcp.Empty out c.core.out) : Emits TxTcp.Empty out c.sendAck.core.out :=
  h.trans (.append _ _ ⟨⟨rfl, rfl⟩, rfl⟩)

theorem challenge (h : Emits TxTcp.Empty out c.core.out) :
    Emits TxTcp.Empty out c.sendChallengeAck.core.out := by
  refine h.trans ?_
  unfold Conn.sendChallengeAck
  simp only
  split
  · exact .refl _ _
  · exact .append _ _ ⟨⟨rfl, rfl⟩, rfl⟩

/-- A reset that answers a segment. -/
theorem dropWithReset (c : Conn) (p : Segment) :
    Emits TxTcp.Empty c.core.out (c.dropWithReset p).core.out := by
  unfold Conn.dropWithReset
  split
  · exact .append _ _ ⟨⟨rfl, rfl⟩, rfl⟩
  · exact .append _ _ ⟨⟨rfl, rfl⟩, rfl⟩

theorem activeCloseRx (h : Emits TxTcp.Empty out c.core.out) (p : Segment) :
    Emits TxTcp.Empty out (c.hActiveCloseRx p).signalRst.core.out := by
  refine h.trans ?_
  have hstop : c.stopAllTimers.core.out = c.core.out := by simp [Conn.stopAllTimers]
  have hdrop := dropWithReset c.stopAllTimers p
  rw [hstop] at hdrop
  simpa [Conn.hActiveCloseRx] using hdrop

/-- `_send_fin` sends a segment with the FIN, if anything. -/
theorem sendFin (c : Conn) (next : Option STATES)
    (h : P { c.header with ack := true, fin := true }) :
    Emits P c.core.out (c.sendFin next).core.out := by
  rcases c.sendFin_out next with hout | hout
  · rw [hout]
    exact .refl P _
  · rw [hout]
    exact .append _ _ h

/-- An abort sends a reset. -/
theorem activeCloseTx (c : Conn) (hP : ∀ seg : TxTcp, seg.psh = false → seg.data = [] → P seg) :
    Emits P c.core.out c.hActiveCloseTx.core.out := by
  have hrst : Emits P c.stopAllTimers.core.out c.stopAllTimers.sendRst.core.out :=
    .append _ _ (hP _ rfl rfl)
  simpa [Conn.hActiveCloseTx, Conn.stopAllTimers] using hrst

end Emits

section Log

variable {iss : Int} {N F R T : Nat} {out out' : List (SockId × TxTcp)}

theorem Quiet.noFin (h : Quiet out out') (hno : NoFin out) : NoFin out' := by
  intro e he
  rcases h.new e he with he | he
  · exact hno e he
  · exact he.2

theorem Quiet.placed (h : Quiet out out') (hp : ∀ e ∈ out, Placed iss N e.2) :
    ∀ e ∈ out', Placed iss N e.2 := by
  intro e he
  rcases h.new e he with he | he
  · exact hp e he
  · exact Or.inl he

theorem FinLast.quiet (h : FinLast iss N out) (hq : Quiet out out') : FinLast iss N out' where
  placed := hq.placed h.placed
  whole hfin j hj := (h.whole (fun hno => hfin (hq.noFin hno)) j hj).mono hq.sub

theorem Flow.quiet {c c' : Conn} (h : Flow iss N F R T c) {F' : Nat}
    (hseq : SeqAt iss F' R T c'.tcb.snd) (hq : Quiet c.core.out c'.core.out) :
    Flow iss N F' R T c' :=
  ⟨hseq, hq.placed h.placed, fun j hj => (h.covered j hj).mono hq.sub⟩

/-- The FIN was sent: the invariant of the states that follow. -/
theorem FinSent.good {c c' : Conn} {next : Option STATES} (h : FinSent iss N F next c c')
    (hring : RingAt N F N c.tcb.snd.sndBuf) (hF : F ≤ N) (hstate : c'.tcb.state.Ending)
    (hwant : c.tcb.req.finWanted = true) (hlinger : c.tcb.req.soLinger ≠ some SO_LINGER_ON) :
    Good iss N F (.ok c') where
  log := ⟨h.flow.placed, fun _ j hj => h.flow.covered j (by omega)⟩
  noFin hno := by
    simp only [Outcome.ok_st, h.req, hwant] at hno
    cases hno
  linger := by simpa [h.req] using hlinger
  phase _ := by
    refine .ending (N + 1) hstate h.flow ?_ hF h.sentFin (by simpa [h.req] using hwant) (Or.inl rfl)
    simpa [h.sndBuf] using hring

end Log

/-! ## Sending -/

section Send

variable {iss : Int} {N F R T L : Nat} {c c' : Conn}

/-- Nothing is drained and at most an acknowledgement is sent. -/
theorem Phase.quiet (h : Phase iss N F c) (hseq : ∀ R T, SeqAt iss F R T c.tcb.snd →
      SeqAt iss F R T c'.tcb.snd)
    (hring : ∀ V, RingAt N F V c.tcb.snd.sndBuf → RingAt N F V c'.tcb.snd.sndBuf)
    (hfin : c'.tcb.snd.sentFin = c.tcb.snd.sentFin) (hstate : c'.tcb.state = c.tcb.state)
    (hreq : c'.tcb.req = c.tcb.req) (hq : Quiet c.core.out c'.core.out) : Phase iss N F c' := by
  cases h with
  | streaming R T state flow ring le sentFin noFin =>
    exact .streaming R T (hstate ▸ state) (flow.quiet (hseq R T flow.seq) hq) (hring R ring) le
      (hfin.trans sentFin) (hq.noFin noFin)
  | ending R state flow ring le sentFin wanted pos =>
    exact .ending R (hstate ▸ state) (flow.quiet (hseq R _ flow.seq) hq) (hring _ ring) le
      (hfin.trans sentFin) (hreq ▸ wanted) pos
  | ended state => exact .ended (hstate ▸ state)

/-- **The loop in a streaming state.** The connection `c` has drained `L` bytes. -/
theorem txLoop_streaming {data : List (List UInt8)} {next : STATES} {shutReq closeReq : Bool}
    (hlinger : c.tcb.req.soLinger ≠ some SO_LINGER_ON) (hstate : c.tcb.state.Streaming)
    (hnext : next.Ending)
    (flow : Flow iss N F R T c) (ring : RingAt N F (R + L) c.tcb.snd.sndBuf) (hT : T ≤ N)
    (hfin : c.tcb.snd.sentFin = false) (hno : NoFin c.core.out)
    (hsum : (data.map List.length).sum = L) (hne : L ≠ 0 → ∀ v ∈ data, v ≠ [])
    (hL : L = min (min TCP_MAX_TX_BYTES c.tcb.snd.sndWnd) (N - R))
    (hwant : c.tcb.req.finWanted = (shutReq || closeReq))
    (hd : (shutReq || closeReq) = true →
      c.tcb.snd.sndWnd = 0 ∨ N - R ≤ min TCP_MAX_TX_BYTES c.tcb.snd.sndWnd) :
    Good iss N F (txLoop c data (some next) shutReq closeReq) := by
  have hle := ring.vr_le
  have hloop := txLoop_flow (some next) shutReq closeReq flow hT le_rfl
    (Nat.le_succ N) hsum hne (by omega) (by omega) hle
    (fun hw hzero => by rcases hd hw with h | h <;> omega) (fun hab => hlinger hab.2)
  generalize txLoop c data (some next) shutReq closeReq = o at hloop ⊢
  rcases hloop with ⟨hf, hw, hzero, hsent⟩ | ⟨hf, -, ⟨T', hT', -, hflow⟩, hk⟩ | ⟨hf, hplaced, hk⟩
  · have hend : R + L = N := by rcases hd hw with h | h <;> omega
    have hF := flow.seq.una_le
    have := hsent.good (hend ▸ ring) (by omega) (by rw [hsent.state]; exact hnext)
      (hwant.trans hw) hlinger
    exact ⟨this.log, this.noFin, this.linger, fun _ => this.phase rfl⟩
  · have hno' : NoFin o.st.core.out := fun e he => (hk.noFin e he).elim (hno e) id
    refine ⟨⟨hflow.placed, fun hbad => absurd hno' hbad⟩, fun _ => hno', ?_, fun _ => ?_⟩
    · rw [hk.req]
      exact hlinger
    · refine .streaming (R + L) T' ?_ hflow ?_ hT' (hk.sentFin.trans hfin) hno'
      · rw [hk.state]
        exact hstate
      · rw [hk.sndBuf]
        exact ring
  · have hno' : NoFin o.st.core.out := fun e he => (hk.noFin e he).elim (hno e) id
    refine ⟨⟨hplaced, fun hbad => absurd hno' hbad⟩, fun _ => hno', ?_, fun h => absurd h hf⟩
    rw [hk.req]
    exact hlinger

/-- **The loop once the FIN was sent**, after a roll back. -/
theorem txLoop_ending {data : List (List UInt8)}
    (hlinger : c.tcb.req.soLinger ≠ some SO_LINGER_ON) (hstate : c.tcb.state.Ending)
    (hwant : c.tcb.req.finWanted = true) (flow : Flow iss N F F (N + 1) c)
    (ring : RingAt N F (F + L) c.tcb.snd.sndBuf) (hfin : c.tcb.snd.sentFin = true)
    (hsum : (data.map List.length).sum = L) (hne : L ≠ 0 → ∀ v ∈ data, v ≠ [])
    (hL : L = min (min TCP_MAX_TX_BYTES c.tcb.snd.sndWnd) (N - F))
    (hd : c.tcb.snd.sndWnd = 0 ∨ N - F ≤ min TCP_MAX_TX_BYTES c.tcb.snd.sndWnd) :
    Good iss N F (txLoop c data none true false) := by
  have hle := ring.vr_le
  have hloop := txLoop_flow none true false flow le_rfl (Nat.le_succ N)
    le_rfl hsum hne (by omega) (by omega) hle
    (fun _ hzero => by rcases hd with h | h <;> omega) (fun hab => hlinger hab.2)
  generalize txLoop c data none true false = o at hloop ⊢
  rcases hloop with ⟨hf, hw, hzero, hsent⟩ | ⟨hf, hzero, ⟨T', -, hT', hflow⟩,
    hk⟩ | ⟨hf, hplaced, hk⟩
  · have hend : F + L = N := by rcases hd with h | h <;> omega
    have := hsent.good (hend ▸ ring) (by omega) (by rw [hsent.state]; exact hstate) hwant hlinger
    exact ⟨this.log, this.noFin, this.linger, fun _ => this.phase rfl⟩
  · obtain rfl : L = 0 := by simpa using hzero
    obtain rfl := hT' rfl
    refine ⟨⟨hflow.placed, fun _ j hj => hflow.covered j (by omega)⟩, fun hno => ?_,
      ?_, fun _ => ?_⟩
    · rw [hk.req, hwant] at hno
      cases hno
    · rw [hk.req]
      exact hlinger
    · refine .ending F ?_ hflow ?_ (by omega) (hk.sentFin.trans hfin) ?_ (Or.inr rfl)
      · rw [hk.state]
        exact hstate
      · rw [hk.sndBuf, Nat.min_eq_left (by omega)]
        exact ring
      · rw [hk.req]
        exact hwant
  · refine ⟨⟨hplaced, fun _ j hj => ?_⟩, fun hno => ?_, ?_, fun h => absurd h hf⟩
    · exact (flow.covered j (by omega)).mono hk.sub
    · rw [hk.req, hwant] at hno
      cases hno
    · rw [hk.req]
      exact hlinger

/-- The connection after `_drain_snd_buf`, and possibly `_compute_rcv_wnd`. -/
structure Drained (c c₁ : Conn) : Prop where
  snd : c₁.tcb.snd = (drainSndBuf c.tcb.snd).2
  state : c₁.tcb.state = c.tcb.state
  req : c₁.tcb.req = c.tcb.req
  out : c₁.core.out = c.core.out

theorem Drained.flow {c₁ : Conn} (h : Drained c c₁) (hf : Flow iss N F R T c) :
    Flow iss N F R T c₁ := by
  refine hf.quiet ?_ (h.out ▸ .refl _)
  rw [h.snd]
  exact ⟨hf.seq.una_eq, hf.seq.nxt_eq, hf.seq.max_eq, hf.seq.una_le, hf.seq.nxt_le⟩

theorem Conn.DrainsTo.drained {c₁ : Conn} (h : c.DrainsTo c₁) : Drained c c₁ := by
  rcases h with rfl | rfl
  · exact ⟨rfl, rfl, rfl, rfl⟩
  · exact ⟨rfl, rfl, rfl, rfl⟩

theorem Phase.of_streaming (h : Phase iss N F c) (hs : c.tcb.state.Streaming) :
    ∃ R T, Flow iss N F R T c ∧ RingAt N F R c.tcb.snd.sndBuf ∧ T ≤ N ∧
      c.tcb.snd.sentFin = false ∧ NoFin c.core.out := by
  cases h with
  | streaming R T _ flow ring le sentFin noFin => exact ⟨R, T, flow, ring, le, sentFin, noFin⟩
  | ending R state => exact absurd ⟨hs, state⟩ c.tcb.state.streaming_ending_ended_disjoint.1
  | ended state => exact absurd ⟨hs, state⟩ c.tcb.state.streaming_ending_ended_disjoint.2.1

theorem Phase.of_ending (h : Phase iss N F c) (hs : c.tcb.state.Ending) :
    ∃ R, Flow iss N F R (N + 1) c ∧ RingAt N F (min R N) c.tcb.snd.sndBuf ∧ F ≤ N ∧
      c.tcb.snd.sentFin = true ∧ c.tcb.req.finWanted = true ∧ (R = N + 1 ∨ R = F) := by
  cases h with
  | ending R _ flow ring le sentFin wanted pos => exact ⟨R, flow, ring, le, sentFin, wanted, pos⟩
  | streaming R T state => exact absurd ⟨state, hs⟩ c.tcb.state.streaming_ending_ended_disjoint.1
  | ended state => exact absurd ⟨hs, state⟩ c.tcb.state.streaming_ending_ended_disjoint.2.2

section Handlers

variable {c₁ c₂ : Conn} (h : Good iss N F (.ok c)) (hd : Drained c c₁)

include h hd

/-- Nothing was ready, and at most an acknowledgement is sent. -/
theorem Good.drained_quiet (hnil : (drainSndBuf c.tcb.snd).1 = []) (hsnd : c₂.tcb.snd = c₁.tcb.snd)
    (hstate : c₂.tcb.state = c₁.tcb.state) (hreq : c₂.tcb.req = c₁.tcb.req)
    (hq : Quiet c₁.core.out c₂.core.out) : Good iss N F (.ok c₂) := by
  rw [hd.out] at hq
  have hreq' : c₂.tcb.req = c.tcb.req := hreq.trans hd.req
  refine ⟨h.log.quiet hq, fun hno => hq.noFin (h.noFin ?_), ?_, fun _ => ?_⟩
  · rwa [Outcome.ok_st, hreq'] at hno
  · rw [Outcome.ok_st, hreq']
    exact h.linger
  · refine (h.phase rfl).quiet (fun R T hseq => ?_) (fun V hring => ?_) ?_ (hstate.trans hd.state)
      hreq' hq
    · rw [Outcome.ok_st, hsnd, hd.snd]
      exact ⟨hseq.una_eq, hseq.nxt_eq, hseq.max_eq, hseq.una_le, hseq.nxt_le⟩
    · obtain ⟨hiff, -, -, hring'⟩ := drainSndBuf_spec c.tcb.snd hring
      rw [Outcome.ok_st, hsnd, hd.snd]
      obtain rfl := hiff.1 hnil
      rwa [Nat.sub_self, Nat.min_zero, Nat.add_zero] at hring'
    · rw [Outcome.ok_st, hsnd, hd.snd]
      rfl

/-- A streaming state, with nothing ready: the FIN goes out on its own. -/
theorem Good.drained_fin (hs : c.tcb.state.Streaming) (next : STATES) (hnext : next.Ending)
    (hwant : c.tcb.req.finWanted = true) (hnil : (drainSndBuf c.tcb.snd).1 = [])
    (hsnd : c₂.tcb.snd = (c₁.sendFin (some next)).tcb.snd)
    (hstate : c₂.tcb.state = (c₁.sendFin (some next)).tcb.state)
    (hreq : c₂.tcb.req = (c₁.sendFin (some next)).tcb.req)
    (hout : c₂.core.out = (c₁.sendFin (some next)).core.out) : Good iss N F (.ok c₂) := by
  obtain ⟨R, T, flow, ring, hT, hfin, hno⟩ := (h.phase rfl).of_streaming hs
  obtain ⟨hiff, -, -, hring⟩ := drainSndBuf_spec c.tcb.snd ring
  obtain rfl := hiff.1 hnil
  rw [Nat.sub_self, Nat.min_zero, Nat.add_zero, ← hd.snd] at hring
  have hfin' : c₁.tcb.snd.sentFin = false := by
    rw [hd.snd]
    exact hfin
  have hsent' : FinSent iss N F (some next) c₁ c₂ :=
    (sendFin_flow (some next) (hd.flow flow) (Or.inl hfin')).congr hsnd hstate hreq hout
  refine hsent'.good hring flow.seq.una_le ?_ ?_ ?_
  · rw [hsent'.state]
    exact hnext
  · rw [hd.req]
    exact hwant
  · rw [hd.req]
    exact h.linger

/-- A streaming state, with bytes ready. -/
theorem Good.drained_loop (hs : c.tcb.state.Streaming) {next : STATES} (hnext : next.Ending)
    (hall : DrainsAll c.tcb) :
    Good iss N F (txLoop c₁ (drainSndBuf c.tcb.snd).1 (some next) c.tcb.req.shutdownRequested
      c.tcb.req.closeRequested) := by
  obtain ⟨R, T, flow, ring, hT, hfin, hno⟩ := (h.phase rfl).of_streaming hs
  obtain ⟨-, hsum, hne, hring⟩ := drainSndBuf_spec c.tcb.snd ring
  have hwnd : c₁.tcb.snd.sndWnd = c.tcb.snd.sndWnd := by
    rw [hd.snd]
    rfl
  rw [← hd.snd] at hring
  refine txLoop_streaming ?_ ?_ hnext (hd.flow flow) hring hT ?_ ?_ hsum hne ?_ ?_ ?_
  · rw [hd.req]
    exact h.linger
  · rw [hd.state]
    exact hs
  · rw [hd.snd]
    exact hfin
  · rw [hd.out]
    exact hno
  · rw [hwnd]
  · rw [hd.req]
    rfl
  · intro hw
    rw [hwnd, ← ring.ready_eq]
    exact hall (Or.inl ⟨hs, hw⟩)

/-- Once the FIN was sent, with nothing ready: the FIN is sent again if it was rolled back. -/
theorem Good.drained_fin_again (hs : c.tcb.state.Ending) (hnil : (drainSndBuf c.tcb.snd).1 = [])
    (hsnd : c₂.tcb.snd = (c₁.sendFin none).tcb.snd) (hstate : c₂.tcb.state =
    (c₁.sendFin none).tcb.state)
    (hreq : c₂.tcb.req = (c₁.sendFin none).tcb.req)
    (hout : c₂.core.out = (c₁.sendFin none).core.out) : Good iss N F (.ok c₂) := by
  obtain ⟨R, flow, ring, hF, hfin, hwant, hpos⟩ := (h.phase rfl).of_ending hs
  obtain ⟨hiff, -, -, hring⟩ := drainSndBuf_spec c.tcb.snd ring
  have hN := hiff.1 hnil
  have hfin' : c₁.tcb.snd.sentFin = true := by
    rw [hd.snd]
    exact hfin
  have hflow := hd.flow flow
  by_cases hR : R = N + 1
  · -- everything is in flight, and nothing is sent
    have hnot : ¬ seqGt c₁.tcb.snd.sndMax c₁.tcb.snd.sndNxt := by
      rw [hflow.seq.max_eq, hflow.seq.nxt_eq, hR]
      exact fun hgt => hgt.1 rfl
    have hsame : c₁.sendFin none = c₁ := by
      unfold Conn.sendFin
      rw [if_pos hfin', if_neg hnot]
    rw [hsame] at hsnd hstate hreq hout
    exact h.drained_quiet hd hnil hsnd hstate hreq (hout ▸ .refl _)
  · obtain rfl : R = F := hpos.resolve_left hR
    obtain rfl : N = R := by omega
    rw [← hN, Nat.sub_self, Nat.min_zero, Nat.add_zero, ← hd.snd] at hring
    have hsent : FinSent iss N N none c₁ c₂ :=
      (sendFin_flow none hflow (Or.inr ⟨rfl, rfl⟩)).congr hsnd hstate hreq hout
    refine hsent.good hring le_rfl ?_ ?_ ?_
    · rw [hsent.state, hd.state]
      exact hs
    · rw [hd.req]
      exact hwant
    · rw [hd.req]
      exact h.linger

/-- Once the FIN was sent, with bytes ready again. -/
theorem Good.drained_loop_again (hs : c.tcb.state.Ending) (hnil : (drainSndBuf c.tcb.snd).1 ≠ [])
    (hall : DrainsAll c.tcb) :
    Good iss N F (txLoop c₁ (drainSndBuf c.tcb.snd).1 none true false) := by
  obtain ⟨R, flow, ring, hF, hfin, hwant, hpos⟩ := (h.phase rfl).of_ending hs
  obtain ⟨hiff, hsum, hne, hring⟩ := drainSndBuf_spec c.tcb.snd ring
  have hN : N ≠ min R N := fun heq => hnil (hiff.2 heq)
  obtain rfl : R = F := hpos.resolve_left (by omega)
  have hwnd : c₁.tcb.snd.sndWnd = c.tcb.snd.sndWnd := by
    rw [hd.snd]
    rfl
  rw [Nat.min_eq_left hF] at hsum hne hring ring
  rw [← hd.snd] at hring
  refine txLoop_ending ?_ ?_ ?_ (hd.flow flow) hring ?_ hsum hne ?_ ?_
  · rw [hd.req]
    exact h.linger
  · rw [hd.state]
    exact hs
  · rw [hd.req]
    exact hwant
  · rw [hd.snd]
    exact hfin
  · rw [hwnd]
  · rw [hwnd, ← ring.ready_eq]
    exact hall (Or.inr hs)

end Handlers

/-! ### The send handlers -/

theorem Good.txStreaming (h : Good iss N F (.ok c)) (hs : c.tcb.state.Streaming)
    (hall : DrainsAll c.tcb) : Good iss N F c.tx := by
  obtain ⟨c₁, hdrain, hpath⟩ := Conn.tx_streaming hs
  have hd := hdrain.drained
  generalize c.tx = o at hpath ⊢
  cases hpath with
  | abort _ _ close => exact absurd close.2 h.linger
  | fin c' nil _ due _ sent =>
    rcases sent with rfl | rfl
    · exact h.drained_fin hd hs _ hs.behindFin due nil rfl rfl rfl rfl
    · exact h.drained_fin hd hs _ hs.behindFin due nil rfl rfl rfl rfl
  | quiet c' nil _ _ sent =>
    rcases sent with rfl | rfl
    · exact h.drained_quiet hd nil rfl rfl rfl (.refl _)
    · exact h.drained_quiet hd nil rfl rfl rfl (.ack (.refl _))
  | loop _ => exact h.drained_loop hd hs hs.behindFin hall

theorem Good.txEnding (h : Good iss N F (.ok c)) (hs : c.tcb.state.Ending)
    (hall : DrainsAll c.tcb) : Good iss N F c.tx := by
  obtain ⟨c₁, hdrain, hpath⟩ := Conn.tx_ending hs
  have hd := hdrain.drained
  generalize c.tx = o at hpath ⊢
  cases hpath with
  | abort _ _ close => exact absurd close.2 h.linger
  | fin c' nil _ _ _ sent =>
    rcases sent with rfl | rfl
    · exact h.drained_fin_again hd hs nil rfl rfl rfl rfl
    · exact h.drained_fin_again hd hs nil rfl rfl rfl rfl
  | quiet c' nil _ _ sent =>
    rcases sent with rfl | rfl
    · exact h.drained_quiet hd nil rfl rfl rfl (.refl _)
    · exact h.drained_quiet hd nil rfl rfl rfl (.ack (.refl _))
  | loop ready => exact h.drained_loop_again hd hs ready hall

/-- The handshake is over in every phase. -/
theorem Phase.state_cases (h : Phase iss N F c) :
    c.tcb.state ≠ .listen ∧ c.tcb.state ≠ .synSent ∧ c.tcb.state ≠ .synRecv := by
  cases h with
  | streaming R T state =>
    revert state
    cases c.tcb.state <;> decide
  | ending R state =>
    revert state
    cases c.tcb.state <;> decide
  | ended state =>
    revert state
    cases c.tcb.state <;> decide

/-- **A send event** that meets the condition keeps the invariant. -/
theorem Good.tx (h : Good iss N F (.ok c)) (hall : DrainsAll c.tcb) : Good iss N F c.tx := by
  cases h.phase rfl with
  | streaming R T state => exact h.txStreaming state hall
  | ending R state => exact h.txEnding state hall
  | ended state =>
    rcases Conn.tx_ended (c := c) state with htx | ⟨-, hab, -⟩ | htx
    · rw [htx]
      exact h
    · exact absurd hab.2 h.linger
    · rw [htx]
      exact ⟨h.log, h.noFin, h.linger, fun hf => absurd hf (by simp)⟩

/-- A roll back, when the buffer still has every byte that is not acknowledged. -/
theorem Good.prepareRtx (h : Good iss N F (.ok c))
    (hkept : c.tcb.state.Streaming ∨ c.tcb.state.Ending → N < F + DEFAULT_SEND_BUFF) :
    Good iss N F (.ok c.prepareRtx) := by
  refine ⟨h.log, h.noFin, h.linger, fun _ => ?_⟩
  have hroll : ∀ {R T}, SeqAt iss F R T c.tcb.snd → SeqAt iss F F T (rollbackToUna c.tcb.snd) :=
    fun hseq => ⟨hseq.una_eq, hseq.una_eq, hseq.max_eq, le_rfl, hseq.una_le.trans hseq.nxt_le⟩
  cases h.phase rfl with
  | streaming R T state flow ring le sentFin noFin =>
    have hlt := hkept (Or.inl state)
    have hF := flow.seq.una_le
    have hN := ring.vr_le
    exact .streaming F T state ⟨hroll flow.seq, flow.placed, flow.covered⟩
      (ring.rollBack (by omega) (by simp only [DEFAULT_SEND_BUFF] at hlt ⊢; omega)) le sentFin noFin
  | ending R state flow ring le sentFin wanted pos =>
    have hlt := hkept (Or.inr state)
    refine .ending F state ⟨hroll flow.seq, flow.placed, flow.covered⟩ ?_ le sentFin wanted
      (Or.inr rfl)
    rw [Nat.min_eq_left le]
    exact ring.rollBack le (by simp only [DEFAULT_SEND_BUFF] at hlt ⊢; omega)
  | ended state => exact .ended state

end Send

end Tipy.Tcp
