import Tipy.Tcp.Tcpcb

/-!
# The TCP state machine

`tipy/protocols/tcp/tcp_fsm.py`, function by function. The helpers that touch one side of the
control block only are functions on that side (`RcvVars`, `SndVars`). A handler that can raise, or
fail to return, says so in its `Outcome`; the others are functions on `Conn`.
-/

namespace Tipy.Tcp

open Tipy.Buffer Tipy.Components

/-! ## Helpers of the receive side -/

/-- `TCP_ACCEPT_AND_HANDLE`, `TCP_ACCEPT_BUT_BUFFER` and `TCP_DROP`. -/
inductive SeqVerdict where
  | acceptAndHandle
  | acceptButBuffer
  | drop
deriving Repr, DecidableEq

/-- What the sequence check returns, and what it leaves in the control block and in the segment. -/
structure SeqResult where
  verdict : SeqVerdict
  rcv : RcvVars
  seg : Segment

/-- `_h_rx_seq_zlen_zwnd`. -/
def hRxSeqZlenZwnd (r : RcvVars) (p : Segment) : SeqResult :=
  ⟨if p.seq = r.rcvNxt then .acceptAndHandle else .drop, r, p⟩

/-- `_h_rx_seq_zlen`. -/
def hRxSeqZlen (r : RcvVars) (p : Segment) : SeqResult :=
  ⟨if seqLeq r.rcvNxt p.seq ∧ seqLt p.seq r.rcvAdv then .acceptAndHandle else .drop, r, p⟩

/-- `_h_rx_seq_zwnd`. -/
def hRxSeqZwnd (r : RcvVars) (p : Segment) : SeqResult := ⟨.drop, r, p⟩

/-- The number of sequence numbers an in-order segment moves `rcv_nxt` on by: `tcp_data_len`. -/
def acceptedLen (r : RcvVars) (p : Segment) : Int :=
  min ((seqDiff r.rcvAdv r.rcvNxt - 1) % 4294967296) (seqDiff (lastSeq p + 1) r.rcvNxt)

/-- `_h_rx_seq_normal`. -/
def hRxSeqNormal (r : RcvVars) (p : Segment) : SeqResult :=
  if seqLeq p.seq r.rcvNxt ∧ seqGeq (lastSeq p) r.rcvNxt then
    let todrop := seqDiff r.rcvNxt p.seq
    { verdict := .acceptAndHandle
      rcv := { r with
        tcpDataStart := todrop
        tcpDataLen := acceptedLen r p
        rcvNxt := (r.rcvNxt + acceptedLen r p) % 4294967296 }
      seg := { p with
        seq := (p.seq + todrop) % 4294967296
        dlen := p.dlen - (todrop - p.fin.toInt - p.syn.toInt)
        -- the FIN is taken out when it lies beyond the window
        fin := p.fin && !decide (seqGeq (lastSeq p) r.rcvAdv) } }
  else if seqGt p.seq r.rcvNxt ∧ seqLt p.seq r.rcvAdv then ⟨.acceptButBuffer, r, p⟩
  else ⟨.drop, r, p⟩

/-- `_h_rx_seq`: the dispatch over `rcv_seq_map`. -/
def hRxSeq (r : RcvVars) (p : Segment) : SeqResult :=
  if p.dlen + p.fin.toInt + p.syn.toInt = 0 then
    if r.rcvWnd = 0 then hRxSeqZlenZwnd r p else hRxSeqZlen r p
  else if r.rcvWnd = 0 then hRxSeqZwnd r p else hRxSeqNormal r p

/-- What the sequence check leaves alone. -/
structure SeqResult.Keeps (o : SeqResult) (r : RcvVars) (p : Segment) : Prop where
  ackSeq : o.seg.ackSeq = p.ackSeq
  rst : o.seg.rst = p.rst
  syn : o.seg.syn = p.syn
  data : o.seg.data = p.data
  rcvBuf : o.rcv.rcvBuf = r.rcvBuf
  rcvWnd : o.rcv.rcvWnd = r.rcvWnd
  rcvAdv : o.rcv.rcvAdv = r.rcvAdv

theorem hRxSeq_keeps (r : RcvVars) (p : Segment) : (hRxSeq r p).Keeps r p := by
  unfold hRxSeq hRxSeqZlenZwnd hRxSeqZlen hRxSeqZwnd hRxSeqNormal
  split_ifs <;> exact ⟨rfl, rfl, rfl, rfl, rfl, rfl, rfl⟩

theorem hRxSeq_ackSeq (r : RcvVars) (p : Segment) : (hRxSeq r p).seg.ackSeq = p.ackSeq :=
  (hRxSeq_keeps r p).ackSeq

/-- `_h_rx_seq_check`: the receive window check of the closing states. -/
def hRxSeqCheck (r : RcvVars) (p : Segment) : Prop :=
  seqGeq p.seq r.rcvNxt ∧ seqLt p.seq r.rcvAdv

instance (r : RcvVars) (p : Segment) : Decidable (hRxSeqCheck r p) :=
  inferInstanceAs (Decidable (_ ∧ _))

/-- `_compute_rcv_wnd`. -/
def computeRcvWnd (r : RcvVars) : RcvVars :=
  let newRcvAdv := (r.rcvBuf.freeSpace + r.rcvNxt) % 4294967296
  { r with
    rcvWnd := r.rcvBuf.freeSpace
    rcvAdv := if seqGt newRcvAdv r.rcvAdv then newRcvAdv else r.rcvAdv }

/-- `data[start : stop]` with two Python indices that are not negative. -/
def pySlice (data : List UInt8) (start stop : Int) : List UInt8 := slice data start.toNat stop.toNat

/-- `_append_rcv_data`. The slice ends at `tcp_data_len`, not at `tcp_data_start + tcp_data_len`. -/
def appendRcvData (r : RcvVars) (p : Segment) : RcvVars :=
  let r := computeRcvWnd r
  if r.rcvWnd = 0 then r
  else if p.data = [] then r
  else { r with
    rcvBuf := (r.rcvBuf.enqueue (pySlice p.data r.tcpDataStart r.tcpDataLen)).1
    rcvWnd := r.rcvWnd - r.tcpDataLen }

/-- `_init_rcv_seq`. -/
def initRcvSeq (r : RcvVars) (p : Segment) : RcvVars :=
  { r with
    irs := p.seq
    rcvNxt := (p.seq + 1) % 4294967296
    rcvAdv := ((p.seq + 1) % 4294967296 + r.rcvWnd) % 4294967296 }

/-! ## Helpers of the send side -/

/-- `_h_rx_ack`: the send side after it, and the number of sequence numbers acked. -/
def hRxAck (s : SndVars) (p : Segment) : SndVars × Int :=
  if seqLeq p.ackSeq s.sndUna ∨ seqGt p.ackSeq s.sndNxt then (s, 0)
  else ({ s with sndUna := p.ackSeq }, seqDiff p.ackSeq s.sndUna)

/-- `_h_rx_wnd`. -/
def hRxWnd (s : SndVars) (p : Segment) : SndVars :=
  if seqLt s.sndWl1 p.seq ∨ p.seq = s.sndWl1 ∧ seqLt s.sndWl2 p.ackSeq then
    { s with sndWl1 := p.seq, sndWl2 := p.ackSeq, sndWnd := p.window }
  else s

/-- `_init_snd_wnd`. -/
def initSndWnd (s : SndVars) (p : Segment) : SndVars :=
  { s with sndWnd := p.window, sndWl1 := p.seq, sndWl2 := p.ackSeq }

/-- `_init_snd_seq`. -/
def initSndSeq (s : SndVars) : SndVars :=
  { s with sndUna := s.iss, sndNxt := s.iss, sndMax := s.iss }

/-- `_rollback_to_una`. -/
def rollbackToUna (s : SndVars) : SndVars :=
  { s with sndBuf := s.sndBuf.rollBackToR, sndNxt := s.sndUna }

/-- `tcpcb.snd_buf.free(n)`. -/
def freeSndBuf (s : SndVars) (n : Int) : SndVars := { s with sndBuf := s.sndBuf.free n }

def TCP_MAX_TX_BYTES : Nat := 10000

/-- `_drain_snd_buf`: the bytes that the views it returns show at this time, and the send side after
it. -/
def drainSndBuf (s : SndVars) : List (List UInt8) × SndVars :=
  let out := s.sndBuf.dequeue (min TCP_MAX_TX_BYTES s.sndWnd)
  (out.1.map (View.bytes s.sndBuf.ring), { s with sndBuf := out.2 })

/-- `_generate_segment_payload`: the next bytes to send and the views that are left. -/
def generateSegmentPayload (n : Nat) : List (List UInt8) → List UInt8 × List (List UInt8)
  | [] => ([], [])
  | buf :: bufs => if buf.length ≤ n then (buf, bufs) else (buf.take n, buf.drop n :: bufs)

/-! ## Outcomes -/

/-- What can stop the event loop: an exception, or a handler that does not return. -/
inductive Fault where
  | raised (e : PyError)
  | hang
deriving DecidableEq

/-- The state a handler leaves, and the fault it ends with. -/
structure Outcome where
  st : Conn
  fault : Option Fault

def Outcome.ok (c : Conn) : Outcome := ⟨c, none⟩

def Outcome.raise (c : Conn) (e : PyError) : Outcome := ⟨c, some (.raised e)⟩

@[simp] theorem Outcome.ok_st (c : Conn) : (Outcome.ok c).st = c := rfl

@[simp] theorem Outcome.ok_fault (c : Conn) : (Outcome.ok c).fault = none := rfl

@[simp] theorem Outcome.raise_st (c : Conn) (e : PyError) : (Outcome.raise c e).st = c := rfl

@[simp] theorem Outcome.raise_fault (c : Conn) (e : PyError) :
    (Outcome.raise c e).fault = some (.raised e) := rfl

/-! ## Sending -/

def MTU : Nat := 1500

/-- The length of the IP packet a segment is sent in: 20 bytes of IP header and the TCP header. -/
def TxTcp.ipLen (seg : TxTcp) : Nat := 40 + (if seg.mssOption then 4 else 0) + seg.data.length

/-- A segment with no flags, options and data. -/
def TxTcp.bare (seq ackSeq window : Int) : TxTcp :=
  { seq := seq, ackSeq := ackSeq, ack := false, psh := false, rst := false, syn := false,
    fin := false, window := window, mssOption := false, data := [] }

namespace Conn

variable (c : Conn)

/-- An update of the receive side. -/
@[simps] def setRcv (r : RcvVars) : Conn := { c with tcb := c.tcb.setRcv r }

/-- An update of the send side. -/
@[simps] def setSnd (s : SndVars) : Conn := { c with tcb := c.tcb.setSnd s }

@[simps] def setRto (x : RtoVars) : Conn := { c with tcb := c.tcb.setRto x }

@[simps] def setAckNow (b : Bool) : Conn := { c with tcb := c.tcb.setAckNow b }

/-- `_change_state`. -/
@[simps] def changeState (new : STATES) : Conn := { c with tcb := c.tcb.setState new }

/-- The segment at `snd_nxt` with the current acknowledgement and window. -/
def header : TxTcp := TxTcp.bare c.tcb.snd.sndNxt c.tcb.rcv.rcvNxt c.tcb.rcv.rcvWnd

/-- `_signal_rst`. -/
def signalRst : Conn := (c.notify .recvEvents).notify .sendEvents

/-- `_rtt_probe`. -/
def rttProbe : Conn :=
  if c.tcb.rto.rtt = none then
    c.setRto { c.tcb.rto with rtt := some (c.core.nowNs / 1000000000) }
  else c

/-- `_rtt_sample`. -/
def rttSample : Conn :=
  match c.tcb.rto.rtt with
  | some rtt => c.setRto (c.tcb.rto.setNewRto (c.core.nowNs / 1000000000 - rtt))
  | none => c

/-- The tokens that have come in since the last refill. -/
def refillChallenge (x : Challenge) (nowNs : Int) : Challenge :=
  let elapsedSec := (nowNs - x.lastChallengeAckTimestamp) / 1000000000
  if 0 < elapsedSec then
    ⟨min MAX_TCP_CHALLENGE_ACK_LIMIT
      (x.challengeAckLimit + TCP_CHALLENGE_ACK_RATE_HZ * elapsedSec), nowNs⟩
  else x

/-- `_send_challenge_ack`. -/
def sendChallengeAck : Conn :=
  let x := refillChallenge c.tcb.challenge c.core.nowNs
  if x.challengeAckLimit ≤ 0 then c.onTcb (·.setChallenge x)
  else (c.onTcb (·.setChallenge { x with challengeAckLimit := x.challengeAckLimit - 1 })).txTcp
    { c.header with ack := true }

/-- `_send_ack`. -/
def sendAck : Conn := c.txTcp { c.header with ack := true }

/-- `snd_nxt = (snd_nxt + 1) & 0xFF_FF_FF_FF`. -/
def bumpNxt : Conn :=
  c.setSnd { c.tcb.snd with sndNxt := (c.tcb.snd.sndNxt + 1) % 4294967296 }

/-- `_send_fin`. -/
def sendFin (nextState : Option STATES) : Conn :=
  if c.tcb.snd.sentFin then
    if seqGt c.tcb.snd.sndMax c.tcb.snd.sndNxt then
      (c.txTcp { c.header with ack := true, fin := true }).bumpNxt.startRtxTimer
    else c
  else
    let c := (c.setSnd { c.tcb.snd with sentFin := true }).rttProbe
    let c := (c.txTcp { c.header with ack := true, fin := true }).bumpNxt
    let c := (c.setSnd { c.tcb.snd with sndMax := c.tcb.snd.sndNxt }).startRtxTimer
    nextState.elim c c.changeState

/-- `_send_rst`. -/
def sendRst : Conn := c.txTcp { c.header with ack := true, rst := true, window := 0 }

/-- `_drop_with_reset`. -/
def dropWithReset (p : Segment) : Conn :=
  if p.ack then c.txTcp { TxTcp.bare p.ackSeq 0 0 with rst := true }
  else c.txTcp { c.header with ack := true, rst := true, window := 0 }

/-- What `_h_rx_rst` does when the segment has RST set; it returns `True` exactly then. -/
def hRxRst (errno : Errno) : Conn :=
  ((c.onCore (·.setSoError c.tcb.so errno)).stopAllTimers.changeState .closed).removeTcpcb

/-- When `_h_active_close_tx` aborts the connection: a close with `SO_LINGER` on and a zero time. -/
def ActiveCloseTx (closeRequested : Bool) : Prop :=
  closeRequested = true ∧ c.tcb.req.soLinger = some SO_LINGER_ON

instance (closeRequested : Bool) : Decidable (c.ActiveCloseTx closeRequested) :=
  inferInstanceAs (Decidable (_ ∧ _))

/-- What `_h_active_close_tx` does then. -/
def hActiveCloseTx : Conn := (c.stopAllTimers.sendRst.changeState .closed).removeTcpcb

/-- When `_h_active_close_rx` aborts the connection: data after a close. -/
def ActiveCloseRx (p : Segment) : Prop := c.tcb.req.closeRequested = true ∧ p.dlen ≠ 0

instance (p : Segment) : Decidable (c.ActiveCloseRx p) := inferInstanceAs (Decidable (_ ∧ _))

/-- What `_h_active_close_rx` does then. -/
def hActiveCloseRx (p : Segment) : Conn :=
  ((c.stopAllTimers.dropWithReset p).changeState .closed).removeTcpcb

/-- `_compute_rcv_wnd` on the control block. -/
def computeWnd : Conn := c.setRcv (computeRcvWnd c.tcb.rcv)

/-- `_append_rcv_data` on the control block, with its notification. -/
def appendData (p : Segment) : Conn :=
  let c' := c.setRcv (appendRcvData c.tcb.rcv p)
  if (computeRcvWnd c.tcb.rcv).rcvWnd = 0 ∨ p.data = [] then c' else c'.notify .recvEvents

/-- `_h_rx_wnd` on the control block. -/
def updateWnd (p : Segment) : Conn := c.setSnd (hRxWnd c.tcb.snd p)

/-- `tcpcb.snd_buf.free(n)` on the control block. -/
def freeSnd (n : Int) : Conn := c.setSnd (freeSndBuf c.tcb.snd n)

/-- The retransmission timer after an acknowledgement. -/
def ackTimer : Conn :=
  if c.tcb.snd.sndNxt = c.tcb.snd.sndUna then c.stopRtxTimer else c.restartRtxTimer

end Conn

/-! ## The transmission loop -/

/-- One data segment of `_tx_loop`. -/
def Conn.dataSegment (c : Conn) (data : List UInt8) (fin : Bool) : TxTcp :=
  { c.header with ack := true, psh := true, fin := fin, data := data }

/-- The control block after a data segment was sent. -/
def Conn.afterSegment (c : Conn) (data : List UInt8) (fin : Bool) : Conn :=
  let c := c.txTcp (c.dataSegment data fin)
  let nxt := (c.tcb.snd.sndNxt + data.length + fin.toInt) % 4294967296
  let c := c.setSnd { c.tcb.snd with sndNxt := nxt }
  if seqGt nxt c.tcb.snd.sndMax then (c.setSnd { c.tcb.snd with sndMax := nxt }).rttProbe else c

/-- The loop of `_tx_loop`: `turns` bounds the turns it can take, `data` has the views to send, and
`dlen`, `sndWnd` and `counter` are its variables. A turn that sends nothing would go on for ever. -/
def txTurns (nextState : Option STATES) (wantFin : Bool) :
    Nat → Conn → List (List UInt8) → (dlen sndWnd counter : Nat) → Outcome
  | 0, c, _, dlen, _, _ => if dlen = 0 then .ok c.startRtxTimer else ⟨c, some .hang⟩
  | turns + 1, c, data, dlen, sndWnd, counter =>
    if dlen = 0 then .ok c.startRtxTimer
    else
      let seg := generateSegmentPayload (min (min c.tcb.snd.remoteMss sndWnd) dlen) data
      let shouldFin := wantFin && seg.2.isEmpty
      -- `tx_ip` would have to fragment the packet, and raises
      if MTU < (c.dataSegment seg.1 shouldFin).ipLen then .raise c .attributeError
      else
        let c := c.afterSegment seg.1 shouldFin
        if shouldFin then
          let c := c.setSnd { c.tcb.snd with sentFin := true }
          .ok (nextState.elim c c.changeState).startRtxTimer
        else if sndWnd - seg.1.length = 0 then .ok c.startRtxTimer
        else if TCP_MAX_TX_BYTES ≤ counter + seg.1.length then .ok c.startRtxTimer
        else txTurns nextState wantFin turns c seg.2 (dlen - seg.1.length) (sndWnd - seg.1.length)
          (counter + seg.1.length)

/-- `_tx_loop`. -/
def txLoop (c : Conn) (data : List (List UInt8)) (nextState : Option STATES)
    (shutdownRequested closeRequested : Bool) : Outcome :=
  let dlen := (data.map List.length).sum
  if c.ActiveCloseTx closeRequested then .ok c.hActiveCloseTx
  else txTurns nextState (shutdownRequested || closeRequested) dlen c data dlen c.tcb.snd.sndWnd 0

/-! ## The handlers -/

namespace Conn

variable (c : Conn)

/-- `_activ_open`, for the event `CONNECT`. -/
def activOpen : Conn :=
  let c := c.txTcp { TxTcp.bare c.tcb.snd.iss 0 DEFAULT_RCV_WND with
    syn := true, mssOption := true }
  let c := (c.rttProbe.setSnd (initSndSeq c.tcb.snd)).bumpNxt
  let c := c.setSnd { c.tcb.snd with sndMax := c.tcb.snd.sndNxt }
  (c.changeState .synSent).startRtxTimer

/-! ### `SYN_SENT` and `SYN_RECV` -/

/-- The data of a SYN-ACK goes to the receive buffer. -/
def synSentData (p : Segment) : Conn :=
  if 0 < p.dlen then
    let r := c.tcb.rcv
    let e := r.rcvBuf.enqueue p.data
    c.setRcv { r with
      rcvBuf := e.1
      rcvWnd := r.rcvWnd - e.2
      rcvNxt := (r.rcvNxt + e.2) % 4294967296 }
  else c

/-- The rest of the handshake once the MSS of the peer is known. -/
def synSentEstab (p : Segment) : Conn :=
  let c' := (c.synSentData p).sendAck
  let c' := (c'.changeState .estab).notify .connectEvents
  if 0 < p.dlen ∧ 0 < (c.tcb.rcv.rcvBuf.enqueue p.data).2 then c'.notify .recvEvents else c'

/-- The SYN-ACK of the peer is accepted up to the point where its options are read. -/
def synSentAccept (p : Segment) : Conn :=
  let c := (c.setSnd (hRxAck c.tcb.snd p).1).rttSample.stopRtxTimer
  (c.setRcv (initRcvSeq c.tcb.rcv p)).setSnd (initSndWnd c.tcb.snd p)

/-- A simultaneous open. -/
def synSentSimultaneous (p : Segment) : Conn :=
  let c := c.stopRtxTimer
  let c := c.setSnd (rollbackToUna c.tcb.snd)
  let c := c.setRto { c.tcb.rto with rtt := none }
  let c := (c.setRcv (initRcvSeq c.tcb.rcv p)).setSnd (initSndWnd c.tcb.snd p)
  let c := (c.txTcp { c.header with syn := true, ack := true }).rttProbe
  c.bumpNxt.startRtxTimer.changeState .synRecv

/-- `_rx_syn_sent`. -/
def rxSynSent (p : Segment) : Outcome :=
  if p.rst = true ∧ 0 < (hRxAck c.tcb.snd p).2 then
    let c := (c.setSnd (hRxAck c.tcb.snd p).1).stopRtxTimer
    .ok ((c.onCore (·.setSoError c.tcb.so .econnrefused)).notify .connectEvents)
  else if p.fin then .ok c
  else if p.syn = true ∧ p.ack = true then
    if 0 < (hRxAck c.tcb.snd p).2 then
      let c := c.synSentAccept p
      match p.options with
      | .error e => .raise c e
      | .ok mss =>
        .ok ((c.setSnd { c.tcb.snd with remoteMss := mss.getD 536 }).synSentEstab p)
    else .ok (c.dropWithReset p)
  else if p.syn then .ok (c.synSentSimultaneous p)
  else .ok c

/-- `_tx_syn_sent`. -/
def txSynSent : Conn := (c.txTcp { c.header with syn := true }).bumpNxt.startRtxTimer

/-- The SYN of the peer was consumed before, and any data is ignored. -/
def synRecvSegment (p : Segment) : Segment :=
  if 0 < c.tcb.rcv.rcvNxt - p.seq then
    { p with seq := (p.seq + 1) % 4294967296, syn := false, dlen := 0 }
  else { p with dlen := 0 }

/-- `_rx_syn_recv`. -/
def rxSynRecv (p : Segment) : Conn :=
  if p.ack = true ∧ p.syn = true then
    if seqLt p.seq c.tcb.rcv.irs then c.dropWithReset p
    else
      let res := hRxSeq c.tcb.rcv (c.synRecvSegment p)
      let c := c.setRcv res.rcv
      if res.verdict = .drop then c.sendAck
      else if 0 < (hRxAck c.tcb.snd res.seg).2 then
        let c := (c.setSnd (hRxAck c.tcb.snd res.seg).1).rttSample.stopRtxTimer
        (((c.updateWnd res.seg).sendAck).changeState .estab).notify .connectEvents
      else c.dropWithReset res.seg
  else c

/-- `_tx_syn_recv`. -/
def txSynRecv : Conn := (c.txTcp { c.header with syn := true, ack := true }).bumpNxt.startRtxTimer

/-! ### `ESTAB` -/

/-- The acknowledgement of a segment in `ESTAB`. -/
def estabAck (p : Segment) : Conn :=
  let a := hRxAck c.tcb.snd p
  let c := c.setSnd a.1
  if 0 < a.2 then ((c.rttSample.ackTimer).freeSnd a.2).notify .sendEvents else c

/-- A segment in order in `ESTAB`, without RST and SYN. -/
def estabAccept (p : Segment) : Conn :=
  let c := if 0 < p.dlen ∨ p.fin = true then c.setAckNow true else c
  let c := (((c.estabAck p).updateWnd p).appendData p)
  let c := if p.fin then (c.changeState .closeWait).notify .recvEvents else c
  c.scheduleEvent .send

/-- `_rx_estab`. -/
def rxEstab (p : Segment) : Conn :=
  let res := hRxSeq c.tcb.rcv p
  let c := c.setRcv res.rcv
  match res.verdict with
  | .acceptAndHandle =>
    if res.seg.rst then (c.hRxRst .econnreset).signalRst
    else if res.seg.syn then c.sendChallengeAck
    else c.estabAccept res.seg
  | .acceptButBuffer => (c.setAckNow true).scheduleEvent .send
  | .drop => c.sendChallengeAck

/-- `_tx_estab`. -/
def txEstab : Outcome :=
  let d := drainSndBuf c.tcb.snd
  let c := (c.setSnd d.2).computeWnd
  let req := c.tcb.req
  if d.1 = [] then
    if c.ActiveCloseTx req.closeRequested then .ok c.hActiveCloseTx
    else if (req.closeRequested = true ∨ req.shutdownRequested = true) ∧ 0 < c.tcb.snd.sndWnd then
      .ok ((c.sendFin (some .finWait1)).setAckNow false)
    else if c.tcb.ackNow then .ok (c.sendAck.setAckNow false)
    else .ok c
  else txLoop c d.1 (some .finWait1) req.shutdownRequested req.closeRequested

/-! ### `FIN_WAIT_1` and `FIN_WAIT_2` -/

/-- The acknowledgement of a segment in `FIN_WAIT_1`. -/
def finWait1Ack (p : Segment) : Conn :=
  let a := hRxAck c.tcb.snd p
  let c := c.setSnd a.1
  if 0 < a.2 then
    let c :=
      if c.tcb.snd.sndNxt = c.tcb.snd.sndUna then
        -- the FIN takes a sequence number but no byte of the buffer
        let c := c.stopRtxTimer.freeSnd (a.2 - 1)
        if p.fin then (c.changeState .timeWait).startTimeWaitTimer else c.changeState .finWait2
      else
        let c := c.restartRtxTimer.freeSnd a.2
        if p.fin then c.changeState .closing else c
    c.computeWnd
  else c

/-- A segment in order in `FIN_WAIT_1`, without RST and SYN. -/
def finWait1Accept (p : Segment) : Conn :=
  let c := if p.dlen ≠ 0 ∨ p.fin = true then c.setAckNow true else c
  let c := ((c.finWait1Ack p).updateWnd p).appendData p
  if c.tcb.ackNow then c.sendAck else c

/-- `_rx_fin_wait_1`. -/
def rxFinWait1 (p : Segment) : Conn :=
  let res := hRxSeq c.tcb.rcv p
  let c := c.setRcv res.rcv
  match res.verdict with
  | .acceptAndHandle =>
    if res.seg.rst then (c.hRxRst .econnreset).signalRst
    else if c.ActiveCloseRx res.seg then (c.hActiveCloseRx res.seg).signalRst
    else if res.seg.syn then c.sendChallengeAck
    else c.finWait1Accept res.seg
  | .acceptButBuffer => c.sendAck
  | .drop => c.sendChallengeAck

/-- `_tx_fin_wait_1`. -/
def txFinWait1 : Outcome :=
  let d := drainSndBuf c.tcb.snd
  let c := (c.setSnd d.2).computeWnd
  if d.1 = [] then
    if c.ActiveCloseTx c.tcb.req.closeRequested then .ok c.hActiveCloseTx
    else if 0 < c.tcb.snd.sndWnd then .ok (c.sendFin none)
    else .ok c
  else txLoop c d.1 none true false

/-- A segment in order in `FIN_WAIT_2`, without RST and SYN. -/
def finWait2Accept (p : Segment) : Conn :=
  let c := if 0 < p.dlen ∨ p.fin = true then c.setAckNow true else c
  let c := c.computeWnd
  let c := (c.setSnd (hRxAck c.tcb.snd p).1).updateWnd p
  let c := if p.fin then (c.changeState .timeWait).startTimeWaitTimer else c
  (c.appendData p).sendAck

/-- `_rx_fin_wait_2`. -/
def rxFinWait2 (p : Segment) : Conn :=
  let res := hRxSeq c.tcb.rcv p
  let c := c.setRcv res.rcv
  match res.verdict with
  | .acceptAndHandle =>
    if res.seg.rst then (c.hRxRst .econnreset).signalRst
    else if c.ActiveCloseRx res.seg then (c.hActiveCloseRx res.seg).signalRst
    else if res.seg.syn then c.sendChallengeAck
    else c.finWait2Accept res.seg
  | .acceptButBuffer => c.sendAck
  | .drop => c.sendChallengeAck

/-- `_tx_fin_wait_2`. -/
def txFinWait2 : Conn :=
  if c.ActiveCloseTx c.tcb.req.closeRequested then c.hActiveCloseTx else c

/-! ### `CLOSING`, `CLOSE_WAIT` and `LAST_ACK` -/

/-- The acknowledgement of a segment in `CLOSING`. -/
def closingAck (p : Segment) : Conn :=
  let a := hRxAck c.tcb.snd p
  let c := c.setSnd a.1
  if 0 < a.2 then
    if c.tcb.snd.sndUna = c.tcb.snd.sndNxt then
      ((c.stopRtxTimer.changeState .timeWait).startTimeWaitTimer).freeSnd (a.2 - 1)
    else c.restartRtxTimer.freeSnd a.2
  else c

/-- `_rx_closing`. -/
def rxClosing (p : Segment) : Conn :=
  if hRxSeqCheck c.tcb.rcv p then
    if p.rst then (c.hRxRst .econnreset).signalRst
    else if c.ActiveCloseRx p then (c.hActiveCloseRx p).signalRst
    else if p.syn then c.sendChallengeAck
    else (c.closingAck p).updateWnd p
  else c.sendAck

/-- `_tx_closing`. -/
def txClosing : Outcome :=
  let d := drainSndBuf c.tcb.snd
  let c := c.setSnd d.2
  if d.1 = [] then
    if c.ActiveCloseTx c.tcb.req.closeRequested then .ok c.hActiveCloseTx
    else if 0 < c.tcb.snd.sndWnd then .ok (c.sendFin none)
    else .ok c
  else txLoop c d.1 none true false

/-- The acknowledgement of a segment in `CLOSE_WAIT`. -/
def closeWaitAck (p : Segment) : Conn :=
  let a := hRxAck c.tcb.snd p
  let c := c.setSnd a.1
  let c := if 0 < a.2 then c.rttSample.ackTimer else c
  (c.updateWnd p).freeSnd a.2

/-- `_rx_close_wait`. -/
def rxCloseWait (p : Segment) : Conn :=
  if hRxSeqCheck c.tcb.rcv p then
    if p.rst then (c.hRxRst .econnreset).signalRst
    else if c.ActiveCloseRx p then (c.hActiveCloseRx p).signalRst
    else if p.syn then c.sendChallengeAck
    else (c.closeWaitAck p).scheduleEvent .send
  else c.scheduleEvent .send

/-- `_tx_close_wait`. -/
def txCloseWait : Outcome :=
  let req := c.tcb.req
  let c := c.computeWnd
  let d := drainSndBuf c.tcb.snd
  let c := c.setSnd d.2
  if d.1 = [] then
    if c.ActiveCloseTx req.closeRequested then .ok c.hActiveCloseTx
    else if (req.closeRequested = true ∨ req.shutdownRequested = true) ∧ 0 < c.tcb.snd.sndWnd then
      .ok (c.sendFin (some .lastAck))
    else if c.tcb.ackNow then .ok (c.sendAck.setAckNow false)
    else .ok c
  else txLoop c d.1 (some .lastAck) req.shutdownRequested req.closeRequested

/-- The acknowledgement of a segment in `LAST_ACK`. -/
def lastAckAck (p : Segment) : Conn :=
  let a := hRxAck c.tcb.snd p
  let c := c.setSnd a.1
  if 0 < a.2 then
    let c := c.rttSample
    if c.tcb.snd.sndUna = c.tcb.snd.sndNxt then
      (c.stopRtxTimer.freeSnd (a.2 - 1)).changeState .closed
    else c.restartRtxTimer.freeSnd a.2
  else c

/-- `_rx_last_ack`. -/
def rxLastAck (p : Segment) : Conn :=
  if hRxSeqCheck c.tcb.rcv p then
    if p.rst then (c.hRxRst .econnreset).signalRst
    else if p.syn then c.sendChallengeAck
    else (c.lastAckAck p).updateWnd p
  else c

/-- `_tx_last_ack`. -/
def txLastAck : Outcome :=
  let d := drainSndBuf c.tcb.snd
  let c := c.setSnd d.2
  if d.1 = [] then
    if 0 < c.tcb.snd.sndWnd then .ok (c.sendFin none) else .ok c
  else txLoop c d.1 none true false

/-- `_rx_time_wait`. -/
def rxTimeWait (p : Segment) : Conn :=
  if p.fin then c.sendAck.stopTimeWaitTimer.startTimeWaitTimer else c

/-! ### Dispatch -/

/-- `rx`: the entry of `_rx_map`; that of `LISTEN` is `None`, and calling it raises. -/
def rx (packet : TCPParser) : Outcome :=
  let p := packet.segment
  match c.tcb.state with
  | .listen => .raise c .typeError
  | .synSent => c.rxSynSent p
  | .synRecv => .ok (c.rxSynRecv p)
  | .estab => .ok (c.rxEstab p)
  | .finWait1 => .ok (c.rxFinWait1 p)
  | .finWait2 => .ok (c.rxFinWait2 p)
  | .closeWait => .ok (c.rxCloseWait p)
  | .closing => .ok (c.rxClosing p)
  | .lastAck => .ok (c.rxLastAck p)
  | .timeWait => .ok (c.rxTimeWait p)
  | .closed => .ok c

/-- `tx`: the entry of `_tx_map`; those of `LISTEN` and `TIME_WAIT` are `None`. -/
def tx : Outcome :=
  match c.tcb.state with
  | .listen => .raise c .typeError
  | .synSent => .ok c.txSynSent
  | .synRecv => .ok c.txSynRecv
  | .estab => c.txEstab
  | .finWait1 => c.txFinWait1
  | .finWait2 => .ok c.txFinWait2
  | .closeWait => c.txCloseWait
  | .closing => c.txClosing
  | .lastAck => c.txLastAck
  | .timeWait => .raise c .typeError
  | .closed => .ok c

/-- What `rtx` does before it calls `tx`. -/
def prepareRtx : Conn :=
  ((c.setRto c.tcb.rto.backOffRto).setSnd (rollbackToUna c.tcb.snd)).onTcb (·.setRtxTimer none)

/-- `rtx`. -/
def rtx : Outcome := c.prepareRtx.tx

end Conn

end Tipy.Tcp
