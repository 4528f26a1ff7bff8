import Tipy.Buffer.RRing
import Tipy.Tcp.Stack

/-!
# One call of `tcp_send`

The loop of `tcp_send` against an event loop that works on the same send buffer while the call
waits: a schedule gives, for each wait, the `free` and `dequeue` calls made before the wait ends.
The bytes a turn appended are read back from the ring.

The view of the data is never moved on, so every turn offers it from its first byte, and the
remaining length is compared with zero only after a turn has taken what fits. `tcpSend_exact_iff`:
the call is sure to append its data once and in order exactly when the first turn takes all of it,
or when there is at most one byte to send.
-/

namespace Tipy.Tcp

open Tipy.Buffer Tipy.Lib

/-- What the event loop does to the send buffer while `tcp_send` waits. -/
inductive LoopOp where
  | free (k : Nat)
  | dequeue (n : Nat)
deriving Repr, DecidableEq

def LoopOp.apply (b : RRingBuffer) : LoopOp → RRingBuffer
  | .free k => b.free k
  | .dequeue n => (b.dequeue n).2

/-- A call of `tcp_send` under way. -/
structure SendCall where
  sndBuf : RRingBuffer
  /-- the remaining length -/
  dlen : Int
  /-- the bytes the turns so far have put into the buffer -/
  appended : List UInt8
  returned : Option Nat

namespace SendCall

/-- The call before its loop. -/
def start (b : RRingBuffer) (data : List UInt8) : SendCall :=
  ⟨b, data.length, [], if data = [] then some data.length else none⟩

/-- One turn: the whole of `data` is offered to the buffer. -/
def turn (data : List UInt8) (t : SendCall) : SendCall :=
  let res := t.sndBuf.enqueue data
  let dlen := t.dlen - res.2
  { sndBuf := res.1
    dlen := dlen
    appended := t.appended ++ loadCyc res.1.ring res.1.size t.sndBuf.vw res.2
    returned := if 0 < dlen then none else some data.length }

/-- What the event loop does during one wait. -/
def wait (t : SendCall) (ops : List LoopOp) : SendCall :=
  { t with sndBuf := ops.foldl LoopOp.apply t.sndBuf }

/-- The loop. With no wait left in the schedule the call is still waiting, or has returned. -/
def loop (data : List UInt8) (t : SendCall) : List (List LoopOp) → SendCall
  | [] => t.turn data
  | ops :: waits =>
    let t := t.turn data
    if 0 < t.dlen then loop data (t.wait ops) waits else t

end SendCall

/-- `tcp_send` on a buffer, under a schedule. -/
def tcpSend (b : RRingBuffer) (data : List UInt8) (waits : List (List LoopOp)) : SendCall :=
  if 0 < (SendCall.start b data).dlen then (SendCall.start b data).loop data waits
  else .start b data

namespace SendCall

variable (t : SendCall) (data : List UInt8)

/-! ## One turn -/

theorem turn_dlen : (t.turn data).dlen = t.dlen - t.sndBuf.room data := by
  rw [turn, RRingBuffer.enqueue_eq]

theorem turn_returned :
    (t.turn data).returned = if 0 < (t.turn data).dlen then none else some data.length := rfl

/-- A turn puts a prefix of the data into the buffer, whatever went before. -/
theorem turn_appended : (t.turn data).appended = t.appended ++ data.take (t.sndBuf.room data) := by
  have hlt := t.sndBuf.ready_lt
  have hlen : (data.take (t.sndBuf.room data)).length = t.sndBuf.room data := by
    simp [RRingBuffer.room]
  have hstore := loadCyc_storeCyc t.sndBuf.ring t.sndBuf.vw 0 (data.take (t.sndBuf.room data))
    t.sndBuf.size_pos (by rw [hlen, RRingBuffer.room]; omega)
  rw [Nat.add_zero, Nat.mod_eq_of_lt t.sndBuf.vw_lt, loadCyc_zero, List.nil_append, hlen,
    Nat.zero_add] at hstore
  rw [turn, RRingBuffer.enqueue_eq]
  exact congrArg (t.appended ++ ·) hstore

/-- What is appended and what remains add up. -/
theorem turn_balance : (t.turn data).dlen + (t.turn data).appended.length =
    t.dlen + t.appended.length := by
  have hroom : t.sndBuf.room data ≤ data.length := Nat.min_le_left _ _
  rw [turn_dlen, turn_appended, List.length_append, List.length_take, Nat.min_eq_left hroom]
  push_cast
  ring

theorem turn_size : (t.turn data).sndBuf.size = t.sndBuf.size := by
  rw [turn, RRingBuffer.enqueue_eq]
  rfl

theorem turn_ready : (t.turn data).sndBuf.ready = t.sndBuf.ready + t.sndBuf.room data := by
  have h := t.sndBuf.enqueue_ready data
  rw [RRingBuffer.enqueue_eq] at h
  rw [turn, RRingBuffer.enqueue_eq]
  exact h

/-! ## The loop -/

variable {t data} in
theorem loop_of_pos {ops : List LoopOp} {waits : List (List LoopOp)} (h : 0 < (t.turn data).dlen) :
    t.loop data (ops :: waits) = ((t.turn data).wait ops).loop data waits := by
  rw [loop, if_pos h]

variable {t data} in
theorem loop_of_done (waits : List (List LoopOp)) (h : ¬ 0 < (t.turn data).dlen) :
    t.loop data waits = t.turn data := by
  cases waits with
  | nil => rfl
  | cons ops waits => rw [loop, if_neg h]

theorem loop_balance (waits : List (List LoopOp)) :
    (t.loop data waits).dlen + (t.loop data waits).appended.length =
      t.dlen + t.appended.length := by
  induction waits generalizing t with
  | nil => exact t.turn_balance data
  | cons ops waits ih =>
    by_cases hpos : 0 < (t.turn data).dlen
    · rw [loop_of_pos hpos]
      exact (ih _).trans (t.turn_balance data)
    · rw [loop_of_done _ hpos]
      exact t.turn_balance data

/-- The loop ends with a turn, so it has returned exactly when nothing remains. -/
theorem loop_returned (waits : List (List LoopOp)) :
    (t.loop data waits).returned =
      if 0 < (t.loop data waits).dlen then none else some data.length := by
  induction waits generalizing t with
  | nil => exact t.turn_returned data
  | cons ops waits ih =>
    by_cases hpos : 0 < (t.turn data).dlen
    · rw [loop_of_pos hpos]
      exact ih _
    · rw [loop_of_done _ hpos]
      exact t.turn_returned data

/-- The first turn takes everything. -/
theorem loop_of_fits (waits : List (List LoopOp)) (hdlen : t.dlen = data.length)
    (hfits : data.length ≤ t.sndBuf.freeSpace) :
    (t.loop data waits).appended = t.appended ++ data ∧
      (t.loop data waits).returned = some data.length := by
  have hroom : t.sndBuf.room data = data.length := by
    rw [RRingBuffer.room, ← RRingBuffer.freeSpace_eq]
    exact Nat.min_eq_left hfits
  have hend : ¬ 0 < (t.turn data).dlen := by rw [turn_dlen, hroom, hdlen]; omega
  rw [loop_of_done waits hend, turn_appended, hroom, List.take_length, turn_returned, if_neg hend]
  exact ⟨rfl, rfl⟩

theorem turn_single (x : UInt8) (hdlen : t.dlen = 1) (hend : ¬ 0 < (t.turn [x]).dlen) :
    (t.turn [x]).appended = t.appended ++ [x] := by
  have hroom : t.sndBuf.room [x] ≤ 1 := Nat.min_le_left _ _
  rw [turn_dlen] at hend
  have hone : t.sndBuf.room [x] = 1 := by omega
  rw [turn_appended, hone]
  rfl

/-- A single byte is appended by the one turn that finds room. -/
theorem loop_single (waits : List (List LoopOp)) (x : UInt8) (hdlen : t.dlen = 1)
    (hend : ¬ 0 < (t.loop [x] waits).dlen) : (t.loop [x] waits).appended = t.appended ++ [x] := by
  induction waits generalizing t with
  | nil => exact t.turn_single x hdlen hend
  | cons ops waits ih =>
    by_cases hpos : 0 < (t.turn [x]).dlen
    · -- the buffer was full: nothing appended, nothing counted
      have hroom : t.sndBuf.room [x] ≤ 1 := Nat.min_le_left _ _
      have hd := t.turn_dlen [x]
      have hzero : t.sndBuf.room [x] = 0 := by omega
      have happ : (t.turn [x]).appended = t.appended := by
        rw [turn_appended, hzero, List.take_zero, List.append_nil]
      have hleft : ((t.turn [x]).wait ops).dlen = 1 := by
        simp only [wait]
        omega
      rw [loop_of_pos hpos] at hend ⊢
      rw [ih _ hleft hend]
      exact congrArg (· ++ [x]) happ
    · rw [loop_of_done _ hpos]
      exact t.turn_single x hdlen hpos

/-! ## A schedule that makes the call append too much -/

/-- Dequeuing `n` bytes of a full buffer makes room for `n` bytes. -/
theorem room_of_full {n : Nat} (hfull : t.sndBuf.ready = t.sndBuf.size - 1)
    (hn : n < t.sndBuf.size) :
    (t.wait [.dequeue n]).sndBuf.room data = min data.length n ∧
      (t.wait [.dequeue n]).sndBuf.ready = t.sndBuf.size - 1 - n := by
  have hlen := (t.sndBuf.dequeue_spec n).2.2
  have hvr : (t.sndBuf.dequeue n).2.vr = (t.sndBuf.vr + min n t.sndBuf.ready) % t.sndBuf.size := by
    rw [← hlen]
    rfl
  have hvw : (t.sndBuf.dequeue n).2.vw = (t.sndBuf.vw + 0) % t.sndBuf.size :=
    (Nat.mod_eq_of_lt t.sndBuf.vw_lt).symm
  have hmoved : (t.sndBuf.dequeue n).2.ready + min n t.sndBuf.ready = t.sndBuf.ready + 0 :=
    t.sndBuf.ready_of_moved rfl hvr hvw (Nat.min_le_right _ _) (by omega)
  have hready : (t.wait [.dequeue n]).sndBuf.ready = t.sndBuf.size - 1 - n := by
    change (t.sndBuf.dequeue n).2.ready = _
    omega
  refine ⟨?_, hready⟩
  rw [RRingBuffer.room, hready]
  change min _ (t.sndBuf.size - 1 - _) = _
  omega

/-- On a full buffer, with more than one byte of data and something left to send, the event loop can
make the call take one byte too many: it dequeues single bytes until one is left to send, and then
two at once. -/
theorem exists_overrun (hdata : 2 ≤ data.length) (rest : Nat) (hrest : 1 ≤ rest)
    (hsize : 3 ≤ t.sndBuf.size) (hfull : t.sndBuf.ready = t.sndBuf.size - 1)
    (hdlen : t.dlen = rest) :
    ∃ ops waits, ((t.wait ops).loop data waits).dlen = -1 := by
  induction rest, hrest using Nat.le_induction generalizing t with
  | base =>
    obtain ⟨hroom, -⟩ := t.room_of_full data hfull (n := 2) (by omega)
    refine ⟨[.dequeue 2], [], ?_⟩
    rw [loop, turn_dlen, hroom]
    simp only [wait]
    omega
  | succ rest hrest ih =>
    obtain ⟨hroom, hready⟩ := t.room_of_full data hfull (n := 1) (by omega)
    have hone : (t.wait [.dequeue 1]).sndBuf.room data = 1 := by omega
    have hsz : ((t.wait [.dequeue 1]).turn data).sndBuf.size = t.sndBuf.size := turn_size _ _
    have hleft : ((t.wait [.dequeue 1]).turn data).dlen = rest := by
      rw [turn_dlen, hone]
      simp only [wait]
      omega
    -- after the turn the buffer is full again
    obtain ⟨ops, waits, h⟩ := ih ((t.wait [.dequeue 1]).turn data) (by rw [hsz]; exact hsize)
      (by rw [turn_ready, hsz]; omega) hleft
    refine ⟨[.dequeue 1], ops :: waits, ?_⟩
    rw [loop_of_pos (by omega)]
    exact h

end SendCall

variable (b : RRingBuffer) (data : List UInt8)

theorem tcpSend_eq_loop (hne : data ≠ []) (waits : List (List LoopOp)) :
    tcpSend b data waits = (SendCall.start b data).loop data waits := by
  have hlen := List.length_pos_iff.2 hne
  rw [tcpSend, if_pos]
  exact Int.natCast_pos.2 hlen

/-- Data that does not fit, and is longer than one byte, is not sent exactly under every schedule.
-/
theorem fits_of_exact (hsize : 3 ≤ b.size)
    (h : ∀ waits n, (tcpSend b data waits).returned = some n →
      (tcpSend b data waits).appended = data ∧ n = data.length) :
    data.length ≤ b.freeSpace ∨ data.length ≤ 1 := by
  by_contra hnot
  simp only [not_or, Nat.not_le] at hnot
  obtain ⟨hbig, hdata⟩ := hnot
  have hne : data ≠ [] := List.length_pos_iff.1 (by omega)
  have hfree := b.freeSpace_eq
  have hroom : b.room data = b.freeSpace := by rw [RRingBuffer.room]; omega
  have hlt := b.ready_lt
  let t := SendCall.start b data
  -- the first turn fills the buffer
  have hdlen : (t.turn data).dlen = (data.length - b.freeSpace : Nat) := by
    rw [SendCall.turn_dlen]
    change (data.length : Int) - b.room data = _
    omega
  have hready : (t.turn data).sndBuf.ready = b.size - 1 := by
    rw [SendCall.turn_ready]
    change b.ready + b.room data = _
    omega
  have hsz : (t.turn data).sndBuf.size = b.size := t.turn_size data
  obtain ⟨ops, waits, hover⟩ := (t.turn data).exists_overrun data hdata (data.length - b.freeSpace)
    (by omega) (by rw [hsz]; exact hsize) (by rw [hsz]; exact hready) hdlen
  rw [← SendCall.loop_of_pos (by omega)] at hover
  -- one byte too many was counted, so one byte too many was appended
  have hbalance := t.loop_balance data (ops :: waits)
  have hret := t.loop_returned data (ops :: waits)
  rw [hover, if_neg (by omega)] at hret
  rw [← tcpSend_eq_loop b data hne] at hover hbalance hret
  rw [hover, (h _ _ hret).1] at hbalance
  change (-1 : Int) + data.length = data.length + 0 at hbalance
  omega

theorem exact_of_fits (h : data.length ≤ b.freeSpace ∨ data.length ≤ 1) (waits : List (List LoopOp))
    (n : Nat) (hret : (tcpSend b data waits).returned = some n) :
    (tcpSend b data waits).appended = data ∧ n = data.length := by
  by_cases hnil : data = []
  · subst hnil
    exact ⟨rfl, (Option.some.inj hret).symm⟩
  · rw [tcpSend_eq_loop b data hnil] at hret ⊢
    rcases h with hfits | hone
    · obtain ⟨happ, hlen⟩ := (SendCall.start b data).loop_of_fits data waits rfl hfits
      exact ⟨happ, Option.some.inj (hret.symm.trans hlen)⟩
    · have hlen := List.length_pos_iff.2 hnil
      obtain ⟨x, rfl⟩ := List.length_eq_one_iff.1 (Nat.le_antisymm hone hlen)
      have hreturned := (SendCall.start b [x]).loop_returned [x] waits
      rw [hret] at hreturned
      split at hreturned
      · exact absurd hreturned (by simp)
      · next hend =>
        exact ⟨(SendCall.start b [x]).loop_single waits x rfl hend, Option.some.inj hreturned⟩

/-- **`tcp_send` appends its data exactly when it fits.** Under every schedule of the event loop a
call that returns has appended the data once and in order, and returns its length, if and only if
the data fits into the free space found at the start or is at most one byte long. -/
theorem tcpSend_exact_iff (hsize : 3 ≤ b.size) :
    (∀ waits n, (tcpSend b data waits).returned = some n →
        (tcpSend b data waits).appended = data ∧ n = data.length) ↔
      data.length ≤ b.freeSpace ∨ data.length ≤ 1 :=
  ⟨fits_of_exact b data hsize, exact_of_fits b data⟩

/-- Two bytes fill a fresh buffer of three cells in one turn. -/
theorem tcpSend_exact_iff_fits :
    (tcpSend (.new 3 (by decide)) [1, 2] []).returned = some 2 ∧
      (tcpSend (.new 3 (by decide)) [1, 2] []).appended = [1, 2] :=
  ⟨by decide, ((tcpSend_exact_iff (.new 3 (by decide)) [1, 2] (by decide)).2 (by decide) [] 2
    (by decide)).1⟩

/-- Four bytes meet a buffer for two: the first turn takes two, the event loop reads both, and the
second turn takes the first two bytes again. -/
theorem tcpSend_repeats_prefix :
    (tcpSend (.new 3 (by decide)) [1, 2, 3, 4] [[.dequeue 2, .free 2]]).returned = some 4 ∧
      (tcpSend (.new 3 (by decide)) [1, 2, 3, 4] [[.dequeue 2, .free 2]]).appended = [1, 2, 1, 2] ∧
      (tcpSend (.new 3 (by decide)) [1, 2, 3, 4] [[.dequeue 2, .free 2]]).appended ≠
        [1, 2, 3, 4] := by
  decide

/-! ## The turns of the stack -/

/-- A turn of `tcp_send` in the stack is a turn of the call: the control block gets its buffer, and
the call goes on waiting with its remaining length when there is one. -/
theorem Stack.sendTurn_eq (s : Stack) (so tcpcb : Nat) {tcb : TCPCB} (t : SendCall)
    (htcb : s.tcbs[tcpcb]? = some tcb) (hbuf : tcb.snd.sndBuf = t.sndBuf) (hne : data ≠ []) :
    (∃ tcb', (s.sendTurn so tcpcb data t.dlen).tcbs[tcpcb]? = some tcb' ∧
        tcb'.snd.sndBuf = (t.turn data).sndBuf) ∧
      (s.sendTurn so tcpcb data t.dlen).calls =
        if 0 < (t.turn data).dlen then s.calls ++ [.sending so tcpcb data (t.turn data).dlen]
        else s.calls := by
  have hdlen : t.dlen - (tcb.snd.sndBuf.enqueue data).2 = (t.turn data).dlen := by
    rw [hbuf]
    rfl
  have hset := s.getElem?_onTcb htcb (·.tcpSend data)
  have hsnd : (Conn.tcpSend ⟨tcb, s.core⟩ data).tcb.snd.sndBuf = (t.turn data).sndBuf := by
    rw [Conn.tcpSend, if_neg hne, SendCall.turn, ← hbuf]
    rfl
  simp only [Stack.sendTurn, htcb, hdlen]
  split
  · exact ⟨⟨_, hset, hsnd⟩, by rw [s.onTcb_calls]⟩
  · exact ⟨⟨_, hset, hsnd⟩, s.onTcb_calls _ _⟩

end Tipy.Tcp
