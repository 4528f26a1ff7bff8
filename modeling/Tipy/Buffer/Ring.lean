import Mathlib.Tactic.Ring
import Tipy.Lib.Cyclic
import Tipy.Lib.Runs
import Tipy.Python

/-!
# The ring buffer

`RingBuffer` of `tipy/lib/buffer.py`: a byte ring with a read offset `r` and a write offset `w`, one
cell of which always stays unused so that `r = w` means empty. The copying in and out is shared with
the recoverable ring and is written once over a pair of offsets (`enqueueAt`, `dequeueAt`); a slice
assignment whose two sides differ in length is Python's `ValueError` and is `none` here, so that
"never raises" is a theorem. `dequeue` returns views, that is index ranges into the ring.

The ring refines a bounded FIFO queue of capacity `size - 1` (`ringBuffer_refines_fifo`).
-/

namespace Tipy.Buffer

open Tipy.Lib

/-! ## Memoryviews of the ring -/

/-- A view of the ring: the slice `ring[lo:hi]`. -/
structure View where
  lo : Nat
  hi : Nat
deriving Repr, DecidableEq

/-- `len(view)`. -/
def View.len (v : View) : Nat := v.hi - v.lo

/-- The bytes a view shows, given the present contents of the ring. -/
def View.bytes (mem : Nat → UInt8) (v : View) : List UInt8 := load mem v.lo v.len

/-- The bytes shown by a list of views, one after the other. -/
def viewBytes (mem : Nat → UInt8) (vs : List View) : List UInt8 := vs.flatMap (View.bytes mem)

/-- The sum of the lengths of a list of views. -/
def viewLen (vs : List View) : Nat := (vs.map View.len).sum

/-- The slice assignment `ring[lo:hi] = src` on a ring of `size` cells. -/
def assign (size : Nat) (mem : Nat → UInt8) (lo hi : Nat) (src : List UInt8) :
    Option (Nat → UInt8) :=
  if min hi size - min lo size = src.length then some (store mem (min lo size) src) else none

/-! ## Copying in and out at a pair of offsets -/

/-- The distance from offset `b` up to offset `a`, `(a - b) % size` on Python integers. -/
def gap (size : Nat) (a b : Int) : Nat := ((a - b) % size).toNat

/-- The body of `enqueue`, reading at `r` and writing at `w`: the new ring and the number of bytes
taken, by which the caller moves its write offset. -/
def enqueueAt (size : Nat) (mem : Nat → UInt8) (r w : Nat) (buffer : List UInt8) :
    Option ((Nat → UInt8) × Nat) :=
  let free := gap size r (w + 1)
  if free = 0 then
    some (mem, 0)
  else
    let bufLen := min buffer.length free
    if w + bufLen ≤ size - 1 then do
      let mem ← assign size mem w (w + bufLen) (slice buffer 0 bufLen)
      some (mem, bufLen)
    else do
      let mem ← assign size mem w size (slice buffer 0 (size - w))
      let mem ← assign size mem 0 (bufLen - (size - w)) (slice buffer (size - w) bufLen)
      some (mem, bufLen)

/-- The body of `dequeue`: the views handed out, by whose lengths the caller moves its read
offset. -/
def dequeueAt (size : Nat) (r w n : Nat) : List View :=
  let n := min n (gap size w r)
  if r < w then
    [⟨r, r + n⟩]
  else if w < r then
    if r + n ≤ size then
      [⟨r, r + n⟩]
    else
      let remainder := n - (size - r)
      [⟨r, size⟩, ⟨0, remainder⟩]
  else
    []

section Offsets

variable {size : Nat} {mem : Nat → UInt8} {r w : Nat}

theorem gap_lt (hsize : 0 < size) (a b : Int) : gap size a b < size := by
  have := Int.emod_lt_of_pos (a - b) (by exact_mod_cast hsize : (0 : Int) < size)
  have := Int.emod_nonneg (a - b) (by omega : (size : Int) ≠ 0)
  unfold gap
  omega

/-- The distance between two offsets, without the modulus. -/
theorem gap_eq (hr : r < size) (hw : w < size) :
    gap size w r = if r ≤ w then w - r else w + size - r := by
  unfold gap
  split
  · rw [Int.emod_eq_of_lt (by omega) (by omega)]
    omega
  · rw [← Int.add_emod_right, Int.emod_eq_of_lt (by omega) (by omega)]
    omega

/-- The free space, without the modulus. -/
theorem gap_succ_eq (hr : r < size) (hw : w < size) :
    gap size r (w + 1) = size - 1 - gap size w r := by
  rw [gap_eq hr hw]
  unfold gap
  split
  · rw [← Int.add_emod_right, Int.emod_eq_of_lt (by omega) (by omega)]
    omega
  · rw [Int.emod_eq_of_lt (by omega) (by omega)]
    omega

/-- The gap between two stream positions at most `size - 1` apart is their distance. -/
theorem gap_mod {a b : Nat} (hab : a ≤ b) (hlt : b - a < size) :
    gap size (b % size : Nat) (a % size : Nat) = b - a := by
  unfold gap
  rw [Int.natCast_mod, Int.natCast_mod, ← Int.sub_emod, Int.emod_eq_of_lt (by omega) (by omega)]
  omega

/-- Taking `gap w r` bytes from `r` on leads to `w`. -/
theorem add_gap_mod (hr : r < size) (hw : w < size) : (r + gap size w r) % size = w := by
  rw [gap_eq hr hw]
  split
  · rw [Nat.mod_eq_of_lt (by omega)]
    omega
  · rw [mod_of_lt_two_mul (by omega) (by omega)]
    omega

theorem assign_eq {lo hi : Nat} {src : List UInt8} (hhi : hi ≤ size) (hlen : lo + src.length = hi) :
    assign size mem lo hi src = some (store mem lo src) := by
  unfold assign
  rw [Nat.min_eq_left hhi, Nat.min_eq_left (by omega), if_pos (by omega)]

/-- **`enqueue` never raises**, takes as many bytes as fit, and writes them cyclically. -/
theorem enqueueAt_eq (hr : r < size) (hw : w < size) (buffer : List UInt8) :
    let n := min buffer.length (size - 1 - gap size w r)
    enqueueAt size mem r w buffer =
      some (storeCyc mem size w (buffer.take n), n) := by
  intro n
  have hgap : gap size (w : Int) r < size := gap_lt (by omega) _ _
  unfold enqueueAt
  simp only [gap_succ_eq hr hw]
  split
  · next h0 =>
    have hn : n = 0 := by omega
    rw [hn, List.take_zero, storeCyc_eq_store (by simpa using hw.le), store_nil]
  · have hfold : min buffer.length (size - 1 - gap size w r) = n := rfl
    simp only [hfold]
    have hlen : (buffer.take n).length = n := by simp; omega
    split
    · next hc =>
      rw [slice, List.drop_zero, assign_eq (by omega) (by omega), Option.bind_eq_bind,
        Option.bind_some, storeCyc_eq_store (by omega)]
    · next hc =>
      have h1 : slice buffer 0 (size - w) = (buffer.take n).take (size - w) := by
        rw [slice, List.drop_zero, List.take_take, Nat.min_eq_left (by omega)]
      have h2 : slice buffer (size - w) n = (buffer.take n).drop (size - w) := rfl
      have hl1 : ((buffer.take n).take (size - w)).length = size - w := by
        rw [List.length_take, hlen, Nat.min_eq_left (by omega)]
      have hl2 : ((buffer.take n).drop (size - w)).length = n - (size - w) := by
        rw [List.length_drop, hlen]
      rw [h1, h2, assign_eq le_rfl (by omega), Option.bind_eq_bind, Option.bind_some,
        assign_eq (by omega) (by omega)]
      rfl

/-- **`dequeue`** hands out at most two views; together they show the next `min n ready` bytes. -/
theorem dequeueAt_spec (mem : Nat → UInt8) (hr : r < size) (hw : w < size) (n : Nat) :
    let m := min n (gap size w r)
    (dequeueAt size r w n).length ≤ 2 ∧
      viewBytes mem (dequeueAt size r w n) = loadCyc mem size r m ∧
      viewLen (dequeueAt size r w n) = m := by
  intro m
  have hg := gap_eq hr hw
  have hfold : min n (gap size w r) = m := rfl
  unfold dequeueAt
  simp only [hfold]
  have hone : r + m ≤ size → viewBytes mem [⟨r, r + m⟩] = loadCyc mem size r m := fun h => by
    simp [viewBytes, View.bytes, View.len, loadCyc_eq_load h]
  have hlen : viewLen [⟨r, r + m⟩] = m := by simp [viewLen, View.len]
  by_cases hrw : r < w
  · rw [if_pos hrw]
    exact ⟨by simp, hone (by rw [if_pos hrw.le] at hg; omega), hlen⟩
  · rw [if_neg hrw]
    by_cases hwr : w < r
    · rw [if_pos hwr]
      rw [if_neg (by omega)] at hg
      split
      · next hc => exact ⟨by simp, hone hc, hlen⟩
      · next hc =>
        refine ⟨by simp, ?_, ?_⟩
        · rw [loadCyc_eq_append hr (by omega) (by omega)]
          simp [viewBytes, View.bytes, View.len]
        · simp only [viewLen, View.len, List.map_cons, List.map_nil, List.sum_cons, List.sum_nil]
          omega
    · rw [if_neg hwr]
      have hm : m = 0 := by rw [if_pos (by omega)] at hg; omega
      simp [hm, viewBytes, viewLen]

end Offsets

/-! ## `RingBuffer` -/

/-- `RingBuffer`: `_size`, `_ring`, `_w`, `_r`, with both offsets inside the ring. -/
structure RingBuffer where
  size : Nat
  ring : Nat → UInt8
  w : Nat
  r : Nat
  w_lt : w < size
  r_lt : r < size

namespace RingBuffer

/-- `RingBuffer(size=size)`. -/
def new (size : Nat) (hsize : 0 < size) : RingBuffer where
  size := size
  ring := fun _ => 0
  w := 0
  r := 0
  w_lt := hsize
  r_lt := hsize

theorem size_pos (b : RingBuffer) : 0 < b.size := Nat.zero_lt_of_lt b.w_lt

/-- `free_space`. -/
def freeSpace (b : RingBuffer) : Nat := gap b.size b.r (b.w + 1)

/-- `ready`. -/
def ready (b : RingBuffer) : Nat := gap b.size b.w b.r

/-- `is_empty`. -/
def isEmpty (b : RingBuffer) : Bool := b.w == b.r

/-- `enqueue`; `none` is the `ValueError` of a slice assignment. -/
def enqueue? (b : RingBuffer) (buffer : List UInt8) : Option (RingBuffer × Nat) :=
  (enqueueAt b.size b.ring b.r b.w buffer).map fun res =>
    ({ b with
        ring := res.1
        w := (b.w + res.2) % b.size
        w_lt := Nat.mod_lt _ b.size_pos }, res.2)

/-- `dequeue`: the views handed out and the ring after it. -/
def dequeue (b : RingBuffer) (n : Nat) : List View × RingBuffer :=
  let views := dequeueAt b.size b.r b.w n
  (views, { b with
    r := (b.r + viewLen views) % b.size
    r_lt := Nat.mod_lt _ b.size_pos })

/-- The bytes waiting in the ring, oldest first. -/
def queue (b : RingBuffer) : List UInt8 := loadCyc b.ring b.size b.r b.ready

@[simp] theorem length_queue (b : RingBuffer) : b.queue.length = b.ready := by simp [queue]

theorem ready_lt (b : RingBuffer) : b.ready < b.size := gap_lt b.size_pos _ _

theorem freeSpace_eq (b : RingBuffer) : b.freeSpace = b.size - 1 - b.ready :=
  gap_succ_eq b.r_lt b.w_lt

theorem isEmpty_iff (b : RingBuffer) : b.isEmpty = true ↔ b.queue = [] := by
  have hr := b.r_lt
  have hw := b.w_lt
  rw [← List.length_eq_zero_iff, length_queue, ready, gap_eq hr hw, isEmpty, beq_iff_eq]
  split <;> omega

@[simp] theorem queue_new (size : Nat) (hsize : 0 < size) : (new size hsize).queue = [] := by
  rw [← List.length_eq_zero_iff, length_queue]
  simp [ready, new, gap]

/-- The room `enqueue` finds for a buffer. -/
def room (b : RingBuffer) (buffer : List UInt8) : Nat := min buffer.length (b.size - 1 - b.ready)

/-- The ring after `enqueue`. -/
def pushed (b : RingBuffer) (buffer : List UInt8) : RingBuffer where
  size := b.size
  ring := storeCyc b.ring b.size b.w (buffer.take (b.room buffer))
  w := (b.w + b.room buffer) % b.size
  r := b.r
  w_lt := Nat.mod_lt _ b.size_pos
  r_lt := b.r_lt

/-- `enqueue` never raises. -/
theorem enqueue?_eq (b : RingBuffer) (buffer : List UInt8) :
    b.enqueue? buffer = some (b.pushed buffer, b.room buffer) := by
  rw [enqueue?, enqueueAt_eq b.r_lt b.w_lt buffer]
  rfl

theorem ready_pushed (b : RingBuffer) (buffer : List UInt8) :
    (b.pushed buffer).ready = b.ready + b.room buffer := by
  have hlt := b.ready_lt
  have hw : (b.w + b.room buffer) % b.size = (b.r + (b.ready + b.room buffer)) % b.size := by
    conv_lhs => rw [← add_gap_mod b.r_lt b.w_lt]
    rw [Nat.mod_add_mod, Nat.add_assoc]
    rfl
  have hgap :
      gap b.size ((b.r + (b.ready + b.room buffer)) % b.size : Nat) (b.r % b.size : Nat) = _ :=
    gap_mod (by omega) (by unfold room; omega)
  rwa [Nat.mod_eq_of_lt b.r_lt, ← hw, Nat.add_sub_cancel_left] at hgap

/-- `enqueue` appends the prefix that fits to the queue. -/
theorem queue_pushed (b : RingBuffer) (buffer : List UInt8) :
    (b.pushed buffer).queue = b.queue ++ buffer.take (b.room buffer) := by
  have hlt := b.ready_lt
  have hlen : (buffer.take (b.room buffer)).length = b.room buffer := by simp [room]
  have hoff : b.w = (b.r + b.ready) % b.size := (add_gap_mod b.r_lt b.w_lt).symm
  have hload := loadCyc_storeCyc b.ring b.r b.ready (buffer.take (b.room buffer)) b.size_pos
    (by rw [hlen, room]; omega)
  rw [← hoff, hlen] at hload
  rw [queue, ready_pushed]
  exact hload

theorem ready_dequeue (b : RingBuffer) (n : Nat) : (b.dequeue n).2.ready = b.ready - n := by
  have hlt := b.ready_lt
  have hlen := (dequeueAt_spec b.ring b.r_lt b.w_lt n).2.2
  have hw : (b.r + b.ready) % b.size = b.w := add_gap_mod b.r_lt b.w_lt
  have hgap :
      gap b.size ((b.r + b.ready) % b.size : Nat) ((b.r + min n b.ready) % b.size : Nat) = _ :=
    gap_mod (by omega) (by omega)
  rw [hw] at hgap
  simp only [dequeue, ready, hlen]
  rw [← ready, hgap]
  omega

/-- `dequeue` hands out at most two views, which show the front of the queue, and removes it. -/
theorem dequeue_spec (b : RingBuffer) (n : Nat) :
    (b.dequeue n).1.length ≤ 2 ∧ viewBytes b.ring (b.dequeue n).1 = b.queue.take n ∧
      (b.dequeue n).2.queue = b.queue.drop n := by
  obtain ⟨htwo, hbytes, hlen⟩ := dequeueAt_spec b.ring b.r_lt b.w_lt n
  have htake : b.queue.take n = loadCyc b.ring b.size b.r (min n b.ready) := by
    rw [List.take_eq_take_min, length_queue, queue, loadCyc_take (Nat.min_le_right _ _)]
  refine ⟨htwo, hbytes.trans htake.symm, ?_⟩
  rw [queue, ready_dequeue]
  simp only [dequeue, hlen, loadCyc_mod]
  rw [queue, loadCyc_drop]
  by_cases h : n ≤ b.ready
  · rw [← ready, Nat.min_eq_left h]
  · rw [Nat.sub_eq_zero_of_le (by omega), loadCyc_zero, loadCyc_zero]

/-- `enqueue`, as the handlers call it: the ring after it and the number of bytes taken. -/
def enqueue (b : RingBuffer) (buffer : List UInt8) : RingBuffer × Nat :=
  (b.enqueue? buffer).get (by rw [enqueue?_eq]; rfl)

theorem enqueue_eq (b : RingBuffer) (buffer : List UInt8) :
    b.enqueue buffer = (b.pushed buffer, b.room buffer) := by
  simp [enqueue, enqueue?_eq]

end RingBuffer

/-! ## Refinement of a bounded FIFO queue -/

/-- The calls a client makes, one at a time. -/
inductive RingOp where
  | enqueue (buffer : List UInt8)
  | dequeue (n : Nat)
deriving Repr, DecidableEq

/-- The ring after a call; `none` when the call raises. -/
def RingBuffer.exec (b : RingBuffer) : RingOp → Option RingBuffer
  | .enqueue buffer => (b.enqueue? buffer).map Prod.fst
  | .dequeue n => some (b.dequeue n).2

/-- What the calls mean for a FIFO queue that holds at most `cap` bytes. -/
def fifoStep (cap : Nat) (q : List UInt8) : RingOp → List UInt8
  | .enqueue buffer => q ++ buffer.take (cap - q.length)
  | .dequeue n => q.drop n

theorem exec_refines (b : RingBuffer) (op : RingOp) :
    ∃ b', b.exec op = some b' ∧ b'.size = b.size ∧ b'.queue = fifoStep (b.size - 1) b.queue op := by
  cases op with
  | enqueue buffer =>
    refine ⟨b.pushed buffer, by simp [RingBuffer.exec, RingBuffer.enqueue?_eq], rfl, ?_⟩
    rw [RingBuffer.queue_pushed, fifoStep, RingBuffer.length_queue, RingBuffer.room,
      Nat.min_comm, ← List.take_eq_take_min]
  | dequeue n => exact ⟨(b.dequeue n).2, rfl, rfl, (b.dequeue_spec n).2.2⟩

theorem foldlM_refines (ops : List RingOp) (b : RingBuffer) :
    ∃ b', ops.foldlM RingBuffer.exec b = some b' ∧ b'.size = b.size ∧
      b'.queue = ops.foldl (fifoStep (b.size - 1)) b.queue := by
  induction ops generalizing b with
  | nil => exact ⟨b, rfl, rfl, rfl⟩
  | cons op ops ih =>
    obtain ⟨b₁, h₁, hs₁, hq₁⟩ := exec_refines b op
    obtain ⟨b₂, h₂, hs₂, hq₂⟩ := ih b₁
    refine ⟨b₂, ?_, hs₂.trans hs₁, ?_⟩
    · rw [List.foldlM_cons, h₁]
      exact h₂
    · rw [hq₂, hs₁, hq₁, List.foldl_cons]

/-- **The ring buffer is a bounded FIFO queue.** No run of calls on a fresh ring raises; the ring
then holds the queue the calls describe, reports its free and used space, and the next call behaves
as the queue's. -/
theorem ringBuffer_refines_fifo (size : Nat) (hsize : 0 < size) (ops : List RingOp) :
    ∃ b, ops.foldlM RingBuffer.exec (.new size hsize) = some b ∧ b.w < size ∧ b.r < size ∧
      b.queue = ops.foldl (fifoStep (size - 1)) [] ∧
      b.freeSpace = size - 1 - b.queue.length ∧ b.ready = b.queue.length ∧
      (∀ buffer, ∃ b', b.enqueue? buffer =
          some (b', min buffer.length (size - 1 - b.queue.length)) ∧
        b'.queue = b.queue ++ buffer.take (min buffer.length (size - 1 - b.queue.length))) ∧
      ∀ n, (b.dequeue n).1.length ≤ 2 ∧
        viewBytes b.ring (b.dequeue n).1 = b.queue.take (min n b.queue.length) ∧
        (b.dequeue n).2.queue = b.queue.drop (min n b.queue.length) := by
  obtain ⟨b, hrun, hsz, hq⟩ := foldlM_refines ops (.new size hsize)
  have hsz : b.size = size := hsz
  rw [RingBuffer.queue_new] at hq
  refine ⟨b, hrun, hsz ▸ b.w_lt, hsz ▸ b.r_lt, hq, ?_, by simp, ?_, ?_⟩
  · rw [b.freeSpace_eq, hsz, b.length_queue]
  · intro buffer
    refine ⟨b.pushed buffer, ?_, ?_⟩
    · rw [b.enqueue?_eq, RingBuffer.room, hsz, b.length_queue]
    · rw [b.queue_pushed, RingBuffer.room, hsz, b.length_queue]
  · intro n
    obtain ⟨htwo, hbytes, hrest⟩ := b.dequeue_spec n
    refine ⟨htwo, by rw [hbytes, List.take_eq_take_min], ?_⟩
    rw [hrest]
    rcases Nat.le_total n b.queue.length with h | h
    · rw [Nat.min_eq_left h]
    · rw [Nat.min_eq_right h, List.drop_length, List.drop_of_length_le h]

/-- A ring of three cells holds two bytes at a time and goes round. -/
theorem ringBuffer_refines_fifo_three :
    ∃ b, [RingOp.enqueue [1, 2, 3], .dequeue 1, .enqueue [4]].foldlM RingBuffer.exec
        (.new 3 (by decide)) = some b ∧ b.queue = [2, 4] ∧ b.freeSpace = 0 := by
  obtain ⟨b, hrun, -, -, hq, hfree, -⟩ := ringBuffer_refines_fifo 3 (by decide)
    [.enqueue [1, 2, 3], .dequeue 1, .enqueue [4]]
  have hq : b.queue = [2, 4] := hq
  exact ⟨b, hrun, hq, by rw [hfree, hq]; rfl⟩

end Tipy.Buffer
