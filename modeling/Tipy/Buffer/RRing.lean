import Tipy.Buffer.Ring

/-!
# The recoverable ring buffer

`RRingBuffer` of `tipy/lib/buffer.py`, the send buffer. Reading moves a virtual offset `vr`, writing
a virtual offset `vw`; the read offset `r` stays behind at the oldest byte that may still have to be
read again, and only `free` moves it. `roll_back_to_r` sends `vr` back to it.

`SendLog` puts the ring next to the stream it stands for: the bytes taken in so far, how many of
them were freed, the position of the next `dequeue` and the furthest position ever dequeued. The
ring should hold the stream minus its freed prefix from `r` to `vw` (`Retains`). `free_space` is
computed from `vr`, not from `r`, so a write can run over bytes that were read but not freed:
`rring_retains_iff` says exactly which runs of calls keep the un-freed bytes.
-/

namespace Tipy.Buffer

open Tipy.Lib

/-- `RRingBuffer`: `_size`, `_ring`, `_r`, `_vr`, `_vw`, with the offsets inside the ring. -/
structure RRingBuffer where
  size : Nat
  ring : Nat → UInt8
  r : Nat
  vr : Nat
  vw : Nat
  r_lt : r < size
  vr_lt : vr < size
  vw_lt : vw < size

namespace RRingBuffer

/-- `RRingBuffer(size=size)`. -/
def new (size : Nat) (hsize : 0 < size) : RRingBuffer where
  size := size
  ring := fun _ => 0
  r := 0
  vr := 0
  vw := 0
  r_lt := hsize
  vr_lt := hsize
  vw_lt := hsize

theorem size_pos (b : RRingBuffer) : 0 < b.size := Nat.zero_lt_of_lt b.r_lt

/-- `free`: the `n` bytes from `r` on may be written over. -/
def free (b : RRingBuffer) (n : Int) : RRingBuffer :=
  { b with
    r := ((b.r + n) % b.size).toNat
    r_lt := by
      have hpos : (0 : Int) < b.size := by exact_mod_cast b.size_pos
      have := Int.emod_lt_of_pos (b.r + n) hpos
      have := Int.emod_nonneg (b.r + n) hpos.ne'
      omega }

/-- `free_space`. -/
def freeSpace (b : RRingBuffer) : Nat := gap b.size b.vr (b.vw + 1)

/-- `ready`. -/
def ready (b : RRingBuffer) : Nat := gap b.size b.vw b.vr

/-- `roll_back_to_r`. -/
def rollBackToR (b : RRingBuffer) : RRingBuffer := { b with vr := b.r, vr_lt := b.r_lt }

/-- `enqueue`; `none` is the `ValueError` of a slice assignment. -/
def enqueue? (b : RRingBuffer) (buffer : List UInt8) : Option (RRingBuffer × Nat) :=
  (enqueueAt b.size b.ring b.vr b.vw buffer).map fun res =>
    ({ b with
        ring := res.1
        vw := (b.vw + res.2) % b.size
        vw_lt := Nat.mod_lt _ b.size_pos }, res.2)

/-- `dequeue`: the views handed out and the ring after it. -/
def dequeue (b : RRingBuffer) (n : Nat) : List View × RRingBuffer :=
  let views := dequeueAt b.size b.vr b.vw n
  (views, { b with
    vr := (b.vr + viewLen views) % b.size
    vr_lt := Nat.mod_lt _ b.size_pos })

theorem ready_lt (b : RRingBuffer) : b.ready < b.size := gap_lt b.size_pos _ _

theorem freeSpace_eq (b : RRingBuffer) : b.freeSpace = b.size - 1 - b.ready :=
  gap_succ_eq b.vr_lt b.vw_lt

/-- The room `enqueue` finds for a buffer. -/
def room (b : RRingBuffer) (buffer : List UInt8) : Nat := min buffer.length (b.size - 1 - b.ready)

/-- The ring after `enqueue`. -/
def pushed (b : RRingBuffer) (buffer : List UInt8) : RRingBuffer where
  size := b.size
  ring := storeCyc b.ring b.size b.vw (buffer.take (b.room buffer))
  r := b.r
  vr := b.vr
  vw := (b.vw + b.room buffer) % b.size
  r_lt := b.r_lt
  vr_lt := b.vr_lt
  vw_lt := Nat.mod_lt _ b.size_pos

/-- `enqueue` never raises. -/
theorem enqueue?_eq (b : RRingBuffer) (buffer : List UInt8) :
    b.enqueue? buffer = some (b.pushed buffer, b.room buffer) := by
  rw [enqueue?, enqueueAt_eq b.vr_lt b.vw_lt buffer]
  rfl

/-- `enqueue`, as its callers use it: the ring after it and the number of bytes taken. -/
def enqueue (b : RRingBuffer) (buffer : List UInt8) : RRingBuffer × Nat :=
  (b.enqueue? buffer).get (by rw [enqueue?_eq]; rfl)

theorem enqueue_eq (b : RRingBuffer) (buffer : List UInt8) :
    b.enqueue buffer = (b.pushed buffer, b.room buffer) := by
  simp [enqueue, enqueue?_eq]

/-- `dequeue` hands out at most two views, which show the next `min n ready` bytes. -/
theorem dequeue_spec (b : RRingBuffer) (n : Nat) :
    (b.dequeue n).1.length ≤ 2 ∧
      viewBytes b.ring (b.dequeue n).1 = loadCyc b.ring b.size b.vr (min n b.ready) ∧
      viewLen (b.dequeue n).1 = min n b.ready :=
  dequeueAt_spec b.ring b.vr_lt b.vw_lt n

theorem free_natCast_r (b : RRingBuffer) (k : Nat) : (b.free k).r = (b.r + k) % b.size := by
  simp only [free]
  norm_cast

/-- The write offset is what is ready past the read offset. -/
theorem vw_eq_ready (b : RRingBuffer) : b.vw = (b.vr + b.ready) % b.size :=
  (add_gap_mod b.vr_lt b.vw_lt).symm

/-- What is ready after the two offsets moved on, the read offset by `n` and the write offset by
`m`. -/
theorem ready_of_moved (b : RRingBuffer) {b' : RRingBuffer} {n m : Nat} (hsize : b'.size = b.size)
    (hvr : b'.vr = (b.vr + n) % b.size) (hvw : b'.vw = (b.vw + m) % b.size)
    (hn : n ≤ b.ready) (hm : b.ready + m - n < b.size) : b'.ready + n = b.ready + m := by
  have hgap : b'.ready =
      gap b.size ((b.vr + b.ready + m) % b.size : Nat) ((b.vr + n) % b.size : Nat) := by
    rw [ready, hsize, hvr, hvw, b.vw_eq_ready, Nat.mod_add_mod]
  rw [hgap, gap_mod (by omega) (by omega)]
  omega

theorem enqueue_ready (b : RRingBuffer) (data : List UInt8) :
    (b.enqueue data).1.ready = b.ready + (b.enqueue data).2 := by
  have hroom : (b.enqueue data).2 ≤ b.size - 1 - b.ready := by
    rw [b.enqueue_eq]
    exact Nat.min_le_right _ _
  have hlt := b.ready_lt
  have hvr : (b.enqueue data).1.vr = (b.vr + 0) % b.size := by
    rw [b.enqueue_eq]
    exact (Nat.mod_eq_of_lt b.vr_lt).symm
  have hvw : (b.enqueue data).1.vw = (b.vw + (b.enqueue data).2) % b.size := by
    rw [b.enqueue_eq]
    rfl
  exact b.ready_of_moved (by rw [b.enqueue_eq]; rfl) hvr hvw (by omega) (by omega)

end RRingBuffer

/-! ## The ring next to its stream -/

/-- The calls on a send buffer, one at a time. -/
inductive RRingOp where
  | enqueue (buffer : List UInt8)
  | dequeue (n : Nat)
  | free (k : Nat)
  | rollBackToR
deriving Repr, DecidableEq

/-- A send buffer with its history. -/
structure SendLog where
  ring : RRingBuffer
  /-- the bytes `enqueue` took, in order -/
  stream : List UInt8
  /-- the number of bytes freed -/
  freed : Nat
  /-- the position of the next byte to be dequeued -/
  pos : Nat
  /-- one past the last position ever dequeued -/
  high : Nat

namespace SendLog

def new (size : Nat) (hsize : 0 < size) : SendLog := ⟨.new size hsize, [], 0, 0, 0⟩

def step (t : SendLog) : RRingOp → SendLog
  | .enqueue buffer =>
    { t with
      ring := (t.ring.enqueue buffer).1
      stream := t.stream ++ buffer.take (t.ring.enqueue buffer).2 }
  | .dequeue n =>
    { t with
      ring := (t.ring.dequeue n).2
      pos := t.pos + viewLen (t.ring.dequeue n).1
      high := max t.high (t.pos + viewLen (t.ring.dequeue n).1) }
  | .free k => { t with ring := t.ring.free k, freed := t.freed + k }
  | .rollBackToR => { t with ring := t.ring.rollBackToR, pos := t.freed }

/-- Callers free only bytes that were dequeued. -/
def FreesDequeued (t : SendLog) : RRingOp → Prop
  | .free k => t.freed + k ≤ t.high
  | _ => True

/-- A write finds nothing read and un-freed in its way: either no such byte exists, or the buffer is
no longer than the space left beside the un-freed bytes. -/
def EnqueueFits (t : SendLog) : RRingOp → Prop
  | .enqueue buffer =>
    t.pos ≤ t.freed ∨ buffer.length ≤ t.ring.size - 1 - (t.stream.length - t.freed)
  | _ => True

instance (t : SendLog) : (op : RRingOp) → Decidable (t.FreesDequeued op)
  | .free _ => inferInstanceAs (Decidable (_ ≤ _))
  | .enqueue _ | .dequeue _ | .rollBackToR => .isTrue trivial

instance (t : SendLog) : (op : RRingOp) → Decidable (t.EnqueueFits op)
  | .enqueue _ => inferInstanceAs (Decidable (_ ∨ _))
  | .dequeue _ | .free _ | .rollBackToR => .isTrue trivial

/-- The un-freed bytes are all there. -/
structure Retains (t : SendLog) : Prop where
  /-- from `r` to `vw` the ring holds the stream minus its freed prefix -/
  unfreed : loadCyc t.ring.ring t.ring.size t.ring.r (gap t.ring.size t.ring.vw t.ring.r) =
    t.stream.drop t.freed
  /-- `dequeue` goes on where the last one stopped -/
  resume : ∀ n, viewBytes t.ring.ring (t.ring.dequeue n).1 = (t.stream.drop t.pos).take n
  /-- after a roll back `dequeue` starts again at the first un-freed byte -/
  reread : ∀ n, viewBytes t.ring.ring (t.ring.rollBackToR.dequeue n).1 =
    (t.stream.drop t.freed).take n

/-- The offsets are the stream positions modulo the size, and the ring holds every position that is
still to be read or freed. -/
structure Inv (t : SendLog) : Prop where
  r_eq : t.ring.r = t.freed % t.ring.size
  vr_eq : t.ring.vr = t.pos % t.ring.size
  vw_eq : t.ring.vw = t.stream.length % t.ring.size
  freed_le : t.freed ≤ t.high
  pos_le : t.pos ≤ t.high
  high_le : t.high ≤ t.stream.length
  pos_lt : t.stream.length - t.pos < t.ring.size
  freed_lt : t.stream.length - t.freed < t.ring.size
  holds : Holds t.ring.ring t.ring.size t.stream (min t.freed t.pos) t.stream.length

namespace Inv

variable {t : SendLog}

theorem ready_eq (h : t.Inv) : t.ring.ready = t.stream.length - t.pos := by
  rw [RRingBuffer.ready, h.vw_eq, h.vr_eq]
  exact gap_mod (h.pos_le.trans h.high_le) h.pos_lt

theorem retained_eq (h : t.Inv) :
    gap t.ring.size t.ring.vw t.ring.r = t.stream.length - t.freed := by
  rw [h.vw_eq, h.r_eq]
  exact gap_mod (h.freed_le.trans h.high_le) h.freed_lt

/-- Reading `n` bytes from a held position on. -/
theorem load_eq (h : t.Inv) {p : Nat} (hp : min t.freed t.pos ≤ p) (hlen : p ≤ t.stream.length)
    (n : Nat) :
    loadCyc t.ring.ring t.ring.size (p % t.ring.size) (min n (t.stream.length - p)) =
      (t.stream.drop p).take n := by
  rw [loadCyc_mod, h.holds.loadCyc hp (by omega), List.take_eq_take_min (i := n), List.length_drop]

theorem retains (h : t.Inv) : t.Retains where
  unfreed := by
    have hf : t.freed ≤ t.stream.length := h.freed_le.trans h.high_le
    have hload := h.load_eq (Nat.min_le_left t.freed t.pos) hf t.stream.length
    rw [Nat.min_eq_right (by omega)] at hload
    rw [h.retained_eq, h.r_eq, hload, List.take_of_length_le (by simp)]
  resume n := by
    rw [(t.ring.dequeue_spec n).2.1, h.ready_eq, h.vr_eq]
    exact h.load_eq (Nat.min_le_right _ _) (h.pos_le.trans h.high_le) n
  reread n := by
    have hspec := (t.ring.rollBackToR.dequeue_spec n).2.1
    refine hspec.trans ?_
    have hready : t.ring.rollBackToR.ready = t.stream.length - t.freed := h.retained_eq
    rw [hready]
    simp only [RRingBuffer.rollBackToR]
    rw [h.r_eq]
    exact h.load_eq (Nat.min_le_left _ _) (h.freed_le.trans h.high_le) n

theorem room_eq (h : t.Inv) (buffer : List UInt8) : t.ring.room buffer =
    min buffer.length (t.ring.size - 1 - (t.stream.length - t.pos)) := by
  rw [RRingBuffer.room, h.ready_eq]

theorem enqueue (h : t.Inv) {buffer : List UInt8} (hfit : t.EnqueueFits (.enqueue buffer)) :
    (t.step (.enqueue buffer)).Inv := by
  have hroom := h.room_eq buffer
  have hpos := h.pos_lt
  have hfreed := h.freed_lt
  have hf := h.freed_le.trans h.high_le
  have hp := h.pos_le.trans h.high_le
  have hlen : (buffer.take (t.ring.room buffer)).length = t.ring.room buffer := by
    simp [RRingBuffer.room]
  -- with nothing read and un-freed the virtual free space is the true one
  have hsafe : t.stream.length + t.ring.room buffer - t.freed < t.ring.size := by
    rcases hfit with hle | hle <;> omega
  have hholds : Holds (storeCyc t.ring.ring t.ring.size (t.stream.length % t.ring.size)
      (buffer.take (t.ring.room buffer))) t.ring.size
      (t.stream ++ buffer.take (t.ring.room buffer)) (min t.freed t.pos)
      (t.stream.length + t.ring.room buffer) := by
    have hstore := h.holds.storeCyc (buffer.take (t.ring.room buffer)) t.ring.size_pos
      (by omega) (by rw [hlen]; omega)
    rwa [hlen] at hstore
  simp only [step, RRingBuffer.enqueue_eq]
  refine ⟨h.r_eq, h.vr_eq, ?_, h.freed_le, h.pos_le, ?_, ?_, ?_, ?_⟩ <;>
    simp only [RRingBuffer.pushed, List.length_append, hlen]
  · rw [h.vw_eq, Nat.mod_add_mod]
  · exact h.high_le.trans (Nat.le_add_right _ _)
  · omega
  · omega
  · rw [h.vw_eq]
    exact hholds

theorem dequeue (h : t.Inv) (n : Nat) : (t.step (.dequeue n)).Inv := by
  have hlen := (t.ring.dequeue_spec n).2.2
  rw [h.ready_eq] at hlen
  have hhigh := h.high_le
  have hpos := h.pos_lt
  simp only [step, hlen]
  refine ⟨h.r_eq, ?_, h.vw_eq, ?_, ?_, ?_, ?_, h.freed_lt, ?_⟩
  · change (t.ring.vr + viewLen (t.ring.dequeue n).1) % t.ring.size = _
    rw [hlen, h.vr_eq, Nat.mod_add_mod]
    rfl
  · exact h.freed_le.trans (Nat.le_max_left _ _)
  · exact Nat.le_max_right _ _
  · have := h.pos_le
    simp only
    omega
  · change _ < t.ring.size
    simp only
    omega
  · exact h.holds.mono (by simp only; omega)

theorem free (h : t.Inv) {k : Nat} (hk : t.freed + k ≤ t.high) : (t.step (.free k)).Inv := by
  have hfreed := h.freed_lt
  refine ⟨?_, h.vr_eq, h.vw_eq, hk, h.pos_le, h.high_le, h.pos_lt, ?_, ?_⟩
  · change (t.ring.free k).r = _
    rw [RRingBuffer.free_natCast_r, h.r_eq, Nat.mod_add_mod]
    rfl
  · change t.stream.length - (t.freed + k) < t.ring.size
    omega
  · exact h.holds.mono (by simp only [step]; omega)

theorem rollBackToR (h : t.Inv) : (t.step .rollBackToR).Inv :=
  ⟨h.r_eq, h.r_eq, h.vw_eq, h.freed_le, h.freed_le, h.high_le, h.freed_lt, h.freed_lt,
    h.holds.mono (by simp only [step]; omega)⟩

theorem step (h : t.Inv) {op : RRingOp} (hdom : t.FreesDequeued op) (hfit : t.EnqueueFits op) :
    (t.step op).Inv := by
  cases op with
  | enqueue buffer => exact h.enqueue hfit
  | dequeue n => exact h.dequeue n
  | free k => exact h.free hdom
  | rollBackToR => exact h.rollBackToR

/-- A write that does not fit brings `vw` to `r` or past it, so the stretch from `r` to `vw` is too
short for the un-freed bytes. -/
theorem fits_of_retains (h : t.Inv) {op : RRingOp} (hret : (t.step op).Retains) :
    t.EnqueueFits op := by
  cases op with
  | enqueue buffer =>
    by_contra hnot
    simp only [EnqueueFits, not_or, Nat.not_le] at hnot
    have hlen := congrArg List.length hret.unfreed
    have hlt := gap_lt t.ring.size_pos ((t.step (.enqueue buffer)).ring.vw : Int)
      (t.step (.enqueue buffer)).ring.r
    have hroom := h.room_eq buffer
    have hsz : (t.step (.enqueue buffer)).ring.size = t.ring.size := by
      simp [SendLog.step, RRingBuffer.enqueue_eq, RRingBuffer.pushed]
    have hstream :
      ((t.step (.enqueue buffer)).stream.drop (t.step (.enqueue buffer)).freed).length =
        t.stream.length + t.ring.room buffer - t.freed := by
      simp [SendLog.step, RRingBuffer.enqueue_eq, RRingBuffer.room]
    rw [length_loadCyc, hstream, hsz] at hlen
    have := h.pos_lt
    have := h.freed_lt
    have := h.pos_le
    have := h.high_le
    omega
  | dequeue n => trivial
  | free k => trivial
  | rollBackToR => trivial

end Inv

theorem inv_new {size : Nat} (hsize : 0 < size) : (new size hsize).Inv :=
  ⟨by simp [new, RRingBuffer.new], by simp [new, RRingBuffer.new], by simp [new, RRingBuffer.new],
    le_rfl, le_rfl, le_rfl, hsize, hsize, fun p _ hp => absurd hp (Nat.not_lt_zero p)⟩

end SendLog

/-- **The recoverable ring keeps the un-freed bytes exactly when every write fits.** In a run of
calls that free only dequeued bytes, the un-freed bytes are in place in every state reached if and
only if each `enqueue` is made with no byte read and un-freed, or with a buffer no longer than the
space left beside the un-freed bytes. -/
theorem rring_retains_iff (size : Nat) (hsize : 2 ≤ size) (ops : List RRingOp)
    (hdom : Guarded SendLog.step SendLog.FreesDequeued (.new size (by omega)) ops) :
    (∀ pre, pre <+: ops → (run SendLog.step (.new size (by omega)) pre).Retains) ↔
      Guarded SendLog.step SendLog.EnqueueFits (.new size (by omega)) ops :=
  forall_reached_iff_guarded (I := SendLog.Inv) (fun _ h => h.retains)
    (fun _ _ h hdom hfit => h.step hdom hfit) (fun _ _ h _ hret => h.fits_of_retains hret)
    (SendLog.inv_new (by omega)) hdom

/-- Sending, being acknowledged in part and sending again, all within the space left. -/
theorem rring_retains_iff_run :
    let ops : List RRingOp := [.enqueue [1, 2], .dequeue 2, .free 1, .enqueue [3], .rollBackToR]
    Guarded SendLog.step SendLog.FreesDequeued (.new 3 (by decide)) ops ∧
      ∀ pre, pre <+: ops → (run SendLog.step (.new 3 (by decide)) pre).Retains :=
  ⟨by decide, (rring_retains_iff 3 (by decide) _ (by decide)).2 (by decide)⟩

/-- Two bytes are read and not freed; the next write takes two more and puts the second one over the
first byte, so that after a roll back the ring offers `4` where the stream goes on with `1`. -/
theorem rring_overwrites_unfreed :
    Guarded SendLog.step SendLog.FreesDequeued (.new 3 (by decide))
        [.enqueue [1, 2], .dequeue 2, .enqueue [3, 4], .rollBackToR] ∧
      ¬ (run SendLog.step (.new 3 (by decide))
        [.enqueue [1, 2], .dequeue 2, .enqueue [3, 4], .rollBackToR]).Retains := by
  refine ⟨by decide, fun h => ?_⟩
  have hread := h.reread 1
  revert hread
  decide

end Tipy.Buffer
