import Tipy.Buffer.Ring

/-!
# Views of the receive buffer

`TCPSocket.recv` copies the views that `RingBuffer.dequeue` returned one after the other
(`b''.join(_.tobytes() for _ in data)`), and the event loop may enqueue into the same ring before
the first copy and between the two. `dequeue` has moved the read offset by then, so these writes may
reach the cells the views show: `views_stable_iff` says exactly when they do.

Counted from the write offset, the free cells come first, then the one cell that always stays
unused, then the bytes the views show. So the first byte shown is lost with the write of `free_space
+ 2` bytes, not earlier, and the last one is never reached.
-/

namespace Tipy.Buffer

open Tipy.Lib

namespace RingBuffer

/-- The ring after a series of `enqueue` calls. -/
def enqueueAll (b : RingBuffer) (writes : List (List UInt8)) : RingBuffer :=
  writes.foldl (fun b buffer => (b.enqueue buffer).1) b

/-- `TCPSocket.recv` of `n` bytes: the writes `before` run between the `dequeue` and the copy of the
first view, the writes `between` between the copies of the first and the second view. -/
def recvCopy (b : RingBuffer) (n : Nat) (before between : List (List UInt8)) : List UInt8 :=
  let views := (b.dequeue n).1
  let b₁ := (b.dequeue n).2.enqueueAll before
  let b₂ := b₁.enqueueAll between
  viewBytes b₁.ring (views.take 1) ++ viewBytes b₂.ring (views.drop 1)

/-- The number of bytes shown by the first view. -/
def firstLen (b : RingBuffer) (n : Nat) : Nat := min (min n b.ready) (b.size - b.r)

/-! ## What a series of writes does to the ring -/

/-- The bytes a series of `enqueue` calls takes. -/
def taken (b : RingBuffer) : List (List UInt8) → List UInt8
  | [] => []
  | buffer :: writes => buffer.take (b.room buffer) ++ (b.pushed buffer).taken writes

@[simp] theorem enqueueAll_nil (b : RingBuffer) : b.enqueueAll [] = b := rfl

@[simp] theorem enqueueAll_cons (b : RingBuffer) (buffer : List UInt8)
    (writes : List (List UInt8)) :
    b.enqueueAll (buffer :: writes) = (b.pushed buffer).enqueueAll writes := by
  rw [enqueueAll, List.foldl_cons, enqueue_eq]
  rfl

theorem enqueueAll_append (b : RingBuffer) (ws ws' : List (List UInt8)) :
    b.enqueueAll (ws ++ ws') = (b.enqueueAll ws).enqueueAll ws' :=
  List.foldl_append

theorem length_taken (b : RingBuffer) (writes : List (List UInt8)) :
    (b.taken writes).length = min (writes.map List.length).sum b.freeSpace := by
  induction writes generalizing b with
  | nil => simp [taken]
  | cons buffer writes ih =>
    have hfree : (b.pushed buffer).freeSpace = b.freeSpace - b.room buffer := by
      rw [freeSpace_eq, freeSpace_eq, ready_pushed]
      simp only [pushed]
      omega
    have hroom : b.room buffer = min buffer.length b.freeSpace := by rw [freeSpace_eq, room]
    rw [taken, List.length_append, ih, hfree, List.length_take, hroom]
    simp only [List.map_cons, List.sum_cons]
    omega

/-- What is taken from buffers that hold one value only is made of that value. -/
theorem taken_eq_replicate (b : RingBuffer) {v : UInt8} {writes : List (List UInt8)}
    (hv : ∀ buffer ∈ writes, ∀ x ∈ buffer, x = v) :
    b.taken writes = List.replicate (b.taken writes).length v := by
  rw [List.eq_replicate_iff]
  refine ⟨rfl, ?_⟩
  induction writes generalizing b with
  | nil => simp [taken]
  | cons buffer writes ih =>
    intro x hx
    rw [taken, List.mem_append] at hx
    rcases hx with hx | hx
    · exact hv buffer (List.mem_cons_self ..) x (List.mem_of_mem_take hx)
    · exact ih (b.pushed buffer) (fun w hw => hv w (List.mem_cons_of_mem _ hw)) x hx

/-- A range of cells that ends at the write offset gets longer by what is taken, as long as it does
not go round. -/
theorem loadCyc_enqueueAll (b : RingBuffer) (writes : List (List UInt8)) {off n : Nat}
    (hoff : (off + n) % b.size = b.w) (hfit : n + (b.taken writes).length ≤ b.size) :
    loadCyc (b.enqueueAll writes).ring b.size off (n + (b.taken writes).length) =
      loadCyc b.ring b.size off n ++ b.taken writes := by
  induction writes generalizing b n with
  | nil => simp [taken]
  | cons buffer writes ih =>
    have hlen : (buffer.take (b.room buffer)).length = b.room buffer := by simp [room]
    rw [taken, List.length_append, hlen] at hfit
    have hone : loadCyc (b.pushed buffer).ring b.size off (n + b.room buffer) =
        loadCyc b.ring b.size off n ++ buffer.take (b.room buffer) := by
      have hstore := loadCyc_storeCyc b.ring off n (buffer.take (b.room buffer)) b.size_pos
        (by omega)
      rwa [hoff, hlen] at hstore
    have hoff' : (off + (n + b.room buffer)) % b.size = (b.pushed buffer).w := by
      rw [← Nat.add_assoc, ← Nat.mod_add_mod, hoff]
      rfl
    have hrest := ih (b.pushed buffer) hoff' (by simp only [pushed] at hfit ⊢; omega)
    rw [enqueueAll_cons, taken, List.length_append, hlen, ← Nat.add_assoc, ← List.append_assoc,
      ← hone]
    exact hrest

/-! ## The cells behind a view -/

theorem dequeue_size (b : RingBuffer) (n : Nat) : (b.dequeue n).2.size = b.size := rfl

theorem dequeue_ring (b : RingBuffer) (n : Nat) : (b.dequeue n).2.ring = b.ring := rfl

theorem freeSpace_dequeue (b : RingBuffer) (n : Nat) :
    (b.dequeue n).2.freeSpace = b.freeSpace + min n b.ready := by
  have hlt := b.ready_lt
  rw [freeSpace_eq, freeSpace_eq, ready_dequeue, dequeue_size]
  omega

/-- The first view shows the bytes up to the end of the ring, the second one the rest. -/
theorem viewBytes_dequeue (b : RingBuffer) (n : Nat) (mem : Nat → UInt8) :
    viewBytes mem ((b.dequeue n).1.take 1) = loadCyc mem b.size b.r (b.firstLen n) ∧
      viewBytes mem ((b.dequeue n).1.drop 1) =
        loadCyc mem b.size (b.r + b.firstLen n) (min n b.ready - b.firstLen n) := by
  have hr := b.r_lt
  have hlt := b.ready_lt
  have hg : b.ready = _ := gap_eq b.r_lt b.w_lt
  have hfold : min n (gap b.size b.w b.r) = min n b.ready := rfl
  -- one view: it ends before the ring does
  have hone : b.r + min n b.ready ≤ b.size →
      viewBytes mem (List.take 1 [⟨b.r, b.r + min n b.ready⟩]) =
          loadCyc mem b.size b.r (b.firstLen n) ∧
        viewBytes mem (List.drop 1 [⟨b.r, b.r + min n b.ready⟩]) =
          loadCyc mem b.size (b.r + b.firstLen n) (min n b.ready - b.firstLen n) := by
    intro h
    have hfirst : b.firstLen n = min n b.ready := by unfold firstLen; omega
    rw [hfirst, Nat.sub_self, loadCyc_zero, loadCyc_eq_load h]
    simp [viewBytes, View.bytes, View.len]
  simp only [dequeue, dequeueAt, hfold]
  by_cases hrw : b.r < b.w
  · rw [if_pos hrw]
    rw [if_pos hrw.le] at hg
    have hw := b.w_lt
    exact hone (by omega)
  · rw [if_neg hrw]
    by_cases hwr : b.w < b.r
    · rw [if_pos hwr]
      split
      · next hc => exact hone hc
      · next hc =>
        have hfirst : b.firstLen n = b.size - b.r := by unfold firstLen; omega
        have hwrap : b.r + (b.size - b.r) = b.size := by omega
        have hsecond := loadCyc_mod mem b.size b.size (min n b.ready - (b.size - b.r))
        rw [Nat.mod_self] at hsecond
        rw [hfirst, hwrap, ← hsecond, loadCyc_eq_load (by omega), loadCyc_eq_load (by omega)]
        simp [viewBytes, View.bytes, View.len]
    · rw [if_neg hwr]
      have hm : min n b.ready = 0 := by rw [if_pos (by omega)] at hg; omega
      have hfirst : b.firstLen n = 0 := by unfold firstLen; omega
      simp [hm, hfirst, viewBytes]

/-- Writes that stop short of the byte `i` of the dequeued ones leave the bytes from `i` on alone.
-/
theorem loadCyc_behind (b : RingBuffer) (n : Nat) (writes : List (List UInt8)) {i k : Nat}
    (hlen : i + k ≤ min n b.ready)
    (hfit : ((b.dequeue n).2.taken writes).length ≤ b.freeSpace + 1 + i) :
    loadCyc ((b.dequeue n).2.enqueueAll writes).ring b.size (b.r + i) k =
      loadCyc b.ring b.size (b.r + i) k := by
  have hlt := b.ready_lt
  have hfree := b.freeSpace_eq
  have hoff : (b.r + i + (b.ready - i)) % (b.dequeue n).2.size = (b.dequeue n).2.w := by
    rw [Nat.add_assoc, Nat.add_sub_cancel' (by omega)]
    exact add_gap_mod b.r_lt b.w_lt
  have hload := (b.dequeue n).2.loadCyc_enqueueAll writes hoff (by rw [dequeue_size]; omega)
  have hpre := congrArg (List.take k) hload
  rw [dequeue_size, dequeue_ring, loadCyc_take (by omega),
    List.take_append_of_le_length (by rw [length_loadCyc]; omega), loadCyc_take (by omega)] at hpre
  exact hpre

/-- Writes of one value that reach the byte `i` of the dequeued ones leave that value there. -/
theorem ring_overwritten (b : RingBuffer) (n : Nat) {v : UInt8}
    {writes : List (List UInt8)} {i : Nat} (hv : ∀ buffer ∈ writes, ∀ x ∈ buffer, x = v)
    (hreach : b.freeSpace + 1 + i < ((b.dequeue n).2.taken writes).length) :
    ((b.dequeue n).2.enqueueAll writes).ring ((b.r + i) % b.size) = v := by
  have hlt := b.ready_lt
  have hfree := b.freeSpace_eq
  have hroom : ((b.dequeue n).2.taken writes).length ≤ (b.dequeue n).2.freeSpace := by
    rw [length_taken]
    exact Nat.min_le_right _ _
  rw [freeSpace_dequeue] at hroom
  have hw : (b.dequeue n).2.w = (b.r + b.ready) % b.size := (add_gap_mod b.r_lt b.w_lt).symm
  have hoff : (b.r + b.ready + 0) % (b.dequeue n).2.size = (b.dequeue n).2.w := hw.symm
  have hload := (b.dequeue n).2.loadCyc_enqueueAll writes hoff (by rw [dequeue_size]; omega)
  rw [loadCyc_zero, List.nil_append, Nat.zero_add, dequeue_size] at hload
  have hcell := congrArg (·[b.freeSpace + 1 + i]?) hload
  rw [getElem?_loadCyc hreach, taken_eq_replicate _ hv, List.getElem?_replicate,
    if_pos hreach] at hcell
  have hpos : b.r + b.ready + (b.freeSpace + 1 + i) = b.r + i + b.size := by omega
  rw [hpos, Nat.add_mod_right] at hcell
  exact Option.some.inj hcell

/-- The writes `before` the first copy leave the bytes of the first view alone, and together with
the writes `between` the copies those of the second view. -/
def Stable (b : RingBuffer) (n before between : Nat) : Prop :=
  (min n b.ready ≤ 1 ∨ before ≤ b.freeSpace + 1) ∧
    (min n b.ready ≤ b.firstLen n + 1 ∨ before + between ≤ b.freeSpace + 1 + b.firstLen n)

instance (b : RingBuffer) (n before between : Nat) : Decidable (b.Stable n before between) :=
  inferInstanceAs (Decidable (_ ∧ _))

/-- What a series of writes takes after a `dequeue`, against the space found before it. -/
theorem length_taken_dequeue (b : RingBuffer) (n : Nat) (writes : List (List UInt8)) :
    ((b.dequeue n).2.taken writes).length =
      min (writes.map List.length).sum (b.freeSpace + min n b.ready) := by
  rw [length_taken, freeSpace_dequeue]

theorem firstLen_le (b : RingBuffer) (n : Nat) : b.firstLen n ≤ min n b.ready :=
  Nat.min_le_left _ _

/-- The dequeued bytes are those of the two views. -/
theorem viewBytes_split (b : RingBuffer) (n : Nat) (mem : Nat → UInt8) :
    viewBytes mem (b.dequeue n).1 =
      viewBytes mem ((b.dequeue n).1.take 1) ++ viewBytes mem ((b.dequeue n).1.drop 1) := by
  rw [viewBytes, viewBytes, viewBytes, ← List.flatMap_append, List.take_append_drop]

theorem recvCopy_eq (b : RingBuffer) (n : Nat) (before between : List (List UInt8)) :
    b.recvCopy n before between =
      loadCyc ((b.dequeue n).2.enqueueAll before).ring b.size b.r (b.firstLen n) ++
        loadCyc ((b.dequeue n).2.enqueueAll (before ++ between)).ring b.size (b.r + b.firstLen n)
          (min n b.ready - b.firstLen n) := by
  rw [enqueueAll_append, ← (b.viewBytes_dequeue n _).1, ← (b.viewBytes_dequeue n _).2]
  rfl

theorem recvCopy_of_stable (b : RingBuffer) (n : Nat) (before between : List (List UInt8))
    (h : b.Stable n (before.map List.length).sum (between.map List.length).sum) :
    b.recvCopy n before between = viewBytes b.ring (b.dequeue n).1 := by
  obtain ⟨hfirst, hsecond⟩ := h
  have hle := b.firstLen_le n
  have htaken := b.length_taken_dequeue n before
  have htaken' := b.length_taken_dequeue n (before ++ between)
  rw [List.map_append, List.sum_append] at htaken'
  have h₁ := b.loadCyc_behind n before (i := 0) (k := b.firstLen n) (by omega) (by omega)
  have h₂ := b.loadCyc_behind n (before ++ between) (i := b.firstLen n)
    (k := min n b.ready - b.firstLen n) (by omega) (by omega)
  rw [Nat.add_zero] at h₁
  rw [recvCopy_eq, h₁, h₂, viewBytes_split, (b.viewBytes_dequeue n _).1,
    (b.viewBytes_dequeue n _).2]

/-- Two reads of the same cells that agree, agree on each cell. -/
theorem mem_eq_of_loadCyc_eq {mem mem' : Nat → UInt8} {size off n : Nat} (hn : 0 < n)
    (h : loadCyc mem size off n = loadCyc mem' size off n) :
    mem (off % size) = mem' (off % size) := by
  have hcell := congrArg (·[0]?) h
  rw [getElem?_loadCyc hn, getElem?_loadCyc hn] at hcell
  exact Option.some.inj hcell

/-- Buffers of given lengths that hold one value. -/
theorem mem_fill {v : UInt8} (lens : List Nat) :
    ∀ buffer ∈ lens.map (List.replicate · v), ∀ x ∈ buffer, x = v := by
  intro buffer hbuf x hx
  obtain ⟨k, -, rfl⟩ := List.mem_map.1 hbuf
  exact List.eq_of_mem_replicate hx

theorem map_length_fill (v : UInt8) (lens : List Nat) :
    (lens.map (List.replicate · v)).map List.length = lens := by
  simp [Function.comp_def]

theorem stable_of_recvCopy (b : RingBuffer) (n : Nat) (lens lens' : List Nat)
    (h : ∀ before between : List (List UInt8), before.map List.length = lens →
      between.map List.length = lens' →
      b.recvCopy n before between = viewBytes b.ring (b.dequeue n).1) :
    b.Stable n lens.sum lens'.sum := by
  have hle := b.firstLen_le n
  -- both reads split at the first view
  have hsplit : ∀ v : UInt8,
      loadCyc ((b.dequeue n).2.enqueueAll (lens.map (List.replicate · v))).ring b.size b.r
          (b.firstLen n) = loadCyc b.ring b.size b.r (b.firstLen n) ∧
        loadCyc ((b.dequeue n).2.enqueueAll ((lens ++ lens').map (List.replicate · v))).ring b.size
            (b.r + b.firstLen n) (min n b.ready - b.firstLen n) =
          loadCyc b.ring b.size (b.r + b.firstLen n) (min n b.ready - b.firstLen n) := by
    intro v
    have hcopy := h _ _ (map_length_fill v lens) (map_length_fill v lens')
    rw [recvCopy_eq, viewBytes_split, (b.viewBytes_dequeue n _).1, (b.viewBytes_dequeue n _).2,
      ← List.map_append] at hcopy
    exact List.append_inj hcopy (by simp)
  refine ⟨?_, ?_⟩
  · by_contra hnot
    simp only [not_or, Nat.not_le] at hnot
    have hpos : 0 < b.firstLen n := by
      have hr := b.r_lt
      unfold firstLen
      omega
    have hne : b.ring (b.r % b.size) + 1 ≠ b.ring (b.r % b.size) := by simp
    have htaken := b.length_taken_dequeue n
      (lens.map (List.replicate · (b.ring (b.r % b.size) + 1)))
    rw [map_length_fill] at htaken
    have hover := b.ring_overwritten n (i := 0) (mem_fill lens)
      (by rw [htaken]; omega)
    exact hne (hover.symm.trans (mem_eq_of_loadCyc_eq hpos (hsplit _).1))
  · by_contra hnot
    simp only [not_or, Nat.not_le] at hnot
    have hne :
        b.ring ((b.r + b.firstLen n) % b.size) + 1 ≠ b.ring ((b.r + b.firstLen n) % b.size) := by
      simp
    have htaken := b.length_taken_dequeue n
      ((lens ++ lens').map (List.replicate · (b.ring ((b.r + b.firstLen n) % b.size) + 1)))
    rw [map_length_fill, List.sum_append] at htaken
    have hover := b.ring_overwritten n (i := b.firstLen n) (mem_fill (lens ++ lens'))
      (by rw [htaken]; omega)
    exact hne (hover.symm.trans (mem_eq_of_loadCyc_eq (by omega) (hsplit _).2))

end RingBuffer

/-- **The views are stable exactly when the writes stay behind them.** For given lengths of the
buffers the event loop enqueues before the first copy and between the two, `recv` returns the bytes
that `dequeue` showed, whatever the buffers hold, if and only if at most one byte was dequeued or
the first writes are no longer than the free space and one byte more, and likewise for the bytes of
the second view, which all the writes may reach. -/
theorem views_stable_iff (b : RingBuffer) (n : Nat) (lens lens' : List Nat) :
    (∀ before between : List (List UInt8), before.map List.length = lens →
        between.map List.length = lens' →
        b.recvCopy n before between = viewBytes b.ring (b.dequeue n).1) ↔
      b.Stable n lens.sum lens'.sum := by
  refine ⟨b.stable_of_recvCopy n lens lens', fun h before between hlens hlens' => ?_⟩
  exact b.recvCopy_of_stable n before between (by rwa [hlens, hlens'])

/-- A full ring of four cells is emptied by `recv(3)`; a segment of three bytes comes in before the
views are copied, and `recv` returns its bytes in place of the first two. -/
theorem full_ring_view_overwritten :
    let b := (RingBuffer.new 4 (by decide)).enqueueAll [[1, 2, 3]]
    viewBytes b.ring (b.dequeue 3).1 = [1, 2, 3] ∧ b.recvCopy 3 [[7, 8, 9]] [] = [8, 9, 3] ∧
      b.recvCopy 3 [[7, 8, 9]] [] ≠ viewBytes b.ring (b.dequeue 3).1 := by
  decide

end Tipy.Buffer
