import Mathlib.Data.List.Basic
import Mathlib.Data.Nat.ModEq

/-!
# A stream held in cyclic memory

A memory is a function from cell numbers to values. A stream position `p` lives in cell
`p % size`, so a memory of `size` cells can hold at most `size` consecutive positions of a stream.
`Holds mem size S lo hi` says that it does hold the positions `lo, …, hi - 1` of `S`.
`Holds.storeCyc` is the effect of appending to the stream while the new positions do not catch up
with `lo`, and `Holds.loadCyc` says that a cyclic read inside the held range returns the stream.
-/

namespace Tipy.Lib

section Cyclic

variable {α : Type*}

/-- The memory after writing `xs` to the cells from `off` on. -/
def store (mem : Nat → α) (off : Nat) (xs : List α) : Nat → α :=
  fun i => if off ≤ i then xs[i - off]?.getD (mem i) else mem i

/-- The contents of the `n` cells from `off` on. -/
def load (mem : Nat → α) (off n : Nat) : List α :=
  (List.range n).map fun i => mem (off + i)

/-- The contents of `n` cells from `off` on, going round at `size`. -/
def loadCyc (mem : Nat → α) (size off n : Nat) : List α :=
  (List.range n).map fun i => mem ((off + i) % size)

/-- Writing `xs` from cell `off` on, going round at `size` (once at most, as `xs` fits). -/
def storeCyc (mem : Nat → α) (size off : Nat) (xs : List α) : Nat → α :=
  store (store mem off (xs.take (size - off))) 0 (xs.drop (size - off))

/-- The positions `lo, …, hi - 1` of the stream are in their cells. -/
def Holds (mem : Nat → α) (size : Nat) (S : List α) (lo hi : Nat) : Prop :=
  ∀ p, lo ≤ p → p < hi → S[p]? = some (mem (p % size))

/-! ## Contiguous cells -/

@[simp] theorem store_nil (mem : Nat → α) (off : Nat) : store mem off [] = mem := by
  funext i
  simp [store]

theorem store_of_lt {mem : Nat → α} {off i : Nat} {xs : List α} (h : i < off) :
    store mem off xs i = mem i := by
  simp [store, Nat.not_le.2 h]

theorem store_of_ge {mem : Nat → α} {off i : Nat} {xs : List α} (h : off + xs.length ≤ i) :
    store mem off xs i = mem i := by
  unfold store
  split
  · rw [List.getElem?_eq_none (by omega), Option.getD_none]
  · rfl

theorem store_mid {mem : Nat → α} {off k : Nat} {xs : List α} (h : k < xs.length) :
    some (store mem off xs (off + k)) = xs[k]? := by
  simp [store, List.getElem?_eq_getElem h]

@[simp] theorem length_load (mem : Nat → α) (off n : Nat) : (load mem off n).length = n := by
  simp [load]

@[simp] theorem length_loadCyc (mem : Nat → α) (size off n : Nat) :
    (loadCyc mem size off n).length = n := by
  simp [loadCyc]

@[simp] theorem loadCyc_zero (mem : Nat → α) (size off : Nat) : loadCyc mem size off 0 = [] := rfl

theorem getElem?_load {mem : Nat → α} {off n i : Nat} (h : i < n) :
    (load mem off n)[i]? = some (mem (off + i)) := by
  simp [load, h]

theorem getElem?_loadCyc {mem : Nat → α} {size off n i : Nat} (h : i < n) :
    (loadCyc mem size off n)[i]? = some (mem ((off + i) % size)) := by
  simp [loadCyc, h]

/-! ## Going round -/

theorem mod_of_lt_two_mul {i size : Nat} (h : size ≤ i) (h' : i < 2 * size) :
    i % size = i - size := by
  rw [Nat.mod_eq_sub_mod h, Nat.mod_eq_of_lt (by omega)]

/-- Two positions less than `size` apart live in different cells. -/
theorem mod_ne_of_lt {a b size : Nat} (hab : a < b) (hlt : b - a < size) : a % size ≠ b % size := by
  intro he
  have hd : size ∣ b - a := Nat.dvd_of_mod_eq_zero (Nat.sub_mod_eq_zero_of_mod_eq he.symm)
  have := Nat.eq_zero_of_dvd_of_lt hd hlt
  omega

theorem loadCyc_mod (mem : Nat → α) (size off n : Nat) :
    loadCyc mem size (off % size) n = loadCyc mem size off n := by
  simp [loadCyc, Nat.mod_add_mod]

/-- A read that does not reach the end is contiguous. -/
theorem loadCyc_eq_load {mem : Nat → α} {size off n : Nat} (h : off + n ≤ size) :
    loadCyc mem size off n = load mem off n := by
  unfold loadCyc load
  refine List.map_congr_left fun i hi => ?_
  rw [Nat.mod_eq_of_lt (by simp at hi; omega)]

/-- A read past the end is two contiguous reads. -/
theorem loadCyc_eq_append {mem : Nat → α} {size off n : Nat} (hoff : off < size)
    (h : size ≤ off + n) (hn : n ≤ size) :
    loadCyc mem size off n = load mem off (size - off) ++ load mem 0 (n - (size - off)) := by
  apply List.ext_getElem?
  intro i
  by_cases hi : i < n
  · rw [getElem?_loadCyc hi]
    by_cases h1 : i < size - off
    · rw [List.getElem?_append_left (by simpa using h1), getElem?_load h1,
        Nat.mod_eq_of_lt (by omega)]
    · rw [List.getElem?_append_right (by simpa using h1), length_load, getElem?_load (by omega),
        mod_of_lt_two_mul (by omega) (by omega)]
      congr 2
      omega
  · rw [List.getElem?_eq_none (by simpa using hi), List.getElem?_eq_none (by simp; omega)]

theorem loadCyc_take {mem : Nat → α} {size off n m : Nat} (h : m ≤ n) :
    (loadCyc mem size off n).take m = loadCyc mem size off m := by
  simp [loadCyc, ← List.map_take, List.take_range, Nat.min_eq_left h]

theorem loadCyc_drop {mem : Nat → α} {size off n m : Nat} :
    (loadCyc mem size off n).drop m = loadCyc mem size (off + m) (n - m) := by
  apply List.ext_getElem?
  intro i
  rw [List.getElem?_drop]
  by_cases hi : m + i < n
  · rw [getElem?_loadCyc hi, getElem?_loadCyc (by omega), Nat.add_assoc]
  · rw [List.getElem?_eq_none (by simp; omega), List.getElem?_eq_none (by simp; omega)]

/-- A write that does not reach the end is contiguous. -/
theorem storeCyc_eq_store {mem : Nat → α} {size off : Nat} {xs : List α}
    (h : off + xs.length ≤ size) : storeCyc mem size off xs = store mem off xs := by
  unfold storeCyc
  rw [List.take_of_length_le (by omega), List.drop_of_length_le (by omega), store_nil]

theorem storeCyc_new {mem : Nat → α} {size off k : Nat} {xs : List α} (hoff : off < size)
    (hlen : xs.length ≤ size) (hk : k < xs.length) :
    some (storeCyc mem size off xs ((off + k) % size)) = xs[k]? := by
  unfold storeCyc
  by_cases h : off + k < size
  · rw [Nat.mod_eq_of_lt h, store_of_ge (by simp; omega), store_mid (by simp; omega),
      List.getElem?_take_of_lt (by omega)]
  · have hm : (off + k) % size = 0 + (k - (size - off)) := by
      rw [mod_of_lt_two_mul (by omega) (by omega)]
      omega
    rw [hm, store_mid (by simp; omega), List.getElem?_drop]
    congr 1
    omega

theorem storeCyc_old {mem : Nat → α} {size off i : Nat} {xs : List α} (hoff : off < size)
    (hi : i < size) (hne : ∀ k, k < xs.length → i ≠ (off + k) % size) :
    storeCyc mem size off xs i = mem i := by
  unfold storeCyc
  have hback : xs.length - (size - off) ≤ i := by
    by_contra hlt
    refine hne (size - off + i) (by omega) ?_
    rw [mod_of_lt_two_mul (by omega) (by omega)]
    omega
  rw [store_of_ge (by simpa using hback)]
  by_cases h : i < off
  · exact store_of_lt h
  · refine store_of_ge ?_
    by_contra hlt
    simp only [List.length_take] at hlt
    exact hne (i - off) (by omega) (by rw [Nat.mod_eq_of_lt (by omega)]; omega)

/-- Writing right behind a cyclic range makes it longer by what is written. -/
theorem loadCyc_storeCyc (mem : Nat → α) {size : Nat} (off n : Nat) (xs : List α) (hsize : 0 < size)
    (hfit : n + xs.length ≤ size) :
    loadCyc (storeCyc mem size ((off + n) % size) xs) size off (n + xs.length) =
      loadCyc mem size off n ++ xs := by
  have hoff : (off + n) % size < size := Nat.mod_lt _ hsize
  apply List.ext_getElem?
  intro i
  by_cases hi : i < n
  · rw [getElem?_loadCyc (by omega), List.getElem?_append_left (by simpa using hi),
      getElem?_loadCyc hi]
    congr 1
    refine storeCyc_old hoff (Nat.mod_lt _ hsize) fun k hk => ?_
    rw [Nat.mod_add_mod]
    exact mod_ne_of_lt (by omega) (by omega)
  · rw [List.getElem?_append_right (by simpa using hi), length_loadCyc]
    by_cases hk : i - n < xs.length
    · rw [getElem?_loadCyc (by omega), ← storeCyc_new hoff (by omega) hk, Nat.mod_add_mod]
      congr 3
      omega
    · rw [List.getElem?_eq_none (by simp; omega), List.getElem?_eq_none (by omega)]

/-! ## The held range -/

theorem Holds.mono {mem : Nat → α} {size : Nat} {S : List α} {lo hi lo' : Nat}
    (h : Holds mem size S lo hi) (hlo : lo ≤ lo') : Holds mem size S lo' hi :=
  fun p hp hp' => h p (hlo.trans hp) hp'

/-- A cyclic read inside the held range returns the stream. -/
theorem Holds.loadCyc {mem : Nat → α} {size : Nat} {S : List α} {lo hi p n : Nat}
    (h : Holds mem size S lo hi) (hp : lo ≤ p) (hn : p + n ≤ hi) :
    loadCyc mem size p n = (S.drop p).take n := by
  apply List.ext_getElem?
  intro i
  by_cases hi : i < n
  · rw [getElem?_loadCyc hi, List.getElem?_take_of_lt hi, List.getElem?_drop,
      h (p + i) (by omega) (by omega)]
  · rw [List.getElem?_eq_none (by simpa using hi), List.getElem?_eq_none (by simp; omega)]

/-- Appending to the stream at its own cell keeps what is held, as long as the new end stays
within `size` of the old beginning. -/
theorem Holds.storeCyc {mem : Nat → α} {size : Nat} {S : List α} {lo : Nat}
    (h : Holds mem size S lo S.length) (xs : List α) (hsize : 0 < size) (hlo : lo ≤ S.length)
    (hfit : S.length + xs.length ≤ lo + size) :
    Holds (storeCyc mem size (S.length % size) xs) size (S ++ xs) lo (S.length + xs.length) := by
  intro p hp₀ hp
  have hoff : S.length % size < size := Nat.mod_lt _ hsize
  by_cases hnew : S.length ≤ p
  · obtain ⟨k, rfl⟩ := Nat.exists_eq_add_of_le hnew
    have hk : k < xs.length := by omega
    rw [List.getElem?_append_right (by omega), Nat.add_sub_cancel_left, ← Nat.mod_add_mod,
      storeCyc_new hoff (by omega) hk]
  · rw [List.getElem?_append_left (by omega), h p hp₀ (by omega)]
    congr 1
    refine (storeCyc_old hoff (Nat.mod_lt _ hsize) fun k hk => ?_).symm
    rw [Nat.mod_add_mod]
    exact mod_ne_of_lt (by omega) (by omega)

end Cyclic

end Tipy.Lib
