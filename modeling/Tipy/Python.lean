import Mathlib.Data.List.Basic

/-!
# The Python built-ins the stack is written with

Exceptions, slices of byte strings, `struct.pack_into` and `struct.unpack_from` on byte buffers, and
dictionaries that remember the order of insertion. A call that raises is `none` here; which
exception it is, is said where it is called.
-/

namespace Tipy

/-- The exceptions the modelled calls can raise. -/
inductive PyError where
  | attributeError
  | indexError
  | keyError
  | nameError
  | structError
  | typeError
  | valueError
deriving Repr, DecidableEq

/-- `buffer[lo:hi]`. -/
def slice (buffer : List UInt8) (lo hi : Nat) : List UInt8 := (buffer.take hi).drop lo

/-- `frame[i]`, for an index inside the frame. -/
def byteAt (frame : List UInt8) (i : Nat) : Nat := (frame.getD i 0).toNat

/-- `unpack_from('!H', frame, i)`. -/
def u16At (frame : List UInt8) (i : Nat) : Nat := byteAt frame i * 256 + byteAt frame (i + 1)

/-- `unpack_from('!I', frame, i)`. -/
def u32At (frame : List UInt8) (i : Nat) : Nat := u16At frame i * 65536 + u16At frame (i + 2)

/-- `pack('!H', n)`, which raises outside `0 ≤ n ≤ 65535`. -/
def packU16 (n : Int) : Option (List UInt8) :=
  if 0 ≤ n ∧ n ≤ 65535 then some [UInt8.ofNat (n.toNat / 256), UInt8.ofNat (n.toNat % 256)]
  else none

/-- The two bytes of `n`, the higher one first. -/
def be16 (n : Nat) : List UInt8 := [UInt8.ofNat (n / 256), UInt8.ofNat (n % 256)]

/-- The four bytes of `n`, the highest first. -/
def be32 (n : Nat) : List UInt8 := be16 (n / 65536) ++ be16 (n % 65536)

/-- The format characters `B`, `H` and `I` of `struct`, in network byte order; `L` is `I` there. -/
inductive Fmt where
  | B
  | H
  | I
deriving Repr, DecidableEq

/-- The values a format character packs. -/
def Fmt.bound : Fmt → Nat
  | .B => 256
  | .H => 65536
  | .I => 4294967296

/-- The bytes a format character packs a value into. -/
def Fmt.bytes : Fmt → Nat → List UInt8
  | .B, n => [UInt8.ofNat n]
  | .H, n => be16 n
  | .I, n => be32 n

/-- `pack`, which raises on a value that is too large for its format character. -/
def structPack : List (Fmt × Nat) → Option (List UInt8)
  | [] => some []
  | (f, n) :: fields =>
    if n < f.bound then (structPack fields).map (f.bytes n ++ ·) else none

/-- `pack_into(f'{len(data)}s', buf, off, data)`, which raises unless the data fits. -/
def packInto (buf : List UInt8) (off : Nat) (data : List UInt8) : Option (List UInt8) :=
  if off + data.length ≤ buf.length then
    some (buf.take off ++ data ++ buf.drop (off + data.length))
  else none

/-- `pack_into(fmt, buf, off, *values)`: `struct.error` for a value out of range or a buffer too
short. -/
def structPackInto (buf : List UInt8) (off : Nat) (fields : List (Fmt × Nat)) :
    Except PyError (List UInt8) :=
  match (structPack fields).bind (packInto buf off) with
  | some buf => .ok buf
  | none => .error .structError

/-- `d[k] = v`: an existing key keeps its place, a new one goes to the end. -/
def dictSet {κ ν : Type*} [DecidableEq κ] (d : List (κ × ν)) (k : κ) (v : ν) : List (κ × ν) :=
  if k ∈ d.map Prod.fst then d.map fun e => if e.1 = k then (k, v) else e else d ++ [(k, v)]

/-! ## Byte buffers -/

theorem packInto_eq_some {buf data : List UInt8} {off : Nat} (h : off + data.length ≤ buf.length) :
    packInto buf off data = some (buf.take off ++ data ++ buf.drop (off + data.length)) :=
  if_pos h

theorem length_of_packInto {buf data buf' : List UInt8} {off : Nat}
    (h : packInto buf off data = some buf') : buf'.length = buf.length := by
  unfold packInto at h
  split at h
  · next hle =>
    cases h
    simp
    omega
  · cases h

/-- The data is in its place and the rest of the buffer is as it was. -/
theorem getElem?_of_packInto {buf data buf' : List UInt8} {off : Nat}
    (h : packInto buf off data = some buf') (i : Nat) :
    buf'[i]? = if off ≤ i ∧ i < off + data.length then data[i - off]? else buf[i]? := by
  unfold packInto at h
  split at h
  · next hle =>
    cases h
    have htake : (buf.take off).length = off := by simp; omega
    rw [List.append_assoc]
    by_cases h1 : i < off
    · rw [List.getElem?_append_left (by omega), List.getElem?_take_of_lt h1, if_neg (by omega)]
    · rw [List.getElem?_append_right (by omega), htake]
      by_cases h2 : i < off + data.length
      · rw [List.getElem?_append_left (by omega), if_pos ⟨by omega, h2⟩]
      · rw [List.getElem?_append_right (by omega), List.getElem?_drop, if_neg (by omega)]
        congr 1
        omega
  · cases h

theorem u16At_congr {l l' : List UInt8} {i : Nat} (h₀ : l[i]? = l'[i]?)
    (h₁ : l[i + 1]? = l'[i + 1]?) : u16At l i = u16At l' i := by
  simp only [u16At, byteAt, List.getD_eq_getElem?_getD, h₀, h₁]

@[simp] theorem length_be16 (n : Nat) : (be16 n).length = 2 := rfl

@[simp] theorem length_be32 (n : Nat) : (be32 n).length = 4 := rfl

/-- A number is read from where it was packed. -/
theorem u16At_of_drop {frame rest : List UInt8} {i n : Nat} (h : frame.drop i = be16 n ++ rest)
    (hn : n < 65536) : u16At frame i = n := by
  have hbyte (k : Nat) : byteAt frame (i + k) = byteAt (be16 n ++ rest) k := by
    rw [← h]
    simp only [byteAt, List.getD_eq_getElem?_getD, List.getElem?_drop]
  rw [u16At, ← Nat.add_zero i, Nat.add_assoc, hbyte, hbyte]
  simp only [byteAt, be16, List.cons_append, Nat.zero_add, List.getD_cons_zero, List.getD_cons_succ,
    UInt8.toNat_ofNat']
  omega

theorem u32At_of_drop {frame rest : List UInt8} {i n : Nat} (h : frame.drop i = be32 n ++ rest)
    (hn : n < 4294967296) : u32At frame i = n := by
  have hparts : frame.drop i = be16 (n / 65536) ++ (be16 (n % 65536) ++ rest) := by
    rw [h, be32, List.append_assoc]
  have hnext : frame.drop (i + 2) = be16 (n % 65536) ++ rest := by
    rw [← List.drop_drop, hparts]
    exact List.drop_left' rfl
  rw [u32At, u16At_of_drop hparts (by omega), u16At_of_drop hnext (by omega)]
  omega

theorem byteAt_of_drop {frame rest : List UInt8} {i n : Nat}
    (h : frame.drop i = UInt8.ofNat n :: rest) (hn : n < 256) : byteAt frame i = n := by
  have hget : frame[i]? = some (UInt8.ofNat n) := by
    rw [← Nat.add_zero i, ← List.getElem?_drop, h]
    rfl
  simp only [byteAt, List.getD_eq_getElem?_getD, hget, Option.getD_some, UInt8.toNat_ofNat']
  exact Nat.mod_eq_of_lt hn

theorem byteAt_eq_of_drop {frame rest : List UInt8} {i : Nat} {b : UInt8}
    (h : frame.drop i = b :: rest) :
    byteAt frame i = b.toNat :=
  byteAt_of_drop (n := b.toNat) (by rw [h, UInt8.ofNat_toNat]) b.toNat_lt

theorem toNat_eq_iff {b : UInt8} {n : Nat} (hn : n < 256) : b.toNat = n ↔ b = UInt8.ofNat n := by
  constructor
  · rintro rfl
    exact UInt8.ofNat_toNat.symm
  · rintro rfl
    exact UInt8.toNat_ofNat_of_lt' hn

theorem length_of_packU16 {n : Int} {bs : List UInt8} (h : packU16 n = some bs) :
    bs.length = 2 := by
  unfold packU16 at h
  split at h
  · cases h
    rfl
  · cases h

theorem packU16_eq_some {n : Int} (h₀ : 0 ≤ n) (h : n ≤ 65535) :
    packU16 n = some [UInt8.ofNat (n.toNat / 256), UInt8.ofNat (n.toNat % 256)] :=
  if_pos ⟨h₀, h⟩

/-! ## Dictionaries and lists -/

section Dict

variable {κ ν : Type*} [DecidableEq κ] {d : List (κ × ν)} {k : κ} {v : ν}

theorem mem_dictSet_self : (k, v) ∈ dictSet d k v := by
  unfold dictSet
  split
  · next h =>
    obtain ⟨e, he, rfl⟩ := List.mem_map.1 h
    exact List.mem_map.2 ⟨e, he, if_pos rfl⟩
  · simp

theorem mem_of_mem_dictSet {e : κ × ν} (h : e ∈ dictSet d k v) : e = (k, v) ∨ e ∈ d := by
  unfold dictSet at h
  split at h
  · obtain ⟨e', he', rfl⟩ := List.mem_map.1 h
    by_cases hk : e'.1 = k
    · exact Or.inl (if_pos hk)
    · rw [if_neg hk]
      exact Or.inr he'
  · rcases List.mem_append.1 h with h | h
    · exact Or.inr h
    · exact Or.inl (List.mem_singleton.1 h)

theorem mem_dictSet_of_ne {e : κ × ν} (h : e ∈ d) (hne : e.1 ≠ k) : e ∈ dictSet d k v := by
  unfold dictSet
  split
  · exact List.mem_map.2 ⟨e, h, if_neg hne⟩
  · exact List.mem_append_left _ h

/-- What a dictionary whose order does not matter holds after `d[k] = v` or `del d[k]`. -/
theorem of_update_eq_some {d : κ → Option ν} {k k' : κ} {v : Option ν} {b : ν}
    (h : Function.update d k v k' = some b) : (k' = k ∧ v = some b) ∨ (k' ≠ k ∧ d k' = some b) := by
  by_cases hk : k' = k
  · subst hk
    rw [Function.update_self] at h
    exact .inl ⟨rfl, h⟩
  · rw [Function.update_of_ne hk] at h
    exact .inr ⟨hk, h⟩

end Dict

/-- What a list holds after `l[j] = x`. -/
theorem getElem?_set_cases {α : Type*} {l : List α} {x y : α} {i j : Nat}
    (h : (l.set j x)[i]? = some y) : (i = j ∧ y = x) ∨ (i ≠ j ∧ l[i]? = some y) := by
  rw [List.getElem?_set] at h
  split at h
  · next he =>
    split at h
    · exact .inl ⟨he.symm, (Option.some.inj h).symm⟩
    · exact absurd h (by simp)
  · next hne => exact .inr ⟨Ne.symm hne, h⟩

end Tipy
