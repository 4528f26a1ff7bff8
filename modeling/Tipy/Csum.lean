import Mathlib.Data.Nat.Bitwise
import Tipy.Lib.EndAround
import Tipy.Python

/-!
# The Internet checksum

`inet_csum_little` of `tipy/lib/csum.py`, the checksum on a little-endian host. It sums the data in
words of eight bytes, then of two, then the last byte, folds the sum, swaps its bytes and
complements it. Up to multiples of 65535 the sum is the whole data read as one little-endian number,
however it was cut up: this is `csumTotal_modEq`, and all that follows rests on it. So zeros at the
end do not count, and a checksum written to an even place of the data it was computed over makes the
checksum zero.
-/

namespace Tipy

open Lib

/-- The bytes as digits in base 256. -/
def digits (data : List UInt8) : List Nat := data.map UInt8.toNat

/-- The data as one little-endian number. -/
def leNat (data : List UInt8) : Nat := Nat.ofDigits 256 (digits data)

/-- `sum(data.cast(code))`, where `code` is a word of `k` bytes and `data` has `n` of them. -/
def sumCast (k n : Nat) (data : List UInt8) : Nat := wordSum 256 k n (digits data)

/-- The sum before it is folded. -/
def csumTotal (data : List UInt8) (initedSum : Nat) : Nat :=
  let n := data.length
  let dwords := n / 8
  let s := initedSum + sumCast 8 dwords (slice data 0 (dwords * 8))
  let i := dwords * 8
  let hwords := (n - i) / 2
  let s := if hwords ≠ 0 then s + sumCast 2 hwords (slice data i (i + hwords * 2)) else s
  let i := if hwords ≠ 0 then i + hwords * 2 else i
  if i < n then s + byteAt data (n - 1) else s

/-- `(s << 8 & 0xFF00) | (s >> 8)`. -/
def swap16 (s : Nat) : Nat := (s <<< 8 &&& 0xFF00) ||| (s >>> 8)

/-- `inet_csum_little`; `~s & 0xFFFF` of a 16-bit number is `0xFFFF - s`. -/
def inetCsum (data : List UInt8) (initedSum : Nat) : Nat :=
  let s := csumTotal data initedSum
  0xFFFF - swap16 (carryFold 65536 s s)

/-- The sum of the words of a pseudo header: `sum(phdr.cast('I'))`. -/
def phdrSum (src dst protocol len : Nat) : Nat :=
  sumCast 4 3 (be32 src ++ be32 dst ++ [0, UInt8.ofNat protocol] ++ be16 len)

/-! ## The data as a number -/

theorem leNat_append (xs ys : List UInt8) :
    leNat (xs ++ ys) = leNat xs + 256 ^ xs.length * leNat ys := by
  simp only [leNat, digits, List.map_append, Nat.ofDigits_append, List.length_map]

@[simp] theorem leNat_replicate_zero (n : Nat) : leNat (List.replicate n 0) = 0 := by
  induction n with
  | zero => rfl
  | succ n ih =>
    rw [List.replicate_succ]
    simp only [leNat, digits, List.map_cons, Nat.ofDigits_cons] at ih ⊢
    rw [ih]
    rfl

theorem leNat_be16 (n : Nat) : leNat (be16 n) = n / 256 % 256 + 256 * (n % 256) := by
  simp [leNat, digits, be16, Nat.ofDigits_cons]

theorem pow_even_modEq (k : Nat) : 256 ^ (2 * k) ≡ 1 [MOD 65535] := by
  rw [pow_mul]
  exact pow_modEq_one (b := 65536) (by norm_num) k

/-! ## The sum -/

theorem sumCast_modEq {k : Nat} (hk : k % 2 = 0) (n : Nat) (data : List UInt8) :
    sumCast k n data ≡ leNat (data.take (n * k)) [MOD 65535] := by
  have hpow : 256 ^ k ≡ 1 [MOD 65535] := by
    obtain ⟨j, rfl⟩ := Nat.dvd_of_mod_eq_zero hk
    exact pow_even_modEq j
  simpa only [sumCast, leNat, digits, List.map_take] using wordSum_modEq hpow n (digits data)

theorem sumCast_eq_zero_iff (k n : Nat) (data : List UInt8) :
    sumCast k n data = 0 ↔ leNat (data.take (n * k)) = 0 := by
  simpa only [sumCast, leNat, digits, List.map_take] using
    wordSum_eq_zero_iff (b := 256) (by norm_num) (k := k) n (digits data)

/-- The three parts of the data: words of eight bytes, words of two, and at most one byte. -/
structure Cut (data : List UInt8) where
  dwords : Nat
  hwords : Nat
  front : List UInt8
  middle : List UInt8
  back : List UInt8
  eq : data = front ++ middle ++ back
  length_front : front.length = dwords * 8
  length_middle : middle.length = hwords * 2

/-- The parts that `inet_csum_little` sums. -/
def csumCut (data : List UInt8) : Cut data where
  dwords := data.length / 8
  hwords := (data.length - data.length / 8 * 8) / 2
  front := slice data 0 (data.length / 8 * 8)
  middle := slice data (data.length / 8 * 8)
    (data.length / 8 * 8 + (data.length - data.length / 8 * 8) / 2 * 2)
  back := data.drop (data.length / 8 * 8 + (data.length - data.length / 8 * 8) / 2 * 2)
  eq := by
    generalize hi : data.length / 8 * 8 = i
    generalize hj : i + (data.length - i) / 2 * 2 = j
    have hfront : slice data 0 i = (data.take j).take i := by
      rw [slice, List.drop_zero, List.take_take, min_eq_left (by omega)]
    rw [hfront, slice, List.take_append_drop, List.take_append_drop]
  length_front := by simp [slice]; omega
  length_middle := by simp [slice]; omega

theorem leNat_drop_last {data : List UInt8} {i : Nat} (h : data.length = i + 1) :
    leNat (data.drop i) = byteAt data i := by
  have hi : i < data.length := by omega
  rw [List.drop_eq_getElem_cons hi, List.drop_eq_nil_of_le (by omega)]
  simp [leNat, digits, byteAt, List.getElem?_eq_getElem hi]

/-- The sum for any way to cast words. -/
def csumTotalWith (cast : Nat → Nat → List UInt8 → Nat) (data : List UInt8) (initedSum : Nat) :
    Nat :=
  let n := data.length
  let dwords := n / 8
  let s := initedSum + cast 8 dwords (slice data 0 (dwords * 8))
  let i := dwords * 8
  let hwords := (n - i) / 2
  let s := if hwords ≠ 0 then s + cast 2 hwords (slice data i (i + hwords * 2)) else s
  let i := if hwords ≠ 0 then i + hwords * 2 else i
  if i < n then s + byteAt data (n - 1) else s

theorem csumTotalWith_cut {cast : Nat → Nat → List UInt8 → Nat} (hcast : ∀ data, cast 2 0 data = 0)
    (data : List UInt8) (initedSum : Nat) :
    csumTotalWith cast data initedSum = initedSum + cast 8 (csumCut data).dwords
      (csumCut data).front +
      cast 2 (csumCut data).hwords (csumCut data).middle + leNat (csumCut data).back := by
  simp only [csumTotalWith, csumCut]
  generalize hi : data.length / 8 * 8 = i
  generalize hh : (data.length - i) / 2 = h
  have hwords : (if h ≠ 0 then i + h * 2 else i) = i + h * 2 := by
    split <;> omega
  have hsum (s : Nat) : (if h ≠ 0 then s + cast 2 h (slice data i (i + h * 2)) else s) =
      s + cast 2 h (slice data i (i + h * 2)) := by
    by_cases hz : h = 0
    · simp [hz, hcast]
    · exact if_pos hz
  rw [hwords, hsum]
  split
  · next hlt =>
    have hlast : data.length = i + h * 2 + 1 := by omega
    rw [leNat_drop_last hlast, hlast, Nat.add_sub_cancel]
  · next hge => rw [List.drop_eq_nil_of_le (by omega)]; rfl

theorem csumTotal_cut (data : List UInt8) (initedSum : Nat) :
    csumTotal data initedSum = initedSum + sumCast 8 (csumCut data).dwords (csumCut data).front +
      sumCast 2 (csumCut data).hwords (csumCut data).middle + leNat (csumCut data).back :=
  csumTotalWith_cut (fun _ => rfl) data initedSum

namespace Cut

variable {data : List UInt8} (c : Cut data)

theorem leNat_eq : leNat data = leNat c.front + 256 ^ (2 * (c.dwords * 4)) *
    (leNat c.middle + 256 ^ (2 * c.hwords) * leNat c.back) := by
  have hlen : 2 * (c.dwords * 4) = c.front.length := by
    have := c.length_front
    omega
  have hlen' : 2 * c.hwords = c.middle.length := by
    have := c.length_middle
    omega
  conv_lhs => rw [c.eq]
  rw [List.append_assoc, leNat_append, leNat_append, hlen, hlen']

theorem leNat_modEq : leNat data ≡ leNat c.front + leNat c.middle + leNat c.back [MOD 65535] := by
  rw [c.leNat_eq, Nat.add_assoc]
  refine Nat.ModEq.add_left _ ?_
  have hback := (pow_even_modEq c.hwords).mul_right (leNat c.back)
  have hmiddle := (pow_even_modEq (c.dwords * 4)).mul (hback.add_left (leNat c.middle))
  simpa only [one_mul] using hmiddle

theorem leNat_eq_zero_iff :
    leNat data = 0 ↔ leNat c.front = 0 ∧ leNat c.middle = 0 ∧ leNat c.back = 0 := by
  rw [c.leNat_eq]
  simp

theorem sumCast_front_modEq : sumCast 8 c.dwords c.front ≡ leNat c.front [MOD 65535] := by
  have h := sumCast_modEq (k := 8) rfl c.dwords c.front
  rwa [← c.length_front, List.take_length] at h

theorem sumCast_middle_modEq : sumCast 2 c.hwords c.middle ≡ leNat c.middle [MOD 65535] := by
  have h := sumCast_modEq (k := 2) rfl c.hwords c.middle
  rwa [← c.length_middle, List.take_length] at h

end Cut

/-- **The sum** is the data as one number, up to multiples of 65535. -/
theorem csumTotal_modEq (data : List UInt8) (initedSum : Nat) :
    csumTotal data initedSum ≡ initedSum + leNat data [MOD 65535] := by
  let c := csumCut data
  rw [csumTotal_cut, Nat.add_assoc, Nat.add_assoc]
  refine Nat.ModEq.add_left _ ?_
  have h := (c.sumCast_front_modEq.add c.sumCast_middle_modEq).add_right (leNat c.back)
  rw [Nat.add_assoc] at h
  exact h.trans c.leNat_modEq.symm

theorem csumTotal_eq_zero_iff (data : List UInt8) (initedSum : Nat) :
    csumTotal data initedSum = 0 ↔ initedSum = 0 ∧ leNat data = 0 := by
  let c := csumCut data
  have hfront := sumCast_eq_zero_iff 8 c.dwords c.front
  have hmiddle := sumCast_eq_zero_iff 2 c.hwords c.middle
  rw [← c.length_front, List.take_length] at hfront
  rw [← c.length_middle, List.take_length] at hmiddle
  rw [csumTotal_cut, c.leNat_eq_zero_iff]
  simp only [Nat.add_eq_zero_iff]
  tauto

/-! ## The checksum -/

theorem swap16_eq {s : Nat} (h : s < 65536) : swap16 s = s % 256 * 256 + s / 256 := by
  have hmask : s <<< 8 &&& 0xFF00 = (s % 256) <<< 8 := by
    rw [show 0xFF00 = 0xFF <<< 8 from rfl, ← Nat.shiftLeft_and_distrib,
      show 0xFF = 2 ^ 8 - 1 from rfl, Nat.and_two_pow_sub_one_eq_mod]
  have hlow : s >>> 8 < 2 ^ 8 := by
    rw [Nat.shiftRight_eq_div_pow]
    omega
  rw [swap16, hmask, ← Nat.shiftLeft_add_eq_or_of_lt hlow, Nat.shiftLeft_eq,
    Nat.shiftRight_eq_div_pow]

/-- The folded sum. -/
def csumFold (data : List UInt8) (initedSum : Nat) : Nat :=
  carryFold 65536 (csumTotal data initedSum) (csumTotal data initedSum)

section Csum

variable (data : List UInt8) (initedSum : Nat)

theorem csumFold_lt : csumFold data initedSum < 65536 := carryFold_lt (by norm_num) le_rfl

theorem csumFold_modEq : csumFold data initedSum ≡ initedSum + leNat data [MOD 65535] :=
  (carryFold_modEq (by norm_num) _ _).trans (csumTotal_modEq data initedSum)

theorem inetCsum_eq : inetCsum data initedSum =
    65535 - (csumFold data initedSum % 256 * 256 + csumFold data initedSum / 256) := by
  rw [← swap16_eq (csumFold_lt data initedSum)]
  rfl

theorem inetCsum_lt : inetCsum data initedSum < 65536 := by
  rw [inetCsum_eq]
  omega

/-- The bytes of the checksum, as they are written, are the complement of the folded sum. -/
theorem leNat_be16_inetCsum :
    leNat (be16 (inetCsum data initedSum)) = 65535 - csumFold data initedSum := by
  have hlt := csumFold_lt data initedSum
  rw [leNat_be16, inetCsum_eq]
  generalize csumFold data initedSum = f at hlt ⊢
  have hdiv : (65535 - (f % 256 * 256 + f / 256)) / 256 = 255 - f % 256 := by omega
  have hmod : (65535 - (f % 256 * 256 + f / 256)) % 256 = 255 - f / 256 := by omega
  rw [hdiv, hmod]
  omega

variable {data initedSum} {data' : List UInt8} {initedSum' : Nat}

theorem csumTotal_pos (h : 0 < initedSum + leNat data) : 0 < csumTotal data initedSum := by
  rw [Nat.pos_iff_ne_zero, Ne, csumTotal_eq_zero_iff]
  omega

/-- **The test of the receivers.** -/
theorem inetCsum_eq_zero_iff (h : 0 < initedSum + leNat data) :
    inetCsum data initedSum = 0 ↔ initedSum + leNat data ≡ 0 [MOD 65535] := by
  have hlt := csumFold_lt data initedSum
  have hpred : csumFold data initedSum = 65535 ↔ 65535 ∣ csumTotal data initedSum :=
    carryFold_eq_pred_iff (by norm_num) (csumTotal_pos h) le_rfl
  have hfold : inetCsum data initedSum = 0 ↔ csumFold data initedSum = 65535 := by
    rw [inetCsum_eq]
    omega
  have hmod := csumTotal_modEq data initedSum
  rw [hfold, hpred, ← Nat.modEq_zero_iff_dvd]
  exact ⟨hmod.symm.trans, hmod.trans⟩

/-- A checksum that is written to an even place, where zeros were when it was computed, completes
the sum of the data to a multiple of 65535. -/
theorem csum_completes {front back : List UInt8} (heven : front.length % 2 = 0) {c : Nat}
    (hc : c = inetCsum (front ++ be16 0 ++ back) initedSum) :
    initedSum + leNat (front ++ be16 c ++ back) ≡ 0 [MOD 65535] := by
  obtain ⟨k, hk⟩ : ∃ k, front.length = 2 * k := ⟨front.length / 2, by omega⟩
  have hsum : initedSum + leNat (front ++ be16 c ++ back) =
      (initedSum + leNat (front ++ be16 0 ++ back)) + 256 ^ (2 * k) * leNat (be16 c) := by
    have hzero : leNat (be16 0) = 0 := rfl
    simp only [List.append_assoc, leNat_append, hzero, length_be16, hk]
    ring
  have hfold := csumFold_lt (front ++ be16 0 ++ back) initedSum
  rw [hsum, hc, leNat_be16_inetCsum]
  have hpatch := (pow_even_modEq k).mul_right
    (65535 - csumFold (front ++ be16 0 ++ back) initedSum)
  rw [one_mul] at hpatch
  have htotal := (csumFold_modEq (front ++ be16 0 ++ back) initedSum).symm.add hpatch
  refine htotal.trans ?_
  rw [Nat.add_sub_of_le (by omega)]
  rfl

/-- What was not zero before the checksum was written is not zero after it, and neither is a sum
that was zero. -/
theorem csum_completes_pos {front back : List UInt8} {c : Nat}
    (hc : c = inetCsum (front ++ be16 0 ++ back) initedSum) :
    0 < initedSum + leNat (front ++ be16 c ++ back) := by
  have hsum : initedSum + leNat (front ++ be16 c ++ back) =
      (initedSum + leNat (front ++ be16 0 ++ back)) + 256 ^ front.length * leNat (be16 c) := by
    have hzero : leNat (be16 0) = 0 := rfl
    simp only [List.append_assoc, leNat_append, hzero, length_be16]
    ring
  rw [hsum, hc, leNat_be16_inetCsum]
  rcases Nat.eq_zero_or_pos (initedSum + leNat (front ++ be16 0 ++ back)) with hz | hpos
  · have htotal : csumTotal (front ++ be16 0 ++ back) initedSum = 0 := by
      rw [csumTotal_eq_zero_iff]
      omega
    have hfold : csumFold (front ++ be16 0 ++ back) initedSum = 0 := by
      rw [csumFold, htotal]
      rfl
    rw [hfold]
    positivity
  · omega

/-- A checksum that was computed over zeros behind the data too completes the sum of the data. -/
theorem csum_trimmed {front back : List UInt8} (heven : front.length % 2 = 0) {c n : Nat}
    (hc : c = inetCsum (front ++ be16 0 ++ (back ++ List.replicate n 0)) initedSum) :
    0 < initedSum + leNat (front ++ be16 c ++ back) ∧
      initedSum + leNat (front ++ be16 c ++ back) ≡ 0 [MOD 65535] := by
  have htrim : leNat (front ++ be16 c ++ (back ++ List.replicate n 0)) =
      leNat (front ++ be16 c ++ back) := by
    rw [← List.append_assoc, leNat_append _ (List.replicate n 0),
      leNat_replicate_zero, Nat.mul_zero, Nat.add_zero]
  rw [← htrim]
  exact ⟨csum_completes_pos hc, csum_completes heven hc⟩

/-- **A written checksum passes the test**, with the pseudo header it was computed with. -/
theorem inetCsum_written {front back : List UInt8} (heven : front.length % 2 = 0) {c n : Nat}
    (hc : c = inetCsum (front ++ be16 0 ++ (back ++ List.replicate n 0)) initedSum) :
    inetCsum (front ++ be16 c ++ back) initedSum = 0 := by
  obtain ⟨hpos, hmod⟩ := csum_trimmed heven hc
  exact (inetCsum_eq_zero_iff hpos).2 hmod

/-- With another pseudo header it passes when the two sums agree modulo 65535. -/
theorem inetCsum_written_iff {front back : List UInt8} (heven : front.length % 2 = 0) {c n : Nat}
    (hc : c = inetCsum (front ++ be16 0 ++ (back ++ List.replicate n 0)) initedSum)
    (hpos : 0 < initedSum') :
    inetCsum (front ++ be16 c ++ back) initedSum' = 0 ↔ initedSum' ≡ initedSum [MOD 65535] := by
  obtain ⟨-, hmod⟩ := csum_trimmed heven hc
  rw [inetCsum_eq_zero_iff (by omega)]
  constructor
  · exact fun h => Nat.ModEq.add_right_cancel' _ (h.trans hmod.symm)
  · exact fun h => (h.add_right _).trans hmod

end Csum

/-! ## The pseudo header -/

/-- The sum of a pseudo header depends on the length as on 256 times the length. -/
theorem phdrSum_modEq {src dst protocol len : Nat} (hlen : len < 65536) :
    phdrSum src dst protocol len ≡
      leNat (be32 src ++ be32 dst ++ [0, UInt8.ofNat protocol]) + 256 * len [MOD 65535] := by
  have hcast := sumCast_modEq (k := 4) rfl 3
    (be32 src ++ be32 dst ++ [0, UInt8.ofNat protocol] ++ be16 len)
  rw [List.take_of_length_le (by simp), leNat_append] at hcast
  have hpow : 256 ^ (be32 src ++ be32 dst ++ [0, UInt8.ofNat protocol]).length * leNat (be16 len) ≡
      256 * len [MOD 65535] := by
    have hone : 256 ^ (be32 src ++ be32 dst ++ [0, UInt8.ofNat protocol]).length ≡ 1 [MOD 65535] :=
      pow_even_modEq 5
    have hswap : leNat (be16 len) + 65535 * (len / 256) = 256 * len := by
      rw [leNat_be16]
      omega
    have hbe : leNat (be16 len) ≡ 256 * len [MOD 65535] := by
      rw [← hswap]
      simp [Nat.ModEq]
    simpa only [one_mul] using hone.mul hbe
  exact hcast.trans (hpow.add_left _)

theorem phdrSum_pos {src dst protocol len : Nat} (h₀ : 0 < protocol) (h : protocol < 256) :
    0 < phdrSum src dst protocol len := by
  rw [Nat.pos_iff_ne_zero, phdrSum, Ne, sumCast_eq_zero_iff, List.take_of_length_le (by simp),
    leNat_append, leNat_append]
  have hproto : leNat [0, UInt8.ofNat protocol] = 256 * protocol := by
    simp [leNat, digits, Nat.ofDigits_cons, Nat.mod_eq_of_lt h]
  rw [hproto]
  have : 0 < 256 ^ (be32 src ++ be32 dst).length * (256 * protocol) := by positivity
  omega

end Tipy
