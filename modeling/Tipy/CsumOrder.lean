import Tipy.Csum

/-!
# The checksum in the two byte orders

`Ping.csum` of `example/ping.py` is the checksum as it is defined: big-endian words of two bytes,
the carry added in at every word. `inet_csum_big` of `tipy/lib/csum.py` is the copy of
`inet_csum_little` for a big-endian host. Modulo 65535 a word read in one order is 256 times the
word read in the other, so `inet_csum_little`, which swaps the bytes of its sum, computes what
`Ping.csum` does. `inet_csum_big` adds the last byte of odd data as if it were the low byte of a
word, where it is the high one.
-/

namespace Tipy

open Lib

/-! ## Big-endian words -/

/-- The data as one big-endian number. -/
def beNat (data : List UInt8) : Nat := Nat.ofDigits 256 (digits data).reverse

/-- `sum(data.cast(code))` on a big-endian host, where `code` is a word of `k` bytes. -/
def sumCastBig (k : Nat) : Nat → List UInt8 → Nat
  | 0, _ => 0
  | n + 1, data => beNat (data.take k) + sumCastBig k n (data.drop k)

/-- The sum of `inet_csum_big` before it is folded. -/
def csumTotalBig (data : List UInt8) (initedSum : Nat) : Nat :=
  let n := data.length
  let dwords := n / 8
  let s := initedSum + sumCastBig 8 dwords (slice data 0 (dwords * 8))
  let i := dwords * 8
  let hwords := (n - i) / 2
  let s := if hwords ≠ 0 then s + sumCastBig 2 hwords (slice data i (i + hwords * 2)) else s
  let i := if hwords ≠ 0 then i + hwords * 2 else i
  if i < n then s + byteAt data (n - 1) else s

/-- `inet_csum_big`. -/
def inetCsumBig (data : List UInt8) (initedSum : Nat) : Nat :=
  let s := csumTotalBig data initedSum
  0xFFFF - carryFold 65536 s s

/-- The loop of `Ping.csum` over the words that are left. -/
def pingTotal : List UInt8 → Nat → Nat
  | hi :: lo :: data, total =>
    let word := hi.toNat <<< 8 + lo.toNat
    let total := total + word
    pingTotal data ((total &&& 0xFFFF) + total >>> 16)
  | _, total => total

/-- `Ping.csum`. -/
def pingCsum (data : List UInt8) : Nat :=
  let data := if data.length % 2 ≠ 0 then data ++ [0] else data
  0xFFFF - pingTotal data 0

/-! ## One order and the other -/

theorem leNat_cons (a : UInt8) (data : List UInt8) :
    leNat (a :: data) = a.toNat + 256 * leNat data := by
  simp [leNat, digits, Nat.ofDigits_cons]

theorem beNat_cons (a : UInt8) (data : List UInt8) :
    beNat (a :: data) = beNat data + 256 ^ data.length * a.toNat := by
  simp [beNat, digits, Nat.ofDigits_append]

theorem beNat_eq_zero_iff (data : List UInt8) : beNat data = 0 ↔ leNat data = 0 := by
  induction data with
  | nil => rfl
  | cons a data ih =>
    have hpow : 256 ^ data.length ≠ 0 := by positivity
    rw [leNat_cons, beNat_cons, Nat.add_eq_zero_iff, Nat.add_eq_zero_iff, ih, Nat.mul_eq_zero,
      Nat.mul_eq_zero]
    tauto

theorem beNat_modEq (data : List UInt8) :
    256 * beNat data ≡ 256 ^ data.length * leNat data [MOD 65535] := by
  induction data with
  | nil => rfl
  | cons a data ih =>
    have htwo :
        256 ^ (data.length + 2) * leNat data ≡ 256 ^ data.length * leNat data [MOD 65535] := by
      have h := ((pow_even_modEq 1).mul_left (256 ^ data.length)).mul_right (leNat data)
      rwa [← pow_add, Nat.mul_one, Nat.mul_one] at h
    calc 256 * beNat (a :: data)
        = 256 * beNat data + 256 ^ (data.length + 1) * a.toNat := by rw [beNat_cons]; ring
      _ ≡ 256 ^ (data.length + 2) * leNat data + 256 ^ (data.length + 1) * a.toNat [MOD 65535] :=
          (ih.trans htwo.symm).add_right _
      _ = 256 ^ (a :: data).length * leNat (a :: data) := by
          rw [leNat_cons, List.length_cons]
          ring

/-- A word of an even number of bytes is 256 times the word in the other order. -/
theorem beNat_even_modEq {data : List UInt8} (h : data.length % 2 = 0) :
    beNat data ≡ 256 * leNat data [MOD 65535] := by
  obtain ⟨k, hk⟩ := Nat.dvd_of_mod_eq_zero h
  have hle : 256 * beNat data ≡ 1 * leNat data [MOD 65535] := by
    have := beNat_modEq data
    rw [hk] at this
    exact this.trans ((pow_even_modEq k).mul_right _)
  have hbe : 256 * (256 * beNat data) ≡ 1 * beNat data [MOD 65535] := by
    rw [← Nat.mul_assoc]
    exact (pow_even_modEq 1).mul_right _
  have h := hbe.symm.trans (hle.mul_left 256)
  rwa [Nat.one_mul, Nat.one_mul] at h

theorem sumCastBig_modEq {k : Nat} (hk : k % 2 = 0) {n : Nat} {data : List UInt8}
    (h : data.length = n * k) : sumCastBig k n data ≡ 256 * leNat data [MOD 65535] := by
  induction n generalizing data with
  | zero =>
    rw [Nat.zero_mul] at h
    rw [List.eq_nil_of_length_eq_zero h]
    rfl
  | succ n ih =>
    have htake : (data.take k).length = k := by
      rw [List.length_take, h, Nat.succ_mul]
      omega
    have hdrop : (data.drop k).length = n * k := by
      rw [List.length_drop, h, Nat.succ_mul]
      omega
    have hsplit : leNat data = leNat (data.take k) + 256 ^ k * leNat (data.drop k) := by
      conv_lhs => rw [← List.take_append_drop k data, leNat_append, htake]
    obtain ⟨j, hj⟩ := Nat.dvd_of_mod_eq_zero hk
    have hpow : 256 ^ k * leNat (data.drop k) ≡ leNat (data.drop k) [MOD 65535] := by
      rw [hj]
      simpa only [Nat.one_mul] using (pow_even_modEq j).mul_right (leNat (data.drop (2 * j)))
    have heven : (data.take k).length % 2 = 0 := by rw [htake, hk]
    have hword := beNat_even_modEq heven
    rw [sumCastBig, hsplit, Nat.mul_add]
    exact hword.add ((ih hdrop).trans (hpow.symm.mul_left 256))

theorem sumCastBig_eq_zero_iff (k : Nat) {n : Nat} {data : List UInt8} (h : data.length = n * k) :
    sumCastBig k n data = 0 ↔ leNat data = 0 := by
  induction n generalizing data with
  | zero =>
    rw [Nat.zero_mul] at h
    rw [List.eq_nil_of_length_eq_zero h]
    exact iff_of_true rfl rfl
  | succ n ih =>
    have hdrop : (data.drop k).length = n * k := by
      rw [List.length_drop, h, Nat.succ_mul]
      omega
    have hpow : 256 ^ (data.take k).length ≠ 0 := by positivity
    rw [sumCastBig, Nat.add_eq_zero_iff, ih hdrop, beNat_eq_zero_iff]
    conv_rhs => rw [← List.take_append_drop k data, leNat_append, Nat.add_eq_zero_iff,
      Nat.mul_eq_zero]
    tauto

/-! ## `Ping.csum` -/

/-- What the loop of `Ping.csum` makes of a folded number. -/
structure PingSum (data : List UInt8) (total : Nat) : Prop where
  lt : pingTotal data total < 65536
  modEq : pingTotal data total ≡ total + 256 * leNat data [MOD 65535]
  zero_iff : pingTotal data total = 0 ↔ total = 0 ∧ leNat data = 0

/-- One turn adds the carry in at once, so the number stays below `2 ^ 16`. -/
theorem ping_carry {total hi lo : Nat} (htotal : total < 65536) (hhi : hi < 256) (hlo : lo < 256) :
    ∃ next, ((total + (hi <<< 8 + lo)) &&& 0xFFFF) + (total + (hi <<< 8 + lo)) >>> 16 = next ∧
      next < 65536 ∧ next ≡ total + (256 * hi + lo) [MOD 65535] ∧
      (next = 0 ↔ total = 0 ∧ hi = 0 ∧ lo = 0) := by
  have hword : hi <<< 8 + lo = 256 * hi + lo := by
    rw [Nat.shiftLeft_eq]
    omega
  refine ⟨_, rfl, ?_⟩
  rw [hword, show 0xFFFF = 2 ^ 16 - 1 from rfl, Nat.and_two_pow_sub_one_eq_mod,
    Nat.shiftRight_eq_div_pow]
  refine ⟨by omega, ?_, by omega⟩
  unfold Nat.ModEq
  omega

theorem pingTotal_sum (data : List UInt8) (total : Nat) (heven : data.length % 2 = 0)
    (htotal : total < 65536) : PingSum data total := by
  fun_induction pingTotal data total with
  | case1 hi lo data total word total' ih =>
    obtain ⟨next, hnext, hlt, hmod, hzero⟩ := ping_carry htotal hi.toNat_lt lo.toNat_lt
    have hnext' : (total' &&& 0xFFFF) + total' >>> 16 = next := hnext
    have hlen : data.length % 2 = 0 := by
      simp only [List.length_cons] at heven
      omega
    have hle : leNat (hi :: lo :: data) = hi.toNat + 256 * lo.toNat + 65536 * leNat data := by
      rw [leNat_cons, leNat_cons]
      ring
    rw [hnext'] at ih
    obtain ⟨ihlt, ihmod, ihzero⟩ := ih hlen hlt
    have hrun : pingTotal (hi :: lo :: data) total = pingTotal data next := by
      rw [pingTotal]
      exact congrArg (pingTotal data) hnext'
    refine ⟨?_, ?_, ?_⟩
    · rw [hrun]
      exact ihlt
    · rw [hrun, hle]
      refine (ihmod.trans (hmod.add_right _)).trans ?_
      unfold Nat.ModEq
      omega
    · rw [hrun, hle, ihzero, hzero]
      omega
  | case2 data total h =>
    have hnil : data = [] := by
      match data, h, heven with
      | [], _, _ => rfl
      | [_], _, heven => simp at heven
      | hi :: lo :: data, h, _ => exact absurd rfl (h hi lo data)
    have hrun : pingTotal data total = total := by
      rw [hnil]
      rfl
    have hle : leNat data = 0 := by
      rw [hnil]
      rfl
    refine ⟨?_, ?_, ?_⟩
    · rw [hrun]
      exact htotal
    · rw [hrun, hle]
      rfl
    · rw [hrun, hle]
      simp

/-! ## The two implementations -/

theorem swap16_modEq {s : Nat} (h : s < 65536) : swap16 s ≡ 256 * s [MOD 65535] := by
  rw [swap16_eq h]
  unfold Nat.ModEq
  omega

/-- The swapped sum of `inet_csum_little`. -/
def csumSwapped (data : List UInt8) (initedSum : Nat) : Nat := swap16 (csumFold data initedSum)

/-- The folded sum of `inet_csum_big`. -/
def csumFoldBig (data : List UInt8) (initedSum : Nat) : Nat :=
  carryFold 65536 (csumTotalBig data initedSum) (csumTotalBig data initedSum)

section Orders

variable (data : List UInt8) (initedSum : Nat)

theorem csumSwapped_lt : csumSwapped data initedSum < 65536 := by
  have h := csumFold_lt data initedSum
  rw [csumSwapped, swap16_eq h]
  omega

theorem csumSwapped_modEq :
    csumSwapped data initedSum ≡ 256 * (initedSum + leNat data) [MOD 65535] :=
  (swap16_modEq (csumFold_lt data initedSum)).trans ((csumFold_modEq data initedSum).mul_left 256)

theorem csumSwapped_eq_zero_iff :
    csumSwapped data initedSum = 0 ↔ initedSum = 0 ∧ leNat data = 0 := by
  have hfold : csumSwapped data initedSum = 0 ↔ csumFold data initedSum = 0 := by
    have h := csumFold_lt data initedSum
    rw [csumSwapped, swap16_eq h]
    omega
  rw [hfold, ← csumTotal_eq_zero_iff]
  exact carryFold_eq_zero_iff (by norm_num) _ _

theorem csumTotalBig_cut :
    csumTotalBig data initedSum = initedSum + sumCastBig 8 (csumCut data).dwords
      (csumCut data).front +
      sumCastBig 2 (csumCut data).hwords (csumCut data).middle + leNat (csumCut data).back :=
  csumTotalWith_cut (fun _ => rfl : ∀ data, sumCastBig 2 0 data = 0) data initedSum

theorem csumFoldBig_lt : csumFoldBig data initedSum < 65536 := carryFold_lt (by norm_num) le_rfl

/-- The odd byte at the end is not multiplied as the rest is. -/
theorem csumFoldBig_modEq :
    csumFoldBig data initedSum ≡ initedSum + 256 * leNat (csumCut data).front +
      256 * leNat (csumCut data).middle + leNat (csumCut data).back [MOD 65535] := by
  have hfront := sumCastBig_modEq (k := 8) rfl (csumCut data).length_front
  have hmiddle := sumCastBig_modEq (k := 2) rfl (csumCut data).length_middle
  refine (carryFold_modEq (by norm_num) _ _).trans ?_
  rw [csumTotalBig_cut]
  exact (((hfront.add_left _).add hmiddle).add_right _)

theorem csumFoldBig_eq_zero_iff :
    csumFoldBig data initedSum = 0 ↔ initedSum = 0 ∧ leNat data = 0 := by
  have hfront := sumCastBig_eq_zero_iff 8 (csumCut data).length_front
  have hmiddle := sumCastBig_eq_zero_iff 2 (csumCut data).length_middle
  rw [csumFoldBig, carryFold_eq_zero_iff (by norm_num), csumTotalBig_cut,
    (csumCut data).leNat_eq_zero_iff]
  simp only [Nat.add_eq_zero_iff]
  tauto

end Orders

theorem pad_leNat (data : List UInt8) : leNat (data ++ [0]) = leNat data := by
  rw [leNat_append]
  exact Nat.add_zero _

/-- **The checksum of a little-endian host** is the one of the definition, over the pseudo header
and the data together. -/
theorem inetCsum_eq_pingCsum (phdr data : List UInt8) {initedSum : Nat} (hlen : phdr.length % 4 = 0)
    (hsum : initedSum = sumCast 4 (phdr.length / 4) phdr) :
    inetCsum data initedSum = pingCsum (phdr ++ data) := by
  have hwords : phdr.length / 4 * 4 = phdr.length := by omega
  have hphdr : initedSum ≡ leNat phdr [MOD 65535] := by
    have h := sumCast_modEq (k := 4) rfl (phdr.length / 4) phdr
    rwa [hwords, List.take_length, ← hsum] at h
  have hphdr₀ : initedSum = 0 ↔ leNat phdr = 0 := by
    have h := sumCast_eq_zero_iff 4 (phdr.length / 4) phdr
    rwa [hwords, List.take_length, ← hsum] at h
  -- the data as `Ping.csum` pads it
  generalize hpad :
    (if (phdr ++ data).length % 2 ≠ 0 then phdr ++ data ++ [0] else phdr ++ data) = whole
  have heven : whole.length % 2 = 0 := by
    rw [← hpad]
    split
    · next h => rw [List.length_append, List.length_singleton]; omega
    · next h => omega
  have hwhole : leNat whole = leNat phdr + 256 ^ phdr.length * leNat data := by
    rw [← leNat_append, ← hpad]
    split
    · exact pad_leNat _
    · rfl
  obtain ⟨hlt, hmod, hzero⟩ := pingTotal_sum whole 0 heven (by norm_num)
  have hpow : 256 ^ phdr.length * leNat data ≡ leNat data [MOD 65535] := by
    rw [show phdr.length = 2 * (phdr.length / 2) by omega]
    simpa only [Nat.one_mul] using (pow_even_modEq (phdr.length / 2)).mul_right (leNat data)
  have hcongr : csumSwapped data initedSum ≡ pingTotal whole 0 [MOD 65535] := by
    refine (csumSwapped_modEq data initedSum).trans (Nat.ModEq.trans ?_ hmod.symm)
    rw [Nat.zero_add, hwhole]
    exact (hphdr.add hpow.symm).mul_left 256
  have hzeros : csumSwapped data initedSum = 0 ↔ pingTotal whole 0 = 0 := by
    have hne : 256 ^ phdr.length ≠ 0 := by positivity
    rw [csumSwapped_eq_zero_iff, hzero, hwhole, Nat.add_eq_zero_iff, Nat.mul_eq_zero, hphdr₀]
    tauto
  have heq := eq_of_modEq_pred (csumSwapped_lt data initedSum) hlt hcongr hzeros
  have hping : pingCsum (phdr ++ data) = 0xFFFF - pingTotal whole 0 := by
    rw [← hpad]
    rfl
  rw [hping, ← heq]
  rfl

theorem inetCsum_eq_pingCsum_udp :
    [192, 168, 2, 200, 192, 168, 2, 1, 0, 17, 0, 11].length % 4 = 0 ∧
      inetCsum [1, 2, 3] (sumCast 4 3 [192, 168, 2, 200, 192, 168, 2, 1, 0, 17, 0, 11]) =
        pingCsum [192, 168, 2, 200, 192, 168, 2, 1, 0, 17, 0, 11, 1, 2, 3] :=
  ⟨rfl, inetCsum_eq_pingCsum [192, 168, 2, 200, 192, 168, 2, 1, 0, 17, 0, 11] [1, 2, 3] rfl rfl⟩

/-- The last byte of data of odd length. -/
theorem leNat_back (data : List UInt8) : leNat (csumCut data).back =
    if data.length % 2 = 0 then 0 else byteAt data (data.length - 1) := by
  simp only [csumCut]
  split
  · rw [List.drop_eq_nil_of_le (by omega)]
    rfl
  · next hodd =>
    have hlast : data.length =
        data.length / 8 * 8 + (data.length - data.length / 8 * 8) / 2 * 2 + 1 := by omega
    rw [leNat_drop_last hlast]
    congr 1
    omega

/-- **The two implementations agree** on even data, and on odd data that ends in zero. -/
theorem inetCsumBig_eq_iff (phdr data : List UInt8) (hlen : phdr.length = 12) :
    inetCsumBig data (sumCastBig 4 3 phdr) = inetCsum data (sumCast 4 3 phdr) ↔
      data.length % 2 = 0 ∨ byteAt data (data.length - 1) = 0 := by
  have hlast : byteAt data (data.length - 1) < 256 := UInt8.toNat_lt _
  have hback := leNat_back data
  have hbig : sumCastBig 4 3 phdr ≡ 256 * leNat phdr [MOD 65535] := sumCastBig_modEq rfl hlen
  have hlittle : sumCast 4 3 phdr ≡ leNat phdr [MOD 65535] := by
    have h := sumCast_modEq (k := 4) rfl 3 phdr
    rwa [List.take_of_length_le (by omega)] at h
  have hbig₀ := sumCastBig_eq_zero_iff 4 (n := 3) hlen
  have hlittle₀ := sumCast_eq_zero_iff 4 3 phdr
  rw [List.take_of_length_le (by omega)] at hlittle₀
  generalize sumCastBig 4 3 phdr = big at hbig hbig₀ ⊢
  generalize sumCast 4 3 phdr = little at hlittle hlittle₀ ⊢
  have hsame : inetCsumBig data big = inetCsum data little ↔
      csumFoldBig data big = csumSwapped data little := by
    have h₁ := csumFoldBig_lt data big
    have h₂ := csumSwapped_lt data little
    change 0xFFFF - csumFoldBig data big = 0xFFFF - csumSwapped data little ↔ _
    omega
  have hfold := csumFoldBig_modEq data big
  have hswapped := (csumSwapped_modEq data little).trans
    ((hlittle.add (csumCut data).leNat_modEq).mul_left 256)
  have hfold' : csumFoldBig data big ≡ 256 * leNat phdr + 256 * leNat (csumCut data).front +
      256 * leNat (csumCut data).middle + leNat (csumCut data).back [MOD 65535] :=
    hfold.trans (((hbig.add_right _).add_right _).add_right _)
  rw [hsame]
  constructor
  · intro heq
    by_contra hne
    rw [not_or] at hne
    rw [if_neg hne.1] at hback
    rw [heq, hback] at hfold'
    have hmod := hswapped.symm.trans hfold'
    rw [hback] at hmod
    -- 255 times the last byte would be a multiple of 65535
    have hbyte :
        256 * byteAt data (data.length - 1) ≡ byteAt data (data.length - 1) [MOD 65535] := by
      refine Nat.ModEq.add_left_cancel' (256 * leNat phdr + 256 * leNat (csumCut data).front +
        256 * leNat (csumCut data).middle) ?_
      rw [show 256 * leNat phdr + 256 * leNat (csumCut data).front +
        256 * leNat (csumCut data).middle + 256 * byteAt data (data.length - 1) =
          256 * (leNat phdr + (leNat (csumCut data).front + leNat (csumCut data).middle +
            byteAt data (data.length - 1))) by ring]
      exact hmod
    unfold Nat.ModEq at hbyte
    omega
  · intro h
    have hzero : leNat (csumCut data).back = 0 := by
      rcases h with h | h
      · rw [hback, if_pos h]
      · rw [hback, h, ite_self]
    refine eq_of_modEq_pred (csumFoldBig_lt data big) (csumSwapped_lt data little) ?_ ?_
    · refine hfold'.trans (Nat.ModEq.trans ?_ hswapped.symm)
      rw [hzero]
      exact congrArg (· % 65535) (by ring)
    · rw [csumFoldBig_eq_zero_iff, csumSwapped_eq_zero_iff, hbig₀, hlittle₀]

/-- Four bytes behind a pseudo header. -/
theorem inetCsumBig_eq_iff_even :
    inetCsumBig [1, 2, 3, 4] (sumCastBig 4 3 [0, 0, 0, 1, 0, 0, 0, 2, 0, 17, 0, 4]) =
      inetCsum [1, 2, 3, 4] (sumCast 4 3 [0, 0, 0, 1, 0, 0, 0, 2, 0, 17, 0, 4]) :=
  (inetCsumBig_eq_iff [0, 0, 0, 1, 0, 0, 0, 2, 0, 17, 0, 4] [1, 2, 3, 4] rfl).2 (.inl rfl)

/-- One byte behind a pseudo header. -/
theorem inetCsumBig_odd_byte :
    inetCsumBig [7] (sumCastBig 4 3 [0, 0, 0, 1, 0, 0, 0, 2, 0, 17, 0, 1]) ≠
      inetCsum [7] (sumCast 4 3 [0, 0, 0, 1, 0, 0, 0, 2, 0, 17, 0, 1]) := by
  decide

end Tipy
