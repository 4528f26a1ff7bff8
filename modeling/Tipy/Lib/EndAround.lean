import Mathlib.Data.Nat.Digits.Defs
import Mathlib.Data.Nat.ModEq
import Mathlib.Tactic.Linarith
import Mathlib.Tactic.Ring

/-!
# End-around carry

Folding a natural number in base `b`: as long as it has a second digit, add the digits above the
lowest one to it. This is addition of ones' complement numbers, so it keeps the number modulo `b -
1`; and it never makes a positive number zero, so zero has the two representations `0` and `b - 1`.
The value of a string of digits modulo `b ^ k - 1` is the sum of its words of `k` digits.
-/

namespace Tipy.Lib

section Fold

variable {b : Nat}

/-- `while s ≥ b: s = s / b + s % b`, for at most `fuel` turns. A turn makes `s` smaller, so `s`
turns are enough (`carryFold_lt`). -/
def carryFold (b : Nat) : Nat → Nat → Nat
  | 0, s => s
  | fuel + 1, s => if b ≤ s then carryFold b fuel (s / b + s % b) else s

theorem carry_lt (hb : 1 < b) {s : Nat} (h : b ≤ s) : s / b + s % b < s := by
  have hq : 1 ≤ s / b := (Nat.one_le_div_iff (by omega)).2 h
  have hs := Nat.div_add_mod s b
  nlinarith

theorem modEq_one (hb : 1 < b) : b ≡ 1 [MOD b - 1] :=
  ((Nat.modEq_iff_dvd' hb.le).2 dvd_rfl).symm

theorem pow_modEq_one (hb : 1 < b) (k : Nat) : b ^ k ≡ 1 [MOD b - 1] := by
  simpa using (modEq_one hb).pow k

theorem carry_modEq (hb : 1 < b) (s : Nat) : s / b + s % b ≡ s [MOD b - 1] := by
  have h : 1 * (s / b) + s % b ≡ b * (s / b) + s % b [MOD b - 1] :=
    ((modEq_one hb).symm.mul_right _).add_right _
  rwa [one_mul, Nat.div_add_mod] at h

theorem carryFold_modEq (hb : 1 < b) (fuel s : Nat) : carryFold b fuel s ≡ s [MOD b - 1] := by
  induction fuel generalizing s with
  | zero => rfl
  | succ fuel ih =>
    rw [carryFold]
    split
    · exact (ih _).trans (carry_modEq hb s)
    · rfl

theorem carryFold_lt (hb : 1 < b) {fuel s : Nat} (h : s ≤ fuel) : carryFold b fuel s < b := by
  induction fuel generalizing s with
  | zero =>
    rw [carryFold]
    omega
  | succ fuel ih =>
    rw [carryFold]
    split
    · next hs =>
      have := carry_lt hb hs
      exact ih (by omega)
    · omega

theorem carryFold_pos (hb : 1 < b) {s : Nat} (fuel : Nat) (h : 0 < s) : 0 < carryFold b fuel s := by
  induction fuel generalizing s with
  | zero => exact h
  | succ fuel ih =>
    rw [carryFold]
    split
    · next hs =>
      have hq : 1 ≤ s / b := (Nat.one_le_div_iff (by omega)).2 hs
      exact ih (by omega)
    · exact h

theorem carryFold_eq_zero_iff (hb : 1 < b) (fuel s : Nat) : carryFold b fuel s = 0 ↔ s = 0 := by
  constructor
  · intro h
    by_contra hs
    have := carryFold_pos hb fuel (Nat.pos_of_ne_zero hs)
    omega
  · rintro rfl
    cases fuel with
    | zero => rfl
    | succ fuel => exact if_neg (by omega)

theorem carryFold_eq_pred_iff (hb : 1 < b) {s fuel : Nat} (hs : 0 < s) (hfuel : s ≤ fuel) :
    carryFold b fuel s = b - 1 ↔ b - 1 ∣ s := by
  have hmod := carryFold_modEq hb fuel s
  constructor
  · intro h
    rw [h] at hmod
    exact (Nat.modEq_zero_iff_dvd.1 ((hmod.symm.trans (Nat.modEq_zero_iff_dvd.2 dvd_rfl))))
  · intro h
    have hdvd : b - 1 ∣ carryFold b fuel s := (Nat.modEq_zero_iff_dvd.1
      (hmod.trans (Nat.modEq_zero_iff_dvd.2 h)))
    have hle := Nat.le_of_dvd (carryFold_pos hb fuel hs) hdvd
    have := carryFold_lt hb hfuel
    omega

/-- Two folded numbers are the same if they are congruent and stand for zero in the same way. -/
theorem eq_of_modEq_pred {x y : Nat} (hx : x < b) (hy : y < b) (hmod : x ≡ y [MOD b - 1])
    (hzero : x = 0 ↔ y = 0) : x = y := by
  rcases Nat.lt_or_ge x (b - 1) with hlt | hge
  · rcases Nat.lt_or_ge y (b - 1) with hlt' | hge'
    · exact hmod.eq_of_lt_of_lt hlt hlt'
    · have hy' : y = b - 1 := by omega
      have hdvd : b - 1 ∣ x := by
        rw [hy'] at hmod
        exact Nat.modEq_zero_iff_dvd.1 (hmod.trans (Nat.modEq_zero_iff_dvd.2 dvd_rfl))
      have hx' : x = 0 := Nat.eq_zero_of_dvd_of_lt hdvd hlt
      omega
  · have hx' : x = b - 1 := by omega
    have hdvd : b - 1 ∣ y := by
      rw [hx'] at hmod
      exact Nat.modEq_zero_iff_dvd.1 (hmod.symm.trans (Nat.modEq_zero_iff_dvd.2 dvd_rfl))
    rcases Nat.lt_or_ge y (b - 1) with hlt' | hge'
    · have hy' : y = 0 := Nat.eq_zero_of_dvd_of_lt hdvd hlt'
      omega
    · omega

end Fold

/-! ## Words of digits -/

section Words

variable {b : Nat}

/-- The sum of the first `n` words of `k` digits, lowest digit first. -/
def wordSum (b k : Nat) : Nat → List Nat → Nat
  | 0, _ => 0
  | n + 1, digits => Nat.ofDigits b (digits.take k) + wordSum b k n (digits.drop k)

/-- The words are the digits in base `b ^ k`, and `b ^ k` is one modulo `m`. -/
theorem wordSum_modEq {m k : Nat} (hm : b ^ k ≡ 1 [MOD m]) (n : Nat) (digits : List Nat) :
    wordSum b k n digits ≡ Nat.ofDigits b (digits.take (n * k)) [MOD m] := by
  induction n generalizing digits with
  | zero =>
    rw [wordSum, Nat.zero_mul, List.take_zero, Nat.ofDigits_nil]
  | succ n ih =>
    have hsplit : digits.take ((n + 1) * k) = digits.take k ++ (digits.drop k).take (n * k) := by
      rw [show (n + 1) * k = k + n * k by ring, List.take_add]
    rw [wordSum, hsplit, Nat.ofDigits_append]
    refine Nat.ModEq.add_left _ ?_
    rcases Nat.lt_or_ge digits.length k with hlt | hge
    · have hnil : digits.drop k = [] := List.drop_eq_nil_of_le hlt.le
      have hih := ih (digits.drop k)
      rw [hnil, List.take_nil, Nat.ofDigits_nil] at hih ⊢
      simpa using hih
    · rw [List.length_take_of_le hge]
      have hone := hm.symm.mul_right (Nat.ofDigits b ((digits.drop k).take (n * k)))
      rw [one_mul] at hone
      exact (ih (digits.drop k)).trans hone

theorem wordSum_eq_zero_iff (hb : 0 < b) {k : Nat} (n : Nat) (digits : List Nat) :
    wordSum b k n digits = 0 ↔ Nat.ofDigits b (digits.take (n * k)) = 0 := by
  induction n generalizing digits with
  | zero => simp [wordSum]
  | succ n ih =>
    have hsplit : digits.take ((n + 1) * k) = digits.take k ++ (digits.drop k).take (n * k) := by
      rw [show (n + 1) * k = k + n * k by ring, List.take_add]
    rw [wordSum, hsplit, Nat.ofDigits_append, Nat.add_eq_zero_iff, ih, Nat.add_eq_zero_iff,
      Nat.mul_eq_zero]
    have hpow : b ^ (digits.take k).length ≠ 0 := (pow_pos hb _).ne'
    tauto

end Words

end Tipy.Lib
