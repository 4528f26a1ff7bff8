import Mathlib.Data.Nat.Digits.Lemmas

/-!
# Numerals in texts

A text is the list of its code points. `numeral b` is the value of digits in base `b`, the first the
most significant, and `decimal` writes a number the one way that has no leading zero, so that a text
of digits without a leading zero is the decimal of its value.
-/

namespace Tipy.Lib

/-- A text, as its code points. -/
abbrev Text := List Nat

/-- The value of digits in a base. -/
def numeral (b : Nat) (ds : List Nat) : Nat := ds.foldl (fun n d => n * b + d) 0

theorem numeral_append_singleton (b : Nat) (ds : List Nat) (d : Nat) :
    numeral b (ds ++ [d]) = numeral b ds * b + d := by
  simp [numeral]

/-- The same digits in Mathlib's order. -/
theorem numeral_eq_ofDigits (b : Nat) (ds : List Nat) :
    numeral b ds = Nat.ofDigits b ds.reverse := by
  induction ds using List.reverseRecOn with
  | nil => rfl
  | append_singleton ds d ih =>
    rw [numeral_append_singleton, ih, List.reverse_append, List.reverse_singleton,
      List.singleton_append, Nat.ofDigits_cons, Nat.mul_comm, Nat.add_comm]

theorem numeral_append (b : Nat) (ds ds' : List Nat) :
    numeral b (ds ++ ds') = numeral b ds * b ^ ds'.length + numeral b ds' := by
  rw [numeral_eq_ofDigits, List.reverse_append, Nat.ofDigits_append, List.length_reverse,
    ← numeral_eq_ofDigits, ← numeral_eq_ofDigits, Nat.mul_comm, Nat.add_comm]

theorem numeral_lt {b : Nat} (hb : 1 < b) {ds : List Nat} (h : ∀ d ∈ ds, d < b) :
    numeral b ds < b ^ ds.length := by
  rw [numeral_eq_ofDigits, ← List.length_reverse]
  exact Nat.ofDigits_lt_base_pow_length hb fun d hd => h d (List.mem_reverse.1 hd)

/-! ## Decimals -/

/-- The decimal digits of a number, without a leading zero. -/
def decimalDigits (n : Nat) : List Nat := if n = 0 then [0] else (Nat.digits 10 n).reverse

theorem numeral_decimalDigits (n : Nat) : numeral 10 (decimalDigits n) = n := by
  unfold decimalDigits
  split
  · next h =>
    rw [h]
    rfl
  · rw [numeral_eq_ofDigits, List.reverse_reverse, Nat.ofDigits_digits]

theorem decimalDigits_lt {n d : Nat} (h : d ∈ decimalDigits n) : d < 10 := by
  unfold decimalDigits at h
  split at h
  · rw [List.mem_singleton.1 h]
    decide
  · exact Nat.digits_lt_base (by decide) (List.mem_reverse.1 h)

theorem decimalDigits_ne_nil (n : Nat) : decimalDigits n ≠ [] := by
  unfold decimalDigits
  split
  · exact List.cons_ne_nil _ _
  · next h => simpa [Nat.digits_eq_nil_iff_eq_zero] using h

/-- A decimal of two or more digits has no leading zero. -/
theorem head?_decimalDigits {n : Nat} (h : 1 < (decimalDigits n).length) :
    (decimalDigits n).head? ≠ some 0 := by
  unfold decimalDigits at h ⊢
  split at h
  · simp at h
  · next hn =>
    rw [if_neg hn, List.head?_reverse,
      List.getLast?_eq_some_getLast (Nat.digits_ne_nil_iff_ne_zero.2 hn)]
    intro heq
    exact Nat.getLast_digit_ne_zero 10 hn (Option.some.inj heq)

/-- Digits without a leading zero are the decimal of their value. -/
theorem decimalDigits_numeral {ds : List Nat} (hne : ds ≠ []) (hlt : ∀ d ∈ ds, d < 10)
    (hlead : 1 < ds.length → ds.head? ≠ some 0) : decimalDigits (numeral 10 ds) = ds := by
  obtain ⟨d, rest, rfl⟩ := List.exists_cons_of_ne_nil hne
  by_cases hd : d = 0
  · subst hd
    cases rest with
    | nil => rfl
    | cons d' rest => exact absurd rfl (hlead (by simp))
  · have hdigits : Nat.digits 10 (numeral 10 (d :: rest)) = (d :: rest).reverse := by
      rw [numeral_eq_ofDigits]
      refine Nat.digits_ofDigits 10 (by decide) _ (fun l hl => hlt l (List.mem_reverse.1 hl)) ?_
      intro _
      simpa using hd
    have hpos : numeral 10 (d :: rest) ≠ 0 := by
      intro hzero
      rw [hzero, Nat.digits_zero] at hdigits
      simp at hdigits
    rw [decimalDigits, if_neg hpos, hdigits, List.reverse_reverse]

/-- `f"{n}"`. -/
def decimal (n : Nat) : Text := (decimalDigits n).map (48 + ·)

theorem isDigit_of_mem_decimal {n c : Nat} (h : c ∈ decimal n) : 48 ≤ c ∧ c ≤ 57 := by
  obtain ⟨d, hd, rfl⟩ := List.mem_map.1 h
  have := decimalDigits_lt hd
  omega

theorem decimal_ne_nil (n : Nat) : decimal n ≠ [] := by
  simpa [decimal] using decimalDigits_ne_nil n

/-- The value of a text of ASCII digits. -/
def decimalValue (s : Text) : Nat := numeral 10 (s.map (· - 48))

theorem decimalValue_decimal (n : Nat) : decimalValue (decimal n) = n := by
  have hmap : (decimal n).map (· - 48) = decimalDigits n := by
    rw [decimal, List.map_map]
    simp [Function.comp_def]
  rw [decimalValue, hmap, numeral_decimalDigits]

/-- A text of ASCII digits without a leading zero is the decimal of its value. -/
theorem decimal_decimalValue {s : Text} (hne : s ≠ []) (hdigit : ∀ c ∈ s, 48 ≤ c ∧ c ≤ 57)
    (hlead : 1 < s.length → s.head? ≠ some 48) : decimal (decimalValue s) = s := by
  have hback : (s.map (· - 48)).map (48 + ·) = s := by
    rw [List.map_map]
    refine (List.map_congr_left fun c hc => ?_).trans (List.map_id s)
    have := hdigit c hc
    simp only [Function.comp_apply, id]
    omega
  rw [decimal, decimalValue, decimalDigits_numeral, hback]
  · simpa using hne
  · intro d hd
    obtain ⟨c, hc, rfl⟩ := List.mem_map.1 hd
    have := hdigit c hc
    omega
  · intro hlen hhead
    obtain ⟨c, rest, rfl⟩ := List.exists_cons_of_ne_nil hne
    refine hlead (by simpa using hlen) ?_
    have := hdigit c List.mem_cons_self
    simp only [List.map_cons, List.head?_cons, Option.some.injEq] at hhead ⊢
    omega

end Tipy.Lib
