import Mathlib.Algebra.BigOperators.Group.List.Basic
import Mathlib.Algebra.Order.Ring.Int
import Mathlib.Tactic.Linarith

/-!
# Token buckets

A bucket holds at most `cap` tokens, and a request takes one. When a request comes at least one
`period` after the last refill, `rate` tokens come in for each whole period, and the time of the
refill is that of the request: the rest of a period that has begun is lost. `Spent` is the account
of a run of requests: what was granted and what is left together are covered by what was there and
what has come in, and that is at most `rate` for each whole period between the two refills, however
the requests cut the time up (`floor_add_le`).
-/

namespace Tipy.Lib

/-- The rule by which tokens come in. -/
structure BucketRule where
  cap : Int
  rate : Int
  period : Int
  rate_nonneg : 0 ≤ rate
  period_pos : 0 < period

/-- The tokens, and the time of the last refill. -/
structure Bucket where
  tokens : Int
  last : Int

namespace BucketRule

variable (r : BucketRule)

/-- The bucket after the refill at `now`. -/
def refill (b : Bucket) (now : Int) : Bucket :=
  if 0 < (now - b.last) / r.period then
    ⟨min r.cap (b.tokens + r.rate * ((now - b.last) / r.period)), now⟩
  else b

/-- A request at `now`: the bucket after it, and the number of tokens it was granted. -/
def request (b : Bucket) (now : Int) : Bucket × Nat :=
  if (r.refill b now).tokens ≤ 0 then (r.refill b now, 0)
  else ({ r.refill b now with tokens := (r.refill b now).tokens - 1 }, 1)

/-- The number of tokens is one the bucket can hold. -/
def InRange (b : Bucket) : Prop := 0 ≤ b.tokens ∧ b.tokens ≤ r.cap

/-- The tokens that may come in between two times. -/
def inflow (t₀ t : Int) : Int := r.rate * ((t - t₀) / r.period)

variable {r}

@[simp] theorem inflow_self (t : Int) : r.inflow t t = 0 := by simp [inflow]

/-- Whole periods before and after a time make at most the whole periods of both. -/
theorem floor_add_le {p : Int} (hp : 0 < p) (a b : Int) : a / p + b / p ≤ (a + b) / p := by
  rw [Int.le_ediv_iff_mul_le hp, Int.add_mul]
  have ha := Int.ediv_mul_le a hp.ne'
  have hb := Int.ediv_mul_le b hp.ne'
  omega

theorem inflow_add_le (t₀ t₁ t₂ : Int) : r.inflow t₀ t₁ + r.inflow t₁ t₂ ≤ r.inflow t₀ t₂ := by
  have h := floor_add_le r.period_pos (t₁ - t₀) (t₂ - t₁)
  rw [show t₁ - t₀ + (t₂ - t₁) = t₂ - t₀ by omega] at h
  unfold inflow
  rw [← Int.mul_add]
  exact Int.mul_le_mul_of_nonneg_left h r.rate_nonneg

theorem inflow_nonneg {t₀ t : Int} (h : t₀ ≤ t) : 0 ≤ r.inflow t₀ t :=
  Int.mul_nonneg r.rate_nonneg (Int.ediv_nonneg (by omega) r.period_pos.le)

theorem inflow_mono {t₀ t t' : Int} (h : t ≤ t') : r.inflow t₀ t ≤ r.inflow t₀ t' := by
  have := inflow_add_le (r := r) t₀ t t'
  have := inflow_nonneg (r := r) h
  omega

/-- What one refill does. -/
structure Refilled (r : BucketRule) (b b' : Bucket) (now : Int) : Prop where
  inRange : r.InRange b'
  last_le : b.last ≤ b'.last
  le_now : b'.last ≤ now
  tokens_le : b'.tokens ≤ b.tokens + r.inflow b.last b'.last

theorem refill_refilled {b : Bucket} {now : Int} (h : r.InRange b) (hlast : b.last ≤ now) :
    r.Refilled b (r.refill b now) now := by
  obtain ⟨hlo, hhi⟩ := h
  unfold refill
  split
  · next hpos =>
    have hin : 0 ≤ r.rate * ((now - b.last) / r.period) := Int.mul_nonneg r.rate_nonneg hpos.le
    refine ⟨⟨?_, min_le_left _ _⟩, hlast, le_rfl, min_le_right _ _⟩
    exact le_min (hlo.trans hhi) (by omega)
  · exact ⟨⟨hlo, hhi⟩, le_rfl, hlast, by simp⟩

/-- **One request**: what it is granted and what it leaves were there or have come in. -/
structure Requested (r : BucketRule) (b b' : Bucket) (granted : Nat) (now : Int) : Prop where
  inRange : r.InRange b'
  last_le : b.last ≤ b'.last
  le_now : b'.last ≤ now
  account : granted + b'.tokens ≤ b.tokens + r.inflow b.last b'.last
  capped : granted + b'.tokens ≤ r.cap

theorem request_requested {b : Bucket} {now : Int} (h : r.InRange b) (hlast : b.last ≤ now) :
    r.Requested b (r.request b now).1 (r.request b now).2 now := by
  obtain ⟨⟨hlo, hhi⟩, hmono, hnow, hle⟩ := refill_refilled h hlast
  unfold request
  split
  · next hempty => exact ⟨⟨hlo, hhi⟩, hmono, hnow, by simpa using hle, by simpa using hhi⟩
  · next hsome =>
    refine ⟨⟨?_, ?_⟩, hmono, hnow, ?_, ?_⟩
    all_goals
      simp only
      omega

end BucketRule

/-! ## Runs of requests -/

/-- The tokens granted by the requests of a log up to time `t`. -/
def grantedUpTo (t : Int) (log : List (Int × Nat)) : Nat :=
  ((log.filter fun e => e.1 ≤ t).map Prod.snd).sum

theorem grantedUpTo_append (t : Int) (log : List (Int × Nat)) (now : Int) (n : Nat) :
    grantedUpTo t (log ++ [(now, n)]) = grantedUpTo t log + if now ≤ t then n else 0 := by
  unfold grantedUpTo
  by_cases h : now ≤ t <;> simp [h]

/-- All of a log is up to its end. -/
theorem grantedUpTo_of_le {t : Int} {log : List (Int × Nat)} (h : ∀ e ∈ log, e.1 ≤ t) :
    grantedUpTo t log = (log.map Prod.snd).sum := by
  unfold grantedUpTo
  rw [List.filter_eq_self.2 fun e he => decide_eq_true (h e he)]

/-- The account of a log of requests that led from `b₀` to `b`, at time `now`. -/
structure Spent (r : BucketRule) (b₀ : Bucket) (log : List (Int × Nat)) (b : Bucket) (now : Int) :
    Prop where
  inRange : r.InRange b
  last_le : b₀.last ≤ b.last
  le_now : b.last ≤ now
  times : ∀ e ∈ log, e.1 ≤ now
  account : (log.map Prod.snd).sum + b.tokens ≤ b₀.tokens + r.inflow b₀.last b.last
  upTo : ∀ t, b₀.last ≤ t → grantedUpTo t log ≤ b₀.tokens + r.inflow b₀.last t

namespace Spent

variable {r : BucketRule} {b₀ b : Bucket} {log : List (Int × Nat)} {now now' : Int}

theorem nil (h : r.InRange b₀) (hnow : b₀.last ≤ now) : Spent r b₀ [] b₀ now where
  inRange := h
  last_le := le_rfl
  le_now := hnow
  times := by simp
  account := by simp
  upTo t ht := by
    have hin := BucketRule.inflow_nonneg (r := r) ht
    have hlo := h.1
    simp only [grantedUpTo, List.filter_nil, List.map_nil, List.sum_nil]
    omega

theorem wait (h : Spent r b₀ log b now) (hnow : now ≤ now') : Spent r b₀ log b now' :=
  { h with
    le_now := h.le_now.trans hnow
    times := fun e he => (h.times e he).trans hnow }

/-- **Another request.** -/
theorem request (h : Spent r b₀ log b now) :
    Spent r b₀ (log ++ [(now, (r.request b now).2)]) (r.request b now).1 now := by
  obtain ⟨hrange, hmono, hnow, hacc, -⟩ := BucketRule.request_requested h.inRange h.le_now
  have hflow := BucketRule.inflow_add_le (r := r) b₀.last b.last (r.request b now).1.last
  have hspent := h.account
  have htotal : (log.map Prod.snd).sum + (r.request b now).2 + (r.request b now).1.tokens ≤
      b₀.tokens + r.inflow b₀.last (r.request b now).1.last := by
    omega
  refine ⟨hrange, h.last_le.trans hmono, hnow, ?_, ?_, fun t ht => ?_⟩
  · intro e he
    rcases List.mem_append.1 he with he | he
    · exact h.times e he
    · rw [List.mem_singleton.1 he]
  · simpa using htotal
  · rw [grantedUpTo_append]
    by_cases hle : now ≤ t
    · have hall := grantedUpTo_of_le fun e he => (h.times e he).trans hle
      have hin := @BucketRule.inflow_mono r b₀.last _ _ (hnow.trans hle)
      have hlo := hrange.1
      rw [hall, if_pos hle, Nat.cast_add]
      omega
    · rw [if_neg hle, Nat.add_zero]
      exact h.upTo t ht

end Spent

end Tipy.Lib
