import Mathlib.Tactic.Linarith
import Mathlib.Tactic.NormNum
import Tipy.Lib.Runs
import Tipy.Tcp.Tcpcb

/-!
# The range of the retransmission timeout

`set_initial_rto` and `set_new_rto` of `tipy/protocols/tcp/tcp_timer.py` raise the timeout to
`MIN_RTO`, and `back_off_rto` lowers it to `MAX_RTO`; nothing else bounds it. So a long sample takes
it above `MAX_RTO`, and the next expiration then shortens it. Runs in which every sample fits
(`RtoVars.Admits`) are exactly those in which the timeout stays in its range.
-/

namespace Tipy.Tcp

open Tipy.Lib

/-- What can happen to the timeout: `set_new_rto` and `set_initial_rto` with a sample, and
`back_off_rto`. -/
inductive RtoStep where
  | setNewRto (rtt : ℚ)
  | setInitialRto (rtt : ℚ)
  | backOffRto

namespace RtoVars

/-- The timeout of a new control block. -/
def initial : RtoVars := ⟨1, none, none, none⟩

theorem new_rto (ref so : Nat) (id : SockId) (soLinger : Option (List UInt8)) (iss nowNs : Int) :
    (TCPCB.new ref so id soLinger iss nowNs).rto = initial := rfl

def step (x : RtoVars) : RtoStep → RtoVars
  | .setNewRto rtt => x.setNewRto rtt
  | .setInitialRto rtt => setInitialRto rtt
  | .backOffRto => x.backOffRto

/-- The timeout is between `MIN_RTO` and `MAX_RTO`. -/
def InRange (x : RtoVars) : Prop := MIN_RTO ≤ x.rto ∧ x.rto ≤ MAX_RTO

/-- A sample that the estimator takes without going above `MAX_RTO`: at most 20 seconds when it is
empty, and not too far from what it has seen otherwise. -/
def SampleFits (x : RtoVars) (rtt : ℚ) : Prop :=
  match x.srtt, x.rttvar with
  | some srtt, some rttvar =>
    7 * srtt + rtt + 24 * rttvar + 8 * |srtt - rtt| ≤ 480 ∧ 7 * srtt + rtt ≤ 480 - 1 / 125
  | _, _ => rtt ≤ 20

/-- The steps that keep the timeout in its range. -/
def Admits (x : RtoVars) : RtoStep → Prop
  | .setNewRto rtt => x.SampleFits rtt
  | .setInitialRto rtt => rtt ≤ 20
  | .backOffRto => True

theorem rtoOf_le_iff (srtt rttvar : ℚ) :
    rtoOf srtt rttvar ≤ MAX_RTO ↔ srtt + 1 / 1000 ≤ 60 ∧ srtt + 4 * rttvar ≤ 60 := by
  have hmin : MIN_RTO ≤ MAX_RTO := by norm_num [MIN_RTO, MAX_RTO]
  unfold rtoOf
  rw [max_le_iff, and_iff_left hmin, ← max_add_add_left, max_le_iff]
  rfl

theorem min_le_rtoOf (srtt rttvar : ℚ) : MIN_RTO ≤ rtoOf srtt rttvar := le_max_right _ _

theorem setInitialRto_inRange_iff (rtt : ℚ) : (setInitialRto rtt).InRange ↔ rtt ≤ 20 := by
  have hrange : (setInitialRto rtt).InRange ↔ rtoOf rtt (rtt / 2) ≤ MAX_RTO :=
    and_iff_right (min_le_rtoOf _ _)
  rw [hrange, rtoOf_le_iff]
  constructor
  · rintro ⟨-, h⟩
    linarith
  · intro h
    constructor <;> linarith

theorem setNewRto_inRange_iff (x : RtoVars) (rtt : ℚ) :
    (x.setNewRto rtt).InRange ↔ x.SampleFits rtt := by
  obtain ⟨rto, rtt₀, srtt, rttvar⟩ := x
  cases srtt with
  | none => exact setInitialRto_inRange_iff rtt
  | some srtt =>
    cases rttvar with
    | none => exact setInitialRto_inRange_iff rtt
    | some rttvar =>
      have hrange : (setNewRto ⟨rto, rtt₀, some srtt, some rttvar⟩ rtt).InRange ↔
          rtoOf ((1 - 1 / 8) * srtt + 1 / 8 * rtt) ((1 - 1 / 4) * rttvar + 1 / 4 * |srtt - rtt|) ≤
            MAX_RTO := and_iff_right (min_le_rtoOf _ _)
      rw [hrange, rtoOf_le_iff]
      simp only [SampleFits]
      constructor
      · rintro ⟨hgrain, hvar⟩
        constructor <;> linarith
      · rintro ⟨hvar, hgrain⟩
        constructor <;> linarith

/-- A back-off from the range stays in it, and does not shorten the timeout. -/
theorem InRange.backOff {x : RtoVars} (h : x.InRange) :
    x.backOffRto.InRange ∧ x.rto ≤ x.backOffRto.rto := by
  obtain ⟨hmin, hmax⟩ := h
  unfold MIN_RTO at hmin
  have hdouble : x.rto ≤ x.rto * 2 := by linarith
  have hle : x.rto ≤ min (x.rto * 2) MAX_RTO := le_min hdouble hmax
  exact ⟨⟨hmin.trans hle, min_le_right _ _⟩, hle⟩

/-- **One step** from the range stays in it exactly when it is admitted. -/
theorem InRange.step_iff {x : RtoVars} (h : x.InRange) (e : RtoStep) :
    (x.step e).InRange ↔ x.Admits e := by
  cases e with
  | setNewRto rtt => exact x.setNewRto_inRange_iff rtt
  | setInitialRto rtt => exact setInitialRto_inRange_iff rtt
  | backOffRto => exact iff_of_true h.backOff.1 trivial

theorem initial_inRange : initial.InRange := by
  constructor <;> norm_num [initial, MIN_RTO, MAX_RTO]

end RtoVars

/-- Along a run from a new control block the timeout stays in its range, and no back-off shortens
it. -/
structure RtoKept (es : List RtoStep) : Prop where
  inRange : ∀ pre, pre <+: es → (run RtoVars.step .initial pre).InRange
  backOff : ∀ pre, pre ++ [.backOffRto] <+: es →
    (run RtoVars.step .initial pre).rto ≤ (run RtoVars.step .initial (pre ++ [.backOffRto])).rto

/-- **The timeout is kept** in exactly the runs whose samples all fit. -/
theorem rto_kept_iff (es : List RtoStep) :
    RtoKept es ↔ Guarded RtoVars.step RtoVars.Admits .initial es := by
  have hreached : (∀ pre, pre <+: es → (run RtoVars.step .initial pre).InRange) ↔
      Guarded RtoVars.step RtoVars.Admits .initial es := by
    refine forall_reached_iff_guarded (D := fun _ _ => True) (I := RtoVars.InRange)
      (fun _ h => h) ?_ ?_
      RtoVars.initial_inRange (guarded_of_forall_mem (P := fun _ => True) (fun _ _ => trivial) _)
    · exact fun x e hx _ hadm => (hx.step_iff e).2 hadm
    · exact fun x e hx _ hnext => (hx.step_iff e).1 hnext
  constructor
  · exact fun h => hreached.1 h.inRange
  · intro h
    have hrange := hreached.2 h
    refine ⟨hrange, fun pre hpre => ?_⟩
    have hin := hrange pre ((List.prefix_append pre _).trans hpre)
    rw [run_append]
    exact hin.backOff.2

/-! ## Short samples -/

/-- A sample of at most 12 seconds. -/
def RtoStep.Short : RtoStep → Prop
  | .setNewRto rtt => 0 ≤ rtt ∧ rtt ≤ 12
  | .setInitialRto rtt => 0 ≤ rtt ∧ rtt ≤ 12
  | .backOffRto => True

/-- The estimator has seen only such samples. -/
structure RtoVars.Short (x : RtoVars) : Prop where
  srtt : ∀ srtt ∈ x.srtt, 0 ≤ srtt ∧ srtt ≤ 12
  rttvar : ∀ rttvar ∈ x.rttvar, 0 ≤ rttvar ∧ rttvar ≤ 12

namespace RtoVars.Short

variable {x : RtoVars} {rtt : ℚ}

theorem setInitialRto (hrtt : 0 ≤ rtt ∧ rtt ≤ 12) : (RtoVars.setInitialRto rtt).Short := by
  refine ⟨?_, ?_⟩
  · rintro _ ⟨⟩
    exact hrtt
  · rintro _ ⟨⟩
    constructor <;> linarith

theorem setNewRto (h : x.Short) (hrtt : 0 ≤ rtt ∧ rtt ≤ 12) :
    x.SampleFits rtt ∧ (x.setNewRto rtt).Short := by
  obtain ⟨rto, rtt₀, srtt, rttvar⟩ := x
  have hempty : rtt ≤ 20 := by linarith
  cases srtt with
  | none => exact ⟨hempty, setInitialRto hrtt⟩
  | some srtt =>
    cases rttvar with
    | none => exact ⟨hempty, setInitialRto hrtt⟩
    | some rttvar =>
      obtain ⟨hs₀, hs⟩ := h.srtt srtt rfl
      obtain ⟨hv₀, hv⟩ := h.rttvar rttvar rfl
      have hfar : |srtt - rtt| ≤ 12 := abs_le.2 ⟨by linarith, by linarith⟩
      have hfar₀ := abs_nonneg (srtt - rtt)
      refine ⟨⟨by linarith, by linarith⟩, ?_, ?_⟩
      · rintro _ ⟨⟩
        constructor <;> linarith
      · rintro _ ⟨⟩
        constructor <;> linarith

theorem step (h : x.Short) {e : RtoStep} (he : e.Short) : x.Admits e ∧ (x.step e).Short := by
  cases e with
  | setNewRto rtt => exact h.setNewRto he
  | setInitialRto rtt =>
    refine ⟨?_, setInitialRto he⟩
    have : rtt ≤ 12 := he.2
    change rtt ≤ 20
    linarith
  | backOffRto => exact ⟨trivial, by rintro _ ⟨⟩, by rintro _ ⟨⟩⟩

end RtoVars.Short

/-- The timeout is kept when no sample is longer than 12 seconds. -/
theorem rto_kept_short {es : List RtoStep} (h : ∀ e ∈ es, e.Short) : RtoKept es := by
  have hstart : RtoVars.initial.Short := ⟨by rintro _ ⟨⟩, by rintro _ ⟨⟩⟩
  exact (rto_kept_iff es).2 (guarded_of_inv (fun _ _ hx he => hx.step he) hstart h)

/-- One sample of 30 seconds gives a timeout of 90, which the next expiration makes 60. -/
theorem long_sample_shortened : ¬ RtoKept [.setNewRto 30, .backOffRto] := by
  intro h
  have hshort := h.backOff [.setNewRto 30] (List.prefix_refl _)
  norm_num [run, RtoVars.step, RtoVars.setNewRto, RtoVars.setInitialRto, RtoVars.initial,
    RtoVars.rtoOf, RtoVars.backOffRto, MIN_RTO, MAX_RTO] at hshort

end Tipy.Tcp
