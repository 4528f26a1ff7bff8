import Mathlib.Data.List.Basic

/-!
# Transmissions of a sequence

A sender numbers what it sends, and may send numbers again. A `Transmission` is one stretch of
numbers with the time it was sent at. `Once` says that in a record of transmissions one of them is
the only one that has any of its numbers: a round trip may be timed by it. A transmission keeps this
property while only later numbers are sent (`Once.append`), and one that starts where all others end
has it (`once_of_fresh`).
-/

namespace Tipy.Lib

/-- The numbers from `pos` on, `len` of them, sent at `time`. -/
structure Transmission (τ : Type) where
  time : τ
  pos : Nat
  len : Nat

namespace Transmission

variable {τ : Type}

/-- The number behind the last one. -/
def stop (s : Transmission τ) : Nat := s.pos + s.len

/-- The two have a number in common. -/
def Meets (s x : Transmission τ) : Prop := max s.pos x.pos < min s.stop x.stop

instance (s x : Transmission τ) : Decidable (s.Meets x) := inferInstanceAs (Decidable (_ < _))

/-- No number of the transmission is in another one of the record. -/
def Once (log : List (Transmission τ)) (s : Transmission τ) : Prop :=
  log.filter (fun x => s.Meets x) = [s]

/-- All numbers of the record are below `n`. -/
def Below (log : List (Transmission τ)) (n : Nat) : Prop := ∀ x ∈ log, x.len = 0 ∨ x.stop ≤ n

/-- All numbers of the record are `n` or above. -/
def From (log : List (Transmission τ)) (n : Nat) : Prop := ∀ x ∈ log, x.len = 0 ∨ n ≤ x.pos

variable {s x : Transmission τ} {log new : List (Transmission τ)} {n m : Nat}

theorem meets_iff : s.Meets x ↔ s.pos < x.stop ∧ x.pos < s.stop ∧ 0 < s.len ∧ 0 < x.len := by
  unfold Meets stop
  omega

theorem meets_self (h : 0 < s.len) : s.Meets s := by
  rw [meets_iff]
  unfold stop
  omega

theorem Below.append (h : Below log n) (hnew : Below new n) : Below (log ++ new) n := by
  intro x hx
  rcases List.mem_append.1 hx with hx | hx
  · exact h x hx
  · exact hnew x hx

theorem Below.mono (h : Below log n) (hle : n ≤ m) : Below log m :=
  fun x hx => (h x hx).imp_right fun hstop => Nat.le_trans hstop hle

theorem From.mono (h : From log n) (hle : m ≤ n) : From log m :=
  fun x hx => (h x hx).imp_right fun hpos => Nat.le_trans hle hpos

theorem filter_eq_nil_of_below (h : Below log s.pos) : log.filter (fun x => s.Meets x) = [] := by
  rw [List.filter_eq_nil_iff]
  intro x hx hmeets
  have hboth := meets_iff.1 (of_decide_eq_true hmeets)
  have := h x hx
  omega

theorem filter_eq_nil_of_from (h : From log s.stop) : log.filter (fun x => s.Meets x) = [] := by
  rw [List.filter_eq_nil_iff]
  intro x hx hmeets
  have hboth := meets_iff.1 (of_decide_eq_true hmeets)
  have := h x hx
  omega

/-- What is sent behind it does not touch it. -/
theorem Once.append (h : Once log s) (hnew : From new s.stop) : Once (log ++ new) s := by
  unfold Once at *
  rw [List.filter_append, h, filter_eq_nil_of_from hnew, List.append_nil]

/-- A transmission between lower and higher numbers. -/
theorem once_of_fresh (hlog : Below log s.pos) (hpos : 0 < s.len) (hnew : From new s.stop) :
    Once (log ++ s :: new) s := by
  have hself : decide (s.Meets s) = true := decide_eq_true (meets_self hpos)
  unfold Once
  rw [List.filter_append, filter_eq_nil_of_below hlog, List.nil_append,
    List.filter_cons, if_pos hself, filter_eq_nil_of_from hnew]

theorem Once.mem (h : Once log s) : s ∈ log ∧ 0 < s.len := by
  have hs : s ∈ log.filter (fun x => s.Meets x) := by
    rw [h]
    exact List.mem_singleton_self s
  obtain ⟨hmem, hmeets⟩ := List.mem_filter.1 hs
  exact ⟨hmem, (meets_iff.1 (of_decide_eq_true hmeets)).2.2.1⟩

end Transmission

end Tipy.Lib
