import Mathlib.Data.Int.ModEq
import Mathlib.Data.Set.Basic

/-!
# Arcs of a circle

Integers modulo `n` lie on a circle. An arc starts somewhere and goes on for a number of steps; as a
set of integers it has, with a number, all the numbers congruent to it. Two arcs that are not empty
meet exactly when one of them starts in the other.
-/

namespace Tipy.Lib

/-- The numbers less than `len` steps past `a` on the circle of length `n`. -/
def arc (n a len : Int) : Set Int := {x | (x - a) % n < len}

section Arc

variable {n a b l w x : Int}

@[simp] theorem mem_arc : x ∈ arc n a l ↔ (x - a) % n < l := Iff.rfl

instance : Decidable (x ∈ arc n a l) := inferInstanceAs (Decidable ((x - a) % n < l))

theorem start_mem_arc : a ∈ arc n a l ↔ 0 < l := by
  simp

/-- The way from `b` to `a`, by a number on the way from both of them. -/
theorem emod_sub_eq (n a b x : Int) : (a - b) % n = ((x - b) % n - (x - a) % n) % n := by
  rw [← Int.sub_emod]
  congr 1
  omega

/-- Of two starts, the one that is reached later on the way to a common number lies in the other
arc. -/
theorem start_mem_of_mem (hn : 0 < n) (ha : x ∈ arc n a l) (hb : x ∈ arc n b w) :
    b ∈ arc n a l ∨ a ∈ arc n b w := by
  have hpos : 0 ≤ (x - a) % n := Int.emod_nonneg _ hn.ne'
  have hpos' : 0 ≤ (x - b) % n := Int.emod_nonneg _ hn.ne'
  have hlt : (x - a) % n < n := Int.emod_lt_of_pos _ hn
  have hlt' : (x - b) % n < n := Int.emod_lt_of_pos _ hn
  rw [mem_arc] at ha hb
  rcases le_total ((x - a) % n) ((x - b) % n) with hle | hle
  · right
    rw [mem_arc, emod_sub_eq n a b x, Int.emod_eq_of_lt (by omega) (by omega)]
    omega
  · left
    rw [mem_arc, emod_sub_eq n b a x, Int.emod_eq_of_lt (by omega) (by omega)]
    omega

/-- **Two arcs are disjoint** exactly when neither starts in the other. -/
theorem arc_inter_eq_empty_iff (hn : 0 < n) (hl : 0 < l) (hw : 0 < w) :
    arc n a l ∩ arc n b w = ∅ ↔ b ∉ arc n a l ∧ a ∉ arc n b w := by
  rw [Set.eq_empty_iff_forall_notMem]
  constructor
  · intro h
    refine ⟨fun hb => ?_, fun ha => ?_⟩
    · exact h b ⟨hb, start_mem_arc.2 hw⟩
    · exact h a ⟨start_mem_arc.2 hl, ha⟩
  · rintro ⟨hb, ha⟩ x ⟨hxa, hxb⟩
    exact (start_mem_of_mem hn hxa hxb).elim hb ha

end Arc

end Tipy.Lib
