import Mathlib.Data.Finset.Card
import Mathlib.Data.Finset.Union
import Mathlib.Algebra.BigOperators.Group.List.Basic
import Mathlib.Algebra.GroupWithZero.Nat

/-!
# Covering a finite set by counting

A list of finite sets inside `U` whose sizes add up to that of `U`: it covers `U` exactly when its
members are pairwise disjoint. The members are taken by position, so a set listed twice meets
itself.
-/

namespace Tipy.Lib

section Cover

variable {α : Type*} [DecidableEq α]

/-- The union of a list of sets. -/
def unions (L : List (Finset α)) : Finset α := L.foldr (· ∪ ·) ∅

theorem unions_cons (s : Finset α) (L : List (Finset α)) : unions (s :: L) = s ∪ unions L := rfl

theorem mem_unions {L : List (Finset α)} {x : α} : x ∈ unions L ↔ ∃ s ∈ L, x ∈ s := by
  induction L with
  | nil => simp [unions]
  | cons s L ih => simp [unions_cons, ih]

theorem card_unions_le (L : List (Finset α)) : (unions L).card ≤ (L.map Finset.card).sum := by
  induction L with
  | nil => simp [unions]
  | cons s L ih =>
    rw [unions_cons, List.map_cons, List.sum_cons]
    exact (Finset.card_union_le _ _).trans (Nat.add_le_add_left ih _)

theorem disjoint_unions {s : Finset α} {L : List (Finset α)} :
    Disjoint s (unions L) ↔ ∀ t ∈ L, Disjoint s t := by
  induction L with
  | nil => simp [unions]
  | cons t L ih => simp [unions_cons, ih]

/-- The sizes add up to that of the union exactly when nothing is counted twice. -/
theorem card_unions_eq_iff (L : List (Finset α)) :
    (unions L).card = (L.map Finset.card).sum ↔ L.Pairwise Disjoint := by
  induction L with
  | nil => simp [unions]
  | cons s L ih =>
    have hle := card_unions_le L
    have hadd := Finset.card_union_add_card_inter s (unions L)
    rw [List.pairwise_cons, ← disjoint_unions, ← ih, unions_cons, List.map_cons, List.sum_cons,
      Finset.disjoint_iff_inter_eq_empty, ← Finset.card_eq_zero]
    omega

/-- **Counting is covering for disjoint sets.** -/
theorem covers_iff_pairwise_disjoint {U : Finset α} {L : List (Finset α)} (hsub : ∀ s ∈ L, s ⊆ U)
    (hcard : (L.map Finset.card).sum = U.card) :
    (∀ x ∈ U, ∃ s ∈ L, x ∈ s) ↔ L.Pairwise Disjoint := by
  have hle : unions L ⊆ U := fun x hx => by
    obtain ⟨s, hs, hxs⟩ := mem_unions.1 hx
    exact hsub s hs hxs
  rw [← card_unions_eq_iff, hcard]
  simp only [← mem_unions]
  exact ⟨fun h => congrArg Finset.card (hle.antisymm h),
    fun h => (Finset.eq_of_subset_of_card_le hle h.ge).ge⟩

end Cover

end Tipy.Lib
