import Mathlib.Data.List.Sort

/-!
# Min-heaps on lists

A binary heap kept in a list, as a client sees it: some lists are heaps, pushing and popping keep
them so, the item at the front of a heap is a least one, and popping takes it off and keeps the
others. `sortedList` is the plainest such heap.
-/

namespace Tipy.Lib

/-- The operations of a heap on lists and what a client may rely on. -/
structure MinHeap (α : Type*) [LinearOrder α] where
  IsHeap : List α → Prop
  push : List α → α → List α
  pop : List α → Option (α × List α)
  isHeap_nil : IsHeap []
  isHeap_push {l : List α} (a : α) : IsHeap l → IsHeap (push l a)
  push_perm {l : List α} (a : α) : IsHeap l → (push l a).Perm (a :: l)
  front_le {a : α} {l : List α} : IsHeap (a :: l) → ∀ b ∈ l, a ≤ b
  pop_cons {a : α} {l : List α} : IsHeap (a :: l) →
    ∃ l', pop (a :: l) = some (a, l') ∧ IsHeap l' ∧ l'.Perm l

namespace MinHeap

variable {α : Type*} [LinearOrder α]

/-- The heap that keeps its list sorted. -/
def sortedList : MinHeap α where
  IsHeap l := l.Pairwise (· ≤ ·)
  push l a := l.orderedInsert (· ≤ ·) a
  pop
    | [] => none
    | a :: l => some (a, l)
  isHeap_nil := List.Pairwise.nil
  isHeap_push := by
    intro l a h
    exact h.orderedInsert a l
  push_perm := by
    intro l a _
    exact List.perm_orderedInsert _ a l
  front_le := by
    intro a l h
    exact (List.pairwise_cons.1 h).1
  pop_cons := by
    intro a l h
    exact ⟨l, rfl, (List.pairwise_cons.1 h).2, List.Perm.refl l⟩

variable (Q : MinHeap α)

/-- Nothing on a heap comes before its front. -/
theorem front_le_mem {a b : α} {l : List α} (h : Q.IsHeap (a :: l)) (hb : b ∈ a :: l) : a ≤ b := by
  rcases List.mem_cons.1 hb with rfl | hb
  · exact le_rfl
  · exact Q.front_le h b hb

end MinHeap

end Tipy.Lib
