import Mathlib

/-! # Unstable sorting

`sort_unstable_by` promises a sorted permutation and nothing about the order of equal elements,
so a sort is a parameter with exactly these two laws.
-/
namespace BpmpPlatform
open Std

structure UnstableSort where
  sort : {α : Type} → (α → α → Ordering) → List α → List α
  perm : ∀ {α : Type} (cmp : α → α → Ordering) (l : List α), (sort cmp l).Perm l
  sorted : ∀ {α : Type} (cmp : α → α → Ordering) [TransCmp cmp] (l : List α),
    (sort cmp l).Pairwise fun a b => (cmp a b).isLE = true

namespace UnstableSort

theorem mem_sort (us : UnstableSort) {α : Type} {cmp : α → α → Ordering} {l : List α} {a : α} :
    a ∈ us.sort cmp l ↔ a ∈ l := (us.perm cmp l).mem_iff

def insertion : UnstableSort where
  sort cmp l := l.insertionSort fun a b => (cmp a b).isLE = true
  perm _ l := List.perm_insertionSort _ l
  sorted cmp _ l := by
    have htotal : Std.Total fun a b => (cmp a b).isLE = true := ⟨fun a b => by
      rcases h : cmp a b with _ | _ | _
      · simp
      · simp
      · have hswap : cmp b a = (cmp a b).swap := OrientedCmp.eq_swap
        simp [hswap, h]⟩
    have htrans : IsTrans _ fun a b => (cmp a b).isLE = true :=
      ⟨fun _ _ _ hab hbc => TransCmp.isLE_trans hab hbc⟩
    exact List.pairwise_insertionSort _ l

end UnstableSort

end BpmpPlatform
