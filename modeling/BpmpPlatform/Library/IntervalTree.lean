import Mathlib.Order.Lattice
import Mathlib.Tactic.Tauto
import Mathlib.Order.Defs.LinearOrder

/-! # Interval trees

A search tree of intervals by their lower ends, each node with the greatest upper end below it. The query leaves out a
subtree that ends too early or starts too late.
-/
namespace BpmpPlatform
open List

structure Interval (T : Type) where
  lower : T
  upper : T

inductive IntervalTree (T : Type)
  | empty
  | node (interval : Interval T) (maxUpper : T) (left right : IntervalTree T)

variable {T : Type} [LinearOrder T]

def Interval.overlapsWith (a b : Interval T) : Bool := decide (a.lower ≤ b.upper) && decide (b.lower ≤ a.upper)

namespace IntervalTree

def insert (interval : Interval T) : IntervalTree T → IntervalTree T
  | .empty => .node interval interval.upper .empty .empty
  | .node root maxUpper left right =>
    if interval.lower < root.lower then .node root (max maxUpper interval.upper) (insert interval left) right
    else .node root (max maxUpper interval.upper) left (insert interval right)

def findOverlapping (query : Interval T) : IntervalTree T → List (Interval T)
  | .empty => []
  | .node root maxUpper left right =>
    if maxUpper < query.lower then []
    else (if root.overlapsWith query then [root] else []) ++ findOverlapping query left ++
      (if root.lower ≤ query.upper then findOverlapping query right else [])

def intervals : IntervalTree T → List (Interval T)
  | .empty => []
  | .node root _ left right => root :: (left.intervals ++ right.intervals)

def Ordered : IntervalTree T → Prop
  | .empty => True
  | .node root maxUpper left right =>
    (∀ i ∈ (IntervalTree.node root maxUpper left right).intervals, i.upper ≤ maxUpper) ∧
      (∀ i ∈ right.intervals, root.lower ≤ i.lower) ∧ left.Ordered ∧ right.Ordered

variable {i : Interval T}

omit [LinearOrder T] in
theorem mem_intervals_node {root : Interval T} {maxUpper : T} {left right : IntervalTree T} :
    i ∈ (IntervalTree.node root maxUpper left right).intervals ↔ i = root ∨ i ∈ left.intervals ∨ i ∈ right.intervals := by
  simp [intervals]

variable {tree : IntervalTree T} {interval : Interval T}

theorem intervals_insert_perm : (tree.insert interval).intervals.Perm (interval :: tree.intervals) := by
  induction tree with
  | empty => exact .refl _
  | node root maxUpper left right ihl ihr =>
    rw [insert]
    split
    · exact ((ihl.append_right _).cons root).trans (.swap ..)
    · exact (((ihr.append_left _).trans perm_middle).cons root).trans (.swap ..)

theorem mem_intervals_insert : i ∈ (tree.insert interval).intervals ↔ i = interval ∨ i ∈ tree.intervals :=
  intervals_insert_perm.mem_iff.trans mem_cons

theorem Ordered.insert (h : tree.Ordered) : (tree.insert interval).Ordered := by
  induction tree with
  | empty =>
    refine ⟨fun i hi => ?_,fun i hi => (nomatch hi),trivial,trivial⟩
    rw [mem_singleton.mp hi]
  | node root maxUpper left right ihl ihr =>
    obtain ⟨hup,hri,hl,hr⟩ := h
    -- The new bound covers the new interval and everything the old bound covered.
    have hco : ∀ i, i = interval ∨ i ∈ (IntervalTree.node root maxUpper left right).intervals →
        i.upper ≤ max maxUpper interval.upper := by
      rintro i (rfl | hi)
      · exact le_max_right _ _
      · exact (hup i hi).trans (le_max_left _ _)
    rw [IntervalTree.insert]
    split
    · refine ⟨fun i hi => hco i ?_,hri,ihl hl,hr⟩
      rw [mem_intervals_node, mem_intervals_insert] at hi
      rw [mem_intervals_node]
      tauto
    · rename_i hlo
      refine ⟨fun i hi => hco i ?_,fun i hi => ?_,hl,ihr hr⟩
      · rw [mem_intervals_node, mem_intervals_insert] at hi
        rw [mem_intervals_node]
        tauto
      · rcases mem_intervals_insert.mp hi with rfl | hi
        · exact not_lt.mp hlo
        · exact hri i hi

/-- The query finds exactly the intervals of the tree that overlap. -/
theorem Ordered.findOverlapping_eq (h : tree.Ordered) (query : Interval T) :
    tree.findOverlapping query = tree.intervals.filter (·.overlapsWith query) := by
  induction tree with
  | empty => rfl
  | node root maxUpper left right ihl ihr =>
    obtain ⟨hup,hri,hl,hr⟩ := h
    rw [findOverlapping]
    split
    · rename_i he
      refine (filter_eq_nil_iff.mpr fun i hi ho => ?_).symm
      have hla : query.lower ≤ i.upper := by simpa using (Bool.and_eq_true_iff.mp ho).2
      exact absurd (hla.trans (hup i hi)) (not_le.mpr he)
    · have hse : (if root.lower ≤ query.upper then right.findOverlapping query else []) =
          right.intervals.filter (·.overlapsWith query) := by
        split
        · exact ihr hr
        · rename_i hla
          refine (filter_eq_nil_iff.mpr fun i hi ho => ?_).symm
          have hs : i.lower ≤ query.upper := by simpa using (Bool.and_eq_true_iff.mp ho).1
          exact absurd ((hri i hi).trans hs) hla
      rw [hse, ihl hl, intervals, filter_cons, filter_append]
      split <;> rfl

def ofList (items : List (Interval T)) : IntervalTree T := items.foldl (fun tree item => tree.insert item) .empty

theorem ofList_spec (items : List (Interval T)) (tree : IntervalTree T) (h : tree.Ordered) :
    (items.foldl (fun tree item => tree.insert item) tree).Ordered ∧
      (items.foldl (fun tree item => tree.insert item) tree).intervals.Perm (items ++ tree.intervals) := by
  induction items generalizing tree with
  | nil => exact ⟨h,.refl _⟩
  | cons item items ih =>
    obtain ⟨hor,hp⟩ := ih (tree.insert item) h.insert
    exact ⟨hor,hp.trans ((intervals_insert_perm.append_left items).trans perm_middle)⟩

theorem findOverlapping_ofList_perm (items : List (Interval T)) (query : Interval T) :
    ((ofList items).findOverlapping query).Perm (items.filter (·.overlapsWith query)) := by
  obtain ⟨hor,hp⟩ := ofList_spec items .empty trivial
  rw [ofList, hor.findOverlapping_eq]
  simpa [intervals] using hp.filter (·.overlapsWith query)

theorem mem_findOverlapping_ofList {items : List (Interval T)} {query : Interval T} :
    i ∈ (ofList items).findOverlapping query ↔ i ∈ items ∧ i.overlapsWith query = true :=
  (findOverlapping_ofList_perm items query).mem_iff.trans mem_filter

end IntervalTree
end BpmpPlatform
