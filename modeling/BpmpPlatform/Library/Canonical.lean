import BpmpPlatform.Library.Sort

/-! # Canonical order and search

Sorted lists whose elements differ are the same for every order they came in, and are searched by halving them.
-/
namespace BpmpPlatform
open Std List

variable {α : Type}

/-- Sorting forgets the order when elements that compare equal are equal. -/
theorem UnstableSort.sort_eq_of_perm (us : UnstableSort) {cmp : α → α → Ordering} [TransCmp cmp] {l l' : List α}
    (hp : l.Perm l') (hinj : ∀ a ∈ l, ∀ b ∈ l, cmp a b = .eq → a = b) : us.sort cmp l = us.sort cmp l' := by
  refine List.Perm.eq_of_pairwise ?_ (us.sorted cmp l) (us.sorted cmp l')
    ((us.perm cmp l).trans (hp.trans (us.perm cmp l').symm))
  intro a b ha hb hab hba
  have ha' : a ∈ l := us.mem_sort.mp ha
  have hb' : b ∈ l := hp.mem_iff.mpr (us.mem_sort.mp hb)
  exact hinj a ha' b hb' (OrientedCmp.isLE_antisymm hab hba)

/-- Insertion keeps the order of elements that compare equal. -/
theorem UnstableSort.filter_insertion {cmp : α → α → Ordering} [TransCmp cmp] (a : α) (l : List α) :
    (UnstableSort.insertion.sort cmp l).filter (fun b => cmp a b = .eq) = l.filter fun b => cmp a b = .eq := by
  have hpw : (l.filter fun b => cmp a b = .eq).Pairwise fun b c => (cmp b c).isLE = true := by
    refine pairwise_of_forall_mem_list fun b hb c hc => ?_
    have hbc : cmp b c = .eq := TransCmp.eq_trans (OrientedCmp.eq_symm (by simpa using (mem_filter.mp hb).2))
      (by simpa using (mem_filter.mp hc).2)
    rw [hbc]
    rfl
  have hs := (sublist_insertionSort hpw filter_sublist).filter fun b => cmp a b = .eq
  rw [filter_filter, filter_congr fun b _ => Bool.and_self _] at hs
  exact (hs.eq_of_length ((UnstableSort.insertion.perm cmp l).filter _).length_eq.symm).symm

section Adjacent
variable {α : Type} {l : List α}

/-- The first element for which the test holds with the next one: a loop over `windows(2)`. -/
def firstAdjacent (test : α → α → Bool) : List α → Option α
  | a :: b :: l => if test a b then some a else firstAdjacent test (b :: l)
  | _ => none

theorem isChain_of_firstAdjacent {test : α → α → Bool} (h : firstAdjacent test l = none) :
    l.IsChain fun a b => test a b = false := by
  induction l with
  | nil => exact .nil
  | cons a l ih =>
    cases l with
    | nil => exact .singleton a
    | cons b l =>
      rw [firstAdjacent] at h
      split at h
      · cases h
      · rename_i ht
        exact .cons_cons (Bool.eq_false_of_not_eq_true ht) (ih h)

theorem pairwise_lt_of_sorted {cmp : α → α → Ordering} [TransCmp cmp]
    (hs : l.Pairwise fun a b => (cmp a b).isLE = true) (hch : l.IsChain fun a b => cmp a b ≠ .eq) :
    l.Pairwise fun a b => cmp a b = .lt := by
  have htr : Trans (fun a b => cmp a b = .lt) (fun a b => cmp a b = .lt) (fun a b => cmp a b = .lt) :=
    ⟨fun hab hbc => TransCmp.lt_trans hab hbc⟩
  rw [← isChain_iff_pairwise]
  induction hch with
  | nil => exact .nil
  | singleton a => exact .singleton a
  | @cons_cons a b l hne _ ih =>
    obtain ⟨hh,ht⟩ := pairwise_cons.mp hs
    have hle := hh b mem_cons_self
    refine .cons_cons ?_ (ih ht)
    cases hcmp : cmp a b with
    | lt => rfl
    | eq => exact absurd hcmp hne
    | gt => simp [hcmp] at hle

/-- `Vec::dedup`. -/
def dedup [DecidableEq α] (l : List α) : List α := l.destutter (· ≠ ·)

end Adjacent

section Search
variable {α : Type} {f : α → Ordering}

/-- `binary_search_by`, with the number of steps it may take. -/
def binarySearchBy (f : α → Ordering) : Nat → List α → Option α
  | 0, _ => none
  | fuel + 1, l =>
    match l.drop (l.length / 2) with
    | [] => none
    | middle :: right =>
      match f middle with
      | .eq => some middle
      | .lt => binarySearchBy f fuel right
      | .gt => binarySearchBy f fuel (l.take (l.length / 2))

/-- In a list in which no two elements are found, the search finds the one that is. -/
theorem binarySearchBy_eq_some_iff {fuel : Nat} {l : List α} (h : l.Pairwise fun a b => f a = .lt ∨ f b = .gt)
    (hfu : l.length ≤ fuel) {a : α} : binarySearchBy f fuel l = some a ↔ a ∈ l ∧ f a = .eq := by
  induction fuel generalizing l with
  | zero =>
    have hnil : l = [] := length_eq_zero_iff.mp (Nat.le_zero.mp hfu)
    simp [hnil, binarySearchBy]
  | succ fuel ih =>
    have hs : l.take (l.length / 2) ++ l.drop (l.length / 2) = l := take_append_drop _ l
    rw [binarySearchBy]
    cases hd : l.drop (l.length / 2) with
    | nil =>
      have hlen : l.length ≤ l.length / 2 := drop_eq_nil_iff.mp hd
      have hnil : l = [] := length_eq_zero_iff.mp (by omega)
      simp [hnil]
    | cons middle right =>
      rw [hd] at hs
      rw [← hs, pairwise_append] at h
      obtain ⟨hl,hri,hcr⟩ := h
      obtain ⟨hmi,hri⟩ := pairwise_cons.mp hri
      have hlen : (l.drop (l.length / 2)).length = right.length + 1 := by rw [hd]; rfl
      rw [length_drop] at hlen
      have hmem : a ∈ l ↔ a ∈ l.take (l.length / 2) ∨ a = middle ∨ a ∈ right := by
        conv_lhs => rw [← hs]
        simp
      -- an element that is found is on the side the comparison names
      have hle (hin : a ∈ l.take (l.length / 2)) (heq : f a = .eq) : f middle = .gt := by
        simpa [heq] using hcr a hin middle mem_cons_self
      have hgr (hin : a ∈ right) (heq : f a = .eq) : f middle = .lt := by simpa [heq] using hmi a hin
      simp only [hmem]
      cases hf : f middle with
      | eq =>
        simp only [Option.some.injEq]
        constructor
        · rintro rfl
          exact ⟨.inr (.inl rfl),hf⟩
        · rintro ⟨hin | rfl | hin,heq⟩
          · cases hf.symm.trans (hle hin heq)
          · rfl
          · cases hf.symm.trans (hgr hin heq)
      | lt =>
        simp only [ih hri (by omega)]
        constructor
        · rintro ⟨hin,heq⟩
          exact ⟨.inr (.inr hin),heq⟩
        · rintro ⟨hin | rfl | hin,heq⟩
          · cases hf.symm.trans (hle hin heq)
          · cases hf.symm.trans heq
          · exact ⟨hin,heq⟩
      | gt =>
        have ht : (l.take (l.length / 2)).length ≤ fuel := by
          rw [length_take]
          omega
        simp only [ih hl ht]
        constructor
        · rintro ⟨hin,heq⟩
          exact ⟨.inl hin,heq⟩
        · rintro ⟨hin | rfl | hin,heq⟩
          · exact ⟨hin,heq⟩
          · cases hf.symm.trans heq
          · cases hf.symm.trans (hgr hin heq)

end Search

end BpmpPlatform
