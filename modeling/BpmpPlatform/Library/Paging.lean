import BpmpPlatform.Library.Canonical

/-! # Keyset paging

After a page the rows that compare greater than its last row are asked for, so rows that compare equal are taken for
one: the pages give every row exactly if no two rows do.
-/
namespace BpmpPlatform.Paging
open Std List

variable {α : Type} {cmp : α → α → Ordering} {query : Option α → List α}

/-- The concatenated pages. A page has `limit` rows if there is one more, whose cursor is then the last of them. -/
def pages (query : Option α → List α) (limit : Nat) : Nat → Option α → List α
  | 0, _ => []
  | fuel + 1, after =>
    let rows := (query after).take (limit + 1)
    if limit < rows.length then rows.take limit ++ pages query limit fuel (rows.take limit).getLast? else rows

theorem pages_eq {S : List α} {limit : Nat} (hl : 1 ≤ limit)
    (hq : ∀ before c rest, S = before ++ c :: rest → query (some c) = rest) {fuel : Nat} {after : Option α}
    {before rest : List α} (hS : S = before ++ rest) (hr : query after = rest) (hf : rest.length < fuel) :
    pages query limit fuel after = rest := by
  induction fuel generalizing after before rest with
  | zero => omega
  | succ fuel ih =>
    simp only [pages, hr, take_take, length_take, Nat.min_eq_left (Nat.le_succ limit)]
    split
    · -- the page ends with the row of the cursor
      obtain ⟨init,c,later,rfl,hlen⟩ :
          ∃ init c later, rest = (init ++ [c]) ++ later ∧ (init ++ [c]).length = limit := by
        rcases eq_nil_or_concat' (rest.take limit) with hnil | ⟨init,c,hc⟩
        · have hz := congrArg List.length hnil
          simp only [length_take, length_nil] at hz
          omega
        · refine ⟨init,c,rest.drop limit,by rw [← hc, take_append_drop],?_⟩
          rw [← hc, length_take]
          omega
      rw [take_left' hlen, List.getLast?_concat]
      have hsplit : S = (before ++ init) ++ c :: later := by simp [hS]
      have hlater : later.length < fuel := by
        simp only [length_append, length_singleton] at hf
        omega
      rw [ih (by rw [hsplit, append_cons]) (hq _ c later hsplit) hlater]
    · exact take_of_length_le (by omega)

theorem pages_one [TransCmp cmp] (hq : ∀ c, ∀ a ∈ query (some c), cmp c a = .lt) (fuel : Nat) (after : Option α) :
    (pages query 1 fuel after).Pairwise (fun a b => cmp a b = .lt) ∧
      ∀ c, after = some c → ∀ a ∈ pages query 1 fuel after, cmp c a = .lt := by
  induction fuel generalizing after with
  | zero => simp [pages]
  | succ fuel ih =>
    rcases h : query after with _ | ⟨a,_ | ⟨b,rest⟩⟩
    · simp [pages, h]
    · refine ⟨by simp [pages, h],?_⟩
      rintro c rfl
      simpa [pages, h] using hq c a (by simp [h])
    · obtain ⟨hp,hc⟩ := ih (some a)
      have heq : pages query 1 (fuel + 1) after = a :: pages query 1 fuel (some a) := by simp [pages, h]
      rw [heq]
      refine ⟨pairwise_cons.mpr ⟨hc a rfl,hp⟩,?_⟩
      rintro c rfl
      have ha := hq c a (by simp [h])
      exact forall_mem_cons.mpr ⟨ha,fun x hx => TransCmp.lt_trans ha (hc a rfl x hx)⟩

def keyset (us : UnstableSort) (cmp : α → α → Ordering) (rows : List α) (after : Option α) : List α :=
  us.sort cmp (rows.filter fun a => after.all fun c => cmp c a == .lt)

theorem pages_exact_iff [TransCmp cmp] (us : UnstableSort) (rows : List α) {most : Nat} (hm : 1 ≤ most) :
    (∀ limit, 1 ≤ limit → limit ≤ most →
      pages (keyset us cmp rows) limit (rows.length + 1) none = keyset us cmp rows none) ↔
        rows.Pairwise fun a b => cmp a b ≠ .eq := by
  have hnone : keyset us cmp rows none = us.sort cmp rows := by simp [keyset]
  have hsym : ∀ {a b : α}, cmp a b ≠ .eq → cmp b a ≠ .eq := fun h hb => h (OrientedCmp.eq_symm hb)
  have hperm := us.perm cmp rows
  rw [hnone]
  constructor
  · intro h
    have hq : ∀ c, ∀ a ∈ keyset us cmp rows (some c), cmp c a = .lt := by
      intro c a ha
      simpa using (mem_filter.mp (us.mem_sort.mp ha)).2
    have hlt := (pages_one hq (rows.length + 1) none).1
    rw [h 1 le_rfl hm] at hlt
    exact (hperm.pairwise_iff hsym).mp (hlt.imp fun hab => by simp [hab])
  · intro h limit hl _
    have hS := (hperm.pairwise_iff hsym).mpr h
    have hstrict := pairwise_lt_of_sorted (us.sorted cmp rows) (List.Pairwise.isChain hS)
    refine pages_eq (S := us.sort cmp rows) hl ?_ (nil_append _).symm hnone (by rw [hperm.length_eq]; omega)
    intro before c rest heq
    have hrest : ((us.sort cmp rows).filter fun a => cmp c a == .lt) = rest := by
      rw [heq] at hstrict ⊢
      obtain ⟨_,hcons,hall⟩ := pairwise_append.mp hstrict
      have hb : (before.filter fun a => cmp c a == .lt) = [] := by
        refine filter_eq_nil_iff.mpr fun a ha => ?_
        simp [OrientedCmp.gt_of_lt (hall a ha c mem_cons_self)]
      have hr : (rest.filter fun a => cmp c a == .lt) = rest :=
        filter_eq_self.mpr (by simpa using (pairwise_cons.mp hcons).1)
      rw [filter_append, filter_cons_of_neg (by simp [ReflCmp.compare_self]), hb, hr, nil_append]
    have hp : (keyset us cmp rows (some c)).Perm rest :=
      hrest ▸ (us.perm cmp _).trans (hperm.symm.filter _)
    refine hp.eq_of_pairwise ?_ (us.sorted cmp _) ((pairwise_append.mp (heq ▸ us.sorted cmp rows)).2.1.of_cons)
    intro a b ha hb hab hba
    by_contra hne
    have hmem : ∀ x ∈ rest, x ∈ rows := fun x hx => us.mem_sort.mp (by rw [heq]; simp [hx])
    have hsymm : Std.Symm fun a b => cmp a b ≠ .eq := ⟨fun _ _ => hsym⟩
    exact h.forall (hmem a (hp.mem_iff.mp ha)) (hmem b hb) hne (OrientedCmp.isLE_antisymm hab hba)

end BpmpPlatform.Paging
