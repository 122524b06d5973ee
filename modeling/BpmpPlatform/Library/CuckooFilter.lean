import Mathlib.Algebra.BigOperators.Group.Finset.Piecewise
import Mathlib.Algebra.Order.BigOperators.Group.Finset
import Mathlib.Algebra.Order.Ring.Nat
import Mathlib.Data.Finset.Insert
import Mathlib.Data.Fintype.Basic

/-! # Cuckoo filters

An item may stand in either of two buckets, and the second is found from the first and the fingerprint alone. What the
table knows of an item is the number of copies of its fingerprint in its two buckets.
-/
namespace BpmpPlatform.CuckooFilter

def bucketSize : Nat := 4

def maxRebucket : Nat := 500

structure Hashing (n : Nat) (F K : Type) where
  fingerprint : K → F
  index : K → Fin n
  alternate : F → Fin n → Fin n
  alternate_alternate : ∀ f i, alternate f (alternate f i) = i

abbrev Buckets (n : Nat) (F : Type) := Fin n → List F

structure Choices where
  second : Bool
  slots : Nat → Fin bucketSize

variable {n : Nat} {F K : Type}

def empty : Buckets n F := fun _ => []

def put (b : Buckets n F) (f : F) (i : Fin n) : Option (Buckets n F) :=
  if (b i).length < bucketSize then some (Function.update b i (b i ++ [f])) else none

def displaced (b : Buckets n F) (f : F) (i : Fin n) (slot : Fin bucketSize) : F := (b i).getD slot f

def displace (b : Buckets n F) (f : F) (i : Fin n) (slot : Fin bucketSize) : Buckets n F :=
  Function.update b i ((b i).set slot f)

/-- The moves of an insertion into a full bucket. A fingerprint is put in the place of another, which goes to its own
other bucket; the one displaced last is lost when that bucket is full too. -/
def kick (h : Hashing n F K) (slots : Nat → Fin bucketSize) :
    Nat → Buckets n F → F → Fin n → Bool × Buckets n F
  | 0, b, _, _ => (false, b)
  | rounds + 1, b, f, i =>
    match put (displace b f i (slots rounds)) (displaced b f i (slots rounds))
      (h.alternate (displaced b f i (slots rounds)) i) with
    | some b' => (true, b')
    | none => kick h slots rounds (displace b f i (slots rounds)) (displaced b f i (slots rounds))
      (h.alternate (displaced b f i (slots rounds)) i)

namespace Hashing
variable (h : Hashing n F K)

def second (key : K) : Fin n := h.alternate (h.fingerprint key) (h.index key)

def add (choices : Choices) (b : Buckets n F) (key : K) : Bool × Buckets n F :=
  match (put b (h.fingerprint key) (h.index key)).or (put b (h.fingerprint key) (h.second key)) with
  | some b' => (true, b')
  | none => kick h choices.slots maxRebucket b (h.fingerprint key)
    (if choices.second then h.second key else h.index key)

variable [DecidableEq F]

def contains (b : Buckets n F) (key : K) : Bool :=
  (b (h.index key)).contains (h.fingerprint key) || (b (h.second key)).contains (h.fingerprint key)

def delete (b : Buckets n F) (key : K) : Buckets n F :=
  if (b (h.index key)).contains (h.fingerprint key) then
    Function.update b (h.index key) ((b (h.index key)).erase (h.fingerprint key))
  else if (b (h.second key)).contains (h.fingerprint key) then
    Function.update b (h.second key) ((b (h.second key)).erase (h.fingerprint key))
  else b

end Hashing

section Copies
open Hashing List
variable (h : Hashing n F K)

def Hashing.pair (f : F) (i : Fin n) : Finset (Fin n) := {i, h.alternate f i}

variable {f g : F} {i j : Fin n} {b : Buckets n F} {key : K}

theorem mem_pair : j ∈ h.pair f i ↔ j = i ∨ j = h.alternate f i := by
  simp [pair]

theorem alternate_mem_pair : h.alternate f j ∈ h.pair f i ↔ j ∈ h.pair f i := by
  rw [mem_pair, mem_pair]
  constructor
  · rintro (hj | hj)
    · exact .inr (by rw [← hj, h.alternate_alternate])
    · exact .inl (by rw [← h.alternate_alternate f j, hj, h.alternate_alternate])
  · rintro (rfl | rfl)
    · exact .inr rfl
    · exact .inl (h.alternate_alternate f i)

theorem pair_eq (hj : j ∈ h.pair f i) : h.pair f j = h.pair f i := by
  rcases (mem_pair h).mp hj with rfl | rfl
  · rfl
  · rw [pair, pair, h.alternate_alternate, Finset.pair_comm]

variable [DecidableEq F]

def Hashing.copies (b : Buckets n F) (f : F) (i : Fin n) : Nat := ∑ j ∈ h.pair f i, (b j).count f

/-- A copy of `g` in bucket `j` counts as a copy of `f` in the buckets of `i`. -/
def Hashing.clash (f : F) (i : Fin n) (g : F) (j : Fin n) : Nat := if g = f ∧ j ∈ h.pair f i then 1 else 0

theorem copies_eq (hj : j ∈ h.pair f i) : h.copies b f j = h.copies b f i := by
  rw [copies, copies, pair_eq h hj]

theorem clash_alternate (f : F) (i : Fin n) (g : F) (j : Fin n) :
    h.clash f i g (h.alternate g j) = h.clash f i g j := by
  by_cases hg : g = f
  · subst hg
    simp [clash, alternate_mem_pair]
  · simp [clash, hg]

theorem clash_self (f : F) (i : Fin n) : h.clash f i f i = 1 := by
  simp [clash, mem_pair]

theorem contains_iff : h.contains b key = true ↔ 0 < h.copies b (h.fingerprint key) (h.index key) := by
  rw [copies, Finset.sum_pos_iff]
  simp [Hashing.contains, Hashing.second, mem_pair, count_pos_iff]

/-- A bucket that loses the copies of `o` and gains those of `g`. -/
theorem copies_exchange {l : List F} {lost gained : Nat} (hl : l.count f + lost = (b j).count f + gained) :
    h.copies (Function.update b j l) f i + (if j ∈ h.pair f i then lost else 0)
      = h.copies b f i + (if j ∈ h.pair f i then gained else 0) := by
  by_cases hj : j ∈ h.pair f i
  · have hold : h.copies b f i = (b j).count f + ∑ k ∈ (h.pair f i).erase j, (b k).count f :=
      (Finset.add_sum_erase _ (fun k => (b k).count f) hj).symm
    have hnew : h.copies (Function.update b j l) f i = l.count f + ∑ k ∈ (h.pair f i).erase j, (b k).count f := by
      rw [copies, ← Finset.add_sum_erase _ _ hj, Function.update_self]
      refine congrArg _ (Finset.sum_congr rfl fun k hk => ?_)
      rw [Function.update_of_ne (Finset.ne_of_mem_erase hk)]
    rw [if_pos hj, if_pos hj, hold, hnew]
    omega
  · have hs : h.copies (Function.update b j l) f i = h.copies b f i := by
      refine Finset.sum_congr rfl fun k hk => ?_
      have hk' : k ≠ j := fun heq => hj (heq ▸ hk)
      rw [Function.update_of_ne hk']
    rw [if_neg hj, if_neg hj, hs]

theorem clash_eq (f : F) (i : Fin n) (g : F) (j : Fin n) :
    h.clash f i g j = if j ∈ h.pair f i then (if g = f then 1 else 0) else 0 := by
  by_cases hj : j ∈ h.pair f i <;> simp [clash, hj]

theorem copies_put {b' : Buckets n F} (hput : put b g j = some b') (f : F) (i : Fin n) :
    h.copies b' f i = h.copies b f i + h.clash f i g j := by
  rw [put] at hput
  split at hput
  · cases hput
    have hc : (b j ++ [g]).count f + 0 = (b j).count f + (if g = f then 1 else 0) := by
      simp [count_append, count_singleton]
    have hex := copies_exchange h (i := i) hc
    rw [clash_eq]
    simpa using hex
  · cases hput

theorem count_set_getD (l : List F) (slot : Nat) (g f : F) :
    (l.set slot g).count f + (if l.getD slot g = f then 1 else 0) = l.count f + (if g = f then 1 else 0) := by
  induction l generalizing slot with
  | nil => simp
  | cons a l ih =>
    cases slot with
    | zero =>
      simp only [set_cons_zero, count_cons, getD_cons_zero, beq_iff_eq]
      omega
    | succ slot =>
      have ht := ih slot
      simp only [set_cons_succ, count_cons, getD_cons_succ, beq_iff_eq]
      omega

/-- The moves of an insertion add one copy, and when they fail they lose the copy that was displaced last. -/
theorem copies_kick (slots : Nat → Fin bucketSize) (rounds : Nat) (b : Buckets n F) (g : F) (j : Fin n) :
    ((kick h slots rounds b g j).1 = true ∧
        ∀ f i, h.copies (kick h slots rounds b g j).2 f i = h.copies b f i + h.clash f i g j) ∨
      ((kick h slots rounds b g j).1 = false ∧ ∃ o l, ∀ f i,
        h.copies (kick h slots rounds b g j).2 f i + h.clash f i o l = h.copies b f i + h.clash f i g j) := by
  induction rounds generalizing b g j with
  | zero => exact .inr ⟨rfl,g,j,fun f i => rfl⟩
  | succ rounds ih =>
    have hm (f : F) (i : Fin n) : h.copies (displace b g j (slots rounds)) f i +
        h.clash f i (displaced b g j (slots rounds)) j = h.copies b f i + h.clash f i g j := by
      rw [clash_eq, clash_eq]
      exact copies_exchange h (count_set_getD (b j) (slots rounds) g f)
    rw [kick]
    generalize displace b g j (slots rounds) = moved at hm ⊢
    generalize displaced b g j (slots rounds) = other at hm ⊢
    split
    · rename_i b' hput
      refine .inl ⟨rfl,fun f i => ?_⟩
      rw [copies_put h hput, clash_alternate]
      exact hm f i
    · rcases ih moved other (h.alternate other j) with ⟨hd,hc⟩ | ⟨hl,o,l,hc⟩
      · refine .inl ⟨hd,fun f i => ?_⟩
        rw [hc, clash_alternate]
        exact hm f i
      · refine .inr ⟨hl,o,l,fun f i => ?_⟩
        rw [hc, clash_alternate]
        exact hm f i

/-- An insertion adds one copy of the item, and when it fails some copy is lost. -/
theorem copies_add (choices : Choices) (b : Buckets n F) (key : K) :
    ((h.add choices b key).1 = true ∧ ∀ f i, h.copies (h.add choices b key).2 f i
        = h.copies b f i + h.clash f i (h.fingerprint key) (h.index key)) ∨
      ((h.add choices b key).1 = false ∧ ∃ o l, ∀ f i, h.copies (h.add choices b key).2 f i + h.clash f i o l
        = h.copies b f i + h.clash f i (h.fingerprint key) (h.index key)) := by
  have hse : ∀ f i, h.clash f i (h.fingerprint key) (h.second key)
      = h.clash f i (h.fingerprint key) (h.index key) := fun f i => clash_alternate h f i _ _
  rw [Hashing.add]
  split
  · rename_i b' hput
    refine .inl ⟨rfl,fun f i => ?_⟩
    rcases Option.or_eq_some_iff.mp hput with hf | ⟨-,ho⟩
    · exact copies_put h hf f i
    · rw [copies_put h ho, hse]
  · have hk := copies_kick h choices.slots maxRebucket b (h.fingerprint key)
      (if choices.second then h.second key else h.index key)
    have hs : ∀ f i, h.clash f i (h.fingerprint key) (if choices.second then h.second key else h.index key)
        = h.clash f i (h.fingerprint key) (h.index key) := by
      intro f i
      split
      · exact hse f i
      · rfl
    simp only [hs] at hk
    exact hk

theorem copies_erase (hg : (b j).contains g = true) (f : F) (i : Fin n) :
    h.copies (Function.update b j ((b j).erase g)) f i + h.clash f i g j = h.copies b f i := by
  have hc : ((b j).erase g).count f + (if g = f then 1 else 0) = (b j).count f + 0 := by
    have hmem : g ∈ b j := by simpa using hg
    by_cases hgf : g = f
    · subst hgf
      have hpos : 0 < (b j).count g := count_pos_iff.mpr hmem
      rw [count_erase_self, if_pos rfl]
      omega
    · rw [count_erase_of_ne (Ne.symm hgf), if_neg hgf]
  have hex := copies_exchange h (i := i) hc
  rw [clash_eq]
  simpa using hex

theorem copies_delete (hkey : h.contains b key = true) (f : F) (i : Fin n) :
    h.copies (h.delete b key) f i + h.clash f i (h.fingerprint key) (h.index key) = h.copies b f i := by
  rw [Hashing.delete]
  split
  · rename_i hf
    exact copies_erase h hf f i
  · rename_i hf
    have ho : (b (h.second key)).contains (h.fingerprint key) = true := by
      rw [Hashing.contains, Bool.or_eq_true] at hkey
      exact hkey.resolve_left hf
    rw [if_pos ho, ← clash_alternate]
    exact copies_erase h ho f i

theorem delete_absent (hkey : h.contains b key = false) : h.delete b key = b := by
  rw [Hashing.contains, Bool.or_eq_false_iff] at hkey
  rw [Hashing.delete, if_neg (by rw [hkey.1]; decide), if_neg (by rw [hkey.2]; decide)]

theorem copies_empty (f : F) (i : Fin n) : h.copies empty f i = 0 := by
  simp [copies, empty]

end Copies
end BpmpPlatform.CuckooFilter
