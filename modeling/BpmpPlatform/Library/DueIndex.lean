import BpmpPlatform.Library.Maps

/-! # Ordered storage keys and due-time indexes

Keys are lists of components, each compared by its length and then by its text. A due-time index is exact when it has
one entry for each record that is due and no other.
-/
namespace BpmpPlatform.Storage
open Std

/-- A component of a storage key, written with its length before its bytes. -/
structure Component where
  value : String
  deriving DecidableEq

abbrev StorageKey := List Component

structure DueKey (K : Type) where
  dueAt : Nat
  key : K
  deriving DecidableEq

section Orders
variable {K : Type} [Ord K] [TransOrd K]

instance : Ord Component := ⟨compareLex (compareOn fun c => c.value.utf8ByteSize) (compareOn Component.value)⟩

instance : TransOrd Component := inferInstanceAs (TransCmp (compareLex _ _))

instance : LawfulEqOrd Component := lawfulEqCmp_two fun a b _ _ => by
  cases a; cases b; simp_all

instance : Ord (DueKey K) := ⟨compareLex (compareOn DueKey.dueAt) (compareOn DueKey.key)⟩

instance : TransOrd (DueKey K) := inferInstanceAs (TransCmp (compareLex _ _))

instance : TransOrd (DueKey StorageKey) := inferInstance

instance [LawfulEqOrd K] : LawfulEqOrd (DueKey K) := lawfulEqCmp_two fun a b _ _ => by
  cases a; cases b; simp_all

omit [TransOrd K] in
theorem dueAt_le_of_compare {e e' : DueKey K} (h : compare e e' = .lt) : e.dueAt ≤ e'.dueAt := by
  have hlex : (compare e.dueAt e'.dueAt).then (compare e.key e'.key) = .lt := h
  rcases Ordering.then_eq_lt.mp hlex with hlt | ⟨heq,_⟩
  · exact Nat.le_of_lt (Nat.compare_eq_lt.mp hlt)
  · exact Nat.le_of_eq (Nat.compare_eq_eq.mp heq)

theorem sorted_index (index : ExtTreeSet (DueKey K)) : index.toList.Pairwise fun e e' => e.dueAt ≤ e'.dueAt :=
  index.ordered_toList.imp dueAt_le_of_compare

theorem nodup_index [LawfulEqOrd K] (index : ExtTreeSet (DueKey K)) : index.toList.Nodup :=
  index.distinct_toList.imp fun hne heq => hne (LawfulEqCmp.compare_eq_iff_eq.mpr heq)

end Orders

section Exact
variable {K V : Type} [Ord K] [TransOrd K] [LawfulEqOrd K] [DecidableEq K] {due : V → Option Nat}
  {records : ExtTreeMap K V} {index : ExtTreeSet (DueKey K)} {k : K} {v : V}

/-- The index has exactly the entries of the records that are due. -/
def Exact (due : V → Option Nat) (records : ExtTreeMap K V) (index : ExtTreeSet (DueKey K)) : Prop :=
  ∀ entry : DueKey K, entry ∈ index ↔ records[entry.key]?.bind due = some entry.dueAt

/-- The index without the entry of a key at a time, if one is given. -/
def unindexed (index : ExtTreeSet (DueKey K)) (k : K) : Option Nat → ExtTreeSet (DueKey K)
  | some dueAt => index.erase ⟨dueAt, k⟩
  | none => index

def indexed (index : ExtTreeSet (DueKey K)) (k : K) : Option Nat → ExtTreeSet (DueKey K)
  | some dueAt => index.insert ⟨dueAt, k⟩
  | none => index

variable {entry a : DueKey K} {old : Option Nat}

omit [DecidableEq K] in
theorem mem_erase_iff : a ∈ index.erase entry ↔ a ≠ entry ∧ a ∈ index := by
  rw [ExtTreeSet.mem_erase, LawfulEqCmp.compare_eq_iff_eq.ne, ne_comm]

omit [DecidableEq K] in
theorem mem_insert_iff : a ∈ index.insert entry ↔ a = entry ∨ a ∈ index := by
  rw [ExtTreeSet.mem_insert, LawfulEqCmp.compare_eq_iff_eq, eq_comm]

theorem mem_unindexed :
    entry ∈ unindexed index k old ↔ entry ∈ index ∧ ¬(entry.key = k ∧ some entry.dueAt = old) := by
  cases old with
  | none => simp [unindexed]
  | some =>
    rw [unindexed, mem_erase_iff]
    cases entry
    simp only [ne_eq, DueKey.mk.injEq, Option.some.injEq]
    tauto

theorem mem_indexed {new : Option Nat} :
    entry ∈ indexed index k new ↔ entry ∈ index ∨ (entry.key = k ∧ some entry.dueAt = new) := by
  cases new with
  | none => simp [indexed]
  | some =>
    rw [indexed, mem_insert_iff]
    cases entry
    simp only [DueKey.mk.injEq, Option.some.injEq]
    tauto

omit [LawfulEqOrd K] [DecidableEq K] in
theorem Exact.empty : Exact due (∅ : ExtTreeMap K V) ∅ := by
  intro entry
  simp

variable (h : Exact due records index)
include h

omit [LawfulEqOrd K] [DecidableEq K] in
theorem Exact.unique [LawfulEqOrd K] {index' : ExtTreeSet (DueKey K)} (h' : Exact due records index') :
    index = index' := by
  apply ExtTreeSet.ext_mem
  intro entry
  rw [h, h']

theorem Exact.erase (hold : ∀ dueAt, records[k]?.bind due = some dueAt → old = some dueAt) :
    Exact due (records.erase k) (unindexed index k old) := by
  intro entry
  rw [mem_unindexed, h, getElem?_erase_eq]
  by_cases hk : k = entry.key
  · subst hk
    rw [if_pos rfl]
    constructor
    · rintro ⟨hget,hnot⟩
      exact absurd ⟨rfl,(hold _ hget).symm⟩ hnot
    · intro hn
      cases hn
  · rw [if_neg hk]
    constructor
    · rintro ⟨hget,_⟩
      exact hget
    · intro hget
      exact ⟨hget,fun hb => hk hb.1.symm⟩

/-- Writing a record moves its entry; the old entry may be named even if there is none. -/
theorem Exact.insert (hold : ∀ dueAt, records[k]?.bind due = some dueAt → old = some dueAt) (v : V) :
    Exact due (records.insert k v) (indexed (unindexed index k old) k (due v)) := by
  intro entry
  rw [mem_indexed, h.erase hold entry, getElem?_erase_eq, getElem?_insert_eq]
  by_cases hk : k = entry.key
  · simp [hk, eq_comm]
  · simp [hk, Ne.symm hk]

/-- A record that is rewritten with the same due time keeps its entry. -/
theorem Exact.update (hv : records[k]?.bind due = due v) : Exact due (records.insert k v) index := by
  intro entry
  rw [h, getElem?_insert_eq]
  by_cases hk : k = entry.key
  · subst hk
    rw [if_pos rfl, hv, Option.bind_some]
  · rw [if_neg hk]

end Exact

end BpmpPlatform.Storage
