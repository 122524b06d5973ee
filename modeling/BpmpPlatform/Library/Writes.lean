import BpmpPlatform.Library.Maps

/-! # Batches of writes

A batch of writes is applied to an ordered map from the first to the last, so that a later write of an address wins.
-/
namespace BpmpPlatform
open Std List

inductive Write (A V : Type)
  | put (address : A) (value : V)
  | delete (address : A)

section
variable {A V : Type}

def Write.address : Write A V → A
  | .put address _ => address
  | .delete address => address

def Write.result : Write A V → Option V
  | .put _ value => some value
  | .delete _ => none

variable [Ord A] [TransOrd A]

def applyWrite (m : ExtTreeMap A V) : Write A V → ExtTreeMap A V
  | .put address value => m.insert address value
  | .delete address => m.erase address

def applyWrites (m : ExtTreeMap A V) (writes : List (Write A V)) : ExtTreeMap A V := writes.foldl applyWrite m

theorem applyWrites_cons (m : ExtTreeMap A V) (write : Write A V) (writes : List (Write A V)) :
    applyWrites m (write :: writes) = applyWrites (applyWrite m write) writes := rfl

theorem applyWrites_append (m : ExtTreeMap A V) (writes writes' : List (Write A V)) :
    applyWrites m (writes ++ writes') = applyWrites (applyWrites m writes) writes' :=
  foldl_append

variable [LawfulEqOrd A] [DecidableEq A] {m m' : ExtTreeMap A V} {writes : List (Write A V)} {a : A}

theorem getElem?_applyWrite (write : Write A V) :
    (applyWrite m write)[a]? = if write.address = a then write.result else m[a]? := by
  cases write with
  | put address value => exact getElem?_insert_eq m address a value
  | delete address => exact getElem?_erase_eq m address a

/-- What holds of the results of all writes of an address holds of it in the end, if it is written at all or it held
before. -/
theorem getElem?_applyWrites_of_forall {P : Option V → Prop} (h : ∀ write ∈ writes, write.address = a → P write.result)
    (hs : (∃ write ∈ writes, write.address = a) ∨ P m[a]?) : P (applyWrites m writes)[a]? := by
  induction writes generalizing m with
  | nil =>
    rcases hs with ⟨_,hin,_⟩ | hb
    · cases hin
    · exact hb
  | cons write writes ih =>
    rw [forall_mem_cons] at h
    rw [applyWrites_cons]
    refine ih h.2 ?_
    rw [getElem?_applyWrite]
    by_cases had : write.address = a
    · rw [if_pos had]
      exact .inr (h.1 had)
    · rw [if_neg had]
      rcases hs with ⟨other,hin,ho⟩ | hb
      · rcases mem_cons.mp hin with rfl | hin
        · exact absurd ho had
        · exact .inl ⟨other,hin,ho⟩
      · exact .inr hb

theorem getElem?_applyWrites_of_untouched (h : ∀ write ∈ writes, write.address ≠ a) : (applyWrites m writes)[a]? = m[a]? :=
  getElem?_applyWrites_of_forall (P := (· = m[a]?)) (fun write hin had => absurd had (h write hin)) (.inr rfl)

theorem getElem?_applyWrites_head {write : Write A V} (h : ∀ w ∈ writes, w.address ≠ write.address) :
    (applyWrites m (write :: writes))[write.address]? = write.result := by
  rw [applyWrites_cons, getElem?_applyWrites_of_untouched h, getElem?_applyWrite, if_pos rfl]

theorem getElem?_applyWrites_concat (writes : List (Write A V)) (write : Write A V) :
    (applyWrites m (writes ++ [write]))[a]? = if write.address = a then write.result else (applyWrites m writes)[a]? := by
  rw [applyWrites_append]
  exact getElem?_applyWrite write

/-- What is found after the writes was written or is what was there. -/
theorem getElem?_applyWrites_cases {value : V} (h : (applyWrites m writes)[a]? = some value) :
    (∃ write ∈ writes, write.address = a ∧ write.result = some value) ∨
      (∀ write ∈ writes, write.address ≠ a) ∧ m[a]? = some value := by
  induction writes generalizing m with
  | nil => exact .inr ⟨fun _ hin => (not_mem_nil hin).elim,h⟩
  | cons write writes ih =>
    rw [applyWrites_cons] at h
    rcases ih h with ⟨other,hin,ho⟩ | ⟨hr,hb⟩
    · exact .inl ⟨other,mem_cons_of_mem _ hin,ho⟩
    · rw [getElem?_applyWrite] at hb
      split at hb
      · rename_i had
        exact .inl ⟨write,mem_cons_self,had,hb⟩
      · rename_i had
        exact .inr ⟨forall_mem_cons.mpr ⟨had,hr⟩,hb⟩

/-- The same writes keep an agreement about an address. -/
theorem applyWrites_agree (h : m[a]? = m'[a]?) : (applyWrites m writes)[a]? = (applyWrites m' writes)[a]? := by
  induction writes generalizing m m' with
  | nil => exact h
  | cons write writes ih =>
    rw [applyWrites_cons, applyWrites_cons]
    apply ih
    rw [getElem?_applyWrite, getElem?_applyWrite, h]

/-- Writes of the same addresses, with values that look alike, leave values that look alike. -/
theorem applyWrites_alike {W : Type} (view : A → V → W) {writes' : List (Write A V)}
    (h : m[a]?.map (view a) = m'[a]?.map (view a))
    (hwr : List.Forall₂ (fun write write' => write.address = write'.address ∧
      write.result.map (view write.address) = write'.result.map (view write.address)) writes writes') :
    (applyWrites m writes)[a]?.map (view a) = (applyWrites m' writes')[a]?.map (view a) := by
  induction hwr generalizing m m' with
  | nil => exact h
  | @cons write write' writes writes' hal _ ih =>
    rw [applyWrites_cons, applyWrites_cons]
    apply ih
    rw [getElem?_applyWrite, getElem?_applyWrite, ← hal.1]
    split
    · rename_i had
      rw [← had]
      exact hal.2
    · exact h

theorem getElem?_applyWrites_filter {p : A → Bool} (hp : p a = true) :
    (applyWrites m (writes.filter fun write => p write.address))[a]? = (applyWrites m writes)[a]? := by
  induction writes generalizing m with
  | nil => rfl
  | cons write writes ih =>
    rw [applyWrites_cons, ← ih]
    cases hwr : p write.address with
    | false =>
      rw [filter_cons_of_neg (by simp [hwr])]
      refine applyWrites_agree ?_
      rw [getElem?_applyWrite, if_neg]
      rintro rfl
      cases hp.symm.trans hwr
    | true => rw [filter_cons_of_pos (by simp [hwr]), applyWrites_cons]

end

end BpmpPlatform
