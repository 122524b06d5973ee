import Mathlib

/-! # Numbered logs

A log whose entries carry their positions 1, 2, … can be cut by number instead of by position, and
replaying it from a cut gives what replaying all of it gives.
-/
namespace BpmpPlatform.Log
open List
variable {α σ : Type} {number : α → Nat} {log new : List α}

def Numbered (number : α → Nat) (log : List α) : Prop := log.map number = List.range' 1 log.length

theorem Numbered.nil : Numbered number [] := rfl

section
variable (h : Numbered number log) {a : α}
include h

theorem Numbered.append (hnew : new.map number = List.range' (log.length + 1) new.length) :
    Numbered number (log ++ new) := by
  rw [Numbered, map_append, h, hnew, length_append, ← List.range'_append_1, Nat.add_comm log.length 1]

theorem Numbered.number_getElem {i : Nat} (hi : i < log.length) : number log[i] = i + 1 := by
  have hget : (log.map number)[i]? = (List.range' 1 log.length)[i]? := congrArg (fun l => l[i]?) h
  rw [List.getElem?_map, List.getElem?_eq_getElem hi, List.getElem?_range' hi] at hget
  simpa [Nat.add_comm] using hget

theorem Numbered.eq_of_number {b : α} (ha : a ∈ log) (hb : b ∈ log) (heq : number a = number b) : a = b := by
  obtain ⟨i,hi,rfl⟩ := getElem_of_mem ha
  obtain ⟨j,hj,rfl⟩ := getElem_of_mem hb
  rw [h.number_getElem hi, h.number_getElem hj] at heq
  obtain rfl : i = j := by omega
  rfl

/-- What is numbered up to the length of a beginning of the log belongs to it. -/
theorem Numbered.mem_of_prefix {initial : List α} (hp : initial <+: log) (ha : a ∈ log)
    (hle : number a ≤ initial.length) : a ∈ initial := by
  obtain ⟨rest,rfl⟩ := hp
  obtain ⟨i,hi,rfl⟩ := getElem_of_mem ha
  rw [h.number_getElem hi] at hle
  have hlt : i < initial.length := by omega
  rw [getElem_append_left hlt]
  exact getElem_mem hlt

/-- Selecting what comes after a number is dropping that many entries. -/
theorem Numbered.filter_after (k : Nat) : log.filter (fun a => decide (number a > k)) = log.drop k := by
  have hb : (log.take k).filter (fun a => decide (number a > k)) = [] := by
    rw [filter_eq_nil_iff]
    intro a ha
    obtain ⟨i,hi,rfl⟩ := getElem_of_mem ha
    rw [length_take] at hi
    rw [getElem_take, h.number_getElem (by omega)]
    simp only [gt_iff_lt, decide_eq_true_eq]
    omega
  have haf : (log.drop k).filter (fun a => decide (number a > k)) = log.drop k := by
    rw [filter_eq_self]
    intro a ha
    obtain ⟨i,hi,rfl⟩ := getElem_of_mem ha
    rw [length_drop] at hi
    rw [getElem_drop, h.number_getElem (by omega)]
    simp only [gt_iff_lt, decide_eq_true_eq]
    omega
  calc log.filter (fun a => decide (number a > k))
      = (log.take k ++ log.drop k).filter (fun a => decide (number a > k)) := by rw [take_append_drop]
    _ = log.drop k := by rw [filter_append, hb, haf, nil_append]

theorem Numbered.window_numbers (k limit : Nat) :
    ((log.drop k).take limit).map number = List.range' (k + 1) ((log.drop k).take limit).length := by
  refine ext_getElem (by simp) fun i hi hi' => ?_
  rw [length_range', length_take, length_drop] at hi'
  rw [getElem_map, getElem_take, getElem_drop, h.number_getElem (by omega), getElem_range']
  omega

end

/-- Replaying what comes after a cut, from the state at the cut. -/
theorem foldl_take_drop (f : σ → α → σ) (s : σ) (log : List α) (k : Nat) :
    (log.drop k).foldl f ((log.take k).foldl f s) = log.foldl f s := by
  rw [← foldl_append, take_append_drop]

section Related
variable {β γ : Type} {R : α → β → Prop} {l : List α} {l' : List β}

theorem forall₂_imp_of_mem {S : α → β → Prop} (h : List.Forall₂ R l l') (hRS : ∀ a, ∀ b ∈ l', R a b → S a b) :
    List.Forall₂ S l l' := by
  induction h with
  | nil => exact .nil
  | cons hr _ ih =>
    exact .cons (hRS _ _ mem_cons_self hr) (ih fun a b hb => hRS a b (mem_cons_of_mem _ hb))

end Related

end BpmpPlatform.Log
