import BpmpPlatform.Library.Maps

/-! # A map beside the list of its keys

A cache keeps its keys in the order in which they came. What keeps the list exact, and what follows for its length.
-/
namespace BpmpPlatform
open Std

variable {K V : Type} [Ord K] [TransOrd K] {keys : List K} {m m' : ExtTreeMap K V}

namespace WrittenOnce

theorem congr (h : WrittenOnce keys m) (hm : ∀ a : K, m'[a]?.isSome = m[a]?.isSome) : WrittenOnce keys m' := by
  refine ⟨h.nodup,fun a => ?_⟩
  rw [hm]
  exact h.present a

theorem restrict (h : WrittenOnce keys m) {p : K → Bool} (hm : ∀ a : K, m'[a]?.isSome = (p a && m[a]?.isSome)) :
    WrittenOnce (keys.filter p) m' := by
  refine ⟨h.nodup.filter p,fun a => ?_⟩
  rw [hm, Bool.and_eq_true, List.mem_filter, h.present a]
  exact and_comm

variable [LawfulEqOrd K]

theorem length_eq_size (h : WrittenOnce keys m) : keys.length = m.size := by
  have hp : keys.Perm m.keys := by
    rw [List.perm_ext_iff_of_nodup h.nodup ExtTreeMap.nodup_keys]
    intro a
    rw [← h.present a, ExtTreeMap.mem_keys]
    exact ExtTreeMap.mem_iff_isSome_getElem?.symm
  rw [hp.length_eq, ExtTreeMap.length_keys]

theorem filter (h : WrittenOnce keys m) (p : K → Bool) :
    WrittenOnce (keys.filter p) (m.filter fun key _ => p key) := by
  refine h.restrict fun a => ?_
  rw [ExtTreeMap.getElem?_filter']
  cases m[a]? with
  | none => simp
  | some => cases hp : p a <;> simp [Option.filter]

variable [DecidableEq K]

theorem erase (h : WrittenOnce keys m) (k : K) : WrittenOnce (keys.filter fun key => key != k) (m.erase k) := by
  refine h.restrict fun a => ?_
  rw [getElem?_erase_eq]
  by_cases hk : a = k
  · simp [hk]
  · simp [hk, Ne.symm hk]

theorem tail {k : K} (h : WrittenOnce (k :: keys) m) : WrittenOnce keys (m.erase k) := by
  have hnew : k ∉ keys := (List.nodup_cons.mp h.nodup).1
  have hk : (k :: keys).filter (fun key => key != k) = keys := by
    rw [List.filter_cons_of_neg (by simp), List.filter_eq_self]
    intro a ha
    simpa using fun heq : a = k => hnew (heq ▸ ha)
  have her := h.erase k
  rw [hk] at her
  exact her

end WrittenOnce

end BpmpPlatform
