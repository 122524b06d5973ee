import BpmpPlatform.Keys.Calls

/-! # The fence of a revocation

Every key that a call returns has passed the check of the revocations in the section that returned it.
-/
namespace BpmpPlatform.Keys
open Std List

variable {B : Type} {capacity ttl : Nat} {system : KeySystem B}

section Exact

structure SystemHeld (capacity : Nat) (system : KeySystem B) : Prop where
  cache : CacheHeld capacity system.cache
  ends : ∀ call ∈ system.calls, call.phase ≠ .spinning

theorem SystemHeld.step (h : SystemHeld capacity system) (step : KeyStep B) :
    SystemHeld capacity (system.step capacity ttl step) := by
  cases step with
  | wait => exact ⟨h.cache,h.ends⟩
  | call =>
    exact ⟨h.cache,forall_mem_append.mpr ⟨h.ends,forall_mem_singleton.mpr nofun⟩⟩
  | revoke scope epoch => exact ⟨h.cache.revokeThrough scope epoch,h.ends⟩
  | advance index answer =>
    rw [KeySystem.step]
    cases hc : system.calls[index]? with
    | none => exact h
    | some call =>
      obtain ⟨hca,he,_⟩ := (next_moves ttl system.clock h.cache call answer
        (h.ends call (mem_of_getElem? hc))).held h.cache
      refine ⟨hca,fun other hin => ?_⟩
      rcases mem_or_eq_of_mem_set hin with hin | rfl
      · exact h.ends other hin
      · exact he

theorem SystemHeld.steps (h : SystemHeld capacity system) (steps : List (KeyStep B)) :
    SystemHeld capacity (system.steps capacity ttl steps) := by
  induction steps generalizing system with
  | nil => exact h
  | cons step steps ih => exact ih (h.step step)

theorem SystemHeld.start : SystemHeld capacity (.start : KeySystem B) :=
  ⟨.new,fun _ hin => (not_mem_nil hin).elim⟩

end Exact

section Fence
variable {scope : KeyScope} {epoch first : Nat} {cache : CacheState B}

def FencedThrough (scope : KeyScope) (epoch : Nat) (revokedThrough : ExtTreeMap KeyScope Nat) : Prop :=
  ∃ barrier, revokedThrough[scope]? = some barrier ∧ epoch ≤ barrier

theorem fencedThrough_revoke (cache : CacheState B) (scope : KeyScope) (epoch : Nat) :
    FencedThrough scope epoch (cache.revokeThrough scope epoch).revokedThrough := by
  refine ⟨(cache.revokedThrough[scope]?.getD epoch).max epoch,?_,Nat.le_max_right _ _⟩
  rw [CacheState.revokeThrough, getElem?_insert_eq, if_pos rfl]

theorem FencedThrough.revoke (h : FencedThrough scope epoch cache.revokedThrough) (other : KeyScope) (through : Nat) :
    FencedThrough scope epoch (cache.revokeThrough other through).revokedThrough := by
  obtain ⟨barrier,hba,hle⟩ := h
  unfold FencedThrough CacheState.revokeThrough
  rw [getElem?_insert_eq]
  by_cases hs : other = scope
  · rw [if_pos hs, hs, hba]
    exact ⟨_,rfl,Nat.le_trans hle (Nat.le_max_left _ _)⟩
  · rw [if_neg hs]
    exact ⟨barrier,hba,hle⟩

theorem FencedThrough.lt_epoch (h : FencedThrough scope epoch cache.revokedThrough) {key : CacheKey}
    (hkey : cache.isRevoked key = false) (hs : key.scope = scope) : epoch < key.epoch := by
  obtain ⟨barrier,hba,hle⟩ := h
  unfold CacheState.isRevoked at hkey
  rw [hs, hba] at hkey
  have hbe : ¬key.epoch ≤ barrier := by simpa using hkey
  omega

/-- The scope is fenced, and the calls from an index on return no key of it at or below the epoch. -/
structure Fenced (scope : KeyScope) (epoch first : Nat) (system : KeySystem B) : Prop where
  barrier : FencedThrough scope epoch system.cache.revokedThrough
  returns : ∀ index call resolved, first ≤ index → system.calls[index]? = some call →
    call.phase = .returned (.ok resolved) → resolved.keyScope = scope → epoch < resolved.keyEpoch

theorem Fenced.step (hh : SystemHeld capacity system) (h : Fenced scope epoch first system) (step : KeyStep B) :
    Fenced scope epoch first (system.step capacity ttl step) := by
  cases step with
  | wait => exact ⟨h.barrier,h.returns⟩
  | call =>
    refine ⟨h.barrier,fun index call resolved hf hc hph => ?_⟩
    rw [KeySystem.step] at hc
    by_cases hold : index < system.calls.length
    · rw [List.getElem?_append_left hold] at hc
      exact h.returns index call resolved hf hc hph
    · rw [List.getElem?_append_right (by omega)] at hc
      rw [mem_singleton.mp (mem_of_getElem? hc)] at hph
      cases hph
  | revoke other through => exact ⟨h.barrier.revoke other through,h.returns⟩
  | advance index answer =>
    rw [KeySystem.step]
    cases hc : system.calls[index]? with
    | none => exact h
    | some call =>
      have hm := next_moves ttl system.clock hh.cache call answer (hh.ends call (mem_of_getElem? hc))
      obtain ⟨_,_,hr⟩ := hm.held hh.cache
      refine ⟨?_,fun other found resolved hf hfo hph hs => ?_⟩
      · show FencedThrough scope epoch (call.next capacity ttl system.clock answer system.cache).2.revokedThrough
        rw [hr]
        exact h.barrier
      · have hset : (system.calls.set index
            { call with phase := (call.next capacity ttl system.clock answer system.cache).1 })[other]? = some found := hfo
        rw [List.getElem?_set] at hset
        split at hset
        · rename_i hsa
          split at hset
          · cases hset
            rcases hm.returned hph with hb | @⟨_,_,hcl,_,_⟩ | @⟨_,_,_,_,hcl⟩
            · exact h.returns other call resolved hf (hsa ▸ hc) hb hs
            · exact h.barrier.lt_epoch hcl hs
            · exact h.barrier.lt_epoch hcl hs
          · cases hset
        · exact h.returns other found resolved hf hset hph hs

theorem Fenced.steps (hh : SystemHeld capacity system) (h : Fenced scope epoch first system)
    (steps : List (KeyStep B)) : Fenced scope epoch first (system.steps capacity ttl steps) := by
  induction steps generalizing system with
  | nil => exact h
  | cons step steps ih => exact ih (hh.step step) (h.step hh step)

end Fence

/-- In every reachable state the cache is exact and bounded and every insertion ends; and a call that begins after a
revocation returns no key that it revoked. -/
theorem revocation_fence (capacity ttl : Nat) :
    (∀ steps : List (KeyStep B), CacheHeld capacity (KeySystem.start.steps capacity ttl steps).cache ∧
      ∀ now wrapped bytes,
        ((KeySystem.start.steps capacity ttl steps).cache.insert capacity ttl now wrapped bytes).isSome = true) ∧
    ∀ (before after : List (KeyStep B)) (scope : KeyScope) (epoch : Nat),
      let fenced := (KeySystem.start.steps capacity ttl before).step capacity ttl (.revoke scope epoch)
      ∀ index call resolved, fenced.calls.length ≤ index →
        (fenced.steps capacity ttl after).calls[index]? = some call → call.phase = .returned (.ok resolved) →
        resolved.keyScope = scope → epoch < resolved.keyEpoch := by
  have hh : ∀ steps : List (KeyStep B), SystemHeld capacity (KeySystem.start.steps capacity ttl steps) :=
    fun steps => SystemHeld.start.steps steps
  constructor
  · refine fun steps => ⟨(hh steps).cache,fun now wrapped bytes => ?_⟩
    rcases (hh steps).cache.insert ttl now wrapped bytes with ⟨_,hi⟩ | ⟨_,_,hi,_⟩
    · rw [hi]
      rfl
    · rw [hi]
      rfl
  · intro before after scope epoch fenced index call resolved hl
    have hfe : Fenced scope epoch fenced.calls.length fenced := by
      refine ⟨fencedThrough_revoke _ _ _,fun other found _ ho hf => ?_⟩
      rw [List.getElem?_eq_none ho] at hf
      cases hf
    exact (hfe.steps ((hh before).step _) after).returns index call resolved hl

end BpmpPlatform.Keys
