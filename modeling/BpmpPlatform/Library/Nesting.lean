import Mathlib

/-! # Nested contexts

Places stand inside frames, and every frame is held open by a place that stands one level further out.
-/
namespace BpmpPlatform

/-- The frames around each place, innermost first. The frames outside a frame are those of its holder. -/
structure Nest (P F : Type) where
  ctx : P → List F
  holder : F → P
  tail_eq : ∀ p f rest, ctx p = f :: rest → rest = ctx (holder f)

namespace Nest
variable {P F : Type} (N : Nest P F) {occupied : P → Prop}

def Coherent (c : List F) : Prop := ∀ f rest, c = f :: rest → rest = N.ctx (N.holder f)

theorem coherent_ctx (p : P) : N.Coherent (N.ctx p) := N.tail_eq p

variable {N} {c : List F}

/-- A frame that is not innermost is the innermost one of an occupied holder. -/
theorem Coherent.exists_holder_of_mem_tail (hc : N.Coherent c)
    (hout : ∀ p f, occupied p → (N.ctx p).head? = some f → occupied (N.holder f))
    (hin : ∀ f, c.head? = some f → occupied (N.holder f)) {g : F} (hg : g ∈ c.tail) :
    ∃ p, occupied p ∧ (N.ctx p).head? = some g := by
  induction c with
  | nil => cases hg
  | cons f rest ih =>
    have hf := hin f rfl
    have hr := hc f rest rfl
    cases rest with
    | nil => cases hg
    | cons =>
      rcases List.mem_cons.mp hg with rfl | hg
      · exact ⟨N.holder f,hf,by rw [← hr]; rfl⟩
      · refine ih ?_ ?_ hg
        · rw [hr]; exact N.coherent_ctx _
        · intro g' hg'
          rw [hr] at hg'
          exact hout _ g' hf hg'

end Nest

end BpmpPlatform
