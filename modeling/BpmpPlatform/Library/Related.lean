import BpmpPlatform.Library.Outcome

/-! # Related results

Two computations that fail with the same error, or succeed with related values.
-/
namespace BpmpPlatform.Outcome

inductive Related {ε α β : Type} (R : α → β → Prop) : Except ε α → Except ε β → Prop
  | ok {a : α} {b : β} (h : R a b) : Related R (.ok a) (.ok b)
  | error (e : ε) : Related R (.error e) (.error e)

namespace Related
variable {ε α β γ δ : Type} {R : α → β → Prop} {Q : γ → δ → Prop} {x : Except ε α} {y : Except ε β}
  {f : α → Except ε γ}

theorem bind {g : β → Except ε δ} (h : Related R x y) (hr : ∀ a b, R a b → Related Q (f a) (g b)) :
    Related Q (x >>= f) (y >>= g) := by
  cases h with
  | ok hab => exact hr _ _ hab
  | error e => exact .error e

theorem bind_same {x : Except ε α} {g : α → Except ε δ} (h : ∀ a, x = .ok a → Related Q (f a) (g a)) :
    Related Q (x >>= f) (x >>= g) := by
  cases x with
  | ok a => exact h a rfl
  | error e => exact .error e

theorem exists_of_ok (h : Related R x y) {a : α} (hx : x = .ok a) : ∃ b, y = .ok b ∧ R a b := by
  subst hx
  cases h with
  | ok hab => exact ⟨_,rfl,hab⟩

theorem error_of_error (h : Related R x y) {e : ε} (hx : x = .error e) : y = .error e := by
  subst hx
  cases h
  rfl

theorem collectAll {ι : Type} {f : ι → Except ε α} {g : ι → Except ε β} {is : List ι}
    (h : ∀ i ∈ is, Related R (f i) (g i)) : Related (List.Forall₂ R) (Outcome.collectAll f is) (Outcome.collectAll g is) := by
  induction is with
  | nil => exact .ok .nil
  | cons i is ih =>
    rw [List.forall_mem_cons] at h
    refine h.1.bind fun a b hab => (ih h.2).bind fun as bs hs => ?_
    exact .ok (.cons hab hs)

end Related

end BpmpPlatform.Outcome
