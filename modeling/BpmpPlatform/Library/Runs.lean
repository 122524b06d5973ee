/-! # Runs of a step function

What holds along a run whose steps are safe, and the rule for exact conditions over runs.
-/
namespace BpmpPlatform.Runs

variable {σ α : Type} {step : σ → α → σ} {Held Good : σ → Prop} {Safe : σ → α → Prop} {s : σ} {calls : List α}

/-- Every step of the run is safe in the state it meets. -/
def Along (step : σ → α → σ) (Safe : σ → α → Prop) : σ → List α → Prop
  | _, [] => True
  | s, call :: calls => Safe s call ∧ Along step Safe (step s call) calls

theorem Along.held (h : Along step Safe s calls) (hk : ∀ s a, Held s → Safe s a → Held (step s a)) (hs : Held s) :
    Held (calls.foldl step s) := by
  induction calls generalizing s with
  | nil => exact hs
  | cons call calls ih => exact ih h.2 (hk s call hs h.1)

theorem Along.imp {Safe' : σ → α → Prop} (h : Along step Safe s calls) (hi : ∀ s a, Safe s a → Safe' s a) :
    Along step Safe' s calls := by
  induction calls generalizing s with
  | nil => trivial
  | cons call calls ih => exact ⟨hi s call h.1,ih h.2⟩

theorem along_iff :
    Along step Safe s calls ↔ ∀ done a rest, calls = done ++ a :: rest → Safe (done.foldl step s) a := by
  induction calls generalizing s with
  | nil => simp [Along]
  | cons call calls ih =>
    rw [Along, ih]
    constructor
    · rintro ⟨hf,hr⟩ done a rest heq
      cases done with
      | nil =>
        obtain ⟨rfl,rfl⟩ := List.cons.inj heq
        exact hf
      | cons b done =>
        obtain ⟨rfl,htl⟩ := List.cons.inj heq
        exact hr done a rest htl
    · intro hsa
      exact ⟨hsa [] call calls rfl,fun done a rest heq => hsa (call :: done) a rest (by rw [heq]; rfl)⟩

/-- Every state along a run is good exactly when every step of the run is safe. -/
theorem good_iff_safe (hg : ∀ s, Held s → Good s) (hk : ∀ s a, Held s → Safe s a → Held (step s a))
    (hl : ∀ s a, Held s → Good (step s a) → Safe s a) (hs : Held s) (calls : List α) :
    (∀ done rest, calls = done ++ rest → Good (done.foldl step s)) ↔
      ∀ done a rest, calls = done ++ a :: rest → Safe (done.foldl step s) a := by
  rw [← along_iff]
  induction calls generalizing s with
  | nil =>
    refine ⟨fun _ => trivial,fun _ done rest heq => ?_⟩
    obtain ⟨rfl,-⟩ := List.append_eq_nil_iff.mp heq.symm
    exact hg s hs
  | cons call calls ih =>
    constructor
    · intro hall
      have hf : Safe s call := hl s call hs (hall [call] calls rfl)
      refine ⟨hf,(ih (hk s call hs hf)).mp fun done rest heq => ?_⟩
      exact hall (call :: done) rest (by rw [heq]; rfl)
    · rintro ⟨hf,hr⟩ done rest heq
      cases done with
      | nil => exact hg s hs
      | cons b done =>
        obtain ⟨rfl,htl⟩ := List.cons.inj heq
        exact (ih (hk s call hs hf)).mpr hr done rest htl

/-- How many of the newest outcomes, which come first, were failures one after another. -/
def streak (failed : List Bool) : Nat := (failed.takeWhile id).length

end BpmpPlatform.Runs
