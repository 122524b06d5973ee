import Mathlib

/-! # Fallible computations

Inversion rules for `Except`: what a successful sequence of checks, lookups and loops says about its parts.
-/
namespace BpmpPlatform.Outcome
open List
variable {ε α β : Type}

/-- `ok_or_else`. -/
def okOr (error : ε) : Option α → Except ε α
  | some a => .ok a
  | none => .error error

/-- An early return with `error` unless the condition holds. -/
def ensure (condition : Bool) (error : ε) : Except ε Unit :=
  if condition then .ok () else .error error

variable {x : Except ε α} {f : α → Except ε β} {b : β} {a : α} {e : ε} {as xs : List α} {bs : List β} {o : Option α}
  {c : Bool} {u : Unit} {R : α → β → Prop} {γ : Type}

@[simp] theorem bind_eq_ok : (x >>= f) = .ok b ↔ ∃ a, x = .ok a ∧ f a = .ok b := by
  cases x with
  | error =>
    constructor
    · intro h; cases h
    · rintro ⟨a,h,_⟩; cases h
  | ok a =>
    constructor
    · intro h; exact ⟨a,rfl,h⟩
    · rintro ⟨a',h,hf⟩; cases h; exact hf

theorem ok_bind (a : α) (f : α → Except ε β) : ((.ok a : Except ε α) >>= f) = f a := rfl

@[simp] theorem map_eq_ok {f : α → β} : (f <$> x) = .ok b ↔ ∃ a, x = .ok a ∧ f a = b := by
  cases x with
  | error =>
    constructor
    · intro h; cases h
    · rintro ⟨a,h,_⟩; cases h
  | ok a =>
    constructor
    · intro h; cases h; exact ⟨a,rfl,rfl⟩
    · rintro ⟨a',h,hf⟩; cases h; cases hf; rfl

@[simp] theorem pure_eq_ok {b : α} : (pure a : Except ε α) = .ok b ↔ a = b := by
  constructor
  · intro h; cases h; rfl
  · rintro rfl; rfl

@[simp] theorem throw_ne_ok {b : α} : (throw e : Except ε α) ≠ .ok b := by
  intro h; cases h

@[simp] theorem okOr_eq_ok : okOr e o = .ok a ↔ o = some a := by
  cases o <;> simp [okOr]

@[simp] theorem ensure_eq_ok : ensure c e = .ok u ↔ c = true := by
  cases c <;> simp [ensure]

@[simp] theorem mapError_eq_ok {ε' : Type} {f : ε → ε'} : x.mapError f = .ok a ↔ x = .ok a := by
  cases x <;> simp [Except.mapError]

def checkAll (f : α → Except ε Unit) : List α → Except ε Unit
  | [] => .ok ()
  | x :: xs => do f x; checkAll f xs

@[simp] theorem checkAll_eq_ok {f : α → Except ε Unit} : checkAll f xs = .ok u ↔ ∀ a ∈ xs, f a = .ok () := by
  induction xs with
  | nil => simp [checkAll]
  | cons x xs ih => simp [checkAll, ih, Unique.exists_iff]

/-- The results of a loop that stops at the first error: `collect::<Result<_, _>>`. -/
def collectAll (f : α → Except ε β) : List α → Except ε (List β)
  | [] => .ok []
  | a :: as => do
    let b ← f a
    let bs ← collectAll f as
    return b :: bs

theorem collectAll_eq_ok : collectAll f as = .ok bs ↔ List.Forall₂ (fun a b => f a = .ok b) as bs := by
  induction as generalizing bs with
  | nil =>
    constructor
    · intro h; cases h; exact .nil
    · intro h; cases h; rfl
  | cons a as ih =>
    simp only [collectAll, bind_eq_ok, pure_eq_ok, forall₂_cons_left_iff, ← ih]
    constructor
    · rintro ⟨b,hb,bs',hbs,rfl⟩; exact ⟨b,bs',hb,hbs,rfl⟩
    · rintro ⟨b,bs',hb,hbs,rfl⟩; exact ⟨b,hb,bs',hbs,rfl⟩

theorem exists_of_forall₂ (h : List.Forall₂ R as bs) (ha : a ∈ as) : ∃ b ∈ bs, R a b := by
  induction h with
  | nil => cases ha
  | cons hab _ ih =>
    rcases mem_cons.mp ha with rfl | ha
    · exact ⟨_,mem_cons_self,hab⟩
    · obtain ⟨b,hb,hr⟩ := ih ha
      exact ⟨b,mem_cons_of_mem _ hb,hr⟩

theorem map_eq_of_forall₂ (h : List.Forall₂ R as bs) {f : α → γ} {g : β → γ} (hfg : ∀ a b, R a b → f a = g b) :
    as.map f = bs.map g := by
  rw [← forall₂_eq_eq_eq, forall₂_map_left_iff, forall₂_map_right_iff]
  exact h.imp hfg

theorem collectAll_map_eq_ok {f : β → Except ε γ} {g : γ → β} {cs : List γ} (h : ∀ c ∈ cs, f (g c) = .ok c) :
    collectAll f (cs.map g) = .ok cs := by
  rw [collectAll_eq_ok, forall₂_map_left_iff, forall₂_same]
  exact h

theorem exists_of_collectAll (h : collectAll f as = .ok bs) (hb : b ∈ bs) : ∃ a ∈ as, f a = .ok b :=
  exists_of_forall₂ (collectAll_eq_ok.mp h).flip hb

theorem exists_collectAll (h : ∀ a ∈ as, ∃ b, f a = .ok b) : ∃ bs, collectAll f as = .ok bs := by
  induction as with
  | nil => exact ⟨[],rfl⟩
  | cons a as ih =>
    obtain ⟨b,hb⟩ := h a mem_cons_self
    obtain ⟨bs,hbs⟩ := ih fun a' ha' => h a' (mem_cons_of_mem _ ha')
    exact ⟨b :: bs,by simp [collectAll, hb, hbs]⟩

theorem collectAll_perm {as' : List α} {bs' : List β} (hp : as.Perm as')
    (h : collectAll f as = .ok bs) (h' : collectAll f as' = .ok bs') : bs.Perm bs' := by
  obtain ⟨cs,hcs,hpe⟩ := perm_comp_forall₂ hp (collectAll_eq_ok.mp h')
  rw [← collectAll_eq_ok, h] at hcs
  cases hcs
  exact hpe

theorem collectAll_map_key {key : α → γ} {key' : β → γ} (hf : ∀ a b, f a = .ok b → key' b = key a)
    (h : collectAll f as = .ok bs) : bs.map key' = as.map key :=
  map_eq_of_forall₂ (collectAll_eq_ok.mp h).flip fun b a => hf a b

/-- Every error the computation can end with satisfies the property. -/
def FailsWith (P : ε → Prop) (x : Except ε α) : Prop := ∀ e, x = .error e → P e

namespace FailsWith
variable {P : ε → Prop} {x : Except ε α}

@[grind ←] theorem ok (a : α) : FailsWith P (.ok a : Except ε α) := by
  intro e h; cases h

@[grind ←] theorem pure (a : α) : FailsWith P (Pure.pure a : Except ε α) := ok a

variable {e : ε}

@[grind ←] theorem error (h : P e) : FailsWith P (.error e : Except ε α) := by
  intro e' he; cases he; exact h

@[grind ←] theorem throw (h : P e) : FailsWith P (MonadExcept.throw e : Except ε α) := error h

@[grind ←] theorem bind {f : α → Except ε β} (hx : FailsWith P x) (hf : ∀ a, x = .ok a → FailsWith P (f a)) :
    FailsWith P (x >>= f) := by
  cases x with
  | error e => exact error (hx e rfl)
  | ok a => exact hf a rfl

theorem map {f : α → β} (hx : FailsWith P x) : FailsWith P (f <$> x) := by
  cases x with
  | error e => exact error (hx e rfl)
  | ok => exact ok _

@[grind ←] theorem ensure (h : c = false → P e) : FailsWith P (ensure c e) := by
  cases c with
  | true => exact ok ()
  | false => exact error (h rfl)

@[grind ←] theorem okOr (h : o = none → P e) : FailsWith P (okOr e o) := by
  cases o with
  | none => exact error (h rfl)
  | some a => exact ok a

theorem check {f : Unit → Except ε β} (h : P e) (hf : c = true → FailsWith P (f ())) :
    FailsWith P (Outcome.ensure c e >>= f) :=
  .bind (ensure fun _ => h) fun _ hc => hf (ensure_eq_ok.mp hc)

theorem get {f : α → Except ε β} (h : P e) (hf : ∀ a, o = some a → FailsWith P (f a)) :
    FailsWith P (Outcome.okOr e o >>= f) :=
  .bind (okOr fun _ => h) fun a ha => hf a (okOr_eq_ok.mp ha)

theorem mono {Q : ε → Prop} (h : ∀ e, P e → Q e) (hx : FailsWith P x) : FailsWith Q x :=
  fun e he => h e (hx e he)

theorem bind_iff {f : α → Except ε β} (hf : ∀ a, x = .ok a → FailsWith P (f a)) :
    FailsWith P (x >>= f) ↔ FailsWith P x := by
  refine ⟨fun h e he => h e ?_,fun h => h.bind hf⟩
  rw [he]
  rfl

theorem checkAll_iff {f : α → Except ε Unit} : FailsWith P (checkAll f xs) ↔
    ∀ before a after, xs = before ++ a :: after → (∀ b ∈ before, f b = .ok ()) → FailsWith P (f a) := by
  induction xs with
  | nil =>
    refine iff_of_true (.ok _) fun before a after h => ?_
    simp at h
  | cons x xs ih =>
    constructor
    · intro h before a after heq hb
      cases before with
      | nil =>
        cases heq
        intro e he
        exact h e (by rw [Outcome.checkAll, he]; rfl)
      | cons b before =>
        cases heq
        refine ih.mp (fun e he => h e ?_) before a after rfl fun b' hb' => hb b' (mem_cons_of_mem _ hb')
        rw [Outcome.checkAll, hb x mem_cons_self]
        exact he
    · intro h
      refine .bind (h [] x xs rfl nofun) fun _ hx => ih.mpr fun before a after heq hb => ?_
      exact h (x :: before) a after (by rw [heq]; rfl) (forall_mem_cons.mpr ⟨hx,hb⟩)

@[grind ←] theorem checkAll {f : α → Except ε Unit} (h : ∀ a ∈ xs, FailsWith P (f a)) : FailsWith P (checkAll f xs) :=
  checkAll_iff.mpr fun before a after heq _ => h a (by simp [heq])

end FailsWith

/-- The serialization of a message type, with the one law the codecs rely on. -/
structure MessageFormat (Message : Type) where
  Bytes : Type
  encode : Message → Bytes
  decode : Bytes → Except String Message
  decode_encode : ∀ message, decode (encode message) = .ok message

def MessageFormat.plain (Message : Type) : MessageFormat Message :=
  ⟨Message, id, .ok, fun _ => rfl⟩

end BpmpPlatform.Outcome
