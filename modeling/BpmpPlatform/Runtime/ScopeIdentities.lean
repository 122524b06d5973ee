import BpmpPlatform.Runtime.Steps
import BpmpPlatform.Library.Joined

/-! # Scope identities

The identity of a scope instance is rendered as text, `parent/scope#invocation`, and two instances can share one text.
-/
namespace BpmpPlatform
open Std Outcome List

/-- No sub-process id ends in `/` followed by the id of another sub-process. -/
def UnambiguousScopes (d : WorkflowDefinition) : Prop :=
  ∀ a ∈ d.nodes.toList, ∀ b ∈ d.nodes.toList, a.2.isSubProcess = true → b.2.isSubProcess = true →
    a.1 ≠ b.1 → ¬('/' :: a.1.value.toList) <:+ b.1.value.toList

instance (d : WorkflowDefinition) : Decidable (UnambiguousScopes d) := by
  unfold UnambiguousScopes
  infer_instance

def identityPath : Option ScopeInstanceId → List Char
  | none => []
  | some parent => parent.value.toList ++ ['/']

theorem scopeIdentity_toList (parent : Option ScopeInstanceId) (scopeNodeId : NodeId) (invocation : Nat) :
    (scopeIdentity parent scopeNodeId invocation).toList =
      (identityPath parent ++ scopeNodeId.value.toList) ++ '#' :: (toString invocation).toList := by
  cases parent with
  | none | some => simp [scopeIdentity, identityPath]

variable {p q : Option ScopeInstanceId}

/-- Two paths with an id at their ends agree only if the ids do, or one id continues after a slash
with the other. -/
theorem identityPath_append {a b : List Char} (h : identityPath p ++ a = identityPath q ++ b) :
    a = b ∨ ('/' :: a) <:+ b ∨ ('/' :: b) <:+ a := by
  have hsl {l x y : List Char} (hl : '/' :: y = l ++ '/' :: x) : x = y ∨ ('/' :: x) <:+ y := by
    cases l with
    | nil => exact .inl (by simpa using hl.symm)
    | cons c l =>
      simp only [cons_append, List.cons.injEq] at hl
      exact .inr ⟨l,hl.2.symm⟩
  cases p with
  | none =>
    cases q with
    | none => exact .inl h
    | some =>
      simp only [identityPath, nil_append, append_assoc, singleton_append] at h
      exact .inr (.inr ⟨_,h.symm⟩)
  | some =>
    cases q with
    | none =>
      simp only [identityPath, nil_append, append_assoc, singleton_append] at h
      exact .inr (.inl ⟨_,h⟩)
    | some =>
      simp only [identityPath, append_assoc, singleton_append] at h
      rcases append_eq_append_iff.mp h with ⟨l,_,hl⟩ | ⟨l,_,hl⟩
      · rcases hsl hl with rfl | hs
        · exact .inl rfl
        · exact .inr (.inr hs)
      · rcases hsl hl with rfl | hs
        · exact .inl rfl
        · exact .inr (.inl hs)

theorem UnambiguousScopes.scopeIdentity_inj {d : WorkflowDefinition} (hu : UnambiguousScopes d) {a b : NodeId}
    {na nb : Node} (ha : d.nodes[a]? = some na) (hb : d.nodes[b]? = some nb) (hna : na.isSubProcess = true)
    (hnb : nb.isSubProcess = true) {i j : Nat} (h : scopeIdentity p a i = scopeIdentity q b j) : a = b := by
  have hma := ExtTreeMap.mem_toList_iff_getElem?_eq_some.mpr ha
  have hmb := ExtTreeMap.mem_toList_iff_getElem?_eq_some.mpr hb
  have hl := congrArg String.toList h
  rw [scopeIdentity_toList, scopeIdentity_toList] at hl
  obtain ⟨hp,_⟩ := Joined.numbered_inj '#' (by decide) hl
  by_contra hne
  rcases identityPath_append hp with heq | hs | hs
  · exact hne (Identifier.ext_value (String.toList_inj.mp heq))
  · exact hu _ hma _ hmb hna hnb hne hs
  · exact hu _ hmb _ hma hnb hna (Ne.symm hne) hs

end BpmpPlatform
