import BpmpPlatform.Core.Text

/-! # Validated identifiers

One definition stands for every type the `identifier!` macro generates. The kind keeps the
types apart, and a blank identifier cannot be built.
-/
namespace BpmpPlatform

inductive IdentifierKind
  | ActorId
  | CaseId
  | CaseModelId
  | CommandId
  | ConfigVersion
  | CorrelationId
  | IdempotencyKey
  | InstanceId
  | KeyScope
  | NodeId
  | PlanItemId
  | PolicyVersion
  | ScopeInstanceId
  | SentryId
  | TaskType
  | TenantId
  | WorkflowType
  | WorkflowVersion
  deriving DecidableEq

structure Identifier (kind : IdentifierKind) where
  value : String
  nonBlank : Text.isBlank value = false
  deriving DecidableEq

abbrev ActorId := Identifier .ActorId
abbrev CaseId := Identifier .CaseId
abbrev CaseModelId := Identifier .CaseModelId
abbrev CommandId := Identifier .CommandId
abbrev ConfigVersion := Identifier .ConfigVersion
abbrev CorrelationId := Identifier .CorrelationId
abbrev IdempotencyKey := Identifier .IdempotencyKey
abbrev InstanceId := Identifier .InstanceId
abbrev KeyScope := Identifier .KeyScope
abbrev NodeId := Identifier .NodeId
abbrev PlanItemId := Identifier .PlanItemId
abbrev PolicyVersion := Identifier .PolicyVersion
abbrev ScopeInstanceId := Identifier .ScopeInstanceId
abbrev SentryId := Identifier .SentryId
abbrev TaskType := Identifier .TaskType
abbrev TenantId := Identifier .TenantId
abbrev WorkflowType := Identifier .WorkflowType
abbrev WorkflowVersion := Identifier .WorkflowVersion

/-- The error of `Identifier::new`, displayed as `kind must not be empty`. -/
structure IdentifierError where
  kind : IdentifierKind
  deriving DecidableEq

namespace Identifier
variable {kind : IdentifierKind} {a : Identifier kind}

def new (kind : IdentifierKind) (value : String) : Except IdentifierError (Identifier kind) :=
  if h : Text.isBlank value = false then .ok ⟨value, h⟩ else .error ⟨kind⟩

def lit (value : String) (h : Text.isBlank value = false := by exact @rfl Bool false) : Identifier kind := ⟨value, h⟩

@[ext] theorem ext_value {b : Identifier kind} (h : a.value = b.value) : a = b := by
  cases a; cases b; cases h; rfl

theorem new_value (a : Identifier kind) : new kind a.value = .ok a := by
  simp [new, a.nonBlank]

theorem new_eq_ok {value : String} : new kind value = .ok a ↔ a.value = value := by
  constructor
  · intro h
    unfold new at h
    split at h
    · cases h; rfl
    · cases h
  · rintro rfl; exact new_value a

instance : Ord (Identifier kind) := ⟨fun a b => compare a.value b.value⟩

theorem compare_eq (a b : Identifier kind) : compare a b = compare a.value b.value := rfl

instance : Std.TransOrd (Identifier kind) where
  eq_swap {a b} := by
    simp only [compare_eq]
    exact Std.OrientedCmp.eq_swap
  isLE_trans {a b c} := by
    simp only [compare_eq]
    exact Std.TransCmp.isLE_trans

instance : Std.LawfulEqOrd (Identifier kind) where
  eq_of_compare {a b} h := ext_value (Std.LawfulEqOrd.eq_of_compare (a := a.value) h)
  compare_self {a} := by
    simp only [compare_eq]
    exact Std.ReflCmp.compare_self

end Identifier

end BpmpPlatform
