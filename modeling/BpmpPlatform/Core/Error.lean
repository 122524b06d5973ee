import BpmpPlatform.Core.Identifier

/-! # Errors of the workflow domain

The constructors are those of `DomainError`. The one addition is `panicked`, the outcome of an
`expect` of the source that does not hold.
-/
namespace BpmpPlatform

inductive DomainError
  | duplicateCaseModel
  | unknownCaseModel (id : CaseModelId)
  | duplicateCaseSentry (model : CaseModelId)
  | unknownCaseSentry (model : CaseModelId) (sentry : SentryId)
  | duplicateCasePlanItem (id : PlanItemId)
  | unknownCasePlanItem (id : PlanItemId)
  | caseAlreadyActivated (id : CaseId)
  | caseNotActive (id : CaseId)
  | caseAlreadyCompleted (id : CaseId)
  | noCaseSentrySatisfied (id : CaseId)
  | duplicateNode (id : NodeId)
  | invalidStartNode (id : NodeId)
  | missingTransitionTarget (sourceNode target : NodeId)
  | transitionToStartNode (id : NodeId)
  | unreachableNode (id : NodeId)
  | unknownBoundaryOwner (id : NodeId)
  | duplicateBoundaryEvent (id : NodeId)
  | unknownNodeMetadataOwner (id : NodeId)
  | invalidScopeOwner (id : NodeId)
  | recursiveScopeOwnership (id : NodeId)
  | scopeBoundaryOwnershipMismatch (scope child : NodeId)
  | duplicateNodeMetadata (id : NodeId)
  | invalidMultiInstance (node : NodeId) (detail : String)
  | invalidExtensionProperty
  | duplicateExtensionProperty
  | unknownNode (id : NodeId)
  | alreadyStarted
  | notStarted
  | alreadyCompleted
  | terminatedForCompliance
  | tenantMismatch (expected actual : TenantId)
  | nodeIsNotServiceTask (id : NodeId)
  | nodeIsNotUserTask (id : NodeId)
  | invalidUserTaskDecision (id : NodeId)
  | nodeIsNotScriptTask (id : NodeId)
  | nodeIsNotMultiInstanceActivity (id : NodeId)
  | taskNotActive (id : NodeId)
  | multiInstanceAlreadyActive (id : NodeId)
  | multiInstanceNotActive (id : NodeId)
  | multiInstanceIterationNotActive (node : NodeId) (iteration : Nat)
  | multiInstanceActivationLimit (id : NodeId)
  | multiInstanceInputMissing (node : NodeId) (expression : String)
  | multiInstanceCollectionTypeMismatch (node : NodeId) (actual : String)
  | invalidMultiInstanceCardinality (node : NodeId) (expression : String)
  | multiInstanceCardinalityMismatch (node : NodeId) (collectionCount cardinality : Nat)
  | multiInstanceCardinalityExceeded (node : NodeId) (actual configuredLimit : Nat)
  | unknownBoundaryEvent (id : NodeId)
  | boundaryEventNotArmed (id : NodeId)
  | boundaryEventAlreadyArmed (id : NodeId)
  | boundarySubscriptionDefinitionMismatch (id : NodeId)
  | boundaryOwnerNotActive (id : NodeId)
  | interruptingScopeBoundaryUnsupported (id : NodeId)
  | scopeAlreadyActive (id : NodeId)
  | scopeNotActive (id : NodeId)
  | ambiguousActiveScope (id : NodeId)
  | scopeContextMissing (id : NodeId)
  | scopeInvocationOverflow (id : NodeId)
  | invalidScopeInstanceIdentity (id : NodeId)
  | scopeInstanceNotActive (id : ScopeInstanceId)
  | scopeInstanceOwnerMismatch (scopeInstanceId : ScopeInstanceId) (expected actual : NodeId)
  | ambiguousGateway (id : NodeId)
  | noGatewayBranch (id : NodeId)
  | conflictingGuardRepresentations
  | missingDecisionTable (id : String)
  | duplicateDecisionTable
  | invalidDecisionTable (tableId detail : String)
  | ambiguousDecisionTable (id : String)
  | noDecisionRuleMatched (id : String)
  | decisionInputMissing (tableId input : String)
  | decisionInputTypeMismatch (tableId input actual expected : String)
  | automaticTransitionLimitExceeded (id : NodeId)
  | gatewayRequiresBranches (id : NodeId)
  | gatewayRequiresDefaultOrCoverage (id : NodeId)
  | gatewayCoverageWithDefault (id : NodeId)
  | gatewayRequiresOneDefault (gateway : NodeId) (actual : Nat)
  | invalidGatewayCoverage (gateway : NodeId) (detail : String)
  | duplicateGatewayTarget (gateway target : NodeId)
  | invalidGatewayPair (gateway paired : NodeId)
  | joinAlreadyPending (id : NodeId)
  | unexpectedGatewayJoin (id : NodeId)
  | tokenCountOverflow (id : NodeId)
  | guardVariableMissing (variableName : String)
  | guardTypeMismatch (variableName actual expected : String)
  | decisionLimitExceeded (produced configuredLimit : Nat)
  | panicked (message : String)
  deriving DecidableEq

def u32Max : Nat := 2 ^ 32 - 1

def u64Max : Nat := 2 ^ 64 - 1

/-- `checked_add(1)` on a counter whose type ends at `limit`. -/
def checkedSucc (limit : Nat) (error : DomainError) (count : Nat) : Except DomainError Nat :=
  if count < limit then .ok (count + 1) else .error error

theorem checkedSucc_eq_ok {limit count next : Nat} {error : DomainError} :
    checkedSucc limit error count = .ok next ↔ count < limit ∧ next = count + 1 := by
  unfold checkedSucc
  split <;> grind

end BpmpPlatform
