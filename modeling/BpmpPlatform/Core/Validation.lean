import BpmpPlatform.Core.Coverage
import BpmpPlatform.Library.Maps
import BpmpPlatform.Library.Search

/-! # Construction of workflow definitions

`WorkflowDefinition::new_with_execution_contracts` and the validators it calls.
-/
namespace BpmpPlatform
open Std Outcome

def CaseDefinition.planItems (model : CaseDefinition) : List (PlanItemId × List SentryId) :=
  model.stages.map (fun stage => (stage.id, stage.entrySentryIds ++ stage.exitSentryIds)) ++
    model.milestones.map fun milestone => (milestone.id, milestone.entrySentryIds)

def validatePlanItems (model : CaseDefinition) :
    List PlanItemId → List (PlanItemId × List SentryId) → Except DomainError Unit
  | _, [] => .ok ()
  | seen, (id, sentryIds) :: rest => do
    ensure (!seen.contains id) (.duplicateCasePlanItem id)
    checkAll (fun sentryId => ensure ((model.sentries.map CaseSentryDefinition.id).contains sentryId)
      (.unknownCaseSentry model.id sentryId)) sentryIds
    validatePlanItems model (id :: seen) rest

def validateCaseDefinition (model : CaseDefinition) : Except DomainError Unit := do
  ensure (decide (model.sentries.map CaseSentryDefinition.id).Nodup) (.duplicateCaseSentry model.id)
  validatePlanItems model [] model.planItems

def ExtensionProperty.key (property : ExtensionProperty) : String × String × String :=
  (property.namespaceUri, property.elementName, property.name)

def validatePropertiesFrom :
    List (String × String × String) → List ExtensionProperty → Except DomainError Unit
  | _, [] => .ok ()
  | seen, property :: rest => do
    ensure (!(Text.isBlank property.namespaceUri || Text.isBlank property.elementName ||
      Text.isBlank property.name)) .invalidExtensionProperty
    ensure (!seen.contains property.key) .duplicateExtensionProperty
    validatePropertiesFrom (property.key :: seen) rest

def validateExtensionProperties (properties : List ExtensionProperty) : Except DomainError Unit :=
  validatePropertiesFrom [] properties

def validateNodeMetadata (owner : NodeId) (metadata : NodeExecutionMetadata) :
    Except DomainError Unit := do
  validateExtensionProperties metadata.properties
  match metadata.multiInstance with
  | none => return ()
  | some spec =>
    ensure (spec.collectionExpression.isSome || spec.cardinalityExpression.isSome)
      (.invalidMultiInstance owner "collection or cardinality expression is required")
    ensure (!(spec.collectionExpression.isSome && spec.itemVariable.isNone))
      (.invalidMultiInstance owner "collection iteration requires an item variable")
    ensure (spec.maxParallelism != some 0)
      (.invalidMultiInstance owner "max parallelism must be greater than zero")

def Node.isSubProcess : Node → Bool
  | .subProcess .. => true
  | _ => false

def Node.isStart : Node → Bool
  | .start .. => true
  | _ => false

def Node.isActivity : Node → Bool
  | .serviceTask .. | .userTask .. | .scriptTask .. | .callActivity .. => true
  | _ => false

def metadataOwner (metadata : ExtTreeMap NodeId NodeExecutionMetadata) (nodeId : NodeId) :
    Option NodeId :=
  metadata[nodeId]?.bind NodeExecutionMetadata.ownerScopeId

def validateScopeOwnership (nodes : ExtTreeMap NodeId Node)
    (metadata : ExtTreeMap NodeId NodeExecutionMetadata) : Except DomainError Unit := do
  checkAll (fun (entry : NodeId × NodeExecutionMetadata) => do
    match entry.2.ownerScopeId with
    | none => return ()
    | some owner =>
      ensure (nodes[owner]?.any Node.isSubProcess) (.invalidScopeOwner owner)
      ensure (owner != entry.1) (.recursiveScopeOwnership entry.1)) metadata.toList
  checkAll (fun (entry : NodeId × Node) =>
    match entry.2 with
    | .subProcess start finish _ =>
      checkAll (fun child => ensure (metadataOwner metadata child == some entry.1)
        (.scopeBoundaryOwnershipMismatch entry.1 child)) [start, finish]
    | _ => .ok ()) nodes.toList

def reciprocalPair (pairedNode : Option Node) (predicate : Node → Bool) (gateway paired : NodeId) :
    Except DomainError Unit :=
  ensure (pairedNode.any predicate) (.invalidGatewayPair gateway paired)

def validateGatewayNode (us : UnstableSort) (nodeId : NodeId) (node : Node)
    (indexed : ExtTreeMap NodeId Node) : Except DomainError Unit :=
  match node with
  | .exclusiveGateway transitions coverage => validateGateway us nodeId transitions coverage
  | .parallelSplit targets join => do
    validateParallelSplit nodeId targets
    reciprocalPair indexed[join]? (fun paired => match paired with
      | .parallelJoin split _ => split == nodeId
      | _ => false) nodeId join
  | .parallelJoin split _ =>
    reciprocalPair indexed[split]? (fun paired => match paired with
      | .parallelSplit _ join => join == nodeId
      | _ => false) nodeId split
  | .inclusiveSplit transitions coverage join => do
    validateInclusiveGateway nodeId transitions coverage
    reciprocalPair indexed[join]? (fun paired => match paired with
      | .inclusiveJoin split _ => split == nodeId
      | _ => false) nodeId join
  | .inclusiveJoin split _ =>
    reciprocalPair indexed[split]? (fun paired => match paired with
      | .inclusiveSplit _ _ join => join == nodeId
      | _ => false) nodeId split
  | .start .. | .serviceTask .. | .userTask .. | .scriptTask .. | .decisionTask .. | .callActivity ..
  | .subProcess .. | .finish => .ok ()

def validateTarget (indexed : ExtTreeMap NodeId Node) (nodeId : NodeId) (node : Node) (next : NodeId) :
    Except DomainError Unit := do
  ensure (indexed.contains next) (.missingTransitionTarget nodeId next)
  let entersOwnedStart := match node with
    | .subProcess start _ _ => start == next
    | _ => false
  ensure (!(indexed[next]?.any Node.isStart && !entersOwnedStart)) (.transitionToStartNode next)

def validateNode (us : UnstableSort) (indexed : ExtTreeMap NodeId Node)
    (tables : ExtTreeMap String DecisionTable) (entry : NodeId × Node) : Except DomainError Unit := do
  validateGatewayNode us entry.1 entry.2 indexed
  match entry.2 with
  | .decisionTask tableId _ => ensure (tables.contains tableId) (.missingDecisionTable tableId)
  | _ => pure ()
  checkAll (validateTarget indexed entry.1 entry.2) entry.2.targets

/-- The loop over boundary events; `ids` holds the identifiers met so far. -/
def indexBoundaries (indexed : ExtTreeMap NodeId Node) :
    ExtTreeMap NodeId (List BoundaryEventDefinition) → List NodeId →
      List (NodeId × BoundaryEventDefinition) →
      Except DomainError (ExtTreeMap NodeId (List BoundaryEventDefinition))
  | m, _, [] => .ok m
  | m, ids, (owner, boundary) :: rest => do
    ensure (indexed.contains owner) (.unknownBoundaryOwner owner)
    ensure (indexed.contains boundary.target) (.missingTransitionTarget owner boundary.target)
    ensure (!ids.contains boundary.id) (.duplicateBoundaryEvent boundary.id)
    indexBoundaries indexed (m.insert owner (m[owner]?.getD [] ++ [boundary])) (boundary.id :: ids) rest

def validateMetadataEntry (indexed : ExtTreeMap NodeId Node) (owner : NodeId)
    (metadata : NodeExecutionMetadata) : Except DomainError Unit := do
  ensure (indexed.contains owner) (.unknownNodeMetadataOwner owner)
  ensure (!(metadata.multiInstance.isSome && !indexed[owner]?.any Node.isActivity))
    (.invalidMultiInstance owner
      "runtime multi-instance is supported only for service, user, script, and call activities")
  validateNodeMetadata owner metadata

namespace WorkflowDefinition

/-- The successors `validate_reachability` follows: transitions and boundary targets. -/
def successors (d : WorkflowDefinition) (nodeId : NodeId) : List NodeId :=
  (d.nodes[nodeId]?.map Node.targets).getD [] ++
    (d.boundaryEvents nodeId).map BoundaryEventDefinition.target

/-- More pops than the loop of `validate_reachability` can make. -/
def searchFuel (d : WorkflowDefinition) : Nat :=
  2 + (d.nodes.keys.map fun nodeId => (d.successors nodeId).length).sum

def reachableNodes (d : WorkflowDefinition) : ExtTreeSet NodeId :=
  Search.explore d.successors d.searchFuel ∅ [d.startNode]

def validateReachability (d : WorkflowDefinition) : Except DomainError Unit :=
  match d.nodes.keys.find? fun id => !d.reachableNodes.contains id with
  | some unreachable => .error (.unreachableNode unreachable)
  | none => .ok ()

end WorkflowDefinition

structure DefinitionInput where
  tenantId : TenantId
  workflowType : WorkflowType
  workflowVersion : WorkflowVersion
  startNode : NodeId
  nodes : List (NodeId × Node)
  decisionTables : List DecisionTable
  contracts : WorkflowExecutionContracts

namespace WorkflowDefinition

def newWithExecutionContracts (us : UnstableSort) (input : DefinitionInput) :
    Except DomainError WorkflowDefinition := do
  let indexed ← indexBy (fun _ _ => .ok ()) .duplicateNode ∅ input.nodes
  let indexedTables ← indexBy (fun _ table => validateDecisionTable table)
    (fun _ => .duplicateDecisionTable) ∅ (input.decisionTables.map fun table => (table.id, table))
  ensure (indexed[input.startNode]?.any Node.isStart) (.invalidStartNode input.startNode)
  checkAll (validateNode us indexed indexedTables) indexed.toList
  let indexedBoundaries ← indexBoundaries indexed ∅ [] input.contracts.boundaryEvents
  let indexedMetadata ← indexBy (validateMetadataEntry indexed) .duplicateNodeMetadata ∅
    input.contracts.nodeMetadata
  validateScopeOwnership indexed indexedMetadata
  validateExtensionProperties input.contracts.properties
  let indexedCaseModels ← indexBy (fun _ model => validateCaseDefinition model)
    (fun _ => .duplicateCaseModel) ∅ (input.contracts.caseModels.map fun model => (model.id, model))
  let definition : WorkflowDefinition := {
    tenantId := input.tenantId
    workflowType := input.workflowType
    workflowVersion := input.workflowVersion
    startNode := input.startNode
    nodes := indexed
    decisionTables := indexedTables
    boundaryEventMap := indexedBoundaries
    nodeMetadata := indexedMetadata
    properties := input.contracts.properties
    caseModels := indexedCaseModels }
  definition.validateReachability
  return definition

/-- The definitions that can be built: the fields are private to the source's constructor. -/
def Accepted (d : WorkflowDefinition) : Prop :=
  ∃ us input, newWithExecutionContracts us input = .ok d

end WorkflowDefinition

end BpmpPlatform
