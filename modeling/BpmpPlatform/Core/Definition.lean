import BpmpPlatform.Core.Decision

/-! # Workflow definitions

The graph, its boundary events, execution metadata and case models, as
`WorkflowDefinition::new_with_execution_contracts` stores them.
-/
namespace BpmpPlatform
open Std Outcome

inductive GatewayCoverageDomain
  | boolean
  | enum (values : List String)
  | integer (intervals : List IntegerInterval)
  | symbolic
  deriving DecidableEq

structure GatewayCoverage where
  variableName : String
  domain : GatewayCoverageDomain

inductive Node
  | start (next : NodeId)
  | serviceTask (taskType : TaskType) (next : NodeId)
  | userTask (taskType : TaskType) (assignmentPolicyRef : String) (formKey : Option String)
      (resultVariable : String) (next : NodeId)
  | scriptTask (taskType : TaskType) (implementationRef implementationVersion : String)
      (next : NodeId)
  | decisionTask (decisionTableId : String) (next : NodeId)
  | callActivity (calledWorkflow : WorkflowType) (calledVersion : Option WorkflowVersion)
      (next : NodeId)
  | subProcess (start finish next : NodeId)
  | exclusiveGateway (transitions : List GuardedTransition) (coverage : Option GatewayCoverage)
  | parallelSplit (targets : List NodeId) (join : NodeId)
  | parallelJoin (split next : NodeId)
  | inclusiveSplit (transitions : List GuardedTransition) (coverage : Option GatewayCoverage)
      (join : NodeId)
  | inclusiveJoin (split next : NodeId)
  | finish

def Node.targets : Node → List NodeId
  | .start next | .serviceTask _ next | .userTask _ _ _ _ next | .scriptTask _ _ _ next
  | .decisionTask _ next | .callActivity _ _ next | .parallelJoin _ next
  | .inclusiveJoin _ next => [next]
  | .subProcess entry _ next => [entry, next]
  | .exclusiveGateway transitions _ | .inclusiveSplit transitions _ _ =>
    transitions.map GuardedTransition.target
  | .parallelSplit targets _ => targets
  | .finish => []

inductive BoundaryTimerKind
  | date
  | duration
  | cycle
  deriving DecidableEq

inductive BoundaryTrigger
  | timer (kind : BoundaryTimerKind) (expression : String)
  | error (errorRef : Option String)
  | message (messageRef : String)
  deriving DecidableEq

structure BoundaryEventDefinition where
  id : NodeId
  cancelActivity : Bool
  target : NodeId
  trigger : BoundaryTrigger
  deriving DecidableEq

inductive ExtensionPropertyValue
  | string (value : String)
  | integer (value : Int64)
  | boolean (value : Bool)
  | durationMilliseconds (value : Nat)

structure ExtensionProperty where
  namespaceUri : String
  elementName : String
  name : String
  value : ExtensionPropertyValue

inductive MultiInstanceMode
  | sequential
  | parallel
  deriving DecidableEq

structure MultiInstanceDefinition where
  mode : MultiInstanceMode
  collectionExpression : Option String
  itemVariable : Option String
  cardinalityExpression : Option String
  maxParallelism : Option Nat
  completionCondition : Option BooleanExpression

structure NodeExecutionMetadata where
  multiInstance : Option MultiInstanceDefinition := none
  properties : List ExtensionProperty := []
  ownerScopeId : Option NodeId := none

structure CaseStageDefinition where
  id : PlanItemId
  name : String
  entrySentryIds : List SentryId
  exitSentryIds : List SentryId

structure CaseMilestoneDefinition where
  id : PlanItemId
  name : String
  entrySentryIds : List SentryId

structure CaseSentryDefinition where
  id : SentryId
  condition : BooleanExpression

structure CaseDefinition where
  id : CaseModelId
  name : String
  stages : List CaseStageDefinition
  milestones : List CaseMilestoneDefinition
  sentries : List CaseSentryDefinition

structure WorkflowExecutionContracts where
  boundaryEvents : List (NodeId × BoundaryEventDefinition) := []
  nodeMetadata : List (NodeId × NodeExecutionMetadata) := []
  properties : List ExtensionProperty := []
  caseModels : List CaseDefinition := []

structure WorkflowDefinition where
  tenantId : TenantId
  workflowType : WorkflowType
  workflowVersion : WorkflowVersion
  startNode : NodeId
  nodes : ExtTreeMap NodeId Node
  decisionTables : ExtTreeMap String DecisionTable
  boundaryEventMap : ExtTreeMap NodeId (List BoundaryEventDefinition)
  nodeMetadata : ExtTreeMap NodeId NodeExecutionMetadata
  properties : List ExtensionProperty
  caseModels : ExtTreeMap CaseModelId CaseDefinition

namespace WorkflowDefinition
variable (d : WorkflowDefinition)

def node (nodeId : NodeId) : Except DomainError Node :=
  okOr (.unknownNode nodeId) d.nodes[nodeId]?

def multiInstance (nodeId : NodeId) : Option MultiInstanceDefinition :=
  d.nodeMetadata[nodeId]?.bind NodeExecutionMetadata.multiInstance

def ownerScopeId (nodeId : NodeId) : Option NodeId :=
  d.nodeMetadata[nodeId]?.bind NodeExecutionMetadata.ownerScopeId

def subProcessExit (scopeNodeId : NodeId) : Except DomainError NodeId := do
  match ← d.node scopeNodeId with
  | .subProcess _ _ next => return next
  | _ => throw (.invalidScopeOwner scopeNodeId)

def caseModel (id : CaseModelId) : Except DomainError CaseDefinition :=
  okOr (.unknownCaseModel id) d.caseModels[id]?

def boundaryEvents (nodeId : NodeId) : List BoundaryEventDefinition :=
  d.boundaryEventMap[nodeId]?.getD []

def boundaryEvent (boundaryEventId : NodeId) : Option (NodeId × BoundaryEventDefinition) :=
  d.boundaryEventMap.toList.findSome? fun entry =>
    (entry.2.find? fun boundary => boundary.id == boundaryEventId).map fun boundary =>
      (entry.1, boundary)

end WorkflowDefinition

end BpmpPlatform
