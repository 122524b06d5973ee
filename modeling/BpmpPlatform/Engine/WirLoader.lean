import BpmpPlatform.Contracts.WirArtifact
import BpmpPlatform.Core.Accepted

/-! # Loading artifacts

`WirLoader` maps an opened representation to the arguments of `new_with_execution_contracts`.
-/
namespace BpmpPlatform
open Std Outcome

inductive WirLoadError
  | artifact (error : ArtifactError)
  | identifier (field : String) (source : IdentifierError)
  | missingNodeKind (id : NodeId)
  | defaultTransitionHasGuard (target : NodeId)
  | missingTransitionGuard (target : NodeId)
  | conflictingGuardRepresentations (target : NodeId)
  | missingBooleanExpression
  | missingCaseSentryCondition
  | invalidBooleanJunction
  | invalidComparisonOperator (tag : Int)
  | missingGuardLiteral
  | emptyGuardVariable
  | emptyCoverageVariable
  | invalidCoverageValueType (tag : Int)
  | invalidCoverage (detail : String)
  | invalidGatewayDirection (tag : Int)
  | invalidGatewayShape (detail : String)
  | invalidHitPolicy (tag : Int)
  | unsupportedHitPolicy (policy : String)
  | invalidValueType (tag : Int)
  | emptyField (field : String)
  | missingUnaryTest
  | missingWorkflowLiteral
  | missingBoundaryTrigger
  | invalidTimerKind (tag : Int)
  | invalidMultiInstanceMode (tag : Int)
  | missingPropertyValue
  | domain (error : DomainError)

namespace WirLoader

def identifier (kind : IdentifierKind) (value field : String) : Except WirLoadError (Identifier kind) :=
  match Identifier.new kind value with
  | .ok id => .ok id
  | .error source => .error (.identifier field source)

def nodeIdValue (value field : String) : Except WirLoadError NodeId := identifier .NodeId value field

def nonEmpty (value field : String) : Except WirLoadError String := do
  ensure (!Text.isBlank value) (.emptyField field)
  return value

def optionalNonEmpty (value field : String) : Except WirLoadError (Option String) :=
  if value = "" then .ok none else some <$> nonEmpty value field

/-- `(!value.is_empty()).then_some(value)`. -/
def presentText (value : String) : Option String := if value = "" then none else some value

/-- `option.map(f).transpose()`. -/
def mapOption {α β : Type} (f : α → Except WirLoadError β) : Option α → Except WirLoadError (Option β)
  | none => .ok none
  | some a => some <$> f a

def mapLiteral : Wir.Literal → WorkflowValue
  | .booleanValue value => .boolean value
  | .integerValue value => .integer value
  | .stringValue value => .string value

def mapWorkflowLiteral (value : Option Wir.Literal) : Except WirLoadError WorkflowValue :=
  mapLiteral <$> okOr .missingWorkflowLiteral value

def mapIntegerInterval (interval : Wir.IntegerInterval) : IntegerInterval where
  lower := if interval.lowerUnbounded then none else some interval.lowerBound
  upper := if interval.upperUnbounded then none else some interval.upperBound

def mapUnaryTest (test : Option Wir.UnaryTest) : Except WirLoadError UnaryTest := do
  match ← okOr .missingUnaryTest test with
  | .any _ => return .any
  | .equal value => return .equal (← mapWorkflowLiteral value)
  | .integerInterval interval => return .integerInterval (mapIntegerInterval interval)

def mapDecisionRule (rule : Wir.DecisionRule) : Except WirLoadError DecisionRule := do
  return {
    id := ← nonEmpty rule.id "decision_rule.id"
    inputTests := ← collectAll mapUnaryTest rule.inputTests
    outputValues := ← collectAll mapWorkflowLiteral rule.outputValues }

def mapValueType (valueType : Int) : Except WirLoadError WorkflowValueType :=
  match valueType with
  | 1 => .ok .boolean
  | 2 => .ok .integer
  | 3 => .ok .string
  | tag => .error (.invalidValueType tag)

def mapHitPolicy (hitPolicy : Int) : Except WirLoadError HitPolicy :=
  match hitPolicy with
  | 1 => .ok .unique
  | 2 => .ok .first
  | 3 => .error (.unsupportedHitPolicy "COLLECT")
  | tag => .error (.invalidHitPolicy tag)

def mapDecisionInput (input : Wir.DecisionInput) : Except WirLoadError DecisionInput := do
  return { name := ← nonEmpty input.name "decision_input.name", valueType := ← mapValueType input.valueType }

def mapDecisionOutput (output : Wir.DecisionOutput) : Except WirLoadError DecisionOutput := do
  return { name := ← nonEmpty output.name "decision_output.name", valueType := ← mapValueType output.valueType }

def mapDecisionTable (table : Wir.DecisionTable) : Except WirLoadError DecisionTable := do
  let hitPolicy ← mapHitPolicy table.hitPolicy
  let id ← nonEmpty table.id "decision_table.id"
  let inputs ← collectAll mapDecisionInput table.inputs
  let outputs ← collectAll mapDecisionOutput table.outputs
  let rules ← collectAll mapDecisionRule table.rules
  return { id, hitPolicy, inputs, outputs, rules }

def mapComparisonOperator (operator : Int) : Except WirLoadError ComparisonOperator :=
  match operator with
  | 1 => .ok .equal
  | 2 => .ok .notEqual
  | 3 => .ok .lessThan
  | 4 => .ok .lessThanOrEqual
  | 5 => .ok .greaterThan
  | 6 => .ok .greaterThanOrEqual
  | tag => .error (.invalidComparisonOperator tag)

def mapGuard (guard : Wir.GuardExpression) : Except WirLoadError GuardExpression := do
  let operator ← mapComparisonOperator guard.operator
  let literal ← okOr .missingGuardLiteral guard.literal
  ensure (!Text.isBlank guard.variableName) .emptyGuardVariable
  return ⟨guard.variableName, operator, mapLiteral literal⟩

mutual

def mapBooleanExpression : Wir.BooleanExpression → Except WirLoadError BooleanExpression
  | .unset => .error .missingBooleanExpression
  | .comparison guard => .comparison <$> mapGuard guard
  | .conjunction operands =>
    if operands.length < 2 then .error .invalidBooleanJunction
    else .conjunction <$> mapBooleanExpressions operands
  | .disjunction operands =>
    if operands.length < 2 then .error .invalidBooleanJunction
    else .disjunction <$> mapBooleanExpressions operands
  | .negation operand => .negation <$> mapBooleanExpression operand
  | .constant value => .ok (.constant value)

def mapBooleanExpressions : List Wir.BooleanExpression → Except WirLoadError (List BooleanExpression)
  | [] => .ok []
  | operand :: operands => do
    let mapped ← mapBooleanExpression operand
    let rest ← mapBooleanExpressions operands
    return mapped :: rest

end

def mapTransitionGuard (target : NodeId) (transition : Wir.ConditionalTransition) :
    Except WirLoadError (Option GuardExpression × Option BooleanExpression) :=
  if transition.isDefault then
    if transition.guard.isSome || transition.expression.isSome then .error (.defaultTransitionHasGuard target)
    else .ok (none, none)
  else
    match transition.guard, transition.expression with
    | some guard, none => (fun guard => (some guard, none)) <$> mapGuard guard
    | none, some expression => (fun expression => (none, some expression)) <$> mapBooleanExpression expression
    | none, none => .error (.missingTransitionGuard target)
    | some _, some _ => .error (.conflictingGuardRepresentations target)

def mapTransition (transition : Wir.ConditionalTransition) : Except WirLoadError GuardedTransition := do
  let target ← nodeIdValue transition.targetNodeId "gateway.target_node_id"
  let (guard, expression) ← mapTransitionGuard target transition
  return ⟨target, guard, expression⟩

def mapCoverageDomain (coverage : Wir.GatewayCoverage) : Except WirLoadError GatewayCoverageDomain :=
  match coverage.valueType with
  | 1 => do
    ensure (coverage.enumValues.isEmpty && coverage.integerIntervals.isEmpty)
      (.invalidCoverage "boolean coverage must not include enum values or integer intervals")
    return .boolean
  | 3 => do
    ensure (!coverage.enumValues.isEmpty && coverage.integerIntervals.isEmpty)
      (.invalidCoverage "string enum coverage requires enum values and no integer intervals")
    return .enum coverage.enumValues
  | 2 => do
    ensure (coverage.enumValues.isEmpty && !coverage.integerIntervals.isEmpty)
      (.invalidCoverage "integer coverage requires intervals and no enum values")
    return .integer (coverage.integerIntervals.map mapIntegerInterval)
  | tag => .error (.invalidCoverageValueType tag)

def mapCoverage (coverage : Wir.GatewayCoverage) : Except WirLoadError GatewayCoverage :=
  if coverage.solverVerified then do
    ensure (coverage.variableName == "" && coverage.valueType == 0 && coverage.enumValues.isEmpty &&
      coverage.integerIntervals.isEmpty)
      (.invalidCoverage "symbolic coverage must not include a simple domain proof")
    return ⟨"", .symbolic⟩
  else do
    ensure (!Text.isBlank coverage.variableName) .emptyCoverageVariable
    return ⟨coverage.variableName, ← mapCoverageDomain coverage⟩

def mapSentryIds (ids : List String) : Except WirLoadError (List SentryId) :=
  collectAll (fun id => identifier .SentryId id "case_sentry_ref") ids

def mapCaseStage (stage : Wir.CaseStage) : Except WirLoadError CaseStageDefinition := do
  let id ← identifier .PlanItemId stage.id "case_stage.id"
  let entrySentryIds ← mapSentryIds stage.entrySentryIds
  let exitSentryIds ← mapSentryIds stage.exitSentryIds
  return { id, name := stage.name, entrySentryIds, exitSentryIds }

def mapCaseMilestone (milestone : Wir.CaseMilestone) : Except WirLoadError CaseMilestoneDefinition := do
  let id ← identifier .PlanItemId milestone.id "case_milestone.id"
  let entrySentryIds ← mapSentryIds milestone.entrySentryIds
  return { id, name := milestone.name, entrySentryIds }

def mapCaseSentry (sentry : Wir.CaseSentry) : Except WirLoadError CaseSentryDefinition := do
  let id ← identifier .SentryId sentry.id "case_sentry.id"
  let condition ← mapOption mapBooleanExpression sentry.typedCondition
  return { id, condition := ← okOr .missingCaseSentryCondition condition }

def mapCaseModel (model : Wir.CaseModel) : Except WirLoadError CaseDefinition := do
  let id ← identifier .CaseModelId model.id "case_model.id"
  let stages ← collectAll mapCaseStage model.stages
  let milestones ← collectAll mapCaseMilestone model.milestones
  let sentries ← collectAll mapCaseSentry model.sentries
  return { id, name := model.name, stages, milestones, sentries }

def mapMultiInstanceMode (mode : Int) : Except WirLoadError MultiInstanceMode :=
  match mode with
  | 1 => .ok .sequential
  | 2 => .ok .parallel
  | tag => .error (.invalidMultiInstanceMode tag)

def mapMultiInstance (spec : Wir.MultiInstanceSpec) : Except WirLoadError MultiInstanceDefinition := do
  let mode ← mapMultiInstanceMode spec.mode
  let completionCondition ← mapOption mapBooleanExpression spec.completionCondition
  return {
    mode
    collectionExpression := presentText spec.collectionExpression
    itemVariable := presentText spec.itemVariable
    cardinalityExpression := presentText spec.cardinalityExpression
    maxParallelism := if spec.maxParallelism = 0 then none else some spec.maxParallelism
    completionCondition }

def mapPropertyValue : Wir.PropertyValue → ExtensionPropertyValue
  | .stringValue value => .string value
  | .integerValue value => .integer value
  | .booleanValue value => .boolean value
  | .durationMilliseconds value => .durationMilliseconds value

def mapProperty (property : Wir.ExtensionProperty) : Except WirLoadError ExtensionProperty := do
  let value ← okOr .missingPropertyValue property.value
  let namespaceUri ← nonEmpty property.namespaceUri "property.namespace_uri"
  let elementName ← nonEmpty property.elementName "property.element_name"
  let name ← nonEmpty property.name "property.name"
  return { namespaceUri, elementName, name, value := mapPropertyValue value }

def mapProperties (properties : List Wir.ExtensionProperty) : Except WirLoadError (List ExtensionProperty) :=
  collectAll mapProperty properties

def mapTimerKind (kind : Int) : Except WirLoadError BoundaryTimerKind :=
  match kind with
  | 1 => .ok .date
  | 2 => .ok .duration
  | 3 => .ok .cycle
  | tag => .error (.invalidTimerKind tag)

def mapTrigger : Wir.EventTrigger → Except WirLoadError BoundaryTrigger
  | .timer expression kind => do
    let kind ← mapTimerKind kind
    return .timer kind (← nonEmpty expression "boundary.timer.expression")
  | .error errorRef => .ok (.error (presentText errorRef))
  | .message messageRef => .message <$> nonEmpty messageRef "boundary.message_ref"

def mapBoundaryEvent (owner : NodeId) (boundary : Wir.BoundaryEvent) :
    Except WirLoadError (NodeId × BoundaryEventDefinition) := do
  let trigger ← mapTrigger (← okOr .missingBoundaryTrigger boundary.trigger)
  let id ← nodeIdValue boundary.id "boundary.id"
  let target ← nodeIdValue boundary.targetNodeId "boundary.target_node_id"
  return (owner, { id, cancelActivity := boundary.cancelActivity, target, trigger })

def mapOwnerScopeId (ownerScopeId : String) : Except WirLoadError (Option NodeId) :=
  if ownerScopeId = "" then .ok none else some <$> nodeIdValue ownerScopeId "node.owner_scope_id"

def mapMetadata (encoded : Wir.Node) : Except WirLoadError NodeExecutionMetadata := do
  let multiInstance ← mapOption mapMultiInstance encoded.multiInstance
  let properties ← mapProperties encoded.properties
  let ownerScopeId ← mapOwnerScopeId encoded.ownerScopeId
  return { multiInstance, properties, ownerScopeId }

def isRecorded (metadata : NodeExecutionMetadata) : Bool :=
  metadata.multiInstance.isSome || !metadata.properties.isEmpty || metadata.ownerScopeId.isSome

def mapCalledVersion (calledVersion : String) : Except WirLoadError (Option WorkflowVersion) :=
  if calledVersion = "" then .ok none
  else some <$> identifier .WorkflowVersion calledVersion "call_activity.called_version"

def mapParallelGateway (direction : Int) (targetNodeIds : List String) (paired : NodeId) :
    Except WirLoadError Node :=
  match direction with
  | 1 => do
    let targets ← collectAll (fun target => nodeIdValue target "parallel_gateway.target_node_ids") targetNodeIds
    return .parallelSplit targets paired
  | 2 =>
    match targetNodeIds with
    | [target] => .parallelJoin paired <$> nodeIdValue target "parallel_gateway.target_node_ids"
    | _ => .error (.invalidGatewayShape "parallel join must have exactly one target")
  | tag => .error (.invalidGatewayDirection tag)

def mapInclusiveGateway (direction : Int) (transitions : List Wir.ConditionalTransition) (nextNodeId : String)
    (coverage : Option Wir.GatewayCoverage) (paired : NodeId) : Except WirLoadError Node :=
  match direction with
  | 1 => do
    let transitions ← collectAll mapTransition transitions
    let coverage ← mapOption mapCoverage coverage
    return .inclusiveSplit transitions coverage paired
  | 2 => do
    ensure (transitions.isEmpty && coverage.isNone && nextNodeId != "")
      (.invalidGatewayShape "inclusive join must have one next node and no split transitions")
    return .inclusiveJoin paired (← nodeIdValue nextNodeId "inclusive_gateway.next_node_id")
  | tag => .error (.invalidGatewayDirection tag)

def mapKind : Wir.NodeKind → Except WirLoadError Node
  | .start nextNodeId => .start <$> nodeIdValue nextNodeId "start.next_node_id"
  | .serviceTask taskType nextNodeId => do
    let taskType ← identifier .TaskType taskType "service_task.task_type"
    return .serviceTask taskType (← nodeIdValue nextNodeId "service_task.next_node_id")
  | .userTask taskType nextNodeId assignmentPolicyRef formKey resultVariable => do
    let taskType ← identifier .TaskType taskType "user_task.task_type"
    let assignmentPolicyRef ← nonEmpty assignmentPolicyRef "user_task.assignment_policy_ref"
    let formKey ← optionalNonEmpty formKey "user_task.form_key"
    let resultVariable ← nonEmpty resultVariable "user_task.result_variable"
    let next ← nodeIdValue nextNodeId "user_task.next_node_id"
    return .userTask taskType assignmentPolicyRef formKey resultVariable next
  | .scriptTask taskType nextNodeId implementationRef implementationVersion => do
    let taskType ← identifier .TaskType taskType "script_task.task_type"
    let implementationRef ← nonEmpty implementationRef "script_task.implementation_ref"
    let implementationVersion ← nonEmpty implementationVersion "script_task.implementation_version"
    let next ← nodeIdValue nextNodeId "script_task.next_node_id"
    return .scriptTask taskType implementationRef implementationVersion next
  | .decisionTask decisionTableId nextNodeId => do
    let decisionTableId ← nonEmpty decisionTableId "decision_task.decision_table_id"
    return .decisionTask decisionTableId (← nodeIdValue nextNodeId "decision_task.next_node_id")
  | .callActivity calledElement calledVersion nextNodeId => do
    let calledWorkflow ← identifier .WorkflowType calledElement "call_activity.called_element"
    let calledVersion ← mapCalledVersion calledVersion
    return .callActivity calledWorkflow calledVersion (← nodeIdValue nextNodeId "call_activity.next_node_id")
  | .subProcess startNodeId endNodeId nextNodeId => do
    let start ← nodeIdValue startNodeId "sub_process.start_node_id"
    let finish ← nodeIdValue endNodeId "sub_process.end_node_id"
    return .subProcess start finish (← nodeIdValue nextNodeId "sub_process.next_node_id")
  | .finish => .ok .finish
  | .exclusiveGateway transitions coverage => do
    let transitions ← collectAll mapTransition transitions
    let coverage ← mapOption mapCoverage coverage
    return .exclusiveGateway transitions coverage
  | .parallelGateway direction targetNodeIds pairedGatewayId => do
    let paired ← nodeIdValue pairedGatewayId "parallel_gateway.paired_gateway_id"
    mapParallelGateway direction targetNodeIds paired
  | .inclusiveGateway direction transitions nextNodeId pairedGatewayId coverage => do
    let paired ← nodeIdValue pairedGatewayId "inclusive_gateway.paired_gateway_id"
    mapInclusiveGateway direction transitions nextNodeId coverage paired

structure LoadedNode where
  id : NodeId
  node : Node
  boundaryEvents : List (NodeId × BoundaryEventDefinition)
  metadata : NodeExecutionMetadata

def mapNode (encoded : Wir.Node) : Except WirLoadError LoadedNode := do
  let id ← nodeIdValue encoded.id "node.id"
  let boundaryEvents ← collectAll (mapBoundaryEvent id) encoded.boundaryEvents
  let metadata ← mapMetadata encoded
  let node ← mapKind (← okOr (.missingNodeKind id) encoded.kind)
  return { id, node, boundaryEvents, metadata }

/-- The arguments `map_definition` passes to the constructor of definitions. -/
def mapInput (wir : Wir.WorkflowIntermediateRepresentation) : Except WirLoadError DefinitionInput := do
  let tenantId ← identifier .TenantId wir.tenantId "tenant_id"
  let workflowType ← identifier .WorkflowType wir.workflowType "workflow_type"
  let workflowVersion ← identifier .WorkflowVersion wir.workflowVersion "workflow_version"
  let startNode ← identifier .NodeId wir.startNodeId "start_node_id"
  let properties ← mapProperties wir.properties
  let caseModels ← collectAll mapCaseModel wir.caseModels
  let loaded ← collectAll mapNode wir.nodes
  let decisionTables ← collectAll mapDecisionTable wir.decisionTables
  return {
    tenantId
    workflowType
    workflowVersion
    startNode
    nodes := loaded.map fun node => (node.id, node.node)
    decisionTables
    contracts := {
      boundaryEvents := loaded.flatMap LoadedNode.boundaryEvents
      nodeMetadata := (loaded.filter fun node => isRecorded node.metadata).map fun node => (node.id, node.metadata)
      properties
      caseModels } }

def mapDefinition (us : UnstableSort) (wir : Wir.WorkflowIntermediateRepresentation) :
    Except WirLoadError WorkflowDefinition := do
  let input ← mapInput wir
  match WorkflowDefinition.newWithExecutionContracts us input with
  | .ok definition => return definition
  | .error error => throw (.domain error)

theorem mapDefinition_eq_ok {us : UnstableSort} {wir : Wir.WorkflowIntermediateRepresentation} {d : WorkflowDefinition} :
    mapDefinition us wir = .ok d ↔ ∃ input, mapInput wir = .ok input ∧
      WorkflowDefinition.newWithExecutionContracts us input = .ok d := by
  simp only [mapDefinition, bind_eq_ok]
  refine exists_congr fun input => and_congr_right fun _ => ?_
  split
  · rename_i definition hnew
    rw [pure_eq_ok, hnew, Except.ok.injEq]
  · rename_i error hnew
    simp [hnew]

def load (us : UnstableSort) (format : MessageFormat Wir.WorkflowIntermediateRepresentation)
    (sha256 : format.Bytes → List UInt8) (verifier : List UInt8 → List UInt8 → Except ArtifactError Unit)
    (artifact : format.Bytes) : Except WirLoadError WorkflowDefinition :=
  match WirCodec.openArtifact us format sha256 verifier artifact with
  | .error error => .error (.artifact error)
  | .ok wir => mapDefinition us wir

end WirLoader

namespace Sample

def plain (id : String) (kind : Wir.NodeKind) : Wir.Node := ⟨id, some kind, none, 0, "", [], none, [], ""⟩

def processWir (workflowType first : String) (nodes : List Wir.Node) : Wir.WorkflowIntermediateRepresentation where
  schemaVersion := 1
  workflowType
  workflowVersion := "1"
  startNodeId := "start"
  nodes := plain "start" (.start first) :: nodes
  contentHash := []
  signature := []
  decisionTables := []
  tenantId := "tenant-a"
  caseModels := []
  properties := []

end Sample

end BpmpPlatform
