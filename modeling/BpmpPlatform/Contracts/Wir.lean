import Mathlib

/-! # The workflow intermediate representation

The messages of `wir.proto`. Enumerations travel as numbers, an absent message or an unset `oneof` as `none` or `unset`.
-/
namespace BpmpPlatform.Wir

inductive Literal
  | booleanValue (value : Bool)
  | integerValue (value : Int64)
  | stringValue (value : String)
  deriving DecidableEq

structure GuardExpression where
  variableName : String
  operator : Int
  literal : Option Literal
  deriving DecidableEq

inductive BooleanExpression
  | unset
  | comparison (guard : GuardExpression)
  | conjunction (operands : List BooleanExpression)
  | disjunction (operands : List BooleanExpression)
  | negation (operand : BooleanExpression)
  | constant (value : Bool)

namespace BooleanExpression

mutual

def beq : BooleanExpression → BooleanExpression → Bool
  | .unset, .unset => true
  | .comparison a, .comparison b => a == b
  | .conjunction as, .conjunction bs => beqList as bs
  | .disjunction as, .disjunction bs => beqList as bs
  | .negation a, .negation b => beq a b
  | .constant a, .constant b => a == b
  | _, _ => false

def beqList : List BooleanExpression → List BooleanExpression → Bool
  | [], [] => true
  | a :: as, b :: bs => beq a b && beqList as bs
  | _, _ => false

end

mutual

theorem beq_eq_true_iff : (a b : BooleanExpression) → (beq a b = true ↔ a = b)
  | .unset, b => by cases b <;> simp [beq]
  | .comparison _, b => by cases b <;> simp [beq]
  | .conjunction as, b => by cases b <;> simp [beq, beqList_eq_true_iff as]
  | .disjunction as, b => by cases b <;> simp [beq, beqList_eq_true_iff as]
  | .negation a, b => by cases b <;> simp [beq, beq_eq_true_iff a]
  | .constant _, b => by cases b <;> simp [beq]

theorem beqList_eq_true_iff : (as bs : List BooleanExpression) → (beqList as bs = true ↔ as = bs)
  | [], bs => by cases bs <;> simp [beqList]
  | a :: as, bs => by cases bs <;> simp [beqList, beq_eq_true_iff a, beqList_eq_true_iff as]

end

instance : DecidableEq BooleanExpression := fun a b => decidable_of_iff _ (beq_eq_true_iff a b)

end BooleanExpression

structure ConditionalTransition where
  targetNodeId : String
  condition : String
  isDefault : Bool
  guard : Option GuardExpression
  expression : Option BooleanExpression
  deriving DecidableEq

structure IntegerInterval where
  lowerBound : Int64
  upperBound : Int64
  lowerUnbounded : Bool
  upperUnbounded : Bool
  deriving DecidableEq

structure GatewayCoverage where
  variableName : String
  valueType : Int
  enumValues : List String
  integerIntervals : List IntegerInterval
  solverVerified : Bool
  deriving DecidableEq

inductive NodeKind
  | start (nextNodeId : String)
  | serviceTask (taskType nextNodeId : String)
  | userTask (taskType nextNodeId assignmentPolicyRef formKey resultVariable : String)
  | scriptTask (taskType nextNodeId implementationRef implementationVersion : String)
  | decisionTask (decisionTableId nextNodeId : String)
  | callActivity (calledElement calledVersion nextNodeId : String)
  | subProcess (startNodeId endNodeId nextNodeId : String)
  | finish
  | exclusiveGateway (transitions : List ConditionalTransition) (coverage : Option GatewayCoverage)
  | parallelGateway (direction : Int) (targetNodeIds : List String) (pairedGatewayId : String)
  | inclusiveGateway (direction : Int) (transitions : List ConditionalTransition) (nextNodeId : String)
      (pairedGatewayId : String) (coverage : Option GatewayCoverage)
  deriving DecidableEq

structure MultiInstanceSpec where
  mode : Int
  collectionExpression : String
  itemVariable : String
  cardinalityExpression : String
  maxParallelism : Nat
  completionCondition : Option BooleanExpression
  deriving DecidableEq

inductive EventTrigger
  | timer (expression : String) (kind : Int)
  | error (errorRef : String)
  | message (messageRef : String)
  deriving DecidableEq

structure BoundaryEvent where
  id : String
  cancelActivity : Bool
  targetNodeId : String
  trigger : Option EventTrigger
  deriving DecidableEq

inductive PropertyValue
  | stringValue (value : String)
  | integerValue (value : Int64)
  | booleanValue (value : Bool)
  | durationMilliseconds (value : Nat)
  deriving DecidableEq

structure ExtensionProperty where
  namespaceUri : String
  elementName : String
  name : String
  value : Option PropertyValue
  deriving DecidableEq

structure DataContract where
  inputType : String
  outputType : String
  deriving DecidableEq

structure Node where
  id : String
  kind : Option NodeKind
  dataContract : Option DataContract
  slaMilliseconds : Nat
  compensationHandlerId : String
  properties : List ExtensionProperty
  multiInstance : Option MultiInstanceSpec
  boundaryEvents : List BoundaryEvent
  ownerScopeId : String
  deriving DecidableEq

structure DecisionInput where
  name : String
  valueType : Int
  deriving DecidableEq

structure DecisionOutput where
  name : String
  valueType : Int
  deriving DecidableEq

inductive UnaryTest
  | equal (value : Option Literal)
  | integerInterval (interval : IntegerInterval)
  | any (value : Bool)
  deriving DecidableEq

structure DecisionRule where
  id : String
  inputTests : List (Option UnaryTest)
  outputValues : List (Option Literal)
  deriving DecidableEq

structure DecisionTable where
  id : String
  hitPolicy : Int
  inputs : List DecisionInput
  outputs : List DecisionOutput
  rules : List DecisionRule
  deriving DecidableEq

structure CaseStage where
  id : String
  name : String
  entrySentryIds : List String
  exitSentryIds : List String
  deriving DecidableEq

structure CaseMilestone where
  id : String
  name : String
  entrySentryIds : List String
  deriving DecidableEq

structure CaseSentry where
  id : String
  condition : String
  typedCondition : Option BooleanExpression
  deriving DecidableEq

structure CaseModel where
  id : String
  name : String
  stages : List CaseStage
  milestones : List CaseMilestone
  sentries : List CaseSentry
  deriving DecidableEq

structure WorkflowIntermediateRepresentation where
  schemaVersion : Nat
  workflowType : String
  workflowVersion : String
  startNodeId : String
  nodes : List Node
  contentHash : List UInt8
  signature : List UInt8
  decisionTables : List DecisionTable
  tenantId : String
  caseModels : List CaseModel
  properties : List ExtensionProperty
  deriving DecidableEq

end BpmpPlatform.Wir
