import BpmpPlatform.Core.Value

/-! # Decision tables and gateway selection

`evaluate_decision_table` with both hit policies, and the choice of outgoing transitions of
exclusive and inclusive gateways.
-/
namespace BpmpPlatform
open Std Outcome

structure IntegerInterval where
  lower : Option Int64
  upper : Option Int64
  deriving DecidableEq

inductive UnaryTest
  | any
  | equal (expected : WorkflowValue)
  | integerInterval (interval : IntegerInterval)
  deriving DecidableEq

inductive HitPolicy
  | unique
  | first

structure DecisionInput where
  name : String
  valueType : WorkflowValueType

structure DecisionOutput where
  name : String
  valueType : WorkflowValueType

structure DecisionRule where
  id : String
  inputTests : List UnaryTest
  outputValues : List WorkflowValue
  deriving DecidableEq

structure DecisionTable where
  id : String
  hitPolicy : HitPolicy
  inputs : List DecisionInput
  outputs : List DecisionOutput
  rules : List DecisionRule

def IntegerInterval.contains (interval : IntegerInterval) (value : Int64) : Bool :=
  interval.lower.all (fun lower => decide (lower ≤ value)) &&
    interval.upper.all (fun upper => decide (value ≤ upper))

/-- `UnaryTest::matches`. -/
def UnaryTest.accepts : UnaryTest → WorkflowValue → Bool
  | .any, _ => true
  | .equal expected, value => value == expected
  | .integerInterval interval, .integer value => interval.contains value
  | .integerInterval _, _ => false

/-- The loop of `decision_rule_matches` over the table's inputs and the rule's tests. -/
def testsMatch (tableId : String) (vars : Variables) :
    List (DecisionInput × UnaryTest) → Except DomainError Bool
  | [] => .ok true
  | (input, test) :: rest => do
    let value ← okOr (.decisionInputMissing tableId input.name) vars[input.name]?
    ensure (input.valueType.accepts value)
      (.decisionInputTypeMismatch tableId input.name value.typeName input.valueType.typeName)
    if test.accepts value then testsMatch tableId vars rest else return false

def decisionRuleMatches (table : DecisionTable) (rule : DecisionRule) (vars : Variables) :
    Except DomainError Bool :=
  testsMatch table.id vars (table.inputs.zip rule.inputTests)

/-- The loop of `evaluate_decision_table` over the rules; `selected` is its local variable. -/
def selectRule (table : DecisionTable) (vars : Variables) :
    Option DecisionRule → List DecisionRule → Except DomainError (Option DecisionRule)
  | selected, [] => .ok selected
  | selected, rule :: rest => do
    if ← decisionRuleMatches table rule vars then
      match table.hitPolicy, selected with
      | .first, _ => return some rule
      | .unique, none => selectRule table vars (some rule) rest
      | .unique, some _ => throw (.ambiguousDecisionTable table.id)
    else
      selectRule table vars selected rest

def ruleOutputs (table : DecisionTable) (rule : DecisionRule) : Variables :=
  (∅ : Variables).insertMany ((table.outputs.zip rule.outputValues).map fun p => (p.1.name, p.2))

def evaluateDecisionTable (table : DecisionTable) (vars : Variables) :
    Except DomainError Variables := do
  let selected ← selectRule table vars none table.rules
  let rule ← okOr (.noDecisionRuleMatched table.id) selected
  return ruleOutputs table rule

/-- The loop of `select_transition`; `selected` is its local variable. -/
def selectGuarded (gatewayId : NodeId) (vars : Variables) :
    Option NodeId → List GuardedTransition → Except DomainError (Option NodeId)
  | selected, [] => .ok selected
  | selected, transition :: rest =>
    if transition.isDefault then selectGuarded gatewayId vars selected rest
    else do
      if ← transition.evaluate vars then
        ensure selected.isNone (.ambiguousGateway gatewayId)
        selectGuarded gatewayId vars (some transition.target) rest
      else
        selectGuarded gatewayId vars selected rest

def defaultTarget (transitions : List GuardedTransition) : Option NodeId :=
  (transitions.find? GuardedTransition.isDefault).map GuardedTransition.target

def selectTransition (gatewayId : NodeId) (transitions : List GuardedTransition) (vars : Variables) :
    Except DomainError NodeId := do
  let selected ← selectGuarded gatewayId vars none transitions
  okOr (.noGatewayBranch gatewayId) (selected.or (defaultTarget transitions))

/-- The loop of `select_transitions`. -/
def matchingTargets (vars : Variables) : List GuardedTransition → Except DomainError (List NodeId)
  | [] => .ok []
  | transition :: rest =>
    if transition.isDefault then matchingTargets vars rest
    else do
      let holds ← transition.evaluate vars
      let targets ← matchingTargets vars rest
      return if holds then transition.target :: targets else targets

def selectTransitions (gatewayId : NodeId) (transitions : List GuardedTransition) (vars : Variables) :
    Except DomainError (List NodeId) := do
  let matching ← matchingTargets vars transitions
  let selected := if matching.isEmpty then (defaultTarget transitions).toList else matching
  ensure (!selected.isEmpty) (.noGatewayBranch gatewayId)
  return selected

end BpmpPlatform
