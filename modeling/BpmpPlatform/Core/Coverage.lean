import BpmpPlatform.Core.Definition
import BpmpPlatform.Library.Sort

/-! # Validation of decision tables and gateway coverage

The checks `new_with_execution_contracts` makes on single gateways and decision tables.
-/
namespace BpmpPlatform
open Std Outcome

def invalidGatewayCoverage {α : Type} (nodeId : NodeId) (detail : String) : Except DomainError α :=
  .error (.invalidGatewayCoverage nodeId detail)

/-- `value.checked_sub(1)`. -/
def checkedPred (value : Int64) : Option Int64 :=
  if value = Int64.minValue then none else some (value - 1)

/-- `value.checked_add(1)`. -/
def checkedNext (value : Int64) : Option Int64 :=
  if value = Int64.maxValue then none else some (value + 1)

def integerGuardIntervals : ComparisonOperator → Int64 → List IntegerInterval
  | .equal, value => [⟨some value, some value⟩]
  | .notEqual, value =>
    ((checkedPred value).map fun upper => ⟨none, some upper⟩).toList ++
      ((checkedNext value).map fun lower => ⟨some lower, none⟩).toList
  | .lessThan, value => ((checkedPred value).map fun upper => ⟨none, some upper⟩).toList
  | .lessThanOrEqual, value => [⟨none, some value⟩]
  | .greaterThan, value => ((checkedNext value).map fun lower => ⟨some lower, none⟩).toList
  | .greaterThanOrEqual, value => [⟨some value, none⟩]

/-- The sort key of the source: an absent lower bound counts as the least integer, an absent upper
bound comes before every present one. -/
def compareIntervals (a b : IntegerInterval) : Ordering :=
  (compare (a.lower.getD Int64.minValue) (b.lower.getD Int64.minValue)).then
    (compare a.upper b.upper)

/-- The loop of `validate_disjoint_integer_cover`, over the sorted intervals. -/
def coverFrom (nodeId : NodeId) : Option Int64 → List IntegerInterval → Except DomainError Unit
  | _, [] => invalidGatewayCoverage nodeId "integer intervals do not cover upper range"
  | expectedLower, interval :: rest => do
    match compare (interval.lower.getD Int64.minValue) (expectedLower.getD Int64.minValue) with
    | .lt => invalidGatewayCoverage nodeId "integer intervals overlap"
    | .gt => invalidGatewayCoverage nodeId "integer intervals leave a gap"
    | .eq =>
      ensure (interval.lower.all fun lower => interval.upper.all fun upper => decide (lower ≤ upper))
        (.invalidGatewayCoverage nodeId "integer interval lower bound is above upper bound")
      match interval.upper with
      | none => return ()
      | some value =>
        match checkedNext value with
        | none => return ()
        | some next => coverFrom nodeId (some next) rest

def validateDisjointIntegerCover (us : UnstableSort) (nodeId : NodeId)
    (intervals : List IntegerInterval) : Except DomainError (List IntegerInterval) := do
  let sorted := us.sort compareIntervals intervals
  coverFrom nodeId none sorted
  return sorted

def guardIntervals (nodeId : NodeId) : List GuardExpression → Except DomainError (List IntegerInterval)
  | [] => .ok []
  | guard :: rest =>
    match guard.literal with
    | .integer value => do return integerGuardIntervals guard.operator value ++ (← guardIntervals nodeId rest)
    | _ => invalidGatewayCoverage nodeId "integer coverage cannot mix literal types"

def validateIntegerCoverage (us : UnstableSort) (nodeId : NodeId) (guards : List GuardExpression)
    (proof : List IntegerInterval) : Except DomainError Unit := do
  let intervals ← validateDisjointIntegerCover us nodeId (← guardIntervals nodeId guards)
  let normalizedProof ← validateDisjointIntegerCover us nodeId proof
  ensure (intervals == normalizedProof)
    (.invalidGatewayCoverage nodeId "integer coverage proof does not match guards")

/-- The loop of `validate_boolean_coverage`; the result is the covered values. -/
def booleanCovered (nodeId : NodeId) : List Bool → List GuardExpression → Except DomainError (List Bool)
  | covered, [] => .ok covered
  | covered, guard :: rest =>
    match guard.literal with
    | .boolean literal => do
      let value ← match guard.operator with
        | .equal => pure literal
        | .notEqual => pure (!literal)
        | _ => invalidGatewayCoverage nodeId "boolean coverage supports only == and !="
      ensure (!covered.contains value)
        (.invalidGatewayCoverage nodeId "boolean value is matched by more than one branch")
      booleanCovered nodeId (value :: covered) rest
    | _ => invalidGatewayCoverage nodeId "boolean coverage cannot mix literal types"

def validateBooleanCoverage (nodeId : NodeId) (guards : List GuardExpression) :
    Except DomainError Unit := do
  let covered ← booleanCovered nodeId [] guards
  ensure (covered.length == 2) (.invalidGatewayCoverage nodeId "boolean domain is not fully covered")

/-- The loop of `validate_enum_coverage`; the result is the covered values. -/
def enumCovered (nodeId : NodeId) (values : List String) :
    List String → List GuardExpression → Except DomainError (List String)
  | covered, [] => .ok covered
  | covered, guard :: rest =>
    match guard.literal with
    | .string value => do
      ensure (guard.operator == .equal)
        (.invalidGatewayCoverage nodeId "enum coverage supports only equality")
      ensure (values.contains value)
        (.invalidGatewayCoverage nodeId "enum guard is outside coverage domain")
      ensure (!covered.contains value)
        (.invalidGatewayCoverage nodeId "enum value is matched by more than one branch")
      enumCovered nodeId values (value :: covered) rest
    | _ => invalidGatewayCoverage nodeId "enum coverage cannot mix literal types"

def validateEnumCoverage (nodeId : NodeId) (guards : List GuardExpression) (values : List String) :
    Except DomainError Unit := do
  ensure (!values.isEmpty) (.invalidGatewayCoverage nodeId "enum coverage domain is empty")
  ensure (decide values.Nodup)
    (.invalidGatewayCoverage nodeId "enum coverage domain contains duplicates")
  let covered ← enumCovered nodeId values [] guards
  ensure (values.all covered.contains)
    (.invalidGatewayCoverage nodeId "enum domain is not fully covered")

/-- The guards of covered branches; a branch with only a complex expression fails the `expect`. -/
def coverageGuards : List GuardedTransition → Except DomainError (List GuardExpression)
  | [] => .ok []
  | transition :: rest => do
    let guard ← okOr (.panicked "checked above") transition.guard
    return guard :: (← coverageGuards rest)

def validateSymbolicCoverage (nodeId : NodeId) (transitions : List GuardedTransition) :
    Except DomainError Unit := do
  ensure (!transitions.any GuardedTransition.isDefault) (.invalidGatewayCoverage nodeId
    "symbolic coverage cannot be combined with default branches")
  ensure (!transitions.any fun t => t.guard.isSome == t.expression.isSome)
    (.invalidGatewayCoverage nodeId
      "each symbolic branch must contain exactly one guard representation")

def validateGatewayCoverage (us : UnstableSort) (nodeId : NodeId)
    (transitions : List GuardedTransition) (coverage : GatewayCoverage) : Except DomainError Unit :=
  if coverage.domain = .symbolic then validateSymbolicCoverage nodeId transitions
  else do
    ensure (!Text.isBlank coverage.variableName)
      (.invalidGatewayCoverage nodeId "coverage variable is empty")
    ensure (!transitions.any GuardedTransition.isDefault) (.invalidGatewayCoverage nodeId
      "coverage proof cannot be combined with default branches")
    let guards ← coverageGuards transitions
    ensure (guards.all fun guard => guard.variableName == coverage.variableName)
      (.invalidGatewayCoverage nodeId "all covered guards must use the coverage variable")
    match coverage.domain with
    | .boolean => validateBooleanCoverage nodeId guards
    | .enum values => validateEnumCoverage nodeId guards values
    | .integer intervals => validateIntegerCoverage us nodeId guards intervals
    | .symbolic => .error (.panicked "handled above")

def firstRepeated : List NodeId → List NodeId → Option NodeId
  | _, [] => none
  | seen, target :: rest => if seen.contains target then some target else firstRepeated (target :: seen) rest

def validateGateway (us : UnstableSort) (nodeId : NodeId) (transitions : List GuardedTransition)
    (coverage : Option GatewayCoverage) : Except DomainError Unit := do
  ensure (decide (2 ≤ transitions.length)) (.gatewayRequiresBranches nodeId)
  match transitions.countP GuardedTransition.isDefault with
  | 0 => do
    let coverage ← okOr (.gatewayRequiresDefaultOrCoverage nodeId) coverage
    validateGatewayCoverage us nodeId transitions coverage
  | 1 => ensure coverage.isNone (.gatewayCoverageWithDefault nodeId)
  | actual => throw (.gatewayRequiresOneDefault nodeId actual)
  match firstRepeated [] (transitions.map GuardedTransition.target) with
  | some duplicate => throw (.duplicateGatewayTarget nodeId duplicate)
  | none => return ()

def validateParallelSplit (nodeId : NodeId) (targets : List NodeId) : Except DomainError Unit := do
  ensure (decide (2 ≤ targets.length)) (.gatewayRequiresBranches nodeId)
  match targets.find? fun target => decide (1 < targets.count target) with
  | some duplicate => throw (.duplicateGatewayTarget nodeId duplicate)
  | none => return ()

def validateInclusiveGateway (nodeId : NodeId) (transitions : List GuardedTransition)
    (coverage : Option GatewayCoverage) : Except DomainError Unit := do
  ensure (decide (2 ≤ transitions.length)) (.gatewayRequiresBranches nodeId)
  let defaultCount := transitions.countP GuardedTransition.isDefault
  ensure (decide (defaultCount ≤ 1)) (.gatewayRequiresOneDefault nodeId defaultCount)
  ensure (decide (defaultCount ≠ 0) || coverage.isSome) (.gatewayRequiresDefaultOrCoverage nodeId)
  match transitions with
  | [] => return ()
  | first :: _ =>
    ensure (decide (transitions.map GuardedTransition.target).Nodup)
      (.duplicateGatewayTarget nodeId first.target)

def validateDecisionRule (table : DecisionTable) (rule : DecisionRule) : Except DomainError Unit := do
  ensure (rule.inputTests.length == table.inputs.length) (.invalidDecisionTable table.id
    ("rule " ++ rule.id ++ " input count does not match table inputs"))
  ensure (rule.outputValues.length == table.outputs.length) (.invalidDecisionTable table.id
    ("rule " ++ rule.id ++ " output count does not match table outputs"))
  checkAll (fun (pair : WorkflowValue × DecisionOutput) =>
    ensure (pair.2.valueType.accepts pair.1) (.invalidDecisionTable table.id
      ("rule " ++ rule.id ++ " output " ++ pair.2.name ++ " has wrong type")))
    (rule.outputValues.zip table.outputs)

def validateDecisionTable (table : DecisionTable) : Except DomainError Unit := do
  ensure (!Text.isBlank table.id) (.invalidDecisionTable table.id "decision table id is empty")
  ensure (!table.inputs.isEmpty && !table.outputs.isEmpty)
    (.invalidDecisionTable table.id "decision table must declare inputs and outputs")
  checkAll (validateDecisionRule table) table.rules

end BpmpPlatform
