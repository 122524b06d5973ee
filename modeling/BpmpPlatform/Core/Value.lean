import BpmpPlatform.Core.Error
import BpmpPlatform.Library.Outcome

/-! # Values, guards and decision tables

The pure evaluators of the domain core: guard expressions, boolean expressions, gateway
transitions and decision tables.
-/
namespace BpmpPlatform
open Std

inductive WorkflowValue
  | boolean (value : Bool)
  | integer (value : Int64)
  | string (value : String)
  | list (items : List WorkflowValue)

mutual

def WorkflowValue.beq : WorkflowValue → WorkflowValue → Bool
  | .boolean a, .boolean b => a == b
  | .integer a, .integer b => a == b
  | .string a, .string b => a == b
  | .list as, .list bs => WorkflowValue.beqList as bs
  | _, _ => false

def WorkflowValue.beqList : List WorkflowValue → List WorkflowValue → Bool
  | [], [] => true
  | a :: as, b :: bs => a.beq b && WorkflowValue.beqList as bs
  | _, _ => false

end

mutual

theorem WorkflowValue.beq_iff : (a b : WorkflowValue) → (a.beq b = true ↔ a = b)
  | .boolean _, b => by cases b <;> simp [WorkflowValue.beq]
  | .integer _, b => by cases b <;> simp [WorkflowValue.beq]
  | .string _, b => by cases b <;> simp [WorkflowValue.beq]
  | .list as, b => by cases b <;> simp [WorkflowValue.beq, WorkflowValue.beqList_iff as]

theorem WorkflowValue.beqList_iff : (as bs : List WorkflowValue) → (WorkflowValue.beqList as bs = true ↔ as = bs)
  | [], bs => by cases bs <;> simp [WorkflowValue.beqList]
  | a :: as, bs => by
    cases bs <;> simp [WorkflowValue.beqList, WorkflowValue.beq_iff a, WorkflowValue.beqList_iff as]

end

instance : DecidableEq WorkflowValue := fun a b => decidable_of_iff _ (WorkflowValue.beq_iff a b)

abbrev Variables := ExtTreeMap String WorkflowValue

inductive WorkflowValueType
  | boolean
  | integer
  | string

namespace WorkflowValue

def isScalar : WorkflowValue → Bool
  | list _ => false
  | _ => true

def sameTypeCmp : WorkflowValue → WorkflowValue → Option Ordering
  | integer left, integer right => some (compare left right)
  | string left, string right => some (compare left right)
  | boolean left, boolean right => some (compare left right)
  | _, _ => none

def typeName : WorkflowValue → String
  | boolean _ => "boolean"
  | integer _ => "integer"
  | string _ => "string"
  | list _ => "list"

end WorkflowValue

namespace WorkflowValueType

/-- `WorkflowValueType::matches`. -/
def accepts : WorkflowValueType → WorkflowValue → Bool
  | boolean, .boolean _ => true
  | integer, .integer _ => true
  | string, .string _ => true
  | _, _ => false

def typeName : WorkflowValueType → String
  | boolean => "boolean"
  | integer => "integer"
  | string => "string"

end WorkflowValueType

inductive ComparisonOperator
  | equal
  | notEqual
  | lessThan
  | lessThanOrEqual
  | greaterThan
  | greaterThanOrEqual
  deriving DecidableEq

structure GuardExpression where
  variableName : String
  operator : ComparisonOperator
  literal : WorkflowValue
  deriving DecidableEq

inductive BooleanExpression
  | comparison (guard : GuardExpression)
  | conjunction (operands : List BooleanExpression)
  | disjunction (operands : List BooleanExpression)
  | negation (operand : BooleanExpression)
  | constant (value : Bool)

structure GuardedTransition where
  target : NodeId
  guard : Option GuardExpression
  expression : Option BooleanExpression

def ComparisonOperator.holds : ComparisonOperator → Ordering → Bool
  | equal, o => o.isEq
  | notEqual, o => !o.isEq
  | lessThan, o => o.isLT
  | lessThanOrEqual, o => o.isLE
  | greaterThan, o => o.isGT
  | greaterThanOrEqual, o => o.isGE

def GuardExpression.evaluate (guard : GuardExpression) (vars : Variables) :
    Except DomainError Bool :=
  match vars[guard.variableName]? with
  | none => .error (.guardVariableMissing guard.variableName)
  | some actual =>
    match actual.sameTypeCmp guard.literal with
    | none => .error (.guardTypeMismatch guard.variableName actual.typeName guard.literal.typeName)
    | some ordering => .ok (guard.operator.holds ordering)

mutual

def BooleanExpression.evaluate (vars : Variables) : BooleanExpression → Except DomainError Bool
  | .comparison guard => guard.evaluate vars
  | .conjunction operands => BooleanExpression.evaluateAll vars operands
  | .disjunction operands => BooleanExpression.evaluateAny vars operands
  | .negation operand => do return !(← BooleanExpression.evaluate vars operand)
  | .constant value => .ok value

def BooleanExpression.evaluateAll (vars : Variables) :
    List BooleanExpression → Except DomainError Bool
  | [] => .ok true
  | operand :: rest => do
    if ← BooleanExpression.evaluate vars operand then
      BooleanExpression.evaluateAll vars rest
    else
      return false

def BooleanExpression.evaluateAny (vars : Variables) :
    List BooleanExpression → Except DomainError Bool
  | [] => .ok false
  | operand :: rest => do
    if ← BooleanExpression.evaluate vars operand then
      return true
    else
      BooleanExpression.evaluateAny vars rest

end

namespace GuardedTransition

def isDefault (transition : GuardedTransition) : Bool :=
  transition.guard.isNone && transition.expression.isNone

def evaluate (transition : GuardedTransition) (vars : Variables) : Except DomainError Bool :=
  match transition.guard, transition.expression with
  | some guard, none => guard.evaluate vars
  | none, some expression => expression.evaluate vars
  | none, none => .ok true
  | some _, some _ => .error .conflictingGuardRepresentations

end GuardedTransition

end BpmpPlatform
