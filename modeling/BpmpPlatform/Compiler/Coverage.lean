import BpmpPlatform.Core.GatewayCover
import BpmpPlatform.Engine.WirLoader
import BpmpPlatform.Runtime.Agreement

/-! # Integer coverage in the compiler

`analyze_integer_coverage` of the BPMN compiler. Its scan is the one of the domain core with other errors, so both
validators are sound under the same condition.
-/
namespace BpmpPlatform
open Std Outcome WirLoader

namespace Compiler

inductive CoverageError
  | ambiguous (detail : String)
  | nonExhaustive (detail : String)

inductive CoverageProof
  | boolean (variableName : String)
  | enum (variableName : String) (values : List String)
  | integer (variableName : String) (intervals : List IntegerInterval)
  | symbolic

def guardIntervals : List Wir.GuardExpression → Except CoverageError (List IntegerInterval)
  | [] => .ok []
  | guard :: rest =>
    match guard.literal with
    | some (.integerValue value) => do
      -- an unspecified operator and an unknown number are refused with one text
      let operator ← (mapComparisonOperator guard.operator).mapError fun _ =>
        .nonExhaustive "invalid comparison operator"
      return integerGuardIntervals operator value ++ (← guardIntervals rest)
    | _ => .error (.nonExhaustive "integer coverage cannot mix literal types")

def coverFrom : Option Int64 → List IntegerInterval → Except CoverageError Unit
  | _, [] => .error (.nonExhaustive "integer intervals do not cover the unbounded upper range")
  | expectedLower, interval :: rest => do
    match compare (interval.lower.getD Int64.minValue) (expectedLower.getD Int64.minValue) with
    | .lt => .error (.ambiguous "integer intervals overlap")
    | .gt => .error (.nonExhaustive "integer intervals leave an uncovered gap")
    | .eq =>
      ensure (interval.lower.all fun lower => interval.upper.all fun upper => decide (lower ≤ upper))
        (.nonExhaustive "integer interval lower bound is above upper bound")
      match interval.upper with
      | none => return ()
      | some value =>
        match checkedNext value with
        | none => return ()
        | some next => coverFrom (some next) rest

def validateDisjointIntegerCover (us : UnstableSort) (intervals : List IntegerInterval) :
    Except CoverageError (List IntegerInterval) := do
  ensure (!intervals.isEmpty) (.nonExhaustive "integer coverage has no intervals")
  let sorted := us.sort compareIntervals intervals
  coverFrom none sorted
  return sorted

/-- One round of the merging loop; the last interval of `merged` stands first. -/
def mergeInterval : List IntegerInterval → IntegerInterval → List IntegerInterval
  | [], interval => [interval]
  | last :: merged, interval =>
    if (last.upper.bind checkedNext).all fun next => interval.lower.all fun lower => decide (lower ≤ next) then
      ⟨last.lower, do return max (← last.upper) (← interval.upper)⟩ :: merged
    else interval :: last :: merged

def mergeAndValidateIntegerCover (us : UnstableSort) (intervals : List IntegerInterval) :
    Except CoverageError (List IntegerInterval) := do
  ensure (!intervals.isEmpty) (.nonExhaustive "integer coverage has no intervals")
  let merged := (us.sort compareIntervals intervals).foldl mergeInterval []
  ensure (decide (merged = [⟨none, none⟩])) (.nonExhaustive "integer intervals do not cover the full domain")
  return merged

def analyzeIntegerCoverage (us : UnstableSort) (variableName : String) (guards : List Wir.GuardExpression)
    (allowOverlap : Bool) : Except CoverageError CoverageProof := do
  let intervals ← guardIntervals guards
  let intervals ← if allowOverlap then mergeAndValidateIntegerCover us intervals
    else validateDisjointIntegerCover us intervals
  return .integer variableName intervals

variable {guards : List Wir.GuardExpression} {l : List IntegerInterval} {nodeId : NodeId}

theorem coverFrom_domain {e : Option Int64} (h : coverFrom e l = .ok ()) :
    BpmpPlatform.coverFrom nodeId e l = .ok () := by
  induction l generalizing e with
  | nil => cases h
  | cons i rest ih =>
    unfold coverFrom at h
    unfold BpmpPlatform.coverFrom
    cases hc : compare (i.lower.getD Int64.minValue) (e.getD Int64.minValue) with
    | lt | gt =>
      rw [hc] at h
      cases h
    | eq =>
      simp only [hc, bind_eq_ok, ensure_eq_ok] at h ⊢
      obtain ⟨u,hle,h⟩ := h
      refine ⟨u,hle,?_⟩
      split at h
      · simp [*]
      · split at h
        · simp [*]
        · simp [*]

theorem guardIntervals_loaded {loaded : List GuardExpression} (h : guardIntervals guards = .ok l)
    (hl : collectAll mapGuard guards = .ok loaded) : BpmpPlatform.guardIntervals nodeId loaded = .ok l := by
  induction guards generalizing l loaded with
  | nil =>
    cases h
    cases hl
    rfl
  | cons g rest ih =>
    simp only [collectAll, mapGuard, bind_eq_ok, okOr_eq_ok, ensure_eq_ok, pure_eq_ok] at hl
    obtain ⟨_,⟨op,hop,literal,hlit,_,_,rfl⟩,loaded',hr,rfl⟩ := hl
    unfold guardIntervals at h
    split at h
    · rename_i value hv
      simp only [bind_eq_ok, mapError_eq_ok] at h
      obtain ⟨op',hop',l',hl',⟨⟩⟩ := h
      cases hop.symm.trans hop'
      cases hlit.symm.trans hv
      simp [BpmpPlatform.guardIntervals, mapLiteral, ih hl' hr]
    · cases h

end Compiler

/-- The gateways with a checked integer coverage: those of accepted definitions, and those whose guards on one
variable the compiler analysed without overlap. It sorts the transitions by target, so the loaded guards stand in
any order. -/
inductive IntegerChecked (gatewayId : NodeId) (variableName : String) (transitions : List GuardedTransition) :
    List IntegerInterval → Prop
  | definition {d : WorkflowDefinition} {intervals : List IntegerInterval} (hd : d.Accepted)
      (hn : d.nodes[gatewayId]? = some (.exclusiveGateway transitions (some ⟨variableName, .integer intervals⟩))) :
      IntegerChecked gatewayId variableName transitions intervals
  | compiled {us : UnstableSort} {guards : List Wir.GuardExpression} {intervals : List IntegerInterval}
      {loaded : List GuardExpression}
      (h : Compiler.analyzeIntegerCoverage us variableName guards false = .ok (.integer variableName intervals))
      (hvar : ∀ g ∈ guards, g.variableName = variableName) (hload : collectAll mapGuard guards = .ok loaded)
      (ht : (transitions.map (·.guard)).Perm (loaded.map some)) :
      IntegerChecked gatewayId variableName transitions intervals

variable {gatewayId : NodeId} {variableName : String} {transitions : List GuardedTransition}
  {intervals : List IntegerInterval}

theorem IntegerChecked.scan (h : IntegerChecked gatewayId variableName transitions intervals) :
    IntegerScan variableName transitions intervals := by
  cases h with
  | definition hd hn => exact .of_accepted hd hn
  | @compiled us guards _ loaded h hvar hl ht =>
    simp only [Compiler.analyzeIntegerCoverage, Compiler.validateDisjointIntegerCover, Bool.false_eq_true, if_false,
      bind_eq_ok, pure_eq_ok, ensure_eq_ok, Compiler.CoverageProof.integer.injEq, true_and] at h
    obtain ⟨l,hli,_,⟨_,_,_,hs,rfl⟩,rfl⟩ := h
    have hc : validateDisjointIntegerCover us gatewayId l = .ok (us.sort compareIntervals l) := by
      simp only [validateDisjointIntegerCover, bind_eq_ok, pure_eq_ok]
      exact ⟨_,Compiler.coverFrom_domain hs,trivial⟩
    refine .of_guards ht ?_ (Compiler.guardIntervals_loaded hli hl) hc (us.perm _ l).symm
    intro g' hg'
    obtain ⟨g,hg,hmap⟩ := exists_of_collectAll hl hg'
    simp only [mapGuard, bind_eq_ok] at hmap
    obtain ⟨_,_,_,_,_,_,⟨⟩⟩ := hmap
    exact hvar g hg

/-- Every value has exactly one branch if and only if no branch carries a second guard representation and no
interval is hidden by one that reaches the top of the range. -/
theorem integerCovered_iff_noneHidden (h : IntegerChecked gatewayId variableName transitions intervals) :
    IntegerCovered gatewayId variableName transitions ↔
      (∀ t ∈ transitions, t.expression = none) ∧ NoneHidden intervals :=
  h.scan.covered_iff

namespace Sample

def amountBranch (target : NodeId) (op : ComparisonOperator) (value : Int64) : GuardedTransition :=
  ⟨target, some ⟨"amount", op, .integer value⟩, none⟩

def amountBranches (others : List GuardedTransition) : List GuardedTransition :=
  [amountBranch (.lit "small") .lessThan 10, amountBranch (.lit "large") .greaterThanOrEqual 10] ++ others

def amountIntervals (others : List IntegerInterval) : List IntegerInterval :=
  [⟨none, some 9⟩, ⟨some 10, none⟩] ++ others

def amountInput (others : List GuardedTransition) (intervals : List IntegerInterval) : DefinitionInput :=
  process (.lit "amount") [(.lit "start", .start (.lit "route")), (.lit "route",
      .exclusiveGateway (amountBranches others) (some ⟨"amount", .integer (amountIntervals intervals)⟩)),
    (.lit "small", .serviceTask (.lit "small") (.lit "end")), (.lit "large", .serviceTask (.lit "large") (.lit "end")),
    (.lit "end", .finish)]

def fifty : List GuardedTransition := [amountBranch (.lit "end") .equal 50]

end Sample

open Sample

/-- `amount == 50` sorts after `amount >= 10`, at which the scan returns: the definition is accepted, and at 50 the
gateway is ambiguous. -/
theorem hidden_branch_ambiguous : IntegerChecked (.lit "route") "amount" (amountBranches fifty)
        (amountIntervals [⟨some 50, some 50⟩]) ∧
      selectTransition (.lit "route") (amountBranches fifty)
          ((∅ : Variables).insert "amount" (.integer 50)) = .error (.ambiguousGateway (.lit "route")) ∧
      ¬IntegerCovered (.lit "route") "amount" (amountBranches fifty) := by
  have hs : selectTransition (.lit "route") (amountBranches fifty)
      ((∅ : Variables).insert "amount" (.integer 50)) = .error (.ambiguousGateway (.lit "route")) := by rfl
  have hd := build_accepted (amountInput fifty [⟨some 50, some 50⟩]) (by decide)
  refine ⟨.definition hd (by rfl),hs,fun h => ?_⟩
  obtain ⟨_,target,ht⟩ := h ((∅ : Variables).insert "amount" (.integer 50)) 50 (by rfl)
  rw [hs] at ht
  cases ht

theorem integerCovered_two_branches : IntegerCovered (.lit "route") "amount" (amountBranches []) := by
  have hd := build_accepted (amountInput [] []) (by decide)
  have h : IntegerChecked (.lit "route") "amount" (amountBranches []) (amountIntervals []) :=
    .definition hd (by rfl)
  exact (integerCovered_iff_noneHidden h).mpr ⟨by decide,by decide⟩

end BpmpPlatform
