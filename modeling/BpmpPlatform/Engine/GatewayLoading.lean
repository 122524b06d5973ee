import BpmpPlatform.Engine.WirLoader
import BpmpPlatform.Runtime.Agreement

/-! # Gateways as the loader takes them

Coverage is compared with the guards of exclusive gateways only, after an `expect` has taken the guards out.
-/
namespace BpmpPlatform
open Std Outcome List

@[grind] def DomainError.isPanic : DomainError → Bool
  | .panicked _ => true
  | _ => false

/-- An outcome other than a panic. -/
abbrev Returns {α : Type} (x : Except DomainError α) : Prop := FailsWith (fun e => e.isPanic = false) x

/-- A covered gateway that passes the checks before the `expect`, with a branch that has no simple guard. -/
def Node.missesGuard : Node → Bool
  | .exclusiveGateway transitions (some coverage) =>
    decide (2 ≤ transitions.length) && !transitions.any GuardedTransition.isDefault &&
      decide (coverage.domain ≠ .symbolic) && !Text.isBlank coverage.variableName &&
      transitions.any (·.guard.isNone)
  | _ => false

/-- Validation gets, in the order of the identifiers, to such a gateway. -/
def DefinitionInput.ReachesMissingGuard (us : UnstableSort) (input : DefinitionInput) : Prop :=
  ∃ indexed tables, indexBy (fun _ _ => .ok ()) DomainError.duplicateNode ∅ input.nodes = .ok indexed ∧
    indexBy (fun _ table => validateDecisionTable table) (fun _ => .duplicateDecisionTable) ∅
      (input.decisionTables.map fun table => (table.id, table)) = .ok tables ∧
    indexed[input.startNode]?.any Node.isStart = true ∧ ∃ before entry after,
      indexed.toList = before ++ entry :: after ∧ (∀ e ∈ before, validateNode us indexed tables e = .ok ()) ∧
      entry.2.missesGuard = true

section Coverage
variable {us : UnstableSort} {nodeId : NodeId} {ts : List GuardedTransition} {guards : List GuardExpression}

theorem coverFrom_returns {e : Option Int64} {l : List IntegerInterval} : Returns (coverFrom nodeId e l) := by
  induction l generalizing e with
  | nil => exact .error rfl
  | cons => grind [coverFrom, invalidGatewayCoverage]

theorem guardIntervals_returns : Returns (guardIntervals nodeId guards) := by
  induction guards with
  | nil => exact .ok _
  | cons => grind [guardIntervals, invalidGatewayCoverage]

theorem booleanCovered_returns {covered : List Bool} : Returns (booleanCovered nodeId covered guards) := by
  induction guards generalizing covered with
  | nil => exact .ok _
  | cons => grind [booleanCovered, invalidGatewayCoverage]

theorem enumCovered_returns {values covered : List String} : Returns (enumCovered nodeId values covered guards) := by
  induction guards generalizing covered with
  | nil => exact .ok _
  | cons => grind [enumCovered, invalidGatewayCoverage]

theorem coverageGuards_returns_iff : Returns (coverageGuards ts) ↔ ts.any (·.guard.isNone) = false := by
  induction ts with
  | nil => exact iff_of_true (.ok _) rfl
  | cons t rest ih =>
    cases hg : t.guard with
    | none =>
      refine iff_of_false (fun h => ?_) (by simp [hg])
      cases h (.panicked "checked above") (by simp [coverageGuards, hg, okOr, bind, Except.bind])
    | some =>
      simp only [coverageGuards, hg, okOr, ok_bind]
      exact (FailsWith.bind_iff fun _ _ => .pure _).trans (ih.trans (by simp [hg]))

theorem validateGatewayCoverage_returns_iff {coverage : GatewayCoverage}
    (hd : ts.any GuardedTransition.isDefault = false) :
    Returns (validateGatewayCoverage us nodeId ts coverage) ↔
      ¬(coverage.domain ≠ .symbolic ∧ Text.isBlank coverage.variableName = false ∧ ts.any (·.guard.isNone) = true) := by
  unfold validateGatewayCoverage
  split
  · rename_i hs
    simp only [hs, ne_eq, not_true, false_and, not_false_iff, iff_true]
    grind [validateSymbolicCoverage]
  · rename_i hs
    cases hb : Text.isBlank coverage.variableName with
    | true => exact iff_of_true (.error rfl) (by simp)
    | false =>
      simp only [hd, Bool.not_false, ensure, if_true, ok_bind]
      refine (FailsWith.bind_iff fun guards _ => ?_).trans (coverageGuards_returns_iff.trans (by simp [hs]))
      have hd (l : List IntegerInterval) : Returns (validateDisjointIntegerCover us nodeId l) :=
        .bind coverFrom_returns fun _ _ => .pure _
      refine .check rfl fun _ => ?_
      split
      · exact .bind booleanCovered_returns fun _ _ => .ensure fun _ => rfl
      · grind [validateEnumCoverage, enumCovered_returns]
      · grind [validateIntegerCoverage, guardIntervals_returns]
      · exact absurd ‹_› hs

theorem validateGateway_returns_iff {coverage : Option GatewayCoverage} :
    Returns (validateGateway us nodeId ts coverage) ↔ (Node.exclusiveGateway ts coverage).missesGuard = false := by
  unfold validateGateway
  cases hd : ts.any GuardedTransition.isDefault with
  | true =>
    have h0 : ts.countP GuardedTransition.isDefault ≠ 0 := by
      simpa [countP_eq_zero] using hd
    refine iff_of_true ?_ (by cases coverage <;> simp [Node.missesGuard, hd])
    grind
  | false =>
    have h0 : ts.countP GuardedTransition.isDefault = 0 := by simpa [countP_eq_zero] using hd
    rw [h0]
    cases coverage with
    | none => exact iff_of_true (.check rfl fun _ => .error rfl) rfl
    | some coverage =>
      by_cases h2 : 2 ≤ ts.length
      · simp only [h2, decide_true, ensure, okOr, if_true, ok_bind]
        refine (FailsWith.bind_iff fun _ _ => ?_).trans ((validateGatewayCoverage_returns_iff hd).trans ?_)
        · grind
        · simp [Node.missesGuard, h2, hd]
      · exact iff_of_true (by simp only [h2]; exact .error rfl) (by simp [Node.missesGuard, h2])

end Coverage

section Construction
variable {us : UnstableSort} {indexed : ExtTreeMap NodeId Node}

theorem validateNode_returns_iff {tables : ExtTreeMap String DecisionTable} {entry : NodeId × Node} :
    Returns (validateNode us indexed tables entry) ↔ entry.2.missesGuard = false := by
  obtain ⟨nodeId,node⟩ := entry
  have ht : Returns (checkAll (validateTarget indexed nodeId node) node.targets) :=
    .checkAll fun _ _ => .check rfl fun _ => .ensure fun _ => rfl
  refine (FailsWith.bind_iff fun _ _ => by grind).trans ?_
  cases node with
  | exclusiveGateway => exact validateGateway_returns_iff
  | inclusiveSplit ts coverage join =>
    refine iff_of_true (.bind (.check rfl fun _ => .check rfl fun _ =>
      .check rfl fun _ => ?_) fun _ _ => .ensure fun _ => rfl) rfl
    grind
  | _ => exact iff_of_true (by grind [validateGatewayNode, validateParallelSplit, reciprocalPair]) rfl

theorem indexBy_returns {K V : Type} [Ord K] [TransOrd K] {check : K → V → Except DomainError Unit}
    {duplicate : K → DomainError} {m : ExtTreeMap K V} {l : List (K × V)} (hc : ∀ k v, Returns (check k v))
    (hd : ∀ k, (duplicate k).isPanic = false) : Returns (indexBy check duplicate m l) := by
  induction l generalizing m with
  | nil => exact .ok _
  | cons entry rest ih => exact .bind (hc _ _) fun _ _ => .bind (.ensure fun _ => hd _) fun _ _ => ih

theorem validateDecisionTable_returns (table : DecisionTable) : Returns (validateDecisionTable table) := by
  have hr (rule : DecisionRule) : Returns (validateDecisionRule table rule) := by grind [validateDecisionRule]
  exact .check rfl fun _ => .check rfl fun _ => .checkAll fun rule _ => hr rule

theorem indexBoundaries_returns {m : ExtTreeMap NodeId (List BoundaryEventDefinition)} {ids : List NodeId}
    {entries : List (NodeId × BoundaryEventDefinition)} : Returns (indexBoundaries indexed m ids entries) := by
  induction entries generalizing m ids with
  | nil => exact .ok _
  | cons => grind [indexBoundaries]

theorem validatePropertiesFrom_returns {seen : List (String × String × String)} {properties : List ExtensionProperty} :
    Returns (validatePropertiesFrom seen properties) := by
  induction properties generalizing seen with
  | nil => exact .ok _
  | cons => grind [validatePropertiesFrom]

theorem validatePlanItems_returns {model : CaseDefinition} {seen : List PlanItemId}
    {items : List (PlanItemId × List SentryId)} : Returns (validatePlanItems model seen items) := by
  induction items generalizing seen with
  | nil => exact .ok _
  | cons => grind [validatePlanItems]

theorem validateMetadataEntry_returns (owner : NodeId) (metadata : NodeExecutionMetadata) :
    Returns (validateMetadataEntry indexed owner metadata) := by
  refine .check rfl fun _ => .check rfl fun _ =>
    .bind validatePropertiesFrom_returns fun _ _ => ?_
  grind

theorem validateScopeOwnership_returns {metadata : ExtTreeMap NodeId NodeExecutionMetadata} :
    Returns (validateScopeOwnership indexed metadata) := by
  refine .bind (.checkAll fun entry _ => ?_) fun _ _ => .checkAll fun entry _ => ?_
  · grind
  · grind

/-- A definition is constructed or refused, unless validation comes to a covered branch without a guard. -/
theorem newWithExecutionContracts_returns_iff {input : DefinitionInput} :
    Returns (WorkflowDefinition.newWithExecutionContracts us input) ↔ ¬input.ReachesMissingGuard us := by
  constructor
  · rintro h ⟨indexed,tables,hn,hts,hs,before,entry,after,hl,hb,hm⟩
    have hc : Returns (checkAll (validateNode us indexed tables) indexed.toList) := by
      intro e he
      refine h e ?_
      simp only [WorkflowDefinition.newWithExecutionContracts, hn, hts, hs, ensure, if_true, ok_bind, he]
      rfl
    have hv := validateNode_returns_iff.mp (FailsWith.checkAll_iff.mp hc before entry after hl hb)
    rw [hm] at hv
    cases hv
  · intro h
    refine .bind (indexBy_returns (fun _ _ => .ok _) fun _ => rfl) fun indexed hn =>
      .bind (indexBy_returns (fun _ => validateDecisionTable_returns) fun _ => rfl) fun tables hts =>
      .check rfl fun hs =>
      .bind (FailsWith.checkAll_iff.mpr fun before entry after hl hb => ?_) fun _ _ =>
      .bind indexBoundaries_returns fun _ _ =>
      .bind (indexBy_returns validateMetadataEntry_returns fun _ => rfl) fun _ _ =>
      .bind validateScopeOwnership_returns fun _ _ => .bind validatePropertiesFrom_returns fun _ _ =>
      .bind (indexBy_returns (fun _ _ => .check rfl fun _ => validatePlanItems_returns)
        fun _ => rfl) fun _ _ => .bind ?_ fun _ _ => .pure _
    · refine validateNode_returns_iff.mpr (Bool.eq_false_iff.mpr fun hm => h ?_)
      exact ⟨indexed,tables,hn,hts,hs,before,entry,after,hl,hb,hm⟩
    · grind [WorkflowDefinition.validateReachability]

end Construction

/-- The `expect` of the parallel split check is not reached. -/
theorem nodup_or_find_duplicate (targets : List NodeId) :
    targets.Nodup ∨ ∃ target, targets.find? (fun target => decide (1 < targets.count target)) = some target := by
  by_cases h : ∃ target ∈ targets, 1 < targets.count target
  · exact .inr (List.find?_isSome.mpr (by simpa using h) |> Option.isSome_iff_exists.mp)
  · refine .inl (nodup_iff_count_le_one.mpr fun target => ?_)
    by_cases ht : target ∈ targets
    · exact Nat.not_lt.mp fun hc => h ⟨target,ht,hc⟩
    · rw [count_eq_zero_of_not_mem ht]
      exact Nat.zero_le 1

/-- Loading panics in the constructor of definitions: mapping the message itself has nothing that can. -/
def WirLoader.Panics (us : UnstableSort) (wir : Wir.WorkflowIntermediateRepresentation) : Prop :=
  ∃ input message, mapInput wir = .ok input ∧ mapDefinition us wir = .error (.domain (.panicked message))

/-- Constructing and loading return, unless validation comes to a covered branch without a guard. -/
theorem loading_panics_iff (us : UnstableSort) :
    (∀ input, ¬Returns (WorkflowDefinition.newWithExecutionContracts us input) ↔ input.ReachesMissingGuard us) ∧
      (∀ wir, WirLoader.Panics us wir ↔ ∃ input, WirLoader.mapInput wir = .ok input ∧ input.ReachesMissingGuard us) ∧
      ∀ targets : List NodeId, targets.Nodup ∨
        ∃ target, targets.find? (fun target => decide (1 < targets.count target)) = some target := by
  have hn (input : DefinitionInput) :
      ¬Returns (WorkflowDefinition.newWithExecutionContracts us input) ↔ input.ReachesMissingGuard us :=
    newWithExecutionContracts_returns_iff.not_left
  refine ⟨hn,fun wir => exists_congr fun input => ?_,nodup_or_find_duplicate⟩
  simp only [exists_and_left]
  refine and_congr_right fun hi => Iff.trans ?_ (hn input)
  simp only [WirLoader.mapDefinition, hi, ok_bind]
  cases hc : WorkflowDefinition.newWithExecutionContracts us input with
  | ok => exact iff_of_false (by rintro ⟨_,h⟩; cases h) (not_not.mpr (.ok _))
  | error e =>
    constructor
    · rintro ⟨message,h⟩ hr
      cases h
      cases hr _ rfl
    · intro h
      cases e with
      | panicked message => exact ⟨message,rfl⟩
      | _ => exact absurd (.error rfl) h

namespace Sample

def gateWir (gate : Wir.NodeKind) (more : List Wir.Node) : Wir.WorkflowIntermediateRepresentation :=
  processWir "route" "gate" (plain "gate" gate :: more)

def paidCoverage : Wir.GatewayCoverage := ⟨"paid", 1, [], [], false⟩

end Sample

open Sample

/-- Two complex branches under a Boolean coverage. -/
theorem covered_expression_panics :
    WirLoader.Panics .insertion (gateWir (.exclusiveGateway
      [⟨"left", "", false, none, some (.constant true)⟩, ⟨"right", "", false, none, some (.constant false)⟩]
      (some paidCoverage)) [plain "left" .finish, plain "right" .finish]) :=
  ⟨_,"checked above",rfl,rfl⟩

section Inclusive
variable {vars : Variables} {ts : List GuardedTransition}

def GatewayCoverageDomain.Declares : GatewayCoverageDomain → WorkflowValue → Prop
  | .boolean, value => ∃ b, value = .boolean b
  | .enum values, value => ∃ text ∈ values, value = .string text
  | .integer intervals, value => ∃ n, value = .integer n ∧ ∃ i ∈ intervals, i.contains n = true
  | .symbolic, _ => False

section Against
variable (name : String) (value : WorkflowValue)

/-- What a guard says of a value of the covered variable: nothing if it tests another variable or another type. -/
def GuardExpression.against (guard : GuardExpression) : Option Bool :=
  if guard.variableName = name then (value.sameTypeCmp guard.literal).map guard.operator.holds else none

mutual

def BooleanExpression.against : BooleanExpression → Option Bool
  | .comparison guard => guard.against name value
  | .conjunction operands => againstAll operands
  | .disjunction operands => againstAny operands
  | .negation operand => (against operand).bind fun b => some !b
  | .constant b => some b

def BooleanExpression.againstAll : List BooleanExpression → Option Bool
  | [] => some true
  | operand :: rest => (against operand).bind fun b => if b then againstAll rest else some false

def BooleanExpression.againstAny : List BooleanExpression → Option Bool
  | [] => some false
  | operand :: rest => (against operand).bind fun b => if b then some true else againstAny rest

end

def GuardedTransition.against (transition : GuardedTransition) : Option Bool :=
  match transition.guard, transition.expression with
  | some guard, none => guard.against name value
  | none, some expression => expression.against name value
  | none, none => some true
  | some _, some _ => none

end Against

/-- The evaluation gives what the guards say, and nothing else when no other variable is bound. -/
def Settles (alone : Prop) (x : Option Bool) (y : Except DomainError Bool) : Prop :=
  (∀ b, x = some b → y = .ok b) ∧ (alone → ∀ b, y = .ok b → x = some b)

theorem Settles.some (alone : Prop) (b : Bool) : Settles alone (.some b) (.ok b) :=
  ⟨fun _ h => congrArg _ (Option.some.inj h),fun _ _ h => congrArg _ (Except.ok.inj h)⟩

theorem Settles.error (alone : Prop) (e : DomainError) : Settles alone none (.error e) :=
  ⟨fun _ h => absurd h (by simp),fun _ _ h => absurd h (by simp)⟩

theorem Settles.bind {alone : Prop} {x : Option Bool} {y : Except DomainError Bool} {f : Bool → Option Bool}
    {g : Bool → Except DomainError Bool} (h : Settles alone x y) (hf : ∀ b, Settles alone (f b) (g b)) :
    Settles alone (x.bind f) (y >>= g) := by
  refine ⟨fun b hb => ?_,fun ha b hb => ?_⟩
  · obtain ⟨b',hx,hfb⟩ := Option.bind_eq_some_iff.mp hb
    exact bind_eq_ok.mpr ⟨b',h.1 b' hx,(hf b').1 b hfb⟩
  · obtain ⟨b',hy,hgb⟩ := bind_eq_ok.mp hb
    exact Option.bind_eq_some_iff.mpr ⟨b',h.2 ha b' hy,(hf b').2 ha b hgb⟩

section
variable {name : String} {value : WorkflowValue} (hb : vars[name]? = some value) {alone : Prop}
  (ha : alone → ∀ other, vars[other]? ≠ none → other = name)

theorem BooleanExpression.settles_list {es : List BooleanExpression}
    (h : ∀ e ∈ es, Settles alone (e.against name value) (e.evaluate vars)) :
    Settles alone (againstAll name value es) (evaluateAll vars es) ∧
      Settles alone (againstAny name value es) (evaluateAny vars es) := by
  induction es with
  | nil => exact ⟨.some _ _,.some _ _⟩
  | cons e es ih =>
    rw [forall_mem_cons] at h
    obtain ⟨hall,hany⟩ := ih h.2
    refine ⟨h.1.bind fun b => ?_,h.1.bind fun b => ?_⟩
    · cases b with
      | true => exact hall
      | false => exact .some _ _
    · cases b with
      | true => exact .some _ _
      | false => exact hany

include hb ha

theorem GuardExpression.settles (g : GuardExpression) : Settles alone (g.against name value) (g.evaluate vars) := by
  unfold against evaluate
  by_cases hn : g.variableName = name
  · rw [if_pos hn, hn, hb]
    simp only
    cases value.sameTypeCmp g.literal with
    | none => exact .error _ _
    | some => exact .some _ _
  · rw [if_neg hn]
    cases hv : vars[g.variableName]? with
    | none => exact .error _ _
    | some => exact ⟨fun _ h => absurd h (by simp),fun hal => absurd (ha hal _ (by simp [hv])) hn⟩

theorem BooleanExpression.settles : (e : BooleanExpression) → Settles alone (e.against name value) (e.evaluate vars)
  | .comparison g => g.settles hb ha
  | .conjunction _ => (settles_list fun e _ => e.settles).1
  | .disjunction _ => (settles_list fun e _ => e.settles).2
  | .negation e => e.settles.bind fun _ => .some _ _
  | .constant _ => .some _ _

theorem GuardedTransition.settles (t : GuardedTransition) : Settles alone (t.against name value) (t.evaluate vars) := by
  obtain ⟨_,_ | g,_ | e⟩ := t
  · exact .some _ _
  · exact e.settles hb ha
  · exact g.settles hb ha
  · exact .error _ _

end

theorem matchingTargets_eq_ok {targets : List NodeId} (hd : ∀ t ∈ ts, t.isDefault = false) :
    matchingTargets vars ts = .ok targets ↔ (∀ t ∈ ts, ∃ b, t.evaluate vars = .ok b) ∧
      (ts.filter fun t => (t.evaluate vars).toOption == some true).map GuardedTransition.target = targets := by
  induction ts generalizing targets with
  | nil => simp [matchingTargets]
  | cons t ts ih =>
    obtain ⟨ht,hd⟩ := forall_mem_cons.mp hd
    simp only [matchingTargets, ht, Bool.false_eq_true, if_false, bind_eq_ok, pure_eq_ok, ih hd, forall_mem_cons]
    cases he : t.evaluate vars with
    | error => simp
    | ok b => cases b <;> simp [he, Except.toOption]

/-- A gateway without default routes exactly when every branch can be evaluated and one holds. -/
theorem selectTransitions_isOk_iff (gatewayId : NodeId) (hd : ∀ t ∈ ts, t.isDefault = false) :
    (∃ targets, selectTransitions gatewayId ts vars = .ok targets ∧ targets ≠ []) ↔
      (∀ t ∈ ts, ∃ b, t.evaluate vars = .ok b) ∧ ∃ t ∈ ts, t.evaluate vars = .ok true := by
  have hn : defaultTarget ts = none := by simpa [defaultTarget] using hd
  have hs (m : List NodeId) : (if m.isEmpty then (none : Option NodeId).toList else m) = m := by cases m <;> rfl
  have hf (t : GuardedTransition) : ((t.evaluate vars).toOption == some true) = true ↔ t.evaluate vars = .ok true := by
    cases t.evaluate vars <;> simp [Except.toOption]
  simp only [selectTransitions, hn, hs, bind_eq_ok, ensure_eq_ok, pure_eq_ok, matchingTargets_eq_ok hd]
  constructor
  · rintro ⟨_,⟨_,⟨he,rfl⟩,_,_,rfl⟩,h⟩
    obtain ⟨t,ht⟩ := exists_mem_of_ne_nil _ (mt map_eq_nil_iff.mpr h)
    rw [mem_filter, hf] at ht
    exact ⟨he,t,ht⟩
  · rintro ⟨he,t,ht,hv⟩
    have hm : (ts.filter fun t => (t.evaluate vars).toOption == some true).map GuardedTransition.target ≠ [] :=
      ne_nil_of_mem (mem_map_of_mem (mem_filter.mpr ⟨ht,(hf t).mpr hv⟩))
    exact ⟨_,⟨_,⟨he,rfl⟩,(),by simpa using hm,rfl⟩,hm⟩

/-- With the covered variable bound to a declared value, some target is selected. -/
def InclusiveRoutes (gatewayId : NodeId) (ts : List GuardedTransition) (coverage : GatewayCoverage) : Prop :=
  ∀ (vars : Variables) value, coverage.domain.Declares value → vars[coverage.variableName]? = some value →
    ∃ targets, selectTransitions gatewayId ts vars = .ok targets ∧ targets ≠ []

/-- A covered gateway routes exactly when, at every declared value, each of its branches decides by the covered variable alone
and one of them holds. -/
theorem inclusiveRoutes_iff (gatewayId : NodeId) (coverage : GatewayCoverage) (hd : ∀ t ∈ ts, t.isDefault = false) :
    InclusiveRoutes gatewayId ts coverage ↔ ∀ value, coverage.domain.Declares value →
      (∀ t ∈ ts, t.against coverage.variableName value ≠ none) ∧ ∃ t ∈ ts, t.against coverage.variableName value = some true := by
  simp only [InclusiveRoutes, selectTransitions_isOk_iff gatewayId hd, Option.ne_none_iff_exists']
  constructor
  · intro h value hv
    obtain ⟨he,t,ht,hh⟩ := h ((∅ : Variables).insert coverage.variableName value) value hv (by simp)
    have hdec (t : GuardedTransition) : Settles True (t.against coverage.variableName value)
        (t.evaluate ((∅ : Variables).insert coverage.variableName value)) :=
      t.settles (by simp) fun _ other hne => by
        by_contra hother
        exact hne (by simp [Ne.symm hother])
    refine ⟨fun t ht => ?_,t,ht,(hdec t).2 trivial _ hh⟩
    obtain ⟨b,hb⟩ := he t ht
    exact ⟨b,(hdec t).2 trivial b hb⟩
  · intro h vars value hv hb
    obtain ⟨he,t,ht,hh⟩ := h value hv
    have hdec (t : GuardedTransition) : Settles False (t.against coverage.variableName value) (t.evaluate vars) :=
      t.settles hb fun hf => hf.elim
    refine ⟨fun t ht => ?_,t,ht,(hdec t).1 _ hh⟩
    obtain ⟨b,hb⟩ := he t ht
    exact ⟨b,(hdec t).1 b hb⟩

end Inclusive

namespace Sample

def paidBranches (other : Bool) : List GuardedTransition :=
  [⟨.lit "work", some ⟨"paid", .equal, .boolean true⟩, none⟩, ⟨.lit "join", some ⟨"paid", .equal, .boolean other⟩, none⟩]

def paidInput (other : Bool) : DefinitionInput := process (.lit "route")
  [(.lit "start", .start (.lit "gate")),
    (.lit "gate", .inclusiveSplit (paidBranches other) (some ⟨"paid", .boolean⟩) (.lit "join")),
    (.lit "work", .serviceTask (.lit "work") (.lit "join")), (.lit "join", .inclusiveJoin (.lit "gate") (.lit "end")),
    (.lit "end", .finish)]

end Sample

/-- Both branches ask for `paid == true`: the definition is accepted, and an unpaid order has no branch. -/
theorem covered_inclusive_no_branch :
    (WorkflowDefinition.newWithExecutionContracts .insertion (paidInput true)).isOk = true ∧
      GatewayCoverageDomain.boolean.Declares (.boolean false) ∧
      selectTransitions (.lit "gate") (paidBranches true) ((∅ : Variables).insert "paid" (.boolean false)) =
        .error (.noGatewayBranch (.lit "gate")) := by
  exact ⟨by decide,⟨false,rfl⟩,by rfl⟩

theorem inclusiveRoutes_paid :
    (WorkflowDefinition.newWithExecutionContracts .insertion (paidInput false)).isOk = true ∧
      InclusiveRoutes (.lit "gate") (paidBranches false) ⟨"paid", .boolean⟩ := by
  refine ⟨by decide,(inclusiveRoutes_iff (.lit "gate") ⟨"paid", .boolean⟩ (by decide)).mpr ?_⟩
  rintro _ ⟨b,rfl⟩
  cases b <;> decide

end BpmpPlatform
