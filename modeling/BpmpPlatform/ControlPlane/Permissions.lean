import BpmpPlatform.ControlPlane.Temporal

/-! # Deciding over the matching permissions

The last part of `evaluate_inner`. A deny permission whose condition cannot be parsed is skipped, a failure and a
denial race for the first place, and of the row filters of a permission only the first is kept.
-/
namespace BpmpPlatform.ControlPlane
open Outcome

inductive PolicyEffect
  | allow
  | deny
  deriving DecidableEq

inductive PermissionScope
  | own
  | branch
  | all
  deriving DecidableEq

structure FieldFilterConfig where
  (allowedFields maskedFields : List String)
  maskPattern : Option String

/-- A permission of the user with the conditions of its role and policy, as JSON values. -/
structure ResolvedPermission (J : Type) where
  id : PermissionId
  scope : PermissionScope
  (extraConditions policyCondition : Option J)
  rowFilterExprs : List J
  fieldFilter : Option FieldFilterConfig
  policyEffect : PolicyEffect

/-- What the loop calls for a request: the stored temporal policies and the bundles, the reading of JSON values as condition
trees, the resolution of relations in query mode, the evaluation of a tree (its attributes, then its relations) and the
translation of a row filter, when the catalogue has the resource type. -/
structure Pipeline (J A F : Type) where
  typedQuery : Bool
  platform : Platform
  tenantId : TenantId
  env : EnvContext
  bundles : PolicyBundleCache
  temporalPolicies : PermissionId → List (TenantId × TemporalPolicy)
  conjunction : List J → J
  parse : J → Option A
  resolveQueryRelations : A → Except AuthzError A
  evaluateTree : A → Except AuthzError Bool
  dispatch : Option (A → Except AuthzError F)

structure Selection (J : Type) where
  permission : PermissionId
  rowFilter : Option J
  fieldFilter : Option FieldFilterConfig

inductive Verdict (J : Type)
  | explicitDeny
  | conditionFailed
  | allow (selection : Selection J)

inductive AuthzResponse (A F : Type)
  | deny (reason : String)
  | allow (rowFilter : Option F) (rowFilterAst : Option A) (fieldFilter : Option FieldFilterConfig)

def decision {A F : Type} : Except AuthzError (AuthzResponse A F) → Option Bool
  | .ok (.allow ..) => some true
  | .ok (.deny _) => some false
  | .error _ => none

def FieldFilterConfig.merge (previous next : FieldFilterConfig) : Except AuthzError FieldFilterConfig := do
  let allowedFields :=
    if previous.allowedFields.isEmpty then next.allowedFields
    else if next.allowedFields.isEmpty then previous.allowedFields
    else previous.allowedFields.filter next.allowedFields.contains
  ensure (previous.allowedFields.isEmpty || !allowedFields.isEmpty) (.invalidRequest "disjoint field grants")
  let maskedFields := ((previous.maskedFields ++ next.maskedFields).insertionSort (· ≤ ·)).dedup
  return { previous with allowedFields, maskedFields }

def ResolvedPermission.conditions {J : Type} (perm : ResolvedPermission J) : List J :=
  perm.policyCondition.toList ++ perm.extraConditions.toList

namespace Pipeline
variable {J A F : Type} (pipe : Pipeline J A F)

def evaluateTemporalForPermission (permission : PermissionId) : Except AuthzError Bool :=
  if pipe.typedQuery then do
    let policies := ((pipe.temporalPolicies permission).filter fun row =>
      decide (row.1 = pipe.tenantId) && decide (row.2.permissionId = permission)).map Prod.snd
    ensure (!policies.any TemporalPolicy.requireShift)
      (.invalidRequest "query shift verification provider is not configured")
    return (← evaluateTemporalGate pipe.platform pipe.env policies).allowed
  else match pipe.bundles.get pipe.tenantId with
    | none => pure true
    | some bundle =>
      TemporalResult.allowed <$> evaluateTemporalGateWithBundle pipe.platform permission bundle pipe.env

variable (perm : ResolvedPermission J) (perms : List (ResolvedPermission J)) {selected : Option (Selection J)}

def evaluatePermissionConditions : Except AuthzError Bool :=
  if perm.conditions.isEmpty then pure true
  else match pipe.parse (pipe.conjunction perm.conditions) with
    | none => if pipe.typedQuery then throw (.invalidRequest "Invalid query authorization condition") else pure false
    | some ast => do
      let ast ← if pipe.typedQuery then pipe.resolveQueryRelations ast else pure ast
      pipe.evaluateTree ast

def applies : Except AuthzError Bool := do
  if ← pipe.evaluateTemporalForPermission perm.id then pipe.evaluatePermissionConditions perm else return false

def addRow (selection : Selection J) : Except AuthzError (Selection J) := do
  let rowFilter := match selection.rowFilter, perm.rowFilterExprs.head? with
    | some previous, some next => some (pipe.conjunction [previous, next])
    | previous, next => previous <|> next
  let fieldFilter ← match selection.fieldFilter, perm.fieldFilter with
    | some previous, some next => some <$> previous.merge next
    | previous, next => pure (previous <|> next)
  return { selection with rowFilter, fieldFilter }

/-- A query needs a row filter for a scope other than all. -/
def lacksRows : Bool := pipe.typedQuery && decide (perm.scope ≠ .all) && perm.rowFilterExprs.isEmpty

def selection : Selection J := ⟨perm.id, perm.rowFilterExprs.head?, perm.fieldFilter⟩

/-- The first allow permission that applies is selected, unless a query needs a row filter that it lacks. -/
def select : Option (Selection J) → Except AuthzError (Option (Selection J))
  | none => pure (if pipe.lacksRows perm then none else some (selection perm))
  | some selection =>
    if pipe.typedQuery && decide (selection.permission = perm.id) then some <$> pipe.addRow perm selection
    else pure (some selection)

def decidePermissions : Option (Selection J) → List (ResolvedPermission J) → Except AuthzError (Verdict J)
  | none, [] => pure .conditionFailed
  | some selection, [] => pure (.allow selection)
  | selected, perm :: perms => do
    if ← pipe.applies perm then
      match perm.policyEffect with
      | .deny => return .explicitDeny
      | .allow => decidePermissions (← pipe.select perm selected) perms
    else decidePermissions selected perms

/-- The predicate for the request's backend; a resource type that the catalogue lacks gives the empty filter. -/
def translateRowFilter (ast : A) : Except AuthzError (Option F) :=
  match pipe.dispatch with
  | none => pure none
  | some translate => some <$> translate ast

def respond (selection : Selection J) : Except AuthzError (AuthzResponse A F) :=
  match selection.rowFilter with
  | none => pure (.allow none none selection.fieldFilter)
  | some json => do
    let ast ← okOr (.invalidRequest "Invalid row filter AST") (pipe.parse json)
    let filter ← bif pipe.typedQuery then pure none else pipe.translateRowFilter ast
    return .allow filter (some ast) selection.fieldFilter

def evaluateMatching : Except AuthzError (AuthzResponse A F) := do
  match ← pipe.decidePermissions none perms with
  | .explicitDeny => return .deny "EXPLICIT_DENY"
  | .conditionFailed => return .deny "POLICY_CONDITION_FAILED"
  | .allow selection => pipe.respond selection

def Fails : Prop := ∃ failure, pipe.applies perm = .error failure

def Denies : Prop := perm.policyEffect = .deny ∧ pipe.applies perm = .ok true

def Grants : Prop := perm.policyEffect = .allow ∧ pipe.applies perm = .ok true ∧ pipe.lacksRows perm = false

def ConditionFalse : Prop :=
  (pipe.parse (pipe.conjunction perm.conditions)).isSome ∧ pipe.evaluatePermissionConditions perm = .ok false

/-- Access is granted only by an allow permission that applies and against no deny permission, and in every order alike. -/
def DenyWins : Prop :=
  (decision (pipe.evaluateMatching perms) = some true →
    (∃ p ∈ perms, p.policyEffect = .allow ∧ pipe.applies p = .ok true) ∧
      ∀ p ∈ perms, p.policyEffect = .deny → pipe.evaluateTemporalForPermission p.id = .ok true → pipe.ConditionFalse p) ∧
    ∀ other, perms.Perm other → decision (pipe.evaluateMatching other) = decision (pipe.evaluateMatching perms)

/-- A response can carry the row filter: it can be read and, outside a query, translated. -/
def Usable (rowFilter : Option J) : Prop :=
  ∀ json ∈ rowFilter, ∃ tree, pipe.parse json = some tree ∧
    (pipe.typedQuery = false → ∃ filter, pipe.translateRowFilter tree = .ok filter)

/-- The allow permission that applies first. -/
def allowsThrough : Option (ResolvedPermission J) :=
  perms.find? fun p => decide (p.policyEffect = .allow) && decide (pipe.applies p = .ok true)

def Clean : Prop := ∀ p ∈ perms, ¬pipe.Fails p ∧ ¬pipe.Denies p

/-- No permission fails beside one that denies. When none fails or denies and one that grants has a usable row filter, the
others that grant have one too, and the deny permissions that the gate lets through have conditions that can be read. -/
def Readable : Prop :=
  (∀ p ∈ perms, pipe.Fails p → ∀ q ∈ perms, ¬pipe.Denies q) ∧
    (pipe.Clean perms → ∀ p ∈ perms, pipe.Grants p → pipe.Usable p.rowFilterExprs.head? → ∀ q ∈ perms,
      (pipe.Grants q → pipe.Usable q.rowFilterExprs.head?) ∧ (q.policyEffect = .deny →
        pipe.evaluateTemporalForPermission q.id = .ok true → (pipe.parse (pipe.conjunction q.conditions)).isSome))

/-- The row filter can be read, and the field of the permission is allowed. -/
def Fits (field : PermissionId → String) (selection : Selection J) : Prop :=
  (∀ json ∈ selection.rowFilter, (pipe.parse json).isSome) ∧
    ∀ config ∈ selection.fieldFilter, config.allowedFields = [] ∨ field selection.permission ∈ config.allowedFields

/-- What a query merges fits together: the row filters can be read, alone and joined, and the field filters of a permission
have a field in common. -/
def Mergeable : Prop :=
  (∀ a b, (pipe.parse a).isSome → (pipe.parse b).isSome → (pipe.parse (pipe.conjunction [a, b])).isSome) ∧
    ∃ field : PermissionId → String, ∀ p ∈ perms, p.policyEffect = .allow → pipe.applies p = .ok true →
      pipe.Fits field (selection p)

variable {pipe perm perms}

theorem select_isSome {next : Option (Selection J)} (done : pipe.select perm selected = .ok next) :
    next.isSome ↔ selected.isSome ∨ pipe.lacksRows perm = false := by
  cases selected with
  | none =>
    cases done
    cases pipe.lacksRows perm <;> simp
  | some selection =>
    simp only [select] at done
    split at done
    · obtain ⟨next,_,rfl⟩ := map_eq_ok.mp done
      simp
    · cases done
      simp

/-- What the loop finds: a deny permission that applies, or every permission evaluated, with whether one was selected. -/
theorem decidePermissions_ok {verdict : Verdict J} (done : pipe.decidePermissions selected perms = .ok verdict) :
    (verdict = .explicitDeny ∧ ∃ p ∈ perms, pipe.Denies p) ∨ pipe.Clean perms ∧
      ((∃ s, verdict = .allow s) ∧ (selected.isSome ∨ ∃ p ∈ perms, pipe.Grants p) ∨
        verdict = .conditionFailed ∧ ¬(selected.isSome ∨ ∃ p ∈ perms, pipe.Grants p)) := by
  induction perms generalizing selected with
  | nil => cases selected <;> cases done <;> simp [Clean]
  | cons perm perms ih =>
    simp only [decidePermissions, bind_eq_ok] at done
    obtain ⟨b,applied,done⟩ := done
    have evaluated : ¬pipe.Fails perm := by simp [Fails, applied]
    cases b with
    | false =>
      have skipped : ¬pipe.Denies perm ∧ ¬pipe.Grants perm := by simp [Denies, Grants, applied]
      simpa [Clean, skipped, evaluated] using ih done
    | true =>
      cases effect : perm.policyEffect with
      | deny =>
        simp only [effect] at done
        cases done
        exact .inl ⟨rfl,perm,by simp,effect,applied⟩
      | allow =>
        simp only [effect, bind_eq_ok, if_true] at done
        obtain ⟨next,chosen,done⟩ := done
        have notDenied : ¬pipe.Denies perm := by simp [Denies, effect]
        have grants : pipe.Grants perm ↔ pipe.lacksRows perm = false := by simp [Grants, effect, applied]
        have rest := ih done
        rw [select_isSome chosen, ← grants, or_assoc] at rest
        simpa [Clean, notDenied, evaluated] using rest

theorem respond_ok {selection : Selection J} {response : AuthzResponse A F} (done : pipe.respond selection = .ok response) :
    ∃ filter ast, response = .allow filter ast selection.fieldFilter ∧ ∀ json ∈ selection.rowFilter,
      ∃ tree, pipe.parse json = some tree ∧ ast = some tree ∧
        (pipe.typedQuery = false → pipe.translateRowFilter tree = .ok filter) := by
  cases rows : selection.rowFilter with
  | none =>
    rw [respond, rows] at done
    cases done
    exact ⟨none,none,rfl,by simp⟩
  | some json =>
    simp only [respond, rows, bind_eq_ok, okOr_eq_ok] at done
    obtain ⟨tree,parsed,filter,translated,done⟩ := done
    cases done
    refine ⟨filter,some tree,rfl,?_⟩
    rintro json ⟨⟩
    exact ⟨tree,parsed,rfl,fun direct => by simpa [direct] using translated⟩

open Classical in
theorem decision_respond (selection : Selection J) :
    decision (pipe.respond selection) = if pipe.Usable selection.rowFilter then some true else none := by
  cases done : pipe.respond selection with
  | ok response =>
    obtain ⟨filter,ast,rfl,carried⟩ := respond_ok done
    refine (if_pos fun json rows => ?_).symm
    obtain ⟨tree,parsed,-,translated⟩ := carried json rows
    exact ⟨tree,parsed,fun direct => ⟨filter,translated direct⟩⟩
  | error failure =>
    refine (if_neg fun usable => ?_).symm
    cases rows : selection.rowFilter with
    | none => simp [respond, rows, pure, Except.pure] at done
    | some json =>
      obtain ⟨tree,parsed,translated⟩ := usable json rows
      cases direct : pipe.typedQuery with
      | true => simp [respond, rows, parsed, direct, okOr, ok_bind, pure, Except.pure] at done
      | false =>
        obtain ⟨filter,translated⟩ := translated direct
        simp [respond, rows, parsed, direct, okOr, translated, ok_bind, pure, Except.pure] at done

section Kept
variable {Kept : Option (Selection J) → Prop}

variable (pipe perms Kept) in
/-- Selecting does not fail and keeps what holds of the selection. -/
def Keeps : Prop :=
  ∀ p ∈ perms, p.policyEffect = .allow → pipe.applies p = .ok true → ∀ selected, Kept selected →
    ∃ next, pipe.select p selected = .ok next ∧ Kept next

theorem decidePermissions_total (evaluated : ∀ p ∈ perms, ¬pipe.Fails p) (keeps : pipe.Keeps perms Kept)
    (start : Kept selected) :
    ∃ verdict, pipe.decidePermissions selected perms = .ok verdict ∧ ∀ s, verdict = .allow s → Kept (some s) := by
  induction perms generalizing selected with
  | nil =>
    cases selected with
    | none => exact ⟨_,rfl,by simp⟩
    | some selection => exact ⟨_,rfl,by simpa using start⟩
  | cons perm perms ih =>
    rw [List.forall_mem_cons] at evaluated
    have ih {selected : Option (Selection J)} := @ih selected evaluated.2 fun p mem => keeps p (.tail _ mem)
    cases applied : pipe.applies perm with
    | error failure => exact (evaluated.1 ⟨failure,applied⟩).elim
    | ok b =>
      cases b with
      | false => simpa [decidePermissions, applied, ok_bind] using ih start
      | true =>
        cases effect : perm.policyEffect with
        | deny => exact ⟨.explicitDeny,by simp [decidePermissions, applied, effect, ok_bind, pure, Except.pure],by simp⟩
        | allow =>
          obtain ⟨next,chosen,kept⟩ := keeps perm (.head _) effect applied selected start
          simpa [decidePermissions, applied, effect, chosen, ok_bind] using ih kept

open Classical in
/-- The decision when no failure races a denial and the selections that can be reached are usable alike. -/
theorem decision_evaluateMatching {usable : Prop} (order : ∀ p ∈ perms, pipe.Fails p → ∀ q ∈ perms, ¬pipe.Denies q)
    (keeps : pipe.Keeps perms Kept) (start : Kept none)
    (alike : pipe.Clean perms → ∀ s, Kept (some s) → (pipe.Usable s.rowFilter ↔ usable)) :
    decision (pipe.evaluateMatching perms) = if ∃ p ∈ perms, pipe.Fails p then none
      else if (∀ p ∈ perms, ¬pipe.Denies p) ∧ ∃ p ∈ perms, pipe.Grants p then if usable then some true else none
      else some false := by
  by_cases fails : ∃ p ∈ perms, pipe.Fails p
  · rw [if_pos fails]
    obtain ⟨p,mem,fails⟩ := fails
    cases run : pipe.decidePermissions none perms with
    | error => simp [evaluateMatching, run, decision, Bind.bind, Except.bind]
    | ok verdict =>
      obtain ⟨-,q,qmem,denied⟩ | ⟨clean,-⟩ := decidePermissions_ok run
      · exact (order p mem fails q qmem denied).elim
      · exact ((clean p mem).1 fails).elim
  · rw [if_neg fails]
    obtain ⟨verdict,run,kept⟩ := decidePermissions_total (by simpa using fails) keeps start
    simp only [evaluateMatching, run, ok_bind]
    obtain ⟨rfl,p,mem,denied⟩ | ⟨clean,⟨⟨selection,rfl⟩,granted⟩ | ⟨rfl,granted⟩⟩ := decidePermissions_ok run
    · exact (if_neg fun free => free.1 p mem denied).symm
    · rw [if_pos ⟨fun p mem => (clean p mem).2,by simpa using granted⟩, decision_respond]
      simp only [alike clean selection (kept _ rfl)]
    · exact (if_neg fun free => granted (.inr free.2)).symm

variable (Kept) in
theorem denyWins_of_alike (usable : Prop) (order : ∀ p ∈ perms, pipe.Fails p → ∀ q ∈ perms, ¬pipe.Denies q)
    (keeps : pipe.Keeps perms Kept) (start : Kept none)
    (alike : pipe.Clean perms → ∀ s, Kept (some s) → (pipe.Usable s.rowFilter ↔ usable))
    (readable : pipe.Clean perms → (∃ p ∈ perms, pipe.Grants p) → usable → ∀ q ∈ perms, q.policyEffect = .deny →
      pipe.evaluateTemporalForPermission q.id = .ok true → (pipe.parse (pipe.conjunction q.conditions)).isSome) :
    pipe.DenyWins perms := by
  classical
  refine ⟨fun allowed => ?_,fun other same => ?_⟩
  · rw [decision_evaluateMatching order keeps start alike] at allowed
    split_ifs at allowed with fails granted ready
    swap
    · cases allowed
    have clean : pipe.Clean perms := fun p mem => ⟨fun failed => fails ⟨p,mem,failed⟩,granted.1 p mem⟩
    obtain ⟨-,p,mem,grants⟩ := id granted
    refine ⟨⟨p,mem,grants.1,grants.2.1⟩,fun q qmem denies gate => ⟨readable clean granted.2 ready q qmem denies gate,?_⟩⟩
    cases applied : pipe.applies q with
    | error failure => exact ((clean q qmem).1 ⟨failure,applied⟩).elim
    | ok b =>
      cases b with
      | true => exact ((clean q qmem).2 ⟨denies,applied⟩).elim
      | false => simpa [applies, gate, ok_bind] using applied
  · have reordered : decision (pipe.evaluateMatching other) = _ :=
      decision_evaluateMatching (by simpa only [same.mem_iff] using order) (by simpa only [Keeps, same.mem_iff] using keeps) start (by simpa only [Clean, same.mem_iff] using alike)
    rw [reordered, decision_evaluateMatching order keeps start alike]
    simp only [same.mem_iff]

end Kept

section Direct
variable (direct : pipe.typedQuery = false)
include direct

theorem decidePermissions_direct (clean : pipe.Clean perms) : pipe.decidePermissions selected perms =
    .ok ((selected <|> (pipe.allowsThrough perms).map selection).elim .conditionFailed .allow) := by
  induction perms generalizing selected with
  | nil => cases selected <;> rfl
  | cons perm perms ih =>
    obtain ⟨⟨evaluated,free⟩,clean⟩ := List.forall_mem_cons.mp clean
    cases applied : pipe.applies perm with
    | error failure => exact (evaluated ⟨failure,applied⟩).elim
    | ok b =>
      cases b with
      | false => simpa [decidePermissions, allowsThrough, applied, ok_bind] using ih clean
      | true =>
        cases effect : perm.policyEffect with
        | deny => exact (free ⟨effect,applied⟩).elim
        | allow =>
          cases selected <;> simp [decidePermissions, allowsThrough, select, lacksRows, direct, applied, effect, ok_bind,
            ih clean]

theorem evaluateMatching_direct (clean : pipe.Clean perms) (through : pipe.allowsThrough perms = some perm) :
    pipe.evaluateMatching perms = pipe.respond (selection perm) := by
  rw [evaluateMatching, decidePermissions_direct direct clean, through]
  rfl

end Direct

theorem denyWins_evaluate (direct : pipe.typedQuery = false) : pipe.DenyWins perms ↔ pipe.Readable perms := by
  classical
  constructor
  · rintro ⟨closed,alike⟩
    have front {p : ResolvedPermission J} (mem : p ∈ perms) : ∃ rest, perms.Perm (p :: rest) := by
      obtain ⟨before,after,rfl⟩ := List.append_of_mem mem
      exact ⟨_,List.perm_middle⟩
    refine ⟨?_,fun clean p mem grants usable q qmem => ?_⟩
    · rintro p mem ⟨failure,failed⟩ q qmem ⟨effect,applied⟩
      obtain ⟨⟨_,same⟩,_,same'⟩ := And.intro (front mem) (front qmem)
      have differ := (alike _ same).trans (alike _ same').symm
      simp [evaluateMatching, decidePermissions, failed, applied, effect, decision, Bind.bind, Except.bind, pure,
        Except.pure] at differ
    · have first {p : ResolvedPermission J} (mem : p ∈ perms) (grants : pipe.Grants p) :
          decision (pipe.evaluateMatching perms) = if pipe.Usable p.rowFilterExprs.head? then some true else none := by
        obtain ⟨rest,same⟩ := front mem
        have clean' : pipe.Clean (p :: rest) := fun q qmem => clean q (same.mem_iff.mpr qmem)
        rw [← alike _ same, evaluateMatching_direct direct clean'
          (show _ = some p by simp [allowsThrough, grants.1, grants.2.1])]
        exact decision_respond _
      have allowed := (first mem grants).trans (if_pos usable)
      refine ⟨fun grants' => ?_,fun denies gate => ((closed allowed).2 q qmem denies gate).1⟩
      by_contra unusable
      cases allowed.symm.trans ((first qmem grants').trans (if_neg unusable))
  · intro readable
    refine denyWins_of_alike (fun selected => ∀ s ∈ selected, ∃ p ∈ perms, pipe.Grants p ∧ s = selection p)
      (∃ p ∈ perms, pipe.Grants p ∧ pipe.Usable p.rowFilterExprs.head?) readable.1 ?_ (by simp) ?_ ?_
    · intro p mem effect applied selected kept
      have rows : pipe.lacksRows p = false := by simp [lacksRows, direct]
      cases selected with
      | none => exact ⟨_,rfl,by simpa [rows] using ⟨p,mem,⟨effect,applied,rows⟩,rfl⟩⟩
      | some s => exact ⟨some s,by simp [select, direct],kept⟩
    · intro clean s kept
      obtain ⟨p,mem,grants,rfl⟩ := kept s rfl
      exact ⟨fun usable => ⟨p,mem,grants,usable⟩,fun ⟨q,qmem,grants',usable⟩ =>
        (readable.2 clean q qmem grants' usable p mem).1 grants⟩
    · rintro clean - ⟨p,mem,grants,usable⟩ q qmem
      exact (readable.2 clean p mem grants usable q qmem).2

theorem merge_ok {previous next : FieldFilterConfig} {field : String}
    (fits : previous.allowedFields = [] ∨ field ∈ previous.allowedFields)
    (fits' : next.allowedFields = [] ∨ field ∈ next.allowedFields) :
    ∃ merged, previous.merge next = .ok merged ∧ (merged.allowedFields = [] ∨ field ∈ merged.allowedFields) := by
  rcases fits with none | mem
  · refine ⟨_,by simp [FieldFilterConfig.merge, none]; rfl,?_⟩
    exact fits'
  · have some := List.ne_nil_of_mem mem
    rcases fits' with none | mem'
    · refine ⟨_,by simp [FieldFilterConfig.merge, some, none]; rfl,?_⟩
      exact .inr mem
    · have common : field ∈ previous.allowedFields.filter next.allowedFields.contains := by simpa using ⟨mem,mem'⟩
      refine ⟨_,by simp [FieldFilterConfig.merge, some, List.ne_nil_of_mem mem', List.ne_nil_of_mem common]; rfl,?_⟩
      exact .inr common

theorem addRow_ok {s : Selection J} {field : PermissionId → String}
    (joined : ∀ a b, (pipe.parse a).isSome → (pipe.parse b).isSome → (pipe.parse (pipe.conjunction [a, b])).isSome)
    (fits : pipe.Fits field s) (fits' : pipe.Fits field (selection perm)) (same : s.permission = perm.id) :
    ∃ next, pipe.addRow perm s = .ok next ∧ pipe.Fits field next := by
  have rows : ∀ json ∈ (match s.rowFilter, perm.rowFilterExprs.head? with
      | some previous, some next => some (pipe.conjunction [previous, next])
      | previous, next => previous <|> next), (pipe.parse json).isSome := by
    cases hs : s.rowFilter with
    | none => simpa [selection] using fits'.1
    | some previous =>
      cases hp : perm.rowFilterExprs.head? with
      | none => simpa [hs] using fits.1
      | some next => simpa using joined previous next (fits.1 previous hs) (fits'.1 next hp)
  have common' := fits'.2
  simp only [selection, ← same] at common'
  cases hs : s.fieldFilter with
  | none => exact ⟨_,by simp only [addRow, hs]; rfl,rows,common'⟩
  | some previous =>
    cases hp : perm.fieldFilter with
    | none => exact ⟨_,by simp only [addRow, hs, hp]; rfl,rows,by simpa [hs] using fits.2⟩
    | some next =>
      obtain ⟨merged,done,fields⟩ := merge_ok (fits.2 previous hs) (common' next hp)
      exact ⟨_,by simp only [addRow, hs, hp, done]; rfl,rows,by rintro _ ⟨⟩; exact fields⟩

theorem denyWins_query (query : pipe.typedQuery = true) (mergeable : pipe.Mergeable perms)
    (readable : pipe.Readable perms) : pipe.DenyWins perms := by
  obtain ⟨joined,field,fits⟩ := mergeable
  have usable {rowFilter : Option J} (parsed : ∀ json ∈ rowFilter, (pipe.parse json).isSome) : pipe.Usable rowFilter := by
    intro json rows
    obtain ⟨tree,parsed⟩ := Option.isSome_iff_exists.mp (parsed json rows)
    exact ⟨tree,parsed,by simp [query]⟩
  refine denyWins_of_alike (fun selected => ∀ s ∈ selected, pipe.Fits field s) True readable.1 ?_
    (by simp) (fun _ s kept => iff_of_true (usable (kept s rfl).1) trivial) ?_
  · intro p mem effect applied selected kept
    cases selected with
    | none => exact ⟨_,rfl,by cases pipe.lacksRows p <;> simp [fits p mem effect applied]⟩
    | some s =>
      simp only [select]
      split
      · rename_i same
        obtain ⟨next,done,kept⟩ := addRow_ok joined (kept s rfl) (fits p mem effect applied) (by simpa [query] using same)
        exact ⟨some next,by rw [done]; rfl,by simpa using kept⟩
      · exact ⟨_,rfl,kept⟩
  · rintro clean ⟨p,mem,grants⟩ - q qmem
    exact (readable.2 clean p mem grants (usable (fits p mem grants.1 grants.2.1).1) q qmem).2

end Pipeline

namespace Sample

def pipeline : Pipeline (Option Bool) Bool Bool where
  typedQuery := false
  platform := platform
  tenantId := ⟨uuid 1⟩
  env := requestAt 10 0
  bundles := .new
  temporalPolicies _ := []
  conjunction conditions := if conditions.contains none then none else some (!conditions.contains (some false))
  parse := id
  resolveQueryRelations := .ok
  evaluateTree := .ok
  dispatch := none

def resolved (effect : PolicyEffect) (condition : Option (Option Bool)) (rows : List (Option Bool)) :
    ResolvedPermission (Option Bool) :=
  ⟨⟨uuid 2⟩, .all, none, condition, rows, some ⟨["amount"], [], none⟩, effect⟩

end Sample

open BpmpPlatform.ControlPlane.Sample

namespace Pipeline

section Rows
variable {J A F R : Type} (pipe : Pipeline J A F) (perms : List (ResolvedPermission J)) (satisfies : A → R → Prop)
  (selects : F → R → Prop)

/-- The row filters of a permission: the roles of the user list it once for each. -/
def rowFilters (id : PermissionId) : List J := (perms.filter fun p => decide (p.id = id)).flatMap (·.rowFilterExprs)

def Restricts (filter : Option F) (ast : Option A) (filters : List J) : Prop :=
  let all (row : R) := ∀ json ∈ filters, ∃ tree, pipe.parse json = some tree ∧ satisfies tree row
  (∃ predicate ∈ filter, ∀ row, selects predicate row → all row) ∨ ∃ tree ∈ ast, ∀ row, satisfies tree row → all row

/-- The response restricts the rows to those that satisfy the row filters of the permission that allows. -/
def RowsRestricted : Prop :=
  ∀ filter ast fields, pipe.evaluateMatching perms = .ok (.allow filter ast fields) →
    ∀ perm, pipe.allowsThrough perms = some perm → rowFilters perms perm.id ≠ [] →
      pipe.Restricts satisfies selects filter ast (rowFilters perms perm.id)

/-- Where nothing fails or denies, the permission that allows comes with a row filter if it has any, and this one, or its
translation, implies the others. -/
def FirstFilterSuffices : Prop :=
  pipe.Clean perms → ∀ perm, pipe.allowsThrough perms = some perm → rowFilters perms perm.id ≠ [] →
    ∃ first, perm.rowFilterExprs.head? = some first ∧ ∀ tree filter, pipe.parse first = some tree →
      pipe.translateRowFilter tree = .ok filter →
        pipe.Restricts satisfies selects filter (some tree) (rowFilters perms perm.id)

theorem rowsRestricted_iff_firstFilterSuffices (direct : pipe.typedQuery = false) :
    pipe.RowsRestricted perms satisfies selects ↔ pipe.FirstFilterSuffices perms satisfies selects := by
  constructor
  · intro restricted clean perm through carries
    have done := evaluateMatching_direct direct clean through
    cases rows : perm.rowFilterExprs.head? with
    | none =>
      rw [respond, selection, rows] at done
      obtain ⟨_,⟨⟩,_⟩ | ⟨_,⟨⟩,_⟩ := restricted _ _ _ done perm through carries
    | some first =>
      refine ⟨first,rfl,fun tree filter parsed translated => ?_⟩
      simp only [respond, selection, rows, parsed, okOr, direct, cond_false, translated, ok_bind] at done
      exact restricted _ _ _ done perm through carries
  · intro enough filter ast fields done perm through carries
    have clean : pipe.Clean perms := by
      obtain ⟨verdict,run,done⟩ := bind_eq_ok.mp done
      obtain ⟨rfl,-⟩ | ⟨clean,-⟩ := decidePermissions_ok run
      · cases done
      · exact clean
    obtain ⟨first,rows,implied⟩ := enough clean perm through carries
    rw [evaluateMatching_direct direct clean through] at done
    obtain ⟨_,_,heq,carried⟩ := respond_ok done
    cases heq
    obtain ⟨tree,parsed,rfl,translated⟩ := carried first rows
    exact implied tree filter parsed (translated direct)

end Rows

/-- The second row filter lets every row through that the first does. -/
theorem rowsRestricted_of_first :
    pipeline.RowsRestricted [resolved .allow none [some false], resolved .allow none [some true]]
      (fun tree (_ : Unit) => tree = true) fun predicate _ => predicate = true := by
  refine (rowsRestricted_iff_firstFilterSuffices _ _ _ _ rfl).mpr ?_
  rintro - _ ⟨⟩ -
  exact ⟨some false,rfl,fun tree filter parsed _ => .inr ⟨tree,rfl,fun _ holds => by cases parsed; cases holds⟩⟩

/-- Of two row filters of a permission, the second one is lost. -/
theorem second_row_filter_dropped :
    ¬pipeline.RowsRestricted [resolved .allow none [some true], resolved .allow none [some false]]
      (fun tree (_ : Unit) => tree = true) fun predicate _ => predicate = true := by
  intro restricted
  obtain ⟨_,mem,_⟩ | ⟨_,⟨⟩,implied⟩ := restricted none (some true) _ rfl _ rfl (by decide)
  · cases mem
  · obtain ⟨_,⟨⟩,satisfied⟩ := implied () rfl (some false) (by decide)
    cases satisfied

end Pipeline
end BpmpPlatform.ControlPlane
