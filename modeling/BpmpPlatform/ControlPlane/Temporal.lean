import BpmpPlatform.Library.IntervalTree
import BpmpPlatform.ControlPlane.Context
import Mathlib.Logic.Function.Basic

/-! # Temporal gates

A gate passes when every active policy admits the request at the local time of its own zone. The gate over a bundle
first asks an interval tree of the windows for the second of the day in coordinated universal time.
-/
namespace BpmpPlatform.ControlPlane
open Outcome

structure TemporalPolicy where
  permissionId : PermissionId
  allowedDays : List Nat
  allowedFrom : NaiveTime
  allowedUntil : NaiveTime
  timezone : String
  allowedCidr : Option (List String)
  requireShift : Bool
  isActive : Bool

structure TemporalResult where
  allowed : Bool
  reason : Option String

def TemporalResult.pass : TemporalResult := ⟨true, none⟩

def TemporalResult.denied (reason : String) : TemporalResult := ⟨false, some reason⟩

def weekdayName (weekday : Nat) : String :=
  (["Mon", "Tue", "Wed", "Thu", "Fri", "Sat", "Sun"].getD (weekday - 1) "")

def twoDigits (n : Nat) : String := if n < 10 then "0" ++ toString n else toString n

/-- The format `%H:%M`. -/
def NaiveTime.clock (time : NaiveTime) : String :=
  twoDigits (time.seconds / 3600) ++ ":" ++ twoDigits (time.seconds / 60 % 60)

def debugList (days : List Nat) : String := "[" ++ ", ".intercalate (days.map toString) ++ "]"

section Gate
variable (platform : Platform)

def ipInCidrList (ip : IpAddr) (cidrs : List String) : Bool := cidrs.any fun cidr => platform.inNetwork cidr ip

/-- The networks of a policy; no list and an empty list admit every address. -/
def evaluateNetworks (env : EnvContext) : Option (List String) → TemporalResult
  | none => .pass
  | some [] => .pass
  | some (cidr :: cidrs) =>
    match env.clientIp with
    | none => .denied "IP whitelist is configured but no client IP available in request"
    | some ip =>
      if ipInCidrList platform ip (cidr :: cidrs) then .pass
      else .denied ("Client IP " ++ platform.ipText ip ++ " is not in the allowed CIDR list")

def evaluateLocally (policy : TemporalPolicy) (env : EnvContext) (weekday : Nat) (time : NaiveTime) : TemporalResult :=
  if !policy.allowedDays.contains weekday then
    .denied ("Not allowed on day " ++ toString weekday ++ " (" ++ weekdayName weekday ++ "). Allowed days: "
      ++ debugList policy.allowedDays)
  else if time.before policy.allowedFrom || policy.allowedUntil.before time then
    .denied ("Outside allowed hours: " ++ time.clock ++ " not in " ++ policy.allowedFrom.clock ++ "–"
      ++ policy.allowedUntil.clock ++ " (" ++ policy.timezone ++ ")")
  else evaluateNetworks platform env policy.allowedCidr

def evaluateSinglePolicy (policy : TemporalPolicy) (env : EnvContext) : Except AuthzError TemporalResult :=
  match platform.localTime policy.timezone env.requestTime with
  | none => .error (.internal ("Invalid timezone in temporal policy: " ++ policy.timezone))
  | some (weekday, time) => .ok (evaluateLocally platform policy env weekday time)

/-- The loop of the gate: the first active policy that denies or fails decides. -/
def evaluateTemporalGate (env : EnvContext) : List TemporalPolicy → Except AuthzError TemporalResult
  | [] => .ok .pass
  | policy :: policies =>
    if policy.isActive then do
      let result ← evaluateSinglePolicy platform policy env
      if result.allowed then evaluateTemporalGate env policies else .ok result
    else evaluateTemporalGate env policies

def naiveTimeToSeconds (time : NaiveTime) : Int := min (time.seconds : Int) 86399

structure PolicyBundle where
  tenantId : TenantId
  version : Nat
  temporalPolicies : String → Option (List TemporalPolicy)
  temporalIndex : String → Option (IntervalTree Int)

def TemporalPolicy.window (policy : TemporalPolicy) : Interval Int :=
  ⟨naiveTimeToSeconds policy.allowedFrom, naiveTimeToSeconds policy.allowedUntil⟩

def temporalTree (policies : List TemporalPolicy) : IntervalTree Int :=
  .ofList ((policies.filter fun policy => policy.isActive).map TemporalPolicy.window)

namespace PolicyBundle

def rebuildTemporalIndex (bundle : PolicyBundle) : PolicyBundle :=
  { bundle with temporalIndex := fun permission => (bundle.temporalPolicies permission).map temporalTree }

def hasTimeWindow (bundle : PolicyBundle) (permission : String) (now : Int) : Bool :=
  match bundle.temporalIndex permission with
  | none => true
  | some tree => !(tree.findOverlapping ⟨now, now⟩).isEmpty

def policiesOf (bundle : PolicyBundle) (permission : PermissionId) : List TemporalPolicy :=
  (bundle.temporalPolicies permission.uuid.text).getD []

end PolicyBundle

def evaluateTemporalGateWithBundle (permission : PermissionId) (bundle : PolicyBundle) (env : EnvContext) :
    Except AuthzError TemporalResult :=
  match bundle.policiesOf permission with
  | [] => .ok .pass
  | policy :: policies =>
    if bundle.hasTimeWindow permission.uuid.text env.requestTime.secondOfDay then
      evaluateTemporalGate platform env (policy :: policies)
    else .ok (.denied "Current time-of-day is outside every configured window for this permission")

end Gate

abbrev PolicyBundleCache := String → Option PolicyBundle

namespace PolicyBundleCache

def new : PolicyBundleCache := fun _ => none

def update (cache : PolicyBundleCache) (bundle : PolicyBundle) : PolicyBundleCache :=
  if (cache bundle.tenantId.uuid.text).any fun existing => decide (bundle.version ≤ existing.version) then cache
  else Function.update cache bundle.tenantId.uuid.text (some bundle.rebuildTemporalIndex)

def get (cache : PolicyBundleCache) (tenant : TenantId) : Option PolicyBundle := cache tenant.uuid.text

def updates (cache : PolicyBundleCache) (bundles : List PolicyBundle) : PolicyBundleCache := bundles.foldl update cache

end PolicyBundleCache

def PolicyBundle.Indexed (bundle : PolicyBundle) : Prop :=
  ∀ permission, bundle.temporalIndex permission = (bundle.temporalPolicies permission).map temporalTree

theorem indexed_update {cache : PolicyBundleCache} (h : ∀ tenant bundle, cache tenant = some bundle → bundle.Indexed)
    (incoming : PolicyBundle) {tenant : String} {bundle : PolicyBundle}
    (hget : cache.update incoming tenant = some bundle) : bundle.Indexed := by
  rw [PolicyBundleCache.update] at hget
  split at hget
  · exact h tenant bundle hget
  · by_cases ht : tenant = incoming.tenantId.uuid.text
    · rw [ht, Function.update_self] at hget
      cases hget
      intro permission
      rfl
    · rw [Function.update_of_ne ht] at hget
      exact h tenant bundle hget

/-- Every bundle of the cache was indexed by the update that stored it. -/
theorem indexed_updates (bundles : List PolicyBundle) (cache : PolicyBundleCache)
    (h : ∀ tenant bundle, cache tenant = some bundle → bundle.Indexed) (tenant : String) (bundle : PolicyBundle)
    (hget : cache.updates bundles tenant = some bundle) : bundle.Indexed := by
  induction bundles generalizing cache with
  | nil => exact h tenant bundle hget
  | cons incoming bundles ih =>
    exact ih (cache.update incoming) (fun _ _ hn => indexed_update h incoming hn) hget

section Agreement
variable (platform : Platform)

def passes : Except AuthzError TemporalResult → Bool
  | .ok result => result.allowed
  | .error _ => false

def TemporalPolicy.covers (policy : TemporalPolicy) (now : Int) : Bool :=
  decide ((policy.allowedFrom.seconds : Int) ≤ now) && decide (now ≤ (policy.allowedUntil.seconds : Int))

theorem naiveTimeToSeconds_eq (time : NaiveTime) : naiveTimeToSeconds time = time.seconds := by
  have hlt := time.seconds_lt
  rw [naiveTimeToSeconds]
  omega

theorem passes_evaluateTemporalGate (env : EnvContext) (policies : List TemporalPolicy) :
    passes (evaluateTemporalGate platform env policies) = true ↔
      ∀ policy ∈ policies, policy.isActive = true → passes (evaluateSinglePolicy platform policy env) = true := by
  induction policies with
  | nil => simp [evaluateTemporalGate, passes, TemporalResult.pass]
  | cons policy policies ih =>
    rw [evaluateTemporalGate, List.forall_mem_cons]
    cases ha : policy.isActive with
    | false => simpa using ih
    | true =>
      cases hsi : evaluateSinglePolicy platform policy env with
      | error => simp [passes, bind, Except.bind]
      | ok result =>
        cases hal : result.allowed with
        | false => simp [passes, bind, Except.bind, hal]
        | true =>
          simp only [if_true, bind, Except.bind, hal, passes, forall_const, true_and]
          exact ih

theorem hasTimeWindow_iff {bundle : PolicyBundle} (hin : bundle.Indexed) {permission : String}
    {policies : List TemporalPolicy} (hpo : bundle.temporalPolicies permission = some policies) (now : Int) :
    bundle.hasTimeWindow permission now = true ↔
      ∃ policy ∈ policies, policy.isActive = true ∧ policy.covers now = true := by
  have hov : ∀ policy : TemporalPolicy, policy.window.overlapsWith ⟨now, now⟩ = policy.covers now := by
    intro policy
    simp only [Interval.overlapsWith, TemporalPolicy.window, TemporalPolicy.covers, naiveTimeToSeconds_eq]
  rw [PolicyBundle.hasTimeWindow, hin, hpo, Option.map_some, Bool.not_eq_true', List.isEmpty_eq_false_iff_exists_mem]
  simp only [temporalTree, IntervalTree.mem_findOverlapping_ofList, List.mem_map, List.mem_filter]
  constructor
  · rintro ⟨_,⟨policy,⟨hp,ha⟩,rfl⟩,ho⟩
    exact ⟨policy,hp,ha,(hov policy).symm.trans ho⟩
  · rintro ⟨policy,hp,ha,hco⟩
    exact ⟨_,⟨policy,⟨hp,ha⟩,rfl⟩,(hov policy).trans hco⟩

theorem passes_withBundle {bundle : PolicyBundle} (hin : bundle.Indexed) (permission : PermissionId)
    (env : EnvContext) : passes (evaluateTemporalGateWithBundle platform permission bundle env) = true ↔
      bundle.policiesOf permission = [] ∨ (∃ policy ∈ bundle.policiesOf permission,
          policy.isActive = true ∧ policy.covers env.requestTime.secondOfDay = true) ∧
        passes (evaluateTemporalGate platform env (bundle.policiesOf permission)) = true := by
  rw [evaluateTemporalGateWithBundle]
  cases hpo : bundle.policiesOf permission with
  | nil => simp [passes, TemporalResult.pass]
  | cons policy policies =>
    have he : bundle.temporalPolicies permission.uuid.text = some (policy :: policies) := by
      rw [PolicyBundle.policiesOf] at hpo
      cases hat : bundle.temporalPolicies permission.uuid.text with
      | none =>
        rw [hat] at hpo
        exact nomatch hpo
      | some =>
        rw [hat, Option.getD_some] at hpo
        rw [hpo]
    have hw := hasTimeWindow_iff hin he env.requestTime.secondOfDay
    dsimp only
    by_cases hco : bundle.hasTimeWindow permission.uuid.text env.requestTime.secondOfDay = true
    · rw [if_pos hco]
      have hex := hw.mp hco
      simp only [reduceCtorEq, false_or]
      exact ⟨fun hp => ⟨hex,hp⟩,And.right⟩
    · rw [if_neg hco]
      have hn := fun hex => hco (hw.mpr hex)
      simp only [passes, TemporalResult.denied, reduceCtorEq, false_or, Bool.false_eq_true, false_iff, not_and]
      exact fun hex => absurd hex hn

/-- The gate over a bundle of the cache lets a request pass exactly when the plain gate does, if and only if the
permission has no policies, or the window of an active policy covers the second of the day in coordinated universal
time, or an active policy rejects the request. -/
theorem temporal_gates_agree_iff (incoming : List PolicyBundle) (tenant : TenantId) (bundle : PolicyBundle)
    (hget : (PolicyBundleCache.new.updates incoming).get tenant = some bundle) (permission : PermissionId)
    (env : EnvContext) : (passes (evaluateTemporalGateWithBundle platform permission bundle env)
        = passes (evaluateTemporalGate platform env (bundle.policiesOf permission))) ↔
      (bundle.policiesOf permission = [] ∨ (∃ policy ∈ bundle.policiesOf permission,
          policy.isActive = true ∧ policy.covers env.requestTime.secondOfDay = true) ∨
        ∃ policy ∈ bundle.policiesOf permission,
          policy.isActive = true ∧ passes (evaluateSinglePolicy platform policy env) = false) := by
  have hi : bundle.Indexed :=
    indexed_updates incoming PolicyBundleCache.new (fun _ _ h => nomatch h) _ bundle hget
  have hp := passes_evaluateTemporalGate platform env (bundle.policiesOf permission)
  have hr : (∃ policy ∈ bundle.policiesOf permission,
      policy.isActive = true ∧ passes (evaluateSinglePolicy platform policy env) = false) ↔
        ¬ passes (evaluateTemporalGate platform env (bundle.policiesOf permission)) = true := by
    rw [hp]
    push Not
    simp only [Bool.not_eq_true]
  have he : bundle.policiesOf permission = [] →
      passes (evaluateTemporalGate platform env (bundle.policiesOf permission)) = true := by
    intro hnil
    rw [hnil]
    rfl
  have hc : ∀ {e w p : Prop}, (e → p) → (((e ∨ w ∧ p) ↔ p) ↔ (e ∨ w ∨ ¬p)) := by tauto
  rw [Bool.eq_iff_iff, passes_withBundle platform hi, hr]
  exact hc he

end Agreement

/-! ## The tree of the windows -/

/-- Epoch seconds of 64 bits. -/
abbrev EpochSeconds := { seconds : Int // -2 ^ 63 ≤ seconds ∧ seconds < 2 ^ 63 }

abbrev TemporalIntervalTree := IntervalTree EpochSeconds

def TemporalIntervalTree.new : TemporalIntervalTree := .empty

/-- After any insertions a query finds the inserted intervals that overlap it, each as often as it was inserted. -/
theorem find_overlapping_exact (insertions : List (Interval EpochSeconds)) (query : Interval EpochSeconds) :
    (IntervalTree.findOverlapping query (insertions.foldl (fun tree interval => tree.insert interval)
      TemporalIntervalTree.new)).Perm (insertions.filter (·.overlapsWith query)) :=
  IntervalTree.findOverlapping_ofList_perm insertions query

namespace Sample

def platform : Platform where
  rfc3339 := fun _ => ""
  date := fun _ => ""
  ipText := fun _ => ""
  localTime := fun zone now =>
    if zone = "Asia/Ho_Chi_Minh" then
      some (((now.seconds + 25200) / 86400 % 7).toNat + 1,
        ⟨((now.seconds + 25200) % 86400).toNat, now.nanoseconds, by omega⟩)
    else none
  inNetwork := fun _ _ => false
  regexIsMatch := fun _ _ => none

def permission : PermissionId := ⟨uuid 3⟩

def officeHours : TemporalPolicy :=
  ⟨permission, [1, 2, 3, 4, 5], ⟨28800, 0, by decide⟩, ⟨63000, 0, by decide⟩, "Asia/Ho_Chi_Minh", none, false, true⟩

def bundle : PolicyBundle :=
  ⟨⟨uuid 1⟩, 1, fun key => if key = permission.uuid.text then some [officeHours] else none, fun _ => none⟩

def requestAt (hour minute : Nat) : EnvContext := ⟨⟨hour * 3600 + minute * 60, 0⟩, none⟩

theorem bundle_stored :
    (PolicyBundleCache.new.updates [bundle]).get bundle.tenantId = some bundle.rebuildTemporalIndex := by
  simp [PolicyBundleCache.get, PolicyBundleCache.updates, PolicyBundleCache.update, PolicyBundleCache.new]

theorem officeHours_mem : officeHours ∈ bundle.rebuildTemporalIndex.policiesOf permission := by
  simp [PolicyBundle.policiesOf, PolicyBundle.rebuildTemporalIndex, bundle]

end Sample

open BpmpPlatform.ControlPlane.Sample

/-- Half past eight in the zone of the policy is half past one in coordinated universal time, which no window covers. -/
theorem indexed_gate_denies_office_hours :
    ∃ stored, (PolicyBundleCache.new.updates [bundle]).get bundle.tenantId = some stored ∧
      passes (evaluateTemporalGate platform (requestAt 1 30) (stored.policiesOf permission)) = true ∧
      passes (evaluateTemporalGateWithBundle platform permission stored (requestAt 1 30))
        = false :=
  ⟨bundle.rebuildTemporalIndex,bundle_stored,by decide +kernel,by decide +kernel⟩

theorem temporal_gates_agree_afternoon :
    passes (evaluateTemporalGateWithBundle platform permission bundle.rebuildTemporalIndex
        (requestAt 10 0)) = passes (evaluateTemporalGate platform (requestAt 10 0)
        (bundle.rebuildTemporalIndex.policiesOf permission)) :=
  (temporal_gates_agree_iff platform [bundle] bundle.tenantId bundle.rebuildTemporalIndex
    bundle_stored permission (requestAt 10 0)).mpr
    (.inr (.inl ⟨officeHours,officeHours_mem,rfl,by decide +kernel⟩))

end BpmpPlatform.ControlPlane
