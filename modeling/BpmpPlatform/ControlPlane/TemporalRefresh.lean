import BpmpPlatform.ControlPlane.Temporal
import BpmpPlatform.Library.Runs

/-! # Refreshes of temporal policies

A refresh reads the active policies, then the version of the cached bundle, and then stores a bundle with the next
version. Refreshes may overlap.
-/
namespace BpmpPlatform.ControlPlane
open Runs

/-- The rows of `list_active_temporal_policies`. -/
abbrev PolicyRows := List (TenantId × TemporalPolicy)

def groupedPolicies (tenant : TenantId) (rows : PolicyRows) (permission : String) : Option (List TemporalPolicy) :=
  match rows.filter fun row => row.1 == tenant && row.2.permissionId.uuid.text == permission with
  | [] => none
  | first :: rest => some ((first :: rest).map Prod.snd)

/-- How far a refresh has come; `read` and `versioned` hold what it has read. -/
inductive RefreshPhase
  | idle
  | read (rows : PolicyRows)
  | versioned (rows : PolicyRows) (version : Nat)
  | finished

/-- The database, the cache and the refreshes of a tenant, with the refresh that read the database last and its result. -/
structure Refreshes where
  rows : PolicyRows
  cache : PolicyBundleCache
  phase : Nat → RefreshPhase := fun _ => .idle
  latest : Option (Nat × PolicyRows) := none

inductive RefreshAction
  | write (rows : PolicyRows)
  | readRows (refresh : Nat)
  | readVersion (refresh : Nat)
  | update (refresh : Nat)

def RefreshPhase.isOpen : RefreshPhase → Bool
  | .read _ | .versioned _ _ => true
  | .idle | .finished => false

def PolicyBundleCache.version (cache : PolicyBundleCache) (tenant : TenantId) : Nat :=
  ((cache.get tenant).map PolicyBundle.version).getD 0

section Refresh
variable (tenant : TenantId)

def Refreshes.step (s : Refreshes) : RefreshAction → Refreshes
  | .write rows => { s with rows }
  | .readRows i =>
    match s.phase i with
    | .idle => { s with phase := Function.update s.phase i (.read s.rows), latest := some (i, s.rows) }
    | _ => s
  | .readVersion i =>
    match s.phase i with
    | .read rows =>
      let existingVersion := s.cache.version tenant
      { s with phase := Function.update s.phase i (.versioned rows (existingVersion + 1)) }
    | _ => s
  | .update i =>
    match s.phase i with
    | .versioned rows version =>
      { s with
        cache := s.cache.update ⟨tenant, version, groupedPolicies tenant rows, fun _ => none⟩
        phase := Function.update s.phase i .finished }
    | _ => s

def Refreshes.policies (s : Refreshes) : Option (String → Option (List TemporalPolicy)) :=
  (s.cache.get tenant).map PolicyBundle.temporalPolicies

def Refreshes.Settled (s : Refreshes) : Prop := ∀ i, (s.phase i).isOpen = false

/-- When no refresh is under way, the cache holds the policies of the latest read. -/
def Refreshes.Converged (s : Refreshes) : Prop :=
  s.Settled → ∀ i rows, s.latest = some (i, rows) → s.policies tenant = some (groupedPolicies tenant rows)

/-- A bundle of the latest read is stored while no other refresh is between its two reads; another one is stored only before
the refresh of the latest read has read the version. -/
def Refreshes.InTurn (s : Refreshes) : RefreshAction → Prop
  | .update i => ∀ rows version, s.phase i = .versioned rows version → s.cache.version tenant < version → ∀ j, j ≠ i →
    (s.latest.map Prod.fst = some i → ∀ rows, s.phase j ≠ .read rows) ∧
    (s.latest.map Prod.fst = some j → ∀ rows version, s.phase j ≠ .versioned rows version)
  | _ => True

/-- The refresh of the latest read is still to store its bundle and will, or has stored it and no other will. -/
structure Refreshes.Ordered (s : Refreshes) : Prop where
  versions : ∀ i rows version, s.phase i = .versioned rows version → 0 < version ∧ version ≤ s.cache.version tenant + 1
  unread : s.latest = none → ∀ i, s.phase i = .idle
  decided : ∀ i rows, s.latest = some (i, rows) → s.phase i = .read rows ∨
    s.phase i = .versioned rows (s.cache.version tenant + 1) ∨ s.policies tenant = some (groupedPolicies tenant rows) ∧
      ∀ j rows, s.phase j ≠ .read rows ∧ ∀ version, s.phase j = .versioned rows version → version ≤ s.cache.version tenant

variable {tenant} {s : Refreshes}

section Cache
variable {cache : PolicyBundleCache} {version : Nat} {policies : String → Option (List TemporalPolicy)}

theorem update_of_lt (policies : String → Option (List TemporalPolicy)) (h : cache.version tenant < version) :
    (cache.update ⟨tenant, version, policies, fun _ => none⟩).version tenant = version ∧
      ((cache.update ⟨tenant, version, policies, fun _ => none⟩).get tenant).map PolicyBundle.temporalPolicies =
        some policies := by
  have hu : cache.update ⟨tenant, version, policies, fun _ => none⟩ = Function.update cache tenant.uuid.text
      (some (PolicyBundle.rebuildTemporalIndex ⟨tenant, version, policies, fun _ => none⟩)) := by
    rw [PolicyBundleCache.version, PolicyBundleCache.get] at h
    rw [PolicyBundleCache.update, if_neg]
    cases hc : cache tenant.uuid.text <;> simp_all
  rw [hu]
  simp [PolicyBundleCache.version, PolicyBundleCache.get, PolicyBundle.rebuildTemporalIndex]

theorem update_of_le (hpos : 0 < version) (h : version ≤ cache.version tenant) :
    cache.update ⟨tenant, version, policies, fun _ => none⟩ = cache := by
  rw [PolicyBundleCache.version, PolicyBundleCache.get] at h
  rw [PolicyBundleCache.update, if_pos]
  cases hc : cache tenant.uuid.text with
  | none =>
    rw [hc] at h
    exact absurd hpos (Nat.not_lt.mpr h)
  | some existing => simpa [hc] using h

end Cache

namespace Refreshes.Ordered

theorem readRows (h : s.Ordered tenant) (i : Nat) : (s.step tenant (.readRows i)).Ordered tenant := by
  obtain ⟨hv,hu,hd⟩ := h
  simp only [Refreshes.step]
  split
  · refine ⟨?_,?_,?_⟩ <;> grind [Function.update_apply]
  · exact ⟨hv,hu,hd⟩

theorem readVersion (h : s.Ordered tenant) (i : Nat) : (s.step tenant (.readVersion i)).Ordered tenant := by
  obtain ⟨hv,hu,hd⟩ := h
  simp only [Refreshes.step]
  split
  · refine ⟨?_,?_,?_⟩ <;> grind [Function.update_apply, Refreshes.policies]
  · exact ⟨hv,hu,hd⟩

theorem update (h : s.Ordered tenant) {i : Nat} (ht : s.InTurn tenant (.update i)) :
    (s.step tenant (.update i)).Ordered tenant := by
  obtain ⟨hv,hu,hd⟩ := h
  simp only [Refreshes.step]
  split
  · next rows version hp =>
    obtain ⟨hpos,hle⟩ := hv i rows version hp
    by_cases hacc : s.cache.version tenant < version
    · -- the bundle is stored, under the version after the cached one
      obtain ⟨hversion,hpolicies⟩ := update_of_lt (groupedPolicies tenant rows) hacc
      have hturn := ht rows version hp hacc
      refine ⟨?_,?_,?_⟩ <;> grind [Function.update_apply, Refreshes.policies]
    · rw [update_of_le hpos (Nat.not_lt.mp hacc)]
      refine ⟨?_,?_,?_⟩ <;> grind [Function.update_apply, Refreshes.policies]
  · exact ⟨hv,hu,hd⟩

end Refreshes.Ordered

theorem Refreshes.latest_step (s : Refreshes) (action : RefreshAction) :
    ((s.step tenant action).latest = s.latest ∧ ∀ i, s.phase i = .idle → (s.step tenant action).phase i = .idle) ∨
      ∃ i, (s.step tenant action).latest = some (i, s.rows) := by
  cases action with
  | write => exact .inl ⟨rfl,fun _ hi => hi⟩
  | readRows | readVersion | update =>
    simp only [Refreshes.step]
    split <;> grind [Function.update_apply]

/-- As long as no refresh reads the policies, those that were idle stay so; the latest read saw the rows of some point of the
run. -/
theorem Refreshes.latest_run (s : Refreshes) (actions : List RefreshAction) :
    (∀ i, s.phase i = .idle → (actions.foldl (Refreshes.step tenant) s).phase i = .idle) ∨ ∃ done i, done <+: actions ∧
      (actions.foldl (Refreshes.step tenant) s).latest = some (i, (done.foldl (Refreshes.step tenant) s).rows) := by
  induction actions using List.reverseRecOn with
  | nil => exact .inl fun _ hi => hi
  | append_singleton actions action ih =>
    rw [List.foldl_concat]
    rcases (actions.foldl (Refreshes.step tenant) s).latest_step action with ⟨hl,hi⟩ | ⟨k,hl⟩
    · refine ih.imp (fun hall i hidle => hi i (hall i hidle)) ?_
      rintro ⟨done,i,hp,hd⟩
      exact ⟨done,i,hp.trans (List.prefix_append ..),hl.trans hd⟩
    · exact .inr ⟨actions,k,List.prefix_append ..,hl⟩

/-- Once all refreshes have finished, the cache holds the result of the latest read, which saw the database at some point
after the start of any of them. -/
theorem refreshes_converge (tenant : TenantId) (rows : PolicyRows) (cache : PolicyBundleCache) (actions : List RefreshAction)
    (hturn : Along (Refreshes.step tenant) (Refreshes.InTurn tenant) { rows, cache } actions) :
    let run := List.foldl (Refreshes.step tenant) { rows, cache }
    (run actions).Converged tenant ∧ ((run actions).Settled → ∀ before rest i, actions = before ++ rest →
      (run before).phase i = .idle → (run actions).phase i = .finished → ∃ done, before <+: done ∧ done <+: actions ∧
        (run actions).policies tenant = some (groupedPolicies tenant (run done).rows)) := by
  intro run
  have ho : (run actions).Ordered tenant := by
    refine hturn.held (fun s action hs ht => ?_) ⟨by rintro _ _ _ ⟨⟩,fun _ _ => rfl,by rintro _ _ ⟨⟩⟩
    cases action with
    | write => exact ⟨hs.versions,hs.unread,hs.decided⟩
    | readRows i => exact hs.readRows i
    | readVersion i => exact hs.readVersion i
    | update => exact hs.update ht
  have hconverged : (run actions).Converged tenant := by
    intro hsettled i rows hl
    have hi := hsettled i
    rcases ho.decided i rows hl with hp | hp | ⟨hs,-⟩
    · simp [hp, RefreshPhase.isOpen] at hi
    · simp [hp, RefreshPhase.isOpen] at hi
    · exact hs
  refine ⟨hconverged,?_⟩
  rintro hsettled before rest i rfl hidle hfinished
  have hsplit : ∀ done, run (before ++ done) = done.foldl (Refreshes.step tenant) (run before) :=
    fun done => List.foldl_append
  rcases (run before).latest_run rest with hnone | ⟨done,k,hp,hlatest⟩
  · rw [hsplit, hnone i hidle] at hfinished
    cases hfinished
  · rw [← hsplit, ← hsplit] at hlatest
    exact ⟨before ++ done,List.prefix_append ..,(List.prefix_append_right_inj before).mpr hp,hconverged hsettled k _ hlatest⟩

end Refresh

namespace Sample

def written : PolicyRows := [(⟨uuid 1⟩, officeHours)]

/-- Two refreshes read the policies one after the other, with a write between, and store their bundles in that order. -/
def overlapping : List RefreshAction :=
  [.readRows 0, .write written, .readRows 1, .readVersion 0, .update 0, .readVersion 1, .update 1]

/-- A refresh that read before a write takes its version after another refresh has stored the written policies. -/
def slowRefresh : Refreshes :=
  [.readRows 0, .write written, .readRows 1, .readVersion 1, .update 1, .readVersion 0, .update 0].foldl
    (Refreshes.step ⟨uuid 1⟩) { rows := [], cache := .new }

end Sample

open BpmpPlatform.ControlPlane.Sample

theorem overlapping_refreshes_converge :
    (overlapping.foldl (Refreshes.step ⟨uuid 1⟩) { rows := [], cache := .new }).policies ⟨uuid 1⟩ =
      some (groupedPolicies ⟨uuid 1⟩ written) := by
  have hin : Along (Refreshes.step ⟨uuid 1⟩) (Refreshes.InTurn ⟨uuid 1⟩) { rows := [], cache := .new } overlapping := by
    refine ⟨trivial,trivial,trivial,trivial,?_,trivial,?_,trivial⟩
    · rintro _ _ ⟨⟩ - j hj
      rcases j with _ | _ | j
      · exact absurd rfl hj
      · exact ⟨by rintro ⟨⟩,by rintro - _ _ ⟨⟩⟩
      · exact ⟨by rintro ⟨⟩,by rintro ⟨⟩⟩
    · rintro _ _ ⟨⟩ - j hj
      rcases j with _ | _ | j
      · exact ⟨by rintro - _ ⟨⟩,by rintro ⟨⟩⟩
      · exact absurd rfl hj
      · exact ⟨by rintro - _ ⟨⟩,by rintro ⟨⟩⟩
  refine (refreshes_converge ⟨uuid 1⟩ [] .new overlapping hin).1 (fun i => ?_) 1 written rfl
  rcases i with _ | _ | i <;> rfl

theorem slow_refresh_overwrites : ¬ slowRefresh.Converged ⟨uuid 1⟩ := by
  intro h
  have hc := h (fun i => by rcases i with _ | _ | i <;> rfl) 1 _ rfl
  have hp := congrArg Option.isSome (congrFun (Option.some.inj hc) permission.uuid.text)
  revert hp
  decide +kernel

end BpmpPlatform.ControlPlane
