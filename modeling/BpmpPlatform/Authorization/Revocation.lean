import BpmpPlatform.Authorization.Evaluation

/-! # Verified bundles and revocations of a tenant

The store keeps one opened bundle per tenant together with the revoke floors streamed for it. A newer bundle takes
the place of the one before, with its own list of actor epochs.
-/
namespace BpmpPlatform.Authorization
open Std Outcome

inductive InstallOutcome
  | installed
  | alreadyCurrent

inductive AuthorizationStoreError
  | artifact (error : AuthorizationArtifactError)
  | missingBundle (tenantId : String)
  | bundleSequenceRollback (current incoming : Nat)
  | bundleSequenceConflict (sequence : Nat)
  | revokeEpochRollback (current incoming : Nat)
  | revokeBundleSequenceMismatch (current incoming : Nat)
  deriving DecidableEq

structure TenantAuthorizationState where
  bundle : AuthorizationPolicyBundle
  tenantRevokeFloor : Nat
  actorRevokeFloors : ExtTreeMap String Nat

structure VerifiedAuthorizationStore where
  keyring : AuthorizationKeyring
  limits : AuthorizationArtifactLimits
  tenants : ExtTreeMap String TenantAuthorizationState

def VerifiedAuthorizationStore.new (keyring : AuthorizationKeyring) (limits : AuthorizationArtifactLimits) :
    VerifiedAuthorizationStore := ⟨keyring, limits, ∅⟩

section Calls
variable (us : UnstableSort) (format : ArtifactFormat AuthorizationPolicyBundle)
  (updates : ArtifactFormat AuthorizationRevokeEpochUpdate)

def VerifiedAuthorizationStore.replace (store : VerifiedAuthorizationStore) (bundle : AuthorizationPolicyBundle) :
    VerifiedAuthorizationStore :=
  let previous := store.tenants[bundle.tenantId]?
  { store with
    tenants := store.tenants.insert bundle.tenantId {
      bundle := bundle
      tenantRevokeFloor := previous.elim bundle.revokeEpoch fun state => max state.tenantRevokeFloor bundle.revokeEpoch
      actorRevokeFloors := previous.elim ∅ TenantAuthorizationState.actorRevokeFloors } }

def installSignedBundle (store : VerifiedAuthorizationStore) (bytes : format.Bytes) :
    Except AuthorizationStoreError InstallOutcome × VerifiedAuthorizationStore :=
  match openBundle us format bytes store.keyring store.limits with
  | .error error => (.error (.artifact error), store)
  | .ok bundle =>
    match store.tenants[bundle.tenantId]? with
    | none => (.ok .installed, store.replace bundle)
    | some current =>
      if bundle.bundleSequence < current.bundle.bundleSequence then
        (.error (.bundleSequenceRollback current.bundle.bundleSequence bundle.bundleSequence), store)
      else if bundle.bundleSequence = current.bundle.bundleSequence then
        if bundle.contentHash = current.bundle.contentHash then (.ok .alreadyCurrent, store)
        else (.error (.bundleSequenceConflict bundle.bundleSequence), store)
      else if bundle.revokeEpoch < current.tenantRevokeFloor then
        (.error (.revokeEpochRollback current.tenantRevokeFloor bundle.revokeEpoch), store)
      else (.ok .installed, store.replace bundle)

def raiseFloor (current incoming : Nat) : Except AuthorizationStoreError InstallOutcome × Nat :=
  if incoming < current then (.error (.revokeEpochRollback current incoming), current)
  else if incoming = current then (.ok .alreadyCurrent, current)
  else (.ok .installed, incoming)

def TenantAuthorizationState.actorFloor (state : TenantAuthorizationState) (actorId : String) : Nat :=
  state.actorRevokeFloors[actorId]?.getD 0

-- The floor of an actor without one is entered as zero, whatever becomes of the update.
def TenantAuthorizationState.revoke (state : TenantAuthorizationState) (update : AuthorizationRevokeEpochUpdate) :
    Except AuthorizationStoreError InstallOutcome × TenantAuthorizationState :=
  if update.actorId = "" then
    let (outcome, floor) := raiseFloor state.tenantRevokeFloor update.revokeEpoch
    (outcome, { state with tenantRevokeFloor := floor })
  else
    let (outcome, floor) := raiseFloor (state.actorFloor update.actorId) update.revokeEpoch
    (outcome, { state with actorRevokeFloors := state.actorRevokeFloors.insert update.actorId floor })

def applySignedRevokeUpdate (store : VerifiedAuthorizationStore) (bytes : updates.Bytes) :
    Except AuthorizationStoreError InstallOutcome × VerifiedAuthorizationStore :=
  match openRevokeUpdate updates bytes store.keyring store.limits with
  | .error error => (.error (.artifact error), store)
  | .ok update =>
    match store.tenants[update.tenantId]? with
    | none => (.error (.missingBundle update.tenantId), store)
    | some state =>
      if update.bundleSequence ≠ state.bundle.bundleSequence then
        (.error (.revokeBundleSequenceMismatch state.bundle.bundleSequence update.bundleSequence), store)
      else
        let (outcome, state) := state.revoke update
        (outcome, { store with tenants := store.tenants.insert update.tenantId state })

def VerifiedAuthorizationStore.evaluate (store : VerifiedAuthorizationStore) (input : AuthorizationInput) :
    Except AuthorizationStoreError AuthorizationDecision := do
  let state ← okOr (.missingBundle input.tenantId) store.tenants[input.tenantId]?
  return Authorization.evaluate state.bundle input ⟨state.tenantRevokeFloor, state.actorFloor input.actorId⟩

inductive StoreCall
  | install (bytes : format.Bytes)
  | revoke (bytes : updates.Bytes)

def VerifiedAuthorizationStore.after (store : VerifiedAuthorizationStore) :
    StoreCall format updates → VerifiedAuthorizationStore
  | .install bytes => (installSignedBundle us format store bytes).2
  | .revoke bytes => (applySignedRevokeUpdate updates store bytes).2

def VerifiedAuthorizationStore.afterAll (store : VerifiedAuthorizationStore) (calls : List (StoreCall format updates)) :
    VerifiedAuthorizationStore :=
  calls.foldl (VerifiedAuthorizationStore.after us format updates) store

end Calls

section Epochs
open VerifiedAuthorizationStore TenantAuthorizationState

def TenantAuthorizationState.required (state : TenantAuthorizationState) (actorId : String) : Nat :=
  requiredRevokeEpoch state.bundle actorId ⟨state.tenantRevokeFloor, state.actorFloor actorId⟩

/-- The epoch `evaluate` requires of an actor of a tenant; a tenant without a bundle requires none. -/
def VerifiedAuthorizationStore.requiredEpoch (store : VerifiedAuthorizationStore) (tenantId actorId : String) : Nat :=
  store.tenants[tenantId]?.elim 0 fun state => state.required actorId

structure TenantAuthorizationState.Sound (state : TenantAuthorizationState) : Prop where
  opened : state.bundle.Opened
  floor : state.bundle.revokeEpoch ≤ state.tenantRevokeFloor

def VerifiedAuthorizationStore.Sound (store : VerifiedAuthorizationStore) : Prop :=
  ∀ (tenantId : String) (state : TenantAuthorizationState), store.tenants[tenantId]? = some state → state.Sound

def VerifiedAuthorizationStore.Supersedes (store : VerifiedAuthorizationStore) (bundle : AuthorizationPolicyBundle) : Prop :=
  ∀ current, store.tenants[bundle.tenantId]? = some current →
    current.bundle.bundleSequence < bundle.bundleSequence ∧ current.tenantRevokeFloor ≤ bundle.revokeEpoch

/-- Every actor epoch of the old bundle is reached by the new bundle or by the floor streamed for the actor. -/
def TenantAuthorizationState.CarriedBy (state : TenantAuthorizationState) (bundle : AuthorizationPolicyBundle) : Prop :=
  ∀ entry ∈ state.bundle.actorRevokeEpochs, entry.revokeEpoch ≤ bundle.revokeEpoch ∨
    (∃ carried ∈ bundle.actorRevokeEpochs, carried.actorId = entry.actorId ∧ entry.revokeEpoch ≤ carried.revokeEpoch) ∨
    entry.revokeEpoch ≤ state.actorFloor entry.actorId

section State
variable {state : TenantAuthorizationState} {actorId : String}

theorem required_le_iff (h : state.Sound) {epoch : Nat} : state.required actorId ≤ epoch ↔
    (∀ entry ∈ state.bundle.actorRevokeEpochs, entry.actorId = actorId → entry.revokeEpoch ≤ epoch) ∧
      state.tenantRevokeFloor ≤ epoch ∧ state.actorFloor actorId ≤ epoch := by
  have hfl := h.floor
  rw [required, requiredRevokeEpoch, Nat.max_le, Nat.max_le, requiredEpoch_le_iff, actorBundleEpoch_le_iff h.opened]
  constructor
  · rintro ⟨⟨_,has⟩,ht,ha⟩
    exact ⟨has,ht,ha⟩
  · rintro ⟨has,ht,ha⟩
    exact ⟨⟨Nat.le_trans hfl ht,has⟩,ht,ha⟩

/-- What a state requires of an actor is at least its own entry and both floors. -/
theorem required_bounds (h : state.Sound) (actorId : String) :
    (∀ entry ∈ state.bundle.actorRevokeEpochs, entry.actorId = actorId → entry.revokeEpoch ≤ state.required actorId) ∧
      state.tenantRevokeFloor ≤ state.required actorId ∧ state.actorFloor actorId ≤ state.required actorId :=
  (required_le_iff h).mp (Nat.le_refl _)

theorem raiseFloor_snd (current incoming : Nat) : (raiseFloor current incoming).2 = max current incoming := by
  unfold raiseFloor
  split
  · exact (Nat.max_eq_left (by omega)).symm
  · split
    · rename_i heq
      rw [heq, Nat.max_self]
    · exact (Nat.max_eq_right (by omega)).symm

/-- An update of the floors keeps the bundle and lowers no floor. -/
theorem revoke_spec (state : TenantAuthorizationState) (update : AuthorizationRevokeEpochUpdate) :
    (state.revoke update).2.bundle = state.bundle ∧
      state.tenantRevokeFloor ≤ (state.revoke update).2.tenantRevokeFloor ∧
      ∀ actorId, state.actorFloor actorId ≤ (state.revoke update).2.actorFloor actorId := by
  unfold TenantAuthorizationState.revoke
  split
  · refine ⟨rfl,?_,fun _ => Nat.le_refl _⟩
    simp only [raiseFloor_snd]
    exact Nat.le_max_left _ _
  · refine ⟨rfl,Nat.le_refl _,fun actorId => ?_⟩
    simp only [actorFloor, raiseFloor_snd, getElem?_insert_eq]
    split
    · rename_i heq
      subst heq
      exact Nat.le_max_left _ _
    · exact Nat.le_refl _

theorem revoke_sound (h : state.Sound) (update : AuthorizationRevokeEpochUpdate) : (state.revoke update).2.Sound := by
  obtain ⟨hbu,ht,_⟩ := revoke_spec state update
  refine ⟨by rw [hbu]; exact h.opened,?_⟩
  rw [hbu]
  exact Nat.le_trans h.floor ht

theorem required_le_revoke (h : state.Sound) (update : AuthorizationRevokeEpochUpdate) :
    state.required actorId ≤ (state.revoke update).2.required actorId := by
  obtain ⟨hbu,ht,ha⟩ := revoke_spec state update
  obtain ⟨has,ht',ha'⟩ := required_bounds (revoke_sound h update) actorId
  rw [hbu] at has
  exact (required_le_iff h).mpr ⟨has,Nat.le_trans ht ht',Nat.le_trans (ha actorId) ha'⟩

end State

section Store
variable {us : UnstableSort} {format : ArtifactFormat AuthorizationPolicyBundle}
  {updates : ArtifactFormat AuthorizationRevokeEpochUpdate} {store : VerifiedAuthorizationStore}
  {bundle : AuthorizationPolicyBundle}

theorem installSignedBundle_store {bytes : format.Bytes}
    (ho : openBundle us format bytes store.keyring store.limits = .ok bundle) :
    (store.Supersedes bundle → (installSignedBundle us format store bytes).2 = store.replace bundle) ∧
      (¬ store.Supersedes bundle → (installSignedBundle us format store bytes).2 = store) := by
  unfold installSignedBundle VerifiedAuthorizationStore.Supersedes
  rw [ho]
  simp only
  cases hc : store.tenants[bundle.tenantId]? with
  | none => exact ⟨fun _ => rfl,fun hnot => absurd (fun current h => nomatch h) hnot⟩
  | some current =>
    have hiff : (∀ state, some current = some state → state.bundle.bundleSequence < bundle.bundleSequence ∧
        state.tenantRevokeFloor ≤ bundle.revokeEpoch) ↔
        current.bundle.bundleSequence < bundle.bundleSequence ∧ current.tenantRevokeFloor ≤ bundle.revokeEpoch :=
      ⟨fun h => h current rfl,fun h state heq => Option.some.inj heq ▸ h⟩
    rw [hiff]
    simp only
    split
    · exact ⟨fun h => by omega,fun _ => rfl⟩
    · split
      · refine ⟨fun h => by omega,fun _ => ?_⟩
        split <;> rfl
      · split
        · exact ⟨fun h => by omega,fun _ => rfl⟩
        · exact ⟨fun _ => rfl,fun h => absurd ⟨by omega,by omega⟩ h⟩

/-- An update leaves the store as it is, or revokes in the state of one tenant. -/
theorem applySignedRevokeUpdate_store (store : VerifiedAuthorizationStore) (bytes : updates.Bytes) :
    (applySignedRevokeUpdate updates store bytes).2 = store ∨ ∃ tenantId state update,
      store.tenants[tenantId]? = some state ∧ (applySignedRevokeUpdate updates store bytes).2 =
        { store with tenants := store.tenants.insert tenantId (state.revoke update).2 } := by
  unfold applySignedRevokeUpdate
  split
  · exact .inl rfl
  · rename_i update _
    split
    · exact .inl rfl
    · rename_i state hs
      split
      · exact .inl rfl
      · exact .inr ⟨update.tenantId,state,update,hs,rfl⟩

theorem replaced_sound (h : store.Sound) (hop : bundle.Opened) : (store.replace bundle).Sound := by
  intro tenantId state hs
  rcases of_getElem?_insert hs with ⟨_,rfl⟩ | hs
  · refine ⟨hop,?_⟩
    cases store.tenants[bundle.tenantId]? with
    | none => exact Nat.le_refl _
    | some => exact Nat.le_max_right _ _
  · exact h tenantId state hs

theorem after_sound (h : store.Sound) (call : StoreCall format updates) : (store.after us format updates call).Sound := by
  cases call with
  | install bytes =>
    simp only [after]
    cases ho : openBundle us format bytes store.keyring store.limits with
    | error => simpa only [installSignedBundle, ho] using h
    | ok bundle =>
      obtain ⟨hre,hk⟩ := installSignedBundle_store ho
      by_cases hsu : store.Supersedes bundle
      · rw [hre hsu]
        exact replaced_sound h (openBundle_opened ho)
      · rw [hk hsu]
        exact h
  | revoke bytes =>
    simp only [after]
    rcases applySignedRevokeUpdate_store store bytes with hs | ⟨tenantId,state,update,hst,hs⟩
    · rw [hs]
      exact h
    · rw [hs]
      intro tenantId' state' hs'
      rcases of_getElem?_insert hs' with ⟨_,rfl⟩ | hs'
      · exact revoke_sound (h tenantId state hst) update
      · exact h tenantId' state' hs'

theorem afterAll_sound (h : store.Sound) (calls : List (StoreCall format updates)) :
    (store.afterAll us format updates calls).Sound := by
  induction calls generalizing store with
  | nil => exact h
  | cons call calls ih => exact ih (after_sound h call)

theorem new_sound (keyring : AuthorizationKeyring) (limits : AuthorizationArtifactLimits) :
    (new keyring limits).Sound := by
  intro tenantId state hs
  simp [new] at hs

theorem authorization_store_sound (keyring : AuthorizationKeyring) (limits : AuthorizationArtifactLimits)
    (calls : List (StoreCall format updates)) : ((new keyring limits).afterAll us format updates calls).Sound :=
  afterAll_sound (new_sound keyring limits) calls

/-- A bundle that supersedes keeps the required epochs of its tenant exactly if it carries the epochs it replaces. -/
theorem required_le_replace_iff (h : store.Sound) (hop : bundle.Opened) {current : TenantAuthorizationState}
    (hc : store.tenants[bundle.tenantId]? = some current) (hfl : current.tenantRevokeFloor ≤ bundle.revokeEpoch) :
    (∀ actorId, current.required actorId ≤ (store.replace bundle).requiredEpoch bundle.tenantId actorId) ↔
      current.CarriedBy bundle := by
  have hs : (store.replace bundle).tenants[bundle.tenantId]? =
      some ⟨bundle, max current.tenantRevokeFloor bundle.revokeEpoch, current.actorRevokeFloors⟩ := by
    simp [replace, hc]
  have hnew := replaced_sound h hop _ _ hs
  have hre : ∀ actorId, (store.replace bundle).requiredEpoch bundle.tenantId actorId =
      required ⟨bundle, max current.tenantRevokeFloor bundle.revokeEpoch, current.actorRevokeFloors⟩ actorId := by
    intro actorId
    rw [requiredEpoch, hs]
    rfl
  constructor
  · intro hk entry hin
    have he := ((required_le_iff (h _ _ hc)).mp (hk entry.actorId)).1 entry hin rfl
    by_contra hl
    simp only [not_or, not_exists, not_and, Nat.not_le] at hl
    obtain ⟨hep,hcar,ha⟩ := hl
    -- Everything the new state requires of the actor is below the entry that was lost.
    have hbe : (store.replace bundle).requiredEpoch bundle.tenantId entry.actorId ≤ entry.revokeEpoch - 1 := by
      rw [hre, required_le_iff hnew]
      refine ⟨fun carried hca hsa => ?_,?_,?_⟩
      · have := hcar carried hca hsa
        omega
      · simp only [Nat.max_le]
        omega
      · change current.actorFloor entry.actorId ≤ _
        omega
    omega
  · intro hcar actorId
    obtain ⟨has,ht,ha⟩ := required_bounds hnew actorId
    simp only [Nat.max_le] at ht
    rw [hre, required_le_iff (h _ _ hc)]
    refine ⟨fun entry hin hsa => ?_,ht.1,ha⟩
    subst hsa
    rcases hcar entry hin with hep | ⟨carried,hca,hac,hle⟩ | hst
    · exact Nat.le_trans hep ht.2
    · exact Nat.le_trans hle (has carried hca hac)
    · exact Nat.le_trans hst ha

def StoreCall.Carries (us : UnstableSort) (store : VerifiedAuthorizationStore) : StoreCall format updates → Prop
  | .install bytes => ∀ bundle current, openBundle us format bytes store.keyring store.limits = .ok bundle →
      store.tenants[bundle.tenantId]? = some current → current.bundle.bundleSequence < bundle.bundleSequence →
      current.tenantRevokeFloor ≤ bundle.revokeEpoch → current.CarriedBy bundle
  | .revoke _ => True

def AllCarry (us : UnstableSort) (store : VerifiedAuthorizationStore) : List (StoreCall format updates) → Prop
  | [] => True
  | call :: calls => call.Carries us store ∧ AllCarry us (store.after us format updates call) calls

theorem requiredEpoch_revoke_le (h : store.Sound) (bytes : updates.Bytes) (tenantId actorId : String) :
    store.requiredEpoch tenantId actorId ≤
      (applySignedRevokeUpdate updates store bytes).2.requiredEpoch tenantId actorId := by
  rcases applySignedRevokeUpdate_store store bytes with hs | ⟨tenantId',state,update,hst,hs⟩
  · rw [hs]
  · rw [hs]
    simp only [requiredEpoch, getElem?_insert_eq]
    split
    · rename_i heq
      subst heq
      rw [hst]
      exact required_le_revoke (h _ _ hst) update
    · exact Nat.le_refl _

theorem requiredEpoch_after_le_iff (h : store.Sound) (call : StoreCall format updates) :
    (∀ tenantId actorId, store.requiredEpoch tenantId actorId ≤
      (store.after us format updates call).requiredEpoch tenantId actorId) ↔ call.Carries us store := by
  cases call with
  | revoke bytes => exact ⟨fun _ => trivial,fun _ => requiredEpoch_revoke_le h bytes⟩
  | install bytes =>
    simp only [after, StoreCall.Carries]
    cases ho : openBundle us format bytes store.keyring store.limits with
    | error => simp [installSignedBundle, ho]
    | ok bundle =>
      have hop := openBundle_opened ho
      obtain ⟨hre,hke⟩ := installSignedBundle_store ho
      constructor
      · rintro hk _ current ⟨⟩ hc hsq hfl
        have hsu : store.Supersedes bundle := by
          intro state hs
          cases hc.symm.trans hs
          exact ⟨hsq,hfl⟩
        rw [hre hsu] at hk
        refine (required_le_replace_iff h hop hc hfl).mp fun actorId => ?_
        have ha := hk bundle.tenantId actorId
        rw [requiredEpoch, hc] at ha
        exact ha
      · intro hca tenantId actorId
        by_cases hsu : store.Supersedes bundle
        · rw [hre hsu]
          by_cases ht : tenantId = bundle.tenantId
          · subst ht
            cases hc : store.tenants[bundle.tenantId]? with
            | none =>
              rw [requiredEpoch, hc]
              exact Nat.zero_le _
            | some current =>
              obtain ⟨hsq,hfl⟩ := hsu current hc
              have hcar := hca bundle current rfl hc hsq hfl
              rw [requiredEpoch, hc]
              exact (required_le_replace_iff h hop hc hfl).mpr hcar actorId
          · simp only [requiredEpoch, replace, getElem?_insert_eq, if_neg (Ne.symm ht)]
            exact Nat.le_refl _
        · rw [hke hsu]

theorem requiredEpoch_afterAll_le (h : store.Sound) {calls : List (StoreCall format updates)}
    (hca : AllCarry us store calls) (tenantId actorId : String) :
    store.requiredEpoch tenantId actorId ≤ (store.afterAll us format updates calls).requiredEpoch tenantId actorId := by
  induction calls generalizing store with
  | nil => exact Nat.le_refl _
  | cons call calls ih =>
    obtain ⟨hc,hr⟩ := hca
    have hs := (requiredEpoch_after_le_iff h call).mpr hc tenantId actorId
    exact Nat.le_trans hs (ih (after_sound h call) hr)

variable {input : AuthorizationInput} {external : RevocationSnapshot} {decision : AuthorizationDecision}

theorem lt_required_of_revoked (h : (evaluate bundle input external).denyReason = some .actorProofRevoked) :
    input.actorProofRevokeEpoch < requiredRevokeEpoch bundle input.actorId external := by
  by_contra hle
  unfold evaluate at h
  simp only [if_neg hle, denied] at h
  repeat' split at h
  all_goals cases h

theorem required_le_of_allow (h : (evaluate bundle input external).decision = .allow) :
    requiredRevokeEpoch bundle input.actorId external ≤ input.actorProofRevokeEpoch := by
  by_contra hlt
  unfold evaluate at h
  simp only [if_pos (Nat.not_le.mp hlt), denied] at h
  repeat' split at h
  all_goals cases h

theorem not_allowed_of_lt (hlt : input.actorProofRevokeEpoch < store.requiredEpoch input.tenantId input.actorId)
    (h : store.evaluate input = .ok decision) : decision.decision ≠ .allow := by
  simp only [VerifiedAuthorizationStore.evaluate, bind_eq_ok, okOr_eq_ok] at h
  obtain ⟨state,hs,⟨⟩⟩ := h
  intro ha
  have hle := required_le_of_allow ha
  rw [requiredEpoch, hs] at hlt
  exact absurd hlt (Nat.not_lt.mpr hle)

theorem lt_requiredEpoch_of_revoked (h : store.evaluate input = .ok decision)
    (hr : decision.denyReason = some .actorProofRevoked) :
    input.actorProofRevokeEpoch < store.requiredEpoch input.tenantId input.actorId := by
  simp only [VerifiedAuthorizationStore.evaluate, bind_eq_ok, okOr_eq_ok] at h
  obtain ⟨state,hs,⟨⟩⟩ := h
  rw [requiredEpoch, hs]
  exact lt_required_of_revoked hr

end Store

end Epochs

/-- In every store that calls lead to, a further call lowers no required epoch exactly if it carries the actor epochs
of the bundle it replaces. Along calls that do, required epochs only rise and a revoked credential stays refused. -/
theorem revocation_monotone_iff {us : UnstableSort} {format : ArtifactFormat AuthorizationPolicyBundle}
    {updates : ArtifactFormat AuthorizationRevokeEpochUpdate} (keyring : AuthorizationKeyring)
    (limits : AuthorizationArtifactLimits) (before : List (StoreCall format updates))
    (store : VerifiedAuthorizationStore)
    (hstore : store = (VerifiedAuthorizationStore.new keyring limits).afterAll us format updates before) :
    (∀ call, (∀ tenantId actorId, store.requiredEpoch tenantId actorId ≤
        (store.after us format updates call).requiredEpoch tenantId actorId) ↔ call.Carries us store) ∧
      ∀ calls, AllCarry us store calls → (∀ tenantId actorId, store.requiredEpoch tenantId actorId ≤
          (store.afterAll us format updates calls).requiredEpoch tenantId actorId) ∧
        ∀ input later decision decision', store.evaluate input = .ok decision →
          decision.denyReason = some .actorProofRevoked → later.tenantId = input.tenantId →
          later.actorId = input.actorId → later.actorProofRevokeEpoch ≤ input.actorProofRevokeEpoch →
          (store.afterAll us format updates calls).evaluate later = .ok decision' → decision'.decision ≠ .allow := by
  have hs : store.Sound := by
    rw [hstore]
    exact afterAll_sound (new_sound keyring limits) before
  refine ⟨requiredEpoch_after_le_iff hs,fun calls hc => ⟨requiredEpoch_afterAll_le hs hc,?_⟩⟩
  intro input later decision decision' hd hr ht ha he hl
  have hb := lt_requiredEpoch_of_revoked hd hr
  have hk := requiredEpoch_afterAll_le hs hc input.tenantId input.actorId
  refine not_allowed_of_lt ?_ hl
  rw [ht, ha]
  omega

namespace Sample

def updateFormat : ArtifactFormat AuthorizationRevokeEpochUpdate :=
  { MessageFormat.plain AuthorizationRevokeEpochUpdate with
    size := fun _ => 64
    sameBytes := (inferInstance : DecidableEq AuthorizationRevokeEpochUpdate)
    sha256 := fun update => [update.revokeEpoch.toUInt8] }

def revokingInstall : StoreCall bundleFormat updateFormat := .install (sealed (policyBundle 1 2 [] [⟨"actor-1", 5⟩]))

def omittingInstall : StoreCall bundleFormat updateFormat := .install (sealed (policyBundle 2 2 [] []))

def raisingInstall : StoreCall bundleFormat updateFormat := .install (sealed (policyBundle 2 6 [] []))

def revokedStore : VerifiedAuthorizationStore :=
  (VerifiedAuthorizationStore.new keyring artifactLimits).afterAll .insertion bundleFormat updateFormat [revokingInstall]

end Sample

open BpmpPlatform.Authorization.Sample

/-- The credential of epoch four is refused, and after a bundle that carries the epoch still is. -/
theorem revocation_monotone_iff_raised :
    (revokedStore.evaluate (startInput 4)).map AuthorizationDecision.denyReason =
        .ok (some .actorProofRevoked) ∧ revokedStore.requiredEpoch "tenant-a" "actor-1" ≤
        (revokedStore.after .insertion _ _ raisingInstall).requiredEpoch "tenant-a" "actor-1" := by
  refine ⟨by decide,?_⟩
  have hm := (revocation_monotone_iff keyring artifactLimits [revokingInstall]
    revokedStore rfl).1 raisingInstall
  refine hm.mpr ?_ "tenant-a" "actor-1"
  rintro bundle current ⟨⟩ hc _ _
  injection hc with hc
  subst hc
  intro entry hin
  have he : entry = ⟨"actor-1", 5⟩ := List.mem_singleton.mp hin
  rw [he]
  exact .inl (by decide)

/-- A newer bundle that omits the actor lowers its required epoch, and the refused credential is allowed again. -/
theorem omitted_actor_readmitted : revokedStore.requiredEpoch "tenant-a" "actor-1" = 5 ∧
      (revokedStore.evaluate (startInput 4)).map AuthorizationDecision.denyReason =
        .ok (some .actorProofRevoked) ∧
      (revokedStore.after .insertion _ _ omittingInstall).requiredEpoch "tenant-a" "actor-1" = 2 ∧
      ((revokedStore.after .insertion _ _ omittingInstall).evaluate (startInput 4)).map
        AuthorizationDecision.decision = .ok .allow := by
  decide

end BpmpPlatform.Authorization
