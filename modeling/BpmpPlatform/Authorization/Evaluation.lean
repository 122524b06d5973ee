import BpmpPlatform.Authorization.Bundle

/-! # Evaluation of a transition

`evaluate` checks the credential against an opened bundle and collects the grants that match.
-/
namespace BpmpPlatform.Authorization
open Std Outcome List

structure AuthorizationInput where
  tenantId : String
  actorId : String
  roles : List String
  capabilities : List String
  actorProofRevokeEpoch : Nat
  evaluatedAtEpochMs : Nat
  workflowType : String
  workflowVersion : String
  activeNodeId : String
  action : String

structure RevocationSnapshot where
  tenantEpoch : Nat := 0
  actorEpoch : Nat := 0

def RevocationSnapshot.requiredEpoch (snapshot : RevocationSnapshot) : Nat :=
  if snapshot.tenantEpoch > snapshot.actorEpoch then snapshot.tenantEpoch else snapshot.actorEpoch

inductive DecisionType
  | allow
  | deny
  deriving DecidableEq

inductive DenyReason
  | bundleTenantMismatch
  | bundleNotYetValid
  | bundleExpired
  | actorProofRevoked
  | invalidPolicyEffect
  | noMatchingGrant
  | explicitDeny
  deriving DecidableEq

structure AuthorizationDecision where
  decision : DecisionType
  denyReason : Option DenyReason
  policyVersion : String
  bundleSequence : Nat
  requiredRevokeEpoch : Nat
  matchedGrantIds : List String
  deriving DecidableEq

section Engine

def selectorMatches (selector actual : String) : Bool := selector == "*" || selector == actual

def subjectMatches (grant : AuthorizationPolicyGrant) (input : AuthorizationInput) : Bool :=
  if grant.actorIds.isEmpty && grant.roles.isEmpty then true
  else (grant.actorIds.any fun actor => actor == input.actorId) || grant.roles.any fun role => input.roles.contains role

def grantMatches (grant : AuthorizationPolicyGrant) (input : AuthorizationInput) : Bool :=
  subjectMatches grant input &&
    (grant.requiredCapabilities.all fun required => input.capabilities.contains required) &&
    selectorMatches grant.workflowType input.workflowType &&
    selectorMatches grant.workflowVersion input.workflowVersion &&
    selectorMatches grant.activeNodeId input.activeNodeId &&
    selectorMatches grant.action input.action

variable (bundle : AuthorizationPolicyBundle)

def actorBundleEpoch (actorId : String) : Nat :=
  ((binarySearchBy (fun entry => compare entry.actorId actorId) bundle.actorRevokeEpochs.length
    bundle.actorRevokeEpochs).map ActorRevokeEpoch.revokeEpoch).getD 0

def requiredRevokeEpoch (actorId : String) (external : RevocationSnapshot) : Nat :=
  max (max bundle.revokeEpoch (actorBundleEpoch bundle actorId)) external.requiredEpoch

/-- `AuthorizationDecision::deny`. -/
def denied (reason : DenyReason) (requiredRevokeEpoch : Nat) (matchedGrantIds : List String) : AuthorizationDecision where
  decision := .deny
  denyReason := some reason
  policyVersion := bundle.policyVersion
  bundleSequence := bundle.bundleSequence
  requiredRevokeEpoch := requiredRevokeEpoch
  matchedGrantIds := matchedGrantIds

/-- The loop over the grants: the allowing and the denying ones, or the first with an invalid effect. -/
def collectGrants (input : AuthorizationInput) (allows denies : List String) :
    List AuthorizationPolicyGrant → Except String (List String × List String)
  | [] => .ok (allows, denies)
  | grant :: grants =>
    if !grantMatches grant input then collectGrants input allows denies grants
    else
      match AuthorizationPolicyEffect.tryFrom grant.effect with
      | some .allow => collectGrants input (allows ++ [grant.grantId]) denies grants
      | some .deny => collectGrants input allows (denies ++ [grant.grantId]) grants
      | some .unspecified | none => .error grant.grantId

def evaluate (input : AuthorizationInput) (externalRevocation : RevocationSnapshot) : AuthorizationDecision :=
  let required := requiredRevokeEpoch bundle input.actorId externalRevocation
  if bundle.tenantId ≠ input.tenantId then denied bundle .bundleTenantMismatch required []
  else if input.evaluatedAtEpochMs < bundle.validFromEpochMs then denied bundle .bundleNotYetValid required []
  else if input.evaluatedAtEpochMs ≥ bundle.expiresAtEpochMs then denied bundle .bundleExpired required []
  else if input.actorProofRevokeEpoch < required then denied bundle .actorProofRevoked required []
  else
    match collectGrants input [] [] bundle.grants with
    | .error grantId => denied bundle .invalidPolicyEffect required [grantId]
    | .ok (allows, denies) =>
      if !denies.isEmpty then denied bundle .explicitDeny required denies
      else if allows.isEmpty then denied bundle .noMatchingGrant required []
      else {
        decision := .allow
        denyReason := none
        policyVersion := bundle.policyVersion
        bundleSequence := bundle.bundleSequence
        requiredRevokeEpoch := required
        matchedGrantIds := allows }

end Engine

variable {grant : AuthorizationPolicyGrant}

section Meaning

def Selects (selector actual : String) : Prop := selector = "*" ∨ selector = actual

/-- A grant applies to a transition: to everyone, or to the actor or a role; and only with its capabilities. -/
structure AuthorizationPolicyGrant.Applies (grant : AuthorizationPolicyGrant) (input : AuthorizationInput) : Prop where
  subject : (grant.actorIds = [] ∧ grant.roles = []) ∨ input.actorId ∈ grant.actorIds ∨ ∃ role ∈ grant.roles, role ∈ input.roles
  capabilities : ∀ required ∈ grant.requiredCapabilities, required ∈ input.capabilities
  workflowType : Selects grant.workflowType input.workflowType
  workflowVersion : Selects grant.workflowVersion input.workflowVersion
  activeNode : Selects grant.activeNodeId input.activeNodeId
  action : Selects grant.action input.action

structure CredentialHolds (bundle : AuthorizationPolicyBundle) (input : AuthorizationInput)
    (external : RevocationSnapshot) : Prop where
  tenant : bundle.tenantId = input.tenantId
  started : bundle.validFromEpochMs ≤ input.evaluatedAtEpochMs
  unexpired : input.evaluatedAtEpochMs < bundle.expiresAtEpochMs
  bundleEpoch : bundle.revokeEpoch ≤ input.actorProofRevokeEpoch
  actorEpoch : ∀ entry ∈ bundle.actorRevokeEpochs, entry.actorId = input.actorId →
    entry.revokeEpoch ≤ input.actorProofRevokeEpoch
  tenantFloor : external.tenantEpoch ≤ input.actorProofRevokeEpoch
  actorFloor : external.actorEpoch ≤ input.actorProofRevokeEpoch

variable {bundle : AuthorizationPolicyBundle} {input : AuthorizationInput} {external : RevocationSnapshot}
  {epoch : Nat} {grants : List AuthorizationPolicyGrant} {effect : AuthorizationPolicyEffect}

theorem selectorMatches_iff {selector actual : String} : selectorMatches selector actual = true ↔ Selects selector actual := by
  simp [selectorMatches, Selects]

theorem subjectMatches_iff : subjectMatches grant input = true ↔
    (grant.actorIds = [] ∧ grant.roles = []) ∨ input.actorId ∈ grant.actorIds ∨
      ∃ role ∈ grant.roles, role ∈ input.roles := by
  unfold subjectMatches
  split
  · rename_i he
    simp only [Bool.and_eq_true, List.isEmpty_iff] at he
    simp [he]
  · rename_i he
    simp only [Bool.and_eq_true, List.isEmpty_iff] at he
    simp [he]

theorem grantMatches_iff : grantMatches grant input = true ↔ grant.Applies input := by
  simp only [grantMatches, Bool.and_eq_true, subjectMatches_iff, selectorMatches_iff, all_eq_true,
    contains_iff_mem]
  constructor
  · rintro ⟨⟨⟨⟨⟨hsu,hca⟩,ht⟩,hv⟩,hn⟩,hac⟩
    exact ⟨hsu,hca,ht,hv,hn,hac⟩
  · rintro ⟨hsu,hca,ht,hv,hn,hac⟩
    exact ⟨⟨⟨⟨⟨hsu,hca⟩,ht⟩,hv⟩,hn⟩,hac⟩

theorem actorBundleEpoch_le_iff (h : bundle.Opened) {actorId : String} :
    actorBundleEpoch bundle actorId ≤ epoch ↔
      ∀ entry ∈ bundle.actorRevokeEpochs, entry.actorId = actorId → entry.revokeEpoch ≤ epoch := by
  have hpa : bundle.actorRevokeEpochs.Pairwise fun a b =>
      compare a.actorId actorId = .lt ∨ compare b.actorId actorId = .gt := by
    refine h.epochs.imp fun {a b} hlt => ?_
    cases hb : compare b.actorId actorId with
    | gt => exact .inr rfl
    | lt => exact .inl (TransCmp.lt_trans hlt hb)
    | eq => exact .inl (TransCmp.lt_of_lt_of_eq hlt hb)
  have hf := fun entry => binarySearchBy_eq_some_iff (a := entry) hpa (Nat.le_refl _)
  unfold actorBundleEpoch
  constructor
  · intro hle entry hin ha
    have hs := (hf entry).mpr ⟨hin,by rw [ha]; exact ReflCmp.compare_self⟩
    rw [hs] at hle
    exact hle
  · intro hall
    cases hse : binarySearchBy (fun entry => compare entry.actorId actorId) bundle.actorRevokeEpochs.length
        bundle.actorRevokeEpochs with
    | none => exact Nat.zero_le _
    | some entry =>
      obtain ⟨hin,heq⟩ := (hf entry).mp hse
      exact hall entry hin (LawfulEqOrd.eq_of_compare heq)

theorem requiredEpoch_le_iff :
    external.requiredEpoch ≤ epoch ↔ external.tenantEpoch ≤ epoch ∧ external.actorEpoch ≤ epoch := by
  unfold RevocationSnapshot.requiredEpoch
  split <;> omega

def matchingIds (input : AuthorizationInput) (effect : AuthorizationPolicyEffect) (grants : List AuthorizationPolicyGrant) :
    List String :=
  (grants.filter fun grant => grantMatches grant input &&
    AuthorizationPolicyEffect.tryFrom grant.effect == some effect).map AuthorizationPolicyGrant.grantId

theorem collectGrants_eq (heff : ∀ grant ∈ grants, AuthorizationPolicyEffect.tryFrom grant.effect = some .allow ∨
      AuthorizationPolicyEffect.tryFrom grant.effect = some .deny) (allows denies : List String) :
    collectGrants input allows denies grants =
      .ok (allows ++ matchingIds input .allow grants, denies ++ matchingIds input .deny grants) := by
  induction grants generalizing allows denies with
  | nil => simp [collectGrants, matchingIds]
  | cons grant grants ih =>
    have hr := ih fun g hg => heff g (mem_cons_of_mem _ hg)
    rw [collectGrants]
    cases hm : grantMatches grant input with
    | false => simp [hr, matchingIds, hm]
    | true =>
      rcases heff grant mem_cons_self with hef | hef
      · simp [hr, matchingIds, hm, hef]
      · simp [hr, matchingIds, hm, hef]

theorem matchingIds_eq_nil_iff :
    matchingIds input effect grants = [] ↔ ∀ grant ∈ grants, grant.Applies input →
      AuthorizationPolicyEffect.tryFrom grant.effect ≠ some effect := by
  simp [matchingIds, filter_eq_nil_iff, grantMatches_iff]

theorem allow_unless_denied {c : Prop} [Decidable c] {reason : DenyReason} {required : Nat}
    {ids : List String} {other : AuthorizationDecision} :
    (if c then denied bundle reason required ids else other).decision = .allow ↔ ¬c ∧ other.decision = .allow := by
  split
  · rename_i hc
    exact ⟨nofun,fun hn => absurd hc hn.1⟩
  · rename_i hc
    exact (and_iff_right hc).symm

section
variable (h : bundle.Opened)
include h

theorem nodup_matchingIds : (matchingIds input effect bundle.grants).Nodup := by
  rw [matchingIds, List.Nodup, pairwise_map]
  refine (h.grants.filter _).imp fun {a b} hlt heq => ?_
  have hs : compareOn AuthorizationPolicyGrant.grantId a b = .eq := by
    unfold compareOn
    rw [heq]
    exact ReflCmp.compare_self
  rw [hs] at hlt
  cases hlt

theorem credentialHolds_iff : CredentialHolds bundle input external ↔
    bundle.tenantId = input.tenantId ∧ bundle.validFromEpochMs ≤ input.evaluatedAtEpochMs ∧
      input.evaluatedAtEpochMs < bundle.expiresAtEpochMs ∧
      requiredRevokeEpoch bundle input.actorId external ≤ input.actorProofRevokeEpoch := by
  have hre : requiredRevokeEpoch bundle input.actorId external ≤ input.actorProofRevokeEpoch ↔
      (bundle.revokeEpoch ≤ input.actorProofRevokeEpoch ∧
        actorBundleEpoch bundle input.actorId ≤ input.actorProofRevokeEpoch) ∧
      external.requiredEpoch ≤ input.actorProofRevokeEpoch := by
    rw [requiredRevokeEpoch, Nat.max_le, Nat.max_le]
  rw [hre, actorBundleEpoch_le_iff h, requiredEpoch_le_iff]
  constructor
  · rintro ⟨ht,hst,hun,hbu,ha,hte,hac⟩
    exact ⟨ht,hst,hun,⟨hbu,ha⟩,hte,hac⟩
  · rintro ⟨ht,hst,hun,⟨hbu,ha⟩,hte,hac⟩
    exact ⟨ht,hst,hun,hbu,ha,hte,hac⟩

theorem evaluate_allow_iff : (evaluate bundle input external).decision = .allow ↔
    CredentialHolds bundle input external ∧ matchingIds input .deny bundle.grants = [] ∧
      matchingIds input .allow bundle.grants ≠ [] := by
  rw [credentialHolds_iff h]
  simp only [evaluate, allow_unless_denied, collectGrants_eq h.effects, nil_append, not_not, Nat.not_lt, ge_iff_le,
    Nat.not_le, Bool.not_eq_true', Bool.not_eq_false, List.isEmpty_iff, and_assoc, and_true, ne_eq]

theorem evaluate_matched (ha : (evaluate bundle input external).decision = .allow) :
    (evaluate bundle input external).matchedGrantIds = matchingIds input .allow bundle.grants := by
  obtain ⟨hcr,hde,hal⟩ := (evaluate_allow_iff h).mp ha
  obtain ⟨ht,hst,hun,hep⟩ := (credentialHolds_iff h).mp hcr
  unfold evaluate
  rw [if_neg (not_not.mpr ht), if_neg (Nat.not_lt.mpr hst), if_neg (Nat.not_le.mpr hun),
    if_neg (Nat.not_lt.mpr hep), collectGrants_eq h.effects]
  simp only [nil_append, hde, isEmpty_eq_false_iff.mpr hal]
  rfl

end

end Meaning

section Order
variable {us : UnstableSort} {bundle bundle' : AuthorizationPolicyBundle} {limits : AuthorizationArtifactLimits}

structure AuthorizationPolicyGrant.SameUpToOrder (grant grant' : AuthorizationPolicyGrant) : Prop where
  actorIds : grant.actorIds.Perm grant'.actorIds
  roles : grant.roles.Perm grant'.roles
  requiredCapabilities : grant.requiredCapabilities.Perm grant'.requiredCapabilities
  rest : { grant with actorIds := [], roles := [], requiredCapabilities := [] } =
    { grant' with actorIds := [], roles := [], requiredCapabilities := [] }

structure AuthorizationPolicyBundle.SameUpToOrder (bundle bundle' : AuthorizationPolicyBundle) : Prop where
  grants : ∃ grants, bundle.grants.Perm grants ∧
    List.Forall₂ AuthorizationPolicyGrant.SameUpToOrder grants bundle'.grants
  epochs : bundle.actorRevokeEpochs.Perm bundle'.actorRevokeEpochs
  rest : { bundle with grants := [], actorRevokeEpochs := [] } = { bundle' with grants := [], actorRevokeEpochs := [] }

theorem sortedValues_eq {values values' : List String} (h : values.Perm values') :
    sortedValues us values = sortedValues us values' := by
  unfold sortedValues
  rw [us.sort_eq_of_perm h fun a _ b _ heq => LawfulEqOrd.eq_of_compare heq]

theorem canonicalizeGrant_eq {grant' : AuthorizationPolicyGrant} (h : grant.SameUpToOrder grant') :
    canonicalizeGrant us grant = canonicalizeGrant us grant' := by
  obtain ⟨has,hro,hca,hr⟩ := h
  cases grant
  cases grant'
  simp only [AuthorizationPolicyGrant.mk.injEq, true_and] at hr
  obtain ⟨rfl,rfl,rfl,rfl,rfl,rfl,rfl⟩ := hr
  simp only [canonicalizeGrant, sortedValues_eq has, sortedValues_eq hro, sortedValues_eq hca]

theorem eq_of_pairwise_lt {α : Type} {cmp : α → α → Ordering} [TransCmp cmp] {l : List α}
    (h : l.Pairwise fun a b => cmp a b = .lt) {a b : α} (ha : a ∈ l) (hb : b ∈ l) (heq : cmp a b = .eq) : a = b := by
  have hsy : Std.Symm fun x y => cmp x y ≠ .eq := ⟨fun _ _ hne he => hne (OrientedCmp.eq_symm he)⟩
  have hp : l.Pairwise fun x y => cmp x y ≠ .eq := h.imp fun hlt => by simp [hlt]
  by_contra hne
  exact hp.forall ha hb hne heq

theorem canonicalizeBundle_eq (h : bundle.SameUpToOrder bundle')
    (hva : validateBundle (canonicalizeBundle us bundle) limits = .ok ()) :
    canonicalizeBundle us bundle = canonicalizeBundle us bundle' := by
  have hop := canonicalizeBundle_opened hva
  obtain ⟨⟨grants,hp,hs⟩,hep,hr⟩ := h
  have hmap : (bundle.grants.map (canonicalizeGrant us)).Perm (bundle'.grants.map (canonicalizeGrant us)) := by
    have heq : grants.map (canonicalizeGrant us) = bundle'.grants.map (canonicalizeGrant us) := by
      rw [← forall₂_eq_eq_eq, forall₂_map_left_iff, forall₂_map_right_iff]
      exact hs.imp fun _ _ hg => canonicalizeGrant_eq hg
    rw [← heq]
    exact hp.map _
  have hgr : us.sort (compareOn AuthorizationPolicyGrant.grantId) _ = us.sort _ _ := us.sort_eq_of_perm hmap
    fun a ha b hb heq => eq_of_pairwise_lt hop.grants (us.mem_sort.mpr ha) (us.mem_sort.mpr hb) heq
  have has : us.sort (compareOn ActorRevokeEpoch.actorId) _ = us.sort _ _ := us.sort_eq_of_perm hep
    fun a ha b hb heq => eq_of_pairwise_lt hop.epochs (us.mem_sort.mpr ha) (us.mem_sort.mpr hb) heq
  cases bundle
  cases bundle'
  simp only [AuthorizationPolicyBundle.mk.injEq, true_and] at hr
  obtain ⟨rfl,rfl,rfl,rfl,rfl,rfl,rfl,rfl,rfl,rfl⟩ := hr
  simp only [canonicalizeBundle] at hgr has ⊢
  rw [hgr, has]

theorem sealBundle_eq {format : ArtifactFormat AuthorizationPolicyBundle} (h : bundle.SameUpToOrder bundle')
    {keyId : String} {sign : List UInt8 → List UInt8} {bytes : format.Bytes}
    (hs : sealBundle us format bundle keyId sign limits = .ok bytes) :
    sealBundle us format bundle' keyId sign limits = .ok bytes := by
  have hk : { bundle with signingKeyId := keyId }.SameUpToOrder { bundle' with signingKeyId := keyId } := by
    refine ⟨h.grants,h.epochs,?_⟩
    have hr := h.rest
    cases bundle
    cases bundle'
    simp only [AuthorizationPolicyBundle.mk.injEq, true_and] at hr ⊢
    tauto
  have hs' := hs
  simp only [sealBundle, bind_eq_ok] at hs
  obtain ⟨_,_,_,hva,_⟩ := hs
  rw [sealBundle, canonicalizeBundle_eq hk hva] at hs'
  exact hs'

end Order

/-- Over an opened bundle a transition is allowed exactly when the credential holds, a grant that applies allows it
and none denies it; the grants reported are those that allow it; and what is sealed does not depend on the order of
the bundle. -/
theorem evaluate_deny_overrides {us : UnstableSort} {format : ArtifactFormat AuthorizationPolicyBundle}
    {bytes : format.Bytes} {keyring : AuthorizationKeyring} {limits : AuthorizationArtifactLimits}
    {bundle : AuthorizationPolicyBundle} (hopen : openBundle us format bytes keyring limits = .ok bundle)
    (input : AuthorizationInput) (external : RevocationSnapshot) :
    ((evaluate bundle input external).decision = .allow ↔ CredentialHolds bundle input external ∧
      (∃ grant ∈ bundle.grants, grant.Applies input ∧ AuthorizationPolicyEffect.tryFrom grant.effect = some .allow) ∧
      ∀ grant ∈ bundle.grants, grant.Applies input → AuthorizationPolicyEffect.tryFrom grant.effect ≠ some .deny) ∧
    ((evaluate bundle input external).decision = .allow → (evaluate bundle input external).matchedGrantIds.Nodup ∧
      ∀ grantId, grantId ∈ (evaluate bundle input external).matchedGrantIds ↔ ∃ grant ∈ bundle.grants,
        grant.grantId = grantId ∧ grant.Applies input ∧
          AuthorizationPolicyEffect.tryFrom grant.effect = some .allow) ∧
    ∀ source source' : AuthorizationPolicyBundle, source.SameUpToOrder source' → ∀ keyId sign sealLimits,
      sealBundle us format source keyId sign sealLimits = .ok bytes →
      sealBundle us format source' keyId sign sealLimits = .ok bytes := by
  have ho := openBundle_opened hopen
  refine ⟨?_,fun ha => ⟨?_,fun grantId => ?_⟩,fun source source' hs keyId sign sealLimits hse =>
    sealBundle_eq hs hse⟩
  · rw [evaluate_allow_iff ho, matchingIds_eq_nil_iff, ne_eq, matchingIds_eq_nil_iff]
    simp only [not_forall, not_not, exists_prop]
    tauto
  · rw [evaluate_matched ho ha]
    exact nodup_matchingIds ho
  · rw [evaluate_matched ho ha, matchingIds, mem_map]
    simp only [mem_filter, Bool.and_eq_true, grantMatches_iff, beq_iff_eq]
    constructor
    · rintro ⟨grant,⟨hin,hap,he⟩,hid⟩
      exact ⟨grant,hin,hid,hap,he⟩
    · rintro ⟨grant,hin,hid,hap,he⟩
      exact ⟨grant,⟨hin,hap,he⟩,hid⟩

namespace Sample

def bundleFormat : ArtifactFormat AuthorizationPolicyBundle :=
  { MessageFormat.plain AuthorizationPolicyBundle with
    size := fun bundle => 64 * (1 + bundle.grants.length)
    sameBytes := (inferInstance : DecidableEq AuthorizationPolicyBundle)
    sha256 := fun bundle => [bundle.bundleSequence, bundle.revokeEpoch, bundle.grants.length].map Nat.toUInt8 }

def artifactLimits : AuthorizationArtifactLimits := ⟨1024, 8⟩

def keyring : AuthorizationKeyring := ⟨(∅ : ExtTreeMap String Ed25519Verifier).insert "key-1" fun digest signature => signature == digest.reverse⟩

def startGrant (requiredCapabilities : List String) : AuthorizationPolicyGrant where
  grantId := "allow-start"
  actorIds := ["actor-1"]
  roles := []
  requiredCapabilities := requiredCapabilities
  workflowType := "order"
  workflowVersion := "1"
  activeNodeId := "start"
  action := "START"
  effect := 1
  priority := 0

def policyBundle (bundleSequence revokeEpoch : Nat) (requiredCapabilities : List String)
    (actorRevokeEpochs : List ActorRevokeEpoch) : AuthorizationPolicyBundle where
  schemaVersion := 1
  tenantId := "tenant-a"
  bundleSequence := bundleSequence
  policyVersion := "policy-1"
  revokeEpoch := revokeEpoch
  validFromEpochMs := 100
  expiresAtEpochMs := 1000
  grants := [startGrant requiredCapabilities]
  actorRevokeEpochs := actorRevokeEpochs
  signingKeyId := ""
  contentHash := []
  signature := []

def sealed (bundle : AuthorizationPolicyBundle) : AuthorizationPolicyBundle :=
  (sealBundle .insertion bundleFormat bundle "key-1" List.reverse artifactLimits).toOption.getD bundle

/-- Starting is allowed to the actor and denied to a role. -/
def suspending : AuthorizationPolicyBundle :=
  sealed { policyBundle 1 2 [] [⟨"actor-1", 3⟩] with
    grants := [startGrant [], { startGrant [] with grantId := "deny", actorIds := [], roles := ["suspended"], effect := 2 }] }

def startInput (actorProofRevokeEpoch : Nat) : AuthorizationInput where
  tenantId := "tenant-a"
  actorId := "actor-1"
  roles := []
  capabilities := []
  actorProofRevokeEpoch := actorProofRevokeEpoch
  evaluatedAtEpochMs := 500
  workflowType := "order"
  workflowVersion := "1"
  activeNodeId := "start"
  action := "START"

end Sample

open BpmpPlatform.Authorization.Sample

theorem evaluate_deny_overrides_start :
    openBundle .insertion bundleFormat suspending keyring artifactLimits = .ok suspending ∧
      CredentialHolds suspending (startInput 3) {} ∧
      (evaluate suspending { startInput 3 with roles := ["suspended"] } {}).decision ≠ .allow := by
  have ho : openBundle .insertion bundleFormat suspending keyring artifactLimits = .ok suspending := rfl
  have ha : (evaluate suspending (startInput 3) {}).decision = .allow := rfl
  refine ⟨ho,((evaluate_deny_overrides ho (startInput 3) {}).1.mp ha).1,fun hs => ?_⟩
  have hd := ((evaluate_deny_overrides ho { startInput 3 with roles := ["suspended"] } {}).1.mp hs).2.2
  exact hd _ (mem_cons_of_mem _ (mem_singleton_self _)) (grantMatches_iff.mp rfl) rfl

/-- The grant names the actor, the action, the workflow, its version and the node, nothing denies and the credential
holds, but the actor lacks the capability the grant requires. -/
theorem missing_capability_denies :
    let bundle := sealed (policyBundle 1 2 ["workflow.start"] [])
    let grant := startGrant ["workflow.start"]
    let input := startInput 3
    openBundle .insertion bundleFormat bundle keyring artifactLimits = .ok bundle ∧ bundle.grants = [grant] ∧
      input.actorId ∈ grant.actorIds ∧ input.action = grant.action ∧ input.workflowType = grant.workflowType ∧
      input.workflowVersion = grant.workflowVersion ∧ input.activeNodeId = grant.activeNodeId ∧
      evaluate bundle input {} = denied bundle .noMatchingGrant 2 [] :=
  ⟨rfl,rfl,mem_singleton_self _,rfl,rfl,rfl,rfl,rfl⟩

end BpmpPlatform.Authorization
