import BpmpPlatform.Library.Canonical
import BpmpPlatform.Library.Maps

/-! # Signed policy bundles

`open` accepts bytes only if they are the canonical encoding of a valid bundle with the right hash and signature.
Encoding, hash and signatures are parameters.
-/
namespace BpmpPlatform.Authorization
open Std Outcome

inductive AuthorizationPolicyEffect
  | unspecified
  | allow
  | deny
  deriving DecidableEq

/-- The number an effect is stored as: `AuthorizationPolicyEffect::try_from`. -/
def AuthorizationPolicyEffect.tryFrom : Int → Option AuthorizationPolicyEffect
  | 0 => some .unspecified
  | 1 => some .allow
  | 2 => some .deny
  | _ => none

structure AuthorizationPolicyGrant where
  grantId : String
  actorIds : List String
  roles : List String
  requiredCapabilities : List String
  workflowType : String
  workflowVersion : String
  activeNodeId : String
  action : String
  effect : Int
  priority : Nat
  deriving DecidableEq

structure ActorRevokeEpoch where
  actorId : String
  revokeEpoch : Nat
  deriving DecidableEq

structure AuthorizationPolicyBundle where
  schemaVersion : Nat
  tenantId : String
  bundleSequence : Nat
  policyVersion : String
  revokeEpoch : Nat
  validFromEpochMs : Nat
  expiresAtEpochMs : Nat
  grants : List AuthorizationPolicyGrant
  actorRevokeEpochs : List ActorRevokeEpoch
  signingKeyId : String
  contentHash : List UInt8
  signature : List UInt8
  deriving DecidableEq

structure AuthorizationRevokeEpochUpdate where
  schemaVersion : Nat
  tenantId : String
  actorId : String
  revokeEpoch : Nat
  bundleSequence : Nat
  issuedAtEpochMs : Nat
  signingKeyId : String
  contentHash : List UInt8
  signature : List UInt8
  deriving DecidableEq

inductive AuthorizationArtifactError
  | unsupportedSchema (expected actual : Nat)
  | decode (detail : String)
  | artifactTooLarge (actual maximum : Nat)
  | nonCanonicalArtifact
  | hashMismatch
  | invalidSignature
  | invalidKeyId
  | unknownKey (keyId : String)
  | invalidField (field : String)
  | invalidValidityWindow
  | tooManyGrants (actual maximum : Nat)
  | duplicateGrantId (grantId : String)
  | duplicateActorEpoch (actorId : String)
  | invalidPolicyEffect (effect : Int)
  | actorEpochBelowTenantEpoch
  deriving DecidableEq

structure AuthorizationArtifactLimits where
  maxArtifactBytes : Nat
  maxGrants : Nat

structure ArtifactFormat (Message : Type) extends MessageFormat Message where
  size : Bytes → Nat
  sameBytes : DecidableEq Bytes
  sha256 : Bytes → List UInt8

abbrev Ed25519Verifier := List UInt8 → List UInt8 → Bool

structure AuthorizationKeyring where
  keys : ExtTreeMap String Ed25519Verifier

def AuthorizationKeyring.verify (keyring : AuthorizationKeyring) (keyId : String) (digest signature : List UInt8) :
    Except AuthorizationArtifactError Unit := do
  let verifier ← okOr (.unknownKey keyId) keyring.keys[keyId]?
  ensure (verifier digest signature) .invalidSignature

def authorizationBundleSchemaVersion : Nat := 1

section Checks

def validateSchema (schemaVersion : Nat) : Except AuthorizationArtifactError Unit :=
  ensure (schemaVersion == authorizationBundleSchemaVersion)
    (.unsupportedSchema authorizationBundleSchemaVersion schemaVersion)

def validateKeyId (keyId : String) : Except AuthorizationArtifactError Unit := ensure (keyId != "") .invalidKeyId

def validateNonempty (field value : String) : Except AuthorizationArtifactError Unit :=
  ensure (value != "") (.invalidField field)

def validateSelector (field value : String) : Except AuthorizationArtifactError Unit := validateNonempty field value

def validateNonemptyValues (field : String) (values : List String) : Except AuthorizationArtifactError Unit :=
  ensure (!values.any fun value => value == "") (.invalidField field)

def checkSize (size : Nat) (limits : AuthorizationArtifactLimits) : Except AuthorizationArtifactError Unit :=
  ensure (decide (size ≤ limits.maxArtifactBytes)) (.artifactTooLarge size limits.maxArtifactBytes)

def validateGrant (grant : AuthorizationPolicyGrant) : Except AuthorizationArtifactError Unit := do
  validateNonempty "grant_id" grant.grantId
  validateNonemptyValues "actor_ids" grant.actorIds
  validateNonemptyValues "roles" grant.roles
  validateNonemptyValues "required_capabilities" grant.requiredCapabilities
  validateSelector "workflow_type" grant.workflowType
  validateSelector "workflow_version" grant.workflowVersion
  validateSelector "active_node_id" grant.activeNodeId
  validateSelector "action" grant.action
  let effect ← okOr (.invalidPolicyEffect grant.effect) (AuthorizationPolicyEffect.tryFrom grant.effect)
  ensure (effect != .unspecified) (.invalidPolicyEffect grant.effect)

def rejectAdjacent {α : Type} (key : α → String) (error : String → AuthorizationArtifactError) (l : List α) :
    Except AuthorizationArtifactError Unit :=
  match firstAdjacent (fun a b => key a == key b) l with
  | some a => .error (error (key a))
  | none => .ok ()

def validateBundle (bundle : AuthorizationPolicyBundle) (limits : AuthorizationArtifactLimits) :
    Except AuthorizationArtifactError Unit := do
  validateSchema bundle.schemaVersion
  validateNonempty "tenant_id" bundle.tenantId
  validateNonempty "policy_version" bundle.policyVersion
  validateKeyId bundle.signingKeyId
  ensure (bundle.bundleSequence != 0) (.invalidField "bundle_sequence")
  ensure (decide (bundle.validFromEpochMs < bundle.expiresAtEpochMs)) .invalidValidityWindow
  ensure (decide (bundle.grants.length ≤ limits.maxGrants)) (.tooManyGrants bundle.grants.length limits.maxGrants)
  rejectAdjacent AuthorizationPolicyGrant.grantId .duplicateGrantId bundle.grants
  checkAll validateGrant bundle.grants
  rejectAdjacent ActorRevokeEpoch.actorId .duplicateActorEpoch bundle.actorRevokeEpochs
  checkAll (fun actor => do
    validateNonempty "actor_id" actor.actorId
    ensure (decide (bundle.revokeEpoch ≤ actor.revokeEpoch)) .actorEpochBelowTenantEpoch) bundle.actorRevokeEpochs

def validateRevokeUpdate (update : AuthorizationRevokeEpochUpdate) : Except AuthorizationArtifactError Unit := do
  validateSchema update.schemaVersion
  validateNonempty "tenant_id" update.tenantId
  validateKeyId update.signingKeyId
  ensure (update.bundleSequence != 0) (.invalidField "bundle_sequence")
  ensure (update.revokeEpoch != 0) (.invalidField "revoke_epoch")
  ensure (update.issuedAtEpochMs != 0) (.invalidField "issued_at_epoch_ms")

end Checks

section Canonical
variable (us : UnstableSort)

def sortedValues (values : List String) : List String := dedup (us.sort compare values)

def canonicalizeGrant (grant : AuthorizationPolicyGrant) : AuthorizationPolicyGrant :=
  { grant with
    actorIds := sortedValues us grant.actorIds
    roles := sortedValues us grant.roles
    requiredCapabilities := sortedValues us grant.requiredCapabilities }

def canonicalizeBundle (bundle : AuthorizationPolicyBundle) : AuthorizationPolicyBundle :=
  { bundle with
    grants := us.sort (compareOn AuthorizationPolicyGrant.grantId) (bundle.grants.map (canonicalizeGrant us))
    actorRevokeEpochs := us.sort (compareOn ActorRevokeEpoch.actorId) bundle.actorRevokeEpochs }

end Canonical

section Codec
variable (us : UnstableSort) (format : ArtifactFormat AuthorizationPolicyBundle)

def bundleDigest (bundle : AuthorizationPolicyBundle) : List UInt8 :=
  format.sha256 (format.encode { bundle with contentHash := [], signature := [] })

/-- `AuthorizationBundleCodec::seal`. -/
def sealBundle (bundle : AuthorizationPolicyBundle) (keyId : String) (sign : List UInt8 → List UInt8)
    (limits : AuthorizationArtifactLimits) : Except AuthorizationArtifactError format.Bytes := do
  validateKeyId keyId
  let canonical := canonicalizeBundle us { bundle with signingKeyId := keyId }
  validateBundle canonical limits
  let digest := bundleDigest format canonical
  let encoded := format.encode { canonical with contentHash := digest, signature := sign digest }
  checkSize (format.size encoded) limits
  return encoded

/-- `AuthorizationBundleCodec::open`. -/
def openBundle (bytes : format.Bytes) (keyring : AuthorizationKeyring) (limits : AuthorizationArtifactLimits) :
    Except AuthorizationArtifactError AuthorizationPolicyBundle := do
  checkSize (format.size bytes) limits
  let bundle ← (format.decode bytes).mapError .decode
  have := format.sameBytes
  ensure (decide (format.encode bundle = bytes)) .nonCanonicalArtifact
  validateBundle bundle limits
  let canonical := canonicalizeBundle us bundle
  ensure (canonical.grants == bundle.grants && canonical.actorRevokeEpochs == bundle.actorRevokeEpochs)
    .nonCanonicalArtifact
  let digest := bundleDigest format bundle
  ensure (bundle.contentHash == digest) .hashMismatch
  keyring.verify bundle.signingKeyId digest bundle.signature
  return bundle

variable (updates : ArtifactFormat AuthorizationRevokeEpochUpdate)

def revokeDigest (update : AuthorizationRevokeEpochUpdate) : List UInt8 :=
  updates.sha256 (updates.encode { update with contentHash := [], signature := [] })

/-- `AuthorizationRevokeCodec::open`. -/
def openRevokeUpdate (bytes : updates.Bytes) (keyring : AuthorizationKeyring) (limits : AuthorizationArtifactLimits) :
    Except AuthorizationArtifactError AuthorizationRevokeEpochUpdate := do
  checkSize (updates.size bytes) limits
  let update ← (updates.decode bytes).mapError .decode
  have := updates.sameBytes
  ensure (decide (updates.encode update = bytes)) .nonCanonicalArtifact
  validateRevokeUpdate update
  let digest := revokeDigest updates update
  ensure (update.contentHash == digest) .hashMismatch
  keyring.verify update.signingKeyId digest update.signature
  return update

end Codec

section Opened
variable {us : UnstableSort} {bundle : AuthorizationPolicyBundle} {limits : AuthorizationArtifactLimits}

theorem rejectAdjacent_eq_ok {α : Type} {key : α → String} {error : String → AuthorizationArtifactError} {l : List α}
    (h : rejectAdjacent key error l = .ok ()) : l.IsChain fun a b => compareOn key a b ≠ .eq := by
  unfold rejectAdjacent at h
  split at h
  · cases h
  · rename_i hn
    refine (isChain_of_firstAdjacent hn).imp fun a b hne heq => ?_
    have hkey : key a = key b := LawfulEqOrd.eq_of_compare heq
    simp [hkey] at hne

structure AuthorizationPolicyBundle.Opened (bundle : AuthorizationPolicyBundle) : Prop where
  grants : bundle.grants.Pairwise fun a b => compareOn AuthorizationPolicyGrant.grantId a b = .lt
  effects : ∀ grant ∈ bundle.grants, AuthorizationPolicyEffect.tryFrom grant.effect = some .allow ∨
    AuthorizationPolicyEffect.tryFrom grant.effect = some .deny
  epochs : bundle.actorRevokeEpochs.Pairwise fun a b => compareOn ActorRevokeEpoch.actorId a b = .lt

theorem validateGrant_effect {grant : AuthorizationPolicyGrant} (h : validateGrant grant = .ok ()) :
    AuthorizationPolicyEffect.tryFrom grant.effect = some .allow ∨
      AuthorizationPolicyEffect.tryFrom grant.effect = some .deny := by
  simp only [validateGrant, bind_eq_ok, okOr_eq_ok, ensure_eq_ok, bne_iff_ne] at h
  obtain ⟨_,_,_,_,_,_,_,_,_,_,_,_,_,_,_,_,effect,hef,hne⟩ := h
  cases effect with
  | unspecified => exact absurd rfl hne
  | allow => exact .inl hef
  | deny => exact .inr hef

theorem validateBundle_spec (h : validateBundle bundle limits = .ok ()) :
    (bundle.grants.IsChain fun a b => compareOn AuthorizationPolicyGrant.grantId a b ≠ .eq) ∧
      (∀ grant ∈ bundle.grants, validateGrant grant = .ok ()) ∧
      (bundle.actorRevokeEpochs.IsChain fun a b => compareOn ActorRevokeEpoch.actorId a b ≠ .eq) ∧
      ∀ actor ∈ bundle.actorRevokeEpochs, bundle.revokeEpoch ≤ actor.revokeEpoch := by
  simp only [validateBundle, bind_eq_ok, checkAll_eq_ok, ensure_eq_ok, decide_eq_true_eq] at h
  obtain ⟨_,_,_,_,_,_,_,_,_,_,_,_,_,_,_,hgr,_,hva,_,hep,hfl⟩ := h
  refine ⟨rejectAdjacent_eq_ok hgr,hva,rejectAdjacent_eq_ok hep,fun actor hin => ?_⟩
  obtain ⟨_,_,hle⟩ := hfl actor hin
  exact hle

theorem canonicalizeBundle_opened (h : validateBundle (canonicalizeBundle us bundle) limits = .ok ()) :
    (canonicalizeBundle us bundle).Opened := by
  obtain ⟨hgr,hva,hep,_⟩ := validateBundle_spec h
  exact ⟨pairwise_lt_of_sorted (us.sorted _ _) hgr,fun grant hin => validateGrant_effect (hva grant hin),
    pairwise_lt_of_sorted (us.sorted _ _) hep⟩

theorem openBundle_opened {format : ArtifactFormat AuthorizationPolicyBundle} {bytes : format.Bytes}
    {keyring : AuthorizationKeyring} (h : openBundle us format bytes keyring limits = .ok bundle) : bundle.Opened := by
  simp only [openBundle, bind_eq_ok, mapError_eq_ok, ensure_eq_ok, Bool.and_eq_true,
    beq_iff_eq] at h
  obtain ⟨_,_,_,_,_,_,_,hva,_,⟨hgr,hep⟩,_,_,_,_,⟨⟩⟩ := h
  obtain ⟨hch,hef,hch',_⟩ := validateBundle_spec hva
  refine ⟨pairwise_lt_of_sorted ?_ hch,fun grant hin => validateGrant_effect (hef grant hin),
    pairwise_lt_of_sorted ?_ hch'⟩
  · rw [← hgr]
    exact us.sorted _ _
  · rw [← hep]
    exact us.sorted _ _

end Opened

end BpmpPlatform.Authorization
