import BpmpPlatform.Library.Encoding
import BpmpPlatform.Library.Outcome
import BpmpPlatform.Library.Sort
import BpmpPlatform.Core.Text

/-! # The decision to abort and reconcile

An instance is terminated by a request that a number of approvers sign. The decision checks the request, the pending
entries of the ledger and the approvals. Hash and signatures are parameters.
-/
namespace BpmpPlatform.Governance
open Std Outcome Encoding

abbrev Digest := Vector UInt8 32

abbrev PublicKey := Vector UInt8 32

/-- Keys as they are read from their bytes, and the strict check of a signature. -/
structure SignatureScheme where
  Key : Type
  fromBytes : PublicKey → Option Key
  verifyStrict : Key → List UInt8 → List UInt8 → Bool

structure GovernancePolicy where
  abortCapability : String
  acceptedAuthAssurance : ExtTreeSet String
  approvalPublicKeys : ExtTreeMap String PublicKey
  requiredApproverCount : Nat
  maxProofAgeMs : Nat
  maxApprovalTtlMs : Nat
  maxPendingLedgerEntries : Nat

inductive CompensationStatus
  | pending
  | compensated
  | reconciliationRequired
  deriving DecidableEq

structure CompensationLedgerEntry where
  tenantId : String
  instanceId : String
  sagaRef : String
  ledgerEntryId : String
  effectSequence : Nat
  ledgerSequence : Nat
  sideEffectType : String
  targetSystem : String
  handlerRef : String
  opaqueOperationRef : String
  idempotencyKey : String
  status : CompensationStatus
  updatedAtEpochMs : Nat
  deriving DecidableEq

structure AbortAndReconcileRequest where
  tenantId : String
  instanceId : String
  policyId : String
  legalDeadlineEpochMs : Nat
  keyScope : String
  keyEpoch : Nat
  pendingLedgerDigest : Digest
  reasonCode : String
  deriving DecidableEq

structure SignedApproval where
  requestDigest : Digest
  tenantId : String
  actorId : String
  capability : String
  authAssurance : String
  approvedAtEpochMs : Nat
  expiresAtEpochMs : Nat
  keyId : String
  signature : List UInt8
  deriving DecidableEq

structure DualControlProof where
  requester : SignedApproval
  approvers : List SignedApproval
  deriving DecidableEq

structure ReconciliationWorkItem where
  tenantId : String
  instanceId : String
  reconciliationId : String
  ledgerEntryId : String
  sideEffectType : String
  targetSystem : String
  handlerRef : String
  opaqueOperationRef : String
  deadlineEpochMs : Nat
  deriving DecidableEq

structure GovernanceAuditRef where
  actorId : String
  approvedAtEpochMs : Nat
  keyId : String
  deriving DecidableEq

structure AbortAndReconcileDecision where
  requestDigest : Digest
  ledgerDigest : Digest
  requesterAudit : GovernanceAuditRef
  approverAudits : List GovernanceAuditRef
  workItems : List ReconciliationWorkItem
  deriving DecidableEq

inductive GovernanceError
  | invalidPolicy
  | invalidRequest
  | pendingLedgerLimitExceeded (configuredLimit : Nat)
  | ledgerScopeMismatch
  | ledgerEntryNotPending
  | missingReconciliationMetadata
  | duplicateLedgerEntry
  | staleLedgerDigest
  | proofDigestMismatch
  | insufficientApprovers
  | actorSeparationViolation
  | approvalTenantMismatch
  | capabilityDenied
  | authenticationAssuranceDenied
  | approvalOutsideValidity
  | approvalLifetimeExceeded
  | unknownApprovalKey
  | invalidApprovalSignature
  deriving DecidableEq

section Digests

/-- `Canonical::new`: the domain comes first. -/
def canonicalDomain (domain : String) : List UInt8 := lengthPrefixed (utf8 domain)

def CompensationStatus.code : CompensationStatus → UInt8
  | .pending => 1
  | .compensated => 2
  | .reconciliationRequired => 3

def compareEntries (left right : CompensationLedgerEntry) : Ordering :=
  ((compare left.effectSequence right.effectSequence).then (compare left.ledgerSequence right.ledgerSequence)).then
    (compare left.ledgerEntryId right.ledgerEntryId)

instance : TransCmp compareEntries :=
  inferInstanceAs (TransCmp (compareLex (compareLex (compareOn CompensationLedgerEntry.effectSequence)
    (compareOn CompensationLedgerEntry.ledgerSequence)) (compareOn CompensationLedgerEntry.ledgerEntryId)))

def sortEntries (entries : List CompensationLedgerEntry) : List CompensationLedgerEntry :=
  UnstableSort.insertion.sort compareEntries entries

def entryBytes (entry : CompensationLedgerEntry) : List UInt8 :=
  text entry.tenantId ++ (text entry.instanceId ++ (text entry.sagaRef ++ (text entry.ledgerEntryId ++
    (be64 entry.effectSequence ++ (be64 entry.ledgerSequence ++ (text entry.sideEffectType ++
    (text entry.targetSystem ++ (text entry.handlerRef ++ (text entry.opaqueOperationRef ++
    (text entry.idempotencyKey ++ ([entry.status.code] ++ be64 entry.updatedAtEpochMs)))))))))))

def ledgerBytes (entries : List CompensationLedgerEntry) : List UInt8 :=
  let sorted := sortEntries entries
  canonicalDomain "bpmp-pending-compensation-ledger-v1" ++ (be64 sorted.length ++ sorted.flatMap entryBytes)

def requestBytes (request : AbortAndReconcileRequest) : List UInt8 :=
  canonicalDomain "bpmp-abort-and-reconcile-request-v1" ++ (text request.tenantId ++ (text request.instanceId ++
    (text request.policyId ++ (be64 request.legalDeadlineEpochMs ++ (text request.keyScope ++ (be64 request.keyEpoch ++
    (lengthPrefixed request.pendingLedgerDigest.toList ++ text request.reasonCode)))))))

def approvalSigningPayload (approval : SignedApproval) : List UInt8 :=
  canonicalDomain "bpmp-governance-approval-v1" ++ (lengthPrefixed approval.requestDigest.toList ++
    (text approval.tenantId ++ (text approval.actorId ++ (text approval.capability ++ (text approval.authAssurance ++
    (be64 approval.approvedAtEpochMs ++ (be64 approval.expiresAtEpochMs ++ text approval.keyId)))))))

variable (sha256 : List UInt8 → Digest)

def pendingLedgerDigest (entries : List CompensationLedgerEntry) : Digest := sha256 (ledgerBytes entries)

def abortRequestDigest (request : AbortAndReconcileRequest) : Digest := sha256 (requestBytes request)

def hexadecimal (bytes : List UInt8) : String :=
  String.ofList (bytes.flatMap fun byte => [Nat.digitChar (byte.toNat / 16), Nat.digitChar (byte.toNat % 16)])

def reconciliationId (requestDigest : Digest) (ledgerEntryId : String) : String :=
  hexadecimal (sha256 (canonicalDomain "bpmp-reconciliation-work-item-v1" ++
    (lengthPrefixed requestDigest.toList ++ text ledgerEntryId))).toList

end Digests

section Decide
variable (scheme : SignatureScheme) (sha256 : List UInt8 → Digest)

def GovernancePolicy.validate (policy : GovernancePolicy) : Except GovernanceError Unit := do
  ensure (!(Text.isBlank policy.abortCapability || policy.acceptedAuthAssurance.isEmpty ||
    policy.approvalPublicKeys.isEmpty || policy.requiredApproverCount == 0 || policy.maxProofAgeMs == 0 ||
    policy.maxApprovalTtlMs == 0 || policy.maxPendingLedgerEntries == 0)) .invalidPolicy
  ensure (!((policy.approvalPublicKeys.keys.any Text.isBlank) || policy.acceptedAuthAssurance.toList.any Text.isBlank))
    .invalidPolicy

def validateRequest (request : AbortAndReconcileRequest) : Except GovernanceError Unit :=
  ensure (!(Text.isBlank request.tenantId || Text.isBlank request.instanceId || Text.isBlank request.policyId ||
    Text.isBlank request.keyScope || Text.isBlank request.reasonCode || request.legalDeadlineEpochMs == 0)) .invalidRequest

def validateLedger (request : AbortAndReconcileRequest) (identities : List String) (order : List (Nat × Nat)) :
    List CompensationLedgerEntry → Except GovernanceError Unit
  | [] => .ok ()
  | entry :: entries => do
    ensure (entry.tenantId == request.tenantId && entry.instanceId == request.instanceId) .ledgerScopeMismatch
    ensure (entry.status == .pending) .ledgerEntryNotPending
    ensure (!(Text.isBlank entry.ledgerEntryId || Text.isBlank entry.sideEffectType || Text.isBlank entry.targetSystem ||
      Text.isBlank entry.handlerRef || Text.isBlank entry.opaqueOperationRef || Text.isBlank entry.idempotencyKey))
      .missingReconciliationMetadata
    ensure (!(identities.contains entry.ledgerEntryId || order.contains (entry.effectSequence, entry.ledgerSequence)))
      .duplicateLedgerEntry
    validateLedger request (entry.ledgerEntryId :: identities) ((entry.effectSequence, entry.ledgerSequence) :: order) entries

def checkedSub (a b : Nat) : Option Nat := if b ≤ a then some (a - b) else none

def approvalKey (policy : GovernancePolicy) (approval : SignedApproval) : Option scheme.Key :=
  policy.approvalPublicKeys[approval.keyId]?.bind scheme.fromBytes

def validateApproval (approval : SignedApproval) (request : AbortAndReconcileRequest) (requestDigest : Digest)
    (policy : GovernancePolicy) (evaluatedAtEpochMs : Nat) : Except GovernanceError Unit := do
  ensure (approval.requestDigest == requestDigest) .proofDigestMismatch
  ensure (approval.tenantId == request.tenantId) .approvalTenantMismatch
  ensure (approval.capability == policy.abortCapability) .capabilityDenied
  ensure (policy.acceptedAuthAssurance.contains approval.authAssurance) .authenticationAssuranceDenied
  let lifetime ← okOr .approvalOutsideValidity (checkedSub approval.expiresAtEpochMs approval.approvedAtEpochMs)
  ensure (decide (lifetime ≤ policy.maxApprovalTtlMs)) .approvalLifetimeExceeded
  let age ← okOr .approvalOutsideValidity (checkedSub evaluatedAtEpochMs approval.approvedAtEpochMs)
  ensure (decide (evaluatedAtEpochMs < approval.expiresAtEpochMs) && decide (age ≤ policy.maxProofAgeMs))
    .approvalOutsideValidity
  let key ← okOr .unknownApprovalKey (approvalKey scheme policy approval)
  ensure (scheme.verifyStrict key (approvalSigningPayload approval) approval.signature) .invalidApprovalSignature

def validateApprovers (request : AbortAndReconcileRequest) (requestDigest : Digest) (policy : GovernancePolicy)
    (evaluatedAtEpochMs : Nat) (actors : List String) : List SignedApproval → Except GovernanceError Unit
  | [] => .ok ()
  | approval :: approvals => do
    validateApproval scheme approval request requestDigest policy evaluatedAtEpochMs
    ensure (!actors.contains approval.actorId) .actorSeparationViolation
    validateApprovers request requestDigest policy evaluatedAtEpochMs (approval.actorId :: actors) approvals

def auditRef (approval : SignedApproval) : GovernanceAuditRef :=
  ⟨approval.actorId, approval.approvedAtEpochMs, approval.keyId⟩

def workItem (request : AbortAndReconcileRequest) (requestDigest : Digest) (entry : CompensationLedgerEntry) :
    ReconciliationWorkItem where
  tenantId := request.tenantId
  instanceId := request.instanceId
  reconciliationId := reconciliationId sha256 requestDigest entry.ledgerEntryId
  ledgerEntryId := entry.ledgerEntryId
  sideEffectType := entry.sideEffectType
  targetSystem := entry.targetSystem
  handlerRef := entry.handlerRef
  opaqueOperationRef := entry.opaqueOperationRef
  deadlineEpochMs := request.legalDeadlineEpochMs

def decideAbortAndReconcile (request : AbortAndReconcileRequest) (pendingEntries : List CompensationLedgerEntry)
    (proof : DualControlProof) (policy : GovernancePolicy) (evaluatedAtEpochMs : Nat) :
    Except GovernanceError AbortAndReconcileDecision := do
  policy.validate
  validateRequest request
  ensure (decide (min pendingEntries.length (2 ^ 32 - 1) ≤ policy.maxPendingLedgerEntries))
    (.pendingLedgerLimitExceeded policy.maxPendingLedgerEntries)
  validateLedger request [] [] pendingEntries
  let ledgerDigest := pendingLedgerDigest sha256 pendingEntries
  ensure (ledgerDigest == request.pendingLedgerDigest) .staleLedgerDigest
  let requestDigest := abortRequestDigest sha256 request
  ensure (decide (policy.requiredApproverCount ≤ proof.approvers.length)) .insufficientApprovers
  validateApproval scheme proof.requester request requestDigest policy evaluatedAtEpochMs
  validateApprovers scheme request requestDigest policy evaluatedAtEpochMs [proof.requester.actorId] proof.approvers
  return {
    requestDigest := requestDigest
    ledgerDigest := ledgerDigest
    requesterAudit := auditRef proof.requester
    approverAudits := proof.approvers.map auditRef
    workItems := (sortEntries pendingEntries).map (workItem sha256 request requestDigest) }

end Decide

end BpmpPlatform.Governance
