import BpmpPlatform.Engine.SnapshotWire

/-! # Requests, envelopes and ports

The values that pass between the command handler and the ports it is given.
-/
namespace BpmpPlatform
open Std

/-- The configuration a command is decided under; the two key scopes are those of its engine policy. -/
structure ResolvedConfigSnapshot where
  configVersion : ConfigVersion
  policyVersion : PolicyVersion
  engine : EnginePolicy
  eventPayloadKeyScope : KeyScope
  authorizationAuditKeyScope : KeyScope

inductive ActorProofKind
  | originalJwt
  | signedInternalContext

structure AuthorizedCommand where
  tenantId : TenantId
  instanceId : InstanceId
  commandId : CommandId
  idempotencyKey : IdempotencyKey
  correlationId : CorrelationId
  evaluatedAtEpochMs : Nat
  actorProof : List UInt8
  actorProofKind : ActorProofKind
  workloadProof : List UInt8
  encryptionKeyScope : KeyScope
  vars : Variables
  command : Command

def ResolvedConfigSnapshot.context (configuration : ResolvedConfigSnapshot) (request : AuthorizedCommand) :
    DecisionContext where
  engine := configuration.engine
  vars := request.vars

structure AuthorizationAudit where
  decisionId : String
  tenantId : TenantId
  actorId : ActorId
  workloadId : String
  roles : List String
  action : String
  workflowType : WorkflowType
  workflowVersion : WorkflowVersion
  instanceId : InstanceId
  activeNodeId : String
  policyVersion : PolicyVersion
  configVersion : ConfigVersion
  bundleSequence : Nat
  revokeEpoch : Nat
  occurredAtEpochMs : Nat
  commandId : CommandId
  correlationId : CorrelationId
  matchedGrantIds : List String
  encryptionKeyScope : KeyScope

structure EventMetadata where
  eventId : String
  tenantId : TenantId
  instanceId : InstanceId
  sequence : Nat
  schemaVersion : Nat
  correlationId : CorrelationId
  causationCommandId : CommandId
  occurredAtEpochMs : Nat
  configVersion : ConfigVersion
  policyVersion : PolicyVersion
  actorId : ActorId
  encryptionKeyScope : KeyScope
  workflowType : WorkflowType
  workflowVersion : WorkflowVersion
  deriving DecidableEq

structure EventEnvelope where
  metadata : EventMetadata
  event : DomainEvent
  deriving DecidableEq

def EventEnvelope.sequence (envelope : EventEnvelope) : Nat := envelope.metadata.sequence

structure CommittedResult where
  version : Nat
  eventIds : List String
  configVersion : ConfigVersion
  policyVersion : PolicyVersion
  deriving DecidableEq

structure AuthorizationRequest where
  tenantId : TenantId
  commandId : CommandId
  evaluatedAtEpochMs : Nat
  actorProof : List UInt8
  actorProofKind : ActorProofKind
  workloadProof : List UInt8
  workflowType : WorkflowType
  workflowVersion : WorkflowVersion
  activeNodeId : String
  action : String

structure AuthorizedPrincipal where
  actorId : ActorId
  roles : List String
  workloadId : String
  policyVersion : PolicyVersion
  bundleSequence : Nat
  revokeEpoch : Nat
  matchedGrantIds : List String

inductive AuthorizationError
  | invalidActorProof (detail : String)
  | invalidWorkloadProof (detail : String)
  | scopeMismatch
  | actorProofOutsideValidity
  | workloadProofOutsideValidity
  | workloadAudienceMismatch
  | denied (detail : String)
  | unavailable (detail : String)
  | invalidVerifiedIdentity

structure ConfigurationLookup where
  tenantId : TenantId
  workflowType : WorkflowType
  workflowVersion : WorkflowVersion

/-- Why no configuration is resolved; the validation failures of a snapshot are one case here. -/
inductive ConfigError
  | missingPublishedSnapshot
  | invalid (detail : String)

/-- The errors of the store port that the in-memory adapter returns, and the one the handler renames. -/
inductive StoreError
  | versionConflict (expected actual : Nat)
  | idempotencyConflict
  | nonContiguousSequence
  | invalidSnapshot
  | invalidAuthorizationAudit
  | dataUnavailableForCompliance (keyScope keyVersion : String) (keyEpoch : Nat)
  | unavailable (detail : String)

inductive EngineError
  | authorization (error : AuthorizationError)
  | configuration (error : ConfigError)
  | domain (error : DomainError)
  | store (error : StoreError)
  | dataUnavailableForCompliance (keyScope keyVersion : String) (keyEpoch : Nat)
  | sequenceOverflow
  | snapshotWorkflowMismatch
  | persistedWorkflowMismatch
  | definitionTenantMismatch
  | encryptionKeyScopeMismatch
  | policyVersionMismatch (configured authorized : PolicyVersion)

structure LoadedInstance where
  snapshot : Option SnapshotEnvelope
  events : List EventEnvelope
  version : Nat

structure CommitRequest where
  tenantId : TenantId
  instanceId : InstanceId
  actorId : ActorId
  idempotencyKey : IdempotencyKey
  commandId : CommandId
  expectedVersion : Nat
  events : List EventEnvelope
  snapshot : Option SnapshotEnvelope
  authorizationAudit : AuthorizationAudit
  result : CommittedResult

inductive CommitOutcome
  | committed (result : CommittedResult)
  | duplicate (result : CommittedResult)
  deriving DecidableEq

structure EnginePorts where
  authorize : AuthorizationRequest → Except AuthorizationError AuthorizedPrincipal
  resolve : ConfigurationLookup → Except ConfigError ResolvedConfigSnapshot

end BpmpPlatform
