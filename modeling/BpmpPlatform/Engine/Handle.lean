import BpmpPlatform.Engine.MemoryStore
import BpmpPlatform.Core.Decide

/-! # Handling commands

`Engine::handle` over the in-memory store, and the sequences of its calls.
-/
namespace BpmpPlatform
open Std Outcome

def transitionSelector (definition : WorkflowDefinition) : Command → String × String
  | .activateCase caseId _ _ => (caseId.value, "ACTIVATE_CASE")
  | .evaluateCaseSentries caseId _ => (caseId.value, "EVALUATE_CASE_SENTRIES")
  | .startWorkflow _ _ => (definition.startNode.value, "START")
  | .completeServiceTask nodeId _ _ => (nodeId.value, "COMPLETE_SERVICE_TASK")
  | .completeUserTask nodeId _ _ => (nodeId.value, "COMPLETE_USER_TASK")
  | .completeScriptTask nodeId _ => (nodeId.value, "COMPLETE_SCRIPT_TASK")
  | .completeMultiInstanceIteration nodeId _ _ => (nodeId.value, "COMPLETE_MULTI_INSTANCE_ITERATION")
  | .triggerBoundaryEvent boundaryEventId _ => (boundaryEventId.value, "TRIGGER_BOUNDARY_EVENT")

def validateConfigurationBinding (request : AuthorizedCommand) (configuration : ResolvedConfigSnapshot)
    (principal : AuthorizedPrincipal) : Except EngineError Unit := do
  ensure (configuration.policyVersion == principal.policyVersion)
    (.policyVersionMismatch configuration.policyVersion principal.policyVersion)
  ensure (request.encryptionKeyScope == configuration.eventPayloadKeyScope) .encryptionKeyScopeMismatch

def committedResult (currentVersion : Nat) (events : List EventEnvelope) (configuration : ResolvedConfigSnapshot) :
    Except EngineError CommittedResult := do
  ensure (currentVersion + events.length ≤ u64Max) .sequenceOverflow
  return {
    version := currentVersion + events.length
    eventIds := events.map fun event => event.metadata.eventId
    configVersion := configuration.configVersion
    policyVersion := configuration.policyVersion }

def buildAuthorizationAudit (definition : WorkflowDefinition) (request : AuthorizedCommand)
    (configuration : ResolvedConfigSnapshot) (principal : AuthorizedPrincipal) : AuthorizationAudit where
  decisionId := "allow:" ++ request.commandId.value
  tenantId := request.tenantId
  actorId := principal.actorId
  workloadId := principal.workloadId
  roles := principal.roles
  action := (transitionSelector definition request.command).2
  workflowType := definition.workflowType
  workflowVersion := definition.workflowVersion
  instanceId := request.instanceId
  activeNodeId := (transitionSelector definition request.command).1
  policyVersion := principal.policyVersion
  configVersion := configuration.configVersion
  bundleSequence := principal.bundleSequence
  revokeEpoch := principal.revokeEpoch
  occurredAtEpochMs := request.evaluatedAtEpochMs
  commandId := request.commandId
  correlationId := request.correlationId
  matchedGrantIds := principal.matchedGrantIds
  encryptionKeyScope := configuration.authorizationAuditKeyScope

def EngineError.fromStoreLoad : StoreError → EngineError
  | .dataUnavailableForCompliance keyScope keyVersion keyEpoch =>
    .dataUnavailableForCompliance keyScope keyVersion keyEpoch
  | other => .store other

def authorizationRequestOf (definition : WorkflowDefinition) (request : AuthorizedCommand) : AuthorizationRequest where
  tenantId := request.tenantId
  commandId := request.commandId
  evaluatedAtEpochMs := request.evaluatedAtEpochMs
  actorProof := request.actorProof
  actorProofKind := request.actorProofKind
  workloadProof := request.workloadProof
  workflowType := definition.workflowType
  workflowVersion := definition.workflowVersion
  activeNodeId := (transitionSelector definition request.command).1
  action := (transitionSelector definition request.command).2

def LoadedInstance.state (loaded : LoadedInstance) : InstanceState :=
  rehydrate (loaded.snapshot.map SnapshotEnvelope.state) (loaded.events.map EventEnvelope.event)

def checkWorkflow (definition : WorkflowDefinition) (loaded : LoadedInstance) : Except EngineError Unit := do
  ensure (loaded.snapshot.all fun snapshot => snapshot.workflowType == definition.workflowType &&
    snapshot.workflowVersion == definition.workflowVersion) .snapshotWorkflowMismatch
  ensure (loaded.events.all fun event => event.metadata.workflowType == definition.workflowType &&
    event.metadata.workflowVersion == definition.workflowVersion) .persistedWorkflowMismatch

inductive HandleOutcome
  | committed (result : CommittedResult)
  | duplicate (result : CommittedResult)

section Handle
variable {format : MessageFormat Wire.EventEnvelope} (ports : EnginePorts) (definition : WorkflowDefinition)
  (request : AuthorizedCommand) (store : MemoryState format)

def commitRequestOf (principal : AuthorizedPrincipal) (configuration : ResolvedConfigSnapshot)
    (loaded : LoadedInstance) (envelopes : List EventEnvelope) (result : CommittedResult) : CommitRequest where
  tenantId := request.tenantId
  instanceId := request.instanceId
  actorId := principal.actorId
  idempotencyKey := request.idempotencyKey
  commandId := request.commandId
  expectedVersion := loaded.version
  events := envelopes
  snapshot := snapshotAtLatestBoundary definition request configuration loaded.state envelopes
  authorizationAudit := buildAuthorizationAudit definition request configuration principal
  result := result

/-- The part of `handle` between the authorization and the commit. -/
def decideCommit (principal : AuthorizedPrincipal) : Except EngineError CommitRequest := do
  let configuration ← (ports.resolve ⟨request.tenantId, definition.workflowType, definition.workflowVersion⟩).mapError
    .configuration
  validateConfigurationBinding request configuration principal
  let loaded ← (store.load request.tenantId request.instanceId).mapError .fromStoreLoad
  checkWorkflow definition loaded
  let events ← (decideEvents definition loaded.state request.command (configuration.context request)).mapError .domain
  let envelopes ← attachMetadata definition request principal.actorId configuration loaded.version events
  let result ← committedResult loaded.version envelopes configuration
  return commitRequestOf definition request principal configuration loaded envelopes result

/-- The part of `handle` before the commit: a stored result, or the request to commit. -/
def prepareHandle : Except EngineError (CommittedResult ⊕ CommitRequest) := do
  ensure (request.tenantId == definition.tenantId) .definitionTenantMismatch
  let principal ← (ports.authorize (authorizationRequestOf definition request)).mapError .authorization
  let stored ← (store.lookupIdempotency request.tenantId principal.actorId request.idempotencyKey
    request.commandId).mapError .store
  match stored with
  | some result => return .inl result
  | none => return .inr (← decideCommit ports definition request store principal)

def handle : Except EngineError HandleOutcome × MemoryState format :=
  match prepareHandle ports definition request store with
  | .error error => (.error error, store)
  | .ok (.inl result) => (.ok (.duplicate result), store)
  | .ok (.inr commit) =>
    match store.commit commit with
    | (.error error, store') => (.error (.store error), store')
    | (.ok (.committed result), store') => (.ok (.committed result), store')
    | (.ok (.duplicate result), store') => (.ok (.duplicate result), store')

end Handle

end BpmpPlatform
