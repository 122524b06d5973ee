import BpmpPlatform.Engine.Ports
import BpmpPlatform.Core.Evolve

/-! # The command handler

How the engine numbers the events of a decision and cuts a snapshot among them.
-/
namespace BpmpPlatform
open Std Outcome List

def eventSchemaVersion : Nat := 1

def eventTime : DomainEvent → Nat
  | .caseActivated _ _ _ _ occurredAt | .caseSentrySatisfied _ _ occurredAt
  | .casePlanItemTransitioned _ _ _ _ _ occurredAt | .caseCompleted _ occurredAt
  | .workflowStarted _ _ _ _ occurredAt | .serviceTaskActivated _ _ occurredAt
  | .serviceTaskCompleted _ _ occurredAt | .userTaskActivated _ _ _ _ occurredAt
  | .userTaskCompleted _ _ _ occurredAt | .userTaskCancelled _ _ occurredAt
  | .scriptTaskActivated _ _ _ _ occurredAt | .scriptTaskCompleted _ occurredAt
  | .decisionTaskEvaluated _ _ _ occurredAt | .gatewaySplitActivated _ _ _ occurredAt
  | .gatewayTokenArrived _ occurredAt | .gatewayJoined _ occurredAt
  | .boundaryEventArmed _ _ _ _ _ occurredAt | .boundaryEventsDisarmed _ _ occurredAt
  | .multiInstanceStarted _ _ _ _ _ _ _ occurredAt
  | .multiInstanceIterationActivated _ _ _ _ occurredAt
  | .multiInstanceIterationCompleted _ _ occurredAt | .multiInstanceCompleted _ _ _ occurredAt
  | .boundaryEventTriggered _ _ _ _ _ _ occurredAt | .scopeEntered _ _ _ _ _ occurredAt
  | .scopeCompleted _ _ _ occurredAt | .workflowBranchCompleted _ occurredAt
  | .workflowCompleted occurredAt | .workflowTerminatedForCompliance _ _ _ _ occurredAt => occurredAt

def eventIdOf (commandId : CommandId) (sequence : Nat) : String :=
  commandId.value ++ ":" ++ toString sequence

def metadataOf (definition : WorkflowDefinition) (request : AuthorizedCommand) (actorId : ActorId)
    (configuration : ResolvedConfigSnapshot) (sequence : Nat) (event : DomainEvent) : EventMetadata where
  eventId := eventIdOf request.commandId sequence
  tenantId := request.tenantId
  instanceId := request.instanceId
  sequence := sequence
  schemaVersion := eventSchemaVersion
  correlationId := request.correlationId
  causationCommandId := request.commandId
  occurredAtEpochMs := eventTime event
  configVersion := configuration.configVersion
  policyVersion := configuration.policyVersion
  actorId := actorId
  encryptionKeyScope := request.encryptionKeyScope
  workflowType := definition.workflowType
  workflowVersion := definition.workflowVersion

section Attach
variable (definition : WorkflowDefinition) (request : AuthorizedCommand) (actorId : ActorId)
  (configuration : ResolvedConfigSnapshot)

def attachFrom (currentVersion : Nat) : Nat → List DomainEvent → Except EngineError (List EventEnvelope)
  | _, [] => .ok []
  | ordinal, event :: events => do
    ensure (currentVersion + ordinal + 1 ≤ u64Max) .sequenceOverflow
    let envelopes ← attachFrom currentVersion (ordinal + 1) events
    return ⟨metadataOf definition request actorId configuration (currentVersion + ordinal + 1) event, event⟩ :: envelopes

def attachMetadata (currentVersion : Nat) (events : List DomainEvent) : Except EngineError (List EventEnvelope) :=
  attachFrom definition request actorId configuration currentVersion 0 events

end Attach

def snapshotOf (definition : WorkflowDefinition) (request : AuthorizedCommand)
    (configuration : ResolvedConfigSnapshot) (state : InstanceState) : SnapshotEnvelope where
  tenantId := request.tenantId
  instanceId := request.instanceId
  workflowType := definition.workflowType
  workflowVersion := definition.workflowVersion
  state := state
  configVersion := configuration.configVersion
  policyVersion := configuration.policyVersion
  encryptionKeyScope := request.encryptionKeyScope

/-- The loop of `snapshot_at_latest_boundary`; `latest` is its local variable. -/
def latestSnapshot (definition : WorkflowDefinition) (request : AuthorizedCommand)
    (configuration : ResolvedConfigSnapshot) :
    Option SnapshotEnvelope → InstanceState → List EventEnvelope → Option SnapshotEnvelope
  | latest, _, [] => latest
  | latest, state, envelope :: envelopes =>
    let evolved := evolve state envelope.event
    if envelope.sequence % configuration.engine.snapshotIntervalEvents = 0 then
      latestSnapshot definition request configuration (some (snapshotOf definition request configuration evolved))
        evolved envelopes
    else latestSnapshot definition request configuration latest evolved envelopes

def snapshotAtLatestBoundary (definition : WorkflowDefinition) (request : AuthorizedCommand)
    (configuration : ResolvedConfigSnapshot) (state : InstanceState) (envelopes : List EventEnvelope) :
    Option SnapshotEnvelope :=
  latestSnapshot definition request configuration none state envelopes

/-- The last envelope on a boundary of the interval, with what precedes it. -/
structure CutsAt (interval : Nat) (envelopes before : List EventEnvelope) (cut : EventEnvelope) : Prop where
  boundary : cut.sequence % interval = 0
  last : ∃ after, envelopes = before ++ cut :: after ∧ ∀ e ∈ after, e.sequence % interval ≠ 0

section Envelopes
variable {definition : WorkflowDefinition} {request : AuthorizedCommand}
  {configuration : ResolvedConfigSnapshot} {state : InstanceState} {envelopes : List EventEnvelope}
  {snapshot : SnapshotEnvelope}

/-- The envelopes carry the events in their order, with consecutive numbers and the metadata of the call. -/
theorem attachFrom_spec {actorId : ActorId} {version ordinal : Nat} {events : List DomainEvent}
    (h : attachFrom definition request actorId configuration version ordinal events = .ok envelopes) :
    envelopes.map EventEnvelope.event = events ∧
      envelopes.map EventEnvelope.sequence = List.range' (version + ordinal + 1) envelopes.length ∧
      ∀ e ∈ envelopes, e.metadata = metadataOf definition request actorId configuration e.sequence e.event := by
  induction events generalizing ordinal envelopes with
  | nil => cases h; exact ⟨rfl,rfl,forall_mem_nil _⟩
  | cons event events ih =>
    simp only [attachFrom, bind_eq_ok, ensure_eq_ok] at h
    obtain ⟨_,_,rest,hr,⟨⟩⟩ := h
    obtain ⟨hev,hs,hm⟩ := ih hr
    refine ⟨by rw [map_cons, hev],?_,forall_mem_cons.mpr ⟨rfl,hm⟩⟩
    rw [map_cons, hs, length_cons, List.range'_succ]
    rfl

theorem latestSnapshot_of_none {latest : Option SnapshotEnvelope}
    (h : ∀ e ∈ envelopes, e.sequence % configuration.engine.snapshotIntervalEvents ≠ 0) :
    latestSnapshot definition request configuration latest state envelopes = latest := by
  induction envelopes generalizing state with
  | nil => rfl
  | cons e envelopes ih =>
    rw [latestSnapshot, if_neg (h e (by simp)), ih fun e he => h e (by simp [he])]

def evolveAll (state : InstanceState) (envelopes : List EventEnvelope) : InstanceState :=
  (envelopes.map EventEnvelope.event).foldl evolve state

theorem latestSnapshot_append (latest : Option SnapshotEnvelope) (before after : List EventEnvelope) :
    ∃ latest', latestSnapshot definition request configuration latest state (before ++ after) =
      latestSnapshot definition request configuration latest' (evolveAll state before) after := by
  induction before generalizing state latest with
  | nil => exact ⟨latest,rfl⟩
  | cons e before ih =>
    rw [cons_append, latestSnapshot]
    split
    · exact ih _
    · exact ih _

theorem CutsAt.snapshot_eq {before : List EventEnvelope} {cut : EventEnvelope}
    (h : CutsAt configuration.engine.snapshotIntervalEvents envelopes before cut) :
    snapshotAtLatestBoundary definition request configuration state envelopes =
      some (snapshotOf definition request configuration (evolveAll state (before ++ [cut]))) := by
  obtain ⟨hb,after,rfl,ha⟩ := h
  obtain ⟨latest,heq⟩ := latestSnapshot_append none before (cut :: after)
  rw [snapshotAtLatestBoundary, heq, latestSnapshot, if_pos hb, latestSnapshot_of_none ha]
  simp only [evolveAll, map_append, foldl_append, map_cons, map_nil, foldl_cons,
    foldl_nil]

/-- Either no envelope lies on a boundary, or there is a last one that does. -/
theorem exists_cutsAt (interval : Nat) (envelopes : List EventEnvelope) :
    (∀ e ∈ envelopes, e.sequence % interval ≠ 0) ∨ ∃ before cut, CutsAt interval envelopes before cut := by
  induction envelopes with
  | nil => left; simp
  | cons e envelopes ih =>
    rcases ih with hn | ⟨before,cut,hb,after,rfl,ha⟩
    · by_cases he : e.sequence % interval = 0
      · exact .inr ⟨[],e,he,envelopes,rfl,hn⟩
      · left
        simpa [he] using hn
    · exact .inr ⟨e :: before,cut,hb,after,rfl,ha⟩

theorem exists_cutsAt_of_snapshot
    (h : snapshotAtLatestBoundary definition request configuration state envelopes = some snapshot) :
    ∃ before cut, CutsAt configuration.engine.snapshotIntervalEvents envelopes before cut := by
  refine (exists_cutsAt _ envelopes).resolve_left fun hn => ?_
  rw [snapshotAtLatestBoundary, latestSnapshot_of_none hn] at h
  cases h

end Envelopes

namespace Sample

def request (command : Command) : AuthorizedCommand where
  tenantId := .lit "tenant-a"
  instanceId := .lit "instance-1"
  commandId := .lit "command-1"
  idempotencyKey := .lit "request-1"
  correlationId := .lit "correlation-1"
  evaluatedAtEpochMs := 5
  actorProof := []
  actorProofKind := .originalJwt
  workloadProof := []
  encryptionKeyScope := .lit "key-1"
  vars := ∅
  command := command

def start : AuthorizedCommand := request (.startWorkflow (.lit "tenant-a") 5)

def actor : ActorId := .lit "user-1"

def everyEight : ResolvedConfigSnapshot where
  configVersion := .lit "config-1"
  policyVersion := .lit "policy-1"
  engine := policy 8 (by decide)
  eventPayloadKeyScope := .lit "key-1"
  authorizationAuditKeyScope := .lit "audit-key-1"

def everyFour : ResolvedConfigSnapshot :=
  { everyEight with engine := policy 4 (by decide) }

end Sample

end BpmpPlatform
