import BpmpPlatform.Engine.MemoryStore

/-! # The boundary runtime

Timer schedules, and the mutations that committed events make of the boundary projection. The parser of RFC 3339 dates
is a parameter that gives the nanoseconds since the epoch.
-/
namespace BpmpPlatform
open Std Outcome

structure BoundarySubscriptionKey where
  tenantId : TenantId
  instanceId : InstanceId
  boundaryEventId : NodeId
  deriving DecidableEq

section Keys

instance : Ord BoundarySubscriptionKey :=
  ⟨compareLex (compareOn BoundarySubscriptionKey.tenantId)
    (compareLex (compareOn BoundarySubscriptionKey.instanceId) (compareOn BoundarySubscriptionKey.boundaryEventId))⟩

instance : TransOrd BoundarySubscriptionKey := inferInstanceAs (TransCmp (compareLex _ _))

instance : LawfulEqOrd BoundarySubscriptionKey := lawfulEqCmp_three fun a b _ _ _ => by
  cases a; cases b; simp_all

end Keys

structure TimerSchedule where
  dueAtEpochMs : Nat
  intervalMs : Option Nat
  remainingFirings : Option Nat

structure ProjectedBoundarySubscription where
  key : BoundarySubscriptionKey
  attachedNodeId : NodeId
  targetNodeId : NodeId
  cancelActivity : Bool
  trigger : BoundaryTrigger
  armedAtEpochMs : Nat
  armedEventId : String
  timerSchedule : Option TimerSchedule
  workflowType : WorkflowType
  workflowVersion : WorkflowVersion

inductive BoundaryProjectionMutation
  | upsert (subscription : ProjectedBoundarySubscription)
  | disarmBoundary (key : BoundarySubscriptionKey)
  | disarmAttached (tenantId : TenantId) (instanceId : InstanceId) (attachedNodeId : NodeId)
  | removeInstance (tenantId : TenantId) (instanceId : InstanceId)

structure BoundaryProjectionRecord where
  cursor : Nat
  envelope : EventEnvelope

inductive OutboxError
  | invalidConfiguration
  deriving DecidableEq

/-- The errors of the modelled functions; a corrupt event keeps the error of the codec instead of its text. -/
inductive BoundaryRuntimeError
  | outbox (error : OutboxError)
  | corruptEvent (error : EventCodecError)
  | eventScopeMismatch
  | adapterBatchLimitExceeded
  | nonContiguousProjection
  | projectionCursorOverflow
  | projectionCheckpointConflict
  | timerExpressionTooLarge
  | invalidTimerExpression
  | timerHorizonExceeded
  | timerOverflow
  | claimWithoutTimer
  | signalConflict
  | ambiguousCorrelation
  | correlationScanLimitExceeded
  | leaseConflict
  | clockOverflow
  | invalidDispatchIdentity
  | store (detail : String)
  deriving DecidableEq

structure BoundaryRuntimePolicy where
  projectionBatchSize : Nat
  dispatchBatchSize : Nat
  maxDispatchAttempts : Nat
  retryDelayMs : Nat
  leaseDurationMs : Nat
  maxTimerHorizonMs : Nat
  maxExpressionBytes : Nat
  workerId : String
  maxSubscriptionsPerInstance : Nat

inductive BoundarySignalKind
  | message
  | error
  deriving DecidableEq

structure BoundarySignal where
  signalId : String
  tenantId : TenantId
  instanceId : InstanceId
  kind : BoundarySignalKind
  reference : Option String
  occurredAtEpochMs : Nat
  authorizationContextRef : String
  deriving DecidableEq

/-- `trigger_matches_signal`, the same in both adapters. -/
def triggerMatchesSignal (trigger : BoundaryTrigger) (signal : BoundarySignal) : Bool :=
  match trigger, signal.kind with
  | .message messageRef, .message => signal.reference == some messageRef
  | .error errorRef, .error => errorRef.isNone || errorRef == signal.reference
  | _, _ => false

section Timers
variable (rfc3339 : String → Option Int)

def parseDate (expression : List Char) : Except BoundaryRuntimeError Nat := do
  let nanoseconds ← okOr .invalidTimerExpression (rfc3339 (String.ofList (Text.trimChars expression)))
  -- `/` on integers rounds towards minus infinity here, like `div_euclid`
  let milliseconds := nanoseconds / 1000000
  ensure (decide (0 ≤ milliseconds) && decide (milliseconds ≤ u64Max)) .invalidTimerExpression
  return milliseconds.toNat

def timerMul (a b : Nat) : Except BoundaryRuntimeError Nat := do
  ensure (a * b ≤ u64Max) .timerOverflow
  return a * b

def timerAdd (a b : Nat) : Except BoundaryRuntimeError Nat := do
  ensure (a + b ≤ u64Max) .timerOverflow
  return a + b

def parseU64 (digits : List Char) : Except BoundaryRuntimeError Nat :=
  okOr .invalidTimerExpression (Text.parseUnsigned u64Max digits)

def decimalComponentMs (value : List Char) (unitMs : Nat) : Except BoundaryRuntimeError Nat :=
  match Text.splitOnce '.' value with
  | none => do timerMul (← parseU64 value) unitMs
  | some (whole, fraction) => do
    ensure (!whole.isEmpty && !fraction.isEmpty && decide (fraction.length ≤ 9)) .invalidTimerExpression
    let wholeMs ← timerMul (← parseU64 whole) unitMs
    let fractionMs ← timerMul (← parseU64 fraction) unitMs
    timerAdd wholeMs (fractionMs / 10 ^ fraction.length)

def durationUnitMs (unit : Char) (inTime : Bool) : Except BoundaryRuntimeError Nat :=
  match unit, inTime with
  | 'W', false => .ok (7 * 24 * 60 * 60 * 1000)
  | 'D', false => .ok (24 * 60 * 60 * 1000)
  | 'H', true => .ok (60 * 60 * 1000)
  | 'M', true => .ok (60 * 1000)
  | 'S', true => .ok 1000
  | _, _ => .error .invalidTimerExpression

/-- The loop of `parse_duration_ms`; `number` is what stands between `number_start` and the character read. -/
def durationLoop (inTime : Bool) (number : List Char) (totalMs : Nat) : List Char → Except BoundaryRuntimeError Nat
  | [] => do
    ensure (number.isEmpty && totalMs != 0) .invalidTimerExpression
    return totalMs
  | character :: rest =>
    if character = 'T' then do
      ensure number.isEmpty .invalidTimerExpression
      durationLoop true [] totalMs rest
    else if character.isDigit || character = '.' then durationLoop inTime (number ++ [character]) totalMs rest
    else do
      ensure (!number.isEmpty) .invalidTimerExpression
      let unitMs ← durationUnitMs character inTime
      let component ← decimalComponentMs number unitMs
      durationLoop inTime [] (← timerAdd totalMs component) rest

def parseDurationMs (expression : List Char) : Except BoundaryRuntimeError Nat :=
  match Text.stripLeading ['P'] (Text.trimChars expression) with
  | none => .error .invalidTimerExpression
  | some rest => do
    ensure (!rest.isEmpty && !rest.contains 'Y') .invalidTimerExpression
    durationLoop false [] 0 rest

/-- The number of firings: `R` for unbounded, or `R` and a positive count. -/
def parseFirings (repetition : List Char) : Except BoundaryRuntimeError (Option Nat) :=
  if repetition = ['R'] then .ok none
  else do
    let count ← okOr .invalidTimerExpression (Text.parseUnsigned u32Max (repetition.drop 1))
    ensure (count != 0) .invalidTimerExpression
    return some count

def parseCycle (expression : String) (armedAtEpochMs : Nat) : Except BoundaryRuntimeError TimerSchedule :=
  match (Text.trimChars expression.toList).splitOn '/' with
  | [repetition, interval] => do
    ensure (repetition.head? == some 'R') .invalidTimerExpression
    let remainingFirings ← parseFirings repetition
    let intervalMs ← parseDurationMs interval
    return ⟨← timerAdd armedAtEpochMs intervalMs, some intervalMs, remainingFirings⟩
  | [repetition, first, interval] => do
    ensure (repetition.head? == some 'R') .invalidTimerExpression
    let remainingFirings ← parseFirings repetition
    let intervalMs ← parseDurationMs interval
    return ⟨max (← parseDate rfc3339 first) armedAtEpochMs, some intervalMs, remainingFirings⟩
  | _ => .error .invalidTimerExpression

def scheduleOf (kind : BoundaryTimerKind) (expression : String) (armedAtEpochMs : Nat) :
    Except BoundaryRuntimeError TimerSchedule :=
  match kind with
  | .date => do return ⟨max (← parseDate rfc3339 expression.toList) armedAtEpochMs, none, some 1⟩
  | .duration => do return ⟨← timerAdd armedAtEpochMs (← parseDurationMs expression.toList), none, some 1⟩
  | .cycle => parseCycle rfc3339 expression armedAtEpochMs

def timerSchedule (policy : BoundaryRuntimePolicy) (trigger : BoundaryTrigger) (armedAtEpochMs : Nat) :
    Except BoundaryRuntimeError (Option TimerSchedule) :=
  match trigger with
  | .timer kind expression => do
    ensure (decide (expression.utf8ByteSize ≤ policy.maxExpressionBytes)) .timerExpressionTooLarge
    let schedule ← scheduleOf rfc3339 kind expression armedAtEpochMs
    ensure (decide (schedule.dueAtEpochMs - armedAtEpochMs ≤ policy.maxTimerHorizonMs) &&
      schedule.intervalMs.all fun interval => decide (interval ≤ policy.maxTimerHorizonMs)) .timerHorizonExceeded
    return some schedule
  | _ => .ok none

example : parseDurationMs "P1DT2H0.5S".toList = .ok 93600500 := by decide

end Timers

section Projection
variable (rfc3339 : String → Option Int) (policy : BoundaryRuntimePolicy)

def projectionMutation (record : BoundaryProjectionRecord) :
    Except BoundaryRuntimeError (Option BoundaryProjectionMutation) :=
  let metadata := record.envelope.metadata
  let key := BoundarySubscriptionKey.mk metadata.tenantId metadata.instanceId
  match record.envelope.event with
  | .boundaryEventArmed boundaryEventId attachedNodeId targetNodeId cancelActivity trigger occurredAt => do
    let schedule ← timerSchedule rfc3339 policy trigger occurredAt
    return some (.upsert {
      key := key boundaryEventId
      attachedNodeId := attachedNodeId
      targetNodeId := targetNodeId
      cancelActivity := cancelActivity
      trigger := trigger
      armedAtEpochMs := occurredAt
      armedEventId := metadata.eventId
      timerSchedule := schedule
      workflowType := metadata.workflowType
      workflowVersion := metadata.workflowVersion })
  | .boundaryEventsDisarmed _ [boundaryEventId] _ => .ok (some (.disarmBoundary (key boundaryEventId)))
  | .boundaryEventsDisarmed attachedNodeId _ _ | .serviceTaskCompleted attachedNodeId _ _
  | .userTaskCompleted attachedNodeId _ _ _ | .scriptTaskCompleted attachedNodeId _
  | .multiInstanceCompleted attachedNodeId _ _ _ | .boundaryEventTriggered _ attachedNodeId _ true _ _ _ =>
    .ok (some (.disarmAttached metadata.tenantId metadata.instanceId attachedNodeId))
  | .workflowCompleted _ | .workflowTerminatedForCompliance _ _ _ _ _ =>
    .ok (some (.removeInstance metadata.tenantId metadata.instanceId))
  | _ => .ok none

def projectionMutations : List BoundaryProjectionRecord → Except BoundaryRuntimeError (List BoundaryProjectionMutation)
  | [] => .ok []
  | record :: records => do
    let mutation ← projectionMutation rfc3339 policy record
    let mutations ← projectionMutations records
    return mutation.toList ++ mutations

def validateProjectionRecords (checkpoint : Nat) : List BoundaryProjectionRecord → Except BoundaryRuntimeError Unit
  | [] => .ok ()
  | record :: records => do
    ensure (checkpoint + 1 ≤ u64Max) .projectionCursorOverflow
    ensure (record.cursor == checkpoint + 1) .nonContiguousProjection
    validateProjectionRecords (checkpoint + 1) records

end Projection

section Source
variable {format : MessageFormat Wire.EventEnvelope}

/-- `read_after` of the in-memory outbox. -/
def MemoryState.readAfter (store : MemoryState format) (cursor limit : Nat) :
    Except OutboxError (List (OutboxRecord format)) := do
  ensure (limit != 0) .invalidConfiguration
  return (store.outbox.filter fun record => decide (record.cursor > cursor)).take limit

def projectionRecord (record : OutboxRecord format) : Except BoundaryRuntimeError BoundaryProjectionRecord := do
  let envelope ← (EventCodec.decode format record.payload).mapError .corruptEvent
  ensure (envelope.metadata.eventId == record.eventId && envelope.metadata.tenantId.value == record.tenantId &&
    envelope.metadata.instanceId.value == record.instanceId) .eventScopeMismatch
  return ⟨record.cursor, envelope⟩

/-- `read_after` of `OutboxBoundaryEventSource`. -/
def boundaryEventsAfter (store : MemoryState format) (cursor limit : Nat) :
    Except BoundaryRuntimeError (List BoundaryProjectionRecord) := do
  collectAll projectionRecord (← (store.readAfter cursor limit).mapError .outbox)

end Source

namespace Sample

def boundaryPolicy : BoundaryRuntimePolicy where
  projectionBatchSize := 2
  dispatchBatchSize := 2
  maxDispatchAttempts := 3
  retryDelayMs := 10
  leaseDurationMs := 100
  maxTimerHorizonMs := 86400000
  maxExpressionBytes := 256
  workerId := "worker-1"
  maxSubscriptionsPerInstance := 8

end Sample

end BpmpPlatform
