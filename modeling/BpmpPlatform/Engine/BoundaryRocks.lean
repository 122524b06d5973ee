import BpmpPlatform.Engine.BoundaryStore
import BpmpPlatform.Library.DueIndex

/-! # The durable boundary store

The boundary store of the RocksDB adapter. Column families are ordered maps, and reads see what earlier batches wrote.
The store port is the interface that the two boundary stores share.
-/
namespace BpmpPlatform
open Std Outcome Storage

structure BoundarySubscriptionRecord where
  key : BoundarySubscriptionKey
  attachedNodeId : NodeId
  targetNodeId : NodeId
  cancelActivity : Bool
  triggerKind : Int
  triggerReference : String
  armedAtEpochMs : Nat
  armedEventId : String
  timerSchedule : Option TimerSchedule
  generation : Nat
  attempts : Nat
  availableAtEpochMs : Nat
  leaseUntilEpochMs : Nat
  leaseVersion : Nat
  workerId : String
  deadLettered : Bool
  workflowType : WorkflowType
  workflowVersion : WorkflowVersion

structure BoundarySignalRecord where
  signal : BoundarySignal
  attempts : Nat
  availableAtEpochMs : Nat
  leaseUntilEpochMs : Nat
  leaseVersion : Nat
  workerId : String
  completed : Bool
  deadLettered : Bool

section Records

def boundaryTriggerToStorage : BoundaryTrigger → Int × String := boundaryTriggerToWire

def nonEmptyBoundary (value field : String) : Except BoundaryRuntimeError String := do
  ensure (!Text.isBlank value) (.store ("persisted boundary field " ++ field ++ " is empty"))
  return value

def boundaryTriggerFromStorage (kind : Int) (reference : String) : Except BoundaryRuntimeError BoundaryTrigger :=
  triggerFrom (.store "invalid persisted boundary trigger kind") (nonEmptyBoundary reference "timer_expression")
    (nonEmptyBoundary reference "message_ref") (if reference = "" then none else some reference) kind

def subscriptionToRecord (subscription : ProjectedBoundarySubscription) : BoundarySubscriptionRecord where
  key := subscription.key
  attachedNodeId := subscription.attachedNodeId
  targetNodeId := subscription.targetNodeId
  cancelActivity := subscription.cancelActivity
  triggerKind := (boundaryTriggerToStorage subscription.trigger).1
  triggerReference := (boundaryTriggerToStorage subscription.trigger).2
  armedAtEpochMs := subscription.armedAtEpochMs
  armedEventId := subscription.armedEventId
  timerSchedule := subscription.timerSchedule
  generation := 0
  attempts := 0
  availableAtEpochMs := (subscription.timerSchedule.map TimerSchedule.dueAtEpochMs).getD 0
  leaseUntilEpochMs := 0
  leaseVersion := 0
  workerId := ""
  deadLettered := false
  workflowType := subscription.workflowType
  workflowVersion := subscription.workflowVersion

def recordSchedule : Option TimerSchedule → Except BoundaryRuntimeError (Option TimerSchedule)
  | none => .ok none
  | some schedule => do
    ensure (schedule.dueAtEpochMs != 0 && schedule.intervalMs != some 0 && schedule.remainingFirings != some 0)
      (.store "invalid persisted timer schedule")
    return some schedule

def subscriptionFromRecord (record : BoundarySubscriptionRecord) :
    Except BoundaryRuntimeError ProjectedBoundarySubscription := do
  let trigger ← boundaryTriggerFromStorage record.triggerKind record.triggerReference
  let armedEventId ← nonEmptyBoundary record.armedEventId "armed_event_id"
  let timerSchedule ← recordSchedule record.timerSchedule
  return {
    key := record.key
    attachedNodeId := record.attachedNodeId
    targetNodeId := record.targetNodeId
    cancelActivity := record.cancelActivity
    trigger := trigger
    armedAtEpochMs := record.armedAtEpochMs
    armedEventId := armedEventId
    timerSchedule := timerSchedule
    workflowType := record.workflowType
    workflowVersion := record.workflowVersion }

def signalToRecord (signal : BoundarySignal) : BoundarySignalRecord where
  signal := signal
  attempts := 0
  availableAtEpochMs := signal.occurredAtEpochMs
  leaseUntilEpochMs := 0
  leaseVersion := 0
  workerId := ""
  completed := false
  deadLettered := false

def signalFromRecord (record : BoundarySignalRecord) : Except BoundaryRuntimeError BoundarySignal := do
  let signalId ← nonEmptyBoundary record.signal.signalId "signal_id"
  let authorizationContextRef ← nonEmptyBoundary record.signal.authorizationContextRef "authorization_context_ref"
  return { record.signal with
    signalId := signalId
    authorizationContextRef := authorizationContextRef }

def boundarySubscriptionPrefix (tenantId : TenantId) (instanceId : InstanceId) : StorageKey :=
  [⟨tenantId.value⟩, ⟨instanceId.value⟩]

def BoundarySubscriptionKey.storage (key : BoundarySubscriptionKey) : StorageKey :=
  boundarySubscriptionPrefix key.tenantId key.instanceId ++ [⟨key.boundaryEventId.value⟩]

def BoundarySignal.storage (signal : BoundarySignal) : StorageKey := [⟨signal.tenantId.value⟩, ⟨signal.signalId⟩]

end Records

structure BoundaryDb where
  projectionCheckpoint : Nat := 0
  subscriptions : ExtTreeMap StorageKey BoundarySubscriptionRecord := ∅
  timerIndex : ExtTreeSet (DueKey StorageKey) := ∅
  signals : ExtTreeMap StorageKey BoundarySignalRecord := ∅
  signalIndex : ExtTreeSet (DueKey StorageKey) := ∅

inductive BoundaryWrite
  | putSubscription (key : StorageKey) (record : BoundarySubscriptionRecord)
  | deleteSubscription (key : StorageKey)
  | putTimer (entry : DueKey StorageKey)
  | deleteTimer (entry : DueKey StorageKey)
  | putSignal (key : StorageKey) (record : BoundarySignalRecord)
  | putSignalIndex (entry : DueKey StorageKey)
  | deleteSignalIndex (entry : DueKey StorageKey)
  | putCheckpoint (checkpoint : Nat)

namespace BoundaryDb
variable (db : BoundaryDb)

def write : BoundaryWrite → BoundaryDb
  | .putSubscription key record => { db with subscriptions := db.subscriptions.insert key record }
  | .deleteSubscription key => { db with subscriptions := db.subscriptions.erase key }
  | .putTimer entry => { db with timerIndex := db.timerIndex.insert entry }
  | .deleteTimer entry => { db with timerIndex := db.timerIndex.erase entry }
  | .putSignal key record => { db with signals := db.signals.insert key record }
  | .putSignalIndex entry => { db with signalIndex := db.signalIndex.insert entry }
  | .deleteSignalIndex entry => { db with signalIndex := db.signalIndex.erase entry }
  | .putCheckpoint checkpoint => { db with projectionCheckpoint := checkpoint }

def writeBatch (batch : List BoundaryWrite) : BoundaryDb := batch.foldl write db

section Projection

/-- `scan_boundary_subscriptions`: the iteration from the prefix on, as far as keys start with it. -/
def scanSubscriptions (tenantId : TenantId) (instanceId : InstanceId) : List (StorageKey × BoundarySubscriptionRecord) :=
  db.subscriptions.toList.filter fun entry => (boundarySubscriptionPrefix tenantId instanceId).isPrefixOf entry.1

/-- `delete_boundary_subscription_record`. -/
def deleteRecord (key : StorageKey) (record : BoundarySubscriptionRecord) : List BoundaryWrite :=
  (if record.timerSchedule.isSome then [.deleteTimer ⟨record.availableAtEpochMs, key⟩] else []) ++
    [.deleteSubscription key]

/-- `apply_boundary_projection_mutation`: what a mutation adds to the batch, read off the database as it is
before the batch. -/
def mutationWrites : BoundaryProjectionMutation → List BoundaryWrite
  | .upsert subscription =>
    let key := subscription.key.storage
    let record := subscriptionToRecord subscription
    (match db.subscriptions[key]? with
      | some existing =>
        if existing.timerSchedule.isSome then [.deleteTimer ⟨existing.availableAtEpochMs, key⟩] else []
      | none => []) ++
    (if record.timerSchedule.isSome then [.putTimer ⟨record.availableAtEpochMs, key⟩] else []) ++
    [.putSubscription key record]
  | .disarmBoundary key =>
    match db.subscriptions[key.storage]? with
    | some record => deleteRecord key.storage record
    | none => []
  | .disarmAttached tenantId instanceId attachedNodeId =>
    (db.scanSubscriptions tenantId instanceId).flatMap fun entry =>
      if entry.2.attachedNodeId = attachedNodeId then deleteRecord entry.1 entry.2 else []
  | .removeInstance tenantId instanceId =>
    (db.scanSubscriptions tenantId instanceId).flatMap fun entry => deleteRecord entry.1 entry.2

def applyProjection (expectedCheckpoint committedCheckpoint : Nat) (mutations : List BoundaryProjectionMutation) :
    Except BoundaryRuntimeError BoundaryDb := do
  ensure (db.projectionCheckpoint == expectedCheckpoint) .projectionCheckpointConflict
  ensure (decide (committedCheckpoint > expectedCheckpoint)) .nonContiguousProjection
  return db.writeBatch (mutations.flatMap db.mutationWrites ++ [.putCheckpoint committedCheckpoint])

end Projection

section Timers

def leasedRecord (leaseUntil : Nat) (workerId : String) (record : BoundarySubscriptionRecord) :
    BoundarySubscriptionRecord :=
  { record with
    attempts := saturatingSucc u32Max record.attempts
    leaseVersion := saturatingSucc u64Max record.leaseVersion
    leaseUntilEpochMs := leaseUntil
    workerId := workerId }

/-- The loop of `claim_due_timers` over the index; `limit` counts down. -/
def claimLoop (now leaseUntil : Nat) (workerId : String) :
    Nat → List (DueKey StorageKey) → Except BoundaryRuntimeError (List ClaimedTimer × List BoundaryWrite)
  | 0, _ | _, [] => .ok ([], [])
  | limit + 1, entry :: entries =>
    if entry.dueAt > now then .ok ([], [])
    else do
      let record ← okOr (.store "timer index references a missing subscription") db.subscriptions[entry.key]?
      ensure (record.timerSchedule.isSome && record.availableAtEpochMs == entry.dueAt)
        (.store "timer index and subscription disagree")
      if record.deadLettered || decide (record.leaseUntilEpochMs > now) then
        claimLoop now leaseUntil workerId (limit + 1) entries
      else
        let record := leasedRecord leaseUntil workerId record
        let subscription ← subscriptionFromRecord record
        let (claims, writes) ← claimLoop now leaseUntil workerId limit entries
        return (⟨subscription, record.generation, record.attempts, record.leaseVersion⟩ :: claims,
          .putSubscription entry.key record :: writes)

def claimDueTimers (now leaseUntil : Nat) (workerId : String) (limit : Nat) :
    Except BoundaryRuntimeError (List ClaimedTimer × BoundaryDb) := do
  let (claims, writes) ← db.claimLoop now leaseUntil workerId limit db.timerIndex.toList
  return (claims, db.writeBatch writes)

/-- `validate_boundary_timer_claim`, with the record it looks at. -/
def claimedRecord (claim : ClaimedTimer) : Except BoundaryRuntimeError BoundarySubscriptionRecord := do
  let record ← okOr .leaseConflict db.subscriptions[claim.subscription.key.storage]?
  ensure (record.leaseVersion == claim.leaseVersion && record.generation == claim.generation && record.workerId != "")
    .leaseConflict
  return record

def firedRecord (record : BoundarySubscriptionRecord) : Option TimerSchedule → BoundarySubscriptionRecord
  | some schedule =>
    { record with
      timerSchedule := some schedule
      generation := saturatingSucc u64Max record.generation
      attempts := 0
      availableAtEpochMs := schedule.dueAtEpochMs
      leaseUntilEpochMs := 0
      workerId := "" }
  | none => { record with timerSchedule := none, leaseUntilEpochMs := 0, workerId := "" }

def completeTimer (claim : ClaimedTimer) (nextSchedule : Option TimerSchedule) :
    Except BoundaryRuntimeError BoundaryDb := do
  let key := claim.subscription.key.storage
  let record ← db.claimedRecord claim
  let reindexed := match nextSchedule with
    | some schedule => [.putTimer ⟨schedule.dueAtEpochMs, key⟩]
    | none => []
  return db.writeBatch (.deleteTimer ⟨record.availableAtEpochMs, key⟩ :: reindexed ++
    [.putSubscription key (firedRecord record nextSchedule)])

def failTimer (claim : ClaimedTimer) (retryAt : Nat) (deadLetter : Bool) : Except BoundaryRuntimeError BoundaryDb := do
  let key := claim.subscription.key.storage
  let record ← db.claimedRecord claim
  let failed : BoundarySubscriptionRecord := { record with
    availableAtEpochMs := retryAt
    leaseUntilEpochMs := 0
    workerId := ""
    deadLettered := deadLetter }
  return db.writeBatch (.deleteTimer ⟨record.availableAtEpochMs, key⟩ ::
    (if deadLetter then [] else [.putTimer ⟨retryAt, key⟩]) ++ [.putSubscription key failed])

end Timers

section Signals

def enqueueSignal (signal : BoundarySignal) : Except BoundaryRuntimeError (SignalEnqueueOutcome × BoundaryDb) :=
  match db.signals[signal.storage]? with
  | some existing => do
    if (← signalFromRecord existing) = signal then return (.duplicate, db) else throw .signalConflict
  | none =>
    let record := signalToRecord signal
    .ok (.enqueued, db.writeBatch [.putSignal signal.storage record,
      .putSignalIndex ⟨record.availableAtEpochMs, signal.storage⟩])

/-- The loop of `correlate_boundary_subscription` over the records of the instance. -/
def correlateLoop (signal : BoundarySignal) :
    Option ProjectedBoundarySubscription → List (StorageKey × BoundarySubscriptionRecord) →
      Except BoundaryRuntimeError (Option ProjectedBoundarySubscription)
  | matched, [] => .ok matched
  | matched, entry :: entries => do
    let subscription ← subscriptionFromRecord entry.2
    if triggerMatchesSignal subscription.trigger signal then do
      ensure matched.isNone .ambiguousCorrelation
      correlateLoop signal (some subscription) entries
    else correlateLoop signal matched entries

def correlate (maxSubscriptionsPerInstance : Nat) (signal : BoundarySignal) :
    Except BoundaryRuntimeError (Option ProjectedBoundarySubscription) := do
  let records := db.scanSubscriptions signal.tenantId signal.instanceId
  ensure (decide (records.length ≤ maxSubscriptionsPerInstance)) .correlationScanLimitExceeded
  correlateLoop signal none records

def leasedSignalRecord (leaseUntil : Nat) (workerId : String) (record : BoundarySignalRecord) : BoundarySignalRecord :=
  { record with
    attempts := saturatingSucc u32Max record.attempts
    leaseVersion := saturatingSucc u64Max record.leaseVersion
    leaseUntilEpochMs := leaseUntil
    workerId := workerId }

/-- The loop of `claim_correlations` over the index; `limit` counts down. -/
def claimSignals (now leaseUntil : Nat) (workerId : String) (maxSubscriptionsPerInstance : Nat) :
    Nat → List (DueKey StorageKey) → Except BoundaryRuntimeError (List ClaimedCorrelation × List BoundaryWrite)
  | 0, _ | _, [] => .ok ([], [])
  | limit + 1, entry :: entries =>
    if entry.dueAt > now then .ok ([], [])
    else do
      let record ← okOr (.store "signal index references a missing record") db.signals[entry.key]?
      ensure (record.availableAtEpochMs == entry.dueAt) (.store "signal index and record disagree")
      if record.completed || record.deadLettered || decide (record.leaseUntilEpochMs > now) then
        claimSignals now leaseUntil workerId maxSubscriptionsPerInstance (limit + 1) entries
      else
        let signal ← signalFromRecord record
        let subscription ← db.correlate maxSubscriptionsPerInstance signal
        let record := leasedSignalRecord leaseUntil workerId record
        let (claims, writes) ← claimSignals now leaseUntil workerId maxSubscriptionsPerInstance limit entries
        return (⟨signal, subscription, record.attempts, record.leaseVersion⟩ :: claims,
          .putSignal entry.key record :: writes)

def claimCorrelations (now leaseUntil : Nat) (workerId : String) (limit maxSubscriptionsPerInstance : Nat) :
    Except BoundaryRuntimeError (List ClaimedCorrelation × BoundaryDb) := do
  let (claims, writes) ← db.claimSignals now leaseUntil workerId maxSubscriptionsPerInstance limit db.signalIndex.toList
  return (claims, db.writeBatch writes)

/-- `update_boundary_signal_claim`. -/
def updateSignalClaim (claim : ClaimedCorrelation) (retryAt : Nat) (deadLetter completed : Bool) :
    Except BoundaryRuntimeError BoundaryDb := do
  let key := claim.signal.storage
  let record ← okOr .leaseConflict db.signals[key]?
  ensure (record.leaseVersion == claim.leaseVersion && record.workerId != "") .leaseConflict
  let updated : BoundarySignalRecord := { record with
    availableAtEpochMs := retryAt
    leaseUntilEpochMs := 0
    workerId := ""
    deadLettered := deadLetter
    completed := completed }
  return db.writeBatch (.deleteSignalIndex ⟨record.availableAtEpochMs, key⟩ ::
    (if deadLetter || completed then [] else [.putSignalIndex ⟨retryAt, key⟩]) ++ [.putSignal key updated])

def completeCorrelation (claim : ClaimedCorrelation) : Except BoundaryRuntimeError BoundaryDb :=
  db.updateSignalClaim claim 0 false true

def failCorrelation (claim : ClaimedCorrelation) (retryAt : Nat) (deadLetter : Bool) :
    Except BoundaryRuntimeError BoundaryDb := db.updateSignalClaim claim retryAt deadLetter false

end Signals

end BoundaryDb

section Port

structure TimerStorePort (S : Type) where
  applyProjection : S → Nat → Nat → List BoundaryProjectionMutation → Except BoundaryRuntimeError S
  claimDueTimers : S → Nat → Nat → String → Nat → Except BoundaryRuntimeError (List ClaimedTimer × S)
  completeTimer : S → ClaimedTimer → Option TimerSchedule → Except BoundaryRuntimeError S
  failTimer : S → ClaimedTimer → Nat → Bool → Except BoundaryRuntimeError S

/-- `BoundaryRuntimeStorePort`. Only `claim_correlations` may have written something when it fails. -/
structure BoundaryStorePort (S : Type) extends TimerStorePort S where
  enqueueSignal : S → BoundarySignal → Except BoundaryRuntimeError (SignalEnqueueOutcome × S)
  claimCorrelations : S → Nat → Nat → String → Nat → Nat → Except BoundaryRuntimeError (List ClaimedCorrelation) × S
  completeCorrelation : S → ClaimedCorrelation → Except BoundaryRuntimeError S
  failCorrelation : S → ClaimedCorrelation → Nat → Bool → Except BoundaryRuntimeError S

def memoryTimers : TimerStorePort MemoryBoundaryState where
  applyProjection := MemoryBoundaryState.applyProjection
  claimDueTimers := MemoryBoundaryState.claimDueTimers
  completeTimer := MemoryBoundaryState.completeTimer
  failTimer := MemoryBoundaryState.failTimer

def memoryBoundary : BoundaryStorePort MemoryBoundaryState where
  toTimerStorePort := memoryTimers
  enqueueSignal := MemoryBoundaryState.enqueueSignal
  claimCorrelations := MemoryBoundaryState.claimCorrelations
  completeCorrelation := MemoryBoundaryState.completeCorrelation
  failCorrelation := MemoryBoundaryState.failCorrelation

def rocksTimers : TimerStorePort BoundaryDb where
  applyProjection := BoundaryDb.applyProjection
  claimDueTimers := BoundaryDb.claimDueTimers
  completeTimer := BoundaryDb.completeTimer
  failTimer := BoundaryDb.failTimer

def rocksBoundary : BoundaryStorePort BoundaryDb where
  toTimerStorePort := rocksTimers
  enqueueSignal := BoundaryDb.enqueueSignal
  claimCorrelations := fun db now leaseUntil workerId limit maxSubscriptionsPerInstance =>
    match db.claimCorrelations now leaseUntil workerId limit maxSubscriptionsPerInstance with
    | .ok (claims, db') => (.ok claims, db')
    | .error error => (.error error, db)
  completeCorrelation := BoundaryDb.completeCorrelation
  failCorrelation := BoundaryDb.failCorrelation

inductive BoundaryAdapter
  | memory
  | rocks

namespace BoundaryAdapter

def Store : BoundaryAdapter → Type
  | .memory => MemoryBoundaryState
  | .rocks => BoundaryDb

def port : (adapter : BoundaryAdapter) → BoundaryStorePort adapter.Store
  | .memory => memoryBoundary
  | .rocks => rocksBoundary

def start : (adapter : BoundaryAdapter) → adapter.Store
  | .memory => ({} : MemoryBoundaryState)
  | .rocks => ({} : BoundaryDb)

end BoundaryAdapter

/-- The states of a store after calls in any order, whose projection batches meet a condition on the state
before them. -/
inductive StoredWith {S : Type} (allowed : S → List BoundaryProjectionMutation → Prop) (port : BoundaryStorePort S)
    (empty : S) : S → Prop
  | empty : StoredWith allowed port empty empty
  | project {s s' expected committed mutations} (h : StoredWith allowed port empty s)
      (hallowed : allowed s mutations) (hp : port.applyProjection s expected committed mutations = .ok s') :
      StoredWith allowed port empty s'
  | claimTimers {s s' now leaseUntil workerId limit claims} (h : StoredWith allowed port empty s)
      (hc : port.claimDueTimers s now leaseUntil workerId limit = .ok (claims, s')) : StoredWith allowed port empty s'
  | completeTimer {s s' claim nextSchedule} (h : StoredWith allowed port empty s)
      (hc : port.completeTimer s claim nextSchedule = .ok s') : StoredWith allowed port empty s'
  | failTimer {s s' claim retryAt deadLetter} (h : StoredWith allowed port empty s)
      (hf : port.failTimer s claim retryAt deadLetter = .ok s') : StoredWith allowed port empty s'
  | enqueue {s s' signal outcome} (h : StoredWith allowed port empty s)
      (he : port.enqueueSignal s signal = .ok (outcome, s')) : StoredWith allowed port empty s'
  | claimSignals {s s' now leaseUntil workerId limit maxSubscriptionsPerInstance result} (h : StoredWith allowed port empty s)
      (hc : port.claimCorrelations s now leaseUntil workerId limit maxSubscriptionsPerInstance = (result, s')) :
      StoredWith allowed port empty s'
  | completeSignal {s s' claim} (h : StoredWith allowed port empty s) (hc : port.completeCorrelation s claim = .ok s') :
      StoredWith allowed port empty s'
  | failSignal {s s' claim retryAt deadLetter} (h : StoredWith allowed port empty s)
      (hf : port.failCorrelation s claim retryAt deadLetter = .ok s') : StoredWith allowed port empty s'

abbrev Stored {S : Type} (port : BoundaryStorePort S) (empty : S) : S → Prop :=
  StoredWith (fun _ _ => True) port empty

end Port

end BpmpPlatform
