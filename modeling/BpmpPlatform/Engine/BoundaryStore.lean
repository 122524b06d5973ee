import BpmpPlatform.Engine.BoundaryRuntime

/-! # The in-memory boundary store

`InMemoryBoundaryRuntimeStore` and `project_once`. Where an operation can fail after it has written, it returns the
state it leaves behind.
-/
namespace BpmpPlatform
open Std Outcome

structure MemoryTimerRecord where
  subscription : ProjectedBoundarySubscription
  generation : Nat
  attempts : Nat
  availableAtEpochMs : Nat
  leaseUntilEpochMs : Nat
  leaseVersion : Nat
  workerId : String
  deadLettered : Bool

structure MemorySignalRecord where
  signal : BoundarySignal
  attempts : Nat
  availableAtEpochMs : Nat
  leaseUntilEpochMs : Nat
  leaseVersion : Nat
  workerId : String
  completed : Bool
  deadLettered : Bool

structure BoundarySignalKey where
  tenantId : TenantId
  signalId : String
  deriving DecidableEq

section Keys

instance : Ord BoundarySignalKey := ⟨compareLex (compareOn BoundarySignalKey.tenantId) (compareOn BoundarySignalKey.signalId)⟩

instance : TransOrd BoundarySignalKey := inferInstanceAs (TransCmp (compareLex _ _))

instance : LawfulEqOrd BoundarySignalKey := lawfulEqCmp_two fun a b _ _ => by
  cases a; cases b; simp_all

end Keys

def BoundarySignal.key (signal : BoundarySignal) : BoundarySignalKey := ⟨signal.tenantId, signal.signalId⟩

structure MemoryBoundaryState where
  projectionCheckpoint : Nat := 0
  subscriptions : ExtTreeMap BoundarySubscriptionKey ProjectedBoundarySubscription := ∅
  timers : ExtTreeMap BoundarySubscriptionKey MemoryTimerRecord := ∅
  signals : ExtTreeMap BoundarySignalKey MemorySignalRecord := ∅

structure ClaimedTimer where
  subscription : ProjectedBoundarySubscription
  generation : Nat
  attempts : Nat
  leaseVersion : Nat

structure ClaimedCorrelation where
  signal : BoundarySignal
  subscription : Option ProjectedBoundarySubscription
  attempts : Nat
  leaseVersion : Nat

inductive SignalEnqueueOutcome
  | enqueued
  | duplicate

def BoundarySubscriptionKey.isOf (key : BoundarySubscriptionKey) (tenantId : TenantId) (instanceId : InstanceId) :
    Bool := key.tenantId == tenantId && key.instanceId == instanceId

namespace MemoryBoundaryState
variable (state : MemoryBoundaryState)

/-- `remove_memory_subscription`. -/
def removeSubscription (key : BoundarySubscriptionKey) : MemoryBoundaryState :=
  { state with subscriptions := state.subscriptions.erase key, timers := state.timers.erase key }

def freshTimer (subscription : ProjectedBoundarySubscription) (schedule : TimerSchedule) : MemoryTimerRecord where
  subscription := subscription
  generation := 0
  attempts := 0
  availableAtEpochMs := schedule.dueAtEpochMs
  leaseUntilEpochMs := 0
  leaseVersion := 0
  workerId := ""
  deadLettered := false

/-- `apply_memory_projection`. -/
def applyMutation : BoundaryProjectionMutation → MemoryBoundaryState
  | .upsert subscription =>
    { state with
      subscriptions := state.subscriptions.insert subscription.key subscription
      -- a subscription without a schedule leaves the timer of its predecessor in place
      timers := match subscription.timerSchedule with
        | some schedule => state.timers.insert subscription.key (freshTimer subscription schedule)
        | none => state.timers }
  | .disarmBoundary key => state.removeSubscription key
  | .disarmAttached tenantId instanceId attachedNodeId =>
    let keys := (state.subscriptions.toList.filter fun entry =>
      entry.1.isOf tenantId instanceId && entry.2.attachedNodeId == attachedNodeId).map Prod.fst
    keys.foldl removeSubscription state
  | .removeInstance tenantId instanceId =>
    (state.subscriptions.keys.filter fun key => key.isOf tenantId instanceId).foldl removeSubscription state

def applyProjection (expectedCheckpoint committedCheckpoint : Nat) (mutations : List BoundaryProjectionMutation) :
    Except BoundaryRuntimeError MemoryBoundaryState := do
  ensure (state.projectionCheckpoint == expectedCheckpoint) .projectionCheckpointConflict
  ensure (decide (committedCheckpoint > expectedCheckpoint)) .nonContiguousProjection
  return { mutations.foldl applyMutation state with projectionCheckpoint := committedCheckpoint }

def isDue (now : Nat) (timer : MemoryTimerRecord) : Bool :=
  !timer.deadLettered && decide (timer.availableAtEpochMs ≤ now) && decide (timer.leaseUntilEpochMs ≤ now)

def dueKeys (now : Nat) : List BoundarySubscriptionKey := keysWhere state.timers (isDue now)

def leased (leaseUntil : Nat) (workerId : String) (timer : MemoryTimerRecord) : MemoryTimerRecord :=
  { timer with
    attempts := saturatingSucc u32Max timer.attempts
    leaseVersion := saturatingSucc u64Max timer.leaseVersion
    leaseUntilEpochMs := leaseUntil
    workerId := workerId }

/-- The second half of `claim_due_timers`: the claims, and the state with the new leases. -/
def claimAll (leaseUntil : Nat) (workerId : String) :
    List BoundarySubscriptionKey → MemoryBoundaryState → Except BoundaryRuntimeError (List ClaimedTimer × MemoryBoundaryState)
  | [], state => .ok ([], state)
  | key :: keys, state => do
    let timer ← okOr (.store "timer disappeared") state.timers[key]?
    let timer := leased leaseUntil workerId timer
    let (claims, final) ← claimAll leaseUntil workerId keys { state with timers := state.timers.insert key timer }
    return (⟨timer.subscription, timer.generation, timer.attempts, timer.leaseVersion⟩ :: claims, final)

def claimDueTimers (now leaseUntil : Nat) (workerId : String) (limit : Nat) :
    Except BoundaryRuntimeError (List ClaimedTimer × MemoryBoundaryState) :=
  claimAll leaseUntil workerId ((state.dueKeys now).take limit) state

/-- `validate_timer_lease`, with the timer it looks at. -/
def leasedTimer (claim : ClaimedTimer) : Except BoundaryRuntimeError MemoryTimerRecord := do
  let timer ← okOr .leaseConflict state.timers[claim.subscription.key]?
  ensure (timer.leaseVersion == claim.leaseVersion && timer.generation == claim.generation && timer.workerId != "")
    .leaseConflict
  return timer

def withSchedule (key : BoundarySubscriptionKey) (schedule : Option TimerSchedule) : MemoryBoundaryState :=
  { state with
    subscriptions := adjust state.subscriptions key fun subscription =>
      { subscription with timerSchedule := schedule } }

def rescheduled (timer : MemoryTimerRecord) (schedule : TimerSchedule) : MemoryTimerRecord :=
  { timer with
    subscription := { timer.subscription with timerSchedule := some schedule }
    generation := saturatingSucc u64Max timer.generation
    attempts := 0
    availableAtEpochMs := schedule.dueAtEpochMs
    leaseUntilEpochMs := 0
    workerId := "" }

def completeTimer (claim : ClaimedTimer) (nextSchedule : Option TimerSchedule) :
    Except BoundaryRuntimeError MemoryBoundaryState := do
  let key := claim.subscription.key
  let timer ← state.leasedTimer claim
  let timers := match nextSchedule with
    | some schedule => state.timers.insert key (rescheduled timer schedule)
    | none => state.timers.erase key
  return { state with timers := timers }.withSchedule key nextSchedule

def failTimer (claim : ClaimedTimer) (retryAt : Nat) (deadLetter : Bool) :
    Except BoundaryRuntimeError MemoryBoundaryState := do
  let timer ← state.leasedTimer claim
  return { state with
    timers := state.timers.insert claim.subscription.key { timer with
      availableAtEpochMs := retryAt
      leaseUntilEpochMs := 0
      workerId := ""
      deadLettered := deadLetter } }

def freshSignal (signal : BoundarySignal) : MemorySignalRecord where
  signal := signal
  attempts := 0
  availableAtEpochMs := signal.occurredAtEpochMs
  leaseUntilEpochMs := 0
  leaseVersion := 0
  workerId := ""
  completed := false
  deadLettered := false

def enqueueSignal (signal : BoundarySignal) : Except BoundaryRuntimeError (SignalEnqueueOutcome × MemoryBoundaryState) :=
  match state.signals[signal.key]? with
  | some existing => if existing.signal = signal then .ok (.duplicate, state) else .error .signalConflict
  | none => .ok (.enqueued, { state with signals := state.signals.insert signal.key (freshSignal signal) })

def scopedSubscriptions (signal : BoundarySignal) : List ProjectedBoundarySubscription :=
  state.subscriptions.values.filter fun subscription => subscription.key.isOf signal.tenantId signal.instanceId

def matchingSubscriptions (signal : BoundarySignal) : List ProjectedBoundarySubscription :=
  (state.scopedSubscriptions signal).filter fun subscription => triggerMatchesSignal subscription.trigger signal

/-- The checks of one signal in `claim_correlations`, with the subscription it is correlated to. -/
def correlate (maxSubscriptionsPerInstance : Nat) (signal : BoundarySignal) :
    Except BoundaryRuntimeError (Option ProjectedBoundarySubscription) := do
  ensure (decide ((state.scopedSubscriptions signal).length ≤ maxSubscriptionsPerInstance)) .correlationScanLimitExceeded
  ensure (decide ((state.matchingSubscriptions signal).length ≤ 1)) .ambiguousCorrelation
  return (state.matchingSubscriptions signal).head?

def isPending (now : Nat) (record : MemorySignalRecord) : Bool :=
  !record.completed && !record.deadLettered && decide (record.availableAtEpochMs ≤ now) &&
    decide (record.leaseUntilEpochMs ≤ now)

def pendingSignals (now : Nat) : List BoundarySignalKey := keysWhere state.signals (isPending now)

def leasedSignal (leaseUntil : Nat) (workerId : String) (record : MemorySignalRecord) : MemorySignalRecord :=
  { record with
    attempts := saturatingSucc u32Max record.attempts
    leaseVersion := saturatingSucc u64Max record.leaseVersion
    leaseUntilEpochMs := leaseUntil
    workerId := workerId }

/-- The loop of `claim_correlations`: a signal that fails ends it, with the leases of the signals before it
already written. -/
def claimSignals (leaseUntil : Nat) (workerId : String) (maxSubscriptionsPerInstance : Nat) :
    List BoundarySignalKey → MemoryBoundaryState →
      Except BoundaryRuntimeError (List ClaimedCorrelation) × MemoryBoundaryState
  | [], state => (.ok [], state)
  | key :: keys, state =>
    match state.signals[key]? with
    | none => (.error (.store "signal disappeared"), state)
    | some record =>
      match state.correlate maxSubscriptionsPerInstance record.signal with
      | .error error => (.error error, state)
      | .ok subscription =>
        let leased := leasedSignal leaseUntil workerId record
        let rest := claimSignals leaseUntil workerId maxSubscriptionsPerInstance keys
          { state with signals := state.signals.insert key leased }
        (rest.1.map fun claims => ⟨record.signal, subscription, leased.attempts, leased.leaseVersion⟩ :: claims, rest.2)

def claimCorrelations (now leaseUntil : Nat) (workerId : String) (limit maxSubscriptionsPerInstance : Nat) :
    Except BoundaryRuntimeError (List ClaimedCorrelation) × MemoryBoundaryState :=
  claimSignals leaseUntil workerId maxSubscriptionsPerInstance ((state.pendingSignals now).take limit) state

/-- `validate_signal_lease`, with the record it looks at. -/
def leasedCorrelation (claim : ClaimedCorrelation) : Except BoundaryRuntimeError MemorySignalRecord := do
  let record ← okOr .leaseConflict state.signals[claim.signal.key]?
  ensure (record.leaseVersion == claim.leaseVersion && record.workerId != "") .leaseConflict
  return record

def completeCorrelation (claim : ClaimedCorrelation) : Except BoundaryRuntimeError MemoryBoundaryState := do
  let record ← state.leasedCorrelation claim
  return { state with
    signals := state.signals.insert claim.signal.key { record with
      completed := true
      leaseUntilEpochMs := 0
      workerId := "" } }

def failCorrelation (claim : ClaimedCorrelation) (retryAt : Nat) (deadLetter : Bool) :
    Except BoundaryRuntimeError MemoryBoundaryState := do
  let record ← state.leasedCorrelation claim
  return { state with
    signals := state.signals.insert claim.signal.key { record with
      availableAtEpochMs := retryAt
      leaseUntilEpochMs := 0
      workerId := ""
      deadLettered := deadLetter } }

end MemoryBoundaryState

section RemoveAll

section
variable (keys : List BoundarySubscriptionKey)
include keys

theorem removeAll_subscriptions (b : MemoryBoundaryState) :
    (keys.foldl MemoryBoundaryState.removeSubscription b).subscriptions =
      keys.foldl (fun m k => m.erase k) b.subscriptions := by
  induction keys generalizing b with
  | nil => rfl
  | cons k keys ih => rw [List.foldl_cons, ih]; rfl

theorem removeAll_timers (b : MemoryBoundaryState) :
    (keys.foldl MemoryBoundaryState.removeSubscription b).timers = keys.foldl (fun m k => m.erase k) b.timers := by
  induction keys generalizing b with
  | nil => rfl
  | cons k keys ih => rw [List.foldl_cons, ih]; rfl

theorem removeAll_signals (b : MemoryBoundaryState) :
    (keys.foldl MemoryBoundaryState.removeSubscription b).signals = b.signals := by
  induction keys generalizing b with
  | nil => rfl
  | cons k keys ih => rw [List.foldl_cons, ih]; rfl

end

end RemoveAll

structure ProjectionOutcome where
  processed : Nat
  checkpoint : Nat

section Projection
variable (rfc3339 : String → Option Int) (policy : BoundaryRuntimePolicy) {format : MessageFormat Wire.EventEnvelope}
  (store : MemoryState format) (state : MemoryBoundaryState)

/-- The part of `project_once` before the store is written: the records of the batch and their mutations. -/
def projectionBatch : Except BoundaryRuntimeError (List BoundaryProjectionRecord × List BoundaryProjectionMutation) := do
  let records ← boundaryEventsAfter store state.projectionCheckpoint policy.projectionBatchSize
  ensure (decide (records.length ≤ policy.projectionBatchSize)) .adapterBatchLimitExceeded
  validateProjectionRecords state.projectionCheckpoint records
  return (records, ← projectionMutations rfc3339 policy records)

def projectOnce : Except BoundaryRuntimeError (ProjectionOutcome × MemoryBoundaryState) := do
  let (records, mutations) ← projectionBatch rfc3339 policy store state
  let committed := (records.getLast?.map BoundaryProjectionRecord.cursor).getD state.projectionCheckpoint
  if committed = state.projectionCheckpoint then return (⟨records.length, committed⟩, state)
  else
    let state ← state.applyProjection state.projectionCheckpoint committed mutations
    return (⟨records.length, committed⟩, state)

end Projection

end BpmpPlatform
