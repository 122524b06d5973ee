import BpmpPlatform.Engine.RemoteTask

/-! # The durable queue of remote tasks

Every change of the queue is prepared as a batch of conditions and writes, and applied later by the replicated state
machine. Index entries have empty values, so that a condition on one only says whether it is there.
-/
namespace BpmpPlatform
open Std Outcome Storage

inductive RemoteTaskRecordStatus
  | ready
  | leased
  | completed
  | deadLettered
  deriving DecidableEq

structure RemoteTaskRecord where
  task : RemoteTask
  status : RemoteTaskRecordStatus
  attempts : Nat
  availableAtEpochMs : Nat
  assignmentId : String
  workerId : String
  sessionId : String
  leaseVersion : Nat
  leaseUntilEpochMs : Nat
  assignmentTokenDigest : List UInt8
  deriving DecidableEq

structure RemoteTaskClaim where
  task : RemoteTask
  assignmentId : String
  workerId : String
  sessionId : String
  attempt : Nat
  leaseVersion : Nat
  leaseUntilEpochMs : Nat
  assignmentTokenDigest : List UInt8
  deriving DecidableEq

structure RemoteTaskClaimRequest where
  tenantId : TenantId
  taskId : String
  assignmentId : String
  workerId : String
  sessionId : String
  nowEpochMs : Nat
  leaseUntilEpochMs : Nat
  assignmentTokenDigest : List UInt8
  deriving DecidableEq

section Records

def remoteTaskRecord (task : RemoteTask) : RemoteTaskRecord where
  task := task
  status := .ready
  attempts := 0
  availableAtEpochMs := task.activatedAtEpochMs
  assignmentId := ""
  workerId := ""
  sessionId := ""
  leaseVersion := 0
  leaseUntilEpochMs := 0
  assignmentTokenDigest := []

/-- The identifiers of a task are stored as they are; its other texts are checked again when it is read. -/
def remoteTaskFromRecord (record : RemoteTaskRecord) : Except RemoteTaskError RemoteTask := do
  ensure (!Text.isBlank record.task.taskId) .invalidActivation
  ensure (!Text.isBlank record.task.taskType) .invalidActivation
  ensure (!Text.isBlank record.task.activationEventId) .invalidActivation
  return record.task

def remoteClaimFromRecord (record : RemoteTaskRecord) : Except RemoteTaskError RemoteTaskClaim := do
  ensure (record.status == .leased && !Text.isBlank record.assignmentId && !Text.isBlank record.workerId &&
    !Text.isBlank record.sessionId && record.attempts != 0 && record.leaseVersion != 0 &&
    record.leaseUntilEpochMs != 0 && record.assignmentTokenDigest.length == 32)
    (.store "remote leased task metadata is invalid")
  let task ← remoteTaskFromRecord record
  return {
    task := task
    assignmentId := record.assignmentId
    workerId := record.workerId
    sessionId := record.sessionId
    attempt := record.attempts
    leaseVersion := record.leaseVersion
    leaseUntilEpochMs := record.leaseUntilEpochMs
    assignmentTokenDigest := record.assignmentTokenDigest }

def validateRemoteClaimRequest (request : RemoteTaskClaimRequest) : Except RemoteTaskError Unit :=
  ensure (!Text.isBlank request.taskId && !Text.isBlank request.assignmentId && !Text.isBlank request.workerId &&
    !Text.isBlank request.sessionId && request.nowEpochMs != 0 && decide (request.nowEpochMs < request.leaseUntilEpochMs) &&
    request.assignmentTokenDigest.length == 32) .invalidRequest

def validateRemoteLease (record : RemoteTaskRecord) (claim : RemoteTaskClaim) : Except RemoteTaskError Unit :=
  ensure (record.status == .leased && record.task.tenantId == claim.task.tenantId &&
    record.task.taskId == claim.task.taskId && record.assignmentId == claim.assignmentId &&
    record.workerId == claim.workerId && record.sessionId == claim.sessionId && record.attempts == claim.attempt &&
    record.leaseVersion == claim.leaseVersion && record.leaseUntilEpochMs == claim.leaseUntilEpochMs &&
    record.assignmentTokenDigest == claim.assignmentTokenDigest) .staleLease

def remoteTaskStorageKey (tenantId : TenantId) (taskId : String) : StorageKey := [⟨tenantId.value⟩, ⟨taskId⟩]

end Records

/-- The scope in which a batch is deduplicated: `remote_operation_scope`. -/
structure RemoteScope where
  operation : String
  key : StorageKey
  generation : Nat
  deriving DecidableEq

section Keys

instance : Ord RemoteScope :=
  ⟨compareLex (compareOn RemoteScope.operation)
    (compareLex (compareOn RemoteScope.key) (compareOn RemoteScope.generation))⟩

instance : TransOrd RemoteScope := inferInstanceAs (TransCmp (compareLex _ _))

end Keys

variable {δ : Type}

/-- A condition of a batch; `δ` are the digests of stored values. -/
inductive RemotePrecondition (δ : Type)
  | taskMissing (key : StorageKey)
  | taskDigest (key : StorageKey) (digest : δ)
  | readyMissing (entry : DueKey StorageKey)
  | readyPresent (entry : DueKey StorageKey)
  | leaseMissing (entry : DueKey StorageKey)
  | leasePresent (entry : DueKey StorageKey)
  deriving DecidableEq

inductive RemoteMutation
  | putTask (key : StorageKey) (record : RemoteTaskRecord)
  | putReady (entry : DueKey StorageKey)
  | deleteReady (entry : DueKey StorageKey)
  | putLease (entry : DueKey StorageKey)
  | deleteLease (entry : DueKey StorageKey)
  deriving DecidableEq

structure RemoteBatch (δ : Type) where
  commandId : String
  idempotencyScope : RemoteScope
  preconditions : List (RemotePrecondition δ)
  mutations : List RemoteMutation
  deriving DecidableEq

inductive ApplyOutcome
  | applied
  | duplicate
  | preconditionFailed (conditionIndex : Nat)
  | rejected (reason : String)
  deriving DecidableEq

structure RemoteDb (δ : Type) where
  tasks : ExtTreeMap StorageKey RemoteTaskRecord := ∅
  ready : ExtTreeSet (DueKey StorageKey) := ∅
  lease : ExtTreeSet (DueKey StorageKey) := ∅
  appliedCommands : ExtTreeMap RemoteScope (String × δ) := ∅

structure RemoteStorage (δ : Type) where
  valueDigest : RemoteTaskRecord → δ
  batchDigest : RemoteBatch δ → δ
  validate : RemoteBatch δ → Except String Unit

namespace RemoteDb
variable [DecidableEq δ] (storage : RemoteStorage δ) (db : RemoteDb δ)

def satisfies : RemotePrecondition δ → Bool
  | .taskMissing key => db.tasks[key]?.isNone
  | .taskDigest key digest => db.tasks[key]?.any fun record => storage.valueDigest record == digest
  | .readyMissing entry => !db.ready.contains entry
  | .readyPresent entry => db.ready.contains entry
  | .leaseMissing entry => !db.lease.contains entry
  | .leasePresent entry => db.lease.contains entry

def write (db : RemoteDb δ) : RemoteMutation → RemoteDb δ
  | .putTask key record => { db with tasks := db.tasks.insert key record }
  | .putReady entry => { db with ready := db.ready.insert entry }
  | .deleteReady entry => { db with ready := db.ready.erase entry }
  | .putLease entry => { db with lease := db.lease.insert entry }
  | .deleteLease entry => { db with lease := db.lease.erase entry }

/-- `AtomicStateStorage::apply`. -/
def apply (batch : RemoteBatch δ) : ApplyOutcome × RemoteDb δ :=
  match storage.validate batch with
  | .error reason => (.rejected reason, db)
  | .ok () =>
    match db.appliedCommands[batch.idempotencyScope]? with
    | some previous =>
      if previous = (batch.commandId, storage.batchDigest batch) then (.duplicate, db)
      else (.rejected "idempotency-scope-conflict", db)
    | none =>
      match batch.preconditions.findIdx? fun condition => !db.satisfies storage condition with
      | some index => (.preconditionFailed index, db)
      | none => (.applied, { batch.mutations.foldl write db with
          appliedCommands := db.appliedCommands.insert batch.idempotencyScope
            (batch.commandId, storage.batchDigest batch) })

def enqueueBatch (task : RemoteTask) : RemoteBatch δ :=
  let key := remoteTaskStorageKey task.tenantId task.taskId
  let record := remoteTaskRecord task
  let entry := ⟨record.availableAtEpochMs, key⟩
  { commandId := "remote-enqueue:" ++ task.tenantId.value ++ ":" ++ task.taskId
    idempotencyScope := ⟨"enqueue", key, 0⟩
    preconditions := [.taskMissing key, .readyMissing entry]
    mutations := [.putTask key record, .putReady entry] }

def prepareRemoteTaskEnqueue (task : RemoteTask) : Except RemoteTaskError (Option (RemoteBatch δ)) := do
  validateRemoteTask task
  match db.tasks[remoteTaskStorageKey task.tenantId task.taskId]? with
  | some existing =>
    if (← remoteTaskFromRecord existing) = task then return none else throw .conflict
  | none => return some (enqueueBatch task)

/-- The loop of `ready_remote_tasks` and `expired_remote_task_claims` over the entries of an index. -/
def dueLoop {α : Type} (index : String) (status : RemoteTaskRecordStatus) (time : RemoteTaskRecord → Nat)
    (read : RemoteTaskRecord → Except RemoteTaskError α) (now : Nat) :
    Nat → List (DueKey StorageKey) → Except RemoteTaskError (List α)
  | 0, _ => .ok []
  | _, [] => .ok []
  | limit + 1, entry :: entries =>
    if entry.dueAt > now then .ok []
    else do
      let record ← okOr (.store ("remote " ++ index ++ " index references a missing task")) db.tasks[entry.key]?
      ensure (record.status == status && time record == entry.dueAt)
        (.store ("remote " ++ index ++ " index and task record disagree"))
      let value ← read record
      let values ← dueLoop index status time read now limit entries
      return value :: values

def readyRemoteTasks (now limit : Nat) : Except RemoteTaskError (List RemoteTask) := do
  ensure (limit != 0) .invalidRequest
  db.dueLoop "ready" .ready RemoteTaskRecord.availableAtEpochMs remoteTaskFromRecord now limit db.ready.toList

def claimedTask (record : RemoteTaskRecord) (request : RemoteTaskClaimRequest) : RemoteTaskRecord :=
  { record with
    attempts := record.attempts + 1
    leaseVersion := record.leaseVersion + 1
    status := .leased
    assignmentId := request.assignmentId
    workerId := request.workerId
    sessionId := request.sessionId
    leaseUntilEpochMs := request.leaseUntilEpochMs
    assignmentTokenDigest := request.assignmentTokenDigest }

def claimBatch (record : RemoteTaskRecord) (request : RemoteTaskClaimRequest) : RemoteBatch δ :=
  let key := remoteTaskStorageKey request.tenantId request.taskId
  let claimed := claimedTask record request
  { commandId := request.assignmentId
    idempotencyScope := ⟨"claim", key, claimed.leaseVersion⟩
    preconditions := [.taskDigest key (storage.valueDigest record), .readyPresent ⟨record.availableAtEpochMs, key⟩,
      .leaseMissing ⟨claimed.leaseUntilEpochMs, key⟩]
    mutations := [.putTask key claimed, .deleteReady ⟨record.availableAtEpochMs, key⟩,
      .putLease ⟨claimed.leaseUntilEpochMs, key⟩] }

def prepareRemoteTaskClaim (request : RemoteTaskClaimRequest) : Except RemoteTaskError (Option (RemoteBatch δ)) := do
  validateRemoteClaimRequest request
  let key := remoteTaskStorageKey request.tenantId request.taskId
  match db.tasks[key]? with
  | none => return none
  | some record =>
    if record.status ≠ .ready ∨ record.availableAtEpochMs > request.nowEpochMs then return none
    else
      ensure (db.ready.contains ⟨record.availableAtEpochMs, key⟩) (.store "remote ready task has no ready index")
      ensure (decide (record.attempts + 1 ≤ u32Max)) .invalidRequest
      ensure (decide (record.leaseVersion + 1 ≤ u64Max)) .invalidRequest
      return some (claimBatch storage record request)

inductive Ending
  | complete
  | retry (retryAt : Nat)
  | deadLetter

def Ending.operation : Ending → String
  | .complete => "complete"
  | .retry _ => "retry"
  | .deadLetter => "dead-letter"

def endedTask (record : RemoteTaskRecord) : Ending → RemoteTaskRecord
  | .complete => { record with status := .completed, leaseUntilEpochMs := 0 }
  | .retry retryAt => { record with availableAtEpochMs := retryAt, status := .ready, leaseUntilEpochMs := 0 }
  | .deadLetter => { record with status := .deadLettered, leaseUntilEpochMs := 0 }

def Ending.readyEntry (key : StorageKey) : Ending → List (DueKey StorageKey)
  | .retry retryAt => [⟨retryAt, key⟩]
  | _ => []

def endingBatch (record : RemoteTaskRecord) (claim : RemoteTaskClaim) (ending : Ending) : RemoteBatch δ :=
  let key := remoteTaskStorageKey claim.task.tenantId claim.task.taskId
  { commandId := "remote-" ++ ending.operation ++ ":" ++ claim.assignmentId ++ ":" ++ toString claim.leaseVersion
    idempotencyScope := ⟨ending.operation, key, claim.leaseVersion⟩
    preconditions := [.taskDigest key (storage.valueDigest record), .leasePresent ⟨record.leaseUntilEpochMs, key⟩] ++
      (ending.readyEntry key).map .readyMissing
    mutations := [.putTask key (endedTask record ending), .deleteLease ⟨record.leaseUntilEpochMs, key⟩] ++
      (ending.readyEntry key).map .putReady }

def prepareRemoteTaskTerminalMutation (claim : RemoteTaskClaim) (ending : Ending) :
    Except RemoteTaskError (RemoteBatch δ) := do
  let key := remoteTaskStorageKey claim.task.tenantId claim.task.taskId
  let record ← okOr .notFound db.tasks[key]?
  validateRemoteLease record claim
  ensure (db.lease.contains ⟨record.leaseUntilEpochMs, key⟩) (.store "remote lease index is missing")
  return endingBatch storage record claim ending

def prepareRemoteTaskComplete (claim : RemoteTaskClaim) : Except RemoteTaskError (RemoteBatch δ) :=
  db.prepareRemoteTaskTerminalMutation storage claim .complete

def prepareRemoteTaskFailure (claim : RemoteTaskClaim) (retryAt : Nat) (deadLetter : Bool) :
    Except RemoteTaskError (RemoteBatch δ) := do
  ensure (deadLetter || decide (claim.task.activatedAtEpochMs < retryAt)) .invalidRequest
  db.prepareRemoteTaskTerminalMutation storage claim (if deadLetter then .deadLetter else .retry retryAt)

def expiredRemoteTaskClaims (now limit : Nat) : Except RemoteTaskError (List RemoteTaskClaim) := do
  ensure (limit != 0) .invalidRequest
  db.dueLoop "lease" .leased RemoteTaskRecord.leaseUntilEpochMs remoteClaimFromRecord now limit db.lease.toList

end RemoteDb

end BpmpPlatform
