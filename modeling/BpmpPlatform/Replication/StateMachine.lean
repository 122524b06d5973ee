import BpmpPlatform.Replication.Storage

/-! # The replicated state machine

A blank entry and a change of membership only move the position; a normal entry carries a batch for the storage.
-/
namespace BpmpPlatform.Replication
open Std Outcome

inductive EntryPayload (K V M : Type)
  | blank
  | normal (batch : PreparedAtomicBatch K V)
  | membership (membership : M)

structure Entry (K V M : Type) where
  logId : LogId
  payload : EntryPayload K V M

structure AuthoritativeStateMachine (S M : Type) where
  storage : S
  limits : StateMachineLimits
  lastApplied : Option LogId
  membership : StoredMembership M

structure SnapshotMeta (M : Type) where
  lastLogId : Option LogId
  lastMembership : StoredMembership M

structure PersistedSnapshot (M Snapshot : Type) where
  metadata : StateMachineMetadata M
  applicationState : Snapshot

section
variable {K V M S Snapshot : Type} (format : ByteFormat K V) (port : AtomicStateStorage K V M S Snapshot)

def positionApplied : ApplyResponse V := ⟨"", Vector.replicate 32 0, .applied, format.noBytes⟩

/-- The body of the loop of `RaftStateMachine::apply`. -/
def AuthoritativeStateMachine.applyEntry (machine : AuthoritativeStateMachine S M) (entry : Entry K V M) :
    Except AtomicStorageError (ApplyResponse V × AuthoritativeStateMachine S M) := do
  let metadata : StateMachineMetadata M := ⟨some entry.logId, machine.membership⟩
  match entry.payload with
  | .blank =>
    let storage ← port.persistMetadata metadata machine.storage
    return (positionApplied format, { machine with
      storage := storage
      lastApplied := metadata.lastApplied })
  | .normal batch =>
    let (response, storage) ← port.apply batch machine.limits metadata machine.storage
    return (response, { machine with
      storage := storage
      lastApplied := metadata.lastApplied })
  | .membership membership =>
    let metadata := { metadata with membership := ⟨some entry.logId, membership⟩ }
    let storage ← port.persistMetadata metadata machine.storage
    return (positionApplied format, { machine with
      storage := storage
      lastApplied := metadata.lastApplied
      membership := metadata.membership })

/-- The result of an entry and the machine after it; one that fails leaves the machine as it is. -/
def AuthoritativeStateMachine.step (machine : AuthoritativeStateMachine S M) (entry : Entry K V M) :
    Except AtomicStorageError (ApplyResponse V) × AuthoritativeStateMachine S M :=
  match machine.applyEntry format port entry with
  | .ok (response, machine') => (.ok response, machine')
  | .error error => (.error error, machine)

def AuthoritativeStateMachine.applyLog (machine : AuthoritativeStateMachine S M) :
    List (Entry K V M) → List (Except AtomicStorageError (ApplyResponse V)) × AuthoritativeStateMachine S M
  | [] => ([], machine)
  | entry :: entries =>
    let (result, machine) := machine.step format port entry
    let (results, machine) := machine.applyLog entries
    (result :: results, machine)

variable (files : SizedFormat (PersistedSnapshot M Snapshot)) [DecidableEq M]

/-- `RaftSnapshotBuilder::build_snapshot`. -/
def AuthoritativeStateMachine.buildSnapshot (machine : AuthoritativeStateMachine S M) :
    Except AtomicStorageError (SnapshotMeta M × files.Bytes) := do
  let (applicationState, metadata) ← port.exportSnapshotWithMetadata machine.storage
  let file := files.encode ⟨metadata, applicationState⟩
  ensure (decide (files.size file ≤ machine.limits.maxSnapshotBytes)) ⟨"Raft snapshot byte budget exceeded"⟩
  return (⟨metadata.lastApplied, metadata.membership⟩, file)

/-- The file written on the receiving side, up to the budget of its limits. -/
def AuthoritativeStateMachine.receiveSnapshot (machine : AuthoritativeStateMachine S M) (file : files.Bytes) :
    Except AtomicStorageError files.Bytes := do
  ensure (decide (files.size file ≤ machine.limits.maxSnapshotBytes)) ⟨"Raft snapshot byte budget exceeded"⟩
  return file

/-- `RaftStateMachine::install_snapshot`. -/
def AuthoritativeStateMachine.installSnapshot (machine : AuthoritativeStateMachine S M) (expected : SnapshotMeta M)
    (file : files.Bytes) : Except AtomicStorageError (AuthoritativeStateMachine S M) := do
  let persisted ← (files.decode file).mapError AtomicStorageError.mk
  ensure (decide (persisted.metadata.lastApplied = expected.lastLogId) &&
    decide (persisted.metadata.membership = expected.lastMembership)) ⟨"snapshot metadata mismatch"⟩
  let storage ← port.installSnapshot persisted.applicationState persisted.metadata machine.storage
  return { machine with
    storage := storage
    lastApplied := persisted.metadata.lastApplied
    membership := persisted.metadata.membership }

end

section Run
variable {K V M S Snapshot : Type} {format : ByteFormat K V} {port : AtomicStateStorage K V M S Snapshot}
  {machine : AuthoritativeStateMachine S M}

theorem applyLog_cons (machine : AuthoritativeStateMachine S M) (entry : Entry K V M) (entries : List (Entry K V M)) :
    machine.applyLog format port (entry :: entries) =
      ((machine.step format port entry).1 :: ((machine.step format port entry).2.applyLog format port entries).1,
        ((machine.step format port entry).2.applyLog format port entries).2) := rfl

theorem applyLog_append (machine : AuthoritativeStateMachine S M) (before after : List (Entry K V M)) :
    machine.applyLog format port (before ++ after) =
      ((machine.applyLog format port before).1 ++ ((machine.applyLog format port before).2.applyLog format port after).1,
        ((machine.applyLog format port before).2.applyLog format port after).2) := by
  induction before generalizing machine with
  | nil => rfl
  | cons entry before ih => rw [List.cons_append, applyLog_cons, applyLog_cons, ih]; rfl

/-- An entry fails and changes nothing, or moves the position, or has its batch applied. -/
theorem step_cases (format : ByteFormat K V) (port : AtomicStateStorage K V M S Snapshot)
    (machine : AuthoritativeStateMachine S M) (entry : Entry K V M) :
    (∃ error, machine.step format port entry = (.error error, machine)) ∨
    (∃ metadata storage, (∀ batch, entry.payload ≠ .normal batch) ∧
      port.persistMetadata metadata machine.storage = .ok storage ∧
      machine.step format port entry = (.ok (positionApplied format),
        ⟨storage, machine.limits, metadata.lastApplied, metadata.membership⟩)) ∨
    ∃ batch response storage, entry.payload = .normal batch ∧
      port.apply batch machine.limits ⟨some entry.logId, machine.membership⟩ machine.storage = .ok (response, storage) ∧
      machine.step format port entry = (.ok response, ⟨storage, machine.limits, some entry.logId, machine.membership⟩) := by
  unfold AuthoritativeStateMachine.step
  cases he : machine.applyEntry format port entry with
  | error error => exact .inl ⟨error,rfl⟩
  | ok =>
    right
    unfold AuthoritativeStateMachine.applyEntry at he
    cases hp : entry.payload with
    | blank =>
      simp only [hp, bind_eq_ok] at he
      obtain ⟨storage,hper,⟨⟩⟩ := he
      exact .inl ⟨⟨some entry.logId,machine.membership⟩,storage,fun _ h => (by cases h),hper,rfl⟩
    | normal batch =>
      simp only [hp, bind_eq_ok] at he
      obtain ⟨⟨response,storage⟩,hap,⟨⟩⟩ := he
      exact .inr ⟨batch,response,storage,rfl,hap,rfl⟩
    | membership membership =>
      simp only [hp, bind_eq_ok] at he
      obtain ⟨storage,hper,⟨⟩⟩ := he
      exact .inl ⟨⟨some entry.logId,some entry.logId,membership⟩,storage,fun _ h => (by cases h),hper,rfl⟩

theorem step_limits (machine : AuthoritativeStateMachine S M) (entry : Entry K V M) :
    (machine.step format port entry).2.limits = machine.limits := by
  rcases step_cases format port machine entry with ⟨_,h⟩ | ⟨_,_,_,_,h⟩ | ⟨_,_,_,_,_,h⟩
  · rw [h]
  · rw [h]
  · rw [h]

end Run

end BpmpPlatform.Replication
