import BpmpPlatform.Replication.StateMachine

/-! # History is immutable under replication

What one batch can do is said once for any storage. Append-only records and the scopes of applied batches are kept
along every log.
-/
namespace BpmpPlatform.Replication
open Std Outcome List

section Laws
variable {K V M S Snapshot : Type} [DecidableEq K]

def bookkeepingFamilies : List String := [raftAppliedCommandsCf, raftStateMetaCf, raftLogCf, raftMetaCf]

def PreparedAtomicBatch.SparesBookkeeping (batch : PreparedAtomicBatch K V) : Prop :=
  ∀ mutation ∈ batch.mutations, mutation.address.columnFamily ∉ bookkeepingFamilies

def Entry.SparesBookkeeping (entry : Entry K V M) : Prop :=
  ∀ batch, entry.payload = .normal batch → batch.SparesBookkeeping

structure Kept (contents : S → StorageKey K → Option V) (taken : S → K → Bool) (s s' : S) : Prop where
  records : ∀ key : StorageKey K, key.columnFamily ≠ raftStateMetaCf → contents s' key = contents s key
  scopes : taken s' = taken s

structure AppliedTo (format : ByteFormat K V) (contents : S → StorageKey K → Option V) (taken : S → K → Bool)
    (batch : PreparedAtomicBatch K V) (limits : StateMachineLimits) (s s' : S) : Prop where
  valid : batch.validate format limits = .ok ()
  fresh : taken s batch.idempotencyScope = false
  missing : ∀ key : StorageKey K, ⟨key, .missing⟩ ∈ batch.preconditions → contents s key = none
  frame : ∀ (key : StorageKey K) (value : V), key.columnFamily ≠ raftStateMetaCf →
    (∀ mutation ∈ batch.mutations, mutation.address ≠ key) → contents s key = some value → contents s' key = some value
  scopes : ∀ scope, taken s' scope = (taken s scope || scope == batch.idempotencyScope)

/-- What a storage does with its records and the used scopes. -/
structure AppliesAtomically (format : ByteFormat K V) (port : AtomicStateStorage K V M S Snapshot)
    (contents : S → StorageKey K → Option V) (taken : S → K → Bool) : Prop where
  persist : ∀ {metadata s s'}, port.persistMetadata metadata s = .ok s' → Kept contents taken s s'
  apply : ∀ {batch limits metadata s response s'}, batch.SparesBookkeeping →
    port.apply batch limits metadata s = .ok (response, s') →
    (response.outcome ≠ .applied ∧ Kept contents taken s s') ∨
      (response.outcome = .applied ∧ AppliedTo format contents taken batch limits s s')

end Laws

theorem appliedCommands_ne_stateMeta : raftAppliedCommandsCf ≠ raftStateMetaCf := by decide

theorem appliedCommands_mem_bookkeeping : raftAppliedCommandsCf ∈ bookkeepingFamilies := by decide

section Conditions
variable {K V M : Type} [Ord K] [TransOrd K] {conditions : List (Precondition K)}
  {records : ExtTreeMap (StorageKey K) V} {index : Nat} {format : ByteFormat K V}

theorem firstUnsatisfied_eq_none_iff : firstUnsatisfied format records index conditions = none ↔
      ∀ condition ∈ conditions, satisfied format records condition = true := by
  induction conditions generalizing index with
  | nil => simp [firstUnsatisfied]
  | cons condition conditions ih =>
    rw [firstUnsatisfied, forall_mem_cons]
    split
    · rename_i hsa
      rw [ih]
      exact ⟨fun h => ⟨hsa,h⟩,fun h => h.2⟩
    · rename_i hun
      exact ⟨nofun,fun h => absurd h.1 hun⟩

theorem missing_of_firstUnsatisfied (h : firstUnsatisfied format records index conditions = none) {key : StorageKey K}
    (hin : ⟨key, .missing⟩ ∈ conditions) : records[key]? = none := by
  have hsa := firstUnsatisfied_eq_none_iff.mp h _ hin
  unfold satisfied at hsa
  cases hr : records[key]? with
  | none => rfl
  | some => simp [hr] at hsa

/-- The loop that looks the column families up finds what the plain loop finds. -/
theorem rocks_firstUnsatisfied {format : RocksFormat K V M} {state : RocksState K V} {found : Option Nat}
    (h : state.firstUnsatisfied format index conditions = .ok found) :
    firstUnsatisfied format.toByteFormat state.db index conditions = found := by
  induction conditions generalizing index with
  | nil =>
    injection h
  | cons condition conditions ih =>
    simp only [RocksState.firstUnsatisfied, bind_eq_ok] at h
    obtain ⟨_,_,h⟩ := h
    unfold firstUnsatisfied
    split at h
    · rename_i hsa
      rw [if_pos hsa]
      exact ih h
    · rename_i hsa
      rw [if_neg hsa]
      injection h

end Conditions

section Storages
variable {K V M : Type} [Ord K] [TransOrd K] [LawfulEqOrd K] [DecidableEq K] {metadata : StateMachineMetadata M}
  {format : RocksFormat K V M} {state : RocksState K V}

theorem memory_applies (format : ByteFormat K V) (snapshots : MessageFormat (SerializableInMemoryState K V)) :
    AppliesAtomically (M := M) format (memoryStorage format snapshots) (fun s key => s.records[key]?)
      fun s scope => s.applied[scope]?.isSome := by
  refine ⟨fun {metadata s s'} h => ?_,fun {batch limits metadata s response s'} _ h => ?_⟩
  · injection h with h
    subst h
    exact ⟨fun _ _ => rfl,rfl⟩
  · have hr : s.apply format batch limits metadata = (response, s') := Except.ok.inj h
    rcases memory_apply_cases format batch limits metadata s with ⟨ha,hs⟩ | ⟨hva,hf,hc,hap⟩
    · rw [hr] at ha hs
      refine .inl ⟨ha.outcome_ne,?_⟩
      rw [show s' = _ from hs]
      exact ⟨fun _ _ => rfl,rfl⟩
    · obtain ⟨rfl,rfl⟩ := Prod.mk.inj (hr.symm.trans hap)
      refine .inr ⟨rfl,hva,by rw [hf]; rfl,fun key hin => missing_of_firstUnsatisfied hc hin,
        fun key value _ hnot hv => ?_,fun scope => ?_⟩
      · rw [getElem?_applyWrites_of_untouched hnot]
        exact hv
      · simp only [getElem?_insert_eq]
        by_cases heq : batch.idempotencyScope = scope
        · simp [heq]
        · simp [heq, Ne.symm heq]

theorem write_position {key : StorageKey K} (h : key.columnFamily ≠ raftStateMetaCf) :
    (state.write [putRaftStateMetadata format metadata]).db[key]? = state.db[key]? := by
  refine getElem?_applyWrites_of_untouched fun write hin heq => h ?_
  rw [mem_singleton.mp hin] at heq
  rw [← heq]
  rfl

theorem kept_write_position :
    Kept (fun (s : RocksState K V) key => s.db[key]?)
      (fun s scope => s.db[(⟨raftAppliedCommandsCf, scope⟩ : StorageKey K)]?.isSome) state
      (state.write [putRaftStateMetadata format metadata]) := by
  refine ⟨fun key hkey => write_position hkey,?_⟩
  funext scope
  rw [write_position appliedCommands_ne_stateMeta]

theorem getElem?_write_scope {batch : PreparedAtomicBatch K V} (hs : batch.SparesBookkeeping) (value : V)
    (scope : K) :
    (state.write (putRaftStateMetadata format metadata :: (batch.mutations ++
        [.put ⟨raftAppliedCommandsCf, batch.idempotencyScope⟩ value]))).db[StorageKey.mk raftAppliedCommandsCf scope]? =
      if batch.idempotencyScope = scope then some value else state.db[StorageKey.mk raftAppliedCommandsCf scope]? := by
  have hu : (applyWrites state.db (putRaftStateMetadata format metadata :: batch.mutations))[
      StorageKey.mk raftAppliedCommandsCf scope]? = state.db[StorageKey.mk raftAppliedCommandsCf scope]? := by
    refine getElem?_applyWrites_of_untouched fun write hin had => ?_
    rcases mem_cons.mp hin with rfl | hin
    · exact appliedCommands_ne_stateMeta (congrArg StorageKey.columnFamily had).symm
    · exact hs write hin (had ▸ appliedCommands_mem_bookkeeping)
  refine (getElem?_applyWrites_concat (putRaftStateMetadata format metadata :: batch.mutations) _).trans ?_
  rw [hu]
  simp [Write.address, Write.result]

theorem rocks_applies [Inhabited M] (format : RocksFormat K V M) (snapshots : SizedFormat (RocksStateSnapshot K V)) :
    AppliesAtomically format.toByteFormat (rocksStorage format snapshots) (fun s key => s.db[key]?)
      fun s scope => s.db[StorageKey.mk raftAppliedCommandsCf scope]?.isSome := by
  refine ⟨fun {metadata s s'} h => ?_,fun {batch limits metadata s response s'} hs h => ?_⟩
  · injection h with h
    subst h
    exact kept_write_position
  · rcases rocks_apply_cases h with ⟨ha,rfl⟩ | ⟨hva,hf,hc,rfl,rfl⟩
    · exact .inl ⟨ha.outcome_ne,kept_write_position⟩
    · have hpl := rocks_firstUnsatisfied hc
      refine .inr ⟨rfl,hva,by rw [hf]; rfl,fun key hin => missing_of_firstUnsatisfied hpl hin,
        fun key value hkey hnot hv => ?_,fun scope => ?_⟩
      · rw [← hv]
        refine getElem?_applyWrites_of_untouched fun write hin heq => ?_
        rcases mem_cons.mp hin with rfl | hin
        · exact hkey (by rw [← heq]; rfl)
        · rcases mem_append.mp hin with hin | hin
          · exact hnot write hin heq
          · rw [mem_singleton.mp hin] at heq
            rw [← heq] at hv
            exact nomatch hf.symm.trans hv
      · rw [getElem?_write_scope hs]
        by_cases heq : batch.idempotencyScope = scope
        · simp [heq]
        · simp [heq, Ne.symm heq]

end Storages

section Runs
variable {K V M S Snapshot : Type} [DecidableEq K] {format : ByteFormat K V} {port : AtomicStateStorage K V M S Snapshot}
  {contents : S → StorageKey K → Option V} {taken : S → K → Bool}

def appliesScope (scope : K) (step : Entry K V M × Except AtomicStorageError (ApplyResponse V)) : Bool :=
  match step.1.payload, step.2 with
  | .normal batch, .ok response => batch.idempotencyScope == scope && response.outcome == .applied
  | _, _ => false

variable {machine : AuthoritativeStateMachine S M} {entry : Entry K V M}

section
variable (laws : AppliesAtomically format port contents taken) {key : StorageKey K} {value : V}
  {entries : List (Entry K V M)}
include laws

/-- An entry changes nothing but the position, or its batch is applied. -/
theorem AppliesAtomically.step_spec (machine : AuthoritativeStateMachine S M) (hs : entry.SparesBookkeeping) :
    (Kept contents taken machine.storage (machine.step format port entry).2.storage ∧
      ∀ scope, appliesScope scope (entry, (machine.step format port entry).1) = false) ∨
    ∃ batch response, entry.payload = .normal batch ∧ (machine.step format port entry).1 = .ok response ∧
      response.outcome = .applied ∧
      AppliedTo format contents taken batch machine.limits machine.storage (machine.step format port entry).2.storage := by
  rcases step_cases format port machine entry with ⟨error,hst⟩ | ⟨metadata,storage,hp,hper,hst⟩ |
    ⟨batch,response,storage,hp,ha,hst⟩
  · rw [hst]
    exact .inl ⟨⟨fun _ _ => rfl,rfl⟩,fun _ => by simp [appliesScope]⟩
  · rw [hst]
    refine .inl ⟨laws.persist hper,fun scope => ?_⟩
    unfold appliesScope
    split
    · rename_i batch _ heq _
      exact absurd heq (hp batch)
    · rfl
  · rw [hst]
    rcases laws.apply (hs batch hp) ha with ⟨ho,hk⟩ | ⟨ho,hap⟩
    · exact .inl ⟨hk,fun scope => by simp [appliesScope, hp, ho]⟩
    · exact .inr ⟨batch,response,hp,rfl,ho,hap⟩

theorem AppliesAtomically.step_appendOnly (hs : entry.SparesBookkeeping)
    (hf : machine.limits.appendOnlyColumnFamilies.contains key.columnFamily = true)
    (hkey : key.columnFamily ≠ raftStateMetaCf) (hv : contents machine.storage key = some value) :
    contents (machine.step format port entry).2.storage key = some value := by
  rcases laws.step_spec machine hs with ⟨hk,_⟩ | ⟨_,_,_,_,_,hap⟩
  · rw [hk.records key hkey]
    exact hv
  · refine hap.frame key value hkey (fun mutation hin heq => ?_) hv
    -- A mutation of the key would need the condition that it is missing.
    subst heq
    have hm := validate_spec hap.valid mutation hin hf
    rw [hap.missing _ hm] at hv
    cases hv

theorem AppliesAtomically.applyLog_appendOnly (hs : ∀ entry ∈ entries, entry.SparesBookkeeping)
    (hf : machine.limits.appendOnlyColumnFamilies.contains key.columnFamily = true)
    (hkey : key.columnFamily ≠ raftStateMetaCf) (hv : contents machine.storage key = some value) :
    contents (machine.applyLog format port entries).2.storage key = some value := by
  induction entries generalizing machine with
  | nil => exact hv
  | cons entry entries ih =>
    rw [forall_mem_cons] at hs
    rw [applyLog_cons]
    refine ih hs.2 ?_ (laws.step_appendOnly hs.1 hf hkey hv)
    rw [step_limits]
    exact hf

/-- A used scope stays used, and only an unused one is applied. -/
theorem AppliesAtomically.step_taken
    (machine : AuthoritativeStateMachine S M) (hs : entry.SparesBookkeeping) (scope : K) :
    taken (machine.step format port entry).2.storage scope =
        (taken machine.storage scope || appliesScope scope (entry, (machine.step format port entry).1)) ∧
      (appliesScope scope (entry, (machine.step format port entry).1) = true → taken machine.storage scope = false) := by
  rcases laws.step_spec machine hs with ⟨hk,hnot⟩ | ⟨batch,response,hp,hr,ho,hap⟩
  · rw [hk.scopes, hnot]
    exact ⟨by simp,nofun⟩
  · have happ : appliesScope scope (entry, (machine.step format port entry).1) = (scope == batch.idempotencyScope) := by
      simp [appliesScope, hp, hr, ho, Bool.beq_comm (a := scope)]
    rw [hap.scopes, happ]
    refine ⟨rfl,fun h => ?_⟩
    rw [beq_iff_eq.mp h]
    exact hap.fresh

/-- In a log at most one batch of a scope is applied, and none if the scope was used before. -/
theorem AppliesAtomically.countP_applied (hs : ∀ entry ∈ entries, entry.SparesBookkeeping) (scope : K) :
    (entries.zip (machine.applyLog format port entries).1).countP (appliesScope scope) ≤
      if taken machine.storage scope then 0 else 1 := by
  induction entries generalizing machine with
  | nil => simp
  | cons entry entries ih =>
    rw [forall_mem_cons] at hs
    obtain ⟨ht,hf⟩ := laws.step_taken machine hs.1 scope
    have hr : (entries.zip ((machine.step format port entry).2.applyLog format port entries).1).countP
        (appliesScope scope) ≤ if taken (machine.step format port entry).2.storage scope then 0 else 1 := ih hs.2
    rw [applyLog_cons, zip_cons_cons, countP_cons]
    cases hap : appliesScope scope (entry, (machine.step format port entry).1) with
    | false =>
      rw [ht, hap, Bool.or_false] at hr
      simpa using hr
    | true =>
      rw [ht, hap, Bool.or_true] at hr
      rw [hf hap]
      simpa using hr

end

end Runs

section Adapters
variable {K V M : Type} [Ord K] [TransOrd K] [LawfulEqOrd K] [DecidableEq K] [Inhabited M] (format : RocksFormat K V M)
  (memorySnapshots : MessageFormat (SerializableInMemoryState K V)) (rocksSnapshots : SizedFormat (RocksStateSnapshot K V))

theorem StorageAdapter.applies (adapter : StorageAdapter) :
    AppliesAtomically format.toByteFormat (adapter.port memorySnapshots rocksSnapshots format)
      adapter.contents adapter.taken := by
  cases adapter with
  | memory => exact memory_applies format.toByteFormat memorySnapshots
  | rocks => exact rocks_applies format rocksSnapshots

/-- Along every log whose batches spare the bookkeeping, with either storage and from any state: append-only records
stay as they are, of the batches of one scope at most one is applied, and an entry whose batch is not applied leaves
everything but the position as it was. -/
theorem history_immutable (adapter : StorageAdapter) (machine : AuthoritativeStateMachine (adapter.State K V M) M)
    (entries : List (Entry K V M)) (hspares : ∀ entry ∈ entries, entry.SparesBookkeeping) :
    (∀ (key : StorageKey K) (value : V), machine.limits.appendOnlyColumnFamilies.contains key.columnFamily = true →
      key.columnFamily ≠ raftStateMetaCf → adapter.contents machine.storage key = some value →
      adapter.contents (machine.applyLog format.toByteFormat (adapter.port memorySnapshots rocksSnapshots format)
        entries).2.storage key = some value) ∧
    (∀ scope, (entries.zip (machine.applyLog format.toByteFormat (adapter.port memorySnapshots rocksSnapshots format)
      entries).1).countP (appliesScope scope) ≤ 1) ∧ ∀ before entry after, entries = before ++ entry :: after →
      let reached := (machine.applyLog format.toByteFormat (adapter.port memorySnapshots rocksSnapshots format) before).2
      let step := reached.step format.toByteFormat (adapter.port memorySnapshots rocksSnapshots format) entry
      (∀ response, step.1 = .ok response → response.outcome ≠ .applied) →
      Kept adapter.contents adapter.taken reached.storage step.2.storage := by
  have laws := adapter.applies format memorySnapshots rocksSnapshots
  refine ⟨fun key value hf hkey hv => laws.applyLog_appendOnly hspares hf hkey hv,fun scope => ?_,?_⟩
  · refine Nat.le_trans (laws.countP_applied hspares scope) ?_
    split
    · exact Nat.zero_le _
    · exact Nat.le_refl _
  · rintro before entry after rfl _ _ h
    rcases laws.step_spec _ (hspares entry (by simp)) with ⟨hk,_⟩ | ⟨_,response,_,hr,ho,_⟩
    · exact hk
    · exact absurd ho (h response hr)

end Adapters

namespace Sample

inductive Stored
  | text (value : String)
  | response (commandId : String) (batchDigest : ValueDigest) (outcome : ApplyOutcome) (payload : Stored)
  | metadata (metadata : StateMachineMetadata Nat)
  deriving DecidableEq

def format : RocksFormat String Stored Nat where
  keyBytes := Encoding.utf8
  valueBytes _ := []
  noBytes := .text ""
  sha256 _ := Vector.replicate 32 0
  serializedSize _ := some 100
  metadataKey := "metadata"
  encodeResponse response := .response response.commandId response.batchDigest response.outcome response.responsePayload
  decodeResponse
    | .response commandId batchDigest outcome payload => .ok ⟨commandId, batchDigest, outcome, payload⟩
    | _ => .error "not a response"
  decode_encodeResponse _ := rfl
  encodeMetadata := .metadata
  decodeMetadata
    | .metadata metadata => .ok metadata
    | _ => .error "not a position"
  decode_encodeMetadata _ := rfl

def memorySnapshots : MessageFormat (SerializableInMemoryState String Stored) := .plain _

def rocksSnapshots : SizedFormat (RocksStateSnapshot String Stored) :=
  { MessageFormat.plain (RocksStateSnapshot String Stored) with size := fun _ => 0 }

def limits (maxMutations : Nat) : StateMachineLimits where
  maxConditions := 8
  maxMutations := maxMutations
  maxBatchBytes := 4096
  maxSnapshotBytes := 4096
  snapshotDirectory := "/snapshots"
  appendOnlyColumnFamilies := ExtTreeSet.ofList ["events"]

def putBatch (scope family key value : String) : PreparedAtomicBatch String Stored :=
  .new format.toByteFormat scope scope [⟨⟨family, key⟩, .missing⟩] [.put ⟨family, key⟩ (.text value)] (.text scope)

def logEntry (index : Nat) (batch : PreparedAtomicBatch String Stored) : Entry String Stored Nat :=
  ⟨⟨1, 1, index⟩, .normal batch⟩

def eventMachine : AuthoritativeStateMachine (RocksState String Stored) Nat where
  storage := ⟨(∅ : ExtTreeMap (StorageKey String) Stored).insert ⟨"events", "1"⟩ (.text "first"), 4096⟩
  limits := limits 8
  lastApplied := none
  membership := ⟨none, 0⟩

end Sample

open BpmpPlatform.Replication.Sample

/-- A second batch for the same event does not change it. -/
theorem history_immutable_event :
    StorageAdapter.rocks.contents (M := Nat) (eventMachine.applyLog format.toByteFormat
      (StorageAdapter.rocks.port memorySnapshots rocksSnapshots format)
      [logEntry 1 (putBatch "again" "events" "1" "second")]).2.storage ⟨"events", "1"⟩ =
      some (Stored.text "first") := by
  refine (history_immutable format memorySnapshots rocksSnapshots .rocks eventMachine
    [logEntry 1 (putBatch "again" "events" "1" "second")] (forall_mem_singleton.mpr ?_)).1 ⟨"events", "1"⟩
      (.text "first") (by decide) (by decide) (by decide)
  rintro _ ⟨⟩
  exact forall_mem_singleton.mpr (by decide)

end BpmpPlatform.Replication
