import BpmpPlatform.Engine.RemoteQueue

/-! # The queue of remote tasks over whole runs

Batches are prepared at any time and applied at any later time, in any order and as often as one likes.
-/
namespace BpmpPlatform
open Std Outcome Storage RemoteDb RemoteTaskRecord List

inductive RemoteOperation
  | enqueue (task : RemoteTask)
  | claim (request : RemoteTaskClaimRequest)
  | complete (claim : RemoteTaskClaim)
  | fail (claim : RemoteTaskClaim) (retryAt : Nat) (deadLetter : Bool)
  deriving DecidableEq

namespace RemoteOperation

def key : RemoteOperation → StorageKey
  | .enqueue task => remoteTaskStorageKey task.tenantId task.taskId
  | .claim request => remoteTaskStorageKey request.tenantId request.taskId
  | .complete held | .fail held _ _ => remoteTaskStorageKey held.task.tenantId held.task.taskId

def ending : RemoteOperation → Option (RemoteTaskClaim × Ending)
  | .complete held => some (held, .complete)
  | .fail held retryAt deadLetter => some (held, if deadLetter then .deadLetter else .retry retryAt)
  | _ => none

def endedLease (operation : RemoteOperation) : Option (StorageKey × Nat) :=
  operation.ending.map fun entry => (operation.key, entry.1.leaseVersion)

end RemoteOperation

variable {claim : RemoteTaskClaim} {ending : Ending}

theorem RemoteOperation.key_of_ending (operation : RemoteOperation) (h : operation.ending = some (claim, ending)) :
    operation.key = remoteTaskStorageKey claim.task.tenantId claim.task.taskId := by
  cases operation <;> cases h <;> rfl

def RemoteOperation.next (operation : RemoteOperation) (base : Option RemoteTaskRecord) : Option RemoteTaskRecord :=
  match operation, base with
  | .enqueue task, _ => some (remoteTaskRecord task)
  | .claim request, some record => some (claimedTask record request)
  | operation, some record => operation.ending.map fun entry => endedTask record entry.2
  | _, none => none

theorem RemoteOperation.next_of_ending (operation : RemoteOperation) (h : operation.ending = some (claim, ending))
    (record : RemoteTaskRecord) : operation.next (some record) = some (endedTask record ending) := by
  cases operation <;> cases h <;> rfl

variable {record : RemoteTaskRecord}

theorem validateRemoteLease_eq_ok (h : validateRemoteLease record claim = .ok ()) :
    record.status = .leased ∧ record.leaseVersion = claim.leaseVersion := by
  simp only [validateRemoteLease, ensure_eq_ok, Bool.and_eq_true, beq_iff_eq] at h
  tauto

def RemoteTaskRecord.readyDue (record : RemoteTaskRecord) : Option Nat :=
  if record.status = .ready then some record.availableAtEpochMs else none

def RemoteTaskRecord.leaseDue (record : RemoteTaskRecord) : Option Nat :=
  if record.status = .leased then some record.leaseUntilEpochMs else none

variable {δ : Type}

structure PreparedOperation (δ : Type) where
  operation : RemoteOperation
  base : Option RemoteTaskRecord
  batch : RemoteBatch δ
  deriving DecidableEq

def PreparedOperation.records (p : PreparedOperation δ) : List RemoteTaskRecord :=
  p.base.toList ++ (p.operation.next p.base).toList

section Runs
variable (storage : RemoteStorage δ)

/-- No two records that the operations find or write have one digest. -/
def DigestsDiffer (prepared : List (PreparedOperation δ)) : Prop :=
  ∀ p ∈ prepared, ∀ q ∈ prepared, ∀ record ∈ p.records, ∀ record' ∈ q.records,
    storage.valueDigest record = storage.valueDigest record' → record = record'

def RemoteDb.prepare (db : RemoteDb δ) : RemoteOperation → Except RemoteTaskError (Option (RemoteBatch δ))
  | .enqueue task => db.prepareRemoteTaskEnqueue task
  | .claim request => db.prepareRemoteTaskClaim storage request
  | .complete claim => some <$> db.prepareRemoteTaskComplete storage claim
  | .fail claim retryAt deadLetter => some <$> db.prepareRemoteTaskFailure storage claim retryAt deadLetter

/-- What has been prepared, what has been applied in this order, and the queue; the limits may change. -/
inductive QueueRun [DecidableEq δ] : List (PreparedOperation δ) → List (PreparedOperation δ) → RemoteDb δ → Prop
  | start : QueueRun [] [] {}
  | prepare {prepared applied db batch} (operation : RemoteOperation) (h : QueueRun prepared applied db)
      (hb : db.prepare storage operation = .ok (some batch)) :
      QueueRun (prepared ++ [⟨operation, db.tasks[operation.key]?, batch⟩]) applied db
  | apply {prepared applied db db' outcome} (validate : RemoteBatch δ → Except String Unit) (p : PreparedOperation δ)
      (h : QueueRun prepared applied db) (hp : p ∈ prepared)
      (ha : db.apply { storage with validate := validate } p.batch = (outcome, db')) :
      QueueRun prepared (if outcome = .applied then applied ++ [p] else applied) db'

/-- How the batch of an operation is built from the record it finds. -/
inductive PreparedFor : RemoteOperation → Option RemoteTaskRecord → RemoteBatch δ → Prop
  | enqueue {task} (hvalid : validateRemoteTask task = .ok ()) : PreparedFor (.enqueue task) none (enqueueBatch task)
  | claim {request record} (hvalid : validateRemoteClaimRequest request = .ok ()) (hready : record.status = .ready) :
      PreparedFor (.claim request) (some record) (claimBatch storage record request)
  | ending {operation claim record ending} (hending : operation.ending = some (claim, ending))
      (hlease : validateRemoteLease record claim = .ok ()) :
      PreparedFor operation (some record) (endingBatch storage record claim ending)

end Runs

variable {operation : RemoteOperation} {base : Option RemoteTaskRecord}
  {validate : RemoteBatch δ → Except String Unit}

section Prepared
variable {storage : RemoteStorage δ} {db db' : RemoteDb δ} {batch : RemoteBatch δ}

theorem prepareTerminal_spec (he : operation.ending = some (claim, ending))
    (h : db.prepareRemoteTaskTerminalMutation storage claim ending = .ok batch) :
    PreparedFor storage operation db.tasks[operation.key]? batch := by
  simp only [prepareRemoteTaskTerminalMutation, bind_eq_ok, okOr_eq_ok, ensure_eq_ok] at h
  obtain ⟨record,hr,_,hl,_,_,⟨⟩⟩ := h
  rw [operation.key_of_ending he, hr]
  exact .ending he hl

theorem prepare_spec (h : db.prepare storage operation = .ok (some batch)) :
    PreparedFor storage operation db.tasks[operation.key]? batch := by
  cases operation with
  | enqueue task =>
    simp only [RemoteDb.prepare, prepareRemoteTaskEnqueue, bind_eq_ok] at h
    obtain ⟨_,hva,h⟩ := h
    cases hget : db.tasks[remoteTaskStorageKey task.tenantId task.taskId]? with
    | some =>
      simp only [hget, bind_eq_ok] at h
      obtain ⟨_,_,h⟩ := h
      split at h
      · cases h
      · cases h
    | none =>
      simp only [hget] at h
      cases h
      simp only [RemoteOperation.key, hget]
      exact .enqueue hva
  | claim request =>
    simp only [RemoteDb.prepare, prepareRemoteTaskClaim, bind_eq_ok] at h
    obtain ⟨_,hva,h⟩ := h
    cases hget : db.tasks[remoteTaskStorageKey request.tenantId request.taskId]? with
    | none => simp only [hget] at h; cases h
    | some record =>
      simp only [hget] at h
      split at h
      · cases h
      · rename_i hr
        simp only [bind_eq_ok] at h
        obtain ⟨_,_,_,_,_,_,⟨⟩⟩ := h
        simp only [RemoteOperation.key, hget]
        have hs : record.status = .ready := by tauto
        exact .claim hva hs
  | complete =>
    simp only [RemoteDb.prepare, map_eq_ok, Option.some.injEq, exists_eq_right] at h
    exact prepareTerminal_spec rfl h
  | fail =>
    simp only [RemoteDb.prepare, prepareRemoteTaskFailure, map_eq_ok, Option.some.injEq, exists_eq_right,
      bind_eq_ok] at h
    obtain ⟨_,_,h⟩ := h
    exact prepareTerminal_spec rfl h

/-- A batch changes nothing, or it is applied: it has found its conditions satisfied and made its writes. -/
theorem apply_cases [DecidableEq δ] {outcome : ApplyOutcome} (h : db.apply storage batch = (outcome, db')) :
    (outcome ≠ .applied ∧ db' = db) ∨ (outcome = .applied ∧
      (∀ condition ∈ batch.preconditions, db.satisfies storage condition = true) ∧
      db'.tasks = (batch.mutations.foldl RemoteDb.write db).tasks ∧
      db'.ready = (batch.mutations.foldl RemoteDb.write db).ready ∧
      db'.lease = (batch.mutations.foldl RemoteDb.write db).lease) := by
  unfold RemoteDb.apply at h
  split at h
  · cases h; exact .inl ⟨nofun,rfl⟩
  · split at h
    · split at h
      · cases h; exact .inl ⟨nofun,rfl⟩
      · cases h; exact .inl ⟨nofun,rfl⟩
    · split at h
      · cases h; exact .inl ⟨nofun,rfl⟩
      · rename_i hn
        cases h
        refine .inr ⟨rfl,fun condition hin => ?_,rfl,rfl,rfl⟩
        simpa using List.findIdx?_eq_none_iff.mp hn condition hin

theorem satisfies_taskDigest [DecidableEq δ] {key : StorageKey}
    (hdi : ∀ record', db.tasks[key]? = some record' → storage.valueDigest record' = storage.valueDigest record →
      record' = record) (h : db.satisfies storage (.taskDigest key (storage.valueDigest record)) = true) :
    db.tasks[key]? = some record := by
  obtain ⟨record',hget,hd⟩ := (Option.any_eq_true _ _).mp h
  rw [hget, hdi record' hget (beq_iff_eq.mp hd)]

/-- An applied batch has found the record it was prepared for; it writes the next one and moves its entries. -/
theorem PreparedFor.applied [DecidableEq δ] (hp : PreparedFor storage operation base batch)
    (hdi : ∀ record ∈ base, ∀ record', db.tasks[operation.key]? = some record' →
      storage.valueDigest record' = storage.valueDigest record → record' = record)
    (ha : db.apply { storage with validate := validate } batch = (.applied, db')) :
    db.tasks[operation.key]? = base ∧ ∃ next, operation.next base = some next ∧
      db'.tasks = db.tasks.insert operation.key next ∧
      db'.ready = indexed (unindexed db.ready operation.key (base.bind readyDue)) operation.key
        next.readyDue ∧
      db'.lease = indexed (unindexed db.lease operation.key (base.bind leaseDue)) operation.key
        next.leaseDue := by
  obtain ⟨-,hc,ht,hr,hl⟩ := (apply_cases ha).resolve_left fun hno => hno.1 rfl
  cases hp with
  | enqueue =>
    have hm := hc _ mem_cons_self
    exact ⟨Option.isNone_iff_eq_none.mp hm,_,rfl,ht,hr,hl⟩
  | @claim request record _ hs =>
    have hb := satisfies_taskDigest (hdi record rfl) (hc _ mem_cons_self)
    refine ⟨hb,_,rfl,ht,?_,?_⟩
    · rw [hr, Option.bind_some, readyDue, if_pos hs]
      rfl
    · rw [hl, Option.bind_some, leaseDue, if_neg (by rw [hs]; decide)]
      rfl
  | @ending _ claim record ending he hva =>
    rw [operation.key_of_ending he] at hdi
    have hb := satisfies_taskDigest (hdi record rfl) (hc _ mem_cons_self)
    obtain ⟨hs,_⟩ := validateRemoteLease_eq_ok hva
    rw [operation.next_of_ending he, operation.key_of_ending he]
    refine ⟨hb,_,rfl,?_,?_,?_⟩
    · rw [ht]
      cases ending <;> rfl
    · rw [hr, Option.bind_some, readyDue, if_neg (by rw [hs]; decide)]
      cases ending <;> rfl
    · rw [hl, Option.bind_some, leaseDue, if_pos hs]
      cases ending <;> rfl

end Prepared

section Records

def RemoteTaskRecord.rank (record : RemoteTaskRecord) : Nat :=
  2 * record.leaseVersion + if record.status = .leased then 0 else 1

def baseRank (base : Option RemoteTaskRecord) : Nat := (base.map RemoteTaskRecord.rank).getD 0

structure RemoteTaskRecord.Sound (record : RemoteTaskRecord) : Prop where
  task : remoteTaskFromRecord record = .ok record.task
  lease : record.status = .leased → ∃ claim, remoteClaimFromRecord record = .ok claim

variable {storage : RemoteStorage δ} {batch : RemoteBatch δ} {next : RemoteTaskRecord}

theorem PreparedFor.rank (hp : PreparedFor storage operation base batch) (hn : operation.next base = some next) :
    next.rank = baseRank base + 1 := by
  cases hp with
  | enqueue =>
    cases hn
    rfl
  | @claim request record _ hr =>
    cases hn
    simp only [RemoteTaskRecord.rank, claimedTask, baseRank, Option.map_some, Option.getD_some, hr]
    simp
    omega
  | @ending _ claim record ending he hls =>
    obtain ⟨hl,_⟩ := validateRemoteLease_eq_ok hls
    cases (operation.next_of_ending he record).symm.trans hn
    simp only [RemoteTaskRecord.rank, baseRank, Option.map_some, Option.getD_some, hl]
    cases ending <;> simp [endedTask]

theorem remoteTaskRecord_sound {task : RemoteTask} (h : validateRemoteTask task = .ok ()) :
    (remoteTaskRecord task).Sound := by
  refine ⟨?_,fun hl => by cases hl⟩
  simp only [validateRemoteTask, ensure_eq_ok] at h
  simp only [remoteTaskFromRecord, remoteTaskRecord, bind_eq_ok, ensure_eq_ok, pure_eq_ok]
  simp_all

theorem PreparedFor.sound (hp : PreparedFor storage operation base batch) (hn : operation.next base = some next)
    (hb : ∀ record, base = some record → record.Sound) : next.Sound := by
  cases hp with
  | enqueue hva =>
    cases hn
    exact remoteTaskRecord_sound hva
  | @claim request record hva hr =>
    cases hn
    have ht := (hb record rfl).task
    refine ⟨ht,fun _ => ?_⟩
    simp only [validateRemoteClaimRequest, ensure_eq_ok, Bool.and_eq_true, bne_iff_ne, decide_eq_true_eq] at hva
    have hla : request.leaseUntilEpochMs ≠ 0 := by omega
    refine ⟨_,bind_eq_ok.mpr ⟨(),?_,bind_eq_ok.mpr ⟨_,ht,rfl⟩⟩⟩
    rw [ensure_eq_ok]
    simp [claimedTask, hva, hla]
  | @ending _ claim record ending he _ =>
    cases (operation.next_of_ending he record).symm.trans hn
    have ht := (hb record rfl).task
    cases ending with
    | complete | retry | deadLetter => exact ⟨ht,fun hl => by cases hl⟩

end Records

section Invariant
variable {storage : RemoteStorage δ} {prepared applied : List (PreparedOperation δ)} {db db' : RemoteDb δ}

structure QueueSound (storage : RemoteStorage δ) (prepared applied : List (PreparedOperation δ)) (db : RemoteDb δ) :
    Prop where
  ready : Exact RemoteTaskRecord.readyDue db.tasks db.ready
  lease : Exact RemoteTaskRecord.leaseDue db.tasks db.lease
  records : ∀ (key : StorageKey) (record : RemoteTaskRecord), db.tasks[key]? = some record → record.Sound
  stored : ∀ (key : StorageKey) (record : RemoteTaskRecord), db.tasks[key]? = some record →
    ∃ p ∈ prepared, record ∈ p.records
  built : ∀ p ∈ prepared, PreparedFor storage p.operation p.base p.batch
  past : ∀ p ∈ applied, p ∈ prepared ∧ baseRank p.base < baseRank db.tasks[p.operation.key]?
  ordered : applied.Pairwise fun p q => p.operation.key = q.operation.key → baseRank p.base < baseRank q.base

theorem QueueSound.step [DecidableEq δ] (hdi : DigestsDiffer storage prepared)
    (h : QueueSound storage prepared applied db) {p : PreparedOperation δ} (hp : p ∈ prepared)
    (ha : db.apply { storage with validate := validate } p.batch = (.applied, db')) :
    QueueSound storage prepared (applied ++ [p]) db' := by
  have hpr := h.built p hp
  have hfound : ∀ record ∈ p.base, ∀ record', db.tasks[p.operation.key]? = some record' →
      storage.valueDigest record' = storage.valueDigest record → record' = record := by
    intro record hba record' hget
    obtain ⟨q,hq,hre⟩ := h.stored _ record' hget
    exact hdi q hq p hp record' hre record (mem_append_left _ (Option.mem_toList.mpr hba))
  obtain ⟨hb,next,hn,ht,hrd,hl⟩ := hpr.applied hfound ha
  have hra := hpr.rank hn
  constructor
  · rw [ht, hrd]
    exact h.ready.insert (by rw [hb]; exact fun _ hdue => hdue) next
  · rw [ht, hl]
    exact h.lease.insert (by rw [hb]; exact fun _ hdue => hdue) next
  · intro key record hget
    rw [ht] at hget
    rcases of_getElem?_insert hget with ⟨-,rfl⟩ | hget
    · exact hpr.sound hn fun record hr => h.records _ record (hb.trans hr)
    · exact h.records key record hget
  · intro key record hget
    rw [ht] at hget
    rcases of_getElem?_insert hget with ⟨-,rfl⟩ | hget
    · exact ⟨p,hp,mem_append_right _ (by simp [hn])⟩
    · exact h.stored key record hget
  · exact h.built
  · -- the rank of a record only grows
    intro q hq
    rw [ht, getElem?_insert_eq]
    rcases mem_append.mp hq with hq | hq
    · obtain ⟨hmem,hlt⟩ := h.past q hq
      refine ⟨hmem,?_⟩
      split
      · rename_i hkey
        rw [← hkey, hb] at hlt
        have hnew : baseRank (some next) = next.rank := rfl
        omega
      · exact hlt
    · cases mem_singleton.mp hq
      rw [if_pos rfl]
      have hnew : baseRank (some next) = next.rank := rfl
      exact ⟨hp,by omega⟩
  · refine pairwise_append.mpr ⟨h.ordered,pairwise_singleton _ _,fun q hq q' hq' hkey => ?_⟩
    cases mem_singleton.mp hq'
    rw [← hb, ← hkey]
    exact (h.past q hq).2

theorem QueueRun.sound [DecidableEq δ] (hdi : DigestsDiffer storage prepared) (h : QueueRun storage prepared applied db) :
    QueueSound storage prepared applied db := by
  induction h with
  | start => exact ⟨Exact.empty,Exact.empty,by simp,by simp,by simp,by simp,List.Pairwise.nil⟩
  | prepare operation _ hb ih =>
    have ih := ih fun p hp q hq => hdi p (mem_append_left _ hp) q (mem_append_left _ hq)
    refine { ih with stored := fun key record hget => ?_, built := fun p hp => ?_, past := fun p hp => ?_ }
    · obtain ⟨p,hp,hre⟩ := ih.stored key record hget
      exact ⟨p,mem_append_left _ hp,hre⟩
    · rcases mem_append.mp hp with hp | hp
      · exact ih.built p hp
      · cases mem_singleton.mp hp
        exact prepare_spec hb
    · obtain ⟨hmem,hlt⟩ := ih.past p hp
      exact ⟨mem_append_left _ hmem,hlt⟩
  | @apply _ _ _ _ outcome validate p _ hp ha ih =>
    rcases apply_cases ha with ⟨hno,rfl⟩ | ⟨rfl,_⟩
    · rw [if_neg hno]
      exact ih hdi
    · exact (ih hdi).step hdi hp ha

theorem dueLoop_ok {α : Type} {index : String} {status : RemoteTaskRecordStatus} {time : RemoteTaskRecord → Nat}
    {read : RemoteTaskRecord → Except RemoteTaskError α}
    (hread : ∀ (key : StorageKey) record, db.tasks[key]? = some record → record.status = status →
      ∃ value, read record = .ok value) (now limit : Nat) (entries : List (DueKey StorageKey))
    (hes : ∀ entry ∈ entries, db.tasks[entry.key]?.bind (fun record =>
      if record.status = status then some (time record) else none) = some entry.dueAt) :
    ∃ values, db.dueLoop index status time read now limit entries = .ok values := by
  induction entries generalizing limit with
  | nil => cases limit <;> exact ⟨_,rfl⟩
  | cons entry entries ih =>
    cases limit with
    | zero => exact ⟨_,rfl⟩
    | succ limit =>
      rw [dueLoop]
      split
      · exact ⟨_,rfl⟩
      · obtain ⟨record,hget,hdue⟩ := Option.bind_eq_some_iff.mp (hes entry mem_cons_self)
        obtain ⟨values,hvs⟩ := ih limit fun e he => hes e (mem_cons_of_mem _ he)
        simp only [Option.ite_none_right_eq_some, Option.some.injEq] at hdue
        obtain ⟨value,hv⟩ := hread _ _ hget hdue.1
        refine ⟨value :: values,?_⟩
        simp [hget, hdue, hv, hvs, okOr, ensure, bind, Except.bind, pure, Except.pure]

theorem mem_index_iff {status : RemoteTaskRecordStatus} {time : RemoteTaskRecord → Nat} {index : ExtTreeSet (DueKey StorageKey)}
    (h : Exact (fun record => if record.status = status then some (time record) else none) db.tasks index)
    (entry : DueKey StorageKey) : entry ∈ index ↔ ∃ record, db.tasks[entry.key]? = some record ∧
      record.status = status ∧ time record = entry.dueAt := by
  rw [h entry, Option.bind_eq_some_iff]
  simp only [Option.ite_none_right_eq_some, Option.some.injEq]

section
variable (h : QueueSound storage prepared applied db) {limit : Nat}
include h

theorem QueueSound.readyRemoteTasks_ok (now : Nat) (hl : limit ≠ 0) :
    ∃ tasks, db.readyRemoteTasks now limit = .ok tasks := by
  obtain ⟨tasks,ht⟩ := dueLoop_ok (fun key record hget _ => ⟨_,(h.records key record hget).task⟩) now limit db.ready.toList
    fun entry hin => (h.ready entry).mp (ExtTreeSet.mem_toList.mp hin)
  refine ⟨tasks,bind_eq_ok.mpr ⟨(),?_,ht⟩⟩
  simpa [ensure_eq_ok] using hl

theorem QueueSound.expiredRemoteTaskClaims_ok (now : Nat) (hl : limit ≠ 0) :
    ∃ claims, db.expiredRemoteTaskClaims now limit = .ok claims := by
  obtain ⟨claims,hcl⟩ := dueLoop_ok (fun key record hget => (h.records key record hget).lease) now limit db.lease.toList
    fun entry hin => (h.lease entry).mp (ExtTreeSet.mem_toList.mp hin)
  refine ⟨claims,bind_eq_ok.mpr ⟨(),?_,hcl⟩⟩
  simpa [ensure_eq_ok] using hl

/-- Two batches for one version of a record are not both applied. -/
theorem QueueSound.nodup_bases : (applied.map fun p => (p.operation.key, p.base)).Nodup := by
  rw [List.Nodup, pairwise_map]
  refine h.ordered.imp fun hlt heq => ?_
  rw [Prod.mk.injEq] at heq
  have hr := hlt heq.1
  rw [heq.2] at hr
  exact Nat.lt_irrefl _ hr

end

/-- The version of the ended lease gives the rank of the record that had it. -/
theorem PreparedFor.baseRank_of_endedLease {operation : RemoteOperation} {base : Option RemoteTaskRecord}
    {batch : RemoteBatch δ} (hp : PreparedFor storage operation base batch) {lease : StorageKey × Nat}
    (h : operation.endedLease = some lease) : operation.key = lease.1 ∧ baseRank base = 2 * lease.2 := by
  cases hp with
  | enqueue | claim => cases h
  | ending he hls =>
    obtain ⟨hl,hv⟩ := validateRemoteLease_eq_ok hls
    simp only [RemoteOperation.endedLease, he, Option.map_some, Option.some.injEq] at h
    subst h
    refine ⟨rfl,?_⟩
    simp [baseRank, RemoteTaskRecord.rank, hl, hv]

theorem QueueSound.nodup_endedLeases (h : QueueSound storage prepared applied db) :
    (applied.filterMap fun p => p.operation.endedLease).Nodup := by
  rw [List.Nodup, pairwise_filterMap]
  refine h.ordered.imp_of_mem fun {p q} hp hq hlt lease hl lease' hl' heq => ?_
  subst heq
  obtain ⟨hkey,hr⟩ := (h.built p (h.past p hp).1).baseRank_of_endedLease hl
  obtain ⟨hkey',hr'⟩ := (h.built q (h.past q hq).1).baseRank_of_endedLease hl'
  have := hlt (hkey.trans hkey'.symm)
  omega

/-- After every run the indexes list the ready and the leased tasks and nothing else, reading them succeeds, a
version of a record is replaced at most once, and a lease ends at most once. -/
theorem remote_queue_exact [DecidableEq δ] (hdigests : DigestsDiffer storage prepared)
    (h : QueueRun storage prepared applied db) :
    (∀ entry : DueKey StorageKey, entry ∈ db.ready ↔ ∃ record, db.tasks[entry.key]? = some record ∧
      record.status = .ready ∧ record.availableAtEpochMs = entry.dueAt) ∧
    (∀ entry : DueKey StorageKey, entry ∈ db.lease ↔ ∃ record, db.tasks[entry.key]? = some record ∧
      record.status = .leased ∧ record.leaseUntilEpochMs = entry.dueAt) ∧
    (∀ now limit, limit ≠ 0 → (∃ tasks, db.readyRemoteTasks now limit = .ok tasks) ∧
      ∃ claims, db.expiredRemoteTaskClaims now limit = .ok claims) ∧
    (applied.map fun p => (p.operation.key, p.base)).Nodup ∧
    (applied.filterMap fun p => p.operation.endedLease).Nodup := by
  have hs := h.sound hdigests
  refine ⟨mem_index_iff hs.ready,mem_index_iff hs.lease,fun now limit hl => ?_,hs.nodup_bases,
    hs.nodup_endedLeases⟩
  exact ⟨hs.readyRemoteTasks_ok now hl,hs.expiredRemoteTaskClaims_ok now hl⟩

end Invariant

namespace Sample

def queueStorage : RemoteStorage (Option RemoteTaskRecord) where
  valueDigest := some
  batchDigest := fun _ => none
  validate := fun _ => .ok ()

def remoteTask : RemoteTask where
  taskId := "event-1"
  tenantId := .lit "tenant-a"
  instanceId := .lit "instance-1"
  workflowType := .lit "order"
  workflowVersion := .lit "1.0.0"
  nodeId := .lit "charge"
  taskType := "payment"
  activationEventId := "event-1"
  activationSequence := 2
  activatedAtEpochMs := 5
  correlationId := .lit "correlation-1"
  configVersion := .lit "config-1"
  policyVersion := .lit "policy-1"

def claimRequest (sessionId : String) (now leaseUntil : Nat) : RemoteTaskClaimRequest where
  tenantId := remoteTask.tenantId
  taskId := remoteTask.taskId
  assignmentId := "remote:" ++ sessionId
  workerId := "worker-1"
  sessionId := sessionId
  nowEpochMs := now
  leaseUntilEpochMs := leaseUntil
  assignmentTokenDigest := List.replicate 32 7

def rivalClaims : List (PreparedOperation (Option RemoteTaskRecord)) :=
  ["session-1", "session-2"].map fun sessionId =>
    ⟨.claim (claimRequest sessionId 6 9), some (remoteTaskRecord remoteTask),
      claimBatch queueStorage (remoteTaskRecord remoteTask) (claimRequest sessionId 6 9)⟩

end Sample

open Sample

theorem remote_queue_exact_rivals :
    ∃ prepared applied db, QueueRun queueStorage prepared applied db ∧ rivalClaims ⊆ prepared ∧
      applied.map (fun p => p.operation.key) = List.replicate 2 (remoteTaskStorageKey (.lit "tenant-a") "event-1") ∧
      (applied.map fun p => (p.operation.key, p.base)).Nodup ∧ ∃ claims, db.expiredRemoteTaskClaims 9 4 = .ok claims := by
  obtain ⟨prepared,applied,db,hrun,hcl,hk⟩ : ∃ prepared applied db,
      QueueRun queueStorage prepared applied db ∧ rivalClaims ⊆ prepared ∧
      applied.map (fun p => p.operation.key) = List.replicate 2 (remoteTaskStorageKey (.lit "tenant-a") "event-1") := by
    have hst : QueueRun queueStorage [] [] {} := .start
    have he := QueueRun.apply (fun _ => .ok ()) _ (QueueRun.prepare (.enqueue remoteTask) hst rfl)
      (mem_singleton_self _) rfl
    have hp := QueueRun.prepare (.claim (claimRequest "session-2" 6 9))
      (QueueRun.prepare (.claim (claimRequest "session-1" 6 9)) he rfl) rfl
    have hs := QueueRun.apply (fun _ => .ok ()) _ hp (mem_append_right _ (mem_singleton_self _)) rfl
    have hf := QueueRun.apply (fun _ => .ok ()) _ hs
      (mem_append_left _ (mem_append_right _ (mem_singleton_self _))) rfl
    exact ⟨_,_,_,hf,by decide,by decide⟩
  obtain ⟨_,_,hr,hb,_⟩ := remote_queue_exact (fun _ _ _ _ _ _ _ _ h => Option.some.inj h) hrun
  exact ⟨prepared,applied,db,hrun,hcl,hk,hb,(hr 9 4 (by decide)).2⟩

end BpmpPlatform
