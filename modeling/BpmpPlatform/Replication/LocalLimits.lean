import BpmpPlatform.Replication.History

/-! # Nodes with different limits

A batch is validated against the limits of the node that applies it.
-/
namespace BpmpPlatform.Replication
open Std Outcome AuthoritativeStateMachine

section Laws
variable {K V M S Snapshot : Type} [DecidableEq K]

/-- The limits enter a storage through validation only, and its verdict is told from every other answer. -/
structure JudgesByLimits (format : ByteFormat K V) (port : AtomicStateStorage K V M S Snapshot) : Prop where
  congr : ∀ {batch : PreparedAtomicBatch K V} {limits limits'}, batch.validate format limits = batch.validate format limits' →
    ∀ metadata s, port.apply batch limits metadata s = port.apply batch limits' metadata s
  invalid : ∀ {batch : PreparedAtomicBatch K V} {limits error}, batch.validate format limits = .error error →
    ∀ metadata s, ∃ s', port.apply batch limits metadata s = .ok (rejected format batch error.text, s')
  valid : ∀ {batch : PreparedAtomicBatch K V} {limits metadata s response s'}, batch.validate format limits = .ok () →
    port.apply batch limits metadata s = .ok (response, s') →
    ∀ error : BatchValidationError, response.outcome ≠ .rejected error.text

theorem conflict_ne_text (error : BatchValidationError) : "idempotency-scope-conflict" ≠ error.text := by
  cases error <;> decide

theorem NotApplied.outcome_ne_rejected {format : ByteFormat K V} {batch : PreparedAtomicBatch K V}
    {limits : StateMachineLimits} {response : ApplyResponse V} (h : NotApplied format batch limits response)
    (hva : batch.validate format limits = .ok ()) (error : BatchValidationError) :
    response.outcome ≠ .rejected error.text := by
  cases h with
  | invalid hin =>
    rw [hin] at hva
    cases hva
  | replayed _ ho =>
    rw [ho]
    exact nofun
  | conflict => exact fun heq => conflict_ne_text error (ApplyOutcome.rejected.inj heq)
  | failed => exact nofun

variable {format : ByteFormat K V} {port : AtomicStateStorage K V M S Snapshot} {batch : PreparedAtomicBatch K V}
  {limits limits' : StateMachineLimits}

/-- A batch that is rejected for its limits on one node only is answered differently. -/
theorem JudgesByLimits.ne_of_error (laws : JudgesByLimits format port) {error : BatchValidationError}
    (hva : batch.validate format limits = .ok ()) (hin : batch.validate format limits' = .error error)
    (metadata : StateMachineMetadata M) (s : S) :
    (port.apply batch limits metadata s).map Prod.fst ≠ (port.apply batch limits' metadata s).map Prod.fst := by
  obtain ⟨s',hre⟩ := laws.invalid hin metadata s
  rw [hre]
  cases hap : port.apply batch limits metadata s with
  | error => exact nofun
  | ok result =>
    obtain ⟨response,storage⟩ := result
    intro h
    injection h with hr
    refine laws.valid hva hap error ?_
    rw [show response = rejected format batch error.text from hr]
    rfl

theorem JudgesByLimits.apply_eq_iff (laws : JudgesByLimits format port) (metadata : StateMachineMetadata M) (s : S) :
    (port.apply batch limits metadata s).map Prod.fst = (port.apply batch limits' metadata s).map Prod.fst ↔
      batch.validate format limits = batch.validate format limits' := by
  constructor
  · intro h
    cases hl : batch.validate format limits with
    | ok =>
      cases hl' : batch.validate format limits' with
      | ok => rfl
      | error => exact absurd h (laws.ne_of_error hl hl' metadata s)
    | error error =>
      cases hl' : batch.validate format limits' with
      | ok => exact absurd h.symm (laws.ne_of_error hl' hl metadata s)
      | error =>
        obtain ⟨_,hre⟩ := laws.invalid hl metadata s
        obtain ⟨_,hre'⟩ := laws.invalid hl' metadata s
        rw [hre, hre'] at h
        injection h with hr
        have ho := congrArg ApplyResponse.outcome hr
        injection ho with ht
        rw [BatchValidationError.text_inj ht]
  · intro h
    rw [laws.congr h]

end Laws

section Storages
variable {K V M : Type} [Ord K] [TransOrd K] [DecidableEq K]

theorem memory_judges (format : ByteFormat K V) (snapshots : MessageFormat (SerializableInMemoryState K V)) :
    JudgesByLimits (M := M) format (memoryStorage format snapshots) := by
  refine ⟨fun {batch limits limits'} h metadata s => ?_,fun {batch limits error} h metadata s => ?_,
    fun {batch limits metadata s response s'} hva h error => ?_⟩
  · simp only [memoryStorage, InMemoryState.apply, h]
  · refine ⟨{ s with metadata := metadata },?_⟩
    simp only [memoryStorage, InMemoryState.apply, h]
  · have hr : s.apply format batch limits metadata = (response, s') := Except.ok.inj h
    rcases memory_apply_cases format batch limits metadata s with ⟨ha,_⟩ | ⟨_,_,_,hap⟩
    · rw [hr] at ha
      exact ha.outcome_ne_rejected hva error
    · obtain ⟨rfl,_⟩ := Prod.mk.inj (hr.symm.trans hap)
      rintro ⟨⟩

theorem rocks_judges [Inhabited M] (format : RocksFormat K V M) (snapshots : SizedFormat (RocksStateSnapshot K V)) :
    JudgesByLimits format.toByteFormat (rocksStorage format snapshots) := by
  refine ⟨fun {batch limits limits'} h metadata s => ?_,fun {batch limits error} h metadata s => ?_,
    fun {batch limits metadata s response s'} hva h error => ?_⟩
  · simp only [rocksStorage, RocksState.apply, h]
  · refine ⟨s.write [putRaftStateMetadata format metadata],?_⟩
    simp only [rocksStorage, RocksState.apply, h]
    rfl
  · rcases rocks_apply_cases h with ⟨ha,_⟩ | ⟨_,_,_,rfl,_⟩
    · exact ha.outcome_ne_rejected hva error
    · rintro ⟨⟩

end Storages

section Runs
variable {K V M S Snapshot : Type} [DecidableEq K] {format : ByteFormat K V}
  {port : AtomicStateStorage K V M S Snapshot} {entry : Entry K V M} {limits' : StateMachineLimits}

def AuthoritativeStateMachine.withLimits (machine : AuthoritativeStateMachine S M) (limits : StateMachineLimits) :
    AuthoritativeStateMachine S M := { machine with limits := limits }

def Entry.JudgedAlike (format : ByteFormat K V) (limits limits' : StateMachineLimits) (entry : Entry K V M) : Prop :=
  ∀ batch, entry.payload = .normal batch → batch.validate format limits = batch.validate format limits'

/-- An entry that is judged alike has the same effect under other limits. -/
theorem JudgesByLimits.step_withLimits (laws : JudgesByLimits format port) (machine : AuthoritativeStateMachine S M)
    {limits : StateMachineLimits} (h : entry.JudgedAlike format limits limits') :
    (machine.withLimits limits').step format port entry = (((machine.withLimits limits).step format port entry).1,
        ((machine.withLimits limits).step format port entry).2.withLimits limits') := by
  unfold step applyEntry withLimits
  cases hp : entry.payload with
  | blank =>
    simp only
    cases port.persistMetadata ⟨some entry.logId, machine.membership⟩ machine.storage <;> rfl
  | membership membership =>
    simp only
    cases port.persistMetadata ⟨some entry.logId, some entry.logId, membership⟩ machine.storage <;> rfl
  | normal batch =>
    simp only [laws.congr (h batch hp)]
    cases port.apply batch limits' ⟨some entry.logId, machine.membership⟩ machine.storage <;> rfl

omit [DecidableEq K] in
theorem step_fst_of_normal (machine : AuthoritativeStateMachine S M) {batch : PreparedAtomicBatch K V}
    (hp : entry.payload = .normal batch) : (machine.step format port entry).1 =
      (port.apply batch machine.limits ⟨some entry.logId, machine.membership⟩ machine.storage).map Prod.fst := by
  unfold step applyEntry
  rw [hp]
  simp only
  cases port.apply batch machine.limits ⟨some entry.logId, machine.membership⟩ machine.storage <;> rfl

omit [DecidableEq K] in
/-- The limits of a machine do not change, so that a step under some limits ends under them. -/
theorem step_withLimits_self (machine : AuthoritativeStateMachine S M) (limits : StateMachineLimits) (entry : Entry K V M) :
    ((machine.withLimits limits).step format port entry).2 =
      ((machine.withLimits limits).step format port entry).2.withLimits limits := by
  have hl : ((machine.withLimits limits).step format port entry).2.limits = limits :=
    step_limits (machine.withLimits limits) entry
  generalize ((machine.withLimits limits).step format port entry).2 = machine' at hl
  rw [← hl]
  rfl

/-- Along a log, two nodes give the same answers and end in the same storage exactly if every batch is judged alike. -/
theorem JudgesByLimits.applyLog_eq_iff (laws : JudgesByLimits format port) (machine : AuthoritativeStateMachine S M)
    (limits limits' : StateMachineLimits) (entries : List (Entry K V M)) :
    (((machine.withLimits limits).applyLog format port entries).1 =
        ((machine.withLimits limits').applyLog format port entries).1 ∧
      ((machine.withLimits limits).applyLog format port entries).2.storage =
        ((machine.withLimits limits').applyLog format port entries).2.storage) ↔
    ∀ entry ∈ entries, entry.JudgedAlike format limits limits' := by
  induction entries generalizing machine with
  | nil => exact ⟨fun _ _ hin => (List.not_mem_nil hin).elim,fun _ => ⟨rfl,rfl⟩⟩
  | cons entry entries ih =>
    rw [List.forall_mem_cons, applyLog_cons, applyLog_cons]
    constructor
    · rintro ⟨hr,hs⟩
      injection hr with hf hre
      have hal : entry.JudgedAlike format limits limits' := by
        intro batch hp
        rw [step_fst_of_normal _ hp, step_fst_of_normal _ hp] at hf
        exact (laws.apply_eq_iff _ _).mp hf
      refine ⟨hal,(ih ((machine.withLimits limits).step format port entry).2).mp ?_⟩
      rw [laws.step_withLimits machine hal, step_withLimits_self] at hre hs
      exact ⟨hre,hs⟩
    · rintro ⟨hal,hre⟩
      obtain ⟨hr,hs⟩ := (ih ((machine.withLimits limits).step format port entry).2).mpr hre
      rw [laws.step_withLimits machine hal]
      rw [← step_withLimits_self] at hr hs
      exact ⟨by rw [hr],hs⟩

end Runs

/-- Two nodes that differ in their limits give the same answers and keep the same contents along a log exactly if the
limits judge every batch of the log alike. -/
theorem nodes_agree_iff {K V M : Type} [Ord K] [TransOrd K] [DecidableEq K] [Inhabited M] (format : RocksFormat K V M)
    (memorySnapshots : MessageFormat (SerializableInMemoryState K V)) (rocksSnapshots : SizedFormat (RocksStateSnapshot K V))
    (adapter : StorageAdapter) (machine : AuthoritativeStateMachine (adapter.State K V M) M)
    (limits limits' : StateMachineLimits) (entries : List (Entry K V M)) :
    (((machine.withLimits limits).applyLog format.toByteFormat (adapter.port memorySnapshots rocksSnapshots format)
        entries).1 =
      ((machine.withLimits limits').applyLog format.toByteFormat (adapter.port memorySnapshots rocksSnapshots format)
        entries).1 ∧
      ((machine.withLimits limits).applyLog format.toByteFormat (adapter.port memorySnapshots rocksSnapshots format)
        entries).2.storage =
      ((machine.withLimits limits').applyLog format.toByteFormat (adapter.port memorySnapshots rocksSnapshots format)
        entries).2.storage) ↔ ∀ entry ∈ entries, entry.JudgedAlike format.toByteFormat limits limits' := by
  have laws : JudgesByLimits format.toByteFormat (adapter.port memorySnapshots rocksSnapshots format) := by
    cases adapter with
    | memory => exact memory_judges format.toByteFormat memorySnapshots
    | rocks => exact rocks_judges format rocksSnapshots
  exact laws.applyLog_eq_iff machine limits limits' entries

namespace Sample

def pairBatch : PreparedAtomicBatch String Stored :=
  .new format.toByteFormat "pair" "pair" [] [.put ⟨"outbox", "1"⟩ (.text "a"), .put ⟨"outbox", "2"⟩ (.text "b")] (.text "pair")

def outcomeUnder (maxMutations : Nat) (batch : PreparedAtomicBatch String Stored) :
    List (Option ApplyOutcome) × Option Stored :=
  let run := (eventMachine.withLimits (limits maxMutations)).applyLog format.toByteFormat
    (StorageAdapter.rocks.port memorySnapshots rocksSnapshots format) [logEntry 1 batch]
  (run.1.map fun result => result.toOption.map ApplyResponse.outcome,
    StorageAdapter.rocks.contents (M := Nat) run.2.storage ⟨"outbox", "1"⟩)

end Sample

open BpmpPlatform.Replication.Sample

theorem nodes_agree_iff_roomy : outcomeUnder 2 pairBatch = outcomeUnder 3 pairBatch := by
  obtain ⟨hr,hs⟩ := (nodes_agree_iff format memorySnapshots rocksSnapshots .rocks
    eventMachine (limits 2) (limits 3) [logEntry 1 pairBatch]).mpr (by
      intro entry he
      rw [List.mem_singleton.mp he]
      rintro batch ⟨⟩
      decide +kernel)
  exact Prod.ext (congrArg (List.map _) hr) (congrArg (fun db => StorageAdapter.rocks.contents (M := Nat) db _) hs)

/-- Both limits are valid, but one node applies the batch of two mutations and the other rejects it. -/
theorem mutation_limit_diverges : (limits 1).validate = .ok () ∧ (limits 2).validate = .ok () ∧
      outcomeUnder 2 pairBatch = ([some .applied], some (.text "a")) ∧
      outcomeUnder 1 pairBatch =
        ([some (.rejected "batch mutation count exceeds configured limit")], none) := by
  decide +kernel

end BpmpPlatform.Replication
