import BpmpPlatform.Library.Runs
import BpmpPlatform.Store.Load
import BpmpPlatform.Store.Retries

/-! # Exactly once, and the race for a version

An attempt that finds its stream past the expected version stays behind for good while no request lowers a version.
-/
namespace BpmpPlatform.Store
open Std Outcome Replication List Runs

section Race
variable {events : MessageFormat Wire.EventEnvelope} {snapshots : MessageFormat Wire.WorkflowSnapshot} {C M : Type}
  {crypto : PayloadCrypto (Plaintext events snapshots) C} {format : RocksFormat StoreKey (StoreValue C M) M}
  {run : RetryRun C M}

/-- The request does not lower the version of its stream. -/
def Ascending (request : CommitRequest) : Prop := request.expectedVersion ≤ request.result.version

def RetryRun.Ascends (format : RocksFormat StoreKey (StoreValue C M) M) (run : RetryRun C M) : RetryStep M → Prop
  | .prepare _ request _ => Ascending request
  | .apply index _ _ => ∀ proposal, run.proposals[index]? = some proposal →
    VersionDistinct format run.state.db proposal.request
  | .resolve .. => True

abbrev AscendingRun (crypto : PayloadCrypto (Plaintext events snapshots) C)
    (format : RocksFormat StoreKey (StoreValue C M) M) : RetryRun C M → List (RetryStep M) → Prop :=
  Along (fun run step => run.step crypto format step) (RetryRun.Ascends format)

variable {tenant : TenantId} {inst : InstanceId} {db : Db C M} {actual version index : Nat} {request : CommitRequest}

/-- A step proposes no request that lowers its version, withdraws no answer and lowers the version of no stream. -/
theorem RetryHeld.race_step (h : RetryHeld crypto format run)
    (hpr : ∀ proposal ∈ run.proposals, Ascending proposal.request) {step : RetryStep M} (hs : run.Ascends format step)
    (hv : readVersion run.state.db tenant inst = .ok version) :
    (∀ proposal ∈ (run.step crypto format step).proposals, Ascending proposal.request) ∧
      run.answers ⊆ (run.step crypto format step).answers ∧ ∃ reached, version ≤ reached ∧
        readVersion (run.step crypto format step).state.db tenant inst = .ok reached := by
  have hve : ∃ reached, version ≤ reached ∧ readVersion run.state.db tenant inst = .ok reached :=
    ⟨version,Nat.le_refl _,hv⟩
  cases step with
  | prepare node request nonces =>
    rw [RetryRun.step]
    cases prepareWorkflowBatch format (run.seen node).db request crypto nonces with
    | error => exact ⟨hpr,List.Subset.refl _,hve⟩
    | ok preparation =>
      cases preparation with
      | alreadyCommitted => exact ⟨hpr,List.Subset.refl _,hve⟩
      | proposal => exact ⟨forall_mem_append.mpr ⟨hpr,forall_mem_singleton.mpr hs⟩,List.Subset.refl _,hve⟩
  | resolve =>
    rw [RetryRun.step]
    split
    · exact ⟨hpr,List.Subset.refl _,hve⟩
    · exact ⟨hpr,List.Subset.refl _,hve⟩
  | apply proposal limits metadata =>
    rw [RetryRun.step]
    cases hfo : run.proposals[proposal]? with
    | none => exact ⟨hpr,List.Subset.refl _,hve⟩
    | some found =>
      obtain ⟨request,batch⟩ := found
      have hg : Genuine crypto format request batch := h.genuine _ (mem_of_getElem? hfo)
      rcases h.apply_cases hg limits metadata with ⟨response,_,_,_,hap⟩ | ⟨happ,hap⟩
      · simp only [hap]
        refine ⟨hpr,subset_append_left _ _,version,Nat.le_refl _,?_⟩
        rw [← hv]
        have hr : (run.state.write [putRaftStateMetadata format metadata]).db[
            StorageKey.mk streamMetaCf (streamMetaKey tenant inst)]? =
            run.state.db[StorageKey.mk streamMetaCf (streamMetaKey tenant inst)]? :=
          write_position (show streamMetaCf ≠ raftStateMetaCf by decide)
        simp only [RetryRun.applied, readVersion, hr]
      · simp only [hap]
        refine ⟨hpr,subset_append_left _ _,?_⟩
        obtain ⟨hp⟩ := hg
        have hc := version_of_satisfied (hs _ hfo) (happ.satisfied _ version_mem_commitConditions)
        show ∃ reached, version ≤ reached ∧ readVersion (run.state.applied format _ metadata).db tenant inst = .ok reached
        unfold readVersion
        rw [getElem?_applied (show streamMetaCf ∉ bookkeepingFamilies by decide)]
        simp only [workflowBatch, PreparedAtomicBatch.new, getElem?_commit_streamMeta]
        by_cases hkey : streamMetaKey request.tenantId request.instanceId = streamMetaKey tenant inst
        · obtain ⟨rfl,rfl⟩ := streamPrefix_inj (congrArg StoreKey.components hkey)
          obtain rfl : version = request.expectedVersion := Except.ok.inj (hv.symm.trans hc)
          rw [if_pos hkey]
          exact ⟨_,hpr _ (mem_of_getElem? hfo),rfl⟩
        · rw [if_neg hkey]
          exact hve

theorem RetryHeld.race_steps (h : RetryHeld crypto format run)
    (hpr : ∀ proposal ∈ run.proposals, Ascending proposal.request) {steps : List (RetryStep M)}
    (hs : AscendingRun crypto format run steps) (hv : readVersion run.state.db tenant inst = .ok version) :
    (∀ proposal ∈ (run.steps crypto format steps).proposals, Ascending proposal.request) ∧
      run.answers ⊆ (run.steps crypto format steps).answers ∧ ∃ reached, version ≤ reached ∧
        readVersion (run.steps crypto format steps).state.db tenant inst = .ok reached := by
  induction steps generalizing run version with
  | nil => exact ⟨hpr,List.Subset.refl _,version,Nat.le_refl _,hv⟩
  | cons step steps ih =>
    obtain ⟨hpr,hsu,reached,hle,hre⟩ := h.race_step hpr hs.1 hv
    obtain ⟨hpr,hsu',final,hle',hfi⟩ := ih (h.step step) hpr hs.2 hre
    exact ⟨hpr,List.Subset.trans hsu hsu',final,Nat.le_trans hle hle',hfi⟩

/-- How an attempt that lost the race for its version can end. -/
inductive LostOutcome (db : Db C M) (request : CommitRequest) : Except StoreError CommitOutcome → Prop
  | repeated {result : CommittedResult}
      (h : loadResult db request.tenantId request.actorId request.idempotencyKey request.commandId = .ok (some result)) :
      LostOutcome db request (.ok (.duplicate result))
  | conflict (h : loadResult db request.tenantId request.actorId request.idempotencyKey request.commandId =
        .error .idempotencyConflict) :
      LostOutcome db request (.error .idempotencyConflict)
  | outdated {actual : Nat}
      (h : loadResult db request.tenantId request.actorId request.idempotencyKey request.commandId = .ok none)
      (hactual : request.expectedVersion < actual) :
      LostOutcome db request (.error (.versionConflict request.expectedVersion actual))

theorem reconcileApply_lost (hss : ScopesHeld format db)
    (hv : readVersion db request.tenantId request.instanceId = .ok actual) (ha : request.expectedVersion < actual) :
    LostOutcome db request (reconcileApply db request) := by
  -- in a reached state a stored result is readable, and it belongs to the command or to another
  rcases hss (resultKey request) with ⟨_,hn⟩ | ⟨winner,_,_,_,_,hr⟩
  · have hst : loadResult db request.tenantId request.actorId request.idempotencyKey request.commandId = .ok none := by
      rw [loadResult, ← resultKey, hn]
    have hoff : (actual == request.expectedVersion) = false := by
      rw [beq_eq_false_iff_ne]
      omega
    rw [reconcileApply_unstored hst, checkVersion, hv, ok_bind, ensure, hoff]
    exact .outdated hst ha
  · have hst := loadResult.eq_def db request.tenantId request.actorId request.idempotencyKey request.commandId
    rw [← resultKey, hr] at hst
    simp only [StoreValue.toCommandResult, ok_bind, commandResult_result] at hst
    cases hc : (commandResult winner).commandId == request.commandId.value <;>
      rw [hc] at hst <;> rw [reconcileApply, hst]
    · exact .conflict hst
    · exact .repeated hst

theorem resolveWorkflowApply_lost (hss : ScopesHeld format db) {response : ApplyResponse (StoreValue C M)}
    (hcm : response.commandId = request.commandId.value) (ho : response.outcome ≠ .applied)
    (hst : response.outcome = .duplicate → Stored db request response.responsePayload)
    (hver : readVersion db request.tenantId request.instanceId = .ok actual) (ha : request.expectedVersion < actual) :
    LostOutcome db request (resolveWorkflowApply db request response) := by
  rw [resolveWorkflowApply, hcm, beq_self_eq_true, ensure, if_pos rfl, ok_bind]
  cases hc : response.outcome with
  | applied => exact absurd hc ho
  | preconditionFailed | rejected => exact reconcileApply_lost hss hver ha
  | duplicate =>
    obtain ⟨stored,hp,hs,hv⟩ := hst hc
    rcases hss (resultKey request) with ⟨_,hn⟩ | ⟨winner,_,_,_,_,hr⟩
    · rw [hn] at hv
      cases hv
    · rw [hr] at hv
      cases hv
      have hl : loadResult db request.tenantId request.actorId request.idempotencyKey request.commandId =
          .ok (some winner.result) := by
        unfold loadResult
        rw [← resultKey, hr]
        simp only [StoreValue.toCommandResult, ok_bind, commandResult_result, hs, beq_self_eq_true, ensure, if_true]
        rfl
      have hap : appliedResult request response = .ok winner.result := by
        rw [appliedResult, hp]
        simp only [StoreValue.toCommandResult, ok_bind, commandResult_result, hs, beq_self_eq_true, ensure, if_true]
      simp only [hap]
      exact .repeated hl

/-- An attempt that finds its stream past the expected version is refused, and resolved so wherever the log is by then. -/
theorem RetryHeld.lost (h : RetryHeld crypto format run) {proposal : Proposal C M}
    (hpro : run.proposals[index]? = some proposal)
    (hv : readVersion run.state.db proposal.request.tenantId proposal.request.instanceId = .ok actual)
    (ha : proposal.request.expectedVersion < actual)
    (hdi : format.valueDigest (.number actual) ≠ format.valueDigest (.number proposal.request.expectedVersion)) (limits : StateMachineLimits)
    (metadata : StateMachineMetadata M) :
    ∃ response, (run.step crypto format (.apply index limits metadata)).answers =
        run.answers ++ [⟨proposal.request, response⟩] ∧ response.outcome ≠ .applied ∧
      ((∀ proposal ∈ run.proposals, Ascending proposal.request) → ∀ after : List (RetryStep M),
        AscendingRun crypto format (run.step crypto format (.apply index limits metadata)) after →
        let later := ((run.step crypto format (.apply index limits metadata)).steps crypto format after).state.db
        LostOutcome later proposal.request (resolveWorkflowApply later proposal.request response)) := by
  obtain ⟨request,batch⟩ := proposal
  have hg : Genuine crypto format request batch := h.genuine _ (mem_of_getElem? hpro)
  have hd := versionDistinct_of_ne hv hdi
  rcases h.apply_cases hg limits metadata with ⟨response,hcm,ho,_,happ⟩ | ⟨hap,_⟩
  · have hs : (run.step crypto format (.apply index limits metadata)).answers = run.answers ++ [⟨request, response⟩] := by
      simp only [RetryRun.step, hpro, happ]
      rfl
    refine ⟨response,hs,ho,fun hpr after haf => ?_⟩
    have hasc : run.Ascends format (.apply index limits metadata) := fun _ hfo => Option.some.inj (hpro.symm.trans hfo) ▸ hd
    obtain ⟨has,_,reached,hle,hrea⟩ := h.race_step hpr hasc hv
    have hn := h.step (.apply index limits metadata)
    have hgi : (⟨request, response⟩ : Answer C M) ∈ (run.step crypto format (.apply index limits metadata)).answers := by
      rw [hs]
      exact mem_append_right _ mem_cons_self
    obtain ⟨_,hans,final,hle',hfi⟩ := hn.race_steps has haf hrea
    have hl := hn.steps after
    exact resolveWorkflowApply_lost hl.scopes hcm ho (fun hdo => hl.answers _ (hans hgi) (.inr hdo))
      hfi (by omega)
  · obtain ⟨hp⟩ := hg
    have hc := version_of_satisfied hd (hap.satisfied _ version_mem_commitConditions)
    rw [hv] at hc
    obtain rfl := Except.ok.inj hc
    exact absurd ha (Nat.lt_irrefl _)

/-- A batch that is not applied changes nothing but the position. -/
theorem RetryHeld.unchanged (h : RetryHeld crypto format run) {limits : StateMachineLimits}
    {metadata : StateMachineMetadata M}
    (hs : (run.step crypto format (.apply index limits metadata)).appliedAnswers = run.appliedAnswers)
    {address : StorageKey StoreKey} (had : address.columnFamily ≠ raftStateMetaCf) :
    (run.step crypto format (.apply index limits metadata)).state.db[address]? = run.state.db[address]? := by
  rw [RetryRun.step] at hs ⊢
  cases hpr : run.proposals[index]? with
  | none => rfl
  | some found =>
    obtain ⟨request,batch⟩ := found
    have hg : Genuine crypto format request batch := h.genuine _ (mem_of_getElem? hpr)
    rcases h.apply_cases hg limits metadata with ⟨response,_,_,_,hap⟩ | ⟨_,hap⟩
    · simp only [hap]
      exact write_position had
    · have hgr : (run.applied request (run.state.apply format batch limits metadata)).appliedAnswers =
          run.appliedAnswers ++ [⟨request, appliedResponse batch⟩] := by
        rw [hap]
        exact appliedAnswers_accepted rfl
      simp only [hpr] at hs
      rw [hgr] at hs
      simpa using congrArg List.length hs

end Race

namespace Sample

/-- Two commands of one idempotency key race for the second version of the order. -/
def raceSteps : List (RetryStep Nat) :=
  [.prepare 0 (request (.lit "start") 0 ["start:1"] 1) (nonces 1), .apply 0 limits metadata,
    .prepare 9 (request (.lit "next") 1 ["next:2"] 2) (nonces 2),
    .prepare 9 { request (.lit "rival") 1 ["rival:2"] 2 with idempotencyKey := .lit "next" } (nonces 3),
    .apply 2 limits metadata, .apply 1 limits metadata, .resolve 9 2]

end Sample

open BpmpPlatform.Store.Sample

end BpmpPlatform.Store
