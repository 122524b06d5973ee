import BpmpPlatform.Library.Log
import BpmpPlatform.Store.CommitPaths
import BpmpPlatform.Store.Load

/-! # When both paths agree

The paths answer alike exactly when the conditions of the batch fail no more often than the checks of the direct path.
-/
namespace BpmpPlatform.Store
open Std Outcome Replication BpmpPlatform.Store.Sample

section Agree
variable {events : MessageFormat Wire.EventEnvelope} {snapshots : MessageFormat Wire.WorkflowSnapshot} {C M : Type}
  {crypto : PayloadCrypto (Plaintext events snapshots) C} {format : RocksFormat StoreKey (StoreValue C M) M}
  {limits : StateMachineLimits} {metadata : StateMachineMetadata M} {request : CommitRequest}
  {state : RocksState StoreKey (StoreValue C M)} {nonces nonces' : Nonces}

variable {encrypted encrypted' : Encrypted C} {error : StoreError} {db : Db C M} {tail : Nat}

section
variable (hvalid : validateRequest request = .ok ())
include hvalid

theorem auditKey_eq (hen : encryptRequest crypto nonces request = .ok encrypted) :
    encrypted.audit.1 = authorizationAuditStorageKey request.tenantId request.commandId := by
  obtain ⟨ht,hcm⟩ := audit_of_valid request hvalid
  rw [(encryptRequest_spec hen).auditKey, ht, hcm]

theorem commitDirectly_unencrypted (hen : encryptRequest crypto nonces request = .error error) :
    (commitDirectly crypto request state nonces).1 = .error error := by
  unfold commitDirectly commit
  rw [hvalid, ok_bind, hen]
  rfl

/-- The audit and the identities of the events stand in the way of neither a batch that applies nor of the direct path. -/
theorem applies_admitted (hen : encryptRequest crypto nonces request = .ok encrypted)
    (h : Applies format limits db (workflowBatch request format db encrypted tail)) :
    audited request db = false ∧ (numbered tail encrypted.events).any (recorded request db) = false := by
  constructor
  · have hm := satisfied_missing_iff.mp (h.satisfied _ audit_mem_commitConditions)
    rw [audited, ← auditKey_eq hvalid hen, hm]
    rfl
  · rw [List.any_eq_false]
    intro eventId hin
    obtain ⟨event,hev,rfl⟩ := List.mem_map.mp (List.mem_of_mem_take hin)
    have hm := satisfied_missing_iff.mp (h.satisfied _ (dedup_mem_commitConditions hev))
    rw [recorded, hm]
    exact Bool.false_ne_true

end

theorem submitted_applies
    (h : Applies format limits state.db (workflowBatch request format db encrypted tail)) :
    (appliedAnswer request state (state.apply format (workflowBatch request format db encrypted tail)
      limits metadata)).1 = .ok (.committed request.result) := by
  rcases submitted_total format limits metadata state db encrypted tail with
    ⟨_,error,hrd,_⟩ | ⟨_,previous,hrd,_,_⟩ | ⟨hre,_⟩ | ⟨_,ha⟩
  · exact absurd h.fresh hrd.not_fresh
  · exact absurd h.fresh hrd.not_fresh
  · exact absurd h hre.unapplied
  · rw [ha]

theorem numbered_alike (h : encrypted.Alike crypto encrypted') (tail : Nat) :
    numbered tail encrypted.events = numbered tail encrypted'.events := by
  have hids : encrypted.events.map (fun event => event.envelope.metadata.eventId) =
      encrypted'.events.map fun event => event.envelope.metadata.eventId :=
    Outcome.map_eq_of_forall₂ h.events fun event event' hal => by rw [hal.envelope]
  rw [numbered, numbered, hids]

section Unstored
variable (hst : loadResult state.db request.tenantId request.actorId request.idempotencyKey request.commandId = .ok none)
include hst

/-- A request at the right version whose batch is not applied is not answered as the direct path would. -/
theorem submitted_unapplied (metadata : StateMachineMetadata M)
    (hc : checkVersion request state.db = .ok ())
    (h : ¬Applies format limits state.db (workflowBatch request format db encrypted tail)) :
    let answer := (appliedAnswer request state (state.apply format (workflowBatch request format db encrypted tail)
      limits metadata)).1.mapError StoreError.kind
    .error .invalidAuthorizationAudit ≠ answer ∧ .error .duplicateEvent ≠ answer ∧
      .ok (.committed request.result) ≠ answer := by
  rcases submitted_total format limits metadata state db encrypted tail with
    ⟨_,error,_,ha⟩ | ⟨_,previous,_,_,ha⟩ | ⟨_,ha⟩ | ⟨hap,_⟩
  · rw [ha]
    exact ⟨nofun,nofun,nofun⟩
  · rw [ha]
    cases hr : appliedResult request previous with
    | error error =>
      have ha : (CommitOutcome.duplicate <$> (.error error : Except StoreError CommittedResult)).mapError
          StoreError.kind = .error (.corruptData .undecodable) :=
        congrArg Except.error (appliedResult_corrupt request previous error hr)
      rw [ha]
      exact ⟨nofun,nofun,nofun⟩
    | ok => exact ⟨nofun,nofun,nofun⟩
  · rw [ha, reconcileApply_unstored hst, hc]
    exact ⟨nofun,nofun,nofun⟩
  · exact absurd hap h

/-- An outdated request is answered with what is wrong about its version unless a recorded answer stands in the way. -/
theorem submitted_outdated_iff (limits : StateMachineLimits) (metadata : StateMachineMetadata M) (encrypted : Encrypted C)
    (tail : Nat) (hd : VersionDistinct format state.db request)
    (he : checkVersion request state.db = .error error) :
    let batch := workflowBatch request format state.db encrypted tail
    Except.error error.kind = (appliedAnswer request state (state.apply format batch limits metadata)).1.mapError
      StoreError.kind ↔ Outdated format limits request state.db batch := by
  intro batch
  have hk : error.kind ≠ .unavailable "" := by
    rcases checkVersion_error he with ⟨hc,_⟩ | ⟨actual,rfl,_,_⟩
    · rw [hc]
      exact nofun
    · exact nofun
  have huni : ∀ {recorded recorded'}, Replication.Recorded format state.db (resultKey request) recorded →
      Replication.Recorded format state.db (resultKey request) recorded' → recorded = recorded' := by
    rintro _ _ ⟨hb⟩ ⟨hb'⟩
    rw [Option.some.inj (hb.symm.trans hb')]
  rcases submitted_total format limits metadata state state.db encrypted tail with
    ⟨hvalid,reason,hrd,ha⟩ | ⟨hvalid,previous,hrd,han,ha⟩ | ⟨hre,ha⟩ | ⟨hap,_⟩
  · rw [ha]
    constructor
    · intro h
      exact absurd (Except.error.inj h) hk
    · intro hou
      obtain ⟨previous,h,_⟩ := hou hvalid _ hrd
      cases h
  · rw [ha]
    constructor
    · intro h _ recorded ho
      refine ⟨previous,huni ho hrd,fun _ => ?_⟩
      cases hr : appliedResult request previous with
      | ok =>
        rw [hr] at h
        cases h
      | error cause =>
        rw [hr] at h
        have hc := appliedResult_corrupt request previous cause hr
        have hki : error.kind = .corruptData .undecodable := (Except.error.inj h).trans hc
        refine ⟨?_,cause,rfl⟩
        rcases checkVersion_error he with ⟨_,hv⟩ | ⟨actual,rfl,_,_⟩
        · exact hv
        · cases hki
    · intro hou
      obtain ⟨other,hs,hfa⟩ := hou hvalid _ hrd
      obtain rfl : previous = other := Except.ok.inj hs
      obtain ⟨⟨cause,hv⟩,cause',hr⟩ := hfa han
      have hc : error.IsCorrupt := by
        rcases checkVersion_error he with ⟨hc,_⟩ | ⟨actual,_,_,hact⟩
        · exact hc
        · rw [hv] at hact
          cases hact
      have hc' : cause'.IsCorrupt := appliedResult_corrupt request previous cause' hr
      rw [hr, hc]
      exact congrArg Except.error hc'.symm
  · rw [ha, reconcileApply_unstored hst, he]
    refine iff_of_true rfl fun hvalid recorded hrd => ?_
    obtain ⟨previous,hs,hun⟩ := hre.unanswered hvalid recorded hrd
    exact ⟨previous,hs,fun han => absurd han hun⟩
  · have hv := version_of_satisfied hd (hap.satisfied _ version_mem_commitConditions)
    rw [checkVersion_eq_ok.mpr hv] at he
    cases he

variable (hvalid : validateRequest request = .ok ())
include hvalid

theorem commitReplicated_unencrypted
    (hen : encryptRequest crypto nonces request = .error error) :
    (commitReplicated crypto format limits metadata request state nonces).1 = .error error := by
  unfold commitReplicated prepareWorkflowBatch
  rw [hvalid, ok_bind, hst, ok_bind]
  simp only [hen]
  rfl

variable (hen : encryptRequest crypto nonces request = .ok encrypted)
include hen

theorem commitDirectly_unstored :
    (commitDirectly crypto request state nonces).1 = (do
      checkVersion request state.db
      let tail ← readU64Value state.db outboxMetaCf outboxTailKey
      if audited request state.db then .error .invalidAuthorizationAudit
      else if (numbered tail encrypted.events).any (recorded request state.db) then .error .duplicateEvent
      else if encrypted.events.length ≤ u64Max - tail then .ok (.committed request.result)
      else .error (.unavailable "outbox sequence overflow")) := by
  have hn : state.db[StorageKey.mk authorizationAuditCf encrypted.audit.1]?.isNone =
      !audited request state.db := by
    rw [auditKey_eq hvalid hen, audited, Option.not_isSome]
  unfold commitDirectly commit checkVersion
  rw [hvalid, ok_bind, hen, ok_bind, hst, ok_bind]
  simp only
  cases readVersion state.db request.tenantId request.instanceId with
  | error => rfl
  | ok actual =>
    rw [ok_bind, ok_bind]
    cases actual == request.expectedVersion with
    | false => rfl
    | true =>
      cases readU64Value state.db outboxMetaCf outboxTailKey with
      | error => rfl
      | ok =>
        simp only [ensure, if_true, ok_bind, buildCommitBatch_eq, hn]
        cases audited request state.db with
        | true => rfl
        | false =>
          simp only [Bool.not_false, if_true, Bool.false_eq_true, if_false]
          split
          · rfl
          · split
            · rfl
            · rfl

theorem commitReplicated_unstored :
    (commitReplicated crypto format limits metadata request state nonces).1 = (do
      let tail ← readU64Value state.db outboxMetaCf outboxTailKey
      if distinct [] (numbered tail encrypted.events) then
        if encrypted.events.length ≤ u64Max - tail then
          (appliedAnswer request state (state.apply format (workflowBatch request format state.db encrypted tail)
            limits metadata)).1
        else .error (.unavailable "outbox sequence overflow")
      else .error .duplicateEvent) := by
  unfold commitReplicated prepareWorkflowBatch
  rw [hvalid, ok_bind, hst, ok_bind]
  simp only [hen, ok_bind, buildPreparedWorkflowBatch_eq]
  cases readU64Value state.db outboxMetaCf outboxTailKey with
  | error => rfl
  | ok =>
    simp only [ok_bind]
    split
    · split
      · rfl
      · rfl
    · rfl

theorem alignedAt_iff (hd : VersionDistinct format state.db request)
    (hen' : encryptRequest crypto nonces' request = .ok encrypted') (hal : encrypted.Alike crypto encrypted')
    (ht : readU64Value state.db outboxMetaCf outboxTailKey = .ok tail) :
    (commitDirectly crypto request state nonces).1.mapError StoreError.kind =
      (commitReplicated crypto format limits metadata request state nonces').1.mapError StoreError.kind ↔
    AlignedAt format limits request state.db encrypted' tail := by
  rw [commitDirectly_unstored hst hvalid hen, commitReplicated_unstored hst hvalid hen', ht]
  simp only [ok_bind, numbered_alike hal, hal.events.length_eq, AlignedAt, ← checkVersion_eq_ok]
  by_cases hr : distinct [] (numbered tail encrypted'.events) = true ∧
    encrypted'.events.length ≤ u64Max - tail
  · simp only [hr.1, hr.2, if_true, and_self, not_true_eq_false, false_implies, and_true, true_implies]
    cases hc : checkVersion request state.db with
    | error =>
      have hiff := submitted_outdated_iff hst limits metadata encrypted' tail hd hc
      simp only [reduceCtorEq, false_implies, not_false_eq_true, true_implies, true_and]
      exact hiff
    | ok =>
      simp only [ok_bind, true_implies, not_true_eq_false, false_implies, and_true]
      by_cases hap : Applies format limits state.db (workflowBatch request format state.db encrypted' tail)
      · refine iff_of_true ?_ hap
        obtain ⟨hau,hrd⟩ := applies_admitted hvalid hen' hap
        rw [hau, hrd, submitted_applies hap]
        rfl
      · refine iff_of_false ?_ hap
        obtain ⟨ha,hdu,hco⟩ := submitted_unapplied hst metadata hc hap
        split
        · exact ha
        · split
          · exact hdu
          · exact hco
  · simp only [hr, false_implies, true_and, not_false_eq_true, true_implies]
    have hun : (if distinct [] (numbered tail encrypted'.events) = true then
        if encrypted'.events.length ≤ u64Max - tail then
          (appliedAnswer request state (state.apply format (workflowBatch request format state.db encrypted' tail)
            limits metadata)).1
        else .error (.unavailable "outbox sequence overflow")
      else .error .duplicateEvent) = if distinct [] (numbered tail encrypted'.events) = true then
        .error (.unavailable "outbox sequence overflow") else .error .duplicateEvent := by
      split
      · rename_i hids
        rw [if_neg fun hf => hr ⟨hids,hf⟩]
      · rfl
    rw [hun]
    cases hc : checkVersion request state.db with
    | error error =>
      refine iff_of_false ?_ fun h => by cases h.1
      have hki : error.kind ≠ .unavailable "" ∧ error.kind ≠ .duplicateEvent := by
        rcases checkVersion_error hc with ⟨hcor,_⟩ | ⟨actual,rfl,_,_⟩
        · rw [hcor]
          exact ⟨by rintro ⟨⟩,by rintro ⟨⟩⟩
        · exact ⟨by rintro ⟨⟩,by rintro ⟨⟩⟩
      cases distinct [] (numbered tail encrypted'.events) with
      | true => exact fun h => hki.1 (Except.error.inj h)
      | false => exact fun h => hki.2 (Except.error.inj h)
    | ok =>
      simp only [ok_bind, true_and]
      cases audited request state.db with
      | true =>
        refine iff_of_false ?_ fun h => by cases h.1
        cases distinct [] (numbered tail encrypted'.events) with
        | true | false => rintro ⟨⟩
      | false =>
        simp only [Bool.false_eq_true, if_false, true_and]
        cases hids : distinct [] (numbered tail encrypted'.events) with
        | true =>
          have hfu : ¬encrypted'.events.length ≤ u64Max - tail := fun hf => hr ⟨hids,hf⟩
          rw [if_neg hfu]
          cases (numbered tail encrypted'.events).any (recorded request state.db) with
          | true => exact iff_of_false (by rintro ⟨⟩) Bool.noConfusion
          | false => exact iff_of_true rfl rfl
        | false =>
          cases (numbered tail encrypted'.events).any (recorded request state.db) with
          | true => exact iff_of_true rfl rfl
          | false =>
            refine iff_of_false ?_ Bool.noConfusion
            simp only [Bool.false_eq_true, if_false]
            split
            · rintro ⟨⟩
            · rintro ⟨⟩

/-- The tail of the outbox cannot be read: the version is looked at by the direct path only. -/
theorem outcome_tail_iff
    (hen' : encryptRequest crypto nonces' request = .ok encrypted')
    (ht : readU64Value state.db outboxMetaCf outboxTailKey = .error error) :
    (commitDirectly crypto request state nonces).1.mapError StoreError.kind =
      (commitReplicated crypto format limits metadata request state nonces').1.mapError StoreError.kind ↔
    ∀ version, readVersion state.db request.tenantId request.instanceId = .ok version → version = request.expectedVersion := by
  have hc := readU64Value_corrupt state.db outboxMetaCf outboxTailKey error ht
  have hr : (commitReplicated crypto format limits metadata request state nonces').1.mapError StoreError.kind =
      .error (.corruptData .undecodable) := by
    rw [commitReplicated_unstored hst hvalid hen', ht]
    exact congrArg Except.error hc
  rw [hr, commitDirectly_unstored hst hvalid hen, ht]
  cases hchk : checkVersion request state.db with
  | ok =>
    have hv := checkVersion_eq_ok.mp hchk
    refine iff_of_true (congrArg Except.error hc) fun version ha => ?_
    exact Except.ok.inj (ha.symm.trans hv)
  | error =>
    rcases checkVersion_error hchk with ⟨hca,cause',hv⟩ | ⟨actual,rfl,ho,hv⟩
    · exact iff_of_true (congrArg Except.error hca) fun version ha => nomatch hv.symm.trans ha
    · exact iff_of_false (fun h => nomatch Except.error.inj h) fun h => ho (h actual hv)

end Unstored

/-- A command with a stored result, or with one that cannot be read. -/
theorem outcome_stored_iff (stored : Except StoreError CommittedResult) (hvalid : validateRequest request = .ok ())
    (hst : loadResult state.db request.tenantId request.actorId request.idempotencyKey request.commandId =
      some <$> stored) : (commitDirectly crypto request state nonces).1.mapError StoreError.kind =
      (commitReplicated crypto format limits metadata request state nonces').1.mapError StoreError.kind ↔
    (∃ encrypted, encryptRequest crypto nonces' request = .ok encrypted) ∧
      (stored.isOk = true → audited request state.db = true) := by
  have hr : (commitReplicated crypto format limits metadata request state nonces').1 = .duplicate <$> stored := by
    unfold commitReplicated prepareWorkflowBatch
    rw [hvalid, ok_bind, hst]
    cases stored with
    | error | ok => rfl
  rw [hr]
  have hfa := loadResult_failsWith state.db request.tenantId request.actorId request.idempotencyKey request.commandId
  cases hen : encryptRequest crypto nonces request with
  | error error =>
    have hen' := (encryptRequest_alike crypto nonces nonces' request).error_of_error hen
    rw [commitDirectly_unencrypted hvalid hen]
    obtain rfl := encryptRequest_failsWith request crypto nonces error hen
    refine iff_of_false ?_ ?_
    · cases stored with
      | ok => exact nofun
      | error cause =>
        intro h
        have hk : StoreError.cryptoUnavailable = cause.kind := Except.error.inj h
        rcases hfa cause hst with hc | rfl
        · rw [hc] at hk
          cases hk
        · cases hk
    · rintro ⟨⟨encrypted,h⟩,_⟩
      rw [hen'] at h
      cases h
  | ok =>
    obtain ⟨encrypted',hen',_⟩ := (encryptRequest_alike crypto nonces nonces' request).exists_of_ok hen
    have hd : (commitDirectly crypto request state nonces).1 = (do
        let result ← stored
        ensure (audited request state.db) (.corruptData (.detail "idempotency result exists without authorization audit"))
        return .duplicate result) := by
      unfold commitDirectly commit
      rw [hvalid, ok_bind, hen, ok_bind, hst]
      cases stored with
      | error => rfl
      | ok =>
        show (directAnswer state (ensure (audited request state.db) _ >>= _)).1 = _
        cases hau : audited request state.db with
        | true | false => rfl
    rw [hd]
    cases stored with
    | error => exact iff_of_true rfl ⟨⟨encrypted',hen'⟩,nofun⟩
    | ok =>
      cases audited request state.db with
      | true => exact iff_of_true rfl ⟨⟨encrypted',hen'⟩,fun _ => rfl⟩
      | false => exact iff_of_false nofun fun h => nomatch h.2 rfl

theorem outcome_iff (hd : VersionDistinct format state.db request) :
    (commitDirectly crypto request state nonces).1.mapError StoreError.kind =
      (commitReplicated crypto format limits metadata request state nonces').1.mapError StoreError.kind ↔
    Aligned crypto format limits request state.db nonces' := by
  cases hvalid : validateRequest request with
  | error error =>
    have hdi : (commitDirectly crypto request state nonces).1 = .error error := by
      unfold commitDirectly commit
      rw [hvalid]
      rfl
    have hr : (commitReplicated crypto format limits metadata request state nonces').1 = .error error := by
      unfold commitReplicated prepareWorkflowBatch
      rw [hvalid]
      rfl
    rw [hdi, hr]
    exact iff_of_true rfl fun h => nomatch hvalid.symm.trans h
  | ok =>
    simp only [Aligned, hvalid, true_implies]
    cases hst : loadResult state.db request.tenantId request.actorId request.idempotencyKey request.commandId with
    | error error =>
      rw [outcome_stored_iff (.error error) hvalid hst]
      exact and_iff_left nofun
    | ok stored =>
      cases stored with
      | some result =>
        rw [outcome_stored_iff (.ok result) hvalid hst]
        exact and_congr_right fun _ => ⟨fun h => h rfl,fun h _ => h⟩
      | none =>
        simp only
        cases hen : encryptRequest crypto nonces request with
        | error =>
          have hen' := (encryptRequest_alike crypto nonces nonces' request).error_of_error hen
          refine iff_of_true ?_ fun encrypted h => nomatch hen'.symm.trans h
          rw [commitDirectly_unencrypted hvalid hen, commitReplicated_unencrypted hst hvalid hen']
        | ok =>
          obtain ⟨encrypted',hen',hal⟩ :=
            (encryptRequest_alike crypto nonces nonces' request).exists_of_ok hen
          have hfo : ∀ P : Encrypted C → Prop,
              (∀ other, encryptRequest crypto nonces' request = .ok other → P other) ↔ P encrypted' := by
            intro P
            constructor
            · exact fun h => h encrypted' hen'
            · intro h other ho
              obtain rfl : encrypted' = other := Except.ok.inj (hen'.symm.trans ho)
              exact h
          rw [hfo]
          cases ht : readU64Value state.db outboxMetaCf outboxTailKey with
          | ok =>
            exact alignedAt_iff hst hvalid hen hd hen' hal ht
          | error =>
            exact outcome_tail_iff hst hvalid hen hen' ht

/-- The direct and the replicated path lead to the same outcome and contents exactly when the batch fails no more often
than the checks. -/
theorem commit_paths_agree_iff (crypto : PayloadCrypto (Plaintext events snapshots) C)
    (format : RocksFormat StoreKey (StoreValue C M) M) (limits : StateMachineLimits) (metadata : StateMachineMetadata M)
    (request : CommitRequest) (state : RocksState StoreKey (StoreValue C M))
    (hdistinct : VersionDistinct format state.db request) (nonces nonces' : Nonces) :
    SamePaths crypto (commitDirectly crypto request state nonces)
      (commitReplicated crypto format limits metadata request state nonces') ↔
    Aligned crypto format limits request state.db nonces' := by
  constructor
  · exact fun h => (outcome_iff hdistinct).mp h.outcome
  · intro h
    exact ⟨(outcome_iff hdistinct).mpr h,contents_of_outcome ((outcome_iff hdistinct).mpr h)⟩

end Agree

/-- The first request of a stream. -/
theorem commit_paths_agree_iff_first :
    let request := request (.lit "start") 0 ["start:1"] 1
    let state : RocksState StoreKey (StoreValue _ Nat) := ⟨∅, 4096⟩
    SamePaths crypto (commitDirectly crypto request state (nonces 1))
      (commitReplicated crypto format limits metadata request state (nonces 2)) := by
  refine (commit_paths_agree_iff crypto format limits metadata (request (.lit "start") 0 ["start:1"] 1)
    ⟨∅, 4096⟩ versionDistinct_empty (nonces 1) (nonces 2)).mpr fun _ => ?_
  intro encrypted hencrypted
  cases hencrypted
  refine ⟨fun _ => ⟨fun _ => ⟨?_,?_,?_⟩,fun h => absurd ?_ h⟩,fun h => absurd ?_ h⟩
  · decide +kernel
  · decide +kernel
  · decide +kernel
  · decide +kernel
  · decide +kernel

namespace Sample

def repeated : CommitRequest := request (.lit "start") 0 ["start:1", "start:1"] 2

def again : CommitRequest := { request (.lit "start") 1 ["again:2"] 2 with idempotencyKey := .lit "again" }

end Sample

/-- A repeated identity is committed by the direct path only; a command that returns under another idempotency key is
refused by the direct path and unavailable in the replicated one. -/
theorem commit_paths_disagree :
    let start : RocksState StoreKey (StoreValue _ Nat) := ⟨∅, 4096⟩
    let first := (commitDirectly crypto (request (.lit "start") 0 ["start:1"] 1) start (nonces 1)).2
    let direct := fun request state => (commitDirectly crypto request state (nonces 2)).1
    let replicated := fun request state => (commitReplicated crypto format limits metadata
      request state (nonces 3)).1
    direct repeated start = .ok (.committed repeated.result) ∧
      replicated repeated start = .error .duplicateEvent ∧
      direct again first = .error .invalidAuthorizationAudit ∧
      replicated again first = .error (.unavailable "authoritative workflow precondition failed") := by
  refine ⟨?_,?_,?_,?_⟩
  · decide +kernel
  · decide +kernel
  · decide +kernel
  · decide +kernel

end BpmpPlatform.Store
