import BpmpPlatform.Engine.SignalIsolation

/-! # Projection batches of the durable store

The mutations of a batch read the database as it is before the batch. As long as none touches a boundary event that an
earlier one has armed, a batch does what its mutations do one by one.
-/
namespace BpmpPlatform
open Std Outcome Storage BoundaryDb MemoryBoundaryState BoundarySubscriptionRecord BoundarySubscriptionKey List
open BoundaryProjectionMutation BoundaryRuntimeError

/-- When a timer is due; a record without a schedule and a dead-lettered one are not in the index. -/
def BoundarySubscriptionRecord.due (r : BoundarySubscriptionRecord) : Option Nat :=
  if r.timerSchedule.isSome && !r.deadLettered then some r.availableAtEpochMs else none

def BoundarySubscriptionRecord.scheduledAt (r : BoundarySubscriptionRecord) : Option Nat :=
  if r.timerSchedule.isSome then some r.availableAtEpochMs else none

def BoundaryProjectionMutation.removes (m : BoundaryProjectionMutation) (r : BoundarySubscriptionRecord) : Bool :=
  match m with
  | .upsert _ => false
  | .disarmBoundary key => r.key == key
  | .disarmAttached tenantId instanceId attachedNodeId =>
    r.key.isOf tenantId instanceId && r.attachedNodeId == attachedNodeId
  | .removeInstance tenantId instanceId => r.key.isOf tenantId instanceId

/-- The mutation touches a boundary event that is being armed: it arms it again, or it removes the new record or
the one there is in the database. -/
def Touches (db : BoundaryDb) (m : BoundaryProjectionMutation) (s : ProjectedBoundarySubscription) : Prop :=
  (∃ s', m = .upsert s' ∧ s'.key = s.key) ∨ m.removes (subscriptionToRecord s) = true ∨
    ∃ r, db.subscriptions[s.key.storage]? = some r ∧ m.removes r = true

def SeparateArmings (db : BoundaryDb) (mutations : List BoundaryProjectionMutation) : Prop :=
  mutations.Pairwise fun m m' => ∀ s, m = .upsert s → ¬Touches db m' s

/-- The subscription column families are in order: records stand under their key, the index lists those that
wait, and only those are leased. -/
structure TimersIndexed (db : BoundaryDb) : Prop where
  keyed : RecordsKeyed db
  exact : Exact BoundarySubscriptionRecord.due db.subscriptions db.timerIndex
  leased : ∀ (k : StorageKey) r, db.subscriptions[k]? = some r → r.workerId ≠ "" → r.due = some r.availableAtEpochMs

variable {D db : BoundaryDb} {k : StorageKey} {r : BoundarySubscriptionRecord} {m : BoundaryProjectionMutation}
  {mutations : List BoundaryProjectionMutation} {claim : ClaimedTimer}

section Writes
variable {t : Nat}

theorem BoundarySubscriptionRecord.due_eq_some : r.due = some t ↔
    r.timerSchedule.isSome = true ∧ r.deadLettered = false ∧ r.availableAtEpochMs = t := by
  simp only [due, Option.ite_none_right_eq_some, Bool.and_eq_true, Bool.not_eq_true', Option.some.injEq, and_assoc]

theorem BoundarySubscriptionRecord.scheduledAt_of_due (h : r.due = some t) : r.scheduledAt = some t := by
  obtain ⟨hs,-,ht⟩ := due_eq_some.mp h
  rw [scheduledAt, if_pos hs, ht]

def Kept (D db : BoundaryDb) (k : StorageKey) : Prop :=
  db.subscriptions[k]? = D.subscriptions[k]? ∨ db.subscriptions[k]? = none

theorem Kept.due (h : Kept D db k) (ht : db.subscriptions[k]?.bind BoundarySubscriptionRecord.due = some t) :
    D.subscriptions[k]?.bind scheduledAt = some t := by
  rcases h with h | h
  · rw [h] at ht
    obtain ⟨r,hr,hdue⟩ := Option.bind_eq_some_iff.mp ht
    exact Option.bind_eq_some_iff.mpr ⟨r,hr,scheduledAt_of_due hdue⟩
  · rw [h] at ht
    cases ht

theorem write_upsert (D db : BoundaryDb) (s : ProjectedBoundarySubscription) :
    db.writeBatch (D.mutationWrites (.upsert s)) = { db with
      subscriptions := db.subscriptions.insert s.key.storage (subscriptionToRecord s)
      timerIndex := indexed (unindexed db.timerIndex s.key.storage
        (D.subscriptions[s.key.storage]?.bind scheduledAt))
        s.key.storage (subscriptionToRecord s).due } := by
  have hdue : (subscriptionToRecord s).due = (subscriptionToRecord s).scheduledAt := by
    cases hs : s.timerSchedule <;>
      simp [due, scheduledAt, subscriptionToRecord, hs]
  rw [hdue]
  simp only [mutationWrites]
  cases D.subscriptions[s.key.storage]? with
  | none =>
    simp only [scheduledAt]
    split <;> rfl
  | some existing =>
    simp only [Option.bind_some, scheduledAt]
    split <;> split <;> rfl

/-- Writing a record that nobody leases, with the index entry of the old one moved. -/
theorem TimersIndexed.insert {new : BoundarySubscriptionRecord} {old : Option Nat} (h : TimersIndexed db)
    (hkey : new.key.storage = k) (hw : new.workerId = "")
    (hold : ∀ t, db.subscriptions[k]?.bind due = some t → old = some t) :
    TimersIndexed { db with
      subscriptions := db.subscriptions.insert k new
      timerIndex := indexed (unindexed db.timerIndex k old) k new.due } := by
  refine ⟨fun k' r hr => ?_,h.exact.insert hold new,fun k' r hr hl => ?_⟩
  · rcases of_getElem?_insert hr with ⟨heq,rfl⟩ | hr
    · exact hkey.trans heq
    · exact h.keyed k' r hr
  · rcases of_getElem?_insert hr with ⟨-,rfl⟩ | hr
    · exact absurd hw hl
    · exact h.leased k' r hr hl

theorem TimersIndexed.upsert (h : TimersIndexed db) (s : ProjectedBoundarySubscription)
    (hk : Kept D db s.key.storage) : TimersIndexed (db.writeBatch (D.mutationWrites (.upsert s))) := by
  rw [write_upsert]
  exact h.insert rfl rfl fun t ht => hk.due ht

theorem write_deleteRecord (db : BoundaryDb) (k : StorageKey) (r : BoundarySubscriptionRecord) :
    db.writeBatch (deleteRecord k r) = { db with
      subscriptions := db.subscriptions.erase k
      timerIndex := unindexed db.timerIndex k r.scheduledAt } := by
  unfold deleteRecord scheduledAt
  split <;> rfl

theorem TimersIndexed.delete (h : TimersIndexed db)
    (hr : db.subscriptions[k]? = some r ∨ db.subscriptions[k]? = none) :
    TimersIndexed (db.writeBatch (deleteRecord k r)) := by
  have hold (t : Nat) (ht : db.subscriptions[k]?.bind due = some t) :
      r.scheduledAt = some t := by
    rcases hr with hr | hr
    · rw [hr] at ht
      exact scheduledAt_of_due ht
    · rw [hr] at ht
      cases ht
  rw [write_deleteRecord]
  have hs {k' : StorageKey} {r' : BoundarySubscriptionRecord} (hr' : (db.subscriptions.erase k)[k']? = some r') :
      db.subscriptions[k']? = some r' := of_getElem?_erase hr'
  exact ⟨fun k' r' hr' => h.keyed k' r' (hs hr'),h.exact.erase hold,fun k' r' hr' => h.leased k' r' (hs hr')⟩

theorem TimersIndexed.deletes {entries : List (StorageKey × BoundarySubscriptionRecord)} (h : TimersIndexed db)
    (hes : ∀ p ∈ entries, db.subscriptions[p.1]? = some p.2 ∨ db.subscriptions[p.1]? = none) :
    TimersIndexed (db.writeBatch (entries.flatMap fun p => deleteRecord p.1 p.2)) := by
  induction entries generalizing db with
  | nil => exact h
  | cons p entries ih =>
    rw [flatMap_cons, writeBatch_append]
    refine ih (h.delete (hes p mem_cons_self)) fun q hq => ?_
    rw [write_deleteRecord]
    simp only [getElem?_erase_eq]
    split
    · exact .inr rfl
    · exact hes q (mem_cons_of_mem _ hq)

theorem deletes_subscription (entries : List (StorageKey × BoundarySubscriptionRecord)) (db : BoundaryDb)
    (k : StorageKey) : (db.writeBatch (entries.flatMap fun p => deleteRecord p.1 p.2)).subscriptions[k]? =
      if k ∈ entries.map Prod.fst then none else db.subscriptions[k]? := by
  induction entries generalizing db with
  | nil => rfl
  | cons p entries ih =>
    rw [flatMap_cons, writeBatch_append, ih, write_deleteRecord]
    simp only [getElem?_erase_eq, map_cons, mem_cons]
    by_cases hk : p.1 = k
    · simp [hk]
    · simp only [if_neg hk, Ne.symm hk, false_or]

def BoundaryDb.removed (db : BoundaryDb) (m : BoundaryProjectionMutation) : List (StorageKey × BoundarySubscriptionRecord) :=
  match m with
  | .upsert _ => []
  | .disarmBoundary key =>
    match db.subscriptions[key.storage]? with
    | some record => [(key.storage, record)]
    | none => []
  | .disarmAttached tenantId instanceId attachedNodeId =>
    (db.scanSubscriptions tenantId instanceId).filter fun entry => entry.2.attachedNodeId = attachedNodeId
  | .removeInstance tenantId instanceId => db.scanSubscriptions tenantId instanceId

theorem mutationWrites_removed (hm : ∀ s, m ≠ .upsert s) :
    D.mutationWrites m = (D.removed m).flatMap fun p => deleteRecord p.1 p.2 := by
  cases m with
  | upsert s => exact absurd rfl (hm s)
  | disarmBoundary key =>
    simp only [mutationWrites, removed]
    cases D.subscriptions[key.storage]? <;> simp
  | disarmAttached tenantId instanceId attachedNodeId =>
    simp only [mutationWrites, removed]
    induction D.scanSubscriptions tenantId instanceId with
    | nil => rfl
    | cons p entries ih =>
      rw [flatMap_cons, ih, filter_cons]
      by_cases hp : p.2.attachedNodeId = attachedNodeId <;> simp [hp]
  | removeInstance => rfl

theorem prefix_storage_iff {key : BoundarySubscriptionKey} {tenantId : TenantId} {instanceId : InstanceId} :
    (boundarySubscriptionPrefix tenantId instanceId).isPrefixOf key.storage = key.isOf tenantId instanceId := by
  rw [Bool.eq_iff_iff, isPrefixOf_iff_prefix]
  simp [boundarySubscriptionPrefix, storage, isOf, cons_prefix_cons, Identifier.ext_value_iff]
  exact and_congr eq_comm eq_comm

theorem mem_removed (hkey : RecordsKeyed D) :
    (k, r) ∈ D.removed m ↔ D.subscriptions[k]? = some r ∧ m.removes r = true := by
  have hs {tenantId : TenantId} {instanceId : InstanceId} :
      (k, r) ∈ D.scanSubscriptions tenantId instanceId ↔
        D.subscriptions[k]? = some r ∧ r.key.isOf tenantId instanceId = true := by
    simp only [scanSubscriptions, mem_filter, ExtTreeMap.mem_toList_iff_getElem?_eq_some]
    refine and_congr_right fun hr => ?_
    rw [← hkey k r hr, prefix_storage_iff]
  cases m with
  | upsert => simp [removed, removes]
  | disarmBoundary key =>
    have hone : (k, r) ∈ D.removed (.disarmBoundary key) ↔ D.subscriptions[k]? = some r ∧ k = key.storage := by
      unfold removed
      cases hget : D.subscriptions[key.storage]? <;> grind
    rw [hone, removes, beq_iff_eq]
    refine and_congr_right fun hr => ?_
    rw [← hkey k r hr, storage_injective.eq_iff]
  | disarmAttached =>
    simp only [removed, removes, mem_filter, hs, Bool.and_eq_true, decide_eq_true_eq, beq_iff_eq, and_assoc]
  | removeInstance => exact hs

theorem mem_removed_keys (hk : RecordsKeyed D) :
    k ∈ (D.removed m).map Prod.fst ↔ D.subscriptions[k]?.any m.removes = true := by
  simp only [mem_map, Prod.exists, mem_removed hk, Option.any_eq_true]
  constructor
  · rintro ⟨_,r,⟨hr,hm⟩,rfl⟩; exact ⟨r,hr,hm⟩
  · rintro ⟨r,hr,hm⟩; exact ⟨k,r,⟨hr,hm⟩,rfl⟩

end Writes

section Batches
variable {before : List BoundaryProjectionMutation}

def BoundaryDb.mutate (db : BoundaryDb) (m : BoundaryProjectionMutation) : BoundaryDb := db.writeBatch (db.mutationWrites m)

/-- After the first mutations of a batch a record is the one before the batch, gone, or one that is armed. -/
def Traced (D : BoundaryDb) (before : List BoundaryProjectionMutation) (db : BoundaryDb) : Prop :=
  ∀ k : StorageKey, Kept D db k ∨ ∃ s, .upsert s ∈ before ∧ s.key.storage = k ∧
    db.subscriptions[k]? = some (subscriptionToRecord s)

theorem Traced.refl (db : BoundaryDb) : Traced db [] db := fun _ => .inl (.inl rfl)

theorem removal_subscription (hk : RecordsKeyed D) (hm : ∀ s, m ≠ .upsert s) (k : StorageKey) :
    (db.writeBatch (D.mutationWrites m)).subscriptions[k]? =
      if D.subscriptions[k]?.any m.removes then none else db.subscriptions[k]? := by
  rw [mutationWrites_removed hm, deletes_subscription]
  simp only [mem_removed_keys hk]

/-- A mutation that does not touch what is armed finds what it looks for. -/
theorem Traced.kept (htr : Traced D before db) (hm : ∀ s, .upsert s ∈ before → ¬Touches D m s)
    (hk : D.subscriptions[k]?.any m.removes = true) : Kept D db k := by
  rcases htr k with hke | ⟨s,hs,rfl,_⟩
  · exact hke
  · obtain ⟨r,hr,hre⟩ := (Option.any_eq_true _ _).mp hk
    exact absurd (.inr (.inr ⟨r,hr,hre⟩)) (hm s hs)

theorem TimersIndexed.removal (h : TimersIndexed db) (hk : RecordsKeyed D) (htr : Traced D before db)
    (hm : ∀ s, .upsert s ∈ before → ¬Touches D m s) (hrem : ∀ s, m ≠ .upsert s) :
    TimersIndexed (db.writeBatch (D.mutationWrites m)) := by
  rw [mutationWrites_removed hrem]
  refine h.deletes fun p hp => ?_
  obtain ⟨hr,hre⟩ := (mem_removed hk).mp hp
  rcases htr.kept hm ((Option.any_eq_true _ _).mpr ⟨p.2,hr,hre⟩) with hke | hg
  · exact .inl (hke.trans hr)
  · exact .inr hg

theorem removal_subscription_eq (h : RecordsKeyed db) (hk : RecordsKeyed D) (htr : Traced D before db)
    (hm : ∀ s, .upsert s ∈ before → ¬Touches D m s) (hrem : ∀ s, m ≠ .upsert s) :
    (db.writeBatch (D.mutationWrites m)).subscriptions = (db.mutate m).subscriptions := by
  apply ExtTreeMap.ext_getElem?
  intro k
  rw [mutate, removal_subscription hk hrem, removal_subscription h hrem]
  rcases htr k with (hke | hg) | ⟨s,hs,rfl,har⟩
  · rw [hke]
  · simp [hg]
  · have hnot := hm s hs
    have hnew : m.removes (subscriptionToRecord s) = false := by
      by_contra hre
      exact hnot (.inr (.inl (by simpa using hre)))
    have hold : D.subscriptions[s.key.storage]?.any m.removes = false := by
      by_contra hre
      obtain ⟨r,hr,hr'⟩ := (Option.any_eq_true _ _).mp (by simpa using hre)
      exact hnot (.inr (.inr ⟨r,hr,hr'⟩))
    rw [hold, har]
    simp [hnew]

theorem upsert_kept (htr : Traced D before db) {s : ProjectedBoundarySubscription}
    (hm : ∀ s', .upsert s' ∈ before → ¬Touches D (.upsert s) s') : Kept D db s.key.storage := by
  rcases htr s.key.storage with hk | ⟨s',hs',hkey,_⟩
  · exact hk
  · exact absurd (.inl ⟨s,rfl,(storage_injective hkey).symm⟩) (hm s' hs')

theorem removal_or_upsert (m : BoundaryProjectionMutation) : (∀ s, m ≠ .upsert s) ∨ ∃ s, m = .upsert s := by
  cases m with
  | upsert s => exact .inr ⟨s,rfl⟩
  | _ => exact .inl fun _ h => by cases h

theorem mutationWrites_eq_mutate (h : TimersIndexed db) (hk : RecordsKeyed D) (htr : Traced D before db)
    (hm : ∀ s, .upsert s ∈ before → ¬Touches D m s) :
    db.writeBatch (D.mutationWrites m) = db.mutate m ∧ TimersIndexed (db.mutate m) := by
  have hsa (hb : TimersIndexed (db.writeBatch (D.mutationWrites m))) (hone : TimersIndexed (db.mutate m))
      (hsu : (db.writeBatch (D.mutationWrites m)).subscriptions = (db.mutate m).subscriptions) :
      db.writeBatch (D.mutationWrites m) = db.mutate m := by
    have hin : (db.writeBatch (D.mutationWrites m)).timerIndex = (db.mutate m).timerIndex :=
      hb.exact.unique (hsu ▸ hone.exact)
    rw [writeBatch_frame (mutationWrites_isSubscription m), hsu, hin, mutate,
      writeBatch_frame (mutationWrites_isSubscription m)]
  rcases removal_or_upsert m with hr | ⟨s,rfl⟩
  · have hone : TimersIndexed (db.mutate m) :=
      h.removal h.keyed (Traced.refl db) (fun _ hs => absurd hs not_mem_nil) hr
    exact ⟨hsa (h.removal hk htr hm hr) hone
      (removal_subscription_eq h.keyed hk htr hm hr),hone⟩
  · have hone : TimersIndexed (db.mutate (.upsert s)) := h.upsert s (.inl rfl)
    refine ⟨hsa (h.upsert s (upsert_kept htr hm)) hone ?_,hone⟩
    rw [mutate, write_upsert, write_upsert]

theorem Traced.mutate (hk : RecordsKeyed db) (htr : Traced D before db) (m : BoundaryProjectionMutation) :
    Traced D (before ++ [m]) (db.mutate m) := by
  intro k
  have hold : Traced D (before ++ [m]) db := fun k =>
    (htr k).imp_right fun ⟨s,hs,har⟩ => ⟨s,mem_append_left _ hs,har⟩
  rcases removal_or_upsert m with hr | ⟨s,rfl⟩
  · have hl := @removal_subscription db db m hk hr k
    rw [BoundaryDb.mutate, Kept, hl]
    split
    · exact .inl (.inr rfl)
    · exact hold k
  · rw [BoundaryDb.mutate, Kept, write_upsert]
    simp only [getElem?_insert_eq]
    split
    · rename_i heq
      exact .inr ⟨s,by simp,heq,rfl⟩
    · exact hold k

/-- A batch of separate armings does what its mutations do one by one; the induction is on its last mutation. -/
theorem batch_eq_mutate (h : TimersIndexed D) (hsep : SeparateArmings D mutations) :
    D.writeBatch (mutations.flatMap D.mutationWrites) = mutations.foldl mutate D ∧
      TimersIndexed (mutations.foldl mutate D) ∧ Traced D mutations (mutations.foldl mutate D) := by
  induction mutations using List.reverseRecOn with
  | nil => exact ⟨rfl,h,Traced.refl D⟩
  | append_singleton done m ih =>
    obtain ⟨hdone,-,hlast⟩ := pairwise_append.mp hsep
    obtain ⟨hst,hin,htr⟩ := ih hdone
    obtain ⟨heq,hm⟩ := mutationWrites_eq_mutate hin h.keyed htr fun s hs => hlast _ hs m (mem_singleton_self m) s rfl
    rw [flatMap_append, flatMap_singleton, writeBatch_append, hst, foldl_concat]
    exact ⟨heq,hm,htr.mutate hin.keyed m⟩

end Batches

section Runs
variable {db db' : BoundaryDb} {deadLetter : Bool} {retryAt leaseUntil limit now : Nat} {workerId : String}

section Indexed
variable (h : TimersIndexed db)
include h

theorem TimersIndexed.project {expected committed : Nat} (hs : SeparateArmings db mutations)
    (hp : db.applyProjection expected committed mutations = .ok db') :
    db' = { mutations.foldl mutate db with projectionCheckpoint := committed } ∧ TimersIndexed db' := by
  simp only [BoundaryDb.applyProjection, bind_eq_ok, ensure_eq_ok] at hp
  obtain ⟨_,_,_,_,⟨⟩⟩ := hp
  obtain ⟨hb,hin,-⟩ := batch_eq_mutate h hs
  rw [writeBatch_append, hb]
  exact ⟨rfl,hin.keyed,hin.exact,hin.leased⟩

theorem TimersIndexed.congr (hs : db'.subscriptions = db.subscriptions) (hin : db'.timerIndex = db.timerIndex) :
    TimersIndexed db' := by
  refine ⟨fun k r hr => h.keyed k r (hs ▸ hr),?_,fun k r hr => h.leased k r (hs ▸ hr)⟩
  rw [hs, hin]
  exact h.exact

theorem TimersIndexed.rewrite {k : StorageKey} {r new : BoundarySubscriptionRecord}
    (hr : db.subscriptions[k]? = some r) (hkey : new.key = r.key) (hw : new.workerId = "") :
    TimersIndexed { db with
      subscriptions := db.subscriptions.insert k new
      timerIndex := indexed (unindexed db.timerIndex k (some r.availableAtEpochMs)) k new.due } := by
  refine h.insert ((congrArg _ hkey).trans (h.keyed k r hr)) hw fun t ht => ?_
  rw [hr] at ht
  rw [(due_eq_some.mp ht).2.2]

theorem TimersIndexed.completeTimer {next : Option TimerSchedule} (hc : db.completeTimer claim next = .ok db') :
    TimersIndexed db' := by
  obtain ⟨r,hcl,rfl⟩ := completeTimer_eq_ok.mp hc
  obtain ⟨hr,_,_,hw⟩ := claimedRecord_eq_ok.mp hcl
  have hd := (due_eq_some.mp (h.leased _ r hr hw)).2.1
  have hdue : (firedRecord r next).due = next.map TimerSchedule.dueAtEpochMs := by
    cases next <;> simp [firedRecord, due, hd]
  rw [← hdue]
  exact h.rewrite hr (by cases next <;> rfl) (by cases next <;> rfl)

theorem TimersIndexed.failTimer (hf : db.failTimer claim retryAt deadLetter = .ok db') : TimersIndexed db' := by
  obtain ⟨r,hcl,rfl⟩ := failTimer_eq_ok.mp hf
  obtain ⟨hr,_,_,hw⟩ := claimedRecord_eq_ok.mp hcl
  have hsc := (due_eq_some.mp (h.leased _ r hr hw)).1
  have hdue : (failedRecord r retryAt deadLetter).due = if deadLetter then none else some retryAt := by
    cases deadLetter <;> simp [failedRecord, due, hsc]
  rw [← hdue]
  exact h.rewrite hr rfl rfl

theorem TimersIndexed.claimDueTimers {claims : List ClaimedTimer}
    (hc : db.claimDueTimers now leaseUntil workerId limit = .ok (claims, db')) : TimersIndexed db' := by
  obtain ⟨picked,hpi,-,-,hl,hf⟩ := claimDueTimers_spec hc
  refine ⟨(rocks_leaseFenced.claim h.keyed hc).1,fun entry => ?_,fun k r hr hw => ?_⟩
  · rw [congrArg BoundaryDb.timerIndex hf, h.exact, hl]
    split
    · cases db.subscriptions[entry.key]? <;> rfl
    · rfl
  · rw [hl] at hr
    split at hr
    · rename_i hin
      obtain ⟨old,hold,rfl⟩ := Option.map_eq_some_iff.mp hr
      obtain ⟨p,hp,rfl⟩ := mem_map.mp hin
      obtain ⟨hget,he⟩ := hpi p hp
      cases hold.symm.trans hget
      -- the record was found through its index entry
      have hdue := (h.exact _).mp (ExtTreeSet.mem_toList.mp he)
      rw [hget] at hdue
      exact hdue
    · exact h.leased k r hr hw

end Indexed

theorem updateSignalClaim_timers {claim : ClaimedCorrelation} {completed : Bool}
    (h : db.updateSignalClaim claim retryAt deadLetter completed = .ok db') :
    db'.subscriptions = db.subscriptions ∧ db'.timerIndex = db.timerIndex := by
  simp only [updateSignalClaim, bind_eq_ok, okOr_eq_ok, ensure_eq_ok] at h
  obtain ⟨r,_,_,_,⟨⟩⟩ := h
  cases deadLetter <;> cases completed <;> exact ⟨rfl,rfl⟩

theorem putSignals_timers {new : BoundarySignalRecord → BoundarySignalRecord}
    (picked : List (StorageKey × BoundarySignalRecord)) (db : BoundaryDb) :
    (db.writeBatch (picked.map fun p => .putSignal p.1 (new p.2))).subscriptions = db.subscriptions ∧
      (db.writeBatch (picked.map fun p => .putSignal p.1 (new p.2))).timerIndex = db.timerIndex := by
  induction picked generalizing db with
  | nil => exact ⟨rfl,rfl⟩
  | cons p picked ih => exact ih _

/-- The column families stay in order in every run whose batches are separate. -/
theorem timersIndexed_stored (h : StoredWith SeparateArmings rocksBoundary {} db) : TimersIndexed db := by
  induction h with
  | empty => exact ⟨fun k r hr => by simp at hr,Exact.empty,fun k r hr => by simp at hr⟩
  | project _ hs hp ih => exact (ih.project hs hp).2
  | claimTimers _ hc ih => exact ih.claimDueTimers hc
  | completeTimer _ hc ih => exact ih.completeTimer hc
  | failTimer _ hf ih => exact ih.failTimer hf
  | enqueue _ he ih =>
    simp only [rocksBoundary, BoundaryDb.enqueueSignal] at he
    split at he
    · simp only [bind_eq_ok] at he
      obtain ⟨_,_,he⟩ := he
      split at he
      · cases he; exact ih
      · cases he
    · cases he
      exact ih.congr rfl rfl
  | claimSignals hst hc ih =>
    simp only [rocksBoundary] at hc
    split at hc
    · rename_i claims db' hcl
      cases hc
      simp only [BoundaryDb.claimCorrelations, bind_eq_ok, Prod.exists] at hcl
      obtain ⟨claims,writes,hl,⟨⟩⟩ := hcl
      rw [claimSignals_eq (fun _ => (rocks_signalsIndexed hst).entry) (sorted_index _), map_eq_ok] at hl
      obtain ⟨_,_,⟨⟩⟩ := hl
      exact ih.congr (putSignals_timers _ _).1 (putSignals_timers _ _).2
    · cases hc
      exact ih
  | completeSignal _ hc ih => exact ih.congr (updateSignalClaim_timers hc).1 (updateSignalClaim_timers hc).2
  | failSignal _ hf ih => exact ih.congr (updateSignalClaim_timers hf).1 (updateSignalClaim_timers hf).2

/-- The errors with which `claim_due_timers` reports that the index does not fit the subscriptions. -/
def BoundaryRuntimeError.isIndexError (e : BoundaryRuntimeError) : Bool :=
  e == .store "timer index references a missing subscription" || e == .store "timer index and subscription disagree"

theorem nonEmptyBoundary_fails (value : String) {field : String}
    (hfi : isIndexError (.store ("persisted boundary field " ++ field ++ " is empty")) = false) :
    FailsWith (fun e => isIndexError e = false) (nonEmptyBoundary value field) :=
  .bind (.ensure fun _ => hfi) fun _ _ => .pure _

theorem subscriptionFromRecord_fails (r : BoundarySubscriptionRecord) :
    FailsWith (fun e => isIndexError e = false) (subscriptionFromRecord r) := by
  have htr : FailsWith (fun e => isIndexError e = false)
      (boundaryTriggerFromStorage r.triggerKind r.triggerReference) := by
    unfold boundaryTriggerFromStorage triggerFrom
    split
    · exact .bind (nonEmptyBoundary_fails _ rfl) fun _ _ => .pure _
    · exact .bind (nonEmptyBoundary_fails _ rfl) fun _ _ => .pure _
    · exact .bind (nonEmptyBoundary_fails _ rfl) fun _ _ => .pure _
    · exact .ok _
    · exact .bind (nonEmptyBoundary_fails _ rfl) fun _ _ => .pure _
    · exact .error rfl
  have hsc : FailsWith (fun e => isIndexError e = false) (recordSchedule r.timerSchedule) := by
    unfold recordSchedule
    split
    · exact .ok _
    · exact .check rfl fun _ => .pure _
  exact htr.bind fun _ _ => (nonEmptyBoundary_fails _ rfl).bind fun _ _ => hsc.bind fun _ _ => .pure _

/-- The claim loop over index entries that fit the records fails only on a record it cannot read. -/
theorem claimLoop_fails {entries : List (DueKey StorageKey)}
    (hes : ∀ e ∈ entries, db.subscriptions[e.key]?.bind due = some e.dueAt) :
    FailsWith (fun e => isIndexError e = false) (db.claimLoop now leaseUntil workerId limit entries) := by
  induction entries generalizing limit with
  | nil => cases limit <;> exact .ok _
  | cons entry entries ih =>
    have hre := fun e he => hes e (mem_cons_of_mem _ he)
    obtain ⟨r,hr,hdue⟩ := Option.bind_eq_some_iff.mp (hes entry mem_cons_self)
    obtain ⟨hs,-,hav⟩ := due_eq_some.mp hdue
    cases limit with
    | zero => exact .ok _
    | succ =>
      rw [claimLoop]
      split
      · exact .ok _
      · simp only [hr, okOr, ok_bind, hs, hav, beq_self_eq_true, Bool.and_self, ensure, if_true]
        split
        · exact ih hre
        · exact (subscriptionFromRecord_fails _).bind fun _ _ => (ih hre).bind fun _ _ => .pure _

/-- Claiming timers through an index that lists the records does not report a disagreement. -/
theorem TimersIndexed.claimDueTimers_fails (h : TimersIndexed db) (now leaseUntil : Nat) (workerId : String)
    (limit : Nat) : FailsWith (fun e => isIndexError e = false)
      (db.claimDueTimers now leaseUntil workerId limit) := by
  have hes (e : DueKey StorageKey) (he : e ∈ db.timerIndex.toList) :
      db.subscriptions[e.key]?.bind due = some e.dueAt :=
    (h.exact e).mp (ExtTreeSet.mem_toList.mp he)
  exact (claimLoop_fails hes).bind fun _ _ => .pure _

end Runs

section OneByOne
variable {db : BoundaryDb}

def BoundaryDb.projectEach : List BoundaryProjectionMutation → BoundaryDb → Except BoundaryRuntimeError BoundaryDb
  | [], db => .ok db
  | m :: mutations, db => do
    let next ← db.applyProjection db.projectionCheckpoint (db.projectionCheckpoint + 1) [m]
    projectEach mutations next

theorem writeBatch_checkpoint {batch : List BoundaryWrite} (h : ∀ w ∈ batch, w.isSubscription = true) (c : Nat) :
    writeBatch { db with projectionCheckpoint := c } batch =
      { db.writeBatch batch with projectionCheckpoint := c } := by
  induction batch generalizing db with
  | nil => rfl
  | cons w batch ih =>
    have hw := h w mem_cons_self
    have hr := @ih (db.write w) fun w' hw' => h w' (mem_cons_of_mem _ hw')
    cases w <;> first | exact hr | cases hw

theorem foldl_mutate_checkpoint (mutations : List BoundaryProjectionMutation) (db : BoundaryDb) (c : Nat) :
    mutations.foldl mutate { db with projectionCheckpoint := c } =
      { mutations.foldl mutate db with projectionCheckpoint := c } := by
  induction mutations generalizing db with
  | nil => rfl
  | cons m mutations ih =>
    have hs : mutate { db with projectionCheckpoint := c } m =
        { db.mutate m with projectionCheckpoint := c } := by
      have hwr : mutationWrites { db with projectionCheckpoint := c } m = db.mutationWrites m := by
        cases m <;> rfl
      rw [mutate, hwr, writeBatch_checkpoint (mutationWrites_isSubscription m)]
      rfl
    rw [foldl_cons, foldl_cons, hs, ih]

theorem projectEach_eq (mutations : List BoundaryProjectionMutation) (db : BoundaryDb) :
    db.projectEach mutations = .ok { mutations.foldl mutate db with
      projectionCheckpoint := db.projectionCheckpoint + mutations.length } := by
  induction mutations generalizing db with
  | nil => rfl
  | cons m mutations ih =>
    have hc : db.applyProjection db.projectionCheckpoint (db.projectionCheckpoint + 1) [m] =
        .ok { db.mutate m with projectionCheckpoint := db.projectionCheckpoint + 1 } := by
      simp only [BoundaryDb.applyProjection, beq_self_eq_true, gt_iff_lt, Nat.lt_add_one, decide_true, ensure, if_true,
        ok_bind, flatMap_cons, flatMap_nil, append_nil]
      rw [writeBatch_append]
      rfl
    rw [BoundaryDb.projectEach, hc, ok_bind, ih, foldl_mutate_checkpoint, foldl_cons, length_cons]
    simp only [Nat.add_assoc, Nat.add_comm 1]

end OneByOne

section Memory
variable {b b' : MemoryBoundaryState} {db db' : BoundaryDb} {key : BoundarySubscriptionKey}
  {r' : BoundarySubscriptionRecord}

def BoundarySubscriptionRecord.armed (r : BoundarySubscriptionRecord) : BoundarySubscriptionRecord :=
  { r with
    generation := 0
    attempts := 0
    availableAtEpochMs := 0
    leaseUntilEpochMs := 0
    leaseVersion := 0
    workerId := ""
    deadLettered := false }

def timerRecord (s : ProjectedBoundarySubscription) (t : MemoryTimerRecord) : BoundarySubscriptionRecord :=
  { subscriptionToRecord s with
    generation := t.generation
    attempts := t.attempts
    availableAtEpochMs := t.availableAtEpochMs
    leaseUntilEpochMs := t.leaseUntilEpochMs
    leaseVersion := t.leaseVersion
    workerId := t.workerId
    deadLettered := t.deadLettered }

inductive Mirrored : Option BoundarySubscriptionRecord → Option ProjectedBoundarySubscription →
    Option MemoryTimerRecord → Prop
  | absent : Mirrored none none none
  | untimed {r s} (harmed : r.armed = (subscriptionToRecord s).armed) (hschedule : s.timerSchedule = none)
      (hworker : r.workerId = "") : Mirrored (some r) (some s) none
  | timed {s t} (hschedule : s.timerSchedule.isSome = true) (hsubscription : t.subscription = s) :
      Mirrored (some (timerRecord s t)) (some s) (some t)

def StoresAgree (b : MemoryBoundaryState) (db : BoundaryDb) : Prop :=
  ∀ key : BoundarySubscriptionKey, Mirrored db.subscriptions[key.storage]? b.subscriptions[key]? b.timers[key]?

def KeepsSchedules (db : BoundaryDb) (mutations : List BoundaryProjectionMutation) : Prop :=
  ∀ s, .upsert s ∈ mutations → s.timerSchedule = none →
    ∀ r, db.subscriptions[s.key.storage]? = some r → r.timerSchedule = none

/-- Both stores in step: the same projection batches, claims of the same timers, the same completions and
failures, and anything that leaves subscriptions and timers alone. -/
inductive InStep : MemoryBoundaryState → BoundaryDb → Prop
  | empty : InStep {} {}
  | project {b b' db db' expected committed mutations} (h : InStep b db) (hseparate : SeparateArmings db mutations)
      (hschedules : KeepsSchedules db mutations) (hb : b.applyProjection expected committed mutations = .ok b')
      (hdb : db.applyProjection expected committed mutations = .ok db') : InStep b' db'
  | claim {b b' db db' now leaseUntil workerId limit limit' claims claims'} (h : InStep b db)
      (hb : b.claimDueTimers now leaseUntil workerId limit = .ok (claims, b'))
      (hdb : db.claimDueTimers now leaseUntil workerId limit' = .ok (claims', db'))
      (hsame : ∀ key, key ∈ claims.map (fun c => c.subscription.key) ↔ key ∈ claims'.map fun c => c.subscription.key) :
      InStep b' db'
  | complete {b b' db db' claim nextSchedule} (h : InStep b db) (hb : b.completeTimer claim nextSchedule = .ok b')
      (hdb : db.completeTimer claim nextSchedule = .ok db') : InStep b' db'
  | fail {b b' db db' claim retryAt deadLetter} (h : InStep b db) (hb : b.failTimer claim retryAt deadLetter = .ok b')
      (hdb : db.failTimer claim retryAt deadLetter = .ok db') : InStep b' db'
  | signals {b b' : MemoryBoundaryState} {db db' : BoundaryDb} (h : InStep b db)
      (hb : b'.subscriptions = b.subscriptions ∧ b'.timers = b.timers)
      (hdb : db'.subscriptions = db.subscriptions ∧ db'.timerIndex = db.timerIndex) : InStep b' db'

theorem armed_key (h : r.armed = r'.armed) : r.key = r'.key := by
  change r.armed.key = r'.armed.key
  rw [h]

theorem removes_armed (h : r.armed = r'.armed) : m.removes r = m.removes r' := by
  have hkey : r.key = r'.key := armed_key h
  have ha : r.armed.attachedNodeId = r'.armed.attachedNodeId := by rw [h]
  change r.attachedNodeId = r'.attachedNodeId at ha
  cases m <;> simp [removes, hkey, ha]

namespace Mirrored
variable {record : Option BoundarySubscriptionRecord} {s : Option ProjectedBoundarySubscription}
  {t : Option MemoryTimerRecord} (h : Mirrored record s t)
include h

theorem armed_eq : record.map armed = s.map fun s => (subscriptionToRecord s).armed := by
  cases h with
  | absent | timed => rfl
  | untimed har => exact congrArg some har

theorem removes (m : BoundaryProjectionMutation) :
    record.any m.removes = s.any fun s => m.removes (subscriptionToRecord s) := by
  cases h with
  | absent => rfl
  | untimed har => exact removes_armed har
  | timed => exact removes_armed rfl

theorem timer_eq_none (hn : ∀ r, record = some r → r.timerSchedule = none) : t = none := by
  cases h with
  | absent | untimed => rfl
  | @timed s t hsc =>
    have hnot : s.timerSchedule = none := hn _ rfl
    rw [hnot] at hsc
    cases hsc

theorem of_timer {timer : MemoryTimerRecord} (ht : t = some timer) : s = some timer.subscription ∧
    timer.subscription.timerSchedule.isSome = true ∧ record = some (timerRecord timer.subscription timer) := by
  cases h with
  | absent | untimed => cases ht
  | timed hsc hsu =>
    cases ht
    subst hsu
    exact ⟨rfl,hsc,rfl⟩

end Mirrored

theorem StoresAgree.subscription_key (h : StoresAgree b db) (hdb : RecordsKeyed db) {s : ProjectedBoundarySubscription}
    (hs : b.subscriptions[key]? = some s) : s.key = key := by
  have he := (h key).armed_eq
  rw [hs] at he
  obtain ⟨r,hr,har⟩ := Option.map_eq_some_iff.mp he
  have hkey : r.key = s.key := armed_key har
  rw [← hkey]
  exact storage_injective (hdb _ _ hr)

/-- A mutation that does not arm a boundary event removes keys from both maps of the store in memory. -/
theorem memory_removal (hk : ∀ (key : BoundarySubscriptionKey) s, b.subscriptions[key]? = some s → s.key = key)
    (hr : ∀ s, m ≠ .upsert s) : ∃ keys : List BoundarySubscriptionKey,
      b.applyMutation m = keys.foldl removeSubscription b ∧
      ∀ key s, b.subscriptions[key]? = some s → (key ∈ keys ↔ m.removes (subscriptionToRecord s) = true) := by
  cases m with
  | upsert s => exact absurd rfl (hr s)
  | disarmBoundary key' =>
    refine ⟨[key'],rfl,fun key s hs => ?_⟩
    rw [mem_singleton, ← hk key s hs]
    simp [removes, subscriptionToRecord]
  | disarmAttached =>
    refine ⟨_,rfl,fun key s hs => ?_⟩
    simp only [mem_map, mem_filter, Prod.exists, ExtTreeMap.mem_toList_iff_getElem?_eq_some,
      removes, subscriptionToRecord]
    constructor
    · rintro ⟨_,s',⟨hs',hc⟩,rfl⟩
      rw [hs, Option.some.injEq] at hs'
      rw [hs', hk _ s' (hs' ▸ hs)]
      exact hc
    · intro hc
      rw [hk key s hs] at hc
      exact ⟨key,s,⟨hs,hc⟩,rfl⟩
  | removeInstance =>
    refine ⟨_,rfl,fun key s hs => ?_⟩
    have hin : key ∈ b.subscriptions := by
      rw [ExtTreeMap.mem_iff_isSome_getElem?, hs]
      rfl
    simp [removes, subscriptionToRecord, hin, hk key s hs]

section Agreeing
variable (h : StoresAgree b db)
include h

theorem StoresAgree.removal (hdb : TimersIndexed db) (hr : ∀ s, m ≠ .upsert s) (key : BoundarySubscriptionKey) :
    Mirrored (db.mutate m).subscriptions[key.storage]? (b.applyMutation m).subscriptions[key]?
      (b.applyMutation m).timers[key]? := by
  obtain ⟨keys,hk,hmem⟩ := memory_removal (fun key s hs => h.subscription_key hdb.keyed hs) hr
  have he := h key
  have hrec : (db.mutate m).subscriptions[key.storage]? = _ := removal_subscription hdb.keyed hr key.storage
  rw [hrec, he.removes, hk, removeAll_subscriptions, removeAll_timers, getElem?_foldl_erase,
    getElem?_foldl_erase]
  cases hs : b.subscriptions[key]? with
  | none =>
    rw [hs] at he
    have hr := Option.map_eq_none_iff.mp he.armed_eq
    have hn : b.timers[key]? = none := he.timer_eq_none (by simp [hr])
    simpa [hn] using he
  | some s =>
    by_cases hin : key ∈ keys
    · have hre := (hmem key s hs).mp hin
      simp only [Option.any_some, hre, if_true, hin]
      exact .absent
    · have hre : m.removes (subscriptionToRecord s) = false := by
        by_contra hne
        exact hin ((hmem key s hs).mpr (by simpa using hne))
      rw [hs] at he
      simpa [hre, hin] using he

theorem StoresAgree.upsert {s : ProjectedBoundarySubscription}
    (hsc : s.timerSchedule = none → ∀ r, db.subscriptions[s.key.storage]? = some r → r.timerSchedule = none)
    (key : BoundarySubscriptionKey) :
    Mirrored (db.mutate (.upsert s)).subscriptions[key.storage]? (b.applyMutation (.upsert s)).subscriptions[key]?
      (b.applyMutation (.upsert s)).timers[key]? := by
  rw [mutate, write_upsert]
  simp only [applyMutation, getElem?_insert_eq, BoundarySubscriptionKey.storage_injective.eq_iff]
  by_cases hkey : s.key = key
  · subst hkey
    simp only [if_true]
    cases hti : s.timerSchedule with
    | none =>
      rw [(h s.key).timer_eq_none (hsc hti)]
      exact .untimed rfl hti rfl
    | some schedule =>
      have htim : Mirrored (some (timerRecord s (freshTimer s schedule))) (some s)
          (some (freshTimer s schedule)) := .timed (by rw [hti]; rfl) rfl
      have hr : timerRecord s (freshTimer s schedule) = subscriptionToRecord s := by
        simp [timerRecord, freshTimer, subscriptionToRecord, hti]
      rw [hr] at htim
      simpa [getElem?_insert_eq] using htim
  · have he := h key
    simp only [if_neg hkey]
    cases s.timerSchedule with
    | none => exact he
    | some => simpa [getElem?_insert_eq, hkey] using he

theorem StoresAgree.mutated (hdb : TimersIndexed db) (hsep : SeparateArmings db mutations)
    (hsc : KeepsSchedules db mutations) :
    StoresAgree (mutations.foldl applyMutation b) (mutations.foldl mutate db) := by
  induction mutations using List.reverseRecOn with
  | nil => exact h
  | append_singleton done m ih =>
    obtain ⟨hdone,-,hlast⟩ := pairwise_append.mp hsep
    obtain ⟨-,hin,htr⟩ := batch_eq_mutate hdb hdone
    have hag := ih hdone fun s hs => hsc s (mem_append_left _ hs)
    rw [foldl_concat, foldl_concat]
    intro key
    rcases removal_or_upsert m with hrem | ⟨s,rfl⟩
    · exact hag.removal hin hrem key
    · refine hag.upsert (fun hn r hr => ?_) key
      rcases upsert_kept htr fun s' hs' => hlast _ hs' _ (mem_singleton_self _) s' rfl with hke | hg
      · exact hsc s (mem_append_right _ (mem_singleton_self _)) hn r (hke ▸ hr)
      · rw [hg] at hr
        cases hr

theorem StoresAgree.project {expected committed : Nat} (hdb : TimersIndexed db) (hsep : SeparateArmings db mutations)
    (hsc : KeepsSchedules db mutations) (hb : b.applyProjection expected committed mutations = .ok b')
    (hp : db.applyProjection expected committed mutations = .ok db') : StoresAgree b' db' := by
  simp only [MemoryBoundaryState.applyProjection, bind_eq_ok, ensure_eq_ok] at hb
  obtain ⟨_,_,_,_,⟨⟩⟩ := hb
  obtain ⟨rfl,_⟩ := hdb.project hsep hp
  exact h.mutated hdb hsep hsc

theorem StoresAgree.timersKeyed (hdb : RecordsKeyed db) : TimersKeyed b := by
  intro key t ht
  exact h.subscription_key hdb ((h key).of_timer ht).1

theorem StoresAgree.claimed {now leaseUntil limit limit' : Nat} {workerId : String}
    {claims claims' : List ClaimedTimer} (hdb : TimersIndexed db)
    (hb : b.claimDueTimers now leaseUntil workerId limit = .ok (claims, b'))
    (hc : db.claimDueTimers now leaseUntil workerId limit' = .ok (claims', db'))
    (hsa : ∀ key, key ∈ claims.map (fun c => c.subscription.key) ↔ key ∈ claims'.map fun c => c.subscription.key) :
    StoresAgree b' db' := by
  obtain ⟨hk,htm,-,hf⟩ := claimAll_spec (h.timersKeyed hdb.keyed) (nodup_due ..) hb
  obtain ⟨picked,hpic,-,hcls,hl,-⟩ := claimDueTimers_spec hc
  have hs := claims_keys (fun p hp => hdb.keyed p.1 p.2 (hpic p hp).1) hcls
  intro key
  have hcl : key ∈ (b.dueKeys now).take limit ↔ key.storage ∈ picked.map Prod.fst := by
    rw [← hk, hsa, ← hs]
    simp only [mem_map]
    constructor
    · rintro ⟨c,hc,rfl⟩; exact ⟨c,hc,rfl⟩
    · rintro ⟨c,hc,hkey⟩; exact ⟨c,hc,storage_injective hkey⟩
  rw [hl, htm key, hf]
  by_cases hin : key ∈ (b.dueKeys now).take limit
  · obtain ⟨t,ht,_⟩ := mem_keysWhere.mp (mem_of_mem_take hin)
    obtain ⟨hs,hsc,hr⟩ := (h key).of_timer ht
    rw [if_pos hin, if_pos (hcl.mp hin), hs, hr, ht]
    exact @Mirrored.timed _ (MemoryBoundaryState.leased leaseUntil workerId t) hsc rfl
  · rw [if_neg hin, if_neg (hcl.not.mp hin)]
    exact h key

theorem StoresAgree.completeTimer {nextSchedule : Option TimerSchedule}
    (hb : b.completeTimer claim nextSchedule = .ok b') (hc : db.completeTimer claim nextSchedule = .ok db') :
    StoresAgree b' db' := by
  simp only [MemoryBoundaryState.completeTimer, bind_eq_ok, leasedTimer_eq_ok] at hb
  obtain ⟨t,⟨ht,_⟩,⟨⟩⟩ := hb
  obtain ⟨r,hcl,rfl⟩ := completeTimer_eq_ok.mp hc
  obtain ⟨hr,_⟩ := claimedRecord_eq_ok.mp hcl
  obtain ⟨hs,hsc,hrec⟩ := (h _).of_timer ht
  cases hr.symm.trans hrec
  intro key
  simp only [withSchedule, getElem?_insert_eq, BoundarySubscriptionKey.storage_injective.eq_iff, getElem?_adjust]
  by_cases hkey : claim.subscription.key = key
  · subst hkey
    simp only [if_true, hs, Option.map_some]
    cases nextSchedule with
    | none =>
      rw [getElem?_erase_eq, if_pos rfl]
      exact .untimed rfl rfl rfl
    | some schedule =>
      rw [getElem?_insert_eq, if_pos rfl]
      exact @Mirrored.timed _ (rescheduled t schedule) rfl rfl
  · have he := h key
    cases nextSchedule <;> simpa [getElem?_erase_eq, getElem?_insert_eq, hkey] using he

theorem StoresAgree.failTimer {retryAt : Nat} {deadLetter : Bool} (hb : b.failTimer claim retryAt deadLetter = .ok b')
    (hf : db.failTimer claim retryAt deadLetter = .ok db') : StoresAgree b' db' := by
  simp only [MemoryBoundaryState.failTimer, bind_eq_ok, leasedTimer_eq_ok] at hb
  obtain ⟨t,⟨ht,_⟩,⟨⟩⟩ := hb
  obtain ⟨r,hcl,rfl⟩ := failTimer_eq_ok.mp hf
  obtain ⟨hr,_⟩ := claimedRecord_eq_ok.mp hcl
  obtain ⟨hs,hsc,hrec⟩ := (h _).of_timer ht
  cases hr.symm.trans hrec
  intro key
  simp only [getElem?_insert_eq, BoundarySubscriptionKey.storage_injective.eq_iff]
  by_cases hkey : claim.subscription.key = key
  · subst hkey
    simp only [if_true, hs]
    exact @Mirrored.timed _ (failedTimer t retryAt deadLetter) hsc rfl
  · simp only [if_neg hkey]
    exact h key

end Agreeing

theorem InStep.agree (h : InStep b db) : StoresAgree b db ∧ TimersIndexed db := by
  induction h with
  | empty =>
    refine ⟨fun key => ?_,timersIndexed_stored .empty⟩
    simpa using Mirrored.absent
  | project _ hs hsc hb hdb ih =>
    exact ⟨ih.1.project ih.2 hs hsc hb hdb,(ih.2.project hs hdb).2⟩
  | claim _ hb hdb hsa ih => exact ⟨ih.1.claimed ih.2 hb hdb hsa,ih.2.claimDueTimers hdb⟩
  | complete _ hb hdb ih => exact ⟨ih.1.completeTimer hb hdb,ih.2.completeTimer hdb⟩
  | fail _ hb hdb ih => exact ⟨ih.1.failTimer hb hdb,ih.2.failTimer hdb⟩
  | signals _ hb hdb ih =>
    refine ⟨fun key => ?_,ih.2.congr hdb.1 hdb.2⟩
    rw [hb.1, hb.2, hdb.1]
    exact ih.1 key

/-- The timers that are due in memory are those the durable index offers. -/
theorem StoresAgree.mem_dueKeys (h : StoresAgree b db) (hdb : TimersIndexed db) (now : Nat)
    (key : BoundarySubscriptionKey) : key ∈ b.dueKeys now ↔ ∃ r, db.subscriptions[key.storage]? = some r ∧
      ⟨r.availableAtEpochMs, key.storage⟩ ∈ db.timerIndex ∧ r.availableAtEpochMs ≤ now ∧ r.leaseUntilEpochMs ≤ now := by
  have he := h key
  rw [dueKeys, mem_keysWhere]
  simp only [hdb.exact _]
  generalize db.subscriptions[key.storage]? = record at he
  generalize b.subscriptions[key]? = s at he
  generalize b.timers[key]? = t at he
  cases he with
  | absent => simp
  | @untimed r s har hsc =>
    have hn : r.armed.timerSchedule = none := by
      rw [har]
      exact hsc
    change r.timerSchedule = none at hn
    simp [due, hn]
  | @timed s t hsc =>
    have hr : (timerRecord s t).timerSchedule.isSome = true := hsc
    simp only [Option.some.injEq, exists_eq_left', Option.bind_some, due, hr,
      Bool.true_and, isDue, Bool.and_eq_true, Bool.not_eq_true', decide_eq_true_eq]
    cases hd : t.deadLettered with
    | false | true => simp [timerRecord, hd]

end Memory

/-- Batches of separate armings: the index of every reachable database lists the timers that wait, claims find
it in order, a batch does what its mutations do one by one, and a store in memory that is kept in step has the
same subscriptions and the same due timers. -/
theorem projection_batches_transparent (db : BoundaryDb) (b : MemoryBoundaryState) :
    (StoredWith SeparateArmings rocksBoundary {} db →
      Exact BoundarySubscriptionRecord.due db.subscriptions db.timerIndex ∧
      (∀ now leaseUntil workerId limit error, db.claimDueTimers now leaseUntil workerId limit = .error error →
        error.isIndexError = false) ∧ ∀ {expected committed mutations db'}, SeparateArmings db mutations →
        db.applyProjection expected committed mutations = .ok db' →
        ∃ each, db.projectEach mutations = .ok each ∧ each.subscriptions = db'.subscriptions ∧
          each.timerIndex = db'.timerIndex) ∧ (InStep b db →
      (∀ key : BoundarySubscriptionKey, db.subscriptions[key.storage]?.map BoundarySubscriptionRecord.armed =
        b.subscriptions[key]?.map fun s => (subscriptionToRecord s).armed) ∧
      ∀ now key, key ∈ b.dueKeys now ↔ ∃ r, db.subscriptions[key.storage]? = some r ∧
        ⟨r.availableAtEpochMs, key.storage⟩ ∈ db.timerIndex ∧ r.availableAtEpochMs ≤ now ∧
          r.leaseUntilEpochMs ≤ now) := by
  refine ⟨fun hdb => ?_,fun h => ?_⟩
  · have hi := timersIndexed_stored hdb
    refine ⟨hi.exact,fun now leaseUntil workerId limit error => ?_,?_⟩
    · exact hi.claimDueTimers_fails now leaseUntil workerId limit error
    · intro expected committed mutations db' hs hp
      obtain ⟨rfl,_⟩ := hi.project hs hp
      exact ⟨_,projectEach_eq mutations db,rfl,rfl⟩
  · obtain ⟨ha,hi⟩ := h.agree
    exact ⟨fun key => (ha key).armed_eq,ha.mem_dueKeys hi⟩

namespace Sample

def twoReminders : List BoundaryProjectionMutation :=
  [.upsert (reminder "first"), .upsert { reminder "first" with key := ⟨.lit "acme", .lit "one", .lit "escalate"⟩ }]

def armedDb : BoundaryDb := (BoundaryDb.applyProjection {} 0 1 twoReminders).toOption.getD {}

def armedMemory : MemoryBoundaryState := (MemoryBoundaryState.applyProjection {} 0 1 twoReminders).toOption.getD {}

def laterReminder : ProjectedBoundarySubscription := { reminder "second" with timerSchedule := some ⟨7, none, some 1⟩ }

def untimedReminder : ProjectedBoundarySubscription := { reminder "second" with timerSchedule := none }

end Sample

open Sample

/-- A batch arms two boundary events, and both timers are claimed. -/
theorem projection_batches_transparent_two : ∃ b db claims claims',
    armedMemory.claimDueTimers 10 20 "worker" 8 = .ok (claims, b) ∧
      armedDb.claimDueTimers 10 20 "worker" 8 = .ok (claims', db) ∧ claims'.length = 2 ∧
      Exact BoundarySubscriptionRecord.due db.subscriptions db.timerIndex ∧
      ∀ now key, key ∈ b.dueKeys now ↔ ∃ r, db.subscriptions[key.storage]? = some r ∧
        ⟨r.availableAtEpochMs, key.storage⟩ ∈ db.timerIndex ∧ r.availableAtEpochMs ≤ now ∧ r.leaseUntilEpochMs ≤ now := by
  have hseparate : SeparateArmings {} twoReminders := by
    simp [SeparateArmings, twoReminders, Touches, removes]
    decide
  have hschedules : KeepsSchedules {} twoReminders := by
    simp [KeepsSchedules, twoReminders]
  have hdb : BoundaryDb.applyProjection {} 0 1 twoReminders = .ok armedDb := rfl
  have hb : MemoryBoundaryState.applyProjection {} 0 1 twoReminders = .ok armedMemory := rfl
  have hc : armedDb.claimDueTimers 10 20 "worker" 8 = .ok _ := rfl
  have hm : armedMemory.claimDueTimers 10 20 "worker" 8 = .ok _ := rfl
  refine ⟨_,_,_,_,hm,hc,rfl,?_,?_⟩
  · exact ((projection_batches_transparent _ {}).1 (.claimTimers (.project .empty hseparate hdb) hc)).1
  · refine ((projection_batches_transparent _ _).2 (.claim (.project .empty hseparate hschedules hb hdb) hm hc ?_)).2
    exact fun _ => (Perm.swap _ _ _).mem_iff

/-- Armed twice in one batch, a boundary event leaves a stale index entry that stops every claim; armed and
disarmed with its task in one batch, it stays armed; and armed again without a timer, it keeps the timer in
memory only. -/
theorem batched_mutations_differ :
    (∃ db each, BoundaryDb.applyProjection {} 0 1 [.upsert (reminder "first"), .upsert laterReminder] =
        .ok db ∧
      BoundaryDb.projectEach [.upsert (reminder "first"), .upsert laterReminder] {} = .ok each ∧
      db.claimDueTimers 10 20 "worker" 8 = .error (.store "timer index and subscription disagree") ∧
      (each.claimDueTimers 10 20 "worker" 8).isOk = true) ∧ (∃ db each b, BoundaryDb.applyProjection {} 0 1
        [.upsert (reminder "first"), .disarmAttached (.lit "acme") (.lit "one") (.lit "review")] = .ok db ∧
      BoundaryDb.projectEach
        [.upsert (reminder "first"), .disarmAttached (.lit "acme") (.lit "one") (.lit "review")] {} = .ok each ∧
      MemoryBoundaryState.applyProjection {} 0 1
        [.upsert (reminder "first"), .disarmAttached (.lit "acme") (.lit "one") (.lit "review")] = .ok b ∧
      db.subscriptions[(reminder "first").key.storage]?.isSome = true ∧
      each.subscriptions[(reminder "first").key.storage]? = none ∧
      b.subscriptions[(reminder "first").key]? = none) ∧
    ∃ b₁ b db₁ db, MemoryBoundaryState.applyProjection {} 0 1 [.upsert (reminder "first")] = .ok b₁ ∧
      b₁.applyProjection 1 2 [.upsert untimedReminder] = .ok b ∧
      BoundaryDb.applyProjection {} 0 1 [.upsert (reminder "first")] = .ok db₁ ∧
      db₁.applyProjection 1 2 [.upsert untimedReminder] = .ok db ∧
      b.dueKeys 10 = [(reminder "first").key] ∧ db.timerIndex.toList = [] := by
  exact ⟨⟨_,_,rfl,rfl,rfl,rfl⟩,⟨_,_,_,rfl,rfl,rfl,rfl,rfl,rfl⟩,⟨_,_,_,_,rfl,rfl,rfl,rfl,rfl,rfl⟩⟩

end BpmpPlatform
