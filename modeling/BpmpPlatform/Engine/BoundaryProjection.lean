import BpmpPlatform.Engine.BoundaryStore
import BpmpPlatform.Engine.Outbox
import BpmpPlatform.Runtime.Projection

/-! # The boundary projection follows the engine

However the outbox is cut into batches, the projected subscriptions of an instance are those of its state
once its decisions are projected to their ends.
-/
namespace BpmpPlatform
open Std Outcome MemoryBoundaryState BoundarySubscriptionKey ProjectedBoundarySubscription List

def ProjectedBoundarySubscription.active (s : ProjectedBoundarySubscription) : ActiveBoundarySubscription :=
  ⟨s.attachedNodeId, s.targetNodeId, s.cancelActivity, s.trigger, s.armedAtEpochMs⟩

def StreamKey.boundary (key : StreamKey) (id : NodeId) : BoundarySubscriptionKey := ⟨key.tenantId, key.instanceId, id⟩

def BoundarySubscriptionKey.streamKey (key : BoundarySubscriptionKey) : StreamKey := ⟨key.tenantId, key.instanceId⟩

def EventEnvelope.streamKey (e : EventEnvelope) : StreamKey := ⟨e.metadata.tenantId, e.metadata.instanceId⟩

def Mirrors (b : MemoryBoundaryState) (key : StreamKey) (subs : Subscriptions) : Prop :=
  ∀ id : NodeId, b.subscriptions[key.boundary id]?.map ProjectedBoundarySubscription.active = subs[id]?

def projectRecord (key : StreamKey) (subs : Subscriptions) (record : BoundaryProjectionRecord) : Subscriptions :=
  if record.envelope.streamKey = key then projectEvent subs record.envelope.event else subs

variable {b : MemoryBoundaryState} {key : StreamKey} {subs : Subscriptions} {rfc3339 : String → Option Int}
  {policy : BoundaryRuntimePolicy} {record : BoundaryProjectionRecord}

section Mutations

variable {k : BoundarySubscriptionKey}

theorem boundary_eq_iff {id : NodeId} : k = key.boundary id ↔ k.streamKey = key ∧ k.boundaryEventId = id := by
  cases k; cases key
  simp [StreamKey.boundary, streamKey, and_assoc]

theorem isOf_iff : k.isOf key.tenantId key.instanceId = true ↔ k.streamKey = key := by
  cases k; cases key
  simp [isOf, streamKey]

section
variable (h : Mirrors b key subs)
include h

theorem Mirrors.upsert (s : ProjectedBoundarySubscription) : Mirrors (b.applyMutation (.upsert s)) key
      (if s.key.streamKey = key then subs.insert s.key.boundaryEventId s.active else subs) := by
  intro id
  rw [applyMutation, getElem?_insert_eq]
  by_cases hkey : s.key.streamKey = key
  · rw [if_pos hkey, getElem?_insert_eq]
    by_cases hid : s.key.boundaryEventId = id
    · rw [if_pos (boundary_eq_iff.mpr ⟨hkey,hid⟩), if_pos hid]
      rfl
    · rw [if_neg fun heq => hid (boundary_eq_iff.mp heq).2, if_neg hid]
      exact h id
  · rw [if_neg hkey, if_neg fun heq => hkey (boundary_eq_iff.mp heq).1]
    exact h id

theorem Mirrors.disarmBoundary (k : BoundarySubscriptionKey) : Mirrors (b.applyMutation (.disarmBoundary k)) key
      (if k.streamKey = key then subs.erase k.boundaryEventId else subs) := by
  intro id
  rw [applyMutation, removeSubscription, getElem?_erase_eq]
  by_cases hkey : k.streamKey = key
  · rw [if_pos hkey, getElem?_erase_eq]
    by_cases hid : k.boundaryEventId = id
    · rw [if_pos (boundary_eq_iff.mpr ⟨hkey,hid⟩), if_pos hid]
      rfl
    · rw [if_neg fun heq => hid (boundary_eq_iff.mp heq).2, if_neg hid]
      exact h id
  · rw [if_neg hkey, if_neg fun heq => hkey (boundary_eq_iff.mp heq).1]
    exact h id

theorem Mirrors.disarmAttached (owner : StreamKey) (n : NodeId) :
    Mirrors (b.applyMutation (.disarmAttached owner.tenantId owner.instanceId n)) key
      (if owner = key then releaseAttached subs n else subs) := by
  intro id
  rw [applyMutation, removeAll_subscriptions, getElem?_foldl_erase]
  have hmem : key.boundary id ∈ (b.subscriptions.toList.filter fun entry =>
      entry.1.isOf owner.tenantId owner.instanceId && entry.2.attachedNodeId == n).map Prod.fst ↔
      owner = key ∧ ∃ s, b.subscriptions[key.boundary id]? = some s ∧ s.attachedNodeId = n := by
    simp only [mem_map, mem_filter, Prod.exists, exists_and_right, exists_eq_right,
      ExtTreeMap.mem_toList_iff_getElem?_eq_some, Bool.and_eq_true, beq_iff_eq, isOf_iff]
    constructor
    · rintro ⟨s,hs,hkey,hat⟩; exact ⟨hkey.symm,s,hs,hat⟩
    · rintro ⟨rfl,s,hs,hat⟩; exact ⟨s,hs,rfl,hat⟩
  have hsu := h id
  by_cases hkey : owner = key
  · rw [if_pos hkey, releaseAttached_getElem?, ← hsu]
    cases hs : b.subscriptions[key.boundary id]? with
    | none => simp
    | some s =>
      by_cases hat : s.attachedNodeId = n
      · rw [if_pos (hmem.mpr ⟨hkey,s,hs,hat⟩)]
        simp [active, Option.filter_some, hat]
      · rw [if_neg (mt hmem.mp ?_)]
        · simp [active, Option.filter_some, hat]
        · rintro ⟨_,s',hs',hat'⟩
          rw [hs, Option.some.injEq] at hs'
          exact hat (hs' ▸ hat')
  · rw [if_neg hkey, if_neg fun hin => hkey (hmem.mp hin).1]
    exact hsu

theorem Mirrors.removeInstance (owner : StreamKey) :
    Mirrors (b.applyMutation (.removeInstance owner.tenantId owner.instanceId)) key
      (if owner = key then ∅ else subs) := by
  intro id
  rw [applyMutation, removeAll_subscriptions, getElem?_foldl_erase]
  have hmem : key.boundary id ∈ (b.subscriptions.keys.filter fun k => k.isOf owner.tenantId owner.instanceId) ↔
      key.boundary id ∈ b.subscriptions ∧ owner = key := by
    rw [mem_filter, ExtTreeMap.mem_keys, isOf_iff]
    exact and_congr_right fun _ => eq_comm
  by_cases hkey : owner = key
  · rw [if_pos hkey]
    split
    · simp
    · rename_i hnot
      have hn : b.subscriptions[key.boundary id]? = none :=
        ExtTreeMap.getElem?_eq_none fun hin => hnot (hmem.mpr ⟨hin,hkey⟩)
      rw [hn]
      simp
  · rw [if_neg hkey, if_neg fun hin => hkey (hmem.mp hin).2]
    exact h id

end

end Mutations

section Batches

/-- The mutation of a record does to the projection what its event does to the subscriptions. -/
theorem projectionMutation_mirrors {mutation : Option BoundaryProjectionMutation}
    (hm : projectionMutation rfc3339 policy record = .ok mutation) (h : Mirrors b key subs) :
    Mirrors (mutation.elim b b.applyMutation) key (projectRecord key subs record) := by
  obtain ⟨cursor,metadata,event⟩ := record
  have ha (n : NodeId) := h.disarmAttached ⟨metadata.tenantId, metadata.instanceId⟩ n
  have hre := h.removeInstance ⟨metadata.tenantId, metadata.instanceId⟩
  have hn : projectRecord key subs ⟨cursor, metadata, event⟩ = subs → Mirrors b key
      (projectRecord key subs ⟨cursor, metadata, event⟩) := fun heq => by rw [heq]; exact h
  cases event with
  | boundaryEventArmed =>
    simp only [projectionMutation, bind_eq_ok] at hm
    obtain ⟨schedule,_,⟨⟩⟩ := hm
    exact h.upsert _
  | boundaryEventsDisarmed attached ids =>
    rcases ids with _ | ⟨id,_ | _⟩
    · cases hm; exact ha attached
    · cases hm; exact h.disarmBoundary ⟨metadata.tenantId, metadata.instanceId, id⟩
    · cases hm; exact ha attached
  | serviceTaskCompleted n | userTaskCompleted n | scriptTaskCompleted n => cases hm; exact ha n
  | multiInstanceCompleted n => cases hm; exact ha n
  | boundaryEventTriggered _ n _ cancel =>
    cases cancel with
    | true => cases hm; exact ha n
    | false => cases hm; exact hn (ite_self _)
  | workflowCompleted | workflowTerminatedForCompliance => cases hm; exact hre
  | _ => cases hm; exact hn (ite_self _)

theorem projectionMutations_mirrors {records : List BoundaryProjectionRecord}
    {mutations : List BoundaryProjectionMutation}
    (hm : projectionMutations rfc3339 policy records = .ok mutations) (h : Mirrors b key subs) :
    Mirrors (mutations.foldl applyMutation b) key (records.foldl (projectRecord key) subs) := by
  induction records generalizing b subs mutations with
  | nil => cases hm; exact h
  | cons record records ih =>
    simp only [projectionMutations, bind_eq_ok] at hm
    obtain ⟨mutation,hmu,rest,hr,⟨⟩⟩ := hm
    have hs := projectionMutation_mirrors hmu h
    rw [foldl_append, foldl_cons]
    cases mutation with
    | none | some => exact ih hr hs

end Batches

def BoundaryTrigger.errorRefNamed : BoundaryTrigger → Bool
  | .error errorRef => errorRef.all fun reference => !Text.isBlank reference
  | _ => true

def DomainEvent.ErrorRefNamed : DomainEvent → Prop
  | .boundaryEventArmed _ _ _ _ trigger _ => trigger.errorRefNamed = true
  | _ => True

def DomainEvent.isArming : DomainEvent → Bool
  | .boundaryEventArmed .. => true
  | _ => false

namespace EventCodec

theorem boundaryTrigger_read {trigger trigger' : BoundaryTrigger} (hn : trigger.errorRefNamed = true)
    (h : boundaryTriggerFromWire (boundaryTriggerToWire trigger).1 (boundaryTriggerToWire trigger).2 = .ok trigger') :
    trigger' = trigger := by
  cases trigger with
  | timer kind => cases kind <;> simp_all [boundaryTriggerToWire, boundaryTriggerFromWire]
  | error errorRef =>
    have hr : boundaryTriggerFromWire (boundaryTriggerToWire (.error errorRef)).1
        (boundaryTriggerToWire (.error errorRef)).2 = .ok (.error errorRef) := boundaryTrigger_roundTrip.mpr hn
    exact Except.ok.inj (h.symm.trans hr)
  | message => simp_all [boundaryTriggerToWire, boundaryTriggerFromWire]

variable {e' e : DomainEvent}

/-- Reading an event back can change the trigger it arms; whatever else is lost, the projection does not see. -/
theorem eventFromWire_read (h : eventFromWire (eventTime e) (eventToWire e) = .ok e') :
    (∃ id attached target cancel trigger trigger' armedAt,
      e = .boundaryEventArmed id attached target cancel trigger armedAt ∧
      e' = .boundaryEventArmed id attached target cancel trigger' armedAt ∧
      boundaryTriggerFromWire (boundaryTriggerToWire trigger).1 (boundaryTriggerToWire trigger).2 = .ok trigger') ∨
    (e.isArming = false ∧ e'.isArming = false ∧ (∀ tenantId, tenantAgrees tenantId e' = tenantAgrees tenantId e) ∧
      ∀ subs, projectEvent subs e' = projectEvent subs e) := by
  cases e <;>
    simp only [eventFromWire, eventToWire, eventTime, bind_eq_ok, pure_eq_ok, identifier_value,
      identifiers_value, Except.ok.injEq, exists_eq_left'] at h
  case boundaryEventArmed =>
    obtain ⟨trigger',htr,rfl⟩ := h
    exact .inl ⟨_,_,_,_,_,_,_,rfl,rfl,htr⟩
  case serviceTaskCompleted | userTaskActivated | userTaskCancelled | multiInstanceIterationActivated =>
    obtain ⟨_,_,rfl⟩ := h
    exact .inr ⟨rfl,rfl,fun _ => rfl,fun _ => rfl⟩
  case userTaskCompleted | scriptTaskActivated | decisionTaskEvaluated | casePlanItemTransitioned | scopeEntered =>
    obtain ⟨_,_,_,_,rfl⟩ := h
    exact .inr ⟨rfl,rfl,fun _ => rfl,fun _ => rfl⟩
  case multiInstanceStarted | workflowTerminatedForCompliance =>
    obtain ⟨_,_,_,_,_,_,rfl⟩ := h
    exact .inr ⟨rfl,rfl,fun _ => rfl,fun _ => rfl⟩
  all_goals exact .inr ⟨rfl,h ▸ rfl,fun _ => by rw [← h],fun _ => by rw [← h]⟩

theorem projectEvent_read (hn : e.ErrorRefNamed) (h : eventFromWire (eventTime e) (eventToWire e) = .ok e')
    (subs : Subscriptions) : projectEvent subs e' = projectEvent subs e := by
  rcases eventFromWire_read h with ⟨_,_,_,_,trigger,_,_,rfl,rfl,htr⟩ | ⟨_,_,_,hs⟩
  · rw [boundaryTrigger_read hn htr]
  · exact hs subs

end EventCodec

section Passes
variable {format : MessageFormat Wire.EventEnvelope} {store : MemoryState format} {b b' : MemoryBoundaryState}

theorem projectionRecord_cursor {r : OutboxRecord format} (h : projectionRecord r = .ok record) :
    record.cursor = r.cursor := by
  simp only [projectionRecord, bind_eq_ok] at h
  obtain ⟨_,_,_,_,⟨⟩⟩ := h
  rfl

variable {records : List BoundaryProjectionRecord} {checkpoint : Nat}

theorem validateProjectionRecords_eq_ok : validateProjectionRecords checkpoint records = .ok () ↔
      records.map BoundaryProjectionRecord.cursor = List.range' (checkpoint + 1) records.length ∧
        (records ≠ [] → checkpoint + records.length ≤ u64Max) := by
  induction records generalizing checkpoint with
  | nil => simp [validateProjectionRecords]
  | cons record records ih =>
    simp only [validateProjectionRecords, bind_eq_ok, ensure_eq_ok, decide_eq_true_eq, beq_iff_eq, ih,
      map_cons, length_cons, List.range'_succ, List.cons.injEq, exists_and_left, exists_const]
    constructor
    · rintro ⟨hle,hcur,hcu,hb⟩
      refine ⟨⟨hcur,hcu⟩,fun _ => ?_⟩
      by_cases hnil : records = []
      · rw [hnil]; exact hle
      · have := hb hnil
        omega
    · rintro ⟨⟨hcur,hcu⟩,hb⟩
      have := hb (by simp)
      exact ⟨by omega,hcur,hcu,fun _ => by omega⟩

def projectionWindow (store : MemoryState format) (policy : BoundaryRuntimePolicy) (b : MemoryBoundaryState) :
    List (OutboxRecord format) := (store.outbox.drop b.projectionCheckpoint).take policy.projectionBatchSize

def MemoryBoundaryState.advanced (b : MemoryBoundaryState) (mutations : List BoundaryProjectionMutation)
    (processed : Nat) : MemoryBoundaryState :=
  { mutations.foldl MemoryBoundaryState.applyMutation b with
    projectionCheckpoint := b.projectionCheckpoint + processed }

theorem boundaryEventsAfter_eq_ok (hn : Log.Numbered OutboxRecord.cursor store.outbox) {cursor limit : Nat} :
    boundaryEventsAfter store cursor limit = .ok records ↔
      limit ≠ 0 ∧ List.Forall₂ (fun r record => projectionRecord r = .ok record)
        ((store.outbox.drop cursor).take limit) records := by
  simp only [boundaryEventsAfter, MemoryState.readAfter, bind_eq_ok, mapError_eq_ok, ensure_eq_ok,
    bne_iff_ne, pure_eq_ok, hn.filter_after, collectAll_eq_ok, exists_and_left, exists_const]
  constructor
  · rintro ⟨_,⟨hl,rfl⟩,hrs⟩; exact ⟨hl,hrs⟩
  · rintro ⟨hl,hrs⟩; exact ⟨_,⟨hl,rfl⟩,hrs⟩

theorem window_cursors (hn : Log.Numbered OutboxRecord.cursor store.outbox)
    (h : List.Forall₂ (fun r record => projectionRecord r = .ok record) (projectionWindow store policy b) records) :
    records.map BoundaryProjectionRecord.cursor = List.range' (b.projectionCheckpoint + 1) records.length := by
  have hcu : (projectionWindow store policy b).map OutboxRecord.cursor =
      records.map BoundaryProjectionRecord.cursor :=
    Outcome.map_eq_of_forall₂ h fun _ _ hr => (projectionRecord_cursor hr).symm
  rw [← hcu, ← h.length_eq]
  exact hn.window_numbers _ _

theorem committed_cursor
    (h : records.map BoundaryProjectionRecord.cursor = List.range' (checkpoint + 1) records.length) :
    (records.getLast?.map BoundaryProjectionRecord.cursor).getD checkpoint = checkpoint + records.length := by
  rw [← List.getLast?_map, h, List.getLast?_range']
  cases records with
  | nil => rfl
  | cons => simp; omega

/-- A pass succeeds exactly when every record of its window can be read and turned into a mutation. -/
theorem projectOnce_eq_ok (hn : Log.Numbered OutboxRecord.cursor store.outbox)
    (hbd : store.outbox.length ≤ u64Max) {outcome : ProjectionOutcome} :
    projectOnce rfc3339 policy store b = .ok (outcome, b') ↔ policy.projectionBatchSize ≠ 0 ∧
      ∃ records mutations, List.Forall₂ (fun r record => projectionRecord r = .ok record)
          (projectionWindow store policy b) records ∧ projectionMutations rfc3339 policy records = .ok mutations ∧
        outcome = ⟨records.length, b.projectionCheckpoint + records.length⟩ ∧
        b' = b.advanced mutations records.length := by
  have hb {records : List BoundaryProjectionRecord} {mutations : List BoundaryProjectionMutation} :
      projectionBatch rfc3339 policy store b = .ok (records, mutations) ↔ policy.projectionBatchSize ≠ 0 ∧
        List.Forall₂ (fun r record => projectionRecord r = .ok record) (projectionWindow store policy b) records ∧
        projectionMutations rfc3339 policy records = .ok mutations := by
    simp only [projectionBatch, bind_eq_ok, boundaryEventsAfter_eq_ok hn, ensure_eq_ok, decide_eq_true_eq,
      pure_eq_ok, Prod.mk.injEq, exists_and_left, exists_const]
    constructor
    · rintro ⟨_,⟨hl,hrs⟩,_,_,_,_,hm,rfl,rfl⟩; exact ⟨hl,hrs,hm⟩
    · rintro ⟨hl,hrs,hm⟩
      have hlen := hrs.length_eq
      rw [projectionWindow, length_take, length_drop] at hlen
      refine ⟨records,⟨hl,hrs⟩,by omega,(),?_,mutations,hm,rfl,rfl⟩
      refine validateProjectionRecords_eq_ok.mpr ⟨window_cursors hn hrs,fun hne => ?_⟩
      have := length_pos_of_ne_nil hne
      omega
  simp only [projectOnce, bind_eq_ok, Prod.exists, hb]
  constructor
  · rintro ⟨records,mutations,⟨hl,hrs,hm⟩,h⟩
    refine ⟨hl,records,mutations,hrs,hm,?_⟩
    rw [committed_cursor (window_cursors hn hrs)] at h
    split at h
    · rename_i heq
      have hnil : records = [] := eq_nil_of_length_eq_zero (by omega)
      subst hnil
      cases hm
      cases h
      exact ⟨rfl,rfl⟩
    · simp only [applyProjection, bind_eq_ok, ensure_eq_ok, pure_eq_ok, Prod.mk.injEq] at h
      obtain ⟨_,⟨_,_,_,_,rfl⟩,rfl,rfl⟩ := h
      exact ⟨rfl,rfl⟩
  · rintro ⟨hl,records,mutations,hrs,hm,rfl,rfl⟩
    refine ⟨records,mutations,⟨hl,hrs,hm⟩,?_⟩
    rw [committed_cursor (window_cursors hn hrs)]
    split
    · rename_i heq
      have hnil : records = [] := eq_nil_of_length_eq_zero (by omega)
      subst hnil
      cases hm
      rfl
    · simp only [applyProjection, bind_eq_ok, ensure_eq_ok, pure_eq_ok,
        Prod.mk.injEq, beq_iff_eq, decide_eq_true_eq]
      exact ⟨_,⟨(),trivial,(),by omega,rfl⟩,trivial,rfl⟩

end Passes

end BpmpPlatform
