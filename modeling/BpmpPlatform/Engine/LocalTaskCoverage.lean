import BpmpPlatform.Engine.LocalTaskProgress

/-! # Which work the local task runtime hands over

The runtime hands over what single service, script and call activities announce, each under the id of its event; the
iterations of a multi-instance activity it passes by.
-/
namespace BpmpPlatform
open Std Outcome List

def Node.isAutomatic : Node → Bool
  | .serviceTask .. | .scriptTask .. | .callActivity .. => true
  | _ => false

/-- The event activates work that no human performs: a task, or one iteration of a multi-instance task. -/
def WorkflowDefinition.activatesWork (d : WorkflowDefinition) : DomainEvent → Bool
  | .serviceTaskActivated .. | .scriptTaskActivated .. => true
  | .multiInstanceIterationActivated nodeId .. => d.nodes[nodeId]?.any Node.isAutomatic
  | _ => false

def DomainEvent.isIteration : DomainEvent → Bool
  | .multiInstanceIterationActivated .. => true
  | _ => false

section Waiting

def InstanceState.Waits (s : InstanceState) (n : NodeId) : Option Nat → Prop
  | none => s.activeTokens[n]?.getD 0 ≠ 0
  | some i => ∃ active, s.activeMultiInstances[n]? = some active ∧ i ∈ active.activeIterations

def DomainEvent.Announces (n : NodeId) (iteration : Option Nat) : DomainEvent → Prop
  | .serviceTaskActivated m _ _ | .userTaskActivated m _ _ _ _ | .scriptTaskActivated m _ _ _ _ =>
    m = n ∧ iteration = none
  | .multiInstanceIterationActivated m _ i _ _ => m = n ∧ iteration = some i
  | _ => False

variable {s : InstanceState} {e : DomainEvent} {n : NodeId} {iteration : Option Nat}

theorem waits_of_release {m : NodeId} {k : Nat} (h : (releaseTokens s.activeTokens m k)[n]?.getD 0 ≠ 0) :
    s.Waits n none := by
  have hle := releaseTokens_le s.activeTokens m n k
  show s.activeTokens[n]?.getD 0 ≠ 0
  omega

/-- An event adds at most the unit it announces to what an instance waits for. -/
theorem evolve_waits (h : (evolve s e).Waits n iteration) : s.Waits n iteration ∨ e.Announces n iteration := by
  cases iteration with
  | none =>
    have hac {m : NodeId} (h : (s.activeTokens.insert m
        (saturatingSucc u32Max (s.activeTokens[m]?.getD 0)))[n]?.getD 0 ≠ 0) : s.Waits n none ∨ m = n := by
      rw [getElem?_insert_eq] at h
      split at h
      · exact .inr ‹_›
      · exact .inl h
    cases e with
    | serviceTaskActivated | userTaskActivated => exact (hac h).imp_right fun heq => ⟨heq,rfl⟩
    | scriptTaskActivated => exact (hac h).imp_right fun heq => ⟨heq,rfl⟩
    | serviceTaskCompleted | userTaskCompleted | scriptTaskCompleted => exact .inl (waits_of_release h)
    | boundaryEventTriggered _ _ _ cancelActivity =>
      cases cancelActivity with
      | true => exact .inl (waits_of_release h)
      | false => exact .inl h
    | workflowCompleted | workflowTerminatedForCompliance => exact absurd rfl h
    | _ => exact .inl h
  | some i =>
    obtain ⟨active,ha,hi⟩ := h
    have hk (h : s.activeMultiInstances[n]? = some active) : s.Waits n (some i) := ⟨active,h,hi⟩
    have her {m : NodeId} (h : (s.activeMultiInstances.erase m)[n]? = some active) : s.Waits n (some i) := by
      have h := of_getElem?_erase h
      exact hk h
    cases e with
    | multiInstanceStarted =>
      simp only [evolve, applyEvent] at ha
      rcases of_getElem?_insert ha with ⟨-,rfl⟩ | ha
      · simp at hi
      · exact .inl (hk ha)
    | multiInstanceIterationActivated m _ j =>
      simp only [evolve, applyEvent, getElem?_adjust] at ha
      split at ha
      · rename_i heq
        obtain ⟨before,hb,rfl⟩ := Option.map_eq_some_iff.mp ha
        rcases ExtTreeSet.mem_insert.mp hi with hj | hi
        · exact .inr ⟨heq,by rw [LawfulEqOrd.eq_of_compare hj]⟩
        · exact .inl ⟨before,heq ▸ hb,hi⟩
      · exact .inl (hk ha)
    | multiInstanceIterationCompleted m j =>
      simp only [evolve, applyEvent, getElem?_adjust] at ha
      split at ha
      · rename_i heq
        obtain ⟨before,hb,rfl⟩ := Option.map_eq_some_iff.mp ha
        exact .inl ⟨before,heq ▸ hb,(ExtTreeSet.mem_erase.mp hi).2⟩
      · exact .inl (hk ha)
    | multiInstanceCompleted => exact .inl (her ha)
    | boundaryEventTriggered _ _ _ cancelActivity =>
      cases cancelActivity with
      | true => exact .inl (her ha)
      | false => exact .inl (hk ha)
    | workflowCompleted | workflowTerminatedForCompliance => simp [evolve, applyEvent] at ha
    | _ => exact .inl (hk ha)

theorem rehydrate_waits {events : List DomainEvent} (h : (rehydrate none events).Waits n iteration) :
    ∃ e ∈ events, e.Announces n iteration := by
  induction events using List.reverseRecOn with
  | nil =>
    cases iteration with
    | none => exact absurd rfl h
    | some =>
      obtain ⟨active,ha,_⟩ := h
      simp [rehydrate] at ha
  | append_singleton events e ih =>
    rw [rehydrate, foldl_append] at h
    rcases evolve_waits h with hb | han
    · obtain ⟨e',he',han⟩ := ih hb
      exact ⟨e',mem_append_left _ he',han⟩
    · exact ⟨e,by simp,han⟩

end Waiting

section Handovers
variable {format : MessageFormat Wire.EventEnvelope}

/-- Calls of the engine, runs of the local task runtime with any ports and sizes of batches, and crashes of the
runtime between passing a record on and moving the checkpoint; with everything the runtime has handed over. -/
inductive LocalTaskHistory : List Handover → LocalTaskState format → Prop
  | start : LocalTaskHistory [] {}
  | call {given s store' outcome} (c : Call) (h : LocalTaskHistory given s)
      (hc : handle c.ports c.definition c.request s.store = (outcome, store')) :
      LocalTaskHistory given { s with store := store' }
  | run {given given' s s' outcome} (ports : LocalTaskPorts) (batchSize : Nat) (h : LocalTaskHistory given s)
      (hr : runOnceWithBatchSize ports batchSize s = (outcome, s', given')) : LocalTaskHistory (given ++ given') s'
  | crash {given given' s store' outcome} (ports : LocalTaskPorts) (r : OutboxRecord format) (h : LocalTaskHistory given s)
      (hnext : s.store.outbox[s.checkpoint]? = some r)
      (hp : passOn ports s.checkpoint r s.store = (outcome, store', given')) :
      LocalTaskHistory (given ++ given') { s with store := store' }

/-- The unit of work in the record has been handed over, always under the id of its event, and nothing else
under that id. -/
def OneIdentity (given : List Handover) (r : OutboxRecord format) : Prop :=
  (∃ g ∈ given, g.activation.cursor = r.cursor) ∧
    ∀ g ∈ given, g.activation.cursor = r.cursor ↔
      g.activation.tenantId.value = r.tenantId ∧ g.activation.eventId = r.eventId

/-- Of the records before the checkpoint every task has been handed over, and nothing but tasks of records. -/
structure Covered (given : List Handover) (s : LocalTaskState format) : Prop where
  handled : ∃ log, Handled log s.store
  bounded : s.checkpoint ≤ s.store.outbox.length
  readable : ∀ r ∈ s.store.outbox, r.cursor ≤ s.checkpoint → ∃ record, projectionRecord r = .ok record
  passed : ∀ r ∈ s.store.outbox, r.cursor ≤ s.checkpoint → ∀ activation, r.task = some activation →
    ∃ g ∈ given, g.activation = activation
  source : ∀ g ∈ given, ∃ r ∈ s.store.outbox, r.task = some g.activation

variable {ports : LocalTaskPorts} {store store' : MemoryState format} {s s' : LocalTaskState format}
  {given given' : List Handover} {r : OutboxRecord format} {records : List (OutboxRecord format)} {e : EventEnvelope}

variable {outcome : Except LocalTaskRuntimeError Bool}

section
variable (h : Covered given s)
include h

/-- More calls and more tasks of records keep what is covered. -/
theorem Covered.extend (hc : LogContinues s.store store')
    (hnew : ∀ g ∈ given', ∃ r ∈ store'.outbox, r.task = some g.activation) :
    Covered (given ++ given') { s with store := store' } := by
  obtain ⟨log,hlog⟩ := hc.handled
  have hold {r : OutboxRecord format} (hr : r ∈ store'.outbox) (hle : r.cursor ≤ s.checkpoint) : r ∈ s.store.outbox :=
    hlog.serialized.cursors.mem_of_prefix hc.outbox hr (Nat.le_trans hle h.bounded)
  refine ⟨hc.handled,Nat.le_trans h.bounded hc.outbox.length_le,fun r hr hle => h.readable r (hold hr hle) hle,?_,?_⟩
  · intro r hr hle activation ha
    obtain ⟨g,hg,hga⟩ := h.passed r (hold hr hle) hle activation ha
    exact ⟨g,mem_append_left _ hg,hga⟩
  · intro g hg
    rcases mem_append.mp hg with hg | hg
    · obtain ⟨r,hr,ht⟩ := h.source g hg
      exact ⟨r,hc.outbox.subset hr,ht⟩
    · exact hnew g hg

/-- Passing the next record on, whether or not the checkpoint follows. -/
theorem Covered.passOn (hr : r ∈ s.store.outbox)
    (hp : passOn ports s.checkpoint r s.store = (outcome, store', given')) :
    Covered (given ++ given') { s with store := store' } := by
  obtain ⟨log,hlog⟩ := h.handled
  obtain ⟨hc,ht,_⟩ := passOn_spec hlog hp
  exact h.extend hc fun g hg => ⟨r,hc.outbox.subset hr,ht g hg⟩

theorem Covered.advance (hu : Upcoming s (r :: records)) {done : Bool}
    (hp : BpmpPlatform.passOn ports s.checkpoint r s.store = (.ok done, store', given')) :
    Covered (given ++ given') ⟨store', s.checkpoint + 1⟩ := by
  have hpa := h.passOn hu.mem hp
  obtain ⟨log,hlog⟩ := h.handled
  obtain ⟨hc,-,hr,ht⟩ := passOn_spec hlog hp
  obtain ⟨log',hlog'⟩ := hc.handled
  have hn {r' : OutboxRecord format} (hr' : r' ∈ store'.outbox) (hle : r'.cursor ≤ s.checkpoint + 1) :
      r'.cursor ≤ s.checkpoint ∨ r' = r := by
    by_cases hl : r'.cursor = s.checkpoint + 1
    · exact .inr (hlog'.serialized.cursors.eq_of_number hr' (hc.outbox.subset hu.mem)
        (hl.trans hu.cursor_eq.symm))
    · exact .inl (by omega)
  refine ⟨hc.handled,?_,?_,?_,hpa.source⟩
  · exact Nat.le_trans hu.lt_length hc.outbox.length_le
  · intro r' hr' hle
    rcases hn hr' hle with hle | rfl
    · exact hpa.readable r' hr' hle
    · exact hr
  · intro r' hr' hle activation ha
    rcases hn hr' hle with hle | rfl
    · exact hpa.passed r' hr' hle activation ha
    · obtain ⟨g,hg,hga⟩ := ht activation ha
      exact ⟨g,mem_append_right _ hg,hga⟩

theorem Covered.processRecords (hu : Upcoming s records) {executed : Nat}
    {outcome : Except LocalTaskRuntimeError (Nat × Nat)}
    (hr : processRecords ports s.checkpoint executed records s = (outcome, s', given')) : Covered (given ++ given') s' := by
  induction records generalizing s given executed given' with
  | nil =>
    cases hr
    rw [append_nil]
    exact h
  | cons r records ih =>
    rw [BpmpPlatform.processRecords] at hr
    cases hp : BpmpPlatform.passOn ports s.checkpoint r s.store with
    | mk passed rest =>
      obtain ⟨store',given₁⟩ := rest
      cases passed with
      | error =>
        rw [(hu.processRecord_error hp).1] at hr
        cases hr
        exact h.passOn hu.mem hp
      | ok =>
        obtain ⟨heq,hn⟩ := hu.processRecord_ok hp
        rw [heq, hu.cursor_eq] at hr
        cases hr
        rw [← append_assoc]
        exact ih (h.advance hu hp) hn rfl

end

theorem LocalTaskHistory.covered (h : LocalTaskHistory given s) : Covered given s := by
  induction h with
  | start => exact ⟨⟨[],.start⟩,Nat.le_refl _,by simp,by simp,by simp⟩
  | @call given s store' outcome c _ hc ih =>
    obtain ⟨log,hlog⟩ := ih.handled
    rw [← append_nil given]
    exact ih.extend (hlog.logContinues hc) (by simp)
  | run ports batchSize _ hr ih =>
    obtain ⟨log,hlog⟩ := ih.handled
    by_cases hb : batchSize = 0
    · subst hb
      cases hr
      rw [append_nil]
      exact ih
    · have hw := upcoming_window hlog batchSize
      simp only [runOnceWithBatchSize, readBatch_eq hlog hb] at hr
      split at hr
      · rename_i hl
        cases hr
        exact ih.processRecords hw hl
      · rename_i hl
        cases hr
        exact ih.processRecords hw hl
  | crash ports r _ hn hp ih => exact ih.passOn (mem_of_getElem? hn) hp

theorem task_eq (hp : Publishes r e) {c : Call} (he : Emitted c e) {record : BoundaryProjectionRecord}
    (hr : projectionRecord r = .ok record) : r.task = localTaskActivation r.cursor e := by
  obtain ⟨event,hev,rfl⟩ := (projectionRecord_eq_ok hp he).mp hr
  rw [OutboxRecord.task, hr]
  exact localTaskActivation_read hev r.cursor

theorem task_ids {activation : LocalTaskActivation} (h : r.task = some activation) :
    activation.cursor = r.cursor ∧ activation.tenantId.value = r.tenantId ∧ activation.eventId = r.eventId := by
  cases hr : projectionRecord r with
  | error =>
    rw [OutboxRecord.task, hr] at h
    cases h
  | ok record =>
    rw [OutboxRecord.task, hr] at h
    have hd := describes_of_activation (e := record.envelope) h
    simp only [projectionRecord, bind_eq_ok, ensure_eq_ok, Bool.and_eq_true, beq_iff_eq] at hr
    obtain ⟨envelope,_,_,⟨⟨hid,ht⟩,_⟩,⟨⟩⟩ := hr
    exact ⟨hd.cursor,by rw [hd.tenantId]; exact ht,by rw [hd.eventId]; exact hid⟩

theorem Serialized.eq_of_ids (h : Serialized store) {r r' : OutboxRecord format} (hr : r ∈ store.outbox)
    (hr' : r' ∈ store.outbox) (hten : r'.tenantId = r.tenantId) (hid : r'.eventId = r.eventId) : r' = r := by
  obtain ⟨tenantId,_,_,ht,_,_⟩ := h.audited r hr
  refine inj_on_of_nodup_map (h.unique tenantId) ?_ ?_ hid
  · exact mem_filter.mpr ⟨hr',by simp [hten, ht]⟩
  · exact mem_filter.mpr ⟨hr,by simp [ht]⟩

/-- Whatever calls, runs and crashes there have been: everything an instance waits for has been announced by an
event of its stream, and an announced unit of automatic work before the checkpoint has been handed over under one
identity exactly when it is not an iteration of a multi-instance activity. -/
theorem work_handed_over_iff (h : LocalTaskHistory given s) :
    (∀ key n iteration, (s.store.current key).Waits n iteration →
      ∃ e ∈ s.store.stream key, e.event.Announces n iteration) ∧
    ∀ key, ∀ e ∈ s.store.stream key, ∀ r ∈ s.store.outbox, Publishes r e → r.cursor ≤ s.checkpoint →
      ∀ c, Emitted c e → c.definition.activatesWork e.event = true →
        (OneIdentity given r ↔ e.event.isIteration = false) := by
  have hco := h.covered
  obtain ⟨log,hlog⟩ := hco.handled
  constructor
  · intro key n iteration hwa
    obtain ⟨event,hev,han⟩ := rehydrate_waits hwa
    obtain ⟨e,he,rfl⟩ := mem_map.mp hev
    exact ⟨e,he,han⟩
  · intro key e he r hr hp hle c hem hw
    obtain ⟨record,hre⟩ := hco.readable r hr hle
    have ht := task_eq hp hem hre
    have hs {g : Handover} (hg : g ∈ given) (hc : g.activation.cursor = r.cursor) :
        r.task = some g.activation := by
      obtain ⟨r',hr',ht'⟩ := hco.source g hg
      rwa [← hlog.serialized.cursors.eq_of_number hr' hr ((task_ids ht').1.symm.trans hc)]
    constructor
    · rintro ⟨⟨g,hg,hc⟩,_⟩
      have hso := hs hg hc
      rw [ht] at hso
      cases hev : e.event with
      | multiInstanceIterationActivated =>
        simp [localTaskActivation, hev] at hso
      | _ => rfl
    · intro hsi
      obtain ⟨activation,ha⟩ : ∃ activation, localTaskActivation r.cursor e = some activation := by
        cases hev : e.event with
        | multiInstanceIterationActivated => rw [hev] at hsi; cases hsi
        | serviceTaskActivated | scriptTaskActivated => simp [localTaskActivation, hev]
        | _ => rw [hev] at hw; cases hw
      rw [← ht] at ha
      obtain ⟨g,hg,rfl⟩ := hco.passed r hr hle activation ha
      refine ⟨⟨g,hg,(task_ids ha).1⟩,fun g' hg' => ⟨fun hc => (task_ids (hs hg' hc)).2,?_⟩⟩
      rintro ⟨hten,hid⟩
      obtain ⟨r',hr',ht'⟩ := hco.source g' hg'
      obtain ⟨hc,hten',hid'⟩ := task_ids ht'
      rw [hc, hlog.serialized.eq_of_ids hr hr' (hten'.symm.trans hten) (hid'.symm.trans hid)]

end Handovers

namespace Sample

def instalmentsWir : Wir.WorkflowIntermediateRepresentation :=
  cardWir { plain "charge" (.serviceTask "card" "end") with multiInstance := some ⟨2, "", "", "2", 0, none⟩ }

/-- The runtime reads all that the start of a workflow has published. -/
theorem taskHistory {d : WorkflowDefinition} {outcome : Except LocalTaskRuntimeError LocalTaskRunOutcome}
    {s : LocalTaskState (.plain _)} {given : List Handover}
    (hr : runOnceWithBatchSize (taskPorts [d]) 8 ⟨chargeStore d, 0⟩ = (outcome, s, given)) : LocalTaskHistory given s :=
  .run (taskPorts [d]) 8 (.call ⟨ports everyEight, d, start⟩ .start rfl) hr

end Sample

open Sample

theorem work_handed_over_iff_charge :
    ∃ d, ∃ s : LocalTaskState (.plain _), ∃ given r, WirLoader.mapDefinition .insertion (chargeWir "declined") =
        .ok d ∧ LocalTaskHistory given s ∧ s.store.outbox[1]? = some r ∧ r.cursor ≤ s.checkpoint ∧ OneIdentity given r := by
  obtain ⟨d,s,outcome,given,r,e,hl,hrun,hr,hle,he,hev,hp⟩ : ∃ d, ∃ s : LocalTaskState (.plain _),
      ∃ outcome given r e, WirLoader.mapDefinition .insertion (chargeWir "declined") = .ok d ∧
      runOnceWithBatchSize (taskPorts [d]) 8 ⟨chargeStore d, 0⟩ = (.ok outcome, s, given) ∧
      s.store.outbox[1]? = some r ∧ r.cursor ≤ s.checkpoint ∧ (s.store.stream chargeKey)[1]? = some e ∧
      e.event = .serviceTaskActivated (.lit "charge") (.lit "card") 5 ∧ Publishes r e :=
    ⟨_,_,_,_,_,_,rfl,rfl,rfl,by decide,rfl,rfl,⟨rfl,rfl,rfl,rfl,rfl,rfl⟩⟩
  have hh := taskHistory hrun
  obtain ⟨log,hlog⟩ := hh.covered.handled
  obtain ⟨entry,_,hem⟩ := hlog.emitted (mem_of_getElem? he)
  refine ⟨d,s,given,r,hl,hh,hr,hle,?_⟩
  exact ((work_handed_over_iff hh).2 chargeKey e (mem_of_getElem? he) r (mem_of_getElem? hr) hp hle
    entry.1 hem (by rw [hev]; rfl)).mpr (by rw [hev]; rfl)

/-- Two charges are announced and waited for, the runtime has passed every record, and nobody has been told. -/
theorem iterations_not_handed_over :
    ∃ d, ∃ s : LocalTaskState (.plain _), WirLoader.mapDefinition .insertion instalmentsWir = .ok d ∧
      LocalTaskHistory [] s ∧ s.checkpoint = s.store.outbox.length ∧
      (s.store.current chargeKey).Waits (.lit "charge") (some 0) ∧
      (s.store.current chargeKey).Waits (.lit "charge") (some 1) := by
  obtain ⟨d,s,outcome,hl,hrun,hend,hw⟩ : ∃ d, ∃ s : LocalTaskState (.plain _), ∃ outcome,
      WirLoader.mapDefinition .insertion instalmentsWir = .ok d ∧
      runOnceWithBatchSize (taskPorts [d]) 8 ⟨chargeStore d, 0⟩ = (.ok outcome, s, []) ∧
      s.checkpoint = s.store.outbox.length ∧ ∃ active,
        (s.store.current chargeKey).activeMultiInstances[(.lit "charge" : NodeId)]? = some active ∧
        0 ∈ active.activeIterations ∧ 1 ∈ active.activeIterations :=
    ⟨_,_,_,rfl,rfl,rfl,_,rfl,by decide,by decide⟩
  obtain ⟨active,ha,hz,hone⟩ := hw
  exact ⟨d,s,hl,taskHistory hrun,hend,⟨active,ha,hz⟩,⟨active,ha,hone⟩⟩

end BpmpPlatform
