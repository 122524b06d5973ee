import BpmpPlatform.Library.Publication

/-! # Publication of configuration changes

Every configuration change appends an event to the outbox. The number of the event comes from the row that also holds
the checkpoint and the lease, so changes, claims and completions happen one after another.
-/
namespace BpmpPlatform.Configuration
open Publication

structure Actor where
  (tenantId requestId correlationId traceParent traceState commandId : String)

/-- A row of `configuration_outbox` without its numbers, marks and leases. -/
structure OutboxEvent where
  (requestId correlationId commandId traceParent traceState tenantId profileId versionId eventType : String)
  (occurredAt nextAttemptAt : Nat)

structure PublisherConfig where
  workerId : String
  (batchSize leaseDuration : Nat)

structure Store where
  nextSequence : Nat := 0
  publishing : Publishing OutboxEvent := {}

def Actor.event (actor : Actor) (profileId versionId eventType : String) (now : Nat) : OutboxEvent :=
  let requestId := if actor.requestId = "" then actor.commandId else actor.requestId
  ⟨requestId, actor.correlationId, actor.commandId, actor.traceParent, actor.traceState, actor.tenantId, profileId,
    versionId, eventType, now, now⟩

/-- The rows stand in the order in which their transactions committed. -/
def Store.insertOutbox (s : Store) (actor : Actor) (profileId versionId eventType : String) (now : Nat) : Store :=
  let eventSequence := s.nextSequence + 1
  let event := actor.event profileId versionId eventType now
  let outbox := s.publishing.outbox
  { nextSequence := eventSequence,
    publishing := { s.publishing with outbox := { outbox with rows := outbox.rows ++ [⟨eventSequence, event, false, none⟩] } } }

def claimPublicationBatch (config : PublisherConfig) (now : Nat) : Action OutboxEvent :=
  .claim config.batchSize config.leaseDuration now (fun e => decide (now < e.occurredAt)) fun e => decide (e.nextAttemptAt ≤ now)

def failPublicationBatch (nextAttemptAt : Nat) : Action OutboxEvent := .fail fun e => { e with nextAttemptAt }

/-- What happens next: a change commits, or a publisher takes the next step of `RunOnce`. A sink failure is a
`FailPublicationBatch` in place of the next record, and a publisher may be gone at any point between. -/
inductive Step
  | change (actor : Actor) (profileId versionId eventType : String) (now : Nat)
  | claim (publisher now : Nat)
  | publish (publisher : Nat)
  | complete (publisher : Nat)
  | fail (publisher nextAttemptAt : Nat)
  | crash (publisher : Nat)

/-- The event that the step commits. -/
def Step.event? : Step → Option OutboxEvent
  | change actor profileId versionId eventType now => some (actor.event profileId versionId eventType now)
  | _ => none

def Store.runOnce (s : Store) (publishers : Nat → PublisherConfig) (publisher : Nat) (action : Action OutboxEvent) : Store :=
  { s with publishing := s.publishing.step publisher (publishers publisher).workerId action }

def Store.step (publishers : Nat → PublisherConfig) (s : Store) : Step → Store
  | .change actor profileId versionId eventType now => s.insertOutbox actor profileId versionId eventType now
  | .claim publisher now => s.runOnce publishers publisher (claimPublicationBatch (publishers publisher) now)
  | .publish publisher => s.runOnce publishers publisher .send
  | .complete publisher => s.runOnce publishers publisher .complete
  | .fail publisher nextAttemptAt => s.runOnce publishers publisher (failPublicationBatch nextAttemptAt)
  | .crash publisher => s.runOnce publishers publisher .crash

/-- The event as it was committed, before any failed attempt to publish it. -/
def OutboxEvent.committed (event : OutboxEvent) : OutboxEvent := { event with nextAttemptAt := event.occurredAt }

def Store.events (s : Store) : List OutboxEvent := s.publishing.outbox.rows.map fun r => r.event.committed

structure Store.Held (s : Store) : Prop where
  counter : s.nextSequence = s.publishing.outbox.rows.length
  orderly : Orderly s.publishing

theorem Store.Held.step {s : Store} (h : s.Held) (publishers : Nat → PublisherConfig) (next : Step) :
    (s.step publishers next).Held := by
  have hpu : ∀ publisher action, (s.runOnce publishers publisher action).Held := by
    intro publisher action
    obtain ⟨hor,hl⟩ := h.orderly.step publisher (publishers publisher).workerId action
    exact ⟨h.counter.trans hl.symm,hor⟩
  cases next with
  | change =>
    have hn : s.nextSequence + 1 = s.publishing.outbox.rows.length + 1 := congrArg (· + 1) h.counter
    exact ⟨by simpa [Store.step, Store.insertOutbox] using h.counter,h.orderly.append hn rfl⟩
  | claim | publish | complete | fail | crash => exact hpu _ _

theorem Store.events_step (publishers : Nat → PublisherConfig) (s : Store) (next : Step) :
    (s.step publishers next).events = s.events ++ next.event?.toList := by
  have hpu : ∀ publisher action, (∀ postpone, action = .fail postpone → ∀ e, (postpone e).committed = e.committed) →
      (s.runOnce publishers publisher action).events = s.events ++ [] := by
    intro publisher action hpo
    rw [List.append_nil]
    exact s.publishing.step_events hpo publisher (publishers publisher).workerId
  cases next with
  | change => exact List.map_append
  | claim | publish | complete | crash => exact hpu _ _ fun _ heq => by cases heq
  | fail => exact hpu _ _ fun _ heq _ => by cases heq; rfl

theorem Store.held_run (publishers : Nat → PublisherConfig) (steps : List Step) :
    (steps.foldl (Store.step publishers) {}).Held := by
  refine List.foldlRecOn steps (Store.step publishers) ⟨rfl,Orderly.initial⟩ fun s hs next _ => ?_
  exact hs.step publishers next

theorem Store.events_run (publishers : Nat → PublisherConfig) (steps : List Step) (s : Store) :
    (steps.foldl (Store.step publishers) s).events = s.events ++ steps.filterMap Step.event? := by
  induction steps generalizing s with
  | nil => simp
  | cons next steps ih =>
    rw [List.foldl_cons, ih, Store.events_step, List.filterMap_cons, List.append_assoc]
    cases next.event? <;> rfl

/-- However changes and publishers interleave, the outbox holds the events of the changes in the order of the commits,
numbered from one on, the checkpoint passes only what the sink accepted, the sink accepts in order, completed batches do not
overlap and no claim finds a gap. -/
theorem publication_complete_and_ordered (publishers : Nat → PublisherConfig) (steps : List Step) :
    let store := steps.foldl (Store.step publishers) {}
    let s := store.publishing
    store.events = steps.filterMap Step.event? ∧
    s.outbox.rows.map Row.sequence = List.range' 1 (steps.filterMap Step.event?).length ∧
    (∀ k, 0 < k → k ≤ s.outbox.checkpoint → k ∈ s.sink) ∧
    (∀ before after, s.sink = before ++ after → ∀ k, 0 < k → k + 1 ∈ before → k ∈ before) ∧
    s.completed.Pairwise List.Disjoint ∧
    ∀ workerId batchSize leaseDuration now early due,
      s.outbox.claim workerId batchSize leaseDuration now early due ≠ .error .notContiguous := by
  have ho := (Store.held_run publishers steps).orderly
  have he : (steps.foldl (Store.step publishers) {}).events = steps.filterMap Step.event? := Store.events_run publishers steps {}
  refine ⟨he,?_,ho.accepted,ho.inOrder,ho.pairwise_disjoint,?_⟩
  · rw [← he, Store.events, List.length_map]
    exact ho.dense.numbered
  · intro workerId batchSize leaseDuration now early due
    exact ho.dense.claim_ne_notContiguous

namespace Sample

def publishers : Nat → PublisherConfig := fun publisher => ⟨if publisher = 0 then "worker-0" else "worker-1", 10, 5⟩

def actor : Actor := ⟨"tenant", "request", "correlation", "parent", "state", "command"⟩

def activate (versionId : String) (now : Nat) : Step := .change actor "profile" versionId "ACTIVATED" now

/-- The first publisher fails after one record, the second one claims and publishes both. -/
def published : List Step :=
  [activate "v1" 10, activate "v2" 20, .claim 0 20, .publish 0, .fail 0 25, .claim 1 30, .publish 1, .publish 1, .complete 1]

end Sample

open Sample

theorem publication_of_two_changes :
    let store := published.foldl (Store.step publishers) {}
    store.publishing.outbox.checkpoint = 2 ∧ store.publishing.sink = [1, 1, 2] ∧
    store.events = [actor.event "profile" "v1" "ACTIVATED" 10, actor.event "profile" "v2" "ACTIVATED" 20] ∧
    store.publishing.outbox.rows.map Row.sequence = [1, 2] := by
  obtain ⟨he,hn,-⟩ := publication_complete_and_ordered publishers published
  exact ⟨rfl,rfl,he,hn⟩

end BpmpPlatform.Configuration
