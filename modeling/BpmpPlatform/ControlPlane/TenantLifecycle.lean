import BpmpPlatform.Library.Publication

/-! # Publication of tenant lifecycle events

The number of an event is drawn outside the transaction: it is gone if the transaction rolls back, and another one can
draw the next and commit first. The publisher compares only the first row of a batch with the checkpoint.
-/
namespace BpmpPlatform.ControlPlane
open Publication List

inductive TenantLifecycleKind
  | created
  | updated
  | activationRequested
  | activated
  | suspended
  | deleted

structure LifecycleRecord where
  (eventId tenantId tenantCode : String)
  tenantVersion : Nat
  lifecycleKind : TenantLifecycleKind
  (actorRef correlationId : String)
  occurredAt : Nat

structure LifecycleConfig where
  workerId : String
  (batchSize leaseMs : Nat)

/-- The last number drawn, the rows of transactions that have not ended, and what is committed. -/
structure LifecycleStore where
  sequence : Nat := 0
  uncommitted : List (Row LifecycleRecord) := []
  publishing : Publishing LifecycleRecord := {}

namespace LifecycleStore

def insertTenantOutbox (s : LifecycleStore) (record : LifecycleRecord) : LifecycleStore :=
  { s with sequence := s.sequence + 1, uncommitted := s.uncommitted ++ [⟨s.sequence + 1, record, false, none⟩] }

def rollback (s : LifecycleStore) (number : Nat) : LifecycleStore :=
  { s with uncommitted := s.uncommitted.filter (·.sequence != number) }

def commit (s : LifecycleStore) (number : Nat) : LifecycleStore :=
  match s.uncommitted.find? (·.sequence == number) with
  | none => s
  | some row =>
    let outbox := s.publishing.outbox
    { s.rollback number with
      publishing := { s.publishing with outbox := { outbox with rows := outbox.rows ++ [row] } } }

end LifecycleStore

def claimLifecycleBatch (config : LifecycleConfig) (now : Nat) : Action LifecycleRecord :=
  .claim config.batchSize config.leaseMs now (fun _ => false) fun _ => true

/-- A publisher that fails to claim, send or complete stops; its batch stays leased until the lease ends. -/
inductive LifecycleStep
  | insertTenantOutbox (record : LifecycleRecord)
  | commit (number : Nat)
  | rollback (number : Nat)
  | claim (publisher now : Nat)
  | send (publisher : Nat)
  | complete (publisher : Nat)
  | stop (publisher : Nat)

namespace LifecycleStore

def runPublisher (s : LifecycleStore) (configs : Nat → LifecycleConfig) (publisher : Nat)
    (action : Action LifecycleRecord) : LifecycleStore :=
  { s with publishing := s.publishing.step publisher (configs publisher).workerId action }

def step (configs : Nat → LifecycleConfig) (s : LifecycleStore) : LifecycleStep → LifecycleStore
  | .insertTenantOutbox record => s.insertTenantOutbox record
  | .commit number => s.commit number
  | .rollback number => s.rollback number
  | .claim publisher now => s.runPublisher configs publisher (claimLifecycleBatch (configs publisher) now)
  | .send publisher => s.runPublisher configs publisher .send
  | .complete publisher => s.runPublisher configs publisher .complete
  | .stop publisher => s.runPublisher configs publisher .crash

/-- Committed events up to the checkpoint were sent, the others are still ahead of it, and no claim finds a gap. -/
def NothingLost (configs : Nat → LifecycleConfig) (s : LifecycleStore) : Prop :=
  let outbox := s.publishing.outbox
  (∀ r ∈ outbox.rows, r.sequence ≤ outbox.checkpoint → r.sequence ∈ s.publishing.sink) ∧
  (∀ r ∈ outbox.rows, r.published = false → outbox.checkpoint < r.sequence) ∧
  ∀ publisher now, outbox.claim (configs publisher).workerId (configs publisher).batchSize (configs publisher).leaseMs now
    (fun _ => false) (fun _ => true) ≠ .error .notContiguous

def NextCommitted (s : LifecycleStore) : LifecycleStep → Prop
  | .commit number => ∀ r ∈ s.uncommitted, r.sequence = number → number = s.publishing.outbox.rows.length + 1
  | _ => True

def CommitsInOrder (configs : Nat → LifecycleConfig) : LifecycleStore → List LifecycleStep → Prop
  | _, [] => True
  | s, next :: rest => s.NextCommitted next ∧ CommitsInOrder configs (s.step configs next) rest

structure Held (s : LifecycleStore) : Prop where
  orderly : Orderly s.publishing
  unpublished : ∀ r ∈ s.uncommitted, r.published = false

variable {s : LifecycleStore} {number : Nat}

theorem Held.nothingLost (h : s.Held) (configs : Nat → LifecycleConfig) : s.NothingLost configs := by
  have hde := h.orderly.dense
  refine ⟨fun r hr hle => ?_,fun r hr hun => ?_,fun publisher now => hde.claim_ne_notContiguous⟩
  · obtain ⟨i,hi,rfl⟩ := getElem_of_mem hr
    refine h.orderly.accepted _ ?_ hle
    rw [hde.numbered.number_getElem hi]
    omega
  · have hm := hde.published r hr
    rw [hun] at hm
    simpa using hm

theorem Held.rollback (h : s.Held) (number : Nat) : (s.rollback number).Held :=
  ⟨h.orderly,fun r hr => h.unpublished r (mem_of_mem_filter hr)⟩

theorem Held.commit (h : s.Held) (hne : s.NextCommitted (.commit number)) : (s.commit number).Held := by
  rw [LifecycleStore.commit]
  split
  · exact h
  · next row hf =>
    have hrow := mem_of_find?_eq_some hf
    have hn : row.sequence = number := by simpa using List.find?_some hf
    have hl : row.sequence = s.publishing.outbox.rows.length + 1 := hn.trans (hne row hrow hn)
    exact ⟨h.orderly.append hl (h.unpublished row hrow),(h.rollback number).unpublished⟩

theorem Held.step (h : s.Held) (configs : Nat → LifecycleConfig) {next : LifecycleStep} (hn : s.NextCommitted next) :
    (s.step configs next).Held := by
  have hpu : ∀ publisher action, (s.runPublisher configs publisher action).Held := fun publisher action =>
    ⟨(h.orderly.step publisher (configs publisher).workerId action).1,h.unpublished⟩
  cases next with
  | insertTenantOutbox =>
    exact ⟨h.orderly,forall_mem_append.mpr ⟨h.unpublished,forall_mem_singleton.mpr rfl⟩⟩
  | commit => exact h.commit hn
  | rollback number => exact h.rollback number
  | claim | send | complete | stop => exact hpu _ _

theorem Held.run (h : s.Held) (configs : Nat → LifecycleConfig) (steps : List LifecycleStep)
    (hin : CommitsInOrder configs s steps) : (steps.foldl (LifecycleStore.step configs) s).Held := by
  induction steps generalizing s with
  | nil => exact h
  | cons next rest ih => exact ih (h.step configs hin.1) hin.2

/-- If events are committed in the order of their numbers and without gaps, none is lost or blocked. -/
theorem nothingLost_of_commitsInOrder (configs : Nat → LifecycleConfig) (steps : List LifecycleStep)
    (hinOrder : CommitsInOrder configs {} steps) : (steps.foldl (LifecycleStore.step configs) {}).NothingLost configs := by
  have hs : Held {} := ⟨Orderly.initial,by simp⟩
  exact (hs.run configs steps hinOrder).nothingLost configs

namespace Sample

def config : LifecycleConfig := ⟨"authz-1", 10, 1000⟩

def record : LifecycleRecord := ⟨"e", "t", "acme", 1, .created, "admin", "r", 0⟩

def run (steps : List LifecycleStep) : LifecycleStore := steps.foldl (LifecycleStore.step fun _ => config) {}

def outOfOrder : Publishing LifecycleRecord :=
  (run [.insertTenantOutbox record, .insertTenantOutbox record, .insertTenantOutbox record, .commit 1, .commit 3,
    .claim 0 0, .send 0, .send 0, .complete 0, .commit 2]).publishing

end Sample

open BpmpPlatform.ControlPlane.LifecycleStore.Sample

theorem nothingLost_two_mutations :
    (run [.insertTenantOutbox record, .insertTenantOutbox record, .commit 1, .claim 0 0, .commit 2, .send 0,
      .complete 0]).NothingLost fun _ => config := by
  refine nothingLost_of_commitsInOrder (fun _ => config) _ ⟨trivial,trivial,?_,trivial,?_,trivial,trivial,trivial⟩
  · exact fun _ _ _ => rfl
  · exact fun _ _ _ => rfl

/-- The third transaction commits before the second, and the checkpoint passes the second event before it is there; or the
first one rolls back, and no claim succeeds any more. -/
theorem lifecycle_event_lost_or_blocked :
    (outOfOrder.outbox.checkpoint = 3 ∧ outOfOrder.sink = [1, 3] ∧ ⟨2, record, false, none⟩ ∈ outOfOrder.outbox.rows ∧
      ∀ limit, outOfOrder.outbox.pending limit = []) ∧
    ¬ (run [.insertTenantOutbox record, .rollback 1, .insertTenantOutbox record, .commit 2]).NothingLost fun _ => config := by
  refine ⟨⟨rfl,rfl,mem_of_getElem? (i := 2) rfl,fun limit => take_nil⟩,fun h => ?_⟩
  exact h.2.2 0 0 rfl

end LifecycleStore

end BpmpPlatform.ControlPlane
