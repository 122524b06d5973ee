import BpmpPlatform.Library.Maps
import BpmpPlatform.Library.Paging

/-! # Paging through events

`QueryEvents` over fixed rows. Filters and authorization are one test of a row, and `us` is the order in which the
database gives rows with equal keys.
-/
namespace BpmpPlatform.EventQuery
open Std Paging List

inductive EventField
  | eventType
  | nodeId
  | actorId
  | sequence
  | occurredAt
  | configVersion
  | policyVersion

inductive SortDirection
  | ascending
  | descending

structure EventSort where
  field : EventField
  direction : SortDirection

structure WorkflowEvent where
  tenantId : String
  instanceId : String
  sequence : Nat
  eventType : String
  nodeId : String
  actorId : String
  occurredAt : Int
  configVersion : String
  policyVersion : String
  isDeleted : Bool
  deriving DecidableEq

/-- The parts that the kind of the value does not use are zero. -/
structure QueryValue where
  integer : Int := 0
  time : Int := 0
  text : String := ""
  deriving DecidableEq

def QueryValue.cmp : QueryValue → QueryValue → Ordering :=
  compareLex (compareOn integer) (compareLex (compareOn time) (compareOn text))

structure Column where
  value : WorkflowEvent → QueryValue
  direction : SortDirection := .ascending

def EventField.value : EventField → WorkflowEvent → QueryValue
  | .eventType, e => { text := e.eventType }
  | .nodeId, e => { text := e.nodeId }
  | .actorId, e => { text := e.actorId }
  | .sequence, e => { integer := e.sequence }
  | .occurredAt, e => { time := e.occurredAt }
  | .configVersion, e => { text := e.configVersion }
  | .policyVersion, e => { text := e.policyVersion }

structure Query where
  tenantId : String
  accepts : WorkflowEvent → Bool
  sort : List EventSort

def Query.columns (q : Query) : List Column :=
  q.sort.map (fun s => ⟨s.field.value, s.direction⟩) ++ [{ value := fun e => { text := e.instanceId } }]

def eventCursorFor (columns : List Column) (e : WorkflowEvent) : List QueryValue := columns.map (·.value e)

def SortDirection.cmp : SortDirection → QueryValue → QueryValue → Ordering
  | .ascending => QueryValue.cmp
  | .descending => fun a b => b.cmp a

/-- The branches of the condition on the cursor: equal in the columns before, and past it in this one. -/
def branches (e : WorkflowEvent) (before : List (Column × QueryValue)) : List (Column × QueryValue) → Bool
  | [] => false
  | (column, value) :: rest =>
    (before.all (fun p => (p.1.value e).cmp p.2 == .eq) && column.direction.cmp value (column.value e) == .lt) ||
      branches e (before ++ [(column, value)]) rest

def afterCursor (columns : List Column) (values : List QueryValue) (e : WorkflowEvent) : Bool :=
  branches e [] (columns.zip values)

def orderBy : List Column → WorkflowEvent → WorkflowEvent → Ordering
  | [], _, _ => .eq
  | column :: rest, a, b => (column.direction.cmp (column.value a) (column.value b)).then (orderBy rest a b)

def Query.matching (q : Query) (rows : List WorkflowEvent) : List WorkflowEvent :=
  rows.filter fun e => e.tenantId == q.tenantId && !e.isDeleted && q.accepts e

def queryEvents (us : UnstableSort) (q : Query) (rows : List WorkflowEvent) (after : Option WorkflowEvent) :
    List WorkflowEvent :=
  us.sort (orderBy q.columns) ((q.matching rows).filter fun e =>
    after.all fun c => afterCursor q.columns (eventCursorFor q.columns c) e)

/-- The pages of this size are the rows of the query without a limit. -/
def Exact (us : UnstableSort) (q : Query) (rows : List WorkflowEvent) (limit : Nat) : Prop :=
  pages (queryEvents us q rows) limit ((q.matching rows).length + 1) none = queryEvents us q rows none

instance (us : UnstableSort) (q : Query) (rows : List WorkflowEvent) (limit : Nat) :
    Decidable (Exact us q rows limit) := inferInstanceAs (Decidable (_ = _))

instance : TransCmp QueryValue.cmp :=
  inferInstanceAs (TransCmp (compareLex (compareOn QueryValue.integer) _))

instance (d : SortDirection) : TransCmp d.cmp := by
  cases d with
  | ascending => exact inferInstanceAs (TransCmp QueryValue.cmp)
  | descending => exact inferInstanceAs (TransCmp fun a b => QueryValue.cmp b a)

instance : LawfulEqCmp QueryValue.cmp :=
  lawfulEqCmp_three fun ⟨_, _, _⟩ ⟨_, _, _⟩ => by simp +contextual

variable {a b : QueryValue}

theorem cmp_eq_iff : a.cmp b = .eq ↔ a = b := LawfulEqCmp.compare_eq_iff_eq

theorem direction_cmp_eq_iff {d : SortDirection} : d.cmp a b = .eq ↔ a = b := by
  cases d with
  | ascending => exact cmp_eq_iff
  | descending => exact cmp_eq_iff.trans eq_comm

theorem orderBy_eq_iff {columns : List Column} {a b : WorkflowEvent} :
    orderBy columns a b = .eq ↔ ∀ column ∈ columns, column.value a = column.value b := by
  induction columns with
  | nil => simp [orderBy]
  | cons column rest ih => simp [orderBy, Ordering.then_eq_eq, direction_cmp_eq_iff, ih]

instance (columns : List Column) : TransCmp (orderBy columns) := by
  induction columns with
  | nil => exact { eq_swap := rfl, isLE_trans := fun _ _ => rfl }
  | cons column rest ih =>
    have hc : TransCmp fun a b => column.direction.cmp (column.value a) (column.value b) :=
      { eq_swap := OrientedCmp.eq_swap, isLE_trans := TransCmp.isLE_trans }
    exact inferInstanceAs (TransCmp (compareLex _ (orderBy rest)))

/-- The branches describe the order: a row passes if it comes after the row of the cursor. -/
theorem branches_eq {c e : WorkflowEvent} (columns : List Column) (before : List (Column × QueryValue)) :
    branches e before (columns.zip (eventCursorFor columns c)) =
      (before.all (fun p => (p.1.value e).cmp p.2 == .eq) && orderBy columns c e == .lt) := by
  induction columns generalizing before with
  | nil => simp [branches, orderBy]
  | cons column rest ih =>
    have heq : ((column.value e).cmp (column.value c) == .eq) =
        (column.direction.cmp (column.value c) (column.value e) == .eq) := by
      rw [Bool.eq_iff_iff, beq_iff_eq, beq_iff_eq, cmp_eq_iff, direction_cmp_eq_iff, eq_comm]
    have hrest := ih (before ++ [(column, column.value c)])
    rw [all_append, all_cons, all_nil, heq] at hrest
    simp only [eventCursorFor, map_cons, zip_cons_cons, branches, orderBy] at hrest ⊢
    rw [hrest]
    cases column.direction.cmp (column.value c) (column.value e) <;>
      cases before.all (fun p => (p.1.value e).cmp p.2 == .eq) <;> simp

theorem queryEvents_eq (us : UnstableSort) (q : Query) (rows : List WorkflowEvent) :
    queryEvents us q rows = keyset us (orderBy q.columns) (q.matching rows) := by
  funext after
  simp [queryEvents, keyset, afterCursor, branches_eq]

/-- Every page size gives every matching event once and in order exactly if no two of them agree in the instance and
in all the fields of the sort. -/
theorem paging_exact_iff (us : UnstableSort) (q : Query) (rows : List WorkflowEvent) {most : Nat} (hm : 1 ≤ most) :
    (∀ limit, 1 ≤ limit → limit ≤ most → Exact us q rows limit) ↔
      (q.matching rows).Pairwise fun a b =>
        ¬((∀ s ∈ q.sort, s.field.value a = s.field.value b) ∧ a.instanceId = b.instanceId) := by
  simp only [Exact, queryEvents_eq, pages_exact_iff us (q.matching rows) hm, ne_eq, orderBy_eq_iff, Query.columns,
    forall_mem_append, forall_mem_map, forall_mem_singleton, QueryValue.mk.injEq, true_and]

namespace Sample

def event (sequence : Nat) (occurredAt : Int) : WorkflowEvent :=
  ⟨"tenant-a", "order-1", sequence, "service_task_completed", "check", "actor-1", occurredAt, "1", "1", false⟩

def byTime : Query := ⟨"tenant-a", fun _ => true, [⟨.occurredAt, .ascending⟩]⟩

end Sample

open BpmpPlatform.EventQuery.Sample

/-- A service task and the one after it are recorded at one time; the second event is on no page. -/
theorem tied_event_skipped :
    ¬Exact .insertion byTime [event 1 5, event 2 5] 1 := by
  decide +kernel

theorem paging_exact_distinct_times :
    Exact .insertion byTime [event 1 5, event 2 6] 1 := by
  refine (paging_exact_iff .insertion byTime _ (Nat.le_refl 1)).mpr ?_ 1 (Nat.le_refl 1) (Nat.le_refl 1)
  decide +kernel

end BpmpPlatform.EventQuery
