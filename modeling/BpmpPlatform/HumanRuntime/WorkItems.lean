import BpmpPlatform.Core.Text
import BpmpPlatform.Library.Maps

/-! # Work items of the human runtime

`Complete` records a completion on the work item before the engine judges it. A call takes effect at its write, which
finds the row as it was read or fails. The inbox and the audit log are left out.
-/
namespace BpmpPlatform.HumanRuntime
open Std Outcome

inductive WorkItemStatus
  | active
  | completionRequested
  | completed
  | cancelled
  deriving DecidableEq

def WorkItemStatus.text : WorkItemStatus → String
  | .active => "ACTIVE"
  | .completionRequested => "COMPLETION_REQUESTED"
  | .completed => "COMPLETED"
  | .cancelled => "CANCELLED"

inductive HumanError
  | forbidden
  | actorProof
  | versionConflict
  | idempotencyConflict
  | projectionDependency
  | policyLimit
  | noRows
  | constraint
  | noPolicy
  | message (text : String)

structure Assignment where
  (assigneeId candidateGroup : String)

def Assignment.validate (a : Assignment) : Except HumanError Unit :=
  ensure ((a.assigneeId == "") != (a.candidateGroup == ""))
    (.message "assignment must contain exactly one assignee or candidate group")

structure ItemKey where
  (tenantId id : String)
  deriving DecidableEq

instance : Ord ItemKey := ⟨compareLex (compareOn ItemKey.tenantId) (compareOn ItemKey.id)⟩

instance : TransOrd ItemKey := inferInstanceAs (TransCmp (compareLex _ _))

instance : LawfulEqOrd ItemKey := lawfulEqCmp_two fun a b _ _ => by
  cases a; cases b; simp_all

/-- A row without its key; a null column is the empty text. -/
structure WorkItem where
  (instanceId nodeId workflowType workflowVersion : String)
  assignment : Assignment
  status : WorkItemStatus
  (decision completionCommandId : String)
  (delegationDepth version : Nat)

namespace WorkItem

def canAct (w : WorkItem) (actorId : String) (actorGroups : List String) : Bool :=
  if w.assignment.assigneeId != "" then actorId == w.assignment.assigneeId
  else actorGroups.contains w.assignment.candidateGroup

def requestCompletion (w : WorkItem) (actorId decision : String) : Except HumanError WorkItem := do
  ensure (w.status == .active) (.message ("work item status " ++ w.status.text ++ " cannot be completed"))
  ensure (actorId != "" && !Text.isBlank decision) (.message "actor and decision must not be empty")
  return { w with status := .completionRequested, decision, version := w.version + 1 }

def delegate (w : WorkItem) (actorId : String) (assignment : Assignment) : Except HumanError WorkItem := do
  ensure (w.status == .active) (.message ("work item status " ++ w.status.text ++ " cannot be delegated"))
  ensure (actorId != "") (.message "delegating actor must not be empty")
  assignment.validate
  return { w with assignment, delegationDepth := w.delegationDepth + 1, version := w.version + 1 }

def isOpen (w : WorkItem) : Bool := w.status == .active || w.status == .completionRequested

end WorkItem

structure CommittedEvent where
  (tenantId eventId : String)
  sequence : Nat
  (instanceId nodeId : String)

def CommittedEvent.isAt (e : CommittedEvent) (key : ItemKey) (w : WorkItem) : Bool :=
  key.tenantId == e.tenantId && w.instanceId == e.instanceId && w.nodeId == e.nodeId

abbrev HumanDb := ExtTreeMap ItemKey WorkItem

namespace HumanDb

def updateWorkItem (db : HumanDb) (key : ItemKey) (item : WorkItem) : Except HumanError HumanDb := do
  let w ← okOr .versionConflict db[key]?
  ensure (w.version + 1 == item.version) .versionConflict
  return db.insert key item

/-- The unique constraint on the command of an item, for which null is not distinct from null. -/
def commandTaken (db : HumanDb) (key : ItemKey) (commandId : String) : Bool :=
  db.toList.any fun (k, w) => k != key && k.tenantId == key.tenantId && w.completionCommandId == commandId

def requestCompletion (db : HumanDb) (key : ItemKey) (item : WorkItem) : Except HumanError HumanDb := do
  let db' ← db.updateWorkItem key item
  ensure (!db.commandTaken key item.completionCommandId) .constraint
  return db'

/-- `ProjectActivation` after `Activate` has accepted the event. -/
def projectActivation (db : HumanDb) (e : CommittedEvent) (workflowType workflowVersion : String)
    (assignment : Assignment) : Except HumanError HumanDb := do
  let key := ⟨e.tenantId, e.eventId⟩
  ensure (!db.contains key && !db.commandTaken key "") .constraint
  return db.insert key ⟨e.instanceId, e.nodeId, workflowType, workflowVersion, assignment, .active, "", "", 0, 1⟩

/-- The two events that close the open items of a node with `set`; `other` is what they do if there are none. -/
def commit (db : HumanDb) (e : CommittedEvent) (kind : String) (set : WorkItem → WorkItem)
    (other : Except HumanError Unit) : Except HumanError HumanDb := do
  ensure (e.tenantId != "" && e.eventId != "" && e.instanceId != "" && e.nodeId != "" && e.sequence != 0)
    (.message ("committed " ++ kind ++ " metadata is incomplete"))
  if db.toList.any fun (key, w) => e.isAt key w && w.isOpen then
    return db.map fun key w => if e.isAt key w && w.isOpen then set w else w
  other
  return db

def commitCompletion (db : HumanDb) (e : CommittedEvent) (decision : String) : Except HumanError HumanDb :=
  db.commit e "completion"
    (fun w => { w with
      status := .completed, decision := if decision == "" then w.decision else decision, version := w.version + 1 })
    do
      let (_, w) ← okOr .projectionDependency (db.toList.find? fun (key, w) => e.isAt key w)
      ensure (w.status == .completed)
        (.message ("committed completion cannot transition work item in status " ++ w.status.text))

def commitCancellation (db : HumanDb) (e : CommittedEvent) : Except HumanError HumanDb :=
  db.commit e "cancellation" (fun w => { w with status := .cancelled, version := w.version + 1 })
    (throw .projectionDependency)

end HumanDb

structure RuntimePolicy where
  (maxAssignmentCandidates maxDelegationDepth : Nat)

structure ActorCredential where
  actorId : String
  (originalSignedToken signedActorContext : List UInt8)

def ActorCredential.validate (c : ActorCredential) : Except HumanError Unit :=
  ensure (c.actorId != "" && c.originalSignedToken.isEmpty != c.signedActorContext.isEmpty) .actorProof

structure Request where
  key : ItemKey
  commandId : String
  expectedVersion : Nat
  actor : ActorCredential
  actorGroups : List String

structure CompleteRequest extends Request where
  (idempotencyKey correlationId decision : String)

structure DelegateRequest extends Request where
  assignment : Assignment

structure EngineCompleteCommand where
  (tenantId instanceId nodeId commandId idempotencyKey correlationId decision workflowType workflowVersion : String)
  actor : ActorCredential

/-- `Complete` up to the call of the engine, whose answer goes to the caller and changes nothing. -/
def complete (db : HumanDb) (policy : Option RuntimePolicy) (r : CompleteRequest) :
    Except HumanError (HumanDb × EngineCompleteCommand) := do
  r.actor.validate
  let policy ← okOr .noPolicy policy
  ensure (r.actorGroups.length % 2 ^ 32 ≤ policy.maxAssignmentCandidates) .policyLimit
  let item ← okOr .noRows db[r.key]?
  ensure (item.canAct r.actor.actorId r.actorGroups) .forbidden
  ensure (r.commandId != "") (.message "command id must not be empty")
  let command := ⟨r.key.tenantId, item.instanceId, item.nodeId, r.commandId,
    if r.idempotencyKey == "" then r.commandId else r.idempotencyKey, r.correlationId, r.decision, item.workflowType,
    item.workflowVersion, r.actor⟩
  if item.status == .completionRequested then
    ensure (item.completionCommandId == r.commandId && item.decision == r.decision) .idempotencyConflict
    return (db, command)
  ensure (r.expectedVersion == item.version) .versionConflict
  let pending ← item.requestCompletion r.actor.actorId r.decision
  let db ← db.requestCompletion r.key { pending with completionCommandId := r.commandId }
  return (db, command)

def delegate (db : HumanDb) (policy : Option RuntimePolicy) (r : DelegateRequest) : Except HumanError HumanDb := do
  r.actor.validate
  ensure (r.commandId != "") (.message "command id must not be empty")
  let policy ← okOr .noPolicy policy
  ensure (r.actorGroups.length % 2 ^ 32 ≤ policy.maxAssignmentCandidates) .policyLimit
  let item ← okOr .noRows db[r.key]?
  ensure (r.expectedVersion == item.version) .versionConflict
  ensure (item.canAct r.actor.actorId r.actorGroups) .forbidden
  ensure (item.delegationDepth < policy.maxDelegationDepth) .policyLimit
  let delegated ← item.delegate r.actor.actorId r.assignment
  db.updateWorkItem r.key delegated

/-- The histories of the table with the items whose completions were forwarded. -/
inductive History : HumanDb → List ItemKey → Prop
  | empty : History {} []
  | activated {db db' sent e t v a} (h : History db sent) (ha : db.projectActivation e t v a = .ok db') : History db' sent
  | forwarded {db db' sent policy r c} (h : History db sent) (hc : complete db policy r = .ok (db', c)) :
      History db' (r.key :: sent)
  | delegated {db db' sent policy r} (h : History db sent) (hd : delegate db policy r = .ok db') : History db' sent
  | completed {db db' sent e decision} (h : History db sent) (hc : db.commitCompletion e decision = .ok db') :
      History db' sent
  | cancelled {db db' sent e} (h : History db sent) (hc : db.commitCancellation e = .ok db') : History db' sent

/-- The request of an actor who may act on the item as it is. -/
structure Request.Entitled (r : Request) (w : WorkItem) (p : RuntimePolicy) : Prop where
  actor : r.actor.validate = .ok ()
  groups : r.actorGroups.length % 2 ^ 32 ≤ p.maxAssignmentCandidates
  acts : w.canAct r.actor.actorId r.actorGroups = true
  command : r.commandId ≠ ""
  version : r.expectedVersion = w.version

def Fresh (db : HumanDb) (r : Request) : Prop :=
  ∀ (k : ItemKey) w, db[k]? = some w → k.tenantId = r.key.tenantId → w.completionCommandId ≠ r.commandId

variable {r : CompleteRequest}

section Steps
variable {db db' : HumanDb} {policy : Option RuntimePolicy} {key : ItemKey} {e : CommittedEvent} {sent : List ItemKey}
  {w : WorkItem}

/-- An open item is active as long as none of its completions was forwarded. -/
def Tracks (sent : List ItemKey) (key : ItemKey) : Option WorkItem → Prop
  | none => key ∉ sent
  | some w => w.isOpen = true → (w.status = .active ↔ key ∉ sent)

theorem Tracks.active {w' : WorkItem} (h : Tracks sent key (some w)) (ha : w.status = .active)
    (ha' : w'.status = .active) : Tracks sent key (some w') := by
  have hn := (h (by simp [WorkItem.isOpen, ha])).mp ha
  exact fun _ => iff_of_true ha' hn

theorem Tracks.activated {t v : String} {a : Assignment} (h : Tracks sent key db[key]?)
    (ha : db.projectActivation e t v a = .ok db') : Tracks sent key db'[key]? := by
  simp only [HumanDb.projectActivation, bind_eq_ok, ensure_eq_ok, Bool.and_eq_true] at ha
  obtain ⟨_,⟨hn,_⟩,⟨⟩⟩ := ha
  rw [getElem?_insert_eq]
  split
  · rename_i heq
    subst heq
    rw [not_contains_iff.mp hn] at h
    exact fun _ => iff_of_true rfl h
  · exact h

theorem Tracks.commit {kind : String} {set : WorkItem → WorkItem} {other : Except HumanError Unit}
    (h : Tracks sent key db[key]?) (hs : ∀ w, (set w).isOpen = false)
    (hc : db.commit e kind set other = .ok db') : Tracks sent key db'[key]? := by
  simp only [HumanDb.commit, bind_eq_ok] at hc
  obtain ⟨_,_,hc⟩ := hc
  split at hc
  · cases hc
    rw [ExtTreeMap.getElem?_map]
    cases hw : db[key]? with
    | none => rwa [hw] at h
    | some w =>
      rw [hw] at h
      rw [Option.map_some]
      split
      · exact fun ho => absurd ((hs w).symm.trans ho) Bool.false_ne_true
      · exact h
  · simp only [bind_eq_ok] at hc
    obtain ⟨_,_,⟨⟩⟩ := hc
    exact h

theorem of_updateWorkItem (h : db.updateWorkItem key w = .ok db') : db' = db.insert key w := by
  simp only [HumanDb.updateWorkItem, bind_eq_ok] at h
  obtain ⟨_,_,_,_,⟨⟩⟩ := h
  rfl

theorem of_complete {c : EngineCompleteCommand} (h : complete db policy r = .ok (db', c)) :
    ∃ w, db[r.key]? = some w ∧ (w.status = .completionRequested ∧
      w.completionCommandId = r.commandId ∧ db' = db ∨ w.status = .active ∧
      ∃ w', w'.status = .completionRequested ∧ db' = db.insert r.key w') := by
  simp only [complete, bind_eq_ok, okOr_eq_ok] at h
  obtain ⟨_,_,_,_,_,_,w,hw,_,_,_,_,h⟩ := h
  refine ⟨w,hw,?_⟩
  split at h
  · rename_i hs
    simp only [bind_eq_ok, ensure_eq_ok, Bool.and_eq_true, beq_iff_eq, pure_eq_ok, Prod.mk.injEq] at h
    obtain ⟨_,⟨hc,_⟩,rfl,_⟩ := h
    exact .inl ⟨by simpa using hs,hc,rfl⟩
  · simp only [bind_eq_ok, ensure_eq_ok, pure_eq_ok, Prod.mk.injEq, WorkItem.requestCompletion, beq_iff_eq,
      HumanDb.requestCompletion] at h
    obtain ⟨_,_,_,⟨_,ha,_,_,rfl⟩,_,⟨_,hu,_,_,rfl⟩,rfl,_⟩ := h
    exact .inr ⟨ha,_,rfl,of_updateWorkItem hu⟩

theorem of_delegate {r : DelegateRequest} (h : delegate db policy r = .ok db') : ∃ w w', db[r.key]? = some w ∧
    w.status = .active ∧ w'.status = .active ∧ db' = db.insert r.key w' := by
  simp only [delegate, bind_eq_ok, okOr_eq_ok, WorkItem.delegate, ensure_eq_ok, beq_iff_eq, pure_eq_ok] at h
  obtain ⟨_,_,_,_,_,_,_,_,w,hw,_,_,_,_,_,_,_,⟨_,ha,_,_,_,_,rfl⟩,hu⟩ := h
  refine ⟨w,_,hw,ha,?_,of_updateWorkItem hu⟩
  exact ha

theorem History.tracks (h : History db sent) : Tracks sent key db[key]? := by
  induction h with
  | empty => simp [Tracks]
  | activated _ ha ih => exact ih.activated ha
  | @forwarded db db' sent _ r _ _ hc ih =>
    obtain ⟨w,hw,⟨hs,_,rfl⟩ | ⟨_,w',hs',hd⟩⟩ := of_complete hc
    · by_cases hk : r.key = key
      · rw [← hk, hw]
        exact fun _ => iff_of_false (by simp [hs]) (by simp)
      · simpa [Tracks, Ne.symm hk] using ih
    · rw [hd, getElem?_insert_eq]
      split
      · rename_i hk
        exact fun _ => iff_of_false (by simp [hs']) (by simp [hk])
      · rename_i hk
        simpa [Tracks, Ne.symm hk] using ih
  | @delegated db _ _ _ r _ hd ih =>
    obtain ⟨w,w',hw,ha,ha',hd⟩ := of_delegate hd
    rw [hd, getElem?_insert_eq]
    split
    · rename_i hk
      rw [← hk, hw] at ih
      rw [← hk]
      exact ih.active ha ha'
    · exact ih
  | completed _ hc ih => exact ih.commit (fun _ => rfl) hc
  | cancelled _ hc ih => exact ih.commit (fun _ => rfl) hc

end Steps

section Requests
variable {db : HumanDb} {p : RuntimePolicy} {w : WorkItem}

theorem Request.Entitled.named {r : Request} (he : r.Entitled w p) : r.actor.actorId ≠ "" := by
  have hv := he.actor
  simp only [ActorCredential.validate, ensure_eq_ok, Bool.and_eq_true] at hv
  simpa using hv.1

theorem complete_iff (hw : db[r.key]? = some w) (he : r.Entitled w p) (hf : Fresh db r.toRequest)
    (hd : Text.isBlank r.decision = false) : (∃ next, complete db (some p) r = .ok next) ↔ w.status = .active := by
  constructor
  · rintro ⟨next,h⟩
    obtain ⟨w',hw',⟨_,hc,_⟩ | ⟨ha,_⟩⟩ := of_complete h
    · exact absurd hc (hf r.key w' hw' rfl)
    · cases hw.symm.trans hw'
      exact ha
  · intro ha
    have ht : db.commandTaken r.key r.commandId = false := by
      simp only [HumanDb.commandTaken, List.any_eq_false]
      intro q hq
      have hq := hf q.1 q.2 (ExtTreeMap.mem_toList_iff_getElem?_eq_some.mp hq)
      simp_all
    simp [complete, he.actor, okOr, hw, ensure, he.acts, he.command, ha, he.version, WorkItem.requestCompletion,
      he.named, hd, HumanDb.requestCompletion, HumanDb.updateWorkItem, ht]
    exact he.groups

theorem delegate_iff {r : DelegateRequest} (hw : db[r.key]? = some w) (he : r.Entitled w p)
    (hd : w.delegationDepth < p.maxDelegationDepth) (ha : r.assignment.validate = .ok ()) :
    (∃ db', delegate db (some p) r = .ok db') ↔ w.status = .active := by
  constructor
  · rintro ⟨db',h⟩
    obtain ⟨w',_,hw',hs,_⟩ := of_delegate h
    cases hw.symm.trans hw'
    exact hs
  · intro hs
    simp [delegate, he.actor, okOr, hw, ensure, he.acts, he.command, hs, he.version, hd, WorkItem.delegate, he.named,
      ha, HumanDb.updateWorkItem]
    exact he.groups

end Requests

/-- After any history an open item takes a new decision, and can be delegated, exactly as long as no completion of it
has been forwarded, whatever the engine answered. -/
theorem actionable_iff_not_forwarded {db : HumanDb} {sent : List ItemKey} (h : History db sent) {key : ItemKey}
    {w : WorkItem} (hw : db[key]? = some w) (ho : w.isOpen = true) (p : RuntimePolicy) :
    (∀ r : CompleteRequest, r.key = key → r.Entitled w p → Fresh db r.toRequest → Text.isBlank r.decision = false →
      ((∃ next, complete db (some p) r = .ok next) ↔ key ∉ sent)) ∧
    ∀ r : DelegateRequest, r.key = key → r.Entitled w p → w.delegationDepth < p.maxDelegationDepth →
      r.assignment.validate = .ok () → ((∃ db', delegate db (some p) r = .ok db') ↔ key ∉ sent) := by
  have ht : Tracks sent key db[key]? := h.tracks
  rw [hw] at ht
  refine ⟨fun r hk he hf hd => ?_,fun r hk he hd ha => ?_⟩
  · subst hk
    exact (complete_iff hw he hf hd).trans (ht ho)
  · subst hk
    exact (delegate_iff hw he hd ha).trans (ht ho)

namespace Sample

def activation : CommittedEvent := ⟨"acme", "task", 1, "order", "review"⟩

def request (commandId : String) (version : Nat) : Request := ⟨⟨"acme", "task"⟩, commandId, version, ⟨"ann", [1], []⟩, []⟩

end Sample

open BpmpPlatform.HumanRuntime.Sample

/-- The engine refuses the first decision on a task; its assignee can neither decide otherwise nor delegate it. -/
theorem refused_completion_strands : ∃ db db' c,
    HumanDb.projectActivation {} activation "orders" "1" ⟨"ann", ""⟩ = .ok db ∧
    complete db (some ⟨8, 2⟩) ⟨request "first" 1, "", "", "approve"⟩ = .ok (db', c) ∧
    complete db' (some ⟨8, 2⟩) ⟨request "second" 2, "", "", "reject"⟩ = .error .idempotencyConflict ∧
    delegate db' (some ⟨8, 2⟩) ⟨request "second" 2, ⟨"bob", ""⟩⟩ =
      .error (.message "work item status COMPLETION_REQUESTED cannot be delegated") :=
  ⟨_,_,_,rfl,rfl,rfl,rfl⟩

theorem actionable_when_activated : ∃ db, History db [] ∧
    ((∃ next, complete db (some ⟨8, 2⟩) ⟨request "first" 1, "", "", "approve"⟩ = .ok next) ↔ (request "first" 1).key ∉ []) ∧
    ((∃ db', delegate db (some ⟨8, 2⟩) ⟨request "first" 1, ⟨"bob", ""⟩⟩ = .ok db') ↔ (request "first" 1).key ∉ []) := by
  have h : HumanDb.projectActivation {} activation "orders" "1" ⟨"ann", ""⟩ = .ok _ := rfl
  refine ⟨_,.activated .empty h,?_,?_⟩
  · refine (actionable_iff_not_forwarded (.activated .empty h) rfl rfl ⟨8, 2⟩).1 _ rfl ⟨rfl,?_,rfl,?_,rfl⟩ ?_ rfl
    · decide
    · decide
    · intro k w hw _
      rw [ExtTreeMap.getElem?_insert] at hw
      split at hw
      · cases hw
        decide
      · simp at hw
  · refine (actionable_iff_not_forwarded (.activated .empty h) rfl rfl ⟨8, 2⟩).2 _ rfl ⟨rfl,?_,rfl,?_,rfl⟩ ?_ rfl
    all_goals decide

end BpmpPlatform.HumanRuntime
