import BpmpPlatform.Engine.LocalTasks
import BpmpPlatform.Library.Encoding

/-! # Identities of dispatches

The commands of the engine's own dispatches are identified by texts that join event, signal and node identifiers with
colons, so different dispatches can have one identity.
-/
namespace BpmpPlatform
open Encoding List

def correlationIdentity (signalId : String) (boundaryEventId : NodeId) : String :=
  signalId ++ ":boundary:" ++ boundaryEventId.value

def assignmentBytes (tenantId : TenantId) (taskId sessionId : String) : List UInt8 :=
  text tenantId.value ++ (text taskId ++ text sessionId)

def assignmentId (sha256 : List UInt8 → String) (tenantId : TenantId) (taskId sessionId : String) : String :=
  "remote:" ++ sha256 (assignmentBytes tenantId taskId sessionId)

/-- What the engine is to do: fire a timer that an event of a command armed, hand a signal to a boundary event, complete the
local task that an event of a command activated, or complete a remote task for a session. -/
inductive Dispatch
  | timer (commandId : CommandId) (sequence generation : Nat)
  | correlation (signalId : String) (boundaryEventId : NodeId)
  | localTask (commandId : CommandId) (sequence : Nat)
  | remote (taskId sessionId : { s : String // Sized s })
  deriving DecidableEq

/-- The identity is the command identifier and the idempotency key. -/
def Dispatch.identity (sha256 : List UInt8 → String) (tenantId : TenantId) : Dispatch → String
  | .timer commandId sequence generation => timerIdentity (eventIdOf commandId sequence) generation
  | .correlation signalId boundaryEventId => correlationIdentity signalId boundaryEventId
  | .localTask commandId sequence => localTaskIdentity (eventIdOf commandId sequence)
  | .remote taskId sessionId => "remote-task:" ++ assignmentId sha256 tenantId taskId sessionId

def Dispatch.Plain : Dispatch → Prop
  | .timer _ _ _ | .remote _ _ => True
  | .correlation _ boundaryEventId => ':' ∉ boundaryEventId.value.toList ∧ ∀ n : Nat, boundaryEventId.value ≠ toString n
  | .localTask commandId _ => ¬ ['t', 'i', 'm', 'e', 'r'] <:+ commandId.value.toList

def Dispatch.hashed (tenantId : TenantId) : Dispatch → List UInt8
  | .remote taskId sessionId => assignmentBytes tenantId taskId sessionId
  | _ => []

/-- The identity split at its last colon. -/
def Dispatch.split (sha256 : List UInt8 → String) (tenantId : TenantId) : Dispatch → List Char × List Char
  | .timer commandId sequence generation =>
    (commandId.value.toList ++ ':' :: (toString sequence).toList ++ [':', 't', 'i', 'm', 'e', 'r'], (toString generation).toList)
  | .correlation signalId boundaryEventId => (signalId.toList ++ [':', 'b', 'o', 'u', 'n', 'd', 'a', 'r', 'y'],
    boundaryEventId.value.toList)
  | .localTask commandId sequence => (['l', 'o', 'c', 'a', 'l', '-', 't', 'a', 's', 'k'] ++ ':' :: commandId.value.toList,
    (toString sequence).toList)
  | .remote taskId sessionId => (['r', 'e', 'm', 'o', 't', 'e', '-', 't', 'a', 's', 'k', ':', 'r', 'e', 'm', 'o', 't', 'e'],
    (sha256 (assignmentBytes tenantId taskId sessionId)).toList)

section
variable {sha256 : List UInt8 → String} {tenantId : TenantId}

theorem Dispatch.toList_identity (d : Dispatch) :
    (d.identity sha256 tenantId).toList = (d.split sha256 tenantId).1 ++ ':' :: (d.split sha256 tenantId).2 := by
  cases d <;> simp [identity, split, timerIdentity, correlationIdentity, localTaskIdentity, assignmentId, eventIdOf]

/-- The last character before the last colon, unless it is that of a command identifier. -/
def Dispatch.endsWith : Dispatch → Option Char
  | .timer _ _ _ => some 'r'
  | .correlation _ _ => some 'y'
  | .localTask _ _ => none
  | .remote _ _ => some 'e'

theorem Dispatch.getLast?_split {d : Dispatch} {c : Char} (h : d.endsWith = some c) :
    (d.split sha256 tenantId).1.getLast? = some c := by
  cases d <;> cases h <;> first | rfl | (rw [split, getLast?_append]; rfl)

theorem Dispatch.Plain.colon_not_mem {d : Dispatch} (h : d.Plain) (hdigits : ∀ bytes, ':' ∉ (sha256 bytes).toList) :
    ':' ∉ (d.split sha256 tenantId).2 := by
  cases d with
  | timer | localTask => exact Joined.not_mem_toString (by decide) _
  | correlation => exact h.1
  | remote => exact hdigits _

theorem suffix_of_append {l a b : List Char} (hl : ':' ∉ l) (h : l <:+ a ++ ':' :: b) : l <:+ b := by
  obtain ⟨t,ht⟩ := h
  rcases append_eq_append_iff.mp ht with ⟨x,-,hx⟩ | ⟨_ | ⟨c,x⟩,-,hx⟩
  · rw [hx] at hl
    simp at hl
  · rw [nil_append] at hx
    rw [← hx] at hl
    simp at hl
  · obtain ⟨-,rfl⟩ := List.cons.inj hx
    exact suffix_append ..

end

namespace Sample

def correlated : Dispatch := .correlation "remote-task:remote" (.lit "late")

def assigned : Dispatch := .remote ⟨"task", by decide⟩ ⟨"session", by decide⟩

def lengthText (bytes : List UInt8) : String := toString bytes.length

end Sample

open Sample

end BpmpPlatform
