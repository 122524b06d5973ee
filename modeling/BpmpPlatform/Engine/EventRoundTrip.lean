import BpmpPlatform.Engine.EventCodec
import BpmpPlatform.Engine.SnapshotRoundTrip

/-! # Which events can be read back

Decoding an encoded event gives the event back exactly when the texts and numbers the decoder checks are given.
-/
namespace BpmpPlatform
open Std Outcome

def Legible : DomainEvent → Prop
  | .serviceTaskCompleted _ outputs _ => AllNamed outputs.keys
  | .userTaskActivated _ _ assignmentPolicyRef formKey _ => AllNamed (assignmentPolicyRef :: formKey.toList)
  | .userTaskCompleted _ decision resultVariable _ => AllNamed [decision, resultVariable]
  | .userTaskCancelled _ reason _ => AllNamed [reason]
  | .scriptTaskActivated _ _ implementationRef implementationVersion _ =>
    AllNamed [implementationRef, implementationVersion]
  | .decisionTaskEvaluated _ decisionTableId outputs _ => AllNamed (decisionTableId :: outputs.keys)
  | .boundaryEventArmed _ _ _ _ trigger _ => trigger.isNamed = true
  | .multiInstanceStarted _ _ _ _ maxParallelism itemVariable _ _ =>
    maxParallelism ≠ 0 ∧ AllNamed itemVariable.toList
  | .scopeEntered _ _ _ _ invocation _ => invocation ≠ 0
  | .workflowTerminatedForCompliance policyId _ reasonCode _ _ => AllNamed [policyId, reasonCode]
  | _ => True

namespace EventCodec

section Fields

variable {kind : IdentifierKind}

@[simp] theorem identifier_value (a : Identifier kind) (field : String) : identifier kind a.value field = .ok a := by
  rw [identifier, mapError_eq_ok, Identifier.new_value]

@[simp] theorem identifiers_value (ids : List (Identifier kind)) (field : String) :
    identifiers kind field (identifiersToWire ids) = .ok ids :=
  collectAll_map_eq_ok fun id _ => identifier_value id field

variable {field : String}

@[simp] theorem nonEmpty_eq_ok_iff {value result : String} :
    nonEmpty value field = .ok result ↔ Text.isBlank value = false ∧ value = result := by
  unfold nonEmpty
  cases Text.isBlank value <;> simp

@[simp] theorem positive_eq_ok {value result : Nat} :
    positive value field = .ok result ↔ value ≠ 0 ∧ value = result := by
  unfold positive
  split <;> simp_all

@[simp] theorem workflowValueItem_roundTrip (value : WorkflowValue) :
    workflowValueItemFromWire (some (workflowValueToWire value)) = .ok value := by
  simp [workflowValueItemFromWire, workflowValueFromWire_toWire]

@[simp] theorem workflowValueItems_roundTrip (items : List WorkflowValue) :
    workflowValueItemsFromWire (workflowValueItemsToWire items) = .ok items := by
  rw [workflowValueItemsFromWire, mapError_eq_ok, workflowValueItemsFromWire_toWire]

theorem workflowVariable_roundTrip {name name' : String} {value value' : WorkflowValue} :
    workflowVariableFromWire ⟨name, some (workflowValueToWire value)⟩ = .ok (name', value') ↔
      Text.isBlank name = false ∧ name' = name ∧ value' = value := by
  simp only [workflowVariableFromWire, bind_eq_ok, nonEmpty_eq_ok_iff, workflowValueItem_roundTrip,
    Except.ok.injEq, pure_eq_ok, Prod.mk.injEq]
  constructor
  · rintro ⟨_,⟨hb,rfl⟩,_,rfl,rfl,rfl⟩; exact ⟨hb,rfl,rfl⟩
  · rintro ⟨hb,rfl,rfl⟩; exact ⟨_,⟨hb,rfl⟩,_,rfl,rfl,rfl⟩

@[simp] theorem outputs_roundTrip {outputs : Variables} :
    collectMap workflowVariableFromWire (outputsToWire outputs) = .ok outputs ↔ AllNamed outputs.keys := by
  rw [outputsToWire, collectMap_toList_eq_ok fun k v k' v' h => (workflowVariable_roundTrip.mp h).2.1]
  simp only [workflowVariable_roundTrip, and_true, AllNamed, ExtTreeMap.mem_keys,
    ExtTreeMap.mem_iff_isSome_getElem?, Option.isSome_iff_exists, forall_exists_index]

@[simp] theorem multiInstanceMode_roundTrip (mode : MultiInstanceMode) :
    multiInstanceModeFromWire (multiInstanceModeToWire mode) = .ok mode := by
  cases mode <;> rfl

@[simp] theorem boundaryTrigger_roundTrip {trigger : BoundaryTrigger} :
    boundaryTriggerFromWire (boundaryTriggerToWire trigger).1 (boundaryTriggerToWire trigger).2 = .ok trigger ↔
      trigger.isNamed = true := triggerFrom_roundTrip fun _ _ => nonEmpty_eq_ok_iff

@[simp] theorem casePlanItemKind_roundTrip (kind : CasePlanItemKind) :
    casePlanItemKindFromName (casePlanItemKindName kind) = .ok kind := by
  cases kind <;> rfl

@[simp] theorem casePlanItemStatus_roundTrip (status : CasePlanItemStatus) :
    casePlanItemStatusFromName (casePlanItemStatusName status) = .ok status := by
  cases status <;> rfl

@[simp] theorem parent_roundTrip (parent : Option ScopeInstanceId) :
    parentFromWire (parent.map Identifier.value) = .ok parent := by
  cases parent with
  | none => rfl
  | some => simp [parentFromWire]

@[simp] theorem item_roundTrip (item : Option WorkflowValue) :
    itemFromWire (item.map fun value => some (workflowValueToWire value)) = .ok item := by
  cases item with
  | none => rfl
  | some => simp [itemFromWire]

@[simp] theorem digest_roundTrip (digest : Vector UInt8 32) : digestFromWire digest.toList = .ok digest := by
  simp [digestFromWire, Vector.toList]

end Fields

/-- An event is read back unchanged exactly when it is legible. -/
theorem event_roundTrip {e : DomainEvent} : eventFromWire (eventTime e) (eventToWire e) = .ok e ↔ Legible e := by
  cases e <;>
    simp [eventFromWire, eventToWire, eventTime, Legible, AllNamed, optionalNonEmpty_getD_iff]

section Envelopes
variable {envelope : EventEnvelope}

structure MetadataFits (envelope : EventEnvelope) : Prop where
  schema : envelope.metadata.schemaVersion = eventSchemaVersion
  time : envelope.metadata.occurredAtEpochMs = eventTime envelope.event
  tenant : tenantAgrees envelope.metadata.tenantId envelope.event = true

/-- The identifiers of the metadata are always read back; what is left is the event and its tenant. -/
theorem envelopeFromWire_toWire (h : envelope.metadata.schemaVersion = eventSchemaVersion) :
    envelopeFromWire (envelopeToWire envelope) = (do
      let event ← eventFromWire envelope.metadata.occurredAtEpochMs (eventToWire envelope.event)
      ensure (tenantAgrees envelope.metadata.tenantId event) .tenantMismatch return ⟨envelope.metadata, event⟩) := by
  simp only [envelopeFromWire, envelopeToWire, eventMetadataToWire, okOr, ok_bind, h, identifier_value]
  rw [← h, beq_self_eq_true]
  rfl

theorem envelope_roundTrip (h : MetadataFits envelope) :
    envelopeFromWire (envelopeToWire envelope) = .ok envelope ↔ Legible envelope.event := by
  rw [envelopeFromWire_toWire h.schema, ← event_roundTrip, ← h.time]
  simp only [bind_eq_ok, ensure_eq_ok, pure_eq_ok]
  constructor
  · rintro ⟨event,hev,_,_,heq⟩
    rw [hev, ← heq]
  · intro hev
    exact ⟨_,hev,(),h.tenant,rfl⟩

variable (format : MessageFormat Wire.EventEnvelope)

theorem decode_encode (h : envelope.metadata.schemaVersion = eventSchemaVersion) :
    decode format (encode format envelope) = envelopeFromWire (envelopeToWire envelope) := by
  simp only [decode, encode, format.decode_encode, upcast, envelopeToWire, eventMetadataToWire, h, okOr, ok_bind,
    if_true]
  rfl

theorem decode_encode_iff (h : MetadataFits envelope) :
    decode format (encode format envelope) = .ok envelope ↔ Legible envelope.event := by
  rw [decode_encode format h.schema]
  exact envelope_roundTrip h

theorem decode_encodeV0_iff (h : MetadataFits envelope) :
    decode format (encodeV0 format envelope) = .ok envelope ↔ Legible envelope.event := by
  rw [← envelope_roundTrip h]
  have hv0 : (0 : Nat) ≠ eventSchemaVersion := by decide
  simp only [decode, encodeV0, format.decode_encode, upcast, okOr, ok_bind, hv0, if_false, if_true]
  simp only [envelopeToWire, eventMetadataToWire, h.schema]
  rfl

end Envelopes

end EventCodec

end BpmpPlatform
