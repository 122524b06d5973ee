import BpmpPlatform.Engine.MemoryStore
import BpmpPlatform.Library.DueIndex
import BpmpPlatform.Replication.Storage

/-! # Keys, records and encryption of the durable workflow store

The store keeps its records in column families of one database, which the replicated state machine writes too. Payloads
are encrypted under the key they are stored at; cipher and nonces are parameters.
-/
namespace BpmpPlatform.Store
open Std Outcome Replication
open Storage (Component)

/-- A key of the store: a text, components with their lengths before them, and numbers of eight bytes. -/
structure StoreKey where
  label : String
  components : List Component
  numbers : List Nat
  deriving DecidableEq

section Order

instance : Ord StoreKey :=
  ⟨compareLex (compareOn StoreKey.label) (compareLex (compareOn StoreKey.components) (compareOn StoreKey.numbers))⟩

instance : TransOrd StoreKey := inferInstanceAs (TransCmp (compareLex _ _))

instance : LawfulEqOrd StoreKey := lawfulEqCmp_three fun a b _ _ _ => by
  cases a; cases b; simp_all

theorem compare_storeKey (a b : StoreKey) : compare a b =
    (compare a.label b.label).then ((compare a.components b.components).then (compare a.numbers b.numbers)) := rfl

theorem compare_storageKey (a b : StorageKey StoreKey) : compare a b =
    (compare a.columnFamily b.columnFamily).then (compare a.key b.key) := rfl

end Order

section Keys

def eventsCf : String := "events"
def snapshotsCf : String := "snapshots"
def streamMetaCf : String := "stream_meta"
def dedupCf : String := "dedup"
def outboxCf : String := "outbox"
def idempotencyCf : String := "idempotency"
def authorizationAuditCf : String := "authorization_audit"
def outboxMetaCf : String := "outbox_meta"

def streamPrefix (tenant : TenantId) (inst : InstanceId) : List Component := [⟨tenant.value⟩, ⟨inst.value⟩]

theorem streamPrefix_inj {tenant tenant' : TenantId} {inst inst' : InstanceId}
    (h : streamPrefix tenant inst = streamPrefix tenant' inst') : tenant = tenant' ∧ inst = inst' := by
  simp only [streamPrefix, List.cons.injEq, Component.mk.injEq, and_true] at h
  exact ⟨Identifier.ext_value h.1,Identifier.ext_value h.2⟩

def eventStorageKey (tenant : TenantId) (inst : InstanceId) (sequence : Nat) : StoreKey :=
  ⟨"", streamPrefix tenant inst, [sequence]⟩

def snapshotStorageKey (tenant : TenantId) (inst : InstanceId) : StoreKey :=
  ⟨"snapshot\x00", streamPrefix tenant inst, []⟩

def streamMetaKey (tenant : TenantId) (inst : InstanceId) : StoreKey := ⟨"", streamPrefix tenant inst, []⟩

def dedupStorageKey (tenant : TenantId) (eventId : String) : StoreKey := ⟨"", [⟨tenant.value⟩, ⟨eventId⟩], []⟩

def outboxStorageKey (cursor : Nat) : StoreKey := ⟨"", [], [cursor]⟩

def outboxTailKey : StoreKey := ⟨"tail", [], []⟩

def idempotencyStorageKey (tenant : TenantId) (actor : ActorId) (key : IdempotencyKey) : StoreKey :=
  ⟨"", [⟨tenant.value⟩, ⟨actor.value⟩, ⟨key.value⟩], []⟩

def authorizationAuditStorageKey (tenant : TenantId) (command : CommandId) : StoreKey :=
  ⟨"", [⟨tenant.value⟩, ⟨command.value⟩], []⟩

end Keys

/-- What is corrupt, in place of the text that says so. -/
inductive Corruption
  | detail (text : String)
  | undecodable
  | event (error : EventCodecError)
  | snapshot (error : SnapshotCodecError)
  | identifier (error : IdentifierError)
  deriving DecidableEq

inductive StoreError
  | versionConflict (expected actual : Nat)
  | idempotencyConflict
  | nonContiguousSequence
  | duplicateEvent
  | invalidSnapshot
  | invalidAuthorizationAudit
  | invalidGovernanceTransition (detail : String)
  | dataUnavailableForCompliance (keyScope keyVersion : String) (keyEpoch : Nat)
  | cryptoUnavailable
  | corruptData (cause : Corruption)
  | replayLimitExceeded (configuredLimit : Nat)
  | unavailable (detail : String)
  deriving DecidableEq

section Encryption

inductive CryptoError
  | keyUnavailable
  | keyRevoked
  | staleKeyEpoch
  | encryptionFailed
  | decryptionFailed
  | invalidMetadata
  deriving DecidableEq

structure EncryptedPayload (C : Type) where
  keyScope : KeyScope
  keyVersion : String
  keyEpoch : Nat
  algorithm : String
  nonce : List UInt8
  ciphertext : C
  deriving DecidableEq

def EncryptedPayload.header {C : Type} (payload : EncryptedPayload C) : KeyScope × String × Nat × String :=
  (payload.keyScope, payload.keyVersion, payload.keyEpoch, payload.algorithm)

/-- `PayloadCryptoPort`, with the nonce as an argument. What was encrypted for a key is decrypted under this key, and
neither success nor header depend on the nonce. -/
structure PayloadCrypto (Plain C : Type) where
  encrypt : List UInt8 → KeyScope → StoreKey → Plain → Except CryptoError (EncryptedPayload C)
  decrypt : StoreKey → EncryptedPayload C → Except CryptoError Plain
  decrypt_encrypt : ∀ {nonce scope key plain payload}, encrypt nonce scope key plain = .ok payload →
    decrypt key payload = .ok plain
  encrypt_header : ∀ nonce nonce' scope key plain, (encrypt nonce scope key plain).map EncryptedPayload.header =
    (encrypt nonce' scope key plain).map EncryptedPayload.header

/-- The nonces drawn in one call, by the key of the record each is for. -/
abbrev Nonces := StoreKey → List UInt8

end Encryption

section Records

structure AuthorizationAuditRecord where
  decisionId : String
  tenantId : String
  actorId : String
  workloadId : String
  action : String
  resourceRef : String
  allowed : Bool
  denyReasonCode : String
  policyVersion : String
  revokeEpoch : Nat
  occurredAtEpochMs : Nat
  commandId : String
  correlationId : String
  workflowType : String
  workflowVersion : String
  instanceId : String
  activeNodeId : String
  roles : List String
  configVersion : String
  bundleSequence : Nat
  matchedGrantIds : List String
  deriving DecidableEq

structure OutboxEntry where
  tenantId : String
  instanceId : String
  sequence : Nat
  eventId : String
  outboxSequence : Nat
  deriving DecidableEq

structure StoredCommandResult where
  commandId : String
  version : Nat
  eventIds : List String
  configVersion : String
  policyVersion : String
  deriving DecidableEq

inductive Plaintext (events : MessageFormat Wire.EventEnvelope) (snapshots : MessageFormat Wire.WorkflowSnapshot)
  | event (bytes : events.Bytes)
  | snapshot (bytes : snapshots.Bytes)
  | authorizationAudit (record : AuthorizationAuditRecord)

/-- The values of the database; the last two are those of the state machine itself. -/
inductive StoreValue (C M : Type)
  | number (value : Nat)
  | empty
  | event (record : EncryptedPayload C)
  | snapshot (snapshotSequence : Nat) (record : EncryptedPayload C)
  | authorizationAudit (record : EncryptedPayload C)
  | governance (record : EncryptedPayload C)
  | outboxEntry (entry : OutboxEntry)
  | commandResult (stored : StoredCommandResult)
  | text (value : String)
  | response (commandId : String) (batchDigest : ValueDigest) (outcome : Replication.ApplyOutcome)
      (payload : StoreValue C M)
  | position (metadata : StateMachineMetadata M)

abbrev Db (C M : Type) := ExtTreeMap (StorageKey StoreKey) (StoreValue C M)

abbrev DbWrite (C M : Type) := Write (StorageKey StoreKey) (StoreValue C M)

end Records

end BpmpPlatform.Store
