import BpmpPlatform.Library.Writes
import BpmpPlatform.Library.Encoding
import BpmpPlatform.Core.Text

/-! # Prepared batches of the replicated state machine

A leader prepares a batch of conditions and mutations once; every node validates and applies the same bytes. How keys
and values are written, hashed and serialized is a parameter.
-/
namespace BpmpPlatform.Replication
open Std Outcome Encoding

abbrev ValueDigest := Vector UInt8 32

structure StorageKey (K : Type) where
  columnFamily : String
  key : K
  deriving DecidableEq

inductive ExpectedValue
  | missing
  | digest (digest : ValueDigest)
  deriving DecidableEq

structure Precondition (K : Type) where
  storageKey : StorageKey K
  expected : ExpectedValue
  deriving DecidableEq

abbrev Mutation (K V : Type) := Write (StorageKey K) V

structure PreparedAtomicBatch (K V : Type) where
  commandId : String
  idempotencyScope : K
  preconditions : List (Precondition K)
  mutations : List (Mutation K V)
  responsePayload : V
  batchDigest : ValueDigest

structure StateMachineLimits where
  maxConditions : Nat
  maxMutations : Nat
  maxBatchBytes : Nat
  maxSnapshotBytes : Nat
  snapshotDirectory : String
  appendOnlyColumnFamilies : ExtTreeSet String

inductive BatchValidationError
  | invalidLimits
  | missingIdentity
  | digestMismatch
  | conditionLimitExceeded
  | mutationLimitExceeded
  | batchByteLimitExceeded
  | serialization
  | invalidStorageKey
  | duplicateCondition
  | duplicateMutation
  | appendOnlyViolation
  deriving DecidableEq

def BatchValidationError.text : BatchValidationError → String
  | .invalidLimits => "state-machine limits are invalid"
  | .missingIdentity => "batch command or idempotency identity is missing"
  | .digestMismatch => "batch digest does not match its canonical contents"
  | .conditionLimitExceeded => "batch condition count exceeds configured limit"
  | .mutationLimitExceeded => "batch mutation count exceeds configured limit"
  | .batchByteLimitExceeded => "serialized batch exceeds configured byte limit"
  | .serialization => "batch cannot be serialized"
  | .invalidStorageKey => "storage key has an empty column family or key"
  | .duplicateCondition => "batch contains duplicate preconditions"
  | .duplicateMutation => "batch contains duplicate mutations"
  | .appendOnlyViolation => "batch would overwrite or delete append-only state"

theorem BatchValidationError.text_inj {error error' : BatchValidationError} (h : error.text = error'.text) : error = error' := by
  cases error <;> cases error' <;> first | rfl | exact absurd h (by decide)

structure ByteFormat (K V : Type) where
  keyBytes : K → List UInt8
  valueBytes : V → List UInt8
  noBytes : V
  sha256 : List UInt8 → ValueDigest
  serializedSize : PreparedAtomicBatch K V → Option Nat

section Orders
variable {K : Type} [Ord K]

instance : Ord (StorageKey K) := ⟨compareLex (compareOn StorageKey.columnFamily) (compareOn StorageKey.key)⟩

instance [TransOrd K] : TransOrd (StorageKey K) := inferInstanceAs (TransCmp (compareLex _ _))

instance [LawfulEqOrd K] : LawfulEqOrd (StorageKey K) := lawfulEqCmp_two fun a b _ _ => by
  cases a; cases b; simp_all

end Orders

section Digest
variable {K V : Type} (format : ByteFormat K V)

def ByteFormat.valueDigest (value : V) : ValueDigest := format.sha256 (format.valueBytes value)

def keyDigestBytes (key : StorageKey K) : List UInt8 := text key.columnFamily ++ lengthPrefixed (format.keyBytes key.key)

def conditionBytes (condition : Precondition K) : List UInt8 :=
  keyDigestBytes format condition.storageKey ++
    match condition.expected with
    | .missing => [0]
    | .digest digest => 1 :: digest.toList

def mutationBytes : Mutation K V → List UInt8
  | .put storageKey value => 1 :: (keyDigestBytes format storageKey ++ lengthPrefixed (format.valueBytes value))
  | .delete storageKey => 2 :: keyDigestBytes format storageKey

/-- What `calculate_digest` feeds to the hash, one update after another. -/
def digestedBytes (batch : PreparedAtomicBatch K V) : List UInt8 :=
  text "bpmp-authoritative-atomic-batch-v1" ++ (text batch.commandId ++
    (lengthPrefixed (format.keyBytes batch.idempotencyScope) ++ (be64 batch.preconditions.length ++
    (batch.preconditions.flatMap (conditionBytes format) ++ (be64 batch.mutations.length ++
    (batch.mutations.flatMap (mutationBytes format) ++ lengthPrefixed (format.valueBytes batch.responsePayload)))))))

def calculateDigest (batch : PreparedAtomicBatch K V) : ValueDigest := format.sha256 (digestedBytes format batch)

def PreparedAtomicBatch.new (commandId : String) (idempotencyScope : K) (preconditions : List (Precondition K))
    (mutations : List (Mutation K V)) (responsePayload : V) : PreparedAtomicBatch K V :=
  let batch : PreparedAtomicBatch K V := {
    commandId := commandId
    idempotencyScope := idempotencyScope
    preconditions := preconditions
    mutations := mutations
    responsePayload := responsePayload
    batchDigest := Vector.replicate 32 0 }
  { batch with batchDigest := calculateDigest format batch }

end Digest

section Validate
variable {K V : Type} [DecidableEq K] (format : ByteFormat K V)

def StateMachineLimits.validate (limits : StateMachineLimits) : Except BatchValidationError Unit := do
  ensure (!(limits.maxConditions == 0 || limits.maxMutations == 0 || limits.maxBatchBytes == 0 ||
    limits.maxSnapshotBytes == 0 || limits.snapshotDirectory == "")) .invalidLimits
  ensure (!limits.appendOnlyColumnFamilies.toList.any Text.isBlank) .invalidLimits

def validateStorageKey (key : StorageKey K) : Except BatchValidationError Unit :=
  ensure (!(Text.isBlank key.columnFamily || (format.keyBytes key.key).isEmpty)) .invalidStorageKey

def validateConditions (conditions : List (StorageKey K)) : List (Precondition K) → Except BatchValidationError Unit
  | [] => .ok ()
  | condition :: rest => do
    validateStorageKey format condition.storageKey
    ensure (!conditions.contains condition.storageKey) .duplicateCondition
    validateConditions (condition.storageKey :: conditions) rest

def Mutation.isDelete : Mutation K V → Bool
  | .put _ _ => false
  | .delete _ => true

def validateMutations (limits : StateMachineLimits) (preconditions : List (Precondition K)) (mutations : List (StorageKey K)) :
    List (Mutation K V) → Except BatchValidationError Unit
  | [] => .ok ()
  | mutation :: rest => do
    validateStorageKey format mutation.address
    ensure (!mutations.contains mutation.address) .duplicateMutation
    ensure (!(limits.appendOnlyColumnFamilies.contains mutation.address.columnFamily &&
      (Mutation.isDelete mutation || !preconditions.contains ⟨mutation.address, .missing⟩))) .appendOnlyViolation
    validateMutations limits preconditions (mutation.address :: mutations) rest

def PreparedAtomicBatch.validate (batch : PreparedAtomicBatch K V) (limits : StateMachineLimits) :
    Except BatchValidationError Unit := do
  limits.validate
  ensure (!(Text.isBlank batch.commandId || (format.keyBytes batch.idempotencyScope).isEmpty)) .missingIdentity
  ensure (calculateDigest format batch == batch.batchDigest) .digestMismatch
  ensure (decide (batch.preconditions.length ≤ limits.maxConditions)) .conditionLimitExceeded
  ensure (decide (batch.mutations.length ≤ limits.maxMutations)) .mutationLimitExceeded
  let serializedSize ← okOr .serialization (format.serializedSize batch)
  ensure (decide (serializedSize ≤ limits.maxBatchBytes)) .batchByteLimitExceeded
  validateConditions format [] batch.preconditions
  validateMutations format limits batch.preconditions [] batch.mutations

end Validate

section Valid
variable {K V : Type} [DecidableEq K] {format : ByteFormat K V} {limits : StateMachineLimits}

theorem validateMutations_spec {preconditions : List (Precondition K)} {seen : List (StorageKey K)}
    {mutations : List (Mutation K V)} (h : validateMutations format limits preconditions seen mutations = .ok ()) :
    ∀ mutation ∈ mutations, limits.appendOnlyColumnFamilies.contains mutation.address.columnFamily = true →
      ⟨mutation.address, .missing⟩ ∈ preconditions := by
  induction mutations generalizing seen with
  | nil => exact List.forall_mem_nil _
  | cons mutation mutations ih =>
    simp only [validateMutations, bind_eq_ok, ensure_eq_ok, Bool.not_eq_true', List.contains_eq_mem,
      decide_eq_false_iff_not, Bool.and_eq_false_iff, Bool.or_eq_false_iff, Bool.not_eq_false', decide_eq_true_eq] at h
    obtain ⟨_,_,_,_,_,hap,hr⟩ := h
    rw [List.forall_mem_cons]
    refine ⟨fun hf => ?_,ih hr⟩
    rcases hap with ho | ⟨_,hco⟩
    · rw [hf] at ho
      cases ho
    · exact hco

/-- A valid batch writes to an append-only family only what it requires to be missing. -/
theorem validate_spec {batch : PreparedAtomicBatch K V} (h : batch.validate format limits = .ok ()) :
    ∀ mutation ∈ batch.mutations, limits.appendOnlyColumnFamilies.contains mutation.address.columnFamily = true →
      ⟨mutation.address, .missing⟩ ∈ batch.preconditions := by
  simp only [PreparedAtomicBatch.validate, bind_eq_ok] at h
  obtain ⟨_,_,_,_,_,_,_,_,_,_,_,_,_,_,_,_,hm⟩ := h
  exact validateMutations_spec hm

end Valid

end BpmpPlatform.Replication
