import BpmpPlatform.Replication.Batch

/-! # What the digest of a batch covers

Every part of the bytes that are hashed is read off the front of the rest, so that they determine the batch up to its digest.
-/
namespace BpmpPlatform.Replication
open Encoding List

/-- A byte string in memory. -/
abbrev Bytes := { bytes : List UInt8 // bytes.length < 2 ^ 64 }

abbrev ByteBatch := PreparedAtomicBatch Bytes Bytes

def byteFormat (sha256 : List UInt8 → ValueDigest) (serializedSize : ByteBatch → Option Nat) : ByteFormat Bytes Bytes where
  keyBytes := Subtype.val
  valueBytes := Subtype.val
  noBytes := ⟨[], by decide⟩
  sha256 := sha256
  serializedSize := serializedSize

/-- The texts and lists of the batch are in memory too. -/
structure ByteBatch.InMemory (batch : ByteBatch) : Prop where
  commandId : Sized batch.commandId
  preconditions : batch.preconditions.length < 2 ^ 64
  mutations : batch.mutations.length < 2 ^ 64
  conditionFamilies : ∀ condition ∈ batch.preconditions, Sized condition.storageKey.columnFamily
  mutationFamilies : ∀ mutation ∈ batch.mutations, Sized mutation.address.columnFamily

section Injective
variable {sha256 : List UInt8 → ValueDigest} {serializedSize : ByteBatch → Option Nat} {rest rest' : List UInt8}

theorem keyDigestBytes_append_inj {key key' : StorageKey Bytes} (hs : Sized key.columnFamily) (hs' : Sized key'.columnFamily)
    (h : keyDigestBytes (byteFormat sha256 serializedSize) key ++ rest =
      keyDigestBytes (byteFormat sha256 serializedSize) key' ++ rest') : key = key' ∧ rest = rest' := by
  simp only [keyDigestBytes, append_assoc] at h
  obtain ⟨hf,h⟩ := text_append_inj hs hs' h
  obtain ⟨hk,hr⟩ := lengthPrefixed_append_inj key.key.2 key'.key.2 h
  cases key
  cases key'
  cases hf
  cases Subtype.ext hk
  exact ⟨rfl,hr⟩

theorem conditionBytes_append_inj {condition condition' : Precondition Bytes} (hs : Sized condition.storageKey.columnFamily)
    (hs' : Sized condition'.storageKey.columnFamily)
    (h : conditionBytes (byteFormat sha256 serializedSize) condition ++ rest =
      conditionBytes (byteFormat sha256 serializedSize) condition' ++ rest') : condition = condition' ∧ rest = rest' := by
  obtain ⟨key,expected⟩ := condition
  obtain ⟨key',expected'⟩ := condition'
  simp only [conditionBytes, append_assoc] at h
  obtain ⟨rfl,he⟩ := keyDigestBytes_append_inj hs hs' h
  cases expected with
  | missing => cases expected' with
    | missing => exact ⟨rfl,(List.cons.inj he).2⟩
    | digest => cases he
  | digest => cases expected' with
    | missing => cases he
    | digest =>
      obtain ⟨hd,hr⟩ := append_inj (List.cons.inj he).2 (by simp)
      rw [Vector.toList_inj.mp hd]
      exact ⟨rfl,hr⟩

theorem mutationBytes_append_inj {mutation mutation' : Mutation Bytes Bytes} (hs : Sized mutation.address.columnFamily)
    (hs' : Sized mutation'.address.columnFamily)
    (h : mutationBytes (byteFormat sha256 serializedSize) mutation ++ rest =
      mutationBytes (byteFormat sha256 serializedSize) mutation' ++ rest') : mutation = mutation' ∧ rest = rest' := by
  cases mutation with
  | put key value => cases mutation' with
    | put key' value' =>
      simp only [mutationBytes, cons_append, append_assoc] at h
      obtain ⟨rfl,hv⟩ := keyDigestBytes_append_inj hs hs' (List.cons.inj h).2
      obtain ⟨hv,hr⟩ := lengthPrefixed_append_inj value.2 value'.2 hv
      rw [Subtype.ext hv]
      exact ⟨rfl,hr⟩
    | delete => cases h
  | delete => cases mutation' with
    | put => cases h
    | delete =>
      obtain ⟨rfl,hr⟩ := keyDigestBytes_append_inj hs hs' (List.cons.inj h).2
      exact ⟨rfl,hr⟩

end Injective

/-- The bytes that are hashed determine the batch up to its digest. -/
theorem eq_of_digestedBytes_eq {sha256 : List UInt8 → ValueDigest} {serializedSize : ByteBatch → Option Nat}
    {first second : ByteBatch} (hf : first.InMemory) (hs : second.InMemory)
    (h : digestedBytes (byteFormat sha256 serializedSize) first = digestedBytes (byteFormat sha256 serializedSize) second) :
    { first with batchDigest := second.batchDigest } = second := by
  obtain ⟨commandId,scope,conditions,mutations,payload,_⟩ := first
  obtain ⟨commandId',scope',conditions',mutations',payload',_⟩ := second
  obtain ⟨rfl,h⟩ := text_append_inj hf.commandId hs.commandId (append_cancel_left h)
  obtain ⟨hsc,h⟩ := lengthPrefixed_append_inj scope.2 scope'.2 h
  obtain ⟨hc,h⟩ := be64_append_inj hf.preconditions hs.preconditions h
  obtain ⟨rfl,h⟩ := flatMap_append_inj (fun condition hin condition' hin' _ _ =>
    conditionBytes_append_inj (hf.conditionFamilies condition hin) (hs.conditionFamilies condition' hin')) hc h
  obtain ⟨hm,h⟩ := be64_append_inj hf.mutations hs.mutations h
  obtain ⟨rfl,h⟩ := flatMap_append_inj (fun mutation hin mutation' hin' _ _ =>
    mutationBytes_append_inj (hf.mutationFamilies mutation hin) (hs.mutationFamilies mutation' hin')) hm h
  obtain ⟨hp,-⟩ := lengthPrefixed_append_inj payload.2 payload'.2 (congrArg (· ++ []) h)
  cases Subtype.ext hsc
  cases Subtype.ext hp
  rfl

/-- Two batches have the same digest under every hash, that is, are hashed as the same bytes, exactly if they agree in
everything but the digest. -/
theorem calculateDigest_eq_iff (serializedSize : ByteBatch → Option Nat) {first second : ByteBatch}
    (hf : first.InMemory) (hs : second.InMemory) :
    (∀ sha256, calculateDigest (byteFormat sha256 serializedSize) first =
      calculateDigest (byteFormat sha256 serializedSize) second) ↔
      { first with batchDigest := second.batchDigest } = second := by
  refine ⟨fun h => ?_,fun h _ => by rw [← h]; rfl⟩
  let format := byteFormat (fun _ => .replicate 32 0) serializedSize
  by_contra hne
  have hby : digestedBytes format second ≠ digestedBytes format first :=
    fun heq => hne (eq_of_digestedBytes_eq hf hs heq.symm)
  -- a hash that tells the bytes of the first batch from all others
  have hma := h fun bytes => .replicate 32 (if bytes = digestedBytes format first then 1 else 0)
  change Vector.replicate 32 (if digestedBytes format first = digestedBytes format first then 1 else 0) =
    Vector.replicate 32 (if digestedBytes format second = digestedBytes format first then 1 else 0) at hma
  rw [if_pos rfl, if_neg hby] at hma
  exact absurd hma (by decide)

namespace Sample

def keyBytes (byte : UInt8) : Bytes := ⟨[byte], by simp⟩

/-- One put under a missing key, and its key deleted instead. -/
def putting : ByteBatch := ⟨"command", keyBytes 1, [⟨⟨"events", keyBytes 2⟩, .missing⟩],
  [.put ⟨"events", keyBytes 2⟩ (keyBytes 3)], keyBytes 4, .replicate 32 0⟩

def deleting : ByteBatch := { putting with mutations := [.delete ⟨"events", keyBytes 2⟩] }

end Sample

open BpmpPlatform.Replication.Sample

theorem calculateDigest_eq_iff_put_delete :
    ¬ ∀ sha256, calculateDigest (byteFormat sha256 fun _ => none) putting =
      calculateDigest (byteFormat sha256 fun _ => none) deleting := by
  have hp : putting.InMemory := ⟨by decide,by decide,by decide,by decide,by decide⟩
  have hd : deleting.InMemory := ⟨by decide,by decide,by decide,by decide,by decide⟩
  rw [calculateDigest_eq_iff (fun _ => none) hp hd]
  intro heq
  cases congrArg PreparedAtomicBatch.mutations heq

end BpmpPlatform.Replication
