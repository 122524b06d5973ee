import BpmpPlatform.Governance.Decision
import BpmpPlatform.Library.Canonical

/-! # What an accepted decision proves about its signers

Separation of duty is checked on actor identifiers, authenticity on keys: that the keys of an accepted proof are
pairwise different depends on keys being bound to actors.
-/
namespace BpmpPlatform.Governance
open Std Outcome Encoding List

section Bytes

structure CompensationLedgerEntry.Held (entry : CompensationLedgerEntry) : Prop where
  texts : ∀ s ∈ [entry.tenantId, entry.instanceId, entry.sagaRef, entry.ledgerEntryId, entry.sideEffectType,
    entry.targetSystem, entry.handlerRef, entry.opaqueOperationRef, entry.idempotencyKey], Sized s
  numbers : ∀ n ∈ [entry.effectSequence, entry.ledgerSequence, entry.updatedAtEpochMs], n < 2 ^ 64

structure LedgerHeld (entries : List CompensationLedgerEntry) : Prop where
  count : entries.length < 2 ^ 64
  entries : ∀ entry ∈ entries, entry.Held

structure AbortAndReconcileRequest.Held (request : AbortAndReconcileRequest) : Prop where
  texts : ∀ s ∈ [request.tenantId, request.instanceId, request.policyId, request.keyScope, request.reasonCode], Sized s
  numbers : ∀ n ∈ [request.legalDeadlineEpochMs, request.keyEpoch], n < 2 ^ 64

structure SignedApproval.Held (approval : SignedApproval) : Prop where
  texts : ∀ s ∈ [approval.tenantId, approval.actorId, approval.capability, approval.authAssurance, approval.keyId], Sized s
  numbers : ∀ n ∈ [approval.approvedAtEpochMs, approval.expiresAtEpochMs], n < 2 ^ 64

theorem CompensationStatus.code_inj {status status' : CompensationStatus} (h : status.code = status'.code) :
    status = status' := by
  cases status <;> cases status' <;> first | rfl | cases h

variable {rest' rest : List UInt8}

theorem digest_append_inj {digest digest' : Digest}
    (h : lengthPrefixed digest.toList ++ rest = lengthPrefixed digest'.toList ++ rest') :
    digest = digest' ∧ rest = rest' := by
  obtain ⟨hb,hr⟩ := lengthPrefixed_append_inj (by simp) (by simp) h
  exact ⟨Vector.toList_inj.mp hb,hr⟩

theorem text_inj {s s' : String} (hs : Sized s) (hs' : Sized s') (h : text s = text s') : s = s' := by
  rw [← append_nil (text s), ← append_nil (text s')] at h
  exact (text_append_inj hs hs' h).1

theorem entryBytes_append_inj {entry entry' : CompensationLedgerEntry} (hh : entry.Held) (hh' : entry'.Held)
    (h : entryBytes entry ++ rest = entryBytes entry' ++ rest') : entry = entry' ∧ rest = rest' := by
  obtain ⟨htx,hn⟩ := hh
  obtain ⟨htx',hn'⟩ := hh'
  cases entry
  cases entry'
  simp only [forall_mem_cons, not_mem_nil, false_implies, implies_true, and_true] at htx hn htx' hn'
  simp only [entryBytes, append_assoc] at h
  obtain ⟨ht,h⟩ := text_append_inj htx.1 htx'.1 h
  obtain ⟨hin,h⟩ := text_append_inj htx.2.1 htx'.2.1 h
  obtain ⟨hsa,h⟩ := text_append_inj htx.2.2.1 htx'.2.2.1 h
  obtain ⟨he,h⟩ := text_append_inj htx.2.2.2.1 htx'.2.2.2.1 h
  obtain ⟨hef,h⟩ := be64_append_inj hn.1 hn'.1 h
  obtain ⟨hle,h⟩ := be64_append_inj hn.2.1 hn'.2.1 h
  obtain ⟨hty,h⟩ := text_append_inj htx.2.2.2.2.1 htx'.2.2.2.2.1 h
  obtain ⟨hta,h⟩ := text_append_inj htx.2.2.2.2.2.1 htx'.2.2.2.2.2.1 h
  obtain ⟨hha,h⟩ := text_append_inj htx.2.2.2.2.2.2.1 htx'.2.2.2.2.2.2.1 h
  obtain ⟨hop,h⟩ := text_append_inj htx.2.2.2.2.2.2.2.1 htx'.2.2.2.2.2.2.2.1 h
  obtain ⟨hkey,h⟩ := text_append_inj htx.2.2.2.2.2.2.2.2 htx'.2.2.2.2.2.2.2.2 h
  obtain ⟨hs,h⟩ := append_inj h rfl
  obtain ⟨hup,hend⟩ := be64_append_inj hn.2.2 hn'.2.2 h
  have hc := CompensationStatus.code_inj (singleton_inj.mp hs)
  subst ht hin hsa he hef hle hty hta hha hop hkey hc hup
  exact ⟨rfl,hend⟩

section Ledger
variable {entries entries' : List CompensationLedgerEntry} (hh : LedgerHeld entries)
include hh

theorem sortEntries_inj (hh' : LedgerHeld entries') (h : ledgerBytes entries = ledgerBytes entries') :
    sortEntries entries = sortEntries entries' := by
  have hp := UnstableSort.insertion.perm compareEntries
  have hl : ∀ l, (sortEntries l).length = l.length := fun l => (hp l).length_eq
  have hap := append_cancel_left h
  obtain ⟨hc,hes⟩ := be64_append_inj (by rw [hl]; exact hh.count) (by rw [hl]; exact hh'.count)
    hap
  rw [← append_nil (List.flatMap _ _), ← append_nil (List.flatMap _ (sortEntries entries'))] at hes
  exact (flatMap_append_inj (fun a ha b hb rest rest' heq =>
    entryBytes_append_inj (hh.entries a ((hp entries).mem_iff.mp ha))
      (hh'.entries b ((hp entries').mem_iff.mp hb)) heq) hc hes).1

theorem ledgerBytes_inj (hh' : LedgerHeld entries') (h : ledgerBytes entries = ledgerBytes entries') :
    entries.Perm entries' := by
  have hp := UnstableSort.insertion.perm compareEntries
  exact ((hp entries).symm.trans (.of_eq (sortEntries_inj hh hh' h))).trans (hp entries')

theorem LedgerHeld.perm (h : entries.Perm entries') : LedgerHeld entries' :=
  ⟨h.length_eq ▸ hh.count,fun entry hin => hh.entries entry (h.mem_iff.mpr hin)⟩

end Ledger

/-- Permutations of a ledger, and they alone, have its bytes exactly when no two of its entries share the key by which
they are sorted. -/
theorem ledger_identified_iff {entries : List CompensationLedgerEntry} (hheld : LedgerHeld entries) :
    (∀ other, LedgerHeld other → (ledgerBytes entries = ledgerBytes other ↔ entries.Perm other)) ↔
      ∀ a ∈ entries, ∀ b ∈ entries, compareEntries a b = .eq → a = b := by
  constructor
  · intro h a ha b hb hcmp
    by_contra hne
    -- the two entries stand first in either order, and the sort does not move one before the other
    have hin : b ∈ entries.erase a := (mem_erase_of_ne (Ne.symm hne)).mpr hb
    have hab := (perm_cons_erase ha).trans ((perm_cons_erase hin).cons a)
    have hba := hab.trans (.swap b a _)
    have hsrt := sortEntries_inj (hheld.perm hab) (hheld.perm hba)
      (((h _ (hheld.perm hab)).mpr hab).symm.trans ((h _ (hheld.perm hba)).mpr hba))
    have hf := congrArg (List.filter fun entry => compareEntries a entry = .eq) hsrt
    rw [sortEntries, sortEntries, UnstableSort.filter_insertion, UnstableSort.filter_insertion] at hf
    simp [hcmp, ReflCmp.compare_self, hne] at hf
  · intro h other hother
    refine ⟨ledgerBytes_inj hheld hother,fun hp => ?_⟩
    rw [ledgerBytes, sortEntries, UnstableSort.insertion.sort_eq_of_perm hp h]
    rfl

def Sample.effect (effectSequence : Nat) (opaqueOperationRef : String) : CompensationLedgerEntry :=
  ⟨"tenant-a", "instance-a", "saga", "refund", effectSequence, 1, "payment", "bank", "undo", opaqueOperationRef, "key",
    .pending, 0⟩

open BpmpPlatform.Governance.Sample

/-- Two entries with keys of their own are hashed alike in either order. -/
theorem ledger_identified_iff_reversed :
    ledgerBytes [effect 1 "first", effect 2 "second"] = ledgerBytes [effect 2 "second", effect 1 "first"] := by
  have hentry : (effect 1 "first").Held ∧ (effect 2 "second").Held := ⟨⟨by decide,by decide⟩,⟨by decide,by decide⟩⟩
  have hheld : LedgerHeld [effect 1 "first", effect 2 "second"] := ⟨by decide,by simpa using hentry⟩
  have hp : [effect 1 "first", effect 2 "second"].Perm [effect 2 "second", effect 1 "first"] := .swap _ _ _
  exact ((ledger_identified_iff hheld).mpr (by decide) _ (hheld.perm hp)).mpr hp

/-- Two entries with one key are hashed in the order in which the store returned them. -/
theorem effect_order_hashed : [effect 1 "first", effect 1 "second"].Perm [effect 1 "second", effect 1 "first"] ∧
    ledgerBytes [effect 1 "first", effect 1 "second"] ≠ ledgerBytes [effect 1 "second", effect 1 "first"] :=
  ⟨.swap _ _ _,by decide +kernel⟩

theorem requestBytes_inj {request request' : AbortAndReconcileRequest} (hh : request.Held) (hh' : request'.Held)
    (h : requestBytes request = requestBytes request') : request = request' := by
  obtain ⟨htx,hn⟩ := hh
  obtain ⟨htx',hn'⟩ := hh'
  cases request
  cases request'
  simp only [forall_mem_cons, not_mem_nil, false_implies, implies_true, and_true] at htx hn htx' hn'
  have h := append_cancel_left h
  obtain ⟨rfl,h⟩ := text_append_inj htx.1 htx'.1 h
  obtain ⟨rfl,h⟩ := text_append_inj htx.2.1 htx'.2.1 h
  obtain ⟨rfl,h⟩ := text_append_inj htx.2.2.1 htx'.2.2.1 h
  obtain ⟨rfl,h⟩ := be64_append_inj hn.1 hn'.1 h
  obtain ⟨rfl,h⟩ := text_append_inj htx.2.2.2.1 htx'.2.2.2.1 h
  obtain ⟨rfl,h⟩ := be64_append_inj hn.2 hn'.2 h
  obtain ⟨rfl,h⟩ := digest_append_inj h
  have hre := text_inj htx.2.2.2.2 htx'.2.2.2.2 h
  subst hre
  rfl

/-- The payload determines everything of an approval but its signature. -/
theorem approvalSigningPayload_inj {approval approval' : SignedApproval} (hh : approval.Held) (hh' : approval'.Held)
    (h : approvalSigningPayload approval = approvalSigningPayload approval') :
    approval = { approval' with signature := approval.signature } := by
  obtain ⟨htx,hn⟩ := hh
  obtain ⟨htx',hn'⟩ := hh'
  cases approval
  cases approval'
  simp only [forall_mem_cons, not_mem_nil, false_implies, implies_true, and_true] at htx hn htx' hn'
  have h := append_cancel_left h
  obtain ⟨rfl,h⟩ := digest_append_inj h
  obtain ⟨rfl,h⟩ := text_append_inj htx.1 htx'.1 h
  obtain ⟨rfl,h⟩ := text_append_inj htx.2.1 htx'.2.1 h
  obtain ⟨rfl,h⟩ := text_append_inj htx.2.2.1 htx'.2.2.1 h
  obtain ⟨rfl,h⟩ := text_append_inj htx.2.2.2.1 htx'.2.2.2.1 h
  obtain ⟨rfl,h⟩ := be64_append_inj hn.1 hn'.1 h
  obtain ⟨rfl,h⟩ := be64_append_inj hn.2 hn'.2 h
  have hkey := text_inj htx.2.2.2.2 htx'.2.2.2.2 h
  subst hkey
  rfl

end Bytes

section Accepted
variable {scheme : SignatureScheme} {sha256 : List UInt8 → Digest} {request : AbortAndReconcileRequest}
  {requestDigest : Digest} {policy : GovernancePolicy} {evaluatedAtEpochMs : Nat}

def SignatureScheme.Unforgeable (scheme : SignatureScheme) : Prop :=
  ∀ signature key payload key' payload', scheme.verifyStrict key payload signature = true →
    scheme.verifyStrict key' payload' signature = true → key = key' ∧ payload = payload'

def Collision (sha256 : List UInt8 → Digest) (bytes bytes' : List UInt8) : Prop := bytes ≠ bytes' ∧ sha256 bytes = sha256 bytes'

/-- The approval carries a signature of a known key over its payload, and no other key, no other approval and no other
request or ledger has that signature, but for collisions of the hash function. -/
structure Covers (scheme : SignatureScheme) (sha256 : List UInt8 → Digest) (policy : GovernancePolicy)
    (request : AbortAndReconcileRequest) (entries : List CompensationLedgerEntry) (approval : SignedApproval) : Prop where
  signed : ∃ key, approvalKey scheme policy approval = some key ∧
    scheme.verifyStrict key (approvalSigningPayload approval) approval.signature = true ∧
    ∀ key' approval', approval'.Held → scheme.verifyStrict key' (approvalSigningPayload approval') approval.signature = true →
      key' = key ∧ approval = { approval' with signature := approval.signature }
  digests : approval.requestDigest = abortRequestDigest sha256 request ∧
    request.pendingLedgerDigest = pendingLedgerDigest sha256 entries
  thisRequest : ∀ request' : AbortAndReconcileRequest, request'.Held →
    abortRequestDigest sha256 request' = approval.requestDigest →
    request' = request ∨ Collision sha256 (requestBytes request') (requestBytes request)
  theseEntries : ∀ entries', LedgerHeld entries' → pendingLedgerDigest sha256 entries' = request.pendingLedgerDigest →
    entries'.Perm entries ∨ Collision sha256 (ledgerBytes entries') (ledgerBytes entries)

theorem validateApproval_spec {approval : SignedApproval}
    (h : validateApproval scheme approval request requestDigest policy evaluatedAtEpochMs = .ok ()) :
    approval.requestDigest = requestDigest ∧ ∃ key, approvalKey scheme policy approval = some key ∧
      scheme.verifyStrict key (approvalSigningPayload approval) approval.signature = true := by
  simp only [validateApproval, bind_eq_ok, okOr_eq_ok, ensure_eq_ok, beq_iff_eq] at h
  obtain ⟨_,hdi,_,_,_,_,_,_,_,_,_,_,_,_,_,_,key,hkey,hve⟩ := h
  exact ⟨hdi,key,hkey,hve⟩

theorem validateApprovers_spec {actors : List String} {approvals : List SignedApproval}
    (h : validateApprovers scheme request requestDigest policy evaluatedAtEpochMs actors approvals = .ok ()) :
    (∀ approval ∈ approvals, validateApproval scheme approval request requestDigest policy evaluatedAtEpochMs = .ok ()) ∧
      (approvals.map SignedApproval.actorId).Nodup ∧ ∀ approval ∈ approvals, approval.actorId ∉ actors := by
  induction approvals generalizing actors with
  | nil => exact ⟨fun _ hin => (not_mem_nil hin).elim,nodup_nil,fun _ hin => (not_mem_nil hin).elim⟩
  | cons approval approvals ih =>
    simp only [validateApprovers, bind_eq_ok, ensure_eq_ok, Bool.not_eq_true', contains_eq_mem,
      decide_eq_false_iff_not] at h
    obtain ⟨_,hva,_,hf,hr⟩ := h
    obtain ⟨hall,hnd,hdi⟩ := ih hr
    refine ⟨?_,?_,?_⟩
    · rw [forall_mem_cons]
      exact ⟨hva,hall⟩
    · rw [map_cons, nodup_cons, mem_map]
      refine ⟨?_,hnd⟩
      rintro ⟨other,hin,hs⟩
      exact hdi other hin (hs ▸ mem_cons_self)
    · rw [forall_mem_cons]
      exact ⟨hf,fun other hin hmem => hdi other hin (mem_cons_of_mem _ hmem)⟩

def DualControlProof.approvals (proof : DualControlProof) : List SignedApproval := proof.requester :: proof.approvers

variable {entries : List CompensationLedgerEntry} {proof : DualControlProof}

theorem decideAbortAndReconcile_spec {decision : AbortAndReconcileDecision}
    (h : decideAbortAndReconcile scheme sha256 request entries proof policy evaluatedAtEpochMs = .ok decision) :
    pendingLedgerDigest sha256 entries = request.pendingLedgerDigest ∧
      policy.requiredApproverCount ≤ proof.approvers.length ∧ (proof.approvals.map SignedApproval.actorId).Nodup ∧
      ∀ approval ∈ proof.approvals,
        validateApproval scheme approval request (abortRequestDigest sha256 request) policy evaluatedAtEpochMs = .ok () := by
  simp only [decideAbortAndReconcile, bind_eq_ok, ensure_eq_ok, decide_eq_true_eq, beq_iff_eq] at h
  obtain ⟨_,_,_,_,_,_,_,_,_,hle,_,hc,_,hre,_,hap,_⟩ := h
  obtain ⟨hall,hnd,hdi⟩ := validateApprovers_spec hap
  refine ⟨hle,hc,?_,?_⟩
  · rw [DualControlProof.approvals, map_cons, nodup_cons, mem_map]
    refine ⟨?_,hnd⟩
    rintro ⟨other,hin,hs⟩
    exact hdi other hin (mem_singleton.mpr hs)
  · rw [DualControlProof.approvals, forall_mem_cons]
    exact ⟨hre,hall⟩

/-- At least the required number of approvers signed with different keys, and with other keys than the requester. -/
def DistinctSigners (scheme : SignatureScheme) (policy : GovernancePolicy) (proof : DualControlProof) : Prop :=
  ∃ signers, signers <+ proof.approvers ∧ policy.requiredApproverCount ≤ signers.length ∧
    ((proof.requester :: signers).map (approvalKey scheme policy)).Nodup

/-- Every key belongs to one actor, and the requester and at least the required number of approvers are the actors their
keys belong to. -/
def KeysBound (scheme : SignatureScheme) (policy : GovernancePolicy) (proof : DualControlProof) : Prop :=
  ∃ (owner : scheme.Key → String) (bound : List SignedApproval), bound <+ proof.approvers ∧
    policy.requiredApproverCount ≤ bound.length ∧ ∀ approval ∈ proof.requester :: bound, ∀ key,
      approvalKey scheme policy approval = some key → approval.actorId = owner key

/-- Different actors have different keys exactly if every key belongs to one of them. -/
theorem nodup_keys_iff {approvals : List SignedApproval} (has : (approvals.map SignedApproval.actorId).Nodup)
    (hkn : ∀ approval ∈ approvals, ∃ key, approvalKey scheme policy approval = some key) :
    (approvals.map (approvalKey scheme policy)).Nodup ↔ ∃ owner : scheme.Key → String, ∀ approval ∈ approvals, ∀ key,
      approvalKey scheme policy approval = some key → approval.actorId = owner key := by
  classical
  constructor
  · intro hnd
    -- The owner of a key is the actor of the approval that has it.
    refine ⟨fun key => ((approvals.find? fun approval => decide (approvalKey scheme policy approval = some key)).map
      SignedApproval.actorId).getD "",fun approval hin key hkey => ?_⟩
    cases hf : approvals.find? fun other => decide (approvalKey scheme policy other = some key) with
    | none =>
      have hn := List.find?_eq_none.mp hf approval hin
      simp [hkey] at hn
    | some other =>
      have hoth : approvalKey scheme policy other = some key := by simpa using List.find?_some hf
      have hs := inj_on_of_nodup_map hnd hin (mem_of_find?_eq_some hf) (hkey.trans hoth.symm)
      rw [hs]
      simp only [hf]
      rfl
  · rintro ⟨owner,ho⟩
    refine List.Nodup.map_on ?_ (List.Nodup.of_map _ has)
    intro approval hin other hin' hs
    obtain ⟨key,hkey⟩ := hkn approval hin
    have ha : approval.actorId = other.actorId :=
      (ho approval hin key hkey).trans (ho other hin' key (hs ▸ hkey)).symm
    exact inj_on_of_nodup_map has hin hin' ha

theorem distinctSigners_iff (has : (proof.approvals.map SignedApproval.actorId).Nodup)
    (hkn : ∀ approval ∈ proof.approvals, ∃ key, approvalKey scheme policy approval = some key) :
    DistinctSigners scheme policy proof ↔ KeysBound scheme policy proof := by
  have hsub {signers : List SignedApproval} (h : signers <+ proof.approvers) :=
    nodup_keys_iff (((h.cons_cons proof.requester).map SignedApproval.actorId).nodup has)
      fun approval hin => hkn approval ((h.cons_cons proof.requester).subset hin)
  constructor
  · rintro ⟨signers,hs,hc,hnd⟩
    obtain ⟨owner,ho⟩ := (hsub hs).mp hnd
    exact ⟨owner,signers,hs,hc,ho⟩
  · rintro ⟨owner,bound,hs,hc,ho⟩
    exact ⟨bound,hs,hc,(hsub hs).mpr ⟨owner,ho⟩⟩

theorem covers_of_accepted (hun : scheme.Unforgeable)
    {approval : SignedApproval} (hr : request.Held) (hes : LedgerHeld entries) (hap : approval.Held)
    (hle : pendingLedgerDigest sha256 entries = request.pendingLedgerDigest)
    (h : validateApproval scheme approval request (abortRequestDigest sha256 request) policy evaluatedAtEpochMs = .ok ()) :
    Covers scheme sha256 policy request entries approval := by
  obtain ⟨hdi,key,hkey,hve⟩ := validateApproval_spec h
  refine ⟨⟨key,hkey,hve,fun key' approval' hh hve' => ?_⟩,⟨hdi,hle.symm⟩,
    fun request' hh hs => ?_,fun entries' hh hs => ?_⟩
  · obtain ⟨hk,hp⟩ := hun _ _ _ _ _ hve' hve
    exact ⟨hk,approvalSigningPayload_inj hap hh hp.symm⟩
  · by_cases hb : requestBytes request' = requestBytes request
    · exact .inl (requestBytes_inj hh hr hb)
    · exact .inr ⟨hb,hs.trans hdi⟩
  · by_cases hb : ledgerBytes entries' = ledgerBytes entries
    · exact .inl (ledgerBytes_inj hh hes hb)
    · exact .inr ⟨hb,hs.trans hle.symm⟩

end Accepted

/-- An accepted decision rests on the required number of approvals, each signed over exactly this request and these
entries, none of which can be dropped when no more than required are given. As many of the keys as required are pairwise
different and not the requester's exactly if as many approvers and the requester own the keys they signed with. -/
theorem dual_control_distinct_iff {scheme : SignatureScheme} (hunforgeable : scheme.Unforgeable)
    {sha256 : List UInt8 → Digest} {request : AbortAndReconcileRequest} {entries : List CompensationLedgerEntry}
    {proof : DualControlProof} {policy : GovernancePolicy} {evaluatedAtEpochMs : Nat} {decision : AbortAndReconcileDecision}
    (hrequest : request.Held) (hentries : LedgerHeld entries) (hproof : ∀ approval ∈ proof.approvals, approval.Held)
    (h : decideAbortAndReconcile scheme sha256 request entries proof policy evaluatedAtEpochMs = .ok decision) :
    (DistinctSigners scheme policy proof ↔ KeysBound scheme policy proof) ∧
      policy.requiredApproverCount ≤ proof.approvers.length ∧
      (∀ approval ∈ proof.approvals, Covers scheme sha256 policy request entries approval) ∧
      ∀ i, (proof.approvers.eraseIdx i).length < policy.requiredApproverCount → ∀ decision',
        decideAbortAndReconcile scheme sha256 request entries { proof with approvers := proof.approvers.eraseIdx i } policy
          evaluatedAtEpochMs ≠ .ok decision' := by
  obtain ⟨hl,hc,has,hva⟩ := decideAbortAndReconcile_spec h
  refine ⟨distinctSigners_iff has fun approval hin => ?_,hc,fun approval hin => ?_,fun i hf decision' => ?_⟩
  · obtain ⟨_,key,hkey,_⟩ := validateApproval_spec (hva approval hin)
    exact ⟨key,hkey⟩
  · exact covers_of_accepted hunforgeable hrequest hentries (hproof approval hin) hl (hva approval hin)
  · intro hok
    have hc := (decideAbortAndReconcile_spec hok).2.1
    exact absurd hf (Nat.not_lt.mpr hc)

namespace Sample

def markScheme : SignatureScheme where
  Key := PublicKey
  fromBytes := some
  verifyStrict key payload signature := decide (signature = key.toList ++ payload)

theorem markScheme_unforgeable : markScheme.Unforgeable := by
  intro signature (key : PublicKey) payload (key' : PublicKey) payload' h h'
  have hm : signature = key.toList ++ payload := of_decide_eq_true h
  have hm' : signature = key'.toList ++ payload' := of_decide_eq_true h'
  obtain ⟨hkey,hp⟩ := append_inj (hm.symm.trans hm') (by rw [Vector.length_toList, Vector.length_toList])
  exact ⟨Vector.toList_inj.mp hkey,hp⟩

def noHash : List UInt8 → Digest := fun _ => Vector.replicate 32 0

def publicKey (byte : UInt8) : PublicKey := Vector.replicate 32 byte

def policy : GovernancePolicy where
  abortCapability := "governance.abort"
  acceptedAuthAssurance := ExtTreeSet.ofList ["mfa"]
  approvalPublicKeys := ExtTreeMap.ofList [("key-1", publicKey 1), ("key-2", publicKey 2)]
  requiredApproverCount := 1
  maxProofAgeMs := 1000
  maxApprovalTtlMs := 1000
  maxPendingLedgerEntries := 10

def request : AbortAndReconcileRequest where
  tenantId := "tenant-a"
  instanceId := "instance-a"
  policyId := "policy-1"
  legalDeadlineEpochMs := 9000
  keyScope := "scope-1"
  keyEpoch := 1
  pendingLedgerDigest := noHash []
  reasonCode := "legal"

def approval (actorId keyId : String) (byte : UInt8) : SignedApproval :=
  let unsigned : SignedApproval := {
    requestDigest := noHash []
    tenantId := "tenant-a"
    actorId := actorId
    capability := "governance.abort"
    authAssurance := "mfa"
    approvedAtEpochMs := 100
    expiresAtEpochMs := 600
    keyId := keyId
    signature := [] }
  { unsigned with signature := (publicKey byte).toList ++ approvalSigningPayload unsigned }

/-- The last approver is not needed and signs with the key of the requester. -/
def separateProof : DualControlProof :=
  ⟨approval "actor-1" "key-1" 1, [approval "actor-2" "key-2" 2, approval "actor-3" "key-1" 1]⟩

def singleKeyProof : DualControlProof := ⟨approval "actor-1" "key-1" 1, [approval "actor-2" "key-1" 1]⟩

end Sample

open BpmpPlatform.Governance.Sample

/-- Two actors with keys of their own, and a third without. -/
theorem dual_control_distinct_iff_separate : DistinctSigners markScheme policy separateProof := by
  have hok : (decideAbortAndReconcile markScheme noHash request [] separateProof policy 200).isOk = true := by
    decide +kernel
  have hheld : ∀ approval ∈ separateProof.approvals, approval.Held := by
    simp only [DualControlProof.approvals, separateProof, forall_mem_cons, not_mem_nil, false_implies, implies_true, and_true]
    exact ⟨⟨by decide,by decide⟩,⟨by decide,by decide⟩,⟨by decide,by decide⟩⟩
  cases hd : decideAbortAndReconcile markScheme noHash request [] separateProof policy 200 with
  | error error =>
    rw [hd] at hok
    cases hok
  | ok decision =>
    have hiff := (dual_control_distinct_iff markScheme_unforgeable ⟨by decide,by decide⟩
      ⟨by decide,fun _ hin => (not_mem_nil hin).elim⟩ hheld hd).1
    refine hiff.mpr ⟨fun (key : PublicKey) => if key = publicKey 1 then "actor-1" else "actor-2",
      [approval "actor-2" "key-2" 2],by simp [separateProof],Nat.le_refl 1,?_⟩
    decide

/-- One key signs as requester and as approver, and the decision is made. -/
theorem single_key_decides :
    (decideAbortAndReconcile markScheme noHash request [] singleKeyProof policy 200).isOk = true ∧
      ¬ DistinctSigners markScheme policy singleKeyProof := by
  refine ⟨by decide +kernel,?_⟩
  rintro ⟨signers,hs,hc,hnd⟩
  obtain rfl : signers = singleKeyProof.approvers := hs.eq_of_length_le hc
  exact (nodup_cons.mp hnd).1 (mem_singleton.mpr rfl)

end BpmpPlatform.Governance
