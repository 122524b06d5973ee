import BpmpPlatform.Governance.Decision

/-! # The compensation worker

A call reads pending entries of an instance, executes the one with the largest effect sequence and records it. With
more entries than the limit the store may leave any of them out.
-/
namespace BpmpPlatform.Governance
open Std Outcome List

inductive CompensationRuntimeError
  | invalidConfiguration
  | invalidScope
  | scopeMismatch
  | pendingLimitExceeded
  | store (detail : String)
  | execution (detail : String)

inductive CompensationRunOutcome
  | completed
  | compensated (ledgerEntryId : String)

structure CompensationRuntime where
  maxPendingEntries : Nat
  positive : 0 < maxPendingEntries

def CompensationRuntime.new (maxPendingEntries : Nat) : Except CompensationRuntimeError CompensationRuntime :=
  if h : 0 < maxPendingEntries then .ok ⟨maxPendingEntries, h⟩ else .error .invalidConfiguration

/-- What the ports do in one call. An entry may be recorded although the store reports a failure. -/
structure PortReplies where
  pendingEntries : Except CompensationRuntimeError (List CompensationLedgerEntry)
  compensate : Except CompensationRuntimeError Unit
  markCompensated : Except CompensationRuntimeError Unit
  recorded : Bool

abbrev Call := Except CompensationRuntimeError CompensationRunOutcome × Option CompensationLedgerEntry

def pendingOf (entries : List CompensationLedgerEntry) : List CompensationLedgerEntry :=
  entries.filter fun entry => entry.status == .pending

/-- The first entry after `sort_unstable_by`. -/
def latestPending (us : UnstableSort) (entries : List CompensationLedgerEntry) : Option CompensationLedgerEntry :=
  (us.sort (fun left right => compareEntries right left) (pendingOf entries)).head?

section Calls
variable (us : UnstableSort) (runtime : CompensationRuntime) (tenantId instanceId : String)

/-- `run_next`, with the entry whose effect it executes. -/
def runNext (replies : PortReplies) : Call :=
  if Text.isBlank tenantId || Text.isBlank instanceId then (.error .invalidScope, none)
  else match replies.pendingEntries with
    | .error error => (.error error, none)
    | .ok entries =>
      if runtime.maxPendingEntries < entries.length then (.error .pendingLimitExceeded, none)
      else match latestPending us entries with
        | none => (.ok .completed, none)
        | some entry =>
          if entry.tenantId ≠ tenantId ∨ entry.instanceId ≠ instanceId then (.error .scopeMismatch, none)
          else (do
            replies.compensate
            replies.markCompensated
            return .compensated entry.ledgerEntryId, some entry)

variable (ledger : List CompensationLedgerEntry)

def recordCompensated (entry : CompensationLedgerEntry) : List CompensationLedgerEntry :=
  ledger.map fun other =>
    if other.ledgerEntryId = entry.ledgerEntryId then { other with status := .compensated } else other

/-- The ledger after a call; nothing that the process keeps in memory is needed by the next one. -/
def ledgerAfter (replies : PortReplies) : List CompensationLedgerEntry :=
  match (runNext us runtime tenantId instanceId replies).2 with
  | some entry => if replies.compensate.isOk && replies.recorded then recordCompensated ledger entry else ledger
  | none => ledger

/-- The store answers with pending entries, with all of them unless there are more than the limit, and reports as
recorded what is. -/
structure Admissible (replies : PortReplies) : Prop where
  pending : ∀ entries, replies.pendingEntries = .ok entries → entries ⊆ pendingOf ledger
  complete : ∀ entries, replies.pendingEntries = .ok entries →
    (pendingOf ledger).length ≤ runtime.maxPendingEntries → pendingOf ledger ⊆ entries
  durable : replies.markCompensated = .ok () → replies.recorded = true

inductive Reached (start : List CompensationLedgerEntry) : List CompensationLedgerEntry → Prop
  | start : Reached start start
  | call {ledger replies} (h : Reached start ledger) (ha : Admissible runtime ledger replies) :
      Reached start (ledgerAfter us runtime tenantId instanceId ledger replies)

/-- An effect is executed after all with larger sequences are recorded, and nothing is pending at the end. -/
structure InOrder (call : Call) : Prop where
  executed : ∀ entry, call.2 = some entry → ∀ other ∈ ledger, entry.effectSequence < other.effectSequence →
    other.status = .compensated
  completed : call.1 = .ok .completed → ∀ entry ∈ ledger, entry.status ≠ .pending

end Calls

/-- The effects of an instance that is to be compensated. -/
structure EffectLedger where
  entries : List CompensationLedgerEntry
  status : ∀ entry ∈ entries, entry.status = .pending ∨ entry.status = .compensated

section Order
variable {us : UnstableSort} {runtime : CompensationRuntime} {tenantId instanceId : String}
  {start ledger entries : List CompensationLedgerEntry} {replies : PortReplies} {other : CompensationLedgerEntry}

theorem effectSequence_le_of_isLE {entry : CompensationLedgerEntry} (h : (compareEntries other entry).isLE = true) :
    other.effectSequence ≤ entry.effectSequence := by
  by_contra hlt
  have hgt : compare other.effectSequence entry.effectSequence = .gt := Nat.compare_eq_gt.mpr (Nat.not_le.mp hlt)
  simp [compareEntries, hgt] at h

variable (us) in
theorem latestPending_spec (hin : other ∈ pendingOf entries) :
    ∃ entry, latestPending us entries = some entry ∧ other.effectSequence ≤ entry.effectSequence := by
  have : TransCmp fun left right => compareEntries right left := TransCmp.opposite
  have hs := us.sorted (fun left right => compareEntries right left) (pendingOf entries)
  have hm := (us.perm (fun left right => compareEntries right left) (pendingOf entries)).mem_iff.mpr hin
  unfold latestPending
  generalize us.sort _ _ = sorted at hs hm
  cases hs with
  | nil => cases hm
  | cons hle =>
    rcases mem_cons.mp hm with rfl | hm
    · exact ⟨other,rfl,Nat.le_refl _⟩
    · exact ⟨_,rfl,effectSequence_le_of_isLE (hle other hm)⟩

variable (us replies) in
inductive Answers : Call → Prop
  | failed (error : CompensationRuntimeError) : Answers (.error error, none)
  | completed {entries : List CompensationLedgerEntry} (h : replies.pendingEntries = .ok entries) (hl : latestPending us entries = none) :
      Answers (.ok .completed, none)
  | executed {entries entry result} (h : replies.pendingEntries = .ok entries)
      (hl : latestPending us entries = some entry) (hr : result ≠ .ok .completed) : Answers (result, some entry)

variable (us runtime tenantId instanceId replies) in
theorem runNext_answers : Answers us replies (runNext us runtime tenantId instanceId replies) := by
  unfold runNext
  split
  · exact .failed _
  · split
    · exact .failed _
    · rename_i h
      split
      · exact .failed _
      · split
        · exact .completed h ‹_›
        · split
          · exact .failed _
          · exact .executed h ‹_› (by simp)

/-- Entries stay pending or are recorded, and no more become pending. -/
structure Settling (start ledger : List CompensationLedgerEntry) : Prop where
  status : ∀ entry ∈ ledger, entry.status = .pending ∨ entry.status = .compensated
  fewer : (pendingOf ledger).length ≤ (pendingOf start).length

theorem Settling.recordCompensated (h : Settling start ledger) (entry : CompensationLedgerEntry) :
    Settling start (recordCompensated ledger entry) := by
  refine ⟨fun other hin => ?_,Nat.le_trans ?_ h.fewer⟩
  · obtain ⟨old,hold,rfl⟩ := mem_map.mp hin
    split
    · exact .inr rfl
    · exact h.status old hold
  · simp only [pendingOf, ← countP_eq_length_filter, Governance.recordCompensated, countP_map]
    refine countP_mono_left fun other _ hp => ?_
    simp only [Function.comp_apply] at hp
    split at hp
    · cases hp
    · exact hp

theorem Reached.settling (hs : ∀ entry ∈ start, entry.status = .pending ∨ entry.status = .compensated)
    (h : Reached us runtime tenantId instanceId start ledger) : Settling start ledger := by
  induction h with
  | start => exact ⟨hs,Nat.le_refl _⟩
  | call _ _ ih =>
    unfold ledgerAfter
    split
    · split
      · exact ih.recordCompensated _
      · exact ih
    · exact ih

theorem Settling.inOrder (h : Settling start ledger) (hl : (pendingOf start).length ≤ runtime.maxPendingEntries)
    (ha : Admissible runtime ledger replies) : InOrder ledger (runNext us runtime tenantId instanceId replies) := by
  have hall {entries other} (he : replies.pendingEntries = .ok entries) (hin : other ∈ ledger)
      (hp : other.status = .pending) : other ∈ pendingOf entries := by
    have hm : other ∈ pendingOf ledger := mem_filter.mpr ⟨hin,beq_iff_eq.mpr hp⟩
    exact mem_filter.mpr ⟨ha.complete entries he (Nat.le_trans h.fewer hl) hm,beq_iff_eq.mpr hp⟩
  have hc := runNext_answers us runtime tenantId instanceId replies
  generalize runNext us runtime tenantId instanceId replies = call at hc ⊢
  cases hc with
  | failed => exact ⟨nofun,nofun⟩
  | completed he hno =>
    refine ⟨nofun,fun _ other hin hp => ?_⟩
    obtain ⟨entry,hla,_⟩ := latestPending_spec us (hall he hin hp)
    rw [hno] at hla
    cases hla
  | executed he hex hr =>
    refine ⟨fun entry heq other hin hlt => (h.status other hin).resolve_left fun hp => ?_,fun hc => absurd hc hr⟩
    obtain ⟨entry',hla,hle⟩ := latestPending_spec us (hall he hin hp)
    cases heq
    cases hla.symm.trans hex
    omega

end Order

/-- Whatever the ports do, every call is in order exactly when the limit is not exceeded at the start. -/
theorem compensation_in_order_iff (us : UnstableSort) (runtime : CompensationRuntime) (tenantId instanceId : String)
    (start : EffectLedger) :
    (∀ ledger, Reached us runtime tenantId instanceId start.entries ledger → ∀ replies,
      Admissible runtime ledger replies → InOrder ledger (runNext us runtime tenantId instanceId replies)) ↔
    (Text.isBlank tenantId || Text.isBlank instanceId) = true ∨
      (pendingOf start.entries).length ≤ runtime.maxPendingEntries := by
  constructor
  · intro h
    by_contra hno
    rw [not_or, Bool.not_eq_true, Nat.not_le] at hno
    -- the store answers with none of the entries
    have ha : Admissible runtime start.entries ⟨.ok [], .ok (), .ok (), true⟩ := by
      refine ⟨?_,fun _ _ hle => absurd hle (Nat.not_le.mpr hno.2),fun _ => rfl⟩
      rintro _ ⟨⟩
      exact nil_subset _
    have hc : (runNext us runtime tenantId instanceId ⟨.ok [], .ok (), .ok (), true⟩).1 = .ok .completed := by
      have hs : latestPending us [] = none := by simp [latestPending, pendingOf, (us.perm _ []).eq_nil]
      simp [runNext, hno.1, hs]
    obtain ⟨entry,hin⟩ := exists_mem_of_length_pos (Nat.zero_lt_of_lt hno.2)
    obtain ⟨hin,hp⟩ := mem_filter.mp hin
    exact (h _ .start _ ha).completed hc entry hin (beq_iff_eq.mp hp)
  · rintro (hb | hl) ledger hr replies ha
    · simp only [runNext, hb, if_true]
      exact ⟨nofun,nofun⟩
    · exact (hr.settling start.status).inOrder hl ha

namespace Sample

def ledgerEntry (id : String) (effectSequence : Nat) : CompensationLedgerEntry :=
  ⟨"tenant-a", "one", "saga", id, effectSequence, 1, "", "", "", "", "", .pending, 0⟩

def twoEffects : EffectLedger := ⟨[ledgerEntry "first" 1, ledgerEntry "second" 2], by decide⟩

end Sample

open BpmpPlatform.Governance.Sample

/-- With a limit of one entry the store answers with the older effect, which is executed first. -/
theorem older_effect_executed_first :
    let runtime : CompensationRuntime := ⟨1, by decide⟩
    let replies : PortReplies := ⟨.ok [ledgerEntry "first" 1], .ok (), .ok (), true⟩
    Admissible runtime twoEffects.entries replies ∧
      (runNext .insertion runtime "tenant-a" "one" replies).2 = some (ledgerEntry "first" 1) ∧
      ledgerEntry "second" 2 ∈ twoEffects.entries ∧
      (ledgerEntry "second" 2).status = .pending := by
  refine ⟨⟨?_,?_,fun _ => rfl⟩,by decide,by decide,by decide⟩
  · rintro _ ⟨⟩
    decide
  · intro _ _ hle
    exact absurd hle (by decide)

end BpmpPlatform.Governance
