import BpmpPlatform.Engine.Calls
import BpmpPlatform.Library.Log
import BpmpPlatform.Runtime.Agreement

/-! # Snapshot and tail

The stream of an instance is numbered from one on, and its snapshot is the state after as many events as its own
counter says.
-/
namespace BpmpPlatform
open Std Outcome List

section Counters
variable {definition : WorkflowDefinition} {request : AuthorizedCommand} {actorId : ActorId}
  {configuration : ResolvedConfigSnapshot} {envelopes : List EventEnvelope}

variable {events : List DomainEvent}

/-- The state counts the events it has seen, as long as the counter does not saturate. -/
theorem foldl_evolve_sequence {s : InstanceState} (h : s.sequence + events.length ≤ u64Max) :
    (events.foldl evolve s).sequence = s.sequence + events.length := by
  induction events generalizing s with
  | nil => rfl
  | cons e events ih =>
    rw [length_cons] at h
    have hs : (evolve s e).sequence = s.sequence + 1 := by
      rw [evolve, saturatingSucc, if_pos (by omega)]
    rw [foldl_cons, ih (by omega), hs, length_cons]
    omega

theorem rehydrate_sequence (h : events.length ≤ u64Max) : (rehydrate none events).sequence = events.length := by
  have hz : (({} : InstanceState).sequence + events.length) ≤ u64Max := by
    rw [Nat.zero_add]; exact h
  rw [rehydrate, Option.getD_none, foldl_evolve_sequence hz]
  exact Nat.zero_add _

theorem attachFrom_length {version ordinal : Nat}
    (h : attachFrom definition request actorId configuration version ordinal events = .ok envelopes) :
    envelopes.length = events.length := by
  rw [← (attachFrom_spec h).1, length_map]

end Counters

section Replay
variable {format : MessageFormat Wire.EventEnvelope} {store store' : MemoryState format} {key : StreamKey}

def MemoryState.history (store : MemoryState format) (key : StreamKey) : List DomainEvent :=
  (store.stream key).map EventEnvelope.event

structure Replayable (store : MemoryState format) (key : StreamKey) : Prop where
  numbered : Log.Numbered EventEnvelope.sequence (store.stream key)
  bounded : (store.stream key).length ≤ u64Max
  snapshot : ∀ snapshot, store.snapshots[key]? = some snapshot →
    snapshot.state.sequence ≤ (store.stream key).length ∧
      snapshot.state = rehydrate none ((store.history key).take snapshot.state.sequence)

theorem Replayable.congr (h : Replayable store key) (hs : store'.stream key = store.stream key)
    (hsn : store'.snapshots[key]? = store.snapshots[key]?) : Replayable store' key := by
  refine ⟨hs ▸ h.numbered,hs ▸ h.bounded,?_⟩
  intro snapshot hget
  rw [hsn] at hget
  rw [MemoryState.history, hs]
  exact h.snapshot snapshot hget

/-- Loading a replayable instance gives its snapshot, the events after it, and the state of them all. -/
theorem Replayable.load_eq (h : Replayable store key) :
    ∃ loaded, store.load key.tenantId key.instanceId = .ok loaded ∧ loaded.snapshot = store.snapshots[key]? ∧
      loaded.events = (store.stream key).drop ((loaded.snapshot.map fun snapshot => snapshot.state.sequence).getD 0) ∧
      loaded.version = (store.stream key).length ∧ loaded.state = rehydrate none (store.history key) := by
  refine ⟨_,bind_eq_ok.mpr ⟨_,u64Length_eq_ok.mpr ⟨h.bounded,rfl⟩,rfl⟩,rfl,h.numbered.filter_after _,rfl,?_⟩
  simp only [LoadedInstance.state, h.numbered.filter_after]
  cases hsn : store.snapshots[key]? with
  | none => rfl
  | some snapshot =>
    obtain ⟨_,hs⟩ := h.snapshot snapshot hsn
    simp only [Option.map_some, Option.getD_some, map_drop]
    calc ((store.history key).drop snapshot.state.sequence).foldl evolve snapshot.state
        = ((store.history key).drop snapshot.state.sequence).foldl evolve
          (((store.history key).take snapshot.state.sequence).foldl evolve {}) :=
        congrArg (List.foldl evolve · _) hs
      _ = rehydrate none (store.history key) := Log.foldl_take_drop evolve _ _ _

variable {ports : EnginePorts} {definition : WorkflowDefinition} {request : AuthorizedCommand}
  {x : Transaction format}

theorem Commits.loaded_eq (h : Commits ports definition request store x store')
    (hr : Replayable store request.streamKey) : x.loaded.version = (store.stream request.streamKey).length ∧
      x.loaded.state = rehydrate none (store.history request.streamKey) := by
  obtain ⟨loaded,hl,_,_,hv,hs⟩ := hr.load_eq
  have heq : x.loaded = loaded := Except.ok.inj (h.loaded.symm.trans hl)
  rw [heq]
  exact ⟨hv,hs⟩

theorem Commits.replayable (h : Commits ports definition request store x store')
    (hr : Replayable store request.streamKey) : Replayable store' request.streamKey := by
  obtain ⟨hv,hst⟩ := h.loaded_eq hr
  have hs : store'.stream request.streamKey = store.stream request.streamKey ++ x.envelopes := by
    rw [h.stream, if_pos rfl]
  have hseq := (attachFrom_spec h.attached).2.1
  rw [hv, Nat.add_zero] at hseq
  have hb := h.bounded
  rw [hv] at hb
  refine ⟨?_,?_,?_⟩
  · rw [hs]
    exact hr.numbered.append hseq
  · rw [hs, length_append]
    exact hb
  · intro snapshot hget
    rw [h.snapshots, if_pos rfl] at hget
    rw [MemoryState.history, hs, length_append, map_append]
    cases hnew : snapshotAtLatestBoundary definition request x.configuration x.loaded.state x.envelopes with
    | none =>
      rw [hnew, Option.none_or] at hget
      obtain ⟨hle,hold⟩ := hr.snapshot snapshot hget
      rw [take_append_of_le_length (by simpa using hle)]
      exact ⟨by omega,hold⟩
    | some taken =>
      rw [hnew, Option.some_or, Option.some.injEq] at hget
      subst hget
      -- the snapshot is the state of the stream up to the event it was cut after
      obtain ⟨before,cut,hat⟩ := exists_cutsAt_of_snapshot hnew
      rw [hat.snapshot_eq, Option.some.injEq] at hnew
      obtain ⟨_,after,henv,_⟩ := hat
      rw [append_cons] at henv
      generalize before ++ [cut] = covered at henv hnew
      have hco : taken.state =
          rehydrate none (store.history request.streamKey ++ covered.map EventEnvelope.event) := by
        rw [← hnew, snapshotOf, evolveAll, hst, rehydrate, rehydrate, foldl_append]
      have hl : (store.history request.streamKey ++ covered.map EventEnvelope.event).length =
          (store.stream request.streamKey).length + covered.length := by
        simp [MemoryState.history]
      rw [henv, length_append] at hb ⊢
      have hsq : taken.state.sequence =
          (store.history request.streamKey ++ covered.map EventEnvelope.event).length := by
        rw [hco, rehydrate_sequence (by omega)]
      refine ⟨by omega,?_⟩
      have hta : (store.history request.streamKey ++ (covered ++ after).map EventEnvelope.event).take
          taken.state.sequence = store.history request.streamKey ++ covered.map EventEnvelope.event := by
        rw [hsq, map_append, ← append_assoc, take_left]
      exact hco.trans (congrArg (rehydrate none) hta.symm)

theorem Handled.replayable {log : List (Call × Except EngineError HandleOutcome)} (h : Handled log store)
    (key : StreamKey) : Replayable store key := by
  induction h with
  | start => exact ⟨.nil,Nat.zero_le _,fun snapshot hget => by simp at hget⟩
  | @call log store store' c outcome _ hc ih =>
    rcases handle_effect hc with hobs | ⟨x,hx⟩
    · exact ih.congr (hobs.stream key) (by rw [hobs.snapshots])
    · by_cases hkey : c.request.streamKey = key
      · subst hkey
        exact hx.replayable ih
      · exact ih.congr (by rw [hx.stream, if_neg hkey]) (by rw [hx.snapshots, if_neg hkey])

/-- After any sequence of calls, what `load` returns rehydrates to the state of the whole stream. The
snapshot covers as many events as its counter says, the events are numbered from one on, and a commit
reports the length its stream has afterwards. -/
theorem snapshot_tail_eq_replay {log : List (Call × Except EngineError HandleOutcome)} (h : Handled log store)
    (key : StreamKey) : (∃ loaded, store.load key.tenantId key.instanceId = .ok loaded ∧
      rehydrate (loaded.snapshot.map SnapshotEnvelope.state) (loaded.events.map EventEnvelope.event) =
        rehydrate none ((store.stream key).map EventEnvelope.event) ∧ loaded.version = (store.stream key).length ∧
      ∀ snapshot, loaded.snapshot = some snapshot → snapshot.state.sequence ≤ (store.stream key).length ∧
        loaded.events = (store.stream key).drop snapshot.state.sequence ∧ snapshot.state =
          rehydrate none (((store.stream key).take snapshot.state.sequence).map EventEnvelope.event)) ∧
    (store.stream key).map EventEnvelope.sequence = List.range' 1 (store.stream key).length ∧
    ∀ (c : Call) result store', handle c.ports c.definition c.request store = (.ok (.committed result), store') →
      result.version = (store'.stream c.request.streamKey).length := by
  have hr := h.replayable key
  obtain ⟨loaded,hl,hsn,hes,hv,hs⟩ := hr.load_eq
  refine ⟨⟨loaded,hl,hs,hv,?_⟩,hr.numbered,?_⟩
  · intro snapshot hget
    obtain ⟨hle,hcov⟩ := hr.snapshot snapshot (hsn ▸ hget)
    rw [hget] at hes
    rw [map_take]
    exact ⟨hle,hes,hcov⟩
  · intro c result store' hc
    rcases handle_cases hc with ⟨_,herr,_⟩ | ⟨_,_,hdup,_⟩ | ⟨x,hx,hco,_⟩
    · cases herr
    · cases hdup
    · cases hx
      have hv := (hco.loaded_eq (h.replayable _)).1
      rw [hco.stream, if_pos rfl, length_append, ← hv]
      rfl

end Replay

namespace Sample

def everyTwo : ResolvedConfigSnapshot :=
  { everyEight with engine := policy 2 (by decide) }

def reviewCalls : List Call :=
  [⟨ports everyTwo, review, request (.startWorkflow (.lit "tenant-a") 5)⟩,
    ⟨ports everyTwo, review, request (.startWorkflow (.lit "tenant-a") 5)⟩,
    ⟨ports everyEight, review, { request (.completeServiceTask (.lit "review") ∅ 6) with
      commandId := .lit "command-2", idempotencyKey := .lit "request-2" }⟩]

def reviewStore : MemoryState (.plain _) := (handleAll (.plain _) reviewCalls).2

def reviewKey : StreamKey := ⟨.lit "tenant-a", .lit "instance-1"⟩

end Sample

open Sample

theorem snapshot_tail_eq_replay_review : (reviewStore.stream reviewKey).length = 4 ∧ ∃ loaded snapshot,
      reviewStore.load (.lit "tenant-a") (.lit "instance-1") = .ok loaded ∧
      loaded.snapshot = some snapshot ∧ snapshot.state.sequence = 2 ∧
      rehydrate (loaded.snapshot.map SnapshotEnvelope.state) (loaded.events.map EventEnvelope.event) =
        rehydrate none ((reviewStore.stream reviewKey).map EventEnvelope.event) := by
  obtain ⟨⟨loaded,hl,hr,_,_⟩,_,_⟩ :=
    snapshot_tail_eq_replay (handled_handleAll (.plain _) reviewCalls) reviewKey
  obtain ⟨snapshot,hsn,hsq⟩ : ∃ snapshot,
      (reviewStore.load (.lit "tenant-a") (.lit "instance-1")).toOption.bind LoadedInstance.snapshot =
        some snapshot ∧ snapshot.state.sequence = 2 := ⟨_,rfl,rfl⟩
  have hget : loaded.snapshot = some snapshot := by
    have h : reviewStore.load (.lit "tenant-a") (.lit "instance-1") = .ok loaded := hl
    rw [h] at hsn
    exact hsn
  exact ⟨by decide,loaded,snapshot,hl,hget,hsq,hr⟩

end BpmpPlatform
