import BpmpPlatform.Engine.Calls
import BpmpPlatform.Runtime.Agreement

/-! # Idempotent replay

A call is answered with a stored result exactly when an earlier call of the same scope and command id has committed.
The scope does not contain the instance or the command.
-/
namespace BpmpPlatform
open Std Outcome List

abbrev CallLog := List (Call × Except EngineError HandleOutcome)

def Call.scope (c : Call) : Option IdempotencyScope :=
  (c.ports.authorize (authorizationRequestOf c.definition c.request)).toOption.map fun principal =>
    c.request.scope principal.actorId

def committed? : Call × Except EngineError HandleOutcome → Option Call
  | (c, .ok (.committed _)) => some c
  | _ => none

def committedCalls (log : CallLog) : List Call := log.filterMap committed?

/-- Authorized calls of one scope that share a command id are about the same instance and carry the same command. -/
def CommandIdsFaithful (log : CallLog) : Prop :=
  ∀ scope, ∀ a ∈ log, ∀ b ∈ log, a.1.scope = some scope → b.1.scope = some scope →
    a.1.request.commandId = b.1.request.commandId →
      a.1.request.instanceId = b.1.request.instanceId ∧ a.1.request.command = b.1.request.command

section Idempotency
variable {format : MessageFormat Wire.EventEnvelope} {store store' : MemoryState format} {log : CallLog} {c : Call}

structure ResultsRecorded (log : CallLog) (store : MemoryState format) : Prop where
  sound : ∀ scope stored, store.idempotency[scope]? = some stored →
    ∃ c, (c, .ok (.committed stored.result)) ∈ log ∧ c.scope = some scope ∧ c.request.commandId = stored.commandId
  written : ∃ scopes, (committedCalls log).map Call.scope = scopes.map some ∧ WrittenOnce scopes store.idempotency

theorem scope_of_authorized {principal : AuthorizedPrincipal}
    (h : c.ports.authorize (authorizationRequestOf c.definition c.request) = .ok principal) :
    c.scope = some (c.request.scope principal.actorId) := by
  rw [Call.scope, h]
  rfl

theorem committedCalls_append (log : CallLog) (entry : Call × Except EngineError HandleOutcome) :
    committedCalls (log ++ [entry]) = committedCalls log ++ (committed? entry).toList := by
  rw [committedCalls, filterMap_append, committedCalls]
  cases h : committed? entry <;> simp [h]

theorem ResultsRecorded.skip (h : ResultsRecorded log store) {entry : Call × Except EngineError HandleOutcome}
    (he : committed? entry = none) (hs : store'.idempotency = store.idempotency) :
    ResultsRecorded (log ++ [entry]) store' := by
  have hca : committedCalls (log ++ [entry]) = committedCalls log := by
    rw [committedCalls_append, he, Option.toList_none, append_nil]
  refine ⟨?_,?_⟩
  · intro scope stored hget
    obtain ⟨c,hc,hr⟩ := h.sound scope stored (hs ▸ hget)
    exact ⟨c,mem_append_left _ hc,hr⟩
  · rw [hca, hs]
    exact h.written

theorem ResultsRecorded.commit (h : ResultsRecorded log store) {x : Transaction format}
    (hx : Commits c.ports c.definition c.request store x store') :
    ResultsRecorded (log ++ [(c, .ok (.committed x.result))]) store' := by
  have hs := scope_of_authorized hx.authorized
  have hca : committedCalls (log ++ [(c, .ok (.committed x.result))]) = committedCalls log ++ [c] :=
    committedCalls_append log _
  refine ⟨?_,?_⟩
  · intro scope stored hget
    rw [hx.idempotency] at hget
    split at hget
    · rename_i heq
      cases hget
      exact ⟨c,by simp,heq ▸ hs,rfl⟩
    · obtain ⟨c',hc',hr⟩ := h.sound scope stored hget
      exact ⟨c',mem_append_left _ hc',hr⟩
  · obtain ⟨scopes,hss,ho⟩ := h.written
    refine ⟨scopes ++ [c.request.scope x.principal.actorId],?_,ho.write hx.fresh hx.idempotency⟩
    rw [hca, map_append, map_append, hss, map_singleton, hs, map_singleton]

theorem Handled.resultsRecorded (h : Handled log store) : ResultsRecorded log store := by
  induction h with
  | start => exact ⟨fun scope stored hget => by simp at hget,[],rfl,.empty⟩
  | call _ hc ih =>
    rcases handle_cases hc with ⟨_,rfl,hobs⟩ | ⟨_,_,rfl,rfl,_⟩ | ⟨x,rfl,hx,_⟩
    · exact ih.skip rfl hobs.idempotency
    · exact ih.skip rfl rfl
    · exact ih.commit hx

/-- A stored answer is the result of an earlier committed call of the same scope and command id. -/
theorem Handled.duplicate_sound (h : Handled log store) {before after : CallLog} {result : CommittedResult}
    (hlog : log = before ++ (c, .ok (.duplicate result)) :: after) :
    ∃ c₀, (c₀, .ok (.committed result)) ∈ before ∧ c₀.scope = c.scope ∧
      c₀.request.commandId = c.request.commandId := by
  induction h generalizing after with
  | start => simp at hlog
  | @call log store store' c' outcome hrun hc ih =>
    rcases eq_nil_or_concat after with rfl | ⟨rest,last,rfl⟩
    · obtain ⟨rfl,hl⟩ := append_inj' hlog rfl
      cases hl
      rcases handle_cases hc with ⟨_,herr,_⟩ | ⟨principal,result',hdup,_,ha,hget⟩ | ⟨x,hcom,_⟩
      · cases herr
      · cases hdup
        obtain ⟨c₀,hc₀,hs,hid⟩ := hrun.resultsRecorded.sound _ _ hget
        exact ⟨c₀,hc₀,hs.trans (scope_of_authorized ha).symm,hid⟩
      · cases hcom
    · rw [concat_eq_append, ← cons_append, ← append_assoc] at hlog
      exact ih (append_inj' hlog rfl).1

/-- At most one call of each scope commits, and a stored answer comes from an earlier committed call of the
same scope and command id. If command ids are used faithfully, that call was for the same instance and
carried the same command. -/
theorem idempotent_replay_sound (h : Handled log store) : ((committedCalls log).map Call.scope).Nodup ∧
    ∀ before c result after, log = before ++ (c, .ok (.duplicate result)) :: after →
      ∃ c₀, (c₀, .ok (.committed result)) ∈ before ∧ c₀.scope = c.scope ∧ c₀.request.commandId = c.request.commandId ∧
        (CommandIdsFaithful log →
          c₀.request.instanceId = c.request.instanceId ∧ c₀.request.command = c.request.command) := by
  obtain ⟨scopes,hss,ho⟩ := h.resultsRecorded.written
  refine ⟨?_,?_⟩
  · rw [hss]
    exact ho.nodup.map (Option.some_injective _)
  intro before c result after hlog
  obtain ⟨c₀,hc₀,hs,hid⟩ := h.duplicate_sound hlog
  refine ⟨c₀,hc₀,hs,hid,fun hf => ?_⟩
  have hin₀ : (c₀, Except.ok (HandleOutcome.committed result)) ∈ log := by
    rw [hlog]; exact mem_append_left _ hc₀
  have hin : (c, Except.ok (HandleOutcome.duplicate result)) ∈ log := by
    rw [hlog]; simp
  have hscope : c₀.scope ∈ scopes.map some := by
    rw [← hss]
    exact mem_map_of_mem (mem_filterMap.mpr ⟨_,hin₀,rfl⟩)
  obtain ⟨scope,-,hscope⟩ := mem_map.mp hscope
  exact hf scope _ hin₀ _ hin hscope.symm (hs.symm.trans hscope.symm) hid

end Idempotency

namespace Sample

def retryCalls : List Call :=
  [⟨ports everyEight, review, start⟩, ⟨ports everyEight, review, start⟩]

def reusedCalls : List Call :=
  [⟨ports everyEight, review, start⟩,
    ⟨ports everyEight, review, { start with instanceId := .lit "instance-2" }⟩]

end Sample

open Sample

theorem idempotent_replay_sound_retry : ∃ first second result, (handleAll (.plain _) retryCalls).1 =
        [(first, .ok (.committed result)), (second, .ok (.duplicate result))] ∧
      CommandIdsFaithful (handleAll (.plain _) retryCalls).1 ∧
      ∃ c₀, (c₀, Except.ok (HandleOutcome.committed result)) ∈ (handleAll (.plain _) retryCalls).1 ∧
        c₀.request.instanceId = second.request.instanceId ∧ c₀.request.command = second.request.command := by
  obtain ⟨result,hlog⟩ : ∃ result, (handleAll (.plain _) retryCalls).1 =
      [(⟨ports everyEight, review, start⟩, .ok (.committed result)),
        (⟨ports everyEight, review, start⟩, .ok (.duplicate result))] := ⟨_,rfl⟩
  have hf : CommandIdsFaithful (handleAll (.plain _) retryCalls).1 := by
    rw [hlog]
    intro _ a ha b hb _ _ _
    simp only [mem_cons, not_mem_nil, or_false] at ha hb
    rcases ha with rfl | rfl <;> rcases hb with rfl | rfl <;> exact ⟨rfl,rfl⟩
  obtain ⟨c₀,hc₀,_,_,hs⟩ :=
    (idempotent_replay_sound (handled_handleAll (.plain _) retryCalls)).2 [_] _ result [] hlog
  exact ⟨_,_,result,hlog,hf,c₀,hlog ▸ mem_append_left [_] hc₀,hs hf⟩

/-- A call that starts a second instance is answered with the result of the first, and the second instance
is never started. -/
theorem reused_command_id_lost : ∃ first second result, (handleAll (.plain _) reusedCalls).1 =
        [(first, .ok (.committed result)), (second, .ok (.duplicate result))] ∧
      first.request.instanceId = .lit "instance-1" ∧ second.request.instanceId = .lit "instance-2" ∧
      (handleAll (.plain _) reusedCalls).2.stream ⟨.lit "tenant-a", .lit "instance-2"⟩ = [] :=
  ⟨_,_,_,rfl,rfl,rfl,rfl⟩

end BpmpPlatform
