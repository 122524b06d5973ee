import BpmpPlatform.ControlPlane.Context
import BpmpPlatform.Library.Runs

/-! # The circuit breaker of a tenant

Failed queries are counted and enough of them open the circuit for a while. Of the successful queries only a search that
finds the object resets the count.
-/
namespace BpmpPlatform.ControlPlane
open Runs

structure ReBacConfig where
  circuitBreakerThreshold : Nat := 3
  circuitResetSecs : Nat := 30

/-- The count wraps at 32 bits; instants are nanoseconds. -/
structure CircuitState where
  failureCount : Nat := 0
  openUntil : Option Nat := none

/-- The clock when a check starts and when it ends, and what its queries answer; a search without an answer timed out. -/
structure ReBacCall where
  started : Nat
  ended : Nat
  materialized : Except AuthzError (Option Bool)
  traversal : Option Bool

section Breaker
variable (config : ReBacConfig) (tenant : TenantId) {call : ReBacCall}

namespace CircuitState

def isCircuitOpen (state : CircuitState) (now : Nat) : Bool := state.openUntil.any fun until_ => decide (now < until_)

def recordFailure (state : CircuitState) (now : Nat) : CircuitState where
  failureCount := (state.failureCount + 1) % 2 ^ 32
  openUntil :=
    if (state.failureCount + 1) % 2 ^ 32 ≥ config.circuitBreakerThreshold then
      some (now + config.circuitResetSecs * 1000000000)
    else state.openUntil

def resetFailures (_state : CircuitState) : CircuitState := {}

def check (state : CircuitState) (call : ReBacCall) : Except AuthzError Bool × CircuitState :=
  if state.isCircuitOpen call.started then (.error (.reBacCircuitOpen tenant), state)
  else match call.materialized with
  | .ok (some true) => (.ok true, state)
  | .error e => (.error e, state.recordFailure config call.ended)
  -- a negative entry may be stale
  | .ok (some false) | .ok none =>
    match call.traversal with
    | some true => (.ok true, state.resetFailures)
    | some false => (.ok false, state)
    | none => (.error (.reBacCircuitOpen tenant), state.recordFailure config call.ended)

end CircuitState

/-- The circuit, which of the queries failed, and the same when the open period began; the newest come first. -/
structure Breaker where
  circuit : CircuitState := {}
  failed : List Bool := []
  opened : List Bool := []

def Breaker.check (breaker : Breaker) (call : ReBacCall) : Breaker :=
  if breaker.circuit.isCircuitOpen call.started then breaker
  else
    let (answer, circuit) := breaker.circuit.check config tenant call
    let failed := (!answer.isOk) :: breaker.failed
    { circuit, failed
      opened :=
        if !answer.isOk && decide (circuit.failureCount ≥ config.circuitBreakerThreshold) then failed
        else breaker.opened }

/-- The table says yes, or the search finds nothing: the successes that leave the count. -/
def ReBacCall.Unrecorded (call : ReBacCall) : Prop :=
  call.materialized = .ok (some true) ∨ call.materialized.isOk = true ∧ call.traversal = some false

/-- The successes that leave the count come only while it is zero. -/
def ReBacCall.Counted (call : ReBacCall) (state : CircuitState) : Prop :=
  state.isCircuitOpen call.started = false → call.Unrecorded → state.failureCount = 0

theorem CircuitState.check_cases {state : CircuitState} (ho : state.isCircuitOpen call.started = false) :
    (∃ e, state.check config tenant call = (.error e, state.recordFailure config call.ended)) ∨
      state.check config tenant call = (.ok true, {}) ∨
      call.Unrecorded ∧ ∃ found, state.check config tenant call = (.ok found, state) := by
  obtain ⟨started,ended,materialized,traversal⟩ := call
  simp only [check, ho, Bool.false_eq_true, if_false]
  rcases materialized with _ | _ | _ | _
  · exact .inl ⟨_,rfl⟩
  · rcases traversal with _ | _ | _
    · exact .inl ⟨_,rfl⟩
    · exact .inr (.inr ⟨.inr ⟨rfl,rfl⟩,_,rfl⟩)
    · exact .inr (.inl rfl)
  · rcases traversal with _ | _ | _
    · exact .inl ⟨_,rfl⟩
    · exact .inr (.inr ⟨.inr ⟨rfl,rfl⟩,_,rfl⟩)
    · exact .inr (.inl rfl)
  · exact .inr (.inr ⟨.inl rfl,_,rfl⟩)

/-- The count is at most the failures in a row, and the open period began after enough of them. -/
structure Breaker.Consecutive (breaker : Breaker) : Prop where
  counted : breaker.circuit.failureCount ≤ streak breaker.failed
  began : breaker.circuit.openUntil = none ∨
    breaker.opened <:+ breaker.failed ∧ config.circuitBreakerThreshold ≤ streak breaker.opened

variable {config tenant} {breaker : Breaker}

namespace Breaker.Consecutive

theorem fail (h : breaker.Consecutive config) (now : Nat) : Consecutive config
    { circuit := breaker.circuit.recordFailure config now, failed := true :: breaker.failed
      opened := if (breaker.circuit.recordFailure config now).failureCount ≥ config.circuitBreakerThreshold then
        true :: breaker.failed else breaker.opened } := by
  have hle : (breaker.circuit.recordFailure config now).failureCount ≤ streak (true :: breaker.failed) :=
    (Nat.mod_le ..).trans (Nat.succ_le_succ h.counted)
  refine ⟨hle,?_⟩
  by_cases ht : (breaker.circuit.recordFailure config now).failureCount ≥ config.circuitBreakerThreshold
  · simp only [if_pos ht]
    exact .inr ⟨List.suffix_rfl,ht.trans hle⟩
  · simp only [if_neg ht]
    have ho : (breaker.circuit.recordFailure config now).openUntil = breaker.circuit.openUntil := if_neg ht
    rw [ho]
    exact h.began.imp_right fun hb => ⟨hb.1.trans (List.suffix_cons ..),hb.2⟩

theorem succeed (h : breaker.Consecutive config) (hz : breaker.circuit.failureCount = 0) :
    Consecutive config { breaker with failed := false :: breaker.failed } :=
  ⟨hz.trans_le (Nat.zero_le _),h.began.imp_right fun hb => ⟨hb.1.trans (List.suffix_cons ..),hb.2⟩⟩

theorem check (h : breaker.Consecutive config) (hc : call.Counted breaker.circuit) :
    (breaker.check config tenant call).Consecutive config := by
  unfold Breaker.check
  split
  · exact h
  · next ho =>
    rw [Bool.not_eq_true] at ho
    rcases CircuitState.check_cases config tenant ho with ⟨e,he⟩ | hf | ⟨hu,found,hs⟩
    · simpa [he, Except.isOk, Except.toBool] using h.fail call.ended
    · simpa [hf, Except.isOk, Except.toBool] using ⟨Nat.zero_le _,.inl rfl⟩
    · simpa [hs, Except.isOk, Except.toBool] using h.succeed (hc ho hu)

end Breaker.Consecutive

/-- A circuit that is open at any time was opened after as many failures in a row as the threshold says. -/
theorem opens_after_consecutive_failures (config : ReBacConfig) (tenant : TenantId) (calls : List ReBacCall)
    (hcounted : Along (Breaker.check config tenant) (fun breaker call => call.Counted breaker.circuit) {} calls) (now : Nat) :
    let breaker := calls.foldl (Breaker.check config tenant) {}
    breaker.circuit.isCircuitOpen now = false ∨
      breaker.opened <:+ breaker.failed ∧ config.circuitBreakerThreshold ≤ streak breaker.opened := by
  intro breaker
  have hs : breaker.Consecutive config := hcounted.held (fun _ _ hs hc => hs.check hc) ⟨Nat.le_refl 0,.inl rfl⟩
  refine hs.began.imp_left fun hn => ?_
  rw [CircuitState.isCircuitOpen, hn]
  rfl

end Breaker

/-- A success of the table while nothing is counted, then three searches that time out. -/
def Sample.threeTimeouts : List ReBacCall :=
  [⟨0, 1, .ok (some true), none⟩, ⟨1, 2, .ok (some false), none⟩, ⟨2, 3, .ok none, none⟩, ⟨3, 4, .ok (some false), none⟩]

theorem opens_after_three_timeouts :
    let breaker := Sample.threeTimeouts.foldl (Breaker.check {} ⟨Sample.uuid 1⟩) {}
    breaker.circuit.isCircuitOpen 5 = true ∧ 3 ≤ streak breaker.opened := by
  refine ⟨by decide,?_⟩
  have hcounted : Along (Breaker.check {} ⟨Sample.uuid 1⟩) (fun breaker call => call.Counted breaker.circuit) {}
      Sample.threeTimeouts :=
    ⟨fun _ _ => rfl,by simp [ReBacCall.Counted, ReBacCall.Unrecorded],by simp [ReBacCall.Counted, ReBacCall.Unrecorded],
      by simp [ReBacCall.Counted, ReBacCall.Unrecorded],trivial⟩
  rcases opens_after_consecutive_failures {} ⟨Sample.uuid 1⟩ _ hcounted 5 with hcl | ⟨-,ht⟩
  · exact absurd hcl (by decide)
  · exact ht

/-- Two searches time out, the table says yes, another search times out: the circuit opens after one failure. -/
theorem success_leaves_failures_counted :
    let breaker := [⟨0, 1, .ok (some false), none⟩, ⟨1, 2, .ok (some false), none⟩, ⟨2, 3, .ok (some true), none⟩,
      ⟨3, 4, .ok (some false), none⟩].foldl (Breaker.check {} ⟨Sample.uuid 1⟩) {}
    breaker.circuit.isCircuitOpen 5 = true ∧ breaker.opened = [true, false, true, true] := by decide

end BpmpPlatform.ControlPlane
