import Mathlib
import BpmpPlatform.Library.Runs

/-! # The circuit breaker of the gateway

`doUpstream` for one tenant and dependency. Each locked section is one action of a call; the attempts between two of
them are a function of what the operation and the waits return.
-/
namespace BpmpPlatform.Upstream
open List

/-- The codes `retryableUpstreamError` names; `other` is any other one. -/
inductive Code
  | unavailable
  | resourceExhausted
  | deadlineExceeded
  | aborted
  | other
  deriving DecidableEq

/-- A status, `answered` if the upstream sent it and not the client library when the context of the call ended, or
`callCtx.Err()`. -/
inductive CallError
  | status (code : Code) (answered : Bool)
  | context (deadline : Bool)

def retryableUpstreamError : CallError → Bool
  | .status code _ => decide (code ≠ .other)
  | .context _ => false

structure Policy where
  maxAttempts : Nat
  bulkheadMaxConcurrency : Nat
  circuitBreakerFailureThreshold : Nat
  circuitBreakerOpen : Int

/-- What the operation returns, and the error of the context if it ends the wait that follows. -/
structure Attempt where
  result : Option CallError := none
  ended : Option Bool := none

/-- Whether the call ends in `recordSuccess`, and whether the upstream answered it. -/
structure Conclusion where
  success : Bool
  answered : Bool

def conclude : CallError → Conclusion
  | .status code answered => ⟨!retryableUpstreamError (.status code answered), answered⟩
  | .context deadline => ⟨!deadline, false⟩

/-- The loop of `doUpstream`: the attempts left and the number of the next one. -/
def attemptLoop (attempts : Nat → Attempt) : Nat → Nat → Conclusion
  -- only with `MaxAttempts` zero: a success without an attempt
  | 0, _ => ⟨true, false⟩
  | left + 1, k =>
    match (attempts k).result with
    | none => ⟨true, true⟩
    | some err =>
      if !retryableUpstreamError err || left == 0 then conclude err
      else match (attempts k).ended with
        | some deadline => conclude (.context deadline)
        | none => attemptLoop attempts left (k + 1)

/-- The upstream answers the attempt. -/
def Attempt.Answered (a : Attempt) : Prop := a.result = none ∨ a.result = some (.status .other true)

/-- The client cancels in the attempt or in the wait after it. -/
def Attempt.Cancelled (a : Attempt) : Prop :=
  a.result = some (.status .other false) ∨ a.result = some (.context false) ∨ a.ended = some false

def Attempt.Retried (a : Attempt) : Prop := (∃ err, a.result = some err ∧ retryableUpstreamError err = true) ∧ a.ended = none

section Attempts
variable {attempts : Nat → Attempt} {left k : Nat}

theorem attemptLoop_answered (hleft : 0 < left)
    (h : ∀ j < k + left, k ≤ j → (∀ i < j, k ≤ i → (attempts i).Retried) → ¬(attempts j).Cancelled)
    (hs : (attemptLoop attempts left k).success = true) : (attemptLoop attempts left k).answered = true := by
  induction left generalizing k with
  | zero => omega
  | succ left ih =>
    have hk := h k (by omega) le_rfl (by omega)
    simp only [Attempt.Cancelled, not_or] at hk
    unfold attemptLoop at hs ⊢
    cases hr : (attempts k).result with
    | none => rfl
    | some err =>
      simp only [hr] at hs hk ⊢
      split at hs
      · rename_i hl
        rw [if_pos hl]
        rcases err with ⟨code,_ | _⟩ | _ <;> simp_all [conclude, retryableUpstreamError]
      · rename_i hl
        rw [if_neg hl]
        cases he : (attempts k).ended with
        | some deadline => simp_all [conclude]
        | none =>
          simp only [he, Bool.or_eq_true, beq_iff_eq, not_or, Bool.not_eq_true', Bool.not_eq_false] at hs hl ⊢
          refine ih (Nat.pos_of_ne_zero hl.2) (fun j hj hkj hm => h j (by omega) (by omega) fun i hi hki => ?_) hs
          rcases hki.eq_or_lt with rfl | hlt
          · exact ⟨⟨err,hr,hl.1⟩,he⟩
          · exact hm i hi hlt

theorem attemptLoop_success {j : Nat} (hkj : k ≤ j) (hj : j < k + left) (hm : ∀ i < j, k ≤ i → (attempts i).Retried)
    (ha : (attempts j).Answered) : (attemptLoop attempts left k).success = true := by
  induction left generalizing k with
  | zero => omega
  | succ left ih =>
    unfold attemptLoop
    rcases hkj.eq_or_lt with rfl | hlt
    · rcases ha with ha | ha <;> simp [ha, conclude, retryableUpstreamError]
    · obtain ⟨⟨err,hr,hre⟩,he⟩ := hm k hlt le_rfl
      simpa [hr, hre, he, show left ≠ 0 by omega] using ih hlt (by omega) fun i hi hki => hm i hi (by omega)

end Attempts

/-- `openedAt` is absent where the source has the zero time. -/
structure UpstreamState where
  active : Nat := 0
  failures : Nat := 0
  openedAt : Option Int := none
  probe : Bool := false

namespace UpstreamState

/-- The state in which the call is admitted, if it is. -/
def allow (s : UpstreamState) (now : Int) (p : Policy) : Option UpstreamState :=
  match s.openedAt with
  | none => some s
  | some openedAt =>
    if now - openedAt < p.circuitBreakerOpen ∨ s.probe = true then none else some { s with probe := true }

theorem of_allow {s s' : UpstreamState} {now : Int} {p : Policy} (h : s.allow now p = some s') :
    s.openedAt = none ∧ s' = s ∨ s.openedAt.isSome ∧ s.probe = false ∧ s' = { s with probe := true } := by
  unfold allow at h
  split at h
  · rename_i ho
    cases h
    exact .inl ⟨ho,rfl⟩
  · rename_i ho
    simp only [Option.ite_none_left_eq_some, not_or, Bool.not_eq_true, Option.some.injEq] at h
    exact .inr ⟨by simp [ho],h.1.2,h.2.symm⟩

def recordSuccess (s : UpstreamState) : UpstreamState := { s with failures := 0, openedAt := none, probe := false }

def recordFailure (s : UpstreamState) (now : Int) (threshold : Nat) : UpstreamState :=
  let failures := (s.failures + 1) % 2 ^ 32
  { s with probe := false, failures, openedAt := if threshold ≤ failures then some now else s.openedAt }

end UpstreamState

/-- The state with the calls that wait for the bulkhead, run, and have recorded their outcome but not left the
bulkhead; `probes` are the calls admitted since the circuit opened whose outcome is not recorded. -/
structure System where
  state : UpstreamState := {}
  waiting : List Nat := []
  running : List Nat := []
  finished : List Nat := []
  probes : List Nat := []

/-- `giveUp` is `releaseProbe` after the context ended in `acquire`. -/
inductive Action
  | allow (id : Nat) (now : Int)
  | acquire (id : Nat)
  | giveUp (id : Nat)
  | record (id : Nat) (attempts : Nat → Attempt) (now : Int)
  | release (id : Nat)

variable (p : Policy)

def step (s : System) : Action → System
  | .allow id now =>
    if id ∈ s.waiting ++ s.running ++ s.finished then s
    else match s.state.allow now p with
      | none => s
      | some state =>
        { s with state, waiting := id :: s.waiting, probes := if s.state.openedAt.isSome then id :: s.probes else s.probes }
  | .acquire id =>
    if id ∈ s.waiting ∧ s.state.active < p.bulkheadMaxConcurrency then
      { s with
        state := { s.state with active := s.state.active + 1 }
        waiting := s.waiting.erase id, running := id :: s.running }
    else s
  | .giveUp id =>
    if id ∈ s.waiting then
      { s with
        state := { s.state with probe := false }, waiting := s.waiting.erase id, probes := s.probes.erase id }
    else s
  | .record id attempts now =>
    if id ∈ s.running then
      let s := { s with running := s.running.erase id, finished := id :: s.finished }
      if (attemptLoop attempts p.maxAttempts 0).success then { s with state := s.state.recordSuccess, probes := [] }
      else
        { s with
          state := s.state.recordFailure now p.circuitBreakerFailureThreshold, probes := s.probes.erase id }
    else s
  | .release id =>
    if id ∈ s.finished then
      { s with state := { s.state with active := s.state.active - 1 }, finished := s.finished.erase id }
    else s

/-- While the circuit is open one call admitted since is under way, and the calls in the bulkhead are counted. -/
structure Protected (s : System) : Prop where
  probes : s.state.openedAt.isSome → s.probes.length ≤ 1
  active : s.state.active = s.running.length + s.finished.length
  bounded : s.state.active ≤ p.bulkheadMaxConcurrency

def ClosedByAnswer (s : System) (a : Action) : Prop :=
  s.state.openedAt.isSome → (step p s a).state.openedAt = none →
    ∃ id attempts now, a = .record id attempts now ∧ (attemptLoop attempts p.maxAttempts 0).answered = true

/-- While the circuit is open, no client cancels in an attempt that is made, and a call next to the probe takes no probe
flag down: it does not give up, and one of its attempts is answered. -/
def Careful (s : System) : Action → Prop
  | .giveUp id => id ∈ s.waiting → s.state.openedAt.isSome → ∀ i ∈ s.probes, i = id
  | .record id attempts _ => id ∈ s.running → s.state.openedAt.isSome →
    0 < p.maxAttempts ∧ (∀ k < p.maxAttempts, (∀ j < k, (attempts j).Retried) → ¬(attempts k).Cancelled) ∧
      ((∃ k < p.maxAttempts, (∀ j < k, (attempts j).Retried) ∧ (attempts k).Answered) ∨ ∀ i ∈ s.probes, i = id)
  | _ => True

/-- What careful steps keep: a probe under way has its flag up, and a closed circuit has no probe. -/
structure Kept (s : System) : Prop extends Protected p s where
  flagged : s.probes ≠ [] → s.state.openedAt.isSome ∧ s.state.probe = true

variable {p} {s : System} {a : Action}

theorem Kept.erase_probes (h : Kept p s) {id : Nat} (hc : s.state.openedAt.isSome → ∀ i ∈ s.probes, i = id) :
    s.probes.erase id = [] := by
  by_cases hp : s.probes = []
  · simp [hp]
  · have ho := (h.flagged hp).1
    obtain ⟨i,hi⟩ := length_eq_one_iff.mp (Nat.le_antisymm (h.probes ho) (length_pos_iff.mpr hp))
    have hid := hc ho i (by simp [hi])
    simp [hi, hid]

theorem Kept.step (h : Kept p s) (hc : Careful p s a) : Kept p (step p s a) := by
  have ⟨⟨hp,ha,hb⟩,hf⟩ := h
  cases a with
  | allow id now =>
    simp only [Upstream.step]
    split
    · exact h
    split
    · exact h
    · rename_i hal
      rcases UpstreamState.of_allow hal with ⟨ho,rfl⟩ | ⟨ho,hn,rfl⟩
      · exact ⟨⟨by simp [ho],ha,hb⟩,by simpa [ho] using hf⟩
      · -- with the flag down there is no probe under way
        have hnil : s.probes = [] := by
          by_contra hne
          exact absurd (hf hne).2 (by simp [hn])
        exact ⟨⟨by simp [hnil, ho],ha,hb⟩,by simp [ho]⟩
  | acquire id =>
    simp only [Upstream.step]
    split
    · rename_i hw
      exact ⟨⟨hp,by simp [ha]; omega,hw.2⟩,hf⟩
    · exact h
  | giveUp id =>
    simp only [Upstream.step]
    split
    · rename_i hw
      have hnil := h.erase_probes (hc hw)
      exact ⟨⟨by simp [hnil],ha,hb⟩,by simp [hnil]⟩
    · exact h
  | record id attempts now =>
    simp only [Upstream.step]
    split
    · rename_i hr
      have hlen := length_erase_of_mem hr
      have hpos := length_pos_of_mem hr
      split
      · exact ⟨⟨by simp,by simp [UpstreamState.recordSuccess, ha]; omega,hb⟩,by simp⟩
      · rename_i hs
        have hnil := h.erase_probes fun ho => (hc hr ho).2.2.resolve_left fun ⟨k,hk,hm,ha⟩ =>
          hs (attemptLoop_success k.zero_le (by omega) (fun i hi _ => hm i hi) ha)
        exact ⟨⟨by simp [hnil],by simp [UpstreamState.recordFailure, ha]; omega,hb⟩,by simp [hnil]⟩
    · exact h
  | release id =>
    simp only [Upstream.step]
    split
    · rename_i hr
      have hlen := length_erase_of_mem hr
      have hpos := length_pos_of_mem hr
      exact ⟨⟨hp,by simp [ha]; omega,by simp; omega⟩,hf⟩
    · exact h

theorem closedByAnswer_of_careful (hc : Careful p s a) : ClosedByAnswer p s a := by
  intro ho hn
  cases a with
  | record id attempts now =>
    refine ⟨id,attempts,now,rfl,?_⟩
    simp only [step] at hn
    split at hn
    · rename_i hr
      split at hn
      · rename_i hs
        obtain ⟨hpos,hcl,-⟩ := hc hr ho
        exact attemptLoop_answered hpos (fun j hj _ hm => hcl j (by omega) fun i hi => hm i hi i.zero_le) hs
      · simp only [UpstreamState.recordFailure] at hn
        split at hn
        · cases hn
        · simp [hn] at ho
    · simp [hn] at ho
  | allow id now =>
    simp only [step] at hn
    split at hn
    · simp [hn] at ho
    split at hn
    · simp [hn] at ho
    · rename_i hal
      rcases UpstreamState.of_allow hal with ⟨_,rfl⟩ | ⟨_,_,rfl⟩ <;> simp [show s.state.openedAt = none from hn] at ho
  | _ =>
    simp only [step] at hn
    split at hn <;> simp_all

/-- In a run of careful steps the breaker protects the upstream after every step, and only answers close it. -/
theorem protected_of_careful {actions : List Action} (h : Runs.Along (step p) (Careful p) {} actions) :
    Protected p (actions.foldl (step p) {}) ∧ Runs.Along (step p) (ClosedByAnswer p) {} actions := by
  have hs : Kept p {} := ⟨⟨by simp,rfl,Nat.zero_le _⟩,by simp⟩
  have hk := h.held (fun _ _ hs hc => hs.step hc) hs
  exact ⟨hk.toProtected,h.imp fun _ _ => closedByAnswer_of_careful⟩

namespace Sample

def policy : Policy := ⟨1, 1, 1, 10⟩

def failing (code : Code) (answered : Bool) (_ : Nat) : Attempt := { result := some (.status code answered) }

def opened (rest : List Action) : List Action :=
  [.allow 1 0, .allow 2 0, .acquire 1, .record 1 (failing .unavailable true) 5, .release 1, .allow 3 20] ++ rest

def after (rest : List Action) : System := (opened rest).foldl (step policy) {}

end Sample

open BpmpPlatform.Upstream.Sample

/-- Call 2 gives up and takes down the flag of call 3, so that call 4 is admitted next to it; and if the client of
call 3 cancels, its call closes the circuit. -/
theorem probe_flag_not_owned : ¬Protected policy (after [.giveUp 2, .allow 4 20]) ∧
      ¬ClosedByAnswer policy (after [.acquire 3]) (.record 3 (failing .other false) 25) := by
  constructor
  · intro h
    exact absurd (h.probes rfl) (by decide)
  · intro h
    obtain ⟨_,_,_,heq,ha⟩ := h rfl rfl
    cases heq
    cases ha

theorem protected_after_recovery :
    Protected policy (after [.acquire 3, .record 3 (fun _ => {}) 25]) := by
  have h : Runs.Along (step policy) (Careful policy) {} (opened [.acquire 3, .record 3 (fun _ => {}) 25]) :=
    ⟨trivial,trivial,trivial,fun _ ho => absurd ho (by decide),trivial,trivial,trivial,
      fun _ _ => ⟨by decide,fun _ _ _ => by simp [Attempt.Cancelled],.inr (by decide)⟩,trivial⟩
  exact (protected_of_careful h).1

end BpmpPlatform.Upstream
