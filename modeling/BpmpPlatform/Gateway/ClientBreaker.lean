import Mathlib
import BpmpPlatform.Library.Runs

/-! # The circuit breaker of the gRPC client

A call is attempted until it succeeds, is refused for good or the caller gives up, and every end but success counts as
a failure.
-/
namespace BpmpPlatform.GrpcClient
open Runs

inductive Code
  | canceled
  | unknown
  | invalidArgument
  | deadlineExceeded
  | notFound
  | alreadyExists
  | permissionDenied
  | resourceExhausted
  | failedPrecondition
  | aborted
  | outOfRange
  | unimplemented
  | internal
  | unavailable
  | dataLoss
  | unauthenticated
  deriving DecidableEq

inductive ContextError
  | canceled
  | deadlineExceeded
  deriving DecidableEq

/-- What a call returns: the status of its last attempt with the state of its context, or the error of the context. -/
inductive CallError
  | status (code : Code) (context : Option ContextError)
  | context (error : ContextError)

/-- A configuration that `Validate` accepts. -/
structure Config where
  maxAttempts : Nat
  failureThreshold : Nat
  openDuration : Nat
  retryableCodes : List Code
  maxAttempts_pos : 0 < maxAttempts
  failureThreshold_pos : 0 < failureThreshold

/-- The status the upstream answers with, none on success, and how the context ended before the attempt or the wait did. -/
structure Attempt where
  error : Option Code
  contextError : Option ContextError
  waitError : Option ContextError

structure Call where
  config : Config
  started : Nat
  ended : Nat
  attempts : Nat → Attempt

/-- The loop over the attempts, with the number of those left. -/
def lastError (retryableCodes : List Code) (attempts : Nat → Attempt) : Nat → Nat → Option CallError
  | _, 0 => none
  | attempt, left + 1 =>
    match (attempts attempt).error with
    | none => none
    | some code =>
      if code ∉ retryableCodes ∨ left = 0 ∨ (attempts attempt).contextError.isSome then
        some (.status code (attempts attempt).contextError)
      else match (attempts attempt).waitError with
        | some error => some (.context error)
        | none => lastError retryableCodes attempts (attempt + 1) left

def Call.error (call : Call) : Option CallError := lastError call.config.retryableCodes call.attempts 1 call.config.maxAttempts

/-- The upstream failed: a status that is retried, or a deadline. -/
def Call.upstreamFailed (call : Call) : CallError → Bool
  | .status code context => (code ∈ call.config.retryableCodes || code == .deadlineExceeded) && context != some .canceled
  | .context error => error == .deadlineExceeded

/-- The count wraps at 32 bits. -/
structure CircuitBreaker where
  fails : Nat := 0
  opened : Option Nat := none
  probe : Bool := false

namespace CircuitBreaker
variable (breaker : CircuitBreaker)

def allow (now openDuration : Nat) : Bool × CircuitBreaker :=
  match breaker.opened with
  | none => (true, breaker)
  | some opened =>
    if now < opened + openDuration ∨ breaker.probe then (false, breaker) else (true, { breaker with probe := true })

def recordSuccess (_breaker : CircuitBreaker) : CircuitBreaker := {}

def recordFailure (now failureThreshold : Nat) : CircuitBreaker where
  fails := (breaker.fails + 1) % 2 ^ 32
  opened := if (breaker.fails + 1) % 2 ^ 32 ≥ failureThreshold then some now else breaker.opened
  probe := false

end CircuitBreaker

/-- The breaker, the calls that it allowed, and for each opening its threshold and these calls; the newest come first. -/
structure Client where
  breaker : CircuitBreaker := {}
  calls : List Call := []
  openings : List (Nat × List Call) := []

def Client.call (client : Client) (call : Call) : Client :=
  let (allowed, breaker) := client.breaker.allow call.started call.config.openDuration
  if allowed then
    let calls := call :: client.calls
    match call.error with
    | none => { client with breaker := breaker.recordSuccess, calls }
    | some _ =>
      let breaker := breaker.recordFailure call.ended call.config.failureThreshold
      { breaker, calls
        openings :=
          if breaker.fails ≥ call.config.failureThreshold then (call.config.failureThreshold, calls) :: client.openings
          else client.openings }
  else client

/-- The call ended with a status that is retried or with a deadline. -/
def Call.failedUpstream (call : Call) : Bool := call.error.any call.upstreamFailed

/-- No attempt is refused with a status that is neither retried nor a deadline, and the caller does not cancel. -/
def Call.Unrefused (call : Call) : Prop := ∀ k code, (call.attempts k).error = some code →
  (code ∈ call.config.retryableCodes ∨ code = .deadlineExceeded) ∧ (call.attempts k).contextError ≠ some .canceled ∧
    (call.attempts k).waitError ≠ some .canceled

theorem Call.Unrefused.upstreamFailed {call : Call} (h : call.Unrefused) {attempt left : Nat} {error : CallError}
    (he : lastError call.config.retryableCodes call.attempts attempt left = some error) :
    call.upstreamFailed error = true := by
  induction left generalizing attempt with
  | zero => cases he
  | succ left ih =>
    rw [lastError] at he
    split at he
    · cases he
    · next code hcode =>
      obtain ⟨hcodes,hcontext,hwait⟩ := h attempt code hcode
      split at he
      · cases he
        simpa [Call.upstreamFailed] using ⟨hcodes,hcontext⟩
      · split at he
        · next ended hended =>
          cases he
          cases ended with
          | canceled => exact absurd hended hwait
          | deadlineExceeded => rfl
        · exact ih he

/-- The call stays below the threshold whatever becomes of it, or neither it nor one of the calls before it that make up the
threshold is refused or cancelled. -/
def Call.Safe (client : Client) (call : Call) : Prop :=
  (client.breaker.allow call.started call.config.openDuration).1 = true →
    client.breaker.fails + 1 < call.config.failureThreshold ∨
      call.Unrefused ∧ ∀ counted ∈ client.calls.take (call.config.failureThreshold - 1), counted.Unrefused

/-- The newest calls, as many as are counted, all failed, and every opening came after enough upstream failures. -/
structure Client.Consecutive (client : Client) : Prop where
  within : client.breaker.fails ≤ client.calls.length
  counted : ∀ call ∈ client.calls.take client.breaker.fails, call.error.isSome = true
  openings : ∀ opening ∈ client.openings, opening.1 ≤ streak (opening.2.map Call.failedUpstream)

theorem Call.Unrefused.failedUpstream {call : Call} (h : call.Unrefused) (he : call.error.isSome = true) :
    call.failedUpstream = true := by
  obtain ⟨error,herror⟩ := Option.isSome_iff_exists.mp he
  rw [Call.failedUpstream, herror]
  exact h.upstreamFailed herror

theorem CircuitBreaker.fails_allow (breaker : CircuitBreaker) (now openDuration : Nat) :
    (breaker.allow now openDuration).2.fails = breaker.fails := by
  unfold allow
  split
  · rfl
  · split <;> rfl

theorem le_streak_map {n : Nat} {calls : List Call} (hn : n ≤ calls.length)
    (h : ∀ call ∈ calls.take n, call.failedUpstream = true) : n ≤ streak (calls.map Call.failedUpstream) := by
  induction calls generalizing n with
  | nil => exact hn.trans (Nat.zero_le _)
  | cons call calls ih =>
    cases n with
    | zero => exact Nat.zero_le _
    | succ n =>
      have hc : call.failedUpstream = true := h call List.mem_cons_self
      have hr := ih (Nat.le_of_succ_le_succ hn) fun c hin => h c (List.mem_cons_of_mem _ hin)
      simpa [streak, hc] using hr

theorem Client.Consecutive.call {client : Client} (h : client.Consecutive) {call : Call} (hsafe : call.Safe client) :
    (client.call call).Consecutive := by
  have hallow := client.breaker.fails_allow call.started call.config.openDuration
  unfold Call.Safe at hsafe
  unfold Client.call
  generalize client.breaker.allow _ _ = allowed at hallow hsafe
  obtain ⟨allowed,breaker⟩ := allowed
  dsimp only at hallow hsafe ⊢
  split
  · next ha =>
    split
    · exact ⟨Nat.zero_le _,fun _ hin => (List.not_mem_nil hin).elim,h.openings⟩
    · next error he =>
      -- the count may wrap, so it is at most one more than before
      have hle : (breaker.recordFailure call.ended call.config.failureThreshold).fails ≤ client.breaker.fails + 1 := by
        rw [← hallow]
        exact Nat.mod_le ..
      have hfailed : ∀ c ∈ (call :: client.calls).take (client.breaker.fails + 1), c.error.isSome = true := by
        rw [List.take_succ_cons, List.forall_mem_cons, he]
        exact ⟨rfl,h.counted⟩
      refine ⟨hle.trans (Nat.succ_le_succ h.within),fun c hin => hfailed c (List.take_subset_take_left _ hle hin),?_⟩
      dsimp only
      split
      · next hopen =>
        refine List.forall_mem_cons.mpr ⟨?_,h.openings⟩
        have hth : call.config.failureThreshold ≤ client.breaker.fails + 1 := hopen.trans hle
        obtain hbelow | ⟨hun,hbefore⟩ := hsafe ha
        · exact absurd hth (Nat.not_le.mpr hbelow)
        · have hunrefused : ∀ c ∈ (call :: client.calls).take call.config.failureThreshold, c.Unrefused := by
            rw [← Nat.sub_add_cancel call.config.failureThreshold_pos, List.take_succ_cons, List.forall_mem_cons]
            exact ⟨hun,hbefore⟩
          refine le_streak_map (hth.trans (Nat.succ_le_succ h.within)) fun c hin => ?_
          exact (hunrefused c hin).failedUpstream (hfailed c (List.take_subset_take_left _ hth hin))
      · exact h.openings
  · exact h

namespace Sample

/-- A call whose only attempt ends as given. -/
def call (failureThreshold : Nat) (h : 0 < failureThreshold) (error : Option Code) (contextError : Option ContextError) : Call :=
  ⟨⟨1, failureThreshold, 10, [.unavailable], by decide, h⟩, 0, 1, fun _ => ⟨error, contextError, none⟩⟩

def failing : Call := call 3 (by decide) (some .unavailable) none

/-- A refused call, a success, a cancelled call and another success, then three calls that fail in the upstream. -/
def mixed : List Call :=
  [call 3 (by decide) (some .notFound) none, call 3 (by decide) none none,
    call 3 (by decide) (some .unavailable) (some .canceled), call 3 (by decide) none none, failing, failing, failing]

end Sample

open Sample

end BpmpPlatform.GrpcClient
