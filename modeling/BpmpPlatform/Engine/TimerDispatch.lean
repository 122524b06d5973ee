import BpmpPlatform.Engine.SignalIsolation
import BpmpPlatform.Library.Joined

/-! # Dispatching due timers

`dispatch_due_timers_once` over the store in memory. A worker may stop after any request, so that its leases run out.
A repeating timer stays on its schedule whatever the workers, their clocks and the dispatcher do.
-/
namespace BpmpPlatform
open Std Outcome MemoryBoundaryState List

inductive BoundaryDispatchSource
  | timer
  | message
  | error
  | externalWorker

structure BoundaryDispatchRequest where
  tenantId : TenantId
  instanceId : InstanceId
  commandId : CommandId
  idempotencyKey : IdempotencyKey
  correlationId : CorrelationId
  command : Command
  source : BoundaryDispatchSource
  occurredAtEpochMs : Nat
  workflowType : WorkflowType
  workflowVersion : WorkflowVersion
  authorizationContextRef : Option String

structure DispatchOutcome where
  dispatched : Nat := 0
  retried : Nat := 0
  deadLettered : Nat := 0

def dispatchRequest (subscription : ProjectedBoundarySubscription) (identity : String) (source : BoundaryDispatchSource)
    (occurredAtEpochMs : Nat) (authorizationContextRef : Option String) :
    Except BoundaryRuntimeError BoundaryDispatchRequest := do
  let commandId ← (Identifier.new .CommandId identity).mapError fun _ => .invalidDispatchIdentity
  let idempotencyKey ← (Identifier.new .IdempotencyKey identity).mapError fun _ => .invalidDispatchIdentity
  let correlationId ← (Identifier.new .CorrelationId identity).mapError fun _ => .invalidDispatchIdentity
  return {
    tenantId := subscription.key.tenantId
    instanceId := subscription.key.instanceId
    commandId := commandId
    idempotencyKey := idempotencyKey
    correlationId := correlationId
    command := .triggerBoundaryEvent subscription.key.boundaryEventId occurredAtEpochMs
    source := source
    occurredAtEpochMs := occurredAtEpochMs
    workflowType := subscription.workflowType
    workflowVersion := subscription.workflowVersion
    authorizationContextRef := authorizationContextRef }

def timerIdentity (armedEventId : String) (generation : Nat) : String := armedEventId ++ ":timer:" ++ toString generation

def timerDispatchRequest (claim : ClaimedTimer) (occurredAtEpochMs : Nat) :
    Except BoundaryRuntimeError BoundaryDispatchRequest :=
  dispatchRequest claim.subscription (timerIdentity claim.subscription.armedEventId claim.generation) .timer
    occurredAtEpochMs none

/-- `timer_completion`: the schedule of the next firing. -/
def timerCompletion (claim : ClaimedTimer) : Except BoundaryRuntimeError (Option TimerSchedule) := do
  let schedule ← okOr .claimWithoutTimer claim.subscription.timerSchedule
  if claim.subscription.cancelActivity then return none
  else
    match schedule.intervalMs with
    | none => return none
    | some interval =>
      if schedule.remainingFirings = some 1 then return none
      else
        let dueAt ← timerAdd schedule.dueAtEpochMs interval
        return some ⟨dueAt, some interval, schedule.remainingFirings.map (· - 1)⟩

def addClock (now delay : Nat) : Except BoundaryRuntimeError Nat := do
  ensure (decide (now + delay ≤ u64Max)) .clockOverflow
  return now + delay

/-- `record_timer_failure`: whether the timer is dead-lettered, and the store. -/
def recordTimerFailure (policy : BoundaryRuntimePolicy) (now : Nat) (claim : ClaimedTimer) (b : MemoryBoundaryState) :
    Except BoundaryRuntimeError (Bool × MemoryBoundaryState) := do
  let deadLetter := decide (policy.maxDispatchAttempts ≤ claim.attempts)
  let retryAt ← addClock now policy.retryDelayMs
  let b ← b.failTimer claim retryAt deadLetter
  return (deadLetter, b)

/-- What becomes of a request: the dispatcher takes or refuses it, or the worker stops before it has recorded
which. -/
inductive DispatchReply
  | delivered
  | refused
  | stopped (delivered : Bool)

inductive TimerAction
  | issued (request : BoundaryDispatchRequest) (delivered : Bool)
  | completed (claim : ClaimedTimer)
  | failed (claim : ClaimedTimer)

section Pass
variable (policy : BoundaryRuntimePolicy) (now : Nat) (dispatch : BoundaryDispatchRequest → DispatchReply)

def dispatchClaim (claim : ClaimedTimer) (outcome : DispatchOutcome) (b : MemoryBoundaryState) :
    List TimerAction × MemoryBoundaryState × Option (Except BoundaryRuntimeError DispatchOutcome) :=
  match timerDispatchRequest claim now with
  | .error error => ([], b, some (.error error))
  | .ok request =>
    match dispatch request with
    | .stopped delivered => ([.issued request delivered], b, none)
    | .delivered =>
      match timerCompletion claim >>= b.completeTimer claim with
      | .error error => ([.issued request true], b, some (.error error))
      | .ok b' => ([.issued request true, .completed claim], b',
          some (.ok { outcome with dispatched := outcome.dispatched + 1 }))
    | .refused =>
      match recordTimerFailure policy now claim b with
      | .error error => ([.issued request false], b, some (.error error))
      | .ok (deadLetter, b') => ([.issued request false, .failed claim], b',
          some (.ok (if deadLetter then { outcome with deadLettered := outcome.deadLettered + 1 }
            else { outcome with retried := outcome.retried + 1 })))

def dispatchClaims : List ClaimedTimer → DispatchOutcome → MemoryBoundaryState →
    List TimerAction × MemoryBoundaryState × Option (Except BoundaryRuntimeError DispatchOutcome)
  | [], outcome, b => ([], b, some (.ok outcome))
  | claim :: claims, outcome, b =>
    match dispatchClaim policy now dispatch claim outcome b with
    | (actions, b', some (.ok outcome')) =>
      let rest := dispatchClaims claims outcome' b'
      (actions ++ rest.1, rest.2)
    | stopped => stopped

def dispatchDueTimersOnce (b : MemoryBoundaryState) :
    List TimerAction × MemoryBoundaryState × Option (Except BoundaryRuntimeError DispatchOutcome) :=
  match addClock now policy.leaseDurationMs with
  | .error error => ([], b, some (.error error))
  | .ok leaseUntil =>
    match b.claimDueTimers now leaseUntil policy.workerId policy.dispatchBatchSize with
    | .error error => ([], b, some (.error error))
    | .ok (claims, b') =>
      if claims.length > policy.dispatchBatchSize then ([], b', some (.error .adapterBatchLimitExceeded))
      else dispatchClaims policy now dispatch claims {} b'

end Pass

def BoundaryDispatchRequest.key (request : BoundaryDispatchRequest) : Option BoundarySubscriptionKey :=
  match request.command with
  | .triggerBoundaryEvent id _ => some ⟨request.tenantId, request.instanceId, id⟩
  | _ => none

structure BoundaryDispatchRequest.Carries (request : BoundaryDispatchRequest) (identity : String) : Prop where
  commandId : request.commandId.value = identity
  idempotencyKey : request.idempotencyKey.value = identity
  correlationId : request.correlationId.value = identity

variable {now : Nat} {request : BoundaryDispatchRequest}

theorem timerDispatchRequest_spec {claim : ClaimedTimer} (h : timerDispatchRequest claim now = .ok request) :
    request.key = some claim.subscription.key ∧ request.occurredAtEpochMs = now ∧
      request.Carries (timerIdentity claim.subscription.armedEventId claim.generation) := by
  simp only [timerDispatchRequest, dispatchRequest, bind_eq_ok, mapError_eq_ok, Identifier.new_eq_ok] at h
  obtain ⟨c,hc,i,hi,r,hr,⟨⟩⟩ := h
  exact ⟨rfl,rfl,hc,hi,hr⟩

/-- Calls of several workers and of the projector. Requests, completions and failures of a claim may come at any
time after it; with `held` a request is issued only while its lease is the latest. The projector does not touch
the boundary event `key`. -/
inductive TimerRun (held : Bool) (key : BoundarySubscriptionKey) (b₀ : MemoryBoundaryState) :
    List (ClaimedTimer × Nat) → List TimerAction → MemoryBoundaryState → Prop
  | start : TimerRun held key b₀ [] [] b₀
  | claim {handed log b b' now leaseUntil workerId limit claims} (h : TimerRun held key b₀ handed log b)
      (hc : b.claimDueTimers now leaseUntil workerId limit = .ok (claims, b')) :
      TimerRun held key b₀ (handed ++ claims.map (·, now)) log b'
  | issue {handed log b claim now request} (h : TimerRun held key b₀ handed log b) (hin : (claim, now) ∈ handed)
      (hr : timerDispatchRequest claim now = .ok request)
      (hheld : held = true →
        ∃ t, b.timers[claim.subscription.key]? = some t ∧ t.leaseVersion = claim.leaseVersion) (delivered : Bool) :
      TimerRun held key b₀ handed (log ++ [.issued request delivered]) b
  | complete {handed log b b' claim now request next} (h : TimerRun held key b₀ handed log b)
      (hin : (claim, now) ∈ handed) (hr : timerDispatchRequest claim now = .ok request)
      (hissued : .issued request true ∈ log) (hn : timerCompletion claim = .ok next)
      (hc : b.completeTimer claim next = .ok b') : TimerRun held key b₀ handed (log ++ [.completed claim]) b'
  | fail {handed log b b' policy claim now deadLetter} (h : TimerRun held key b₀ handed log b)
      (hin : (claim, now) ∈ handed) (hf : recordTimerFailure policy now claim b = .ok (deadLetter, b')) :
      TimerRun held key b₀ handed (log ++ [.failed claim]) b'
  | project {handed log b b' expected committed mutations} (h : TimerRun held key b₀ handed log b)
      (hp : b.applyProjection expected committed mutations = .ok b') (hsame : b'.timers[key]? = b.timers[key]?) :
      TimerRun held key b₀ handed log b'
  | signals {handed log b b'} (h : TimerRun held key b₀ handed log b) (hsame : b'.timers = b.timers) :
      TimerRun held key b₀ handed log b'

def Holds (b : MemoryBoundaryState) (claim : ClaimedTimer) : Prop :=
  ∃ t, b.timers[claim.subscription.key]? = some t ∧ t.leaseVersion = claim.leaseVersion

def AtIssue (P : List TimerAction → BoundaryDispatchRequest → Prop) (log : List TimerAction) : Prop :=
  ∀ before request delivered after, log = before ++ .issued request delivered :: after → P before request

variable {P : List TimerAction → BoundaryDispatchRequest → Prop} {action : TimerAction}

theorem AtIssue.append {log : List TimerAction} (h : AtIssue P log)
    (hac : ∀ request delivered, action = .issued request delivered → P log request) :
    AtIssue P (log ++ [action]) := by
  intro before request delivered after heq
  rcases eq_nil_or_concat after with rfl | ⟨after',last,rfl⟩
  · obtain ⟨rfl,hl⟩ := append_inj_left' heq rfl, append_inj_right' heq rfl
    cases hl
    exact hac request delivered rfl
  · rw [concat_eq_append, ← cons_append, ← append_assoc] at heq
    exact h before request delivered after' (append_inj_left' heq rfl)

variable {claims : List ClaimedTimer}

section Schedule
variable {s : ProjectedBoundarySubscription} {d i j : Nat} {n : Option Nat} {held deadLetter : Bool}
  {b₀ b b' : MemoryBoundaryState} {handed : List (ClaimedTimer × Nat)} {log : List TimerAction}
  {key : BoundarySubscriptionKey} {next : Option TimerSchedule} {policy : BoundaryRuntimePolicy}

structure Scheduled (s : ProjectedBoundarySubscription) (d i : Nat) (n : Option Nat) (generation : Nat)
    (subscription : ProjectedBoundarySubscription) : Prop where
  subscription_eq : subscription =
    { s with timerSchedule := some ⟨d + generation * i, some i, n.map (· - generation)⟩ }
  lt : ∀ r, n = some r → generation < r

def Delivered (s : ProjectedBoundarySubscription) (generation : Nat) (log : List TimerAction) : Prop :=
  ∃ request, .issued request true ∈ log ∧ request.key = some s.key ∧
    request.Carries (timerIdentity s.armedEventId generation)

def TimerAction.completes (key : BoundarySubscriptionKey) : TimerAction → Bool
  | .completed claim => claim.subscription.key == key
  | _ => false

def completions (key : BoundarySubscriptionKey) (log : List TimerAction) : Nat := log.countP (TimerAction.completes key)

structure OnSchedule (s : ProjectedBoundarySubscription) (d i : Nat) (n : Option Nat)
    (handed : List (ClaimedTimer × Nat)) (log : List TimerAction) (b : MemoryBoundaryState) : Prop where
  keyed : TimersKeyed b
  timer : ∀ t, b.timers[s.key]? = some t → Scheduled s d i n t.generation t.subscription ∧
    d + t.generation * i ≤ t.availableAtEpochMs ∧ ∀ j < t.generation, Delivered s j log
  claims : ∀ claim now, (claim, now) ∈ handed → claim.subscription.key = s.key →
    Scheduled s d i n claim.generation claim.subscription ∧ d + claim.generation * i ≤ now ∧
      ∀ j < claim.generation, Delivered s j log
  count : ∀ r, n = some r → completions s.key log = (b.timers[s.key]?.map MemoryTimerRecord.generation).getD r

theorem Delivered.append (h : Delivered s j log) (actions : List TimerAction) : Delivered s j (log ++ actions) := by
  obtain ⟨request,hin,hr⟩ := h
  exact ⟨request,mem_append_left _ hin,hr⟩

theorem completions_append (h : action.completes key = false) :
    completions key (log ++ [action]) = completions key log := by
  simp [completions, h]

section
variable (h : OnSchedule s d i n handed log b)
include h

theorem OnSchedule.log_append (hac : action.completes s.key = false) :
    OnSchedule s d i n handed (log ++ [action]) b where
  keyed := h.keyed
  timer t ht := ⟨(h.timer t ht).1,(h.timer t ht).2.1,fun j hj => ((h.timer t ht).2.2 j hj).append _⟩
  claims claim now hin hkey := ⟨(h.claims claim now hin hkey).1,(h.claims claim now hin hkey).2.1,
    fun j hj => ((h.claims claim now hin hkey).2.2 j hj).append _⟩
  count r hr := by
    rw [completions_append hac]
    exact h.count r hr

theorem OnSchedule.frame (hk : TimersKeyed b')
    (hs : b'.timers[s.key]? = b.timers[s.key]?) : OnSchedule s d i n handed log b' where
  keyed := hk
  timer t ht := h.timer t (hs ▸ ht)
  claims := h.claims
  count r hr := by
    rw [hs]
    exact h.count r hr

/-- A change of the timer that keeps its firing and its due time. -/
theorem OnSchedule.update (hk : TimersKeyed b') {t t' : MemoryTimerRecord}
    (ht : b.timers[s.key]? = some t) (ht' : b'.timers[s.key]? = some t') (hsu : t'.subscription = t.subscription)
    (hg : t'.generation = t.generation) (hav : d + t.generation * i ≤ t'.availableAtEpochMs) :
    OnSchedule s d i n handed log b' where
  keyed := hk
  timer t₁ ht₁ := by
    rw [ht', Option.some.injEq] at ht₁
    subst ht₁
    rw [hg, hsu]
    exact ⟨(h.timer t ht).1,hav,(h.timer t ht).2.2⟩
  claims := h.claims
  count r hr := by
    rw [h.count r hr, ht, ht', Option.map_some, Option.map_some, hg]

end

theorem OnSchedule.claim (h : OnSchedule s d i n handed log b) {leaseUntil limit : Nat} {workerId : String}
    (hc : b.claimDueTimers now leaseUntil workerId limit = .ok (claims, b')) :
    OnSchedule s d i n (handed ++ claims.map (·, now)) log b' := by
  obtain ⟨hkeys,htm,hcl,-⟩ := claimAll_spec h.keyed (nodup_due ..) hc
  have hke : TimersKeyed b' := (memory_leaseFenced.claim h.keyed hc).1
  -- the timer is as it was, up to its lease
  have hold : OnSchedule s d i n handed log b' := by
    by_cases hin : s.key ∈ (b.dueKeys now).take limit
    · have hk := htm s.key
      rw [if_pos hin] at hk
      obtain ⟨t,ht,_⟩ := mem_keysWhere.mp (mem_of_mem_take hin)
      rw [ht] at hk
      exact h.update hke ht hk rfl rfl (h.timer t ht).2.1
    · have hk := htm s.key
      rw [if_neg hin] at hk
      exact h.frame hke hk
  refine ⟨hke,hold.timer,fun claim now' hin hkey => ?_,hold.count⟩
  rcases mem_append.mp hin with hin | hin
  · exact h.claims claim now' hin hkey
  · obtain ⟨c,hc',heq⟩ := mem_map.mp hin
    cases heq
    obtain ⟨t,ht,hcla⟩ := hcl claim hc'
    rw [hkey] at ht
    have hdue : s.key ∈ (b.dueKeys now).take limit := by
      rw [← hkeys, ← hkey]
      exact mem_map_of_mem hc'
    obtain ⟨old,hget,his⟩ := mem_keysWhere.mp (mem_of_mem_take hdue)
    have hk := htm s.key
    rw [if_pos hdue, hget, ht] at hk
    cases hk
    rw [hcla]
    have hti := h.timer old hget
    simp only [isDue, Bool.and_eq_true, decide_eq_true_eq] at his
    exact ⟨hti.1,Nat.le_trans hti.2.1 his.1.2,hti.2.2⟩

theorem timerCompletion_scheduled {claim : ClaimedTimer} (hca : s.cancelActivity = false)
    (h : Scheduled s d i n claim.generation claim.subscription) (hn : timerCompletion claim = .ok next) :
    (next = none ∧ n = some (claim.generation + 1)) ∨
      (next = some ⟨d + (claim.generation + 1) * i, some i, n.map (· - (claim.generation + 1))⟩ ∧
        n ≠ some (claim.generation + 1) ∧ d + (claim.generation + 1) * i ≤ u64Max) := by
  have hdue : d + claim.generation * i + i = d + (claim.generation + 1) * i := by
    rw [Nat.add_mul, Nat.one_mul, Nat.add_assoc]
  have hone : n.map (· - claim.generation) = some 1 ↔ n = some (claim.generation + 1) := by
    cases n with
    | none => simp
    | some r =>
      have hlt := h.lt r rfl
      simp only [Option.map_some, Option.some.injEq]
      omega
  simp only [timerCompletion, h.subscription_eq, okOr, ok_bind, hca, Bool.false_eq_true, if_false] at hn
  split at hn
  · rename_i hl
    cases hn
    exact .inl ⟨rfl,hone.mp hl⟩
  · rename_i hl
    simp only [timerAdd, bind_eq_ok, ensure_eq_ok, decide_eq_true_eq, pure_eq_ok] at hn
    obtain ⟨_,⟨_,hb,rfl⟩,rfl⟩ := hn
    refine .inr ⟨?_,fun heq => hl (hone.mpr heq),hdue ▸ hb⟩
    rw [hdue, Option.map_map]
    simp [Function.comp_def, Nat.sub_sub]

theorem recordTimerFailure_fails {claim : ClaimedTimer}
    (h : recordTimerFailure policy now claim b = .ok (deadLetter, b')) :
    b.failTimer claim (now + policy.retryDelayMs) deadLetter = .ok b' := by
  simp only [recordTimerFailure, addClock, bind_eq_ok, ensure_eq_ok, pure_eq_ok] at h
  obtain ⟨_,⟨_,_,rfl⟩,_,hf,⟨⟩⟩ := h
  exact hf

theorem OnSchedule.fail (h : OnSchedule s d i n handed log b) {claim : ClaimedTimer} (hin : (claim, now) ∈ handed)
    (hf : recordTimerFailure policy now claim b = .ok (deadLetter, b')) :
    OnSchedule s d i n handed (log ++ [.failed claim]) b' := by
  have hfa := recordTimerFailure_fails hf
  have hk := (memory_leaseFenced.fail h.keyed hfa).1
  obtain ⟨t,hl,htm⟩ := failTimer_timers hfa
  obtain ⟨ht,_,hg,_⟩ := leasedTimer_eq_ok.mp hl
  have hti' := htm s.key
  refine OnSchedule.log_append ?_ rfl
  by_cases hkey : claim.subscription.key = s.key
  · rw [if_pos hkey] at hti'
    rw [hkey] at ht
    refine h.update hk ht hti' rfl rfl ?_
    have hnow := (h.claims claim now hin hkey).2.1
    rw [hg]
    exact Nat.le_trans hnow (Nat.le_add_right _ _)
  · rw [if_neg hkey] at hti'
    exact h.frame hk hti'

theorem onSchedule_armed (hk : TimersKeyed b) (hsc : s.timerSchedule = some ⟨d, some i, n⟩)
    (hpos : ∀ r, n = some r → 0 < r) (har : b.timers[s.key]? = some (freshTimer s ⟨d, some i, n⟩)) :
    OnSchedule s d i n [] [] b := by
  refine ⟨hk,fun t ht => ?_,fun _ _ hin => absurd hin not_mem_nil,fun r hr => ?_⟩
  · rw [har, Option.some.injEq] at ht
    subst ht
    refine ⟨⟨?_,hpos⟩,?_,fun j hj => absurd hj (Nat.not_lt_zero j)⟩
    · simp only [freshTimer, Nat.zero_mul, Nat.add_zero, Nat.sub_zero, Option.map_id']
      rw [← hsc]
    · simp [freshTimer]
  · rw [har]
    rfl

/-- What holds of a request of the timer when it is issued: it carries the identity of a firing within the
repetitions, it is not early, and every firing before it has been delivered. -/
def Timely (s : ProjectedBoundarySubscription) (d i : Nat) (n : Option Nat) (before : List TimerAction)
    (request : BoundaryDispatchRequest) : Prop :=
  request.key = some s.key → ∃ k, (∀ k', request.Carries (timerIdentity s.armedEventId k') ↔ k' = k) ∧
    (∀ r, n = some r → k < r) ∧ d + k * i ≤ request.occurredAtEpochMs ∧ ∀ j < k, Delivered s j before

theorem timerIdentity_injective {armedEventId : String} {k : Nat}
    (h : timerIdentity armedEventId j = timerIdentity armedEventId k) : j = k := by
  have hl := congrArg String.toList h
  simp only [timerIdentity, String.toList_append, append_cancel_left_eq] at hl
  exact Joined.toString_injective (String.toList_inj.mp hl)

/-- A property of every request of a run is proved where the request is issued. -/
theorem TimerRun.atIssue
    (hi : ∀ {handed log b claim now request}, TimerRun held key b₀ handed log b → (claim, now) ∈ handed →
      timerDispatchRequest claim now = .ok request → (held = true → Holds b claim) → P log request)
    (h : TimerRun held key b₀ handed log b) : AtIssue P log := by
  induction h with
  | start => intro before request delivered after heq; simp at heq
  | claim _ _ ih => exact ih
  | issue h hin hr hh _ ih =>
    refine ih.append fun request' delivered' heq => ?_
    cases heq
    exact hi h hin hr hh
  | complete _ _ _ _ _ _ ih | fail _ _ _ ih => exact ih.append fun _ _ heq => by cases heq
  | project _ _ _ ih | signals _ _ ih => exact ih

section
variable (hn : ∀ r, n = some r → r ≤ u32Max)
include hn

/-- The generation counts firings; where it could saturate, the schedule no longer moves. -/
theorem generation_next {g : Nat} (hlt : ∀ r, n = some r → g < r) (hb : d + (g + 1) * i ≤ u64Max) :
    saturatingSucc u64Max g ≤ g + 1 ∧ saturatingSucc u64Max g * i = (g + 1) * i ∧
      ∀ r, n = some r → saturatingSucc u64Max g = g + 1 := by
  by_cases hg : g < u64Max
  · rw [saturatingSucc, if_pos hg]
    exact ⟨Nat.le_refl _,rfl,fun _ _ => rfl⟩
  · rw [saturatingSucc, if_neg hg]
    refine ⟨Nat.le_succ g,?_,fun r hr => ?_⟩
    · rcases Nat.eq_zero_or_pos i with rfl | hi
      · rfl
      · have hmul : g + 1 ≤ (g + 1) * i := Nat.le_mul_of_pos_right _ hi
        omega
    · have hr' := hn r hr
      have hgr := hlt r hr
      unfold u32Max at hr'
      unfold u64Max at hg
      omega

variable (hcan : s.cancelActivity = false)
include hcan

theorem OnSchedule.complete (h : OnSchedule s d i n handed log b) {claim : ClaimedTimer} (hin : (claim, now) ∈ handed)
    (hr : timerDispatchRequest claim now = .ok request) (his : .issued request true ∈ log)
    (hnex : timerCompletion claim = .ok next) (hc : b.completeTimer claim next = .ok b') :
    OnSchedule s d i n handed (log ++ [.completed claim]) b' := by
  have hk : TimersKeyed b' := (memory_leaseFenced.complete h.keyed hc).1
  obtain ⟨t,hl,htm⟩ := completeTimer_timers hc
  obtain ⟨ht,_,hgen,_⟩ := leasedTimer_eq_ok.mp hl
  have hti' := htm s.key
  by_cases hkey : claim.subscription.key = s.key
  · rw [if_pos hkey] at hti'
    rw [hkey] at ht
    obtain ⟨hsch,_,hde⟩ := h.timer t ht
    obtain ⟨hcl,_,_⟩ := h.claims claim now hin hkey
    have hnex := timerCompletion_scheduled hcan hcl hnex
    rw [← hgen] at hcl hnex
    refine ⟨hk,fun t' ht' => ?_,fun claim' now' hin' hkey' => ?_,fun r hr => ?_⟩
    · rcases hnex with ⟨rfl,_⟩ | ⟨rfl,hno,hb⟩
      · -- after the last firing the timer is gone
        rw [hti'] at ht'
        cases ht'
      · rw [hti'] at ht'
        cases ht'
        obtain ⟨hle,hmul,hsu⟩ := generation_next hn hsch.lt hb
        have hrem : n.map (· - (t.generation + 1)) = n.map (· - saturatingSucc u64Max t.generation) :=
          Option.map_congr fun r hr => by rw [hsu r hr]
        refine ⟨⟨?_,fun r hr => ?_⟩,?_,fun j hj => ?_⟩
        · simp only [rescheduled, hmul, hrem]
          rw [hsch.subscription_eq]
        · have hlt := hsch.lt r hr
          have hne : r ≠ t.generation + 1 := fun heq => hno (heq ▸ hr)
          simp only [rescheduled]
          omega
        · simp only [rescheduled, hmul]
          exact Nat.le_refl _
        · simp only [rescheduled] at hj
          by_cases hla : j = t.generation
          · obtain ⟨hreq,_,hca⟩ := timerDispatchRequest_spec hr
            rw [hcl.subscription_eq, ← hgen, ← hla] at hca
            exact ⟨request,mem_append_left _ his,hkey ▸ hreq,hca⟩
          · exact (hde j (by omega)).append _
    · obtain ⟨hs,hnow,hd⟩ := h.claims claim' now' hin' hkey'
      exact ⟨hs,hnow,fun j hj => (hd j hj).append _⟩
    · have hcnt := h.count r hr
      rw [ht] at hcnt
      simp only [completions, countP_append, countP_singleton, TimerAction.completes, hkey, beq_self_eq_true,
        if_true] at hcnt ⊢
      rw [hcnt, hti']
      rcases hnex with ⟨rfl,hla⟩ | ⟨rfl,_,hb⟩
      · rw [hr, Option.some.injEq] at hla
        exact hla.symm
      · exact ((generation_next hn hsch.lt hb).2.2 r hr).symm
  · rw [if_neg hkey] at hti'
    exact (h.log_append (by simp [TimerAction.completes, hkey])).frame hk hti'

variable (h₀ : OnSchedule s d i n [] [] b₀)
include h₀

theorem TimerRun.onSchedule (h : TimerRun held s.key b₀ handed log b) : OnSchedule s d i n handed log b := by
  induction h with
  | start => exact h₀
  | claim _ hc ih => exact ih.claim hc
  | issue _ _ _ _ _ ih => exact ih.log_append rfl
  | complete _ hin hr his hne hc ih => exact ih.complete hn hcan hin hr his hne hc
  | fail _ hin hf ih => exact ih.fail hin hf
  | project _ hp hs ih => exact ih.frame (memory_leaseFenced.project ih.keyed hp).1 hs
  | signals _ hs ih =>
    refine ih.frame (fun k t ht => ih.keyed k t (hs ▸ ht)) ?_
    rw [hs]

theorem TimerRun.timely (h : TimerRun held s.key b₀ handed log b) : AtIssue (Timely s d i n) log := by
  refine h.atIssue fun {_ _ _ claim now _} h hin hr _ hkey => ?_
  obtain ⟨hreq,ht,hca⟩ := timerDispatchRequest_spec hr
  rw [hreq, Option.some.injEq] at hkey
  obtain ⟨hs,hnow,hde⟩ := (h.onSchedule hn hcan h₀).claims claim now hin hkey
  rw [hs.subscription_eq] at hca
  refine ⟨claim.generation,fun k' => ⟨fun h' => ?_,?_⟩,hs.lt,ht ▸ hnow,hde⟩
  · exact timerIdentity_injective (h'.commandId.symm.trans hca.commandId)
  · rintro rfl
    exact hca

/-- A worker that holds the lease issues no request after the last completion. -/
theorem TimerRun.unfinished (h : TimerRun true s.key b₀ handed log b) :
    AtIssue (fun before request => request.key = some s.key → ∀ r, n = some r → completions s.key before < r) log := by
  refine h.atIssue fun h _ hr hh hkey r hr' => ?_
  rw [(timerDispatchRequest_spec hr).1, Option.some.injEq] at hkey
  obtain ⟨t,ht,_⟩ := hh rfl
  have hsc := h.onSchedule hn hcan h₀
  rw [hkey] at ht
  rw [hsc.count r hr', ht]
  exact (hsc.timer t ht).1.lt r hr'

end

end Schedule

/-- Calls of `dispatch_due_timers_once` one after another, each with its policy, its clock reading and any
replies of the dispatcher, and projections that do not touch the boundary event. -/
inductive TimerCalls (key : BoundarySubscriptionKey) (b₀ : MemoryBoundaryState) :
    List TimerAction → MemoryBoundaryState → Prop
  | start : TimerCalls key b₀ [] b₀
  | call {log b policy now dispatch actions b' result} (h : TimerCalls key b₀ log b)
      (hc : dispatchDueTimersOnce policy now dispatch b = (actions, b', result)) : TimerCalls key b₀ (log ++ actions) b'
  | project {log b b' expected committed mutations} (h : TimerCalls key b₀ log b)
      (hp : b.applyProjection expected committed mutations = .ok b') (hsame : b'.timers[key]? = b.timers[key]?) :
      TimerCalls key b₀ log b'
  | signals {log b b'} (h : TimerCalls key b₀ log b) (hsame : b'.timers = b.timers) : TimerCalls key b₀ log b'

section Calls
variable {key : BoundarySubscriptionKey} {b₀ b b' : MemoryBoundaryState} {handed : List (ClaimedTimer × Nat)}
  {log actions : List TimerAction} {policy : BoundaryRuntimePolicy} {now : Nat}
  {dispatch : BoundaryDispatchRequest → DispatchReply} {outcome : DispatchOutcome}
  {result : Option (Except BoundaryRuntimeError DispatchOutcome)}

section
variable (h : TimerRun true key b₀ handed log b)
include h

theorem dispatchClaim_run {claim : ClaimedTimer} (hin : (claim, now) ∈ handed)
    (hh : Holds b claim) (hc : dispatchClaim policy now dispatch claim outcome b = (actions, b', result)) :
    TimerRun true key b₀ handed (log ++ actions) b' ∧
      ∀ k, claim.subscription.key ≠ k → b'.timers[k]? = b.timers[k]? := by
  unfold dispatchClaim at hc
  split at hc
  · cases hc
    exact ⟨by simpa using h,fun _ _ => rfl⟩
  · rename_i request hr
    have his := fun delivered => h.issue hin hr (fun _ => hh) delivered
    split at hc
    · cases hc
      exact ⟨his _,fun _ _ => rfl⟩
    · split at hc
      · cases hc
        exact ⟨his _,fun _ _ => rfl⟩
      · rename_i b₁ hco
        cases hc
        obtain ⟨next,hn,hco⟩ := bind_eq_ok.mp hco
        refine ⟨?_,fun k hk => ?_⟩
        · have hrun := (his true).complete hin hr (mem_append_right _ mem_cons_self) hn hco
          rw [append_assoc] at hrun
          exact hrun
        · obtain ⟨t,_,htm⟩ := completeTimer_timers hco
          rw [htm, if_neg hk]
    · split at hc
      · cases hc
        exact ⟨his _,fun _ _ => rfl⟩
      · rename_i deadLetter b₁ hf
        cases hc
        refine ⟨?_,fun k hk => ?_⟩
        · have hrun := (his false).fail hin hf
          rw [append_assoc] at hrun
          exact hrun
        · obtain ⟨t,_,htm⟩ := failTimer_timers (recordTimerFailure_fails hf)
          rw [htm, if_neg hk]

/-- The loop of a call is a run in which the worker holds its leases. -/
theorem dispatchClaims_run (hin : ∀ c ∈ claims, (c, now) ∈ handed)
    (hnd : (claims.map fun c => c.subscription.key).Nodup) (hh : ∀ c ∈ claims, Holds b c)
    (hc : dispatchClaims policy now dispatch claims outcome b = (actions, b', result)) :
    TimerRun true key b₀ handed (log ++ actions) b' := by
  induction claims generalizing log b outcome actions with
  | nil =>
    cases hc
    simpa using h
  | cons claim claims ih =>
    rw [map_cons, nodup_cons] at hnd
    rw [dispatchClaims] at hc
    have hf := hin claim mem_cons_self
    split at hc
    · rename_i actions₁ b₁ outcome₁ hcl
      obtain ⟨hrun,hs⟩ := dispatchClaim_run h hf (hh claim mem_cons_self) hcl
      have hot (c : ClaimedTimer) (hc : c ∈ claims) : Holds b₁ c := by
        obtain ⟨t,ht,hv⟩ := hh c (mem_cons_of_mem _ hc)
        have hne : claim.subscription.key ≠ c.subscription.key := fun heq =>
          hnd.1 (heq ▸ mem_map_of_mem hc)
        exact ⟨t,(hs _ hne).trans ht,hv⟩
      rcases hr : dispatchClaims policy now dispatch claims outcome₁ b₁ with ⟨actions₂,b₂,result₂⟩
      rw [hr] at hc
      cases hc
      have hfi := ih hrun (fun c hc => hin c (mem_cons_of_mem _ hc)) hnd.2 hot hr
      rw [append_assoc] at hfi
      exact hfi
    · exact (dispatchClaim_run h hf (hh claim mem_cons_self) hc).1

theorem dispatchDueTimersOnce_run (hk : TimersKeyed b)
    (hc : dispatchDueTimersOnce policy now dispatch b = (actions, b', result)) :
    ∃ handed', TimerRun true key b₀ handed' (log ++ actions) b' := by
  unfold dispatchDueTimersOnce at hc
  split at hc
  · cases hc
    exact ⟨handed,by simpa using h⟩
  · split at hc
    · cases hc
      exact ⟨handed,by simpa using h⟩
    · rename_i claims b₁ hcl
      have hrun := h.claim hcl
      split at hc
      · cases hc
        exact ⟨_,by simpa using hrun⟩
      · obtain ⟨_,hnd,_,_⟩ := memory_leaseFenced.claim hk hcl
        have hle (c : ClaimedTimer) (hc : c ∈ claims) : Holds b₁ c := by
          have hver := (memory_leaseFenced.claim hk hcl).2.2.1 c hc
          obtain ⟨t,ht,hv⟩ := Option.map_eq_some_iff.mp hver
          exact ⟨t,ht,hv⟩
        exact ⟨_,dispatchClaims_run hrun (fun c hc => mem_append_right _ (mem_map_of_mem hc)) hnd hle hc⟩

end

theorem TimerCalls.run (hk : ∀ {handed log b}, TimerRun true key b₀ handed log b → TimersKeyed b)
    (h : TimerCalls key b₀ log b) : ∃ handed, TimerRun true key b₀ handed log b := by
  induction h with
  | start => exact ⟨[],.start⟩
  | call _ hc ih =>
    obtain ⟨handed,hrun⟩ := ih
    exact dispatchDueTimersOnce_run hrun (hk hrun) hc
  | project _ hp hs ih =>
    obtain ⟨handed,hrun⟩ := ih
    exact ⟨handed,hrun.project hp hs⟩
  | signals _ hs ih =>
    obtain ⟨handed,hrun⟩ := ih
    exact ⟨handed,hrun.signals hs⟩

end Calls

/-- The timer fires on its schedule: its requests are timely, and its due time is that of its firing, whatever
was retried. -/
structure FiresOnSchedule (s : ProjectedBoundarySubscription) (d i : Nat) (n : Option Nat) (log : List TimerAction)
    (b : MemoryBoundaryState) : Prop where
  timely : AtIssue (Timely s d i n) log
  schedule : ∀ t, b.timers[s.key]? = some t →
    t.subscription.timerSchedule = some ⟨d + t.generation * i, some i, n.map (· - t.generation)⟩

namespace Sample

def twice : ProjectedBoundarySubscription :=
  { reminder "armed" with
    trigger := .timer .cycle "R2/PT0.01S"
    timerSchedule := some ⟨5, some 10, some 2⟩ }

def once : ProjectedBoundarySubscription :=
  { reminder "armed" with
    trigger := .timer .cycle "R1/PT0.01S"
    timerSchedule := some ⟨5, some 10, some 1⟩ }

def deliverAt (now : Nat) (b : MemoryBoundaryState) :
    List TimerAction × MemoryBoundaryState × Option (Except BoundaryRuntimeError DispatchOutcome) :=
  dispatchDueTimersOnce boundaryPolicy now (fun _ => .delivered) b

def firings (b : MemoryBoundaryState) : List TimerAction × MemoryBoundaryState :=
  let first := deliverAt 5 b
  let second := deliverAt 15 first.2.1
  (first.1 ++ second.1, second.2.1)

end Sample

open Sample

end BpmpPlatform
