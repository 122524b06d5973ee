import BpmpPlatform.Engine.BoundaryRocks

/-! # Timer leases

Both boundary stores fence the worker of a timer by the lease version of its record. The version grows with every
claim, but a record that is armed again starts over.
-/
namespace BpmpPlatform
open Std Outcome Storage MemoryBoundaryState BoundaryDb BoundarySubscriptionKey List

/-- What has happened to the timers: boundary events armed, claims handed out. -/
inductive TimerEvent
  | armed (subscription : ProjectedBoundarySubscription)
  | claimed (claim : ClaimedTimer)

def TimerEvent.key : TimerEvent → BoundarySubscriptionKey
  | .armed subscription => subscription.key
  | .claimed claim => claim.subscription.key

def TimerEvent.isArming : TimerEvent → Bool
  | .armed _ => true
  | .claimed _ => false

def BoundaryProjectionMutation.arming : BoundaryProjectionMutation → Option TimerEvent
  | .upsert subscription => some (.armed subscription)
  | _ => none

/-- Calls of any number of workers and of the projector in any order, from a store on. A call that fails
changes nothing. -/
inductive Timing {S : Type} (port : TimerStorePort S) (s₀ : S) : List TimerEvent → S → Prop
  | start : Timing port s₀ [] s₀
  | project {events s s' expected committed mutations} (h : Timing port s₀ events s)
      (hp : port.applyProjection s expected committed mutations = .ok s') :
      Timing port s₀ (events ++ mutations.filterMap BoundaryProjectionMutation.arming) s'
  | claim {events s s' now leaseUntil workerId limit claims} (h : Timing port s₀ events s)
      (hc : port.claimDueTimers s now leaseUntil workerId limit = .ok (claims, s')) :
      Timing port s₀ (events ++ claims.map .claimed) s'
  | complete {events s s' claim nextSchedule} (h : Timing port s₀ events s)
      (hc : port.completeTimer s claim nextSchedule = .ok s') : Timing port s₀ events s'
  | fail {events s s' claim retryAt deadLetter} (h : Timing port s₀ events s)
      (hf : port.failTimer s claim retryAt deadLetter = .ok s') : Timing port s₀ events s'

structure LeaseFenced {S : Type} (port : TimerStorePort S) (wellFormed : S → Prop)
    (version : S → BoundarySubscriptionKey → Option Nat) : Prop where
  project : ∀ {s s' expected committed mutations}, wellFormed s →
    port.applyProjection s expected committed mutations = .ok s' → wellFormed s' ∧
      ∀ k, (∀ e ∈ mutations.filterMap BoundaryProjectionMutation.arming, e.key ≠ k) →
        version s' k = version s k ∨ version s' k = none
  claim : ∀ {s s' now leaseUntil workerId limit claims}, wellFormed s →
    port.claimDueTimers s now leaseUntil workerId limit = .ok (claims, s') → wellFormed s' ∧
      (claims.map fun c => c.subscription.key).Nodup ∧
      (∀ c ∈ claims, version s' c.subscription.key = some c.leaseVersion) ∧
      ∀ k, (version s' k = version s k ∧ ∀ c ∈ claims, c.subscription.key ≠ k) ∨
        version s' k = (version s k).map (saturatingSucc u64Max)
  complete : ∀ {s s' claim nextSchedule}, wellFormed s → port.completeTimer s claim nextSchedule = .ok s' →
    wellFormed s' ∧ version s claim.subscription.key = some claim.leaseVersion ∧
      ∀ k, version s' k = version s k ∨ version s' k = none
  fail : ∀ {s s' claim retryAt deadLetter}, wellFormed s → port.failTimer s claim retryAt deadLetter = .ok s' →
    wellFormed s' ∧ version s claim.subscription.key = some claim.leaseVersion ∧
      ∀ k, version s' k = version s k ∨ version s' k = none

/-- A claim completes or fails its timer only if no claim on the boundary event has been made since, as long
as the boundary event has not been armed again and the lease version has not reached its limit. -/
def LeaseFences {S : Type} (port : TimerStorePort S) (empty : S) : Prop :=
  ∀ {before after : List TimerEvent} {s s₁ s₂ : S} {now leaseUntil : Nat} {workerId : String} {limit : Nat}
    {claims : List ClaimedTimer} {claim : ClaimedTimer}, Timing port empty before s →
    port.claimDueTimers s now leaseUntil workerId limit = .ok (claims, s₁) → claim ∈ claims →
    Timing port s₁ after s₂ →
    (∀ e ∈ after, e.isArming = true → e.key ≠ claim.subscription.key) → claim.leaseVersion < u64Max →
    ((∃ nextSchedule s₃, port.completeTimer s₂ claim nextSchedule = .ok s₃) ∨
      ∃ retryAt deadLetter s₃, port.failTimer s₂ claim retryAt deadLetter = .ok s₃) →
    (∀ c ∈ claims, c.subscription.key = claim.subscription.key → c = claim) ∧
      ∀ e ∈ after, e.key ≠ claim.subscription.key

section Runs
variable {S : Type} {port : TimerStorePort S} {valid : S → Prop}
  {version : S → BoundarySubscriptionKey → Option Nat} {s₀ s : S} {events : List TimerEvent}

theorem Timing.invariant (hpo : LeaseFenced port valid version) (h₀ : valid s₀) (h : Timing port s₀ events s) : valid s := by
  induction h with
  | start => exact h₀
  | project _ hp ih => exact (hpo.project ih hp).1
  | claim _ hc ih => exact (hpo.claim ih hc).1
  | complete _ hc ih => exact (hpo.complete ih hc).1
  | fail _ hf ih => exact (hpo.fail ih hf).1

/-- The version of a record some time after a claim: the claim's, with no claim since, or a later one. -/
def Guarded (claim : ClaimedTimer) (after : List TimerEvent) (current : Option Nat) : Prop :=
  ∀ v, current = some v →
    (v = claim.leaseVersion ∧ ∀ e ∈ after, e.key ≠ claim.subscription.key) ∨ claim.leaseVersion < v ∨ u64Max ≤ v

variable {claim : ClaimedTimer} {after added : List TimerEvent} {current current' : Option Nat}

section
variable (h : Guarded claim after current)
include h

theorem Guarded.keep (hc : current' = current ∨ current' = none) : Guarded claim after current' := by
  intro v hv
  rcases hc with rfl | rfl
  · exact h v hv
  · cases hv

theorem Guarded.append (had : ∀ e ∈ added, e.key ≠ claim.subscription.key) :
    Guarded claim (after ++ added) current := by
  intro v hv
  rcases h v hv with ⟨heq,ha⟩ | hl
  · exact .inl ⟨heq,forall_mem_append.mpr ⟨ha,had⟩⟩
  · exact .inr hl

theorem Guarded.raise (hc : current' = current.map (saturatingSucc u64Max)) :
    Guarded claim (after ++ added) current' := by
  intro v hv
  rw [hc] at hv
  obtain ⟨w,rfl,rfl⟩ := Option.map_eq_some_iff.mp hv
  refine .inr ?_
  unfold saturatingSucc
  rcases h w rfl with ⟨rfl,_⟩ | hl | hlim
  · split <;> omega
  · split <;> omega
  · split <;> omega

end

theorem Timing.guarded (hpo : LeaseFenced port valid version) (hs : valid s₀)
    (hcl : version s₀ claim.subscription.key = some claim.leaseVersion) (h : Timing port s₀ after s)
    (har : ∀ e ∈ after, e.isArming = true → e.key ≠ claim.subscription.key) :
    Guarded claim after (version s claim.subscription.key) := by
  induction h with
  | start =>
    intro v hv
    rw [hcl, Option.some.injEq] at hv
    exact .inl ⟨hv.symm,by simp⟩
  | @project events s s' _ _ mutations h hp ih =>
    have had (e : TimerEvent) (he : e ∈ mutations.filterMap BoundaryProjectionMutation.arming) :
        e.key ≠ claim.subscription.key := by
      refine har e (mem_append_right _ he) ?_
      obtain ⟨mutation,_,hm⟩ := mem_filterMap.mp he
      cases mutation <;> cases hm
      rfl
    have hold := ih fun e he => har e (mem_append_left _ he)
    exact (hold.keep ((hpo.project (h.invariant hpo hs) hp).2 _ had)).append had
  | claim h hc ih =>
    have hold := ih fun e he => har e (mem_append_left _ he)
    rcases (hpo.claim (h.invariant hpo hs) hc).2.2.2 claim.subscription.key with ⟨hsa,ho⟩ | hra
    · refine (hold.keep (.inl hsa)).append fun e he => ?_
      obtain ⟨c,hc,rfl⟩ := mem_map.mp he
      exact ho c hc
    · exact hold.raise hra
  | complete h hc ih => exact (ih har).keep ((hpo.complete (h.invariant hpo hs) hc).2.2 _)
  | fail h hf ih => exact (ih har).keep ((hpo.fail (h.invariant hpo hs) hf).2.2 _)

theorem LeaseFenced.leaseFences (hp : LeaseFenced port valid version) {empty : S} (he : valid empty) :
    LeaseFences port empty := by
  intro before after s s₁ s₂ now leaseUntil workerId limit claims claim hb hcl hin ha har hv hok
  have hs := hb.invariant hp he
  obtain ⟨hs₁,hnd,hver,_⟩ := hp.claim hs hcl
  have hgu := ha.guarded hp hs₁ (hver claim hin) har
  have hs₂ := ha.invariant hp hs₁
  have hcur : version s₂ claim.subscription.key = some claim.leaseVersion := by
    rcases hok with ⟨_,_,hco⟩ | ⟨_,_,_,hf⟩
    · exact (hp.complete hs₂ hco).2.1
    · exact (hp.fail hs₂ hf).2.1
  refine ⟨fun c hc heq => inj_on_of_nodup_map hnd hc hin heq,?_⟩
  rcases hgu _ hcur with ⟨_,hn⟩ | hl | hlim
  · exact hn
  · omega
  · omega

end Runs

variable {m : BoundaryProjectionMutation} {mutations : List BoundaryProjectionMutation} {workerId : String}
  {claims : List ClaimedTimer} {leaseUntil retryAt : Nat} {next : Option TimerSchedule} {deadLetter : Bool}

section Memory
variable {b b' : MemoryBoundaryState} {k : BoundarySubscriptionKey} {t : MemoryTimerRecord} {claim : ClaimedTimer}

def TimersKeyed (b : MemoryBoundaryState) : Prop :=
  ∀ (k : BoundarySubscriptionKey) t, b.timers[k]? = some t → t.subscription.key = k

def MemoryBoundaryState.timerVersion (b : MemoryBoundaryState) (k : BoundarySubscriptionKey) : Option Nat :=
  b.timers[k]?.map MemoryTimerRecord.leaseVersion

theorem removeAll_timer (keys : List BoundarySubscriptionKey)
    (h : (keys.foldl removeSubscription b).timers[k]? = some t) : b.timers[k]? = some t := by
  rw [removeAll_timers, getElem?_foldl_erase] at h
  split at h
  · cases h
  · exact h

/-- The timer of a key is the one it was or the one it is armed with. -/
theorem applyMutation_timer (h : (b.applyMutation m).timers[k]? = some t) :
    b.timers[k]? = some t ∨ ∃ s schedule, m = .upsert s ∧ s.key = k ∧ t = freshTimer s schedule := by
  cases m with
  | upsert s =>
    simp only [applyMutation] at h
    cases hsc : s.timerSchedule with
    | none => rw [hsc] at h; exact .inl h
    | some schedule =>
      rw [hsc, getElem?_insert_eq] at h
      split at h
      · rename_i heq
        exact .inr ⟨s,schedule,rfl,heq,(Option.some.inj h).symm⟩
      · exact .inl h
  | disarmBoundary k' => exact .inl (removeAll_timer [k'] h)
  | disarmAttached | removeInstance => exact .inl (removeAll_timer _ h)

theorem applyMutations_timer (h : (mutations.foldl applyMutation b).timers[k]? = some t) : b.timers[k]? = some t ∨
      ∃ s schedule, .upsert s ∈ mutations ∧ s.key = k ∧ t = freshTimer s schedule := by
  induction mutations generalizing b with
  | nil => exact .inl h
  | cons m mutations ih =>
    rcases ih h with hs | ⟨s,schedule,hin,hf⟩
    · rcases applyMutation_timer hs with hold | ⟨s,schedule,rfl,hf⟩
      · exact .inl hold
      · exact .inr ⟨s,schedule,mem_cons_self,hf⟩
    · exact .inr ⟨s,schedule,mem_cons_of_mem _ hin,hf⟩

theorem claimAll_spec {keys : List BoundarySubscriptionKey} (hke : TimersKeyed b) (hnd : keys.Nodup)
    (h : claimAll leaseUntil workerId keys b = .ok (claims, b')) : claims.map (fun c => c.subscription.key) = keys ∧
    (∀ k : BoundarySubscriptionKey, b'.timers[k]? =
      if k ∈ keys then b.timers[k]?.map (leased leaseUntil workerId) else b.timers[k]?) ∧
    (∀ c ∈ claims, ∃ t, b'.timers[c.subscription.key]? = some t ∧ c = ⟨t.subscription, t.generation, t.attempts, t.leaseVersion⟩) ∧
    b' = { b with timers := b'.timers } := by
  induction keys generalizing b claims with
  | nil => cases h; simp
  | cons key keys ih =>
    simp only [claimAll, bind_eq_ok, okOr_eq_ok, pure_eq_ok, Prod.mk.injEq, Prod.exists] at h
    obtain ⟨timer,hget,rest,final,hr,rfl,rfl⟩ := h
    obtain ⟨hno,hnd⟩ := nodup_cons.mp hnd
    have hkey : timer.subscription.key = key := hke key timer hget
    have hk' : TimersKeyed { b with
        timers := b.timers.insert key (leased leaseUntil workerId timer) } := by
      intro k t ht
      rcases of_getElem?_insert ht with ⟨heq,rfl⟩ | ht
      · exact hkey.trans heq
      · exact hke k t ht
    obtain ⟨hkeys,htm,hcl,hf⟩ := ih hk' hnd hr
    refine ⟨?_,fun k => ?_,fun c hc => ?_,hf⟩
    · rw [map_cons, hkeys]
      exact congrArg (· :: keys) hkey
    · rw [htm k, getElem?_insert_eq]
      by_cases hk : key = k
      · subst hk
        simp [hno, hget]
      · simp [hk, Ne.symm hk]
    · rcases mem_cons.mp hc with rfl | hc
      · refine ⟨leased leaseUntil workerId timer,?_,rfl⟩
        show final.timers[timer.subscription.key]? = _
        rw [hkey, htm, if_neg hno, getElem?_insert_eq, if_pos rfl]
      · exact hcl c hc

theorem nodup_due (now limit : Nat) : ((b.dueKeys now).take limit).Nodup :=
  (nodup_keysWhere _ _).sublist (take_sublist _ _)

theorem leasedTimer_eq_ok : b.leasedTimer claim = .ok t ↔ b.timers[claim.subscription.key]? = some t ∧
    t.leaseVersion = claim.leaseVersion ∧ t.generation = claim.generation ∧ t.workerId ≠ "" := by
  simp [leasedTimer, bind_eq_ok, okOr_eq_ok, ensure_eq_ok, and_assoc]

theorem completeTimer_timers (h : b.completeTimer claim next = .ok b') :
    ∃ t, b.leasedTimer claim = .ok t ∧ ∀ k : BoundarySubscriptionKey, b'.timers[k]? =
      if claim.subscription.key = k then next.map (rescheduled t) else b.timers[k]? := by
  simp only [MemoryBoundaryState.completeTimer, bind_eq_ok] at h
  obtain ⟨t,ht,⟨⟩⟩ := h
  refine ⟨t,ht,fun k => ?_⟩
  cases next with
  | none => exact getElem?_erase_eq ..
  | some => exact getElem?_insert_eq ..

def failedTimer (t : MemoryTimerRecord) (retryAt : Nat) (deadLetter : Bool) : MemoryTimerRecord :=
  { t with availableAtEpochMs := retryAt, leaseUntilEpochMs := 0, workerId := "", deadLettered := deadLetter }

theorem failTimer_timers (h : b.failTimer claim retryAt deadLetter = .ok b') :
    ∃ t, b.leasedTimer claim = .ok t ∧ ∀ k : BoundarySubscriptionKey, b'.timers[k]? =
      if claim.subscription.key = k then some (failedTimer t retryAt deadLetter) else b.timers[k]? := by
  simp only [MemoryBoundaryState.failTimer, bind_eq_ok] at h
  obtain ⟨t,ht,⟨⟩⟩ := h
  exact ⟨t,ht,fun k => getElem?_insert_eq ..⟩

theorem TimersKeyed.write (hk : TimersKeyed b) {t' : Option MemoryTimerRecord}
    (ht' : ∀ t, t' = some t → t.subscription.key = k)
    (htm : ∀ k' : BoundarySubscriptionKey, b'.timers[k']? = if k = k' then t' else b.timers[k']?) :
    TimersKeyed b' := by
  intro k' t ht
  rw [htm] at ht
  split at ht
  · rename_i heq
    exact (ht' t ht).trans heq
  · exact hk k' t ht

theorem memory_leaseFenced : LeaseFenced memoryTimers TimersKeyed MemoryBoundaryState.timerVersion where
  project := by
    intro b b' expected committed mutations hb h
    simp only [memoryTimers, MemoryBoundaryState.applyProjection, bind_eq_ok, ensure_eq_ok] at h
    obtain ⟨_,_,_,_,⟨⟩⟩ := h
    refine ⟨fun k t ht => ?_,fun k hk => ?_⟩
    · rcases applyMutations_timer ht with hold | ⟨s,schedule,_,hkey,rfl⟩
      · exact hb k t hold
      · exact hkey
    · simp only [MemoryBoundaryState.timerVersion]
      cases ht : (mutations.foldl applyMutation b).timers[k]? with
      | none => exact .inr rfl
      | some =>
        rcases applyMutations_timer ht with hold | ⟨s,schedule,hin,hkey,_⟩
        · rw [hold]
          exact .inl rfl
        · exact absurd hkey (hk (.armed s) (mem_filterMap.mpr ⟨_,hin,rfl⟩))
  claim := by
    intro b b' now leaseUntil workerId limit claims hb h
    obtain ⟨hke,htm,hcl,-⟩ := claimAll_spec hb (nodup_due ..) h
    refine ⟨fun k t ht => ?_,hke ▸ nodup_due ..,fun c hc => ?_,fun k => ?_⟩
    · rw [htm] at ht
      split at ht
      · obtain ⟨old,hold,rfl⟩ := Option.map_eq_some_iff.mp ht
        exact hb k old hold
      · exact hb k t ht
    · obtain ⟨t,ht,rfl⟩ := hcl c hc
      simp [MemoryBoundaryState.timerVersion, ht]
    · simp only [MemoryBoundaryState.timerVersion, htm k]
      by_cases hk : k ∈ (b.dueKeys now).take limit
      · rw [if_pos hk, Option.map_map, Option.map_map]
        exact .inr rfl
      · rw [if_neg hk]
        refine .inl ⟨rfl,fun c hc heq => hk ?_⟩
        rw [← hke, ← heq]
        exact mem_map_of_mem hc
  complete := by
    intro b b' claim nextSchedule hb h
    obtain ⟨t,hl,htm⟩ := completeTimer_timers h
    obtain ⟨hget,hv,_⟩ := leasedTimer_eq_ok.mp hl
    refine ⟨hb.write (fun t' ht' => ?_) htm,?_,fun k => ?_⟩
    · obtain ⟨schedule,_,rfl⟩ := Option.map_eq_some_iff.mp ht'
      exact hb _ t hget
    · simp [MemoryBoundaryState.timerVersion, hget, hv]
    · simp only [MemoryBoundaryState.timerVersion, htm k]
      split
      · rename_i heq
        cases nextSchedule with
        | none => exact .inr rfl
        | some =>
          rw [← heq, hget]
          exact .inl rfl
      · exact .inl rfl
  fail := by
    intro b b' claim retryAt deadLetter hb h
    obtain ⟨t,hl,htm⟩ := failTimer_timers h
    obtain ⟨hget,hv,_⟩ := leasedTimer_eq_ok.mp hl
    refine ⟨hb.write (fun t' ht' => ?_) htm,?_,fun k => .inl ?_⟩
    · cases ht'
      exact hb _ t hget
    · simp [MemoryBoundaryState.timerVersion, hget, hv]
    · simp only [MemoryBoundaryState.timerVersion, htm k]
      split
      · rename_i heq
        rw [← heq, hget]
        rfl
      · rfl

end Memory

section Rocks
variable {db db' : BoundaryDb} {k : StorageKey} {r : BoundarySubscriptionRecord} {claim : ClaimedTimer}
  {batch : List BoundaryWrite} {limit now : Nat} {picked : List (StorageKey × BoundarySubscriptionRecord)}

theorem BoundarySubscriptionKey.storage_injective : Function.Injective storage := by
  rintro ⟨⟨t⟩,⟨i⟩,⟨e⟩⟩ ⟨⟨t'⟩,⟨i'⟩,⟨e'⟩⟩ h
  simp only [storage, boundarySubscriptionPrefix, cons_append, nil_append,
    List.cons.injEq, Component.mk.injEq, and_true] at h
  obtain ⟨rfl,rfl,rfl⟩ := h
  rfl

def RecordsKeyed (db : BoundaryDb) : Prop :=
  ∀ (k : StorageKey) r, db.subscriptions[k]? = some r → r.key.storage = k

def BoundaryDb.timerVersion (db : BoundaryDb) (k : BoundarySubscriptionKey) : Option Nat :=
  db.subscriptions[k.storage]?.map BoundarySubscriptionRecord.leaseVersion

theorem writeBatch_subscription (h : (db.writeBatch batch).subscriptions[k]? = some r) :
    db.subscriptions[k]? = some r ∨ .putSubscription k r ∈ batch := by
  induction batch generalizing db with
  | nil => exact .inl h
  | cons write batch ih =>
    rcases ih h with hold | hin
    · cases write with
      | putSubscription k' r' =>
        simp only [BoundaryDb.write] at hold
        rcases of_getElem?_insert hold with ⟨heq,rfl⟩ | hold
        · exact .inr (by simp [heq])
        · exact .inl hold
      | deleteSubscription =>
        simp only [BoundaryDb.write] at hold
        exact .inl (of_getElem?_erase hold)
      | _ => exact .inl hold
    · exact .inr (mem_cons_of_mem _ hin)

theorem writeBatch_append (db : BoundaryDb) (batch batch' : List BoundaryWrite) :
    db.writeBatch (batch ++ batch') = (db.writeBatch batch).writeBatch batch' := foldl_append

def BoundaryWrite.isSubscription : BoundaryWrite → Bool
  | .putSubscription _ _ | .deleteSubscription _ | .putTimer _ | .deleteTimer _ => true
  | _ => false

/-- Writes to the subscriptions and their index leave the rest of the database alone. -/
theorem writeBatch_frame (h : ∀ w ∈ batch, w.isSubscription = true) :
    db.writeBatch batch = { db with
      subscriptions := (db.writeBatch batch).subscriptions
      timerIndex := (db.writeBatch batch).timerIndex } := by
  induction batch generalizing db with
  | nil => rfl
  | cons w batch ih =>
    have hw := h w mem_cons_self
    have hr := @ih (db.write w) fun w' hw' => h w' (mem_cons_of_mem _ hw')
    cases w <;> first | exact hr | cases hw

/-- Only arming a boundary event puts a record; the other writes of a mutation remove one or keep the timer index. -/
theorem mem_mutationWrites {w : BoundaryWrite} (h : w ∈ db.mutationWrites m) :
    (w.isSubscription = true ∧ ∀ k r, w ≠ .putSubscription k r) ∨
      ∃ s, m = .upsert s ∧ w = .putSubscription s.key.storage (subscriptionToRecord s) := by
  have hde {k : StorageKey} {r : BoundarySubscriptionRecord} (h : w ∈ deleteRecord k r) :
      w.isSubscription = true ∧ ∀ k r, w ≠ .putSubscription k r := by
    simp only [deleteRecord, mem_append, mem_ite_nil_right, mem_singleton] at h
    rcases h with ⟨_,rfl⟩ | rfl <;> exact ⟨rfl,by simp⟩
  cases m with
  | upsert s =>
    simp only [mutationWrites, mem_append, mem_ite_nil_right, mem_singleton] at h
    rcases h with (h | ⟨_,rfl⟩) | rfl
    · split at h
      · rw [mem_ite_nil_right, mem_singleton] at h
        rw [h.2]
        exact .inl ⟨rfl,by simp⟩
      · cases h
    · exact .inl ⟨rfl,by simp⟩
    · exact .inr ⟨s,rfl,rfl⟩
  | disarmBoundary =>
    simp only [mutationWrites] at h
    split at h
    · exact .inl (hde h)
    · cases h
  | disarmAttached =>
    obtain ⟨entry,_,h⟩ := mem_flatMap.mp h
    exact .inl (hde (mem_ite_nil_right.mp h).2)
  | removeInstance =>
    obtain ⟨entry,_,h⟩ := mem_flatMap.mp h
    exact .inl (hde h)

theorem mutationWrites_isSubscription (m : BoundaryProjectionMutation) :
    ∀ w ∈ db.mutationWrites m, w.isSubscription = true := by
  intro w hw
  rcases mem_mutationWrites hw with ⟨h,-⟩ | ⟨_,_,rfl⟩
  · exact h
  · rfl

theorem mutations_isSubscription (mutations : List BoundaryProjectionMutation) :
    ∀ w ∈ mutations.flatMap db.mutationWrites, w.isSubscription = true := by
  intro w hw
  obtain ⟨m,_,hw⟩ := mem_flatMap.mp hw
  exact mutationWrites_isSubscription m w hw

theorem applyProjection_record {expected committed : Nat}
    (h : db.applyProjection expected committed mutations = .ok db') (hr : db'.subscriptions[k]? = some r) :
    db.subscriptions[k]? = some r ∨ ∃ s, .upsert s ∈ mutations ∧ s.key.storage = k ∧ r = subscriptionToRecord s := by
  simp only [BoundaryDb.applyProjection, bind_eq_ok, ensure_eq_ok] at h
  obtain ⟨_,_,_,_,⟨⟩⟩ := h
  rcases writeBatch_subscription hr with hold | hin
  · exact .inl hold
  · refine .inr ?_
    simp only [mem_append, mem_flatMap, mem_singleton, reduceCtorEq, or_false] at hin
    obtain ⟨m,hm,hput⟩ := hin
    rcases mem_mutationWrites hput with ⟨-,hno⟩ | ⟨s,rfl,heq⟩
    · exact absurd rfl (hno k r)
    · cases heq
      exact ⟨s,hm,rfl,rfl⟩

theorem subscriptionFromRecord_key {s : ProjectedBoundarySubscription} (h : subscriptionFromRecord r = .ok s) :
    s.key = r.key := by
  simp only [subscriptionFromRecord, bind_eq_ok] at h
  obtain ⟨_,_,_,_,_,_,⟨⟩⟩ := h
  rfl

structure ClaimsRecord (leaseUntil : Nat) (workerId : String) (entry : StorageKey × BoundarySubscriptionRecord)
    (claim : ClaimedTimer) : Prop where
  subscription : subscriptionFromRecord (BoundaryDb.leasedRecord leaseUntil workerId entry.2) = .ok claim.subscription
  generation : claim.generation = entry.2.generation
  leaseVersion : claim.leaseVersion = saturatingSucc u64Max entry.2.leaseVersion

/-- What the claim loop picks from the index: records that are there, each once. -/
def Picks (db : BoundaryDb) (leaseUntil : Nat) (workerId : String) (entries : List (DueKey StorageKey))
    (result : List ClaimedTimer × List BoundaryWrite) : Prop :=
  ∃ picked : List (StorageKey × BoundarySubscriptionRecord),
    (∀ p ∈ picked, db.subscriptions[p.1]? = some p.2 ∧ ⟨p.2.availableAtEpochMs, p.1⟩ ∈ entries) ∧
    (picked.map Prod.fst).Nodup ∧ List.Forall₂ (ClaimsRecord leaseUntil workerId) picked result.1 ∧
    result.2 = picked.map fun p => .putSubscription p.1 (leasedRecord leaseUntil workerId p.2)

theorem claimLoop_spec {entries : List (DueKey StorageKey)} {result : List ClaimedTimer × List BoundaryWrite}
    (hnd : entries.Nodup) (h : db.claimLoop now leaseUntil workerId limit entries = .ok result) :
    Picks db leaseUntil workerId entries result := by
  have hn (rest : List (DueKey StorageKey)) : Picks db leaseUntil workerId rest ([], []) := ⟨[],by simp⟩
  induction entries generalizing limit result with
  | nil => cases limit <;> cases h <;> exact hn []
  | cons entry entries ih =>
    obtain ⟨hno,hnd⟩ := nodup_cons.mp hnd
    cases limit with
    | zero => cases h; exact hn _
    | succ =>
      rw [claimLoop] at h
      split at h
      · cases h; exact hn _
      · simp only [bind_eq_ok, okOr_eq_ok, ensure_eq_ok, Bool.and_eq_true, beq_iff_eq] at h
        obtain ⟨record,hget,_,⟨_,hdue⟩,h⟩ := h
        split at h
        · obtain ⟨picked,hpi,hr⟩ := ih hnd h
          exact ⟨picked,fun p hp => ⟨(hpi p hp).1,mem_cons_of_mem _ (hpi p hp).2⟩,hr⟩
        · simp only [bind_eq_ok, Prod.exists] at h
          obtain ⟨subscription,hsu,claims,writes,hl,⟨⟩⟩ := h
          obtain ⟨picked,hpi,hk,hcl,rfl⟩ := ih hnd hl
          have he : entry = ⟨record.availableAtEpochMs, entry.key⟩ := by rw [hdue]
          refine ⟨(entry.key, record) :: picked,?_,nodup_cons.mpr ⟨?_,hk⟩,.cons ⟨hsu,rfl,rfl⟩ hcl,rfl⟩
          · intro p hp
            rcases mem_cons.mp hp with rfl | hp
            · exact ⟨hget,he ▸ mem_cons_self⟩
            · exact ⟨(hpi p hp).1,mem_cons_of_mem _ (hpi p hp).2⟩
          · -- a second pick of the record would come from a second copy of its index entry
            intro hin
            obtain ⟨p,hp,hkey⟩ := mem_map.mp hin
            obtain ⟨hp,hpe⟩ := hpi p hp
            rw [hkey, hget, Option.some.injEq] at hp
            rw [← hp, hkey, ← he] at hpe
            exact hno hpe

theorem writeBatch_puts {f : BoundarySubscriptionRecord → BoundarySubscriptionRecord}
    (hnd : (picked.map Prod.fst).Nodup) (hp : ∀ p ∈ picked, db.subscriptions[p.1]? = some p.2) (k : StorageKey) :
    (db.writeBatch (picked.map fun p => .putSubscription p.1 (f p.2))).subscriptions[k]? =
      if k ∈ picked.map Prod.fst then db.subscriptions[k]?.map f else db.subscriptions[k]? := by
  induction picked generalizing db with
  | nil => rfl
  | cons p picked ih =>
    rw [map_cons, nodup_cons] at hnd
    have ho (q : StorageKey × BoundarySubscriptionRecord) (hq : q ∈ picked) : p.1 ≠ q.1 :=
      fun heq => hnd.1 (heq ▸ mem_map_of_mem hq)
    have hr := @ih (db.write (.putSubscription p.1 (f p.2))) hnd.2 fun q hq => by
      simp only [BoundaryDb.write]
      rw [getElem?_insert_eq, if_neg (ho q hq)]
      exact hp q (mem_cons_of_mem _ hq)
    simp only [map_cons, writeBatch, foldl_cons] at hr ⊢
    rw [hr]
    simp only [BoundaryDb.write, getElem?_insert_eq]
    by_cases hk : p.1 = k
    · subst hk
      rw [if_neg hnd.1, if_pos rfl, if_pos mem_cons_self, hp p mem_cons_self]
      rfl
    · simp only [if_neg hk, mem_cons, Ne.symm hk, false_or]

theorem puts_frame (picked : List (StorageKey × BoundarySubscriptionRecord))
    (f : BoundarySubscriptionRecord → BoundarySubscriptionRecord) (db : BoundaryDb) :
    db.writeBatch (picked.map fun p => .putSubscription p.1 (f p.2)) =
      { db with subscriptions := (db.writeBatch (picked.map fun p => .putSubscription p.1 (f p.2))).subscriptions } := by
  induction picked generalizing db with
  | nil => rfl
  | cons p picked ih => exact ih _

/-- A claim leases the records that it picks from the index and leaves everything else alone. -/
theorem claimDueTimers_spec (h : db.claimDueTimers now leaseUntil workerId limit = .ok (claims, db')) :
    ∃ picked : List (StorageKey × BoundarySubscriptionRecord),
      (∀ p ∈ picked, db.subscriptions[p.1]? = some p.2 ∧ ⟨p.2.availableAtEpochMs, p.1⟩ ∈ db.timerIndex.toList) ∧
      (picked.map Prod.fst).Nodup ∧ List.Forall₂ (ClaimsRecord leaseUntil workerId) picked claims ∧
      (∀ k : StorageKey, db'.subscriptions[k]? = if k ∈ picked.map Prod.fst then
        db.subscriptions[k]?.map (leasedRecord leaseUntil workerId) else db.subscriptions[k]?) ∧
      db' = { db with subscriptions := db'.subscriptions } := by
  simp only [BoundaryDb.claimDueTimers, bind_eq_ok, Prod.exists] at h
  obtain ⟨claims,writes,hlo,⟨⟩⟩ := h
  obtain ⟨picked,hpi,hnd,hcl,rfl⟩ := claimLoop_spec (nodup_index _) hlo
  refine ⟨picked,hpi,hnd,hcl,writeBatch_puts hnd fun p hp => (hpi p hp).1,puts_frame ..⟩

theorem claimedRecord_eq_ok : db.claimedRecord claim = .ok r ↔
    db.subscriptions[claim.subscription.key.storage]? = some r ∧ r.leaseVersion = claim.leaseVersion ∧
      r.generation = claim.generation ∧ r.workerId ≠ "" := by
  simp [claimedRecord, bind_eq_ok, okOr_eq_ok, ensure_eq_ok, and_assoc]

theorem completeTimer_eq_ok : db.completeTimer claim next = .ok db' ↔
    ∃ r, db.claimedRecord claim = .ok r ∧ db' = { db with
      subscriptions := db.subscriptions.insert claim.subscription.key.storage (firedRecord r next)
      timerIndex := indexed (unindexed db.timerIndex claim.subscription.key.storage (some r.availableAtEpochMs))
        claim.subscription.key.storage (next.map TimerSchedule.dueAtEpochMs) } := by
  simp only [BoundaryDb.completeTimer, bind_eq_ok, pure_eq_ok]
  refine exists_congr fun r => and_congr_right fun _ => ?_
  cases next <;> exact eq_comm

def failedRecord (r : BoundarySubscriptionRecord) (retryAt : Nat) (deadLetter : Bool) : BoundarySubscriptionRecord :=
  { r with availableAtEpochMs := retryAt, leaseUntilEpochMs := 0, workerId := "", deadLettered := deadLetter }

theorem failTimer_eq_ok : db.failTimer claim retryAt deadLetter = .ok db' ↔
    ∃ r, db.claimedRecord claim = .ok r ∧ db' = { db with
      subscriptions := db.subscriptions.insert claim.subscription.key.storage (failedRecord r retryAt deadLetter)
      timerIndex := indexed (unindexed db.timerIndex claim.subscription.key.storage (some r.availableAtEpochMs))
        claim.subscription.key.storage (if deadLetter then none else some retryAt) } := by
  simp only [BoundaryDb.failTimer, bind_eq_ok, pure_eq_ok]
  refine exists_congr fun r => and_congr_right fun _ => ?_
  cases deadLetter <;> exact eq_comm

section Rewrite
variable {key : BoundarySubscriptionKey} {new : BoundarySubscriptionRecord} {index : ExtTreeSet (DueKey StorageKey)}

theorem rewrite_keyed (hk : RecordsKeyed db) (hget : db.subscriptions[key.storage]? = some r)
    (hkey : new.key = r.key) :
    RecordsKeyed { db with subscriptions := db.subscriptions.insert key.storage new, timerIndex := index } := by
  intro k r' hr'
  rcases of_getElem?_insert hr' with ⟨heq,rfl⟩ | hr'
  · rw [hkey, ← heq]
    exact hk _ r hget
  · exact hk k r' hr'

theorem rewrite_version (hget : db.subscriptions[key.storage]? = some r) (hv : new.leaseVersion = r.leaseVersion)
    (k : BoundarySubscriptionKey) :
    BoundaryDb.timerVersion { db with subscriptions := db.subscriptions.insert key.storage new, timerIndex := index } k =
      db.timerVersion k := by
  simp only [BoundaryDb.timerVersion, getElem?_insert_eq]
  split
  · rename_i heq
    rw [← heq, hget]
    exact congrArg some hv
  · rfl

end Rewrite

theorem claims_keys (hk : ∀ p ∈ picked, p.2.key.storage = p.1)
    (h : List.Forall₂ (ClaimsRecord leaseUntil workerId) picked claims) :
    claims.map (fun c => c.subscription.key.storage) = picked.map Prod.fst := by
  induction h with
  | nil => rfl
  | @cons p c _ _ hc _ ih =>
    have hkey : c.subscription.key.storage = p.1 := by
      rw [subscriptionFromRecord_key hc.subscription]
      exact hk p mem_cons_self
    rw [map_cons, map_cons, hkey, ih fun q hq => hk q (mem_cons_of_mem _ hq)]

theorem rocks_leaseFenced : LeaseFenced rocksTimers RecordsKeyed BoundaryDb.timerVersion where
  project := by
    intro db db' expected committed mutations hdb h
    refine ⟨fun k r hr => ?_,fun k hk => ?_⟩
    · rcases applyProjection_record h hr with hold | ⟨s,_,hkey,rfl⟩
      · exact hdb k r hold
      · exact hkey
    · simp only [BoundaryDb.timerVersion]
      cases hr : db'.subscriptions[k.storage]? with
      | none => exact .inr rfl
      | some =>
        rcases applyProjection_record h hr with hold | ⟨s,hin,hkey,_⟩
        · rw [hold]
          exact .inl rfl
        · exact absurd (storage_injective hkey)
            (hk (.armed s) (mem_filterMap.mpr ⟨_,hin,rfl⟩))
  claim := by
    intro db db' now leaseUntil workerId limit claims hdb h
    obtain ⟨picked,hpi,hnd,hcl,hl,-⟩ := claimDueTimers_spec h
    have hs := claims_keys (fun p hp => hdb p.1 p.2 (hpi p hp).1) hcl
    refine ⟨fun k r hr => ?_,?_,fun c hc => ?_,fun k => ?_⟩
    · rw [hl] at hr
      split at hr
      · obtain ⟨old,hold,rfl⟩ := Option.map_eq_some_iff.mp hr
        exact hdb k old hold
      · exact hdb k r hr
    · rw [← hs] at hnd
      refine List.Nodup.of_map storage ?_
      rw [map_map]
      exact hnd
    · obtain ⟨p,hp,hcla⟩ : ∃ p ∈ picked, ClaimsRecord leaseUntil workerId p c := exists_of_forall₂ hcl.flip hc
      have hkey : c.subscription.key.storage = p.1 := by
        rw [subscriptionFromRecord_key hcla.subscription]
        exact hdb p.1 p.2 (hpi p hp).1
      simp only [BoundaryDb.timerVersion]
      rw [hkey, hl, if_pos (mem_map_of_mem hp), (hpi p hp).1, hcla.leaseVersion]
      rfl
    · simp only [BoundaryDb.timerVersion]
      rw [hl]
      by_cases hk : k.storage ∈ picked.map Prod.fst
      · rw [if_pos hk, Option.map_map, Option.map_map]
        exact .inr rfl
      · rw [if_neg hk]
        refine .inl ⟨rfl,fun c hc heq => hk ?_⟩
        rw [← hs, ← heq]
        exact mem_map_of_mem hc
  complete := by
    intro db db' claim nextSchedule hdb h
    obtain ⟨r,hr,rfl⟩ := completeTimer_eq_ok.mp h
    obtain ⟨hget,hv,_⟩ := claimedRecord_eq_ok.mp hr
    refine ⟨rewrite_keyed hdb hget ?_,?_,fun k => .inl (rewrite_version hget ?_ k)⟩
    · cases nextSchedule <;> rfl
    · simp [BoundaryDb.timerVersion, hget, hv]
    · cases nextSchedule <;> rfl
  fail := by
    intro db db' claim retryAt deadLetter hdb h
    obtain ⟨r,hr,rfl⟩ := failTimer_eq_ok.mp h
    obtain ⟨hget,hv,_⟩ := claimedRecord_eq_ok.mp hr
    refine ⟨rewrite_keyed hdb hget ?_,?_,fun k => .inl (rewrite_version hget ?_ k)⟩
    · rfl
    · simp [BoundaryDb.timerVersion, hget, hv]
    · rfl

end Rocks

/-- The fence of both stores, from the empty one. -/
theorem timer_leases_fence (adapter : BoundaryAdapter) : LeaseFences adapter.port.toTimerStorePort adapter.start := by
  cases adapter with
  | memory =>
    refine memory_leaseFenced.leaseFences fun k t ht => ?_
    simp [BoundaryAdapter.start] at ht
  | rocks =>
    refine rocks_leaseFenced.leaseFences fun k r hr => ?_
    simp [BoundaryAdapter.start] at hr

namespace Sample

def reminder (armedEventId : String) : ProjectedBoundarySubscription where
  key := ⟨.lit "acme", .lit "one", .lit "late"⟩
  attachedNodeId := .lit "review"
  targetNodeId := .lit "remind"
  cancelActivity := false
  trigger := .timer .duration "PT5S"
  armedAtEpochMs := 1
  armedEventId := armedEventId
  timerSchedule := some ⟨5, none, some 1⟩
  workflowType := .lit "approval"
  workflowVersion := .lit "1"

def staleCompletion {S : Type} (port : TimerStorePort S) (empty : S) :
    Except BoundaryRuntimeError (List ClaimedTimer × List ClaimedTimer × S) := do
  let s ← port.applyProjection empty 0 1 [.upsert (reminder "first")]
  let (stale, s) ← port.claimDueTimers s 10 20 "slow" 1
  let s ← port.applyProjection s 1 2 [.disarmBoundary (reminder "first").key]
  let s ← port.applyProjection s 2 3 [.upsert (reminder "second")]
  let (recent, s) ← port.claimDueTimers s 12 22 "quick" 1
  let s ← stale.foldlM (fun s claim => port.completeTimer s claim none) s
  return (stale, recent, s)

end Sample

open Sample

/-- A timer that another worker has claimed after the lease ran out. -/
theorem timer_leases_fence_reclaimed :
    ∃ s s₁ s₂, memoryTimers.applyProjection {} 0 1 [.upsert (reminder "first")] = .ok s ∧
      memoryTimers.claimDueTimers s 10 20 "slow" 1 = .ok ([⟨reminder "first", 0, 1, 1⟩], s₁) ∧
      memoryTimers.claimDueTimers s₁ 20 30 "quick" 1 = .ok ([⟨reminder "first", 0, 2, 2⟩], s₂) ∧
      ∀ nextSchedule s₃, memoryTimers.completeTimer s₂ ⟨reminder "first", 0, 1, 1⟩ nextSchedule ≠ .ok s₃ := by
  obtain ⟨s,s₁,s₂,hp,hs,hq⟩ :
      ∃ s s₁ s₂, memoryTimers.applyProjection {} 0 1 [.upsert (reminder "first")] = .ok s ∧
        memoryTimers.claimDueTimers s 10 20 "slow" 1 = .ok ([⟨reminder "first", 0, 1, 1⟩], s₁) ∧
        memoryTimers.claimDueTimers s₁ 20 30 "quick" 1 = .ok ([⟨reminder "first", 0, 2, 2⟩], s₂) :=
    ⟨_,_,_,rfl,rfl,rfl⟩
  refine ⟨s,s₁,s₂,hp,hs,hq,fun nextSchedule s₃ hc => ?_⟩
  have hf := timer_leases_fence .memory (.project .start hp) hs (mem_singleton_self _)
    (.claim .start hq) (by simp [TimerEvent.isArming]) (by decide) (.inl ⟨nextSchedule,s₃,hc⟩)
  exact hf.2 (.claimed ⟨reminder "first", 0, 2, 2⟩) (by simp) rfl

/-- The first worker's claim takes the timer of the second arming away in both stores. -/
theorem stale_claim_completes_new_arming : (∃ s, staleCompletion memoryTimers {} =
      .ok ([⟨reminder "first", 0, 1, 1⟩], [⟨reminder "second", 0, 1, 1⟩], s) ∧
        memoryTimers.completeTimer s ⟨reminder "second", 0, 1, 1⟩ none = .error .leaseConflict) ∧
    ∃ s, staleCompletion rocksTimers {} =
      .ok ([⟨reminder "first", 0, 1, 1⟩], [⟨reminder "second", 0, 1, 1⟩], s) ∧
        rocksTimers.completeTimer s ⟨reminder "second", 0, 1, 1⟩ none = .error .leaseConflict := by
  exact ⟨⟨_,rfl,rfl⟩,⟨_,rfl,rfl⟩⟩

end BpmpPlatform
