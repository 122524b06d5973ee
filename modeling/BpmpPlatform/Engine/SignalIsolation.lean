import BpmpPlatform.Engine.Leases

/-! # Signals of different instances

Both stores stop at the first signal that cannot be correlated, so a claim keeps signals apart exactly when all the
signals available at the time can be correlated or none can.
-/
namespace BpmpPlatform
open Std Outcome Storage BoundarySignalRecord MemoryBoundaryState BoundaryDb BoundarySignalKey List

/-- What a claim is about: the record of a signal, whether it is available, the subscriptions of its instance,
and what these make of it. -/
structure SignalView (S R E : Type) where
  record : S → BoundarySignalKey → Option R
  available : Nat → R → Bool
  scope : S → R → List E
  correlated : Nat → R → List E → Except BoundaryRuntimeError (Option ProjectedBoundarySubscription)

variable {now limit leaseUntil bound : Nat} {workerId : String} {claim : ClaimedCorrelation}

section Separation
variable {S R E : Type} (view : SignalView S R E)

def SignalView.Available (s : S) (now : Nat) (key : BoundarySignalKey) (r : R) : Prop :=
  view.record s key = some r ∧ view.available now r = true

def SignalView.AtMost (s : S) (now limit : Nat) : Prop :=
  ∀ keys : List BoundarySignalKey, keys.Nodup → (∀ key ∈ keys, ∃ r, view.Available s now key r) → keys.length ≤ limit

def claimedWith (result : Except BoundaryRuntimeError (List ClaimedCorrelation)) (key : BoundarySignalKey) :
    Option (Option ProjectedBoundarySubscription) :=
  match result with
  | .ok claims => (claims.find? fun claim => claim.signal.key = key).map ClaimedCorrelation.subscription
  | .error _ => none

/-- A claim treats every available signal as if it were alone, and writes nothing if it fails. -/
structure Isolated (s : S) (now bound : Nat) (result : Except BoundaryRuntimeError (List ClaimedCorrelation) × S) :
    Prop where
  alone : ∀ key r, view.Available s now key r →
    claimedWith result.1 key = (view.correlated bound r (view.scope s r)).toOption
  unwritten : ∀ error, result.1 = .error error → ∀ key, view.record result.2 key = view.record s key

def SignalView.AllCorrelate (s : S) (now bound : Nat) : Prop :=
  ∀ key r, view.Available s now key r → ∃ m, view.correlated bound r (view.scope s r) = .ok m

def SignalView.NoneCorrelates (s : S) (now bound : Nat) : Prop :=
  ∀ key r, view.Available s now key r → ∀ m, view.correlated bound r (view.scope s r) ≠ .ok m

/-- A store keeps signals apart exactly in the states in which all available signals can be correlated or none
can; and in two such states a signal with the same record and the same subscriptions around it fares the same. -/
structure SignalsSeparate (port : BoundaryStorePort S) (empty : S) : Prop where
  isolated_iff : ∀ {s}, Stored port empty s → ∀ {now limit}, view.AtMost s now limit →
    ∀ leaseUntil workerId bound,
      Isolated view s now bound (port.claimCorrelations s now leaseUntil workerId limit bound) ↔
        view.AllCorrelate s now bound ∨ view.NoneCorrelates s now bound
  two_runs : ∀ {s s'}, Stored port empty s → Stored port empty s' → ∀ {now limit limit'}, view.AtMost s now limit →
    view.AtMost s' now limit' → ∀ {bound}, view.AllCorrelate s now bound ∨ view.NoneCorrelates s now bound →
    view.AllCorrelate s' now bound ∨ view.NoneCorrelates s' now bound →
    ∀ {key r}, view.Available s now key r → view.Available s' now key r → view.scope s r = view.scope s' r →
    ∀ leaseUntil workerId leaseUntil' workerId',
      claimedWith (port.claimCorrelations s now leaseUntil workerId limit bound).1 key =
        claimedWith (port.claimCorrelations s' now leaseUntil' workerId' limit' bound).1 key

structure ClaimLoop (port : BoundaryStorePort S) (valid : S → Prop) : Prop where
  claims : ∀ {s}, valid s → ∀ {now limit}, view.AtMost s now limit → ∀ {leaseUntil workerId bound},
    view.AllCorrelate s now bound →
    ∃ claims, (port.claimCorrelations s now leaseUntil workerId limit bound).1 = .ok claims ∧
      (∀ c ∈ claims, ∃ r, view.record s c.signal.key = some r ∧
        view.correlated bound r (view.scope s r) = .ok c.subscription) ∧
      ∀ key r, view.Available s now key r → ∃ c ∈ claims, c.signal.key = key
  fails : ∀ {s}, valid s → ∀ {now limit}, view.AtMost s now limit → ∀ {leaseUntil workerId bound claims},
    (port.claimCorrelations s now leaseUntil workerId limit bound).1 = .ok claims → view.AllCorrelate s now bound
  unwritten : ∀ {s}, valid s → ∀ {now limit}, view.AtMost s now limit → ∀ {leaseUntil workerId bound},
    view.NoneCorrelates s now bound → ∀ key,
      view.record (port.claimCorrelations s now leaseUntil workerId limit bound).2 key = view.record s key

variable {view} {port : BoundaryStorePort S} {valid : S → Prop} {s : S}

/-- A store whose claim goes through a list of the available records. -/
theorem ClaimLoop.of_collectAll {K : Type} (pending : S → Nat → List (K × R)) (signal : R → BoundarySignal)
    (attempts version : R → Nat)
    (hp : ∀ {s}, valid s → ∀ {now p}, p ∈ pending s now → view.Available s now (signal p.2).key p.2)
    (hav : ∀ {s}, valid s → ∀ {now k r}, view.Available s now k r →
      (signal r).key = k ∧ ∃ p ∈ pending s now, p.2 = r)
    (hrun : ∀ {s}, valid s → ∀ {now limit}, view.AtMost s now limit → ∀ {leaseUntil workerId bound},
      (port.claimCorrelations s now leaseUntil workerId limit bound).1 =
        collectAll (fun p => (⟨signal p.2, ·, attempts p.2, version p.2⟩) <$>
          view.correlated bound p.2 (view.scope s p.2)) (pending s now))
    (hkeep : ∀ {s}, valid s → ∀ {now limit}, view.AtMost s now limit → ∀ {leaseUntil workerId bound},
      (∀ p ∈ pending s now, ∃ e, view.correlated bound p.2 (view.scope s p.2) = .error e) → ∀ key,
        view.record (port.claimCorrelations s now leaseUntil workerId limit bound).2 key = view.record s key) :
    ClaimLoop view port valid where
  claims := by
    intro s hs now limit hm leaseUntil workerId bound hall
    rw [hrun hs hm]
    refine (exists_collectAll fun p hin => ?_).imp fun claims hcl => ⟨hcl,fun c hc => ?_,fun k r hr => ?_⟩
    · obtain ⟨m,hm⟩ := hall _ _ (hp hs hin)
      exact ⟨_,map_eq_ok.mpr ⟨m,hm,rfl⟩⟩
    · obtain ⟨p,hin,hcl⟩ := exists_of_collectAll hcl hc
      obtain ⟨m,hm,rfl⟩ := map_eq_ok.mp hcl
      exact ⟨p.2,(hp hs hin).1,hm⟩
    · obtain ⟨rfl,p,hin,rfl⟩ := hav hs hr
      obtain ⟨c,hin,hcl⟩ := exists_of_forall₂ (collectAll_eq_ok.mp hcl) hin
      obtain ⟨m,_,rfl⟩ := map_eq_ok.mp hcl
      exact ⟨_,hin,rfl⟩
  fails := by
    intro s hs now limit hm leaseUntil workerId bound claims hok k r hr
    obtain ⟨_,p,hin,rfl⟩ := hav hs hr
    rw [hrun hs hm] at hok
    obtain ⟨c,_,hcl⟩ := exists_of_forall₂ (collectAll_eq_ok.mp hok) hin
    obtain ⟨m,hm,_⟩ := map_eq_ok.mp hcl
    exact ⟨m,hm⟩
  unwritten := by
    intro s hs now limit hm leaseUntil workerId bound hn
    refine hkeep hs hm fun p hin => ?_
    cases hco : view.correlated bound p.2 (view.scope s p.2) with
    | error e => exact ⟨e,rfl⟩
    | ok m => exact absurd hco (hn _ _ (hp hs hin) m)

section
variable (h : ClaimLoop view port valid)
include h

theorem ClaimLoop.isolated_of_all (hs : valid s) (hm : view.AtMost s now limit)
    (hall : view.AllCorrelate s now bound) :
    Isolated view s now bound (port.claimCorrelations s now leaseUntil workerId limit bound) := by
  obtain ⟨claims,hok,hma,hev⟩ := h.claims hs hm hall
  refine ⟨fun key r hr => ?_,fun error he => by rw [hok] at he; cases he⟩
  rw [hok]
  simp only [claimedWith]
  cases hf : claims.find? fun claim => decide (claim.signal.key = key) with
  | none =>
    obtain ⟨c,hc,hkey⟩ := hev key r hr
    exact absurd (decide_eq_true hkey) (List.find?_eq_none.mp hf c hc)
  | some c =>
    have hkey : c.signal.key = key := by simpa using List.find?_some hf
    obtain ⟨r',hrec,hco⟩ := hma c (mem_of_find?_eq_some hf)
    rw [hkey, hr.1, Option.some.injEq] at hrec
    rw [hrec, hco]
    rfl

theorem ClaimLoop.isolated_of_none (hs : valid s) (hmo : view.AtMost s now limit)
    (hn : view.NoneCorrelates s now bound) :
    Isolated view s now bound (port.claimCorrelations s now leaseUntil workerId limit bound) := by
  refine ⟨fun key r hr => ?_,fun _ _ => h.unwritten hs hmo hn⟩
  have hown : (view.correlated bound r (view.scope s r)).toOption = none := by
    cases hc : view.correlated bound r (view.scope s r) with
    | error => rfl
    | ok m => exact absurd hc (hn key r hr m)
  rw [hown]
  cases hres : (port.claimCorrelations s now leaseUntil workerId limit bound).1 with
  | error => rfl
  | ok =>
    obtain ⟨m,hm⟩ := h.fails hs hmo hres key r hr
    exact absurd hm (hn key r hr m)

theorem ClaimLoop.isolated_iff (hs : valid s) (hmo : view.AtMost s now limit) :
    Isolated view s now bound (port.claimCorrelations s now leaseUntil workerId limit bound) ↔
      view.AllCorrelate s now bound ∨ view.NoneCorrelates s now bound := by
  constructor
  · intro his
    cases hres : (port.claimCorrelations s now leaseUntil workerId limit bound).1 with
    | ok => exact .inl (h.fails hs hmo hres)
    | error =>
      refine .inr fun key r hr m hm => ?_
      have hal := his.alone key r hr
      rw [hres, hm] at hal
      cases hal
  · rintro (hall | hn)
    · exact h.isolated_of_all hs hmo hall
    · exact h.isolated_of_none hs hmo hn

theorem ClaimLoop.separate {empty : S} (hva : ∀ {s}, Stored port empty s → valid s) :
    SignalsSeparate view port empty where
  isolated_iff hs _ _ hm _ _ _ := h.isolated_iff (hva hs) hm
  two_runs := by
    intro s s' hs hs' now limit limit' hm hm' bound hc hc' key r hr hr' hsc leaseUntil workerId
      leaseUntil' workerId'
    rw [((h.isolated_iff (hva hs) hm).mpr hc).alone key r hr,
      ((h.isolated_iff (hva hs') hm').mpr hc').alone key r hr', hsc]

end

end Separation

section Memory
variable {b b' : MemoryBoundaryState} {keys : List BoundarySignalKey} {r : MemorySignalRecord}

def memorySignals : SignalView MemoryBoundaryState MemorySignalRecord ProjectedBoundarySubscription where
  record b key := b.signals[key]?
  available := MemoryBoundaryState.isPending
  scope b r := b.scopedSubscriptions r.signal
  correlated bound r subscriptions := do
    let matching := subscriptions.filter fun subscription => triggerMatchesSignal subscription.trigger r.signal
    ensure (decide (subscriptions.length ≤ bound)) .correlationScanLimitExceeded
    ensure (decide (matching.length ≤ 1)) .ambiguousCorrelation
    return matching.head?

def SignalsKeyed (b : MemoryBoundaryState) : Prop :=
  ∀ (k : BoundarySignalKey) r, b.signals[k]? = some r → r.signal.key = k

theorem SignalsKeyed.congr (hkey : SignalsKeyed b)
    (h : ∀ k : BoundarySignalKey, b'.signals[k]?.map MemorySignalRecord.signal =
      b.signals[k]?.map MemorySignalRecord.signal) : SignalsKeyed b' := by
  intro k r hr
  have hk := h k
  rw [hr, Option.map_some, eq_comm, Option.map_eq_some_iff] at hk
  obtain ⟨r₀,hr₀,hsi⟩ := hk
  rw [← hsi]
  exact hkey k r₀ hr₀

theorem SignalsKeyed.rewrite (hk : SignalsKeyed b) {k : BoundarySignalKey} {new : MemorySignalRecord}
    (hr : b.signals[k]? = some r) (hsi : new.signal = r.signal) :
    SignalsKeyed { b with signals := b.signals.insert k new } := by
  refine hk.congr fun k' => ?_
  simp only [getElem?_insert_eq]
  split
  · rename_i heq
    rw [← heq, hr, Option.map_some, Option.map_some, hsi]
  · rfl

theorem claimSignals_keeps (keys : List BoundarySignalKey) (b : MemoryBoundaryState) :
    (MemoryBoundaryState.claimSignals leaseUntil workerId bound keys b).2.timers = b.timers ∧
      ∀ k : BoundarySignalKey, (MemoryBoundaryState.claimSignals leaseUntil workerId bound keys b).2.signals[k]?.map
        MemorySignalRecord.signal = b.signals[k]?.map MemorySignalRecord.signal := by
  induction keys generalizing b with
  | nil => exact ⟨rfl,fun _ => rfl⟩
  | cons key keys ih =>
    simp only [MemoryBoundaryState.claimSignals]
    split
    · exact ⟨rfl,fun _ => rfl⟩
    · rename_i r hr
      split
      · exact ⟨rfl,fun _ => rfl⟩
      · refine ⟨(ih _).1,fun k => ?_⟩
        rw [(ih _).2, getElem?_insert_eq]
        split
        · rename_i heq
          rw [← heq, hr]
          rfl
        · rfl

theorem applyMutations_signals (mutations : List BoundaryProjectionMutation) (b : MemoryBoundaryState) :
    (mutations.foldl applyMutation b).signals = b.signals := by
  induction mutations generalizing b with
  | nil => rfl
  | cons m mutations ih =>
    rw [foldl_cons, ih]
    cases m with
    | upsert | disarmBoundary => rfl
    | disarmAttached | removeInstance => exact removeAll_signals _ b

theorem leasedCorrelation_record (h : b.leasedCorrelation claim = .ok r) : b.signals[claim.signal.key]? = some r := by
  simp only [leasedCorrelation, bind_eq_ok, okOr_eq_ok, ensure_eq_ok] at h
  obtain ⟨_,hr,_,_,⟨⟩⟩ := h
  exact hr

theorem memory_keyed (h : Stored memoryBoundary {} b) : TimersKeyed b ∧ SignalsKeyed b := by
  induction h with
  | empty => exact ⟨fun k t ht => by simp at ht,fun k r hr => by simp at hr⟩
  | project _ _ hp ih =>
    refine ⟨(memory_leaseFenced.project ih.1 hp).1,?_⟩
    simp only [memoryBoundary, memoryTimers, MemoryBoundaryState.applyProjection, bind_eq_ok, ensure_eq_ok] at hp
    obtain ⟨_,_,_,_,⟨⟩⟩ := hp
    refine ih.2.congr fun k => ?_
    rw [applyMutations_signals]
  | claimTimers _ hc ih =>
    refine ⟨(memory_leaseFenced.claim ih.1 hc).1,?_⟩
    rw [(claimAll_spec ih.1 (nodup_due ..) hc).2.2.2]
    exact ih.2
  | completeTimer _ hc ih =>
    refine ⟨(memory_leaseFenced.complete ih.1 hc).1,?_⟩
    simp only [memoryBoundary, memoryTimers, MemoryBoundaryState.completeTimer, bind_eq_ok] at hc
    obtain ⟨t,_,⟨⟩⟩ := hc
    exact ih.2
  | failTimer _ hf ih =>
    refine ⟨(memory_leaseFenced.fail ih.1 hf).1,?_⟩
    simp only [memoryBoundary, memoryTimers, MemoryBoundaryState.failTimer, bind_eq_ok] at hf
    obtain ⟨t,_,⟨⟩⟩ := hf
    exact ih.2
  | enqueue _ he ih =>
    simp only [memoryBoundary, MemoryBoundaryState.enqueueSignal] at he
    split at he
    · split at he
      · cases he; exact ih
      · cases he
    · cases he
      refine ⟨ih.1,fun k r hr => ?_⟩
      rcases of_getElem?_insert hr with ⟨heq,rfl⟩ | hr
      · exact heq
      · exact ih.2 k r hr
  | @claimSignals s s' now leaseUntil workerId limit bound result _ hc ih =>
    obtain rfl : (MemoryBoundaryState.claimSignals leaseUntil workerId bound ((s.pendingSignals now).take limit) s).2 =
      s' := congrArg Prod.snd hc
    refine ⟨fun k t ht => ih.1 k t ?_,ih.2.congr (claimSignals_keeps _ _).2⟩
    rw [← (claimSignals_keeps _ _).1]
    exact ht
  | completeSignal _ hc ih =>
    simp only [memoryBoundary, MemoryBoundaryState.completeCorrelation, bind_eq_ok] at hc
    obtain ⟨r,hr,⟨⟩⟩ := hc
    exact ⟨ih.1,ih.2.rewrite (leasedCorrelation_record hr) rfl⟩
  | failSignal _ hf ih =>
    simp only [memoryBoundary, MemoryBoundaryState.failCorrelation, bind_eq_ok] at hf
    obtain ⟨r,hr,⟨⟩⟩ := hf
    exact ⟨ih.1,ih.2.rewrite (leasedCorrelation_record hr) rfl⟩

theorem claimSignals_eq_collectAll {pending : List (BoundarySignalKey × MemorySignalRecord)}
    (hnd : (pending.map Prod.fst).Nodup) (hin : ∀ p ∈ pending, b.signals[p.1]? = some p.2) :
    (MemoryBoundaryState.claimSignals leaseUntil workerId bound (pending.map Prod.fst) b).1 =
      collectAll (fun p => (⟨p.2.signal, ·, saturatingSucc u32Max p.2.attempts,
        saturatingSucc u64Max p.2.leaseVersion⟩) <$> b.correlate bound p.2.signal) pending := by
  induction pending generalizing b with
  | nil => rfl
  | cons p pending ih =>
    obtain ⟨hno,hnd⟩ := nodup_cons.mp hnd
    simp only [map_cons, MemoryBoundaryState.claimSignals, hin p mem_cons_self, collectAll]
    cases b.correlate bound p.2.signal with
    | error => rfl
    | ok m =>
      have hre := @ih { b with signals := b.signals.insert p.1 (leasedSignal leaseUntil workerId p.2) } hnd
        fun q hq => by
          have hne : ¬p.1 = q.1 := fun heq => hno (heq ▸ mem_map_of_mem hq)
          rw [getElem?_insert_eq, if_neg hne]
          exact hin q (mem_cons_of_mem _ hq)
      simp only [hre]
      exact map_eq_pure_bind (m := Except _) ..

theorem take_pendingSignals (h : memorySignals.AtMost b now limit) :
    (b.pendingSignals now).take limit = b.pendingSignals now :=
  take_of_length_le (h _ (nodup_keysWhere _ _) fun _ hkey => mem_keysWhere.mp hkey)

theorem mem_pending {p : BoundarySignalKey × MemorySignalRecord} :
    p ∈ b.signals.toList.filter (fun entry => MemoryBoundaryState.isPending now entry.2) ↔
      memorySignals.Available b now p.1 p.2 := by
  rw [mem_filter, ExtTreeMap.mem_toList_iff_getElem?_eq_some]
  rfl

theorem memory_claimLoop : ClaimLoop memorySignals memoryBoundary SignalsKeyed := by
  refine .of_collectAll (fun b now => b.signals.toList.filter fun entry => MemoryBoundaryState.isPending now entry.2)
    MemorySignalRecord.signal (fun r => saturatingSucc u32Max r.attempts)
    (fun r => saturatingSucc u64Max r.leaseVersion) (fun hb _ p hin => ?_)
    (fun hb _ k r hr => ⟨hb k r hr.1,(k, r),mem_pending.mpr hr,rfl⟩) (fun hb _ _ hm _ _ _ => ?_)
    (fun {b} _ now _ hm _ _ _ hn _ => ?_)
  · have hav := mem_pending.mp hin
    rw [hb p.1 p.2 hav.1]
    exact hav
  · simp only [memoryBoundary, MemoryBoundaryState.claimCorrelations, take_pendingSignals hm]
    exact claimSignals_eq_collectAll (nodup_keysWhere _ _) fun p hin => (mem_pending.mp hin).1
  · simp only [memoryBoundary, MemoryBoundaryState.claimCorrelations, take_pendingSignals hm]
    cases hke : b.pendingSignals now with
    | nil => rfl
    | cons first =>
      obtain ⟨r,hr⟩ := mem_keysWhere.mp (hke ▸ mem_cons_self : first ∈ b.pendingSignals now)
      obtain ⟨e,he⟩ : ∃ e, b.correlate _ r.signal = .error e := hn (first, r) (mem_pending.mpr hr)
      simp only [MemoryBoundaryState.claimSignals, hr.1, he]

end Memory

section Rocks
variable {db db' : BoundaryDb} {entries : List (DueKey StorageKey)} {r : BoundarySignalRecord}

def BoundarySignalKey.storage (key : BoundarySignalKey) : StorageKey := [⟨key.tenantId.value⟩, ⟨key.signalId⟩]

theorem BoundarySignalKey.storage_injective : Function.Injective storage := by
  rintro ⟨⟨t⟩,i⟩ ⟨⟨t'⟩,i'⟩ h
  simp only [storage, List.cons.injEq, Component.mk.injEq, and_true] at h
  obtain ⟨rfl,rfl⟩ := h
  rfl

def BoundarySignalRecord.isPending (now : Nat) (record : BoundarySignalRecord) : Bool :=
  !record.completed && !record.deadLettered && decide (record.availableAtEpochMs ≤ now) &&
    decide (record.leaseUntilEpochMs ≤ now)

/-- When a signal is due: a signal that is done with is not in the index. -/
def BoundarySignalRecord.due (record : BoundarySignalRecord) : Option Nat :=
  if record.completed || record.deadLettered then none else some record.availableAtEpochMs

def rocksSignals : SignalView BoundaryDb BoundarySignalRecord (StorageKey × BoundarySubscriptionRecord) where
  record db key := db.signals[key.storage]?
  available := BoundarySignalRecord.isPending
  scope db r := db.scanSubscriptions r.signal.tenantId r.signal.instanceId
  correlated bound r records := do
    let signal ← signalFromRecord r
    ensure (decide (records.length ≤ bound)) .correlationScanLimitExceeded
    BoundaryDb.correlateLoop signal none records

/-- The signal column families are in order: records stand under their key, and the index lists them. -/
structure SignalsIndexed (db : BoundaryDb) : Prop where
  keyed : ∀ (k : StorageKey) r, db.signals[k]? = some r → r.signal.storage = k
  exact : Exact BoundarySignalRecord.due db.signals db.signalIndex

section Claiming

def BoundaryDb.claimSignal (db : BoundaryDb) (leaseUntil : Nat) (workerId : String) (bound : Nat)
    (entry : StorageKey × BoundarySignalRecord) : Except BoundaryRuntimeError (ClaimedCorrelation × BoundaryWrite) := do
  let signal ← signalFromRecord entry.2
  let subscription ← db.correlate bound signal
  let record := BoundaryDb.leasedSignalRecord leaseUntil workerId entry.2
  return (⟨signal, subscription, record.attempts, record.leaseVersion⟩, .putSignal entry.1 record)

def BoundaryDb.pendingRecords (db : BoundaryDb) (now : Nat) (entries : List (DueKey StorageKey)) :
    List (StorageKey × BoundarySignalRecord) :=
  entries.filterMap fun entry => (db.signals[entry.key]?.filter (BoundarySignalRecord.isPending now)).map (entry.key, ·)

theorem signalFromRecord_eq {signal : BoundarySignal} (h : signalFromRecord r = .ok signal) : signal = r.signal := by
  simp only [signalFromRecord, nonEmptyBoundary, bind_eq_ok, ensure_eq_ok, pure_eq_ok] at h
  obtain ⟨_,⟨_,_,rfl⟩,_,⟨_,_,rfl⟩,rfl⟩ := h
  rfl

theorem pendingRecords_cons {entry : DueKey StorageKey} (hr : db.signals[entry.key]? = some r) :
    db.pendingRecords now (entry :: entries) =
      if r.isPending now then (entry.key, r) :: db.pendingRecords now entries else db.pendingRecords now entries := by
  cases hp : r.isPending now <;> simp [pendingRecords, hr, Option.filter, hp]

theorem pendingRecords_late (hes : ∀ e ∈ entries, ∃ r, db.signals[e.key]? = some r ∧ r.availableAtEpochMs = e.dueAt)
    (hl : ∀ e ∈ entries, now < e.dueAt) : db.pendingRecords now entries = [] := by
  refine filterMap_eq_nil_iff.mpr fun e he => ?_
  obtain ⟨r,hr,hdue⟩ := hes e he
  have hnot : r.isPending now = false := by
    have hnow : ¬r.availableAtEpochMs ≤ now := by
      have hlt := hl e he
      omega
    simp [BoundarySignalRecord.isPending, hnow]
  simp [hr, Option.filter, hnot]

theorem BoundarySignalRecord.isPending_of_available (h : r.availableAtEpochMs ≤ now) :
    r.isPending now = !(r.completed || r.deadLettered || decide (r.leaseUntilEpochMs > now)) := by
  have hl : (!decide (r.leaseUntilEpochMs > now)) = decide (r.leaseUntilEpochMs ≤ now) := by
    rw [← decide_not]
    exact decide_eq_decide.mpr Nat.not_lt
  rw [BoundarySignalRecord.isPending, decide_eq_true h, Bool.and_true, Bool.not_or, Bool.not_or, hl]

theorem claimSignals_eq (hes : ∀ e ∈ entries, ∃ r, db.signals[e.key]? = some r ∧ r.availableAtEpochMs = e.dueAt)
    (hs : entries.Pairwise fun e e' => e.dueAt ≤ e'.dueAt) :
    db.claimSignals now leaseUntil workerId bound limit entries =
      (·, ((db.pendingRecords now entries).take limit).map fun p =>
        .putSignal p.1 (leasedSignalRecord leaseUntil workerId p.2)) <$>
        collectAll (fun p => Prod.fst <$> db.claimSignal leaseUntil workerId bound p)
          ((db.pendingRecords now entries).take limit) := by
  induction entries generalizing limit with
  | nil => cases limit <;> rfl
  | cons e entries ih =>
    obtain ⟨hf,hs⟩ := pairwise_cons.mp hs
    obtain ⟨r,hr,hdue⟩ := hes e mem_cons_self
    have hre := fun e' he' => hes e' (mem_cons_of_mem _ he')
    cases limit with
    | zero => rfl
    | succ limit =>
      rw [BoundaryDb.claimSignals]
      split
      · rename_i hla
        rw [pendingRecords_late hes]
        · rfl
        · intro e' he'
          rcases mem_cons.mp he' with rfl | he'
          · exact hla
          · exact Nat.lt_of_lt_of_le hla (hf e' he')
      · rename_i hnow
        simp only [hr, okOr, ok_bind, hdue, beq_self_eq_true, ensure, if_true]
        rw [pendingRecords_cons hr, isPending_of_available (by omega)]
        generalize (r.completed || r.deadLettered || decide (r.leaseUntilEpochMs > now)) = skipped
        cases skipped with
        | true => exact ih hre hs
        | false =>
          simp only [Bool.not_false, if_true, take_succ_cons, collectAll]
          rw [@ih limit hre hs, claimSignal]
          cases signalFromRecord r with
          | error => rfl
          | ok signal =>
            simp only [ok_bind]
            cases db.correlate bound signal with
            | error => rfl
            | ok => cases collectAll (fun p => _) ((db.pendingRecords now entries).take limit) <;> rfl

end Claiming

section Stored

theorem BoundarySignalRecord.available_of_due {t : Nat} (h : r.due = some t) : r.availableAtEpochMs = t := by
  unfold due at h
  split at h
  · cases h
  · exact Option.some.inj h

theorem BoundarySignalRecord.due_of_isPending (h : r.isPending now = true) : r.due = some r.availableAtEpochMs := by
  simp only [BoundarySignalRecord.isPending, Bool.and_eq_true, Bool.not_eq_true'] at h
  simp [due, h]

theorem SignalsIndexed.entry (h : SignalsIndexed db) {e : DueKey StorageKey} (he : e ∈ db.signalIndex.toList) :
    ∃ r, db.signals[e.key]? = some r ∧ r.availableAtEpochMs = e.dueAt := by
  obtain ⟨r,hr,hdue⟩ := Option.bind_eq_some_iff.mp ((h.exact e).mp (ExtTreeSet.mem_toList.mp he))
  exact ⟨r,hr,available_of_due hdue⟩

variable {k : StorageKey}

theorem SignalsIndexed.mem_pendingRecords (h : SignalsIndexed db) :
    (k, r) ∈ db.pendingRecords now db.signalIndex.toList ↔ db.signals[k]? = some r ∧ r.isPending now = true := by
  simp only [pendingRecords, mem_filterMap, Option.map_eq_some_iff, Option.filter_eq_some_iff, Prod.mk.injEq]
  constructor
  · rintro ⟨e,_,_,hr,rfl,rfl⟩
    exact hr
  · rintro ⟨hr,hp⟩
    refine ⟨⟨r.availableAtEpochMs, k⟩,?_,r,⟨hr,hp⟩,rfl,rfl⟩
    rw [ExtTreeSet.mem_toList, h.exact, hr]
    exact due_of_isPending hp

theorem pendingRecords_sublist (hes : ∀ e ∈ entries, ∃ r, db.signals[e.key]? = some r ∧ r.availableAtEpochMs = e.dueAt) :
    ((db.pendingRecords now entries).map Prod.fst).Sublist (entries.map DueKey.key) := by
  induction entries with
  | nil => exact .slnil
  | cons e entries ih =>
    obtain ⟨r,hr,_⟩ := hes e mem_cons_self
    have hre := ih fun e' he' => hes e' (mem_cons_of_mem _ he')
    rw [pendingRecords_cons hr]
    split
    · exact hre.cons_cons _
    · exact hre.cons _

theorem SignalsIndexed.nodup_pendingRecords (h : SignalsIndexed db) :
    ((db.pendingRecords now db.signalIndex.toList).map fun p => p.2.signal.key).Nodup := by
  have hk : (db.signalIndex.toList.map DueKey.key).Nodup := by
    refine List.Nodup.map_on (fun e he e' he' hkey => ?_) (nodup_index db.signalIndex)
    obtain ⟨r,hr,hdue⟩ := h.entry he
    obtain ⟨r',hr',hdue'⟩ := h.entry he'
    rw [hkey, hr', Option.some.injEq] at hr
    cases e
    cases e'
    simp_all
  refine List.Nodup.of_map storage ?_
  rw [map_map]
  have hs : (db.pendingRecords now db.signalIndex.toList).map (storage ∘ fun p => p.2.signal.key) =
      (db.pendingRecords now db.signalIndex.toList).map Prod.fst :=
    map_congr_left fun p hp => h.keyed p.1 p.2 (h.mem_pendingRecords.mp hp).1
  rw [hs]
  exact hk.sublist (pendingRecords_sublist fun e he => h.entry he)

theorem SignalsIndexed.available (h : SignalsIndexed db) {p : StorageKey × BoundarySignalRecord}
    (hp : p ∈ db.pendingRecords now db.signalIndex.toList) : rocksSignals.Available db now p.2.signal.key p.2 := by
  obtain ⟨hr,hpe⟩ := h.mem_pendingRecords.mp hp
  refine ⟨?_,hpe⟩
  show db.signals[p.2.signal.storage]? = some p.2
  rw [h.keyed p.1 p.2 hr]
  exact hr

theorem SignalsIndexed.take_pendingRecords (h : SignalsIndexed db) (hm : rocksSignals.AtMost db now limit) :
    (db.pendingRecords now db.signalIndex.toList).take limit = db.pendingRecords now db.signalIndex.toList := by
  refine take_of_length_le ?_
  have hl := hm _ h.nodup_pendingRecords fun key hkey => by
    obtain ⟨p,hp,rfl⟩ := mem_map.mp hkey
    exact ⟨p.2,h.available hp⟩
  rwa [length_map] at hl

theorem claimSignal_eq (db : BoundaryDb) (p : StorageKey × BoundarySignalRecord) :
    Prod.fst <$> db.claimSignal leaseUntil workerId bound p =
      (⟨p.2.signal, ·, saturatingSucc u32Max p.2.attempts, saturatingSucc u64Max p.2.leaseVersion⟩) <$>
        rocksSignals.correlated bound p.2 (rocksSignals.scope db p.2) := by
  simp only [claimSignal, rocksSignals]
  cases hs : signalFromRecord p.2 with
  | error => rfl
  | ok =>
    rw [signalFromRecord_eq hs]
    change Prod.fst <$> (db.correlate bound p.2.signal >>= _) = _ <$> db.correlate bound p.2.signal
    cases db.correlate bound p.2.signal <;> rfl

theorem rocks_claimLoop : ClaimLoop rocksSignals rocksBoundary SignalsIndexed := by
  refine .of_collectAll (fun db now => db.pendingRecords now db.signalIndex.toList) BoundarySignalRecord.signal
    (fun r => saturatingSucc u32Max r.attempts) (fun r => saturatingSucc u64Max r.leaseVersion)
    (fun hdb _ p hin => hdb.available hin)
    (fun hdb _ k r hr => ⟨storage_injective (hdb.keyed _ r hr.1),_,hdb.mem_pendingRecords.mpr hr,rfl⟩)
    (fun hdb _ _ hm _ _ _ => ?_) (fun {db} hdb now _ hm _ _ _ hn _ => ?_)
  · simp only [rocksBoundary, BoundaryDb.claimCorrelations, claimSignals_eq (fun e he => hdb.entry he) (sorted_index _),
      hdb.take_pendingRecords hm, claimSignal_eq]
    cases collectAll (fun p => _) _ <;> rfl
  · simp only [rocksBoundary, BoundaryDb.claimCorrelations, claimSignals_eq (fun e he => hdb.entry he) (sorted_index _),
      hdb.take_pendingRecords hm, claimSignal_eq]
    cases hpe : db.pendingRecords now db.signalIndex.toList with
    | nil => rfl
    | cons p =>
      obtain ⟨e,he⟩ := hn p (hpe ▸ mem_cons_self)
      simp only [collectAll, he]
      rfl

theorem SignalsIndexed.congr (h : SignalsIndexed db) (hsi : db'.signals = db.signals)
    (hin : db'.signalIndex = db.signalIndex) : SignalsIndexed db' := by
  constructor
  · rw [hsi]
    exact h.keyed
  · rw [hsi, hin]
    exact h.exact

theorem SignalsIndexed.keyed_insert (h : SignalsIndexed db) {k' : StorageKey} {n r' : BoundarySignalRecord}
    (hkey : n.signal.storage = k) (hr : (db.signals.insert k n)[k']? = some r') : r'.signal.storage = k' := by
  rcases of_getElem?_insert hr with ⟨heq,rfl⟩ | hr
  · exact hkey.trans heq
  · exact h.keyed k' r' hr

theorem SignalsIndexed.lease (h : SignalsIndexed db) {picked : List (StorageKey × BoundarySignalRecord)}
    (hp : ∀ p ∈ picked, ∃ r, db.signals[p.1]? = some r ∧ p.2.signal = r.signal ∧ p.2.due = r.due) :
    SignalsIndexed (db.writeBatch (picked.map fun p =>
      .putSignal p.1 (leasedSignalRecord leaseUntil workerId p.2))) := by
  induction picked generalizing db with
  | nil => exact h
  | cons p picked ih =>
    obtain ⟨r,hr,hsi,hdue⟩ := hp p mem_cons_self
    refine @ih (db.write (.putSignal p.1 (leasedSignalRecord leaseUntil workerId p.2)))
      ⟨fun k r' => h.keyed_insert (hsi ▸ h.keyed p.1 r hr),?_⟩ fun q hq => ?_
    · refine h.exact.update ?_
      rw [hr]
      exact hdue.symm
    · obtain ⟨r',hr',hsi',hdue'⟩ := hp q (mem_cons_of_mem _ hq)
      by_cases heq : p.1 = q.1
      · rw [← heq, hr, Option.some.injEq] at hr'
        subst hr'
        exact ⟨leasedSignalRecord leaseUntil workerId p.2,by simp [write, heq],hsi'.trans hsi.symm,hdue'.trans hdue.symm⟩
      · exact ⟨r',by simp only [write, getElem?_insert_eq, if_neg heq]; exact hr',hsi',hdue'⟩

theorem SignalsIndexed.rewrite (h : SignalsIndexed db) {new : BoundarySignalRecord} (hr : db.signals[k]? = some r)
    (hsi : new.signal = r.signal) :
    SignalsIndexed { db with
      signals := db.signals.insert k new
      signalIndex := indexed (unindexed db.signalIndex k (some r.availableAtEpochMs)) k new.due } := by
  refine ⟨fun k' r' => h.keyed_insert (hsi ▸ h.keyed k r hr),h.exact.insert (fun t ht => ?_) new⟩
  rw [hr] at ht
  rw [available_of_due ht]

theorem updateSignalClaim_indexed {retryAt : Nat} {deadLetter completed : Bool} (h : SignalsIndexed db)
    (hu : db.updateSignalClaim claim retryAt deadLetter completed = .ok db') : SignalsIndexed db' := by
  simp only [updateSignalClaim, bind_eq_ok, okOr_eq_ok, ensure_eq_ok] at hu
  obtain ⟨r,hr,_,_,⟨⟩⟩ := hu
  have hre := @SignalsIndexed.rewrite db r claim.signal.storage h { r with
    availableAtEpochMs := retryAt
    leaseUntilEpochMs := 0
    workerId := ""
    deadLettered := deadLetter
    completed := completed } hr rfl
  cases deadLetter <;> cases completed <;> exact hre

theorem rocks_signalsIndexed {allowed : BoundaryDb → List BoundaryProjectionMutation → Prop}
    (h : StoredWith allowed rocksBoundary {} db) : SignalsIndexed db := by
  induction h with
  | empty => exact ⟨fun k r hr => by simp at hr,Exact.empty⟩
  | @project s s' expected committed mutations _ _ hp ih =>
    simp only [rocksBoundary, rocksTimers, BoundaryDb.applyProjection, bind_eq_ok, ensure_eq_ok] at hp
    obtain ⟨_,_,_,_,⟨⟩⟩ := hp
    rw [writeBatch_append, writeBatch_frame (mutations_isSubscription mutations)]
    exact ih.congr rfl rfl
  | claimTimers _ hc ih =>
    obtain ⟨_,-,-,-,-,hf⟩ := claimDueTimers_spec hc
    rw [hf]
    exact ih.congr rfl rfl
  | completeTimer _ hc ih =>
    obtain ⟨r,_,rfl⟩ := completeTimer_eq_ok.mp hc
    exact ih.congr rfl rfl
  | failTimer _ hf ih =>
    obtain ⟨r,_,rfl⟩ := failTimer_eq_ok.mp hf
    exact ih.congr rfl rfl
  | @enqueue s s' signal outcome _ he ih =>
    simp only [rocksBoundary, BoundaryDb.enqueueSignal] at he
    split at he
    · simp only [bind_eq_ok] at he
      obtain ⟨_,_,he⟩ := he
      split at he
      · cases he; exact ih
      · cases he
    · rename_i hn
      cases he
      have hold (t : Nat) (ht : s.signals[signal.storage]?.bind due = some t) : none = some t := by
        rw [hn] at ht
        cases ht
      exact ⟨fun k r hr => ih.keyed_insert (n := signalToRecord signal) rfl hr,
        ih.exact.insert hold (signalToRecord signal)⟩
  | @claimSignals s s' now leaseUntil workerId limit bound result _ hc ih =>
    simp only [rocksBoundary] at hc
    split at hc
    · rename_i claims db' hcl
      cases hc
      simp only [BoundaryDb.claimCorrelations, bind_eq_ok, Prod.exists] at hcl
      obtain ⟨claims,writes,hl,⟨⟩⟩ := hcl
      rw [claimSignals_eq (fun e he => ih.entry he) (sorted_index _), map_eq_ok] at hl
      obtain ⟨_,_,⟨⟩⟩ := hl
      exact ih.lease fun p hp => ⟨p.2,(ih.mem_pendingRecords.mp (mem_of_mem_take hp)).1,rfl,rfl⟩
    · cases hc
      exact ih
  | completeSignal _ hc ih => exact updateSignalClaim_indexed ih hc
  | failSignal _ hf ih => exact updateSignalClaim_indexed ih hf

theorem signal_index_exact (db : { db // Stored rocksBoundary {} db }) : SignalsIndexed db.1 :=
  rocks_signalsIndexed db.2

end Stored

end Rocks

namespace BoundaryAdapter

def SignalRecord : BoundaryAdapter → Type
  | .memory => MemorySignalRecord
  | .rocks => BoundarySignalRecord

def Subscription : BoundaryAdapter → Type
  | .memory => ProjectedBoundarySubscription
  | .rocks => StorageKey × BoundarySubscriptionRecord

def signals : (adapter : BoundaryAdapter) → SignalView adapter.Store adapter.SignalRecord adapter.Subscription
  | .memory => memorySignals
  | .rocks => rocksSignals

end BoundaryAdapter

/-- Both stores keep signals apart exactly while all available signals can be correlated, or none can. -/
theorem signals_separate_iff (adapter : BoundaryAdapter) :
    SignalsSeparate adapter.signals adapter.port adapter.start := by
  cases adapter with
  | memory => exact memory_claimLoop.separate fun h => (memory_keyed h).2
  | rocks => exact rocks_claimLoop.separate rocks_signalsIndexed

namespace Sample

def payment (boundaryEventId : NodeId) : ProjectedBoundarySubscription where
  key := ⟨.lit "beta", .lit "one", boundaryEventId⟩
  attachedNodeId := .lit "ship"
  targetNodeId := .lit "settle"
  cancelActivity := false
  trigger := .message "paid"
  armedAtEpochMs := 1
  armedEventId := "armed"
  timerSchedule := none
  workflowType := .lit "order"
  workflowVersion := .lit "1"

def paid (tenantId : TenantId) (occurredAt : Nat) : BoundarySignal where
  signalId := "paid-1"
  tenantId := tenantId
  instanceId := .lit "one"
  kind := .message
  reference := some "paid"
  occurredAtEpochMs := occurredAt
  authorizationContextRef := "context"

def paidTwice {S : Type} (port : BoundaryStorePort S) (empty : S) : Except BoundaryRuntimeError S := do
  let s ← port.applyProjection empty 0 1 [.upsert (payment (.lit "first")), .upsert (payment (.lit "second"))]
  let (_, s) ← port.enqueueSignal s (paid (.lit "alpha") 1)
  let (_, s) ← port.enqueueSignal s (paid (.lit "beta") 2)
  return s

end Sample

open Sample

/-- The ambiguous signal of beta stops the claim. The signal of alpha could be claimed, but is not; in memory
it is leased all the same, and the attempts of the failing signal are not counted. -/
theorem ambiguous_signal_stops_others :
    (∃ b, paidTwice memoryBoundary {} = .ok b ∧ b.correlate 8 (paid (.lit "alpha") 1) = .ok none ∧
      (memoryBoundary.claimCorrelations b 10 20 "worker" 8 8).1 = .error .ambiguousCorrelation ∧
      b.signals[(paid (.lit "alpha") 1).key]?.map MemorySignalRecord.attempts = some 0 ∧
      (memoryBoundary.claimCorrelations b 10 20 "worker" 8 8).2.signals[(paid (.lit "alpha") 1).key]?.map
        MemorySignalRecord.attempts = some 1 ∧
      (memoryBoundary.claimCorrelations b 10 20 "worker" 8 8).2.signals[(paid (.lit "beta") 2).key]?.map
        MemorySignalRecord.attempts = some 0) ∧ ∃ db, paidTwice rocksBoundary {} = .ok db ∧
      db.correlate 8 (paid (.lit "alpha") 1) = .ok none ∧
      (rocksBoundary.claimCorrelations db 10 20 "worker" 8 8).1 = .error .ambiguousCorrelation := by
  exact ⟨⟨_,rfl,rfl,rfl,rfl,rfl,rfl⟩,⟨_,rfl,rfl,rfl⟩⟩

end BpmpPlatform
