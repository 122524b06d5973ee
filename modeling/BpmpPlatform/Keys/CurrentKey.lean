import BpmpPlatform.Keys.Fence

/-! # The key of an encryption

A cached key counts as the one in use of its scope whoever inserted it, and it expires a fixed time after its insertion
and not after the report of the service.
-/
namespace BpmpPlatform.Keys
open Std List
open BpmpPlatform.Store (CryptoError)

variable {B : Type} {capacity ttl delay : Nat} {system : KeySystem B}

section Steps

def ReportedWithin (delay now : Nat) (reports : List (Nat × CacheKey)) (key : CacheKey) : Prop :=
  ∃ report ∈ reports, report.2 = key ∧ now ≤ report.1 + delay

instance (delay now : Nat) (reports : List (Nat × CacheKey)) (key : CacheKey) :
    Decidable (ReportedWithin delay now reports key) :=
  inferInstanceAs (Decidable (∃ report ∈ reports, report.2 = key ∧ now ≤ report.1 + delay))

variable {now window : Nat} {reports reports' : List (Nat × CacheKey)} {key : CacheKey} {call : KeyCall B}

theorem ReportedWithin.mono (h : ReportedWithin delay now reports key)
    (hsub : ∀ report ∈ reports, report ∈ reports') : ReportedWithin delay now reports' key := by
  obtain ⟨report,hin,hkey,hle⟩ := h
  exact ⟨report,hsub report hin,hkey,hle⟩

/-- The step inserts a key that was reported within the delay, and takes none for an encryption that had the delay or less
to live. -/
def inTime (delay : Nat) (system : KeySystem B) : KeyStep B → Bool
  | .advance index _ =>
    match system.calls[index]? with
    | some ⟨_, _, .inserting wrapped _⟩ => decide (ReportedWithin delay system.clock system.reports wrapped.key)
    | some ⟨begunAt, .encrypt _, .checking key⟩ => system.cache.entries[key]?.all fun entry =>
        decide (system.clock < entry.expiresAt → begunAt + delay ≤ entry.expiresAt)
    | _ => true
  | _ => true

def runInTime (capacity ttl delay : Nat) : KeySystem B → List (KeyStep B) → Bool
  | _, [] => true
  | system, step :: steps => inTime delay system step && runInTime capacity ttl delay (system.step capacity ttl step) steps

/-- What an encryption has reached: a wrapped key was reported since it began, and a returned one not too long ago. -/
def Justified (window : Nat) (reports : List (Nat × CacheKey)) (call : KeyCall B) : Prop :=
  ∀ scope, call.request = .encrypt scope →
    match call.phase with
    | .checking key => key.scope = scope
    | .looking wrapped => wrapped.scope = scope ∧ ReportedWithin 0 call.begunAt reports wrapped.key
    | .unwrapping wrapped => wrapped.scope = scope ∧ ReportedWithin 0 call.begunAt reports wrapped.key
    | .inserting wrapped _ => wrapped.scope = scope ∧ ReportedWithin 0 call.begunAt reports wrapped.key
    | .returned (.ok resolved) => resolved.keyScope = scope ∧ ReportedWithin window call.begunAt reports resolved.key
    | _ => True

/-- Every entry expires in time after a report, and the calls are justified. -/
structure KeysReported (ttl delay : Nat) (system : KeySystem B) : Prop where
  entries : ∀ (key : CacheKey) (entry : CacheEntry B), system.cache.entries[key]? = some entry →
    ReportedWithin (ttl + delay) entry.expiresAt system.reports key
  begun : ∀ call ∈ system.calls, call.begunAt ≤ system.clock
  calls : ∀ call ∈ system.calls, Justified ttl system.reports call

theorem KeysReported.start : KeysReported ttl delay (.start : KeySystem B) := by
  refine ⟨fun key entry he => ?_,fun _ hin => (not_mem_nil hin).elim,fun _ hin => (not_mem_nil hin).elim⟩
  have hn : (∅ : ExtTreeMap CacheKey (CacheEntry B))[key]? = none := ExtTreeMap.getElem?_empty
  cases hn.symm.trans he

theorem Justified.mono (h : Justified window reports call) (hsub : ∀ report ∈ reports, report ∈ reports') :
    Justified window reports' call := by
  intro scope hr
  have hc := h scope hr
  obtain ⟨begunAt,request,phase⟩ := call
  cases phase with
  | looking | unwrapping | inserting => exact ⟨hc.1,hc.2.mono hsub⟩
  | returned result =>
    cases result with
    | error => trivial
    | ok => exact ⟨hc.1,hc.2.mono hsub⟩
  | _ => exact hc

variable {cache cache' : CacheState B} {answer : KmsAnswer B} {phase : CallPhase B}

/-- Entries come from an insertion of the call, or were there. -/
theorem Moves.entries (hm : Moves capacity ttl now answer cache call phase cache') {entry : CacheEntry B}
    (he : cache'.entries[key]? = some entry) :
    cache.entries[key]? = some entry ∨ ∃ wrapped bytes, call.phase = .inserting wrapped bytes ∧ key = wrapped.key ∧
      entry.expiresAt = now + ttl := by
  cases hm with
  | stay | fail | current | fetch | unwrap | hit => exact .inl he
  | @miss other _ _ _ hc =>
    rcases hc with rfl | rfl
    · exact .inl he
    · have her : (cache.entries.erase other)[key]? = some entry := he
      have her := of_getElem?_erase her
      exact .inl her
  | @insert wrapped bytes _ hp _ _ _ hes =>
    rcases hes key entry he with ⟨hkey,hex⟩ | hold
    · exact .inr ⟨wrapped,bytes,hp,hkey,hex⟩
    · exact .inl hold

theorem ReportedWithin.weaken {delay' now' : Nat}
    (h : ReportedWithin delay now reports key) (hle : now' + delay ≤ now + delay') :
    ReportedWithin delay' now' reports key := by
  obtain ⟨report,hin,hkey,hl⟩ := h
  exact ⟨report,hin,hkey,by omega⟩

theorem Moves.justified (hm : Moves capacity ttl now answer cache call phase cache') (hh : CacheHeld capacity cache)
    (hes : ∀ (key : CacheKey) (entry : CacheEntry B), cache.entries[key]? = some entry →
      ReportedWithin (window + delay) entry.expiresAt reports key) (hbe : call.begunAt ≤ now)
    (hti : ∀ scope key entry, call.request = .encrypt scope → call.phase = .checking key →
      cache.entries[key]? = some entry → now < entry.expiresAt → call.begunAt + delay ≤ entry.expiresAt)
    (h : Justified window reports call) :
    Justified window (reports ++ (call.reported answer).toList.map fun key => (now, key)) { call with phase } := by
  have hsub : ∀ report ∈ reports, report ∈ reports ++ (call.reported answer).toList.map fun key => (now, key) :=
    fun report hin => mem_append_left _ hin
  intro scope hr
  have hca := h.mono hsub scope hr
  cases hm with
  | stay hp | unwrap hp =>
    rw [hp] at hca
    exact hca
  | fail => trivial
  | @current other ho =>
    obtain rfl : scope = other := KeyRequest.encrypt.inj (hr.symm.trans ho)
    cases hc : cache.current[scope]? with
    | none => trivial
    | some key => exact (hh.current scope key hc).1
  | @fetch wrapped hp hw ha =>
    rw [show call.request = .encrypt scope from hr] at ha
    refine ⟨beq_iff_eq.mp ha,⟨(now, wrapped.key),mem_append_right _ ?_,rfl,hbe⟩⟩
    have hs : (wrapped.scope == scope) = true := ha
    simp [KeyCall.reported, hp, hw, hs, show call.request = .encrypt scope from hr]
  | miss hl =>
    cases hl with
    | begun => cases hr
    | checking => trivial
    | looking => exact hca
  | @hit key _ entry hl _ he hf =>
    cases hl with
    | begun => cases hr
    | checking =>
      have hle := hti scope key entry hr rfl he hf
      exact ⟨hca,((hes key entry he).mono hsub).weaken (by simp only at hle ⊢; omega)⟩
    | looking => exact ⟨hca.1,hca.2.weaken (Nat.add_le_add_left (Nat.zero_le window) _)⟩
  | insert hp =>
    rw [hp] at hca
    exact ⟨hca.1,hca.2.weaken (Nat.add_le_add_left (Nat.zero_le window) _)⟩

theorem KeysReported.step (hh : SystemHeld capacity system) (h : KeysReported ttl delay system) {step : KeyStep B}
    (hs : inTime delay system step = true) : KeysReported ttl delay (system.step capacity ttl step) := by
  cases step with
  | wait => exact ⟨h.entries,fun call hin => Nat.le_trans (h.begun call hin) (Nat.le_add_right _ _),h.calls⟩
  | call =>
    refine ⟨h.entries,fun call hin => ?_,fun call hin => ?_⟩
    · rcases mem_append.mp hin with hin | hin
      · exact h.begun call hin
      · rw [mem_singleton.mp hin]
        exact Nat.le_refl _
    · rcases mem_append.mp hin with hin | hin
      · exact h.calls call hin
      · rw [mem_singleton.mp hin]
        exact fun _ _ => trivial
  | revoke scope epoch =>
    refine ⟨fun key entry he => ?_,h.begun,h.calls⟩
    have hfi : (system.cache.entries.filter fun key _ => CacheState.outlives scope epoch key)[key]? = some entry := he
    rw [ExtTreeMap.getElem?_filter', Option.filter_eq_some_iff] at hfi
    exact h.entries key entry hfi.1
  | advance index answer =>
    rw [KeySystem.step]
    cases hc : system.calls[index]? with
    | none => exact h
    | some call =>
      have hin := mem_of_getElem? hc
      have hm := next_moves ttl system.clock hh.cache call answer (hh.ends call hin)
      have hsub : ∀ report ∈ system.reports,
          report ∈ system.reports ++ (call.reported answer).toList.map fun key => (system.clock, key) :=
        fun report hin => mem_append_left _ hin
      refine ⟨fun key entry he => ?_,fun other ho => ?_,fun other ho => ?_⟩
      · rcases hm.entries he with hold | ⟨wrapped,bytes,hph,rfl,hex⟩
        · exact (h.entries key entry hold).mono hsub
        · have hre : ReportedWithin delay system.clock system.reports wrapped.key := by
            obtain ⟨begunAt,request,phase⟩ := call
            obtain rfl : phase = .inserting wrapped bytes := hph
            simpa [inTime, hc] using hs
          refine (hre.mono hsub).weaken ?_
          rw [hex]
          omega
      · rcases mem_or_eq_of_mem_set ho with ho | rfl
        · exact h.begun other ho
        · exact h.begun call hin
      · rcases mem_or_eq_of_mem_set ho with ho | rfl
        · exact (h.calls other ho).mono hsub
        · refine hm.justified hh.cache h.entries (h.begun call hin) (fun scope key entry hr hp he hf => ?_) (h.calls call hin)
          obtain ⟨begunAt,request,phase⟩ := call
          obtain rfl : request = .encrypt scope := hr
          obtain rfl : phase = .checking key := hp
          simp only [inTime, hc, he, Option.all_some, decide_eq_true_eq] at hs
          exact hs hf

theorem KeysReported.steps (hh : SystemHeld capacity system) (h : KeysReported ttl delay system)
    {steps : List (KeyStep B)} (hs : runInTime capacity ttl delay system steps = true) :
    KeysReported ttl delay (system.steps capacity ttl steps) := by
  induction steps generalizing system with
  | nil => exact h
  | cons step steps ih =>
    rw [runInTime, Bool.and_eq_true] at hs
    exact ih (hh.step step) (h.step hh hs.1) hs.2

end Steps

/-- When every step is in time, the key of an encryption was reported as current for its scope no longer before the call
than the cache keeps a key. -/
theorem encryption_key_current (capacity ttl delay : Nat) (steps : List (KeyStep B))
    (hsteps : runInTime capacity ttl delay .start steps = true) (scope : KeyScope) (call : KeyCall B)
    (hcall : call ∈ (KeySystem.start.steps capacity ttl steps).calls) (hrequest : call.request = .encrypt scope)
    (resolved : ResolvedDataKey B) (hreturned : call.phase = .returned (.ok resolved)) :
    resolved.keyScope = scope ∧ ∃ report ∈ (KeySystem.start.steps capacity ttl steps).reports,
      report.2 = resolved.key ∧ call.begunAt ≤ report.1 + ttl := by
  have hr := KeysReported.start.steps SystemHeld.start hsteps
  have hj := hr.calls call hcall scope hrequest
  rw [hreturned] at hj
  exact hj

namespace Sample

def scope : KeyScope := .lit "payloads"

def wrapped (version : String) (epoch : Nat) : WrappedDataKey := ⟨scope, version, epoch, "sealed " ++ version⟩

def answers (version : String) (epoch : Nat) : KmsAnswer Nat := ⟨.ok (wrapped version epoch), .ok epoch⟩

def missing (index : Nat) (answer : KmsAnswer Nat) : List (KeyStep Nat) :=
  List.replicate 5 (.advance index answer)

def readBetween : List (KeyStep Nat) :=
  .call (.encrypt scope) :: missing 0 (answers "v2" 2) ++ .call (.decrypt scope "v1" 1) :: missing 1 (answers "v1" 1) ++
    .call (.encrypt scope) :: missing 2 (answers "v2" 2)

/-- The steps of an encryption until its key is unwrapped, after which the insertion is some time away. -/
def slowly (index seconds : Nat) (answer : KmsAnswer Nat) : List (KeyStep Nat) :=
  List.replicate 4 (.advance index answer) ++ .wait seconds :: List.replicate 2 (.advance index answer)

def slowInsertion : List (KeyStep Nat) :=
  .call (.encrypt scope) :: slowly 0 100 (answers "v1" 1) ++ .wait 50 :: .call (.encrypt scope) ::
    List.replicate 2 (.advance 1 (answers "v2" 2))

/-- A write, a write and a read that find its key, and after a rotation and the expiry a write and one that finds its key. -/
def rotation : List (KeyStep Nat) :=
  .call (.encrypt scope) :: slowly 0 5 (answers "v1" 1) ++ .call (.encrypt scope) :: missing 1 (answers "v1" 1) ++
    .call (.decrypt scope "v1" 1) :: missing 2 (answers "v1" 1) ++ .wait 60 :: .call (.encrypt scope) ::
    slowly 3 5 (answers "v2" 2) ++ .call (.encrypt scope) :: missing 4 (answers "v2" 2)

end Sample

open BpmpPlatform.Keys.Sample

theorem encryption_key_current_rotation : let reports := (KeySystem.start.steps 8 60 rotation).reports
    (∃ report ∈ reports, report.2 = (wrapped "v1" 1).key ∧ 5 ≤ report.1 + 60) ∧
      ∃ report ∈ reports, report.2 = (wrapped "v2" 2).key ∧ 70 ≤ report.1 + 60 := by
  have h := encryption_key_current 8 60 5 rotation (by decide +kernel) scope
  exact ⟨(h ⟨5, .encrypt scope, .returned (.ok ⟨scope, "v1", 1, 1⟩)⟩ (mem_of_getElem? (i := 1) rfl) rfl _ rfl).2,
    (h ⟨70, .encrypt scope, .returned (.ok ⟨scope, "v2", 2, 2⟩)⟩ (mem_of_getElem? (i := 4) (by with_unfolding_all rfl)) rfl _ rfl).2⟩

/-- The second write uses the old key of the record that was read, which was never reported as current. A key that was
inserted late is used longer after its report than the cache keeps it. -/
theorem encryption_after_read_stale :
    let read := KeySystem.start.steps 8 60 readBetween
    let slow := KeySystem.start.steps 8 60 slowInsertion
    read.calls[2]? = some ⟨0, .encrypt scope, .returned (.ok ⟨scope, "v1", 1, 1⟩)⟩ ∧
      read.reports = [(0, (wrapped "v2" 2).key)] ∧
      slow.calls[1]? = some ⟨150, .encrypt scope, .returned (.ok ⟨scope, "v1", 1, 1⟩)⟩ ∧
      slow.reports = [(0, (wrapped "v1" 1).key)] :=
  ⟨rfl,rfl,rfl,rfl⟩

end BpmpPlatform.Keys
