import BpmpPlatform.Keys.Cache

/-! # Calls of the resolver

Calls run beside each other. Each takes the lock for one section of the cache at a time and asks the key management
service in between; what the service answers is an argument of the step.
-/
namespace BpmpPlatform.Keys
open Std
open BpmpPlatform.Store (CryptoError)

/-- `resolve_for_encrypt` or `resolve_for_decrypt`. -/
inductive KeyRequest
  | encrypt (scope : KeyScope)
  | decrypt (scope : KeyScope) (version : String) (epoch : Nat)
  deriving DecidableEq

/-- Where a call is: what it does next. A call is spinning when the loop of its insertion never ends. -/
inductive CallPhase (B : Type)
  | begun
  | checking (key : CacheKey)
  | fetching
  | looking (wrapped : WrappedDataKey)
  | unwrapping (wrapped : WrappedDataKey)
  | inserting (wrapped : WrappedDataKey) (bytes : B)
  | returned (result : Except CryptoError (ResolvedDataKey B))
  | spinning

structure KeyCall (B : Type) where
  begunAt : Nat
  request : KeyRequest
  phase : CallPhase B

structure KmsAnswer (B : Type) where
  wrapped : Except KmsError WrappedDataKey
  bytes : Except KmsError B

section Phases
variable {B : Type}

def KeyRequest.asksFor (wrapped : WrappedDataKey) : KeyRequest → Bool
  | .encrypt scope => wrapped.scope == scope
  | .decrypt scope version epoch => wrapped.scope == scope && wrapped.version == version && wrapped.epoch == epoch

def looked (miss : CallPhase B) :
    Except CryptoError (Option (ResolvedDataKey B)) × CacheState B → CallPhase B × CacheState B
  | (.error error, cache) => (.returned (.error error), cache)
  | (.ok (some resolved), cache) => (.returned (.ok resolved), cache)
  | (.ok none, cache) => (miss, cache)

def fetched (request : KeyRequest) : Except KmsError WrappedDataKey → CallPhase B
  | .error error => .returned (.error (mapKmsError error))
  | .ok wrapped => if request.asksFor wrapped then .looking wrapped else .returned (.error .invalidMetadata)

def unwrapped (wrapped : WrappedDataKey) : Except KmsError B → CallPhase B
  | .error error => .returned (.error (mapKmsError error))
  | .ok bytes => .inserting wrapped bytes

def inserted (wrapped : WrappedDataKey) (bytes : B) (cache : CacheState B) :
    Option (Except KmsError Unit × CacheState B) → CallPhase B × CacheState B
  | none => (.spinning, cache)
  | some (.error error, cache) => (.returned (.error (mapKmsError error)), cache)
  | some (.ok (), cache) => (.returned (.ok ⟨wrapped.scope, wrapped.version, wrapped.epoch, bytes⟩), cache)

def currentPhase : Option CacheKey → CallPhase B
  | some key => .checking key
  | none => .fetching

def KeyCall.next (call : KeyCall B) (capacity ttl now : Nat) (answer : KmsAnswer B) (cache : CacheState B) :
    CallPhase B × CacheState B :=
  match call.phase, call.request with
  | .begun, .encrypt scope => (currentPhase cache.current[scope]?, cache)
  | .begun, .decrypt scope version epoch => looked .fetching (cache.cached now ⟨scope, version, epoch⟩)
  | .checking key, _ => looked .fetching (cache.cached now key)
  | .fetching, request => (fetched request answer.wrapped, cache)
  | .looking wrapped, _ => looked (.unwrapping wrapped) (cache.cached now wrapped.key)
  | .unwrapping wrapped, _ => (unwrapped wrapped answer.bytes, cache)
  | .inserting wrapped bytes, _ => inserted wrapped bytes cache (cache.insert capacity ttl now wrapped bytes)
  | .returned result, _ => (.returned result, cache)
  | .spinning, _ => (.spinning, cache)

def KeyCall.reported (call : KeyCall B) (answer : KmsAnswer B) : Option CacheKey :=
  match call.phase, call.request, answer.wrapped with
  | .fetching, .encrypt scope, .ok wrapped => if wrapped.scope == scope then some wrapped.key else none
  | _, _, _ => none

end Phases

structure KeySystem (B : Type) where
  cache : CacheState B
  clock : Nat
  calls : List (KeyCall B)
  reports : List (Nat × CacheKey)

inductive KeyStep (B : Type)
  | wait (ticks : Nat)
  | call (request : KeyRequest)
  | revoke (scope : KeyScope) (epoch : Nat)
  | advance (call : Nat) (answer : KmsAnswer B)

namespace KeySystem
variable {B : Type} (system : KeySystem B) (capacity ttl : Nat)

def start : KeySystem B := ⟨.new, 0, [], []⟩

def advanced (index : Nat) (call : KeyCall B) (answer : KmsAnswer B) (next : CallPhase B × CacheState B) : KeySystem B :=
  { system with
    cache := next.2
    calls := system.calls.set index { call with phase := next.1 }
    reports := system.reports ++ (call.reported answer).toList.map fun key => (system.clock, key) }

def step : KeyStep B → KeySystem B
  | .wait ticks => { system with clock := system.clock + ticks }
  | .call request => { system with calls := system.calls ++ [⟨system.clock, request, .begun⟩] }
  | .revoke scope epoch => { system with cache := system.cache.revokeThrough scope epoch }
  | .advance index answer =>
    match system.calls[index]? with
    | none => system
    | some call => system.advanced index call answer (call.next capacity ttl system.clock answer system.cache)

def steps (steps : List (KeyStep B)) : KeySystem B :=
  steps.foldl (fun system step => system.step capacity ttl step) system

end KeySystem

section Next
variable {B : Type} {capacity ttl now : Nat} {cache : CacheState B}

/-- What a lookup does: it is refused, it finds an entry that has not expired, or it misses and drops one that has. -/
theorem cached_cases (cache : CacheState B) (now : Nat) (key : CacheKey) :
    (cache.isRevoked key = true ∧ cache.cached now key = (.error .keyRevoked, cache)) ∨
    (cache.isRevoked key = false ∧ ∃ entry, cache.entries[key]? = some entry ∧ now < entry.expiresAt ∧
      cache.cached now key = (.ok (some ⟨key.scope, key.version, key.epoch, entry.key⟩), cache)) ∨
    (cache.isRevoked key = false ∧
      (cache.cached now key = (.ok none, cache) ∨ cache.cached now key = (.ok none, cache.drop key))) := by
  unfold CacheState.cached
  cases hr : cache.isRevoked key with
  | true => exact .inl ⟨rfl,rfl⟩
  | false =>
    cases he : cache.entries[key]? with
    | none => exact .inr (.inr ⟨rfl,.inl rfl⟩)
    | some entry =>
      by_cases hex : entry.expiresAt ≤ now
      · refine .inr (.inr ⟨rfl,.inr ?_⟩)
        simp [hex]
      · refine .inr (.inl ⟨rfl,entry,rfl,by omega,?_⟩)
        simp [hex]

/-- A call looks a key up, and goes on with a phase when it misses. -/
inductive Looks : KeyCall B → CacheKey → CallPhase B → Prop
  | begun {begunAt scope version epoch} :
      Looks ⟨begunAt, .decrypt scope version epoch, .begun⟩ ⟨scope, version, epoch⟩ .fetching
  | checking {begunAt request key} : Looks ⟨begunAt, request, .checking key⟩ key .fetching
  | looking {begunAt request wrapped} :
      Looks ⟨begunAt, request, .looking wrapped⟩ wrapped.key (.unwrapping wrapped)

section
variable (capacity ttl now : Nat) (answer : KmsAnswer B) (cache : CacheState B) (call : KeyCall B)

/-- What a section of a call can do. -/
inductive Moves : CallPhase B → CacheState B → Prop
  | stay {result} (h : call.phase = .returned result) : Moves (.returned result) cache
  | fail {error} : Moves (.returned (.error error)) cache
  | current {scope} (hr : call.request = .encrypt scope) : Moves (currentPhase cache.current[scope]?) cache
  | fetch {wrapped} (hp : call.phase = .fetching) (hw : answer.wrapped = .ok wrapped) (ha : call.request.asksFor wrapped = true) :
      Moves (.looking wrapped) cache
  | unwrap {wrapped bytes} (hp : call.phase = .unwrapping wrapped) : Moves (.inserting wrapped bytes) cache
  | miss {key phase cache'} (hl : Looks call key phase) (hc : cache' = cache ∨ cache' = cache.drop key) :
      Moves phase cache'
  | hit {key phase entry} (hl : Looks call key phase) (hr : cache.isRevoked key = false)
      (he : cache.entries[key]? = some entry) (hf : now < entry.expiresAt) :
      Moves (.returned (.ok ⟨key.scope, key.version, key.epoch, entry.key⟩)) cache
  | insert {wrapped bytes cache'} (hp : call.phase = .inserting wrapped bytes)
      (hr : cache.isRevoked wrapped.key = false) (hh : CacheHeld capacity cache')
      (ht : cache'.revokedThrough = cache.revokedThrough)
      (he : ∀ (key : CacheKey) (entry : CacheEntry B), cache'.entries[key]? = some entry →
        (key = wrapped.key ∧ entry.expiresAt = now + ttl) ∨ cache.entries[key]? = some entry) :
      Moves (.returned (.ok ⟨wrapped.scope, wrapped.version, wrapped.epoch, bytes⟩)) cache'

end

theorem next_moves (ttl now : Nat) (h : CacheHeld capacity cache) (call : KeyCall B) (answer : KmsAnswer B)
    (hc : call.phase ≠ .spinning) : Moves capacity ttl now answer cache call
      (call.next capacity ttl now answer cache).1 (call.next capacity ttl now answer cache).2 := by
  have hlo {key : CacheKey} {phase : CallPhase B} (hl : Looks call key phase) : Moves capacity ttl now answer cache call
      (looked phase (cache.cached now key)).1 (looked phase (cache.cached now key)).2 := by
    rcases cached_cases cache now key with ⟨_,hc⟩ | ⟨hr,entry,he,hf,hc⟩ | ⟨_,hc | hc⟩
    · rw [hc]
      exact .fail
    · rw [hc]
      exact .hit hl hr he hf
    · rw [hc]
      exact .miss hl (.inl rfl)
    · rw [hc]
      exact .miss hl (.inr rfl)
  obtain ⟨begunAt,request,phase⟩ := call
  cases phase with
  | begun =>
    cases request with
    | encrypt => exact .current rfl
    | decrypt => exact hlo .begun
  | checking => exact hlo .checking
  | fetching =>
    simp only [KeyCall.next]
    cases hw : answer.wrapped with
    | error => exact .fail
    | ok =>
      rw [fetched]
      split
      · rename_i ha
        exact .fetch rfl hw ha
      · exact .fail
  | looking => exact hlo .looking
  | unwrapping =>
    simp only [KeyCall.next]
    cases answer.bytes with
    | error => exact .fail
    | ok => exact .unwrap rfl
  | inserting wrapped bytes =>
    simp only [KeyCall.next]
    rcases h.insert ttl now wrapped bytes with ⟨_,hi⟩ | ⟨hr,cache',hi,hh,ht,he⟩
    · rw [hi]
      exact .fail
    · rw [hi]
      exact .insert rfl hr hh ht he
  | returned => exact .stay rfl
  | spinning => exact absurd rfl hc

variable {answer : KmsAnswer B} {call : KeyCall B} {phase : CallPhase B} {cache' : CacheState B}

/-- A section of a call ends, keeps the cache exact and the revocations as they are. -/
theorem Moves.held (hm : Moves capacity ttl now answer cache call phase cache') (h : CacheHeld capacity cache) :
    CacheHeld capacity cache' ∧ phase ≠ .spinning ∧ cache'.revokedThrough = cache.revokedThrough := by
  cases hm with
  | stay | fail | fetch | unwrap | hit => exact ⟨h,nofun,rfl⟩
  | @current scope =>
    refine ⟨h,?_,rfl⟩
    cases cache.current[scope]? with
    | none | some => exact nofun
  | @miss key _ _ hl hc =>
    have hp : phase ≠ .spinning := by cases hl <;> exact nofun
    rcases hc with rfl | rfl
    · exact ⟨h,hp,rfl⟩
    · exact ⟨h.drop key,hp,rfl⟩
  | insert _ _ hh ht => exact ⟨hh,nofun,ht⟩

inductive ReturnedBy (now : Nat) (cache : CacheState B) (call : KeyCall B) (resolved : ResolvedDataKey B) : Prop
  | before (h : call.phase = .returned (.ok resolved))
  | hit {entry : CacheEntry B} (hphase : call.phase = .begun ∧ call.request =
        .decrypt resolved.keyScope resolved.keyVersion resolved.keyEpoch ∨ call.phase = .checking resolved.key ∨
        ∃ wrapped, call.phase = .looking wrapped ∧ wrapped.key = resolved.key)
      (hrevoked : cache.isRevoked resolved.key = false) (hentry : cache.entries[resolved.key]? = some entry)
      (hfresh : now < entry.expiresAt)
  | fetched {wrapped : WrappedDataKey} {bytes : B} (hphase : call.phase = .inserting wrapped bytes)
      (hkey : wrapped.key = resolved.key) (hrevoked : cache.isRevoked resolved.key = false)

theorem Moves.returned {resolved : ResolvedDataKey B} (hm : Moves capacity ttl now answer cache call phase cache')
    (hp : phase = .returned (.ok resolved)) : ReturnedBy now cache call resolved := by
  cases hm with
  | stay h => exact .before (h.trans hp)
  | fail | fetch | unwrap => cases hp
  | @current scope =>
    cases hc : cache.current[scope]? with
    | none | some =>
      rw [hc] at hp
      cases hp
  | miss hl => cases hl <;> cases hp
  | hit hl hr he hf =>
    cases hp
    cases hl with
    | begun => exact .hit (.inl ⟨rfl,rfl⟩) hr he hf
    | checking => exact .hit (.inr (.inl rfl)) hr he hf
    | @looking _ _ wrapped => exact .hit (.inr (.inr ⟨wrapped,rfl,rfl⟩)) hr he hf
  | insert hi hr =>
    cases hp
    exact .fetched hi rfl hr

end Next

end BpmpPlatform.Keys
