import BpmpPlatform.Library.Listed
import BpmpPlatform.Store.Records

/-! # The cache of data keys

Data keys are cached by scope, version and epoch. Every function here runs under the lock of the cache, with the time
read inside it.
-/
namespace BpmpPlatform.Keys
open Std
open BpmpPlatform.Store (CryptoError)

structure CacheKey where
  scope : KeyScope
  version : String
  epoch : Nat
  deriving DecidableEq

section Order

instance : Ord CacheKey :=
  ⟨compareLex (compareOn CacheKey.scope) (compareLex (compareOn CacheKey.version) (compareOn CacheKey.epoch))⟩

instance : TransOrd CacheKey := inferInstanceAs (TransCmp (compareLex _ _))

instance : LawfulEqOrd CacheKey := lawfulEqCmp_three fun a b _ _ _ => by
  cases a; cases b; simp_all

end Order

structure CacheEntry (B : Type) where
  key : B
  expiresAt : Nat

structure WrappedDataKey where
  scope : KeyScope
  version : String
  epoch : Nat
  ciphertext : String
  deriving DecidableEq

structure ResolvedDataKey (B : Type) where
  keyScope : KeyScope
  keyVersion : String
  keyEpoch : Nat
  keyBytes : B
  deriving DecidableEq

inductive KmsError
  | invalidConfiguration (detail : String)
  | io (detail : String)
  | http (detail : String)
  | invalidResponse (detail : String)
  | notFound
  | revoked
  | cachePoisoned
  deriving DecidableEq

def mapKmsError : KmsError → CryptoError
  | .revoked => .keyRevoked
  | .notFound => .keyRevoked
  | .invalidResponse _ => .invalidMetadata
  | .invalidConfiguration _ => .keyUnavailable
  | .io _ => .keyUnavailable
  | .http _ => .keyUnavailable
  | .cachePoisoned => .keyUnavailable

def WrappedDataKey.key (wrapped : WrappedDataKey) : CacheKey := ⟨wrapped.scope, wrapped.version, wrapped.epoch⟩

def ResolvedDataKey.key {B : Type} (resolved : ResolvedDataKey B) : CacheKey :=
  ⟨resolved.keyScope, resolved.keyVersion, resolved.keyEpoch⟩

structure CacheState (B : Type) where
  entries : ExtTreeMap CacheKey (CacheEntry B)
  insertionOrder : List CacheKey
  current : ExtTreeMap KeyScope CacheKey
  revokedThrough : ExtTreeMap KeyScope Nat

namespace CacheState
variable {B : Type} (state : CacheState B)

def new : CacheState B := ⟨∅, [], ∅, ∅⟩

def isRevoked (key : CacheKey) : Bool := state.revokedThrough[key.scope]?.any fun epoch => decide (key.epoch ≤ epoch)

def outlives (scope : KeyScope) (epoch : Nat) (key : CacheKey) : Bool := key.scope != scope || decide (epoch < key.epoch)

def revokeThrough (scope : KeyScope) (epoch : Nat) : CacheState B where
  entries := state.entries.filter fun key _ => outlives scope epoch key
  insertionOrder := state.insertionOrder.filter (outlives scope epoch)
  current := if state.current[scope]?.any fun key => decide (key.epoch ≤ epoch) then state.current.erase scope
    else state.current
  revokedThrough := state.revokedThrough.insert scope ((state.revokedThrough[scope]?.getD epoch).max epoch)

def drop (key : CacheKey) : CacheState B := { state with
  entries := state.entries.erase key
  insertionOrder := state.insertionOrder.filter fun candidate => candidate != key
  current := state.current.filter fun _ candidate => candidate != key }

/-- An entry that has expired is dropped on the way. -/
def cached (now : Nat) (key : CacheKey) : Except CryptoError (Option (ResolvedDataKey B)) × CacheState B :=
  if state.isRevoked key then (.error .keyRevoked, state)
  else match state.entries[key]? with
    | none => (.ok none, state)
    | some entry =>
      if entry.expiresAt ≤ now then (.ok none, state.drop key)
      else (.ok (some ⟨key.scope, key.version, key.epoch, entry.key⟩), state)

/-- The loop of `insert`. With nothing left to evict its body changes nothing, and it never ends. -/
def evict (capacity : Nat) (revokedThrough : ExtTreeMap KeyScope Nat) :
    List CacheKey → ExtTreeMap CacheKey (CacheEntry B) → ExtTreeMap KeyScope CacheKey → Option (CacheState B)
  | [], entries, current => if entries.size ≤ capacity then some ⟨entries, [], current, revokedThrough⟩ else none
  | evicted :: order, entries, current =>
    if entries.size ≤ capacity then some ⟨entries, evicted :: order, current, revokedThrough⟩
    else evict capacity revokedThrough order (entries.erase evicted) (current.filter fun _ key => key != evicted)

/-- No answer means that the loop never ends. -/
def insert (capacity ttl now : Nat) (wrapped : WrappedDataKey) (bytes : B) :
    Option (Except KmsError Unit × CacheState B) :=
  if state.isRevoked wrapped.key then some (.error .revoked, state)
  else (evict capacity state.revokedThrough
      (if state.entries.contains wrapped.key then state.insertionOrder else state.insertionOrder ++ [wrapped.key])
      (state.entries.insert wrapped.key ⟨bytes, now + ttl⟩) (state.current.insert wrapped.scope wrapped.key)).map
    fun evicted => (.ok (), evicted)

end CacheState

section Held
variable {B : Type} {state : CacheState B} {capacity : Nat} {entries : ExtTreeMap CacheKey (CacheEntry B)}

/-- The order lists exactly the cached keys, there are not too many of them, and those in use are among them. -/
structure CacheHeld (capacity : Nat) (state : CacheState B) : Prop where
  listed : WrittenOnce state.insertionOrder state.entries
  bounded : state.entries.size ≤ capacity
  current : ∀ (scope : KeyScope) (key : CacheKey), state.current[scope]? = some key →
    key.scope = scope ∧ key ∈ state.insertionOrder

theorem CacheHeld.new : CacheHeld capacity (.new : CacheState B) :=
  ⟨.empty,by simp [CacheState.new],by simp [CacheState.new]⟩

theorem filter_size_le {keys keys' : List CacheKey} {entries' : ExtTreeMap CacheKey (CacheEntry B)}
    (h : WrittenOnce keys entries) (h' : WrittenOnce keys' entries') (hle : keys'.length ≤ keys.length)
    (hb : entries.size ≤ capacity) : entries'.size ≤ capacity := by
  rw [← h'.length_eq_size]
  rw [← h.length_eq_size] at hb
  omega

theorem CacheHeld.revokeThrough (h : CacheHeld capacity state) (scope : KeyScope) (epoch : Nat) :
    CacheHeld capacity (state.revokeThrough scope epoch) := by
  have hli : WrittenOnce (state.insertionOrder.filter (CacheState.outlives scope epoch))
      (state.entries.filter fun key _ => CacheState.outlives scope epoch key) := h.listed.filter _
  refine ⟨hli,filter_size_le h.listed hli (List.length_filter_le _ _) h.bounded,fun other key hkey => ?_⟩
  -- a scope keeps its key in use unless it is this scope with an epoch that is revoked
  have hk : state.current[other]? = some key ∧ (other = scope → epoch < key.epoch) := by
    unfold CacheState.revokeThrough at hkey
    simp only at hkey
    split at hkey
    · rw [getElem?_erase_eq] at hkey
      split at hkey
      · cases hkey
      · rename_i ho
        exact ⟨hkey,fun heq => absurd heq.symm ho⟩
    · rename_i hc
      refine ⟨hkey,?_⟩
      rintro rfl
      rw [hkey] at hc
      simpa using hc
  obtain ⟨hs,hin⟩ := h.current other key hk.1
  refine ⟨hs,List.mem_filter.mpr ⟨hin,?_⟩⟩
  by_cases hsa : other = scope
  · simp [CacheState.outlives, hk.2 hsa]
  · have hne : key.scope ≠ scope := by
      rw [hs]
      exact hsa
    simp [CacheState.outlives, hne]

theorem CacheHeld.drop (h : CacheHeld capacity state) (key : CacheKey) : CacheHeld capacity (state.drop key) := by
  have hli : WrittenOnce (state.insertionOrder.filter fun candidate => candidate != key) (state.entries.erase key) :=
    h.listed.erase key
  refine ⟨hli,filter_size_le h.listed hli (List.length_filter_le _ _) h.bounded,fun scope candidate hc => ?_⟩
  rw [CacheState.drop, ExtTreeMap.getElem?_filter', Option.filter_eq_some_iff] at hc
  obtain ⟨hs,hin⟩ := h.current scope candidate hc.1
  exact ⟨hs,List.mem_filter.mpr ⟨hin,hc.2⟩⟩

/-- The loop ends when the order lists the entries, and drops from the front of it. -/
theorem evict_held {revokedThrough : ExtTreeMap KeyScope Nat} {order : List CacheKey}
    {current : ExtTreeMap KeyScope CacheKey} (hli : WrittenOnce order entries)
    (hc : ∀ (scope : KeyScope) (key : CacheKey), current[scope]? = some key → key.scope = scope ∧ key ∈ order) :
    ∃ evicted, CacheState.evict capacity revokedThrough order entries current = some evicted ∧
      CacheHeld capacity evicted ∧ evicted.revokedThrough = revokedThrough ∧
      ∀ (key : CacheKey) (entry : CacheEntry B), evicted.entries[key]? = some entry → entries[key]? = some entry := by
  induction order generalizing entries current with
  | nil =>
    have hem : entries.size ≤ capacity := by
      rw [← hli.length_eq_size]
      exact Nat.zero_le _
    refine ⟨_,if_pos hem,⟨hli,hem,hc⟩,rfl,fun _ _ he => he⟩
  | cons oldest order ih =>
    unfold CacheState.evict
    by_cases hb : entries.size ≤ capacity
    · exact ⟨_,if_pos hb,⟨hli,hb,hc⟩,rfl,fun _ _ he => he⟩
    · rw [if_neg hb]
      have hre : ∀ (scope : KeyScope) (key : CacheKey),
          (current.filter fun _ key => key != oldest)[scope]? = some key → key.scope = scope ∧ key ∈ order := by
        intro scope key hkey
        rw [ExtTreeMap.getElem?_filter', Option.filter_eq_some_iff] at hkey
        obtain ⟨hs,hin⟩ := hc scope key hkey.1
        refine ⟨hs,(List.mem_cons.mp hin).resolve_left ?_⟩
        simpa using hkey.2
      obtain ⟨evicted,hev,hh,hr,hes⟩ := ih hli.tail hre
      refine ⟨evicted,hev,hh,hr,fun key entry he => ?_⟩
      exact of_getElem?_erase (hes key entry he)

def CacheState.orderWith (state : CacheState B) (key : CacheKey) : List CacheKey :=
  if state.entries.contains key then state.insertionOrder else state.insertionOrder ++ [key]

section
variable (h : CacheHeld capacity state)
include h

theorem CacheHeld.listed_insert (key : CacheKey) (entry : CacheEntry B) :
    WrittenOnce (state.orderWith key) (state.entries.insert key entry) := by
  have hget : ∀ a : CacheKey, (state.entries.insert key entry)[a]? = if key = a then some entry else state.entries[a]? :=
    fun a => getElem?_insert_eq _ _ _ _
  unfold CacheState.orderWith
  rw [ExtTreeMap.contains_eq_isSome_getElem?]
  cases he : state.entries[key]? with
  | none => exact h.listed.write he hget
  | some old =>
    refine h.listed.congr fun a => ?_
    rw [hget]
    split
    · rename_i hs
      rw [← hs, he]
      rfl
    · rfl

theorem CacheHeld.mem_orderWith {key other : CacheKey} (entry : CacheEntry B)
    (ho : other = key ∨ other ∈ state.insertionOrder) : other ∈ state.orderWith key := by
  rw [← (h.listed_insert key entry).present, getElem?_insert_eq]
  split
  · rfl
  · rename_i hne
    exact (h.listed.present other).mpr (ho.resolve_left (Ne.symm hne))

/-- An insertion ends; it is refused, or the entry is added and others are only dropped. -/
theorem CacheHeld.insert (ttl now : Nat) (wrapped : WrappedDataKey) (bytes : B) :
    (state.isRevoked wrapped.key = true ∧
      state.insert capacity ttl now wrapped bytes = some (.error .revoked, state)) ∨
    state.isRevoked wrapped.key = false ∧ ∃ state', state.insert capacity ttl now wrapped bytes = some (.ok (), state') ∧
      CacheHeld capacity state' ∧ state'.revokedThrough = state.revokedThrough ∧
      ∀ (key : CacheKey) (entry : CacheEntry B), state'.entries[key]? = some entry →
        (key = wrapped.key ∧ entry.expiresAt = now + ttl) ∨ state.entries[key]? = some entry := by
  unfold CacheState.insert
  rw [← CacheState.orderWith]
  cases hr : state.isRevoked wrapped.key with
  | true => exact .inl ⟨rfl,rfl⟩
  | false =>
    refine .inr ⟨rfl,?_⟩
    have hc : ∀ (scope : KeyScope) (key : CacheKey),
        (state.current.insert wrapped.scope wrapped.key)[scope]? = some key →
        key.scope = scope ∧ key ∈ state.orderWith wrapped.key := by
      intro scope key hkey
      rcases of_getElem?_insert hkey with ⟨hsa,rfl⟩ | hkey
      · exact ⟨hsa,h.mem_orderWith ⟨bytes, now + ttl⟩ (.inl rfl)⟩
      · obtain ⟨hs,hin⟩ := h.current scope key hkey
        exact ⟨hs,h.mem_orderWith ⟨bytes, now + ttl⟩ (.inr hin)⟩
    obtain ⟨evicted,hev,hh,hsa,hes⟩ := evict_held (h.listed_insert wrapped.key ⟨bytes, now + ttl⟩) hc
    refine ⟨evicted,?_,hh,hsa,fun key entry he => ?_⟩
    · rw [hev]
      rfl
    · have hins := hes key entry he
      rcases of_getElem?_insert hins with ⟨hkey,rfl⟩ | hins
      · exact .inl ⟨hkey.symm,rfl⟩
      · exact .inr hins

end

end Held

end BpmpPlatform.Keys
