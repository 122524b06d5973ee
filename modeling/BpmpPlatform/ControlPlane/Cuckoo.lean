import BpmpPlatform.Library.CuckooFilter
import BpmpPlatform.Library.Runs
import BpmpPlatform.ControlPlane.Context

/-! # The filter of granted permissions

Each tenant has a cuckoo filter of the permissions granted to its users, and a permission that it does not contain is
rejected. A grant is not inserted when its key seems to be there already, and a revocation deletes whichever copy it
meets.
-/
namespace BpmpPlatform.ControlPlane
open CuckooFilter

def filterBuckets : Nat := 262144

structure GrantedPermission where
  tenant : TenantId
  user : UserId
  code : String
  deriving DecidableEq

/-- `generate_key`. -/
def GrantedPermission.key (p : GrantedPermission) : String := p.user.uuid.text ++ ":" ++ p.code

inductive PermissionCall
  | grant (permission : GrantedPermission) (choices : Choices)
  | revoke (permission : GrantedPermission)

abbrev TenantFilters (F : Type) := TenantId → Option (Buckets filterBuckets F)

section Filter
variable {F : Type} [DecidableEq F] (h : Hashing filterBuckets F String)

def granted (choices : Choices) (b : Buckets filterBuckets F) (key : String) : Buckets filterBuckets F :=
  if h.contains b key then b else (h.add choices b key).2

def grantPermission (choices : Choices) (filters : TenantFilters F) (p : GrantedPermission) : TenantFilters F :=
  Function.update filters p.tenant (some (granted h choices ((filters p.tenant).getD empty) p.key))

def revokePermission (filters : TenantFilters F) (p : GrantedPermission) : TenantFilters F :=
  Function.update filters p.tenant ((filters p.tenant).map fun b => h.delete b p.key)

def mightHavePermission (filters : TenantFilters F) (p : GrantedPermission) : Bool :=
  (filters p.tenant).elim true fun b => h.contains b p.key

def cuckooFastReject (filters : TenantFilters F) (typedQuery : Bool) (tenant : TenantId) (user : UserId)
    (resourceType action : String) : Bool :=
  !typedQuery && !mightHavePermission h filters ⟨tenant, user, resourceType ++ ":" ++ action⟩

structure GrantRun (F : Type) where
  filters : TenantFilters F
  isGranted : GrantedPermission → Bool

def GrantRun.start : GrantRun F := ⟨fun _ => none, fun _ => false⟩

def GrantRun.step (run : GrantRun F) : PermissionCall → GrantRun F
  | .grant p choices => ⟨grantPermission h choices run.filters p, fun q => decide (q = p) || run.isGranted q⟩
  | .revoke p => ⟨revokePermission h run.filters p, fun q => !decide (q = p) && run.isGranted q⟩

def GrantRun.calls (run : GrantRun F) (calls : List PermissionCall) : GrantRun F := calls.foldl (GrantRun.step h) run

/-- No granted permission is missing from the filter, and no request for one is rejected before the evaluation. -/
def GrantRun.Complete (run : GrantRun F) : Prop :=
  ∀ p, run.isGranted p = true → mightHavePermission h run.filters p = true ∧
    ∀ typedQuery resourceType action, p.code = resourceType ++ ":" ++ action →
      cuckooFastReject h run.filters typedQuery p.tenant p.user resourceType action = false

def SharesEntry (p q : GrantedPermission) : Prop :=
  h.fingerprint q.key = h.fingerprint p.key ∧ h.index q.key ∈ h.pair (h.fingerprint p.key) (h.index p.key)

/-- A grant that is inserted finds a place; a revocation names a permission that shares its entry with no other granted
permission of the tenant. -/
def GrantRun.Safe (run : GrantRun F) : PermissionCall → Prop
  | .grant p choices => h.contains ((run.filters p.tenant).getD empty) p.key = false →
      (h.add choices ((run.filters p.tenant).getD empty) p.key).1 = true
  | .revoke p => ∀ q, run.isGranted q = true → q.tenant = p.tenant → q ≠ p → ¬ SharesEntry h q p

def GrantRun.buckets (run : GrantRun F) (tenant : TenantId) : Buckets filterBuckets F := (run.filters tenant).getD empty

theorem contains_empty (key : String) : h.contains (empty : Buckets filterBuckets F) key = false := by
  simp [Hashing.contains, empty]

variable {p : GrantedPermission}

theorem mightHavePermission_of_contains {run : GrantRun F}
    (hp : h.contains (run.buckets p.tenant) p.key = true) : mightHavePermission h run.filters p = true := by
  rw [GrantRun.buckets] at hp
  rw [mightHavePermission]
  cases hfi : run.filters p.tenant with
  | none => rfl
  | some =>
    rw [hfi] at hp
    exact hp

theorem granted_of_absent {choices : Choices} {b : Buckets filterBuckets F} {key : String}
    (hkey : h.contains b key = false) : granted h choices b key = (h.add choices b key).2 :=
  if_neg (by rw [hkey]; decide)

theorem buckets_grant (run : GrantRun F) (p : GrantedPermission) (choices : Choices) :
    (run.step h (.grant p choices)).buckets =
      Function.update run.buckets p.tenant (granted h choices (run.buckets p.tenant) p.key) :=
  Function.comp_update (fun b : Option (Buckets filterBuckets F) => b.getD empty) run.filters p.tenant _

theorem buckets_revoke (run : GrantRun F) (p : GrantedPermission) :
    (run.step h (.revoke p)).buckets =
      Function.update run.buckets p.tenant (h.delete (run.buckets p.tenant) p.key) := by
  refine (Function.comp_update (fun b : Option (Buckets filterBuckets F) => b.getD empty) run.filters p.tenant _).trans
    (congrArg _ ?_)
  rw [GrantRun.buckets]
  cases run.filters p.tenant with
  | none => exact (delete_absent h (contains_empty h p.key)).symm
  | some => rfl

def entryCopies (b : Buckets filterBuckets F) (p : GrantedPermission) : Nat :=
  h.copies b (h.fingerprint p.key) (h.index p.key)

/-- Every granted permission has its entry, no entry stands twice, and every entry is that of a granted permission. -/
structure FilterHeld (run : GrantRun F) : Prop where
  present : ∀ p, run.isGranted p = true → 0 < entryCopies h (run.buckets p.tenant) p
  single : ∀ t f i, h.copies (run.buckets t) f i ≤ 1
  owned : ∀ t f i, 0 < h.copies (run.buckets t) f i →
    ∃ p, run.isGranted p = true ∧ p.tenant = t ∧ h.fingerprint p.key = f ∧ h.index p.key ∈ h.pair f i

namespace FilterHeld

theorem start : FilterHeld h (GrantRun.start : GrantRun F) where
  present := fun _ hp => nomatch hp
  single := fun t f i => by
    rw [show (GrantRun.start : GrantRun F).buckets t = empty from rfl, copies_empty]
    exact Nat.zero_le 1
  owned := fun t f i hpos => by
    rw [show (GrantRun.start : GrantRun F).buckets t = empty from rfl, copies_empty] at hpos
    exact absurd hpos (Nat.lt_irrefl 0)

variable {h} {run : GrantRun F}
variable {p : GrantedPermission} {choices : Choices} {call : PermissionCall}

section
variable (held : FilterHeld h run)
include held

theorem contains (hp : run.isGranted p = true) : h.contains (run.buckets p.tenant) p.key = true :=
  (contains_iff h).mpr (held.present p hp)

theorem complete : run.Complete h := by
  intro p hp
  have hmi := mightHavePermission_of_contains h (held.contains hp)
  refine ⟨hmi,fun typedQuery resourceType action hc => ?_⟩
  have hs : (⟨p.tenant, p.user, resourceType ++ ":" ++ action⟩ : GrantedPermission) = p := by rw [← hc]
  rw [cuckooFastReject, hs, hmi]
  exact Bool.and_false _

/-- Only the record of what is granted changes. -/
theorem of_buckets_eq {run' : GrantRun F} (hb : run'.buckets = run.buckets)
    (hp : ∀ q, run'.isGranted q = true → 0 < entryCopies h (run.buckets q.tenant) q)
    (hk : ∀ q, run.isGranted q = true → run'.isGranted q = true) : FilterHeld h run' := by
  refine ⟨fun q hq => ?_,fun t f i => ?_,fun t f i hpos => ?_⟩
  · rw [hb]
    exact hp q hq
  · rw [hb]
    exact held.single t f i
  · rw [hb] at hpos
    obtain ⟨q,hq,hr⟩ := held.owned t f i hpos
    exact ⟨q,hk q hq,hr⟩

/-- The key seems to be there. -/
theorem grant_contained
    (hp : h.contains (run.buckets p.tenant) p.key = true) : FilterHeld h (run.step h (.grant p choices)) := by
  refine held.of_buckets_eq ?_ (fun q hq => ?_) fun q hq => Bool.or_eq_true_iff.mpr (.inr hq)
  · rw [buckets_grant, granted, if_pos hp, Function.update_eq_self]
  · rcases Bool.or_eq_true_iff.mp hq with heq | hold
    · obtain rfl := of_decide_eq_true heq
      exact (contains_iff h).mp hp
    · exact held.present q hold

theorem grant_inserted (hp : h.contains (run.buckets p.tenant) p.key = false)
    (hc : ∀ f i, h.copies (h.add choices (run.buckets p.tenant) p.key).2 f i
      = h.copies (run.buckets p.tenant) f i + h.clash f i (h.fingerprint p.key) (h.index p.key)) :
    FilterHeld h (run.step h (.grant p choices)) := by
  have hab : entryCopies h (run.buckets p.tenant) p = 0 :=
    Nat.eq_zero_of_not_pos fun hpos => by simp [(contains_iff h).mpr hpos] at hp
  have hb : ∀ t f i, h.copies ((run.step h (.grant p choices)).buckets t) f i
      = h.copies (run.buckets t) f i + if t = p.tenant then h.clash f i (h.fingerprint p.key) (h.index p.key) else 0 := by
    intro t f i
    rw [buckets_grant, granted_of_absent h hp, Function.update_apply]
    split
    · rename_i ht
      rw [ht, hc]
    · rfl
  refine ⟨fun q hq => ?_,fun t f i => ?_,fun t f i hpos => ?_⟩
  · rw [entryCopies, hb]
    rcases Bool.or_eq_true_iff.mp hq with heq | hold
    · obtain rfl := of_decide_eq_true heq
      rw [if_pos rfl, clash_self]
      exact Nat.succ_pos _
    · exact Nat.add_pos_left (held.present q hold) _
  · rw [hb]
    have hone := held.single t f i
    by_cases hcl : t = p.tenant ∧ h.fingerprint p.key = f ∧ h.index p.key ∈ h.pair f i
    · obtain ⟨rfl,rfl,hmem⟩ := hcl
      have hz : h.copies (run.buckets p.tenant) (h.fingerprint p.key) i = 0 := by
        rw [← copies_eq h hmem]
        exact hab
      rw [hz, if_pos rfl, Hashing.clash, if_pos ⟨rfl,hmem⟩]
    · split
      · rename_i ht
        rw [Hashing.clash, if_neg fun hbo => hcl ⟨ht,hbo⟩]
        exact hone
      · exact hone
  · rw [hb] at hpos
    by_cases hold : 0 < h.copies (run.buckets t) f i
    · obtain ⟨q,hq,hr⟩ := held.owned t f i hold
      exact ⟨q,Bool.or_eq_true_iff.mpr (.inr hq),hr⟩
    · have hnew : 0 < if t = p.tenant then h.clash f i (h.fingerprint p.key) (h.index p.key) else 0 := by omega
      split at hnew
      · rename_i ht
        rw [Hashing.clash] at hnew
        split at hnew
        · rename_i hbo
          exact ⟨p,Bool.or_eq_true_iff.mpr (.inl (decide_eq_true rfl)),ht.symm,hbo⟩
        · exact absurd hnew (Nat.lt_irrefl 0)
      · exact absurd hnew (Nat.lt_irrefl 0)

/-- The entry of the revoked permission is not there. -/
theorem revoke_absent
    (hp : h.contains (run.buckets p.tenant) p.key = false) : FilterHeld h (run.step h (.revoke p)) := by
  refine held.of_buckets_eq ?_ (fun q hq => held.present q (Bool.and_eq_true_iff.mp hq).2) fun q hq => ?_
  · rw [buckets_revoke, delete_absent h hp, Function.update_eq_self]
  · have hne : q ≠ p := fun heq => by
      subst heq
      rw [held.contains hq] at hp
      exact absurd hp (by decide)
    simp [GrantRun.step, hne, hq]

/-- The entry of the revoked permission is deleted, and it was no other permission's. -/
theorem revoke_deleted (hs : run.Safe h (.revoke p))
    (hp : h.contains (run.buckets p.tenant) p.key = true) : FilterHeld h (run.step h (.revoke p)) := by
  have hb : ∀ t f i, h.copies ((run.step h (.revoke p)).buckets t) f i
      + (if t = p.tenant then h.clash f i (h.fingerprint p.key) (h.index p.key) else 0) = h.copies (run.buckets t) f i := by
    intro t f i
    rw [buckets_revoke, Function.update_apply]
    by_cases ht : t = p.tenant
    · rw [if_pos ht, if_pos ht, ht]
      exact copies_delete h hp f i
    · rw [if_neg ht, if_neg ht]
      rfl
  refine ⟨fun q hq => ?_,fun t f i => ?_,fun t f i hpos => ?_⟩
  · obtain ⟨hne,hold⟩ := Bool.and_eq_true_iff.mp hq
    have hne' : q ≠ p := by simpa using hne
    have hc := hb q.tenant (h.fingerprint q.key) (h.index q.key)
    have hbef := held.present q hold
    rw [entryCopies] at hbef ⊢
    split at hc
    · rename_i ht
      rw [Hashing.clash, if_neg (show ¬(_ ∧ _) from hs q hold ht hne')] at hc
      omega
    · omega
  · have hc := hb t f i
    have hone := held.single t f i
    omega
  · have hc := hb t f i
    have hbef : 0 < h.copies (run.buckets t) f i := by omega
    obtain ⟨q,hq,ht,hf,hi⟩ := held.owned t f i hbef
    refine ⟨q,?_,ht,hf,hi⟩
    have hne : q ≠ p := by
      rintro rfl
      have hone := held.single t f i
      rw [if_pos ht.symm, Hashing.clash, if_pos ⟨hf,hi⟩] at hc
      omega
    simp [GrantRun.step, hne, hq]

end

variable (held : FilterHeld h run)
include held

theorem step (hs : run.Safe h call) : FilterHeld h (run.step h call) := by
  cases call with
  | grant p choices =>
    cases hp : h.contains (run.buckets p.tenant) p.key with
    | true => exact held.grant_contained hp
    | false =>
      rcases copies_add h choices (run.buckets p.tenant) p.key with ⟨-,hc⟩ | ⟨hfa,-⟩
      · exact held.grant_inserted hp hc
      · have hd : (h.add choices (run.buckets p.tenant) p.key).1 = true := hs hp
        rw [hfa] at hd
        exact absurd hd (by decide)
  | revoke p =>
    cases hp : h.contains (run.buckets p.tenant) p.key with
    | true => exact held.revoke_deleted hs hp
    | false => exact held.revoke_absent hp

/-- A failed insertion loses the entry of some granted permission. -/
theorem lost_of_failed (hp : h.contains (run.buckets p.tenant) p.key = false)
    (hfa : (h.add choices (run.buckets p.tenant) p.key).1 = false) :
    ∃ q, q.tenant = p.tenant ∧ (run.step h (.grant p choices)).isGranted q = true ∧
      h.contains (h.add choices (run.buckets p.tenant) p.key).2 q.key = false := by
  have hab : h.copies (run.buckets p.tenant) (h.fingerprint p.key) (h.index p.key) = 0 :=
    Nat.eq_zero_of_not_pos fun hpos => by simp [(contains_iff h).mpr hpos] at hp
  have hg : ∀ {q : GrantedPermission} {f : F} {i}, h.fingerprint q.key = f → h.index q.key ∈ h.pair f i →
      h.copies (h.add choices (run.buckets p.tenant) p.key).2 f i = 0 →
      h.contains (h.add choices (run.buckets p.tenant) p.key).2 q.key = false := by
    rintro q _ i rfl hi hz
    rw [← copies_eq h hi] at hz
    exact Bool.eq_false_iff.mpr fun hco => by
      have hpos := (contains_iff h).mp hco
      omega
  rcases copies_add h choices (run.buckets p.tenant) p.key with ⟨hd,-⟩ | ⟨-,o,l,hc⟩
  · rw [hfa] at hd
    exact absurd hd (by decide)
  · have hat := hc o l
    rw [clash_self] at hat
    by_cases hown : h.fingerprint p.key = o ∧ h.index p.key ∈ h.pair o l
    · -- The fingerprint of the new key itself came out last.
      have hz : h.copies (run.buckets p.tenant) o l = 0 := by
        obtain ⟨rfl,hi⟩ := hown
        rw [← copies_eq h hi]
        exact hab
      rw [hz, Hashing.clash, if_pos hown] at hat
      exact ⟨p,rfl,by simp [GrantRun.step],hg hown.1 hown.2 (by omega)⟩
    · rw [Hashing.clash, if_neg hown] at hat
      have hone := held.single p.tenant o l
      obtain ⟨q,hq,ht,hf,hi⟩ := held.owned p.tenant o l (by omega)
      exact ⟨q,ht,by simp [GrantRun.step, hq],hg hf hi (by omega)⟩

theorem grant_safe (hn : (run.step h (.grant p choices)).Complete h) : run.Safe h (.grant p choices) := by
  intro hp
  by_contra hfa
  obtain ⟨q,ht,hq,hg⟩ := held.lost_of_failed hp (Bool.eq_false_iff.mpr hfa)
  have hmi := (hn q hq).1
  simp only [mightHavePermission, GrantRun.step, grantPermission, ht, Function.update_self, Option.elim_some] at hmi
  rw [granted_of_absent h hp] at hmi
  exact absurd (hmi.symm.trans hg) (by decide)

theorem revoke_safe (hn : (run.step h (.revoke p)).Complete h) : run.Safe h (.revoke p) := by
  intro q hq ht hne hsh
  have hbef : 0 < h.copies (run.buckets p.tenant) (h.fingerprint q.key) (h.index q.key) := by
    rw [← ht]
    exact held.present q hq
  have hp : h.contains (run.buckets p.tenant) p.key = true := by
    rw [contains_iff, hsh.1, copies_eq h hsh.2]
    exact hbef
  have hc := copies_delete h hp (h.fingerprint q.key) (h.index q.key)
  rw [Hashing.clash, if_pos (show _ ∧ _ from hsh)] at hc
  have hone := held.single p.tenant (h.fingerprint q.key) (h.index q.key)
  have hmi := (hn q (by simp [GrantRun.step, hne, hq])).1
  simp only [mightHavePermission, GrantRun.step, revokePermission, ht, Function.update_self] at hmi
  cases hfi : run.filters p.tenant with
  | none =>
    rw [show run.buckets p.tenant = empty from by rw [GrantRun.buckets, hfi]; rfl, copies_empty] at hbef
    exact absurd hbef (Nat.lt_irrefl 0)
  | some b =>
    have hb : run.buckets p.tenant = b := by rw [GrantRun.buckets, hfi]; rfl
    rw [hb] at hc hone
    rw [hfi, Option.map_some, Option.elim_some, contains_iff] at hmi
    omega

theorem safe (hn : (run.step h call).Complete h) : run.Safe h call := by
  cases call with
  | grant => exact held.grant_safe hn
  | revoke => exact held.revoke_safe hn

end FilterHeld

/-- In every run of grants and revocations, no granted permission is ever missing from the filter exactly when every
inserted grant finds a place and every revocation names a permission that shares its entry with no other granted
permission of the tenant. -/
theorem cuckoo_complete_iff (calls : List PermissionCall) :
    (∀ done rest, calls = done ++ rest → (GrantRun.start.calls h done).Complete h) ↔
      ∀ done call rest, calls = done ++ call :: rest → (GrantRun.start.calls h done).Safe h call :=
  Runs.good_iff_safe (fun _ held => held.complete) (fun _ _ held hsafe => held.step hsafe)
    (fun _ _ held hnext => held.safe hnext) (FilterHeld.start h) calls

end Filter

namespace Sample

def colliding : Hashing filterBuckets Unit String where
  fingerprint := fun _ => ()
  index := fun _ => ⟨0, by decide⟩
  alternate := fun _ i => i
  alternate_alternate := fun _ _ => rfl

def choices : Choices := ⟨false, fun _ => ⟨0, by decide⟩⟩

def reads : GrantedPermission := ⟨⟨uuid 1⟩, ⟨uuid 2⟩, "document:read"⟩

def writes : GrantedPermission := ⟨⟨uuid 1⟩, ⟨uuid 2⟩, "document:write"⟩

end Sample

open BpmpPlatform.ControlPlane.Sample

/-- Two permissions share an entry. The second grant is skipped, the revocation of the first deletes the entry, and a
request for the second, still granted, is rejected. -/
theorem colliding_revocation_rejects :
    let run := GrantRun.start.calls colliding
      [.grant reads choices, .grant writes choices, .revoke reads]
    run.isGranted writes = true ∧ mightHavePermission colliding run.filters writes = false ∧
      cuckooFastReject colliding run.filters false writes.tenant writes.user "document" "write"
        = true := by
  decide +kernel

end BpmpPlatform.ControlPlane
