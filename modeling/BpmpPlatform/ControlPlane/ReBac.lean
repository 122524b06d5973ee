import Mathlib.Data.Finset.Basic
import Mathlib.Logic.Function.Basic

/-! # Relationship checks

A check is a depth-first search of the relation graph under growing depth limits, and its answer is kept. The search
unmarks a node when it leaves it.
-/
namespace BpmpPlatform.ControlPlane

section Search
variable (neighbors : String → List String) (target : String) {current : String} {limit : Nat}

/-- The loop over the neighbours of a node; the first search that succeeds ends it. -/
def searchNeighbors (search : String → Finset String → Bool × Finset String) :
    List String → Finset String → Bool × Finset String
  | [], visited => (false, visited)
  | next :: rest, visited =>
    match search next visited with
    | (true, visited) => (true, visited)
    | (false, visited) => searchNeighbors search rest visited

def dfsWithLimit (limit : Nat) (current : String) (visited : Finset String) : Bool × Finset String :=
  if current = target then (true, visited)
  else match limit with
  | 0 => (false, visited)
  | limit + 1 =>
    if current ∈ visited then (false, visited)
    else match searchNeighbors (dfsWithLimit limit) (neighbors current) (insert current visited) with
    | (true, visited) => (true, visited)
    -- backtracking frees the node for other paths
    | (false, visited) => (false, visited.erase current)

/-- A path to the target with at most so many edges. -/
inductive Path : Nat → String → Prop
  | found {limit : Nat} : Path limit target
  | edge {limit : Nat} {current next : String} (he : next ∈ neighbors current) (rest : Path limit next) : Path (limit + 1) current

variable {neighbors target}

theorem Path.mono {more : Nat} (h : Path neighbors target limit current) (hl : limit ≤ more) :
    Path neighbors target more current := by
  induction h generalizing more with
  | found => exact .found
  | edge he _ ih =>
    obtain ⟨more,rfl⟩ := Nat.exists_eq_succ_of_ne_zero (show more ≠ 0 by omega)
    exact .edge he (ih (Nat.le_of_succ_le_succ hl))

theorem searchNeighbors_spec {search : String → Finset String → Bool × Finset String} {visited : Finset String}
    (h : ∀ next, (search next visited).1 = false → (search next visited).2 = visited) (nodes : List String) :
    ((searchNeighbors search nodes visited).1 = true ↔ ∃ next ∈ nodes, (search next visited).1 = true) ∧
      ((searchNeighbors search nodes visited).1 = false → (searchNeighbors search nodes visited).2 = visited) := by
  induction nodes with
  | nil => simp [searchNeighbors]
  | cons next rest ih =>
    have hn := h next
    rw [searchNeighbors, List.exists_mem_cons_iff]
    rcases hs : search next visited with ⟨_ | _,after⟩
    · rw [hs] at hn
      cases hn rfl
      simpa using ih
    · simp

/-- A search that fails leaves the visited nodes as they were, and then its neighbours decide. -/
theorem dfsWithLimit_spec (limit : Nat) (current : String) (visited : Finset String) :
    ((dfsWithLimit neighbors target limit current visited).1 = false →
      (dfsWithLimit neighbors target limit current visited).2 = visited) ∧
    ((dfsWithLimit neighbors target limit current visited).1 = true ↔ current = target ∨ ∃ fewer, limit = fewer + 1 ∧
      current ∉ visited ∧ ∃ next ∈ neighbors current,
        (dfsWithLimit neighbors target fewer next (insert current visited)).1 = true) := by
  induction limit generalizing current visited with
  | zero =>
    rw [dfsWithLimit]
    split <;> simp [*]
  | succ limit ih =>
    obtain ⟨hf,hv⟩ := searchNeighbors_spec (fun next => (ih next (insert current visited)).1) (neighbors current)
    rw [dfsWithLimit]
    split
    · simp [*]
    · next hne =>
      split
      · next hin => simp [hne, hin]
      · next hin =>
        simp only [hne, hin, Nat.add_right_cancel_iff, exists_eq_left', false_or, not_false_eq_true, true_and, ← hf]
        rcases hs : searchNeighbors (dfsWithLimit neighbors target limit) (neighbors current) (insert current visited)
          with ⟨_ | _,after⟩
        · rw [hs] at hv
          cases hv rfl
          exact ⟨fun _ => Finset.erase_insert hin,Iff.rfl⟩
        · exact ⟨nofun,Iff.rfl⟩

theorem path_of_found (limit : Nat) (current : String) (visited : Finset String)
    (h : (dfsWithLimit neighbors target limit current visited).1 = true) : Path neighbors target limit current := by
  induction limit generalizing current visited with
  | zero =>
    rcases (dfsWithLimit_spec ..).2.mp h with rfl | ⟨_,⟨⟩,_⟩
    exact .found
  | succ limit ih =>
    rcases (dfsWithLimit_spec ..).2.mp h with rfl | ⟨_,⟨⟩,_,next,he,hn⟩
    · exact .found
    · exact .edge he (ih next _ hn)

/-- The shortest path is found: no visited node is on it. -/
theorem found_of_path (limit : Nat) (current : String) (visited : Finset String)
    (h : Path neighbors target limit current) (hm : ∀ fewer < limit, ¬Path neighbors target fewer current)
    (hv : ∀ node ∈ visited, ¬Path neighbors target limit node) :
    (dfsWithLimit neighbors target limit current visited).1 = true := by
  induction h generalizing visited with
  | found => exact (dfsWithLimit_spec ..).2.mpr (.inl rfl)
  | @edge limit current next he rest ih =>
    refine (dfsWithLimit_spec ..).2.mpr (.inr ⟨limit,rfl,fun hin => hv current hin (.edge he rest),next,he,ih _ ?_ ?_⟩)
    · exact fun fewer hl hp => hm (fewer + 1) (Nat.succ_lt_succ hl) (.edge he hp)
    · refine Finset.forall_mem_insert .. |>.mpr ⟨hm limit (Nat.lt_succ_self _),fun node hin hp => ?_⟩
      exact hv node hin (hp.mono (Nat.le_succ _))

theorem Path.deepened (h : Path neighbors target limit current) :
    ∃ fewer, 1 ≤ fewer ∧ fewer ≤ max 1 limit ∧ (dfsWithLimit neighbors target fewer current ∅).1 = true := by
  induction limit with
  | zero =>
    cases h
    exact ⟨1,le_rfl,le_rfl,(dfsWithLimit_spec ..).2.mpr (.inl rfl)⟩
  | succ limit ih =>
    by_cases hp : Path neighbors target limit current
    · obtain ⟨fewer,hf,hle,hd⟩ := ih hp
      exact ⟨fewer,hf,by omega,hd⟩
    · refine ⟨limit + 1,by omega,by omega,found_of_path _ _ _ h (fun fewer hl hf => ?_) (by simp)⟩
      exact hp (hf.mono (Nat.le_of_lt_succ hl))

end Search

structure ReachabilityKey where
  tenantId : String
  subject : String
  relation : String
  target : String
  deriving DecidableEq

/-- The search under the limits one to the largest. -/
def deepen (getNeighbors : String → String → String → List String) (maxDepth : Nat) (key : ReachabilityKey) : Bool :=
  (List.range' 1 maxDepth).any fun limit =>
    (dfsWithLimit (fun node => getNeighbors key.tenantId node key.relation) key.target limit key.subject ∅).1

/-- The memo holds answers of the search; it may drop any of them. -/
structure PermissionIddfsEngine where
  getNeighbors : String → String → String → List String
  maxDepth : Nat
  memo : ReachabilityKey → Option Bool := fun _ => none
  memo_searched : ∀ key, memo key = none ∨ memo key = some (deepen getNeighbors maxDepth key) := by exact fun _ => .inl rfl

namespace PermissionIddfsEngine
variable (engine : PermissionIddfsEngine)

def checkPermission (key : ReachabilityKey) : Bool × PermissionIddfsEngine :=
  match engine.memo key with
  | some cached => (cached, engine)
  | none =>
    let found := deepen engine.getNeighbors engine.maxDepth key
    (found, { engine with
      memo := Function.update engine.memo key (some found)
      memo_searched := fun other => by
        rw [Function.update_apply]
        split
        · next ho => exact .inr (ho ▸ rfl)
        · exact engine.memo_searched other })

/-- A check finds the target exactly when a path of at most the largest depth leads there; the depth limits start at
one. -/
theorem check_permission_iff (key : ReachabilityKey) : (engine.checkPermission key).1 = true ↔ 1 ≤ engine.maxDepth ∧
    Path (fun node => engine.getNeighbors key.tenantId node key.relation) key.target engine.maxDepth key.subject := by
  have hc : (engine.checkPermission key).1 = deepen engine.getNeighbors engine.maxDepth key := by
    rcases engine.memo_searched key with hm | hm <;> rw [checkPermission, hm]
  rw [hc, deepen, List.any_eq_true]
  simp only [List.mem_range'_1]
  constructor
  · rintro ⟨limit,hl,hf⟩
    exact ⟨by omega,(path_of_found _ _ _ hf).mono (by omega)⟩
  · rintro ⟨hl,hp⟩
    obtain ⟨limit,hf,hle,hd⟩ := hp.deepened
    exact ⟨limit,by omega,hd⟩

end PermissionIddfsEngine
end BpmpPlatform.ControlPlane
