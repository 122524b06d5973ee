import BpmpPlatform.Library.Outcome

/-! # Ordered maps

Rules beyond lookup after `insert` and `erase`: repeated removal, selection of keys by value, weights, and indexing a
list by distinct keys.
-/
namespace BpmpPlatform
open Std Outcome List

variable {A K : Type}

/-- A comparison by one part and then by the others is lawful when the parts determine the key. -/
theorem lawfulEqCmp_compareLex [Ord A] [LawfulEqOrd A] {part : K → A} {rest : K → K → Ordering} [ReflCmp rest]
    (h : ∀ a b, part a = part b → rest a b = .eq → a = b) :
    LawfulEqCmp (compareLex (compareOn part) rest) where
  compare_self := by
    simp only [compareLex, compareOn, Ordering.then_eq_eq]
    exact ⟨ReflCmp.compare_self,ReflCmp.compare_self⟩
  eq_of_compare {a b} hab := by
    simp only [compareLex, compareOn, Ordering.then_eq_eq] at hab
    exact h a b (LawfulEqOrd.eq_of_compare hab.1) hab.2

variable {B : Type}

theorem lawfulEqCmp_two [Ord A] [LawfulEqOrd A] [Ord B] [LawfulEqOrd B] {f : K → A} {g : K → B}
    (h : ∀ a b, f a = f b → g a = g b → a = b) : LawfulEqCmp (compareLex (compareOn f) (compareOn g)) :=
  lawfulEqCmp_compareLex fun a b hf hg => h a b hf (LawfulEqOrd.eq_of_compare hg)

theorem lawfulEqCmp_three {C : Type} [Ord A] [LawfulEqOrd A] [Ord B] [LawfulEqOrd B] [Ord C] [LawfulEqOrd C]
    {f : K → A} {g : K → B} {k : K → C} (h : ∀ a b, f a = f b → g a = g b → k a = k b → a = b) :
    LawfulEqCmp (compareLex (compareOn f) (compareLex (compareOn g) (compareOn k))) :=
  lawfulEqCmp_compareLex fun a b hf hr => by
    simp only [compareLex, compareOn, Ordering.then_eq_eq] at hr
    exact h a b hf (LawfulEqOrd.eq_of_compare hr.1) (LawfulEqOrd.eq_of_compare hr.2)

section Lookup
variable {K V : Type} [Ord K] [TransOrd K] [LawfulEqOrd K] [DecidableEq K] {k a : K} {w : V}

theorem getElem?_insert_eq (m : ExtTreeMap K V) (k a : K) (v : V) :
    (m.insert k v)[a]? = if k = a then some v else m[a]? := by
  rw [ExtTreeMap.getElem?_insert]
  by_cases h : k = a
  · simp [h]
  · simp [h]

theorem getElem?_erase_eq (m : ExtTreeMap K V) (k a : K) : (m.erase k)[a]? = if k = a then none else m[a]? := by
  rw [ExtTreeMap.getElem?_erase]
  by_cases h : k = a
  · simp [h]
  · simp [h]

/-- What is found after an insertion has been inserted or was there before. -/
theorem of_getElem?_insert {m : ExtTreeMap K V} {v : V} (h : (m.insert k v)[a]? = some w) :
    (k = a ∧ v = w) ∨ m[a]? = some w := by
  rw [getElem?_insert_eq] at h
  split at h
  · rename_i heq
    exact .inl ⟨heq,Option.some.inj h⟩
  · exact .inr h

theorem of_getElem?_erase {m : ExtTreeMap K V} (h : (m.erase k)[a]? = some w) : m[a]? = some w := by
  rw [getElem?_erase_eq] at h
  split at h
  · cases h
  · exact h

structure WrittenOnce (keys : List K) (m : ExtTreeMap K V) : Prop where
  nodup : keys.Nodup
  present : ∀ k, m[k]?.isSome = true ↔ k ∈ keys

omit [LawfulEqOrd K] [DecidableEq K] in
theorem WrittenOnce.empty : WrittenOnce [] (∅ : ExtTreeMap K V) := ⟨.nil,by simp⟩

variable {m top other : ExtTreeMap K V} {k : K} {v : V}

omit [LawfulEqOrd K] in
theorem WrittenOnce.write {keys : List K} {m' : ExtTreeMap K V} (h : WrittenOnce keys m)
    (hf : m[k]? = none) (hm : ∀ a : K, m'[a]? = if k = a then some v else m[a]?) : WrittenOnce (keys ++ [k]) m' := by
  have hnew : k ∉ keys := fun hk => by
    have hs := (h.present k).mpr hk
    rw [hf] at hs
    cases hs
  refine ⟨?_,?_⟩
  · exact (perm_append_singleton k keys).nodup_iff.mpr (nodup_cons.mpr ⟨hnew,h.nodup⟩)
  · intro a
    rw [hm, mem_append, mem_singleton, ← h.present a]
    split
    · rename_i heq
      simp [heq]
    · rename_i hne
      simp [Ne.symm hne]

theorem getElem?_foldl_erase (ids : List K) (m : ExtTreeMap K V) (a : K) :
    (ids.foldl (fun m id => m.erase id) m)[a]? = if a ∈ ids then none else m[a]? := by
  induction ids generalizing m with
  | nil => simp
  | cons id ids ih =>
    rw [foldl_cons, ih, getElem?_erase_eq]
    by_cases h : a ∈ ids
    · simp [h]
    · by_cases h' : id = a
      · simp [h']
      · simp [h, h', Ne.symm h']

def keysWhere (m : ExtTreeMap K V) (f : V → Bool) : List K :=
  (m.toList.filter fun entry => f entry.2).map Prod.fst

omit [DecidableEq K] in
theorem mem_keysWhere {f : V → Bool} : k ∈ keysWhere m f ↔ ∃ v, m[k]? = some v ∧ f v = true := by
  simp only [keysWhere, mem_map, mem_filter]
  constructor
  · rintro ⟨⟨k',v⟩,⟨hm,hf⟩,rfl⟩
    exact ⟨v,ExtTreeMap.mem_toList_iff_getElem?_eq_some.mp hm,hf⟩
  · rintro ⟨v,hm,hf⟩
    exact ⟨(k,v),⟨ExtTreeMap.mem_toList_iff_getElem?_eq_some.mpr hm,hf⟩,rfl⟩

omit [LawfulEqOrd K] [DecidableEq K] in
theorem nodup_keys_toList (m : ExtTreeMap K V) : (m.toList.map Prod.fst).Nodup := by
  rw [ExtTreeMap.map_fst_toList_eq_keys]
  exact ExtTreeMap.nodup_keys

omit [LawfulEqOrd K] [DecidableEq K] in
theorem nodup_keysWhere (m : ExtTreeMap K V) (f : V → Bool) : (keysWhere m f).Nodup :=
  (nodup_keys_toList m).sublist (filter_sublist.map _)

theorem foldl_erase_keysWhere (m : ExtTreeMap K V) (f : V → Bool) :
    (keysWhere m f).foldl (fun m id => m.erase id) m = m.filter fun _ v => !f v := by
  apply ExtTreeMap.ext_getElem?
  intro k
  rw [getElem?_foldl_erase, ExtTreeMap.getElem?_filter']
  by_cases hk : k ∈ keysWhere m f
  · obtain ⟨v,hv,hf⟩ := mem_keysWhere.mp hk
    simp [hk, hv, hf, Option.filter]
  · rw [if_neg hk]
    cases hv : m[k]? with
    | none => rfl
    | some v =>
      have hf : f v = false := by
        by_contra hne
        exact hk (mem_keysWhere.mpr ⟨v,hv,by simpa using hne⟩)
      simp [hf, Option.filter]

theorem getElem?_insertMany_toList (m other : ExtTreeMap K V) (k : K) :
    (m.insertMany other.toList)[k]? = other[k]?.or m[k]? := by
  have hd : other.toList.Pairwise fun a b => ¬compare a.1 b.1 = .eq := ExtTreeMap.distinct_keys_toList
  cases hk : other[k]? with
  | none =>
    have hnot : (other.toList.map Prod.fst).contains k = false := by
      rw [ExtTreeMap.map_fst_toList_eq_keys, ExtTreeMap.contains_keys, ExtTreeMap.contains_eq_isSome_getElem?, hk]
      rfl
    rw [ExtTreeMap.getElem?_insertMany_list_of_contains_eq_false hnot]
    rfl
  | some =>
    exact ExtTreeMap.getElem?_insertMany_list_of_mem ReflCmp.compare_self hd
      (ExtTreeMap.mem_toList_iff_getElem?_eq_some.mpr hk)

theorem insert_eq_self (h : m[k]? = some v) : m.insert k v = m := by
  apply ExtTreeMap.ext_getElem?
  intro a
  rw [getElem?_insert_eq]
  split
  · rename_i h'; rw [← h', h]
  · rfl

theorem insert_insert (m : ExtTreeMap K V) (k : K) (v v' : V) : (m.insert k v).insert k v' = m.insert k v' := by
  apply ExtTreeMap.ext_getElem?
  intro a
  rw [getElem?_insert_eq, getElem?_insert_eq, getElem?_insert_eq]
  split
  · rfl
  · rfl

theorem erase_insert (m : ExtTreeMap K V) (k : K) (v : V) : (m.insert k v).erase k = m.erase k := by
  apply ExtTreeMap.ext_getElem?
  intro a
  rw [getElem?_erase_eq, getElem?_erase_eq, getElem?_insert_eq]
  split
  · rfl
  · rfl

theorem erase_of_absent (h : m[k]? = none) : m.erase k = m := by
  apply ExtTreeMap.ext_getElem?
  intro a
  rw [getElem?_erase_eq]
  split
  · rename_i h'; rw [← h', h]
  · rfl

theorem erase_insert_of_absent (h : m[k]? = none) : (m.insert k v).erase k = m :=
  (erase_insert m k v).trans (erase_of_absent h)

omit [DecidableEq K] in
theorem eq_empty_iff : m.isEmpty = true ↔ ∀ k : K, m[k]? = none := by
  rw [ExtTreeMap.isEmpty_iff, ExtTreeMap.ext_getElem?_iff]
  simp only [ExtTreeMap.getElem?_empty]

omit [DecidableEq K] [LawfulEqOrd K] in
theorem not_contains_iff : (!m.contains k) = true ↔ m[k]? = none := by
  rw [ExtTreeMap.contains_eq_isSome_getElem?, Bool.not_eq_true', Option.isSome_eq_false_iff, Option.isNone_iff_eq_none]

end Lookup

section Weight
variable {K V : Type} [Ord K] [TransOrd K] [LawfulEqOrd K] [DecidableEq K]

omit [LawfulEqOrd K] [DecidableEq K] in
theorem nodup_toList (m : ExtTreeMap K V) : m.toList.Nodup := (nodup_keys_toList m).of_map

variable {m : ExtTreeMap K V} {k : K} {v : V}

/-- An entry and the map without its key list the same entries as the map that holds it. -/
theorem toList_perm_of_getElem? (h : m[k]? = some v) : m.toList.Perm ((k, v) :: (m.erase k).toList) := by
  have hab : (k, v) ∉ (m.erase k).toList := by
    rw [ExtTreeMap.mem_toList_iff_getElem?_eq_some, getElem?_erase_eq]
    simp
  refine (perm_ext_iff_of_nodup (nodup_toList m) (nodup_cons.mpr ⟨hab,nodup_toList _⟩)).mpr ?_
  rintro ⟨k',v'⟩
  rw [mem_cons, ExtTreeMap.mem_toList_iff_getElem?_eq_some,
    ExtTreeMap.mem_toList_iff_getElem?_eq_some, getElem?_erase_eq]
  by_cases hk : k = k'
  · subst hk
    rw [h]
    simp [eq_comm]
  · simp [hk, Ne.symm hk]

def weight (f : K → V → Nat) (m : ExtTreeMap K V) : Nat := (m.toList.map fun entry => f entry.1 entry.2).sum

theorem weight_erase (f : K → V → Nat) (h : m[k]? = some v) : weight f m = f k v + weight f (m.erase k) := by
  have hp := (toList_perm_of_getElem? h).map fun entry => f entry.1 entry.2
  rw [weight, hp.sum_eq]
  simp [weight]

theorem weight_insert_of_absent (f : K → V → Nat) (h : m[k]? = none) :
    weight f (m.insert k v) = f k v + weight f m := by
  have hin : (m.insert k v)[k]? = some v := by rw [getElem?_insert_eq]; simp
  rw [weight_erase f hin, erase_insert_of_absent h]

theorem weight_insert_of_present (f : K → V → Nat) {w : V} (h : m[k]? = some v) :
    weight f (m.insert k w) + f k v = weight f m + f k w := by
  have hin : (m.insert k w)[k]? = some w := by rw [getElem?_insert_eq]; simp
  rw [weight_erase f hin, erase_insert, weight_erase f h]
  omega

theorem weight_pos_iff {f : K → V → Nat} : 0 < weight f m ↔ ∃ (k : K) (v : V), m[k]? = some v ∧ 0 < f k v := by
  constructor
  · intro h
    obtain ⟨_,hx,hpos⟩ := List.sum_pos_iff_exists_pos_nat.mp h
    obtain ⟨⟨k,v⟩,he,rfl⟩ := mem_map.mp hx
    exact ⟨k,v,ExtTreeMap.mem_toList_iff_getElem?_eq_some.mp he,hpos⟩
  · rintro ⟨k,v,hk,hpos⟩
    rw [weight_erase f hk]
    omega

end Weight

section Index
variable {ε K V : Type} [Ord K] [TransOrd K]

def indexBy (check : K → V → Except ε Unit) (duplicate : K → ε) :
    ExtTreeMap K V → List (K × V) → Except ε (ExtTreeMap K V)
  | m, [] => .ok m
  | m, (k, v) :: rest => do
    check k v
    ensure (!m.contains k) (duplicate k)
    indexBy check duplicate (m.insert k v) rest

variable [LawfulEqOrd K] [DecidableEq K] {check : K → V → Except ε Unit} {duplicate : K → ε} {m : ExtTreeMap K V}
  {l : List (K × V)}

theorem indexBy_isOk_iff : (∃ m', indexBy check duplicate m l = .ok m') ↔
      (∀ e ∈ l, check e.1 e.2 = .ok ()) ∧ (l.map Prod.fst).Nodup ∧ ∀ e ∈ l, m[e.1]? = none := by
  induction l generalizing m with
  | nil => simp [indexBy]
  | cons entry rest ih =>
    obtain ⟨k,v⟩ := entry
    have hs : (∃ m', indexBy check duplicate m ((k, v) :: rest) = .ok m') ↔
        check k v = .ok () ∧ m[k]? = none ∧ ∃ m', indexBy check duplicate (m.insert k v) rest = .ok m' := by
      simp only [indexBy, bind_eq_ok, ensure_eq_ok, not_contains_iff]
      constructor
      · rintro ⟨m',_,hc,_,hn,h⟩; exact ⟨hc,hn,m',h⟩
      · rintro ⟨hc,hn,m',h⟩; exact ⟨m',(),hc,(),hn,h⟩
    rw [hs, ih]
    simp only [forall_mem_cons, map_cons, nodup_cons, mem_map, getElem?_insert_eq]
    constructor
    · rintro ⟨hc,hn,hcs,hnd,hf⟩
      refine ⟨⟨hc,hcs⟩,⟨?_,hnd⟩,hn,?_⟩
      · rintro ⟨e,he,rfl⟩
        have := hf e he
        simp at this
      · intro e he
        have := hf e he
        split at this
        · cases this
        · exact this
    · rintro ⟨⟨hc,hcs⟩,⟨hk,hnd⟩,hn,hf⟩
      refine ⟨hc,hn,hcs,hnd,?_⟩
      intro e he
      rw [if_neg fun hke => hk ⟨e,he,hke.symm⟩]
      exact hf e he

theorem indexBy_getElem? {m' : ExtTreeMap K V} (h : indexBy check duplicate m l = .ok m') (k : K) (v : V) :
    m'[k]? = some v ↔ m[k]? = some v ∨ (k, v) ∈ l := by
  induction l generalizing m with
  | nil => cases h; simp
  | cons entry rest ih =>
    obtain ⟨k',v'⟩ := entry
    have hf : m[k']? = none := (indexBy_isOk_iff.mp ⟨m',h⟩).2.2 (k', v') (by simp)
    simp only [indexBy, bind_eq_ok] at h
    obtain ⟨_,_,_,_,h⟩ := h
    rw [ih h, getElem?_insert_eq, mem_cons, Prod.mk.injEq]
    by_cases hk : k' = k
    · subst hk
      rw [hf]
      simp [eq_comm]
    · simp [hk, Ne.symm hk]

end Index

section Collect
variable {ε K V W : Type} [Ord K] [TransOrd K]

/-- `collect::<Result<BTreeMap<_, _>, _>>`: later entries win. -/
def collectMap (f : W → Except ε (K × V)) (entries : List W) : Except ε (ExtTreeMap K V) := do
  let decoded ← collectAll f entries
  return ExtTreeMap.ofList decoded

variable [LawfulEqOrd K] [DecidableEq K]

theorem getElem?_ofList_iff {l : List (K × V)} (h : (l.map Prod.fst).Nodup) {k : K} {v : V} :
    (ExtTreeMap.ofList l)[k]? = some v ↔ (k, v) ∈ l := by
  have hd : l.Pairwise fun a b => ¬compare a.1 b.1 = .eq := by
    refine (pairwise_map.mp h).imp ?_
    intro a b hne heq
    exact hne (LawfulEqOrd.eq_of_compare heq)
  have hmem {v : V} (hv : (k, v) ∈ l) : (ExtTreeMap.ofList l)[k]? = some v :=
    ExtTreeMap.getElem?_ofList_of_mem ReflOrd.compare_self hd hv
  refine ⟨?_,hmem⟩
  intro hk
  have hin : k ∈ ExtTreeMap.ofList l := ExtTreeMap.mem_iff_isSome_getElem?.mpr (Option.isSome_of_eq_some hk)
  rw [ExtTreeMap.mem_ofList, contains_iff_mem] at hin
  obtain ⟨⟨k',v'⟩,hv',rfl⟩ := mem_map.mp hin
  rw [hmem hv', Option.some.injEq] at hk
  exact hk ▸ hv'

theorem ofList_toList (m : ExtTreeMap K V) : ExtTreeMap.ofList m.toList = m := by
  apply ExtTreeMap.ext_getElem?
  intro k
  apply Option.ext
  intro v
  rw [getElem?_ofList_iff (nodup_keys_toList m), ExtTreeMap.mem_toList_iff_getElem?_eq_some]

/-- Decoding the entries of a map gives the map back exactly when each entry is decoded to itself. -/
theorem collectMap_toList_eq_ok {f : W → Except ε (K × V)} {g : K × V → W}
    (hkey : ∀ k v k' v', f (g (k, v)) = .ok (k', v') → k' = k) (m : ExtTreeMap K V) :
    collectMap f (m.toList.map g) = .ok m ↔ ∀ k v, m[k]? = some v → f (g (k, v)) = .ok (k, v) := by
  simp only [collectMap, bind_eq_ok, pure_eq_ok, collectAll_eq_ok, forall₂_map_left_iff]
  constructor
  · rintro ⟨l,hl,hm⟩ k v hv
    -- the decoded entries have the keys of the map, so each holds the value of its key
    have hk : l.map Prod.fst = m.toList.map Prod.fst :=
      map_eq_of_forall₂ hl.flip fun p q h => hkey q.1 q.2 p.1 p.2 h
    have hnd : (l.map Prod.fst).Nodup := hk ▸ nodup_keys_toList m
    have hin := ExtTreeMap.mem_toList_iff_getElem?_eq_some.mpr hv
    obtain ⟨⟨k',v'⟩,hmem,hdec⟩ := exists_of_forall₂ hl hin
    cases hkey k v k' v' hdec
    have hlk := (getElem?_ofList_iff hnd).mpr hmem
    rw [hm, hv, Option.some.injEq] at hlk
    rw [hdec, hlk]
  · intro h
    refine ⟨m.toList,?_,ofList_toList m⟩
    rw [forall₂_same]
    rintro ⟨k,v⟩ hv
    exact h k v (ExtTreeMap.mem_toList_iff_getElem?_eq_some.mp hv)

theorem set_ofList_toList [Ord A] [TransOrd A] [LawfulEqOrd A] [DecidableEq A] (s : ExtTreeSet A) :
    ExtTreeSet.ofList s.toList = s := by
  apply ExtTreeSet.ext_mem
  intro a
  rw [ExtTreeSet.mem_ofList, contains_iff_mem, ExtTreeSet.mem_toList]

end Collect

end BpmpPlatform
