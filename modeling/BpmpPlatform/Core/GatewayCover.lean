import BpmpPlatform.Core.Accepted

/-! # What an integer coverage proof covers

The scan of `validate_disjoint_integer_cover` returns at the first interval that reaches `i64::MAX`; those sorted
after it are never looked at.
-/
namespace BpmpPlatform
open Std Outcome List

variable {v : Int64}

theorem le_checkedNext_iff {u n : Int64} (h : checkedNext u = some n) : n ≤ v ↔ ¬v ≤ u := by
  simp only [checkedNext, Option.ite_none_left_eq_some, Option.some.injEq] at h
  obtain ⟨hmax,rfl⟩ := h
  grind

variable {i : IntegerInterval}

namespace IntegerInterval

def start (i : IntegerInterval) : Int64 := i.lower.getD Int64.minValue

def stop (i : IntegerInterval) : Int64 := i.upper.getD Int64.maxValue

theorem contains_iff : i.contains v = true ↔ i.start ≤ v ∧ v ≤ i.stop := by
  obtain ⟨_ | l,_ | u⟩ := i <;> simp [contains, start, stop, Int64.le_maxValue, Int64.minValue_le]

/-- `i` reaches the top of the range and `j` does not start before it: the scan ends at `i` without reading `j`. -/
def Hides (i j : IntegerInterval) : Prop := i.stop = Int64.maxValue ∧ i.start ≤ j.start

instance (i j : IntegerInterval) : Decidable (i.Hides j) := inferInstanceAs (Decidable (_ ∧ _))

end IntegerInterval

open IntegerInterval

def NoneHidden (intervals : List IntegerInterval) : Prop :=
  intervals.Pairwise fun i j => ¬i.Hides j ∧ ¬j.Hides i

instance (intervals : List IntegerInterval) : Decidable (NoneHidden intervals) :=
  inferInstanceAs (Decidable (List.Pairwise _ _))

section Guards
variable (value v : Int64)

theorem countP_above :
    ((checkedNext value).map fun l => (⟨some l, none⟩ : IntegerInterval)).toList.countP (·.contains v) =
      if value < v then 1 else 0 := by
  unfold checkedNext
  split
  · grind
  · grind [IntegerInterval.contains]

theorem countP_below :
    ((checkedPred value).map fun u => (⟨none, some u⟩ : IntegerInterval)).toList.countP (·.contains v) =
      if v < value then 1 else 0 := by
  unfold checkedPred
  split
  · grind
  · grind [IntegerInterval.contains]

theorem countP_integerGuardIntervals (op : ComparisonOperator) :
    (integerGuardIntervals op value).countP (·.contains v) = if op.holds (compare v value) then 1 else 0 := by
  have hc : compare v value = if v < value then .lt else if v = value then .eq else .gt := rfl
  have hmin := Int64.minValue_le v
  have hmax := Int64.le_maxValue v
  rw [hc]
  cases op <;>
    simp only [integerGuardIntervals, countP_append, countP_above, countP_below, countP_singleton,
      ComparisonOperator.holds, contains_iff, start, stop, Option.getD_some, Option.getD_none] <;>
    grind [Ordering.isEq, Ordering.isLT, Ordering.isLE, Ordering.isGT, Ordering.isGE]

theorem start_le_stop_of_mem {op : ComparisonOperator} (h : i ∈ integerGuardIntervals op value) :
    i.start ≤ i.stop := by
  have hmin := Int64.minValue_le
  have hmax := Int64.le_maxValue
  cases op <;> simp only [integerGuardIntervals, mem_append, mem_singleton, Option.mem_toList,
    Option.map_eq_some_iff] at h <;> grind [start, stop]

end Guards

variable {us : UnstableSort} {nodeId : NodeId} {guards : List GuardExpression} {l sorted : List IntegerInterval}
  {ts : List GuardedTransition}

def GuardExpression.holdsAt (v : Int64) (g : GuardExpression) : Bool :=
  ((WorkflowValue.integer v).sameTypeCmp g.literal).any g.operator.holds

/-- The intervals of the guards hold a value as often as the guards do. -/
theorem guardIntervals_ok (h : guardIntervals nodeId guards = .ok l) :
    (∀ g ∈ guards, ∃ value, g.literal = .integer value) ∧ (∀ i ∈ l, i.start ≤ i.stop) ∧
      ∀ v, l.countP (·.contains v) = guards.countP (·.holdsAt v) := by
  induction guards generalizing l with
  | nil => cases h; simp
  | cons g rest ih =>
    unfold guardIntervals at h
    split at h
    · rename_i value hl
      simp only [bind_eq_ok] at h
      obtain ⟨l',hr,⟨⟩⟩ := h
      obtain ⟨hlit,hp,hc⟩ := ih hr
      refine ⟨forall_mem_cons.mpr ⟨⟨value,hl⟩,hlit⟩,?_,fun v => ?_⟩
      · exact forall_mem_append.mpr ⟨fun _ hi => start_le_stop_of_mem value hi,hp⟩
      · rw [countP_append, countP_integerGuardIntervals, hc, countP_cons, Nat.add_comm]
        simp [GuardExpression.holdsAt, hl, WorkflowValue.sameTypeCmp]
    · cases h

/-- A value from `e` on lies in exactly one of the intervals up to the first that reaches the top. -/
def ReadFrom (e : Option Int64) (l : List IntegerInterval) : Prop :=
  ∃ before last after, l = before ++ last :: after ∧ last.stop = Int64.maxValue ∧
    ∀ v, (before ++ [last]).countP (·.contains v) = if e.getD Int64.minValue ≤ v then 1 else 0

theorem coverFrom_ok {e : Option Int64} (h : coverFrom nodeId e l = .ok ()) : ReadFrom e l := by
  have hmin := Int64.minValue_le
  have hmax := Int64.le_maxValue
  induction l generalizing e with
  | nil => cases h
  | cons i rest ih =>
    unfold coverFrom at h
    split at h
    · cases h
    · cases h
    rename_i heq
    have hs : i.start = e.getD Int64.minValue := compare_eq_iff_eq.mp heq
    simp only [bind_eq_ok, ensure_eq_ok] at h
    obtain ⟨_,hle,h⟩ := h
    -- an interval that reaches the top ends the scan
    have hla (ht : i.stop = Int64.maxValue) : ReadFrom e (i :: rest) := by
      refine ⟨[],i,rest,rfl,ht,fun v => ?_⟩
      simp [contains_iff, ht, hs, hmax v]
    split at h
    · rename_i hu
      exact hla (by simp [stop, hu])
    · rename_i value hu
      split at h
      · rename_i hn
        refine hla ?_
        simp only [checkedNext, ite_eq_left_iff, reduceCtorEq, imp_false, not_not] at hn
        simp [stop, hu, hn]
      · rename_i next hn
        obtain ⟨before,last,after,rfl,ht,hc⟩ := ih h
        refine ⟨i :: before,last,after,rfl,ht,fun v => ?_⟩
        have hne := le_checkedNext_iff (v := v) hn
        have hi : i.start ≤ value := by
          rcases hl : i.lower with _ | lower
          · simp [start, hl, hmin value]
          · simpa [start, hl, hu] using hle
        rw [cons_append, countP_cons, hc]
        simp only [contains_iff, hs, stop, hu, Option.getD_some]
        grind

instance : TransCmp compareIntervals :=
  inferInstanceAs (TransCmp (compareLex (compareOn start) (compareOn IntegerInterval.upper)))

/-- An accepted list with no interval hidden holds every value exactly once. -/
theorem countP_of_noneHidden (h : validateDisjointIntegerCover us nodeId l = .ok sorted) (hn : NoneHidden l) (v : Int64) :
    l.countP (·.contains v) = 1 := by
  simp only [validateDisjointIntegerCover, bind_eq_ok] at h
  obtain ⟨_,hsc,⟨⟩⟩ := h
  have hp := us.perm compareIntervals l
  have hs := us.sorted compareIntervals l
  obtain ⟨before,last,after,hl,ht,hc⟩ := coverFrom_ok hsc
  have hno : NoneHidden (us.sort compareIntervals l) := (hp.pairwise_iff And.symm).mpr hn
  rw [hl] at hs hno
  cases after with
  | nil =>
    rw [← hp.countP_eq, hl, hc]
    exact if_pos (Int64.minValue_le v)
  | cons next rest =>
    -- the first interval left unread does not start before the last one read
    have hle := rel_of_pairwise_cons (pairwise_append.mp hs).2.1 mem_cons_self
    have hh : last.Hides next := ⟨ht,isLE_compare.mp (Ordering.isLE_left_of_isLE_then hle)⟩
    exact absurd hh (rel_of_pairwise_cons (pairwise_append.mp hno).2.1 mem_cons_self).1

theorem noneHidden_of_countP (hp : ∀ i ∈ l, i.start ≤ i.stop) (h : ∀ v, l.countP (·.contains v) = 1) : NoneHidden l := by
  have hid : ∀ i j : IntegerInterval, i.Hides j → j.start ≤ j.stop → i.contains j.start ∧ j.contains j.start := by
    intro i j hij hj
    simp only [contains_iff]
    exact ⟨⟨hij.2,hij.1 ▸ Int64.le_maxValue _⟩,Int64.le_refl _,hj⟩
  refine pairwise_iff_forall_sublist.mpr fun {i j} hs => ?_
  have hi := hp i (hs.subset (by simp))
  have hj := hp j (hs.subset (by simp))
  constructor
  · intro hij
    have hle := hs.countP_le (p := (·.contains j.start))
    simp [hid i j hij hj, h] at hle
  · intro hji
    have hle := hs.countP_le (p := (·.contains i.start))
    simp [hid j i hji hi, h] at hle

section Transitions
variable {gatewayId : NodeId} {vars : Variables} {selected : Option NodeId}

theorem selectGuarded_of_count (hok : ∀ t ∈ ts, t.isDefault = false ∧ ∃ b, t.evaluate vars = .ok b)
    (hc : ts.countP (fun t => (t.evaluate vars).toOption == some true) + selected.toList.length = 1) :
    ∃ target, selectGuarded gatewayId vars selected ts = .ok (some target) := by
  induction ts generalizing selected with
  | nil =>
    cases selected with
    | none => simp at hc
    | some target => exact ⟨target,rfl⟩
  | cons t rest ih =>
    obtain ⟨⟨hd,b,hb⟩,hr⟩ := forall_mem_cons.mp hok
    simp only [selectGuarded, hd, hb]
    rw [countP_cons] at hc
    cases b with
    | true =>
      have hsel : selected = none := by
        cases selected with
        | none => rfl
        | some _ => simp [hb, Except.toOption] at hc
      subst hsel
      exact ih hr (by simpa [hb, Except.toOption] using hc)
    | false => exact ih hr (by simpa [hb, Except.toOption] using hc)

theorem evaluate_ok_of_selectGuarded {result : Option NodeId}
    (h : selectGuarded gatewayId vars selected ts = .ok result) :
    ∀ t ∈ ts, t.isDefault = true ∨ ∃ b, t.evaluate vars = .ok b := by
  induction ts generalizing selected with
  | nil => simp
  | cons t rest ih =>
    unfold selectGuarded at h
    split at h
    · exact forall_mem_cons.mpr ⟨.inl ‹_›,ih h⟩
    · simp only [bind_eq_ok] at h
      obtain ⟨b,hb,h⟩ := h
      refine forall_mem_cons.mpr ⟨.inr ⟨b,hb⟩,?_⟩
      cases b with
      | true =>
        simp only [if_true, bind_eq_ok] at h
        obtain ⟨_,_,h⟩ := h
        exact ih h
      | false => exact ih h

end Transitions

theorem coverageGuards_ok (h : coverageGuards ts = .ok guards) : ts.map (·.guard) = guards.map some := by
  induction ts generalizing guards with
  | nil => cases h; rfl
  | cons t rest ih =>
    simp only [coverageGuards, bind_eq_ok, okOr_eq_ok] at h
    obtain ⟨g,hg,guards',hr,⟨⟩⟩ := h
    rw [map_cons, map_cons, hg, ih hr]

theorem validateDisjointIntegerCover_perm (h : validateDisjointIntegerCover us nodeId l = .ok sorted) :
    sorted.Perm l := by
  simp only [validateDisjointIntegerCover, bind_eq_ok] at h
  obtain ⟨_,_,⟨⟩⟩ := h
  exact us.perm compareIntervals l

/-- At every integer value of the variable exactly one guard holds, and a transition is selected. -/
def IntegerCovered (gatewayId : NodeId) (variableName : String) (transitions : List GuardedTransition) : Prop :=
  ∀ (vars : Variables) (v : Int64), vars[variableName]? = some (.integer v) →
    transitions.countP (fun t => (t.evaluate vars).toOption == some true) = 1 ∧
      ∃ target, selectTransition gatewayId transitions vars = .ok target

/-- What both validators check of the guards on one variable; `intervals` are the intervals of the proof. -/
structure IntegerScan (variableName : String) (transitions : List GuardedTransition)
    (intervals : List IntegerInterval) : Prop where
  guarded : ∀ t ∈ transitions, ∃ op value, t.guard = some ⟨variableName, op, .integer value⟩
  counted : ∀ v, intervals.countP (·.contains v) = transitions.countP (·.guard.any (·.holdsAt v))
  proper : ∀ i ∈ intervals, i.start ≤ i.stop
  scanned : ∃ us nodeId l sorted, l.Perm intervals ∧ validateDisjointIntegerCover us nodeId l = .ok sorted

namespace IntegerScan
variable {gatewayId : NodeId} {variableName : String} {transitions : List GuardedTransition}
  {intervals : List IntegerInterval} (h : IntegerScan variableName transitions intervals) {vars : Variables}
include h

theorem evaluate_eq (hv : vars[variableName]? = some (.integer v)) {t : GuardedTransition} (ht : t ∈ transitions)
    (hx : t.expression = none) : t.evaluate vars = .ok (t.guard.any (·.holdsAt v)) := by
  obtain ⟨op,value,hg⟩ := h.guarded t ht
  simp [GuardedTransition.evaluate, GuardExpression.evaluate, hg, hx, hv, GuardExpression.holdsAt,
    WorkflowValue.sameTypeCmp]

theorem countP_evaluate (hv : vars[variableName]? = some (.integer v)) (hx : ∀ t ∈ transitions, t.expression = none) :
    transitions.countP (fun t => (t.evaluate vars).toOption == some true) = intervals.countP (·.contains v) := by
  rw [h.counted]
  refine countP_congr fun t ht => ?_
  simp [h.evaluate_eq hv ht (hx t ht), Except.toOption]

theorem unmixed (hc : IntegerCovered gatewayId variableName transitions) : ∀ t ∈ transitions, t.expression = none := by
  intro t ht
  obtain ⟨_,target,hs⟩ := hc ((∅ : Variables).insert variableName (.integer 0)) 0 (by simp)
  simp only [selectTransition, bind_eq_ok] at hs
  obtain ⟨_,hs,_⟩ := hs
  obtain ⟨op,value,hg⟩ := h.guarded t ht
  rcases evaluate_ok_of_selectGuarded hs t ht with hd | ⟨b,hb⟩
  · simp [GuardedTransition.isDefault, hg] at hd
  · cases hx : t.expression with
    | none => rfl
    | some _ => simp [GuardedTransition.evaluate, hg, hx] at hb

theorem covered_iff : IntegerCovered gatewayId variableName transitions ↔
    (∀ t ∈ transitions, t.expression = none) ∧ NoneHidden intervals := by
  constructor
  · intro hc
    refine ⟨h.unmixed hc,noneHidden_of_countP h.proper fun v => ?_⟩
    have hv : ((∅ : Variables).insert variableName (.integer v))[variableName]? = some (.integer v) := by simp
    rw [← h.countP_evaluate hv (h.unmixed hc)]
    exact (hc _ v hv).1
  · rintro ⟨hx,hn⟩ vars v hv
    obtain ⟨us,nodeId,l,sorted,hp,hsc⟩ := h.scanned
    have hone : transitions.countP (fun t => (t.evaluate vars).toOption == some true) = 1 := by
      rw [h.countP_evaluate hv hx, ← hp.countP_eq]
      exact countP_of_noneHidden hsc ((hp.pairwise_iff And.symm).mpr hn) v
    have hok : ∀ t ∈ transitions, t.isDefault = false ∧ ∃ b, t.evaluate vars = .ok b := by
      intro t ht
      obtain ⟨op,value,hg⟩ := h.guarded t ht
      exact ⟨by simp [GuardedTransition.isDefault, hg],_,h.evaluate_eq hv ht (hx t ht)⟩
    obtain ⟨target,hs⟩ : ∃ target, selectGuarded gatewayId vars none transitions = .ok (some target) :=
      selectGuarded_of_count hok (by simpa using hone)
    exact ⟨hone,target,by simp [selectTransition, hs, bind, Except.bind, okOr]⟩

omit h

theorem of_guards (hm : (transitions.map (·.guard)).Perm (guards.map some))
    (hvar : ∀ g ∈ guards, g.variableName = variableName) (hg : guardIntervals nodeId guards = .ok l)
    (hs : validateDisjointIntegerCover us nodeId l = .ok sorted) (hp : l.Perm intervals) :
    IntegerScan variableName transitions intervals := by
  obtain ⟨hlit,hpr,hc⟩ := guardIntervals_ok hg
  refine ⟨?_,fun v => ?_,fun i hi => hpr i (hp.mem_iff.mpr hi),us,nodeId,l,sorted,hp,hs⟩
  · intro t ht
    obtain ⟨⟨name,op,literal⟩,hmem,hg⟩ := mem_map.mp (hm.mem_iff.mp (mem_map_of_mem ht))
    obtain ⟨value,hl⟩ := hlit _ hmem
    obtain rfl : name = variableName := hvar _ hmem
    obtain rfl : literal = .integer value := hl
    exact ⟨op,value,hg.symm⟩
  · have hany := hm.countP_eq fun g => g.any (·.holdsAt v)
    rw [countP_map, countP_map] at hany
    rw [← hp.countP_eq, hc]
    exact hany.symm

theorem of_accepted {d : WorkflowDefinition} (hd : d.Accepted)
    (hn : d.nodes[nodeId]? = some (.exclusiveGateway transitions (some ⟨variableName, .integer intervals⟩))) :
    IntegerScan variableName transitions intervals := by
  obtain ⟨us,hval⟩ := hd.validated
  have h := hval.nodes nodeId _ hn
  simp only [validateNode, validateGatewayNode, validateGateway, bind_eq_ok] at h
  obtain ⟨_,⟨_,_,h⟩,_⟩ := h
  split at h
  · simp only [bind_eq_ok, okOr_eq_ok, Option.some.injEq] at h
    obtain ⟨_,rfl,_,h,_⟩ := h
    simp only [validateGatewayCoverage, validateIntegerCoverage, reduceCtorEq, if_false, bind_eq_ok, ensure_eq_ok] at h
    obtain ⟨_,_,_,_,guards,hgs,_,hvar,l,hl,sorted,hs,proof,hp,heq⟩ := h
    obtain rfl : sorted = proof := by simpa using heq
    refine of_guards (.of_eq (coverageGuards_ok hgs)) (by simpa using hvar) hl hs ?_
    exact (validateDisjointIntegerCover_perm hs).symm.trans (validateDisjointIntegerCover_perm hp)
  · simp [bind_eq_ok, ensure_eq_ok] at h
  · simp [bind_eq_ok] at h

end IntegerScan

end BpmpPlatform
