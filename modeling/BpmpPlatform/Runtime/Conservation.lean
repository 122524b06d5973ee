import BpmpPlatform.Runtime.Nesting

/-! # Conservation of contexts

The branches of a join hold exactly the tokens it waits for, and the inside of a sub-process as many as it has active
instances. Work-list entries carry a context of their own.
-/
namespace BpmpPlatform
open Std Outcome List

def Stands (r : RoutingState) (n : NodeId) : Prop :=
  r.activeTokens[n]?.getD 0 ≠ 0 ∨ r.activeMultiInstances[n]? ≠ none ∨ r.pendingJoins[n]? ≠ none ∨
    ∃ (id : ScopeInstanceId) (scope : ActiveExecutionScope), r.activeScopes[id]? = some scope ∧ scope.scopeNodeId = n

variable {r : RoutingState} {contexts : Contexts} {cs : List (List Frame)} {c : List Frame} {d : WorkflowDefinition}
  {n : NodeId} {id : ScopeInstanceId}

theorem stands_of_active (hpos : TokensPositive r) (h : NodeActive r n) : Stands r n := by
  rcases h with h | h | h
  · refine .inl fun hz => ?_
    obtain ⟨count,hc⟩ := Option.ne_none_iff_exists'.mp h
    rw [hc, Option.getD_some] at hz
    exact hpos n (hz ▸ hc)
  · exact .inr (.inl h)
  · exact .inr (.inr (.inr h))

theorem load_pos_iff {q : NodeId → Bool} : 0 < r.load q ↔ ∃ n, Stands r n ∧ q n = true := by
  have ht (n : NodeId) (count : Nat) : (0 < if q n then count else 0) ↔ count ≠ 0 ∧ q n = true := by
    cases q n <;> simp [Nat.pos_iff_ne_zero]
  simp only [RoutingState.load, Nat.add_pos_iff_pos_or_pos, weight_pos_iff, toNat_pos_iff, ht, Stands, or_and_right,
    exists_or, or_assoc]
  refine or_congr (exists_congr fun n => ?_) (or_congr (exists_congr fun n => ?_) (or_congr (exists_congr fun n => ?_) ?_))
  · cases r.activeTokens[n]? <;> simp
  · cases r.activeMultiInstances[n]? <;> simp
  · cases r.pendingJoins[n]? <;> simp
  · simp

def total (contexts : Contexts) (test : List Frame → Bool) (cs : List (List Frame)) (r : RoutingState) : Nat :=
  r.load (fun n => test (contexts.around n)) + cs.countP test

section Total
variable {test : List Frame → Bool} {r r' : RoutingState}

theorem total_cons : total contexts test (c :: cs) r = total contexts test cs r + (test c).toNat := by
  rw [total, total, countP_cons, Nat.add_assoc]
  cases test c <;> rfl

theorem total_append (cs' : List (List Frame)) :
    total contexts test (cs' ++ cs) r = total contexts test cs r + cs'.countP test := by
  rw [total, total, countP_append]
  omega

theorem total_congr (h : r'.load (fun n => test (contexts.around n)) = r.load fun n => test (contexts.around n)) :
    total contexts test cs r' = total contexts test cs r := by
  rw [total, total, h]

theorem total_pos_of_mem (hc : c ∈ cs) (ht : test c = true) : 0 < total contexts test cs r := by
  have := countP_pos_iff.mpr ⟨c,hc,ht⟩
  unfold total
  omega

theorem total_pos_of_stands (hn : Stands r n) (ht : test (contexts.around n) = true) :
    0 < total contexts test cs r := by
  have := (load_pos_iff (q := fun n => test (contexts.around n))).mpr ⟨n,hn,ht⟩
  unfold total
  omega

end Total

/-- The branches of a join hold the tokens it waits for, and the inside of a sub-process as many as it has
active instances. -/
structure Conserved (contexts : Contexts) (cs : List (List Frame)) (r : RoutingState) : Prop where
  joins : ∀ join, total contexts (headIs (Frame.isBranchOf join)) cs r = r.awaited join
  scopes : ∀ scopeNodeId, total contexts (headIs (Frame.isInside scopeNodeId)) cs r = r.instances scopeNodeId

theorem stands_of_awaited {join : NodeId} (h : 0 < r.awaited join) : Stands r join := by
  refine .inr (.inr (.inl fun hn => ?_))
  simp [RoutingState.awaited, hn] at h

section Conserved

/-- The holder of the innermost frame of anything that stands somewhere stands as well. -/
theorem Conserved.holder_stands (h : Conserved contexts cs r) {c : List Frame} {frame : Frame}
    (hc : c ∈ cs ∨ ∃ n, Stands r n ∧ c = contexts.around n) (hf : c.head? = some frame) : Stands r frame.holder := by
  have hpos (test : List Frame → Bool) (ht : test c = true) : 0 < total contexts test cs r := by
    rcases hc with hc | ⟨n,hn,rfl⟩
    · exact total_pos_of_mem hc ht
    · exact total_pos_of_stands hn ht
  cases frame with
  | branch join =>
    have hw : 0 < r.awaited join := by
      rw [← h.joins join]
      exact hpos _ (by simp [headIs, hf, Frame.isBranchOf])
    exact stands_of_awaited hw
  | inside p =>
    have ha : 0 < r.instances p := by
      rw [← h.scopes p]
      exact hpos _ (by simp [headIs, hf, Frame.isInside])
    exact .inr (.inr (.inr (instances_pos_iff.mp ha)))

variable {p : NodeId}

/-- A sub-process around something that stands somewhere is active. -/
theorem Conserved.instances_pos (hw : WellNested d contexts) (h : Conserved contexts cs r) (hn : Stands r n)
    (hmem : .inside p ∈ contexts.around n) : 0 < r.instances p := by
  have hd {m : NodeId} (hm : Stands r m) (hf : (contexts.around m).head? = some (.inside p)) :
      0 < r.instances p := by
    rw [← h.scopes p]
    exact total_pos_of_stands hm (by simp [headIs, hf, Frame.isInside])
  cases hc : contexts.around n with
  | nil => rw [hc] at hmem; cases hmem
  | cons =>
    rw [hc] at hmem
    rcases mem_cons.mp hmem with rfl | hmem
    · exact hd hn (by rw [hc]; rfl)
    · have ht : .inside p ∈ (hw.nest.ctx n).tail := by
        show .inside p ∈ (contexts.around n).tail
        rw [hc]
        exact hmem
      obtain ⟨m,hm,hf⟩ := (hw.nest.coherent_ctx n).exists_holder_of_mem_tail
        (fun m _ hm hf => h.holder_stands (.inr ⟨m,hm,rfl⟩) hf)
        (fun _ hf => h.holder_stands (.inr ⟨n,hn,rfl⟩) hf) ht
      exact hd hm hf

theorem inside_mem_of_innermostScope {c : List Frame} (h : innermostScope c = some p) : .inside p ∈ c := by
  obtain ⟨frame,hf,hs⟩ := exists_of_findSome?_eq_some h
  cases frame with
  | branch => cases hs
  | inside => cases hs; exact hf

/-- While an entry stands directly inside a sub-process, nothing else stands inside it at any depth. -/
theorem Conserved.alone (hw : WellNested d contexts) {rest : List Frame}
    (h : Conserved contexts ((.inside p :: rest) :: cs) r) (hp : r.instances p ≤ 1) :
    (∀ c ∈ cs, hw.nest.Coherent c → .inside p ∉ c) ∧ ∀ n, Stands r n → .inside p ∉ contexts.around n := by
  have hto := h.scopes p
  rw [total_cons] at hto
  have hh : (headIs (Frame.isInside p) (.inside p :: rest)).toNat = 1 := by
    simp [headIs, Frame.isInside]
  have hout : ∀ n frame, Stands r n → (hw.nest.ctx n).head? = some frame → Stands r (hw.nest.holder frame) :=
    fun n frame hn hf => h.holder_stands (.inr ⟨n,hn,rfl⟩) hf
  -- such an entry would make two of them, at its own place or at the outermost holder of its frames
  have none_at {n : NodeId} (hn : Stands r n) (hf : (contexts.around n).head? = some (.inside p)) : False := by
    have htwo : 0 < total contexts (headIs (Frame.isInside p)) cs r :=
      total_pos_of_stands hn (by simp [headIs, hf, Frame.isInside])
    omega
  have none_in {c : List Frame} (hco : hw.nest.Coherent c)
      (hin : ∀ frame, c.head? = some frame → Stands r frame.holder) (hh' : c.head? ≠ some (.inside p)) :
      .inside p ∉ c := by
    intro hmem
    cases c with
    | nil => cases hmem
    | cons =>
      rcases mem_cons.mp hmem with heq | hmem
      · exact hh' (by rw [heq]; rfl)
      · obtain ⟨n,hn,hf⟩ := hco.exists_holder_of_mem_tail hout hin hmem
        exact none_at hn hf
  constructor
  · intro c hc hco
    refine none_in hco (fun frame hf => h.holder_stands (.inl (mem_cons_of_mem _ hc)) hf) ?_
    intro hf
    have htwo : 0 < total contexts (headIs (Frame.isInside p)) cs r :=
      total_pos_of_mem hc (by simp [headIs, hf, Frame.isInside])
    omega
  · intro n hn
    refine none_in (hw.nest.coherent_ctx n) (fun frame hf => h.holder_stands (.inr ⟨n,hn,rfl⟩) hf) ?_
    exact fun hf => none_at hn hf

end Conserved

/-- The scope carried by an entry or a record is an active instance of the innermost sub-process around it. -/
def ScopeFits (r : RoutingState) (c : List Frame) (scope : Option ScopeInstanceId) : Prop :=
  ∀ p, innermostScope c = some p → ∃ (id : ScopeInstanceId) (s : ActiveExecutionScope),
    scope = some id ∧ r.activeScopes[id]? = some s ∧ s.scopeNodeId = p

/-- The invariant of the work-list: each entry has a context it may come from, and contexts are accounted for. -/
structure Nested (d : WorkflowDefinition) (contexts : Contexts) (cs : List (List Frame)) (p : Progress) : Prop
    extends Conserved contexts cs p.routing where
  fits : List.Forall₂ (fun entry c => Enters d contexts c entry.1 ∧ ScopeFits p.routing c entry.2) p.pending cs
  parents : ∀ (id : ScopeInstanceId) (s : ActiveExecutionScope), p.routing.activeScopes[id]? = some s →
    ScopeFits p.routing (contexts.around s.scopeNodeId) s.parentScopeInstanceId

/-- What a step does to the contexts: some are opened and some are closed, and joins and sub-processes
count the change. -/
structure Shift (contexts : Contexts) (cs : List (List Frame)) (r : RoutingState) (cs' : List (List Frame))
    (r' : RoutingState) (opened closed : List (List Frame)) : Prop where
  totals : ∀ test, total contexts test cs' r' + closed.countP test = total contexts test cs r + opened.countP test
  awaited : ∀ join, r'.awaited join + closed.countP (headIs (Frame.isBranchOf join)) =
    r.awaited join + opened.countP (headIs (Frame.isBranchOf join))
  instances : ∀ p, r'.instances p + closed.countP (headIs (Frame.isInside p)) =
    r.instances p + opened.countP (headIs (Frame.isInside p))
  nodup : opened.Nodup
  fresh : ∀ c ∈ opened, (∃ join target rest, c = .branch join target :: rest ∧ r.awaited join = 0) ∨
    ∃ p rest, c = .inside p :: rest ∧ r.instances p = 0

section Shift
variable {cs cs' : List (List Frame)} {r r' : RoutingState} {opened closed : List (List Frame)}

theorem Shift.conserved (hs : Shift contexts cs r cs' r' opened closed) (h : Conserved contexts cs r) :
    Conserved contexts cs' r' := by
  constructor
  · intro join
    have ht := hs.totals (headIs (Frame.isBranchOf join))
    have ha := hs.awaited join
    have hj := h.joins join
    omega
  · intro p
    have ht := hs.totals (headIs (Frame.isInside p))
    have hi := hs.instances p
    have hp := h.scopes p
    omega

theorem Shift.keep (ht : ∀ test, total contexts test cs' r' = total contexts test cs r)
    (hj : r'.pendingJoins = r.pendingJoins) (hs : r'.activeScopes = r.activeScopes) :
    Shift contexts cs r cs' r' [] [] := by
  refine ⟨fun test => by rw [ht test],fun join => ?_,fun p => ?_,nodup_nil,by simp⟩
  · rw [RoutingState.awaited, hj, RoutingState.awaited]
  · rw [RoutingState.instances, hs, RoutingState.instances]

/-- A step that puts the entry of context `c` to rest at a node of that context. -/
theorem Shift.rest (hc : c = contexts.around n) (hl : ∀ q : NodeId → Bool, r'.load q = r.load q + (q n).toNat)
    (hj : r'.pendingJoins = r.pendingJoins) (hs : r'.activeScopes = r.activeScopes) :
    Shift contexts (c :: cs) r cs r' [] [] := by
  refine .keep (fun test => ?_) hj hs
  rw [total_cons, total, total, hl, hc]
  omega

theorem Shift.drop : Shift contexts ([] :: cs) r cs r [] [[]] := by
  refine ⟨fun test => ?_,fun join => ?_,fun p => ?_,nodup_nil,by simp⟩
  · rw [total_cons]
    cases ht : test [] <;> simp [ht]
  · simp [headIs]
  · simp [headIs]

/-- The branches of one split all pass a test on frames, or none does. -/
theorem countP_branches {join : NodeId} (test : Frame → Bool) (b : Bool) (hb : ∀ t, test (.branch join t) = b)
    (selected : List NodeId) :
    (selected.map fun t => Frame.branch join t :: c).countP (headIs test) = if b then selected.length else 0 := by
  rw [countP_map]
  cases b with
  | true => exact countP_eq_length.mpr fun t _ => hb t
  | false => exact countP_eq_zero.mpr fun t _ => by simp [headIs, hb t]

theorem Shift.fork {join : NodeId} {selected : List NodeId} (hc : c = contexts.around n)
    (hj : contexts.around join = contexts.around n) (hnd : selected.Nodup)
    (ho : r.openJoin join selected.length = .ok r') :
    Shift contexts (c :: cs) r (selected.map (fun t => Frame.branch join t :: contexts.around n) ++ cs) r'
      (selected.map fun t => Frame.branch join t :: contexts.around n) [] := by
  refine ⟨fun test => ?_,fun m => ?_,fun p => ?_,?_,?_⟩
  · have hl := load_openJoin (fun n => test (contexts.around n)) ho
    simp only [hj, ← hc] at hl
    rw [total_append, total_cons, total, total, hl]
    simp only [countP_nil]
    omega
  · obtain ⟨_,ha⟩ := awaited_openJoin ho m
    rw [ha, countP_branches (Frame.isBranchOf m) (join == m) fun _ => rfl]
    simp
  · obtain ⟨_,_,rfl⟩ := openJoin_eq_ok.mp ho
    rw [countP_branches (Frame.isInside p) false fun _ => rfl]
    rfl
  · refine hnd.map ?_
    intro a b hab
    simpa using hab
  · intro c' hc'
    obtain ⟨t,_,rfl⟩ := mem_map.mp hc'
    exact .inl ⟨join,t,_,rfl,(awaited_openJoin ho join).1⟩

end Shift

section Closing
variable {r r' r₁ : RoutingState} {n target : NodeId}

theorem countP_singleton (test : List Frame → Bool) (c : List Frame) : [c].countP test = (test c).toNat := by
  cases ht : test c <;> simp [ht]

theorem countP_branch (m : NodeId) (c : List Frame) :
    [Frame.branch n target :: c].countP (headIs (Frame.isBranchOf m)) = if n = m then 1 else 0 := by
  by_cases hm : n = m
  · simp [hm, headIs, Frame.isBranchOf]
  · simp [hm, headIs, Frame.isBranchOf]

theorem countP_inside (m : NodeId) (c : List Frame) :
    [Frame.inside n :: c].countP (headIs (Frame.isInside m)) = (n == m).toNat := countP_singleton _ _

theorem Shift.arrive (h : r.arrive n = .ok (r', false)) :
    Shift contexts ((.branch n target :: contexts.around n) :: cs) r cs r' [] [.branch n target :: contexts.around n] := by
  obtain ⟨_,_,_,hr⟩ := arrive_open h
  refine ⟨fun test => ?_,fun m => ?_,fun p => ?_,nodup_nil,by simp⟩
  · rw [total_cons, countP_singleton, total_congr (load_arrive _ h)]
    rfl
  · rw [countP_branch, awaited_arrive h m]
    rfl
  · rw [hr]
    simp [RoutingState.instances, headIs, Frame.isInside]

theorem Shift.join (h : r.arrive n = .ok (r', true)) :
    Shift contexts ((.branch n target :: contexts.around n) :: cs) r (contexts.around n :: cs) (r'.closeJoin n) []
      [.branch n target :: contexts.around n] := by
  obtain ⟨_,_,_,hr⟩ := arrive_close h
  refine ⟨fun test => ?_,fun m => ?_,fun p => ?_,nodup_nil,by simp⟩
  · have hl := load_closeJoin (fun n => test (contexts.around n)) h
    rw [total_cons, total_cons, countP_singleton, total, total]
    simp only [countP_nil]
    omega
  · rw [countP_branch, awaited_closeJoin h m]
    rfl
  · rw [hr]
    simp [RoutingState.instances, headIs, Frame.isInside]

theorem Shift.leave {scope : ActiveExecutionScope} (h : r.completeScope id n = .ok (r', scope)) :
    Shift contexts ((.inside n :: contexts.around n) :: cs) r (contexts.around n :: cs) (r'.disarmBoundaries n) []
      [.inside n :: contexts.around n] := by
  obtain ⟨_,_,hr⟩ := completeScope_eq_ok.mp h
  refine ⟨fun test => ?_,fun m => ?_,fun p => ?_,nodup_nil,by simp⟩
  · have hl := load_completeScope (fun n => test (contexts.around n)) h
    rw [total_cons, total_cons, countP_singleton, total, total, load_disarmBoundaries]
    simp only [countP_nil]
    omega
  · rw [hr]
    simp [RoutingState.awaited, RoutingState.disarmBoundaries, headIs, Frame.isBranchOf]
  · rw [countP_inside]
    exact instances_completeScope h p

theorem Shift.enter {d : WorkflowDefinition} {start : NodeId} {parent : Option ScopeInstanceId}
    {invocation occurredAt : Nat} {armed : List DomainEvent}
    (h : r.enterScope n start parent = .ok (r₁, id, invocation)) (hfr : r.activeScopes[id]? = none)
    (ha : armBoundaryEvents d n occurredAt r₁ = .ok (armed, r')) :
    Shift contexts (contexts.around n :: cs) r ((.inside n :: contexts.around n) :: cs) r'
      [.inside n :: contexts.around n] [] := by
  obtain ⟨_,_,_,_,hr⟩ := enterScope_eq_ok.mp h
  have hf := armBoundaryEvents_frame ha
  have hjo : r'.pendingJoins = r.pendingJoins := by rw [hf, hr]
  have hss : r'.activeScopes = r₁.activeScopes := by rw [hf]
  refine ⟨fun test => ?_,fun m => ?_,fun p => ?_,nodup_singleton _,?_⟩
  · have hl := load_enterScope (fun n => test (contexts.around n)) h hfr
    rw [total_cons, total_cons, countP_singleton, total, total, load_armBoundaryEvents _ ha]
    simp only [countP_nil]
    omega
  · rw [RoutingState.awaited, hjo, RoutingState.awaited]
    simp [headIs, Frame.isBranchOf]
  · have hi := (instances_enterScope h hfr p).2
    rw [countP_inside, RoutingState.instances, hss]
    simpa [RoutingState.instances] using hi
  · intro c hc
    rw [mem_singleton] at hc
    exact .inr ⟨n,_,hc,(instances_enterScope h hfr n).1⟩

end Closing

section Scopes
variable {r r' : RoutingState} {scope : Option ScopeInstanceId}

theorem ScopeFits.mono (h : ScopeFits r c scope) (hs : ∀ (id : ScopeInstanceId) (s : ActiveExecutionScope),
    r.activeScopes[id]? = some s → r'.activeScopes[id]? = some s) : ScopeFits r' c scope := by
  intro p hp
  obtain ⟨id,s,hsc,hid,hn⟩ := h p hp
  exact ⟨id,s,hsc,hs id s hid,hn⟩

theorem ScopeFits.of_eq (h : ScopeFits r c scope) (hs : r'.activeScopes = r.activeScopes) : ScopeFits r' c scope :=
  h.mono fun id s hid => by rw [hs]; exact hid

/-- Completing an instance of a sub-process leaves the contexts outside of it alone. -/
theorem ScopeFits.erase {s : ActiveExecutionScope} (h : ScopeFits r c scope) (hid : r.activeScopes[id]? = some s)
    (hout : .inside s.scopeNodeId ∉ c) (hs : r'.activeScopes = r.activeScopes.erase id) : ScopeFits r' c scope := by
  intro p hp
  obtain ⟨id',s',hsc,hid',hn⟩ := h p hp
  refine ⟨id',s',hsc,?_,hn⟩
  rw [hs, getElem?_erase_eq, if_neg]
  · exact hid'
  · rintro rfl
    rw [hid, Option.some.injEq] at hid'
    subst hid'
    exact hout (hn ▸ inside_mem_of_innermostScope hp)

theorem innermostScope_inside (p : NodeId) : innermostScope (.inside p :: c) = some p := rfl

end Scopes

end BpmpPlatform
