import BpmpPlatform.Runtime.NestingRuns

/-! # Scope containment

Whatever stands inside a sub-process finds exactly one active instance of it, and a scope is completed only when
nothing is left inside.
-/
namespace BpmpPlatform
open Std Outcome

section Containment
variable {d : WorkflowDefinition} {contexts : Contexts} {engine : EnginePolicy} {occurredAt : Nat}
  {current : NodeId} {scope : Option ScopeInstanceId} {p p' : Progress} {events : List DomainEvent}
  {rest : List (NodeId × Option ScopeInstanceId)} {cs : List (List Frame)} {r : RoutingState} {n owner : NodeId}

/-- The sub-process a node belongs to is a frame around the node. -/
theorem WellNested.inside_mem (hw : WellNested d contexts) {node : Node} (hn : d.nodes[n]? = some node)
    (ho : d.ownerScopeId n = some owner) : .inside owner ∈ contexts.around n :=
  inside_mem_of_innermostScope (by rw [← hw.owner hn, ho])

/-- The owner of an active node has exactly one active instance. -/
theorem Rests.one_instance (hw : WellNested d contexts) (h : Rests contexts r) (hp : Placed d r)
    (hpos : TokensPositive r) (ha : NodeActive r n) (ho : d.ownerScopeId n = some owner) :
    ∃ id, scopeInstances r.activeScopes owner = [id] := by
  obtain ⟨node,hn⟩ := hp.node_of_active ha
  have hact := h.toConserved.instances_pos hw (stands_of_active hpos ha) (hw.inside_mem hn ho)
  have hne : scopeInstances r.activeScopes owner ≠ [] := by
    intro he
    rw [instances_eq_zero_iff.mpr he] at hact
    exact absurd hact (Nat.lt_irrefl 0)
  obtain ⟨id,rest,hc⟩ := List.exists_cons_of_ne_nil hne
  refine ⟨id,?_⟩
  cases rest with
  | nil => exact hc
  | cons id' =>
    have hnd : (scopeInstances r.activeScopes owner).Nodup := nodup_keysWhere _ _
    have hmem : id ∈ scopeInstances r.activeScopes owner := by rw [hc]; simp
    have hmem' : id' ∈ scopeInstances r.activeScopes owner := by rw [hc]; simp
    obtain ⟨s,hs,heq⟩ := mem_scopeInstances.mp hmem
    obtain ⟨s',hs',heq'⟩ := mem_scopeInstances.mp hmem'
    rw [hc, hp.one id id' s s' hs hs' (heq.trans heq'.symm)] at hnd
    simp at hnd

def NothingInside (d : WorkflowDefinition) (r : RoutingState) (owner : NodeId) : Prop :=
  ∀ n, d.ownerScopeId n = some owner → ¬NodeActive r n

def CompletesEmpty (d : WorkflowDefinition) (r : RoutingState) : DomainEvent → Prop
  | .scopeCompleted _ owner _ _ => NothingInside d r owner
  | _ => True

theorem completesEmpty_of_isFlow {e : DomainEvent} (h : e.isFlow = false) (r : RoutingState) :
    CompletesEmpty d r e := by
  cases e <;> first | exact trivial | cases h

theorem eachEvent_of_auxiliary (h : ∀ e ∈ events, e.isAuxiliary = true) : EachEvent (CompletesEmpty d) r events :=
  eachEvent_of_forall fun e he => completesEmpty_of_isFlow (isFlow_of_isAuxiliary (h e he))

theorem Activates.completesEmpty (hw : WellNested d contexts) (hpl : Placed d p.routing)
    (hpos : TokensPositive p.routing) (hp : p.pending = (current, scope) :: rest) (hn : Nested d contexts cs p)
    (h : Activates d engine occurredAt current scope { p with pending := rest } events p') :
    EachEvent (CompletesEmpty d) p.routing events := by
  cases h with
  | task hno hact hmi he ht ha =>
    refine ⟨?_,eachEvent_of_auxiliary (armBoundaryEvents_auxiliary ha)⟩
    cases he <;> trivial
  | multiInstance hno hact hmi hs ha =>
    exact eachEvent_of_auxiliary
      (List.forall_mem_append.mpr ⟨startMultiInstance_auxiliary hs,armBoundaryEvents_auxiliary ha⟩)
  | emptyMultiInstance hno hact hmi hs => exact eachEvent_of_auxiliary (startMultiInstance_auxiliary hs)
  | @scopeEnd owner id r₁ completedScope exit hno ho hs hc hx =>
    refine ⟨?_,eachEvent_of_auxiliary disarmBoundaryEvents_auxiliary⟩
    obtain ⟨c,cs,rfl,hen,_⟩ := hn.uncons hp
    have hcur := (enters_of_not_join hno rfl).mp hen
    rw [hw.around_finish hno ho] at hcur
    subst hcur
    obtain ⟨_,hal⟩ := hn.toConserved.alone hw (hpl.instances_le _)
    intro n hn' hac
    obtain ⟨node,hno'⟩ := hpl.node_of_active hac
    exact hal n (stands_of_active hpos hac) (hw.inside_mem hno' hn')
  | enter hno he ha => exact ⟨trivial,eachEvent_of_auxiliary (armBoundaryEvents_auxiliary ha)⟩
  | join => exact ⟨trivial,trivial,trivial⟩
  | start | exclusive => exact trivial
  | decision | branchEnd | completed | split | arrive => exact ⟨trivial,trivial⟩

theorem Tracks.tokensPositive {r₁ : RoutingState} (h : Tracks events r r₁) (hpos : TokensPositive r) :
    TokensPositive r₁ := by
  subst h
  induction events generalizing r with
  | nil => exact hpos
  | cons e es ih => exact ih (routeEvent_tokensPositive hpos e)

theorem Runs.completesEmpty (hd : d.Accepted) (hu : UnambiguousScopes d) (hw : WellNested d contexts)
    (h : Runs d engine occurredAt p events r) (hs : Subscribed d p.routing) (hpos : TokensPositive p.routing)
    (hn : Nested d contexts cs p) : EachEvent (CompletesEmpty d) p.routing events := by
  induction h generalizing cs with
  | done => trivial
  | step hp ha hr ih =>
    obtain ⟨cs',_,_,hn',_⟩ := ha.nested hd hu hw hs.toPlaced hp hn
    exact (ha.completesEmpty hw hs.toPlaced hpos hp hn).append ha.tracks
      (ih (ha.subscribed hd hu hs) (ha.tracks.tokensPositive hpos) hn')

variable {s : InstanceState}

theorem Resumed.completesEmpty (hd : d.Accepted) (hu : UnambiguousScopes d) (hw : WellNested d contexts)
    (hpos : TokensPositive s.routing) (h : Resumed d contexts s engine events r) :
    EachEvent (CompletesEmpty d) s.routing events := by
  cases h with
  | stays hl hj hs he => exact eachEvent_of_forall fun e hmem => completesEmpty_of_isFlow (he e hmem)
  | resumes first later he hf ht hn hs hc hr =>
    subst he
    exact (eachEvent_of_forall fun e hmem => completesEmpty_of_isFlow (hf e hmem)).append ht
      (hr.completesEmpty hd hu hw hs (ht.tokensPositive hpos) hn)

def DomainError.blamesScope : DomainError → Bool
  | .scopeNotActive _ | .scopeInstanceNotActive _ => true
  | _ => false

theorem blamesScope_of_blamesFlow (e : DomainError) (h : e.blamesFlow = false) : e.blamesScope = false := by
  cases e <;> first | rfl | cases h

/-- The end of a sub-process finds the scope instance it completes. -/
theorem Nested.stepFailsWith (hw : WellNested d contexts) (hp : p.pending = (current, scope) :: rest)
    (hn : Nested d contexts cs p) :
    StepFailsWith (fun e => e.blamesScope = false) d current scope { p with pending := rest } := by
  refine ⟨?_,?_,?_⟩
  · intro node join selected _ _
    exact .check rfl fun _ => .check rfl fun _ => .pure _
  · intro node split next _ _
    exact .get rfl fun _ _ => .bind (checkedSucc_failsWith rfl) fun _ _ =>
      .check rfl fun _ => .pure _
  · intro owner id hno ho hs
    obtain ⟨c,cs,rfl,he,hfit,_⟩ := hn.uncons hp
    have hc := (enters_of_not_join hno rfl).mp he
    rw [hw.around_finish hno ho] at hc
    subst hc
    obtain ⟨id',record,hid,hr,_⟩ := hfit owner (innermostScope_inside owner)
    rw [hs, Option.some.injEq] at hid
    subst hid
    refine .bind (.okOr fun hnon => ?_) fun _ _ => .check rfl fun _ => .pure _
    rw [show ({ p with pending := rest } : Progress).routing.activeScopes[id]? = some record from hr] at hnon
    cases hnon

theorem activationEvents_blamesScope (hd : d.Accepted) (hu : UnambiguousScopes d) (hw : WellNested d contexts)
    {vars : Variables} {c : List Frame} (hn : Nested d contexts [c] ⟨[(n, scope)], vars, r⟩) (hs : Subscribed d r) :
    FailsWith (fun e => e.blamesScope = false) (activationEvents d engine occurredAt n scope vars r) := by
  refine activationLoop_failsWith (fun e h => blamesScope_of_blamesFlow e (blamesFlow_of_blamesRouting h))
    (J := fun p => (∃ cs, Nested d contexts cs p) ∧ Subscribed d p.routing) ?_ ?_ ⟨⟨[c],hn⟩,hs⟩
  · rintro p p' current scope rest events ⟨⟨cs,hn⟩,hs⟩ hp ha
    obtain ⟨cs',_,_,hn',_⟩ := ha.nested hd hu hw hs.toPlaced hp hn
    exact ⟨⟨cs',hn'⟩,ha.subscribed hd hu hs⟩
  · rintro p current scope rest ⟨⟨cs,hn⟩,_⟩ hp
    exact hn.stepFailsWith hw hp

theorem activeScopeForNode_blamesScope (hw : WellNested d contexts) (hr : Rests contexts s.routing)
    (hp : Placed d s.routing) (hpos : TokensPositive s.routing) (ha : NodeActive s.routing n) :
    FailsWith (fun e => e.blamesScope = false) (d.activeScopeForNode s n) := by
  unfold WorkflowDefinition.activeScopeForNode
  split
  · exact .ok _
  · rename_i owner ho
    obtain ⟨id,hid⟩ := hr.one_instance hw hp hpos ha ho
    rw [show s.activeScopes = s.routing.activeScopes from rfl, hid]
    exact .ok _

/-- In runs of a nested definition whose boundary events respect the contexts: the owner of every active node
has exactly one active instance; every scope is completed with nothing active inside; and no further such
command fails for want of an active scope. -/
theorem scope_containment (hd : d.Accepted) (hu : UnambiguousScopes d) (hw : WellNested d contexts)
    (hs : NestedRun d contexts s) : (∀ n owner, NodeActive s.routing n → d.ownerScopeId n = some owner →
      ∃ id, scopeInstances s.activeScopes owner = [id]) ∧
    (∀ command context events, command.Nested d contexts → decideEvents d s command context = .ok events →
      ∀ before after id owner finish t, events = before ++ .scopeCompleted id owner finish t :: after →
        ∀ n, d.ownerScopeId n = some owner → ¬NodeActive (before.foldl evolve s).routing n) ∧
    (∀ command context e, command.Nested d contexts → decideEvents d s command context = .error e →
      (∀ n, e ≠ .scopeNotActive n) ∧ ∀ id, e ≠ .scopeInstanceNotActive id) := by
  have hrea : Reachable d s := RunsWhile.reachable hs
  have hpos := hrea.tokensPositive
  have hsub := hrea.subscribed hd hu
  have hre := hs.rests hd hu hw
  refine ⟨fun n owner ha ho => hre.one_instance hw hsub.toPlaced hpos ha ho,?_,?_⟩
  · intro command context events hc hdec before after id owner finish t hes
    obtain ⟨r,hr⟩ := decideEvents_eq_ok.mp hdec
    have hea := ((decideRouting_decides hr).resumed hd hw hpos hsub hre hc).completesEmpty hd hu hw hpos
    rw [hes] at hea
    have he : NothingInside d (before.foldl routeEvent s.routing) owner := hea.at
    have hrt : before.foldl routeEvent s.routing = (before.foldl evolve s).routing := foldl_evolve_routing before s
    rw [hrt] at he
    exact he
  · intro command context e hc herr
    have hb : e.blamesScope = false := by
      refine decideEvents_failsWith blamesScope_of_blamesFlow ?_ ?_ hpos e herr
      · exact fun n ha => activeScopeForNode_blamesScope hw hre hsub.toPlaced hpos ha
      · intro m scope vars r occurredAt hco
        obtain ⟨c,hn,hs',_⟩ := hco.nested hd hw hpos hsub hre hc
        exact activationEvents_blamesScope hd hu hw (hn vars) hs'
    constructor
    · rintro n rfl
      cases hb
    · rintro id rfl
      cases hb

end Containment

namespace Sample

def packageInput (boundaryEvents : List (NodeId × BoundaryEventDefinition)) : DefinitionInput := {
  process (.lit "package") [(.lit "start", .start (.lit "package")),
    (.lit "package", .subProcess (.lit "open") (.lit "close") (.lit "end")),
    (.lit "open", .start (.lit "wrap")), (.lit "wrap", .serviceTask (.lit "work") (.lit "close")),
    (.lit "close", .finish), (.lit "end", .finish)] with
  contracts := {
    boundaryEvents := boundaryEvents
    nodeMetadata := [(.lit "open", { ownerScopeId := some (.lit "package") }),
      (.lit "wrap", { ownerScopeId := some (.lit "package") }),
      (.lit "close", { ownerScopeId := some (.lit "package") })] } }

def package : WorkflowDefinition := build (packageInput []) (by decide)

def packageContexts : Contexts :=
  ((ExtTreeMap.empty.insert (.lit "open") [.inside (.lit "package")]).insert (.lit "wrap")
    [.inside (.lit "package")]).insert (.lit "close") [.inside (.lit "package")]

def packageStart : List DomainEvent :=
  ((decideEvents package {} (.startWorkflow (.lit "tenant-a") 5) context).toOption).getD []

def noticed : WorkflowDefinition :=
  build (packageInput [(.lit "wrap", ⟨.lit "notice", false, .lit "close", .message "notice"⟩)]) (by decide)

def noticedStart : List DomainEvent :=
  ((decideEvents noticed {} (.startWorkflow (.lit "tenant-a") 5) context).toOption).getD []

def noticedTrigger : List DomainEvent :=
  ((decideEvents noticed (noticedStart.foldl evolve {}) (.triggerBoundaryEvent (.lit "notice") 6) context).toOption).getD []

end Sample

open Sample

theorem scope_containment_package :
    NestedRun package packageContexts (packageStart.foldl evolve {}) ∧
    NodeActive (packageStart.foldl evolve {}).routing (.lit "wrap") ∧
    ∃ id, scopeInstances (packageStart.foldl evolve {}).activeScopes (.lit "package") = [id] := by
  have hs : decideEvents package {} (.startWorkflow (.lit "tenant-a") 5) context =
      .ok packageStart := by rfl
  have hrun : NestedRun package packageContexts (packageStart.foldl evolve {}) :=
    .step .refl (by exact trivial) hs
  have ha : NodeActive (packageStart.foldl evolve {}).routing (.lit "wrap") := .inl (by decide)
  obtain ⟨hone,_,_⟩ := scope_containment (build_accepted _ _) (by decide : UnambiguousScopes package)
    (by decide : WellNested package packageContexts) hrun
  exact ⟨hrun,ha,hone _ _ ha (by rfl)⟩

/-- The triggered boundary event completes the scope around the running task, which then cannot complete. -/
theorem scope_completed_around_task : noticed.Accepted ∧
    Reachable noticed (noticedTrigger.foldl evolve (noticedStart.foldl evolve {})) ∧
    noticedTrigger.any (fun e => e matches .scopeCompleted ..) = true ∧
    NodeActive (noticedTrigger.foldl evolve (noticedStart.foldl evolve {})).routing (.lit "wrap") ∧
    noticed.ownerScopeId (.lit "wrap") = some (.lit "package") ∧
    scopeInstances (noticedTrigger.foldl evolve (noticedStart.foldl evolve {})).activeScopes
      (.lit "package") = [] ∧
    decideEvents noticed (noticedTrigger.foldl evolve (noticedStart.foldl evolve {}))
      (.completeServiceTask (.lit "wrap") ∅ 7) context = .error (.scopeNotActive (.lit "package")) := by
  have hs : decideEvents noticed {} (.startWorkflow (.lit "tenant-a") 5) context =
      .ok noticedStart := by rfl
  have ht : decideEvents noticed (noticedStart.foldl evolve {})
      (.triggerBoundaryEvent (.lit "notice") 6) context = .ok noticedTrigger := by rfl
  exact ⟨build_accepted _ _,.step (.step .initial hs) ht,by rfl,.inl (by decide),by rfl,by decide,by rfl⟩

end BpmpPlatform
