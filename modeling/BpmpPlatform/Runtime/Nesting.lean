import BpmpPlatform.Library.Nesting
import BpmpPlatform.Runtime.Occupancy

/-! # Nested definitions

A definition is nested when every node can be given the branches and sub-processes it stands in, such that the flows
respect them.
-/
namespace BpmpPlatform
open Std Outcome List

/-- A branch towards a join that starts at a target of its split, or the inside of a sub-process. -/
inductive Frame
  | branch (join target : NodeId)
  | inside (scopeNodeId : NodeId)
  deriving DecidableEq

namespace Frame

def holder : Frame → NodeId
  | .branch join _ => join
  | .inside scopeNodeId => scopeNodeId

def isBranchOf (join : NodeId) : Frame → Bool
  | .branch join' _ => join' == join
  | .inside _ => false

def isInside (scopeNodeId : NodeId) : Frame → Bool
  | .branch _ _ => false
  | .inside scopeNodeId' => scopeNodeId' == scopeNodeId

def scope : Frame → Option NodeId
  | .branch _ _ => none
  | .inside scopeNodeId => some scopeNodeId

end Frame

abbrev Contexts := ExtTreeMap NodeId (List Frame)

def Contexts.around (contexts : Contexts) (n : NodeId) : List Frame := contexts[n]?.getD []

def innermostScope (c : List Frame) : Option NodeId := c.findSome? Frame.scope

def headIs (test : Frame → Bool) (c : List Frame) : Bool := c.head?.any test

section WellNested
variable (d : WorkflowDefinition) (contexts : Contexts)

/-- A token that comes from context `c` may enter the node: a join is entered from one of its branches,
every other node from its own context. -/
def Enters (c : List Frame) (m : NodeId) : Prop :=
  if (d.nodes[m]?.bind Node.joinPair).isSome = true then
    headIs (Frame.isBranchOf m) c = true ∧ c.tail = contexts.around m
  else c = contexts.around m

instance (c : List Frame) (m : NodeId) : Decidable (Enters d contexts c m) := by
  unfold Enters
  infer_instance

def SplitNested (n : NodeId) (targets : List NodeId) (join : NodeId) : Prop :=
  contexts.around join = contexts.around n ∧
    ∀ target ∈ targets, Enters d contexts (.branch join target :: contexts.around n) target

instance (n : NodeId) (targets : List NodeId) (join : NodeId) :
    Decidable (SplitNested d contexts n targets join) := by
  unfold SplitNested
  infer_instance

def NodeNested (n : NodeId) : Node → Prop
  | .parallelSplit targets join => SplitNested d contexts n targets join
  | .inclusiveSplit transitions _ join =>
    SplitNested d contexts n (transitions.map GuardedTransition.target) join
  | .subProcess start _ next =>
    Enters d contexts (.inside n :: contexts.around n) start ∧ Enters d contexts (contexts.around n) next
  | .finish => contexts.around n = match d.ownerScopeId n with
    | none => []
    | some owner => .inside owner :: contexts.around owner
  | node => ∀ target ∈ node.targets, Enters d contexts (contexts.around n) target

instance (n : NodeId) (node : Node) : Decidable (NodeNested d contexts n node) := by
  cases node <;> unfold NodeNested <;> infer_instance

def ContextCoherent : List Frame → Prop
  | [] => True
  | frame :: rest => rest = contexts.around frame.holder

instance (c : List Frame) : Decidable (ContextCoherent contexts c) := by
  cases c <;> unfold ContextCoherent <;> infer_instance

/-- The contexts respect the flows of the definition and the owners of its nodes. -/
structure WellNested : Prop where
  start : contexts.around d.startNode = []
  nodes : ∀ entry ∈ d.nodes.toList, NodeNested d contexts entry.1 entry.2
  owners : ∀ entry ∈ d.nodes.toList, d.ownerScopeId entry.1 = innermostScope (contexts.around entry.1)
  coherent : ∀ entry ∈ contexts.toList, ContextCoherent contexts entry.2

instance : Decidable (WellNested d contexts) :=
  decidable_of_iff ((contexts.around d.startNode = [] ∧ ∀ entry ∈ d.nodes.toList, NodeNested d contexts entry.1 entry.2) ∧
      (∀ entry ∈ d.nodes.toList, d.ownerScopeId entry.1 = innermostScope (contexts.around entry.1)) ∧
      ∀ entry ∈ contexts.toList, ContextCoherent contexts entry.2)
    ⟨fun ⟨⟨h₁,h₂⟩,h₃,h₄⟩ => ⟨h₁,h₂,h₃,h₄⟩,fun h => ⟨⟨h.start,h.nodes⟩,h.owners,h.coherent⟩⟩

variable {d contexts}

section
variable (h : WellNested d contexts) {n : NodeId}
include h

theorem WellNested.node {node : Node} (hn : d.nodes[n]? = some node) :
    NodeNested d contexts n node := h.nodes (n, node) (ExtTreeMap.mem_toList_iff_getElem?_eq_some.mpr hn)

theorem WellNested.owner {node : Node} (hn : d.nodes[n]? = some node) :
    d.ownerScopeId n = innermostScope (contexts.around n) :=
  h.owners (n, node) (ExtTreeMap.mem_toList_iff_getElem?_eq_some.mpr hn)

theorem WellNested.tail_eq (n : NodeId) (frame : Frame) (rest : List Frame)
    (hc : contexts.around n = frame :: rest) : rest = contexts.around frame.holder := by
  cases hn : contexts[n]? with
  | none => simp [Contexts.around, hn] at hc
  | some c =>
    have hco := h.coherent (n, c) (ExtTreeMap.mem_toList_iff_getElem?_eq_some.mpr hn)
    rw [Contexts.around, hn, Option.getD_some] at hc
    subst hc
    exact hco

end

def WellNested.nest (h : WellNested d contexts) : Nest NodeId Frame :=
  ⟨contexts.around,Frame.holder,h.tail_eq⟩

section Targets
variable (h : WellNested d contexts) {n target : NodeId} {c : List Frame}
include h

/-- An activity, a decision, a start node, an exclusive gateway and a join lead to nodes of their context. -/
theorem WellNested.plain {node : Node} (hn : d.nodes[n]? = some node) (ht : target ∈ node.targets)
    (hpl : match node with
      | .parallelSplit .. | .inclusiveSplit .. | .subProcess .. | .finish => False
      | _ => True) : Enters d contexts (contexts.around n) target := by
  have hno := h.node hn
  cases node <;> first | exact hpl.elim | exact hno target ht

omit h in
theorem enters_join {node : Node} (hn : d.nodes[n]? = some node) (hj : node.joinPair.isSome = true) :
    Enters d contexts c n ↔ ∃ target, c = .branch n target :: contexts.around n := by
  have hjo : (d.nodes[n]?.bind Node.joinPair).isSome = true := by rw [hn]; exact hj
  rw [Enters, if_pos hjo]
  constructor
  · rintro ⟨hh,ht⟩
    cases c with
    | nil => cases hh
    | cons frame =>
      cases frame with
      | branch join target =>
        have heq : join = n := by simpa [headIs, Frame.isBranchOf] using hh
        subst heq
        exact ⟨target,by rw [← ht]; rfl⟩
      | inside => cases hh
  · rintro ⟨target,rfl⟩
    exact ⟨by simp [headIs, Frame.isBranchOf],rfl⟩

omit h in
theorem enters_of_not_join {node : Node} (hn : d.nodes[n]? = some node) (hj : node.joinPair = none) :
    Enters d contexts c n ↔ c = contexts.around n := by
  have hjo : ¬(d.nodes[n]?.bind Node.joinPair).isSome = true := by
    rw [hn, Option.bind_some, hj]
    simp
  rw [Enters, if_neg hjo]

/-- A context from which a node can be entered could stand around a node. -/
theorem WellNested.coherent_of_enters {m : NodeId} (he : Enters d contexts c m) : h.nest.Coherent c := by
  unfold Enters at he
  split at he
  · obtain ⟨hh,ht⟩ := he
    rintro frame rest rfl
    cases frame with
    | branch join =>
      have heq : join = m := by simpa [headIs, Frame.isBranchOf] using hh
      subst heq
      exact ht
    | inside => cases hh
  · subst he
    exact h.nest.coherent_ctx m

end Targets

end WellNested

section Selection
variable {gatewayId target : NodeId} {vars : Variables} {transitions : List GuardedTransition}

theorem defaultTarget_mem (h : defaultTarget transitions = some target) :
    target ∈ transitions.map GuardedTransition.target := by
  obtain ⟨transition,ht,rfl⟩ := Option.map_eq_some_iff.mp h
  exact mem_map_of_mem (mem_of_find?_eq_some ht)

theorem selectGuarded_mem {selected result : Option NodeId}
    (h : selectGuarded gatewayId vars selected transitions = .ok result) :
    result = selected ∨ ∃ target ∈ transitions.map GuardedTransition.target, result = some target := by
  induction transitions generalizing selected with
  | nil => cases h; exact .inl rfl
  | cons transition rest ih =>
    -- what the rest selects is selected here, and so is the target of the first transition
    have later {selected' : Option NodeId} (h : selectGuarded gatewayId vars selected' rest = .ok result) :
        result = selected' ∨ ∃ target ∈ (transition :: rest).map GuardedTransition.target, result = some target := by
      rcases ih h with rfl | ⟨target,ht,rfl⟩
      · exact .inl rfl
      · exact .inr ⟨target,mem_cons_of_mem _ ht,rfl⟩
    unfold selectGuarded at h
    split at h
    · exact later h
    · simp only [bind_eq_ok] at h
      obtain ⟨holds,_,h⟩ := h
      cases holds with
      | false => exact later h
      | true =>
        simp only [↓reduceIte, bind_eq_ok] at h
        obtain ⟨_,_,h⟩ := h
        rcases later h with rfl | hmem
        · exact .inr ⟨transition.target,by simp,rfl⟩
        · exact .inr hmem

theorem selectTransition_mem (h : selectTransition gatewayId transitions vars = .ok target) :
    target ∈ transitions.map GuardedTransition.target := by
  simp only [selectTransition, bind_eq_ok, okOr_eq_ok] at h
  obtain ⟨selected,hs,h⟩ := h
  rcases selectGuarded_mem hs with rfl | ⟨target',ht,rfl⟩
  · exact defaultTarget_mem h
  · cases h
    exact ht

theorem matchingTargets_sublist {targets : List NodeId} (h : matchingTargets vars transitions = .ok targets) :
    targets.Sublist (transitions.map GuardedTransition.target) := by
  induction transitions generalizing targets with
  | nil => cases h; exact .slnil
  | cons transition rest ih =>
    unfold matchingTargets at h
    split at h
    · exact (ih h).cons _
    · simp only [bind_eq_ok] at h
      obtain ⟨holds,_,later,hl,⟨⟩⟩ := h
      cases holds with
      | false => exact (ih hl).cons _
      | true => exact (ih hl).cons_cons _

theorem selectTransitions_sublist {selected : List NodeId}
    (h : selectTransitions gatewayId transitions vars = .ok selected) :
    selected.Sublist (transitions.map GuardedTransition.target) := by
  simp only [selectTransitions, bind_eq_ok, ensure_eq_ok] at h
  obtain ⟨targets,hm,_,_,⟨⟩⟩ := h
  split
  · cases hdef : defaultTarget transitions with
    | none => exact nil_sublist _
    | some => exact singleton_sublist.mpr (defaultTarget_mem hdef)
  · exact matchingTargets_sublist hm

end Selection

section Split
variable {d : WorkflowDefinition} {contexts : Contexts} {current join : NodeId} {vars : Variables} {node : Node}
  {selected : List NodeId}

theorem SplitSelects.nodup (hd : d.Accepted) (hn : d.nodes[current]? = some node)
    (h : SplitSelects current vars node join selected) : selected.Nodup := by
  obtain ⟨us,hg⟩ := hd.gateway_ok hn
  cases h with
  | parallel =>
    simp only [validateGatewayNode, validateParallelSplit, bind_eq_ok, ensure_eq_ok] at hg
    obtain ⟨_,⟨_,_,hf⟩,_⟩ := hg
    split at hf
    · cases hf
    · rename_i hno
      rw [nodup_iff_count_le_one]
      intro target
      by_cases hmem : target ∈ selected
      · simpa using List.find?_eq_none.mp hno target hmem
      · rw [count_eq_zero_of_not_mem hmem]
        exact Nat.zero_le 1
  | inclusive h =>
    simp only [validateGatewayNode, validateInclusiveGateway, bind_eq_ok, ensure_eq_ok] at hg
    obtain ⟨_,⟨_,_,_,_,_,_,hdup⟩,_⟩ := hg
    split at hdup
    · exact (selectTransitions_sublist h).nodup nodup_nil
    · exact (selectTransitions_sublist h).nodup (by simpa using hdup)

theorem SplitSelects.nested (hw : WellNested d contexts) (hn : d.nodes[current]? = some node)
    (h : SplitSelects current vars node join selected) : SplitNested d contexts current selected join := by
  have hno := hw.node hn
  cases h with
  | parallel => exact hno
  | inclusive h => exact ⟨hno.1,fun target ht => hno.2 target ((selectTransitions_sublist h).subset ht)⟩

theorem SplitSelects.joinPair (h : SplitSelects current vars node join selected) : node.joinPair = none := by
  cases h <;> rfl

end Split

end BpmpPlatform
