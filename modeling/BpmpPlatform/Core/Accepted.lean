import BpmpPlatform.Core.Validation

/-! # What acceptance guarantees

Facts about every definition that `new_with_execution_contracts` returns.
-/
namespace BpmpPlatform
open Std Outcome List

structure Validated (us : UnstableSort) (d : WorkflowDefinition) : Prop where
  nodes : ∀ nodeId node, d.nodes[nodeId]? = some node →
    validateNode us d.nodes d.decisionTables (nodeId, node) = .ok ()
  tables : ∀ id table, d.decisionTables[id]? = some table →
    validateDecisionTable table = .ok () ∧ table.id = id
  start : d.nodes[d.startNode]?.any Node.isStart = true
  boundaries : ∃ entries, indexBoundaries d.nodes ∅ [] entries = .ok d.boundaryEventMap
  metadata : ∀ nodeId entry, d.nodeMetadata[nodeId]? = some entry →
    validateMetadataEntry d.nodes nodeId entry = .ok ()
  scopes : validateScopeOwnership d.nodes d.nodeMetadata = .ok ()
  caseModels : ∀ id model, d.caseModels[id]? = some model →
    validateCaseDefinition model = .ok () ∧ model.id = id
  reachable : d.validateReachability = .ok ()

theorem indexBy_checked {K V ε : Type} [Ord K] [TransOrd K] [LawfulEqOrd K] [DecidableEq K]
    {check : K → V → Except ε Unit} {duplicate : K → ε} {l : List (K × V)} {m : ExtTreeMap K V}
    (h : indexBy check duplicate ∅ l = .ok m) {k : K} {v : V} (hk : m[k]? = some v) :
    check k v = .ok () ∧ (k, v) ∈ l := by
  have hmem : (k, v) ∈ l := by
    rcases (indexBy_getElem? h k v).mp hk with h0 | hm
    · simp at h0
    · exact hm
  exact ⟨(indexBy_isOk_iff.mp ⟨m,h⟩).1 (k, v) hmem,hmem⟩

theorem newWithExecutionContracts_validated {us : UnstableSort} {input : DefinitionInput}
    {d : WorkflowDefinition} (h : WorkflowDefinition.newWithExecutionContracts us input = .ok d) :
    Validated us d := by
  simp only [WorkflowDefinition.newWithExecutionContracts, bind_eq_ok, ensure_eq_ok,
    checkAll_eq_ok, pure_eq_ok] at h
  obtain ⟨indexed,hno,tables,hta,_,hs,_,hva,boundaries,hbo,metadata,hme,_,hss,
    _,_,models,hmo,_,hre,rfl⟩ := h
  refine ⟨?_,?_,hs,⟨_,hbo⟩,?_,hss,?_,hre⟩
  · intro nodeId node hn
    exact hva (nodeId, node) (ExtTreeMap.mem_toList_iff_getElem?_eq_some.mpr hn)
  · intro id table ht
    obtain ⟨hc,hmem⟩ := indexBy_checked hta ht
    obtain ⟨t,_,ht⟩ := mem_map.mp hmem
    cases ht
    exact ⟨hc,rfl⟩
  · intro nodeId entry hm
    exact (indexBy_checked hme hm).1
  · intro id model hm
    obtain ⟨hc,hmem⟩ := indexBy_checked hmo hm
    obtain ⟨m,_,hm⟩ := mem_map.mp hmem
    cases hm
    exact ⟨hc,rfl⟩

/-- What the index of boundary events satisfies while it is built; `ids` are the identifiers met so far. -/
structure BoundaryIndex (m : ExtTreeMap NodeId (List BoundaryEventDefinition)) (ids : List NodeId) : Prop where
  listed : ∀ owner : NodeId, ∀ b ∈ m[owner]?.getD [], b.id ∈ ids
  nodup : ∀ owner : NodeId, ((m[owner]?.getD []).map BoundaryEventDefinition.id).Nodup
  unique : ∀ owner owner' : NodeId, ∀ b ∈ m[owner]?.getD [], ∀ b' ∈ m[owner']?.getD [],
    b.id = b'.id → owner = owner'

variable {m : ExtTreeMap NodeId (List BoundaryEventDefinition)} {owner : NodeId} {ids : List NodeId}

theorem BoundaryIndex.insert (h : BoundaryIndex m ids) {boundary : BoundaryEventDefinition}
    (hnew : boundary.id ∉ ids) :
    BoundaryIndex (m.insert owner (m[owner]?.getD [] ++ [boundary])) (boundary.id :: ids) := by
  -- an entry of the new index is an old one, or the boundary event at its owner
  have hmem : ∀ o : NodeId, ∀ b ∈ (m.insert owner (m[owner]?.getD [] ++ [boundary]))[o]?.getD [],
      b ∈ m[o]?.getD [] ∨ o = owner ∧ b = boundary := by
    intro o b hb
    rw [getElem?_insert_eq] at hb
    split at hb
    · rename_i ho
      subst ho
      simpa using hb
    · exact .inl hb
  refine ⟨?_,?_,?_⟩
  · intro o b hb
    rcases hmem o b hb with hold | ⟨_,rfl⟩
    · exact mem_cons_of_mem _ (h.listed o b hold)
    · exact mem_cons_self
  · intro o
    rw [getElem?_insert_eq]
    split
    · rw [Option.getD_some, map_append, nodup_append]
      refine ⟨h.nodup owner,by simp,?_⟩
      intro id hid id' hid' heq
      obtain ⟨b,hb,rfl⟩ := mem_map.mp hid
      rw [map_singleton, mem_singleton] at hid'
      exact hnew (hid' ▸ heq ▸ h.listed owner b hb)
    · exact h.nodup o
  · intro o o' b hb b' hb' hid
    rcases hmem o b hb with hold | ⟨rfl,rfl⟩
    · rcases hmem o' b' hb' with hold' | ⟨rfl,rfl⟩
      · exact h.unique o o' b hold b' hold' hid
      · exact absurd (hid ▸ h.listed o b hold) hnew
    · rcases hmem o' b' hb' with hold' | ⟨rfl,rfl⟩
      · exact absurd (hid ▸ h.listed o' b' hold') hnew
      · rfl

theorem indexBoundaries_index {nodes : ExtTreeMap NodeId Node} {m' : ExtTreeMap NodeId (List BoundaryEventDefinition)}
    {entries : List (NodeId × BoundaryEventDefinition)} (hm : BoundaryIndex m ids)
    (h : indexBoundaries nodes m ids entries = .ok m') : ∃ ids', BoundaryIndex m' ids' := by
  induction entries generalizing m ids with
  | nil => cases h; exact ⟨ids,hm⟩
  | cons entry rest ih =>
    simp only [indexBoundaries, bind_eq_ok, ensure_eq_ok] at h
    obtain ⟨_,_,_,_,_,hnew,h⟩ := h
    exact ih (hm.insert (by simpa using hnew)) h

namespace WorkflowDefinition.Accepted
variable {d : WorkflowDefinition} (hd : d.Accepted) {nodeId : NodeId} {b : BoundaryEventDefinition}
include hd

theorem validated : ∃ us, Validated us d := by
  obtain ⟨us,input,h⟩ := hd
  exact ⟨us,newWithExecutionContracts_validated h⟩

theorem gateway_ok {node : Node} (hn : d.nodes[nodeId]? = some node) :
    ∃ us, validateGatewayNode us nodeId node d.nodes = .ok () := by
  obtain ⟨us,hv⟩ := hd.validated
  have h := hv.nodes nodeId node hn
  simp only [validateNode, bind_eq_ok] at h
  obtain ⟨_,h,_⟩ := h
  exact ⟨us,h⟩

theorem parallelSplit_length {targets : List NodeId} {join : NodeId}
    (hn : d.nodes[nodeId]? = some (.parallelSplit targets join)) : 2 ≤ targets.length := by
  obtain ⟨us,h⟩ := hd.gateway_ok hn
  simp only [validateGatewayNode, validateParallelSplit, bind_eq_ok, ensure_eq_ok, decide_eq_true_eq] at h
  obtain ⟨_,⟨_,hlen,_⟩,_⟩ := h
  exact hlen

theorem maxParallelism_ne_zero {spec : MultiInstanceDefinition} (h : d.multiInstance nodeId = some spec) :
    spec.maxParallelism ≠ some 0 := by
  obtain ⟨us,hv⟩ := hd.validated
  obtain ⟨metadata,hm,hs⟩ := Option.bind_eq_some_iff.mp h
  have hva := hv.metadata nodeId metadata hm
  simp only [validateMetadataEntry, validateNodeMetadata, hs, bind_eq_ok, ensure_eq_ok, bne_iff_ne] at hva
  obtain ⟨_,_,_,_,_,_,_,_,_,_,hne⟩ := hva
  exact hne

theorem boundaryIndex : ∃ ids, BoundaryIndex d.boundaryEventMap ids := by
  obtain ⟨us,hv⟩ := hd.validated
  obtain ⟨entries,h⟩ := hv.boundaries
  have he : BoundaryIndex (∅ : ExtTreeMap NodeId (List BoundaryEventDefinition)) [] :=
    ⟨by simp,by simp,by simp⟩
  exact indexBoundaries_index he h

theorem boundaryEvents_nodup (nodeId : NodeId) :
    ((d.boundaryEvents nodeId).map BoundaryEventDefinition.id).Nodup := by
  obtain ⟨ids,h⟩ := hd.boundaryIndex
  exact h.nodup nodeId

theorem boundaryEvents_unique {owner' : NodeId} {b' : BoundaryEventDefinition} (hb : b ∈ d.boundaryEvents owner)
    (hb' : b' ∈ d.boundaryEvents owner') (hid : b.id = b'.id) : owner = owner' ∧ b = b' := by
  obtain ⟨ids,h⟩ := hd.boundaryIndex
  have ho := h.unique owner owner' b hb b' hb' hid
  subst ho
  exact ⟨rfl,inj_on_of_nodup_map (h.nodup owner) hb hb' hid⟩

theorem boundaryEvent_eq_some (hb : b ∈ d.boundaryEvents owner) : d.boundaryEvent b.id = some (owner, b) := by
  cases hfi : d.boundaryEvent b.id with
  | none =>
    have hmem : (owner, d.boundaryEvents owner) ∈ d.boundaryEventMap.toList := by
      rw [ExtTreeMap.mem_toList_iff_getElem?_eq_some]
      unfold WorkflowDefinition.boundaryEvents at hb ⊢
      cases hm : d.boundaryEventMap[owner]? with
      | none => simp [hm] at hb
      | some => rfl
    have hn := List.findSome?_eq_none_iff.mp hfi _ hmem
    rw [Option.map_eq_none_iff, List.find?_eq_none] at hn
    exact absurd (beq_self_eq_true b.id) (hn b hb)
  | some =>
    obtain ⟨⟨owner',l⟩,hl,hf⟩ := exists_of_findSome?_eq_some hfi
    obtain ⟨b',hb',rfl⟩ := Option.map_eq_some_iff.mp hf
    have hin : b' ∈ d.boundaryEvents owner' := by
      rw [WorkflowDefinition.boundaryEvents, ExtTreeMap.mem_toList_iff_getElem?_eq_some.mp hl]
      exact mem_of_find?_eq_some hb'
    have hid : b'.id = b.id := by simpa using List.find?_some hb'
    obtain ⟨rfl,rfl⟩ := hd.boundaryEvents_unique hin hb hid
    rfl

end WorkflowDefinition.Accepted

variable {table : DecisionTable} {rule : DecisionRule} {vars : Variables}

theorem selectRule_mem {selected : Option DecisionRule} {rules : List DecisionRule}
    (h : selectRule table vars selected rules = .ok (some rule)) : selected = some rule ∨ rule ∈ rules := by
  induction rules generalizing selected with
  | nil => cases h; exact .inl rfl
  | cons first rest ih =>
    simp only [selectRule, bind_eq_ok] at h
    obtain ⟨holds,_,h⟩ := h
    split at h
    · split at h
      · cases h; exact .inr mem_cons_self
      · exact .inr ((ih h).elim (fun heq => by cases heq; simp) (mem_cons_of_mem _))
      · exact absurd h throw_ne_ok
    · exact (ih h).imp_right (mem_cons_of_mem _)

theorem ruleLengths_of_valid (h : validateDecisionTable table = .ok ()) (hr : rule ∈ table.rules) :
    rule.inputTests.length = table.inputs.length ∧ rule.outputValues.length = table.outputs.length := by
  simp only [validateDecisionTable, bind_eq_ok, checkAll_eq_ok] at h
  obtain ⟨_,_,_,_,hru⟩ := h
  have hrul := hru rule hr
  simp only [validateDecisionRule, bind_eq_ok, ensure_eq_ok, beq_iff_eq] at hrul
  obtain ⟨_,hin,_,hou,_⟩ := hrul
  exact ⟨hin,hou⟩

/-- A table that has passed its check assigns exactly the variables its outputs name. -/
theorem evaluateDecisionTable_keys {outputs : Variables} (hva : validateDecisionTable table = .ok ())
    (h : evaluateDecisionTable table vars = .ok outputs) (name : String) :
    name ∈ outputs.keys ↔ name ∈ table.outputs.map DecisionOutput.name := by
  simp only [evaluateDecisionTable, bind_eq_ok, okOr_eq_ok, pure_eq_ok] at h
  obtain ⟨_,hsel,rule,rfl,rfl⟩ := h
  have hmem : rule ∈ table.rules := (selectRule_mem hsel).resolve_left (by simp)
  have hl := (ruleLengths_of_valid hva hmem).2
  rw [ExtTreeMap.mem_keys, ruleOutputs, ExtTreeMap.mem_insertMany_list, map_map, contains_iff_mem]
  have hna : (table.outputs.zip rule.outputValues).map (DecisionOutput.name ∘ Prod.fst) =
      table.outputs.map DecisionOutput.name := by
    rw [← map_map, map_fst_zip (by omega)]
  simp only [← hna, Function.comp_def, ExtTreeMap.not_mem_empty, false_or]

end BpmpPlatform
