import BpmpPlatform.Engine.WirLoader

/-! # The order of decision rules

What evaluating a table makes of the order of its rules: nothing under the unique hit policy, and under
the first one the choice among the rules that match.
-/
namespace BpmpPlatform
open Std Outcome WirLoader WorkflowDefinition List

variable {e : DomainError}

section Matching
variable {table : DecisionTable} {vars : Variables} {rule : DecisionRule} {rules rules' : List DecisionRule}
  {tableId : String} {inputs : List DecisionInput} {selected : Option DecisionRule}

def InputsFit (vars : Variables) (inputs : List DecisionInput) : Prop :=
  ∀ input ∈ inputs, ∃ value, vars[input.name]? = some value ∧ input.valueType.accepts value = true

theorem testsMatch_cons {input : DecisionInput} {test : UnaryTest} {rest : List (DecisionInput × UnaryTest)}
    {value : WorkflowValue} (hv : vars[input.name]? = some value) :
    testsMatch tableId vars ((input, test) :: rest) =
      if input.valueType.accepts value then
        if test.accepts value then testsMatch tableId vars rest else .ok false
      else .error (.decisionInputTypeMismatch tableId input.name value.typeName input.valueType.typeName) := by
  rw [testsMatch, hv]
  cases ht : input.valueType.accepts value with
  | true | false =>
    change (ensure (input.valueType.accepts value) _ >>= fun _ => _) = _
    rw [ht]
    rfl

theorem testsMatch_ok_of_fit (h : InputsFit vars inputs) (tests : List UnaryTest) :
    ∃ b, testsMatch tableId vars (inputs.zip tests) = .ok b := by
  induction inputs generalizing tests with
  | nil => exact ⟨true,rfl⟩
  | cons input inputs ih =>
    cases tests with
    | nil => exact ⟨true,rfl⟩
    | cons test tests =>
      obtain ⟨value,hv,ht⟩ := h input (by simp)
      obtain ⟨b,hb⟩ := ih (fun i hi => h i (by simp [hi])) tests
      rw [zip_cons_cons, testsMatch_cons hv, if_pos ht]
      split
      · exact ⟨b,hb⟩
      · exact ⟨false,rfl⟩

/-- All complete rules that look at the first unfit input fail there with the same error. -/
theorem testsMatch_of_unfit (tableId : String) (h : ¬InputsFit vars inputs) :
    ∃ e, ∀ tests : List UnaryTest, tests.length = inputs.length →
      testsMatch tableId vars (inputs.zip tests) = .ok false ∨
        testsMatch tableId vars (inputs.zip tests) = .error e := by
  induction inputs with
  | nil => exact absurd (by intro i hi; cases hi) h
  | cons input inputs ih =>
    cases hv : vars[input.name]? with
    | none =>
      refine ⟨.decisionInputMissing tableId input.name,?_⟩
      rintro (_ | ⟨test,tests⟩) hlen
      · cases hlen
      · right
        simp only [zip_cons_cons, testsMatch, hv]
        rfl
    | some value =>
      cases ht : input.valueType.accepts value with
      | false =>
        refine ⟨.decisionInputTypeMismatch tableId input.name value.typeName input.valueType.typeName,?_⟩
        rintro (_ | ⟨test,tests⟩) hlen
        · cases hlen
        · right
          rw [zip_cons_cons, testsMatch_cons hv, ht]
          rfl
      | true =>
        have hr : ¬InputsFit vars inputs := fun hfit => h (forall_mem_cons.mpr ⟨⟨value,hv,ht⟩,hfit⟩)
        obtain ⟨e,he⟩ := ih hr
        refine ⟨e,?_⟩
        rintro (_ | ⟨test,tests⟩) hlen
        · cases hlen
        · rw [zip_cons_cons, testsMatch_cons hv, if_pos ht]
          split
          · exact he tests (by simpa using hlen)
          · exact .inl rfl

def Complete (table : DecisionTable) : Prop := ∀ rule ∈ table.rules, rule.inputTests.length = table.inputs.length

theorem complete_of_valid (h : validateDecisionTable table = .ok ()) : Complete table :=
  fun _ hr => (ruleLengths_of_valid h hr).1

def Hits (table : DecisionTable) (vars : Variables) (rule : DecisionRule) : Prop :=
  decisionRuleMatches table rule vars = .ok true

instance : DecidablePred (Hits table vars) := fun _ => inferInstanceAs (Decidable (_ = _))

/-- On given variables the rules of a complete table either all have an answer, or none matches and all
failures are the same. -/
theorem rules_answer (h : Complete table) (vars : Variables) :
    (∀ rule ∈ table.rules, ∃ b, decisionRuleMatches table rule vars = .ok b) ∨ ∃ e, ∀ rule ∈ table.rules,
        decisionRuleMatches table rule vars = .ok false ∨ decisionRuleMatches table rule vars = .error e := by
  by_cases hfit : InputsFit vars table.inputs
  · exact .inl fun rule _ => testsMatch_ok_of_fit hfit rule.inputTests
  · obtain ⟨e,he⟩ := testsMatch_of_unfit table.id hfit
    exact .inr ⟨e,fun rule hr => he rule.inputTests (h rule hr)⟩

theorem selectRule_cons {b : Bool} (h : decisionRuleMatches table rule vars = .ok b) :
    selectRule table vars selected (rule :: rules) =
      if b then
        match table.hitPolicy, selected with
        | .first, _ => .ok (some rule)
        | .unique, none => selectRule table vars (some rule) rules
        | .unique, some _ => .error (.ambiguousDecisionTable table.id)
      else selectRule table vars selected rules := by
  cases b <;> cases hp : table.hitPolicy <;> cases selected <;> simp only [selectRule, h, hp] <;> rfl

/-- Where no rule matches, the loop fails if one rule does and selects nothing otherwise. -/
theorem selectRule_of_unanswered (selected : Option DecisionRule) (h : ∀ rule ∈ rules,
      decisionRuleMatches table rule vars = .ok false ∨ decisionRuleMatches table rule vars = .error e) :
    selectRule table vars selected rules =
      if ∀ rule ∈ rules, decisionRuleMatches table rule vars = .ok false then .ok selected else .error e := by
  induction rules with
  | nil => rfl
  | cons rule rules ih =>
    rw [forall_mem_cons] at h
    rcases h.1 with hr | hr
    · rw [selectRule_cons hr, if_neg Bool.false_ne_true, ih h.2]
      simp only [forall_mem_cons, hr, true_and]
    · simp [selectRule, hr, bind, Except.bind]

theorem selectRule_first (hp : table.hitPolicy = .first)
    (h : ∀ rule ∈ rules, ∃ b, decisionRuleMatches table rule vars = .ok b) :
    selectRule table vars none rules = .ok (rules.find? fun rule => decide (Hits table vars rule)) := by
  induction rules with
  | nil => rfl
  | cons rule rules ih =>
    obtain ⟨b,hb⟩ := h rule (by simp)
    rw [selectRule_cons hb]
    cases b with
    | true =>
      rw [if_pos rfl, hp, List.find?_cons, decide_eq_true (p := Hits table vars rule) hb]
    | false =>
      have hm : decide (Hits table vars rule) = false := by simp [Hits, hb]
      rw [if_neg Bool.false_ne_true, List.find?_cons, hm, ih fun r hin => h r (by simp [hin])]

def onlyHit (table : DecisionTable) : List DecisionRule → Except DomainError (Option DecisionRule)
  | [] => .ok none
  | [rule] => .ok (some rule)
  | _ => .error (.ambiguousDecisionTable table.id)

theorem onlyHit_perm {hits hits' : List DecisionRule} (h : hits.Perm hits') :
    onlyHit table hits = onlyHit table hits' := by
  match hits, hits', h with
  | [], hits', h => rw [nil_perm.mp h]
  | [rule], hits', h => rw [singleton_perm.mp h]
  | _ :: _ :: _, [], h => exact absurd h.length_eq (by simp)
  | _ :: _ :: _, [_], h => exact absurd h.length_eq (by simp)
  | _ :: _ :: _, _ :: _ :: _, _ => rfl

theorem selectRule_unique (hp : table.hitPolicy = .unique) (selected : Option DecisionRule)
    (h : ∀ rule ∈ rules, ∃ b, decisionRuleMatches table rule vars = .ok b) : selectRule table vars selected rules =
      onlyHit table (selected.toList ++ rules.filter fun rule => decide (Hits table vars rule)) := by
  induction rules generalizing selected with
  | nil => cases selected <;> rfl
  | cons rule rules ih =>
    obtain ⟨b,hb⟩ := h rule (by simp)
    have hr : ∀ r ∈ rules, ∃ b, decisionRuleMatches table r vars = .ok b := fun r hin => h r (by simp [hin])
    rw [selectRule_cons hb]
    cases b with
    | true =>
      rw [if_pos rfl, hp, filter_cons, decide_eq_true (p := Hits table vars rule) hb]
      cases selected with
      | none => exact ih (some rule) hr
      | some => rfl
    | false =>
      have hm : decide (Hits table vars rule) = false := by simp [Hits, hb]
      rw [if_neg Bool.false_ne_true, filter_cons, hm, ih selected hr]
      rfl

end Matching

def FirstHit (table : DecisionTable) (vars : Variables) (rule : DecisionRule) : Prop :=
  table.rules.find? (fun r => decide (Hits table vars r)) = some rule

structure LeastHit (table : DecisionTable) (vars : Variables) (rule : DecisionRule) : Prop where
  mem : rule ∈ table.rules
  hit : Hits table vars rule
  least : ∀ other ∈ table.rules, Hits table vars other → (compare rule.id other.id).isLE = true

/-- The policy is unique, or the matching rules that come first in the table and by identifier assign the
same outputs. -/
def OrderIrrelevant (table : DecisionTable) (vars : Variables) : Prop :=
  table.hitPolicy = .unique ∨ ∀ rule least, FirstHit table vars rule → LeastHit table vars least →
    ruleOutputs table least = ruleOutputs table rule

section Reordering
variable {table : DecisionTable} {vars : Variables} {rules : List DecisionRule}
variable {rule : DecisionRule}

theorem FirstHit.hit (h : FirstHit table vars rule) : Hits table vars rule :=
  of_decide_eq_true (List.find?_some (p := fun r => decide (Hits table vars r)) h)

theorem selectRule_withRules (selected : Option DecisionRule) (l : List DecisionRule) :
    selectRule { table with rules := rules } vars selected l = selectRule table vars selected l := by
  induction l generalizing selected with
  | nil => rfl
  | cons rule l ih =>
    simp only [selectRule, ih]
    rfl

theorem evaluate_withRules : evaluateDecisionTable { table with rules := rules } vars =
      (selectRule table vars none rules >>= fun selected =>
        okOr (.noDecisionRuleMatched table.id) selected >>= fun rule => pure (ruleOutputs table rule)) := by
  simp only [evaluateDecisionTable, selectRule_withRules]
  rfl

variable (hperm : rules.Perm table.rules)
include hperm

/-- Where some rule has no answer, the order of the rules does not show. -/
theorem selectRule_unanswered_perm (h : ∀ rule ∈ table.rules,
      decisionRuleMatches table rule vars = .ok false ∨ decisionRuleMatches table rule vars = .error e) :
    selectRule table vars none rules = selectRule table vars none table.rules := by
  rw [selectRule_of_unanswered none h, selectRule_of_unanswered none fun rule hr => h rule (hperm.mem_iff.mp hr)]
  simp only [hperm.mem_iff]

theorem evaluate_unique_perm (hc : Complete table) (hp : table.hitPolicy = .unique) :
    evaluateDecisionTable { table with rules := rules } vars = evaluateDecisionTable table vars := by
  have hsel : selectRule table vars none rules = selectRule table vars none table.rules := by
    rcases rules_answer hc vars with h | ⟨e,h⟩
    · rw [selectRule_unique hp none h, selectRule_unique hp none fun r hr => h r (hperm.mem_iff.mp hr)]
      exact onlyHit_perm (hperm.filter _)
    · exact selectRule_unanswered_perm hperm h
  rw [evaluate_withRules, hsel]
  rfl

theorem exists_firstHit_perm (h : FirstHit table vars rule) :
    ∃ rule', FirstHit { table with rules := rules } vars rule' := by
  refine Option.isSome_iff_exists.mp (List.find?_isSome.mpr ?_)
  exact ⟨rule,hperm.mem_iff.mpr (mem_of_find?_eq_some h),decide_eq_true h.hit⟩

theorem evaluate_first_perm_iff (hc : Complete table) (hp : table.hitPolicy = .first) :
    evaluateDecisionTable { table with rules := rules } vars = evaluateDecisionTable table vars ↔
      ∀ rule rule', FirstHit table vars rule → FirstHit { table with rules := rules } vars rule' →
        ruleOutputs table rule' = ruleOutputs table rule := by
  rcases rules_answer hc vars with h | ⟨e,h⟩
  · have hsel := selectRule_first hp h
    have hsel' := selectRule_first hp fun r hr => h r (hperm.mem_iff.mp hr)
    rw [evaluate_withRules, evaluateDecisionTable, hsel, hsel']
    cases hf : table.rules.find? fun r => decide (Hits table vars r) with
    | none =>
      have hn : rules.find? (fun r => decide (Hits table vars r)) = none := by
        rw [List.find?_eq_none] at hf ⊢
        exact fun r hr => hf r (hperm.mem_iff.mp hr)
      rw [hn]
      refine iff_of_true rfl fun rule rule' hru => ?_
      rw [FirstHit, hf] at hru
      cases hru
    | some rule =>
      obtain ⟨rule',hr'⟩ := exists_firstHit_perm hperm hf
      have hf' : rules.find? (fun r => decide (Hits table vars r)) = some rule' := hr'
      rw [hf']
      change Except.ok (ruleOutputs table rule') = Except.ok (ruleOutputs table rule) ↔ _
      rw [Except.ok.injEq]
      constructor
      · intro heq a b ha hb
        cases hf.symm.trans ha
        cases hr'.symm.trans hb
        exact heq
      · intro hall
        exact hall rule rule' hf hr'
  · refine iff_of_true ?_ fun rule rule' hru => ?_
    · rw [evaluate_withRules, selectRule_unanswered_perm hperm h]
      rfl
    · rcases h rule (mem_of_find?_eq_some hru) with hr | hr <;> cases hru.hit.symm.trans hr

theorem leastHit_of_sorted (hs : rules.Pairwise fun a b => (compare a.id b.id).isLE = true)
    (h : FirstHit { table with rules := rules } vars rule) : LeastHit table vars rule := by
  obtain ⟨_,before,after,heq,hb⟩ := List.find?_eq_some_iff_append.mp h
  refine ⟨hperm.mem_iff.mp (mem_of_find?_eq_some h),h.hit,?_⟩
  intro other ho hh
  have hmem : other ∈ before ++ rule :: after := heq ▸ hperm.mem_iff.mpr ho
  rcases mem_append.mp hmem with hin | hin
  · have hm : ¬Hits { table with rules := rules } vars other := by simpa using hb other hin
    exact absurd hh hm
  · rcases mem_cons.mp hin with rfl | hin
    · exact ReflCmp.isLE_rfl
    · have hp : (before ++ rule :: after).Pairwise fun a b => (compare a.id b.id).isLE = true := heq ▸ hs
      exact (pairwise_cons.mp (pairwise_append.mp hp).2.1).1 other hin

/-- Putting the rules into the order of their identifiers changes no result for which the order of the
rules is irrelevant, and no other result if the identifiers are distinct. -/
theorem evaluate_sorted (hc : Complete table) (hs : rules.Pairwise fun a b => (compare a.id b.id).isLE = true) :
    (OrderIrrelevant table vars →
      evaluateDecisionTable { table with rules := rules } vars = evaluateDecisionTable table vars) ∧
    ((table.rules.map DecisionRule.id).Nodup →
      evaluateDecisionTable { table with rules := rules } vars = evaluateDecisionTable table vars →
      OrderIrrelevant table vars) := by
  have hpo : table.hitPolicy = .unique ∨ table.hitPolicy = .first := by cases table.hitPolicy <;> simp
  rcases hpo with hp | hp
  · exact ⟨fun _ => evaluate_unique_perm hperm hc hp,fun _ _ => .inl hp⟩
  · rw [evaluate_first_perm_iff hperm hc hp]
    constructor
    · rintro (hu | hall) rule rule' hr hr'
      · rw [hp] at hu
        cases hu
      · exact hall rule rule' hr (leastHit_of_sorted hperm hs hr')
    · intro hnd heq
      refine .inr fun rule least hr hle => ?_
      obtain ⟨rule',hr'⟩ := exists_firstHit_perm hperm hr
      have hle' := leastHit_of_sorted hperm hs hr'
      -- distinct identifiers leave one least match
      have hid : least.id = rule'.id := by
        have h₁ := hle.least rule' hle'.mem hle'.hit
        have h₂ := hle'.least least hle.mem hle.hit
        exact LawfulEqCmp.eq_of_compare (OrientedCmp.isLE_antisymm h₁ h₂)
      rw [inj_on_of_nodup_map hnd hle.mem hle'.mem hid]
      exact heq rule rule' hr hr'

end Reordering

section Loading
variable {us : UnstableSort} {wir : Wir.WorkflowIntermediateRepresentation} {d : WorkflowDefinition}

theorem nonEmpty_eq_ok {value field text : String} (h : WirLoader.nonEmpty value field = .ok text) : text = value := by
  simp only [WirLoader.nonEmpty, bind_eq_ok] at h
  obtain ⟨_,_,⟨⟩⟩ := h
  rfl

theorem mapDecisionRule_id {rule : Wir.DecisionRule} {loaded : DecisionRule}
    (h : mapDecisionRule rule = .ok loaded) : loaded.id = rule.id := by
  simp only [mapDecisionRule, bind_eq_ok] at h
  obtain ⟨id,hid,_,_,_,_,⟨⟩⟩ := h
  exact nonEmpty_eq_ok hid

variable {loaded : DecisionTable} {table : Wir.DecisionTable} {id : String}

theorem mapDecisionTable_id (h : mapDecisionTable table = .ok loaded) : loaded.id = table.id := by
  simp only [mapDecisionTable, bind_eq_ok] at h
  obtain ⟨_,_,id,hid,_,_,_,_,_,_,⟨⟩⟩ := h
  exact nonEmpty_eq_ok hid

theorem sortBy_sorted (us : UnstableSort) {α : Type} (key : α → String) (l : List α) :
    (sortBy us key l).Pairwise fun a b => (compare (key a) (key b)).isLE = true := by
  have htr : TransCmp fun a b : α => compare (key a) (key b) :=
    { eq_swap := OrientedCmp.eq_swap
      isLE_trans := TransCmp.isLE_trans }
  exact us.sorted _ l

/-- The canonical form of a table loads as the table with its rules sorted by identifier. -/
theorem mapDecisionTable_canonicalize {loaded' : DecisionTable} (h : mapDecisionTable table = .ok loaded)
    (h' : mapDecisionTable (canonicalizeTable us table) = .ok loaded') :
    ∃ rules, loaded' = { loaded with rules := rules } ∧ rules.Perm loaded.rules ∧
      rules.Pairwise fun a b => (compare a.id b.id).isLE = true := by
  simp only [mapDecisionTable, bind_eq_ok] at h
  obtain ⟨policy,hp,id,hid,inputs,hin,outputs,hou,rules,hru,⟨⟩⟩ := h
  simp only [mapDecisionTable, canonicalizeTable, hp, hid, hin, hou, bind_eq_ok,
    pure_eq_ok, Except.ok.injEq] at h'
  obtain ⟨_,rfl,_,rfl,_,rfl,_,rfl,sorted,hs,rfl⟩ := h'
  refine ⟨sorted,rfl,collectAll_perm (us.perm _ _) hs hru,?_⟩
  have hk := collectAll_map_key (fun _ _ => mapDecisionRule_id) hs
  have hle := sortBy_sorted us Wir.DecisionRule.id table.rules
  rw [← pairwise_map (R := fun a b : String => (compare a b).isLE = true), ← hk, pairwise_map] at hle
  exact hle

theorem newWithExecutionContracts_decisionTable_iff {input : DefinitionInput}
    (h : newWithExecutionContracts us input = .ok d) {table : DecisionTable} :
    d.decisionTables[id]? = some table ↔ table.id = id ∧ table ∈ input.decisionTables := by
  simp only [newWithExecutionContracts, bind_eq_ok] at h
  obtain ⟨_,_,tables,hta,_,_,_,_,_,_,_,_,_,_,_,_,_,_,_,_,⟨⟩⟩ := h
  rw [indexBy_getElem? hta id table]
  simp only [ExtTreeMap.getElem?_empty, reduceCtorEq, false_or, mem_map, Prod.mk.injEq]
  constructor
  · rintro ⟨t,ht,rfl,rfl⟩; exact ⟨rfl,ht⟩
  · rintro ⟨rfl,ht⟩; exact ⟨table,ht,rfl,rfl⟩

theorem mapDefinition_decisionTable_iff (h : mapDefinition us wir = .ok d) :
    d.decisionTables[id]? = some loaded ↔
      loaded.id = id ∧ ∃ table ∈ wir.decisionTables, mapDecisionTable table = .ok loaded := by
  obtain ⟨input,hin,hnew⟩ := mapDefinition_eq_ok.mp h
  rw [newWithExecutionContracts_decisionTable_iff hnew]
  simp only [mapInput, bind_eq_ok] at hin
  obtain ⟨_,_,_,_,_,_,_,_,_,_,_,_,_,_,tables,hta,⟨⟩⟩ := hin
  refine and_congr_right fun _ => ⟨exists_of_collectAll hta,?_⟩
  rintro ⟨table,htab,hl⟩
  obtain ⟨loaded',hmem,hl'⟩ := exists_of_forall₂ (collectAll_eq_ok.mp hta) htab
  rw [hl] at hl'
  cases hl'
  exact hmem

/-- A table loaded from a sealed artifact gives on the variables the result of the table loaded from the
representation itself if the order of the rules is irrelevant there. If the rules have distinct
identifiers it does so only then. -/
theorem sealed_decision_agrees (format : MessageFormat Wir.WorkflowIntermediateRepresentation)
    (sha256 : format.Bytes → List UInt8) {signer : List UInt8 → List UInt8}
    {verifier : List UInt8 → List UInt8 → Except ArtifactError Unit} {bytes : format.Bytes}
    {d' : WorkflowDefinition} (hd : WirLoader.mapDefinition us wir = .ok d)
    (hseal : WirCodec.sealArtifact us format sha256 signer wir = .ok bytes)
    (hload : WirLoader.load us format sha256 verifier bytes = .ok d') {id : String} {table : DecisionTable}
    (htable : d.decisionTables[id]? = some table) (vars : Variables) :
    ∃ table', d'.decisionTables[id]? = some table' ∧
      (OrderIrrelevant table vars → evaluateDecisionTable table' vars = evaluateDecisionTable table vars) ∧
      ((table.rules.map DecisionRule.id).Nodup →
        evaluateDecisionTable table' vars = evaluateDecisionTable table vars → OrderIrrelevant table vars) := by
  have hva : validateDecisionTable table = .ok () := by
    obtain ⟨input,_,hnew⟩ := mapDefinition_eq_ok.mp hd
    exact ((newWithExecutionContracts_validated hnew).tables id table htable).1
  obtain ⟨hid,source,hs,hmap⟩ := (mapDefinition_decisionTable_iff hd).mp htable
  unfold load at hload
  split at hload
  · cases hload
  · rename_i opened ho
    simp only [WirCodec.sealArtifact, bind_eq_ok] at hseal
    obtain ⟨_,_,⟨⟩⟩ := hseal
    simp only [WirCodec.openArtifact, format.decode_encode, bind_eq_ok] at ho
    obtain ⟨_,_,_,_,_,_,_,_,⟨⟩⟩ := ho
    -- the canonical form of the table is among the tables of the artifact, so it has been loaded too
    have hmem : canonicalizeTable us source ∈ (canonicalize us wir).decisionTables :=
      mem_map_of_mem (us.mem_sort.mpr hs)
    obtain ⟨input,hi,_⟩ := mapDefinition_eq_ok.mp hload
    obtain ⟨table',hmap'⟩ : ∃ table', mapDecisionTable (canonicalizeTable us source) = .ok table' := by
      simp only [mapInput, bind_eq_ok, pure_eq_ok] at hi
      obtain ⟨_,_,_,_,_,_,_,_,_,_,_,_,_,_,tables,ht,_⟩ := hi
      obtain ⟨table',_,hmap'⟩ := exists_of_forall₂ (collectAll_eq_ok.mp ht) hmem
      exact ⟨table',hmap'⟩
    have hid' : table'.id = id := by
      rw [mapDecisionTable_id hmap', ← hid, mapDecisionTable_id hmap]
      rfl
    refine ⟨table',(mapDefinition_decisionTable_iff hload).mpr ⟨hid',_,hmem,hmap'⟩,?_⟩
    obtain ⟨rules,rfl,hperm,hsrt⟩ := mapDecisionTable_canonicalize hmap hmap'
    exact evaluate_sorted hperm (complete_of_valid hva) hsrt

end Loading

namespace Sample

def deskWir (rules : List Wir.DecisionRule) : Wir.WorkflowIntermediateRepresentation :=
  { processWir "desk" "choose" [plain "choose" (.decisionTask "desk" "end"), plain "end" .finish] with
    decisionTables := [⟨"desk", 2, [⟨"amount", 2⟩], [⟨"desk", 3⟩], rules⟩] }

def smallFirst : List Wir.DecisionRule :=
  [⟨"small", [some (.integerInterval ⟨0, 100, true, false⟩)], [some (.stringValue "front")]⟩,
    ⟨"default", [some (.any true)], [some (.stringValue "back")]⟩]

def deskTable : DecisionTable where
  id := "desk"
  hitPolicy := .first
  inputs := [⟨"amount", .integer⟩]
  outputs := [⟨"desk", .string⟩]
  rules := [⟨"small", [.integerInterval ⟨none, some 100⟩], [.string "front"]⟩, ⟨"default", [.any], [.string "back"]⟩]

def amount (value : Int64) : Variables := (∅ : Variables).insert "amount" (.integer value)

def noSignature : List UInt8 → List UInt8 := fun _ => []

def acceptAll : List UInt8 → List UInt8 → Except ArtifactError Unit := fun _ _ => .ok ()

end Sample

open Sample

theorem sealed_decision_agrees_desk :
    ∃ bytes d d' table table', WirLoader.mapDefinition .insertion (deskWir smallFirst) = .ok d ∧
      WirCodec.sealArtifact .insertion (.plain _) (fun _ => []) noSignature
        (deskWir smallFirst) = .ok bytes ∧
      WirLoader.load .insertion (.plain _) (fun _ => []) acceptAll bytes = .ok d' ∧
      d.decisionTables["desk"]? = some table ∧ d'.decisionTables["desk"]? = some table' ∧
      evaluateDecisionTable table' (amount 500) = evaluateDecisionTable table (amount 500) := by
  obtain ⟨d,hd,ht⟩ : ∃ d, mapDefinition .insertion (deskWir smallFirst) = .ok d ∧
      d.decisionTables["desk"]? = some deskTable := ⟨_,rfl,rfl⟩
  obtain ⟨bytes,d',hs,hlo⟩ : ∃ bytes d', WirCodec.sealArtifact .insertion (.plain _) (fun _ => [])
      noSignature (deskWir smallFirst) = .ok bytes ∧
      load .insertion (.plain _) (fun _ => []) acceptAll bytes = .ok d' := ⟨_,_,rfl,rfl⟩
  obtain ⟨table',ht',ha,_⟩ :=
    sealed_decision_agrees (.plain _) (fun _ => []) hd hs hlo ht (amount 500)
  -- only the catch-all rule matches this amount
  have ho : ∀ rule ∈ deskTable.rules, Hits deskTable (amount 500) rule →
      rule = ⟨"default", [.any], [.string "back"]⟩ := by decide
  refine ⟨bytes,d,d',_,table',hd,hs,hlo,ht,ht',ha (.inr fun rule least hr hl => ?_)⟩
  rw [ho rule (mem_of_find?_eq_some hr) hr.hit, ho least hl.mem hl.hit]

/-- Sorting the rules by identifier puts the catch-all rule before the one for small amounts. -/
theorem sealed_decision_differs_desk :
    ∃ bytes d d' table table', WirLoader.mapDefinition .insertion (deskWir smallFirst) = .ok d ∧
      WirCodec.sealArtifact .insertion (.plain _) (fun _ => []) noSignature
        (deskWir smallFirst) = .ok bytes ∧
      WirLoader.load .insertion (.plain _) (fun _ => []) acceptAll bytes = .ok d' ∧
      d.decisionTables["desk"]? = some table ∧ d'.decisionTables["desk"]? = some table' ∧
      (evaluateDecisionTable table (amount 50)).map ExtTreeMap.toList = .ok [("desk", .string "front")] ∧
      (evaluateDecisionTable table' (amount 50)).map ExtTreeMap.toList = .ok [("desk", .string "back")] :=
  ⟨_,_,_,_,_,rfl,rfl,rfl,rfl,rfl,rfl,rfl⟩

end BpmpPlatform
