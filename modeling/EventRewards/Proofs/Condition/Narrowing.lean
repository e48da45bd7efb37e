import EventRewards.Proofs.Condition.Checks
import EventRewards.Proofs.Condition.Operands
import EventRewards.Proofs.Condition.Traces

/-!
# What conditions look up

A check, a verdict and an explanation look up the ids that the leaves of a condition refer to, and no
others; a verdict asks besides for the logs of the fields of the definitions found.  So it is enough to
fetch these.  None of the ids can be spared: without its definition a check fails.
-/

namespace EventRewards

/-! ## Explanations -/

namespace Evidence

/-- Evidence by which all leaves of a node are explained alike, and have the same verdict, gives the
node the same explanation. -/
theorem explain_congr {e e' : Evidence} {n : Node}
    (told : ∀ l ∈ n.leaves, e.explainLeaf l = e'.explainLeaf l)
    (agree : ∀ l ∈ n.leaves, e.meetsLeaf l = e'.meetsLeaf l) : e.explain n = e'.explain n := by
  induction n with
  | leaf l => exact told l (List.mem_singleton.2 rfl)
  | group combinator children ih =>
    have heach : children.map e.explain = children.map e'.explain := by
      refine List.map_congr_left ?_
      intro n hn
      refine ih n hn ?_ ?_
      · intro l hl
        exact told l (Node.mem_leaves_group.2 ⟨n, hn, hl⟩)
      · intro l hl
        exact agree l (Node.mem_leaves_group.2 ⟨n, hn, hl⟩)
    rw [explain, explain, explainEach_eq, explainEach_eq, heach, meets_congr agree]

end Evidence

/-- An explanation depends on what the verdict depends on: on what is found under the ids that the
condition refers to, and on the logs of the fields found. -/
theorem Tree.explain_congr {t : Tree} {definitions definitions' : List Definition}
    {logs logs' : List Log}
    (found : ∀ id ∈ t.conditionIds,
      definitions.find? (·.id == id) = definitions'.find? (·.id == id))
    (logged : ∀ id ∈ t.conditionIds, ∀ d, definitions.find? (·.id == id) = some d →
      logs.filter (·.fieldName == d.fieldName) = logs'.filter (·.fieldName == d.fieldName)) :
    t.explain definitions logs = t.explain definitions' logs' := by
  have hmet : ∀ l ∈ t.root.leaves, (Evidence.of definitions logs).meetsLeaf l =
      (Evidence.of definitions' logs').meetsLeaf l := by
    intro l hl
    have hid : l.conditionId ∈ t.conditionIds := mem_conditionIds.2 ⟨l, hl, rfl⟩
    exact Evidence.meetsLeaf_of_congr (found _ hid) (logged _ hid)
  refine Evidence.explain_congr ?_ hmet
  intro l hl
  have hfound := found _ (mem_conditionIds.2 ⟨l, hl, rfl⟩)
  have hsubject : (Evidence.of definitions logs).subject l =
      (Evidence.of definitions' logs').subject l := by
    simp only [Evidence.subject, Evidence.of, DefinitionIndex.get?_ofList, hfound]
  rw [Evidence.explainLeaf, Evidence.explainLeaf, hsubject, hmet l hl]

/-! ## Narrowed inputs -/

/-- The definitions with the ids that a condition refers to. -/
def Tree.definitionsFor (t : Tree) (definitions : List Definition) : List Definition :=
  definitions.filter fun d => t.conditionIds.contains d.id

theorem Tree.agreeOn_definitionsFor {t : Tree} {definitions : List Definition} {id : String}
    (hid : id ∈ t.conditionIds) : AgreeOn id (t.definitionsFor definitions) definitions := by
  apply agreeOn_filter
  intro d _ hd
  rw [hd]
  exact List.contains_iff_mem.2 hid

/-- A check fails without definitions with an id that the condition refers to. -/
theorem Tree.check_invalid_of_absent {t : Tree} {definitions : List Definition} {id : String}
    (hid : id ∈ t.conditionIds) (absent : ∀ d ∈ definitions, d.id ≠ id) :
    (t.check definitions).isValid = false := by
  rw [← Bool.not_eq_true, check_isValid_iff]
  intro hsound
  rcases exists_of_mem_conditionIds hsound hid with ⟨d, hd⟩
  have hmem : d ∈ definitions.filter (·.id == id) := by
    rw [soleDefinition?_eq_some.1 hd]
    exact List.mem_singleton_self d
  rw [List.mem_filter, beq_iff_eq] at hmem
  exact absent d hmem.1 hmem.2

/-- Of the definitions, a condition needs those with the ids that it refers to, and of the logs those
of the fields of these.  The others make no difference to the report of a check, to the verdict or
to the explanation, also where several definitions share an id or a field.  And whichever of the ids
is left without definitions, a check fails. -/
theorem conditions_need_what_they_refer_to (t : Tree) (definitions : List Definition)
    (logs : List Log) :
    let fetched := t.definitionsFor definitions
    let fetchedLogs := logsFor fetched logs
    t.check fetched = t.check definitions ∧
    t.evaluate fetched fetchedLogs = t.evaluate definitions logs ∧
    t.explain fetched fetchedLogs = t.explain definitions logs ∧
    ∀ id ∈ t.conditionIds, (t.check (definitions.filter (·.id != id))).isValid = false := by
  intro fetched fetchedLogs
  -- definitions that share an id are fetched together, so that the first of them stays the first
  have hfound : ∀ id ∈ t.conditionIds,
      fetched.find? (·.id == id) = definitions.find? (·.id == id) := by
    intro id hid
    exact (Tree.agreeOn_definitionsFor hid).find?_eq
  -- the logs of a field are fetched for all definitions with this field, or for none
  have hlogged : ∀ id ∈ t.conditionIds, ∀ d, fetched.find? (·.id == id) = some d →
      fetchedLogs.filter (·.fieldName == d.fieldName) =
        logs.filter (·.fieldName == d.fieldName) := by
    intro id _ d hd
    exact filter_logsFor (List.mem_of_find?_eq_some hd)
  refine ⟨Tree.check_congr ?_, Tree.evaluate_congr hfound hlogged,
    Tree.explain_congr hfound hlogged, ?_⟩
  · intro l hl
    exact Tree.agreeOn_definitionsFor (Tree.mem_conditionIds.2 ⟨l, hl, rfl⟩)
  · intro id hid
    apply Tree.check_invalid_of_absent hid
    intro d hd
    exact bne_iff_ne.1 (List.mem_filter.1 hd).2

/-- A condition on visits, scores and joining passes a check with the three definitions, and fails it
without that of scores. -/
theorem conditions_need_what_they_refer_to_for_regular :
    (Sample.regular.check [Sample.visits, Sample.score, Sample.joined]).isValid = true ∧
    (Sample.regular.check [Sample.visits, Sample.joined]).isValid = false := by
  have hscore : "d2" ∈ Sample.regular.conditionIds := by decide +kernel
  refine ⟨by decide +kernel, ?_⟩
  exact (conditions_need_what_they_refer_to Sample.regular
    [Sample.visits, Sample.score, Sample.joined] []).2.2.2 "d2" hscore

end EventRewards
