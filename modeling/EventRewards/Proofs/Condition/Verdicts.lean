import EventRewards.Condition.Verdict
import EventRewards.Proofs.Condition.Nodes
import EventRewards.Proofs.Keyed

/-!
# What a verdict depends on

The index of definitions answers with the first definition that has an id, and the grouped values of
a field are those of the logs of that field, in their order.  A condition's verdict is made of the
verdicts of its leaves: evidence on which these agree gives the same verdict.
-/

namespace EventRewards

/-! ## The index of definitions -/

namespace DefinitionIndex

/-- Taking a definition in answers for its id unless another one did before. -/
theorem get?_insert (index : DefinitionIndex) (d : Definition) (id : String) :
    (index.insert d).get? id = (index.get? id).or (if d.id = id then some d else none) := by
  rw [insert]
  cases hfirst : index.first.lookup d.id with
  -- the id is taken: what it finds stays
  | some d' =>
    by_cases h : d.id = id
    · subst h
      simp [get?, hfirst]
    · simp [get?, h]
  | none =>
    by_cases h : d.id = id
    · subst h
      simp [get?, hfirst, List.lookup_append]
    · have hne : (id == d.id) = false := beq_false_of_ne (Ne.symm h)
      simp [get?, h, List.lookup_append, List.lookup_cons, hne]

theorem get?_foldl_insert (definitions : List Definition) (index : DefinitionIndex) (id : String) :
    (definitions.foldl insert index).get? id =
      (index.get? id).or (definitions.find? (·.id == id)) := by
  induction definitions generalizing index with
  | nil => simp
  | cons d rest ih =>
    rw [List.foldl_cons, ih, get?_insert, Option.or_assoc, List.find?_cons]
    by_cases h : d.id = id
    · simp [h]
    · simp [h, beq_false_of_ne h]

theorem get?_ofList (definitions : List Definition) (id : String) :
    (ofList definitions).get? id = definitions.find? (·.id == id) := by
  rw [ofList, get?_foldl_insert]
  simp [empty, get?]

end DefinitionIndex

/-! ## The values of a field -/

namespace FieldValues

theorem get_insert (values : FieldValues) (fieldName name : String) (value : Literal) :
    (insert fieldName value values).get name =
      values.get name ++ if fieldName = name then [value] else [] := by
  induction values with
  | nil =>
    by_cases h : fieldName = name
    · simp [insert, get, h]
    · have hne : (name == fieldName) = false := beq_false_of_ne (Ne.symm h)
      simp [insert, get, h, List.lookup_cons, hne]
  | cons entry rest ih =>
    rcases entry with ⟨other, others⟩
    rw [get] at ih
    by_cases hfield : other = fieldName
    -- the value joins those of this entry
    · by_cases hname : fieldName = name
      · simp [insert, get, hfield, hname]
      · have hne : (name == fieldName) = false := beq_false_of_ne (Ne.symm hname)
        simp [insert, get, hfield, hname, List.lookup_cons, hne]
    -- the value goes further down; `name` may still be the name of this entry
    · by_cases hother : other = name
      · have hname : ¬fieldName = name := fun heq => hfield (hother.trans heq.symm)
        simp [insert, get, hother, hname, Ne.symm hname]
      · have hne : (name == other) = false := beq_false_of_ne (Ne.symm hother)
        simpa [insert, get, hfield, List.lookup_cons, hne] using ih

theorem get_foldl_insert (logs : List Log) (values : FieldValues) (name : String) :
    (logs.foldl (fun grouped log => insert log.fieldName log.value grouped) values).get name =
      values.get name ++ (logs.filter (·.fieldName == name)).map (·.value) := by
  induction logs generalizing values with
  | nil => simp
  | cons l rest ih =>
    rw [List.foldl_cons, ih, get_insert, List.filter_cons]
    by_cases h : l.fieldName = name
    · simp [h]
    · simp [h]

theorem get_ofLogs (logs : List Log) (name : String) :
    (ofLogs logs).get name = (logs.filter (·.fieldName == name)).map (·.value) := by
  rw [ofLogs, get_foldl_insert]
  simp [get]

end FieldValues

/-! ## Verdicts -/

namespace Evidence

/-- A leaf looks at the first definition with its id and at the logs of that definition's field. -/
theorem meetsLeaf_of (definitions : List Definition) (logs : List Log) (leaf : Leaf) :
    (Evidence.of definitions logs).meetsLeaf leaf =
      match definitions.find? (·.id == leaf.conditionId) with
      | none => false
      | some d =>
        ((logs.filter (·.fieldName == d.fieldName)).map (·.value)).any fun value =>
          leaf.operator.compare d.valueType value leaf.operand := by
  rw [meetsLeaf, Evidence.of, DefinitionIndex.get?_ofList]
  cases definitions.find? (·.id == leaf.conditionId) with
  | none => rfl
  | some d => simp only [FieldValues.get_ofLogs]

theorem meetsEach_eq (e : Evidence) (nodes : List Node) : e.meetsEach nodes = nodes.map e.meets := by
  induction nodes with
  | nil => rfl
  | cons n rest ih => rw [meetsEach, ih, List.map_cons]

/-- Evidence on which all leaves of a node agree gives the node the same verdict. -/
theorem meets_congr {e e' : Evidence} {n : Node}
    (agree : ∀ l ∈ n.leaves, e.meetsLeaf l = e'.meetsLeaf l) : e.meets n = e'.meets n := by
  induction n with
  | leaf l => exact agree l (List.mem_singleton.2 rfl)
  | group combinator children ih =>
    rw [meets, meets, meetsEach_eq, meetsEach_eq]
    have heach : children.map e.meets = children.map e'.meets := by
      refine List.map_congr_left ?_
      intro n hn
      refine ih n hn ?_
      intro l hl
      exact agree l (Node.mem_leaves_group.2 ⟨n, hn, hl⟩)
    rw [heach]

theorem meets_and {e : Evidence} {children : List Node} :
    e.meets (.group .and children) = true ↔ ∀ n ∈ children, e.meets n = true := by
  rw [meets, meetsEach_eq]
  simp [Combinator.join]

theorem meets_or {e : Evidence} {children : List Node} :
    e.meets (.group .or children) = true ↔ ∃ n ∈ children, e.meets n = true := by
  rw [meets, meetsEach_eq]
  simp [Combinator.join]

theorem not_meets_unknown {e : Evidence} {children : List Node} :
    ¬e.meets (.group .unknown children) = true := by
  rw [meets, meetsEach_eq]
  simp [Combinator.join]

/-- A group joins its children by conjunction and disjunction alone: evidence that meets every leaf that
other evidence meets also meets every node that the other meets. -/
theorem meets_mono {e e' : Evidence} {n : Node}
    (more : ∀ l ∈ n.leaves, e.meetsLeaf l = true → e'.meetsLeaf l = true)
    (met : e.meets n = true) : e'.meets n = true := by
  induction n with
  | leaf l => exact more l (List.mem_singleton.2 rfl) met
  | group combinator children ih =>
    have heach : ∀ n ∈ children, e.meets n = true → e'.meets n = true := by
      intro n hn
      apply ih n hn
      intro l hl
      exact more l (Node.mem_leaves_group.2 ⟨n, hn, hl⟩)
    cases combinator with
    | and =>
      apply meets_and.2
      intro n hn
      exact heach n hn (meets_and.1 met n hn)
    | or =>
      rcases meets_or.1 met with ⟨n, hn, hmet⟩
      exact meets_or.2 ⟨n, hn, heach n hn hmet⟩
    | unknown => exact absurd met not_meets_unknown

/-- A leaf is met by one value that passes, whatever else was logged: more logs leave it met. -/
theorem meetsLeaf_of_mono {definitions : List Definition} {logs logs' : List Log} {leaf : Leaf}
    (more : ∀ l ∈ logs, ∃ l' ∈ logs', l'.fieldName = l.fieldName ∧ l'.value = l.value)
    (met : (Evidence.of definitions logs).meetsLeaf leaf = true) :
    (Evidence.of definitions logs').meetsLeaf leaf = true := by
  rw [meetsLeaf_of] at met ⊢
  cases hfound : definitions.find? (·.id == leaf.conditionId) with
  | none => simp [hfound] at met
  | some d =>
    have hpassed : ∃ l ∈ logs, l.fieldName = d.fieldName ∧
        leaf.operator.compare d.valueType l.value leaf.operand = true := by
      simpa [hfound, and_assoc] using met
    rcases hpassed with ⟨l, hl, hfield, hpasses⟩
    rcases more l hl with ⟨l', hl', hfield', hvalue⟩
    have hpassed' : ∃ l ∈ logs', l.fieldName = d.fieldName ∧
        leaf.operator.compare d.valueType l.value leaf.operand = true :=
      ⟨l', hl', hfield'.trans hfield, hvalue ▸ hpasses⟩
    simpa [and_assoc] using hpassed'

end Evidence

/-- A condition that is met stays met when more is logged. -/
theorem Tree.evaluate_mono {t : Tree} {definitions : List Definition} {logs logs' : List Log}
    (more : ∀ l ∈ logs, ∃ l' ∈ logs', l'.fieldName = l.fieldName ∧ l'.value = l.value)
    (met : t.evaluate definitions logs = true) : t.evaluate definitions logs' = true := by
  apply Evidence.meets_mono _ met
  intro l _ hmet
  exact Evidence.meetsLeaf_of_mono more hmet

/-- A leaf's verdict depends on what is found under its id, and on the logs of the field found. -/
theorem Evidence.meetsLeaf_of_congr {definitions definitions' : List Definition}
    {logs logs' : List Log} {leaf : Leaf}
    (found : definitions.find? (·.id == leaf.conditionId) =
      definitions'.find? (·.id == leaf.conditionId))
    (logged : ∀ d, definitions.find? (·.id == leaf.conditionId) = some d →
      logs.filter (·.fieldName == d.fieldName) = logs'.filter (·.fieldName == d.fieldName)) :
    (Evidence.of definitions logs).meetsLeaf leaf =
      (Evidence.of definitions' logs').meetsLeaf leaf := by
  rw [meetsLeaf_of, meetsLeaf_of, ← found]
  cases hfound : definitions.find? (·.id == leaf.conditionId) with
  | none => rfl
  | some d =>
    have hlogs := logged d hfound
    simp only [hlogs]

/-- A verdict depends on what is found under the ids that the condition refers to, and on the logs of
the fields found. -/
theorem Tree.evaluate_congr {t : Tree} {definitions definitions' : List Definition}
    {logs logs' : List Log}
    (found : ∀ id ∈ t.conditionIds,
      definitions.find? (·.id == id) = definitions'.find? (·.id == id))
    (logged : ∀ id ∈ t.conditionIds, ∀ d, definitions.find? (·.id == id) = some d →
      logs.filter (·.fieldName == d.fieldName) = logs'.filter (·.fieldName == d.fieldName)) :
    t.evaluate definitions logs = t.evaluate definitions' logs' := by
  refine Evidence.meets_congr ?_
  intro l hl
  have hid : l.conditionId ∈ t.conditionIds := mem_conditionIds.2 ⟨l, hl, rfl⟩
  exact Evidence.meetsLeaf_of_congr (found _ hid) (logged _ hid)

/-! ## Logs of some fields -/

/-- The logs of the fields of some definitions. -/
def logsFor (definitions : List Definition) (logs : List Log) : List Log :=
  logs.filter fun l => definitions.any (·.fieldName == l.fieldName)

/-- Of the field of a definition no logs are left out. -/
theorem filter_logsFor {definitions : List Definition} {logs : List Log} {d : Definition}
    (hd : d ∈ definitions) :
    (logsFor definitions logs).filter (·.fieldName == d.fieldName) =
      logs.filter (·.fieldName == d.fieldName) := by
  rw [logsFor, List.filter_filter]
  refine List.filter_congr ?_
  intro l _
  by_cases hfield : l.fieldName = d.fieldName
  · have hany : definitions.any (·.fieldName == l.fieldName) = true :=
      List.any_eq_true.2 ⟨d, hd, beq_iff_eq.2 hfield.symm⟩
    rw [hany, Bool.and_true]
  · rw [beq_false_of_ne hfield, Bool.false_and]

end EventRewards
