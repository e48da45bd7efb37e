import EventRewards.Proofs.Condition.Acceptance
import EventRewards.Proofs.Condition.Places

/-!
# Rules of conditions

What a check says of a node, its children aside, depends on the node alone.  A group has two rules to
break, one for its combinator and one for its children.  A leaf has one for its operator and one for
what it refers to: its id stands for one definition, and this definition admits its operand.  Only of a
leaf that keeps the second rule more may be said.
-/

namespace EventRewards

variable {definitions : List Definition}

/-! ## Rules -/

/-- Why an id does not stand for one of some definitions. -/
inductive Unresolved (definitions : List Definition) : String → Flaw → Prop where
  | empty : Unresolved definitions "" .emptyId
  | ambiguous {id : String} (named : id ≠ "")
      (several : 2 ≤ (definitions.filter (·.id == id)).length) :
      Unresolved definitions id (.ambiguousId id)
  | unknown {id : String} (named : id ≠ "") (absent : ∀ d ∈ definitions, d.id ≠ id) :
      Unresolved definitions id (.unknownId id)

/-- A leaf refers to the definition that alone has its id. -/
structure Leaf.RefersTo (definitions : List Definition) (l : Leaf) (d : Definition) : Prop where
  named : l.conditionId ≠ ""
  sole : definitions.filter (·.id == l.conditionId) = [d]

/-- Whether a node breaks the rule of one of its parts, and by which flaw. -/
inductive Node.Breaks (definitions : List Definition) : Node → NodePart → Flaw → Prop where
  | combinator (children : List Node) :
      Breaks definitions (.group .unknown children) .operator .unknownCombinator
  | children (combinator : Combinator) :
      Breaks definitions (.group combinator []) .children .noChildren
  | operator {l : Leaf} (unknown : l.operator = .unknown) :
      Breaks definitions (.leaf l) .operator .unknownOperator
  | conditionId {l : Leaf} {flaw : Flaw} (unresolved : Unresolved definitions l.conditionId flaw) :
      Breaks definitions (.leaf l) .conditionId flaw
  | operand {l : Leaf} {d : Definition} (refers : l.RefersTo definitions d)
      (refused : ¬d.valueType.Admits l.operand) :
      Breaks definitions (.leaf l) .operand
        (.wrongOperand d.valueType d.fieldName l.operand.kind)

/-- A leaf whose id stands for no definition, or for one that does not admit its operand. -/
inductive Leaf.Misrefers (definitions : List Definition) (l : Leaf) : Prop where
  | unresolved {flaw : Flaw} (unresolved : Unresolved definitions l.conditionId flaw)
  | refused {d : Definition} (refers : l.RefersTo definitions d)
      (refused : ¬d.valueType.Admits l.operand)

/-- What is to be said of an operator that compares with values of a type. -/
inductive Operator.Cautions : Operator → ValueType → Caution → Prop where
  | isIn (type : ValueType) : Cautions .isIn type (.neverHolds .isIn)
  | notIn (type : ValueType) : Cautions .notIn type (.neverHolds .notIn)
  | isNull (type : ValueType) : Cautions .isNull type .explicitNullOnly
  | ordering {op : Operator} (ordering : op.isOrdering = true) : Cautions op .text (.noOrder op)

/-- What is to be said of a leaf that refers to a definition which admits its operand. -/
def Leaf.Cautioned (definitions : List Definition) (l : Leaf) (what : Caution) : Prop :=
  ∃ d, l.RefersTo definitions d ∧ d.valueType.Admits l.operand ∧
    l.operator.Cautions d.valueType what

namespace Unresolved

variable {id : String} {flaw flaw' : Flaw}

theorem unique (h : Unresolved definitions id flaw) (h' : Unresolved definitions id flaw') :
    flaw = flaw' := by
  have hconflict : 2 ≤ (definitions.filter (·.id == id)).length →
      ¬∀ d ∈ definitions, d.id ≠ id := by
    intro hseveral habsent
    have hnone : definitions.filter (·.id == id) = [] :=
      List.filter_eq_nil_iff.2 fun d hd => by simpa using habsent d hd
    rw [hnone] at hseveral
    cases hseveral
  cases h with
  | empty =>
    cases h' with
    | empty => rfl
    | ambiguous named _ => exact absurd rfl named
    | unknown named _ => exact absurd rfl named
  | ambiguous named several =>
    cases h' with
    | empty => exact absurd rfl named
    | ambiguous _ _ => rfl
    | unknown _ absent => exact absurd absent (hconflict several)
  | unknown named absent =>
    cases h' with
    | empty => exact absurd rfl named
    | ambiguous _ several => exact absurd absent (hconflict several)
    | unknown _ _ => rfl

theorem not_refersTo {l : Leaf} {d : Definition} (h : Unresolved definitions l.conditionId flaw) :
    ¬l.RefersTo definitions d := by
  rintro ⟨hnamed, hsole⟩
  generalize l.conditionId = id at h hnamed hsole
  cases h with
  | empty => exact hnamed rfl
  | ambiguous _ several =>
    rw [hsole] at several
    exact absurd several (Nat.lt_irrefl 1)
  | unknown _ absent =>
    have hd : d ∈ definitions.filter (·.id == id) := by rw [hsole]; exact List.mem_singleton_self d
    rw [List.mem_filter, beq_iff_eq] at hd
    exact absent d hd.1 hd.2

end Unresolved

theorem Leaf.RefersTo.unique {l : Leaf} {d d' : Definition} (h : l.RefersTo definitions d)
    (h' : l.RefersTo definitions d') : d = d' :=
  List.singleton_inj.1 (h.sole.symm.trans h'.sole)

/-- A leaf misrefers unless it refers to a definition that admits its operand. -/
theorem Leaf.Misrefers.not_admits {l : Leaf} {d : Definition} (h : l.Misrefers definitions)
    (refers : l.RefersTo definitions d) : ¬d.valueType.Admits l.operand := by
  cases h with
  | unresolved unresolved => exact absurd refers unresolved.not_refersTo
  | refused refers' refused =>
    rw [refers.unique refers']
    exact refused

theorem Leaf.misrefers_iff {l : Leaf} : l.Misrefers definitions ↔
    ∃ part what, part ≠ .operator ∧ (Node.leaf l).Breaks definitions part what := by
  constructor
  · intro h
    cases h with
    | unresolved unresolved => exact ⟨.conditionId, _, by decide, .conditionId unresolved⟩
    | refused refers refused => exact ⟨.operand, _, by decide, .operand refers refused⟩
  · rintro ⟨part, what, hpart, hbreaks⟩
    cases hbreaks with
    | operator _ => exact absurd rfl hpart
    | conditionId unresolved => exact .unresolved unresolved
    | operand refers refused => exact .refused refers refused

/-- Beside that of its operator, a leaf breaks one rule at most. -/
theorem Node.Breaks.unique_beside {l : Leaf} {part part' : NodePart} {what what' : Flaw}
    (h : (leaf l).Breaks definitions part what) (h' : (leaf l).Breaks definitions part' what')
    (beside : part ≠ .operator) (beside' : part' ≠ .operator) : part = part' ∧ what = what' := by
  cases h with
  | operator _ => exact absurd rfl beside
  | conditionId unresolved =>
    cases h' with
    | operator _ => exact absurd rfl beside'
    | conditionId unresolved' => exact ⟨rfl, unresolved.unique unresolved'⟩
    | operand refers _ => exact absurd refers unresolved.not_refersTo
  | operand refers refused =>
    cases h' with
    | operator _ => exact absurd rfl beside'
    | conditionId unresolved => exact absurd refers unresolved.not_refersTo
    | operand refers' _ => rw [refers.unique refers']; exact ⟨rfl, rfl⟩

theorem DefinitionIndex.unresolved_of_resolve {id : String} {flaw : Flaw}
    (h : (ofList definitions).resolve id = .error flaw) : Unresolved definitions id flaw := by
  rw [resolve] at h
  by_cases hempty : id.isEmpty = true
  · rw [if_pos hempty] at h
    cases h
    rw [String.isEmpty_iff.1 hempty]
    exact .empty
  · have hnamed : id ≠ "" := fun hid => hempty (String.isEmpty_iff.2 hid)
    rw [if_neg hempty] at h
    by_cases hambiguous : (ofList definitions).isAmbiguous id = true
    · rw [if_pos hambiguous] at h
      cases h
      exact .ambiguous hnamed ((isAmbiguous_ofList definitions id).1 hambiguous)
    · rw [if_neg hambiguous, get?_ofList] at h
      cases hfind : definitions.find? (·.id == id) with
      | some d =>
        rw [hfind] at h
        cases h
      | none =>
        rw [hfind] at h
        cases h
        refine .unknown hnamed ?_
        intro d hd
        simpa using List.find?_eq_none.1 hfind d hd

theorem Leaf.caution?_eq_some {l : Leaf} {type : ValueType} {what : Caution} :
    l.caution? type = some what ↔ l.operator.Cautions type what := by
  rw [caution?]
  constructor
  · intro h
    split at h
    · next op hop =>
      cases h
      rw [hop]
      exact .isIn type
    · next op hop =>
      cases h
      rw [hop]
      exact .notIn type
    · next op hop =>
      cases h
      rw [hop]
      exact .isNull type
    · by_cases hunordered : (l.operator.isOrdering && decide (type = .text)) = true
      · rw [if_pos hunordered] at h
        rw [Bool.and_eq_true, decide_eq_true_eq] at hunordered
        cases h
        rw [hunordered.2]
        exact .ordering hunordered.1
      · rw [if_neg hunordered] at h
        cases h
  · intro h
    generalize l.operator = op at h ⊢
    cases h with
    | isIn => rfl
    | notIn => rfl
    | isNull => rfl
    | ordering ordering =>
      cases op with
      | gt | lt | gte | lte => rfl
      | _ => cases ordering

/-! ## What is said of one node -/

namespace Report

theorem errors_ite_flaw_length_le {p : Prop} [Decidable p] {place : Place} {what : Flaw} :
    (if p then flaw place what else empty : Report).errors.length ≤ 1 := by
  by_cases h : p
  · simp [h, flaw]
  · simp [h, empty]

theorem warnings_ite_flaw {p : Prop} [Decidable p] {place : Place} {what : Flaw} :
    (if p then flaw place what else empty : Report).warnings = [] := by
  by_cases h : p
  · simp [h, flaw]
  · simp [h, empty]

end Report

/-- What a check says of the id and the operand of a leaf: the one flaw that it finds there, a caution
if it finds none, or nothing. -/
inductive Leaf.Reported (definitions : List Definition) (l : Leaf) (way : List Nat) :
    Report → Prop where
  | unresolved {flaw : Flaw} (unresolved : Unresolved definitions l.conditionId flaw) :
      Reported definitions l way (.flaw (.part way .conditionId) flaw)
  | refused {d : Definition} (refers : l.RefersTo definitions d)
      (refused : ¬d.valueType.Admits l.operand) :
      Reported definitions l way (.flaw (.part way .operand)
        (.wrongOperand d.valueType d.fieldName l.operand.kind))
  | cautioned {what : Caution} (cautioned : l.Cautioned definitions what) :
      Reported definitions l way (.caution (.part way .operator) what)
  | clean {d : Definition} (refers : l.RefersTo definitions d)
      (admits : d.valueType.Admits l.operand)
      (silent : ∀ what, ¬l.operator.Cautions d.valueType what) :
      Reported definitions l way .empty

theorem Leaf.reported (definitions : List Definition) (l : Leaf) (way : List Nat) :
    l.Reported definitions way (l.checkReference way (.ofList definitions)) := by
  rw [checkReference]
  cases hresolve : (DefinitionIndex.ofList definitions).resolve l.conditionId with
  | error flaw => exact .unresolved (DefinitionIndex.unresolved_of_resolve hresolve)
  | ok d =>
    have hsole := DefinitionIndex.resolve_eq_ok.1 hresolve
    have hrefers : l.RefersTo definitions d := ⟨hsole.1, hsole.2⟩
    dsimp only
    by_cases haccepts : d.valueType.accepts l.operand = true
    · have hadmits := ValueType.accepts_iff_admits.1 haccepts
      rw [if_pos haccepts]
      cases hcaution : l.caution? d.valueType with
      | some what => exact .cautioned ⟨d, hrefers, hadmits, caution?_eq_some.1 hcaution⟩
      | none =>
        refine .clean hrefers hadmits ?_
        intro what hcautions
        rw [caution?_eq_some.2 hcautions] at hcaution
        cases hcaution
    · rw [if_neg haccepts]
      exact .refused hrefers fun hadmits => haccepts (ValueType.accepts_iff_admits.2 hadmits)

theorem Leaf.Cautioned.unique {l : Leaf} {what what' : Caution} (h : l.Cautioned definitions what)
    (h' : l.Cautioned definitions what') : what = what' := by
  rcases h with ⟨d, refers, _, hcautions⟩
  rcases h' with ⟨d', refers', _, hcautions'⟩
  rw [refers'.unique refers, ← caution?_eq_some] at hcautions'
  exact Option.some.inj ((caution?_eq_some.2 hcautions).symm.trans hcautions')

theorem Leaf.Misrefers.not_cautioned {l : Leaf} {what : Caution} (h : l.Misrefers definitions) :
    ¬l.Cautioned definitions what := by
  rintro ⟨d, refers, admits, _⟩
  exact h.not_admits refers admits

namespace Leaf.Reported

variable {l : Leaf} {way : List Nat} {r : Report}

/-- The errors of a leaf, its operator aside, are the flaws by which it breaks another rule. -/
theorem mem_errors (h : l.Reported definitions way r) {f : Finding Flaw} :
    f ∈ r.errors ↔ ∃ part, part ≠ .operator ∧ f.place = .part way part ∧
      (Node.leaf l).Breaks definitions part f.what := by
  constructor
  · intro hf
    cases h with
    | unresolved unresolved =>
      rw [List.mem_singleton.1 hf]
      exact ⟨.conditionId, by decide, rfl, .conditionId unresolved⟩
    | refused refers refused =>
      rw [List.mem_singleton.1 hf]
      exact ⟨.operand, by decide, rfl, .operand refers refused⟩
    | cautioned _ => cases hf
    | clean _ _ _ => cases hf
  · rintro ⟨part, hpart, hplace, hbreaks⟩
    rcases f with ⟨place, what⟩
    dsimp only at hplace hbreaks
    subst hplace
    have hmisrefers : l.Misrefers definitions := misrefers_iff.2 ⟨part, what, hpart, hbreaks⟩
    cases h with
    | unresolved unresolved =>
      rcases hbreaks.unique_beside (.conditionId unresolved) hpart (by decide) with ⟨rfl, rfl⟩
      exact List.mem_singleton_self _
    | refused refers refused =>
      rcases hbreaks.unique_beside (.operand refers refused) hpart (by decide) with ⟨rfl, rfl⟩
      exact List.mem_singleton_self _
    | cautioned cautioned => exact absurd cautioned hmisrefers.not_cautioned
    | clean refers admits _ => exact absurd admits (hmisrefers.not_admits refers)

theorem mem_warnings (h : l.Reported definitions way r) {f : Finding Caution} :
    f ∈ r.warnings ↔ f.place = .part way .operator ∧ l.Cautioned definitions f.what := by
  constructor
  · intro hf
    cases h with
    | cautioned cautioned =>
      rw [List.mem_singleton.1 hf]
      exact ⟨rfl, cautioned⟩
    | unresolved _ => cases hf
    | refused _ _ => cases hf
    | clean _ _ _ => cases hf
  · rintro ⟨hplace, hcautioned⟩
    rcases f with ⟨place, what⟩
    dsimp only at hplace hcautioned
    subst hplace
    cases h with
    | cautioned cautioned =>
      rw [hcautioned.unique cautioned]
      exact List.mem_singleton_self _
    | unresolved unresolved =>
      exact absurd hcautioned (Misrefers.unresolved unresolved).not_cautioned
    | refused refers refused =>
      exact absurd hcautioned (Misrefers.refused refers refused).not_cautioned
    | clean refers _ silent =>
      rcases hcautioned with ⟨d, refers', _, hcautions⟩
      rw [refers'.unique refers] at hcautions
      exact absurd hcautions (silent what)

theorem errors_length_le (h : l.Reported definitions way r) : r.errors.length ≤ 1 := by
  cases h with
  | unresolved _ => exact Nat.le_refl 1
  | refused _ _ => exact Nat.le_refl 1
  | cautioned _ => exact Nat.zero_le 1
  | clean _ _ _ => exact Nat.zero_le 1

theorem warnings_length_le (h : l.Reported definitions way r) : r.warnings.length ≤ 1 := by
  cases h with
  | cautioned _ => exact Nat.le_refl 1
  | unresolved _ => exact Nat.zero_le 1
  | refused _ _ => exact Nat.zero_le 1
  | clean _ _ _ => exact Nat.zero_le 1

end Leaf.Reported

namespace Node

/-- What a check says of a node itself, its children aside. -/
def checkSelf (index : DefinitionIndex) (way : List Nat) : Node → Report
  | .leaf l => l.check way index
  | .group combinator children => checkGroup combinator children way

/-- What a check says of a node is that it breaks the rules that it breaks. -/
theorem mem_errors_checkSelf {n : Node} {way : List Nat} {f : Finding Flaw} :
    f ∈ (n.checkSelf (.ofList definitions) way).errors ↔
      ∃ part, f.place = .part way part ∧ n.Breaks definitions part f.what := by
  rcases f with ⟨place, what⟩
  cases n with
  | leaf l =>
    rw [checkSelf, Leaf.check, Report.errors_append, List.mem_append, Leaf.checkOperator,
      Report.mem_errors_ite_flaw, (l.reported definitions way).mem_errors]
    constructor
    · rintro (⟨hunknown, heq⟩ | ⟨part, _, hplace, hbreaks⟩)
      · cases heq
        exact ⟨.operator, rfl, .operator hunknown⟩
      · exact ⟨part, hplace, hbreaks⟩
    · rintro ⟨part, rfl, hbreaks⟩
      by_cases hpart : part = .operator
      · subst hpart
        cases hbreaks with
        | operator unknown => exact .inl ⟨unknown, rfl⟩
      · exact .inr ⟨part, hpart, rfl, hbreaks⟩
  | group combinator children =>
    rw [checkSelf, checkGroup, Report.errors_append, List.mem_append,
      Report.mem_errors_ite_flaw, Report.mem_errors_ite_flaw, List.isEmpty_iff]
    constructor
    · rintro (⟨rfl, heq⟩ | ⟨rfl, heq⟩)
      · cases heq
        exact ⟨.operator, rfl, .combinator children⟩
      · cases heq
        exact ⟨.children, rfl, .children combinator⟩
    · rintro ⟨part, rfl, hbreaks⟩
      cases hbreaks with
      | combinator _ => exact .inl ⟨rfl, rfl⟩
      | children _ => exact .inr ⟨rfl, rfl⟩

theorem mem_warnings_checkSelf {n : Node} {way : List Nat} {f : Finding Caution} :
    f ∈ (n.checkSelf (.ofList definitions) way).warnings ↔
      f.place = .part way .operator ∧ ∃ l, n = .leaf l ∧ l.Cautioned definitions f.what := by
  cases n with
  | leaf l =>
    rw [checkSelf, Leaf.check, Report.warnings_append, Leaf.checkOperator,
      Report.warnings_ite_flaw, List.nil_append, (l.reported definitions way).mem_warnings]
    simp
  | group combinator children =>
    rw [checkSelf, checkGroup, Report.warnings_append, Report.warnings_ite_flaw,
      Report.warnings_ite_flaw]
    simp

end Node

theorem pairwise_of_length_le_one {α : Type} {R : α → α → Prop} {l : List α} (h : l.length ≤ 1) :
    l.Pairwise R := by
  cases l with
  | nil => exact .nil
  | cons a rest =>
    have hrest : rest = [] := List.length_eq_zero_iff.1 (Nat.le_zero.1 (Nat.le_of_succ_le_succ h))
    rw [hrest]
    exact List.pairwise_singleton R a

namespace Node

/-- What a check says of a node follows the order of its parts. -/
theorem errors_checkSelf_pairwise (n : Node) (way : List Nat) :
    (n.checkSelf (.ofList definitions) way).errors.Pairwise
      fun f g => f.place.Precedes g.place := by
  cases n with
  | leaf l =>
    have hreported := l.reported definitions way
    rw [checkSelf, Leaf.check, Report.errors_append, List.pairwise_append]
    refine ⟨pairwise_of_length_le_one Report.errors_ite_flaw_length_le,
      pairwise_of_length_le_one hreported.errors_length_le, ?_⟩
    intro f hf g hg
    rcases Report.mem_errors_ite_flaw.1 hf with ⟨_, rfl⟩
    rcases hreported.mem_errors.1 hg with ⟨part, hpart, hplace, _⟩
    rw [hplace]
    exact .part (NodePart.operator_position_lt hpart)
  | group combinator children =>
    rw [checkSelf, checkGroup, Report.errors_append, List.pairwise_append]
    refine ⟨pairwise_of_length_le_one Report.errors_ite_flaw_length_le,
      pairwise_of_length_le_one Report.errors_ite_flaw_length_le, ?_⟩
    intro f hf g hg
    rcases Report.mem_errors_ite_flaw.1 hf with ⟨_, rfl⟩
    rcases Report.mem_errors_ite_flaw.1 hg with ⟨_, rfl⟩
    exact .part (by decide)

theorem warnings_checkSelf_length_le (n : Node) (way : List Nat) :
    (n.checkSelf (.ofList definitions) way).warnings.length ≤ 1 := by
  cases n with
  | leaf l =>
    rw [checkSelf, Leaf.check, Report.warnings_append, Leaf.checkOperator,
      Report.warnings_ite_flaw, List.nil_append]
    exact (l.reported definitions way).warnings_length_le
  | group combinator children =>
    rw [checkSelf, checkGroup, Report.warnings_append, Report.warnings_ite_flaw,
      Report.warnings_ite_flaw]
    exact Nat.zero_le 1

end Node

end EventRewards
