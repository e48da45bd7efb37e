import EventRewards.Proofs.Condition.Comparing
import EventRewards.Proofs.Condition.Rules

/-!
# Operands of accepted conditions

A check looks at the kind of an operand and at whether a text writes a date; a comparison reads the
operand as a value of its type.  What the one accepts the other can read, NaN aside.  So a condition
that is accepted leaves nothing to judge by default: where a comparison in it is undecided, it is for
the logged value.
-/

namespace EventRewards

/-- What may stand on the right of a comparison under a type counts as a value of the type, unless it is
NaN. -/
theorem ValueType.Admits.reads {type : ValueType} {l : Literal} (h : type.Admits l)
    (isNumber : l ≠ .number .nan) : type.reads l = true := by
  cases h with
  | text s => rfl
  | number x =>
    cases x with
    | nan => exact absurd rfl isNumber
    | infinite negative => rfl
    | finite negative units fits => rfl
  | date t => rfl
  | dateText written => exact Option.isSome_iff_exists.2 ⟨_, written⟩

section Reference

variable {definitions : List Definition} {logs : List Log} {l : Leaf} {d : Definition}

theorem Leaf.Sound.exists_refersTo (h : l.Sound (soleDefinition? definitions)) :
    ∃ d, l.RefersTo definitions d ∧ d.valueType.Admits l.operand := by
  rcases Leaf.sound_iff.1 h with ⟨_, hnamed, d, hsole, hadmits⟩
  exact ⟨d, ⟨hnamed, hsole⟩, hadmits⟩

/-- The definition that a leaf refers to is the one that a look-up by its id finds. -/
theorem Leaf.RefersTo.find?_eq (h : l.RefersTo definitions d) :
    definitions.find? (·.id == l.conditionId) = some d := by
  rw [← List.head?_filter, h.sole]
  rfl

/-- A leaf is met when a value logged for the field of the definition that it refers to passes. -/
theorem Leaf.RefersTo.meetsLeaf_iff (h : l.RefersTo definitions d) :
    (Evidence.of definitions logs).meetsLeaf l = true ↔
      ∃ log ∈ logs, log.fieldName = d.fieldName ∧
        l.operator.compare d.valueType log.value l.operand = true := by
  rw [Evidence.meetsLeaf_iff_holds, Leaf.Holds, h.find?_eq]
  constructor
  · rintro ⟨d', hd', hlogged⟩
    cases hd'
    exact hlogged
  · intro hlogged
    exact ⟨d, rfl, hlogged⟩

end Reference

/-- In a condition that a check accepts, and in which no operand is NaN, each group joins its children by
a conjunction or a disjunction.  Each leaf has a known operator and an id that one definition alone
has, which is the one that is found under it, and the leaf's operand can be read as a value of this
definition's type.  So where an operator that tells values of the type apart is false of a logged
value together with its opposite, it is the logged value that cannot be read. -/
theorem accepted_conditions_never_degrade (t : Tree) (definitions : List Definition)
    (accepted : t.isSound definitions = true)
    (numbers : ∀ l ∈ t.leaves, l.operand ≠ .number .nan) :
    (∀ combinator children, (Node.group combinator children).OccursIn t.root →
      combinator = .and ∨ combinator = .or) ∧
    ∀ l ∈ t.leaves, l.operator ∈ Operator.known ∧
      ∃ d, definitions.filter (·.id == l.conditionId) = [d] ∧
        (DefinitionIndex.ofList definitions).get? l.conditionId = some d ∧
        d.valueType.reads l.operand = true ∧
        (l.operator.AppliesTo d.valueType → ∀ logged,
          (l.operator.compare d.valueType logged l.operand = false ∧
            l.operator.opposite.compare d.valueType logged l.operand = false ↔
              d.valueType.reads logged = false)) := by
  have hsound : t.root.Sound (soleDefinition? definitions) :=
    (Tree.check_isValid_iff definitions t).1 accepted
  constructor
  · intro combinator children occurs
    exact Combinator.ne_unknown_iff.1 ((Node.sound_iff_occursIn.1 hsound).1 _ _ occurs).1
  · intro l hl
    have hleaf : l.Sound (soleDefinition? definitions) := hsound.leaves_sound l hl
    rcases hleaf.exists_refersTo with ⟨d, hrefers, hadmits⟩
    have hreads : d.valueType.reads l.operand = true := hadmits.reads (numbers l hl)
    have hfound : (DefinitionIndex.ofList definitions).get? l.conditionId = some d := by
      rw [DefinitionIndex.get?_ofList, hrefers.find?_eq]
    refine ⟨Operator.mem_known_iff.2 hleaf.operator, d, hrefers.sole, hfound, hreads, ?_⟩
    intro applies logged
    -- the operand can be read, so that the logged value alone is to blame
    rw [applies.undecided_iff, hreads, and_iff_left rfl, Bool.not_eq_true]

namespace Sample

def score : Definition :=
  ⟨"d2", "score", "Score", .number, epoch, none⟩

def joined : Definition :=
  ⟨"d3", "joined", "Joined", .date, epoch, none⟩

/-- A visit elsewhere, by someone with a high score or who joined early. -/
def regular : Tree :=
  ⟨.and, [.leaf ⟨"d1", .neq, .text "home"⟩,
    .group .or [.leaf ⟨"d2", .gte, .number (.ofInt 5)⟩, .leaf ⟨"d3", .lt, .text "2025-01-05"⟩]]⟩

theorem regular_numbers : ∀ l ∈ regular.leaves, l.operand ≠ .number .nan := by
  have hfive : Double.ofInt 5 ≠ .nan := by decide +kernel
  simp [regular, Tree.leaves, Tree.root, Node.leaves, Node.leavesAll, hfive]

end Sample

/-- Whether someone joined early is undecided just for what writes no date. -/
theorem accepted_conditions_never_degrade_for_regular :
    Sample.regular.isSound [Sample.visits, Sample.score, Sample.joined] = true ∧
    ∀ logged, Operator.lt.compare .date logged (.text "2025-01-05") = false ∧
      Operator.gte.compare .date logged (.text "2025-01-05") = false ↔
        ValueType.date.reads logged = false := by
  have hsound : Sample.regular.isSound [Sample.visits, Sample.score, Sample.joined] = true := by
    decide +kernel
  refine ⟨hsound, ?_⟩
  have hleaves := (accepted_conditions_never_degrade Sample.regular
    [Sample.visits, Sample.score, Sample.joined] hsound Sample.regular_numbers).2
  rcases hleaves ⟨"d3", .lt, .text "2025-01-05"⟩ (by
    simp [Sample.regular, Tree.leaves, Tree.root, Node.leaves, Node.leavesAll]) with
    ⟨_, d, hsole, _, _, hundecided⟩
  cases List.singleton_inj.1 hsole
  exact hundecided (.ordering rfl (by decide))

end EventRewards
