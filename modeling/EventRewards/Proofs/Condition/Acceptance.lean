import EventRewards.Proofs.Condition.Meaning
import EventRewards.Proofs.Condition.Soundness

/-!
# What a check accepts

A check walks over a tree and gathers what is wrong with it.  What it accepts can be said of the groups
and the leaves one by one, at whatever depth they stand, and of the definitions as they are listed.  A
condition that is accepted needs logs: it has leaves, and none of them holds without a value of the
field that it refers to.
-/

namespace EventRewards

/-! ## Operands -/

/-- The literals that may stand on the right of a comparison: texts among texts, numbers among
numbers, and among dates both dates and texts that write one. -/
inductive ValueType.Admits : ValueType → Literal → Prop where
  | text (s : String) : Admits .text (.text s)
  | number (x : Double) : Admits .number (.number x)
  | date (t : Instant) : Admits .date (.date t)
  | dateText {s : String} {t : Instant} (written : Instant.ofText? s = some t) :
      Admits .date (.text s)

theorem ValueType.accepts_iff_admits {type : ValueType} {l : Literal} :
    type.accepts l = true ↔ type.Admits l := by
  constructor
  · intro h
    cases type with
    | text =>
      cases l with
      | text s => exact .text s
      | _ => cases h
    | number =>
      cases l with
      | number x => exact .number x
      | _ => cases h
    | date =>
      cases l with
      | date t => exact .date t
      | text s =>
        rcases Option.isSome_iff_exists.1 h with ⟨t, ht⟩
        exact .dateText ht
      | _ => cases h
  · intro h
    cases h with
    | dateText written => exact Option.isSome_iff_exists.2 ⟨_, written⟩
    | _ => rfl

/-! ## Nodes in a tree -/

namespace Node

/-- A node occurs in another when it is that node or occurs in one of its children. -/
inductive OccursIn (m : Node) : Node → Prop where
  | here : OccursIn m m
  | inChild {combinator : Combinator} {children : List Node} {n : Node} (child : n ∈ children)
      (occurs : OccursIn m n) : OccursIn m (.group combinator children)

/-- What occurs in a sound node is sound. -/
theorem Sound.of_occursIn {lookup : String → Option Definition} {m n : Node}
    (sound : n.Sound lookup) (occurs : m.OccursIn n) : m.Sound lookup := by
  induction occurs with
  | here => exact sound
  | inChild child _ ih =>
    cases sound with
    | group _ _ each => exact ih (each _ child)

/-- A node is sound when all groups and all leaves that occur in it are as a check wants them. -/
theorem sound_iff_occursIn {lookup : String → Option Definition} {n : Node} :
    n.Sound lookup ↔
      (∀ combinator children, (group combinator children).OccursIn n →
        combinator ≠ .unknown ∧ children ≠ []) ∧
      ∀ l, (leaf l).OccursIn n → l.Sound lookup := by
  constructor
  · intro h
    constructor
    · intro combinator children occurs
      cases h.of_occursIn occurs with
      | group combines inhabited _ => exact ⟨combines, inhabited⟩
    · intro l occurs
      cases h.of_occursIn occurs with
      | leaf sound => exact sound
  · intro h
    induction n with
    | leaf l => exact .leaf (h.2 l .here)
    | group combinator children ih =>
      have hgroup := h.1 combinator children .here
      refine .group hgroup.1 hgroup.2 ?_
      intro n hn
      refine ih n hn ⟨?_, ?_⟩
      · intro combinator' children' occurs
        exact h.1 combinator' children' (.inChild hn occurs)
      · intro l occurs
        exact h.2 l (.inChild hn occurs)

end Node

theorem Combinator.ne_unknown_iff {c : Combinator} : c ≠ .unknown ↔ c = .and ∨ c = .or := by
  cases c <;> simp

theorem Operator.mem_known_iff {op : Operator} : op ∈ known ↔ op ≠ .unknown := by
  cases op <;> simp [known]

/-- A leaf is sound when its operator is known, its id is not empty, and one definition of the list
alone has that id and admits its operand. -/
theorem Leaf.sound_iff {definitions : List Definition} {l : Leaf} :
    l.Sound (soleDefinition? definitions) ↔
      l.operator ∈ Operator.known ∧ l.conditionId ≠ "" ∧
        ∃ d, definitions.filter (·.id == l.conditionId) = [d] ∧ d.valueType.Admits l.operand := by
  constructor
  · rintro ⟨hoperator, hnamed, d, hsole, haccepts⟩
    exact ⟨Operator.mem_known_iff.2 hoperator, hnamed, d, soleDefinition?_eq_some.1 hsole,
      ValueType.accepts_iff_admits.1 haccepts⟩
  · rintro ⟨hoperator, hnamed, d, hsole, hadmits⟩
    exact ⟨Operator.mem_known_iff.1 hoperator, hnamed, d, soleDefinition?_eq_some.2 hsole,
      ValueType.accepts_iff_admits.2 hadmits⟩

theorem Tree.checkJson_consistent (document : Json) (definitions : List Definition) :
    (Tree.checkJson document definitions).Consistent := by
  rw [checkJson]
  cases decode document with
  | ok t => exact t.check_consistent definitions
  | error e => exact Report.flaw_consistent _ _

/-- A check accepts a tree exactly when each group in it, the root and those at any depth below it,
joins children by a conjunction or a disjunction, and each leaf in it has a known operator and an id
that is not empty and that one entry of the definitions alone has, which admits its operand.  The
report of every check, of a tree or of a document, is marked valid exactly when it holds no errors. -/
theorem accepted_iff_each_node_fits (t : Tree) (definitions : List Definition) :
    (t.isSound definitions = true ↔
      (∀ combinator children, (Node.group combinator children).OccursIn t.root →
        (combinator = .and ∨ combinator = .or) ∧ children ≠ []) ∧
      ∀ l, (Node.leaf l).OccursIn t.root →
        l.operator ∈ Operator.known ∧ l.conditionId ≠ "" ∧
          ∃ d, definitions.filter (·.id == l.conditionId) = [d] ∧
            d.valueType.Admits l.operand) ∧
    ((t.check definitions).isValid = true ↔ (t.check definitions).errors = []) ∧
    ∀ document, (Tree.checkJson document definitions).isValid = true ↔
      (Tree.checkJson document definitions).errors = [] := by
  refine ⟨?_, t.check_consistent definitions, ?_⟩
  · have hsound : t.isSound definitions = true ↔ t.root.Sound (soleDefinition? definitions) :=
      Tree.check_isValid_iff definitions t
    rw [hsound, Node.sound_iff_occursIn]
    simp only [Combinator.ne_unknown_iff, Leaf.sound_iff]
  · intro document
    exact Tree.checkJson_consistent document definitions

/-! ## Accepted conditions and logs -/

section Logs

variable {definitions : List Definition} {logs : List Log}

/-- Of the leaves of a sound node that holds one holds: no group in it is without children. -/
theorem Node.Sound.exists_leaf_holds {lookup : String → Option Definition} {n : Node}
    (sound : n.Sound lookup) (holds : n.Holds definitions logs) :
    ∃ l ∈ n.leaves, l.Holds definitions logs := by
  induction sound with
  | @leaf l _ => exact ⟨l, List.mem_singleton.2 rfl, Node.holds_leaf.1 holds⟩
  | @group combinator children _ inhabited _ ih =>
    have hchild : ∃ n ∈ children, n.Holds definitions logs := by
      cases combinator with
      | and =>
        -- a conjunction of nothing would hold, and is not sound
        rcases List.exists_mem_of_ne_nil children inhabited with ⟨n, hn⟩
        exact ⟨n, hn, Node.holds_and.1 holds n hn⟩
      | or => exact Node.holds_or.1 holds
      | unknown => exact absurd holds Node.not_holds_unknown
    rcases hchild with ⟨n, hn, hholds⟩
    rcases ih n hn hholds with ⟨l, hl, hleaf⟩
    exact ⟨l, Node.mem_leaves_group.2 ⟨n, hn, hl⟩, hleaf⟩

/-- An accepted condition is not met by logs of other fields than those that its leaves refer to. -/
theorem Tree.evaluate_eq_false_of_unlogged {t : Tree} (sound : t.isSound definitions = true)
    (unlogged : ∀ leaf ∈ t.leaves, ∀ d ∈ definitions, d.id = leaf.conditionId →
      ∀ l ∈ logs, l.fieldName ≠ d.fieldName) :
    t.evaluate definitions logs = false := by
  rw [← Bool.not_eq_true]
  intro hmet
  have hsound : t.root.Sound (soleDefinition? definitions) :=
    (Tree.check_isValid_iff definitions t).1 sound
  have hholds : t.root.Holds definitions logs := Evidence.meets_iff_holds.1 hmet
  rcases hsound.exists_leaf_holds hholds with ⟨leaf, hleaf, d, hfound, l, hl, hfield, _⟩
  have hd := Keyed.of_find? hfound
  exact unlogged leaf hleaf d hd.1 hd.2 l hl hfield

end Logs
end EventRewards
