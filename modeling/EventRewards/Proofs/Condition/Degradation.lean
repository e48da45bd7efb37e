import EventRewards.Proofs.Condition.Checks
import EventRewards.Proofs.Condition.Operands
import EventRewards.Proofs.Results

/-!
# Degraded conditions

A condition degrades where an operator or a combinator in it is one that is not known, and where a
definition that it refers to is missing.  Whatever stands there counts as not met, and since groups
join their children by conjunctions and disjunctions alone, nothing is met for that which was not met
before.
-/

namespace EventRewards

/-! ## Damage -/

/-- Whether a node is what another becomes when operators of some leaves in it, and combinators of some
groups, at whatever depth, are replaced by unknown ones. -/
inductive Node.Degrades : Node → Node → Prop where
  | leaf {l : Leaf} {operator : Operator} (kept : operator = l.operator ∨ operator = .unknown) :
      Degrades (.leaf l) (.leaf { l with operator := operator })
  | group {combinator combinator' : Combinator} {children children' : List Node}
      (kept : combinator' = combinator ∨ combinator' = .unknown)
      (each : List.Forall₂ Degrades children children') :
      Degrades (.group combinator children) (.group combinator' children')

section Damage

variable {e : Evidence}

theorem Evidence.not_meetsLeaf_unknown {l : Leaf} (unknown : l.operator = .unknown) :
    ¬e.meetsLeaf l = true := by
  rw [meetsLeaf, unknown]
  cases e.definitions.get? l.conditionId with
  | none => exact Bool.false_ne_true
  | some d =>
    -- no value passes a comparison that is not known
    simp [Operator.compare]

/-- Damage meets nothing: where a damaged node is met, the whole one is. -/
theorem Node.Degrades.meets {n n' : Node} (degrades : n.Degrades n') (met : e.meets n' = true) :
    e.meets n = true := by
  induction n generalizing n' with
  | leaf l =>
    cases degrades with
    | leaf kept =>
      rcases kept with rfl | rfl
      · exact met
      · exact absurd met (Evidence.not_meetsLeaf_unknown rfl)
  | group combinator children ih =>
    cases degrades with
    | @group _ combinator' _ children' kept each =>
      rcases kept with hsame | hunknown
      -- with the combinator kept, the group is monotone in the verdicts on its children
      · rw [hsame] at met
        cases combinator with
        | and =>
          apply Evidence.meets_and.2
          intro n hn
          rcases exists_of_forall₂ each hn with ⟨n', hn', hdegrades⟩
          exact ih n hn hdegrades (Evidence.meets_and.1 met n' hn')
        | or =>
          rcases Evidence.meets_or.1 met with ⟨n', hn', hmet⟩
          rcases exists_of_forall₂ each.flip hn' with ⟨n, hn, hdegrades⟩
          exact Evidence.meets_or.2 ⟨n, hn, ih n hn hdegrades hmet⟩
        | unknown => exact absurd met Evidence.not_meets_unknown
      · rw [hunknown] at met
        exact absurd met Evidence.not_meets_unknown

end Damage

/-! ## Missing definitions -/

/-- A leaf that is met without all definitions of some ids does not refer to any of these, and so it is
met with them. -/
theorem Evidence.meetsLeaf_of_removed {definitions : List Definition} {logs : List Log} {l : Leaf}
    {removed : String → Bool}
    (met : (Evidence.of (definitions.filter fun d => !removed d.id) logs).meetsLeaf l = true) :
    (Evidence.of definitions logs).meetsLeaf l = true := by
  rw [meetsLeaf_iff_holds] at met ⊢
  rcases met with ⟨d, hfound, hlogged⟩
  have hd := Keyed.of_find? hfound
  have hkept : removed l.conditionId = false := by
    have hleft := (List.mem_filter.1 hd.1).2
    rw [hd.2] at hleft
    simpa using hleft
  have hagree : AgreeOn l.conditionId (definitions.filter fun d => !removed d.id) definitions := by
    apply agreeOn_filter
    intro d' _ hid
    rw [hid, hkept]
    rfl
  exact ⟨d, hagree.find?_eq ▸ hfound, hlogged⟩

/-- A condition that is met when operators and combinators anywhere in it are not known, and all
definitions of some ids are missing, is met as well when it is whole and nothing is missing. -/
theorem degradation_never_grants (t t' : Tree) (degrades : t.root.Degrades t'.root)
    (definitions : List Definition) (removed : String → Bool) (logs : List Log)
    (granted : t'.evaluate (definitions.filter fun d => !removed d.id) logs = true) :
    t.evaluate definitions logs = true := by
  have hwhole : t.evaluate (definitions.filter fun d => !removed d.id) logs = true :=
    degrades.meets granted
  apply Evidence.meets_mono _ hwhole
  intro l _
  exact Evidence.meetsLeaf_of_removed

namespace Sample

/-- The condition on regular visitors with its comparison of dates unknown. -/
def worn : Tree :=
  ⟨.and, [.leaf ⟨"d1", .neq, .text "home"⟩,
    .group .or [.leaf ⟨"d2", .gte, .number (.ofInt 5)⟩,
      .leaf ⟨"d3", .unknown, .text "2025-01-05"⟩]]⟩

theorem regular_degrades : regular.root.Degrades worn.root := by
  have hdate : Node.Degrades (.leaf ⟨"d3", .lt, .text "2025-01-05"⟩)
      (.leaf ⟨"d3", .unknown, .text "2025-01-05"⟩) := .leaf (.inr rfl)
  refine .group (.inl rfl) (.cons (.leaf (.inl rfl)) (.cons (.group (.inl rfl) ?_) .nil))
  exact .cons (.leaf (.inl rfl)) (.cons hdate .nil)

/-- A visit elsewhere, and a high score. -/
def achievements : List Log :=
  [visit "l1" "ann" "blog", ⟨"l2", "ann", "score", .number (.ofInt 7), epoch, none⟩]

end Sample

/-- A high score is enough where nobody can say who joined early, and so it is enough. -/
theorem degradation_never_grants_for_regular :
    Sample.worn.evaluate ([Sample.visits, Sample.score, Sample.joined].filter
      fun d => !(d.id == "d3")) Sample.achievements = true ∧
    Sample.regular.evaluate [Sample.visits, Sample.score, Sample.joined] Sample.achievements =
      true := by
  have hgranted : Sample.worn.evaluate ([Sample.visits, Sample.score, Sample.joined].filter
      fun d => !(d.id == "d3")) Sample.achievements = true := by
    decide +kernel
  exact ⟨hgranted, degradation_never_grants _ _ Sample.regular_degrades _ (· == "d3") _ hgranted⟩

end EventRewards
