import EventRewards.Hub.Fault
import EventRewards.Proofs.Condition.Places
import EventRewards.Proofs.Condition.Soundness

/-!
# What a check depends on

Of the definitions that a condition is checked against, only those matter that have the id of some
leaf, and of these only which they are and how many.  Lists that agree on them give the same report:
the same flaws and cautions, in the same places and in the same order.  Every flaw of a tree has a
place in the tree, so that it is always reported together with its place.
-/

namespace EventRewards

/-! ## Definitions that matter -/

/-- Whether two lists of definitions hold the same ones, in the same order, under an id. -/
def AgreeOn (id : String) (definitions definitions' : List Definition) : Prop :=
  definitions.filter (·.id == id) = definitions'.filter (·.id == id)

theorem AgreeOn.find?_eq {definitions definitions' : List Definition} {id : String}
    (agree : AgreeOn id definitions definitions') :
    definitions.find? (·.id == id) = definitions'.find? (·.id == id) := by
  rw [← List.head?_filter, ← List.head?_filter, show _ = _ from agree]

/-- Leaving definitions out makes no difference under an id of which none is left out. -/
theorem agreeOn_filter {definitions : List Definition} {id : String} {keep : Definition → Bool}
    (kept : ∀ d ∈ definitions, d.id = id → keep d = true) :
    AgreeOn id (definitions.filter keep) definitions := by
  rw [AgreeOn, List.filter_filter]
  refine List.filter_congr ?_
  intro d hd
  by_cases hid : d.id = id
  · rw [kept d hd hid, Bool.and_true]
  · rw [beq_false_of_ne hid, Bool.false_and]

namespace DefinitionIndex

variable {definitions definitions' : List Definition} {id : String}

theorem resolve_congr (agree : AgreeOn id definitions definitions') :
    (ofList definitions).resolve id = (ofList definitions').resolve id := by
  have hambiguous : (ofList definitions).isAmbiguous id = (ofList definitions').isAmbiguous id := by
    apply Bool.eq_iff_iff.2
    simp only [isAmbiguous_ofList, show _ = _ from agree]
  have hget : (ofList definitions).get? id = (ofList definitions').get? id := by
    rw [get?_ofList, get?_ofList, agree.find?_eq]
  simp only [resolve, hambiguous, hget]

end DefinitionIndex

section Congruence

variable {definitions definitions' : List Definition}

theorem Leaf.check_congr {l : Leaf} (agree : AgreeOn l.conditionId definitions definitions')
    (way : List Nat) : l.check way (.ofList definitions) = l.check way (.ofList definitions') := by
  simp only [check, checkReference, DefinitionIndex.resolve_congr agree]

namespace Node

theorem checkFrom_congr {index index' : DefinitionIndex} {way : List Nat} {number : Nat}
    {nodes : List Node} (each : ∀ n ∈ nodes, ∀ way, n.check index way = n.check index' way) :
    checkFrom index way number nodes = checkFrom index' way number nodes := by
  induction nodes generalizing number with
  | nil => rfl
  | cons n rest ih =>
    have hfirst := each n List.mem_cons_self (way ++ [number])
    have hrest : checkFrom index way (number + 1) rest = checkFrom index' way (number + 1) rest :=
      ih fun m hm => each m (List.mem_cons_of_mem _ hm)
    simp only [checkFrom, hfirst, hrest]

theorem check_congr {n : Node}
    (agree : ∀ l ∈ n.leaves, AgreeOn l.conditionId definitions definitions') (way : List Nat) :
    n.check (.ofList definitions) way = n.check (.ofList definitions') way := by
  induction n generalizing way with
  | leaf l => exact Leaf.check_congr (agree l (List.mem_singleton.2 rfl)) way
  | group combinator children ih =>
    have hchildren : checkFrom (.ofList definitions) way 0 children =
        checkFrom (.ofList definitions') way 0 children := by
      apply checkFrom_congr
      intro n hn way
      refine ih n hn ?_ way
      intro l hl
      exact agree l (mem_leaves_group.2 ⟨n, hn, hl⟩)
    simp only [check, hchildren]

end Node

/-- A report depends only on the definitions under the ids that the leaves refer to. -/
theorem Tree.check_congr {t : Tree}
    (agree : ∀ l ∈ t.leaves, AgreeOn l.conditionId definitions definitions') :
    t.check definitions = t.check definitions' :=
  Node.check_congr agree []

end Congruence

/-! ## Flaws in their places -/

namespace Report

/-- Whether each flaw of a report belongs to a part of some node. -/
def Placed (r : Report) : Prop :=
  ∀ f ∈ r.errors, ∃ way part, f.place = .part way part

theorem placed_additive : Additive Placed where
  empty := by
    intro f hf
    cases hf
  flaw way part what := by
    intro f hf
    have hflaw : f = ⟨.part way part, what⟩ := List.mem_singleton.1 hf
    exact ⟨way, part, congrArg Finding.place hflaw⟩
  caution place what := by
    intro f hf
    cases hf
  append := by
    intro a b ha hb f hf
    rcases List.mem_append.1 hf with hfa | hfb
    · exact ha f hfa
    · exact hb f hfb

end Report

theorem Tree.check_placed (t : Tree) (definitions : List Definition) :
    (t.check definitions).Placed :=
  Report.placed_additive.tree_check t definitions

theorem Place.text_part_ne_empty (way : List Nat) (part : NodePart) :
    (Place.part way part).text ≠ "" := by
  intro htext
  -- no place is read back from the empty path
  have hread : read? "" = some (way, part) := htext ▸ read?_text way part
  cases hread

/-- A flaw of a tree is told with its place before it. -/
theorem Tree.problemText_of_check {t : Tree} {definitions : List Definition} {f : Finding Flaw}
    (found : f ∈ (t.check definitions).errors) :
    Fault.problemText f = f.place.text ++ ": " ++ f.what.message := by
  rcases t.check_placed definitions f found with ⟨way, part, hplace⟩
  have hnamed : f.place.text.isEmpty ≠ true := by
    rw [hplace]
    intro hempty
    exact Place.text_part_ne_empty way part (String.isEmpty_iff.1 hempty)
  rw [Fault.problemText, if_neg hnamed]

end EventRewards
