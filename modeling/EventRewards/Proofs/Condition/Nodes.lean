import EventRewards.Condition.Tree
import Mathlib.Data.List.Induction
import Mathlib.Data.List.Nodup

/-!
# Nodes and their leaves

Induction over the nodes of a condition, with one hypothesis for every child of a group, and the
ids that the leaves of a condition refer to.
-/

namespace EventRewards
namespace Node

/-- Induction over nodes.  A group may use what is known of each of its children. -/
@[induction_eliminator]
theorem induct {motive : Node → Prop} (leaf : ∀ l, motive (.leaf l))
    (group : ∀ combinator children, (∀ n ∈ children, motive n) →
      motive (.group combinator children)) : ∀ n, motive n
  | .leaf l => leaf l
  | .group combinator children =>
    group combinator children fun n _ => induct leaf group n
termination_by n => sizeOf n
decreasing_by
  have hlt := List.sizeOf_lt_of_mem ‹n ∈ children›
  simp only [Node.group.sizeOf_spec]
  omega

theorem leavesAll_eq (nodes : List Node) : leavesAll nodes = nodes.flatMap leaves := by
  induction nodes with
  | nil => rfl
  | cons n rest ih => rw [leavesAll, ih, List.flatMap_cons]

theorem mem_leaves_group {combinator : Combinator} {children : List Node} {l : Leaf} :
    l ∈ (Node.group combinator children).leaves ↔ ∃ n ∈ children, l ∈ n.leaves := by
  rw [leaves, leavesAll_eq, List.mem_flatMap]

/-- Visitors are handed the list of the leaves, from its front to its end. -/
theorem visitLeavesAll_eq {σ : Type} {visit : σ → Leaf → σ} {nodes : List Node}
    (each : ∀ n ∈ nodes, ∀ state, n.visitLeaves visit state = n.leaves.foldl visit state)
    (state : σ) : visitLeavesAll visit state nodes = (leavesAll nodes).foldl visit state := by
  induction nodes generalizing state with
  | nil => rfl
  | cons n rest ih =>
    have hrest := ih fun m hm => each m (List.mem_cons_of_mem _ hm)
    rw [visitLeavesAll, leavesAll, List.foldl_append, each n List.mem_cons_self, hrest]

theorem visitLeaves_eq {σ : Type} (visit : σ → Leaf → σ) (n : Node) (state : σ) :
    n.visitLeaves visit state = n.leaves.foldl visit state := by
  induction n generalizing state with
  | leaf l => rfl
  | group combinator children ih =>
    rw [visitLeaves, leaves]
    exact visitLeavesAll_eq ih state

end Node

/-! ## Ids -/

namespace MetIds

/-- What is known when some ids have come by, one after the other: what was seen is what is listed, and
the list holds each of them once, in the order of their first occurrence. -/
structure Lists (met : MetIds) (came : List String) : Prop where
  seen : ∀ id, id ∈ met.seen ↔ id ∈ met.ids
  mem_iff : ∀ id, id ∈ met.ids ↔ id ∈ came
  nodup : met.ids.Nodup
  ordered : met.ids.Pairwise fun a b => came.idxOf a < came.idxOf b

theorem lists_empty : empty.Lists [] :=
  ⟨fun _ => .rfl, fun _ => .rfl, .nil, .nil⟩

/-- One more leaf: its id is known already, or is listed last, behind all that came before. -/
theorem Lists.note {met : MetIds} {came : List String} (h : met.Lists came) (l : Leaf) :
    (met.note l).Lists (came ++ [l.conditionId]) := by
  have hsame : ∀ id ∈ came, (came ++ [l.conditionId]).idxOf id = came.idxOf id :=
    fun _ => List.idxOf_append_of_mem
  have hordered : met.ids.Pairwise fun a b =>
      (came ++ [l.conditionId]).idxOf a < (came ++ [l.conditionId]).idxOf b := by
    refine h.ordered.imp_of_mem ?_
    intro a b ha hb hlt
    rwa [hsame a ((h.mem_iff a).1 ha), hsame b ((h.mem_iff b).1 hb)]
  by_cases hknown : met.seen.contains l.conditionId = true
  · rw [MetIds.note, if_pos hknown]
    have hmem : l.conditionId ∈ came :=
      (h.mem_iff _).1 ((h.seen _).1 (List.contains_iff_mem.1 hknown))
    refine ⟨h.seen, fun id => ?_, h.nodup, hordered⟩
    rw [h.mem_iff, List.mem_append, List.mem_singleton, or_iff_left_of_imp]
    rintro rfl
    exact hmem
  · rw [MetIds.note, if_neg hknown]
    have hnew : l.conditionId ∉ met.ids := fun hmem =>
      hknown (List.contains_iff_mem.2 ((h.seen _).2 hmem))
    refine ⟨fun id => ?_, fun id => ?_, ?_, ?_⟩
    · rw [List.mem_cons, List.mem_append, List.mem_singleton, h.seen, or_comm]
    · rw [List.mem_append, List.mem_append, h.mem_iff]
    · rw [← List.concat_eq_append]
      exact h.nodup.concat hnew
    · refine List.pairwise_append.2 ⟨hordered, List.pairwise_singleton _ _, ?_⟩
      intro a ha b hb
      have hbefore := (h.mem_iff a).1 ha
      have hlast : l.conditionId ∉ came := fun hmem => hnew ((h.mem_iff _).2 hmem)
      rw [List.mem_singleton.1 hb, hsame a hbefore, List.idxOf_append_of_notMem hlast]
      exact Nat.lt_add_right _ (List.idxOf_lt_length_of_mem hbefore)

/-- The induction is on the leaves from the back, the last of which is the one that comes by. -/
theorem lists_foldl (leaves : List Leaf) :
    (leaves.foldl MetIds.note empty).Lists (leaves.map (·.conditionId)) := by
  induction leaves using List.reverseRecOn with
  | nil => exact lists_empty
  | append_singleton before l ih =>
    rw [List.foldl_append, List.map_append]
    exact ih.note l

end MetIds

namespace Tree

/-- The ids of a condition are listed as they come by on a walk through its leaves. -/
theorem conditionIds_eq (t : Tree) : t.conditionIds = (t.leaves.foldl MetIds.note .empty).ids :=
  congrArg MetIds.ids (Node.visitLeaves_eq MetIds.note t.root .empty)

theorem mem_conditionIds {t : Tree} {id : String} :
    id ∈ t.conditionIds ↔ ∃ l ∈ t.leaves, l.conditionId = id := by
  rw [conditionIds_eq, (MetIds.lists_foldl t.leaves).mem_iff, List.mem_map]

theorem conditionIds_nodup (t : Tree) : t.conditionIds.Nodup := by
  rw [conditionIds_eq]
  exact (MetIds.lists_foldl t.leaves).nodup

theorem conditionIds_pairwise (t : Tree) : t.conditionIds.Pairwise fun a b =>
    (t.leaves.map (·.conditionId)).idxOf a < (t.leaves.map (·.conditionId)).idxOf b := by
  rw [conditionIds_eq]
  exact (MetIds.lists_foldl t.leaves).ordered

end Tree
end EventRewards
