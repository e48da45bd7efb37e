import EventRewards.Proofs.Condition.Places

/-!
# Leaves on a walk

The leaves of a condition are visited depth first and from left to right: each of them once, and in the
order of the ways that lead to them.  The ids that a condition refers to are collected on such a walk,
so that they are listed as their first leaves come by.
-/

namespace EventRewards

/-! ## Visits -/

namespace Node

/-- The visit of a leaf that a stop of a walk is, if it is one. -/
def leafStop? : List Nat × Node → Option (List Nat × Leaf)
  | (way, .leaf l) => some (way, l)
  | (_, .group _ _) => none

/-- The visits that a walk pays to leaves, each with the way to the leaf. -/
def leafVisits (n : Node) : List (List Nat × Leaf) :=
  (n.walk []).filterMap leafStop?

theorem leafStop?_eq_some {stop : List Nat × Node} {way : List Nat} {l : Leaf} :
    leafStop? stop = some (way, l) ↔ stop = (way, .leaf l) := by
  rcases stop with ⟨w, m⟩
  cases m with
  | leaf l' => simp [leafStop?]
  | group combinator children => simp [leafStop?]

/-- A leaf is visited once for each way that leads to it. -/
theorem mem_leafVisits {n : Node} {way : List Nat} {l : Leaf} :
    (way, l) ∈ n.leafVisits ↔ n.at? way = some (.leaf l) := by
  simp only [leafVisits, List.mem_filterMap, leafStop?_eq_some, exists_eq_right, mem_walk,
    List.nil_append, exists_eq_left']

theorem leafVisits_pairwise (n : Node) : n.leafVisits.Pairwise fun a b => a.1 < b.1 := by
  refine (n.walk_pairwise []).filterMap leafStop? ?_
  rintro a a' hlt ⟨way, l⟩ hstop ⟨way', l'⟩ hstop'
  rw [leafStop?_eq_some.1 hstop, leafStop?_eq_some.1 hstop'] at hlt
  exact hlt

/-- What is visited are the leaves as they are listed, whatever way leads to the node itself. -/
theorem map_filterMap_walk (n : Node) (way : List Nat) :
    ((n.walk way).filterMap leafStop?).map Prod.snd = n.leaves := by
  induction n generalizing way with
  | leaf l => rfl
  | group combinator children ih =>
    have hfrom (number : Nat) :
        ((walkFrom way number children).filterMap leafStop?).map Prod.snd = leavesAll children := by
      induction children generalizing number with
      | nil => rfl
      | cons n rest ihrest =>
        have hfirst := ih n List.mem_cons_self (way ++ [number])
        have hrest := ihrest (fun m hm => ih m (List.mem_cons_of_mem _ hm)) (number + 1)
        rw [walkFrom, List.filterMap_append, List.map_append, hfirst, hrest, leavesAll]
    -- a walk stops at the group before its children, which is no visit of a leaf
    calc
      ((walk way (group combinator children)).filterMap leafStop?).map Prod.snd =
          ((walkFrom way 0 children).filterMap leafStop?).map Prod.snd := rfl
      _ = leavesAll children := hfrom 0

theorem leaves_eq (n : Node) : n.leaves = n.leafVisits.map Prod.snd :=
  (n.map_filterMap_walk []).symm

/-- Leaves are handed to a visitor in the order in which a walk visits them. -/
theorem visitLeaves_eq_foldl_leafVisits {σ : Type} (visit : σ → Leaf → σ) (n : Node) (state : σ) :
    n.visitLeaves visit state =
      n.leafVisits.foldl (fun state stop => visit state stop.2) state := by
  calc
    n.visitLeaves visit state = n.leaves.foldl visit state := n.visitLeaves_eq visit state
    _ = (n.leafVisits.map Prod.snd).foldl visit state := by rw [← leaves_eq]
    _ = n.leafVisits.foldl (fun state stop => visit state stop.2) state := List.foldl_map

end Node

/-! ## Ids -/

/-- A walk through a condition, in the order of the ways, stops once at the end of each way to a leaf,
and hands the leaf there to its visitor.  The ids that are collected are those of the leaves at any
depth, each once, and one comes before another if the walk meets it first. -/
theorem leaves_visited_once_in_order (t : Tree) :
    let visits := t.root.leafVisits
    let met := visits.map fun stop => stop.2.conditionId
    visits.Pairwise (fun a b => a.1 < b.1) ∧
    (∀ way l, (way, l) ∈ visits ↔ t.root.at? way = some (.leaf l)) ∧
    t.leaves = visits.map Prod.snd ∧
    (∀ (σ : Type) (visit : σ → Leaf → σ) (state : σ), t.root.visitLeaves visit state =
      visits.foldl (fun state stop => visit state stop.2) state) ∧
    t.conditionIds.Nodup ∧
    (∀ id, id ∈ t.conditionIds ↔
      ∃ way l, t.root.at? way = some (.leaf l) ∧ l.conditionId = id) ∧
    t.conditionIds.Pairwise fun a b => met.idxOf a < met.idxOf b := by
  intro visits met
  have hleaves : t.leaves = visits.map Prod.snd := t.root.leaves_eq
  have hmet : t.leaves.map (·.conditionId) = met := by
    rw [hleaves, List.map_map]
    rfl
  refine ⟨t.root.leafVisits_pairwise, fun way l => Node.mem_leafVisits, hleaves,
    fun σ visit state => t.root.visitLeaves_eq_foldl_leafVisits visit state, t.conditionIds_nodup,
    ?_, ?_⟩
  · intro id
    rw [Tree.mem_conditionIds, hleaves]
    constructor
    · rintro ⟨l, hl, rfl⟩
      rcases List.mem_map.1 hl with ⟨⟨way, _⟩, hstop, rfl⟩
      exact ⟨way, _, Node.mem_leafVisits.1 hstop, rfl⟩
    · rintro ⟨way, l, hat, rfl⟩
      exact ⟨l, List.mem_map.2 ⟨(way, l), Node.mem_leafVisits.2 hat, rfl⟩, rfl⟩
  · rw [← hmet]
    exact t.conditionIds_pairwise

-- an id that comes back deeper down is not listed again
example :
    let leaf (id : String) : Node := .leaf ⟨id, .exists, .null⟩
    (Tree.mk .and [leaf "a", .group .or [leaf "b", .group .and [leaf "a", leaf "c"]]]).conditionIds =
      ["a", "b", "c"] := by
  decide +kernel

end EventRewards
