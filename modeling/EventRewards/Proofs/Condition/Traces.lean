import EventRewards.Proofs.Condition.Meaning
import EventRewards.Proofs.Condition.Places

/-!
# What explanations show

An explanation asks anew for the verdict of each group that it comes to.  A trace is made in one pass
from the leaves up: that of a group is put together from those of its children, and its verdict from
theirs.  Both say the same.  So an explanation shows every node once, in the order of a walk, and the
verdict that it shows of a group is what the combinator makes of those shown of the children.
-/

namespace EventRewards

/-! ## Traces -/

/-- A piece of an explanation.  What is said of a node bears the way to it. -/
inductive Piece where
  | words (way : List Nat) (node : Node) (text : String)
  | mark (text : String)
  | verdict (way : List Nat) (value : Bool)

namespace Piece

def text : Piece → String
  | .words _ _ text => text
  | .mark text => text
  | .verdict _ value => " = " ++ Evidence.verdictText value

/-- The node that a piece introduces. -/
def node? : Piece → Option (List Nat × Node)
  | .words way node _ => some (way, node)
  | .mark _ => none
  | .verdict _ _ => none

/-- The verdict that a piece shows, with the way to its node. -/
def verdict? : Piece → Option (List Nat × Bool)
  | .words _ _ _ => none
  | .mark _ => none
  | .verdict way value => some (way, value)

end Piece

/-- An explanation in pieces, with the verdict at its end. -/
structure Trace where
  pieces : List Piece
  verdict : Bool

namespace Trace

def text (t : Trace) : String :=
  String.join (t.pieces.map Piece.text)

/-- The nodes that a trace shows, in their order. -/
def nodes (t : Trace) : List (List Nat × Node) :=
  t.pieces.filterMap Piece.node?

/-- The verdicts that a trace shows, in their order. -/
def verdicts (t : Trace) : List (List Nat × Bool) :=
  t.pieces.filterMap Piece.verdict?

def ofLeaf (way : List Nat) (leaf : Leaf) (words : String) (verdict : Bool) : Trace :=
  ⟨[.words way (.leaf leaf) words, .verdict way verdict], verdict⟩

/-- Puts the trace of a group together from those of its children.  Its verdict is made of theirs,
and of nothing else. -/
def ofGroup (way : List Nat) (combinator : Combinator) (children : List Node)
    (parts : List Trace) : Trace :=
  let verdict := combinator.join (parts.map (·.verdict))
  ⟨.words way (.group combinator children) (combinator.traceName ++ "(") ::
    ([Piece.mark ", "].intercalate (parts.map (·.pieces)) ++ [.mark ")", .verdict way verdict]),
    verdict⟩

end Trace

namespace Evidence

/-- What a leaf's trace says before its verdict. -/
def words (e : Evidence) (leaf : Leaf) : String :=
  e.subject leaf ++ " " ++ leaf.operator.name ++ " " ++ leaf.operand.display

mutual
/-- The trace of a node to which some way leads, made in one pass. -/
def trace (e : Evidence) (way : List Nat) : Node → Trace
  | .leaf leaf => .ofLeaf way leaf (e.words leaf) (e.meetsLeaf leaf)
  | .group combinator children => .ofGroup way combinator children (traceFrom e way 0 children)

def traceFrom (e : Evidence) (way : List Nat) (number : Nat) : List Node → List Trace
  | [] => []
  | node :: rest => trace e (way ++ [number]) node :: traceFrom e way (number + 1) rest
end

end Evidence

/-! ## Pieces put together -/

section Pieces

variable {α β : Type}

/-- Marks between parts of a list, which a search passes over, leave what it finds in each part. -/
theorem filterMap_intercalate {mark : α} {parts : List (List α)} {f : α → Option β}
    (passed : f mark = none) :
    ([mark].intercalate parts).filterMap f = parts.flatMap (·.filterMap f) := by
  induction parts with
  | nil => rfl
  | cons part rest ih =>
    by_cases hrest : rest = []
    · simp [hrest]
    · rw [List.intercalate_cons_of_ne_nil hrest, List.filterMap_append, List.filterMap_append, ih,
        List.flatMap_cons]
      simp [passed]

/-- Texts of parts with a mark between them, put together one after the other. -/
theorem join_intercalate (mark : α) (parts : List (List α)) (text : α → String) :
    String.join (([mark].intercalate parts).map text) =
      Text.joinWith (text mark) (parts.map fun part => String.join (part.map text)) := by
  rw [Text.joinWith]
  induction parts with
  | nil => rfl
  | cons part rest ih =>
    by_cases hrest : rest = []
    · simp [hrest]
    · have hrest' : rest.map (fun part => String.join (part.map text)) ≠ [] := by simpa using hrest
      rw [List.intercalate_cons_of_ne_nil hrest, List.map_cons,
        String.intercalate_cons_of_ne_nil hrest', ← ih]
      simp [String.join_append, String.append_assoc]

end Pieces

namespace Trace

variable {way : List Nat} {combinator : Combinator} {children : List Node} {parts : List Trace}

theorem text_ofGroup : (ofGroup way combinator children parts).text =
    combinator.traceName ++ "(" ++ Text.joinWith ", " (parts.map (·.text)) ++ ") = " ++
      Evidence.verdictText (combinator.join (parts.map (·.verdict))) := by
  have hclose : ") = " = ")" ++ " = " := by decide
  have hparts := join_intercalate (.mark ", ") (parts.map (·.pieces)) Piece.text
  rw [List.map_map] at hparts
  simp only [text, ofGroup, List.map_cons, List.map_append, List.map_nil, String.join_cons,
    String.join_append, String.join_nil, hparts, hclose, Piece.text, String.append_assoc,
    String.append_empty]
  rfl

theorem nodes_ofGroup : (ofGroup way combinator children parts).nodes =
    (way, .group combinator children) :: parts.flatMap (·.nodes) := by
  have hmark : (Piece.mark ", ").node? = none := rfl
  simp [nodes, ofGroup, List.filterMap_cons, filterMap_intercalate hmark, Piece.node?,
    List.flatMap_map]

theorem verdicts_ofGroup : (ofGroup way combinator children parts).verdicts =
    parts.flatMap (·.verdicts) ++ [(way, combinator.join (parts.map (·.verdict)))] := by
  have hmark : (Piece.mark ", ").verdict? = none := rfl
  simp [verdicts, ofGroup, List.filterMap_cons, filterMap_intercalate hmark, Piece.verdict?,
    List.flatMap_map]

end Trace

/-! ## Traces and explanations -/

/-- What a combinator asks of the verdicts on the children of a group. -/
def Combinator.Grants : Combinator → List Bool → Prop
  | .and, verdicts => ∀ v ∈ verdicts, v = true
  | .or, verdicts => ∃ v ∈ verdicts, v = true
  | .unknown, _ => False

theorem Combinator.join_iff_grants {combinator : Combinator} {verdicts : List Bool} :
    combinator.join verdicts = true ↔ combinator.Grants verdicts := by
  cases combinator with
  | and => simp [join, Grants]
  | or => simp [join, Grants]
  | unknown => simp [join, Grants]

namespace Evidence

variable {e : Evidence} {way : List Nat}

theorem explainEach_eq (e : Evidence) (nodes : List Node) :
    e.explainEach nodes = nodes.map e.explain := by
  induction nodes with
  | nil => rfl
  | cons n rest ih => rw [explainEach, ih, List.map_cons]

/-- What nodes and their traces have in common, lists of nodes and their traces have in common. -/
theorem map_traceFrom {α : Type} {number : Nat} {nodes : List Node} {f : Trace → α} {g : Node → α}
    (each : ∀ n ∈ nodes, ∀ way, f (e.trace way n) = g n) :
    (e.traceFrom way number nodes).map f = nodes.map g := by
  induction nodes generalizing number with
  | nil => rfl
  | cons n rest ih =>
    have hrest : (e.traceFrom way (number + 1) rest).map f = rest.map g :=
      ih fun m hm => each m (List.mem_cons_of_mem _ hm)
    rw [traceFrom, List.map_cons, List.map_cons, each n List.mem_cons_self, hrest]

/-- A trace ends with the verdict that the evidence gives. -/
theorem verdict_trace (n : Node) (way : List Nat) : (e.trace way n).verdict = e.meets n := by
  induction n generalizing way with
  | leaf l => rfl
  | group combinator children ih =>
    have hchildren : (e.traceFrom way 0 children).map (·.verdict) = children.map e.meets :=
      map_traceFrom ih
    rw [trace, meets, meetsEach_eq, ← hchildren]
    rfl

/-- The explanation of a node is the text of its trace. -/
theorem text_trace (n : Node) (way : List Nat) : (e.trace way n).text = e.explain n := by
  induction n generalizing way with
  | leaf l =>
    have hpieces : (e.trace way (.leaf l)).text =
        String.join [e.words l, " = " ++ verdictText (e.meetsLeaf l)] := rfl
    rw [hpieces, explain, explainLeaf, words]
    simp [String.append_assoc]
  | group combinator children ih =>
    have htexts : (e.traceFrom way 0 children).map (·.text) = children.map e.explain :=
      map_traceFrom ih
    have hverdicts : (e.traceFrom way 0 children).map (·.verdict) = children.map e.meets :=
      map_traceFrom fun n _ way => verdict_trace n way
    rw [trace, Trace.text_ofGroup, htexts, hverdicts, explain, meets, explainEach_eq, meetsEach_eq]

/-- A trace shows the nodes that a walk visits, in the order of the walk. -/
theorem nodes_trace (n : Node) (way : List Nat) : (e.trace way n).nodes = n.walk way := by
  induction n generalizing way with
  | leaf l => rfl
  | group combinator children ih =>
    have hchildren : ∀ number, (e.traceFrom way number children).flatMap (·.nodes) =
        Node.walkFrom way number children := by
      induction children with
      | nil =>
        intro number
        rfl
      | cons n rest ihrest =>
        intro number
        rw [traceFrom, Node.walkFrom, List.flatMap_cons, ih n List.mem_cons_self,
          ihrest fun m hm => ih m (List.mem_cons_of_mem _ hm)]
    rw [trace, Trace.nodes_ofGroup, hchildren, Node.walk]

/-- A trace shows one verdict of each node that a walk visits, and it is that of the evidence. -/
theorem verdicts_trace (n : Node) (way : List Nat) :
    (e.trace way n).verdicts.Perm ((n.walk way).map fun p => (p.1, e.meets p.2)) := by
  induction n generalizing way with
  | leaf l => exact List.Perm.refl _
  | group combinator children ih =>
    have hchildren : ∀ number, ((e.traceFrom way number children).flatMap (·.verdicts)).Perm
        ((Node.walkFrom way number children).map fun p => (p.1, e.meets p.2)) := by
      induction children with
      | nil =>
        intro number
        exact List.Perm.refl _
      | cons n rest ihrest =>
        intro number
        rw [traceFrom, Node.walkFrom, List.flatMap_cons, List.map_append]
        exact (ih n List.mem_cons_self _).append
          (ihrest (fun m hm => ih m (List.mem_cons_of_mem _ hm)) (number + 1))
    have hverdict : combinator.join ((e.traceFrom way 0 children).map (·.verdict)) =
        e.meets (.group combinator children) :=
      verdict_trace (.group combinator children) way
    -- the verdict of a group comes after those of its children, and the group before them
    rw [trace, Trace.verdicts_ofGroup, hverdict, Node.walk, List.map_cons]
    exact (List.perm_append_singleton _ _).trans ((hchildren 0).cons _)

/-- The verdict that a trace shows of a node is that of the evidence. -/
theorem mem_verdicts_trace {n m : Node} (leads : n.at? way = some m) :
    (way, e.meets m) ∈ (e.trace [] n).verdicts := by
  have hvisited : (way, m) ∈ n.walk [] := Node.mem_walk.2 ⟨way, rfl, leads⟩
  exact (verdicts_trace n []).mem_iff.2 (List.mem_map_of_mem hvisited)

/-- A trace ends with the verdict of its node. -/
theorem pieces_trace_getLast? (n : Node) (way : List Nat) :
    (e.trace way n).pieces.getLast? = some (.verdict way (e.meets n)) := by
  rw [← verdict_trace n way]
  cases n with
  | leaf l => rfl
  | group combinator children =>
    rw [trace, Trace.ofGroup]
    simp [List.getLast?_cons, List.getLast?_append]

end Evidence

/-- An explanation is the text of the trace that one pass over the condition makes.  The trace shows
every node once, in the order of the ways to them, and one verdict of each.  Of a leaf it shows the
leaf's own verdict, and of a group what its combinator makes of the verdicts shown of its children.
What it shows last is the verdict on the condition. -/
theorem explanations_add_up (t : Tree) (definitions : List Definition) (logs : List Log) :
    let e := Evidence.of definitions logs
    let trace := e.trace [] t.root
    t.explain definitions logs = trace.text ∧
    (∀ way n, (way, n) ∈ trace.nodes ↔ t.root.at? way = some n) ∧
    trace.nodes.Pairwise (fun a b => a.1 < b.1) ∧
    (trace.verdicts.map (·.1)).Perm (trace.nodes.map (·.1)) ∧
    (∀ way l, t.root.at? way = some (.leaf l) → (way, e.meetsLeaf l) ∈ trace.verdicts) ∧
    (∀ way combinator children, t.root.at? way = some (.group combinator children) →
      ∃ shown : List Bool, shown.length = children.length ∧
        (∀ i v, shown[i]? = some v → (way ++ [i], v) ∈ trace.verdicts) ∧
        ∃ v, (way, v) ∈ trace.verdicts ∧ (v = true ↔ combinator.Grants shown)) ∧
    trace.pieces.getLast? = some (.verdict [] (t.evaluate definitions logs)) := by
  intro e trace
  have hnodes : trace.nodes = t.root.walk [] := e.nodes_trace t.root []
  refine ⟨(e.text_trace t.root []).symm, ?_, ?_, ?_, ?_, ?_, e.pieces_trace_getLast? t.root []⟩
  · intro way n
    rw [hnodes, Node.mem_walk]
    simp
  · rw [hnodes]
    exact Node.walk_pairwise t.root []
  · have hways := (e.verdicts_trace t.root []).map (·.1)
    rwa [List.map_map, ← hnodes] at hways
  · intro way l leads
    exact Evidence.mem_verdicts_trace leads
  · intro way combinator children leads
    refine ⟨children.map e.meets, List.length_map _, ?_, ?_⟩
    · intro i v hshown
      rw [List.getElem?_map, Option.map_eq_some_iff] at hshown
      rcases hshown with ⟨n, hn, rfl⟩
      have hchild : t.root.at? (way ++ [i]) = some n := by
        rw [Node.at?_append leads]
        exact Node.at?_group.2 ⟨n, hn, rfl⟩
      exact Evidence.mem_verdicts_trace hchild
    · refine ⟨e.meets (.group combinator children), Evidence.mem_verdicts_trace leads, ?_⟩
      rw [Evidence.meets, Evidence.meetsEach_eq, Combinator.join_iff_grants]

/-- A visit elsewhere, and one of two things more, of which nobody knows the first. -/
def Sample.roaming : Tree :=
  ⟨.and, [.leaf ⟨"d1", .neq, .text "home"⟩,
    .group .or [.leaf ⟨"d9", .exists, .text ""⟩, .leaf ⟨"d1", .eq, .text "shop"⟩]]⟩

/-- Nobody visited the shop, and so neither child of the disjunction is shown to hold. -/
theorem explanations_add_up_for_roaming :
    let logs := [Sample.visit "l1" "ann" "blog"]
    let verdicts := ((Evidence.of [Sample.visits] logs).trace [] Sample.roaming.root).verdicts
    Sample.roaming.explain [Sample.visits] logs = "AND(visits neq 'home' = true, " ++
      "OR(<unknown condition 'd9'> exists '' = false, visits eq 'shop' = false) = false) = false" ∧
    verdicts = [([0], true), ([1, 0], false), ([1, 1], false), ([1], false), ([], false)] ∧
    ∃ shown : List Bool, shown.length = 2 ∧
      (∀ i v, shown[i]? = some v → ([1, i], v) ∈ verdicts) ∧
      ∃ v, ([1], v) ∈ verdicts ∧ (v = true ↔ Combinator.or.Grants shown) := by
  intro logs verdicts
  rcases explanations_add_up Sample.roaming [Sample.visits] logs with ⟨_, _, _, _, _, hgroups, _⟩
  exact ⟨by decide +kernel, by decide +kernel, hgroups [1] _ _ rfl⟩

end EventRewards
