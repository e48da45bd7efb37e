import EventRewards.Condition.Check
import EventRewards.Proofs.Condition.Nodes
import EventRewards.Proofs.Number.Digits
import EventRewards.Proofs.Text.Splitting

/-!
# Places in a tree

The way to a node lists the numbers of the children to take from the root on.  A walk visits every node
once, a group before its children and the children from left to right, and the order in which it does
is the lexicographic order of the ways.  The path of a place is its way and a part written out; it can
be read back, so that no two places in a tree share a path.
-/

namespace EventRewards

/-! ## Ways -/

namespace Node

/-- The node to which a way leads, if it leads to one. -/
def at? : Node → List Nat → Option Node
  | n, [] => some n
  | .leaf _, _ :: _ => none
  | .group _ children, number :: way =>
    match children[number]? with
    | some n => n.at? way
    | none => none

mutual
/-- The nodes of a node to which a way leads, each with its own way, groups before their children. -/
def walk (way : List Nat) : Node → List (List Nat × Node)
  | .leaf l => [(way, .leaf l)]
  | .group combinator children => (way, .group combinator children) :: walkFrom way 0 children

def walkFrom (way : List Nat) (number : Nat) : List Node → List (List Nat × Node)
  | [] => []
  | node :: rest => walk (way ++ [number]) node ++ walkFrom way (number + 1) rest
end

theorem at?_group {combinator : Combinator} {children : List Node} {number : Nat} {way : List Nat}
    {m : Node} : (group combinator children).at? (number :: way) = some m ↔
      ∃ n, children[number]? = some n ∧ n.at? way = some m := by
  rw [at?]
  cases children[number]? with
  | none => simp
  | some n => simp

/-- A way that goes on from a node leads where the rest of it leads from there. -/
theorem at?_append {n m : Node} {way way' : List Nat} (leads : n.at? way = some m) :
    n.at? (way ++ way') = m.at? way' := by
  induction way generalizing n with
  | nil =>
    cases Option.some.inj leads
    rfl
  | cons number way ih =>
    cases n with
    | leaf l => cases leads
    | group combinator children =>
      rcases at?_group.1 leads with ⟨n, hn, hat⟩
      rw [List.cons_append, at?, hn]
      exact ih hat

theorem exists_at?_of_mem_leaves {n : Node} {l : Leaf} (h : l ∈ n.leaves) :
    ∃ way, n.at? way = some (.leaf l) := by
  induction n with
  | leaf l' =>
    rw [leaves, List.mem_singleton] at h
    rw [h]
    exact ⟨[], rfl⟩
  | group combinator children ih =>
    rcases mem_leaves_group.1 h with ⟨n, hn, hl⟩
    rcases ih n hn hl with ⟨way, hat⟩
    rcases List.getElem?_of_mem hn with ⟨number, hnumber⟩
    exact ⟨number :: way, at?_group.2 ⟨n, hnumber, hat⟩⟩

theorem mem_walkFrom {way w : List Nat} {number : Nat} {nodes : List Node} {m : Node}
    (each : ∀ n ∈ nodes, ∀ way, (w, m) ∈ n.walk way ↔ ∃ v, w = way ++ v ∧ n.at? v = some m) :
    (w, m) ∈ walkFrom way number nodes ↔
      ∃ i v, w = way ++ (number + i) :: v ∧ ∃ n, nodes[i]? = some n ∧ n.at? v = some m := by
  induction nodes generalizing number with
  | nil => simp [walkFrom]
  | cons n rest ih =>
    have hrest : (w, m) ∈ walkFrom way (number + 1) rest ↔ _ :=
      ih fun k hk => each k (List.mem_cons_of_mem _ hk)
    rw [walkFrom, List.mem_append, each n List.mem_cons_self, hrest]
    constructor
    · rintro (⟨v, rfl, hat⟩ | ⟨i, v, rfl, hat⟩)
      · exact ⟨0, v, by simp, n, rfl, hat⟩
      · exact ⟨i + 1, v, by simp [Nat.add_assoc, Nat.add_comm 1], hat⟩
    · rintro ⟨i, v, rfl, k, hk, hat⟩
      cases i with
      | zero =>
        have hfirst : n = k := Option.some.inj hk
        exact .inl ⟨v, by simp, hfirst ▸ hat⟩
      | succ i => exact .inr ⟨i, v, by simp [Nat.add_assoc, Nat.add_comm 1], k, hk, hat⟩

/-- A walk visits just the nodes to which ways lead. -/
theorem mem_walk {n m : Node} {way w : List Nat} :
    (w, m) ∈ n.walk way ↔ ∃ v, w = way ++ v ∧ n.at? v = some m := by
  induction n generalizing way with
  | leaf l =>
    rw [walk, List.mem_singleton, Prod.mk.injEq]
    constructor
    · rintro ⟨rfl, rfl⟩
      exact ⟨[], (List.append_nil w).symm, rfl⟩
    · rintro ⟨v, rfl, hat⟩
      cases v with
      | nil => exact ⟨List.append_nil way, (Option.some.inj hat).symm⟩
      | cons number v => cases hat
  | group combinator children ih =>
    rw [walk, List.mem_cons, Prod.mk.injEq, mem_walkFrom fun n hn way => ih n hn]
    constructor
    · rintro (⟨rfl, rfl⟩ | ⟨i, v, rfl, hat⟩)
      · exact ⟨[], (List.append_nil w).symm, rfl⟩
      · exact ⟨i :: v, by rw [Nat.zero_add], at?_group.2 hat⟩
    · rintro ⟨v, rfl, hat⟩
      cases v with
      | nil => exact .inl ⟨List.append_nil way, (Option.some.inj hat).symm⟩
      | cons number v => exact .inr ⟨number, v, by rw [Nat.zero_add], at?_group.1 hat⟩

/-- A walk goes through the ways in their order: what lies below a node comes after it and before what
lies to its right. -/
theorem walk_pairwise (n : Node) (way : List Nat) :
    (n.walk way).Pairwise fun a b => a.1 < b.1 := by
  induction n generalizing way with
  | leaf l => exact List.pairwise_singleton _ _
  | group combinator children ih =>
    have hfrom : ∀ number, (walkFrom way number children).Pairwise fun a b => a.1 < b.1 := by
      induction children with
      | nil =>
        intro number
        exact List.Pairwise.nil
      | cons n rest ihrest =>
        intro number
        rw [walkFrom, List.pairwise_append]
        refine ⟨ih n List.mem_cons_self _,
          ihrest (fun k hk => ih k (List.mem_cons_of_mem _ hk)) (number + 1), ?_⟩
        rintro ⟨w, m⟩ hw ⟨w', m'⟩ hw'
        rcases mem_walk.1 hw with ⟨v, rfl, _⟩
        rcases (mem_walkFrom fun _ _ _ => mem_walk).1 hw' with ⟨i, v', rfl, _⟩
        rw [List.append_assoc]
        exact List.append_left_lt (List.cons_lt_cons_iff.2 (.inl (by omega)))
    refine List.pairwise_cons.2 ⟨?_, hfrom 0⟩
    rintro ⟨w, m⟩ hw
    rcases (mem_walkFrom fun _ _ _ => mem_walk).1 hw with ⟨i, v, rfl, _⟩
    have hlonger : way ++ [] < way ++ (0 + i) :: v := List.append_left_lt (List.nil_lt_cons _ _)
    rwa [List.append_nil] at hlonger

end Node

/-! ## Paths -/

namespace NodePart

/-- The segments of a part's name. -/
def segments : NodePart → List (List Char)
  | .operator => ["operator".toList]
  | .children => ["conditions".toList]
  | .conditionId => ["leftOperand".toList, "id".toList]
  | .operand => ["rightOperand".toList]

/-- The part that some segments name. -/
def ofSegments? (segments : List (List Char)) : Option NodePart :=
  [operator, children, conditionId, operand].find? (·.segments == segments)

/-- Where a part stands among the parts of its node. -/
def position : NodePart → Nat
  | .operator => 0
  | .children => 1
  | .conditionId => 2
  | .operand => 3

theorem operator_position_lt {part : NodePart} (h : part ≠ .operator) :
    operator.position < part.position := by
  cases part with
  | operator => exact absurd rfl h
  | _ => decide

end NodePart

namespace Place

/-- The number of the child to which a segment of a path leads, if it leads to one. -/
def stepNumber? (segment : List Char) : Option Nat :=
  match Text.splitFirst '[' segment with
  | (name, some rest) =>
    let (digits, after) := spanDigits rest
    if name = "conditions".toList ∧ digits ≠ [] ∧ after = [']'] then some (natOfDigits digits)
    else none
  | (_, none) => none

/-- What a path that consists of some segments leads to: steps to children as long as there are any,
and then a part. -/
def ofSegments? : List (List Char) → Option (List Nat × NodePart)
  | [] => none
  | first :: rest =>
    match stepNumber? first with
    | some number => (ofSegments? rest).map fun (way, last) => (number :: way, last)
    | none => (NodePart.ofSegments? (first :: rest)).map fun part => ([], part)

/-- Reads a path: the way that it describes, and the part of the node there. -/
def read? (path : String) : Option (List Nat × NodePart) :=
  ofSegments? (Text.splitOnChar '.' path.toList)

/-- The segment of a path that leads to the child with a number. -/
def stepText (number : Nat) : String :=
  "conditions[" ++ toString number ++ "]"

theorem toList_stepText (number : Nat) :
    (stepText number).toList = "conditions".toList ++ '[' :: (Nat.toDigits 10 number ++ [']']) := by
  have hopen : "conditions[".toList = "conditions".toList ++ ['['] := by decide
  have hclose : "]".toList = [']'] := by decide
  rw [stepText, String.toList_append, String.toList_append, Nat.toString_eq_repr, Nat.toList_repr,
    hopen, hclose]
  simp only [List.append_assoc, List.cons_append, List.nil_append]

theorem toList_text_cons (number : Nat) (way : List Nat) (part : NodePart) :
    (Place.part (number :: way) part).text.toList =
      (stepText number).toList ++ '.' :: (Place.part way part).text.toList := by
  have hrest : way.map (fun i => "conditions[" ++ toString i ++ "]") ++ [part.name] ≠ [] := by simp
  have hdot : ".".toList = ['.'] := by decide
  rw [text, text, Text.joinWith, Text.joinWith, List.map_cons, List.cons_append,
    String.intercalate_cons_of_ne_nil hrest, ← stepText, String.toList_append,
    String.toList_append, hdot, List.append_assoc, List.singleton_append]

theorem dot_notMem_stepText (number : Nat) : '.' ∉ (stepText number).toList := by
  intro h
  rw [toList_stepText, List.mem_append, List.mem_cons, List.mem_append] at h
  rcases h with hname | hopen | hdigits | hclose
  · exact absurd hname (by decide)
  · exact absurd hopen (by decide)
  · exact absurd (isDigit_of_mem_toDigits hdigits) (by decide)
  · exact absurd hclose (by decide)

theorem spanDigits_toDigits (number : Nat) :
    spanDigits (Nat.toDigits 10 number ++ [']']) = (Nat.toDigits 10 number, [']']) :=
  spanDigits_append (fun _ => isDigit_of_mem_toDigits) (by simp [EndsDigits])

theorem stepNumber?_stepText (number : Nat) :
    stepNumber? (stepText number).toList = some number := by
  rw [stepNumber?, toList_stepText, Text.splitFirst_append (by decide)]
  dsimp only
  rw [spanDigits_toDigits]
  dsimp only
  rw [if_pos ⟨rfl, Nat.toDigits_ne_nil, rfl⟩, natOfDigits_toDigits]

/-- The path of a place leads to it. -/
theorem read?_text (way : List Nat) (part : NodePart) :
    read? (Place.part way part).text = some (way, part) := by
  rw [read?]
  induction way with
  | nil =>
    cases part with
    | operator => decide +kernel
    | children => decide +kernel
    | conditionId => decide +kernel
    | operand => decide +kernel
  | cons number way ih =>
    rw [toList_text_cons, Text.splitOnChar_append (dot_notMem_stepText number), ofSegments?,
      stepNumber?_stepText, ih]
    rfl

theorem way_eq_of_text_eq {way way' : List Nat} {part part' : NodePart}
    (same : (Place.part way part).text = (Place.part way' part').text) : way = way' := by
  have hread := congrArg read? same
  rw [read?_text, read?_text] at hread
  exact congrArg Prod.fst (Option.some.inj hread)

/-! ## Order -/

/-- Whether a place comes before another: it belongs to a node that a walk visits before, or to a part
before in the same node. -/
inductive Precedes : Place → Place → Prop where
  | node {way way' : List Nat} {part part' : NodePart} (before : way < way') :
      Precedes (.part way part) (.part way' part')
  | part {way : List Nat} {part part' : NodePart} (before : part.position < part'.position) :
      Precedes (.part way part) (.part way part')

theorem Precedes.text_ne {a b : Place} (h : a.Precedes b) : a.text ≠ b.text := by
  intro heq
  have hread := congrArg read? heq
  cases h with
  | @node way way' part part' before =>
    rw [read?_text, read?_text] at hread
    cases hread
    exact List.lt_irrefl _ before
  | @part way part part' before =>
    rw [read?_text, read?_text] at hread
    cases hread
    exact Nat.lt_irrefl _ before

/-- Findings whose places are in order have paths of their own. -/
theorem nodup_text_of_pairwise {α : Type} {findings : List (Finding α)}
    (ordered : findings.Pairwise fun f g => f.place.Precedes g.place) :
    (findings.map (·.place.text)).Nodup :=
  List.pairwise_map.2 (ordered.imp Precedes.text_ne)

end Place
end EventRewards
