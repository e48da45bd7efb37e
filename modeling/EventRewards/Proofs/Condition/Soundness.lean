import EventRewards.Condition.Check
import EventRewards.Proofs.Condition.Verdicts
import Mathlib.Data.List.Induction

/-!
# Sound conditions

A node is sound under a look-up of definitions when every group in it has a combinator and children
and every leaf a known operator, an id that is found, and an operand that the type of the definition
found accepts.  `Node.check` finds no error exactly in sound nodes.  Soundness is kept when more
definitions are found, and shared by trees that are the same up to the sign of zeros.
-/

namespace EventRewards

/-! ## Sound nodes -/

/-- A leaf in which a check finds no error. -/
structure Leaf.Sound (lookup : String → Option Definition) (l : Leaf) : Prop where
  operator : l.operator ≠ .unknown
  named : l.conditionId ≠ ""
  resolves : ∃ d, lookup l.conditionId = some d ∧ d.valueType.accepts l.operand = true

namespace Node

/-- A node all of whose groups and leaves are as a check wants them. -/
inductive Sound (lookup : String → Option Definition) : Node → Prop where
  | leaf {l : Leaf} (sound : l.Sound lookup) : Sound lookup (.leaf l)
  | group {combinator : Combinator} {children : List Node} (combines : combinator ≠ .unknown)
      (inhabited : children ≠ []) (sound : ∀ n ∈ children, Sound lookup n) :
      Sound lookup (.group combinator children)

namespace Sound

variable {lookup lookup' : String → Option Definition} {n : Node}

theorem leaves_sound (h : n.Sound lookup) : ∀ l ∈ n.leaves, l.Sound lookup := by
  induction h with
  | leaf sound =>
    intro l hl
    rw [leaves, List.mem_singleton] at hl
    exact hl ▸ sound
  | group _ _ _ ih =>
    intro l hl
    rcases mem_leaves_group.1 hl with ⟨n, hn, hln⟩
    exact ih n hn l hln

/-- A sound node is never without leaves: its groups have children all the way down. -/
theorem exists_leaf (h : n.Sound lookup) : ∃ l, l ∈ n.leaves := by
  induction h with
  | @leaf l _ => exact ⟨l, List.mem_singleton.2 rfl⟩
  | group _ inhabited _ ih =>
    rcases List.exists_mem_of_ne_nil _ inhabited with ⟨n, hn⟩
    rcases ih n hn with ⟨l, hl⟩
    exact ⟨l, mem_leaves_group.2 ⟨n, hn, hl⟩⟩

/-- Soundness asks only for what is found under the ids of the leaves. -/
theorem of_agree (h : n.Sound lookup)
    (agree : ∀ l ∈ n.leaves, ∀ d, lookup l.conditionId = some d →
      lookup' l.conditionId = some d) : n.Sound lookup' := by
  induction h with
  | @leaf l sound =>
    rcases sound.resolves with ⟨d, hfound, haccepts⟩
    have hfound' := agree l (List.mem_singleton.2 rfl) d hfound
    exact .leaf ⟨sound.operator, sound.named, d, hfound', haccepts⟩
  | group combines inhabited _ ih =>
    refine .group combines inhabited ?_
    intro n hn
    refine ih n hn ?_
    intro l hl
    exact agree l (mem_leaves_group.2 ⟨n, hn, hl⟩)

end Sound
end Node

section Trees

variable {lookup : String → Option Definition} {t : Tree}

/-- Each id that a sound condition refers to is found. -/
theorem Tree.exists_of_mem_conditionIds (sound : t.root.Sound lookup) {id : String}
    (hid : id ∈ t.conditionIds) : ∃ d, lookup id = some d := by
  rcases mem_conditionIds.1 hid with ⟨l, hl, rfl⟩
  rcases (sound.leaves_sound l hl).resolves with ⟨d, hfound, _⟩
  exact ⟨d, hfound⟩

theorem Tree.conditionIds_ne_nil (sound : t.root.Sound lookup) : t.conditionIds ≠ [] := by
  rcases sound.exists_leaf with ⟨l, hl⟩
  exact List.ne_nil_of_mem (mem_conditionIds.2 ⟨l, hl, rfl⟩)

end Trees

/-! ## Ids that one definition has -/

namespace DefinitionIndex

theorem isAmbiguous_insert (index : DefinitionIndex) (d : Definition) (id : String) :
    (index.insert d).isAmbiguous id = true ↔
      index.isAmbiguous id = true ∨ d.id = id ∧ (index.get? id).isSome = true := by
  rw [insert]
  cases hfirst : index.first.lookup d.id with
  | some d' =>
    by_cases h : d.id = id
    · subst h
      simp [isAmbiguous, get?, hfirst]
    · simp [isAmbiguous, h, Ne.symm h]
  | none =>
    by_cases h : d.id = id
    · subst h
      simp [isAmbiguous, get?, hfirst]
    · simp [isAmbiguous, h]

/-- An id is ambiguous when two definitions of the list have it. -/
theorem isAmbiguous_ofList (definitions : List Definition) (id : String) :
    (ofList definitions).isAmbiguous id = true ↔ 2 ≤ (definitions.filter (·.id == id)).length := by
  induction definitions using List.reverseRecOn with
  | nil => simp [ofList, empty, isAmbiguous]
  | append_singleton before d ih =>
    have hfold : ofList (before ++ [d]) = (ofList before).insert d := by
      simp [ofList, List.foldl_append]
    -- the last definition makes an id ambiguous if one before it has the id too
    rw [hfold, isAmbiguous_insert, ih, get?_ofList, List.filter_append, List.length_append]
    by_cases h : d.id = id
    · have hsome : (before.find? (·.id == id)).isSome = true ↔
          1 ≤ (before.filter (·.id == id)).length := by
        rw [List.find?_isSome, Nat.one_le_iff_ne_zero, ← Nat.pos_iff_ne_zero,
          List.length_pos_iff_exists_mem]
        simp [List.mem_filter]
      simp only [hsome, h, List.filter_cons, beq_self_eq_true, if_true, List.filter_nil,
        List.length_singleton, true_and]
      omega
    · simp [h]

/-- A leaf's id is accepted when it is not empty and one definition alone has it. -/
theorem resolve_eq_ok {definitions : List Definition} {id : String} {d : Definition} :
    (ofList definitions).resolve id = .ok d ↔
      id ≠ "" ∧ definitions.filter (·.id == id) = [d] := by
  rw [resolve]
  by_cases hempty : id.isEmpty = true
  · have hid : id = "" := String.isEmpty_iff.1 hempty
    simp [hid]
  · have hid : id ≠ "" := fun h => hempty (String.isEmpty_iff.2 h)
    by_cases hambiguous : (ofList definitions).isAmbiguous id = true
    · have htwo := (isAmbiguous_ofList definitions id).1 hambiguous
      have hmany : definitions.filter (·.id == id) ≠ [d] := by
        intro h
        rw [h] at htwo
        simp at htwo
      simp [hempty, hambiguous, hmany]
    -- at most one definition has the id: the first is the only one
    · have hone : ¬2 ≤ (definitions.filter (·.id == id)).length := fun h =>
        hambiguous ((isAmbiguous_ofList definitions id).2 h)
      rw [if_neg hempty, if_neg hambiguous, get?_ofList, ← List.head?_filter]
      cases hfilter : definitions.filter (·.id == id) with
      | nil => simp
      | cons d' rest =>
        cases rest with
        | nil => simp [hid]
        | cons d'' rest => simp [hfilter] at hone

end DefinitionIndex

/-- The definition with an id, if one alone has it. -/
def soleDefinition? (definitions : List Definition) (id : String) : Option Definition :=
  match definitions.filter (·.id == id) with
  | [d] => some d
  | _ => none

/-- Where ids are distinct, the definition found under an id is the only one that has it. -/
theorem soleDefinition?_eq_find? {definitions : List Definition}
    (distinct : (definitions.map (·.id)).Nodup) (id : String) :
    soleDefinition? definitions id = definitions.find? (·.id == id) := by
  rw [soleDefinition?, Keyed.filter_eq_toList_find? distinct]
  cases definitions.find? (·.id == id) with
  | none => rfl
  | some d => rfl

theorem soleDefinition?_eq_some {definitions : List Definition} {id : String} {d : Definition} :
    soleDefinition? definitions id = some d ↔ definitions.filter (·.id == id) = [d] := by
  rw [soleDefinition?]
  cases definitions.filter (·.id == id) with
  | nil => simp
  | cons d' rest =>
    cases rest with
    | nil => simp
    | cons d'' rest => simp

/-! ## Reports -/

namespace Report

/-- Whether a report is marked valid exactly where it holds no errors. -/
def Consistent (r : Report) : Prop :=
  r.isValid = true ↔ r.errors = []

@[simp]
theorem errors_append (a b : Report) : (a ++ b).errors = a.errors ++ b.errors :=
  rfl

@[simp]
theorem warnings_append (a b : Report) : (a ++ b).warnings = a.warnings ++ b.warnings :=
  rfl

@[simp]
theorem isValid_append (a b : Report) : (a ++ b).isValid = (a.isValid && b.isValid) :=
  rfl

theorem mem_errors_ite_flaw {p : Prop} [Decidable p] {place : Place} {what : Flaw}
    {f : Finding Flaw} :
    f ∈ (if p then flaw place what else empty : Report).errors ↔ p ∧ f = ⟨place, what⟩ := by
  by_cases h : p
  · simp [h, flaw]
  · simp [h, empty]

theorem errors_ite_flaw_eq_nil {p : Prop} [Decidable p] {place : Place} {what : Flaw} :
    (if p then flaw place what else empty : Report).errors = [] ↔ ¬p := by
  rw [List.eq_nil_iff_forall_not_mem]
  simp [mem_errors_ite_flaw]

theorem flaw_consistent (place : Place) (what : Flaw) : (flaw place what).Consistent := by
  simp [Consistent, flaw]

/-- What holds of single findings, and of reports put together when it holds of each. -/
structure Additive (P : Report → Prop) : Prop where
  empty : P empty
  flaw : ∀ way part what, P (flaw (.part way part) what)
  caution : ∀ place what, P (caution place what)
  append : ∀ {a b}, P a → P b → P (a ++ b)

theorem consistent_additive : Additive Consistent where
  empty := by simp [Consistent, Report.empty]
  flaw way part what := flaw_consistent (.part way part) what
  caution place what := by simp [Consistent, Report.caution]
  append := by
    intro a b ha hb
    rw [Consistent] at ha hb ⊢
    rw [isValid_append, errors_append, Bool.and_eq_true, List.append_eq_nil_iff, ha, hb]

namespace Additive

variable {P : Report → Prop} (h : Additive P)
include h

theorem ite_flaw {p : Prop} [Decidable p] (way : List Nat) (part : NodePart) (what : Flaw) :
    P (if p then .flaw (.part way part) what else .empty) := by
  by_cases hp : p
  · simpa only [if_pos hp] using h.flaw way part what
  · simpa only [if_neg hp] using h.empty

theorem leaf_check (l : Leaf) (way : List Nat) (index : DefinitionIndex) :
    P (l.check way index) := by
  have hreference : P (l.checkReference way index) := by
    rw [Leaf.checkReference]
    cases index.resolve l.conditionId with
    | error flaw => exact h.flaw way _ flaw
    | ok d =>
      dsimp only
      split
      · cases l.caution? d.valueType with
        | none => exact h.empty
        | some caution => exact h.caution _ caution
      · exact h.flaw way _ _
  exact h.append (h.ite_flaw way _ _) hreference

/-- The reports of children checked one after the other are put together. -/
theorem node_checkFrom {index : DefinitionIndex} {way : List Nat} {number : Nat}
    {nodes : List Node} (each : ∀ n ∈ nodes, ∀ way, P (n.check index way)) :
    P (Node.checkFrom index way number nodes) := by
  induction nodes generalizing number with
  | nil => exact h.empty
  | cons n rest ih =>
    have hfirst : P (n.check index (way ++ [number])) := each n List.mem_cons_self _
    have hrest : P (Node.checkFrom index way (number + 1) rest) :=
      ih fun m hm => each m (List.mem_cons_of_mem _ hm)
    exact h.append hfirst hrest

theorem node_check (n : Node) (index : DefinitionIndex) (way : List Nat) :
    P (n.check index way) := by
  induction n generalizing way with
  | leaf l => exact h.leaf_check l way index
  | group combinator children ih =>
    have hgroup : P (Node.checkGroup combinator children way) :=
      h.append (h.ite_flaw way _ _) (h.ite_flaw way _ _)
    exact h.append hgroup (h.node_checkFrom ih)

theorem tree_check (t : Tree) (definitions : List Definition) : P (t.check definitions) :=
  h.node_check t.root _ _

end Additive

end Report

theorem Tree.check_consistent (t : Tree) (definitions : List Definition) :
    (t.check definitions).Consistent :=
  Report.consistent_additive.tree_check t definitions

/-! ## Checks -/

section Checks

variable (definitions : List Definition)

/-- A check of a leaf finds no error exactly when the leaf is sound. -/
theorem Leaf.check_errors_eq_nil (l : Leaf) (way : List Nat) :
    (l.check way (.ofList definitions)).errors = [] ↔ l.Sound (soleDefinition? definitions) := by
  have hoperator : (l.checkOperator way).errors = [] ↔ l.operator ≠ .unknown :=
    Report.errors_ite_flaw_eq_nil
  have hreference : (l.checkReference way (.ofList definitions)).errors = [] ↔
      ∃ d, (DefinitionIndex.ofList definitions).resolve l.conditionId = .ok d ∧
        d.valueType.accepts l.operand = true := by
    rw [checkReference]
    cases (DefinitionIndex.ofList definitions).resolve l.conditionId with
    | error flaw => simp [Report.flaw]
    | ok d =>
      by_cases h : d.valueType.accepts l.operand = true
      · -- an accepted operand is at most cautioned about
        cases hcaution : l.caution? d.valueType with
        | none => simp [h, hcaution, Report.empty]
        | some caution => simp [h, hcaution, Report.caution]
      · simp [h, Report.flaw]
  rw [check, Report.errors_append, List.append_eq_nil_iff, hoperator, hreference]
  constructor
  · rintro ⟨hknown, d, hresolve, haccepts⟩
    have hsole := DefinitionIndex.resolve_eq_ok.1 hresolve
    exact ⟨hknown, hsole.1, d, soleDefinition?_eq_some.2 hsole.2, haccepts⟩
  · rintro ⟨hknown, hnamed, d, hsole, haccepts⟩
    exact ⟨hknown, d,
      DefinitionIndex.resolve_eq_ok.2 ⟨hnamed, soleDefinition?_eq_some.1 hsole⟩, haccepts⟩

namespace Node

/-- Children are checked one after the other, each on its own way. -/
theorem checkFrom_errors_eq_nil {index : DefinitionIndex} {way : List Nat} {number : Nat}
    {nodes : List Node} {P : Node → Prop}
    (each : ∀ n ∈ nodes, ∀ way, (n.check index way).errors = [] ↔ P n) :
    (checkFrom index way number nodes).errors = [] ↔ ∀ n ∈ nodes, P n := by
  induction nodes generalizing number with
  | nil => simp [checkFrom, Report.empty]
  | cons n rest ih =>
    have hrest : (checkFrom index way (number + 1) rest).errors = [] ↔ ∀ m ∈ rest, P m :=
      ih fun m hm => each m (List.mem_cons_of_mem _ hm)
    rw [checkFrom, Report.errors_append, List.append_eq_nil_iff, each n List.mem_cons_self, hrest,
      List.forall_mem_cons]

theorem checkGroup_errors_eq_nil {combinator : Combinator} {children : List Node}
    {way : List Nat} : (checkGroup combinator children way).errors = [] ↔
      combinator ≠ .unknown ∧ children ≠ [] := by
  rw [checkGroup, Report.errors_append, List.append_eq_nil_iff, Report.errors_ite_flaw_eq_nil,
    Report.errors_ite_flaw_eq_nil, List.isEmpty_iff]

/-- A check finds no error exactly in sound nodes, whatever way leads to them. -/
theorem check_errors_eq_nil (n : Node) (way : List Nat) :
    (n.check (.ofList definitions) way).errors = [] ↔
      n.Sound (soleDefinition? definitions) := by
  induction n generalizing way with
  | leaf l =>
    rw [check, Leaf.check_errors_eq_nil]
    constructor
    · intro h
      exact .leaf h
    · rintro (⟨h⟩ | _)
      exact h
  | group combinator children ih =>
    rw [check, Report.errors_append, List.append_eq_nil_iff, checkGroup_errors_eq_nil,
      checkFrom_errors_eq_nil ih]
    constructor
    · rintro ⟨⟨hcombinator, hchildren⟩, hsound⟩
      exact .group hcombinator hchildren hsound
    · rintro (_ | ⟨hcombinator, hchildren, hsound⟩)
      exact ⟨⟨hcombinator, hchildren⟩, hsound⟩

end Node

theorem Tree.check_isValid_iff (t : Tree) :
    (t.check definitions).isValid = true ↔ t.root.Sound (soleDefinition? definitions) := by
  have hconsistent : (t.check definitions).isValid = true ↔ (t.check definitions).errors = [] :=
    t.check_consistent definitions
  rw [hconsistent, Tree.check, Node.check_errors_eq_nil]

end Checks

/-! ## Trees that are the same -/

/-- Literals that are the same are accepted by the same types. -/
theorem Literal.accepts_eq_of_same {a b : Literal} (same : (a == b) = true) (type : ValueType) :
    type.accepts a = type.accepts b := by
  change a.same b = true at same
  have hkind : a.kind = b.kind ∧ a.isDateLike = b.isDateLike := by
    cases a <;> cases b <;> simp_all [Literal.same, kind, isDateLike]
  cases type with
  | text => simp [ValueType.accepts, hkind.1]
  | number => simp [ValueType.accepts, hkind.1]
  | date => exact hkind.2

theorem Leaf.Sound.of_same {lookup : String → Option Definition} {a b : Leaf}
    (h : b.Sound lookup) (same : (a == b) = true) : a.Sound lookup := by
  have hparts : (a.conditionId = b.conditionId ∧ a.operator = b.operator) ∧
      (a.operand == b.operand) = true := by
    simpa [BEq.beq] using same
  rcases hparts with ⟨⟨hid, hoperator⟩, hoperand⟩
  rcases h.resolves with ⟨d, hfound, haccepts⟩
  refine ⟨hoperator ▸ h.operator, hid ▸ h.named, d, hid ▸ hfound, ?_⟩
  rw [Literal.accepts_eq_of_same hoperand]
  exact haccepts

namespace Node

/-- Lists of nodes that are the same have the same members, up to the sign of zeros. -/
theorem exists_same_of_sameAll {as bs : List Node} (same : sameAll as bs = true) :
    (as = [] → bs = []) ∧ ∀ a ∈ as, ∃ b ∈ bs, a.same b = true := by
  induction as generalizing bs with
  | nil =>
    cases bs with
    | nil => exact ⟨id, by simp⟩
    | cons b rest => simp [sameAll] at same
  | cons a as ih =>
    cases bs with
    | nil => simp [sameAll] at same
    | cons b rest =>
      rw [sameAll, Bool.and_eq_true] at same
      refine ⟨by simp, ?_⟩
      intro c hc
      rcases List.mem_cons.1 hc with rfl | hc
      · exact ⟨b, List.mem_cons_self, same.1⟩
      · rcases (ih same.2).2 c hc with ⟨d, hd, hsame⟩
        exact ⟨d, List.mem_cons_of_mem _ hd, hsame⟩

/-- The sign of a zero makes no difference to soundness. -/
theorem Sound.of_same {lookup : String → Option Definition} {a b : Node}
    (h : b.Sound lookup) (same : a.same b = true) : a.Sound lookup := by
  induction h generalizing a with
  | leaf sound =>
    cases a with
    | leaf l => exact .leaf (sound.of_same same)
    | group _ _ => simp [Node.same] at same
  | group combines inhabited _ ih =>
    cases a with
    | leaf _ => simp [Node.same] at same
    | group combinator children =>
      rw [Node.same, Bool.and_eq_true] at same
      have heach := exists_same_of_sameAll same.2
      have hcombinator := eq_of_beq same.1
      refine .group (hcombinator ▸ combines) (fun hnil => inhabited (heach.1 hnil)) ?_
      intro n hn
      rcases heach.2 n hn with ⟨m, hm, hsame⟩
      exact ih m hm hsame

end Node
end EventRewards
