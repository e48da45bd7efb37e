import EventRewards.Proofs.Condition.Rules

/-!
# What a report tells

A check walks over a tree and puts together what it has to say of one node after the other.  So a report
tells of each broken rule once, at its place and in the order of the tree.
-/

namespace EventRewards

variable {definitions : List Definition}

/-! ## Whole reports -/

namespace Report

/-- Reports put together in their order. -/
def gather (reports : List Report) : Report :=
  reports.foldr (· ++ ·) .empty

theorem empty_append (r : Report) : empty ++ r = r := by
  rcases r with ⟨isValid, errors, warnings⟩
  rfl

theorem append_empty (r : Report) : r ++ empty = r := by
  rcases r with ⟨isValid, errors, warnings⟩
  change Report.mk (isValid && true) (errors ++ []) (warnings ++ []) = _
  rw [Bool.and_true, List.append_nil, List.append_nil]

theorem append_assoc (a b c : Report) : a ++ b ++ c = a ++ (b ++ c) := by
  change Report.mk (a.isValid && b.isValid && c.isValid) (a.errors ++ b.errors ++ c.errors)
    (a.warnings ++ b.warnings ++ c.warnings) = _
  rw [Bool.and_assoc, List.append_assoc, List.append_assoc]
  rfl

theorem gather_append (reports reports' : List Report) :
    gather (reports ++ reports') = gather reports ++ gather reports' := by
  induction reports with
  | nil => exact (empty_append _).symm
  | cons r rest ih =>
    change r ++ gather (rest ++ reports') = r ++ gather rest ++ gather reports'
    rw [ih, append_assoc]

theorem errors_gather (reports : List Report) :
    (gather reports).errors = reports.flatMap (·.errors) := by
  induction reports with
  | nil => rfl
  | cons r rest ih => rw [List.flatMap_cons, ← ih]; rfl

theorem warnings_gather (reports : List Report) :
    (gather reports).warnings = reports.flatMap (·.warnings) := by
  induction reports with
  | nil => rfl
  | cons r rest ih => rw [List.flatMap_cons, ← ih]; rfl

end Report

namespace Node

/-- A check puts together what it says of the nodes that a walk visits. -/
theorem check_eq_gather (n : Node) (index : DefinitionIndex) (way : List Nat) :
    n.check index way = .gather ((n.walk way).map fun p => p.2.checkSelf index p.1) := by
  induction n generalizing way with
  | leaf l => exact (Report.append_empty _).symm
  | group combinator children ih =>
    have hchildren : ∀ number, checkFrom index way number children =
        .gather ((walkFrom way number children).map fun p => p.2.checkSelf index p.1) := by
      induction children with
      | nil =>
        intro number
        rfl
      | cons n rest ihrest =>
        intro number
        rw [checkFrom, walkFrom, List.map_append, Report.gather_append,
          ih n List.mem_cons_self, ihrest fun m hm => ih m (List.mem_cons_of_mem _ hm)]
    rw [check, walk, hchildren]
    rfl

end Node

namespace Tree

variable {t : Tree}

theorem errors_check (t : Tree) (definitions : List Definition) :
    (t.check definitions).errors =
      (t.root.walk []).flatMap fun p => (p.2.checkSelf (.ofList definitions) p.1).errors := by
  rw [check, Node.check_eq_gather, Report.errors_gather, List.flatMap_map]

theorem warnings_check (t : Tree) (definitions : List Definition) :
    (t.check definitions).warnings =
      (t.root.walk []).flatMap fun p => (p.2.checkSelf (.ofList definitions) p.1).warnings := by
  rw [check, Node.check_eq_gather, Report.warnings_gather, List.flatMap_map]

/-- The errors of a report are the flaws by which the nodes of the tree break rules. -/
theorem mem_errors_check {f : Finding Flaw} :
    f ∈ (t.check definitions).errors ↔ ∃ way part n, f.place = .part way part ∧
      t.root.at? way = some n ∧ n.Breaks definitions part f.what := by
  rw [errors_check, List.mem_flatMap]
  constructor
  · rintro ⟨⟨way, n⟩, hvisit, hf⟩
    rcases Node.mem_walk.1 hvisit with ⟨v, rfl, hat⟩
    rcases Node.mem_errors_checkSelf.1 hf with ⟨part, hplace, hbreaks⟩
    exact ⟨way, part, n, hplace, hat, hbreaks⟩
  · rintro ⟨way, part, n, hplace, hat, hbreaks⟩
    exact ⟨(way, n), Node.mem_walk.2 ⟨way, rfl, hat⟩,
      Node.mem_errors_checkSelf.2 ⟨part, hplace, hbreaks⟩⟩

theorem mem_warnings_check {f : Finding Caution} :
    f ∈ (t.check definitions).warnings ↔ ∃ way l, f.place = .part way .operator ∧
      t.root.at? way = some (.leaf l) ∧ l.Cautioned definitions f.what := by
  rw [warnings_check, List.mem_flatMap]
  constructor
  · rintro ⟨⟨way, n⟩, hvisit, hf⟩
    rcases Node.mem_walk.1 hvisit with ⟨v, rfl, hat⟩
    rcases Node.mem_warnings_checkSelf.1 hf with ⟨hplace, l, hleaf, hcautioned⟩
    dsimp only at hleaf
    subst hleaf
    exact ⟨way, l, hplace, hat, hcautioned⟩
  · rintro ⟨way, l, hplace, hat, hcautioned⟩
    exact ⟨(way, .leaf l), Node.mem_walk.2 ⟨way, rfl, hat⟩,
      Node.mem_warnings_checkSelf.2 ⟨hplace, l, rfl, hcautioned⟩⟩

theorem errors_check_pairwise (t : Tree) (definitions : List Definition) :
    (t.check definitions).errors.Pairwise fun f g => f.place.Precedes g.place := by
  rw [errors_check, List.pairwise_flatMap]
  refine ⟨fun p _ => p.2.errors_checkSelf_pairwise p.1, (t.root.walk_pairwise []).imp ?_⟩
  rintro ⟨way, n⟩ ⟨way', n'⟩ hbefore f hf g hg
  rcases Node.mem_errors_checkSelf.1 hf with ⟨part, hplace, _⟩
  rcases Node.mem_errors_checkSelf.1 hg with ⟨part', hplace', _⟩
  rw [hplace, hplace']
  exact .node hbefore

theorem warnings_check_pairwise (t : Tree) (definitions : List Definition) :
    (t.check definitions).warnings.Pairwise fun f g => f.place.Precedes g.place := by
  rw [warnings_check, List.pairwise_flatMap]
  refine ⟨fun p _ => pairwise_of_length_le_one (p.2.warnings_checkSelf_length_le p.1),
    (t.root.walk_pairwise []).imp ?_⟩
  rintro ⟨way, n⟩ ⟨way', n'⟩ hbefore f hf g hg
  rw [(Node.mem_warnings_checkSelf.1 hf).1, (Node.mem_warnings_checkSelf.1 hg).1]
  exact .node hbefore

end Tree

/-! ## What is told of a leaf -/

namespace Place

/-- Whether a place is in the node at a way. -/
def isAt (way : List Nat) : Place → Bool
  | .part way' _ => way' = way
  | .document => false

/-- Whether a place is in the node at a way, and not its operator. -/
def isBeside (way : List Nat) : Place → Bool
  | .part way' p => way' = way && p ≠ .operator
  | .document => false

/-- Findings in order are one at most where they have one place. -/
theorem length_le_one_of_pairwise {α : Type} {findings : List (Finding α)} {place : Place}
    (ordered : findings.Pairwise fun f g => f.place.Precedes g.place)
    (together : ∀ f ∈ findings, f.place = place) : findings.length ≤ 1 := by
  match findings with
  | [] => exact Nat.zero_le 1
  | [f] => exact Nat.le_refl 1
  | f :: g :: rest =>
    have hprecedes := List.rel_of_pairwise_cons ordered List.mem_cons_self
    have hf := together f List.mem_cons_self
    have hg := together g (List.mem_cons_of_mem _ List.mem_cons_self)
    rw [hf, hg] at hprecedes
    exact absurd rfl hprecedes.text_ne

end Place

namespace Report

/-- The errors of a report that belong to the node at a way, and not to its operator. -/
def errorsBeside (r : Report) (way : List Nat) : List (Finding Flaw) :=
  r.errors.filter fun f => f.place.isBeside way

/-- The warnings of a report that belong to the node at a way. -/
def warningsAt (r : Report) (way : List Nat) : List (Finding Caution) :=
  r.warnings.filter fun f => f.place.isAt way

end Report

namespace Tree

variable {t : Tree} {way : List Nat} {l : Leaf}

theorem mem_errorsBeside {f : Finding Flaw} (leads : t.root.at? way = some (.leaf l)) :
    f ∈ (t.check definitions).errorsBeside way ↔ ∃ part, part ≠ .operator ∧
      f.place = .part way part ∧ (Node.leaf l).Breaks definitions part f.what := by
  rw [Report.errorsBeside, List.mem_filter, mem_errors_check]
  constructor
  · rintro ⟨⟨way', part, n, hplace, hat, hbreaks⟩, hbeside⟩
    rw [hplace, Place.isBeside, Bool.and_eq_true, decide_eq_true_eq, decide_eq_true_eq] at hbeside
    rcases hbeside with ⟨rfl, hpart⟩
    cases Option.some.inj (hat.symm.trans leads)
    exact ⟨part, hpart, hplace, hbreaks⟩
  · rintro ⟨part, hpart, hplace, hbreaks⟩
    refine ⟨⟨way, part, _, hplace, leads, hbreaks⟩, ?_⟩
    rw [hplace, Place.isBeside, Bool.and_eq_true, decide_eq_true_eq, decide_eq_true_eq]
    exact ⟨rfl, hpart⟩

theorem mem_warningsAt {f : Finding Caution} (leads : t.root.at? way = some (.leaf l)) :
    f ∈ (t.check definitions).warningsAt way ↔
      f.place = .part way .operator ∧ l.Cautioned definitions f.what := by
  rw [Report.warningsAt, List.mem_filter, mem_warnings_check]
  constructor
  · rintro ⟨⟨way', l', hplace, hat, hcautioned⟩, hwhere⟩
    rw [hplace, Place.isAt, decide_eq_true_eq] at hwhere
    subst hwhere
    cases Option.some.inj (hat.symm.trans leads)
    exact ⟨hplace, hcautioned⟩
  · rintro ⟨hplace, hcautioned⟩
    refine ⟨⟨way, l, hplace, leads, hcautioned⟩, ?_⟩
    rw [hplace, Place.isAt, decide_eq_true_eq]

theorem errorsBeside_length_le (leads : t.root.at? way = some (.leaf l)) :
    ((t.check definitions).errorsBeside way).length ≤ 1 := by
  have hordered : ((t.check definitions).errorsBeside way).Pairwise
      fun f g => f.place.Precedes g.place :=
    (t.errors_check_pairwise definitions).filter _
  cases herrors : (t.check definitions).errorsBeside way with
  | nil => exact Nat.zero_le 1
  | cons f rest =>
    rw [← herrors]
    have hf : f ∈ (t.check definitions).errorsBeside way := by
      rw [herrors]
      exact List.mem_cons_self
    rcases (mem_errorsBeside leads).1 hf with ⟨part, hpart, _, hbreaks⟩
    have htogether : ∀ g ∈ (t.check definitions).errorsBeside way, g.place = .part way part := by
      intro g hg
      rcases (mem_errorsBeside leads).1 hg with ⟨part', hpart', hplace', hbreaks'⟩
      rw [hplace', (hbreaks'.unique_beside hbreaks hpart' hpart).1]
    exact Place.length_le_one_of_pairwise hordered htogether

theorem errorsBeside_ne_nil_iff (leads : t.root.at? way = some (.leaf l)) :
    (t.check definitions).errorsBeside way ≠ [] ↔ l.Misrefers definitions := by
  rw [Leaf.misrefers_iff]
  constructor
  · intro h
    rcases List.exists_mem_of_ne_nil _ h with ⟨f, hf⟩
    rcases (mem_errorsBeside leads).1 hf with ⟨part, hpart, _, hbreaks⟩
    exact ⟨part, f.what, hpart, hbreaks⟩
  · rintro ⟨part, what, hpart, hbreaks⟩
    have hf : ⟨.part way part, what⟩ ∈ (t.check definitions).errorsBeside way :=
      (mem_errorsBeside leads).2 ⟨part, hpart, rfl, hbreaks⟩
    exact List.ne_nil_of_mem hf

/-- A leaf that misrefers has one error beside that of its operator, and no other leaf has. -/
theorem errorsBeside_length_eq_one_iff (leads : t.root.at? way = some (.leaf l)) :
    ((t.check definitions).errorsBeside way).length = 1 ↔ l.Misrefers definitions := by
  have hle : ((t.check definitions).errorsBeside way).length ≤ 1 := errorsBeside_length_le leads
  rw [← errorsBeside_ne_nil_iff leads, ← List.length_pos_iff]
  omega

theorem operator_error_iff (leads : t.root.at? way = some (.leaf l)) :
    (∃ what, ⟨.part way .operator, what⟩ ∈ (t.check definitions).errors) ↔
      l.operator = .unknown := by
  constructor
  · rintro ⟨what, hf⟩
    rcases mem_errors_check.1 hf with ⟨way', part, n, hplace, hat, hbreaks⟩
    cases hplace
    cases Option.some.inj (hat.symm.trans leads)
    cases hbreaks with
    | operator unknown => exact unknown
  · intro hunknown
    exact ⟨.unknownOperator,
      mem_errors_check.2 ⟨way, .operator, _, rfl, leads, .operator hunknown⟩⟩

theorem warningsAt_length_le (leads : t.root.at? way = some (.leaf l)) :
    ((t.check definitions).warningsAt way).length ≤ 1 := by
  have hordered : ((t.check definitions).warningsAt way).Pairwise
      fun f g => f.place.Precedes g.place :=
    (t.warnings_check_pairwise definitions).filter _
  exact Place.length_le_one_of_pairwise hordered fun f hf => ((mem_warningsAt leads).1 hf).1

theorem warningsAt_eq_nil (leads : t.root.at? way = some (.leaf l))
    (misrefers : l.Misrefers definitions) : (t.check definitions).warningsAt way = [] := by
  refine List.eq_nil_iff_forall_not_mem.2 ?_
  intro f hf
  exact misrefers.not_cautioned ((mem_warningsAt leads).1 hf).2

end Tree

/-- The errors of a report come in the order of the tree, no two with one path, and no two warnings
have one path.  Read back, the path of an error leads to a node of the tree and to a part of it by
which it breaks a rule, and each node that breaks a rule has its error there; the path of a warning
leads to the operator of a leaf that is to be cautioned about.  A leaf has an error for its operator
exactly if that is unknown, and beside that one error exactly if it misrefers, and none else; it has
one warning at most, and none if it misrefers. -/
theorem report_tells_each_flaw_once (t : Tree) (definitions : List Definition) :
    let r := t.check definitions
    r.errors.Pairwise (fun f g => f.place.Precedes g.place) ∧
    (r.errors.map (·.place.text)).Nodup ∧ (r.warnings.map (·.place.text)).Nodup ∧
    (∀ f ∈ r.errors, ∃ way part n, Place.read? f.place.text = some (way, part) ∧
      t.root.at? way = some n ∧ n.Breaks definitions part f.what) ∧
    (∀ way n part what, t.root.at? way = some n → n.Breaks definitions part what →
      ⟨.part way part, what⟩ ∈ r.errors) ∧
    (∀ f ∈ r.warnings, ∃ way l, Place.read? f.place.text = some (way, .operator) ∧
      t.root.at? way = some (.leaf l) ∧ l.Cautioned definitions f.what) ∧
    ∀ way l, t.root.at? way = some (.leaf l) →
      ((∃ what, ⟨.part way .operator, what⟩ ∈ r.errors) ↔ l.operator = .unknown) ∧
      (r.errorsBeside way).length ≤ 1 ∧
      ((r.errorsBeside way).length = 1 ↔ l.Misrefers definitions) ∧
      (r.warningsAt way).length ≤ 1 ∧
      (l.Misrefers definitions → r.warningsAt way = []) := by
  intro r
  refine ⟨t.errors_check_pairwise definitions,
    Place.nodup_text_of_pairwise (t.errors_check_pairwise definitions),
    Place.nodup_text_of_pairwise (t.warnings_check_pairwise definitions), ?_, ?_, ?_, ?_⟩
  · intro f hf
    rcases Tree.mem_errors_check.1 hf with ⟨way, part, n, hplace, hat, hbreaks⟩
    exact ⟨way, part, n, by rw [hplace, Place.read?_text], hat, hbreaks⟩
  · intro way n part what hat hbreaks
    exact Tree.mem_errors_check.2 ⟨way, part, n, rfl, hat, hbreaks⟩
  · intro f hf
    rcases Tree.mem_warnings_check.1 hf with ⟨way, l, hplace, hat, hcautioned⟩
    exact ⟨way, l, by rw [hplace, Place.read?_text], hat, hcautioned⟩
  · intro way l hat
    exact ⟨Tree.operator_error_iff hat, Tree.errorsBeside_length_le hat,
      Tree.errorsBeside_length_eq_one_iff hat, Tree.warningsAt_length_le hat,
      Tree.warningsAt_eq_nil hat⟩

/-- A group without a combinator over a leaf with nothing as it should be and a group without
children. -/
def Sample.brokenTree : Tree :=
  ⟨.unknown, [.leaf ⟨"", .unknown, .text "any"⟩, .group .and []]⟩

/-- Its report tells of all four flaws, and of the leaf, its operator aside, of one. -/
theorem report_tells_each_flaw_once_of_broken :
    (Sample.brokenTree.check []).errors.map (·.place.text) =
      ["operator", "conditions[0].operator", "conditions[0].leftOperand.id",
        "conditions[1].conditions"] ∧
    ((Sample.brokenTree.check []).errorsBeside [0]).length = 1 := by
  have hleaves := (report_tells_each_flaw_once Sample.brokenTree []).2.2.2.2.2.2
  refine ⟨by decide +kernel, ?_⟩
  exact (hleaves [0] _ rfl).2.2.1.2 (.unresolved .empty)

end EventRewards
