import EventRewards.Proofs.Condition.Operands
import EventRewards.Proofs.Condition.Reports

/-!
# What warnings say of verdicts

A warning that a comparison never holds is true, whatever is logged, and so is the warning that one
holds of explicit nulls alone.  Where none of the first kind is given, each leaf of an accepted
condition is met by some value, if its operand leaves room for one.  A leaf that is met stays met
when more is logged, so that the logs that meet the leaves one by one meet the condition together.
-/

namespace EventRewards

/-! ## Comparisons that never hold -/

namespace Caution

/-- Whether a warning says that a comparison never holds. -/
def SaysNever (c : Caution) : Prop :=
  ∃ start, c.message = start ++ "always evaluates to false"

theorem saysNever_iff {c : Caution} : c.SaysNever ↔ c ≠ .explicitNullOnly := by
  constructor
  · rintro ⟨start, hmessage⟩ rfl
    have hlast := congrArg (·.toList.getLast?) hmessage
    simp [message] at hlast
  · intro hother
    cases c with
    | neverHolds op =>
      have hend : "' is not supported and always evaluates to false" =
          "' is not supported and " ++ "always evaluates to false" := by decide
      exact ⟨_, by rw [message, hend, ← String.append_assoc]⟩
    | explicitNullOnly => exact absurd rfl hother
    | noOrder op =>
      have hend : "' has no ordering for string conditions and always evaluates to false" =
          "' has no ordering for string conditions and " ++ "always evaluates to false" := by decide
      exact ⟨_, by rw [message, hend, ← String.append_assoc]⟩

end Caution

theorem Operator.Cautions.compare_eq_false {op : Operator} {type : ValueType} {what : Caution}
    (h : op.Cautions type what) (never : what.SaysNever) (logged operand : Literal) :
    op.compare type logged operand = false := by
  cases h with
  | isIn => rfl
  | notIn => rfl
  | isNull => exact absurd rfl (Caution.saysNever_iff.1 never)
  | ordering ordering => exact Operator.compare_text_eq_false ordering

theorem Operator.Cautions.unsupported_or_unordered {op : Operator} {type : ValueType} {what : Caution}
    (h : op.Cautions type what) (never : what.SaysNever) :
    op = .isIn ∨ op = .notIn ∨ op.isOrdering = true ∧ type = .text := by
  cases h with
  | isIn => exact .inl rfl
  | notIn => exact .inr (.inl rfl)
  | isNull => exact absurd rfl (Caution.saysNever_iff.1 never)
  | ordering ordering => exact .inr (.inr ⟨ordering, rfl⟩)

theorem Operator.Cautions.eq_isNull {op : Operator} {type : ValueType}
    (h : op.Cautions type .explicitNullOnly) : op = .isNull := by
  cases h with
  | isNull => rfl

section Verdicts

variable {definitions : List Definition} {l : Leaf} {d : Definition}

/-- A leaf that asks for null is met by the logs that hold an explicit null for its field. -/
theorem Leaf.RefersTo.meetsLeaf_isNull_iff (refers : l.RefersTo definitions d)
    (asksNull : l.operator = .isNull) (logs : List Log) :
    (Evidence.of definitions logs).meetsLeaf l = true ↔
      ∃ log ∈ logs, log.fieldName = d.fieldName ∧ log.value = .null := by
  have hnull : ∀ value : Literal,
      Operator.isNull.compare d.valueType value l.operand = true ↔ value = .null := by
    intro value
    cases value with
    | null => exact iff_of_true rfl rfl
    | _ => exact iff_of_false nofun nofun
  simp only [refers.meetsLeaf_iff, asksNull, hnull]

end Verdicts

/-- A warning at the operator of a leaf is true of every list of logs.  Where it says that the comparison
never holds, which it does of membership and of the order of texts, no logs meet the leaf; where it is
the one about nulls, just those logs meet it that hold an explicit null for the field of the definition
that the leaf refers to.  There are no other warnings. -/
theorem warnings_tell_the_truth (t : Tree) (definitions : List Definition) (way : List Nat) (l : Leaf)
    (leads : t.root.at? way = some (.leaf l)) (f : Finding Caution)
    (warned : f ∈ (t.check definitions).warnings)
    (there : f.place.text = (Place.part way .operator).text) :
    ∃ d, l.RefersTo definitions d ∧
      (f.what.SaysNever →
        (l.operator = .isIn ∨ l.operator = .notIn ∨
          l.operator.isOrdering = true ∧ d.valueType = .text) ∧
        ∀ logs, (Evidence.of definitions logs).meetsLeaf l = false) ∧
      (f.what = .explicitNullOnly → ∀ logs,
        (Evidence.of definitions logs).meetsLeaf l = true ↔
          ∃ log ∈ logs, log.fieldName = d.fieldName ∧ log.value = .null) ∧
      (f.what.SaysNever ∨ f.what = .explicitNullOnly) := by
  rcases Tree.mem_warnings_check.1 warned with ⟨way', l', hplace, hat, d, hrefers, _, hcautions⟩
  -- distinct ways are written differently, so that the warning is about this leaf and no other one
  rw [hplace] at there
  cases Place.way_eq_of_text_eq there
  cases Option.some.inj (hat.symm.trans leads)
  refine ⟨d, hrefers, ?_, ?_, ?_⟩
  · intro hnever
    refine ⟨hcautions.unsupported_or_unordered hnever, ?_⟩
    intro logs
    rw [← Bool.not_eq_true, hrefers.meetsLeaf_iff]
    rintro ⟨log, _, _, hpasses⟩
    rw [hcautions.compare_eq_false hnever] at hpasses
    cases hpasses
  · intro hnull
    rw [hnull] at hcautions
    exact hrefers.meetsLeaf_isNull_iff hcautions.eq_isNull
  · rw [Caution.saysNever_iff]
    exact (em _).symm

/-- Texts are asked for their order in one leaf, and for null in the other one. -/
def Sample.warned : Tree :=
  ⟨.or, [.group .and [.leaf ⟨"d1", .gt, .text "home"⟩], .leaf ⟨"d1", .isNull, .text ""⟩]⟩

/-- No visits come after one to the home page, and only a visit to nowhere is one to null. -/
theorem warnings_tell_the_truth_about_visits :
    (∀ logs, (Evidence.of [Sample.visits] logs).meetsLeaf ⟨"d1", .gt, .text "home"⟩ = false) ∧
    ∀ logs, (Evidence.of [Sample.visits] logs).meetsLeaf ⟨"d1", .isNull, .text ""⟩ = true ↔
      ∃ log ∈ logs, log.fieldName = "visits" ∧ log.value = .null := by
  constructor
  · rcases warnings_tell_the_truth Sample.warned [Sample.visits] [0, 0] _ rfl
      ⟨.part [0, 0] .operator, .noOrder .gt⟩ (by decide +kernel) rfl with ⟨d, _, hnever, _, _⟩
    exact (hnever (Caution.saysNever_iff.2 nofun)).2
  · rcases warnings_tell_the_truth Sample.warned [Sample.visits] [1] _ rfl
      ⟨.part [1] .operator, .explicitNullOnly⟩ (by decide +kernel) rfl with ⟨d, hrefers, _, hnull, _⟩
    cases List.singleton_inj.1 hrefers.sole
    exact hnull rfl

/-! ## Values that pass -/

namespace Operator

variable {op : Operator} {type : ValueType} {operand : Literal}

theorem exists_passing_text (equality : op = .eq ∨ op = .neq) (s : String) :
    ∃ value, op.compare .text value (.text s) = true := by
  rcases equality with rfl | rfl
  · exact ⟨.text s, (AppliesTo.eq .text).compare_self (.inl rfl) rfl⟩
  · -- there is always a longer text
    have hlonger : s ++ "x" ≠ s := by
      intro heq
      have hlength := congrArg String.length heq
      simp at hlength
    exact ⟨.text (s ++ "x"), bne_iff_ne.2 hlonger⟩

/-- A finite number leaves room on both sides of it: that of the infinities. -/
theorem exists_passing_number (compares : op.Compares) {x : Double} (finite : x.isFinite = true) :
    ∃ value, op.compare .number value (.number x) = true := by
  have hread : ∀ {y : Double}, y.isNaN = false → (Literal.number y).asNumber? = some y := by
    intro y hy
    rw [Literal.asNumber?.eq_def]
    simp [hy]
  have hx : (Literal.number x).asNumber? = some x := hread (Double.isNaN_of_isFinite finite)
  have hreads : ValueType.number.reads (.number x) = true := Option.isSome_iff_exists.2 ⟨x, hx⟩
  have hinfinite : ∀ negative, op.compare .number (.number (.infinite negative)) (.number x) =
      op.holdsFor (if negative then .lt else .gt) := by
    intro negative
    exact compare_number_eq compares (hread rfl) hx (Double.infinite_compare negative finite)
  cases compares with
  | eq => exact ⟨.number x, (AppliesTo.eq .number).compare_self (.inl rfl) hreads⟩
  | gte | lte =>
    exact ⟨.number x, (AppliesTo.ordering rfl (by decide)).compare_self (by decide) hreads⟩
  | neq | gt => exact ⟨_, hinfinite false⟩
  | lt => exact ⟨_, hinfinite true⟩

/-- There is more than one day, and before all instants but the first and after all but the last there
is another one. -/
theorem exists_passing_date (compares : op.Compares) {t : Instant}
    (reads : operand.asInstant? = some t) (notFirst : op = .lt → t ≠ ⊥)
    (notLast : op = .gt → t ≠ ⊤) : ∃ value, op.compare .date value operand = true := by
  have hreads : ValueType.date.reads operand = true := Option.isSome_iff_exists.2 ⟨t, reads⟩
  cases compares with
  | eq => exact ⟨operand, (AppliesTo.eq .date).compare_self (.inl rfl) hreads⟩
  | gte | lte => exact ⟨operand, (AppliesTo.ordering rfl (by decide)).compare_self (by decide) hreads⟩
  | neq =>
    have hstanding : ∀ s : Instant,
        Operator.neq.compare .date (.date s) operand = neq.saysOf (.ofDates s t) := by
      intro s
      exact compare_of_standing .neq (Option.map₂_eq_some_iff.2 ⟨s, t, rfl, reads, rfl⟩)
    -- the first and the last instant are of two days, and the operand is of one of them at most
    by_cases hday : t.day = (⊥ : Instant).day
    · have hother : (⊤ : Instant).day ≠ t.day := by
        rw [hday]
        decide
      exact ⟨.date ⊤, (hstanding ⊤).trans (bne_iff_ne.2 hother)⟩
    · exact ⟨.date ⊥, (hstanding ⊥).trans (bne_iff_ne.2 (Ne.symm hday))⟩
  | lt =>
    have hbefore : ⊥ < t := bot_lt_iff_ne_bot.2 (notFirst rfl)
    exact ⟨.date ⊥, lt_date_iff.2 ⟨⊥, t, rfl, reads, hbefore⟩⟩
  | gt =>
    have hafter : t < ⊤ := lt_top_iff_ne_top.2 (notLast rfl)
    have hless : Operator.lt.compare .date operand (.date ⊤) = true :=
      lt_date_iff.2 ⟨t, ⊤, reads, rfl, hafter⟩
    exact ⟨.date ⊤, (compare_converse .lt .date operand _).trans hless⟩

/-- A comparison of which no warning says that it never holds is passed by some value, if its operand is
admitted and leaves room for one. -/
theorem exists_passing (known : op ≠ .unknown) (admits : type.Admits operand)
    (unwarned : ∀ what, op.Cautions type what → ¬what.SaysNever)
    (finite : ∀ x, operand = .number x → x.isFinite = true)
    (room : type = .date → (op = .lt → operand.asInstant? ≠ some ⊥) ∧
      (op = .gt → operand.asInstant? ≠ some ⊤)) :
    ∃ value, op.compare type value operand = true := by
  have hnever : ∀ {what : Caution}, what ≠ .explicitNullOnly → ¬op.Cautions type what := by
    intro what hother hcautions
    exact unwarned what hcautions (Caution.saysNever_iff.2 hother)
  by_cases hcompares : op.Compares
  · cases admits with
    | text s =>
      have hequality : op = .eq ∨ op = .neq := by
        rcases compares_iff.1 hcompares with heq | hneq | hordering
        · exact .inl heq
        · exact .inr hneq
        · have hunordered : Caution.noOrder op ≠ .explicitNullOnly := nofun
          exact absurd (.ordering hordering) (hnever hunordered)
      exact exists_passing_text hequality s
    | number x => exact exists_passing_number hcompares (finite x rfl)
    | date t =>
      refine exists_passing_date hcompares rfl ?_ ?_
      · intro hlt hfirst
        exact (room rfl).1 hlt (congrArg some hfirst)
      · intro hgt hlast
        exact (room rfl).2 hgt (congrArg some hlast)
    | @dateText s t written =>
      refine exists_passing_date hcompares written ?_ ?_
      · rintro hlt rfl
        exact (room rfl).1 hlt written
      · rintro hgt rfl
        exact (room rfl).2 hgt written
  · -- what asks for presence looks at the logged value alone
    cases op with
    | «exists» | isNotNull => exact ⟨.text "", rfl⟩
    | isNull => exact ⟨.null, rfl⟩
    | isIn => exact absurd (.isIn type) (hnever nofun)
    | notIn => exact absurd (.notIn type) (hnever nofun)
    | unknown => exact absurd rfl known
    | _ => exact absurd (by constructor) hcompares

end Operator

/-! ## Conditions that can be met -/

/-- A sound condition is met by evidence that meets all of its leaves, by conjunctions and disjunctions
alike: no group in it is without children. -/
theorem Node.Sound.meets_of_leaves {lookup : String → Option Definition} {n : Node} {e : Evidence}
    (sound : n.Sound lookup) (each : ∀ l ∈ n.leaves, e.meetsLeaf l = true) : e.meets n = true := by
  induction sound with
  | @leaf l _ => exact each l (List.mem_singleton.2 rfl)
  | @group combinator children combines inhabited _ ih =>
    have hchildren : ∀ n ∈ children, e.meets n = true := by
      intro n hn
      apply ih n hn
      intro l hl
      exact each l (mem_leaves_group.2 ⟨n, hn, hl⟩)
    rcases Combinator.ne_unknown_iff.1 combines with rfl | rfl
    · exact Evidence.meets_and.2 hchildren
    · -- any child will do, and there is one
      rcases List.exists_mem_of_ne_nil children inhabited with ⟨n, hn⟩
      exact Evidence.meets_or.2 ⟨n, hn, hchildren n hn⟩

/-- Logs that meet leaves one by one meet them together: none spoils what another one meets, not when
they are logged for the same field. -/
theorem Evidence.exists_logs {definitions : List Definition} {P : Log → Prop} {leaves : List Leaf}
    (each : ∀ l ∈ leaves, ∃ log, P log ∧ (Evidence.of definitions [log]).meetsLeaf l = true) :
    ∃ logs, (∀ log ∈ logs, P log) ∧
      ∀ l ∈ leaves, (Evidence.of definitions logs).meetsLeaf l = true := by
  induction leaves with
  | nil => exact ⟨[], List.forall_mem_nil _, List.forall_mem_nil _⟩
  | cons l rest ih =>
    rcases each l List.mem_cons_self with ⟨log, hlog, hmeets⟩
    rcases ih fun m hm => each m (List.mem_cons_of_mem _ hm) with ⟨logs, hlogs, hrest⟩
    refine ⟨log :: logs, List.forall_mem_cons.2 ⟨hlog, hlogs⟩, ?_⟩
    -- each leaf is met by some of these logs, and stays met when the others are added
    intro m hm
    rcases List.mem_cons.1 hm with rfl | hm
    · refine meetsLeaf_of_mono ?_ hmeets
      intro log' hlog'
      rw [List.mem_singleton.1 hlog']
      exact ⟨log, List.mem_cons_self, rfl, rfl⟩
    · refine meetsLeaf_of_mono ?_ (hrest m hm)
      intro log' hlog'
      exact ⟨log', List.mem_cons_of_mem _ hlog', rfl, rfl⟩

/-- A condition that a check accepts, and of which no warning says that some comparison in it never
holds, can be met, by logs of any user and of any time: unless it compares with numbers that are not
finite, or asks for dates before the first instant or after the last one. -/
theorem unwarned_conditions_can_be_met (t : Tree) (definitions : List Definition)
    (accepted : (t.check definitions).isValid = true)
    (unwarned : ∀ f ∈ (t.check definitions).warnings, ¬f.what.SaysNever)
    (finite : ∀ l ∈ t.leaves, ∀ x, l.operand = .number x → x.isFinite = true)
    (room : ∀ l ∈ t.leaves, ∀ d ∈ definitions, d.id = l.conditionId → d.valueType = .date →
      (l.operator = .lt → l.operand.asInstant? ≠ some ⊥) ∧
      (l.operator = .gt → l.operand.asInstant? ≠ some ⊤))
    (userId : String) (loggedAt : Instant) :
    ∃ logs : List Log, (∀ log ∈ logs, log.userId = userId ∧ log.loggedAt = loggedAt) ∧
      t.evaluate definitions logs = true := by
  have hsound : t.root.Sound (soleDefinition? definitions) :=
    (Tree.check_isValid_iff definitions t).1 accepted
  have hleaves : ∀ l ∈ t.leaves, ∃ log : Log,
      (log.userId = userId ∧ log.loggedAt = loggedAt) ∧
        (Evidence.of definitions [log]).meetsLeaf l = true := by
    intro l hl
    have hleaf : l.Sound (soleDefinition? definitions) := hsound.leaves_sound l hl
    rcases hleaf.exists_refersTo with ⟨d, hrefers, hadmits⟩
    have hd := Keyed.of_find? hrefers.find?_eq
    -- a warning about the leaf stands in the report
    have hcautions : ∀ what, l.operator.Cautions d.valueType what → ¬what.SaysNever := by
      intro what hcautions
      rcases Node.exists_at?_of_mem_leaves hl with ⟨way, hat⟩
      exact unwarned ⟨.part way .operator, what⟩
        (Tree.mem_warnings_check.2 ⟨way, l, rfl, hat, d, hrefers, hadmits, hcautions⟩)
    rcases Operator.exists_passing hleaf.operator hadmits hcautions (finite l hl)
      (room l hl d hd.1 hd.2) with ⟨value, hpasses⟩
    refine ⟨⟨"", userId, d.fieldName, value, loggedAt, none⟩, ⟨rfl, rfl⟩, ?_⟩
    exact hrefers.meetsLeaf_iff.2 ⟨_, List.mem_singleton.2 rfl, rfl, hpasses⟩
  rcases Evidence.exists_logs hleaves with ⟨logs, hlogs, heach⟩
  exact ⟨logs, hlogs, hsound.meets_of_leaves heach⟩

namespace Sample

/-- Another definition of the field of visits. -/
def page : Definition :=
  ⟨"d4", "visits", "Page", .text, epoch, none⟩

/-- Visits both to nowhere and to the blog, a high score and an early start. -/
def demanding : Tree :=
  ⟨.and, [.leaf ⟨"d1", .isNull, .text ""⟩, .leaf ⟨"d4", .eq, .text "blog"⟩,
    .group .or [.leaf ⟨"d2", .gt, .number (.ofInt 5)⟩], .leaf ⟨"d3", .lt, .text "2025-01-05"⟩]⟩

end Sample

/-- Ann can meet a condition of which one warning says that it is hard to meet. -/
theorem unwarned_conditions_can_be_met_by_ann :
    (Sample.demanding.check [Sample.visits, Sample.score, Sample.joined, Sample.page]).warnings =
      [⟨.part [0] .operator, .explicitNullOnly⟩] ∧
    ∃ logs : List Log, (∀ log ∈ logs, log.userId = "ann" ∧ log.loggedAt = Sample.epoch) ∧
      Sample.demanding.evaluate [Sample.visits, Sample.score, Sample.joined, Sample.page] logs =
        true := by
  have hwarnings :
      (Sample.demanding.check [Sample.visits, Sample.score, Sample.joined, Sample.page]).warnings =
        [⟨.part [0] .operator, .explicitNullOnly⟩] := by
    decide +kernel
  have hroom : ∀ l ∈ Sample.demanding.leaves, (l.operator = .lt → l.operand.asInstant? ≠ some ⊥) ∧
      (l.operator = .gt → l.operand.asInstant? ≠ some ⊤) := by
    decide +kernel
  have hfive : (Double.ofInt 5).isFinite = true := by decide +kernel
  refine ⟨hwarnings, unwarned_conditions_can_be_met _ _ (by decide +kernel) ?_ ?_ ?_ "ann" _⟩
  · intro f hf hnever
    rw [hwarnings, List.mem_singleton] at hf
    rw [hf] at hnever
    exact Caution.saysNever_iff.1 hnever rfl
  · simp [Sample.demanding, Tree.leaves, Tree.root, Node.leaves, Node.leavesAll, hfive]
  · intro l hl d _ _ _
    exact hroom l hl

end EventRewards
