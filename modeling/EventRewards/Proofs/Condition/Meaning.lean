import EventRewards.Proofs.Condition.Verdicts

/-!
# What conditions mean

The meaning of a condition is read off the definitions and the logs as they are listed, by no index
and no grouping of values.  `Tree.evaluate` finds the conditions that hold and no others.  Of a log a
condition sees the field and the value alone.
-/

namespace EventRewards

/-! ## Conditions that hold -/

section Meaning

variable (definitions : List Definition) (logs : List Log)

/-- A leaf holds when a definition has its id, and some value logged for the field of the first one
that has it passes the leaf's comparison. -/
def Leaf.Holds (leaf : Leaf) : Prop :=
  ∃ d, definitions.find? (·.id == leaf.conditionId) = some d ∧
    ∃ l ∈ logs, l.fieldName = d.fieldName ∧
      leaf.operator.compare d.valueType l.value leaf.operand = true

/-- A conjunction holds when each of its children does, and a disjunction when one of them does. -/
def Node.Holds : Node → Prop
  | .leaf l => l.Holds definitions logs
  | .group .and children => ∀ n, n ∈ children → Holds n
  | .group .or children => ∃ n, ∃ _ : n ∈ children, Holds n
  | .group .unknown _ => False
termination_by n => sizeOf n
decreasing_by
  all_goals
    have hlt := List.sizeOf_lt_of_mem ‹n ∈ children›
    simp only [Node.group.sizeOf_spec]
    omega

end Meaning

namespace Node

variable {definitions : List Definition} {logs : List Log} {children : List Node}

@[simp]
theorem holds_leaf {l : Leaf} :
    (Node.leaf l).Holds definitions logs ↔ l.Holds definitions logs := by
  simp only [Holds]

@[simp]
theorem holds_and : (Node.group .and children).Holds definitions logs ↔
    ∀ n ∈ children, n.Holds definitions logs := by
  simp only [Holds]

@[simp]
theorem holds_or : (Node.group .or children).Holds definitions logs ↔
    ∃ n ∈ children, n.Holds definitions logs := by
  simp only [Holds, exists_prop]

@[simp]
theorem not_holds_unknown : ¬(Node.group .unknown children).Holds definitions logs := by
  simp only [Holds, not_false_eq_true]

end Node

/-! ## Verdicts and meaning -/

namespace Evidence

variable {definitions : List Definition} {logs : List Log}

/-- The index finds the first definition with the leaf's id, and the group of its field has the values
of all logs of that field: so a leaf is met where it holds. -/
theorem meetsLeaf_iff_holds {leaf : Leaf} :
    (Evidence.of definitions logs).meetsLeaf leaf = true ↔ leaf.Holds definitions logs := by
  rw [meetsLeaf_of, Leaf.Holds]
  cases definitions.find? (·.id == leaf.conditionId) with
  | none => simp
  | some d => simp

theorem meets_iff_holds {n : Node} :
    (Evidence.of definitions logs).meets n = true ↔ n.Holds definitions logs := by
  induction n with
  | leaf leaf => rw [meets, meetsLeaf_iff_holds, Node.holds_leaf]
  | group combinator children ih =>
    cases combinator with
    | and =>
      rw [meets_and, Node.holds_and]
      exact forall₂_congr ih
    | or =>
      rw [meets_or, Node.holds_or]
      constructor
      · rintro ⟨n, hn, hmet⟩
        exact ⟨n, hn, (ih n hn).1 hmet⟩
      · rintro ⟨n, hn, hholds⟩
        exact ⟨n, hn, (ih n hn).2 hholds⟩
    | unknown => exact iff_of_false not_meets_unknown Node.not_holds_unknown

end Evidence

/-- The verdict on a condition, found through an index of the definitions and the values grouped by
field, is that the condition holds for the definitions and the logs as they are listed. -/
theorem evaluate_iff_holds (t : Tree) (definitions : List Definition) (logs : List Log) :
    t.evaluate definitions logs = true ↔ t.root.Holds definitions logs := by
  have hroot : t.evaluate definitions logs = (Evidence.of definitions logs).meets t.root := rfl
  rw [hroot]
  exact Evidence.meets_iff_holds

/-! ## What a verdict sees of logs -/

/-- What a condition sees of a log. -/
def Log.entry (l : Log) : String × Literal :=
  (l.fieldName, l.value)

namespace Tree

variable {t : Tree} {definitions : List Definition} {logs logs' : List Log}

/-- A condition that is met is met by all logs among whose entries are those that met it. -/
theorem evaluate_of_entries (more : logs.map Log.entry ⊆ logs'.map Log.entry)
    (met : t.evaluate definitions logs = true) : t.evaluate definitions logs' = true := by
  apply evaluate_mono _ met
  intro l hl
  rcases List.mem_map.1 (more (List.mem_map_of_mem hl)) with ⟨l', hl', hentry⟩
  exact ⟨l', hl', congrArg Prod.fst hentry, congrArg Prod.snd hentry⟩

/-- Logs with the same entries, however often and in whatever order, give the same verdict. -/
theorem evaluate_eq_of_entries
    (same : ∀ entry, entry ∈ logs.map Log.entry ↔ entry ∈ logs'.map Log.entry) :
    t.evaluate definitions logs = t.evaluate definitions logs' := by
  rw [Bool.eq_iff_iff]
  constructor
  · exact evaluate_of_entries fun entry hentry => (same entry).1 hentry
  · exact evaluate_of_entries fun entry hentry => (same entry).2 hentry

end Tree

/-- A verdict sees of logs which values there are for which field, and it is never lost where these
are kept: not when logs are added, whatever the operators.  The order of logs, their repetition, and
all of them but field and value make no difference. -/
theorem verdict_sees_entries (t : Tree) (definitions : List Definition) :
    (∀ logs logs' : List Log, logs.map Log.entry ⊆ logs'.map Log.entry →
      t.evaluate definitions logs = true → t.evaluate definitions logs' = true) ∧
    (∀ logs logs' : List Log, logs ⊆ logs' →
      t.evaluate definitions logs = true → t.evaluate definitions logs' = true) ∧
    (∀ logs logs' : List Log, logs.Perm logs' →
      t.evaluate definitions logs = t.evaluate definitions logs') ∧
    (∀ logs again : List Log, again ⊆ logs →
      t.evaluate definitions (logs ++ again) = t.evaluate definitions logs) ∧
    ∀ logs logs' : List Log, logs.map Log.entry = logs'.map Log.entry →
      t.evaluate definitions logs = t.evaluate definitions logs' := by
  refine ⟨?_, ?_, ?_, ?_, ?_⟩
  · intro logs logs' more
    exact Tree.evaluate_of_entries more
  · intro logs logs' more
    exact Tree.evaluate_of_entries (List.map_subset _ more)
  · intro logs logs' perm
    apply Tree.evaluate_eq_of_entries
    intro entry
    exact (perm.map Log.entry).mem_iff
  · intro logs again among
    apply Tree.evaluate_eq_of_entries
    intro entry
    rw [List.map_append, List.mem_append, or_iff_left_of_imp]
    intro hagain
    exact List.map_subset _ among hagain
  · intro logs logs' same
    apply Tree.evaluate_eq_of_entries
    intro entry
    rw [same]

namespace Sample

def epoch : Instant :=
  (Instant.ofMillis? 0).get (by decide)

def visits : Definition :=
  ⟨"d1", "visits", "Visits", .text, epoch, none⟩

/-- A visit to a page. -/
def visit (id userId page : String) : Log :=
  ⟨id, userId, "visits", .text page, epoch, none⟩

/-- A visit to another page than the home page. -/
def elsewhere : Tree :=
  ⟨.and, [.leaf ⟨"d1", .neq, .text "home"⟩]⟩

end Sample

/-- A visit elsewhere stays one whoever made it, and whatever visits come before and after it. -/
theorem verdict_sees_entries_of_visits :
    Sample.elsewhere.evaluate [Sample.visits] [Sample.visit "l1" "ann" "blog"] = true ∧
    Sample.elsewhere.evaluate [Sample.visits]
      [Sample.visit "l2" "bob" "home", Sample.visit "l3" "bob" "blog"] = true ∧
    Sample.elsewhere.evaluate [Sample.visits]
      [Sample.visit "l1" "ann" "blog", Sample.visit "l4" "ann" "home"] = true ∧
    Sample.elsewhere.evaluate [Sample.visits]
      [Sample.visit "l4" "ann" "home", Sample.visit "l1" "ann" "blog"] = true ∧
    Sample.elsewhere.evaluate [Sample.visits]
      [Sample.visit "l1" "ann" "blog", Sample.visit "l1" "ann" "blog"] = true ∧
    Sample.elsewhere.evaluate [Sample.visits] [Sample.visit "l5" "eve" "blog"] = true := by
  rcases verdict_sees_entries Sample.elsewhere [Sample.visits] with
    ⟨hmore, hadded, hperm, hagain, hsame⟩
  have hmet : Sample.elsewhere.evaluate [Sample.visits] [Sample.visit "l1" "ann" "blog"] = true := by
    decide +kernel
  have hlonger : Sample.elsewhere.evaluate [Sample.visits]
      [Sample.visit "l1" "ann" "blog", Sample.visit "l4" "ann" "home"] = true :=
    hadded _ _ (List.cons_subset_cons _ (List.nil_subset _)) hmet
  refine ⟨hmet, ?_, hlonger, ?_, ?_, ?_⟩
  · exact hmore _ _ (List.subset_cons_self _ _) hmet
  · rw [← hperm _ _ (List.Perm.swap _ _ [])]
    exact hlonger
  · exact (hagain _ _ (List.Subset.refl _)).trans hmet
  · exact (hsame _ _ rfl).trans hmet

end EventRewards
