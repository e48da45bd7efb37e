import EventRewards.Condition.Compare
import EventRewards.Proofs.Instants
import EventRewards.Proofs.Number.Order
import Mathlib.Data.List.Basic
import Mathlib.Data.Option.NAry
import Mathlib.Logic.ExistsUnique
import Mathlib.Order.Compare

/-!
# Laws of comparisons

An operator that compares reads the logged value and the operand as values of the definition's type.
Of two values that can be read so it sees no more than how they stand to each other: whether they
count as equal and, where the type has an order, in which order they are.  The laws that hold of the
operators, for each type the same, are laws of this standing.
-/

namespace EventRewards

/-! ## Values of a type -/

/-- Whether a literal counts as a value of a type. -/
def ValueType.reads : ValueType → Literal → Bool
  | .text, l => l.asText?.isSome
  | .number, l => l.asNumber?.isSome
  | .date, l => l.asInstant?.isSome

/-- NaN counts as no number. -/
theorem Literal.isNaN_of_asNumber? {l : Literal} {x : Double} (h : l.asNumber? = some x) :
    x.isNaN = false := by
  rw [asNumber?.eq_def, Option.filter_eq_some_iff] at h
  simpa using h.2

/-- Two literals that count as numbers are in an order. -/
theorem Literal.exists_compare_eq {a b : Literal} {x y : Double} (hx : a.asNumber? = some x)
    (hy : b.asNumber? = some y) : ∃ o, x.compare y = some o :=
  Option.isSome_iff_exists.1 (Double.compare_isSome (isNaN_of_asNumber? hx) (isNaN_of_asNumber? hy))

/-- How two values stand to each other: whether they count as equal and, for a type that has an order,
in which order they are. -/
structure Standing where
  areEqual : Bool
  order? : Option Ordering

namespace Standing

def ofTexts (s t : String) : Standing :=
  ⟨s == t, none⟩

def ofNumbers (x y : Double) : Standing :=
  ⟨x == y, x.compare y⟩

/-- Dates count as equal on one day, and are ordered by their instants. -/
def ofDates (s t : Instant) : Standing :=
  ⟨s.day == t.day, some (compare s t)⟩

/-- How the two values stand when they are exchanged. -/
def swap (s : Standing) : Standing :=
  ⟨s.areEqual, s.order?.map Ordering.swap⟩

/-- Numbers that are in an order count as equal where they are equal in it. -/
theorem ofNumbers_eq {x y : Double} {o : Ordering} (order : x.compare y = some o) :
    ofNumbers x y = ⟨o == .eq, some o⟩ := by
  change Standing.mk (x.compare y == some .eq) (x.compare y) = _
  rw [order]
  rfl

theorem swap_ofTexts (s t : String) : (ofTexts s t).swap = ofTexts t s := by
  rw [ofTexts, ofTexts, swap, Bool.beq_comm]
  rfl

theorem swap_ofNumbers (x y : Double) : (ofNumbers x y).swap = ofNumbers y x := by
  have hequal : (y == x) = (x == y) := by
    change (y.compare x == some .eq) = (x.compare y == some .eq)
    rw [Double.compare_swap]
    cases x.compare y with
    | none => rfl
    | some o => cases o <;> rfl
  rw [ofNumbers, ofNumbers, swap, hequal, Double.compare_swap x y]

theorem swap_ofDates (s t : Instant) : (ofDates s t).swap = ofDates t s := by
  rw [ofDates, ofDates, swap, Bool.beq_comm, Std.OrientedOrd.eq_swap (a := t)]
  rfl

end Standing

namespace ValueType

variable {type : ValueType} {a b : Literal}

/-- How two literals stand to each other as values of a type. -/
def standing? : ValueType → Literal → Literal → Option Standing
  | .text, a, b => Option.map₂ .ofTexts a.asText? b.asText?
  | .number, a, b => Option.map₂ .ofNumbers a.asNumber? b.asNumber?
  | .date, a, b => Option.map₂ .ofDates a.asInstant? b.asInstant?

theorem standing?_eq_none :
    type.standing? a b = none ↔ ¬(type.reads a = true ∧ type.reads b = true) := by
  cases type <;>
    simp only [standing?, reads, Option.map₂_eq_none_iff, Option.isSome_iff_ne_none, ne_eq,
      not_and_or, not_not]

theorem standing?_swap (type : ValueType) (a b : Literal) :
    type.standing? b a = (type.standing? a b).map .swap := by
  cases type with
  | text => simp only [standing?, Option.map_map₂, Standing.swap_ofTexts]; exact Option.map₂_swap ..
  | number =>
    simp only [standing?, Option.map_map₂, Standing.swap_ofNumbers]; exact Option.map₂_swap ..
  | date => simp only [standing?, Option.map_map₂, Standing.swap_ofDates]; exact Option.map₂_swap ..

theorem exists_standing (ha : type.reads a = true) (hb : type.reads b = true) :
    ∃ s, type.standing? a b = some s := by
  rw [← Option.ne_none_iff_exists', ne_eq, standing?_eq_none, not_not]
  exact ⟨ha, hb⟩

end ValueType

/-! ## Operators that compare -/

namespace Operator

/-- The operators that read both of their values. -/
inductive Compares : Operator → Prop where
  | eq : Compares .eq
  | neq : Compares .neq
  | gt : Compares .gt
  | lt : Compares .lt
  | gte : Compares .gte
  | lte : Compares .lte

/-- The operator that holds of two values where this one does not. -/
def opposite : Operator → Operator
  | .eq => .neq
  | .neq => .eq
  | .gt => .lte
  | .lt => .gte
  | .gte => .lt
  | .lte => .gt
  | op => op

/-- The operator that holds of two values where this one holds of them exchanged. -/
def converse : Operator → Operator
  | .gt => .lt
  | .lt => .gt
  | .gte => .lte
  | .lte => .gte
  | op => op

/-- Whether an operator tells values of a type apart: equality does for every type, and order does
where the type has one. -/
inductive AppliesTo : Operator → ValueType → Prop where
  | eq (type : ValueType) : AppliesTo .eq type
  | neq (type : ValueType) : AppliesTo .neq type
  | ordering {op : Operator} {type : ValueType} (ordering : op.isOrdering = true)
      (ordered : type ≠ .text) : AppliesTo op type

theorem isOrdering_iff {op : Operator} :
    op.isOrdering = true ↔ op = .gt ∨ op = .lt ∨ op = .gte ∨ op = .lte := by
  cases op <;> simp [isOrdering]

theorem compares_iff {op : Operator} :
    op.Compares ↔ op = .eq ∨ op = .neq ∨ op.isOrdering = true := by
  constructor
  · intro h
    cases h <;> simp [isOrdering]
  · rintro (rfl | rfl | hordering)
    · exact .eq
    · exact .neq
    · rcases isOrdering_iff.1 hordering with rfl | rfl | rfl | rfl <;> constructor

theorem AppliesTo.compares {op : Operator} {type : ValueType} (h : op.AppliesTo type) :
    op.Compares := by
  cases h with
  | eq => exact .eq
  | neq => exact .neq
  | ordering ordering _ => exact compares_iff.2 (.inr (.inr ordering))

/-- What an operator says of two values by how they stand to each other. -/
def saysOf : Operator → Standing → Bool
  | .eq, s => s.areEqual
  | .neq, s => !s.areEqual
  | op, s => s.order?.any op.holdsFor

theorem saysOf_of_isOrdering {op : Operator} {s : Standing} (ordering : op.isOrdering = true) :
    op.saysOf s = s.order?.any op.holdsFor := by
  rcases isOrdering_iff.1 ordering with rfl | rfl | rfl | rfl <;> rfl

/-- What an operator that compares makes of two literals by their type. -/
def compareAs : ValueType → Operator → Literal → Literal → Bool
  | .text => compareTexts
  | .number => compareNumbers
  | .date => compareDates

section Standing

variable {op : Operator} {type : ValueType} {a b : Literal} {s : Standing}

theorem compare_eq_compareAs (h : op.Compares) :
    op.compare type a b = op.compareAs type a b := by
  cases h <;> cases type <;> rfl

theorem compareTexts_eq (h : op.Compares) : op.compareTexts a b =
    (ValueType.text.standing? a b).any op.saysOf := by
  rw [compareTexts, ValueType.standing?]
  cases a.asText? with
  | none => rfl
  | some s =>
    cases b.asText? with
    | none => rfl
    | some t => cases h <;> rfl

theorem compareNumbers_eq (h : op.Compares) : op.compareNumbers a b =
    (ValueType.number.standing? a b).any op.saysOf := by
  rw [compareNumbers, ValueType.standing?]
  cases hx : a.asNumber? with
  | none => rfl
  | some x =>
    cases hy : b.asNumber? with
    | none => rfl
    | some y =>
      rcases Literal.exists_compare_eq hx hy with ⟨o, ho⟩
      rw [Option.map₂_some_some, Standing.ofNumbers_eq ho]
      dsimp only
      rw [ho]
      cases h <;> rfl

theorem compareDates_eq (h : op.Compares) : op.compareDates a b =
    (ValueType.date.standing? a b).any op.saysOf := by
  rw [compareDates, ValueType.standing?]
  cases a.asInstant? with
  | none => rfl
  | some s =>
    cases b.asInstant? with
    | none => rfl
    | some t =>
      -- days that are equal in their order are the same day
      have hday : (Ord.compare s.day t.day == Ordering.eq) = (s.day == t.day) := by
        rw [Bool.eq_iff_iff, beq_iff_eq, beq_iff_eq, compare_eq_iff_eq]
      cases h with
      | eq => exact hday
      | neq => exact congrArg not hday
      | gt | lt | gte | lte => rfl

/-- A comparison sees of its two values how they stand to each other, and it is false where one of
them cannot be read. -/
theorem compare_eq (h : op.Compares) : op.compare type a b =
    (type.standing? a b).any op.saysOf := by
  rw [compare_eq_compareAs h]
  cases type with
  | text => exact compareTexts_eq h
  | number => exact compareNumbers_eq h
  | date => exact compareDates_eq h

end Standing

/-! ## Laws -/

section Laws

variable {op : Operator} {type : ValueType} {a b : Literal} {s : Standing}

theorem compare_of_standing (h : op.Compares) (stand : type.standing? a b = some s) :
    op.compare type a b = op.saysOf s := by
  rw [compare_eq h, stand]
  rfl

theorem compare_eq_false (h : op.Compares)
    (unread : ¬(type.reads a = true ∧ type.reads b = true)) : op.compare type a b = false := by
  rw [compare_eq h, ValueType.standing?_eq_none.2 unread]
  rfl

theorem Compares.opposite (h : op.Compares) : op.opposite.Compares := by
  cases h <;> constructor

theorem Compares.converse (h : op.Compares) : op.converse.Compares := by
  cases h <;> constructor

theorem saysOf_converse (h : op.Compares) (s : Standing) :
    op.converse.saysOf s.swap = op.saysOf s := by
  rcases s with ⟨areEqual, order?⟩
  cases h with
  | eq | neq => rfl
  | gt | lt | gte | lte =>
    cases order? with
    | none => rfl
    | some o => cases o <;> rfl

/-- The converse of an operator says of two values exchanged what the operator says of them. -/
theorem compare_converse (h : op.Compares) (type : ValueType) (a b : Literal) :
    op.converse.compare type b a = op.compare type a b := by
  rw [compare_eq h, compare_eq h.converse, type.standing?_swap a b]
  cases type.standing? a b with
  | none => rfl
  | some s => exact saysOf_converse h s

theorem order?_isSome (ordered : type ≠ .text) (stand : type.standing? a b = some s) :
    s.order?.isSome = true := by
  cases type with
  | text => exact absurd rfl ordered
  | number =>
    rcases Option.map₂_eq_some_iff.1 stand with ⟨x, y, hx, hy, rfl⟩
    exact Option.isSome_iff_exists.2 (Literal.exists_compare_eq hx hy)
  | date =>
    rcases Option.map₂_eq_some_iff.1 stand with ⟨_, _, _, _, rfl⟩
    rfl

theorem AppliesTo.saysOf_opposite (applies : op.AppliesTo type)
    (stand : type.standing? a b = some s) : op.opposite.saysOf s = !op.saysOf s := by
  cases applies with
  | eq => rfl
  | neq => exact (Bool.not_not _).symm
  | ordering ordering ordered =>
    -- opposites divide the three orders between them
    rcases Option.isSome_iff_exists.1 (order?_isSome ordered stand) with ⟨o, ho⟩
    rcases isOrdering_iff.1 ordering with rfl | rfl | rfl | rfl <;>
    · rw [saysOf_of_isOrdering rfl, opposite, saysOf_of_isOrdering rfl, ho]
      cases o <;> rfl

/-- Of two values that can be read either an operator holds or its opposite. -/
theorem AppliesTo.compare_opposite (applies : op.AppliesTo type) (ha : type.reads a = true)
    (hb : type.reads b = true) : op.opposite.compare type a b = !op.compare type a b := by
  rcases ValueType.exists_standing ha hb with ⟨s, hs⟩
  rw [compare_of_standing applies.compares hs,
    compare_of_standing applies.compares.opposite hs,
    applies.saysOf_opposite hs]

/-- Neither an operator nor its opposite holds just where one of the two values cannot be read. -/
theorem AppliesTo.undecided_iff (applies : op.AppliesTo type) :
    op.compare type a b = false ∧ op.opposite.compare type a b = false ↔
      ¬(type.reads a = true ∧ type.reads b = true) := by
  constructor
  · rintro ⟨hop, hopposite⟩ ⟨ha, hb⟩
    rw [applies.compare_opposite ha hb, hop] at hopposite
    cases hopposite
  · intro unread
    exact ⟨compare_eq_false applies.compares unread,
      compare_eq_false applies.compares.opposite unread⟩

/-- Texts have no order. -/
theorem compare_text_eq_false (ordering : op.isOrdering = true) :
    op.compare .text a b = false := by
  rw [compare_eq (compares_iff.2 (.inr (.inr ordering))), ValueType.standing?]
  cases a.asText? with
  | none => rfl
  | some s =>
    cases b.asText? with
    | none => rfl
    | some t => rcases isOrdering_iff.1 ordering with rfl | rfl | rfl | rfl <;> rfl

/-- Of two numbers an operator says what it says of their order. -/
theorem compare_number_eq (h : op.Compares) {x y : Double} {o : Ordering}
    (hx : a.asNumber? = some x) (hy : b.asNumber? = some y) (order : x.compare y = some o) :
    op.compare .number a b = op.holdsFor o := by
  have hstanding : ValueType.number.standing? a b = some ⟨o == .eq, some o⟩ := by
    rw [ValueType.standing?, hx, hy, Option.map₂_some_some, Standing.ofNumbers_eq order]
  rw [compare_of_standing h hstanding]
  cases h <;> rfl

theorem exists_order_of_numbers (ha : ValueType.number.reads a = true)
    (hb : ValueType.number.reads b = true) :
    ∃ o, ∀ op : Operator, op.Compares → op.compare .number a b = op.holdsFor o := by
  rcases Option.isSome_iff_exists.1 ha with ⟨x, hx⟩
  rcases Option.isSome_iff_exists.1 hb with ⟨y, hy⟩
  rcases Literal.exists_compare_eq hx hy with ⟨o, ho⟩
  exact ⟨o, fun op hop => compare_number_eq hop hx hy ho⟩

/-- Dates count as equal on one day. -/
theorem eq_date_iff : Operator.eq.compare .date a b = true ↔
    ∃ s t, a.asInstant? = some s ∧ b.asInstant? = some t ∧ s.day = t.day := by
  rw [compare_eq .eq, Option.any_eq_true]
  constructor
  · rintro ⟨_, hstanding, hequal⟩
    rcases Option.map₂_eq_some_iff.1 hstanding with ⟨s, t, hs, ht, rfl⟩
    exact ⟨s, t, hs, ht, eq_of_beq hequal⟩
  · rintro ⟨s, t, hs, ht, hday⟩
    exact ⟨_, Option.map₂_eq_some_iff.2 ⟨s, t, hs, ht, rfl⟩, beq_iff_eq.2 hday⟩

theorem lt_date_iff : Operator.lt.compare .date a b = true ↔
    ∃ s t, a.asInstant? = some s ∧ b.asInstant? = some t ∧ s < t := by
  have hbefore : ∀ s t, lt.saysOf (.ofDates s t) = true ↔ s < t := by
    intro s t
    rw [← compare_lt_iff_lt]
    exact beq_iff_eq
  rw [compare_eq .lt, Option.any_eq_true]
  constructor
  · rintro ⟨_, hstanding, h⟩
    rcases Option.map₂_eq_some_iff.1 hstanding with ⟨s, t, hs, ht, rfl⟩
    exact ⟨s, t, hs, ht, (hbefore s t).1 h⟩
  · rintro ⟨s, t, hs, ht, hlt⟩
    exact ⟨_, Option.map₂_eq_some_iff.2 ⟨s, t, hs, ht, rfl⟩, (hbefore s t).2 hlt⟩

theorem gt_eq_false_of_lt (h : Operator.lt.compare type a b = true) :
    Operator.gt.compare type a b = false := by
  rw [compare_eq .lt] at h
  rw [compare_eq .gt]
  cases hstanding : type.standing? a b with
  | none => rfl
  | some s =>
    rw [hstanding, Option.any_some, saysOf_of_isOrdering rfl] at h
    rw [Option.any_some, saysOf_of_isOrdering rfl]
    cases ho : s.order? with
    | none => rfl
    | some o =>
      rw [ho] at h
      have hless : o = .lt := eq_of_beq h
      rw [hless]
      rfl

/-- Of two values that can be read, equality holds or inequality, and not both. -/
theorem existsUnique_equality (ha : type.reads a = true) (hb : type.reads b = true) :
    ∃! op, op ∈ [Operator.eq, .neq] ∧ op.compare type a b = true := by
  have hneq : Operator.neq.compare type a b = !Operator.eq.compare type a b :=
    (AppliesTo.eq type).compare_opposite ha hb
  cases heq : Operator.eq.compare type a b with
  | true =>
    rw [heq] at hneq
    refine ⟨.eq, ⟨by decide, heq⟩, ?_⟩
    rintro op ⟨hop, hholds⟩
    rcases List.mem_pair.1 hop with rfl | rfl
    · rfl
    · rw [hneq] at hholds
      cases hholds
  | false =>
    rw [heq] at hneq
    refine ⟨.neq, ⟨by decide, hneq⟩, ?_⟩
    rintro op ⟨hop, hholds⟩
    rcases List.mem_pair.1 hop with rfl | rfl
    · rw [heq] at hholds
      cases hholds
    · rfl

/-- One of two numbers is the less, or they are equal. -/
theorem existsUnique_order_of_numbers (ha : ValueType.number.reads a = true)
    (hb : ValueType.number.reads b = true) :
    ∃! op, op ∈ [Operator.lt, .eq, .gt] ∧ op.compare .number a b = true := by
  rcases exists_order_of_numbers ha hb with ⟨o, ho⟩
  have hunique : ∃! op, op ∈ [Operator.lt, .eq, .gt] ∧ op.holdsFor o = true := by
    cases o with
    | lt => exact ⟨.lt, by decide, by simp [holdsFor]⟩
    | eq => exact ⟨.eq, by decide, by simp [holdsFor]⟩
    | gt => exact ⟨.gt, by decide, by simp [holdsFor]⟩
  have hsame : ∀ op, op ∈ [Operator.lt, .eq, .gt] ∧ op.compare .number a b = true ↔
      op ∈ [Operator.lt, .eq, .gt] ∧ op.holdsFor o = true := by
    intro op
    refine and_congr_right ?_
    intro hop
    have hcompares : op.Compares := by
      simp only [List.mem_cons, List.not_mem_nil, or_false] at hop
      rcases hop with rfl | rfl | rfl <;> constructor
    rw [ho op hcompares]
  exact (existsUnique_congr hsame).2 hunique

theorem lt_self_eq_false (type : ValueType) (l : Literal) : Operator.lt.compare type l l = false := by
  rw [← Bool.not_eq_true]
  intro hlt
  -- what is less than itself is also greater than itself
  have hgt : Operator.gt.compare type l l = true := (compare_converse .lt type l l).trans hlt
  rw [gt_eq_false_of_lt hlt] at hgt
  cases hgt

/-- A value counts as equal to itself, and is neither less nor greater. -/
theorem AppliesTo.compare_self (applies : op.AppliesTo type)
    (reflexive : op = .eq ∨ op = .gte ∨ op = .lte) (ha : type.reads a = true) :
    op.compare type a a = true := by
  have hlt : Operator.lt.compare type a a = false := lt_self_eq_false type a
  have hgt : Operator.gt.compare type a a = false :=
    (compare_converse .lt type a a).trans hlt
  rcases reflexive with rfl | rfl | rfl
  · cases type with
    | text =>
      rcases Option.isSome_iff_exists.1 ha with ⟨s, hs⟩
      rw [compare_eq .eq, ValueType.standing?, hs]
      exact beq_self_eq_true s
    | number =>
      rcases Option.isSome_iff_exists.1 ha with ⟨x, hx⟩
      exact compare_number_eq .eq hx hx (Double.compare_self (Literal.isNaN_of_asNumber? hx))
    | date =>
      rcases Option.isSome_iff_exists.1 ha with ⟨t, ht⟩
      exact eq_date_iff.2 ⟨t, t, ht, ht, rfl⟩
  · have hopposite := applies.compare_opposite ha ha
    rw [opposite, hlt] at hopposite
    simpa using hopposite.symm
  · have hopposite := applies.compare_opposite ha ha
    rw [opposite, hgt] at hopposite
    simpa using hopposite.symm

/-- Sharing a day is an equivalence of the literals that count as dates. -/
theorem eq_date_equivalence : Equivalence fun x y : {l : Literal // ValueType.date.reads l = true} =>
    Operator.eq.compare .date x y = true where
  refl := by
    rintro ⟨l, hl⟩
    exact (AppliesTo.eq .date).compare_self (.inl rfl) hl
  symm := by
    rintro ⟨l, _⟩ ⟨m, _⟩ h
    exact (compare_converse .eq .date l m).trans h
  trans := by
    rintro ⟨l, _⟩ ⟨m, _⟩ ⟨n, _⟩ hlm hmn
    rcases eq_date_iff.1 hlm with ⟨r, s, hr, hs, hrs⟩
    rcases eq_date_iff.1 hmn with ⟨s', t, hs', ht, hst⟩
    cases Option.some.inj (hs.symm.trans hs')
    exact eq_date_iff.2 ⟨r, t, hr, ht, hrs.trans hst⟩

/-- A date before another one and not on its day is on a day before. -/
theorem day_lt_of_lt_of_neq (hlt : Operator.lt.compare .date a b = true)
    (hneq : Operator.neq.compare .date a b = true) :
    ∃ s t, a.asInstant? = some s ∧ b.asInstant? = some t ∧ s.day < t.day := by
  rcases lt_date_iff.1 hlt with ⟨s, t, hs, ht, hbefore⟩
  -- on one day the two would be equal, which is the opposite of what is given
  have hday : s.day ≠ t.day := by
    intro hday
    have heq : Operator.eq.compare .date a b = true := eq_date_iff.2 ⟨s, t, hs, ht, hday⟩
    have hopposite := (AppliesTo.eq .date).compare_opposite (a := a) (b := b)
      (Option.isSome_iff_exists.2 ⟨s, hs⟩) (Option.isSome_iff_exists.2 ⟨t, ht⟩)
    rw [opposite, heq, hneq] at hopposite
    cases hopposite
  exact ⟨s, t, hs, ht, lt_of_le_of_ne (Instant.day_le_of_le hbefore.le) hday⟩

end Laws

end Operator

/-- Where one of two literals does not count as a value of the type, no operator that compares holds of
them.  Where both do, equality holds or inequality and not both; numbers and dates are not both less
and greater, and "at least" and "at most" are the opposites of "less" and "greater"; one number is
less than the other, equal to it or greater, and only one of these.  Exchanging the two exchanges
each operator with its converse, which for equality and inequality is the operator itself.  Dates are
equal on one day, as are those of one instant, and a date that is before another and not equal to it
is on a day before.  Texts have no order. -/
theorem comparison_laws (type : ValueType) (a b : Literal) :
    (¬(type.reads a = true ∧ type.reads b = true) →
      ∀ op : Operator, op.Compares → op.compare type a b = false) ∧
    (type.reads a = true → type.reads b = true →
      (∃! op, op ∈ [Operator.eq, .neq] ∧ op.compare type a b = true) ∧
      (type ≠ .text →
        ¬(Operator.gt.compare type a b = true ∧ Operator.lt.compare type a b = true) ∧
        (Operator.gte.compare type a b = !Operator.lt.compare type a b) ∧
        (Operator.lte.compare type a b = !Operator.gt.compare type a b)) ∧
      (type = .number →
        ∃! op, op ∈ [Operator.lt, .eq, .gt] ∧ op.compare type a b = true)) ∧
    (∀ op : Operator, op.Compares → op.converse.compare type b a = op.compare type a b) ∧
    (Equivalence fun x y : {l : Literal // ValueType.date.reads l = true} =>
      Operator.eq.compare .date x y = true) ∧
    (∀ t, a.asInstant? = some t → b.asInstant? = some t → Operator.eq.compare .date a b = true) ∧
    (Operator.lt.compare .date a b = true → Operator.neq.compare .date a b = true →
      ∃ s t, a.asInstant? = some s ∧ b.asInstant? = some t ∧ s.day < t.day) ∧
    ∀ op : Operator, op.isOrdering = true → op.compare .text a b = false := by
  refine ⟨?_, ?_, ?_, Operator.eq_date_equivalence, ?_, Operator.day_lt_of_lt_of_neq, ?_⟩
  · intro unread op compares
    exact Operator.compare_eq_false compares unread
  · intro ha hb
    refine ⟨Operator.existsUnique_equality ha hb, ?_, ?_⟩
    · intro ordered
      have hless : Operator.lt.AppliesTo type := .ordering rfl ordered
      have hgreater : Operator.gt.AppliesTo type := .ordering rfl ordered
      refine ⟨?_, hless.compare_opposite ha hb, hgreater.compare_opposite ha hb⟩
      rintro ⟨hgt, hlt⟩
      rw [Operator.gt_eq_false_of_lt hlt] at hgt
      cases hgt
    · rintro rfl
      exact Operator.existsUnique_order_of_numbers ha hb
  · intro op compares
    exact Operator.compare_converse compares type a b
  · intro t ha hb
    exact Operator.eq_date_iff.2 ⟨t, t, ha, hb, rfl⟩
  · intro op ordering
    exact Operator.compare_text_eq_false ordering

namespace Sample

/-- The last second of a day in UTC, written where the day after has begun. -/
def beforeMidnight : Literal :=
  .text "2025-04-03T01:59:59+02:00"

/-- The midnight after it, written in the same place. -/
def midnight : Literal :=
  .text "2025-04-03T02:00:00+02:00"

end Sample

/-- The last second before a midnight in UTC is of the day before, though both are written on one day. -/
theorem comparison_laws_around_midnight :
    (∃! op, op ∈ [Operator.eq, .neq] ∧
      op.compare .date Sample.beforeMidnight Sample.midnight = true) ∧
    Operator.gte.compare .date Sample.beforeMidnight Sample.midnight = false ∧
    ∃ s t, Sample.beforeMidnight.asInstant? = some s ∧ Sample.midnight.asInstant? = some t ∧
      s.day < t.day := by
  rcases comparison_laws .date Sample.beforeMidnight Sample.midnight with
    ⟨_, hread, _, _, _, hday, _⟩
  have hlt : Operator.lt.compare .date Sample.beforeMidnight Sample.midnight = true := by
    decide +kernel
  have hneq : Operator.neq.compare .date Sample.beforeMidnight Sample.midnight = true := by
    decide +kernel
  have hlaws := hread (by decide +kernel) (by decide +kernel)
  refine ⟨hlaws.1, ?_, hday hlt hneq⟩
  rw [(hlaws.2.1 (by decide)).2.1, hlt]
  rfl

end EventRewards
