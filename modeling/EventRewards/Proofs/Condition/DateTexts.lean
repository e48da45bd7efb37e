import EventRewards.Condition.Compare
import EventRewards.Proofs.Calendar.Texts
import EventRewards.Proofs.Json.Strings

/-!
# Dates in documents

There is no form for dates in JSON documents: a date is written as its text, and comes back as a text.
As long as its year has four digits nothing is lost by that, since the text counts as the date that
was written wherever a date is asked for.  A leap second within a minute is lost, though: its text
counts as the second after it.
-/

namespace EventRewards

/-- Literals that count as instants of one day compare alike as dates with whatever does not lie between
the two, and equality cannot tell them apart from anywhere. -/
theorem Operator.compare_date_of_same_day (op : Operator) {a a' x : Literal} {s t : Instant}
    (null : a.isNull = a'.isNull) (ha : a.asInstant? = some s) (ha' : a'.asInstant? = some t)
    (day : s.day = t.day)
    (apart : op.isOrdering = true → ∀ v, x.asInstant? = some v →
      Ord.compare s v = Ord.compare t v ∧ Ord.compare v s = Ord.compare v t) :
    op.compare .date a x = op.compare .date a' x ∧ op.compare .date x a = op.compare .date x a' := by
  cases op with
  | eq | neq =>
    simp only [compare, compareDates, ha, ha']
    cases x.asInstant? with
    | none => exact ⟨rfl, rfl⟩
    | some v => simp only [day, and_self]
  | gt | lt | gte | lte =>
    simp only [compare, compareDates, ha, ha']
    cases hx : x.asInstant? with
    | none => exact ⟨rfl, rfl⟩
    | some v =>
      rcases apart rfl v hx with ⟨hleft, hright⟩
      simp only [hleft, hright, and_self]
  -- the others ask at most whether there is a value
  | _ => simp only [compare, null, and_self]

namespace Literal

/-- A date is written as its text, which is read as a text. -/
theorem decode_toJson_date (t : Instant) : decode (date t).toJson = .ok (.text t.toText) :=
  rfl

variable {t : Instant}

theorem asInstant?_toText (h : 0 ≤ t.date.year ∧ t.date.year ≤ 9999) :
    (text t.toText).asInstant? = some t.asShown := by
  simp only [asInstant?, Instant.ofText?_toText_eq_asShown h]

theorem isDateLike_toText (h : 0 ≤ t.date.year ∧ t.date.year ≤ 9999) :
    (text t.toText).isDateLike = true := by
  simp only [isDateLike, Instant.ofText?_toText_eq_asShown h, Option.isSome_some]

/-- The JSON text of a date is read as the value that was written. -/
theorem read_compact_toJson_date (options : Json.ReadOptions) (t : Instant) :
    Json.read options (date t).toJson.compact = .whole (date t).toJson :=
  Json.read_compact_str options t.toText

end Literal

/-- A date whose year has four digits comes back from its document, and from the text of that, as a
text that is like a date and is accepted as one like the date itself.  Unless it lies in a leap second
within a minute, it counts as the same instant, to the nanosecond, and comparing as dates cannot tell
the two apart, on either side of any operator.  If it does, it counts as the instant with the next
second and the nanoseconds left over, which is on the same day, and only an operator that asks which is
greater can tell the two apart, from a value that does not come before both or after both. -/
theorem dates_survive_documents (t : Instant) (first : 0 ≤ t.date.year) (last : t.date.year ≤ 9999) :
    (∀ options, Json.read options (Literal.date t).toJson.compact = .whole (Literal.date t).toJson) ∧
    ∃ s : String, Literal.decode (Literal.date t).toJson = .ok (.text s) ∧
      (Literal.text s).isDateLike = true ∧
      ValueType.date.accepts (.text s) = ValueType.date.accepts (.date t) ∧
      (t.LeapEndsMinute →
        (Literal.text s).asInstant? = some t ∧
        ∀ (op : Operator) (x : Literal),
          op.compare .date (.text s) x = op.compare .date (.date t) x ∧
          op.compare .date x (.text s) = op.compare .date x (.date t)) ∧
      (¬t.LeapEndsMinute → ∃ u, (Literal.text s).asInstant? = some u ∧
        u.day = t.day ∧ u.second = t.second + 1 ∧ u.nano = t.nano - nanosPerSecond ∧
        ∀ (op : Operator) (x : Literal),
          (op.isOrdering = true → ∀ v, x.asInstant? = some v → v < t ∨ u < v) →
          op.compare .date (.text s) x = op.compare .date (.date t) x ∧
          op.compare .date x (.text s) = op.compare .date x (.date t)) := by
  have hinstant := Literal.asInstant?_toText ⟨first, last⟩
  have hlike := Literal.isDateLike_toText ⟨first, last⟩
  refine ⟨fun options => Literal.read_compact_toJson_date options t, t.toText,
    Literal.decode_toJson_date t, hlike, hlike, ?_, ?_⟩
  · intro ends
    rw [Instant.asShown_of_leapEndsMinute ends] at hinstant
    refine ⟨hinstant, fun op x => ?_⟩
    exact op.compare_date_of_same_day rfl hinstant rfl rfl fun _ _ _ => ⟨rfl, rfl⟩
  · intro within
    rcases Instant.asShown_of_not within with ⟨hday, hsecond, hnano⟩
    refine ⟨t.asShown, hinstant, hday, hsecond, hnano, fun op x apart => ?_⟩
    exact op.compare_date_of_same_day rfl hinstant rfl hday fun ordering v hv =>
      Instant.compare_asShown within (apart ordering v hv)

/-- A leap second at the end of a minute comes back as it was, though its text shows a second that most
minutes lack; one within a minute comes back as a third of the second after it, and equals what it did. -/
theorem dates_survive_documents_in_leap_seconds :
    (∃ s : String, Literal.decode (Literal.date Sample.leapSecond).toJson = .ok (.text s) ∧
      (Literal.text s).asInstant? = some Sample.leapSecond) ∧
    ∃ s u, Literal.decode (Literal.date Sample.withinMinute).toJson = .ok (.text s) ∧
      (Literal.text s).asInstant? = some u ∧ u.second = 86165 ∧ u.nano = 333333333 ∧
      ∀ x, Operator.eq.compare .date (.text s) x =
        Operator.eq.compare .date (.date Sample.withinMinute) x := by
  rcases dates_survive_documents Sample.leapSecond (by decide) (by decide) with
    ⟨_, s, hread, _, _, hends, _⟩
  rcases dates_survive_documents Sample.withinMinute (by decide) (by decide) with
    ⟨_, s', hread', _, _, _, hwithin⟩
  rcases hwithin (by decide) with ⟨u, hu, _, hsecond, hnano, hcompare⟩
  refine ⟨⟨s, hread, (hends (by decide)).1⟩, s', u, hread', hu, hsecond, hnano, fun x => ?_⟩
  exact (hcompare .eq x fun ordering => by cases ordering).1

/-- In a leap second within a minute a date is not what its text counts as: the text is no longer at most
the date, and it is later than the full second, which the date comes before. -/
theorem dates_change_in_leap_second_within_minute :
    0 ≤ Sample.withinMinute.date.year ∧ Sample.withinMinute.date.year ≤ 9999 ∧
    ∃ s : String, Literal.decode (Literal.date Sample.withinMinute).toJson = .ok (.text s) ∧
      (Literal.text s).asInstant? ≠ some Sample.withinMinute ∧
      Operator.lte.compare .date (.date Sample.withinMinute) (.date Sample.withinMinute) = true ∧
      Operator.lte.compare .date (.text s) (.date Sample.withinMinute) = false ∧
      Operator.gt.compare .date (.date Sample.withinMinute) (.text "2015-06-30T23:56:05Z") = false ∧
      Operator.gt.compare .date (.text s) (.text "2015-06-30T23:56:05Z") = true := by
  refine ⟨by decide, by decide, _, Literal.decode_toJson_date _, ?_⟩
  decide +kernel

end EventRewards
