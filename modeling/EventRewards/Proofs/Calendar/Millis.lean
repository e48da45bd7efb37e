import EventRewards.Literal
import EventRewards.Proofs.Instants
import EventRewards.Proofs.Number.Rounding

/-!
# Milliseconds since the epoch

Dates count as numbers and numbers as dates by their milliseconds since the epoch.  The milliseconds of
the years in use need fewer than 53 bits, so that doubles hold each of them; what is beyond them by ever
so much, and the integers at which the range of 64 bits ends, are milliseconds of no date.
-/

namespace EventRewards

/-! ## Instants -/

namespace Instant

variable {t : Instant} {millis : Int}

/-- Whether an instant comes so many milliseconds after 1970-01-01T00:00:00Z.  The count leaves leap
seconds out, and what lies between two milliseconds. -/
structure IsAtMillis (t : Instant) (millis : Int) : Prop where
  regular : t.nano < nanosPerSecond
  nanos : (t.day * secondsPerDay + t.second) * nanosPerSecond + t.nano = millis * 1000000

/-- Whether some milliseconds lie within the years in use. -/
def InRange (millis : Int) : Prop :=
  Civil.firstDay * millisPerDay ≤ millis ∧ millis < (Civil.lastDay + 1) * millisPerDay

/-- An instant is found from milliseconds exactly when it is there. -/
theorem ofMillis?_eq_some : ofMillis? millis = some t ↔ t.IsAtMillis millis := by
  have hsecond := t.second_lt
  rw [ofMillis?, ofParts?_eq_some]
  simp only [millisPerDay, secondsPerDay] at hsecond ⊢
  constructor
  · rintro ⟨hday, hclock, hnano, _⟩
    constructor
    · simp only [nanosPerSecond]
      omega
    · simp only [nanosPerSecond, secondsPerDay]
      omega
  · rintro ⟨hregular, hnanos⟩
    -- days, seconds and nanoseconds are the digits of the count, also where it is negative
    simp only [LeapEndsMinute, nanosPerSecond, secondsPerDay] at hregular hnanos ⊢
    omega

theorem IsAtMillis.toMillis_eq (h : t.IsAtMillis millis) : t.toMillis = millis := by
  have hregular := h.regular
  have hnanos := h.nanos
  simp only [toMillis, nanosPerSecond, secondsPerDay] at hregular hnanos ⊢
  omega

/-- There is an instant at each of the milliseconds of the years in use, and at no others. -/
theorem exists_isAtMillis_iff : (∃ t, IsAtMillis t millis) ↔ InRange millis := by
  constructor
  · rintro ⟨t, h⟩
    have hsecond := t.second_lt
    have hfirst := t.day_ge
    have hlast := t.day_le
    have hregular := h.regular
    have hnanos := h.nanos
    simp only [InRange, millisPerDay, Civil.firstDay, Civil.lastDay, nanosPerSecond,
      secondsPerDay] at *
    omega
  · intro hrange
    simp only [InRange, millisPerDay, Civil.firstDay, Civil.lastDay] at hrange
    have hparts : Civil.firstDay ≤ millis / millisPerDay ∧ millis / millisPerDay ≤ Civil.lastDay ∧
        (millis % millisPerDay).toNat / 1000 < secondsPerDay ∧
        (millis % millisPerDay).toNat % 1000 * 1000000 < nanosPerSecond := by
      simp only [millisPerDay, Civil.firstDay, Civil.lastDay, nanosPerSecond, secondsPerDay]
      omega
    rcases hparts with ⟨hfirst, hlast, hsecond, hregular⟩
    let t : Instant := ⟨millis / millisPerDay, (millis % millisPerDay).toNat / 1000,
      (millis % millisPerDay).toNat % 1000 * 1000000, hfirst, hlast, hsecond,
      hregular.trans_le (by decide)⟩
    have hends : t.LeapEndsMinute := fun h => absurd h hregular.not_ge
    exact ⟨t, ofMillis?_eq_some.1 (ofParts?_eq_some.2 ⟨rfl, rfl, rfl, hends⟩)⟩

theorem InRange.natAbs_lt (h : InRange millis) : millis.natAbs < 2 ^ 53 := by
  simp only [InRange, millisPerDay, Civil.firstDay, Civil.lastDay] at h
  omega

/-- The milliseconds of any instant have fewer than 53 bits, those of leap seconds at the end of the
last year included. -/
theorem toMillis_natAbs_lt (t : Instant) : t.toMillis.natAbs < 2 ^ 53 := by
  have hsecond := t.second_lt
  have hnano := t.nano_lt
  have hfirst := t.day_ge
  have hlast := t.day_le
  simp only [toMillis, Civil.firstDay, Civil.lastDay, nanosPerSecond, secondsPerDay] at *
  omega

theorem ofMillis?_eq_none : ofMillis? millis = none ↔ ¬InRange millis := by
  rw [← exists_isAtMillis_iff, Option.eq_none_iff_forall_ne_some, not_exists]
  exact forall_congr' fun t => not_congr ofMillis?_eq_some

/-- What is cut down to an end of the range of 64 bits does not come to lie within the years in use. -/
theorem not_inRange_ofIntClamp (beyond : ¬InRange millis) :
    ¬InRange (Int64.ofIntClamp millis).toInt := by
  have hleast : ¬InRange Int64.minValue.toInt := by
    simp only [InRange, millisPerDay, Civil.firstDay, Civil.lastDay, Int64.toInt_minValue]
    omega
  have hgreatest : ¬InRange Int64.maxValue.toInt := by
    simp only [InRange, millisPerDay, Civil.firstDay, Civil.lastDay, Int64.toInt_maxValue]
    omega
  rw [Int64.ofIntClamp]
  split
  · split
    · rwa [Int64.toInt_ofIntLE]
    · exact hgreatest
  · exact hleast

/-- So it makes no difference to dates that the range of 64 bits has ends. -/
theorem ofMillis?_ofIntClamp (millis : Int) :
    ofMillis? (Int64.ofIntClamp millis).toInt = ofMillis? millis := by
  by_cases hrange : InRange millis
  · have hbits := hrange.natAbs_lt
    rw [Int64.toInt_ofIntClamp]
    · rw [Int64.toInt_minValue]
      omega
    · rw [Int64.toInt_maxValue]
      omega
  · rw [ofMillis?_eq_none.2 hrange, ofMillis?_eq_none]
    exact not_inRange_ofIntClamp hrange

end Instant

/-! ## Literals -/

namespace Literal

/-- A date counts as its milliseconds, none of which is rounded. -/
theorem asNumber?_date (t : Instant) :
    ∃ x, (date t).asNumber? = some x ∧ x.IsInt t.toMillis := by
  have hint := Double.ofInt_isInt t.toMillis_natAbs_lt
  refine ⟨.ofInt t.toMillis, ?_, hint⟩
  rcases hint with ⟨_, _, _, hvalue, _⟩
  rw [asNumber?, hvalue]
  rfl

/-- A finite number counts as the instant at it without its fraction, in whatever range this is. -/
theorem asInstant?_finite (negative : Bool) (units : Nat) (fits : Fits units) :
    (number (.finite negative units fits)).asInstant? =
      Instant.ofMillis? ((Double.signedUnits negative units).tdiv unitsPerOne) := by
  rw [asInstant?, Double.isFinite, if_pos rfl, Double.toInt64_finite, Instant.ofMillis?_ofIntClamp]

theorem asInstant?_of_isInt {x : Double} {n : Int} (h : x.IsInt n) :
    (number x).asInstant? = Instant.ofMillis? n := by
  rcases h with ⟨negative, units, fits, rfl, hunits⟩
  have hone : (unitsPerOne : Int) ≠ 0 := Int.natCast_ne_zero.2 Double.unitsPerOne_pos.ne'
  rw [asInstant?_finite, hunits, Int.mul_tdiv_cancel n hone]

end Literal

/-- On milliseconds the two coercions undo each other: a date at some milliseconds counts as exactly
that number, and each double that is this number counts as the date.  Any finite number counts as the
date at its integer part, which is taken toward zero, where there is one, and as none where this lies
before or after the years in use; what is not finite counts as no date. -/
theorem coercions_inverse_on_millis :
    (∀ (millis : Int) (t : Instant), t.IsAtMillis millis →
      millis.natAbs < 2 ^ 53 ∧
      (∃ x, (Literal.date t).asNumber? = some x ∧ x.IsInt millis) ∧
      ∀ x : Double, x.IsInt millis → (Literal.number x).asInstant? = some t) ∧
    (∀ negative units fits,
      let whole := (Double.signedUnits negative units).tdiv unitsPerOne
      (∀ t, (Literal.number (.finite negative units fits)).asInstant? = some t ↔
        t.IsAtMillis whole) ∧
      ((Literal.number (.finite negative units fits)).asInstant? = none ↔
        whole < Civil.firstDay * Instant.millisPerDay ∨
          (Civil.lastDay + 1) * Instant.millisPerDay ≤ whole)) ∧
    (∀ negative, (Literal.number (.infinite negative)).asInstant? = none) ∧
    (Literal.number .nan).asInstant? = none := by
  refine ⟨?_, ?_, fun _ => rfl, rfl⟩
  · intro millis t hat
    have hrange := Instant.exists_isAtMillis_iff.1 ⟨t, hat⟩
    rcases Literal.asNumber?_date t with ⟨x, hx, hint⟩
    refine ⟨hrange.natAbs_lt, ⟨x, hx, hat.toMillis_eq ▸ hint⟩, ?_⟩
    intro y hy
    rw [Literal.asInstant?_of_isInt hy]
    exact Instant.ofMillis?_eq_some.2 hat
  · intro negative units fits whole
    rw [Literal.asInstant?_finite]
    refine ⟨fun t => Instant.ofMillis?_eq_some, ?_⟩
    rw [Instant.ofMillis?_eq_none, Instant.InRange, not_and_or, not_le, not_lt]

namespace Sample

/-- The last millisecond of 1969 is the one before the epoch. -/
theorem exists_lastOfSixties : ∃ t : Instant,
    t.day = -1 ∧ t.second = 86399 ∧ t.nano = 999000000 ∧ t.IsAtMillis (-1) :=
  ⟨⟨-1, 86399, 999000000, by decide, by decide, by decide, by decide⟩, rfl, rfl, rfl, by decide,
    by decide⟩

theorem minusThreeHalves_eq : ∃ fits, Double.ofRatio true 3 2 =
    .finite true (unitsPerOne + unitsPerOne / 2) fits := by
  decide +kernel

theorem minusThreeHalves_whole :
    (Double.signedUnits true (unitsPerOne + unitsPerOne / 2)).tdiv unitsPerOne = -1 := by
  decide +kernel

end Sample

/-- The last millisecond of 1969 counts as minus one, and minus one and a half counts as it. -/
theorem coercions_inverse_on_millis_before_epoch :
    ∃ t : Instant, t.day = -1 ∧ t.second = 86399 ∧ t.nano = 999000000 ∧
      (∃ x, (Literal.date t).asNumber? = some x ∧ x.IsInt (-1)) ∧
      (Literal.number (.ofInt (-1))).asInstant? = some t ∧
      (Literal.number (.ofRatio true 3 2)).asInstant? = some t := by
  rcases coercions_inverse_on_millis with ⟨hmillis, hfinite, _, _⟩
  rcases Sample.exists_lastOfSixties with ⟨t, hday, hsecond, hnano, hat⟩
  rcases hmillis (-1) t hat with ⟨_, hnumber, hinstant⟩
  refine ⟨t, hday, hsecond, hnano, hnumber, hinstant _ (Double.ofInt_isInt (by decide)), ?_⟩
  rcases Sample.minusThreeHalves_eq with ⟨fits, hvalue⟩
  rw [hvalue, (hfinite true _ fits).1, Sample.minusThreeHalves_whole]
  exact hat

end EventRewards
