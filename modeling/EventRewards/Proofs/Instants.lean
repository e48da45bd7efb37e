import EventRewards.Calendar.Instant
import Mathlib.Order.BoundedOrder.Basic
import Mathlib.Order.Lattice

/-!
# Instants

An instant is found from its parts, unless it lies in a leap second within a minute.  Instants are
ordered by their ranks, and no two instants have the same rank: their order is linear.  It follows that
of their days, and as only the years in use have days, there is a first and a last instant.
-/

namespace EventRewards
namespace Instant

theorem ofParts?_eq_some {t : Instant} {day : Int} {second nano : Nat} :
    ofParts? day second nano = some t ↔
      t.day = day ∧ t.second = second ∧ t.nano = nano ∧ t.LeapEndsMinute := by
  rw [ofParts?]
  constructor
  · intro h
    split at h
    · dsimp only at h
      split at h
      · next hleap =>
        cases h
        exact ⟨rfl, rfl, rfl, hleap⟩
      · cases h
    · cases h
  · rintro ⟨rfl, rfl, rfl, hleap⟩
    rw [dif_pos ⟨t.day_ge, t.day_le, t.second_lt, t.nano_lt⟩]
    exact if_pos hleap

/-! ## Order -/

/-- A rank leaves room for the nanoseconds of a leap second, so that its parts can be read off. -/
theorem rank_injective {a b : Instant} (h : a.rank = b.rank) : a = b := by
  rcases a with ⟨day, second, nano, _, _, second_lt, nano_lt⟩
  rcases b with ⟨day', second', nano', _, _, second_lt', nano_lt'⟩
  simp only [rank, nanosPerSecond, secondsPerDay] at h second_lt second_lt' nano_lt nano_lt'
  have hnano : nano = nano' := by omega
  have hsecond : second = second' := by omega
  have hday : day = day' := by omega
  subst hnano hsecond hday
  rfl

instance : LinearOrder Instant where
  le_refl a := Int.le_refl a.rank
  le_trans a b c := Int.le_trans (a := a.rank) (b := b.rank) (c := c.rank)
  lt_iff_le_not_ge a b := Int.lt_iff_le_and_not_ge (a := a.rank) (b := b.rank)
  le_antisymm _ _ hab hba := rank_injective (Int.le_antisymm hab hba)
  le_total a b := Int.le_total a.rank b.rank
  toDecidableLE := inferInstance
  toDecidableLT := inferInstance
  toDecidableEq := inferInstance
  compare_eq_compareOfLessAndEq a b := by
    have hlt : a < b ↔ a.rank < b.rank := Iff.rfl
    have heq : a = b ↔ a.rank = b.rank := ⟨congrArg rank, rank_injective⟩
    change compareOfLessAndEq a.rank b.rank = compareOfLessAndEq a b
    simp only [compareOfLessAndEq, hlt, heq]

theorem day_le_of_le {a b : Instant} (h : a ≤ b) : a.day ≤ b.day := by
  rcases a with ⟨day, second, nano, _, _, second_lt, nano_lt⟩
  rcases b with ⟨day', second', nano', _, _, second_lt', nano_lt'⟩
  change rank _ ≤ rank _ at h
  simp only [rank, nanosPerSecond, secondsPerDay] at h second_lt second_lt' nano_lt nano_lt' ⊢
  omega

theorem nanos_pos : 0 < 2 * nanosPerSecond := by
  decide

/-- The last instant is the end of a leap second, which is later than that of the second before it. -/
instance : BoundedOrder Instant where
  bot := ⟨Civil.firstDay, 0, 0, le_rfl, by decide, by decide, nanos_pos⟩
  bot_le t := by
    change rank _ ≤ rank t
    have hday := t.day_ge
    simp only [rank, nanosPerSecond, secondsPerDay]
    omega
  top := ⟨Civil.lastDay, secondsPerDay - 1, 2 * nanosPerSecond - 1, by decide, le_rfl, by decide,
    by decide⟩
  le_top t := by
    change rank t ≤ rank _
    have hday := t.day_le
    have hsecond := t.second_lt
    have hnano := t.nano_lt
    simp only [rank, nanosPerSecond, secondsPerDay] at hsecond hnano ⊢
    omega

end Instant
end EventRewards
