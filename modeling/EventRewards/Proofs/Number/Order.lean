import EventRewards.Number.Double

/-!
# The order of doubles

Any two doubles stand in an order, unless one of them is NaN.  The infinities lie beyond all finite
numbers.
-/

namespace EventRewards
namespace Double

variable {x y : Double}

/-- Exchanging two numbers turns their order round. -/
theorem compare_swap (x y : Double) : y.compare x = (x.compare y).map Ordering.swap := by
  cases x with
  | nan => cases y <;> rfl
  | infinite s =>
    cases y with
    | nan => rfl
    | infinite t => cases s <;> cases t <;> rfl
    | finite t v fits => cases s <;> rfl
  | finite s u fits =>
    cases y with
    | nan => rfl
    | infinite t => cases t <;> rfl
    | finite t v fits' =>
      rw [compare, compare, Option.map_some, Int.compare_swap]

theorem compare_isSome (hx : x.isNaN = false) (hy : y.isNaN = false) :
    (x.compare y).isSome = true := by
  cases x with
  | nan => cases hx
  | infinite s =>
    cases y with
    | nan => cases hy
    | infinite t => rfl
    | finite t v fits => rfl
  | finite s u fits =>
    cases y with
    | nan => cases hy
    | infinite t => rfl
    | finite t v fits' => rfl

theorem compare_self (hx : x.isNaN = false) : x.compare x = some .eq := by
  cases x with
  | nan => cases hx
  | infinite s => cases s <;> rfl
  | finite s u fits => rw [compare, Std.ReflOrd.compare_self]

theorem isNaN_of_isFinite (h : x.isFinite = true) : x.isNaN = false := by
  cases x with
  | finite s u fits => rfl
  | nan | infinite s => cases h

theorem infinite_compare (negative : Bool) (h : x.isFinite = true) :
    (infinite negative).compare x = some (if negative then .lt else .gt) := by
  cases x with
  | finite s u fits => rfl
  | nan | infinite s => cases h

end Double
end EventRewards
