/-!
# Double-precision numbers

A finite double is an integer multiple of 2⁻¹⁰⁷⁴, the least positive one.  `Double.finite` holds its
sign and the number of these units, so that order, rounding and truncation are exact integer
arithmetic.  A number of units fits when it is below 2²⁰⁹⁸ and has at most 53 significant bits.

Numbers are compared as numbers: the two zeros are equal, and NaN is related to nothing.
-/

namespace EventRewards

def unitsPerOne : Nat := Nat.pow 2 1074

/-- The number of units of the least power of two that is too large to be finite. -/
def unitsLimit : Nat := Nat.pow 2 2098

/-- The distance, in units, between neighbouring doubles near a number of units. -/
def spacing (units : Nat) : Nat :=
  Nat.pow 2 (units.log2 - 52)

/-- Whether a number of units is a finite double. -/
def Fits (units : Nat) : Prop :=
  units < unitsLimit ∧ units % spacing units = 0

instance (units : Nat) : Decidable (Fits units) :=
  inferInstanceAs (Decidable (_ ∧ _))

inductive Double where
  | nan
  | infinite (negative : Bool)
  | finite (negative : Bool) (units : Nat) (fits : Fits units)
  deriving DecidableEq

namespace Double

/-! ## Rounding -/

/-- The integer nearest to `num / den`, the even one of two that are equally near. -/
def nearestEven (num den : Nat) : Nat :=
  let down := num / den
  let rest := num % den
  -- nearer below, nearer above, and halfway
  if 2 * rest < den then down
  else if den < 2 * rest then down + 1
  else if down % 2 = 0 then down
  else down + 1

/-- The units nearest to `num / den` units among those with at most 53 significant bits. -/
def nearestUnits (num den : Nat) : Nat :=
  let step := spacing (num / den)
  nearestEven num (den * step) * step

/-- The double with the given sign and units; an infinity where the units are too many. -/
def ofUnits (negative : Bool) (units : Nat) : Double :=
  if h : Fits units then .finite negative units h else .infinite negative

/-- The double nearest to `num / den` ones, with the given sign. -/
def ofRatio (negative : Bool) (num den : Nat) : Double :=
  ofUnits negative (nearestUnits (num * unitsPerOne) den)

def ofInt (n : Int) : Double :=
  ofRatio (n < 0) n.natAbs 1

theorem unitsLimit_pos : 0 < unitsLimit := by
  have hpos (n : Nat) : 0 < Nat.pow 2 n := Nat.two_pow_pos n
  unfold unitsLimit
  -- `apply` leaves the power as it is, where `exact` would try to evaluate it
  apply hpos

theorem fits_zero : Fits 0 :=
  ⟨unitsLimit_pos, Nat.zero_mod _⟩

def zero (negative : Bool) : Double :=
  .finite negative 0 fits_zero

/-! ## Value -/

def isNaN : Double → Bool
  | .nan => true
  | _ => false

def isFinite : Double → Bool
  | .finite .. => true
  | _ => false

def signedUnits (negative : Bool) (units : Nat) : Int :=
  if negative then -units else units

/-- The order of two numbers; none where one of them is NaN. -/
def compare : Double → Double → Option Ordering
  | .nan, _ => none
  | _, .nan => none
  -- a minus makes an infinity the less one
  | .infinite s, .infinite t => some (Ord.compare t s)
  | .infinite s, .finite .. => some (if s then .lt else .gt)
  | .finite .., .infinite t => some (if t then .gt else .lt)
  | .finite s u _, .finite t v _ => some (Ord.compare (signedUnits s u) (signedUnits t v))

instance : BEq Double where
  beq a b := a.compare b == some .eq

/-- The number without its fraction as an integer of 64 bits.  What is beyond these integers becomes
the least or the greatest of them, and NaN becomes zero. -/
def toInt64 : Double → Int64
  | .nan => 0
  | .infinite s => if s then Int64.minValue else Int64.maxValue
  | .finite s u _ => Int64.ofIntClamp (signedUnits s (u / unitsPerOne))

end Double
end EventRewards
