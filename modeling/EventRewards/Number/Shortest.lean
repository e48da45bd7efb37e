import EventRewards.Number.Double

/-!
# The shortest decimal text of a double

A finite double is written with the fewest digits that read back to it, and among those with the
nearest to it.  The reals that read back to a double form an interval around it, which reaches half
way to each neighbour; its ends belong to it when the double's significand is even.  Where two
decimals are equally near, plain text takes the greater and JSON text the one whose last digit is
even.
-/

namespace EventRewards

/-- Decimal digits and the power of ten of the last one. -/
structure Decimal where
  digits : Nat
  exponent : Int
  deriving DecidableEq, Repr

/-- Which of two equally near decimals is taken. -/
inductive TieRule where
  | greater
  | even
  deriving DecidableEq, Repr

/-- Whether the lower of two equally near multiples is taken. -/
def TieRule.takesLower (rule : TieRule) (lower : Nat) : Bool :=
  match rule with
  | .greater => false
  | .even => lower % 2 = 0

def digitText (n : Nat) : String :=
  String.ofList (Nat.toDigits 10 n)

namespace Double

/-- The interval that reads back to a positive number of units.  Everything is in quarters of a
unit, so that both ends are whole. -/
structure ReadBack where
  value : Nat
  low : Nat
  high : Nat
  closed : Bool

def readBack (units : Nat) : ReadBack :=
  let gap := spacing units
  let isPower := units == Nat.pow 2 units.log2
  -- below a power of two the neighbour is half as far, unless spacing is at its least
  let below := if isPower && 1 < gap then gap else 2 * gap
  ⟨4 * units, 4 * units - below, 4 * units + 2 * gap, units / gap % 2 == 0⟩

structure Scale where
  num : Nat
  den : Nat

/-- The quarters of a unit in a power of ten. -/
def quartersOf (power : Int) : Scale :=
  if 0 ≤ power then ⟨4 * unitsPerOne * Nat.pow 10 power.toNat, 1⟩
  else ⟨4 * unitsPerOne, Nat.pow 10 (-power).toNat⟩

/-- Whether so many steps of a size lie in the interval. -/
def ReadBack.contains (r : ReadBack) (step : Scale) (count : Nat) : Bool :=
  let at_ := count * step.num
  let low := r.low * step.den
  let high := r.high * step.den
  if r.closed then low ≤ at_ && at_ ≤ high else low < at_ && at_ < high

/-- The multiple of a step that lies in the interval and nearest to the value. -/
def ReadBack.nearestMultiple? (r : ReadBack) (tie : TieRule) (step : Scale) : Option Nat :=
  let value := r.value * step.den
  let down := value / step.num
  let rest := value % step.num
  let downFits := 0 < down && r.contains step down
  let upFits := r.contains step (down + 1)
  let downIsTaken := 2 * rest < step.num || (2 * rest = step.num && tie.takesLower down)
  if downFits && (downIsTaken || !upFits) then some down
  else if upFits then some (down + 1)
  else none

/-- The greatest power of ten that is not above the value: the bits of the value place it to within
one, from `guess` downwards. -/
def ReadBack.leadingPower (r : ReadBack) (guess : Int) : Nat → Int
  | 0 => guess
  | tries + 1 =>
    let step := quartersOf guess
    if step.num ≤ r.value * step.den then guess else r.leadingPower (guess - 1) tries

/-- Looks for the interval's point with the fewest digits, from the coarsest grid on. -/
def ReadBack.search (r : ReadBack) (tie : TieRule) (power : Int) : Nat → Decimal
  | 0 => ⟨r.value / (quartersOf power).num, power⟩
  | finer + 1 =>
    match r.nearestMultiple? tie (quartersOf power) with
    | some count => ⟨count, power⟩
    | none => r.search tie (power - 1) finer

def Decimal.trimZeros (d : Decimal) : Nat → Decimal
  | 0 => d
  | fuel + 1 =>
    if d.digits % 10 = 0 && d.digits != 0 then
      Decimal.trimZeros ⟨d.digits / 10, d.exponent + 1⟩ fuel
    else d

/-- The shortest decimal that reads back to a positive number of units. -/
def shortest (tie : TieRule) (units : Nat) : Decimal :=
  let r := readBack units
  let bits : Int := (units.log2 : Int) - 1074
  -- 30103 / 100000 is a little more than the decimal logarithm of 2
  let guess : Int := bits * 30103 / 100000 + 1
  let power := r.leadingPower guess 4
  -- seventeen digits always suffice
  Decimal.trimZeros (r.search tie power 18) 20

/-! ## Texts -/

/-- Digits with a decimal point put in `places` from the left, with zeros where it falls outside. -/
def pointed (digits : String) (places : Int) : String :=
  if places ≤ 0 then "0." ++ String.ofList (List.replicate (-places).toNat '0') ++ digits
  else if places < digits.length then
    String.ofList (digits.toList.take places.toNat) ++ "." ++
      String.ofList (digits.toList.drop places.toNat)
  else digits ++ String.ofList (List.replicate (places.toNat - digits.length) '0')

def signText (negative : Bool) : String :=
  if negative then "-" else ""

/-- The number in plain positional digits, without an exponent and without an empty fraction. -/
def plainText : Double → String
  | .nan => "NaN"
  | .infinite s => signText s ++ "inf"
  | .finite s u _ =>
    if u = 0 then signText s ++ "0"
    else
      let d := shortest .greater u
      let digits := digitText d.digits
      signText s ++ pointed digits (digits.length + d.exponent)

/-- The sign and the digits of an exponent, as JSON text has them. -/
def exponentText (exponent : Int) : String :=
  "e" ++ (if 0 ≤ exponent then "+" else "") ++ toString exponent

/-- The number as JSON text: positional from 10⁻⁵ to below 10¹⁶, always with a fraction there, and
with a signed exponent elsewhere; what is not finite is `null`. -/
def jsonText : Double → String
  | .nan => "null"
  | .infinite _ => "null"
  | .finite s u _ =>
    if u = 0 then signText s ++ "0.0"
    else
      let d := shortest .even u
      let digits := digitText d.digits
      let places : Int := digits.length + d.exponent
      if places ≤ -5 || 16 < places then
        let fraction := String.ofList (digits.toList.drop 1)
        let mantissa := String.ofList (digits.toList.take 1) ++
          (if fraction.isEmpty then "" else "." ++ fraction)
        signText s ++ mantissa ++ exponentText (places - 1)
      else if (digits.length : Int) ≤ places then signText s ++ pointed digits places ++ ".0"
      else signText s ++ pointed digits places

end Double
end EventRewards
