import EventRewards.Number.Double

/-!
# Reading decimal numbers

A decimal numeral is a digit string scaled by a power of ten.  `Double.ofText?` reads it to the
nearest double.  `Double.scaled?` is the quicker reading that JSON documents get: digits and power
of ten are rounded on their own and then put together, which may miss the nearest double by one.
-/

namespace EventRewards

/-- The number that a string of digits writes.  Any other character would be counted as a digit. -/
def natOfDigits (cs : List Char) : Nat :=
  cs.foldl (fun n c => n * 10 + (c.toNat - '0'.toNat)) 0

/-- The leading digits of a text, and what follows them. -/
def spanDigits (cs : List Char) : List Char × List Char :=
  (cs.takeWhile Char.isDigit, cs.dropWhile Char.isDigit)

/-- An optional sign, and what follows it: whether it is a minus. -/
def readSign : List Char → Bool × List Char
  | '-' :: rest => (true, rest)
  | '+' :: rest => (false, rest)
  | cs => (false, cs)

namespace Double

/-- The double nearest to `digits · 10 ^ exponent`.  Powers beyond the range of doubles are settled
without being computed. -/
def ofDecimal (negative : Bool) (digits : Nat) (exponent : Int) : Double :=
  let size : Int := Nat.log2 digits
  if digits = 0 then zero negative
  -- far beyond the greatest double, and far below half of the least
  else if 2200 < exponent then .infinite negative
  else if exponent < -2200 - size then zero negative
  else if 0 ≤ exponent then ofRatio negative (digits * Nat.pow 10 exponent.toNat) 1
  else ofRatio negative digits (Nat.pow 10 (-exponent).toNat)

/-! ## Numerals as text -/

/-- The exponent part of a numeral, which must end the text: `e`, a sign or none, digits. -/
def readExponent? : List Char → Option Int
  | [] => some 0
  | c :: rest =>
    if c = 'e' || c = 'E' then
      let (negative, cs) := readSign rest
      let (digits, after) := spanDigits cs
      if digits.isEmpty || !after.isEmpty then none
      else some (if negative then -natOfDigits digits else natOfDigits digits)
    else none

/-- A numeral without its sign: digits with a point before, among or after them, or a word for
infinity or NaN in any case. -/
def ofUnsigned? (negative : Bool) (cs : List Char) : Option Double :=
  let word := String.ofList (cs.map Char.toLower)
  if word = "inf" || word = "infinity" then some (.infinite negative)
  else if word = "nan" then some .nan
  else
    let (whole, afterWhole) := spanDigits cs
    let (fraction, afterFraction) :=
      match afterWhole with
      | '.' :: rest => spanDigits rest
      | rest => ([], rest)
    if whole.isEmpty && fraction.isEmpty then none
    else
      (readExponent? afterFraction).map fun exponent =>
        ofDecimal negative (natOfDigits (whole ++ fraction)) (exponent - fraction.length)

/-- The double nearest to the number that a text writes.  The text has no blanks at its ends. -/
def ofChars? (cs : List Char) : Option Double :=
  let (negative, rest) := readSign cs
  ofUnsigned? negative rest

def ofText? (s : String) : Option Double :=
  ofChars? s.toList

/-! ## Numerals in JSON documents -/

/-- The greatest digit string that is kept exactly; further digits only count as places. -/
def digitsLimit : Nat := Nat.pow 2 64 - 1

/-- Takes the digits of the whole part in: those that still fit are kept, from the first that does
not on each is one place more. -/
def takeWhole (kept places : Nat) : List Char → Nat × Nat
  | [] => (kept, places)
  | c :: rest =>
    let next := kept * 10 + (c.toNat - '0'.toNat)
    -- once a digit is dropped, none after it is kept
    if places = 0 && next ≤ digitsLimit then takeWhole next 0 rest
    else takeWhole kept (places + 1) rest

/-- Takes the digits of the fraction in: those that still fit are kept, from the first that does not
on they are left out. -/
def takeFraction (kept taken : Nat) : List Char → Nat × Nat
  | [] => (kept, taken)
  | c :: rest =>
    let next := kept * 10 + (c.toNat - '0'.toNat)
    if next ≤ digitsLimit then takeFraction next (taken + 1) rest
    else (kept, taken)

/-- The units of the double nearest to a power of ten. -/
def powerUnits (n : Nat) : Nat :=
  nearestUnits (Nat.pow 10 n * unitsPerOne) 1

/-- The units of `units · 10 ^ exponent` for units below 2¹¹³⁸, none where they are too many.  The
power is rounded first, then the product or the quotient; a quotient by more than 10³⁰⁸ is taken in
two portions, and below 10⁻⁶¹⁶ nothing is left of it. -/
def scaleUnits? (units : Nat) (exponent : Int) : Option Nat :=
  if units = 0 then some 0
  else if 308 < exponent then none
  else if 0 ≤ exponent then some (nearestUnits (units * powerUnits exponent.toNat) unitsPerOne)
  else
    -- the units cancel out: those of the dividend are kept
    let quotient (units n : Nat) : Nat := nearestUnits (units * unitsPerOne) (powerUnits n)
    if -308 ≤ exponent then some (quotient units (-exponent).toNat)
    else if -616 ≤ exponent then some (quotient (quotient units 308) (-exponent - 308).toNat)
    else some 0

/-- The units that a JSON numeral stands for, as far as they can be put together. -/
def scaledUnits? (whole fraction : List Char) (exponent : Int) : Option Nat :=
  let (kept, places) := takeWhole 0 0 whole
  let (kept, taken) := takeFraction kept 0 fraction
  let units := nearestUnits (kept * unitsPerOne) 1
  scaleUnits? units (exponent + places - taken)

/-- The finite double with the given sign and units, if there is one. -/
def finite? (negative : Bool) (units : Nat) : Option Double :=
  if h : Fits units then some (.finite negative units h) else none

/-- The double that a JSON numeral stands for, none where it is out of range. -/
def scaled? (negative : Bool) (whole fraction : List Char) (exponent : Int) : Option Double :=
  (scaledUnits? whole fraction exponent).bind (finite? negative)

end Double
end EventRewards
