import EventRewards.Calendar.Instant
import EventRewards.Number.Decimal
import EventRewards.Number.Shortest
import EventRewards.Text.Blank

/-!
# Instants as text

Instants are written as RFC 3339 asks, with a fraction of no, three, six or nine digits, whichever
is the shortest exact one.  Three readings exist: `ofStrict?` takes RFC 3339 to the letter,
`ofRelaxed?` also takes blanks between the parts, short numbers and signed years, and `ofBareDate?`
takes a date alone, which stands for its midnight.
-/

namespace EventRewards

/-! ## Writing -/

/-- The digits of a number, zeros put before them up to a width. -/
def paddedDigits (width n : Nat) : List Char :=
  let digits := Nat.toDigits 10 n
  List.replicate (width - digits.length) '0' ++ digits

/-- A year: four digits up to 9999, else a sign and at least four digits. -/
def yearChars (year : Int) : List Char :=
  if 0 ≤ year && year ≤ 9999 then paddedDigits 4 year.toNat
  else (if year < 0 then '-' else '+') :: paddedDigits 4 year.natAbs

/-- A fraction of a second in the fewest groups of three digits. -/
def fractionChars (nano : Nat) : List Char :=
  if nano = 0 then []
  else if nano % 1000000 = 0 then '.' :: paddedDigits 3 (nano / 1000000)
  else if nano % 1000 = 0 then '.' :: paddedDigits 6 (nano / 1000)
  else '.' :: paddedDigits 9 nano

namespace Instant

def date (t : Instant) : Civil :=
  Civil.ofDays t.day

/-- Date and time of day; a leap second is second 60. -/
def localChars (t : Instant) : List Char :=
  let date := t.date
  let isLeap := nanosPerSecond ≤ t.nano
  let second := if isLeap then t.second % 60 + 1 else t.second % 60
  let nano := if isLeap then t.nano - nanosPerSecond else t.nano
  yearChars date.year ++ '-' :: paddedDigits 2 date.month ++ '-' :: paddedDigits 2 date.day ++
    'T' :: paddedDigits 2 (t.second / 3600) ++ ':' :: paddedDigits 2 (t.second / 60 % 60) ++
    ':' :: paddedDigits 2 second ++ fractionChars nano

def toText (t : Instant) : String :=
  String.ofList (t.localChars ++ ['Z'])

/-- The form that traces show, with a numeric offset. -/
def toOffsetText (t : Instant) : String :=
  String.ofList (t.localChars ++ "+00:00".toList)

end Instant

/-! ## Reading -/

namespace Rfc3339

/-- A number of `least` to `most` digits at the front of a text. -/
def number? (least most : Nat) (cs : List Char) : Option (Nat × List Char) :=
  let digits := (cs.take most).takeWhile Char.isDigit
  if digits.length < least then none
  else some (natOfDigits digits, cs.drop digits.length)

def char? (c : Char) : List Char → Option (List Char)
  | d :: rest => if d = c then some rest else none
  | [] => none

def skipBlanks (cs : List Char) : List Char :=
  cs.dropWhile Text.isBlank

/-- A year with a sign and any number of digits, or with one to four digits. -/
def year? : List Char → Option (Int × List Char)
  | '-' :: rest => (number? 1 rest.length rest).map fun (n, after) => (-n, after)
  | '+' :: rest => (number? 1 rest.length rest).map fun (n, after) => (n, after)
  | cs => (number? 1 4 cs).map fun (n, after) => (n, after)

def separator? : List Char → Option (List Char)
  | c :: rest => if c = 't' || c = 'T' || c = ' ' then some rest else none
  | [] => none

/-- The nanoseconds of a fraction, whose tenth digit and those after it are dropped; none of them
where no point stands. -/
def fraction? : List Char → Option (Nat × List Char)
  | '.' :: rest =>
    let (digits, after) := spanDigits rest
    if digits.isEmpty then none
    else
      let kept := digits.take 9
      some (natOfDigits kept * Nat.pow 10 (9 - kept.length), after)
  | cs => some (0, cs)

/-- An offset from UTC in seconds: `Z`, or a sign, two digits of hours, what `between` skips, and
two digits of minutes. -/
def offset? (between : List Char → Option (List Char)) (cs : List Char) :
    Option (Int × List Char) :=
  let signed (negative : Bool) (rest : List Char) : Option (Int × List Char) := do
    let (hours, rest) ← number? 2 2 rest
    let rest ← between rest
    let (minutes, rest) ← number? 2 2 rest
    if minutes < 60 then
      let seconds : Int := hours * 3600 + minutes * 60
      some (if negative then -seconds else seconds, rest)
    else none
  match cs with
  | 'Z' :: rest => some (0, rest)
  | 'z' :: rest => some (0, rest)
  | '+' :: rest => signed false rest
  | '-' :: rest => signed true rest
  -- the minus sign proper, U+2212
  | '−' :: rest => signed true rest
  | _ => none

/-- A date, a time of day that may be a leap second, and an offset of less than a day. -/
def assemble? (date : Civil) (hour minute second nano : Nat) (offset : Int) : Option Instant :=
  if 23 < hour || 59 < minute || 60 < second || (secondsPerDay : Int) ≤ offset.natAbs then none
  else
    let ofDay := hour * 3600 + minute * 60
    -- a leap second is the second before it with a full second of nanoseconds more
    if second = 60 then Instant.ofLocal? date (ofDay + 59) (nano + nanosPerSecond) offset
    else Instant.ofLocal? date (ofDay + second) nano offset

end Rfc3339

namespace Instant

open Rfc3339

/-- RFC 3339 to the letter, except that a blank may stand for the `T`. -/
def ofStrict? (cs : List Char) : Option Instant := do
  let (year, cs) ← number? 4 4 cs
  let cs ← char? '-' cs
  let (month, cs) ← number? 2 2 cs
  let cs ← char? '-' cs
  let (day, cs) ← number? 2 2 cs
  let cs ← separator? cs
  let (hour, cs) ← number? 2 2 cs
  let cs ← char? ':' cs
  let (minute, cs) ← number? 2 2 cs
  let cs ← char? ':' cs
  let (second, cs) ← number? 2 2 cs
  let (nano, cs) ← fraction? cs
  let (offset, cs) ← offset? (char? ':') cs
  if cs.isEmpty then assemble? ⟨year, month, day⟩ hour minute second nano offset else none

/-- The same parts with blanks before and after each number, numbers of one or two digits, signed
years, and `UTC` as an offset. -/
def ofRelaxed? (cs : List Char) : Option Instant := do
  let (year, cs) ← year? (skipBlanks cs)
  let cs ← char? '-' (skipBlanks cs)
  let (month, cs) ← number? 1 2 (skipBlanks cs)
  let cs ← char? '-' (skipBlanks cs)
  let (day, cs) ← number? 1 2 (skipBlanks cs)
  let cs ← separator? cs
  let (hour, cs) ← number? 1 2 (skipBlanks cs)
  let cs ← char? ':' (skipBlanks cs)
  let (minute, cs) ← number? 1 2 (skipBlanks cs)
  let cs ← char? ':' (skipBlanks cs)
  let (second, cs) ← number? 1 2 (skipBlanks cs)
  let (nano, cs) ← fraction? cs
  let cs := skipBlanks cs
  -- hours and minutes of the offset may stand apart or together
  let between (rest : List Char) : Option (List Char) :=
    some (rest.dropWhile fun c => c = ':' || Text.isBlank c)
  let (offset, cs) ←
    if (cs.take 3).map Char.toUpper = ['U', 'T', 'C'] then some (0, cs.drop 3)
    else offset? between cs
  if (skipBlanks cs).isEmpty then assemble? ⟨year, month, day⟩ hour minute second nano offset
  else none

/-- A date alone: midnight in UTC at its start. -/
def ofBareDate? (cs : List Char) : Option Instant := do
  let (year, cs) ← year? (skipBlanks cs)
  let cs ← char? '-' cs
  let (month, cs) ← number? 1 2 (skipBlanks cs)
  let cs ← char? '-' cs
  let (day, cs) ← number? 1 2 (skipBlanks cs)
  if cs.isEmpty then ofLocal? ⟨year, month, day⟩ 0 0 0 else none

/-- A timestamp or a bare date, blanks at the ends aside. -/
def ofText? (s : String) : Option Instant :=
  let cs := Text.trimChars s.toList
  match ofStrict? cs with
  | some t => some t
  | none => ofBareDate? cs

end Instant
end EventRewards
