import EventRewards.Text.Utf8

/-!
# Percent encoding

A percent sign and two digits in base sixteen stand for a byte; any other percent sign stands for
itself.  Path segments must be well-formed UTF-8, form values are repaired.
-/

namespace EventRewards
namespace Http

/-- The value of a byte that is a digit in base sixteen. -/
def hexValue? (b : UInt8) : Option Nat :=
  let n := b.toNat
  if 0x30 ≤ n && n ≤ 0x39 then some (n - 0x30)
  else if 0x41 ≤ n && n ≤ 0x46 then some (n - 0x41 + 10)
  else if 0x61 ≤ n && n ≤ 0x66 then some (n - 0x61 + 10)
  else none

/-- The byte that two digits in base sixteen stand for. -/
def hexByte? (a b : UInt8) : Option UInt8 := do
  return UInt8.ofNat ((← hexValue? a) * 16 + (← hexValue? b))

def unescape : List UInt8 → List UInt8
  | 0x25 :: a :: b :: rest =>
    match hexByte? a b with
    | some byte => byte :: unescape rest
    | none => 0x25 :: unescape (a :: b :: rest)
  | byte :: rest => byte :: unescape rest
  | [] => []

def segmentText? (cs : List Char) : Option String :=
  (Utf8.decode? (unescape (Utf8.encode cs))).map String.ofList

/-- The text of a name or a value in a query, where a plus sign stands for a blank. -/
def formText (cs : List Char) : String :=
  let spaced := cs.map fun c => if c = '+' then ' ' else c
  String.ofList (Utf8.decodeLossy (unescape (Utf8.encode spaced)))

end Http
end EventRewards
