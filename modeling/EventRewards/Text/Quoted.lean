import EventRewards.Text.Case
import EventRewards.Text.PrintTable

/-!
# Quoted texts in messages

A text in double quotes as messages show it: quotes, backslashes and the usual controls take a
backslash, and characters without a printed form of their own are given by their number.
-/

namespace EventRewards
namespace Text

/-- The digits of a number in base sixteen, in lower case. -/
def hexText (n : Nat) : String :=
  String.ofList (Nat.toDigits 16 n)

def quotedChar (c : Char) : String :=
  if c = Char.ofNat 0 then "\\0"
  else if c = '\t' then "\\t"
  else if c = '\r' then "\\r"
  else if c = '\n' then "\\n"
  else if c = '"' then "\\\""
  else if c = '\\' then "\\\\"
  else if 0x20 ≤ c.toNat && c.toNat < 0x7F then c.toString
  else if inRuns unprintedRuns c.toNat then "\\u\x7b" ++ hexText c.toNat ++ "\x7d"
  else c.toString

def quoted (s : String) : String :=
  "\"" ++ String.join (s.toList.map quotedChar) ++ "\""

end Text
end EventRewards
