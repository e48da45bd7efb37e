import EventRewards.Json.Basic
import EventRewards.Number.Shortest
import EventRewards.Text.Blank

/-!
# JSON text

Writes JSON values, on one line or spread over lines with an indent of two blanks.
-/

namespace EventRewards
namespace Json

def hexQuad (n : Nat) : List Char :=
  let digits := Nat.toDigits 16 n
  List.replicate (4 - digits.length) '0' ++ digits

/-- A character inside a JSON string: quotes, backslashes and controls are escaped. -/
def escapedChar (c : Char) : List Char :=
  match c.toNat with
  | 0x22 => ['\\', '"']
  | 0x5C => ['\\', '\\']
  | 0x08 => ['\\', 'b']
  | 0x09 => ['\\', 't']
  | 0x0A => ['\\', 'n']
  | 0x0C => ['\\', 'f']
  | 0x0D => ['\\', 'r']
  | n => if n < 0x20 then '\\' :: 'u' :: hexQuad n else [c]

def quote (s : String) : String :=
  String.ofList ('"' :: s.toList.flatMap escapedChar ++ ['"'])

mutual
def compact : Json → String
  | .null => "null"
  | .bool b => if b then "true" else "false"
  | .int n => toString n
  | .float x => x.jsonText
  | .str s => quote s
  | .arr items => "[" ++ Text.joinWith "," (compactItems items) ++ "]"
  | .obj members => "\x7b" ++ Text.joinWith "," (compactMembers members) ++ "\x7d"

def compactItems : List Json → List String
  | [] => []
  | item :: rest => compact item :: compactItems rest

def compactMembers : List (String × Json) → List String
  | [] => []
  | (name, value) :: rest => (quote name ++ ":" ++ compact value) :: compactMembers rest
end

/-- Parts on lines of their own between two brackets, the last of which ends `indent` columns in. -/
def spread (openBracket closeBracket : String) (indent : Nat) (parts : List String) : String :=
  if parts.isEmpty then openBracket ++ closeBracket
  else
    let margin (n : Nat) : String := "\n" ++ String.ofList (List.replicate n ' ')
    openBracket ++ margin (indent + 2) ++ Text.joinWith ("," ++ margin (indent + 2)) parts ++
      margin indent ++ closeBracket

mutual
/-- The value over several lines, standing `indent` columns in. -/
def prettyFrom (indent : Nat) : Json → String
  | .arr items => spread "[" "]" indent (prettyItems (indent + 2) items)
  | .obj members => spread "\x7b" "\x7d" indent (prettyMembers (indent + 2) members)
  | .null => "null"
  | .bool b => if b then "true" else "false"
  | .int n => toString n
  | .float x => x.jsonText
  | .str s => quote s

def prettyItems (indent : Nat) : List Json → List String
  | [] => []
  | item :: rest => prettyFrom indent item :: prettyItems indent rest

def prettyMembers (indent : Nat) : List (String × Json) → List String
  | [] => []
  | (name, value) :: rest =>
    (quote name ++ ": " ++ prettyFrom indent value) :: prettyMembers indent rest
end

def pretty (j : Json) : String :=
  prettyFrom 0 j

end Json
end EventRewards
