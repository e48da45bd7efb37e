import EventRewards.Json.Outline
import EventRewards.Json.Writer
import EventRewards.Text.Utf8

/-!
# JSON as YAML

A scenario file is a YAML document, and JSON text is one too, save for a few rules of YAML's own:
some characters may not stand in it at all; line breaks within a string, of which JSON escapes all
but U+0085, U+2028 and U+2029, are folded; a line within a string must not look like the marker
between two documents; a key stays on one line and is short; and in what is asked for of a document
nesting is limited.
-/

namespace EventRewards
namespace FlowText

open Json (Outline)

/-- Whether a character may stand in a YAML document.  Characters below the blank are escaped by
JSON and do not stand in it. -/
def isPrintable (c : Char) : Bool :=
  let n := c.toNat
  n ≤ 0x7E || n = 0x85 || (0xA0 ≤ n && n ≤ 0xFFFD) || 0x10000 ≤ n

/-- The line breaks that JSON does not escape. -/
def isBreak (c : Char) : Bool :=
  let n := c.toNat
  n = 0x85 || n = 0x2028 || n = 0x2029

/-- Line breaks and blanks, which are folded together. -/
def isFolding (c : Char) : Bool :=
  c = ' ' || isBreak c

/-! ## Document markers -/

/-- Whether a line starts with three dashes or points that stand on their own. -/
def startsWithMarker : List Char → Bool
  | a :: b :: c :: rest =>
    -- what ends the text is its closing quote, so that a marker at the end does not stand alone
    a = b && b = c && (a = '-' || a = '.') &&
      match rest with
      | [] => false
      | d :: _ => isFolding d
  | _ => false

/-- Whether a line that looks like a marker follows a break. -/
def hasMarker : List Char → Bool
  | [] => false
  | c :: rest => (isBreak c && startsWithMarker rest) || hasMarker rest

/-! ## Folding -/

def keptBreak (c : Char) : Char :=
  if c.toNat = 0x85 then '\n' else c

/-- What a run of blanks and breaks becomes: itself without a break, one blank for a single U+0085,
and otherwise its breaks without a leading U+0085. -/
def foldRun (run : List Char) : List Char :=
  match run.filter isBreak with
  | [] => run
  | first :: others =>
    if first.toNat = 0x85 then
      if others.isEmpty then [' '] else others.map keptBreak
    else keptBreak first :: others.map keptBreak

/-- Folds a text whose current run of blanks and breaks is `run`, last first. -/
def foldFrom (run : List Char) : List Char → List Char
  | [] => foldRun run.reverse
  | c :: rest =>
    if isFolding c then foldFrom (c :: run) rest
    else foldRun run.reverse ++ c :: foldFrom [] rest

/-- A string value after folding, none where YAML refuses it. -/
def string? (s : String) : Option String :=
  let cs := s.toList
  if cs.all isPrintable && !hasMarker cs then some (String.ofList (foldFrom [] cs)) else none

/-- The most bytes that a key may have, its quotes included. -/
def keyLimit : Nat := 1024

def isKey (s : String) : Bool :=
  s.toList.all (fun c => isPrintable c && !isBreak c) &&
    (Utf8.encode (Json.quote s).toList).length ≤ keyLimit

/-- The most containers that may be nested in what is asked for. -/
def depthLimit : Nat := 128

/-- The room for more nested containers within a container, none where it has no room itself. -/
def roomWithin (outline : Outline) (depth : Nat) : Option Nat :=
  if outline.isNothing then some depth
  else
    match depth with
    | 0 => none
    | room + 1 => some room

mutual
/-- The value that a JSON value stands for when it is read as YAML, with room for `depth` more
nested containers; none where YAML refuses it. -/
def value? (outline : Outline) (depth : Nat) : Json → Option Json
  | .null => some .null
  | .bool b => some (.bool b)
  | .int n => some (.int n)
  | .float x => some (.float x)
  | .str s => (string? s).map .str
  | .arr items => do
    let room ← roomWithin outline depth
    return .arr (← items? outline room 0 items)
  | .obj members => do
    let room ← roomWithin outline depth
    return .obj (← members? outline room members)

def items? (outline : Outline) (depth index : Nat) : List Json → Option (List Json)
  | [] => some []
  | item :: rest => do
    let first ← value? (outline.item index) depth item
    let others ← items? outline depth (index + 1) rest
    return first :: others

def members? (outline : Outline) (depth : Nat) :
    List (String × Json) → Option (List (String × Json))
  | [] => some []
  | (name, held) :: rest =>
    if isKey name then do
      let first ← value? (outline.member name) depth held
      let others ← members? outline depth rest
      return (name, first) :: others
    else none
end

/-- The value that a whole JSON document stands for when it is read as YAML. -/
def read? (outline : Outline) (j : Json) : Option Json :=
  value? outline depthLimit j

end FlowText
end EventRewards
