import EventRewards.Text.CaseTable

/-!
# Letter case and substring search

Lower and upper case of whole texts.  Each character is mapped on its own, except the capital
sigma: at the end of a word its lower case is `ς` and elsewhere `σ`.  A sigma ends a word when a
cased character stands before it and none after it, the ignorable characters being passed over.
-/

namespace EventRewards
namespace Text

/-- Whether a code point lies in one of the runs of a set. -/
def inRuns (runs : List (Nat × Nat)) (n : Nat) : Bool :=
  runs.any fun (first, last) => first ≤ n && n ≤ last

/-- The code point that a table of runs maps `n` to, `n` itself where the table is silent. -/
def mapByRuns (runs : List (Nat × Nat × Nat × Int)) (n : Nat) : Nat :=
  let covers : Nat × Nat × Nat × Int → Bool := fun (first, last, step, _) =>
    first ≤ n && n ≤ last && (n - first) % step == 0
  match runs.find? covers with
  | some (_, _, _, offset) => (n + offset).toNat
  | none => n

def isCased (c : Char) : Bool :=
  inRuns casedRuns c.toNat

def isIgnorable (c : Char) : Bool :=
  inRuns ignorableRuns c.toNat

/-- The lower case of one character, out of context. -/
def lowerChar (c : Char) : List Char :=
  if c.toNat < 0x80 then [c.toLower]
  else if c = 'İ' then ['i', Char.ofNat 0x307]
  else [Char.ofNat (mapByRuns lowerRuns c.toNat)]

def upperChar (c : Char) : List Char :=
  if c.toNat < 0x80 then [c.toUpper]
  else
    match upperExpansions.lookup c.toNat with
    | some codes => codes.map Char.ofNat
    | none => [Char.ofNat (mapByRuns upperRuns c.toNat)]

/-- Whether the first character that is not ignorable is cased. -/
def reachesCased (cs : List Char) : Bool :=
  match cs.dropWhile isIgnorable with
  | c :: _ => isCased c
  | [] => false

/-- The lower case of a text whose characters before the current one are `before`, nearest first. -/
def lowerAfter (before : List Char) : List Char → List Char
  | [] => []
  | c :: rest =>
    let lowered :=
      -- a sigma at the end of a word has a form of its own
      if c = 'Σ' then
        if reachesCased before && !reachesCased rest then ['ς'] else ['σ']
      else lowerChar c
    lowered ++ lowerAfter (c :: before) rest

def lowerChars (cs : List Char) : List Char :=
  lowerAfter [] cs

def upper (s : String) : String :=
  String.ofList (s.toList.flatMap upperChar)

/-! ## Substrings -/

/-- Whether one list of characters stands somewhere within another, without a gap. -/
def occursIn (needle : List Char) : List Char → Bool
  | [] => needle.isEmpty
  | c :: rest => needle.isPrefixOf (c :: rest) || occursIn needle rest

/-- Whether a text contains another when letter case is left aside: both are put in lower case. -/
def containsFolded (needle haystack : String) : Bool :=
  occursIn (lowerChars needle.toList) (lowerChars haystack.toList)

end Text
end EventRewards
