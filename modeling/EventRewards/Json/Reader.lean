import EventRewards.Json.Outline
import EventRewards.Number.Decimal

/-!
# Reading JSON text

A JSON text is read from the left.  Where it turns out not to be JSON, `Reading.cut` keeps what was
read up to there and where that ends, so that one can tell whether the part already read was
acceptable.

The parts of a text that are not asked for are passed over: of their strings, numbers and depth
nothing but the grammar counts.
-/

namespace EventRewards
namespace Json

/-- What stands at the end of the way to the place where reading stopped. -/
inductive Ending where
  /-- A container that was open. -/
  | container
  /-- A member of which only the name was read; null takes the place of its value. -/
  | nameOnly
  deriving DecidableEq, Repr

/-- A place where reading stopped: the value as far as it was read, if it was begun at all, and the
places of the parts on the way to where it ends. -/
structure Break where
  seen : Option Json
  trail : List Nat
  ending : Ending

/-- What a text turns out to be. -/
inductive Reading where
  | whole (value : Json)
  /-- One JSON value with more text after it. -/
  | followed (value : Json)
  | cut (place : Break)

/-- How a text is read: how deep containers may be nested, and what is asked for. -/
structure ReadOptions where
  depthLimit : Option Nat
  outline : Outline

namespace Reader

abbrev Scan (α : Type) := Except Break (α × List Char)

/-- Stops before a value was begun. -/
def stop {α : Type} : Except Break α :=
  .error ⟨none, [], .container⟩

/-- Stops within a container. -/
def stopIn {α : Type} (container : Json) : Except Break α :=
  .error ⟨some container, [], .container⟩

def isSpace (c : Char) : Bool :=
  c = ' ' || c = '\n' || c = '\t' || c = '\r'

def skipSpace (cs : List Char) : List Char :=
  cs.dropWhile isSpace

/-- The rest of a text after a given word. -/
def word? (expected : List Char) (cs : List Char) : Option (List Char) :=
  if expected.isPrefixOf cs then some (cs.drop expected.length) else none

/-! ## Strings -/

def hexDigit? (c : Char) : Option Nat :=
  if c.isDigit then some (c.toNat - '0'.toNat)
  else if 'a' ≤ c && c ≤ 'f' then some (c.toNat - 'a'.toNat + 10)
  else if 'A' ≤ c && c ≤ 'F' then some (c.toNat - 'A'.toNat + 10)
  else none

/-- Four digits in base sixteen, and what follows them. -/
def hexQuad? : List Char → Option (Nat × List Char)
  | a :: b :: c :: d :: rest => do
    let a ← hexDigit? a
    let b ← hexDigit? b
    let c ← hexDigit? c
    let d ← hexDigit? d
    some (((a * 16 + b) * 16 + c) * 16 + d, rest)
  | _ => none

def isHighSurrogate (n : Nat) : Bool :=
  0xD800 ≤ n && n ≤ 0xDBFF

def isLowSurrogate (n : Nat) : Bool :=
  0xDC00 ≤ n && n ≤ 0xDFFF

/-- The second half of a pair of `\u` escapes. -/
def lowSurrogate? : List Char → Option (Nat × List Char)
  | '\\' :: 'u' :: rest => do
    let (n, rest) ← hexQuad? rest
    if isLowSurrogate n then some (n, rest) else none
  | _ => none

/-- The character of a `\u` escape.  A surrogate without its other half is no character; it is let
through as U+FFFD where strings are passed over. -/
def unicodeEscape? (lenient : Bool) (cs : List Char) : Option (Char × List Char) := do
  let (n, rest) ← hexQuad? cs
  let replaced : Option (Char × List Char) :=
    if lenient then some (Char.ofNat 0xFFFD, rest) else none
  if isHighSurrogate n then
    match lowSurrogate? rest with
    | some (low, rest) =>
      -- two halves of ten bits each
      some (Char.ofNat (0x10000 + (n - 0xD800) * 0x400 + (low - 0xDC00)), rest)
    | none => replaced
  else if isLowSurrogate n then replaced
  else some (Char.ofNat n, rest)

/-- The character of an escape, after its backslash. -/
def escape? (lenient : Bool) : List Char → Option (Char × List Char)
  | '"' :: rest => some ('"', rest)
  | '\\' :: rest => some ('\\', rest)
  | '/' :: rest => some ('/', rest)
  | 'b' :: rest => some (Char.ofNat 8, rest)
  | 'f' :: rest => some (Char.ofNat 12, rest)
  | 'n' :: rest => some ('\n', rest)
  | 'r' :: rest => some ('\r', rest)
  | 't' :: rest => some ('\t', rest)
  | 'u' :: rest => unicodeEscape? lenient rest
  | _ => none

/-- The characters of a string up to its closing quote, and what follows that.  `fuel` is at least
the length of the text. -/
def string? (lenient : Bool) (fuel : Nat) (taken : List Char) :
    List Char → Option (String × List Char)
  | [] => none
  | '"' :: rest => some (String.ofList taken.reverse, rest)
  | c :: rest =>
    match fuel with
    | 0 => none
    | fuel + 1 =>
      if c = '\\' then
        match escape? lenient rest with
        | some (c, rest) => string? lenient fuel (c :: taken) rest
        | none => none
      else if c.toNat < 0x20 then none
      else string? lenient fuel (c :: taken) rest

/-! ## Numbers -/

/-- The fraction of a number, which has digits if it has a point. -/
def fraction? : List Char → Option (List Char × List Char)
  | '.' :: rest =>
    let (digits, after) := spanDigits rest
    if digits.isEmpty then none else some (digits, after)
  | cs => some ([], cs)

/-- The exponent of a number, none where it has none. -/
def exponent? : List Char → Option (Option Int × List Char)
  | [] => some (none, [])
  | c :: rest =>
    if c = 'e' || c = 'E' then
      let (negative, cs) := readSign rest
      let (digits, after) := spanDigits cs
      if digits.isEmpty then none
      else
        let n : Int := natOfDigits digits
        some (some (if negative then -n else n), after)
    else some (none, c :: rest)

/-- A number written without fraction and exponent: an integer where 64 bits hold it. -/
def wholeNumber? (negative : Bool) (digits : List Char) : Option Json :=
  let n := natOfDigits digits
  -- minus zero is no integer
  if !negative && n < Nat.pow 2 64 then some (.int n)
  else if negative && 0 < n && n ≤ Nat.pow 2 63 then some (.int (-n))
  else (Double.scaled? negative digits [] 0).map .float

def number? (lenient negative : Bool) (cs : List Char) : Option (Json × List Char) := do
  let (whole, rest) := spanDigits cs
  if whole.isEmpty || (1 < whole.length && whole.head? = some '0') then none
  else
    let (fraction, rest) ← fraction? rest
    let (exponent, rest) ← exponent? rest
    -- a number that is passed over may be out of range
    if lenient then some (.null, rest)
    else if fraction.isEmpty && exponent.isNone then
      (wholeNumber? negative whole).map (·, rest)
    else
      (Double.scaled? negative whole fraction (exponent.getD 0)).map fun x => (.float x, rest)

/-! ## Values -/

/-- A value that is neither a list nor an object. -/
def scalar? (lenient : Bool) (fuel : Nat) : List Char → Option (Json × List Char)
  | '"' :: rest => (string? lenient fuel [] rest).map fun (s, after) => (.str s, after)
  | '-' :: rest => number? lenient true rest
  | 'n' :: rest => (word? ['u', 'l', 'l'] rest).map (.null, ·)
  | 't' :: rest => (word? ['r', 'u', 'e'] rest).map (.bool true, ·)
  | 'f' :: rest => (word? ['a', 'l', 's', 'e'] rest).map (.bool false, ·)
  | cs => number? lenient false cs

/-- Stops within an item of a list; `taken` are those before it, last first. -/
def stopInItem {α : Type} (taken : List Json) (b : Break) : Except Break α :=
  match b.seen with
  | none => stopIn (.arr taken.reverse)
  | some item => .error { b with
      seen := some (.arr (taken.reverse ++ [item]))
      trail := taken.length :: b.trail }

/-- Stops within a member whose name was read; `taken` are those before it, last first. -/
def stopInMember {α : Type} (taken : List (String × Json)) (name : String) (b : Break) :
    Except Break α :=
  .error {
    seen := some (.obj (taken.reverse ++ [(name, b.seen.getD .null)]))
    trail := taken.length :: b.trail
    ending := if b.seen.isSome then b.ending else .nameOnly }

/-- Whether containers may be nested one deeper than `depth`. -/
def mayNest (limit : Option Nat) (outline : Outline) (depth : Nat) : Bool :=
  match limit with
  | some most => outline.isNothing || depth < most
  | none => true

mutual
/-- One value.  `depth` is the number of containers around it. -/
def value (limit : Option Nat) (outline : Outline) (depth : Nat) (cs : List Char) :
    Nat → Scan Json
  | 0 => stop
  | fuel + 1 =>
    match skipSpace cs with
    | '[' :: rest =>
      if mayNest limit outline depth then
        match skipSpace rest with
        | ']' :: after => .ok (.arr [], after)
        | inner => items limit outline (depth + 1) [] inner fuel
      else stop
    | '\x7b' :: rest =>
      if mayNest limit outline depth then
        match skipSpace rest with
        | '\x7d' :: after => .ok (.obj [], after)
        | inner => members limit outline (depth + 1) [] inner fuel
      else stop
    | inner =>
      match scalar? outline.isNothing inner.length inner with
      | some (j, after) => .ok (j, after)
      | none => stop

/-- The items of a list from one on; `taken` are those before it, last first. -/
def items (limit : Option Nat) (outline : Outline) (depth : Nat) (taken : List Json)
    (cs : List Char) : Nat → Scan Json
  | 0 => stop
  | fuel + 1 =>
    match value limit (outline.item taken.length) depth cs fuel with
    | .error b => stopInItem taken b
    | .ok (item, after) =>
      match skipSpace after with
      | ',' :: rest => items limit outline depth (item :: taken) rest fuel
      | ']' :: rest => .ok (.arr (item :: taken).reverse, rest)
      | _ => stopIn (.arr (item :: taken).reverse)

/-- The members of an object from one on; `taken` are those before it, last first. -/
def members (limit : Option Nat) (outline : Outline) (depth : Nat)
    (taken : List (String × Json)) (cs : List Char) : Nat → Scan Json
  | 0 => stop
  | fuel + 1 =>
    match skipSpace cs with
    | '"' :: rest =>
      match string? outline.isNothing rest.length [] rest with
      -- a name that breaks off leaves no trace of its member
      | none => stopIn (.obj taken.reverse)
      | some (name, after) =>
        match skipSpace after with
        | ':' :: inner =>
          match value limit (outline.member name) depth inner fuel with
          | .error b => stopInMember taken name b
          | .ok (held, after) =>
            let taken := (name, held) :: taken
            match skipSpace after with
            | ',' :: rest => members limit outline depth taken rest fuel
            | '\x7d' :: rest => .ok (.obj taken.reverse, rest)
            | _ => stopIn (.obj taken.reverse)
        | _ => stopInMember taken name ⟨none, [], .container⟩
    | _ => stopIn (.obj taken.reverse)
end

end Reader

def read (options : ReadOptions) (s : String) : Reading :=
  let cs := s.toList
  -- each value takes two rounds at most and at least one character
  match Reader.value options.depthLimit options.outline 0 cs (2 * cs.length + 2) with
  | .error b => .cut b
  | .ok (j, after) => if (Reader.skipSpace after).isEmpty then .whole j else .followed j

end Json
end EventRewards
