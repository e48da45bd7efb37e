import EventRewards.Http.Message

/-!
# Media types

Whether a `content-type` says that a body is JSON: the type `application` with the subtype `json`,
or with the suffix `json` after a plus sign, and parameters in their grammar.
-/

namespace EventRewards
namespace Http

def isTokenChar (c : Char) : Bool :=
  c.isAlphanum || "!#$%&'*+-.^_|~".toList.contains c || c.toNat = 0x60

/-- How far a parameter has been read. -/
inductive ParameterState where
  | beforeName
  | inName
  | atValue
  | inValue
  | atQuoted
  | inQuoted
  | afterQuoted
  deriving DecidableEq

namespace ParameterState

def next (state : ParameterState) (c : Char) : Option ParameterState :=
  match state with
  | .beforeName =>
    if c = ' ' then some .beforeName else if isTokenChar c then some .inName else none
  | .inName => if c = '=' then some .atValue else if isTokenChar c then some .inName else none
  | .atValue => if c = '"' then some .atQuoted else if isTokenChar c then some .inValue else none
  | .inValue => if c = ';' then some .beforeName else if isTokenChar c then some .inValue else none
  | .atQuoted => if isVisible c && c ≠ '\t' then some .inQuoted else none
  | .inQuoted =>
    if c = '"' then some .afterQuoted else if isVisible c && c ≠ '\t' then some .inQuoted else none
  | .afterQuoted =>
    if c = ';' then some .beforeName else if c = ' ' then some .afterQuoted else none

def mayEnd : ParameterState → Bool
  | .beforeName | .atValue | .inValue | .afterQuoted => true
  | .inName | .atQuoted | .inQuoted => false

end ParameterState

/-- Whether what follows the first semicolon is a list of parameters. -/
def areParameters (cs : List Char) : Bool :=
  match cs.foldlM ParameterState.next .beforeName with
  | some state => state.mayEnd
  | none => false

/-- A subtype and its suffix, the part after the last plus sign that is not its first character. -/
def splitSuffix (subtype : List Char) : List Char × Option (List Char) :=
  -- without a plus sign the suffix is the whole subtype
  let suffix := (subtype.reverse.takeWhile (· ≠ '+')).reverse
  let before := subtype.take (subtype.length - suffix.length - 1)
  if suffix.length < subtype.length && !before.isEmpty then (before, some suffix)
  else (subtype, none)

def isJsonType (s : String) : Bool :=
  let (type, afterSlash) := Text.splitFirst '/' s.toList
  match afterSlash with
  | none => false
  | some rest =>
    let (subtype, parameters) := Text.splitFirst ';' rest
    let (name, suffix) := splitSuffix (lowerAscii subtype)
    subtype.all isTokenChar && parameters.all areParameters &&
      lowerAscii type = "application".toList &&
      (name = "json".toList || suffix = some "json".toList)

end Http
end EventRewards
