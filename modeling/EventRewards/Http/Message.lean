import EventRewards.Json.Basic
import EventRewards.Text.Blank

/-!
# HTTP messages

Requests and responses as far as the service looks at them.  A refusal has a text as its body, the
wording of which is left open.
-/

namespace EventRewards
namespace Http

structure Request where
  method : String
  /-- The path with its query, perhaps after the scheme and the authority of a whole address. -/
  target : String
  headers : List (String × String)
  body : Option String

inductive Content where
  | none
  | json (value : Json)
  | refusal

structure Response where
  status : Nat
  content : Content
  /-- The origins that browsers may use the response from; none where the value is not readable. -/
  allowOrigin : Option String

def lowerAscii (cs : List Char) : List Char :=
  cs.map Char.toLower

/-- A character that a readable header value may hold. -/
def isVisible (c : Char) : Bool :=
  c = '\t' || (0x20 ≤ c.toNat && c.toNat < 0x7F)

namespace Request

/-- The first value of a header, letter case of names aside; none where it is not readable. -/
def header? (r : Request) (name : String) : Option String :=
  let matching := r.headers.find? fun (key, _) => lowerAscii key.toList = name.toList
  (matching.map (·.2)).filter (·.toList.all isVisible)

/-- A character of a scheme.  Any number of them makes a scheme, whichever comes first. -/
def isSchemeChar (c : Char) : Bool :=
  c.isAlphanum || "+-.~".toList.contains c

def withoutOrigin (address : List Char) : List Char :=
  match address.dropWhile isSchemeChar with
  | ':' :: '/' :: '/' :: rest => rest.dropWhile fun c => c ≠ '/' && c ≠ '?'
  | _ => address

/-- The path and the query of the target, without a fragment. -/
def location (r : Request) : List Char :=
  withoutOrigin (r.target.toList.takeWhile (· ≠ '#'))

def path (r : Request) : List Char :=
  (Text.splitFirst '?' r.location).1

def query (r : Request) : List Char :=
  (Text.splitFirst '?' r.location).2.getD []

end Request
end Http
end EventRewards
