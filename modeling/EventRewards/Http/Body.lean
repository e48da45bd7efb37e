import EventRewards.Http.MediaType
import EventRewards.Hub.Event
import EventRewards.Hub.Inputs
import EventRewards.Json.Reader

/-!
# Bodies of requests

A body is JSON text of a known form.  It is malformed when it is no JSON, and unfit when it is JSON
of another form.  Of two faults the first in the text counts; so where the text breaks off being
JSON, what was read before is decoded as far as it goes, and a fault counts if it showed by then.
-/

namespace EventRewards
namespace Http

inductive BodyFault where
  | notJson
  | tooLong
  | malformed
  | unfit
  deriving DecidableEq, Repr

def BodyFault.status : BodyFault → Nat
  | .notJson => 415
  | .tooLong => 413
  | .malformed => 400
  | .unfit => 422

/-- A form of body: which parts of it are looked at, and how it is read. -/
structure BodyForm (α : Type) where
  outline : Json.Outline
  decode : Decoder α

/-- How many bytes a body may have. -/
def bodyLimit : Nat := 2097152

/-- How many containers may be nested in a body. -/
def bodyDepth : Nat := 127

/-- The fault that a decoding error amounts to.  An enumeration that is neither a text nor an
object, more members in such an object than the first, and items left over in an array are taken
for malformed text. -/
def faultOf (e : DecodeError) : BodyFault :=
  match e.cause with
  | .notEnumeration _ => .malformed
  | .notSingleKey firstFits => if firstFits then .malformed else .unfit
  | .tooManyItems _ => .malformed
  | _ => .unfit

/-- Whether a fault of a container shows before all of the container is read. -/
def showsEarly : DecodeError → Bool
  | .wrongType .. => true
  | .duplicateField _ => true
  | .unknownVariant .. => true
  | .notSingleKey firstFits => !firstFits
  | _ => false

/-- The fault that a decoding error of what was read amounts to, where the text breaks off.  It
counts if it lies in a part that was read whole or shows early. -/
def faultAt (b : Json.Break) (e : DecodeError) : BodyFault :=
  -- off the way to the break, everything was read
  if !e.trail.isPrefixOf b.trail then faultOf e
  -- the null that stands for a value not read is not to blame
  else if e.trail = b.trail && b.ending = .nameOnly then .malformed
  else if showsEarly e.cause then faultOf e
  else .malformed

def readText {α : Type} (form : BodyForm α) (text : String) : Except BodyFault α :=
  match Json.read ⟨some bodyDepth, form.outline⟩ text with
  | .whole j => (form.decode j).mapError faultOf
  -- what is wrong with the value itself is found before the text after it
  | .followed j =>
    match form.decode j with
    | .error e => .error (faultOf e)
    | .ok _ => .error .malformed
  | .cut b =>
    match b.seen.map form.decode with
    | some (.error e) => .error (faultAt b e)
    | _ => .error .malformed

/-- Reads the body of a request, which has to be marked as JSON.  A missing body is an empty one. -/
def Request.readBody {α : Type} (r : Request) (form : BodyForm α) : Except BodyFault α :=
  let text := r.body.getD ""
  if !(r.header? "content-type").any isJsonType then .error .notJson
  else if bodyLimit < text.utf8ByteSize then .error .tooLong
  else readText form text

/-! ## The forms -/

namespace BodyForm

open Json

def anything : BodyForm Json :=
  ⟨.everything, fun j => .ok j.canonical⟩

def rewardsOutline : Outline :=
  .list (.ofFields Reward.fields [])

/-- The outline of a condition: its nodes are looked at with everything in them. -/
def treeOutline : Outline :=
  .record [("operator", .everything), ("conditions", .everything)]

def eventParts : List (String × Outline) :=
  [("condition", treeOutline), ("rewards", rewardsOutline)]

def newDefinition : BodyForm NewDefinition :=
  ⟨.ofFields NewDefinition.fields [], NewDefinition.decode⟩

def newLog : BodyForm NewLog :=
  ⟨.ofFields NewLog.fields [], NewLog.decode⟩

def newEvent : BodyForm NewEvent :=
  ⟨.ofFields NewEvent.fields eventParts, NewEvent.decode⟩

def eventChange : BodyForm EventChange :=
  ⟨.ofFields EventChange.fields eventParts, EventChange.decode⟩

def rewards : BodyForm (List (Draft Reward)) :=
  ⟨rewardsOutline, Reward.decodeList⟩

def rejectionFields : List Field :=
  [optionalField "reason" (nullable asText)]

/-- The reason of a rejection, which may be missing. -/
def rejection : BodyForm (Option String) where
  outline := .ofFields rejectionFields []
  decode j := do
    let r ← Json.record "RejectBody" rejectionFields j
    r.getOption "reason" asText

end BodyForm
end Http
end EventRewards
