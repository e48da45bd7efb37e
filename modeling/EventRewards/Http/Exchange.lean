import EventRewards.Http.Message
import EventRewards.Json.Decode

/-!
# Requests and responses as JSON

The form in which a host program hands requests over and takes responses back.
-/

namespace EventRewards
namespace Http

namespace Request

def decodeHeaders : Decoder (List (String × String)) := fun j => do
  let members ← Json.asMembers j
  members.mapM fun (name, value) => return (name, ← Json.asText value)

open Json in
def fields : List Field :=
  [field "method" asText, field "target" asText, optionalField "headers" decodeHeaders,
    optionalField "body" (nullable asText)]

def decode : Decoder Request := fun j => do
  let r ← Json.record "Request" fields j
  return {
    method := ← r.get "method" Json.asText
    target := ← r.get "target" Json.asText
    headers := (← r.get? "headers" decodeHeaders).getD []
    body := ← r.getOption "body" Json.asText }

end Request

namespace Content

def refusalText (status : Nat) : String :=
  match status with
  | 415 => "the body must be JSON"
  | 422 => "the body is not of the form that is asked for"
  | _ => "the request cannot be read"

def toJson (status : Nat) : Content → Json
  | .none => .null
  | .json j => j
  | .refusal => .str (refusalText status)

end Content

def Response.toJson (r : Response) : Json :=
  .obj [("status", .int r.status), ("body", r.content.toJson r.status),
    ("allowOrigin", (r.allowOrigin.map Json.str).getD .null)]

end Http
end EventRewards
